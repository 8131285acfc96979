import NewApi.Archive.Accounts
import NewApi.Lib.Holdings

/-! What each statement and transaction on the archive queue does to the claims of its jobs. -/
namespace NewApi.Archive
open List Bool Holdings Keyed Programs Runs Threads GoStrings
open RequestArchiveJob (isCandidate waiting isHeldAs isMatch isLeaseOf leaseExpired isPending)

/-- A row that an update of claimed or settled jobs may write: its claim stays or ends. -/
structure Succeeds (row row' : RequestArchiveJob) : Prop where
  id : row'.id=row.id
  byteSize : row'.byteSize=row.byteSize
  claimVersion : row'.claimVersion=row.claimVersion
  claim : (row'.status=row.status ∧ row'.workerId=row.workerId) ∨
    (row'.status≠.queued ∧ row'.status≠.processing ∧ row'.workerId="")

theorem Succeeds.refl (row : RequestArchiveJob) : Succeeds row row := ⟨rfl,rfl,rfl,.inl ⟨rfl,rfl⟩⟩

theorem Succeeds.trans {a b c : RequestArchiveJob} (hab : Succeeds a b) (hbc : Succeeds b c) : Succeeds a c := by
  refine ⟨hbc.id.trans hab.id,hbc.byteSize.trans hab.byteSize,hbc.claimVersion.trans hab.claimVersion,?_⟩
  rcases hbc.claim with ⟨hstatus,hworker⟩ | hends
  · rcases hab.claim with ⟨hstatus',hworker'⟩ | ⟨hqueued,hprocessing,hfree⟩
    · exact .inl ⟨hstatus.trans hstatus',hworker.trans hworker'⟩
    · exact .inr ⟨hstatus ▸ hqueued,hstatus ▸ hprocessing,hworker.trans hfree⟩
  · exact .inr hends

/-- A step that gives out no job and no claim, and keeps the counters right. -/
structure Quiet (s s' : ArchiveState) : Prop where
  ids : (s'.jobs.map RequestArchiveJob.id).Sublist (s.jobs.map RequestArchiveJob.id)
  rows : ∀ row'∈s'.jobs, ∃ row∈s.jobs, Succeeds row row'
  nextId : s'.nextId=s.nextId
  holds : s'.holds=s.holds
  accounts : Accounts s → Accounts s'

theorem Quiet.refl (s : ArchiveState) : Quiet s s := ⟨List.Sublist.refl _,fun row h => ⟨row,h,.refl row⟩,rfl,rfl,id⟩

theorem Quiet.trans {a b c : ArchiveState} (hab : Quiet a b) (hbc : Quiet b c) : Quiet a c := by
  refine ⟨hbc.ids.trans hab.ids,fun row hrow => ?_,hbc.nextId.trans hab.nextId,hbc.holds.trans hab.holds,hbc.accounts ∘ hab.accounts⟩
  obtain ⟨row',hrow',hsucceeds⟩ := hbc.rows row hrow
  obtain ⟨row'',hrow'',hsucceeds'⟩ := hab.rows row' hrow'
  exact ⟨row'',hrow'',hsucceeds'.trans hsucceeds⟩

theorem Quiet.foldl {ι α : Type} {step : ArchiveState×α → ι → ArchiveState×α} (hstep : ∀ acc i, Quiet acc.1 (step acc i).1)
    (l : List ι) (acc : ArchiveState×α) : Quiet acc.1 (l.foldl step acc).1 := by
  induction l generalizing acc with
  | nil => exact .refl _
  | cons i rest ih => exact (hstep acc i).trans (ih _)

section Updates
variable {s : ArchiveState} {select : RequestArchiveJob → Bool} {edit : RequestArchiveJob → RequestArchiveJob}

theorem succeeds_update (hedit : ∀ row, select row=true → Succeeds row (edit row)) :
    ((s.update select edit).jobs.map RequestArchiveJob.id).Sublist (s.jobs.map RequestArchiveJob.id) ∧
      ∀ row'∈(s.update select edit).jobs, ∃ row∈s.jobs, Succeeds row row' := by
  have hsucceeds : ∀ row, Succeeds row (if select row then edit row else row) := fun row => by
    by_cases hrow : select row=true
    · rw [if_pos hrow]
      exact hedit row hrow
    · rw [if_neg hrow]
      exact .refl row
  refine ⟨?_,fun row' hrow' => ?_⟩
  · rw [ArchiveState.update,map_map]
    exact (map_congr_left fun row _ => (hsucceeds row).id).symm ▸ List.Sublist.refl _
  · obtain ⟨row,hrow,rfl⟩ := mem_map.mp hrow'
    exact ⟨row,hrow,hsucceeds row⟩

theorem Quiet.update (hedit : ∀ row, select row=true → Succeeds row (edit row))
    (hactive : ∀ row, select row=true → (edit row).status.active=row.status.active) : Quiet s (s.update select edit) :=
  ⟨(succeeds_update hedit).1,(succeeds_update hedit).2,rfl,rfl,fun h =>
    h.update fun row hrow => ⟨hactive row hrow,(hedit row hrow).byteSize⟩⟩

theorem update_none (h : s.jobs.filter select=[]) : s.update select edit=s := by
  have hrows : (s.jobs.map fun row => if select row then edit row else row)=s.jobs := by
    refine (map_congr_left fun row hrow => ?_).trans (map_id _)
    exact if_neg (filter_eq_nil_iff.mp h row hrow)
  rw [ArchiveState.update,hrows]

end Updates

/-- The invariant of the queue. Where the reads of the claims are undisturbed, no two of the jobs in `holds` are one claim. -/
structure Sound (fenced : Prop) (s : ArchiveState) : Prop where
  ids : Unique RequestArchiveJob.id s.jobs
  id_lt : ∀ row∈s.jobs, row.id<s.nextId
  size : ∀ row∈s.jobs, 0≤row.byteSize
  accounts : Accounts s
  worker : ∀ row∈s.jobs, row.status=.processing → isBlank row.workerId=false
  free : ∀ row∈s.jobs, row.status≠.queued → row.status≠.processing → row.workerId=""
  held_lt : ∀ h∈s.holds, h.id<s.nextId
  held : ∀ h∈s.holds, ∀ row∈s.jobs, row.id=h.id → row.byteSize=h.byteSize ∧ h.claimVersion≤row.claimVersion
  single : fenced → s.holds.Pairwise fun a b => a.id=b.id → a.claimVersion=b.claimVersion →
    isBlank a.workerId=true ∨ isBlank b.workerId=true

structure Token where
  id : Int
  claimVersion : Int

inductive Stake where
  | claimed (token : Token)
  | copy (job : RequestArchiveJob)

structure Token.Held (fenced : Prop) (token : Token) (s : ArchiveState) : Prop where
  id_lt : token.id<s.nextId
  rows : ∀ row∈s.jobs, row.id=token.id → token.claimVersion≤row.claimVersion ∧ row.status≠.queued
  unread : fenced → ∀ h∈s.holds, h.id=token.id → h.claimVersion=token.claimVersion → isBlank h.workerId=true

def Knows (fenced : Prop) : Option Stake → ArchiveState → Prop
  | none, _ => True
  | some (.claimed token), s => token.Held fenced s
  | some (.copy job), s => ∃ h∈s.holds, h.id=job.id ∧ h.byteSize=job.byteSize

def Distinct : Option Stake → Option Stake → Prop
  | some (.claimed a), some (.claimed b) => ¬(a.id=b.id ∧ a.claimVersion=b.claimVersion)
  | _, _ => True

def ArchiveOp.reads : ArchiveOp → Option RequestArchiveJobCandidate
  | .readClaimed candidate _ => some candidate
  | _ => none

/-- The read of a claim finds the row as its call has left it, or no longer claimed. -/
def Undisturbed (s : ArchiveState) (c : ArchiveChoice) (op : ArchiveOp) : Prop :=
  ∀ candidate∈op.reads, c.fails=true ∨
    ∀ row∈Keyed.lookup RequestArchiveJob.id candidate.id s.jobs, row.status=.processing → row.claimVersion=candidate.claimVersion+1

instance (s : ArchiveState) (c : ArchiveChoice) (op : ArchiveOp) : Decidable (Undisturbed s c op) :=
  inferInstanceAs (Decidable (∀ candidate∈op.reads, _))

section Steps
variable {fenced : Prop} {s s' : ArchiveState}

theorem Quiet.sound (h : Quiet s s') (hs : Sound fenced s) : Sound fenced s' where
  ids := hs.ids.sublist h.ids
  id_lt row' hrow' := by
    obtain ⟨row,hrow,hsucceeds⟩ := h.rows row' hrow'
    rw [hsucceeds.id,h.nextId]
    exact hs.id_lt row hrow
  size row' hrow' := by
    obtain ⟨row,hrow,hsucceeds⟩ := h.rows row' hrow'
    rw [hsucceeds.byteSize]
    exact hs.size row hrow
  accounts := h.accounts hs.accounts
  worker row' hrow' hprocessing := by
    obtain ⟨row,hrow,hsucceeds⟩ := h.rows row' hrow'
    rcases hsucceeds.claim with ⟨hstatus,hworker⟩ | ⟨-,hends,-⟩
    · rw [hworker]
      exact hs.worker row hrow (hstatus.symm.trans hprocessing)
    · exact absurd hprocessing hends
  free row' hrow' hqueued hprocessing := by
    obtain ⟨row,hrow,hsucceeds⟩ := h.rows row' hrow'
    rcases hsucceeds.claim with ⟨hstatus,hworker⟩ | ⟨-,-,hfree⟩
    · rw [hworker]
      exact hs.free row hrow (hstatus ▸ hqueued) (hstatus ▸ hprocessing)
    · exact hfree
  held_lt := by
    rw [h.holds,h.nextId]
    exact hs.held_lt
  held held hheld row' hrow' hid := by
    obtain ⟨row,hrow,hsucceeds⟩ := h.rows row' hrow'
    rw [h.holds] at hheld
    rw [hsucceeds.byteSize,hsucceeds.claimVersion]
    exact hs.held held hheld row hrow (hsucceeds.id.symm.trans hid)
  single := by
    rw [h.holds]
    exact hs.single

variable {stake : Option Stake}

theorem Quiet.knows (h : Quiet s s') (hstake : Knows fenced stake s) : Knows fenced stake s' := by
  match stake, hstake with
  | none, _ => trivial
  | some (.claimed token), hstake =>
    refine ⟨h.nextId ▸ hstake.id_lt,fun row' hrow' hid => ?_,h.holds ▸ hstake.unread⟩
    obtain ⟨row,hrow,hsucceeds⟩ := h.rows row' hrow'
    obtain ⟨hversion,hqueued⟩ := hstake.rows row hrow (hsucceeds.id.symm.trans hid)
    refine ⟨hsucceeds.claimVersion ▸ hversion,?_⟩
    rcases hsucceeds.claim with ⟨hstatus,-⟩ | ⟨hends,-,-⟩
    · exact hstatus ▸ hqueued
    · exact hends
  | some (.copy job), hstake =>
    rw [Knows,h.holds]
    exact hstake

theorem Quiet.passes (h : Quiet s s') (hs : Sound fenced s) (hstake : Knows fenced stake s) :
    Passes (Sound fenced) (fun _ _ => True) (Knows fenced) Distinct stake stake s s' :=
  ⟨h.sound hs,trivial,h.knows hstake,fun _ hk hapart => ⟨h.knows hk,hapart⟩⟩

variable {job row : RequestArchiveJob} {now : Int}

theorem enqueue_ok (h : s.enqueue job now=.ok s') : s'={ s with
      queue := { s.queue with activeCount := s.queue.activeCount+1, activeBytes := s.queue.activeBytes+job.byteSize }
      jobs := s.jobs++[{ job with id := s.nextId, status := .queued, nextAttemptAt := unix now }]
      nextId := s.nextId+1 } ∧
    s.queue.activeCount<s.config.queueCapacity ∧ s.queue.activeBytes ≤ s.config.queueMaxBytes-job.byteSize := by
  rw [ArchiveState.enqueue] at h
  dsimp only at h
  split at h
  · cases h
  split at h
  · cases h
  split at h
  · cases h
  split at h
  · cases h
  split at h
  next hroom =>
    split at h
    · cases h
    · cases h
      exact ⟨rfl,hroom⟩
  next => cases h

theorem append_passes {queue : RequestArchiveQueueState} (hid : row.id=s.nextId) (hqueued : row.status=.queued)
    (hsize : 0≤row.byteSize) (haccounts : Accounts { s with queue, jobs := s.jobs++[row], nextId := s.nextId+1 })
    (hs : Sound fenced s) :
    Passes (Sound fenced) (fun _ _ => True) (Knows fenced) Distinct none none s
      { s with queue, jobs := s.jobs++[row], nextId := s.nextId+1 } := by
  have hnew : ∀ row'∈s.jobs++[row], row'∈s.jobs ∨ row'=row := fun row' hrow' =>
    (mem_append.mp hrow').imp_right mem_singleton.mp
  have hfresh : Keyed.lookup RequestArchiveJob.id row.id s.jobs=none :=
    lookup_eq_none.mpr fun row' hrow' => Int.ne_of_lt (hid ▸ hs.id_lt row' hrow')
  have hlt : ∀ {id : Int}, id<s.nextId → id<s.nextId+1 := fun h => Int.lt_add_one_of_le (Int.le_of_lt h)
  refine ⟨{ ids := hs.ids.append hfresh, id_lt := ?_, size := ?_, accounts := haccounts, worker := ?_, free := ?_,
            held_lt := fun held hheld => hlt (hs.held_lt held hheld), held := ?_, single := hs.single },
    trivial,trivial,fun k hk hapart => ⟨?_,trivial⟩⟩
  · intro row' hrow'
    rcases hnew row' hrow' with hrow' | rfl
    · exact hlt (hs.id_lt row' hrow')
    · exact hid ▸ Int.lt_add_one_of_le (Int.le_refl _)
  · intro row' hrow'
    rcases hnew row' hrow' with hrow' | rfl
    · exact hs.size row' hrow'
    · exact hsize
  · intro row' hrow' hprocessing
    rcases hnew row' hrow' with hrow' | rfl
    · exact hs.worker row' hrow' hprocessing
    · cases hqueued.symm.trans hprocessing
  · intro row' hrow' hqueued'
    rcases hnew row' hrow' with hrow' | rfl
    · exact hs.free row' hrow' hqueued'
    · exact absurd hqueued hqueued'
  · intro held hheld row' hrow' hid'
    rcases hnew row' hrow' with hrow' | rfl
    · exact hs.held held hheld row' hrow' hid'
    · exact absurd (hid'.symm.trans hid) (Int.ne_of_lt (hs.held_lt held hheld))
  · match k, hk with
    | none, _ => trivial
    | some (.claimed token), hk =>
      refine ⟨hlt hk.id_lt,fun row' hrow' hid' => ?_,hk.unread⟩
      rcases hnew row' hrow' with hrow' | rfl
      · exact hk.rows row' hrow' hid'
      · exact absurd (hid'.symm.trans hid) (Int.ne_of_lt hk.id_lt)
    | some (.copy job), hk => exact hk

theorem enqueue_passes (h : s.enqueue job now=.ok s') (hsize : 0≤job.byteSize) (hs : Sound fenced s) :
    Passes (Sound fenced) (fun _ _ => True) (Knows fenced) Distinct none none s s' := by
  obtain ⟨rfl,-⟩ := enqueue_ok h
  refine append_passes rfl rfl hsize ?_ hs
  have hcount := hs.accounts.count
  have hbytes := hs.accounts.bytes
  rw [activeCount_eq] at hcount
  rw [activeBytes_eq] at hbytes
  refine ⟨?_,?_,hs.accounts.unclamped⟩
  · rw [activeCount_eq,map_append,sum_append,← hcount]
    rfl
  · rw [activeBytes_eq,map_append,sum_append,← hbytes]
    simp [RequestArchiveJob.load,JobStatus.active]

variable {candidate : RequestArchiveJobCandidate}

theorem isCandidate_spec (h : row.isCandidate candidate now=true) :
    row.id=candidate.id ∧ row.waiting=true ∧ row.claimVersion=candidate.claimVersion := by
  simp only [isCandidate,and_eq_true,decide_eq_true_eq] at h
  exact ⟨h.1.1.1.1.1,h.1.1.1.1.2,h.1.1.1.2⟩

theorem claim_passes {workerId : String} {lease : Int} (hworker : isBlank workerId=false)
    (hs : Sound fenced s) (hone : s.affected (·.isCandidate candidate now)=1) :
    Passes (Sound fenced) (fun _ _ => True) (Knows fenced) Distinct none (some (.claimed ⟨candidate.id,candidate.claimVersion+1⟩)) s
      (s.claim candidate workerId lease now) := by
  obtain ⟨claimed,hclaimed⟩ := length_eq_one_iff.mp hone
  obtain ⟨hmem,hcandidate⟩ := mem_filter.mp (hclaimed ▸ mem_singleton_self claimed)
  obtain ⟨hid,hwaiting,hversion⟩ := isCandidate_spec hcandidate
  have honly : ∀ row∈s.jobs, row.id=candidate.id → row=claimed := fun row hrow hrowId => by
    have hlookup := lookup_of_mem hs.ids hrow
    rw [hrowId,← hid,lookup_of_mem hs.ids hmem,Option.some.injEq] at hlookup
    exact hlookup.symm
  -- A row after the claim is another job's, or the claimed one.
  have hrows : ∀ row'∈(s.claim candidate workerId lease now).jobs, (row'∈s.jobs ∧ row'.id≠candidate.id) ∨
      row' = { claimed with status := .processing, workerId, leaseUntil := unix (now+lease), claimVersion := claimed.claimVersion+1
                            attempts := claimed.attempts+1 } := by
    intro row' hrow'
    obtain ⟨row,hrow,rfl⟩ := mem_map.mp hrow'
    by_cases hrowId : row.id=candidate.id
    · rw [honly row hrow hrowId,if_pos hcandidate]
      exact .inr rfl
    · rw [if_neg fun h => hrowId (isCandidate_spec h).1]
      exact .inl ⟨hrow,hrowId⟩
  have hfirst : ∀ held∈s.holds, held.id=candidate.id → held.claimVersion≤candidate.claimVersion := fun held hheld hheldId =>
    hversion ▸ (hs.held held hheld claimed hmem (hid.trans hheldId.symm)).2
  refine ⟨{ ids := ?_, id_lt := ?_, size := ?_, accounts := ?_, worker := ?_, free := ?_, held_lt := hs.held_lt, held := ?_,
            single := hs.single },trivial,⟨hid ▸ hs.id_lt claimed hmem,?_,?_⟩,fun k hk _ => ?_⟩
  · have hids : (s.claim candidate workerId lease now).jobs.map RequestArchiveJob.id=s.jobs.map RequestArchiveJob.id := by
      rw [ArchiveState.claim,ArchiveState.update,map_map]
      refine map_congr_left fun row _ => ?_
      rw [Function.comp_apply]
      split <;> rfl
    rw [Keyed.Unique,hids]
    exact hs.ids
  · intro row' hrow'
    rcases hrows row' hrow' with ⟨hrow',-⟩ | rfl
    · exact hs.id_lt row' hrow'
    · exact hs.id_lt claimed hmem
  · intro row' hrow'
    rcases hrows row' hrow' with ⟨hrow',-⟩ | rfl
    · exact hs.size row' hrow'
    · exact hs.size claimed hmem
  · refine hs.accounts.update fun row hrow => ⟨?_,rfl⟩
    have hrowWaiting := (isCandidate_spec hrow).2.1
    simp only [waiting,or_eq_true,decide_eq_true_eq] at hrowWaiting
    rcases hrowWaiting with h | h <;> rw [h] <;> rfl
  · intro row' hrow' hprocessing
    rcases hrows row' hrow' with ⟨hrow',-⟩ | rfl
    · exact hs.worker row' hrow' hprocessing
    · exact hworker
  · intro row' hrow' hqueued hprocessing
    rcases hrows row' hrow' with ⟨hrow',-⟩ | rfl
    · exact hs.free row' hrow' hqueued hprocessing
    · exact absurd rfl hprocessing
  · intro held hheld row' hrow' hheldId
    rcases hrows row' hrow' with ⟨hrow',-⟩ | rfl
    · exact hs.held held hheld row' hrow' hheldId
    obtain ⟨hsize,hle⟩ := hs.held held hheld claimed hmem hheldId
    exact ⟨hsize,Int.le_add_one hle⟩
  · intro row' hrow' hrowId
    rcases hrows row' hrow' with ⟨-,hne⟩ | rfl
    · exact absurd hrowId hne
    · exact ⟨by dsimp only; omega,by simp⟩
  · intro _ held hheld hheldId hheldVersion
    have hle := hfirst held hheld hheldId
    dsimp only at hheldVersion
    omega
  · cases k with
    | none => exact ⟨trivial,trivial⟩
    | some known =>
      cases known with
      | copy job => exact ⟨hk,trivial⟩
      | claimed token =>
        refine ⟨⟨hk.id_lt,fun row' hrow' hrowId => ?_,hk.unread⟩,fun htoken => ?_⟩
        · rcases hrows row' hrow' with ⟨hrow',-⟩ | rfl
          · exact hk.rows row' hrow' hrowId
          have hle := (hk.rows claimed hmem hrowId).1
          exact ⟨Int.le_add_one hle,by simp⟩
        · obtain ⟨htoken,htokenVersion⟩ := htoken
          have hle := (hk.rows claimed hmem (hid.trans htoken)).1
          dsimp only at htokenVersion
          omega

theorem readClaimed_passes (hread : Keyed.lookup RequestArchiveJob.id candidate.id s.jobs=some row)
    (hok : fenced → row.status=.processing → row.claimVersion=candidate.claimVersion+1) (hs : Sound fenced s)
    (htoken : Token.Held fenced ⟨candidate.id,candidate.claimVersion+1⟩ s) :
    Passes (Sound fenced) (fun _ _ => True) (Knows fenced) Distinct (some (.claimed ⟨candidate.id,candidate.claimVersion+1⟩))
      (some (.copy row)) s { s with holds := s.holds++[row] } := by
  obtain ⟨hmem,hid⟩ := lookup_some hread
  -- A row that is not claimed has no worker's name.
  have hblank : row.status≠.processing → isBlank row.workerId=true := fun hprocessing => by
    rw [hs.free row hmem (htoken.rows row hmem hid).2 hprocessing]
    decide
  have hnew : ∀ held∈s.holds++[row], held∈s.holds ∨ held=row := fun held hheld =>
    (mem_append.mp hheld).imp_right mem_singleton.mp
  refine ⟨{ ids := hs.ids, id_lt := hs.id_lt, size := hs.size, accounts := ⟨hs.accounts.count,hs.accounts.bytes,hs.accounts.unclamped⟩
            worker := hs.worker, free := hs.free, held_lt := ?_, held := ?_, single := fun hf => ?_ },trivial,
    ⟨row,mem_append_right _ (mem_singleton_self row),rfl,rfl⟩,fun k hk hapart => ?_⟩
  · intro held hheld
    rcases hnew held hheld with hheld | rfl
    · exact hs.held_lt held hheld
    · exact hs.id_lt held hmem
  · intro held hheld row' hrow' hrowId
    rcases hnew held hheld with hheld | rfl
    · exact hs.held held hheld row' hrow' hrowId
    have hlookup := lookup_of_mem hs.ids hrow'
    rw [hrowId,hid,hread,Option.some.injEq] at hlookup
    rw [hlookup]
    exact ⟨rfl,Int.le_refl _⟩
  · refine pairwise_append.mpr ⟨hs.single hf,pairwise_singleton _ _,fun held hheld row' hrow' hheldId hheldVersion => ?_⟩
    obtain rfl := mem_singleton.mp hrow'
    by_cases hprocessing : row'.status=.processing
    · exact .inl (htoken.unread hf held hheld (hheldId.trans hid) (hheldVersion.trans (hok hf hprocessing)))
    · exact .inr (hblank hprocessing)
  · match k, hk with
    | none, _ => exact ⟨trivial,trivial⟩
    | some (.copy job), hk =>
      obtain ⟨held,hheld,hjob⟩ := hk
      exact ⟨⟨held,mem_append_left _ hheld,hjob⟩,trivial⟩
    | some (.claimed token), hk =>
      refine ⟨⟨hk.id_lt,hk.rows,fun hf held hheld hheldId hheldVersion => ?_⟩,trivial⟩
      rcases hnew held hheld with hheld | rfl
      · exact hk.unread hf held hheld hheldId hheldVersion
      by_cases hprocessing : held.status=.processing
      · exact absurd ⟨hid.symm.trans hheldId,(hok hf hprocessing).symm.trans hheldVersion⟩ hapart
      · exact hblank hprocessing

theorem isHeldAs_spec (h : row.isHeldAs job=true) : row.id=job.id ∧ row.status=.processing := by
  simp only [isHeldAs,and_eq_true,decide_eq_true_eq] at h
  exact ⟨h.1.1.1,h.1.1.2⟩

variable {edit : RequestArchiveJob → RequestArchiveJob}

theorem Quiet.held (hedit : ∀ row, Succeeds row (edit row))
    (hactive : ∀ row : RequestArchiveJob, row.status=.processing → (edit row).status.active=true) :
    Quiet s (s.update (·.isHeldAs job) edit) := by
  refine .update (fun row _ => hedit row) fun row hrow => ?_
  obtain ⟨-,hprocessing⟩ := isHeldAs_spec hrow
  rw [hactive row hprocessing,hprocessing]
  rfl

section
variable (hs : Sound fenced s)
include hs

theorem Quiet.finish {objectKey objectVersionID : String}
    (hcopy : Knows fenced (some (.copy job)) s) (hone : s.affected (·.isHeldAs job)=1) :
    Quiet s (s.finish job objectKey objectVersionID) := by
  obtain ⟨hids,hrows⟩ := @succeeds_update s (·.isHeldAs job) (fun row =>
      { row with status := .done, workerId := "", leaseUntil := 0, objectKey, objectVersionId := objectVersionID
                 objectVersionMode := objectVersionMode objectVersionID })
    fun row _ => ⟨rfl,rfl,rfl,.inr ⟨nofun,nofun,rfl⟩⟩
  refine ⟨hids,hrows,rfl,rfl,fun haccounts => ?_⟩
  obtain ⟨row,hrow⟩ := length_eq_one_iff.mp hone
  obtain ⟨hmem,hheld⟩ := mem_filter.mp (hrow ▸ mem_singleton_self row)
  obtain ⟨hid,hprocessing⟩ := isHeldAs_spec hheld
  obtain ⟨held,hheldMem,hheldId,hheldSize⟩ := hcopy
  have hsize : row.byteSize=job.byteSize := (hs.held held hheldMem row hmem (hid.trans hheldId.symm)).1.trans hheldSize
  have hplace : row.place=1 := by rw [RequestArchiveJob.place,hprocessing]; rfl
  have hload : row.load=job.byteSize := by rw [RequestArchiveJob.load,hprocessing,← hsize]; rfl
  have hcount : activeCount (s.finish job objectKey objectVersionID).jobs=activeCount s.jobs-1 := by
    rw [activeCount_eq,activeCount_eq,ArchiveState.finish,ArchiveState.update,sum_map_if,hrow,map_singleton,sum_singleton,
      hplace]
    rfl
  have hbytes : activeBytes (s.finish job objectKey objectVersionID).jobs=activeBytes s.jobs-job.byteSize := by
    rw [activeBytes_eq,activeBytes_eq,ArchiveState.finish,ArchiveState.update,sum_map_if,hrow,map_singleton,sum_singleton,
      hload]
    change _+(0-job.byteSize)=_
    omega
  have hleft : 0≤activeCount (s.finish job objectKey objectVersionID).jobs := Int.natCast_nonneg _
  have hleft' : 0≤activeBytes (s.finish job objectKey objectVersionID).jobs := sum_nonneg fun bytes hbytes => by
    obtain ⟨row',hrow',rfl⟩ := mem_map.mp hbytes
    obtain ⟨row,hrow,hsucceeds⟩ := hrows row' (mem_filter.mp hrow').1
    rw [hsucceeds.byteSize]
    exact hs.size row hrow
  have hnonneg := hs.size row hmem
  have hcountOld := haccounts.count
  have hbytesOld := haccounts.bytes
  have hrelease := @release_eq s.queue 1 job.byteSize (by decide) (by omega) (by omega) (by omega)
  refine ⟨?_,?_,?_⟩
  · rw [hcount,ArchiveState.finish,hrelease,hcountOld]
  · rw [hbytes,ArchiveState.finish,hrelease,hbytesOld]
  rw [ArchiveState.finish,hrelease]
  exact haccounts.unclamped

theorem Quiet.remove {r : Removal} (hr : r.Balanced s.jobs) : Quiet s (s.remove r) :=
  ⟨hr.left.map _,fun row hrow => ⟨row,hr.left.subset hrow,.refl row⟩,rfl,rfl,fun haccounts => haccounts.remove hs.size hr⟩

theorem objectRemoval_balanced {snapshots : List RequestArchiveObjectCleanupMatch}
    (hsettled : ∀ m∈snapshots, m.status=.done ∨ m.status=.failed) : (s.objectRemoval snapshots now).Balanced s.jobs := by
  have hloop : ∀ (l : List RequestArchiveObjectCleanupMatch), (∀ m∈l, m.status=.done ∨ m.status=.failed) →
      ∀ r : Removal, r.Balanced s.jobs →
        Removal.Balanced (l.foldl (fun r m => r.delete (·.isMatch m now) m.status m.byteSize) r) s.jobs := by
    intro l
    induction l with
    | nil => exact fun _ r hr => hr
    | cons m rest ih =>
      intro hl r hr
      have hmatch : ∀ row : RequestArchiveJob, row.isMatch m now=true →
          row.id=m.id ∧ row.status=m.status ∧ row.byteSize=m.byteSize := fun row hrow => by
        simp only [isMatch,and_eq_true,decide_eq_true_eq] at hrow
        exact ⟨hrow.1.1.1.1.1.1.1,hrow.1.1.1.1.1.1.2,hrow.1.1.1.1.1.2⟩
      refine ih (fun m' hm' => hl m' (mem_cons_of_mem _ hm')) _ (hr.delete hs.ids (fun row hrow => (hmatch row hrow).1)
        (hl m mem_cons_self) fun row hmem hrow => ?_)
      exact ⟨(hmatch row hrow).2.1,(hmatch row hrow).2.2,hs.size row hmem⟩
  exact hloop snapshots hsettled _ (.init s.jobs)

theorem failedRemoval_balanced {ids : List Int} : (s.failedRemoval ids now).Balanced s.jobs := by
  have hloop : ∀ l : List RequestArchiveJob, (∀ job∈l, job∈s.jobs ∧ job.status=.failed) → ∀ r : Removal, r.Balanced s.jobs →
        Removal.Balanced (l.foldl (fun r job =>
          r.delete (fun row => decide (row.id=job.id) && row.failedWithoutObject now) job.status job.byteSize) r) s.jobs := by
    intro l
    induction l with
    | nil => exact fun _ r hr => hr
    | cons job rest ih =>
      intro hl r hr
      obtain ⟨hjob,hfailed⟩ := hl job mem_cons_self
      have hid : ∀ row : RequestArchiveJob, (decide (row.id=job.id) && row.failedWithoutObject now)=true → row.id=job.id :=
        fun row hrow => of_decide_eq_true (and_eq_true_iff.mp hrow).1
      refine ih (fun job' hjob' => hl job' (mem_cons_of_mem _ hjob')) _ (hr.delete hs.ids hid (.inr hfailed) fun row hmem hrow => ?_)
      have hlookup := lookup_of_mem hs.ids hmem
      rw [hid row hrow,lookup_of_mem hs.ids hjob,Option.some.injEq] at hlookup
      exact ⟨hlookup ▸ rfl,hlookup ▸ rfl,hs.size row hmem⟩
  refine hloop _ (fun job hjob => ?_) _ (.init s.jobs)
  obtain ⟨hmem,hselect⟩ := mem_filter.mp hjob
  have hfailed := (and_eq_true_iff.mp hselect).2
  simp only [RequestArchiveJob.failedWithoutObject,and_eq_true,decide_eq_true_eq] at hfailed
  exact ⟨hmem,hfailed.1.1⟩

end

variable (acc : ArchiveState×Int)

theorem recoverOne_quiet (candidate : RequestArchiveJob) :
    Quiet acc.1 (ArchiveState.recoverOne now acc candidate).1 := by
  rw [ArchiveState.recoverOne]
  refine .update (fun row _ => ⟨rfl,rfl,rfl,.inr ?_⟩) fun row hrow => ?_
  · dsimp only
    split <;> exact ⟨nofun,nofun,rfl⟩
  · simp only [isLeaseOf,leaseExpired,and_eq_true,decide_eq_true_eq] at hrow
    rw [hrow.2.1.1]
    dsimp only
    split <;> rfl

theorem expireOne_quiet (id : Int) : Quiet acc.1 (ArchiveState.expireOne now acc id).1 := by
  rw [ArchiveState.expireOne]
  refine .update (fun row _ => ⟨rfl,rfl,rfl,.inr ⟨nofun,nofun,rfl⟩⟩) fun row hrow => ?_
  simp only [isPending,waiting,and_eq_true,or_eq_true,decide_eq_true_eq] at hrow
  rcases hrow.1.2 with h | h <;> rw [h] <;> rfl

theorem Quiet.mark {select : RequestArchiveJob → Bool} (hedit : ∀ row, Succeeds row (edit row))
    (hstatus : ∀ row, (edit row).status=row.status) : Quiet s (s.update select edit) :=
  .update (fun row _ => hedit row) fun row _ => by rw [hstatus]

theorem requireOne_fst (s s' : ArchiveState) (n : Nat) (fails : Bool) (lost : String) :
    (requireOne s s' n fails lost).1=s ∨ ((requireOne s s' n fails lost).1=s' ∧ n=1) := by
  rw [requireOne]
  split
  · exact .inl rfl
  split
  · exact .inl rfl
  next hone => exact .inr ⟨rfl,not_not.mp hone⟩

theorem tryUpdate_fst (s s' : ArchiveState) (n : Nat) (fails : Bool) :
    (tryUpdate s s' n fails).1=s ∨ (tryUpdate s s' n fails).1=s' := by
  rw [tryUpdate]
  split
  · exact .inl rfl
  · exact .inr rfl

theorem counting_fst (s s' : ArchiveState) (fails : Bool) (rows : Int) :
    (counting s s' fails rows).1=s ∨ (counting s s' fails rows).1=s' := by
  rw [counting]
  split
  · exact .inl rfl
  · exact .inr rfl

variable {fails : Bool} {n : Nat}

theorem Quiet.requireOne {lost : String} (h : n=1 → Quiet s s') :
    Quiet s (Archive.requireOne s s' n fails lost).1 := by
  rcases requireOne_fst s s' n fails lost with he | ⟨he,hone⟩ <;> rw [he]
  · exact .refl s
  · exact h hone

theorem Quiet.tryUpdate (h : Quiet s s') : Quiet s (Archive.tryUpdate s s' n fails).1 := by
  rcases tryUpdate_fst s s' n fails with he | he <;> rw [he]
  · exact .refl s
  · exact h

theorem Quiet.counting {rows : Int} (h : Quiet s s') : Quiet s (Archive.counting s s' fails rows).1 := by
  rcases counting_fst s s' fails rows with he | he <;> rw [he]
  · exact .refl s
  · exact h

end Steps

def Plain (stake : Option Stake) : ArchiveOp → Prop
  | .enqueue _ | .claim _ _ _ | .readClaimed _ _ => False
  | .finish job _ _ => ∃ job', stake=some (.copy job') ∧ job'.id=job.id ∧ job'.byteSize=job.byteSize
  | .deleteObjectJobs snapshots _ => ∀ m∈snapshots, m.status=.done ∨ m.status=.failed
  | _ => True

theorem exec_plain {fenced : Prop} {s : ArchiveState} (c : ArchiveChoice) {op : ArchiveOp} {stake : Option Stake} (hop : Plain stake op)
    (hs : Sound fenced s) (hstake : Knows fenced stake s) : Quiet s (archiveExec s c op).1 := by
  have hstays : ∀ {edit : RequestArchiveJob → RequestArchiveJob} {job : RequestArchiveJob}, (∀ row, Succeeds row (edit row)) →
      (∀ row, (edit row).status=row.status) → Quiet s (s.update (·.isHeldAs job) edit) := fun hedit hstatus =>
    .held hedit fun row hprocessing => by rw [hstatus,hprocessing]; rfl
  cases op with
  | enqueue | claim | readClaimed => cases hop
  | configure config targets =>
    rw [archiveExec]
    split
    · exact .refl s
    · exact ⟨List.Sublist.refl _,fun row h => ⟨row,h,.refl row⟩,rfl,rfl,fun h => ⟨h.count,h.bytes,h.unclamped⟩⟩
  | renew job lease => exact .requireOne fun _ => hstays (fun row => ⟨rfl,rfl,rfl,.inl ⟨rfl,rfl⟩⟩) fun _ => rfl
  | retry job next => exact .requireOne fun _ => .held (fun row => ⟨rfl,rfl,rfl,.inr ⟨nofun,nofun,rfl⟩⟩) fun _ _ => rfl
  | finish job objectKey objectVersionID =>
    obtain ⟨job',rfl,hid,hsize⟩ := hop
    refine .requireOne fun hone => .finish hs ?_ hone
    obtain ⟨held,hheld,hheldId,hheldSize⟩ := hstake
    exact ⟨held,hheld,hheldId.trans hid,hheldSize.trans hsize⟩
  | fail job => exact .requireOne fun _ => .held (fun row => ⟨rfl,rfl,rfl,.inr ⟨nofun,nofun,rfl⟩⟩) fun _ _ => rfl
  | markObjectLocation job objectKey => exact .requireOne fun _ => hstays (fun row => ⟨rfl,rfl,rfl,.inl ⟨rfl,rfl⟩⟩) fun _ => rfl
  | markObjectVersion job objectVersionID =>
    exact .requireOne fun _ => hstays (fun row => ⟨rfl,rfl,rfl,.inl ⟨rfl,rfl⟩⟩) fun _ => rfl
  | expiredLeases | expiredPending | readJob => exact .refl s
  | recover candidates now => exact .counting (.foldl recoverOne_quiet candidates (s,0))
  | expirePending ids now => exact .counting (.foldl expireOne_quiet ids (s,0))
  | markCleanupVersion | beginReconciliation | confirmAbsent =>
    exact .tryUpdate (.mark (fun row => ⟨rfl,rfl,rfl,.inl ⟨rfl,rfl⟩⟩) fun _ => rfl)
  | deleteObjectJobs snapshots now => exact .counting (.remove hs (objectRemoval_balanced hs hop))
  | deleteJobs ids now => exact .counting (.remove hs (failedRemoval_balanced hs))

end NewApi.Archive
