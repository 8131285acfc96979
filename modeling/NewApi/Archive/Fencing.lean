import NewApi.Archive.Claims

/-! The workers of the archive queue: how many of them hold a job, and what they may change. -/
namespace NewApi.Archive
open List Holdings Keyed Programs Runs Threads

section Calls
variable (fenced : Prop)

abbrev Fair (stake : Option Stake) (code : Code) : Prop :=
  Owns (Sound fenced) (fun _ _ => True) (Knows fenced) Distinct archiveExec (fun s c op => fenced → Undisturbed s c op) code stake

variable {fenced}

theorem Fair.plain {op : ArchiveOp} {stake : Option Stake} (hop : Plain stake op) {next : ArchiveAns op → Code}
    (hnext : ∀ a, Fair fenced stake (next a)) : Fair fenced stake (.call op next) := fun _ c hs hstake _ =>
  ⟨stake,(exec_plain c hop hs hstake).passes hs hstake,hnext _⟩

theorem enqueue_fair (job : RequestArchiveJob) : Fair fenced none (enqueueRequestArchiveJob job) := by
  rw [enqueueRequestArchiveJob]
  split
  · trivial
  split
  · trivial
  split
  · trivial
  split
  · trivial
  next hsize =>
    intro s c hs _ _
    refine ⟨none,?_,trivial⟩
    rw [archiveExec]
    split
    · exact (Quiet.refl s).passes hs trivial
    next s' hs' =>
      split
      · exact (Quiet.refl s).passes hs trivial
      · exact enqueue_passes hs' (by omega) hs

theorem work_fair {row : RequestArchiveJob} (tasks : List WorkerTask) {job : RequestArchiveJob} (hid : row.id=job.id)
    (hsize : row.byteSize=job.byteSize) : Fair fenced (some (.copy row)) (work tasks job) := by
  induction tasks generalizing job with
  | nil => trivial
  | cons task rest ih =>
    cases task with
    | renew lease =>
      rw [work,renewRequestArchiveJobLease]
      split
      · exact ih hid hsize
      refine .plain (by trivial) fun a => ?_
      split
      · exact ih hid hsize
      · exact ih hid hsize
    | retry time => exact .plain (by trivial) fun _ => ih hid hsize
    | finish objectKey objectVersionID =>
      rw [work,finishRequestArchiveJob]
      split
      · exact ih hid hsize
      split
      · exact ih hid hsize
      · exact .plain (by exact ⟨row,rfl,hid,hsize⟩) fun _ => ih hid hsize
    | fail => exact .plain (by trivial) fun _ => ih hid hsize
    | markObjectLocation objectKey =>
      rw [work,markRequestArchiveJobObjectLocation]
      split
      · exact ih hid hsize
      refine .plain (by trivial) fun a => ?_
      split
      · exact ih hid hsize
      · exact ih hid hsize
    | markObjectVersion objectVersionID =>
      rw [work,markRequestArchiveJobObjectVersion]
      split
      · exact ih hid hsize
      refine .plain (by trivial) fun a => ?_
      split
      · exact ih hid hsize
      · exact ih hid hsize

theorem worker_fair (workerId : String) (lease : Int) (candidate : RequestArchiveJobCandidate) (tasks : List WorkerTask) :
    Fair fenced none (archiveProgram (.worker workerId lease candidate tasks)) := by
  rw [archiveProgram,claimRequestArchiveJobCandidate]
  split
  · trivial
  next hvalid =>
    have hworker : GoStrings.isBlank workerId=false := by simpa using fun h => hvalid (.inl h)
    intro s c hs _ _
    rw [archiveExec]
    by_cases hfails : c.fails=true
    · rw [tryUpdate,if_pos hfails]
      exact ⟨none,(Quiet.refl s).passes hs trivial,trivial⟩
    rw [tryUpdate,if_neg hfails]
    by_cases hone : s.affected (·.isCandidate candidate c.clock)=1
    · refine ⟨_,claim_passes hworker hs hone,?_⟩
      rw [hone]
      intro s c hs htoken hok
      rw [archiveExec]
      split
      · exact ⟨_,(Quiet.refl s).passes hs htoken,trivial⟩
      next hfails =>
        split
        · exact ⟨_,(Quiet.refl s).passes hs htoken,trivial⟩
        next row hread =>
          refine ⟨_,readClaimed_passes hread (fun hf hprocessing => ?_) hs htoken,work_fair tasks rfl rfl⟩
          rcases hok hf candidate rfl with hfail | hrow
          · exact absurd hfail hfails
          · exact hrow row hread hprocessing
    · have hnone : s.jobs.filter (·.isCandidate candidate c.clock)=[] := by
        rcases filter_of_id hs.ids fun row hrow => (isCandidate_spec hrow).1 with h | ⟨row,h⟩
        · exact h
        · exact absurd (by rw [ArchiveState.affected,h]; rfl) hone
      rw [ArchiveState.claim,update_none hnone,beq_false_of_ne hone]
      exact ⟨none,(Quiet.refl s).passes hs trivial,trivial⟩

theorem snapshotRefusal_none {snapshots : List RequestArchiveObjectCleanupMatch} {seen : List Int}
    (h : snapshotRefusal seen snapshots=none) : ∀ m∈snapshots, m.status=.done ∨ m.status=.failed := by
  induction snapshots generalizing seen with
  | nil => exact fun m hm => by cases hm
  | cons m rest ih =>
    rw [snapshotRefusal,Option.or_eq_none_iff] at h
    refine forall_mem_cons.mpr ⟨?_,ih h.2⟩
    have hm := h.1
    rw [RequestArchiveObjectCleanupMatch.refusal] at hm
    split at hm
    · cases hm
    next hvalid =>
      by_contra hsettled
      exact hvalid (.inr (.inr (.inr (not_or.mp hsettled))))

theorem archiveProgram_fair (start : Start) : Fair fenced none (archiveProgram start) := by
  cases start with
  | configure config targets => exact .plain (by trivial) fun _ => trivial
  | enqueue job => exact enqueue_fair job
  | worker workerId lease candidate tasks => exact worker_fair workerId lease candidate tasks
  | recover now =>
    rw [archiveProgram,recoverExpiredRequestArchiveJobs]
    split
    · trivial
    refine .plain (by trivial) fun a => ?_
    split
    · trivial
    · trivial
    · exact .plain (by trivial) fun _ => trivial
  | expirePending now =>
    rw [archiveProgram,expirePendingRequestArchiveJobs]
    split
    · trivial
    refine .plain (by trivial) fun a => ?_
    split
    · trivial
    · trivial
    · exact .plain (by trivial) fun _ => trivial
  | markCleanupVersion id objectKey objectVersionID =>
    rw [archiveProgram,markRequestArchiveCleanupObjectVersion]
    split
    · trivial
    split
    · trivial
    refine .plain (by trivial) fun a => ?_
    split
    · trivial
    · trivial
    refine .plain (by trivial) fun stored => ?_
    split
    · trivial
    · split <;> trivial
  | beginReconciliation id objectKey now quietPeriod =>
    rw [archiveProgram,beginRequestArchiveCleanupReconciliation]
    split
    · trivial
    refine .plain (by trivial) fun a => ?_
    split
    · trivial
    · trivial
    refine .plain (by trivial) fun stored => ?_
    split
    · trivial
    · split <;> trivial
  | confirmAbsent id objectKey reconcileStartedAt now quietPeriod =>
    rw [archiveProgram,confirmRequestArchiveCleanupAbsent]
    split
    · trivial
    split
    · trivial
    refine .plain (by trivial) fun a => ?_
    split
    · trivial
    · trivial
    refine .plain (by trivial) fun stored => ?_
    split
    · trivial
    · split <;> trivial
  | deleteObjectJobs snapshots now =>
    rw [archiveProgram,deleteExpiredRequestArchiveObjectJobs]
    split
    · trivial
    split
    · trivial
    split
    · trivial
    next hvalid => exact .plain (by exact snapshotRefusal_none hvalid) fun _ => trivial
  | deleteJobs ids now =>
    rw [archiveProgram,deleteExpiredRequestArchiveJobs]
    split
    · trivial
    split
    · trivial
    · exact .plain (by trivial) fun _ => trivial

end Calls

def Holds (s : ArchiveState) (job : RequestArchiveJob) : Prop := (s.jobs.any (·.isHeldAs job))=true

instance (s : ArchiveState) (job : RequestArchiveJob) : Decidable (Holds s job) := inferInstanceAs (Decidable (_=true))

def OneHolder (s : ArchiveState) : Prop := s.holds.Pairwise fun a b => ¬(Holds s a ∧ Holds s b ∧ a.id=b.id)

instance (s : ArchiveState) : Decidable (OneHolder s) := inferInstanceAs (Decidable (List.Pairwise _ _))

theorem Sound.oneHolder {s : ArchiveState} (hs : Sound True s) : OneHolder s := by
  refine (hs.single trivial).imp fun {a b} hsingle ⟨ha,hb,hid⟩ => ?_
  obtain ⟨row,hrow,hrowHeld⟩ := any_eq_true.mp ha
  obtain ⟨row',hrow',hrowHeld'⟩ := any_eq_true.mp hb
  simp only [RequestArchiveJob.isHeldAs,Bool.and_eq_true,decide_eq_true_eq] at hrowHeld hrowHeld'
  obtain ⟨⟨⟨hrowId,hprocessing⟩,hversion⟩,hworker⟩ := hrowHeld
  obtain ⟨⟨⟨hrowId',hprocessing'⟩,hversion'⟩,hworker'⟩ := hrowHeld'
  have hsame : row'=row := by
    have hlookup := lookup_of_mem hs.ids hrow
    rw [hrowId.trans (hid.trans hrowId'.symm),lookup_of_mem hs.ids hrow',Option.some.injEq] at hlookup
    exact hlookup
  rw [hsame] at hversion' hworker'
  rcases hsingle hid (hversion.symm.trans hversion') with hblank | hblank
  · rw [← hworker,hs.worker row hrow hprocessing] at hblank
    cases hblank
  · rw [← hworker',hs.worker row hrow hprocessing] at hblank
    cases hblank

/-- What a worker does with a copy that does not hold the job changes nothing. -/
def Stale (s : ArchiveState) : ArchiveOp → Prop
  | .renew job _ | .retry job _ | .finish job _ _ | .fail job | .markObjectLocation job _ | .markObjectVersion job _ => ¬Holds s job
  | _ => False

theorem stale_unchanged {s : ArchiveState} (c : ArchiveChoice) {op : ArchiveOp} (h : Stale s op) : (archiveExec s c op).1=s := by
  have hnone : ∀ {job : RequestArchiveJob}, ¬Holds s job → s.affected (·.isHeldAs job)≠1 := by
    intro job hjob hone
    obtain ⟨row,hrow⟩ := length_eq_one_iff.mp hone
    obtain ⟨hmem,hheld⟩ := mem_filter.mp (hrow ▸ mem_singleton_self row)
    exact hjob (any_eq_true.mpr ⟨row,hmem,hheld⟩)
  have hrefused : ∀ {s' : ArchiveState} {job : RequestArchiveJob} {lost : String}, ¬Holds s job →
      (requireOne s s' (s.affected (·.isHeldAs job)) c.fails lost).1=s := fun {s'} {job} {lost} hjob => by
    rcases requireOne_fst s s' (s.affected (·.isHeldAs job)) c.fails lost with he | ⟨-,hone⟩
    · exact he
    · exact absurd hone (hnone hjob)
  cases op with
  | renew | retry | finish | fail | markObjectLocation | markObjectVersion => exact hrefused h
  | _ => cases h

abbrev ArchivePool := Pool ArchiveState (Thread Start ArchiveOp ArchiveAns (Except ArchiveError Outcome))

def emptyQueue (config : RequestArchiveConfig) (targets : List RequestArchiveTarget) : ArchivePool :=
  { shared := { config, targets }, threads := [] }

theorem empty_sound (fenced : Prop) (config : RequestArchiveConfig) (targets : List RequestArchiveTarget) :
    Sound fenced { config, targets } where
  ids := nodup_nil
  id_lt := by simp
  size := by simp
  accounts := ⟨rfl,rfl,rfl⟩
  worker := by simp
  free := by simp
  held_lt := by simp
  held := by simp
  single _ := .nil

/-- The invariant after a run; its last part where the reads of the claims were undisturbed. -/
theorem run_sound (fenced : Prop) (config : RequestArchiveConfig) (targets : List RequestArchiveTarget) (acts : List (Act Start ArchiveChoice))
    (h : Guarded (system archiveExec archiveProgram).act (Meets (Allowed fun _ s c op => fenced → Undisturbed s c op)) acts
      (emptyQueue config targets)) :
    Sound fenced (run (system archiveExec archiveProgram).act acts (emptyQueue config targets)).shared := by
  have hfirst : Held archiveExec (Sound fenced) (fun _ _ => True) (Knows fenced) Distinct (fun _ s c op => fenced → Undisturbed s c op)
      (emptyQueue config targets) fun _ => none :=
    ⟨empty_sound fenced config targets,fun i t ht => by simp [emptyQueue] at ht,fun i t ht => by simp [emptyQueue] at ht,
      fun i j hi => by simp [emptyQueue] at hi⟩
  have hsymm : ∀ {a b : Option Stake}, Distinct a b → Distinct b a := fun {a b} hab => by
    match a, b, hab with
    | some (.claimed _), some (.claimed _), hab => exact fun ⟨hid,hversion⟩ => hab ⟨hid.symm,hversion.symm⟩
    | some (.copy _), some (.claimed _), _ | some (.copy _), some (.copy _), _ | some (.claimed _), some (.copy _), _ => trivial
    | none, some (.claimed _), _ | none, some (.copy _), _ | some (.claimed _), none, _ | some (.copy _), none, _ | none, none, _ =>
      trivial
  have hapart : ∀ k, Distinct none k := fun k => by trivial
  obtain ⟨-,held,hp⟩ := hfirst.run (fun _ => trivial) (fun _ _ _ _ _ => trivial) hsymm (fun _ _ => trivial) hapart archiveProgram_fair h
  exact hp.inv

/-- The counters are right and, after a job was taken in, within the capacities; a worker that does not hold a job
changes nothing; and where claims are read back in time, at most one worker holds a job. -/
theorem archive_queue_fenced (config : RequestArchiveConfig) (targets : List RequestArchiveTarget) (acts : List (Act Start ArchiveChoice)) :
    let act := (system archiveExec archiveProgram).act
    let s := (run act acts (emptyQueue config targets)).shared
    (s.queue.activeCount=activeCount s.jobs ∧ s.queue.activeBytes=activeBytes s.jobs ∧ s.queue.clamped=false) ∧
    (∀ c job s', archiveExec s c (.enqueue job)=(s',.ok ()) →
      s'.queue.activeCount ≤ s'.config.queueCapacity ∧ s'.queue.activeBytes ≤ s'.config.queueMaxBytes) ∧
    (∀ c op, Stale s op → (archiveExec s c op).1=s) ∧
    (Guarded act (Meets (Allowed fun _ => Undisturbed)) acts (emptyQueue config targets) → OneHolder s) := by
  intro act s
  have hs : Sound False s := run_sound False config targets acts (guarded_of_all (fun _ _ _ _ h => h.elim) acts _)
  refine ⟨⟨hs.accounts.count,hs.accounts.bytes,hs.accounts.unclamped⟩,?_,fun c op => stale_unchanged c,fun h => ?_⟩
  · intro c job s' hexec
    rw [archiveExec] at hexec
    split at hexec
    · cases hexec
    next s'' hs'' =>
      split at hexec
      · cases hexec
      cases hexec
      obtain ⟨rfl,hcount,hbytes⟩ := enqueue_ok hs''
      dsimp only
      omega
  · have hguarded : Guarded act (Meets (Allowed fun _ s c op => True → Undisturbed s c op)) acts (emptyQueue config targets) := by
      simpa using h
    exact (run_sound True config targets acts hguarded).oneHolder

def overtakenClaim : List (Act Start ArchiveChoice) :=
  [.start (.enqueue { targetId := "s3", configVersion := 1, byteSize := 10, expiresAt := 100000 }),.step 0 { clock := 1000*second },
    .start (.worker "a" (60*second) ⟨1,0⟩ []),.step 1 { clock := 1001*second },
    .start (.recover 1100),.step 2 { clock := 1100*second },.step 2 { clock := 1100*second },
    .start (.worker "b" (60*second) ⟨1,1⟩ []),.step 3 { clock := 1101*second },.step 3 { clock := 1101*second },
    .step 1 { clock := 1102*second }]

def archiveConfig : RequestArchiveConfig := { enabled := true, activeTargetId := "s3" }

theorem overtaken_claim_two_holders :
    ¬OneHolder (run (system archiveExec archiveProgram).act overtakenClaim (emptyQueue archiveConfig [⟨"s3",true⟩])).shared := by
  decide +kernel

theorem archive_queue_fenced_claim :
    OneHolder (run (system archiveExec archiveProgram).act
      (overtakenClaim.take 4++[.step 1 { clock := 1002*second }]++(overtakenClaim.drop 4).take 6)
      (emptyQueue archiveConfig [⟨"s3",true⟩])).shared :=
  (archive_queue_fenced archiveConfig [⟨"s3",true⟩] _).2.2.2 (by decide +kernel)

end NewApi.Archive
