import NewApi.Lib.Holdings
import NewApi.Polling.Passes

/-! The money of asynchronous tasks: a task that fails is paid back at most once, one that succeeds never. -/
namespace NewApi.Polling
open List Holdings Keyed Programs Runs Threads

/-- The event moves the money of the task, or lets it fail. -/
def PollEvent.concerns (id : Int) : PollEvent → Bool
  | .failed i _ | .credited i _ | .settled i => decide (i=id)
  | _ => false

def history (log : List PollEvent) (id : Int) : List PollEvent := log.filter (·.concerns id)

theorem history_append (log more : List PollEvent) (id : Int) : history (log++more) id=history log id++history more id :=
  filter_append ..

theorem failure_ne_success : taskStatusFailure≠taskStatusSuccess := by decide

inductive Books (events : List PollEvent) (row : Task) : Prop
  | running (status : ¬Terminal row.status) (nothing : events=[])
  | succeeded (status : row.status=taskStatusSuccess) (settled : ∀ e∈events, e=.settled row.id)
  | owed (quota : Int) (status : row.status=taskStatusFailure) (failed : events=[.failed row.id quota])
      (marker : row.quota=quota ∨ row.quota=0)
  | paid (quota : Int) (status : row.status=taskStatusFailure) (credited : events=[.failed row.id quota,.credited row.id quota])
      (marker : row.quota=0)

structure Sound (s : PollState) : Prop where
  ids : Unique Task.id s.rows
  id_lt : ∀ row∈s.rows, row.id<s.nextId
  books : ∀ row∈s.rows, Books (history s.log row.id) row
  unborn : ∀ id, s.nextId ≤ id → history s.log id=[]

def Keeps (s s' : PollState) : Prop :=
  ∀ row∈s.rows, ∃ row'∈s'.rows, row'.id=row.id ∧ (Terminal row.status → row'.status=row.status)

theorem Keeps.refl (s : PollState) : Keeps s s := fun row h => ⟨row,h,rfl,fun _ => rfl⟩

theorem Keeps.trans {a b c : PollState} (hab : Keeps a b) (hbc : Keeps b c) : Keeps a c := by
  intro row hrow
  obtain ⟨row',hrow',hid,hkeep⟩ := hab row hrow
  obtain ⟨row'',hrow'',hid',hkeep'⟩ := hbc row' hrow'
  refine ⟨row'',hrow'',hid'.trans hid,fun hterminal => ?_⟩
  have hstatus := hkeep hterminal
  exact (hkeep' (hstatus ▸ hterminal)).trans hstatus

def Owes (s : PollState) (id quota : Int) : Prop :=
  ∃ row∈s.rows, row.id=id ∧ row.status=taskStatusFailure ∧ row.quota=0 ∧ history s.log id=[.failed id quota]

def PaidBack (s : PollState) (id : Int) : Prop :=
  ∃ row∈s.rows, row.id=id ∧ row.status=taskStatusFailure ∧ row.quota=0 ∧
    ∃ quota, history s.log id=[.failed id quota,.credited id quota]

structure Stake where
  sure : List (Int×TaskStatus) := []
  claim : Option (Int×Int) := none
  paid : Option Int := none

structure Knows (stake : Stake) (s : PollState) : Prop where
  terminal : ∀ known∈stake.sure, Terminal known.2
  sure : ∀ known∈stake.sure, ∃ row∈s.rows, row.id=known.1 ∧ row.status=known.2
  claim : ∀ claim∈stake.claim, Owes s claim.1 claim.2
  paid : ∀ id∈stake.paid, PaidBack s id

def Distinct (a b : Stake) : Prop := ∀ claim∈a.claim, ∀ claim'∈b.claim, claim.1≠claim'.1

/-- The operation stays clear of tasks that are over: a bulk update of tasks that succeeded, and what follows an answer that was applied
to a copy that was over before it. -/
def Orderly (s : PollState) : PollOp → Prop
  | .bulkFail ids _ => ∀ row∈s.rows, row.id∈ids → row.status≠taskStatusSuccess
  | .updateWithStatus _ fromStatus => ¬Terminal fromStatus
  | .claimQuota _ _ was => ∀ status∈was, ¬Terminal status
  | .settling _ was => ¬Terminal was
  | _ => True

section Steps
variable {s s' : PollState}

theorem same_row (hs : Sound s) {a b : Task} (ha : a∈s.rows) (hb : b∈s.rows) (hid : a.id=b.id) : a=b := by
  have hlookup := lookup_of_mem hs.ids ha
  rw [hid,lookup_of_mem hs.ids hb,Option.some.injEq] at hlookup
  exact hlookup.symm

def failureOf (row row' : Task) : List PollEvent :=
  if row.status≠taskStatusFailure ∧ row'.status=taskStatusFailure then [.failed row.id row'.quota] else []

/-- The books allow the edit of every row that is selected. -/
def Permits (s : PollState) (select : Task → Bool) (edit : Task → Task) : Prop :=
  ∀ row∈s.rows, select row=true → (edit row).id=row.id ∧ (Terminal row.status → (edit row).status=row.status) ∧
    Books (history s.log row.id++failureOf row (edit row)) (edit row)

/-- A failed task without a quota stays without one. -/
def Spares (s : PollState) (select : Task → Bool) (edit : Task → Task) : Prop :=
  ∀ row∈s.rows, row.status=taskStatusFailure → row.quota=0 → select row=true → (edit row).quota=row.quota

theorem history_failures (rows : List Task) (p : Task → Bool) (edit : Task → Task) (id : Int) :
    history ((rows.filter p).map fun row => .failed row.id (edit row).quota) id =
      ((rows.filter fun row => decide (row.id=id)).filter p).map fun row => .failed row.id (edit row).quota := by
  rw [history,filter_map,filter_filter,filter_filter]
  refine congrArg _ (filter_congr fun row _ => ?_)
  exact Bool.and_comm _ _

theorem history_update (hs : Sound s) (select : Task → Bool) (edit : Task → Task) {row : Task} (hrow : row∈s.rows) :
    history (s.update select edit).log row.id=history s.log row.id ++ if select row then failureOf row (edit row) else [] := by
  rw [PollState.update,history_append,history_failures,filter_key hs.ids hrow]
  congr 1
  by_cases hselect : select row=true
  · rw [if_pos hselect,failureOf]
    by_cases hfails : row.status≠taskStatusFailure ∧ (edit row).status=taskStatusFailure
    · rw [if_pos hfails,filter_cons_of_pos (by simp [hselect,hfails])]
      rfl
    · rw [if_neg hfails,filter_cons_of_neg (by simpa [hselect] using hfails)]
      rfl
  · rw [if_neg hselect,filter_cons_of_neg (by simp [hselect])]
    rfl

theorem history_update_other (select : Task → Bool) (edit : Task → Task) {id : Int} (hid : ∀ row∈s.rows, row.id≠id) :
    history (s.update select edit).log id=history s.log id := by
  have hnone : (s.rows.filter fun row => decide (row.id=id))=[] :=
    filter_eq_nil_iff.mpr fun row hrow h => hid row hrow (of_decide_eq_true h)
  rw [PollState.update,history_append,history_failures,hnone]
  exact append_nil _

theorem sound_update (hs : Sound s) {select : Task → Bool} {edit : Task → Task} (hedit : Permits s select edit) :
    Sound (s.update select edit) ∧ Keeps s (s.update select edit) := by
  have hid : ∀ row∈s.rows, (if select row then edit row else row).id=row.id := fun row hrow => by
    by_cases hselect : select row=true
    · rw [if_pos hselect]
      exact (hedit row hrow hselect).1
    · rw [if_neg hselect]
  have hbooks : ∀ row∈s.rows, Books (history (s.update select edit).log row.id) (if select row then edit row else row) :=
    fun row hrow => by
      rw [history_update hs select edit hrow]
      by_cases hselect : select row=true
      · rw [if_pos hselect,if_pos hselect]
        exact (hedit row hrow hselect).2.2
      · rw [if_neg hselect,if_neg hselect,append_nil]
        exact hs.books row hrow
  refine ⟨⟨?_,fun row' hrow' => ?_,fun row' hrow' => ?_,fun id hlt => ?_⟩,fun row hrow => ?_⟩
  · have hids : (s.update select edit).rows.map Task.id=s.rows.map Task.id := by
      rw [PollState.update,map_map]
      exact map_congr_left hid
    rw [Keyed.Unique,hids]
    exact hs.ids
  · obtain ⟨row,hrow,rfl⟩ := mem_map.mp hrow'
    rw [hid row hrow]
    exact hs.id_lt row hrow
  · obtain ⟨row,hrow,rfl⟩ := mem_map.mp hrow'
    rw [hid row hrow]
    exact hbooks row hrow
  · rw [history_update_other select edit fun row hrow he => absurd (hs.id_lt row hrow) (by rw [he]; exact Int.not_lt.mpr hlt)]
    exact hs.unborn id hlt
  · refine ⟨_,mem_map_of_mem hrow,hid row hrow,fun hterminal => ?_⟩
    by_cases hselect : select row=true
    · rw [if_pos hselect]
      exact (hedit row hrow hselect).2.1 hterminal
    · rw [if_neg hselect]

theorem failed_update (hs : Sound s) {select : Task → Bool} {edit : Task → Task} {row : Task} (hrow : row∈s.rows)
    (hfailed : row.status=taskStatusFailure)
    (hedit : select row=true → (edit row).id=row.id ∧ (edit row).status=row.status ∧ (edit row).quota=row.quota) :
    ∃ row'∈(s.update select edit).rows, row'.id=row.id ∧ row'.status=taskStatusFailure ∧ row'.quota=row.quota ∧
      history (s.update select edit).log row.id=history s.log row.id := by
  refine ⟨_,mem_map_of_mem hrow,?_⟩
  rw [history_update hs select edit hrow]
  by_cases hselect : select row=true
  · obtain ⟨hid,hstatus,hquota⟩ := hedit hselect
    rw [if_pos hselect,if_pos hselect,failureOf,if_neg fun h => h.1 hfailed,append_nil]
    exact ⟨hid,hstatus.trans hfailed,hquota,rfl⟩
  · rw [if_neg hselect,if_neg hselect,append_nil]
    exact ⟨rfl,hfailed,rfl,rfl⟩

theorem Owes.update (hs : Sound s) {id quota : Int} (h : Owes s id quota) {select : Task → Bool} {edit : Task → Task}
    (hedit : ∀ row∈s.rows, row.id=id → row.status=taskStatusFailure → row.quota=0 → select row=true →
      (edit row).id=row.id ∧ (edit row).status=row.status ∧ (edit row).quota=row.quota) :
    Owes (s.update select edit) id quota := by
  obtain ⟨row,hrow,rfl,hfailed,hmarker,hhistory⟩ := h
  obtain ⟨row',hrow',hid,hfailed',hquota,hsame⟩ := failed_update hs hrow hfailed (hedit row hrow rfl hfailed hmarker)
  exact ⟨row',hrow',hid,hfailed',hquota.trans hmarker,hsame.trans hhistory⟩

theorem PaidBack.update (hs : Sound s) {id : Int} (h : PaidBack s id) {select : Task → Bool} {edit : Task → Task}
    (hedit : ∀ row∈s.rows, row.id=id → row.status=taskStatusFailure → row.quota=0 → select row=true →
      (edit row).id=row.id ∧ (edit row).status=row.status ∧ (edit row).quota=row.quota) :
    PaidBack (s.update select edit) id := by
  obtain ⟨row,hrow,rfl,hfailed,hmarker,quota,hhistory⟩ := h
  obtain ⟨row',hrow',hid,hfailed',hquota,hsame⟩ := failed_update hs hrow hfailed (hedit row hrow rfl hfailed hmarker)
  exact ⟨row',hrow',hid,hfailed',hquota.trans hmarker,quota,hsame.trans hhistory⟩

/-- A step of a call that has `stake` before it and `stake'` after it. -/
abbrev Moves (stake stake' : Stake) (s s' : PollState) : Prop := Passes Sound Keeps Knows Distinct stake stake' s s'

theorem Knows.keep_sure (h : Keeps s s') {stake : Stake} (hstake : Knows stake s) :
    ∀ known∈stake.sure, ∃ row∈s'.rows, row.id=known.1 ∧ row.status=known.2 := by
  intro known hknown
  obtain ⟨row,hrow,hid,hstatus⟩ := hstake.sure known hknown
  obtain ⟨row',hrow',hid',hkeep⟩ := h row hrow
  exact ⟨row',hrow',hid'.trans hid,(hkeep (hstatus ▸ hstake.terminal known hknown)).trans hstatus⟩

theorem Knows.keep (h : Keeps s s') {stake : Stake} (hstake : Knows stake s) (hclaim : ∀ claim∈stake.claim, Owes s' claim.1 claim.2)
    (hpaid : ∀ id∈stake.paid, PaidBack s' id) : Knows stake s' :=
  ⟨hstake.terminal,hstake.keep_sure h,hclaim,hpaid⟩

section
variable (hs : Sound s)
include hs
variable {select : Task → Bool} {edit : Task → Task} {row : Task}

theorem quiet_moves (hrows : s'.rows=s.rows) (hnext : s'.nextId=s.nextId)
    (hlog : ∀ id, history s'.log id=history s.log id) {stake : Stake} (hstake : Knows stake s) : Moves stake stake s s' := by
  have hkeeps : Keeps s s' := fun row hrow => ⟨row,hrows ▸ hrow,rfl,fun _ => rfl⟩
  have hknows : ∀ {k : Stake}, Knows k s → Knows k s' := fun {k} hk => hk.keep hkeeps (fun claim hclaim => by
      rw [Owes,hrows,hlog]
      exact hk.claim claim hclaim)
    fun id hid => by
      rw [PaidBack,hrows,hlog]
      exact hk.paid id hid
  refine ⟨⟨hrows ▸ hs.ids,?_,?_,?_⟩,hkeeps,hknows hstake,fun k hk hapart => ⟨hknows hk,hapart⟩⟩
  · rw [hrows,hnext]
    exact hs.id_lt
  · intro row hrow
    rw [hlog]
    exact hs.books row (hrows ▸ hrow)
  · intro id hid
    rw [hlog]
    exact hs.unborn id (hnext ▸ hid)

theorem update_moves (hedit : Permits s select edit) (hmeek : Spares s select edit)
    {stake stake' : Stake} (hstake : Knows stake' (s.update select edit))
    (hapart : ∀ k, Knows k s → Distinct stake k → Distinct stake' k) : Moves stake stake' s (s.update select edit) := by
  obtain ⟨hsound,hkeeps⟩ := sound_update hs hedit
  have hsame : ∀ row∈s.rows, row.status=taskStatusFailure → row.quota=0 → select row=true →
      (edit row).id=row.id ∧ (edit row).status=row.status ∧ (edit row).quota=row.quota := fun row hrow hfailed hquota hselect =>
    ⟨(hedit row hrow hselect).1,(hedit row hrow hselect).2.1 (.inr hfailed),hmeek row hrow hfailed hquota hselect⟩
  refine ⟨hsound,hkeeps,hstake,fun k hk hdistinct => ⟨hk.keep hkeeps (fun claim hclaim => ?_) fun id hid => ?_,hapart k hk hdistinct⟩⟩
  · exact (hk.claim claim hclaim).update hs fun row hrow _ => hsame row hrow
  · exact (hk.paid id hid).update hs fun row hrow _ => hsame row hrow

theorem knows_update (hedit : Permits s select edit) (hmeek : Spares s select edit)
    {stake : Stake} (hstake : Knows stake s) : Knows stake (s.update select edit) :=
  ((update_moves hs hedit hmeek ⟨nofun,nofun,nofun,nofun⟩ fun _ _ _ => nofun : Moves {} {} s _).frame stake hstake nofun).1

theorem permitted_moves (hedit : Permits s select edit)
    (hmeek : Spares s select edit) {stake : Stake} (hstake : Knows stake s) : Moves stake stake s (s.update select edit) :=
  update_moves hs hedit hmeek (knows_update hs hedit hmeek hstake) fun _ _ h => h

theorem permits_setQuota (hrow : row∈s.rows) (select : Task → Bool) (quota now : Int)
    (hbooks : select row=true → Books (history s.log row.id) { row with quota, updatedAt := now }) :
    Permits s (fun r => decide (r.id=row.id) && select r) fun r => { r with quota, updatedAt := now } := by
  intro r hr hselect
  obtain ⟨hid,hcond⟩ := Bool.and_eq_true_iff.mp hselect
  obtain rfl := same_row hs hr hrow (of_decide_eq_true hid)
  refine ⟨rfl,fun _ => rfl,?_⟩
  rw [failureOf,if_neg fun h => h.1 h.2,append_nil]
  exact hbooks hcond

theorem Books.of_running (hrow : row∈s.rows) (hstatus : ¬Terminal row.status) : history s.log row.id=[] := by
  rcases hs.books row hrow with ⟨-,h⟩ | ⟨h,-⟩ | ⟨-,h,-,-⟩ | ⟨-,h,-,-⟩
  · exact h
  · exact absurd (.inl h) hstatus
  · exact absurd (.inr h) hstatus
  · exact absurd (.inr h) hstatus

theorem Books.turn {row row' : Task} (hrow : row∈s.rows) (hstatus : ¬Terminal row.status) (hid : row'.id=row.id) :
    Books (history s.log row.id++failureOf row row') row' := by
  rw [Books.of_running hs hrow hstatus,nil_append,failureOf]
  by_cases hfailed : row'.status=taskStatusFailure
  · rw [if_pos ⟨fun h => hstatus (.inr h),hfailed⟩]
    exact .owed row'.quota hfailed (by rw [hid]) (.inl rfl)
  · rw [if_neg fun h => hfailed h.2]
    by_cases hsuccess : row'.status=taskStatusSuccess
    · exact .succeeded hsuccess (by simp)
    · exact .running (fun h => h.elim hsuccess hfailed) rfl

end

variable {event : PollEvent} {id : Int}

theorem updateWithStatus_moves (task : Task) (now : Int) (hs : Sound s) {fromStatus : TaskStatus} (hopen : ¬Terminal fromStatus)
    {stake : Stake} (hstake : Knows stake s) :
    Moves stake stake s (s.updateWithStatus task fromStatus now) ∧
    ((s.rows.any fun row => decide (row.id=task.id) && decide (row.status=fromStatus))=true → Terminal task.status →
      Moves stake { stake with sure := (task.id,task.status)::stake.sure } s (s.updateWithStatus task fromStatus now)) := by
  have hselect : ∀ row : Task, (decide (row.id=task.id) && decide (row.status=fromStatus))=true →
      row.id=task.id ∧ row.status=fromStatus := fun row hrow => by simpa using hrow
  let written : Task := { task with updatedAt := now }
  have hedit : ∀ row∈s.rows, (decide (row.id=task.id) && decide (row.status=fromStatus))=true → written.id=row.id ∧
      (Terminal row.status → written.status=row.status) ∧ Books (history s.log row.id++failureOf row written) written := by
    intro row hrow hsel
    obtain ⟨hid,hstatus⟩ := hselect row hsel
    have hopen' : ¬Terminal row.status := hstatus ▸ hopen
    exact ⟨hid.symm,fun h => absurd h hopen',.turn hs hrow hopen' hid.symm⟩
  have hmeek : ∀ row∈s.rows, row.status=taskStatusFailure → row.quota=0 →
      (decide (row.id=task.id) && decide (row.status=fromStatus))=true →
      written.quota=row.quota := fun row _ hfailed _ hsel => absurd (.inr ((hselect row hsel).2 ▸ hfailed)) hopen
  have hknows := knows_update hs hedit hmeek hstake
  refine ⟨update_moves hs hedit hmeek hknows fun _ _ h => h,fun hwon hterminal => update_moves hs hedit hmeek ?_ fun _ _ h => h⟩
  refine ⟨forall_mem_cons.mpr ⟨hterminal,hknows.terminal⟩,forall_mem_cons.mpr ⟨?_,hknows.sure⟩,hknows.claim,hknows.paid⟩
  obtain ⟨row,hrow,hsel⟩ := any_eq_true.mp hwon
  refine ⟨written,mem_map.mpr ⟨row,hrow,?_⟩,rfl,rfl⟩
  rw [if_pos hsel]

theorem bulkFail_moves (hs : Sound s) {ids : List Int} {reason : Option String} {now : Int}
    (hopen : ∀ row∈s.rows, row.id∈ids → row.status≠taskStatusSuccess) {stake : Stake} (hstake : Knows stake s) :
    Moves stake stake s (s.bulkFail ids reason now) := by
  have hedit : ∀ row∈s.rows, decide (row.id∈ids)=true →
      ({ row with status := taskStatusFailure, progress := "100%", failReason := reason.getD row.failReason, updatedAt := now } : Task).id
          = row.id ∧
        (Terminal row.status → taskStatusFailure=row.status) ∧
        Books (history s.log row.id++failureOf row
            { row with status := taskStatusFailure, progress := "100%", failReason := reason.getD row.failReason, updatedAt := now })
          { row with status := taskStatusFailure, progress := "100%", failReason := reason.getD row.failReason, updatedAt := now } := by
    intro row hrow hsel
    have hnot := hopen row hrow (of_decide_eq_true hsel)
    refine ⟨rfl,fun h => (h.resolve_left hnot).symm,?_⟩
    by_cases hterminal : Terminal row.status
    · have hfailed : row.status=taskStatusFailure := hterminal.resolve_left hnot
      rw [failureOf,if_neg fun h => h.1 hfailed,append_nil]
      rcases hs.books row hrow with ⟨h,-⟩ | ⟨h,-⟩ | ⟨quota,-,hevents,hmarker⟩ | ⟨quota,-,hevents,hmarker⟩
      · exact absurd hterminal h
      · exact absurd h hnot
      · exact .owed quota rfl hevents hmarker
      · exact .paid quota rfl hevents hmarker
    · exact .turn hs hrow hterminal rfl
  have hmeek : ∀ row∈s.rows, row.status=taskStatusFailure → row.quota=0 → decide (row.id∈ids)=true → row.quota=row.quota :=
    fun _ _ _ _ _ => rfl
  exact permitted_moves hs hedit hmeek hstake

theorem claim_moves (now : Int) (hs : Sound s) {sure : List (Int×TaskStatus)} {id quota : Int} (hid : (id,taskStatusFailure)∈sure)
    (hquota : quota≠0) (hstake : Knows { sure } s) :
    Moves { sure } { sure } s (s.setQuota id (fun row => decide (row.quota=quota)) 0 now) ∧
    ((s.rows.any fun row => decide (row.id=id) && decide (row.quota=quota))=true →
      Moves { sure } { sure, claim := some (id,quota) } s (s.setQuota id (fun row => decide (row.quota=quota)) 0 now)) := by
  obtain ⟨row,hrow,rfl,hfailed⟩ := hstake.sure _ hid
  have hthe : ∀ r∈s.rows, (decide (r.id=row.id) && decide (r.quota=quota))=true → r=row ∧ r.quota=quota := by
    intro r hr hselect
    rw [Bool.and_eq_true,decide_eq_true_eq,decide_eq_true_eq] at hselect
    exact ⟨same_row hs hr hrow (hselect.1),hselect.2⟩
  have howed : row.quota=quota → history s.log row.id=[.failed row.id quota] := by
    intro hq
    rcases hs.books row hrow with ⟨h,-⟩ | ⟨h,-⟩ | ⟨q,-,hevents,hmarker⟩ | ⟨q,-,-,hmarker⟩
    · exact absurd (.inr hfailed) h
    · exact absurd (hfailed.symm.trans h) failure_ne_success
    · rcases hmarker with hmarker | hmarker
      · rw [hevents,← hmarker,hq]
      · exact absurd (hq.symm.trans hmarker) hquota
    · exact absurd (hq.symm.trans hmarker) hquota
  have hedit := permits_setQuota hs hrow (fun r => decide (r.quota=quota)) 0 now fun hselect => by
    rw [howed (of_decide_eq_true hselect)]
    exact .owed quota hfailed rfl (.inr rfl)
  have hmeek : Spares s (fun r => decide (r.id=row.id) && decide (r.quota=quota)) fun r => { r with quota := 0, updatedAt := now } :=
    fun r hr _ hzero hselect => absurd ((hthe r hr hselect).2.symm.trans hzero) hquota
  have hknows := knows_update hs hedit hmeek hstake
  refine ⟨update_moves hs hedit hmeek hknows fun _ _ h => h,fun hwon => ?_⟩
  obtain ⟨r,hr,hselect⟩ := any_eq_true.mp hwon
  obtain ⟨rfl,hq⟩ := hthe r hr hselect
  refine update_moves hs hedit hmeek ⟨hknows.terminal,hknows.sure,?_,nofun⟩ ?_
  · rintro claim ⟨⟩
    refine ⟨{ r with quota := 0, updatedAt := now },mem_map.mpr ⟨r,hr,if_pos hselect⟩,rfl,hfailed,rfl,?_⟩
    rw [history_update hs _ _ hr,if_pos hselect,failureOf,if_neg fun h => h.1 hfailed, append_nil,howed hq]
  · rintro k hk-claim ⟨⟩ claim' hclaim' heq
    obtain ⟨other,hother,hotherid,-,hzero,-⟩ := hk.claim claim' hclaim'
    have hsame : other=r := same_row hs hother hr (hotherid.trans heq.symm)
    exact hquota (hq.symm.trans (hsame ▸ hzero))

theorem restore_moves (hs : Sound s) {sure : List (Int×TaskStatus)} {id quota now : Int}
    (hstake : Knows { sure, claim := some (id,quota) } s) :
    Moves { sure, claim := some (id,quota) } { sure } s (s.setQuota id (fun row => decide (row.quota=0)) quota now) := by
  obtain ⟨row,hrow,rfl,hfailed,hmarker,hhistory⟩ := hstake.claim _ rfl
  have hother : ∀ r∈s.rows, r.id≠row.id → (decide (r.id=row.id) && decide (r.quota=0))≠true := fun r _ hne hselect =>
    hne (of_decide_eq_true (Bool.and_eq_true_iff.mp hselect).1)
  have hedit := permits_setQuota hs hrow (fun r => decide (r.quota=0)) quota now fun _ => by
    rw [hhistory]
    exact .owed quota hfailed rfl (.inl rfl)
  obtain ⟨hsound,hkeeps⟩ := sound_update hs hedit
  refine ⟨hsound,hkeeps,⟨hstake.terminal,hstake.keep_sure hkeeps,nofun,nofun⟩,fun k hk hapart => ?_⟩
  refine ⟨hk.keep hkeeps (fun claim hclaim => ?_) fun paid hpaid => ?_,nofun⟩
  · have hne : claim.1≠row.id := fun h => hapart _ rfl claim hclaim h.symm
    exact (hk.claim claim hclaim).update hs fun r hr hid _ _ hselect => absurd hselect (hother r hr (hid ▸ hne))
  · have hne : paid≠row.id := by
      rintro rfl
      obtain ⟨-,-,-,-,-,q,hpaidback⟩ := hk.paid _ hpaid
      rw [hhistory] at hpaidback
      cases hpaidback
    exact (hk.paid paid hpaid).update hs fun r hr hid _ _ hselect => absurd hselect (hother r hr (hid ▸ hne))

theorem history_record_self (h : event.concerns id=true) :
    history (s.record event).log id=history s.log id++[event] := by
  rw [PollState.record,history_append,history,history,filter_cons_of_pos h,filter_nil]

theorem history_record_other (h : event.concerns id=false) :
    history (s.record event).log id=history s.log id := by
  rw [PollState.record,history_append,history,history,filter_cons_of_neg (by rw [h]; exact Bool.false_ne_true),
    filter_nil,append_nil]

section
variable (hs : Sound s)
include hs
variable {sure : List (Int×TaskStatus)}

theorem record_moves {event : PollEvent} {row : Task} (hrow : row∈s.rows)
    (hconcerns : ∀ id, event.concerns id=decide (row.id=id)) (hbooks : Books (history s.log row.id++[event]) row)
    {stake stake' : Stake} (hstake : Knows stake' (s.record event)) (hothers : ∀ k, Knows k s → Distinct stake k →
      (∀ claim∈k.claim, row.id≠claim.1) ∧ (∀ id∈k.paid, row.id≠id) ∧ Distinct stake' k) :
    Moves stake stake' s (s.record event) := by
  have hself : history (s.record event).log row.id=history s.log row.id++[event] :=
    history_record_self (by rw [hconcerns]; exact decide_eq_true rfl)
  have hother : ∀ id, row.id≠id → history (s.record event).log id=history s.log id := fun id hne =>
    history_record_other (by rw [hconcerns]; exact decide_eq_false hne)
  refine ⟨⟨hs.ids,hs.id_lt,fun r hr => ?_,fun id hid => ?_⟩,.refl s,hstake,fun k hk hdistinct => ?_⟩
  · by_cases he : row.id=r.id
    · rw [← same_row hs hrow hr he,hself]
      exact hbooks
    · rw [hother r.id he]
      exact hs.books r hr
  · rw [hother id fun he => absurd (hs.id_lt row hrow) (by rw [he]; exact Int.not_lt.mpr hid)]
    exact hs.unborn id hid
  · obtain ⟨hclaim,hpaid,hapart⟩ := hothers k hk hdistinct
    have hkeeps : Keeps s (s.record event) := .refl s
    refine ⟨hk.keep hkeeps (fun claim h => ?_) fun id h => ?_,hapart⟩
    · rw [Owes,hother _ (hclaim claim h)]
      exact hk.claim claim h
    · rw [PaidBack,hother _ (hpaid id h)]
      exact hk.paid id h

theorem credited_moves {id quota : Int}
    (hstake : Knows { sure, claim := some (id,quota) } s) :
    Moves { sure, claim := some (id,quota) } { sure, paid := some id } s (s.record (.credited id quota)) := by
  obtain ⟨row,hrow,rfl,hfailed,hmarker,hhistory⟩ := hstake.claim _ rfl
  have hconcerns : ∀ i, PollEvent.concerns i (.credited row.id quota)=decide (row.id=i) := fun _ => rfl
  have hbooks : history s.log row.id++[.credited row.id quota]=[.failed row.id quota,.credited row.id quota] := by
    rw [hhistory]
    rfl
  refine record_moves hs hrow hconcerns (by rw [hbooks]; exact .paid quota hfailed rfl hmarker)
    ⟨hstake.terminal,hstake.sure,nofun,?_⟩ fun k hk hdistinct => ⟨hdistinct _ rfl,?_,nofun⟩
  · rintro _ ⟨⟩
    exact ⟨row,hrow,rfl,hfailed,hmarker,quota,(history_record_self ((hconcerns _).trans (decide_eq_true rfl))).trans hbooks⟩
  · rintro paid hpaid rfl
    obtain ⟨-,-,-,-,-,q,hpaidback⟩ := hk.paid _ hpaid
    rw [hhistory] at hpaidback
    cases hpaidback

theorem succeeded_apart {row : Task} (hrow : row∈s.rows) (hsuccess : row.status=taskStatusSuccess) {k : Stake}
    (hk : Knows k s) : (∀ claim∈k.claim, row.id≠claim.1) ∧ ∀ id∈k.paid, row.id≠id := by
  refine ⟨fun claim hclaim he => ?_,fun id hid he => ?_⟩
  · obtain ⟨other,hother,hid,hfailed,-⟩ := hk.claim claim hclaim
    rw [same_row hs hother hrow (hid.trans he.symm)] at hfailed
    exact failure_ne_success (hfailed.symm.trans hsuccess)
  · obtain ⟨other,hother,hid',hfailed,-⟩ := hk.paid id hid
    rw [same_row hs hother hrow (hid'.trans he.symm)] at hfailed
    exact failure_ne_success (hfailed.symm.trans hsuccess)

theorem settled_moves {id : Int} (hid : (id,taskStatusSuccess)∈sure)
    (hstake : Knows { sure } s) : Moves { sure } { sure } s (s.record (.settled id)) := by
  obtain ⟨row,hrow,rfl,hsuccess⟩ := hstake.sure _ hid
  have hconcerns : ∀ i, PollEvent.concerns i (.settled row.id)=decide (row.id=i) := fun _ => rfl
  refine record_moves hs hrow hconcerns ?_ ⟨hstake.terminal,hstake.sure,nofun,nofun⟩ fun k hk _ => ?_
  · rcases hs.books row hrow with ⟨h,-⟩ | ⟨-,hsettled⟩ | ⟨q,h,-⟩ | ⟨q,h,-⟩
    · exact absurd (.inl hsuccess) h
    · refine .succeeded hsuccess fun e he => ?_
      rcases mem_append.mp he with he | he
      · exact hsettled e he
      · exact mem_singleton.mp he
    · exact absurd (h.symm.trans hsuccess) failure_ne_success
    · exact absurd (h.symm.trans hsuccess) failure_ne_success
  · obtain ⟨hclaim,hpaid⟩ := succeeded_apart hs hrow hsuccess hk
    exact ⟨hclaim,hpaid,nofun⟩

theorem recalculate_moves {id quota now : Int} (hid : (id,taskStatusSuccess)∈sure)
    (hstake : Knows { sure } s) : Moves { sure } { sure } s (s.setQuota id (fun _ => true) quota now) := by
  obtain ⟨row,hrow,rfl,hsuccess⟩ := hstake.sure _ hid
  have hedit := permits_setQuota hs hrow (fun _ => true) quota now fun _ => by
    rcases hs.books row hrow with ⟨h,-⟩ | ⟨-,hsettled⟩ | ⟨q,h,-⟩ | ⟨q,h,-⟩
    · exact absurd (.inl hsuccess) h
    · exact .succeeded hsuccess hsettled
    · exact absurd (h.symm.trans hsuccess) failure_ne_success
    · exact absurd (h.symm.trans hsuccess) failure_ne_success
  refine permitted_moves hs hedit (fun r hr hfailed _ hselect => ?_) hstake
  rw [same_row hs hr hrow (of_decide_eq_true (Bool.and_eq_true_iff.mp hselect).1)] at hfailed
  exact absurd (hfailed.symm.trans hsuccess) failure_ne_success

theorem clear_moves {id now : Int} (hstake : Knows { sure, paid := some id } s) :
    Moves { sure, paid := some id } { sure, paid := some id } s (s.setQuota id (fun _ => true) 0 now) := by
  obtain ⟨row,hrow,rfl,hfailed,hmarker,q,hhistory⟩ := hstake.paid _ rfl
  have hedit := permits_setQuota hs hrow (fun _ => true) 0 now fun _ => by
    rw [hhistory]
    exact .paid q hfailed rfl rfl
  exact permitted_moves hs hedit (fun _ _ _ hzero _ => hzero.symm) hstake

theorem insert_moves {task : Task} (hid : task.id=s.nextId) {stake : Stake} (hstake : Knows stake s) :
    Moves stake stake s (s.insert task) := by
  have hlog : ∀ id, id≠s.nextId → history (s.insert task).log id=history s.log id := by
    intro id hne
    rw [PollState.insert,history_append]
    split
    · rw [history,history,filter_cons_of_neg (by simpa [PollEvent.concerns,hid] using Ne.symm hne),filter_nil, append_nil]
    · exact append_nil _
  have hne : ∀ row∈s.rows, row.id≠s.nextId := fun row hrow => Int.ne_of_lt (hs.id_lt row hrow)
  have hnew : Books (history (s.insert task).log task.id) task := by
    rw [PollState.insert,history_append,hs.unborn _ hid.ge,nil_append]
    by_cases hfailed : task.status=taskStatusFailure
    · rw [if_pos hfailed,history,filter_cons_of_pos (by exact decide_eq_true rfl),filter_nil]
      exact .owed task.quota hfailed rfl (.inl rfl)
    · rw [if_neg hfailed]
      by_cases hsuccess : task.status=taskStatusSuccess
      · exact .succeeded hsuccess (by simp [history])
      · exact .running (fun h => h.elim hsuccess hfailed) rfl
  have hkeeps : Keeps s (s.insert task) := fun row hrow => ⟨row,mem_append_left _ hrow,rfl,fun _ => rfl⟩
  have hknows : ∀ {k : Stake}, Knows k s → Knows k (s.insert task) := fun {k} hk => hk.keep hkeeps (fun claim hclaim => by
      obtain ⟨row,hrow,hrowid,hfailed,hzero,hhistory⟩ := hk.claim claim hclaim
      exact ⟨row,mem_append_left _ hrow,hrowid,hfailed,hzero,(hlog _ (hrowid ▸ hne row hrow)).trans hhistory⟩)
    fun id hpaid => by
      obtain ⟨row,hrow,hrowid,hfailed,hzero,q,hhistory⟩ := hk.paid id hpaid
      exact ⟨row,mem_append_left _ hrow,hrowid,hfailed,hzero,q,(hlog _ (hrowid ▸ hne row hrow)).trans hhistory⟩
  refine ⟨⟨?_,fun row hrow => ?_,fun row hrow => ?_,fun id hlt => ?_⟩,hkeeps,hknows hstake,fun k hk hapart => ⟨hknows hk,hapart⟩⟩
  · exact hs.ids.append (lookup_eq_none.mpr fun row hrow => hid ▸ hne row hrow)
  · rcases mem_append.mp hrow with hrow | hrow
    · exact Int.lt_trans (hs.id_lt row hrow) (Int.lt_succ _)
    rw [mem_singleton.mp hrow,hid]
    exact Int.lt_succ _
  · rcases mem_append.mp hrow with hrow | hrow
    · rw [hlog _ (hne row hrow)]
      exact hs.books row hrow
    · rw [mem_singleton.mp hrow]
      exact hnew
  · have hlt' : s.nextId+1 ≤ id := hlt
    rw [hlog id (by omega)]
    exact hs.unborn id (by omega)

end

end Steps

end NewApi.Polling
