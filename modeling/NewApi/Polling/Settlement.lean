import NewApi.Polling.Money

/-! The passes of the task poller keep the books of the tasks, in any interleaving in which they stay clear of tasks that are over. -/
namespace NewApi.Polling
open List Holdings Keyed Programs Runs Threads

section Calls
variable {config : PollConfig}

abbrev Fair (config : PollConfig) (stake : Stake) (code : Code) : Prop :=
  Owns Sound Keeps Knows Distinct (pollExec config) (fun s _ op => Orderly s op) code stake

variable {sure : List (Int×TaskStatus)}

theorem Fair.more {sure' : List (Int×TaskStatus)} {claim : Option (Int×Int)} {paid : Option Int} {code : Code}
    (h : Fair config { sure := sure' } code) (hsub : sure' ⊆ sure) : Fair config { sure, claim, paid } code :=
  h.weaken (fun _ _ hk => ⟨fun known hknown => hk.terminal known (hsub hknown),fun known hknown => hk.sure known (hsub hknown),
    nofun,nofun⟩) fun _ _ => nofun

def PollOp.quiet : PollOp → Bool
  | .insert _ | .updateWithStatus _ _ | .bulkFail _ _ | .claimQuota _ _ _ | .restoreQuota _ _ | .refundFunding _ _
  | .recordQuota _ _ _ | .settling _ _ => false
  | _ => true

theorem history_silent {s : PollState} {event : PollEvent} (h : ∀ id, event.concerns id=false) (id : Int) :
    history (s.record event).log id=history s.log id := history_record_other (h id)

variable {op : PollOp}

theorem exec_quiet (config : PollConfig) (s : PollState) (c : PollChoice) (hop : op.quiet=true) :
    (pollExec config s c op).1.rows=s.rows ∧ (pollExec config s c op).1.nextId=s.nextId ∧
      ∀ id, history (pollExec config s c op).1.log id=history s.log id := by
  cases op with
  | clock | ctxErr | timedOutTasks | unrefundedTasks | settleFunding | findChannel => exact ⟨rfl,rfl,fun _ => rfl⟩
  | unfinishedTasks limit =>
    rw [pollExec]
    split
    · exact ⟨rfl,rfl,fun _ => rfl⟩
    · exact ⟨rfl,rfl,fun _ => rfl⟩
  | fetchVideo | fetchSuno =>
    rw [pollExec]
    split
    · exact ⟨rfl,rfl,history_silent fun _ => rfl⟩
    · exact ⟨rfl,rfl,fun _ => rfl⟩
  | applyVideo channelId upstreamID address body =>
    rw [pollExec]
    split
    · exact ⟨rfl,rfl,fun _ => rfl⟩
    · exact ⟨rfl,rfl,history_silent fun _ => rfl⟩
  | applySuno channelId address item =>
    rw [pollExec]
    split
    · exact ⟨rfl,rfl,fun _ => rfl⟩
    split
    · exact ⟨rfl,rfl,history_silent fun _ => rfl⟩
    · exact ⟨rfl,rfl,fun _ => rfl⟩
  | _ => cases hop

variable {stake : Stake}

theorem Fair.asks (hop : op.quiet=true) {next : PollAns op → Code}
    (hnext : ∀ s c, Fair config stake (next (pollExec config s c op).2)) : Fair config stake (.call op next) := by
  intro s c hs hstake _
  obtain ⟨hrows,hid,hlog⟩ := exec_quiet config s c hop
  exact ⟨stake,quiet_moves hs hrows hid hlog hstake,hnext s c⟩

theorem Fair.plain (hop : op.quiet=true) {next : PollAns op → Code} (hnext : ∀ a, Fair config stake (next a)) :
    Fair config stake (.call op next) := .asks hop fun _ _ => hnext _

variable {address : Option Nat}

theorem recordQuota_moves {s : PollState} (c : PollChoice) {id quota : Int} (hs : Sound s) (hstake : Knows stake s)
    (hset : ∀ s', Sound s' → Knows stake s' → Moves stake stake s' (s'.setQuota id (fun _ => true) quota c.clock)) :
    Moves stake stake s (pollExec config s c (.recordQuota address id quota)).1 := by
  rw [pollExec]
  have hcopies : ∀ copies, Moves stake stake s { s with copies } := fun copies => by
    refine quiet_moves hs ?_ ?_ (fun id => ?_) hstake <;> rfl
  have htrans : ∀ a b c, Keeps a b → Keeps b c → Keeps a c := fun _ _ _ => Keeps.trans
  dsimp only
  split
  · exact hcopies _
  · exact (hcopies _).trans htrans (hset _ (hcopies _).inv (hcopies _).know)

variable {task : Task} {next : Code}

theorem refund_fair {was : Option TaskStatus} (hfailed : (task.id,taskStatusFailure)∈sure) (hnext : Fair config { sure } next) :
    Fair config { sure } (refundTaskQuotaWithClaim address task was next) := by
  rw [refundTaskQuotaWithClaim]
  split
  · exact hnext
  next hquota =>
    intro s c hs hstake _
    rw [pollExec]
    split
    · exact ⟨_,.refl Keeps.refl hs hstake,hnext⟩
    obtain ⟨hlost,hwon⟩ := claim_moves c.clock hs hfailed hquota hstake
    cases hclaimed : s.rows.any fun row => decide (row.id=task.id) && decide (row.quota=task.quota) with
    | false => exact ⟨_,hlost,hnext⟩
    | true =>
      refine ⟨_,hwon hclaimed,fun s c hs hstake _ => ?_⟩
      rw [pollExec]
      split
      · refine ⟨_,.refl Keeps.refl hs hstake,fun s c hs hstake _ => ?_⟩
        rw [pollExec]
        split
        · exact ⟨_,.refl Keeps.refl hs hstake,hnext.more (List.Subset.refl _)⟩
        · exact ⟨_,restore_moves hs hstake,hnext⟩
      · refine ⟨_,credited_moves hs hstake,fun s c hs hstake _ => ?_⟩
        exact ⟨_,recordQuota_moves c hs hstake fun s' hs' hk' => clear_moves hs' hk',hnext.more (List.Subset.refl _)⟩

theorem recalculate_fair {actualQuota : Int} (hsuccess : (task.id,taskStatusSuccess)∈sure) (hnext : Fair config { sure } next) :
    Fair config { sure } (recalculateTaskQuota address task actualQuota next) := by
  rw [recalculateTaskQuota]
  split
  · exact hnext
  refine .plain rfl fun a => ?_
  cases a with
  | false => exact hnext
  | true =>
    intro s c hs hstake _
    exact ⟨_,recordQuota_moves c hs hstake fun s' hs' hk' => recalculate_moves hs' hsuccess hk',hnext⟩

theorem settle_fair {info : TaskInfo} {was : TaskStatus} (hsuccess : (task.id,taskStatusSuccess)∈sure)
    (hnext : Fair config { sure } next) :
    Fair config { sure } (settleTaskBillingOnComplete config address task info was next) := by
  intro s c hs hstake _
  refine ⟨_,settled_moves hs hsuccess hstake,?_⟩
  split
  · exact hnext
  · exact recalculate_fair hsuccess hnext

theorem updateWithStatus_fair {fromStatus : TaskStatus} {next : Option Bool → Code}
    (hlost : ∀ a, a≠some true → Fair config { sure } (next a)) (hopen : ¬Terminal task.status → Fair config { sure } (next (some true)))
    (hover : Terminal task.status → Fair config { sure := (task.id,task.status)::sure } (next (some true))) :
    Fair config { sure } (.call (.updateWithStatus task fromStatus) next) := by
  intro s c hs hstake hok
  rw [pollExec]
  split
  · exact ⟨_,.refl Keeps.refl hs hstake,hlost _ nofun⟩
  obtain ⟨hmoves,hwon⟩ := updateWithStatus_moves task c.clock hs hok hstake
  cases hswapped : s.rows.any fun row => decide (row.id=task.id) && decide (row.status=fromStatus) with
  | false => exact ⟨_,hmoves,hlost _ nofun⟩
  | true =>
    by_cases hterminal : Terminal task.status
    · exact ⟨_,hwon hswapped hterminal,hover hterminal⟩
    · exact ⟨_,hmoves,hopen hterminal⟩

section
variable (hnext : Fair config {} next)
include hnext

theorem timeOutTasks_fair {now : Int} (tasks : List Task) : Fair config {} (timeOutTasks config now next tasks) := by
  induction tasks with
  | nil => exact hnext
  | cons task rest ih =>
    rw [timeOutTasks]
    refine updateWithStatus_fair (fun a ha => ?_) (fun hopen => ?_) fun _ => ?_
    · split
      · exact absurd rfl ha
      · exact ih
    · exact absurd (.inr (by rw [Task.timeOut]; dsimp only; split <;> rfl)) hopen
    · dsimp only
      split
      · exact ih.more (nil_subset _)
      refine refund_fair ?_ (ih.more (nil_subset _))
      rw [show (task.timeOut now config.timeoutMinutes).status=taskStatusFailure by rw [Task.timeOut]; dsimp only; split <;> rfl]
      exact mem_cons_self

theorem sweepTimedOutTasks_fair : Fair config {} (sweepTimedOutTasks config next) := by
  rw [sweepTimedOutTasks]
  split
  · exact hnext
  refine .plain rfl fun time => .plain rfl fun tasks => ?_
  split
  · exact hnext
  · exact .plain rfl fun now => timeOutTasks_fair hnext _

theorem refundTasks_fair (tasks : List Task) :
    Fair config { sure := tasks.map fun task => (task.id,taskStatusFailure) } (refundTasks next tasks) := by
  induction tasks with
  | nil => exact hnext
  | cons task rest ih =>
    refine .plain rfl fun a => ?_
    cases a with
    | true => exact hnext.more (nil_subset _)
    | false => exact refund_fair mem_cons_self (ih.more (subset_cons_self _ _))

theorem sweepUnrefundedFailedTasks_fair : Fair config {} (sweepUnrefundedFailedTasks next) := by
  refine .plain rfl fun time s c hs _ _ => ⟨_,?_,refundTasks_fair hnext _⟩
  rw [pollExec]
  refine ⟨hs,.refl s,⟨fun known hknown => ?_,fun known hknown => ?_,nofun,nofun⟩,fun k hk _ => ⟨hk,nofun⟩⟩
  · obtain ⟨task,-,rfl⟩ := mem_map.mp hknown
    exact .inr rfl
  · obtain ⟨task,htask,rfl⟩ := mem_map.mp hknown
    dsimp only at htask
    split at htask
    · cases htask
    obtain ⟨hrow,hunrefunded⟩ := mem_filter.mp (mem_of_mem_take htask)
    rw [Task.unrefunded,Bool.and_eq_true,Bool.and_eq_true,Bool.and_eq_true,decide_eq_true_eq] at hunrefunded
    exact ⟨task,hrow,rfl,hunrefunded.1.1.1⟩

end

theorem bulkFail_fair {ids : List Int} {reason : Option String} {next : Bool → Code} (hnext : ∀ a, Fair config {} (next a)) :
    Fair config {} (.call (.bulkFail ids reason) next) := by
  intro s c hs hstake hok
  refine ⟨{},?_,hnext _⟩
  rw [pollExec]
  split
  · exact .refl Keeps.refl hs hstake
  · exact bulkFail_moves hs hok hstake

theorem failNullTasks_fair (tasks : List CopyRef) (platforms : List String) : Fair config {} (failNullTasks tasks platforms) := by
  induction platforms with
  | nil => trivial
  | cons platform rest ih =>
    refine .plain rfl fun a => ?_
    cases a with
    | true => trivial
    | false =>
      dsimp only
      split
      · exact ih
      · exact bulkFail_fair fun _ => ih

variable {tasks : List CopyRef} {taskIds : List String}

theorem failChannel_fair {reason : String} (hnext : Fair config {} next) :
    Fair config {} (failChannel tasks taskIds reason next) := by
  rw [failChannel]
  split
  · exact hnext
  · exact bulkFail_fair fun _ => hnext

variable {item : SunoDataResponse}

theorem applySuno_fails (h : sunoFails task item=true) : (applySuno task item).status=taskStatusFailure := if_pos h

variable {channelId : Int}

theorem applySuno_answer (s : PollState) (c : PollChoice) {address : Nat} {applied : Applied Bool}
    (h : (pollExec config s c (.applySuno channelId address item)).2=some applied) (hresult : applied.result=true) :
    applied.after.status=taskStatusFailure := by
  rw [pollExec] at h
  split at h
  · cases h
  split at h
  · cases h
    exact applySuno_fails hresult
  · cases h

theorem updateSunoItems_fair (hnext : Fair config {} next) (items : List SunoDataResponse) :
    Fair config {} (updateSunoItems tasks channelId next items) := by
  induction items with
  | nil => exact hnext
  | cons item rest ih =>
    refine .plain rfl fun a => ?_
    cases a with
    | true => exact hnext
    | false =>
      dsimp only
      split
      · exact ih
      next ref _ =>
        refine .asks rfl fun s c => ?_
        cases happlied : (pollExec config s c (.applySuno channelId ref.1 item)).2 with
        | none => exact ih
        | some applied =>
          have hfails := applySuno_answer s c happlied
          refine updateWithStatus_fair (fun a ha => ?_) (fun hopen => ?_) fun _ => ?_
          · split
            · exact absurd rfl ha
            · exact ih
          · dsimp only
            rw [if_neg fun h => hopen (.inr (hfails h.1))]
            exact ih
          · dsimp only
            split
            next h =>
              rw [hfails h.1]
              exact refund_fair mem_cons_self (ih.more (nil_subset _))
            · exact ih.more (nil_subset _)

theorem updateSunoTasks_fair (hnext : Fair config {} next) : Fair config {} (updateSunoTasks tasks channelId taskIds next) := by
  refine .plain rfl fun a => ?_
  cases a with
  | true => exact hnext
  | false =>
    dsimp only
    split
    · exact hnext
    refine .plain rfl fun a => ?_
    cases a with
    | false => exact failChannel_fair hnext
    | true =>
      refine .plain rfl fun a => ?_
      cases a with
      | none => exact hnext
      | some items => exact updateSunoItems_fair hnext items

theorem updateAllSunoTasks_fair (tasks : List CopyRef) (walk : List (Int×List String)) :
    Fair config {} (updateAllSunoTasks tasks walk) := by
  induction walk with
  | nil => trivial
  | cons channel rest ih =>
    refine .plain rfl fun a => ?_
    cases a with
    | true => trivial
    | false => exact updateSunoTasks_fair ih

theorem finishVideo_fair {address : Nat} {applied : Applied TaskInfo} (hnext : Fair config {} next) :
    Fair config {} (finishVideo config address applied next) := by
  rw [finishVideo]
  split
  next hterminal =>
    refine updateWithStatus_fair (fun a ha => ?_) (fun hopen => absurd hterminal.1 hopen) fun _ => ?_
    · split
      · exact absurd rfl ha
      · exact hnext
    · dsimp only
      rcases hterminal.1 with hstatus | hstatus
      · rw [if_pos hstatus,hstatus]
        exact settle_fair mem_cons_self (hnext.more (nil_subset _))
      · rw [if_neg fun h => failure_ne_success (hstatus.symm.trans h),if_pos hstatus,hstatus]
        exact refund_fair mem_cons_self (hnext.more (nil_subset _))
  next hsame =>
    -- a copy that is over now was over before
    have hbefore : Terminal applied.after.status → Terminal applied.before.status := fun h => by
      by_contra hopen
      exact hsame ⟨h,fun he => hopen (he ▸ h)⟩
    split
    · split
      next hstatus => exact fun s c _ _ hok => absurd (hbefore (.inl hstatus)) hok
      split
      next hstatus =>
        rw [refundTaskQuotaWithClaim]
        split
        · exact hnext
        · exact fun s c _ _ hok => absurd (hbefore (.inr hstatus)) (hok _ rfl)
      · exact hnext
    · by_cases hopen : Terminal applied.after.status
      · exact fun s c _ _ hok => absurd (hbefore hopen) hok
      rw [if_neg fun h => hopen (.inl h),if_neg fun h => hopen (.inr h)]
      exact updateWithStatus_fair (fun _ _ => hnext) (fun _ => hnext) fun h => absurd h hopen

theorem updateVideoSingleTask_fair {taskId : String} (hnext : Fair config {} next) :
    Fair config {} (updateVideoSingleTask config tasks channelId taskId next) := by
  refine .plain rfl fun a => ?_
  cases a with
  | true => exact hnext
  | false =>
    dsimp only
    split
    · exact hnext
    refine .plain rfl fun a => ?_
    cases a with
    | none => exact hnext
    | some body =>
      refine .plain rfl fun a => ?_
      cases a with
      | none => exact hnext
      | some applied => exact finishVideo_fair hnext

theorem updateEachVideo_fair (tasks : List CopyRef) (channelId : Int) (taskIds : List String) :
    Fair config {} (updateEachVideo config tasks channelId taskIds) := by
  induction taskIds with
  | nil => trivial
  | cons taskId rest ih =>
    refine .plain rfl fun a => ?_
    cases a with
    | true => trivial
    | false => exact updateVideoSingleTask_fair ih

theorem updateVideoTasks_fair (tasks : List CopyRef) (channelId : Int) (taskIds : List String) :
    Fair config {} (updateVideoTasks config tasks channelId taskIds) := by
  refine .plain rfl fun a => ?_
  cases a with
  | true => trivial
  | false =>
    dsimp only
    split
    · trivial
    refine .plain rfl fun a => ?_
    cases a with
    | false => exact failChannel_fair (by trivial)
    | true => exact updateEachVideo_fair tasks channelId taskIds

theorem pollProgram_fair (start : Start) : Fair config {} (pollProgram config start) := by
  cases start with
  | submit task =>
    intro s c hs hstake _
    refine ⟨{},?_,trivial⟩
    rw [pollExec]
    split
    · exact .refl Keeps.refl hs hstake
    · exact insert_moves hs rfl hstake
  | pass platforms =>
    exact sweepTimedOutTasks_fair (sweepUnrefundedFailedTasks_fair (.plain rfl fun tasks => failNullTasks_fair tasks platforms))
  | suno tasks walk => exact updateAllSunoTasks_fair tasks walk
  | video tasks channelId taskIds => exact updateVideoTasks_fair tasks channelId taskIds

end Calls

instance (s : PollState) : (op : PollOp) → Decidable (Orderly s op)
  | .bulkFail ids _ => inferInstanceAs (Decidable (∀ row∈s.rows, row.id∈ids → row.status≠taskStatusSuccess))
  | .updateWithStatus _ fromStatus => inferInstanceAs (Decidable (¬Terminal fromStatus))
  | .claimQuota _ _ none => isTrue nofun
  | .claimQuota _ _ (some status) => decidable_of_iff (¬Terminal status) (by simp [Orderly])
  | .settling _ was => inferInstanceAs (Decidable (¬Terminal was))
  | .insert _ | .clock | .ctxErr | .timedOutTasks _ _ | .unrefundedTasks _ _ | .unfinishedTasks _ | .restoreQuota _ _
  | .refundFunding _ _ | .recordQuota _ _ _ | .settleFunding _ _ | .findChannel _ | .fetchVideo _ _ _ | .fetchSuno _ _
  | .applyVideo _ _ _ _ | .applySuno _ _ _ => isTrue trivial

def credits (log : List PollEvent) (id : Int) : List Int :=
  log.filterMap fun | .credited i quota => if i=id then some quota else none | _ => none

def failures (log : List PollEvent) (id : Int) : List Int :=
  log.filterMap fun | .failed i quota => if i=id then some quota else none | _ => none

/-- The money of a task moves once and in its final direction. -/
def MovedOnce (s : PollState) (row : Task) : Prop :=
  (row.status=taskStatusSuccess → credits s.log row.id=[]) ∧
  (row.status=taskStatusFailure → .settled row.id∉s.log) ∧
  (credits s.log row.id=[] ∨ (credits s.log row.id=failures s.log row.id ∧ (credits s.log row.id).length=1))

instance (s : PollState) (row : Task) : Decidable (MovedOnce s row) := inferInstanceAs (Decidable (_ ∧ _ ∧ _))

instance (s s' : PollState) : Decidable (Keeps s s') :=
  inferInstanceAs (Decidable (∀ row∈s.rows, ∃ row'∈s'.rows, row'.id=row.id ∧ (Terminal row.status → row'.status=row.status)))

theorem credits_history (log : List PollEvent) (id : Int) : credits log id=credits (history log id) id := by
  rw [history,credits,credits,filterMap_filter]
  refine filterMap_congr fun e _ => ?_
  cases e <;> simp [PollEvent.concerns]

theorem failures_history (log : List PollEvent) (id : Int) : failures log id=failures (history log id) id := by
  rw [history,failures,failures,filterMap_filter]
  refine filterMap_congr fun e _ => ?_
  cases e <;> simp [PollEvent.concerns]

theorem settled_history {log : List PollEvent} {id : Int} : .settled id∈log ↔ .settled id∈history log id := by
  rw [history,mem_filter]
  exact ⟨fun h => ⟨h,decide_eq_true rfl⟩,And.left⟩

theorem Books.movedOnce {s : PollState} {row : Task} (h : Books (history s.log row.id) row) : MovedOnce s row := by
  rw [MovedOnce,credits_history,failures_history,settled_history]
  rcases h with ⟨-,hevents⟩ | ⟨hsuccess,hsettled⟩ | ⟨quota,hfailed,hevents,-⟩ | ⟨quota,hfailed,hevents,-⟩
  · rw [hevents]
    exact ⟨fun _ => rfl,fun _ => not_mem_nil,.inl rfl⟩
  · have hnone : credits (history s.log row.id) row.id=[] :=
      filterMap_eq_nil_iff.mpr fun e he => by rw [hsettled e he]
    exact ⟨fun _ => hnone,fun h => absurd (h.symm.trans hsuccess) failure_ne_success,.inl hnone⟩
  · rw [hevents]
    exact ⟨fun h => absurd (hfailed.symm.trans h) failure_ne_success,by simp,.inl rfl⟩
  · rw [hevents]
    refine ⟨fun h => absurd (hfailed.symm.trans h) failure_ne_success,by simp,.inr ?_⟩
    simp [credits,failures]

abbrev PollPool := Pool PollState (Thread Start PollOp PollAns Unit)

def noTasks : PollPool := { shared := {}, threads := [] }

abbrev pollAct (config : PollConfig) := (system (pollExec config) (pollProgram config)).act

theorem noTasks_held (config : PollConfig) :
    Held (pollExec config) Sound Keeps Knows Distinct (fun _ s _ op => Orderly s op) noTasks fun _ => {} :=
  ⟨⟨nodup_nil,by simp [noTasks],by simp [noTasks],fun _ _ => rfl⟩,fun i t ht => by simp [noTasks] at ht,
    fun i t ht => by simp [noTasks] at ht,fun i j hi => by simp [noTasks] at hi⟩

theorem run_held {config : PollConfig} {acts : List (Act Start PollChoice)} {p : PollPool} {held : Nat → Stake}
    (hp : Held (pollExec config) Sound Keeps Knows Distinct (fun _ s _ op => Orderly s op) p held)
    (h : Guarded (pollAct config) (Meets (Allowed fun _ s _ op => Orderly s op)) acts p) :
    Keeps p.shared (run (pollAct config) acts p).shared ∧ ∃ held',
      Held (pollExec config) Sound Keeps Knows Distinct (fun _ s _ op => Orderly s op) (run (pollAct config) acts p) held' :=
  hp.run .refl (fun _ _ _ => .trans) (fun hdistinct claim hclaim claim' hclaim' he => hdistinct claim' hclaim' claim hclaim he.symm)
    (fun _ _ => ⟨nofun,nofun,nofun,nofun⟩) (fun _ => nofun) (fun _ => pollProgram_fair _) h

/-- As long as the operations stay clear of tasks that are over, a task that is over stays so, and its money moves once
and in its final direction. -/
theorem task_money_moves_once (config : PollConfig) (acts more : List (Act Start PollChoice))
    (h : Guarded (pollAct config) (Meets (Allowed fun _ s _ op => Orderly s op)) (acts++more) noTasks) :
    Keeps (run (pollAct config) acts noTasks).shared (run (pollAct config) (acts++more) noTasks).shared ∧
      ∀ row∈(run (pollAct config) (acts++more) noTasks).shared.rows, MovedOnce (run (pollAct config) (acts++more) noTasks).shared row := by
  obtain ⟨hacts,hmore⟩ := guarded_append.mp h
  obtain ⟨-,held,hp⟩ := run_held (noTasks_held config) hacts
  obtain ⟨hkeeps,held',hp'⟩ := run_held hp hmore
  rw [run_append]
  exact ⟨hkeeps,fun row hrow => (hp'.inv.books row hrow).movedOnce⟩

def videoTask : Task :=
  { platform := "video", taskID := "task_1", channelId := 1, quota := 100, status := taskStatusInProgress,
    submitTime := 1780000000, perCallBilling := true }

def pollConfig : PollConfig :=
  { timeoutMinutes := 0, queryLimit := 1000, proxyURL := id, adjustBillingOnComplete := fun _ _ => 0, quotaByTokens := fun _ _ => 0 }

def answered (info : TaskInfo) : List (Act Start PollChoice) :=
  [.start (.submit videoTask),.step 0 {}, .start (.pass ["video"]),.step 1 {},.step 1 {},.step 1 {},.step 1 {},
    .start (.pass ["video"]),.step 2 {},.step 2 {},.step 2 {},.step 2 {},
    .start (.video [(0,{ videoTask with id := 1 })] 1 ["task_1"]),.step 3 {},.step 3 {},.step 3 {},.step 3 {},
    .step 3 { video := some { parsed := some info } },.step 3 {},.step 3 {},.step 3 {},.step 3 {},.step 3 {}]

def channelGone : List (Act Start PollChoice) :=
  [.start (.video [(1,{ videoTask with id := 1 })] 1 ["task_1"]),.step 4 {},.step 4 { channel := false },.step 4 {},
    .start (.pass ["video"]),.step 5 { clock := 60 },.step 5 {},.step 5 {},.step 5 {},.step 5 {},.step 5 {}]

theorem settled_task_refunded :
    let act := pollAct pollConfig
    let settled := answered { status := taskStatusSuccess }
    ¬(Keeps (run act settled noTasks).shared (run act (settled++channelGone) noTasks).shared ∧
      ∀ row∈(run act (settled++channelGone) noTasks).shared.rows, MovedOnce (run act (settled++channelGone) noTasks).shared row) := by
  decide +kernel

theorem task_money_moves_once_failed :
    let act := pollAct pollConfig
    let failed := answered (failTaskInfo "no")
    Keeps (run act failed noTasks).shared (run act (failed++channelGone) noTasks).shared ∧
      ∀ row∈(run act (failed++channelGone) noTasks).shared.rows, MovedOnce (run act (failed++channelGone) noTasks).shared row :=
  task_money_moves_once pollConfig (answered (failTaskInfo "no")) channelGone (by decide +kernel)

end NewApi.Polling
