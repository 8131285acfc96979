import NewApi.Lib.Runs
import NewApi.Notifications.Receipts

/-! The deliveries that an event gets, against what the tasks ask for: a task with a window for channel prefixes takes one event of
a prefix in a window, and each of its targets should have that one. -/
namespace NewApi.Notifications
open List Option GoStrings Keyed Runs DeliveryStatus

structure LetThrough where
  taskId : Int
  name : String
  time : Int

/-- A store with the events that tasks took so far and the time of the last call. -/
structure History where
  store : Store
  passed : List LetThrough := []
  clock : Int

inductive Call where
  | enqueue (eventType eventKey : String) (payload : Payload) (now : Int)
  | setStatus (id : Int) (status : DeliveryStatus)
  | prune (taskId : Int)

def InTime (h : History) : Call → Prop
  | .enqueue _ _ _ now => h.clock≤now
  | _ => True

def Store.window (db : Store) (payload : Payload) (taskId : Int) : Option Int :=
  (db.task taskId).bind fun task => dedupWindow taskId task.filterConfig payload

/-- A receipt of the key is younger than receipts get, or a delivery of its event is not over. -/
def Known (db : Store) (eventType eventKey : String) (now : Int) : Prop :=
  (∃ r∈db.receipts, r.dedupeKey=notificationEventDedupeKey eventType eventKey ∧ now-r.createdAt<receiptTTLSeconds) ∨
  ∃ e∈db.events, e.eventType=eventType ∧ e.eventKey=eventKey ∧ ∃ d∈db.deliveries, d.eventId=e.id ∧ d.status.terminal=false

def keptDeliveries (db : Store) (eventType eventKey : String) : List NotificationDelivery :=
  db.deliveries.filter fun d =>
    db.events.all fun e => !(decide (e.eventType=eventType) && decide (e.eventKey=eventKey) && decide (e.id=d.eventId))

section Lower
variable (lower : String → String)

def History.recorded (h : History) (payload : Payload) (now : Int) (db : Store) : History where
  store := db
  passed := if payloadPrefix payload="" then h.passed
    else h.passed++(db.deliveries.filter fun d => d.eventId=h.store.nextEventId).map fun d =>
      ⟨d.taskId,lower (payloadPrefix payload),now⟩
  clock := now

def History.step (h : History) : Call → History
  | .enqueue eventType eventKey payload now =>
    match enqueueNotificationEventTx lower h.store eventType eventKey payload now with
    | none => { h with clock := now }
    | some (_,db) => h.recorded lower payload now db
  | .setStatus id status =>
    { h with store := { h.store with
        deliveries := modify NotificationDelivery.id id (fun d => { d with status := status }) h.store.deliveries } }
  | .prune taskId => { h with store := pruneNotificationHistoryForTaskTx h.store taskId }

/-- An earlier event of the prefix within the task's window. -/
def History.heldBack (h : History) (payload : Payload) (now taskId : Int) : Bool :=
  match h.store.window payload taskId with
  | none => false
  | some window => h.passed.any fun e =>
      decide (e.taskId=taskId) && decide (e.name=lower (payloadPrefix payload)) && decide (now-e.time<window)

def History.due (h : History) (eventType : String) (payload : Payload) (now : Int) (target : NotificationTarget) : Bool :=
  match h.store.task target.taskId with
  | none => false
  | some task => target.enabled && task.enabled && ((h.store.bot task.botId).any NotificationBot.enabled) &&
      decide (task.eventType=eventType) && decide (task.activeAfterEventId<h.store.nextEventId) &&
      notificationTaskFilterMatches lower task.filterConfig payload && !h.heldBack lower payload now target.taskId

def History.dueTargets (h : History) (eventType : String) (payload : Payload) (now : Int) : List NotificationTarget :=
  h.store.targets.filter (h.due lower eventType payload now)

/-- What a call should do: nothing to the deliveries for an event that is known, and else one delivery for each target that should
have the event. -/
structure FansOut (h : History) (eventType eventKey : String) (payload : Payload) (now : Int)
    (result : NotificationEnqueueResult) (db' : Store) : Prop where
  known : Known h.store eventType eventKey now → result.status=.duplicate ∧ db'.deliveries=h.store.deliveries
  fresh : ¬Known h.store eventType eventKey now → result.status≠.duplicate ∧ ∃ created,
    db'.deliveries=keptDeliveries h.store eventType eventKey++created ∧
    created.map (fun d => (d.eventId,d.taskId,d.targetId,d.status)) =
      (h.dueTargets lower eventType payload now).map fun t => (h.store.nextEventId,t.taskId,t.id,.pending)

/-- No task that has a window has two targets that should have the event. -/
def History.OneTargetEach (h : History) (eventType : String) (payload : Payload) (now : Int) : Prop :=
  (h.dueTargets lower eventType payload now).Pairwise fun a b =>
    (h.store.window payload a.taskId).isSome → a.taskId≠b.taskId

end Lower

structure Store.Fresh (db : Store) : Prop where
  events : db.events=[]
  receipts : db.receipts=[]
  deliveries : db.deliveries=[]

def Store.taskWindow (db : Store) (taskId : Int) : Option Int :=
  (db.task taskId).bind fun task => Notifications.taskWindow taskId task.filterConfig

/-- The markers tell when an event of a prefix was last let through to a task, unless that is longer ago than a window is. -/
def Marked (passed : List LetThrough) (clock : Int) (db : Store) : Prop :=
  ∀ taskId name, (db.taskWindow taskId).isSome →
    match db.stamp (.channelNamePrefix taskId name) with
    | some t => t≤clock ∧ ⟨taskId,name,t⟩∈passed ∧ ∀ e∈passed, e.taskId=taskId → e.name=name → e.time≤t
    | none => ∀ e∈passed, e.taskId=taskId → e.name=name → e.time≤clock-receiptTTLSeconds

structure History.Sound (h : History) : Prop where
  receipted : Receipted h.store
  events : Keyed.Unique (fun e : NotificationEvent => (e.eventType,e.eventKey)) h.store.events
  marked : Marked h.passed h.clock h.store
  deliveries : ∀ d∈h.store.deliveries, d.eventId<h.store.nextEventId
  event_lt : ∀ e∈h.store.events, e.id<h.store.nextEventId

variable {db db' : Store}

theorem SameTables.task (h : SameTables db db') (taskId : Int) : db'.task taskId=db.task taskId := by
  rw [Store.task,Store.task,h.tasks]

theorem SameTables.taskWindow (h : SameTables db db') (taskId : Int) : db'.taskWindow taskId=db.taskWindow taskId := by
  rw [Store.taskWindow,Store.taskWindow,h.task]

theorem window_eq (db : Store) (payload : Payload) (taskId : Int) :
    db.window payload taskId = if payloadPrefix payload="" then none else db.taskWindow taskId := by
  rw [Store.window,Store.taskWindow]
  cases db.task taskId <;> simp [dedupWindow]

theorem Marked.keep {passed : List LetThrough} {clock now : Int} (h : Marked passed clock db) (hnow : clock≤now)
    (hwindow : ∀ taskId, db'.taskWindow taskId=db.taskWindow taskId)
    (hstamp : ∀ taskId name, Fades now (db.stamp (.channelNamePrefix taskId name)) (db'.stamp (.channelNamePrefix taskId name))) :
    Marked passed now db' := by
  intro taskId name hsome
  rw [hwindow] at hsome
  have hold := h taskId name hsome
  rcases hstamp taskId name with heq | ⟨hnone,hgone⟩
  · rw [heq]
    cases hs : db.stamp (.channelNamePrefix taskId name) with
    | some t =>
      rw [hs] at hold
      exact ⟨hold.1.trans hnow,hold.2⟩
    | none =>
      rw [hs] at hold
      exact fun e he htask hname => (hold e he htask hname).trans (by omega)
  · rw [hnone]
    intro e he htask hname
    cases hs : db.stamp (.channelNamePrefix taskId name) with
    | some t =>
      rw [hs] at hold
      exact (hold.2.2 e he htask hname).trans (hgone t hs)
    | none =>
      rw [hs] at hold
      exact (hold e he htask hname).trans (by omega)

section Loop
variable (lower : String → String) (payload : Payload) (now : Int)

theorem heldBack_eq {h : History} (hmarked : Marked h.passed now h.store) {taskId : Int} {task : NotificationTask}
    (htask : h.store.task taskId=some task) :
    h.heldBack lower payload now taskId=blocked lower h.store payload now taskId task.filterConfig := by
  have hwindow : h.store.window payload taskId=dedupWindow taskId task.filterConfig payload := by
    rw [Store.window,htask,bind_some]
  rw [History.heldBack,blocked,hwindow]
  cases hw : dedupWindow taskId task.filterConfig payload with
  | none => rfl
  | some window =>
    obtain ⟨-,htaskWindow⟩ := dedupWindow_some hw
    have hbounds := taskWindow_bounds htaskWindow
    have hsome : (h.store.taskWindow taskId).isSome := by
      rw [Store.taskWindow,htask,bind_some,htaskWindow]
      rfl
    have hmark := hmarked taskId (lower (payloadPrefix payload)) hsome
    rw [show DedupeKey.channelNamePrefix taskId (lower (payloadPrefix payload))=markerKey lower payload taskId from rfl] at hmark
    rw [Bool.eq_iff_iff,List.any_eq_true]
    simp only [Bool.and_eq_true,decide_eq_true_eq]
    cases hs : h.store.stamp (markerKey lower payload taskId) with
    | none =>
      rw [hs] at hmark
      refine ⟨?_,fun hfalse => by cases hfalse⟩
      rintro ⟨e,he,⟨htask',hname⟩,hlt⟩
      have := hmark e he htask' hname
      simp only [channelPrefixDedupMaxSeconds,receiptTTLSeconds] at hbounds this
      omega
    | some t =>
      rw [hs] at hmark
      obtain ⟨-,hmem,hlast⟩ := hmark
      rw [decide_eq_true_eq]
      constructor
      · rintro ⟨e,he,⟨htask',hname⟩,hlt⟩
        have := hlast e he htask' hname
        omega
      · exact fun hlt => ⟨_,hmem,⟨rfl,rfl⟩,hlt⟩

def limited (window : Int → Option Int) (s : NotificationSubscriber) : Option Int :=
  if (window s.taskId).isSome then some s.taskId else none

theorem filterSubscribers_spec (window : Int → Option Int) (held : Int → Bool) (subs : List NotificationSubscriber)
    (hwindow : ∀ s∈subs, dedupWindow s.taskId s.filterConfig payload=window s.taskId) {db : Store} (hdb : Receipted db)
    (seen : List Int) (hseen : ∀ s∈subs, blocked lower db payload now s.taskId s.filterConfig =
      (held s.taskId || ((window s.taskId).isSome && decide (s.taskId∈seen)))) :
    let filtered := filterSubscribers lower payload now db subs
    filtered.1=firstsSome (limited window) seen
      (subs.filter fun s => notificationTaskFilterMatches lower s.filterConfig payload && !held s.taskId) ∧
    SameTables db filtered.2 ∧ Receipted filtered.2 ∧
    ∀ key, filtered.2.stamp key =
      if ∃ s∈filtered.1, (window s.taskId).isSome ∧ key=markerKey lower payload s.taskId then some now else db.stamp key := by
  induction subs generalizing db seen with
  | nil => exact ⟨rfl,.refl db,hdb,fun key => by simp [filterSubscribers]⟩
  | cons s rest ih =>
    have hwindow' : ∀ s∈rest, dedupWindow s.taskId s.filterConfig payload=window s.taskId :=
      fun x hx => hwindow x (mem_cons_of_mem s hx)
    have hrest : ∀ x∈rest, blocked lower db payload now x.taskId x.filterConfig =
        (held x.taskId || ((window x.taskId).isSome && decide (x.taskId∈seen))) :=
      fun x hx => hseen x (mem_cons_of_mem s hx)
    rw [filterSubscribers]
    by_cases hmatch : notificationTaskFilterMatches lower s.filterConfig payload=false
    · rw [if_pos hmatch,filter_cons_of_neg (by simp [hmatch])]
      exact ih hwindow' hdb seen hrest
    · rw [if_neg hmatch]
      rw [Bool.not_eq_false] at hmatch
      have hdeduped := deduped_spec lower hdb s.taskId s.filterConfig payload now
      have hsame : SameTables db _ := deduped_same lower s.taskId s.filterConfig payload now
      generalize notificationTaskPrefixDeduped lower db s.taskId s.filterConfig payload now=answer at hdeduped hsame
      obtain ⟨skipped,db'⟩ := answer
      obtain ⟨hskipped,hdb',hstamp⟩ := hdeduped
      simp only at hskipped hdb' hstamp hsame
      have hs := hseen s mem_cons_self
      rw [← hskipped] at hs
      have hsw := hwindow s mem_cons_self
      rw [hsw] at hstamp
      -- an answer that leaves the markers leaves the rest as it was
      have hnext : (∀ key, db'.stamp key=db.stamp key) → ∀ x∈rest, blocked lower db' payload now x.taskId x.filterConfig =
          (held x.taskId || ((window x.taskId).isSome && decide (x.taskId∈seen))) := by
        intro hdbstamp x hx
        rw [← hrest x hx,blocked,blocked,hdbstamp]
      cases skipped with
      | true =>
        have hdbstamp : ∀ key, db'.stamp key=db.stamp key := fun key => by simpa using hstamp key
        obtain ⟨hfirst,hsame',hreceipted,hfinal⟩ := ih hwindow' hdb' seen (hnext hdbstamp)
        refine ⟨?_,hsame.trans hsame',hreceipted,fun key => (hfinal key).trans (by rw [hdbstamp])⟩
        rw [hfirst]
        by_cases hheld : held s.taskId=true
        · rw [filter_cons_of_neg (by simp [hheld])]
        rw [filter_cons_of_pos (by simp [hmatch,hheld]),firstsSome,limited]
        simp only [hheld,Bool.false_or,eq_comm (a := true),Bool.and_eq_true,decide_eq_true_eq] at hs
        rw [if_pos hs.1]
        simp only [if_pos hs.2]
      | false =>
        have hs := (Bool.or_eq_false_iff.mp hs.symm)
        simp only [true_and] at hstamp
        cases hw : window s.taskId with
        | none =>
          have hdbstamp : ∀ key, db'.stamp key=db.stamp key := fun key => by simpa [hw] using hstamp key
          obtain ⟨hfirst,hsame',hreceipted,hfinal⟩ := ih hwindow' hdb' seen (hnext hdbstamp)
          refine ⟨?_,hsame.trans hsame',hreceipted,fun key => ?_⟩
          · rw [filter_cons_of_pos (by simp [hmatch,hs.1]),firstsSome,limited,hw]
            exact congrArg (s :: ·) hfirst
          · rw [hfinal key,hdbstamp]
            refine if_congr ?_ rfl rfl
            simp [hw]
        | some w =>
          have hpos : 0<w := (taskWindow_bounds (dedupWindow_some (hsw.trans hw)).2).1
          have hnotSeen : s.taskId∉seen := by
            have := hs.2
            rw [hw] at this
            simpa using this
          have hnext : ∀ x∈rest, blocked lower db' payload now x.taskId x.filterConfig =
              (held x.taskId || ((window x.taskId).isSome && decide (x.taskId∈s.taskId::seen))) := by
            intro x hx
            by_cases hsameTask : x.taskId=s.taskId
            · have hxw := hwindow' x hx
              rw [hsameTask,hw] at hxw
              rw [blocked,hsameTask,hxw,hstamp]
              simp [hw,hpos]
            · have hne : markerKey lower payload x.taskId≠markerKey lower payload s.taskId := by
                simpa [markerKey,notificationPrefixDedupKey] using hsameTask
              have hold := hrest x hx
              rw [blocked] at hold ⊢
              rw [hstamp,if_neg (by simp [hne]),hold]
              simp [hsameTask]
          obtain ⟨hfirst,hsame',hreceipted,hfinal⟩ := ih hwindow' hdb' (s.taskId::seen) hnext
          refine ⟨?_,hsame.trans hsame',hreceipted,fun key => ?_⟩
          · rw [filter_cons_of_pos (by simp [hmatch,hs.1]),firstsSome,limited,hw]
            simp only [isSome_some,if_true,if_neg hnotSeen]
            exact congrArg (s :: ·) hfirst
          · rw [hfinal key,hstamp key,hw]
            by_cases hkey : key=markerKey lower payload s.taskId
            · subst hkey
              simp [hw]
            · simp [hkey,hw]

theorem createDeliveries_spec (eventId : Int) (subs : List NotificationSubscriber) (db : Store) :
    let db' := subs.foldl (createDelivery eventId now) db
    (∃ created, db'.deliveries=db.deliveries++created ∧ created.map (fun d => (d.eventId,d.taskId,d.targetId,d.status)) =
        subs.map fun s => (eventId,s.taskId,s.targetId,pending)) ∧
    db'.bots=db.bots ∧ db'.tasks=db.tasks ∧ db'.targets=db.targets ∧ db'.events=db.events ∧
      db'.receipts=db.receipts ∧ db'.nextEventId=db.nextEventId ∧ db'.nextReceiptId=db.nextReceiptId := by
  induction subs generalizing db with
  | nil => exact ⟨⟨[],by simp,rfl⟩,rfl,rfl,rfl,rfl,rfl,rfl,rfl⟩
  | cons s rest ih =>
    obtain ⟨⟨created,hcreated,hmap⟩,hrest⟩ := ih (createDelivery eventId now db s)
    refine ⟨⟨pendingDelivery db.nextDeliveryId eventId now s::created,?_,?_⟩,hrest⟩
    · rw [foldl_cons,hcreated,createDelivery,append_assoc]
      rfl
    · rw [map_cons,map_cons,hmap]
      rfl

end Loop

section Fanning
variable (lower : String → String) {h : History} (eventType eventKey : String) (payload : Payload) (now : Int)

def History.dueSubscribers (h : History) : List NotificationSubscriber :=
  (subscribers h.store eventType h.store.nextEventId).filter fun s =>
    notificationTaskFilterMatches lower s.filterConfig payload && !h.heldBack lower payload now s.taskId

variable {db db' : Store}

theorem subscription_some {eventId : Int} {target : NotificationTarget} {s : NotificationSubscriber}
    (hs : subscription db eventType eventId target=some s) :
    s.targetId=target.id ∧ s.taskId=target.taskId ∧ ∃ task, db.task target.taskId=some task ∧
      s.filterConfig=task.filterConfig := by
  rw [subscription,bind_eq_some_iff] at hs
  obtain ⟨task,htask,hs⟩ := hs
  obtain ⟨bot,-,hs⟩ := bind_eq_some_iff.mp hs
  rw [ite_none_right_eq_some,Option.some.injEq] at hs
  obtain ⟨-,rfl⟩ := hs
  exact ⟨rfl,rfl,task,htask,rfl⟩

theorem due_eq (target : NotificationTarget) :
    h.due lower eventType payload now target=(subscription h.store eventType h.store.nextEventId target).any fun s =>
      notificationTaskFilterMatches lower s.filterConfig payload && !h.heldBack lower payload now s.taskId := by
  rw [History.due,subscription]
  cases h.store.task target.taskId with
  | none => rfl
  | some task =>
    rw [bind_some]
    cases hbot : h.store.bot task.botId with
    | none => simp [hbot]
    | some bot =>
      simp only [hbot,any_some,bind_some]
      by_cases hc : (task.enabled && target.enabled && bot.enabled && decide (task.eventType=eventType) &&
          decide (task.activeAfterEventId<h.store.nextEventId))=true
      · rw [if_pos hc,any_some]
        simp only [Bool.and_eq_true] at hc
        simp [hc.1.1.1.1,hc.1.1.1.2,hc.1.1.2,hc.1.2,hc.2]
      · rw [if_neg hc,any_none]
        rw [Bool.not_eq_true] at hc
        revert hc
        cases task.enabled <;> cases target.enabled <;> cases bot.enabled <;>
          cases decide (task.eventType=eventType) <;>
          cases decide (task.activeAfterEventId<h.store.nextEventId) <;> simp

theorem map_dueSubscribers {γ : Type} (f : Int → Int → γ) :
    (h.dueSubscribers lower eventType payload now).map (fun s => f s.taskId s.targetId) =
      (h.dueTargets lower eventType payload now).map fun t => f t.taskId t.id := by
  refine map_filter_filterMap (due_eq lower eventType payload now) ?_ _
  intro t s hs
  obtain ⟨htarget,htask,-⟩ := subscription_some eventType hs
  rw [htarget,htask]

variable {subs : List NotificationSubscriber}

theorem newDeliveries_eq {old created : List NotificationDelivery} (hold : ∀ d∈old, d.eventId<h.store.nextEventId)
    (hdeliveries : db'.deliveries=old++created)
    (hcreated : created.map (fun d => (d.eventId,d.taskId,d.targetId,d.status)) =
      subs.map fun s => (h.store.nextEventId,s.taskId,s.targetId,pending)) {γ : Type} (f : Int → γ) :
    ((db'.deliveries.filter fun d => d.eventId=h.store.nextEventId).map fun d => f d.taskId) =
      subs.map fun s => f s.taskId := by
  have hids : ∀ d∈created, d.eventId=h.store.nextEventId := by
    intro d hd
    have hmem := mem_map_of_mem (f := fun d : NotificationDelivery => (d.eventId,d.taskId,d.targetId,d.status)) hd
    rw [hcreated] at hmem
    obtain ⟨s,-,hs⟩ := mem_map.mp hmem
    exact (congrArg Prod.fst hs).symm
  have hnone : old.filter (fun d => decide (d.eventId=h.store.nextEventId))=[] :=
    filter_eq_nil_iff.mpr fun d hd => by simpa using (hold d hd).ne
  have hnew : created.filter (fun d => decide (d.eventId=h.store.nextEventId))=created :=
    filter_eq_self.mpr fun d hd => decide_eq_true (hids d hd)
  rw [hdeliveries,filter_append,hnone,hnew,nil_append]
  have htasks := congrArg (map fun q : Int×Int×Int×DeliveryStatus => f q.2.1) hcreated
  simpa only [List.map_map,Function.comp_def] using htasks

theorem recorded_marked (hs : h.Sound) (hclock : h.clock=now)
    (htasks : ∀ taskId, db'.taskWindow taskId=h.store.taskWindow taskId) (hstamp : ∀ key, db'.stamp key =
      if ∃ s∈subs, (h.store.window payload s.taskId).isSome ∧ key=markerKey lower payload s.taskId then some now
      else h.store.stamp key) (hnew : ((db'.deliveries.filter fun d => d.eventId=h.store.nextEventId).map fun d =>
      (⟨d.taskId,lower (payloadPrefix payload),now⟩ : LetThrough)) =
        subs.map fun s => ⟨s.taskId,lower (payloadPrefix payload),now⟩) :
    Marked (h.recorded lower payload now db').passed now db' := by
  by_cases hprefix : payloadPrefix payload=""
  · rw [History.recorded,if_pos hprefix]
    refine hs.marked.keep hclock.le htasks fun taskId name => .inl ?_
    rw [hstamp,if_neg]
    rintro ⟨s,-,hsome,-⟩
    rw [window_eq,if_pos hprefix] at hsome
    cases hsome
  · rw [History.recorded,if_neg hprefix,hnew]
    intro taskId name hsome
    rw [htasks] at hsome
    have hold := hs.marked taskId name hsome
    by_cases htaken : ∃ s∈subs, s.taskId=taskId ∧ name=lower (payloadPrefix payload)
    · obtain ⟨s,hmem,rfl,rfl⟩ := htaken
      have hstamped : db'.stamp (.channelNamePrefix s.taskId (lower (payloadPrefix payload)))=some now := by
        rw [hstamp,if_pos ⟨s,hmem,by rwa [window_eq,if_neg hprefix],rfl⟩]
      rw [hstamped]
      refine ⟨le_rfl,mem_append_right _ (mem_map.mpr ⟨s,hmem,rfl⟩),?_⟩
      intro e he htask hname
      obtain he | he := mem_append.mp he
      · split at hold
        next t ht => exact (hold.2.2 e he htask hname).trans (hold.1.trans hclock.le)
        next ht =>
          have := hold e he htask hname
          rw [receiptTTLSeconds] at this
          omega
      · obtain ⟨s',-,rfl⟩ := mem_map.mp he
        exact le_rfl
    · have hsame : db'.stamp (.channelNamePrefix taskId name)=h.store.stamp (.channelNamePrefix taskId name) := by
        rw [hstamp,if_neg]
        rintro ⟨s,hmem,-,hkey⟩
        rw [markerKey,notificationPrefixDedupKey,DedupeKey.channelNamePrefix.injEq] at hkey
        exact htaken ⟨s,hmem,hkey.1.symm,hkey.2⟩
      have hentries : ∀ e∈h.passed++subs.map (fun s => ⟨s.taskId,lower (payloadPrefix payload),now⟩),
          e.taskId=taskId → e.name=name → e∈h.passed := by
        intro e he htask hname
        obtain he | he := mem_append.mp he
        · exact he
        obtain ⟨s,hmem,rfl⟩ := mem_map.mp he
        exact absurd ⟨s,hmem,htask,hname.symm⟩ htaken
      rw [hsame]
      split at hold
      next t ht =>
        exact ⟨hold.1.trans hclock.le,mem_append_left _ hold.2.1,fun e he htask hname =>
          hold.2.2 e (hentries e he htask hname) htask hname⟩
      next ht =>
        exact fun e he htask hname => (hold e (hentries e he htask hname) htask hname).trans (by omega)

theorem fanOut_spec (hs : h.Sound) (hclock : h.clock=now)
    (habsent : ∀ e∈h.store.events, (e.eventType,e.eventKey)≠(eventType,eventKey)) :
    let answer := fanOut lower h.store eventType eventKey payload now
    answer.1.status≠.duplicate ∧ ((h.recorded lower payload now answer.2).Sound ∧ answer.2.tasks=h.store.tasks) ∧
    ∃ created, answer.2.deliveries=h.store.deliveries++created ∧
      created.map (fun d => (d.eventId,d.taskId,d.targetId,d.status)) =
        (firstsSome (limited (h.store.window payload)) [] (h.dueSubscribers lower eventType payload now)).map fun s =>
          (h.store.nextEventId,s.taskId,s.targetId,pending) := by
  intro answer
  have hsubs : ∀ s∈subscribers h.store eventType h.store.nextEventId, ∃ task, h.store.task s.taskId=some task ∧
      s.filterConfig=task.filterConfig := by
    intro s hmem
    obtain ⟨target,-,htarget⟩ := mem_filterMap.mp hmem
    obtain ⟨-,htask,task,hlookup,hfilter⟩ := subscription_some eventType htarget
    exact ⟨task,htask ▸ hlookup,hfilter⟩
  let event : NotificationEvent := ⟨h.store.nextEventId,eventType,eventKey,payload,now⟩
  let entered : Store := { h.store with events := h.store.events++[event], nextEventId := h.store.nextEventId+1 }
  have hfilter := filterSubscribers_spec lower payload now (h.store.window payload) (h.heldBack lower payload now)
    (subscribers entered eventType h.store.nextEventId)
    (by
      intro s hmem
      obtain ⟨task,htask,hconfig⟩ := hsubs s hmem
      rw [Store.window,htask,bind_some,hconfig])
    (show Receipted entered from ⟨hs.receipted.keys,hs.receipted.ids,hs.receipted.id_lt⟩) []
    (by
      intro s hmem
      obtain ⟨task,htask,hconfig⟩ := hsubs s hmem
      rw [heldBack_eq lower payload now (hclock ▸ hs.marked) htask,hconfig]
      simp [blocked,Store.stamp,Store.receipt,entered])
  have hanswer : fanOut lower h.store eventType eventKey payload now=answer := rfl
  clear_value answer
  simp only [fanOut] at hanswer
  generalize filterSubscribers lower payload now entered (subscribers entered eventType h.store.nextEventId)=answered at *
  obtain ⟨filtered,filteredStore⟩ := answered
  obtain ⟨hfirst,hsame,hreceipted,hstamp⟩ := hfilter
  simp only at hanswer hfirst hsame hreceipted hstamp
  have hfinal : answer.1.status≠.duplicate ∧ (∃ created, answer.2.deliveries=h.store.deliveries++created ∧
        created.map (fun d => (d.eventId,d.taskId,d.targetId,d.status)) =
          filtered.map fun s => (h.store.nextEventId,s.taskId,s.targetId,pending)) ∧
      answer.2.tasks=h.store.tasks ∧ answer.2.events.Sublist (h.store.events++[event]) ∧
      answer.2.receipts=filteredStore.receipts ∧ answer.2.nextEventId=h.store.nextEventId+1 ∧
      answer.2.nextReceiptId=filteredStore.nextReceiptId := by
    rw [← hanswer]
    split
    next hnone =>
      refine ⟨by simp,⟨[],?_,by rw [hnone]; rfl⟩,hsame.tasks,?_,rfl,hsame.nextEventId,rfl⟩
      · rw [append_nil]
        exact hsame.deliveries
      · exact filter_sublist.trans (hsame.events ▸ Sublist.refl _)
    next hsome =>
      obtain ⟨⟨created,hcreated,hmap⟩,-,htasks,-,hevents,hreceipts,hnextEvent,hnextReceipt⟩ :=
        createDeliveries_spec now event.id filtered filteredStore
      refine ⟨by simp,⟨created,?_,hmap⟩,htasks.trans hsame.tasks,?_,hreceipts,hnextEvent.trans hsame.nextEventId,hnextReceipt⟩
      · exact hcreated.trans (by rw [hsame.deliveries])
      · exact (hevents.trans hsame.events) ▸ Sublist.refl _
  obtain ⟨hstatus,⟨created,hdeliveries,hmap⟩,htasks,hevents,hreceipts,hnext,hnextReceipt⟩ := hfinal
  refine ⟨hstatus,⟨?_,htasks⟩,created,hdeliveries,by rw [hmap,hfirst]; rfl⟩
  have hnew := newDeliveries_eq hs.deliveries hdeliveries hmap fun taskId =>
    (⟨taskId,lower (payloadPrefix payload),now⟩ : LetThrough)
  have hstamp' : ∀ key, answer.2.stamp key=filteredStore.stamp key := fun key => by
    rw [Store.stamp,Store.receipt,hreceipts]
    rfl
  have hwindows : ∀ taskId, answer.2.taskWindow taskId=h.store.taskWindow taskId := fun taskId => by
    rw [Store.taskWindow,Store.taskWindow,Store.task,Store.task,htasks]
  refine ⟨⟨?_,?_,?_⟩,?_,?_,?_,?_⟩
  · exact hreceipts ▸ hreceipted.keys
  · exact hreceipts ▸ hreceipted.ids
  · show ∀ r∈answer.2.receipts, r.id<answer.2.nextReceiptId
    rw [hreceipts,hnextReceipt]
    exact hreceipted.id_lt
  · refine Nodup.sublist (hevents.map _) ?_
    refine hs.events.append (lookup_eq_none.mpr habsent)
  · exact recorded_marked lower payload now hs hclock hwindows (fun key => (hstamp' key).trans (hstamp key)) hnew
  · intro d hd
    change d∈answer.2.deliveries at hd
    show d.eventId<answer.2.nextEventId
    rw [hnext]
    rw [hdeliveries] at hd
    obtain hd | hd := mem_append.mp hd
    · have := hs.deliveries d hd
      omega
    · have hmem := mem_map_of_mem (f := fun d : NotificationDelivery => (d.eventId,d.taskId,d.targetId,d.status)) hd
      rw [hmap] at hmem
      obtain ⟨s,-,hs⟩ := mem_map.mp hmem
      have : h.store.nextEventId=d.eventId := congrArg Prod.fst hs
      omega
  · intro e he
    show e.id<answer.2.nextEventId
    rw [hnext]
    obtain he | he := mem_append.mp (hevents.subset he)
    · have := hs.event_lt e he
      omega
    · rw [mem_singleton.mp he]
      exact Int.lt_succ _

structure SameConfig (db db' : Store) : Prop where
  bots : db'.bots=db.bots
  tasks : db'.tasks=db.tasks
  targets : db'.targets=db.targets
  nextEventId : db'.nextEventId=db.nextEventId

theorem SameConfig.window (hsame : SameConfig db db') : db'.window payload=db.window payload := by
  funext taskId
  rw [Store.window,Store.window,Store.task,Store.task,hsame.tasks]

theorem SameConfig.dueSubscribers (hsame : SameConfig h.store db') (clock : Int) :
    History.dueSubscribers lower eventType payload now { store := db', passed := h.passed, clock := clock } =
      h.dueSubscribers lower eventType payload now := by
  have hsubs : subscribers db' eventType db'.nextEventId=subscribers h.store eventType h.store.nextEventId := by
    rw [subscribers,subscribers,hsame.targets,hsame.nextEventId]
    refine filterMap_congr fun target _ => ?_
    rw [subscription,subscription,Store.task,Store.task,hsame.tasks]
    simp only [Store.bot,hsame.bots]
  rw [History.dueSubscribers,History.dueSubscribers]
  show (subscribers db' eventType db'.nextEventId).filter _=_
  rw [hsubs]
  refine filter_congr fun s _ => ?_
  rw [History.heldBack,History.heldBack]
  simp only [hsame.window]

theorem recorded_idle (hnone : ∀ d∈db'.deliveries, d.eventId≠h.store.nextEventId) :
    h.recorded lower payload now db'={ store := db', passed := h.passed, clock := now } := by
  have hempty : db'.deliveries.filter (fun d => decide (d.eventId=h.store.nextEventId))=[] :=
    filter_eq_nil_iff.mpr fun d hd => by simpa using hnone d hd
  rw [History.recorded,hempty,map_nil,append_nil,ite_self]

theorem History.Sound.keep (hs : h.Sound) (hnow : h.clock≤now) (hsame : SameTables h.store db') (hreceipted : Receipted db')
    (hstamp : ∀ taskId name, Fades now (h.store.stamp (.channelNamePrefix taskId name))
      (db'.stamp (.channelNamePrefix taskId name))) :
    History.Sound { store := db', passed := h.passed, clock := now } where
  receipted := hreceipted
  events := by
    show Keyed.Unique _ db'.events
    rw [hsame.events]
    exact hs.events
  marked := hs.marked.keep hnow hsame.taskWindow hstamp
  deliveries := by
    show ∀ d∈db'.deliveries, d.eventId<db'.nextEventId
    rw [hsame.deliveries,hsame.nextEventId]
    exact hs.deliveries
  event_lt := by
    show ∀ e∈db'.events, e.id<db'.nextEventId
    rw [hsame.events,hsame.nextEventId]
    exact hs.event_lt

theorem prepared_sound (hs : h.Sound) (hnow : h.clock≤now) (key : DedupeKey) (hkey : key≠.sequenceLock) :
    let db := cleanupExpiredNotificationReceiptsTx (lockNotificationSequenceTx h.store now) key now
    SameTables h.store db ∧ History.Sound { store := db, passed := h.passed, clock := now } ∧
      ((db.receipt key).isSome ↔ ∃ r∈h.store.receipts, r.dedupeKey=key ∧ now-r.createdAt<receiptTTLSeconds) := by
  intro db
  have hlock := ensureReceipt_receipted hs.receipted .sequenceLock now
  have hsame : SameTables h.store db := (ensureReceipt_same h.store .sequenceLock now).trans (cleanup_same key now)
  refine ⟨hsame,hs.keep now hnow hsame (cleanup_receipted hlock key now) fun taskId name => ?_,?_⟩
  · have hlocked : (ensureReceipt h.store .sequenceLock now).stamp (.channelNamePrefix taskId name) =
        h.store.stamp (.channelNamePrefix taskId name) := ensureReceipt_stamp h.store .sequenceLock now nofun
    rw [← hlocked]
    exact cleanup_stamp hlock key now _ _ rfl
  · rw [receipt_isSome]
    simp only [db,lockNotificationSequenceTx,cleanup_current hlock key now,ensureReceipt_stamp h.store _ now hkey,
      stamp_eq_some hs.receipted]
    constructor
    · rintro ⟨t,⟨r,hr,hrkey,rfl⟩,hyoung⟩
      exact ⟨r,hr,hrkey,hyoung⟩
    · rintro ⟨r,hr,hrkey,hyoung⟩
      exact ⟨_,⟨r,hr,hrkey,rfl⟩,hyoung⟩

theorem removeExpired_spec (hevents : Keyed.Unique (fun e : NotificationEvent => (e.eventType,e.eventKey)) h.store.events) :
    let answer := removeExpiredTerminalNotificationEventTx h.store eventType eventKey
    let unfinished := ∃ e∈h.store.events, e.eventType=eventType ∧ e.eventKey=eventKey ∧
      ∃ d∈h.store.deliveries, d.eventId=e.id ∧ d.status.terminal=false
    answer=(true,h.store) ∧ unfinished ∨
    answer.1=false ∧ ¬unfinished ∧ ∃ events, events.Sublist h.store.events ∧
      (∀ e∈events, (e.eventType,e.eventKey)≠(eventType,eventKey)) ∧
      answer.2={ h.store with deliveries := keptDeliveries h.store eventType eventKey, events := events } := by
  intro answer unfinished
  have honly : ∀ e∈h.store.events, ∀ e'∈h.store.events, (e.eventType,e.eventKey)=(e'.eventType,e'.eventKey) → e=e' := by
    intro e he e' he' hkey
    have hlookup := lookup_of_mem hevents he
    rw [hkey,lookup_of_mem hevents he',Option.some.injEq] at hlookup
    exact hlookup.symm
  simp only [answer,removeExpiredTerminalNotificationEventTx]
  cases hfind : h.store.events.find? fun e => decide (e.eventType=eventType) && decide (e.eventKey=eventKey) with
  | none =>
    have habsent : ∀ e∈h.store.events, ¬(e.eventType=eventType ∧ e.eventKey=eventKey) := by
      intro e he
      have := find?_eq_none.mp hfind e he
      simpa using this
    refine .inr ⟨rfl,?_,h.store.events,Sublist.refl _,?_,?_⟩
    · rintro ⟨e,he,htype,hkey,-⟩
      exact habsent e he ⟨htype,hkey⟩
    · intro e he hkey
      exact habsent e he (Prod.mk.inj hkey)
    · have hall : keptDeliveries h.store eventType eventKey=h.store.deliveries := by
        refine filter_eq_self.mpr fun d _ => List.all_eq_true.mpr fun e he => ?_
        have := habsent e he
        simp only [Bool.not_eq_true',Bool.and_eq_false_iff,decide_eq_false_iff_not]
        tauto
      rw [hall]
  | some event =>
    have hmem := mem_of_find?_eq_some hfind
    have hkey : event.eventType=eventType ∧ event.eventKey=eventKey := by simpa using find?_some hfind
    have hiff : (h.store.deliveries.any fun d => decide (d.eventId=event.id) && !d.status.terminal)=true ↔ unfinished := by
      rw [List.any_eq_true]
      constructor
      · rintro ⟨d,hd,hd'⟩
        simp only [Bool.and_eq_true,decide_eq_true_eq,Bool.not_eq_true'] at hd'
        exact ⟨event,hmem,hkey.1,hkey.2,d,hd,hd'⟩
      · rintro ⟨e,he,htype,hkey',d,hd,hid,hopen⟩
        obtain rfl := honly e he event hmem (by rw [htype,hkey',hkey.1,hkey.2])
        exact ⟨d,hd,by simp [hid,hopen]⟩
    simp only
    by_cases hopen : (h.store.deliveries.any fun d => decide (d.eventId=event.id) && !d.status.terminal)=true
    · rw [if_pos hopen]
      exact .inl ⟨rfl,hiff.mp hopen⟩
    · rw [if_neg hopen]
      refine .inr ⟨rfl,fun hun => hopen (hiff.mpr hun),h.store.events.filter fun e => e.id≠event.id,
        filter_sublist,?_,?_⟩
      · intro e he hkey'
        obtain ⟨he,hid⟩ := mem_filter.mp he
        obtain rfl := honly e he event hmem (hkey'.trans (by rw [hkey.1,hkey.2]))
        simp at hid
      · have hkept : keptDeliveries h.store eventType eventKey=h.store.deliveries.filter fun d => d.eventId≠event.id := by
          refine filter_congr fun d _ => ?_
          rw [Bool.eq_iff_iff,List.all_eq_true,decide_eq_true_eq]
          constructor
          · intro hall hid
            have := hall event hmem
            simp [hkey.1,hkey.2,hid] at this
          · intro hne e he
            simp only [Bool.not_eq_true',Bool.and_eq_false_iff,decide_eq_false_iff_not]
            by_contra hcon
            push Not at hcon
            obtain rfl := honly e he event hmem (by rw [hcon.1.1,hcon.1.2,hkey.1,hkey.2])
            exact hne hcon.2.symm
        rw [hkept]

theorem enqueue_spec (hs : h.Sound) (hnow : h.clock≤now) {result : NotificationEnqueueResult}
    (hcall : enqueueNotificationEventTx lower h.store eventType eventKey payload now=some (result,db')) :
    ((h.recorded lower payload now db').Sound ∧ db'.tasks=h.store.tasks) ∧ (Known h.store (trimSpace eventType) (trimSpace eventKey) now →
      result.status=.duplicate ∧ db'.deliveries=h.store.deliveries) ∧
    (¬Known h.store (trimSpace eventType) (trimSpace eventKey) now → result.status≠.duplicate ∧ ∃ created,
      db'.deliveries=keptDeliveries h.store (trimSpace eventType) (trimSpace eventKey)++created ∧
      created.map (fun d => (d.eventId,d.taskId,d.targetId,d.status)) = (firstsSome (limited (h.store.window payload)) []
          (h.dueSubscribers lower (trimSpace eventType) payload now)).map fun s =>
            (h.store.nextEventId,s.taskId,s.targetId,pending)) := by
  rw [enqueueNotificationEventTx] at hcall
  simp only at hcall
  generalize trimSpace eventType=eventType at hcall ⊢
  generalize trimSpace eventKey=eventKey at hcall ⊢
  split at hcall
  next => cases hcall
  obtain ⟨key,hkey,hlock,hcurrent⟩ : ∃ key, notificationEventDedupeKey eventType eventKey=key ∧ key≠.sequenceLock ∧
      ∀ taskId name, DedupeKey.channelNamePrefix taskId name≠key := ⟨_,rfl,nofun,fun _ _ => nofun⟩
  rw [hkey] at hcall
  obtain ⟨hsame,hsound,hreceipt⟩ := prepared_sound now hs hnow key hlock
  generalize cleanupExpiredNotificationReceiptsTx (lockNotificationSequenceTx h.store now) key now=db at hcall hsame hsound hreceipt
  have hidle : ∀ {db' : Store}, db'.deliveries=h.store.deliveries →
      h.recorded lower payload now db'={ store := db', passed := h.passed, clock := now } := fun hdeliveries =>
    recorded_idle lower payload now fun d hd => (hs.deliveries d (hdeliveries ▸ hd)).ne
  split at hcall
  next hexists =>
    cases hcall
    have hknown : Known h.store eventType eventKey now := .inl (hkey ▸ hreceipt.mp hexists)
    refine ⟨⟨hidle hsame.deliveries ▸ hsound,hsame.tasks⟩,fun _ => ⟨rfl,hsame.deliveries⟩,fun hnot => absurd hknown hnot⟩
  next hexists =>
    have hyoung := mt hreceipt.mpr hexists
    rw [← hkey] at hyoung
    rw [Bool.not_eq_true,isSome_eq_false_iff,isNone_iff_eq_none] at hexists
    have hunfinished : Known h.store eventType eventKey now ↔ ∃ e∈db.events, e.eventType=eventType ∧ e.eventKey=eventKey ∧
        ∃ d∈db.deliveries, d.eventId=e.id ∧ d.status.terminal=false := by
      rw [hsame.events,hsame.deliveries]
      exact ⟨fun hknown => hknown.resolve_left hyoung,.inr⟩
    rcases removeExpired_spec (h := { store := db, passed := h.passed, clock := now }) eventType eventKey hsound.events with
      ⟨hanswer,hopen⟩ | ⟨hanswer,hover,events,hsub,habsent,hstore⟩
    · simp only [hanswer,Option.some.injEq,Prod.mk.injEq] at hcall
      obtain ⟨rfl,rfl⟩ := hcall
      have hensured := ensureReceipt_same db key now
      have hdeliveries := hensured.deliveries.trans hsame.deliveries
      refine ⟨⟨hidle hdeliveries ▸ ?_,hensured.tasks.trans hsame.tasks⟩,fun _ => ⟨rfl,hdeliveries⟩,fun hnot => absurd (hunfinished.mpr hopen) hnot⟩
      exact hsound.keep now le_rfl hensured (ensureReceipt_receipted hsound.receipted _ now) fun taskId name =>
        .inl (ensureReceipt_stamp db _ now (hcurrent taskId name))
    · rw [show removeExpiredTerminalNotificationEventTx db eventType eventKey =
        (false,{ db with deliveries := keptDeliveries db eventType eventKey, events := events }) from
          Prod.ext hanswer hstore] at hcall
      simp only [Option.some.injEq] at hcall
      have hnotKnown : ¬Known h.store eventType eventKey now := mt hunfinished.mp hover
      let cleared : Store := { db with deliveries := keptDeliveries db eventType eventKey, events := events }
      have hcleared : History.Sound { store := cleared, passed := h.passed, clock := now } :=
        { receipted := ⟨hsound.receipted.keys,hsound.receipted.ids,hsound.receipted.id_lt⟩
          events := hsound.events.sublist (hsub.map _)
          marked := hsound.marked
          deliveries := fun d hd => hsound.deliveries d (mem_filter.mp hd).1
          event_lt := fun e he => hsound.event_lt e (hsub.subset he) }
      have hnone : cleared.stamp key=none := receipt_eq_none.mp hexists
      have hready := hcleared.keep now le_rfl (createReceipt_same cleared _ now)
        (createReceipt_receipted hcleared.receipted hnone now) fun taskId name =>
          .inl (by rw [createReceipt_stamp hnone,if_neg (hcurrent taskId name)])
      have hconfig : SameConfig h.store (createReceipt cleared key now) :=
        ⟨hsame.bots,hsame.tasks,hsame.targets,hsame.nextEventId⟩
      obtain ⟨hstatus,⟨hafter,htasks⟩,created,hdeliveries,hmap⟩ := fanOut_spec lower eventType eventKey payload now hready rfl habsent
      rw [show fanOut lower (createReceipt cleared key now) eventType eventKey payload now=(result,db') from hcall]
        at hstatus hafter htasks hdeliveries
      have hkept : keptDeliveries db eventType eventKey=keptDeliveries h.store eventType eventKey := by
        rw [keptDeliveries,keptDeliveries,hsame.deliveries,hsame.events]
      refine ⟨⟨?_,htasks.trans hconfig.tasks⟩,fun hknown => absurd hknown hnotKnown,fun _ => ⟨hstatus,created,?_,?_⟩⟩
      · rw [History.recorded] at hafter ⊢
        simpa only [hconfig.nextEventId] using hafter
      · rw [← hkept]
        exact hdeliveries
      · rw [hmap,hconfig.dueSubscribers lower eventType payload now]
        simp only [hconfig.window payload,hconfig.nextEventId]

end Fanning

variable {h : History} (taskId : Int) (eventIds : List Int)

theorem History.Sound.fewer (hs : h.Sound) {events : List NotificationEvent} {deliveries : List NotificationDelivery}
    (hevents : events.Sublist h.store.events) (hdeliveries : ∀ d∈deliveries, d.eventId<h.store.nextEventId) :
    History.Sound { h with store := { h.store with events := events, deliveries := deliveries } } where
  receipted := ⟨hs.receipted.keys,hs.receipted.ids,hs.receipted.id_lt⟩
  events := hs.events.sublist (hevents.map _)
  marked := hs.marked
  deliveries := hdeliveries
  event_lt := fun e he => hs.event_lt e (hevents.subset he)

theorem pruneEvents_sound (hs : h.Sound) : History.Sound { h with store := eventIds.foldl (pruneEvent taskId) h.store } := by
  induction eventIds generalizing h with
  | nil => exact hs
  | cons eventId rest ih =>
    refine ih (h := { h with store := pruneEvent taskId h.store eventId }) (hs.fewer ?_ ?_)
    · split
      · exact Sublist.refl _
      · exact filter_sublist
    · exact fun d hd => hs.deliveries d (mem_filter.mp hd).1

theorem step_sound (lower : String → String) {call : Call} (hs : h.Sound) (htime : InTime h call) :
    (h.step lower call).Sound := by
  cases call with
  | enqueue eventType eventKey payload now =>
    rw [History.step]
    cases hcall : enqueueNotificationEventTx lower h.store eventType eventKey payload now with
    | none => exact hs.keep now htime (.refl h.store) hs.receipted fun taskId name => .inl rfl
    | some answer => exact (enqueue_spec lower eventType eventKey payload now hs htime hcall).1.1
  | setStatus id status =>
    refine hs.fewer (Sublist.refl _) fun d hd => ?_
    obtain ⟨x,hx,rfl⟩ := mem_modify hd
    split <;> exact hs.deliveries x hx
  | prune taskId =>
    rw [History.step,pruneNotificationHistoryForTaskTx]
    split
    · exact hs
    · exact pruneEvents_sound taskId _ hs

theorem start_sound (hfresh : db.Fresh) (clock : Int) : History.Sound { store := db, clock := clock } where
  receipted := by
    refine ⟨?_,?_,?_⟩ <;> simp [hfresh.receipts,Keyed.Unique]
  events := by simp [hfresh.events,Keyed.Unique]
  marked := by
    intro taskId name _
    simp [Store.stamp,Store.receipt,hfresh.receipts,Keyed.lookup_nil]
  deliveries := by simp [hfresh.deliveries]
  event_lt := by simp [hfresh.events]

/-- What a task with a window takes of one prefix lies a window apart. -/
def Spaced (db : Store) (passed : List LetThrough) : Prop :=
  passed.Pairwise fun a b => a.taskId=b.taskId → a.name=b.name → ∀ window∈db.taskWindow a.taskId, a.time+window≤b.time

structure Spacing (db : Store) (h : History) : Prop where
  sound : h.Sound
  tasks : h.store.tasks=db.tasks
  spaced : Spaced db h.passed

theorem pruneEvents_tasks : ∀ db : Store, (eventIds.foldl (pruneEvent taskId) db).tasks=db.tasks := by
  induction eventIds with
  | nil => exact fun _ => rfl
  | cons eventId rest ih => exact fun db => ih (pruneEvent taskId db eventId)

theorem Spacing.recorded (hinv : Spacing db h) (lower : String → String) (eventType : String) {payload : Payload} {now : Int}
    {old created : List NotificationDelivery} {db' : Store} (hold : ∀ d∈old, d∈h.store.deliveries)
    (hdeliveries : db'.deliveries=old++created) (hmap : created.map (fun d => (d.eventId,d.taskId,d.targetId,d.status)) =
      (firstsSome (limited (h.store.window payload)) [] (h.dueSubscribers lower eventType payload now)).map fun s =>
        (h.store.nextEventId,s.taskId,s.targetId,pending)) : Spaced db (h.recorded lower payload now db').passed := by
  have hnew := newDeliveries_eq (fun d hd => hinv.sound.deliveries d (hold d hd)) hdeliveries hmap fun taskId =>
    (⟨taskId,lower (payloadPrefix payload),now⟩ : LetThrough)
  rw [History.recorded,hnew]
  dsimp only
  split
  · exact hinv.spaced
  next hprefix =>
  have hwindow : ∀ taskId window, window∈db.taskWindow taskId → h.store.window payload taskId=some window := by
    intro taskId window hw
    rw [window_eq,if_neg hprefix,Store.taskWindow,Store.task,hinv.tasks]
    exact hw
  refine pairwise_append.mpr ⟨hinv.spaced,pairwise_map.mpr ?_,fun e he b hb htask hname window hw => ?_⟩
  · refine (firstsSome_pairwise _ _ _).imp fun {a b} hapart htask _ window hw => ?_
    have hlimited : ∀ s : NotificationSubscriber, s.taskId=a.taskId → limited (h.store.window payload) s=some a.taskId := by
      intro s hs
      rw [limited,hs,hwindow _ _ hw]
      rfl
    exact absurd (hlimited b htask.symm) (hapart _ (hlimited a rfl))
  · obtain ⟨s,hs,rfl⟩ := mem_map.mp hb
    dsimp only at htask hname ⊢
    have hdue := (mem_filter.mp ((firstsSome_sublist _ _ _).subset hs)).2
    rw [Bool.and_eq_true,Bool.not_eq_true',History.heldBack,← htask,hwindow _ _ hw] at hdue
    have hfree := any_eq_false.mp hdue.2 e he
    simp only [hname,decide_true,Bool.true_and,decide_eq_true_eq] at hfree
    omega

theorem Spacing.step (lower : String → String) (hinv : Spacing db h) {call : Call} (htime : InTime h call) :
    Spacing db (h.step lower call) := by
  have hsound := step_sound lower hinv.sound htime
  cases call with
  | setStatus id status => exact ⟨hsound,hinv.tasks,hinv.spaced⟩
  | prune taskId =>
    refine ⟨hsound,?_,hinv.spaced⟩
    rw [History.step,pruneNotificationHistoryForTaskTx]
    split
    · exact hinv.tasks
    · exact (pruneEvents_tasks taskId _ _).trans hinv.tasks
  | enqueue eventType eventKey payload now =>
    rw [History.step] at hsound ⊢
    cases hcall : enqueueNotificationEventTx lower h.store eventType eventKey payload now with
    | none => exact ⟨hinv.sound.keep now htime (.refl h.store) hinv.sound.receipted fun _ _ => .inl rfl,hinv.tasks,hinv.spaced⟩
    | some answer =>
      obtain ⟨⟨hafter,htasks⟩,hknown,hfresh⟩ := enqueue_spec lower eventType eventKey payload now hinv.sound htime hcall
      refine ⟨hafter,htasks.trans hinv.tasks,?_⟩
      by_cases hk : Known h.store (trimSpace eventType) (trimSpace eventKey) now
      · have hidle := recorded_idle lower payload now fun d hd => (hinv.sound.deliveries d ((hknown hk).2 ▸ hd)).ne
        show Spaced db (h.recorded lower payload now answer.2).passed
        exact hidle ▸ hinv.spaced
      · obtain ⟨-,created,hdeliveries,hmap⟩ := hfresh hk
        exact hinv.recorded lower _ (fun d hd => (mem_filter.mp hd).1) hdeliveries hmap

/-- In any run, two events of one prefix that a task takes lie its window apart, whatever is cleaned up in between. -/
theorem prefix_windows_kept (lower : String → String) {db : Store} (hfresh : db.Fresh) (clock : Int) {calls : List Call}
    (hclock : Guarded (History.step lower) InTime calls { store := db, clock := clock }) :
    Spaced db (run (History.step lower) calls { store := db, clock := clock }).passed := by
  have hrun : Spacing db (run (History.step lower) calls { store := db, clock := clock }) :=
    Guarded.invariant (fun _ _ hinv htime => hinv.step lower htime) ⟨start_sound hfresh clock,rfl,.nil⟩ hclock
  exact hrun.spaced

section Main
variable (lower : String → String) {h : History} (eventType : String) (payload : Payload) (now : Int)

theorem firstsSome_due_iff : firstsSome (limited (h.store.window payload)) [] (h.dueSubscribers lower eventType payload now) =
      h.dueSubscribers lower eventType payload now ↔ h.OneTargetEach lower eventType payload now := by
  have htasks := map_dueSubscribers lower eventType payload now (h := h) fun taskId _ => taskId
  have hpair : h.OneTargetEach lower eventType payload now ↔ ((h.dueTargets lower eventType payload now).map fun t =>
      t.taskId).Pairwise fun a b => (h.store.window payload a).isSome → a≠b := by
    rw [pairwise_map]
    rfl
  rw [firstsSome_eq_self,hpair,← htasks,pairwise_map]
  refine ⟨fun hall => hall.1.imp fun {a b} hab hsome heq => ?_,fun hall => ⟨hall.imp fun {a b} hab k ha hb => ?_,by simp⟩⟩
  · have ha : limited (h.store.window payload) a=some a.taskId := if_pos hsome
    exact hab a.taskId ha (by rw [limited,← heq,if_pos hsome])
  · rw [limited] at ha hb
    split at ha
    next hsome =>
      split at hb
      · exact hab hsome (Option.some.inj (ha.trans hb.symm))
      · cases hb
    · cases ha

end Main

/-- In any history, a call treats the targets of each task alike just when the event is known or no task with a window has two
targets that should have it. -/
theorem fans_out_iff_one_target_each (lower : String → String) {db : Store} (hfresh : db.Fresh) (clock : Int) (calls : List Call)
    (hclock : Guarded (History.step lower) InTime calls { store := db, clock := clock })
    (eventType eventKey : String) (payload : Payload) (now : Int)
    (hnow : (run (History.step lower) calls { store := db, clock := clock }).clock≤now)
    {result : NotificationEnqueueResult} {db' : Store}
    (hcall : enqueueNotificationEventTx lower (run (History.step lower) calls { store := db, clock := clock }).store
      eventType eventKey payload now=some (result,db')) :
    FansOut lower (run (History.step lower) calls { store := db, clock := clock }) (trimSpace eventType) (trimSpace eventKey)
      payload now result db' ↔
    (¬Known (run (History.step lower) calls { store := db, clock := clock }).store (trimSpace eventType) (trimSpace eventKey) now →
      (run (History.step lower) calls { store := db, clock := clock }).OneTargetEach lower (trimSpace eventType) payload now) := by
  have hs : (run (History.step lower) calls { store := db, clock := clock }).Sound :=
    Guarded.invariant (fun h call hs htime => step_sound lower hs htime) (start_sound hfresh clock) hclock
  generalize run (History.step lower) calls { store := db, clock := clock }=h at hnow hcall hs ⊢
  obtain ⟨-,hknown,hfresh'⟩ := enqueue_spec lower eventType eventKey payload now hs hnow hcall
  generalize trimSpace eventType=eventType at hknown hfresh' ⊢
  have hdue := map_dueSubscribers lower eventType payload now (h := h) fun taskId targetId =>
    (h.store.nextEventId,taskId,targetId,pending)
  constructor
  · intro hfans hnot
    obtain ⟨-,created,hdeliveries,hmap⟩ := hfresh' hnot
    obtain ⟨-,created',hdeliveries',hmap'⟩ := hfans.fresh hnot
    obtain rfl := append_cancel_left (hdeliveries.symm.trans hdeliveries')
    rw [hmap,← hdue] at hmap'
    have hlen := congrArg length hmap'
    rw [length_map,length_map] at hlen
    exact (firstsSome_due_iff lower eventType payload now).mp ((firstsSome_sublist _ _ _).eq_of_length hlen)
  · intro hone
    refine ⟨hknown,fun hnot => ?_⟩
    obtain ⟨hstatus,created,hdeliveries,hmap⟩ := hfresh' hnot
    refine ⟨hstatus,created,hdeliveries,?_⟩
    rw [hmap,(firstsSome_due_iff lower eventType payload now).mpr (hone hnot),hdue]

def twoTargets : Store where
  bots := [{ id := 1, type := "telegram", enabled := true }]
  tasks := [{ id := 1, eventType := "channel_disabled", botId := 1, enabled := true, filterConfig := .config { prefixDedupSeconds := 300 } }]
  targets := [{ id := 1, taskId := 1, chatId := "-10001", enabled := true },{ id := 2, taskId := 1, chatId := "-10002", enabled := true }]

def disabledPayload : Payload := fun key => if key="channel_name" then some (.text "DragAPI / Codex-Plus / 0.15x") else none

def twoTargetsAnswer : Option (NotificationEnqueueResult×Store) :=
  enqueueNotificationEventTx id twoTargets "channel_disabled" "channel:1" disabledPayload 1000

theorem twoTargetsAnswer_eq : ∃ result db', twoTargetsAnswer=some (result,db') ∧
    db'.deliveries.map (fun d => (d.taskId,d.targetId))=[(1,1)] := by
  have hsome : twoTargetsAnswer.isSome := by decide +kernel
  have hmap : twoTargetsAnswer.map (fun answer => answer.2.deliveries.map fun d => (d.taskId,d.targetId))=some [(1,1)] := by
    decide +kernel
  obtain ⟨⟨result,db'⟩,hanswer⟩ := isSome_iff_exists.mp hsome
  rw [hanswer,map_some,Option.some.injEq] at hmap
  exact ⟨result,db',hanswer,hmap⟩

def afterOne : History :=
  run (History.step id) [.enqueue "channel_disabled" "channel:1" disabledPayload 1000] { store := twoTargets, clock := 0 }

theorem fans_out_iff_two_targets : ∃ result db',
    enqueueNotificationEventTx id afterOne.store "channel_disabled" "channel:2" disabledPayload 1400=some (result,db') ∧
    (FansOut id afterOne "channel_disabled" "channel:2" disabledPayload 1400 result db' ↔
      (¬Known afterOne.store "channel_disabled" "channel:2" 1400 →
        afterOne.OneTargetEach id "channel_disabled" disabledPayload 1400)) := by
  have hsome : (enqueueNotificationEventTx id afterOne.store "channel_disabled" "channel:2" disabledPayload 1400).isSome := by
    decide +kernel
  obtain ⟨⟨result,db'⟩,hanswer⟩ := isSome_iff_exists.mp hsome
  refine ⟨result,db',hanswer,?_⟩
  have hfresh : twoTargets.Fresh := ⟨rfl,rfl,rfl⟩
  have hclock : afterOne.clock≤1400 := by decide +kernel
  have hiff := fans_out_iff_one_target_each id hfresh 0 [.enqueue "channel_disabled" "channel:1" disabledPayload 1000]
    ⟨show (0 : Int)≤1000 by decide,trivial⟩ "channel_disabled" "channel:2" disabledPayload 1400 hclock hanswer
  rwa [show trimSpace "channel_disabled" = "channel_disabled" by decide +kernel,
    show trimSpace "channel:2" = "channel:2" by decide +kernel] at hiff

def threeEvents : List Call := [.enqueue "channel_disabled" "channel:1" disabledPayload 1000,
  .enqueue "channel_disabled" "channel:2" disabledPayload 1200,.enqueue "channel_disabled" "channel:3" disabledPayload 1400]

theorem prefix_windows_kept_three : Spaced twoTargets (run (History.step id) threeEvents { store := twoTargets, clock := 0 }).passed ∧
    (run (History.step id) threeEvents { store := twoTargets, clock := 0 }).passed.map (·.time)=[1000,1400] :=
  ⟨prefix_windows_kept id ⟨rfl,rfl,rfl⟩ 0 ⟨show (_ : Int)≤1000 by decide,show (_ : Int)≤1200 by decide +kernel,
    show (_ : Int)≤1400 by decide +kernel,trivial⟩,by decide +kernel⟩

theorem second_target_left_out : ∃ result db', twoTargetsAnswer=some (result,db') ∧
    ¬FansOut id { store := twoTargets, clock := 0 } "channel_disabled" "channel:1" disabledPayload 1000 result db' := by
  obtain ⟨result,db',hanswer,hcreated⟩ := twoTargetsAnswer_eq
  refine ⟨result,db',hanswer,fun hfans => ?_⟩
  have hnot : ¬Known twoTargets "channel_disabled" "channel:1" 1000 := by simp [Known,twoTargets]
  obtain ⟨-,created,hdeliveries,hmap⟩ := hfans.fresh hnot
  rw [show keptDeliveries twoTargets "channel_disabled" "channel:1" = [] from rfl,nil_append] at hdeliveries
  have hlen := congrArg length hmap
  rw [length_map,length_map,← hdeliveries] at hlen
  have hlen' := congrArg length hcreated
  rw [length_map] at hlen'
  rw [hlen'] at hlen
  revert hlen
  decide +kernel

end NewApi.Notifications
