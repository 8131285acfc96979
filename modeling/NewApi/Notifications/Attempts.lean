import NewApi.Lib.Holdings
import NewApi.Notifications.Dispatch
import NewApi.Notifications.Receipts

/-! What one operation of a dispatcher does to the deliveries and to the record of their attempts. A worker that has started an
attempt holds the right to send its message and to report on it. -/
namespace NewApi.Notifications
open List GoStrings Keyed Programs Holdings
variable (eventId now : Int) {db db' : Store}

structure Grows (db db' : Store) : Prop where
  next_le : db.nextDeliveryId≤db'.nextDeliveryId
  ids : Keyed.Unique NotificationDelivery.id db.deliveries → (∀ d∈db.deliveries, d.id<db.nextDeliveryId) →
    Keyed.Unique NotificationDelivery.id db'.deliveries ∧ ∀ d∈db'.deliveries, d.id<db'.nextDeliveryId
  rows : ∀ d∈db'.deliveries, d∈db.deliveries ∨ db.nextDeliveryId≤d.id ∧ d.status=.pending ∧ d.attemptCount=0

theorem Grows.trans {a b c : Store} (hab : Grows a b) (hbc : Grows b c) : Grows a c where
  next_le := hab.next_le.trans hbc.next_le
  ids hu hlt := hbc.ids (hab.ids hu hlt).1 (hab.ids hu hlt).2
  rows d hd := by
    rcases hbc.rows d hd with hd | ⟨hle,hnew⟩
    · exact hab.rows d hd
    · exact .inr ⟨hab.next_le.trans hle,hnew⟩

theorem grows_of_sublist (hnext : db'.nextDeliveryId=db.nextDeliveryId)
    (hsub : db'.deliveries.Sublist db.deliveries) : Grows db db' where
  next_le := hnext.ge
  ids hu hlt := ⟨List.Nodup.sublist (hsub.map _) hu,fun d hd => hnext ▸ hlt d (hsub.subset hd)⟩
  rows _ hd := .inl (hsub.subset hd)

theorem SameTables.grows (h : SameTables db db') : Grows db db' :=
  grows_of_sublist h.nextDeliveryId (h.deliveries ▸ List.Sublist.refl _)

theorem createDelivery_grows (db : Store) (s : NotificationSubscriber) :
    Grows db (createDelivery eventId now db s) where
  next_le := (Int.lt_succ _).le
  ids hu hlt := by
    refine ⟨hu.append (lookup_eq_none.mpr fun d hd => (hlt d hd).ne),fun d hd => ?_⟩
    obtain hd | hd := mem_append.mp hd
    · exact (hlt d hd).trans (Int.lt_succ _)
    rw [mem_singleton.mp hd]
    exact Int.lt_succ _
  rows d hd := by
    obtain hd | hd := mem_append.mp hd
    · exact .inl hd
    rw [mem_singleton.mp hd]
    exact .inr ⟨le_rfl,rfl,rfl⟩

theorem createDeliveries_grows (subs : List NotificationSubscriber) (db : Store) :
    Grows db (subs.foldl (createDelivery eventId now) db) := by
  induction subs generalizing db with
  | nil => exact (SameTables.refl db).grows
  | cons s rest ih => exact (createDelivery_grows eventId now db s).trans (ih _)

section Enqueue
variable (lower : String → String) (payload : Payload) (now : Int)

theorem filterSubscribers_same (subs : List NotificationSubscriber) (db : Store) :
    SameTables db (filterSubscribers lower payload now db subs).2 := by
  induction subs generalizing db with
  | nil => exact .refl db
  | cons s rest ih =>
    rw [filterSubscribers]
    split
    · exact ih db
    have hsame : SameTables db _ := deduped_same lower s.taskId s.filterConfig payload now
    generalize notificationTaskPrefixDeduped lower db s.taskId s.filterConfig payload now=answer at hsame
    obtain ⟨skipped,db'⟩ := answer
    cases skipped <;> exact hsame.trans (ih db')

theorem fanOut_grows (db : Store) (eventType eventKey : String) : Grows db (fanOut lower db eventType eventKey payload now).2 := by
  let event : NotificationEvent := ⟨db.nextEventId,eventType,eventKey,payload,now⟩
  let entered : Store := { db with events := db.events++[event], nextEventId := db.nextEventId+1 }
  have hentered : Grows db entered := grows_of_sublist rfl (List.Sublist.refl _)
  have hsame := filterSubscribers_same lower payload now (subscribers entered eventType db.nextEventId) entered
  simp only [fanOut]
  generalize filterSubscribers lower payload now entered (subscribers entered eventType db.nextEventId)=answer at hsame
  obtain ⟨filtered,filteredStore⟩ := answer
  refine hentered.trans (hsame.grows.trans ?_)
  simp only
  split
  · exact grows_of_sublist rfl (List.Sublist.refl _)
  · exact createDeliveries_grows event.id now filtered filteredStore

theorem enqueue_grows {db db' : Store} {eventType eventKey : String} {result : NotificationEnqueueResult}
    (h : enqueueNotificationEventTx lower db eventType eventKey payload now=some (result,db')) : Grows db db' := by
  rw [enqueueNotificationEventTx] at h
  simp only at h
  generalize trimSpace eventType=eventType at h
  generalize trimSpace eventKey=eventKey at h
  generalize notificationEventDedupeKey eventType eventKey=key at h
  split at h
  next => cases h
  have hprepared := ((ensureReceipt_same db .sequenceLock now).trans (cleanup_same key now)).grows
  refine hprepared.trans ?_
  rw [← lockNotificationSequenceTx]
  generalize cleanupExpiredNotificationReceiptsTx (lockNotificationSequenceTx db now) key now=ready at h ⊢
  split at h
  · cases h
    exact (SameTables.refl _).grows
  · have hremoved : Grows ready (removeExpiredTerminalNotificationEventTx ready eventType eventKey).2 := by
      rw [removeExpiredTerminalNotificationEventTx]
      split
      · exact (SameTables.refl _).grows
      split
      · exact (SameTables.refl _).grows
      · exact grows_of_sublist rfl filter_sublist
    generalize removeExpiredTerminalNotificationEventTx ready eventType eventKey=removed at h hremoved
    obtain ⟨active,cleared⟩ := removed
    refine hremoved.trans ?_
    cases active with
    | true =>
      cases h
      exact (ensureReceipt_same cleared _ now).grows
    | false =>
      rw [Option.some.injEq] at h
      have hfan := fanOut_grows lower payload now (createReceipt cleared key now) eventType eventKey
      rw [h] at hfan
      exact (createReceipt_same cleared _ now).grows.trans hfan

end Enqueue

theorem prune_grows (db : Store) (taskId : Int) : Grows db (pruneNotificationHistoryForTaskTx db taskId) := by
  have hevents : ∀ (eventIds : List Int) (db : Store), Grows db (eventIds.foldl (pruneEvent taskId) db) := by
    intro eventIds
    induction eventIds with
    | nil => exact fun db => (SameTables.refl db).grows
    | cons eventId rest ih =>
      intro db
      have hpruned : (pruneEvent taskId db eventId).deliveries.Sublist db.deliveries := filter_sublist
      have hgrows : Grows db (pruneEvent taskId db eventId) := grows_of_sublist rfl hpruned
      exact hgrows.trans (ih _)
  rw [pruneNotificationHistoryForTaskTx]
  split
  · exact (SameTables.refl db).grows
  · exact hevents _ db

theorem DeliveryStatus.unsent_of_waiting {status : DeliveryStatus} (h : status.waiting=true) : status.unsent=true := by
  cases status <;> first | rfl | cases h

structure Moves (d d' : NotificationDelivery) : Prop where
  id : d'.id=d.id
  attemptCount : d'.attemptCount=d.attemptCount
  status : d'.status=d.status ∨ d.status.unsent=true ∧ (d'.status.unsent=true ∨ d'.status.terminal=true) ∨
    d.status=.sending ∧ d'.status.terminal=true

structure Quiet (db db' : Store) : Prop where
  next_le : db.nextDeliveryId≤db'.nextDeliveryId
  ids : Keyed.Unique NotificationDelivery.id db.deliveries → (∀ d∈db.deliveries, d.id<db.nextDeliveryId) →
    Keyed.Unique NotificationDelivery.id db'.deliveries ∧ ∀ d∈db'.deliveries, d.id<db'.nextDeliveryId
  rows : ∀ d'∈db'.deliveries, (∃ d∈db.deliveries, Moves d d') ∨
    db.nextDeliveryId≤d'.id ∧ d'.status=.pending ∧ d'.attemptCount=0

theorem Grows.quiet {db db' : Store} (h : Grows db db') : Quiet db db' where
  next_le := h.next_le
  ids := h.ids
  rows d hd := (h.rows d hd).imp (fun hd => ⟨d,hd,rfl,rfl,.inl rfl⟩) id

theorem Quiet.refl (db : Store) : Quiet db db := (SameTables.refl db).grows.quiet

section Update
variable {select : NotificationDelivery → Bool} {edit : NotificationDelivery → NotificationDelivery} {db : Store}

theorem mem_updateDeliveries {d' : NotificationDelivery} (h : d'∈(db.updateDeliveries select edit).deliveries) :
    ∃ d∈db.deliveries, (select d=true ∧ d'=edit d) ∨ (select d=false ∧ d'=d) := by
  obtain ⟨d,hd,rfl⟩ := mem_map.mp h
  refine ⟨d,hd,?_⟩
  cases hs : select d <;> simp

theorem updateDeliveries_ids (hid : ∀ d, (edit d).id=d.id) (hu : Keyed.Unique NotificationDelivery.id db.deliveries)
    (hlt : ∀ d∈db.deliveries, d.id<db.nextDeliveryId) :
    Keyed.Unique NotificationDelivery.id (db.updateDeliveries select edit).deliveries ∧
      ∀ d∈(db.updateDeliveries select edit).deliveries, d.id<db.nextDeliveryId := by
  constructor
  · rw [Keyed.Unique,Store.updateDeliveries,map_map]
    rw [show NotificationDelivery.id ∘ (fun d => if select d then edit d else d)=NotificationDelivery.id by
      funext d
      simp only [Function.comp_apply]
      split
      · exact hid d
      · rfl]
    exact hu
  · intro d' hd'
    obtain ⟨d,hd,⟨-,rfl⟩ | ⟨-,rfl⟩⟩ := mem_updateDeliveries hd'
    · rw [hid]
      exact hlt d hd
    · exact hlt d' hd

theorem updateDeliveries_quiet (hmoves : ∀ d, select d=true → Moves d (edit d)) (hid : ∀ d, (edit d).id=d.id) :
    Quiet db (db.updateDeliveries select edit) where
  next_le := le_rfl
  ids := updateDeliveries_ids hid
  rows d' hd' := by
    obtain ⟨d,hd,⟨hs,rfl⟩ | ⟨-,rfl⟩⟩ := mem_updateDeliveries hd'
    · exact .inl ⟨d,hd,hmoves d hs⟩
    · exact .inl ⟨d',hd,rfl,rfl,.inl rfl⟩

end Update

theorem ending_moves {ending : Ending} {d d' : NotificationDelivery} (hd : d.status∈ending.fromStatuses) (hid : d'.id=d.id)
    (hcount : d'.attemptCount=d.attemptCount) (hstatus : d'.status=ending.status) : Moves d d' := by
  refine ⟨hid,hcount,.inr ?_⟩
  rw [hstatus]
  cases ending <;> simp only [Ending.fromStatuses,mem_cons,not_mem_nil,or_false] at hd
  · exact .inr ⟨hd,rfl⟩
  all_goals
    rcases hd with hd | hd <;> rw [hd] <;> simp [Ending.status,DeliveryStatus.unsent,DeliveryStatus.terminal]

def DispatchOp.quiet : DispatchOp → Bool
  | .start _ _ | .retry _ _ _ _ | .post _ _ | .receive _ _ => false
  | .claim candidate _ => candidate.status.waiting
  | _ => true

theorem change_quiet {s : DispatchState} (fails : Bool) {db : Store} (h : Quiet s.db db) :
    (s.change fails db).1.log=s.log ∧ Quiet s.db (s.change fails db).1.db := by
  cases fails
  · exact ⟨rfl,h⟩
  · exact ⟨rfl,.refl _⟩

theorem exec_quiet (lower : String → String) (s : DispatchState) (c : DispatchChoice) {op : DispatchOp} (hop : op.quiet=true) :
    (dispatchExec lower s c op).1.log=s.log ∧ Quiet s.db (dispatchExec lower s c op).1.db := by
  have hsame : s.log=s.log ∧ Quiet s.db s.db := ⟨rfl,.refl _⟩
  cases op with
  | start | retry | post | receive => cases hop
  | enqueue eventType eventKey payload =>
    rw [dispatchExec]
    split
    · exact hsame
    next h => exact change_quiet c.fails (enqueue_grows lower payload c.clock h).quiet
  | configure bots tasks targets cancelledTaskIds =>
    refine change_quiet c.fails ?_
    have hcancel : Quiet s.db (s.db.cancelUnsent cancelledTaskIds c.clock) :=
      updateDeliveries_quiet (fun d hd => ⟨rfl,rfl,.inr (.inl ⟨(Bool.and_eq_true_iff.mp hd).2,.inr rfl⟩)⟩) fun d => rfl
    exact ⟨hcancel.next_le,hcancel.ids,hcancel.rows⟩
  | deleteTask id =>
    rw [dispatchExec]
    split
    · exact hsame
    next h =>
      refine change_quiet c.fails ?_
      rw [Store.deleteTask] at h
      split at h
      · cases h
      rw [Except.ok.injEq] at h
      rw [← h]
      have hkept : (s.db.deliveries.filter fun d => d.taskId≠id).Sublist s.db.deliveries := filter_sublist
      exact Grows.quiet (grows_of_sublist rfl hkept)
  | releaseStale ids now =>
    refine change_quiet c.fails (updateDeliveries_quiet (fun d hd => ⟨rfl,rfl,.inr (.inl ⟨?_,.inl rfl⟩)⟩) fun d => rfl)
    rw [of_decide_eq_true (Bool.and_eq_true_iff.mp hd).2]
    rfl
  | claim candidate now =>
    rw [dispatchExec]
    split
    · exact hsame
    refine ⟨rfl,updateDeliveries_quiet (fun d hd => ⟨rfl,rfl,.inr (.inl ⟨?_,.inl rfl⟩)⟩) fun d => rfl⟩
    simp only [Store.isCandidate,Bool.and_eq_true,decide_eq_true_eq] at hd
    rw [hd.1.1.2]
    exact DeliveryStatus.unsent_of_waiting hop
  | release id nextAttemptAt now =>
    rw [dispatchExec]
    split
    · refine change_quiet c.fails (updateDeliveries_quiet (fun d hd => ⟨rfl,rfl,.inr (.inl ⟨?_,.inl rfl⟩)⟩) fun d => rfl)
      have := of_decide_eq_true (Bool.and_eq_true_iff.mp hd).2
      rw [mem_singleton.mp this]
      rfl
    · exact hsame
  | finish id ending now =>
    rw [dispatchExec]
    split
    · exact hsame
    split
    · exact hsame
    split
    · exact ⟨rfl,updateDeliveries_quiet (fun d hd =>
        ending_moves (of_decide_eq_true (Bool.and_eq_true_iff.mp hd).2) rfl rfl rfl) fun d => rfl⟩
    · exact hsame
  | prune taskId => exact change_quiet c.fails (prune_grows s.db taskId).quiet
  | clock | ctxErr | staleClaimed | staleSending | candidates | findDelivery | findEvent | findTask | findTarget | findBot | botToken =>
    exact hsame

end NewApi.Notifications
