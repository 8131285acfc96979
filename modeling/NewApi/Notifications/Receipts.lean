import NewApi.Notifications.Store

/-! When a receipt was last written, through the transactions that write and clean up receipts. -/
namespace NewApi.Notifications
open Option GoStrings Keyed

def Store.stamp (db : Store) (key : DedupeKey) : Option Int := (db.receipt key).map NotificationEventReceipt.createdAt

structure Receipted (db : Store) : Prop where
  keys : Keyed.Unique NotificationEventReceipt.dedupeKey db.receipts
  ids : Keyed.Unique NotificationEventReceipt.id db.receipts
  id_lt : ∀ r∈db.receipts, r.id<db.nextReceiptId

structure SameTables (db db' : Store) : Prop where
  bots : db'.bots=db.bots
  tasks : db'.tasks=db.tasks
  targets : db'.targets=db.targets
  events : db'.events=db.events
  deliveries : db'.deliveries=db.deliveries
  nextEventId : db'.nextEventId=db.nextEventId
  nextDeliveryId : db'.nextDeliveryId=db.nextDeliveryId

theorem SameTables.refl (db : Store) : SameTables db db := ⟨rfl,rfl,rfl,rfl,rfl,rfl,rfl⟩

theorem SameTables.trans {a b c : Store} (h : SameTables a b) (h' : SameTables b c) : SameTables a c :=
  ⟨h'.bots.trans h.bots,h'.tasks.trans h.tasks,h'.targets.trans h.targets,h'.events.trans h.events,
    h'.deliveries.trans h.deliveries,h'.nextEventId.trans h.nextEventId,h'.nextDeliveryId.trans h.nextDeliveryId⟩

variable {db : Store} {key : DedupeKey}

theorem receipt_eq_none : db.receipt key=none ↔ db.stamp key=none := by
  rw [Store.stamp,map_eq_none_iff]

theorem receipt_isSome : (db.receipt key).isSome ↔ ∃ t, db.stamp key=some t := by
  rw [← isSome_iff_exists,Store.stamp,isSome_map]

theorem stamp_eq_some (h : Receipted db) {t : Int} :
    db.stamp key=some t ↔ ∃ r∈db.receipts, r.dedupeKey=key ∧ r.createdAt=t := by
  rw [Store.stamp,map_eq_some_iff]
  constructor
  · rintro ⟨r,hr,rfl⟩
    exact ⟨r,(lookup_some hr).1,(lookup_some hr).2,rfl⟩
  · rintro ⟨r,hr,rfl,rfl⟩
    exact ⟨r,lookup_of_mem h.keys hr,rfl⟩

theorem createReceipt_same (db : Store) (key : DedupeKey) (now : Int) : SameTables db (createReceipt db key now) :=
  ⟨rfl,rfl,rfl,rfl,rfl,rfl,rfl⟩

theorem createReceipt_receipted (h : Receipted db) (hkey : db.stamp key=none) (now : Int) :
    Receipted (createReceipt db key now) := by
  refine ⟨h.keys.append (receipt_eq_none.mpr hkey),h.ids.append ?_,?_⟩
  · exact lookup_eq_none.mpr fun r hr he => absurd (h.id_lt r hr) (by rw [he]; exact lt_irrefl _)
  intro r hr
  obtain hr | hr := List.mem_append.mp hr
  · exact Int.lt_add_one_of_le (h.id_lt r hr).le
  rw [List.mem_singleton.mp hr]
  exact Int.lt_succ db.nextReceiptId

theorem createReceipt_stamp (hkey : db.stamp key=none) (now : Int) (key' : DedupeKey) :
    (createReceipt db key now).stamp key' = if key'=key then some now else db.stamp key' := by
  rw [Store.stamp,Store.receipt,createReceipt,lookup_append,lookup_cons,lookup_nil]
  by_cases hk : key=key'
  · subst hk
    have hnone := receipt_eq_none.mpr hkey
    rw [Store.receipt] at hnone
    simp [hnone]
  · rw [if_neg hk,if_neg (Ne.symm hk),or_none]
    rfl

theorem ensureReceipt_same (db : Store) (key : DedupeKey) (now : Int) : SameTables db (ensureReceipt db key now) := by
  rw [ensureReceipt]
  split
  · exact .refl db
  · exact createReceipt_same db key now

theorem ensureReceipt_receipted (h : Receipted db) (key : DedupeKey) (now : Int) : Receipted (ensureReceipt db key now) := by
  rw [ensureReceipt]
  split
  next => exact h
  next hnone =>
    rw [Bool.not_eq_true,isSome_eq_false_iff,isNone_iff_eq_none] at hnone
    exact createReceipt_receipted h (receipt_eq_none.mp hnone) now

theorem ensureReceipt_stamp (db : Store) (key : DedupeKey) (now : Int) {key' : DedupeKey} (hne : key'≠key) :
    (ensureReceipt db key now).stamp key'=db.stamp key' := by
  rw [ensureReceipt]
  split
  next => rfl
  next hnone =>
    rw [Bool.not_eq_true,isSome_eq_false_iff,isNone_iff_eq_none] at hnone
    rw [createReceipt_stamp (receipt_eq_none.mp hnone),if_neg hne]

section Cleanup
variable {db : Store} (h : Receipted db) (current : DedupeKey) (now : Int)

theorem cleanup_same : SameTables db (cleanupExpiredNotificationReceiptsTx db current now) := ⟨rfl,rfl,rfl,rfl,rfl,rfl,rfl⟩

theorem cleanup_sublist : (cleanupExpiredNotificationReceiptsTx db current now).receipts.Sublist db.receipts :=
  List.filter_sublist.trans List.filter_sublist

include h

theorem cleanup_receipted : Receipted (cleanupExpiredNotificationReceiptsTx db current now) :=
  ⟨(h.keys.filter _).filter _,(h.ids.filter _).filter _,fun r hr =>
    h.id_lt r ((cleanup_sublist current now).subset hr)⟩

/-- A time stays, or goes once its receipt is over. -/
abbrev Fades (now : Int) (old new : Option Int) : Prop := new=old ∨ new=none ∧ ∀ t, old=some t → t≤now-receiptTTLSeconds

theorem cleanup_stamp (key : DedupeKey) : ∀ db', cleanupExpiredNotificationReceiptsTx db current now=db' →
    Fades now (db.stamp key) (db'.stamp key) := by
  intro db' hdb
  have h' := hdb ▸ cleanup_receipted h current now
  cases hkey : db'.stamp key with
  | some t =>
    obtain ⟨r,hr,hrkey,hrt⟩ := (stamp_eq_some h').mp hkey
    exact .inl ((stamp_eq_some h).mpr ⟨r,(cleanup_sublist current now).subset (hdb ▸ hr),hrkey,hrt⟩).symm
  | none =>
    right
    refine ⟨rfl,fun t ht => ?_⟩
    obtain ⟨r,hr,hrkey,rfl⟩ := (stamp_eq_some h).mp ht
    by_contra hyoung
    have hkept : r∈db'.receipts := by
      rw [← hdb]
      refine List.mem_filter.mpr ⟨List.mem_filter.mpr ⟨hr,by simp [hyoung]⟩,?_⟩
      rw [decide_eq_true_eq]
      intro hid
      obtain ⟨x,hx,hxid⟩ := List.mem_map.mp hid
      have hx := List.mem_filter.mp (List.mem_of_mem_take hx)
      have hsame : x=r := by
        have hlookup := lookup_of_mem h.ids (List.mem_filter.mp hx.1).1
        rw [hxid,lookup_of_mem h.ids hr] at hlookup
        exact (Option.some.inj hlookup).symm
      have hold : x.createdAt≤now-receiptTTLSeconds := by
        have := hx.2
        simp only [Bool.and_eq_true,decide_eq_true_eq] at this
        exact this.2
      exact hyoung (hsame ▸ hold)
    have hsome := (stamp_eq_some h').mpr ⟨r,hkept,hrkey,rfl⟩
    rw [hkey] at hsome
    cases hsome

theorem cleanup_current {t : Int} : (cleanupExpiredNotificationReceiptsTx db current now).stamp current=some t ↔
      db.stamp current=some t ∧ now-t<receiptTTLSeconds := by
  constructor
  · intro ht
    obtain ⟨r,hr,hrkey,rfl⟩ := (stamp_eq_some (cleanup_receipted h current now)).mp ht
    refine ⟨(stamp_eq_some h).mpr ⟨r,(cleanup_sublist current now).subset hr,hrkey,rfl⟩,?_⟩
    have hkept := (List.mem_filter.mp (List.mem_filter.mp hr).1).2
    simp only [hrkey,decide_true,Bool.true_and,Bool.not_eq_true',decide_eq_false_iff_not,not_le] at hkept
    omega
  · rintro ⟨ht,hyoung⟩
    rcases cleanup_stamp h current now current _ rfl with heq | ⟨-,hold⟩
    · rw [heq,ht]
    have := hold t ht
    omega

end Cleanup

section Dedup
variable (lower : String → String) {db : Store} (h : Receipted db) (taskId : Int) (raw : FilterText) (payload : Payload) (now : Int)

def markerKey (payload : Payload) (taskId : Int) : DedupeKey := notificationPrefixDedupKey lower taskId (payloadPrefix payload)

def blocked (db : Store) (payload : Payload) (now taskId : Int) (raw : FilterText) : Bool :=
  match dedupWindow taskId raw payload, db.stamp (markerKey lower payload taskId) with
  | some window, some t => decide (now-t<window)
  | _, _ => false

theorem deduped_same : SameTables db (notificationTaskPrefixDeduped lower db taskId raw payload now).2 := by
  rw [notificationTaskPrefixDeduped]
  split
  · exact .refl db
  dsimp only
  split
  · exact createReceipt_same db _ now
  split
  · exact .refl db
  · exact ⟨rfl,rfl,rfl,rfl,rfl,rfl,rfl⟩

include h

theorem deduped_spec :
    let answer := notificationTaskPrefixDeduped lower db taskId raw payload now
    answer.1=blocked lower db payload now taskId raw ∧ Receipted answer.2 ∧ ∀ key, answer.2.stamp key =
        if answer.1=false ∧ (dedupWindow taskId raw payload).isSome ∧ key=markerKey lower payload taskId then some now
        else db.stamp key := by
  intro answer
  simp only [answer,notificationTaskPrefixDeduped,blocked,markerKey,Store.stamp]
  cases hwindow : dedupWindow taskId raw payload with
  | none => simp [h]
  | some window =>
    cases hstored : db.receipt (notificationPrefixDedupKey lower taskId (payloadPrefix payload)) with
    | none =>
      have hnone := receipt_eq_none.mp hstored
      refine ⟨rfl,createReceipt_receipted h hnone now,fun key => ?_⟩
      have hstamp := createReceipt_stamp hnone now key
      rw [Store.stamp] at hstamp
      simpa [Store.stamp] using hstamp
    | some stored =>
      by_cases hyoung : now-stored.createdAt<window
      · simp [hyoung,h]
      have hmem := (lookup_some hstored).1
      have hkey := (lookup_some hstored).2
      have hkeys : ∀ r : NotificationEventReceipt, ({ r with createdAt := now } : NotificationEventReceipt).dedupeKey=r.dedupeKey :=
        fun r => rfl
      simp only [hyoung,if_false,map_some,decide_false,isSome_some,true_and]
      refine ⟨⟨?_,h.ids.modify _ fun r => rfl,?_⟩,fun key => ?_⟩
      · show Keyed.Unique _ (modify NotificationEventReceipt.id stored.id _ db.receipts)
        rw [Keyed.Unique,map_modify NotificationEventReceipt.id stored.id db.receipts hkeys]
        exact h.keys
      · intro r hr
        obtain ⟨x,hx,rfl⟩ := mem_modify hr
        split <;> exact h.id_lt x hx
      · have hmodify : modify NotificationEventReceipt.id stored.id (fun r => { r with createdAt := now }) db.receipts =
            modify NotificationEventReceipt.dedupeKey stored.dedupeKey (fun r => { r with createdAt := now }) db.receipts := by
          refine List.map_congr_left fun r hr => ?_
          have hiff : r.id=stored.id ↔ r.dedupeKey=stored.dedupeKey := by
            constructor
            · intro hid
              have hlookup := lookup_of_mem h.ids hr
              rw [hid,lookup_of_mem h.ids hmem] at hlookup
              rw [Option.some.inj hlookup]
            · intro hkey'
              have hlookup := lookup_of_mem h.keys hr
              rw [hkey',lookup_of_mem h.keys hmem] at hlookup
              rw [Option.some.inj hlookup]
          simp only [hiff]
        show (lookup _ key (modify NotificationEventReceipt.id stored.id _ db.receipts)).map _=_
        rw [hmodify,lookup_modify _ _ _ _ hkeys,hkey]
        by_cases hk : key=notificationPrefixDedupKey lower taskId (payloadPrefix payload)
        · subst hk
          simp only [Store.receipt] at hstored
          simp [hstored]
        · simp [hk,Store.receipt]

end Dedup

end NewApi.Notifications
