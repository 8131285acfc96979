import NewApi.Subscription.Usage

/-! One request on the subscription tables: what its pre-consumption, its differences and its
refund leave in the rows, with the outcome of every call given and not only assumed. -/
namespace NewApi.Subscription
open List Keyed GoStrings

variable {addDate : AddDate} {db db' : SubscriptionDB}

def UserSubscription.withUsed (s : UserSubscription) (used : Int) : UserSubscription := { s with amountUsed := used }

variable {id userId now amount : Int} {row s : UserSubscription}

theorem postDelta_eq {delta : Int} (hrow : db.sub? id=some row) (hid : 0 < id) (hdelta : delta≠0) :
    postConsumeUserSubscriptionDelta db id delta = if row.amountTotal>0 ∧ max 0 (row.amountUsed+delta)>row.amountTotal then
        .error (.usedExceedsTotal (max 0 (row.amountUsed+delta)) row.amountTotal)
      else .ok (db.updateSub id (·.withUsed (max 0 (row.amountUsed+delta)))) := by
  have hmax : (if row.amountUsed+delta<0 then 0 else row.amountUsed+delta)=max 0 (row.amountUsed+delta) := by
    split <;> omega
  have hkey : row.id=id := (lookup_some hrow).2
  unfold postConsumeUserSubscriptionDelta
  rw [if_neg (by omega),if_neg hdelta,hrow]
  simp only [hmax,hkey]
  rfl

theorem sub?_withUsed (id id' used : Int) : (db.updateSub id (·.withUsed used)).sub? id' =
      if id'=id then (db.sub? id).map (·.withUsed used) else db.sub? id' :=
  sub?_updateSub db id id' fun _ hs => hs

theorem used_withUsed (hrow : db.sub? id=some row) (n sid : Int) :
    used (db.updateSub id (·.withUsed n)) sid = if sid=id then n else used db sid := by
  rw [used,sub?_withUsed]
  split
  · rw [hrow]
    rfl
  · rfl

theorem used_eq (hrow : db.sub? id=some row) : used db id=row.amountUsed := by
  rw [used,hrow]
  rfl

theorem TableOk.used_nonneg (h : TableOk db) (id : Int) : 0≤used db id := by
  rw [used]
  rcases hrow : db.sub? id with _ | row
  · exact Int.le_refl 0
  · exact h.nonneg row (lookup_some hrow).1

def NoResetDue (addDate : AddDate) (db : SubscriptionDB) (userId now : Int) : Prop :=
  ∀ s∈db.activeSubs userId now, ∀ plan, db.plan? s.planId=some plan → resetsNow addDate plan now s=false

def usedAfterResets (addDate : AddDate) (db : SubscriptionDB) (userId now sid : Int) : Int :=
  match db.sub? sid with
  | some s => if s∈db.activeSubs userId now ∧ resetEntry addDate db now s≠[] then 0 else s.amountUsed
  | none => 0

structure Opened (before : Int → Int) (db' : SubscriptionDB) (requestId : String) (userId amount : Int)
    (result : SubscriptionPreConsumeResult) : Prop where
  table : TableOk db'
  positive : 0<amount
  named : isBlank requestId=false
  preConsumed : result.preConsumed=amount
  record : db'.record? requestId=some ⟨requestId,userId,result.userSubscriptionId,amount,.consumed⟩
  row : ∃ row, db'.sub? result.userSubscriptionId=some row ∧ (row.amountTotal≤0 ∨ row.amountUsed≤row.amountTotal)
  used : ∀ sid, used db' sid=before sid + if sid=result.userSubscriptionId then amount else 0

theorem resetEntry_nil (hdue : NoResetDue addDate db userId now) (hs : s∈db.activeSubs userId now) :
    resetEntry addDate db now s=[] := by
  unfold resetEntry
  split
  next plan hplan =>
    rw [hdue s hs plan hplan]
    rfl
  · rfl

theorem resetEntry_fold (s : UserSubscription) (now n : Int) :
    (resetEntry addDate db now s).foldl UsageEntry.apply n = if resetEntry addDate db now s≠[] then 0 else n := by
  unfold resetEntry
  split
  · split <;> rfl
  · rfl

theorem usedAfterResets_eq (hdue : NoResetDue addDate db userId now) : usedAfterResets addDate db userId now=used db := by
  funext sid
  rw [usedAfterResets,used]
  cases db.sub? sid with
  | none => rfl
  | some s =>
    simp only
    rw [if_neg fun h => h.2 (resetEntry_nil hdue h.1)]
    rfl

def ResetDue (addDate : AddDate) (db : SubscriptionDB) (userId now : Int) : Prop :=
  ∃ s∈db.activeSubs userId now, s.amountUsed≠0 ∧ ∃ plan, db.plan? s.planId=some plan ∧ resetsNow addDate plan now s=true

theorem resetEntry_ne_nil :
    resetEntry addDate db now s≠[] ↔ ∃ plan, db.plan? s.planId=some plan ∧ resetsNow addDate plan now s=true := by
  unfold resetEntry
  cases db.plan? s.planId with
  | none | some _ => simp

theorem TableOk.usedAfterResets_iff (h : TableOk db) (addDate : AddDate) (userId now : Int) :
    (∀ sid, usedAfterResets addDate db userId now sid=used db sid) ↔ ¬ ResetDue addDate db userId now := by
  constructor
  · rintro hsame ⟨s,hs,hne,hplan⟩
    have hrow := (activeSubs_rows h userId now).2 s hs
    have hsid := hsame s.id
    rw [usedAfterResets,used_eq hrow,hrow] at hsid
    simp only at hsid
    rw [if_pos ⟨hs,resetEntry_ne_nil.mpr hplan⟩] at hsid
    exact hne hsid.symm
  · intro hno sid
    rw [usedAfterResets]
    cases hrow : db.sub? sid with
    | none => rw [used,hrow]; rfl
    | some s =>
      rw [used_eq hrow]
      simp only
      split
      next hdue =>
        by_contra hne
        exact hno ⟨s,hdue.1,Ne.symm hne,resetEntry_ne_nil.mp hdue.2⟩
      · rfl

theorem TableOk.usedAfterResets_nonneg (h : TableOk db) (addDate : AddDate) (userId now sid : Int) :
    0≤usedAfterResets addDate db userId now sid := by
  rw [usedAfterResets]
  cases hs : db.sub? sid with
  | none => exact Int.le_refl 0
  | some s =>
    simp only
    split
    · exact Int.le_refl 0
    · exact h.nonneg s (lookup_some hs).1

variable {requestId : String}

theorem preConsume_opened {result : SubscriptionPreConsumeResult} (hok : TableOk db) (hnew : db.record? requestId=none)
    (h : preConsumeUserSubscription addDate db requestId userId amount now=.ok (db',result)) :
    Opened (usedAfterResets addDate db userId now) db' requestId userId amount result := by
  obtain ⟨hok',hbooked⟩ := preConsume_booked hok h
  have hcall : (UsageOp.preConsume requestId userId amount now).call addDate db=.ok db' := by
    simp [UsageOp.call,h,Except.map]
  have hused : ∀ sid s, db.sub? sid=some s → used db' sid =
      ((if result.userSubscriptionId=sid then [UsageEntry.charge requestId amount true] else []).foldl
        UsageEntry.apply (usedAfterResets addDate db userId now sid)) := by
    intro sid s hs
    obtain ⟨s',hs',hfold⟩ := (hbooked sid).2 s hs
    rw [used_eq hs',hfold]
    unfold entries
    rw [hcall,hs]
    simp only [h,hnew,foldl_append,usedAfterResets,hs]
    by_cases hactive : s∈db.activeSubs userId now
    · simp only [hactive,if_true,resetEntry_fold,true_and]
    · simp only [hactive,false_and,if_false,foldl_nil]
  unfold preConsumeUserSubscription at h
  split at h
  · cases h
  split at h
  · cases h
  rename_i hblank
  split at h
  · cases h
  rename_i hamount
  rw [hnew] at h
  simp only at h
  split at h
  · cases h
  obtain ⟨⟨db1,candidates⟩,hreset,hpick⟩ := Runs.bind_ok h
  simp only at hpick
  split at hpick
  · cases hpick
  rename_i pick hfind
  cases hpick
  obtain ⟨hn,hrows⟩ := activeSubs_rows hok userId now
  obtain ⟨-,hrecords,-,-,-,hcand⟩ := resetCandidates_spec addDate now _ hreset hok hn hrows
  have hroom : hasRoom amount pick=true := find?_some hfind
  have hmem : pick∈candidates := by
    have := mem_of_find?_eq_some hfind
    rwa [sortCandidates,mem_insertionSort] at this
  obtain ⟨x,hx,hid,hrow⟩ := hcand pick hmem
  have hpaid : db1.sub? pick.id=some pick := by rw [hid,hrow]
  have hkey : ∀ y : UserSubscription, y.id=pick.id →
      ({ pick with amountUsed := pick.amountUsed+amount } : UserSubscription).id=pick.id := fun _ _ => rfl
  have hsub := fun sid => sub?_updateSub (db1.createRecord ⟨requestId,userId,pick.id,amount,.consumed⟩)
    pick.id sid hkey
  refine ⟨hok',by omega,by simpa using hblank,rfl,?_,?_,?_⟩
  · have hfresh : Keyed.lookup SubscriptionPreConsumeRecord.requestId requestId db1.records=none := by
      rw [hrecords]
      exact hnew
    change Keyed.lookup SubscriptionPreConsumeRecord.requestId requestId
      (db1.records++[⟨requestId,userId,pick.id,amount,.consumed⟩])=_
    rw [Keyed.lookup_append,hfresh,Keyed.lookup_cons,if_pos rfl]
    rfl
  · refine ⟨{ pick with amountUsed := pick.amountUsed+amount },?_,?_⟩
    · rw [hsub,if_pos rfl]
      exact congrArg (Option.map _) hpaid
    · simp only [hasRoom,Bool.not_eq_true',Bool.and_eq_false_iff,decide_eq_false_iff_not] at hroom
      simp only
      omega
  · intro sid
    rcases hs : db.sub? sid with _ | s
    · have hnone := (hbooked sid).1 hs
      have hne : sid≠pick.id := by
        intro he
        rw [hsub,if_pos he,Option.map_eq_none_iff] at hnone
        exact absurd (hpaid.symm.trans hnone) (by simp)
      rw [if_neg hne,used,usedAfterResets,hnone,hs]
      rfl
    · rw [hused sid s hs]
      have hpos := hok.usedAfterResets_nonneg addDate userId now sid
      by_cases he : pick.id=sid
      · rw [if_pos he,if_pos he.symm]
        simp only [foldl_cons,foldl_nil,UsageEntry.apply]
        omega
      · rw [if_neg he,if_neg (Ne.symm he)]
        simp

def refundedTables (db : SubscriptionDB) (requestId : String) (id used : Int) : SubscriptionDB :=
  (db.updateSub id (·.withUsed used)).updateRecord requestId fun r => { r with status := .refunded }

theorem sub?_refundedTables (requestId : String) (id used sid : Int) :
    (refundedTables db requestId id used).sub? sid=(db.updateSub id (·.withUsed used)).sub? sid := rfl

theorem refund_eq (hnamed : isBlank requestId=false)
    (hrecord : db.record? requestId=some ⟨requestId,userId,id,amount,.consumed⟩) (hpos : 0<amount)
    (hrow : db.sub? id=some row) (hid : 0 < id) : refundSubscriptionPreConsume db requestId =
      if row.amountTotal>0 ∧ max 0 (row.amountUsed-amount)>row.amountTotal then
        .error (.usedExceedsTotal (max 0 (row.amountUsed-amount)) row.amountTotal)
      else .ok (refundedTables db requestId id (max 0 (row.amountUsed-amount))) := by
  unfold refundSubscriptionPreConsume
  rw [if_neg (by simp [hnamed]),hrecord]
  simp only [reduceCtorEq,if_false]
  rw [if_neg (by omega),postDelta_eq hrow hid (by omega),← sub_eq_add_neg]
  split <;> rfl

theorem refund_cases (hnamed : isBlank requestId=false)
    (hrecord : db.record? requestId=some ⟨requestId,userId,id,amount,.consumed⟩) (hpos : 0<amount)
    (hrow : db.sub? id=some row) : (∃ err, refundSubscriptionPreConsume db requestId=.error err) ∨
      refundSubscriptionPreConsume db requestId = .ok (refundedTables db requestId id (max 0 (row.amountUsed-amount))) := by
  by_cases hid : 0 < id
  · rw [refund_eq hnamed hrecord hpos hrow hid]
    split
    · exact Or.inl ⟨_,rfl⟩
    · exact Or.inr rfl
  · refine Or.inl ⟨.invalidSubscriptionId,?_⟩
    unfold refundSubscriptionPreConsume
    rw [if_neg (by simp [hnamed]),hrecord]
    simp only [reduceCtorEq,if_false]
    rw [if_neg (by omega),postConsumeUserSubscriptionDelta,if_pos (by omega)]
    rfl

end NewApi.Subscription
