import NewApi.Subscription.Model

/-! The usage counter of a subscription over every run of pre-consumptions, settlement
differences, refunds and resets. The counter has no memory of periods: it is the running
total since the latest reset, floored at zero at every step. -/
namespace NewApi.Subscription
open Keyed Runs List
variable (addDate : AddDate) (plan : SubscriptionPlan) (now : Int) (sub : UserSubscription)

/-- A call. A settlement difference is booked on a subscription only; `requestId` says which
request it belongs to. -/
inductive UsageOp where
  | preConsume (requestId : String) (userId amount now : Int)
  | postConsume (requestId : String) (subId delta : Int)
  | refund (requestId : String)
  | resetDue (subId now : Int)
  | adminResetUser (userId planId now : Int) (advanceResetTime : Bool)
  | adminResetPlan (planId now : Int) (advanceResetTime : Bool)

def UsageOp.call (addDate : AddDate) (db : SubscriptionDB) : UsageOp → Except SubscriptionError SubscriptionDB
  | .preConsume requestId userId amount now =>
    (preConsumeUserSubscription addDate db requestId userId amount now).map (·.1)
  | .postConsume _ subId delta => postConsumeUserSubscriptionDelta db subId delta
  | .refund requestId => refundSubscriptionPreConsume db requestId
  | .resetDue subId now => resetDueSubscription addDate db subId now
  | .adminResetUser userId planId now advanceResetTime =>
    adminResetUserSubscriptionsByPlan addDate db userId planId now advanceResetTime
  | .adminResetPlan planId now advanceResetTime => adminResetPlanSubscriptions addDate db planId now advanceResetTime

def usageStep (addDate : AddDate) (db : SubscriptionDB) (op : UsageOp) : SubscriptionDB :=
  Runs.commit db (op.call addDate db)

def used (db : SubscriptionDB) (sid : Int) : Int := ((db.sub? sid).map (·.amountUsed)).getD 0

inductive UsageEntry where
  | reset
  | charge (requestId : String) (amount : Int) (opens : Bool)
  deriving DecidableEq

def UsageEntry.apply (n : Int) : UsageEntry → Int
  | .reset => 0
  | .charge _ amount _ => max 0 (n+amount)

/-- Does the save of `maybeResetUserSubscriptionWithPlanTx` zero the counter? -/
def resetsNow (addDate : AddDate) (plan : SubscriptionPlan) (now : Int) (sub : UserSubscription) : Bool :=
  !decide (sub.nextResetTime>0 ∧ sub.nextResetTime>now) &&
    !decide (normalizeResetPeriod plan.quotaResetPeriod=.never) && (passedResets addDate plan now sub).2.2

def resetEntry (addDate : AddDate) (db : SubscriptionDB) (now : Int) (sub : UserSubscription) : List UsageEntry :=
  match db.plan? sub.planId with
  | some plan => if resetsNow addDate plan now sub then [.reset] else []
  | none => []

def entries (addDate : AddDate) (db : SubscriptionDB) (sid : Int) (op : UsageOp) : List UsageEntry :=
  match op, op.call addDate db, db.sub? sid with
  | _, .error _, _ | _, _, none => []
  | .preConsume requestId userId amount now, .ok _, some sub =>
    match db.record? requestId, preConsumeUserSubscription addDate db requestId userId amount now with
    | none, .ok (_,result) =>
      (if sub∈db.activeSubs userId now then resetEntry addDate db now sub else []) ++
        (if result.userSubscriptionId=sid then [.charge requestId amount true] else [])
    | _, _ => []
  | .postConsume requestId subId delta, .ok _, some _ =>
    if subId=sid ∧ delta≠0 then [.charge requestId delta false] else []
  | .refund requestId, .ok _, some _ =>
    match db.record? requestId with
    | some record =>
      if record.status=.consumed ∧ record.preConsumed>0 ∧ record.userSubscriptionId=sid then
        [.charge requestId (-record.preConsumed) false]
      else []
    | none => []
  | .resetDue subId now, .ok _, some sub =>
    if subId=sid ∧ sub.nextResetTime>0 ∧ sub.nextResetTime≤now then resetEntry addDate db now sub else []
  | .adminResetUser userId planId now _, .ok _, some sub =>
    if adminResetMatches planId now (some userId) sub then [.reset] else []
  | .adminResetPlan planId now _, .ok _, some sub =>
    if adminResetMatches planId now none sub then [.reset] else []

structure TableOk (db : SubscriptionDB) : Prop where
  unique : Keyed.Unique UserSubscription.id db.subs
  nonneg : ∀ s∈db.subs, 0 ≤ s.amountUsed

theorem maybeReset_id :
    (maybeResetUserSubscriptionWithPlan addDate plan now sub).id=sub.id := by
  unfold maybeResetUserSubscriptionWithPlan
  split
  · rfl
  split
  · rfl
  simp only
  split
  · rfl
  · split <;> rfl

theorem maybeReset_used :
    (maybeResetUserSubscriptionWithPlan addDate plan now sub).amountUsed =
      if resetsNow addDate plan now sub then 0 else sub.amountUsed := by
  unfold maybeResetUserSubscriptionWithPlan resetsNow
  by_cases h1 : sub.nextResetTime>0 ∧ sub.nextResetTime>now
  · simp [h1]
  rw [if_neg h1]
  by_cases h2 : normalizeResetPeriod plan.quotaResetPeriod=.never
  · simp [h2]
  rw [if_neg h2]
  simp only [h1,h2,decide_false,Bool.not_false,Bool.and_self,Bool.true_and]
  by_cases h3 : (passedResets addDate plan now sub).2.2=true
  · simp [h3]
  rw [if_neg h3,if_neg h3]
  split <;> rfl

variable {f : UserSubscription → UserSubscription}

theorem sub?_updateSub (db : SubscriptionDB) (id id' : Int) (hf : ∀ s, s.id=id → (f s).id=id) :
    (db.updateSub id f).sub? id' = if id'=id then (db.sub? id).map f else db.sub? id' :=
  lookup_modify_of UserSubscription.id id id' db.subs hf

variable {db db' : SubscriptionDB}

theorem TableOk.updateSub (h : TableOk db) {id : Int} (hf : ∀ s, s.id=id → (f s).id=id)
    (hpos : ∀ s∈db.subs, s.id=id → 0≤(f s).amountUsed) : TableOk (db.updateSub id f) := by
  constructor
  · rw [Keyed.Unique,SubscriptionDB.updateSub,map_key_modify_of _ _ _ hf]
    exact h.unique
  · intro s' hs'
    obtain ⟨s,hs,rfl⟩ := mem_modify hs'
    by_cases he : s.id=id
    · rw [if_pos he]
      exact hpos s hs he
    · rw [if_neg he]
      exact h.nonneg s hs

theorem resetCandidates_spec (addDate : AddDate) (now : Int) (subs : List UserSubscription) :
    ∀ {db db' : SubscriptionDB} {candidates : List UserSubscription},
      resetCandidates addDate now subs db=.ok (db',candidates) → TableOk db →
      (subs.map (·.id)).Nodup → (∀ s∈subs, db.sub? s.id=some s) → TableOk db' ∧ db'.records=db.records ∧ db'.plans=db.plans ∧
      (∀ id, (∀ s∈subs, s.id≠id) → db'.sub? id=db.sub? id) ∧ (∀ s∈subs, ∃ plan, db.plan? s.planId=some plan ∧
        db'.sub? s.id=some (maybeResetUserSubscriptionWithPlan addDate plan now s)) ∧
      ∀ c∈candidates, ∃ s∈subs, c.id=s.id ∧ db'.sub? s.id=some c := by
  induction subs with
  | nil =>
    intro db db' candidates h hok _ _
    cases h
    exact ⟨hok,rfl,rfl,fun _ _ => rfl,by simp,by simp⟩
  | cons s subs ih =>
    intro db db' candidates h hok hn hrows
    simp only [resetCandidates] at h
    split at h
    · cases h
    rename_i plan hplan
    obtain ⟨⟨db1,candidates1⟩,hloop,hfin⟩ := bind_ok h
    cases hfin
    set s' := maybeResetUserSubscriptionWithPlan addDate plan now s with hs'
    have hid : s'.id=s.id := maybeReset_id addDate plan now s
    simp only [map_cons,nodup_cons] at hn
    have hne : ∀ x∈subs, x.id≠s.id := fun x hx he => hn.1 (he ▸ mem_map_of_mem hx)
    have hkey : ∀ x : UserSubscription, x.id=s.id → s'.id=s.id := fun _ _ => hid
    have hpos : 0 ≤ s'.amountUsed := by
      rw [hs',maybeReset_used]
      split
      · exact Int.le_refl 0
      · exact hok.nonneg s (lookup_some (hrows s (by simp))).1
    have hok1 : TableOk (db.updateSub s.id fun _ => s') := hok.updateSub hkey fun _ _ _ => hpos
    have hrow1 := fun id => sub?_updateSub db s.id id hkey
    obtain ⟨hok',hrec,hplans,hother,hdone,hcand⟩ := ih hloop hok1 hn.2 (fun x hx => by
      rw [hrow1,if_neg (hne x hx)]
      exact hrows x (by simp [hx]))
    have hself : db1.sub? s.id=some s' := by
      rw [hother s.id hne,hrow1,if_pos rfl,hrows s (by simp)]
      rfl
    refine ⟨hok',hrec,hplans,fun id hall => ?_,fun x hx => ?_,fun c hc => ?_⟩
    · rw [hother id fun x hx => hall x (by simp [hx]),hrow1,if_neg (hall s (by simp)).symm]
    · rcases mem_cons.mp hx with rfl | hx
      · exact ⟨plan,hplan,hself⟩
      · exact hdone x hx
    · rcases mem_cons.mp hc with rfl | hc
      · exact ⟨s,by simp,hid,hself⟩
      obtain ⟨x,hx,hrest⟩ := hcand c hc
      exact ⟨x,by simp [hx],hrest⟩

theorem activeSubs_rows (h : TableOk db) (userId now : Int) : ((db.activeSubs userId now).map (·.id)).Nodup ∧
      ∀ s∈db.activeSubs userId now, db.sub? s.id=some s :=
  ⟨List.Nodup.sublist (List.Sublist.map _ filter_sublist) h.unique, fun _ hs => lookup_of_mem h.unique (mem_of_mem_filter hs)⟩

/-- The row `sid` went from `db` to `db'` by booking `es`; no row appears from nothing. -/
def Booked (db db' : SubscriptionDB) (sid : Int) (es : List UsageEntry) : Prop :=
  (db.sub? sid=none → db'.sub? sid=none) ∧ ∀ s, db.sub? sid=some s → ∃ s', db'.sub? sid=some s' ∧
      s'.amountUsed=es.foldl UsageEntry.apply s.amountUsed

theorem Booked.refl (db : SubscriptionDB) (sid : Int) : Booked db db sid [] :=
  ⟨id,fun s hs => ⟨s,hs,rfl⟩⟩

theorem Booked.used {sid : Int} {es : List UsageEntry} (h : Booked db db' sid es) (hes : db.sub? sid=none → es=[]) :
    used db' sid=es.foldl UsageEntry.apply (used db sid) := by
  rcases hs : db.sub? sid with _ | s
  · simp [Subscription.used,hs,h.1 hs,hes hs]
  obtain ⟨s',hs',heq⟩ := h.2 s hs
  simp [Subscription.used,hs,hs',heq]

variable {addDate : AddDate} {now subId : Int}

theorem resetEntry_apply {plan : SubscriptionPlan} {s : UserSubscription} (hplan : db.plan? s.planId=some plan) :
    (resetEntry addDate db now s).foldl UsageEntry.apply s.amountUsed =
      (maybeResetUserSubscriptionWithPlan addDate plan now s).amountUsed := by
  rw [maybeReset_used,resetEntry,hplan]
  simp only
  split <;> rfl

section
variable (hok : TableOk db)
include hok

theorem preConsume_booked {r : String} {userId amount : Int} {result : SubscriptionPreConsumeResult}
    (h : preConsumeUserSubscription addDate db r userId amount now=.ok (db',result)) :
    TableOk db' ∧ ∀ sid, Booked db db' sid (entries addDate db sid (.preConsume r userId amount now)) := by
  have hcall : (UsageOp.preConsume r userId amount now).call addDate db=.ok db' := by
    simp [UsageOp.call,h,Except.map]
  have hentries : ∀ sid s, db.sub? sid=some s → db.record? r=none → entries addDate db sid (.preConsume r userId amount now) =
      (if s∈db.activeSubs userId now then resetEntry addDate db now s else []) ++
        (if result.userSubscriptionId=sid then [.charge r amount true] else []) := by
    intro sid s hs hrec
    simp only [entries,hcall,hs,h,hrec]
  have hseen : ∀ sid x, db.record? r=some x → entries addDate db sid (.preConsume r userId amount now)=[] := by
    intro sid x hrec
    cases hs : db.sub? sid <;> simp only [entries,hcall,hs,h,hrec]
  simp only [preConsumeUserSubscription] at h
  split at h
  · cases h
  split at h
  · cases h
  split at h
  · cases h
  rename_i hamount
  split at h
  next existing hrec =>
    split at h
    · cases h
    split at h
    · cases h
    cases h
    refine ⟨hok,fun sid => ?_⟩
    rw [hseen sid existing hrec]
    exact Booked.refl db sid
  next hrec =>
    split at h
    · cases h
    obtain ⟨⟨db1,candidates⟩,hreset,hpick⟩ := bind_ok h
    simp only at hpick
    split at hpick
    · cases hpick
    rename_i pick hfind
    cases hpick
    obtain ⟨hn,hrows⟩ := activeSubs_rows hok userId now
    obtain ⟨hok1,-,-,hother,hdone,hcand⟩ := resetCandidates_spec addDate now _ hreset hok hn hrows
    have hmem : pick∈candidates := by
      have := mem_of_find?_eq_some hfind
      rwa [sortCandidates,mem_insertionSort] at this
    obtain ⟨x,hx,hid,hpick⟩ := hcand pick hmem
    have hkey : ∀ y : UserSubscription, y.id=pick.id →
        ({ pick with amountUsed := pick.amountUsed+amount } : UserSubscription).id=pick.id :=
      fun _ _ => rfl
    have hpos := hok1.nonneg pick (lookup_some hpick).1
    have hrow := fun sid => sub?_updateSub (db1.createRecord ⟨r,userId,pick.id,amount,.consumed⟩)
      pick.id sid hkey
    have hcreated : TableOk (db1.createRecord ⟨r,userId,pick.id,amount,.consumed⟩) :=
      ⟨hok1.unique,hok1.nonneg⟩
    refine ⟨hcreated.updateSub hkey fun _ _ _ => by simp only; omega,fun sid => ⟨fun hnone => ?_,fun s hs => ?_⟩⟩
    · have hfresh : ∀ y∈db.activeSubs userId now, y.id≠sid := by
        intro y hy he
        have := hrows y hy
        rw [he,hnone] at this
        cases this
      rw [hrow,if_neg fun he => hfresh x hx (hid.symm.trans he.symm)]
      exact (hother sid hfresh).trans hnone
    · rw [hentries sid s hs hrec]
      by_cases hact : s∈db.activeSubs userId now
      · have hsid : s.id=sid := (lookup_some hs).2
        obtain ⟨plan,hplan,hreset1⟩ := hdone s hact
        rw [hsid] at hreset1
        rw [if_pos hact,foldl_append,resetEntry_apply hplan,hrow]
        by_cases he : pick.id=sid
        · rw [← hid,he,hreset1,Option.some.injEq] at hpick
          subst hpick
          rw [if_pos he,if_pos he.symm]
          refine ⟨_,by rw [he]; exact congrArg (Option.map _) hreset1,?_⟩
          simp only [foldl_cons,foldl_nil,UsageEntry.apply]
          omega
        · rw [if_neg he,if_neg (Ne.symm he)]
          exact ⟨_,hreset1,rfl⟩
      · have hfresh : ∀ y∈db.activeSubs userId now, y.id≠sid := by
          intro y hy he
          have := hrows y hy
          rw [he,hs,Option.some.injEq] at this
          exact hact (this ▸ hy)
        have hne : pick.id≠sid := fun he => hfresh x hx (hid.symm.trans he)
        rw [if_neg hact,if_neg hne,hrow,if_neg hne.symm]
        exact ⟨s,(hother sid hfresh).trans hs,rfl⟩

theorem postDelta_booked {delta : Int} (h : postConsumeUserSubscriptionDelta db subId delta=.ok db') (r : String) :
    TableOk db' ∧ db'.records=db.records ∧
      ∀ sid, Booked db db' sid (if subId=sid ∧ delta≠0 then [.charge r delta false] else []) := by
  unfold postConsumeUserSubscriptionDelta at h
  split at h
  · cases h
  split at h
  next hz =>
    cases h
    exact ⟨hok,rfl,fun sid => by rw [if_neg (by simp [hz])]; exact Booked.refl db sid⟩
  next hz =>
    split at h
    · cases h
    rename_i s hs
    simp only at h
    have hmax : (if s.amountUsed+delta<0 then 0 else s.amountUsed+delta)=max 0 (s.amountUsed+delta) := by
      split <;> omega
    rw [hmax] at h
    split at h
    · cases h
    cases h
    have hid : s.id=subId := (lookup_some hs).2
    set newUsed := max 0 (s.amountUsed+delta)
    have hkey : ∀ y : UserSubscription, y.id=s.id →
        ({ y with amountUsed := newUsed } : UserSubscription).id=s.id := fun _ hy => hy
    have hrow := fun sid => sub?_updateSub db s.id sid hkey
    refine ⟨hok.updateSub hkey fun _ _ _ => by simp only; omega,rfl,fun sid => ⟨fun hnone => ?_,fun t ht => ?_⟩⟩
    · rw [hrow]
      by_cases he : sid=s.id
      · rw [he,hid,hs] at hnone
        cases hnone
      · rw [if_neg he]
        exact hnone
    · rw [hrow]
      by_cases he : sid=s.id
      · have hts : t=s := by
          rw [he,hid,hs,Option.some.injEq] at ht
          exact ht.symm
        subst hts
        rw [if_pos he,if_pos ⟨(he.trans hid).symm,hz⟩,hid,hs]
        exact ⟨_,rfl,rfl⟩
      · rw [if_neg he,if_neg fun hc => he (hc.1.symm.trans hid.symm)]
        exact ⟨t,ht,rfl⟩

theorem refund_booked {r : String} (h : refundSubscriptionPreConsume db r=.ok db') :
    TableOk db' ∧ ∀ sid, Booked db db' sid (entries addDate db sid (.refund r)) := by
  have hentries : ∀ sid, db.sub? sid≠none → entries addDate db sid (.refund r) =
      match db.record? r with
      | some record =>
        if record.status=.consumed ∧ record.preConsumed>0 ∧ record.userSubscriptionId=sid then
          [.charge r (-record.preConsumed) false]
        else []
      | none => [] := by
    intro sid hsid
    unfold entries
    simp only [UsageOp.call,h]
    rcases hs : db.sub? sid with _ | s
    · exact absurd hs hsid
    · rfl
  have hbook : ∀ sid es, (db.sub? sid≠none → entries addDate db sid (.refund r)=es) →
      Booked db db' sid es → Booked db db' sid (entries addDate db sid (.refund r)) := by
    intro sid es hes hb
    refine ⟨hb.1,fun s hs => ?_⟩
    rw [hes (by simp [hs])]
    exact hb.2 s hs
  simp only [refundSubscriptionPreConsume] at h
  split at h
  · cases h
  split at h
  · cases h
  rename_i record hrec
  rw [hrec] at hentries
  split at h
  next hst =>
    cases h
    exact ⟨hok,fun sid => hbook sid [] (fun hs => by rw [hentries sid hs]; simp [hst]) (Booked.refl db sid)⟩
  next hst =>
    have hcons : record.status=.consumed := by
      cases hstatus : record.status with
      | consumed => rfl
      | refunded => exact absurd hstatus hst
    split at h
    next hp =>
      cases h
      refine ⟨⟨hok.unique,hok.nonneg⟩,fun sid => hbook sid [] (fun hs => ?_) ?_⟩
      · rw [hentries sid hs]
        exact if_neg (by omega)
      · exact ⟨id,fun s hs => ⟨s,hs,rfl⟩⟩
    next hp =>
      obtain ⟨db1,hpost,hfin⟩ := bind_ok h
      cases hfin
      obtain ⟨hok1,-,hb⟩ := postDelta_booked hok hpost r
      refine ⟨⟨hok1.unique,hok1.nonneg⟩,fun sid => hbook sid _ (fun hs => ?_) (hb sid)⟩
      rw [hentries sid hs]
      have hne : -record.preConsumed≠0 := by omega
      simp only [hcons,show record.preConsumed>0 by omega,hne,true_and,and_true,ne_eq,not_false_eq_true]

theorem resetDue_booked (h : resetDueSubscription addDate db subId now=.ok db') :
    TableOk db' ∧ ∀ sid, Booked db db' sid (entries addDate db sid (.resetDue subId now)) := by
  have hentries : ∀ sid s, db.sub? sid=some s → entries addDate db sid (.resetDue subId now) =
      if subId=sid ∧ s.nextResetTime>0 ∧ s.nextResetTime≤now then resetEntry addDate db now s else [] := by
    intro sid s hs
    unfold entries
    simp only [UsageOp.call,h,hs]
  unfold resetDueSubscription at h
  split at h
  next hnone =>
    cases h
    refine ⟨hok,fun sid => ⟨id,fun s hs => ⟨s,hs,?_⟩⟩⟩
    rw [hentries sid s hs,if_neg]
    · rfl
    rintro ⟨rfl,-⟩
    rw [hnone] at hs
    cases hs
  next x hx =>
    have hid : x.id=subId := (lookup_some hx).2
    split at h
    next hdue =>
      cases h
      refine ⟨hok,fun sid => ⟨id,fun s hs => ⟨s,hs,?_⟩⟩⟩
      rw [hentries sid s hs,if_neg]
      · rfl
      rintro ⟨rfl,hcond⟩
      rw [hx,Option.some.injEq] at hs
      subst hs
      exact hdue hcond
    next hdue =>
      split at h
      next hplan =>
        cases h
        refine ⟨hok,fun sid => ⟨id,fun s hs => ⟨s,hs,?_⟩⟩⟩
        rw [hentries sid s hs]
        by_cases he : subId=sid
        · subst he
          rw [hx,Option.some.injEq] at hs
          subst hs
          rw [if_pos ⟨rfl,not_not.mp hdue⟩,resetEntry,hplan]
          rfl
        · rw [if_neg (by simp [he])]
          rfl
      next plan hplan =>
        cases h
        have hkey : ∀ y : UserSubscription, y.id=x.id → (maybeResetUserSubscriptionWithPlan addDate plan now y).id=x.id :=
          fun y hy => (maybeReset_id addDate plan now y).trans hy
        have hrow := fun sid => sub?_updateSub db x.id sid hkey
        refine ⟨hok.updateSub hkey fun s hs _ => ?_,fun sid => ⟨fun hnone => ?_,fun s hs => ?_⟩⟩
        · rw [maybeReset_used]
          split
          · exact Int.le_refl 0
          · exact hok.nonneg s hs
        · rw [hrow]
          by_cases he : sid=x.id
          · rw [he,hid,hx] at hnone
            cases hnone
          · rw [if_neg he]
            exact hnone
        · rw [hrow,hentries sid s hs]
          by_cases he : sid=x.id
          · have hsx : s=x := by
              rw [he,hid,hx,Option.some.injEq] at hs
              exact hs.symm
            subst hsx
            rw [if_pos he,if_pos ⟨(he.trans hid).symm,not_not.mp hdue⟩,hid,hx]
            exact ⟨_,rfl,(resetEntry_apply hplan).symm⟩
          · rw [if_neg he,if_neg fun hc => he (hc.1.symm.trans hid.symm)]
            exact ⟨s,hs,rfl⟩

end

variable (es : List UsageEntry)

theorem resetUser_fields (addDate : AddDate) (plan : SubscriptionPlan) (now : Int) (adv : Bool) (s : UserSubscription) :
    (resetUserSubscription addDate plan now adv s).id=s.id ∧ (resetUserSubscription addDate plan now adv s).amountUsed=0 := by
  cases adv <;> exact ⟨rfl,rfl⟩

theorem updateSubsWhere_booked (hok : TableOk db) {p : UserSubscription → Bool} (hf : ∀ s, (f s).id=s.id ∧ (f s).amountUsed=0) :
    TableOk (db.updateSubsWhere p f) ∧ ∀ sid es,
      (∀ s, db.sub? sid=some s → es = if p s then [.reset] else []) → Booked db (db.updateSubsWhere p f) sid es := by
  have hid : ∀ s : UserSubscription, (if p s=true then f s else s).id=s.id := by
    intro s
    split
    · exact (hf s).1
    · rfl
  have hlookup : ∀ (rows : List UserSubscription) sid,
      Keyed.lookup UserSubscription.id sid (rows.map fun s => if p s=true then f s else s) =
        (Keyed.lookup UserSubscription.id sid rows).map fun s => if p s=true then f s else s := by
    intro rows sid
    induction rows with
    | nil => rfl
    | cons s rows ih =>
      rw [map_cons,Keyed.lookup_cons,Keyed.lookup_cons,ih,hid]
      split <;> rfl
  refine ⟨⟨?_,?_⟩,fun sid es hes => ⟨fun hnone => ?_,fun s hs => ?_⟩⟩
  · rw [Keyed.Unique,SubscriptionDB.updateSubsWhere,map_map]
    have hmap : (UserSubscription.id ∘ fun s => if p s=true then f s else s)=UserSubscription.id :=
      funext hid
    rw [hmap]
    exact hok.unique
  · intro s' hs'
    obtain ⟨s,hs,rfl⟩ := mem_map.mp hs'
    split
    · rw [(hf s).2]
    · exact hok.nonneg s hs
  · rw [SubscriptionDB.sub?,SubscriptionDB.updateSubsWhere,hlookup]
    exact congrArg (Option.map _) hnone
  · refine ⟨if p s=true then f s else s,?_,?_⟩
    · rw [SubscriptionDB.sub?,SubscriptionDB.updateSubsWhere,hlookup]
      exact congrArg (Option.map _) hs
    · rw [hes s hs]
      split
      · simp [(hf s).2,UsageEntry.apply]
      · rfl

theorem usageStep_booked (addDate : AddDate) (hok : TableOk db) (op : UsageOp) : TableOk (usageStep addDate db op) ∧
      ∀ sid, Booked db (usageStep addDate db op) sid (entries addDate db sid op) := by
  unfold usageStep
  rcases hcall : op.call addDate db with e | db'
  · refine ⟨hok,fun sid => ?_⟩
    have hnil : entries addDate db sid op=[] := by
      unfold entries
      rw [hcall]
    rw [hnil]
    exact Booked.refl db sid
  · rw [commit_ok]
    cases op with
    | preConsume r userId amount now =>
      obtain ⟨out,hout,hcall⟩ := map_ok hcall
      cases hcall
      exact preConsume_booked hok hout
    | postConsume r subId delta =>
      obtain ⟨hok',-,hb⟩ := postDelta_booked hok hcall r
      refine ⟨hok',fun sid => ⟨(hb sid).1,fun s hs => ?_⟩⟩
      have hes : entries addDate db sid (.postConsume r subId delta) =
          if subId=sid ∧ delta≠0 then [.charge r delta false] else [] := by
        unfold entries
        rw [hcall,hs]
      rw [hes]
      exact (hb sid).2 s hs
    | refund r => exact refund_booked hok hcall
    | resetDue subId now => exact resetDue_booked hok hcall
    | adminResetUser userId planId now adv =>
      have hres := hcall
      simp only [UsageOp.call,adminResetUserSubscriptionsByPlan] at hres
      split at hres
      · cases hres
      split at hres
      · cases hres
      split at hres
      · cases hres
      cases hres
      obtain ⟨hok',hb⟩ := updateSubsWhere_booked hok (p := adminResetMatches planId now (some userId))
        fun s => resetUser_fields addDate _ now adv s
      refine ⟨hok',fun sid => hb sid _ fun s hs => ?_⟩
      unfold entries
      rw [hcall,hs]
    | adminResetPlan planId now adv =>
      have hres := hcall
      simp only [UsageOp.call,adminResetPlanSubscriptions] at hres
      split at hres
      · cases hres
      split at hres
      · cases hres
      cases hres
      obtain ⟨hok',hb⟩ := updateSubsWhere_booked hok (p := adminResetMatches planId now none)
        fun s => resetUser_fields addDate _ now adv s
      refine ⟨hok',fun sid => hb sid _ fun s hs => ?_⟩
      unfold entries
      rw [hcall,hs]

def trace (addDate : AddDate) (sid : Int) : List UsageOp → SubscriptionDB → List UsageEntry
  | [], _ => []
  | op::ops, db => entries addDate db sid op++trace addDate sid ops (usageStep addDate db op)

theorem used_run (addDate : AddDate) (sid : Int) (ops : List UsageOp) : ∀ db : SubscriptionDB, TableOk db →
      used (Runs.run (usageStep addDate) ops db) sid = (trace addDate sid ops db).foldl UsageEntry.apply (used db sid) := by
  induction ops with
  | nil => exact fun _ _ => rfl
  | cons op ops ih =>
    intro db hok
    obtain ⟨hok',hb⟩ := usageStep_booked addDate hok op
    have hstep := (hb sid).used fun hnone => by
      unfold entries
      rw [hnone]
      rcases op.call addDate db with e | db' <;> rfl
    rw [Runs.run,ih _ hok',trace,foldl_append,hstep]

def sinceReset (es : List UsageEntry) : List UsageEntry :=
  es.rtakeWhile fun e => decide (e≠.reset)

def counter (es : List UsageEntry) : Int := es.foldl UsageEntry.apply 0

theorem counter_sinceReset : counter (sinceReset es)=counter es := by
  induction es using List.reverseRecOn with
  | nil => rfl
  | append_singleton es e ih =>
    rw [sinceReset,rtakeWhile_concat]
    by_cases he : e=.reset
    · subst he
      simp [counter,UsageEntry.apply]
    · rw [if_pos (by simpa using he)]
      simp only [counter,foldl_append,sinceReset] at ih ⊢
      rw [ih]

def UsageEntry.amount : UsageEntry → Int
  | .reset => 0
  | .charge _ amount _ => amount

def opened (es : List UsageEntry) : List String :=
  es.filterMap fun e => match e with
    | .charge requestId _ true => some requestId
    | _ => none

def UsageEntry.ownedBy (requests : List String) : UsageEntry → Bool
  | .charge requestId _ _ => decide (requestId∈requests)
  | .reset => false

/-- Pre-consumed plus settlement differences minus refunds, of the requests that were
pre-consumed within the entries. -/
def netCharge (es : List UsageEntry) : Int :=
  ((es.filter (·.ownedBy (opened es))).map (·.amount)).sum

/-- No prefix of the entries sums to less than zero: the floor is never reached. -/
def NoFloor (es : List UsageEntry) : Prop := ∀ p, p <+: es → 0≤(p.map (·.amount)).sum

theorem counter_eq_sum (h : NoFloor es) (hr : .reset∉es) : counter es=(es.map (·.amount)).sum := by
  induction es using List.reverseRecOn with
  | nil => rfl
  | append_singleton es e ih =>
    have hes := ih (fun p hp => h p (hp.trans (prefix_append es [e]))) fun hm => hr (by simp [hm])
    have hpos := h (es++[e]) (prefix_refl _)
    simp only [counter,foldl_append,foldl_cons,foldl_nil,map_append,sum_append,
      map_cons,map_nil,sum_cons,sum_nil] at hes hpos ⊢
    rw [hes]
    cases e with
    | reset => simp at hr
    | charge r a o =>
      simp only [UsageEntry.apply,UsageEntry.amount] at hpos ⊢
      omega

theorem reset_notMem_sinceReset : .reset∉sinceReset es := by
  intro hm
  simpa using mem_rtakeWhile_imp hm

/-- The counter is the floored running total since the latest reset; it is the net charge of the requests since then if
nothing else was booked and the floor was not reached. -/
theorem used_since_reset (addDate : AddDate) (db : SubscriptionDB) (sid : Int) (ops : List UsageOp)
    (hok : TableOk db) (h0 : used db sid=0) :
    used (Runs.run (usageStep addDate) ops db) sid=counter (sinceReset (trace addDate sid ops db)) ∧
      ((∀ e∈sinceReset (trace addDate sid ops db), e.ownedBy (opened (sinceReset (trace addDate sid ops db)))=true) →
        NoFloor (sinceReset (trace addDate sid ops db)) →
        used (Runs.run (usageStep addDate) ops db) sid=netCharge (sinceReset (trace addDate sid ops db))) := by
  have hused : used (Runs.run (usageStep addDate) ops db) sid = counter (sinceReset (trace addDate sid ops db)) := by
    rw [used_run addDate sid ops db hok,h0,counter_sinceReset,counter]
  refine ⟨hused,fun hown hfloor => ?_⟩
  rw [hused,counter_eq_sum _ hfloor (reset_notMem_sinceReset _),netCharge,filter_eq_self.mpr hown]

def usageExample : SubscriptionDB where
  plans := [{ id := 1, totalAmount := 100 }]
  subs := [{ id := 1, userId := 1, planId := 1, amountTotal := 100, amountUsed := 0, startTime := 0,
             endTime := 1000, status := .active }]
  records := []

theorem usageExample_ok : TableOk usageExample := by
  refine ⟨nodup_singleton _,fun s hs => ?_⟩
  simp only [usageExample,mem_singleton] at hs
  subst hs
  decide

theorem used_since_reset_settled : used (Runs.run (usageStep fun b _ _ _ => b)
      [.preConsume "a" 1 10 5,.adminResetPlan 1 6 false,.preConsume "b" 1 20 7,.postConsume "b" 1 (-5)] usageExample) 1=15 := by
  rw [(used_since_reset (fun b _ _ _ => b) usageExample 1 _ usageExample_ok rfl).1]
  decide

theorem refund_leaks_across_reset : used (Runs.run (usageStep fun b _ _ _ => b)
      [.preConsume "a" 1 10 5,.adminResetPlan 1 6 false,.preConsume "b" 1 10 7,.refund "a"] usageExample) 1 ≠
    netCharge (sinceReset (trace (fun b _ _ _ => b) 1
      [.preConsume "a" 1 10 5,.adminResetPlan 1 6 false,.preConsume "b" 1 10 7,.refund "a"] usageExample)) := by
  decide

end NewApi.Subscription
