import NewApi.Payment.Completion

/-! A top-up order is credited at most once, whatever calls compete for it: callbacks of any provider, an
administrator, the free completion and its failure step, expiry, and attempts that open the order again. -/
namespace NewApi.Payment
open Option List Runs GoStrings Affiliate Promo

/-- The order is not completed yet and nothing is recorded for it, as when it was created. Trade numbers are
generated, so that no other one is the same up to blanks. -/
structure Unpaid (db : PaymentDB) (order : TopUp) : Prop where
  stored : db.topUp? order.tradeNo=some order
  unpaid : order.status≠.success
  user : 0<order.userId
  tradeNo : isBlank order.tradeNo=false
  distinct : ∀ o∈db.topUps, trimSpace o.tradeNo=trimSpace order.tradeNo → o.tradeNo=order.tradeNo
  usages : ∀ u∈db.promo.usages, u.key≠(order.promoCodeId,order.tradeNo)
  records : ∀ r∈db.affiliate.records, ¬(r.sourceType=.topup ∧ r.sourceId=trimSpace order.tradeNo)

def paidFor (tradeNo : String) (es : List Completion) : List Completion :=
  es.filter fun c => decide (c.tradeNo=tradeNo)

def creditsOf (userId : Int) (es : List Completion) : Int :=
  ((es.filter fun c => decide (c.userId=userId)).map (·.credited)).sum

def PaymentDB.usagesOf (db : PaymentDB) (order : TopUp) : List PromoCodeUsage :=
  db.promo.usages.filter fun u => decide (u.key=(order.promoCodeId,order.tradeNo))

def PaymentDB.recordsOf (db : PaymentDB) (order : TopUp) (level : Int) : List AffiliateRecord :=
  db.affiliate.records.filter fun r => decide ((r.sourceType=.topup ∧ r.sourceId=trimSpace order.tradeNo) ∧ r.level=level)

def PaymentDB.hasCode (db : PaymentDB) (order : TopUp) : Prop :=
  0<order.promoCodeId ∧ (db.promo.promo? order.promoCodeId).isSome

instance (db : PaymentDB) (order : TopUp) : Decidable (db.hasCode order) := inferInstanceAs (Decidable (_ ∧ _))

/-- The books of an order after the completions `es`, from the state `start` in which it was unpaid. -/
structure Account (start : PaymentDB) (order : TopUp) (es : List Completion) (db : PaymentDB) (done : Bool) :
    Prop where
  standing : db.standing order.tradeNo=some (order.userId,order.promoCodeId,done)
  orders : ∀ t, (db.standing t).isSome=(start.standing t).isSome
  holders : ∀ u, (db.wallet u).isSome=(start.wallet u).isSome
  codes : ∀ c, (db.promo.promo? c).isSome=(start.promo.promo? c).isSome
  paid : (paidFor order.tradeNo es).length = if done then 1 else 0
  payments : ∀ c∈es, 0<c.credited ∧ (start.wallet c.userId).isSome ∧ (c.tradeNo=order.tradeNo → c.userId=order.userId)
  wallet : ∀ u, db.wallet u=(start.wallet u).map (· + creditsOf u es)
  usages : (db.usagesOf order).length = if done=true ∧ start.hasCode order then 1 else 0
  records : ∀ level, (db.recordsOf order level).length ≤ if done then 1 else 0

section Steps
variable {start db db' : PaymentDB} {order : TopUp} {es : List Completion} {done : Bool}

theorem usagesOf_append {added : List PromoCodeUsage} (h : db'.promo.usages=db.promo.usages++added) :
    (db'.usagesOf order).length=(db.usagesOf order).length +
      (added.filter fun u => decide (u.key=(order.promoCodeId,order.tradeNo))).length := by
  rw [PaymentDB.usagesOf,h,filter_append,length_append]
  rfl

theorem creditsOf_append (u : Int) (es more : List Completion) : creditsOf u (es++more)=creditsOf u es+creditsOf u more := by
  simp [creditsOf]

theorem paidFor_append (t : String) (es more : List Completion) :
    paidFor t (es++more)=paidFor t es++paidFor t more := filter_append _ _

theorem Unpaid.account (h : Unpaid start order) : Account start order [] start false := by
  refine ⟨?_,fun _ => rfl,fun _ => rfl,fun _ => rfl,rfl,fun c hc => absurd hc not_mem_nil,fun u => ?_,?_, fun level => ?_⟩
  · rw [PaymentDB.standing,h.stored]
    simp [TopUp.standing,h.unpaid]
  · simp [creditsOf]
  · have hnil : start.usagesOf order=[] := by
      rw [PaymentDB.usagesOf,filter_eq_nil_iff]
      intro u hu
      simpa using h.usages u hu
    simp [hnil]
  · have hnil : start.recordsOf order level=[] := by
      rw [PaymentDB.recordsOf,filter_eq_nil_iff]
      intro r hr hc
      exact h.records r hr (of_decide_eq_true hc).1
    simp [hnil]

theorem Account.quiet (h : Account start order es db done) (hq : Quiet db db') : Account start order es db' done := by
  refine ⟨(hq.standing _).trans h.standing,fun t => ?_,fun u => ?_,fun c => ?_,h.paid,h.payments,fun u => ?_,?_,
    fun level => ?_⟩
  · rw [hq.standing,h.orders]
  · rw [hq.wallet,h.holders]
  · rw [hq.promo.isSome,h.codes]
  · rw [hq.wallet,h.wallet]
  · rw [usagesOf_append hq.promo.usages,← h.usages]
    rfl
  · rw [PaymentDB.recordsOf,hq.records]
    exact h.records level

variable {promoCodeId : Int} {c : Completion}

section
variable (hf : Finished db promoCodeId c db')
include hf

theorem Finished.isSome (t : String) : (db'.standing t).isSome=(db.standing t).isSome := by
  rw [hf.standing]
  split
  next ht =>
    rw [ht,hf.before]
    rfl
  · rfl

theorem Finished.wallet_isSome (u : Int) : (db'.wallet u).isSome=(db.wallet u).isSome := by
  rw [hf.wallet]
  split
  · exact isSome_map
  · rfl

theorem Finished.codes (d : Int) : (db'.promo.promo? d).isSome=(db.promo.promo? d).isSome := by
  obtain ⟨added,hbooked,-,-⟩ := hf.usages
  exact hbooked.isSome d

end

theorem Account.wallet_finish (h : Account start order es db done) (hf : Finished db promoCodeId c db') (u : Int) :
    db'.wallet u=(start.wallet u).map (· + creditsOf u (es++[c])) := by
  rw [hf.wallet,h.wallet,creditsOf_append]
  split
  next hu =>
    have hc : creditsOf u [c]=c.credited := by simp [creditsOf,hu]
    rw [hc,Option.map_map]
    congr 1
    funext x
    exact Int.add_assoc _ _ _
  next hu =>
    have hc : creditsOf u [c]=0 := by simp [creditsOf,Ne.symm hu]
    rw [hc,Int.add_zero]

theorem Account.payments_finish (h : Account start order es db done) (hf : Finished db promoCodeId c db')
    (howner : c.tradeNo=order.tradeNo → c.userId=order.userId) : ∀ x∈es++[c], 0<x.credited ∧ (start.wallet x.userId).isSome ∧
      (x.tradeNo=order.tradeNo → x.userId=order.userId) := by
  intro x hx
  obtain hx | hx := mem_append.mp hx
  · exact h.payments x hx
  rw [mem_singleton.mp hx]
  exact ⟨hf.credited,(h.holders _).symm.trans hf.holder,howner⟩

theorem Unpaid.trim_ne (h : Unpaid start order) {t : String} (ht : (start.standing t).isSome)
    (hne : t≠order.tradeNo) : trimSpace t≠trimSpace order.tradeNo := by
  intro heq
  rw [PaymentDB.standing,isSome_map] at ht
  obtain ⟨o,ho⟩ := isSome_iff_exists.mp ht
  obtain ⟨hmem,htrade⟩ := Keyed.lookup_some ho
  exact hne (htrade.symm.trans (h.distinct o hmem (htrade ▸ heq)))

section
variable (hstart : Unpaid start order)
include hstart

section
variable (h : Account start order es db done)
include h

theorem Account.finish_other (hf : Finished db promoCodeId c db') (hc : c.tradeNo≠order.tradeNo) :
    Account start order (es++[c]) db' done := by
  refine ⟨?_,fun t => (hf.isSome t).trans (h.orders t),fun u => (hf.wallet_isSome u).trans (h.holders u),
    fun d => (hf.codes d).trans (h.codes d),?_,h.payments_finish hf fun he => absurd he hc,h.wallet_finish hf,?_,
    fun level => ?_⟩
  · rw [hf.standing,if_neg (Ne.symm hc)]
    exact h.standing
  · have hnil : paidFor order.tradeNo [c]=[] := by simp [paidFor,hc]
    rw [paidFor_append,hnil,append_nil]
    exact h.paid
  · obtain ⟨added,hbooked,-,hadded⟩ := hf.usages
    have hnil : added.filter (fun u => decide (u.key=(order.promoCodeId,order.tradeNo)))=[] := by
      rw [filter_eq_nil_iff]
      intro u hu hk
      have hkey : u.orderNo=order.tradeNo := (Prod.mk.inj (of_decide_eq_true hk)).2
      exact hc ((hadded u hu).2.symm.trans hkey)
    rw [usagesOf_append hbooked.usages,hnil]
    exact h.usages
  · obtain ⟨added,hrecords,-,hadded⟩ := hf.records
    have htrim : trimSpace c.tradeNo≠trimSpace order.tradeNo :=
      hstart.trim_ne ((h.orders _).symm.trans (by rw [hf.before]; rfl)) hc
    have hnil : added.filter (fun r => decide
        ((r.sourceType=.topup ∧ r.sourceId=trimSpace order.tradeNo) ∧ r.level=level))=[] := by
      rw [filter_eq_nil_iff]
      intro r hr hk
      exact htrim ((hadded r hr).2.symm.trans (of_decide_eq_true hk).1.2)
    rw [PaymentDB.recordsOf,hrecords,filter_append,hnil,append_nil]
    exact h.records level

theorem Account.finish_own (hf : Finished db promoCodeId c db') (hc : c.tradeNo=order.tradeNo) :
    done=false ∧ Account start order (es++[c]) db' true := by
  have hbefore := hf.before
  rw [hc,h.standing,Option.some.injEq,Prod.mk.injEq,Prod.mk.injEq] at hbefore
  obtain ⟨huser,hpromo,hdone⟩ := hbefore
  subst hdone
  refine ⟨rfl,?_,fun t => (hf.isSome t).trans (h.orders t),fun u => (hf.wallet_isSome u).trans (h.holders u),
    fun d => (hf.codes d).trans (h.codes d),?_,h.payments_finish hf fun _ => huser.symm,h.wallet_finish hf,?_,
    fun level => ?_⟩
  · rw [hf.standing,if_pos hc.symm,huser,hpromo]
  · have hone : paidFor order.tradeNo [c]=[c] := by simp [paidFor,hc]
    rw [paidFor_append,hone,length_append,h.paid]
    rfl
  · have hfresh : (db.usagesOf order).length=0 := by simpa using h.usages
    obtain ⟨added,hbooked,hlen,hadded⟩ := hf.usages
    have hall : added.filter (fun u => decide (u.key=(order.promoCodeId,order.tradeNo)))=added := by
      rw [filter_eq_self]
      intro u hu
      obtain ⟨hcode,hno⟩ := hadded u hu
      simp [PromoCodeUsage.key,hcode,hno,hpromo,hc]
    have hnone : (db.promo.usage? order.promoCodeId order.tradeNo).isNone := by
      rw [PromoDB.usage?,isNone_iff_eq_none,Keyed.lookup_eq_none]
      intro u hu hk
      have hmem : u∈db.usagesOf order := mem_filter.mpr ⟨hu,decide_eq_true hk⟩
      rw [length_eq_zero_iff.mp hfresh] at hmem
      exact not_mem_nil hmem
    rw [usagesOf_append hbooked.usages,hfresh,hall,Nat.zero_add,hlen]
    simp only [usageDue,← hpromo,← huser,hc,h.codes,hnone,hstart.tradeNo,hstart.user,PaymentDB.hasCode]
    simp
  · have hfresh : db.recordsOf order level=[] :=
      length_eq_zero_iff.mp (Nat.le_zero.mp (h.records level))
    obtain ⟨added,hrecords,hlevels,hadded⟩ := hf.records
    have hsub : (added.filter fun r => decide
        ((r.sourceType=.topup ∧ r.sourceId=trimSpace order.tradeNo) ∧ r.level=level)).length ≤
        (added.filter fun r => decide (r.level=level)).length := by
      refine (monotone_filter_right added fun r hr => ?_).length_le
      exact decide_eq_true (of_decide_eq_true hr).2
    have happend : db'.recordsOf order level=db.recordsOf order level++added.filter fun r => decide
        ((r.sourceType=.topup ∧ r.sourceId=trimSpace order.tradeNo) ∧ r.level=level) := by
      rw [PaymentDB.recordsOf,hrecords,filter_append]
      rfl
    rw [happend,hfresh,nil_append]
    exact hsub.trans (hlevels level)

theorem account_step (op : Op) :
    ∃ done', Account start order (es++completions db op) (step db op) done' ∧ (done=true → done'=true) := by
  obtain ⟨hnone,hquiet⟩ | ⟨c,promoCodeId,hsome,hf⟩ := step_effect db op
  · rw [hnone,append_nil]
    exact ⟨done,h.quiet hquiet,id⟩
  rw [hsome]
  by_cases hc : c.tradeNo=order.tradeNo
  · exact ⟨true,(h.finish_own hstart hf hc).2,fun _ => rfl⟩
  · exact ⟨done,h.finish_other hstart hf hc,id⟩

theorem account_run (ops : List Op) :
    ∃ done', Account start order (es++events step completions ops db) (run step ops db) done' ∧ (done=true → done'=true) := by
  induction ops generalizing es db done with
  | nil => exact ⟨done,by rw [events,append_nil]; exact h,id⟩
  | cons op ops ih =>
    obtain ⟨mid,hmid,hkeep⟩ := account_step hstart h op
    obtain ⟨last,hlast,hkeep'⟩ := ih hmid
    rw [events,← append_assoc]
    exact ⟨last,hlast,fun hd => hkeep' (hkeep hd)⟩

end

end

end Steps

theorem completeFreeTopUp_run (reads failureReads : Reads) (db : PaymentDB) (tradeNo expected : String) :
    (completeFreeTopUp reads failureReads db tradeNo expected).1 =
      run step ([.complete reads tradeNo (.completeFreeTopUp expected)] ++
        match completeFreeTopUpTx reads db tradeNo expected with
        | .ok _ => []
        | .error e => if e.keepsFreeOrder then [] else [.close failureReads tradeNo expected .failed]) db := by
  have hfirst : step db (.complete reads tradeNo (.completeFreeTopUp expected)) =
      commit db ((completeFreeTopUpTx reads db tradeNo expected).map Prod.fst) := by
    rw [step,exec,completeBy]
    cases completeFreeTopUpTx reads db tradeNo expected with
    | ok _ | error _ => rfl
  rw [run_append,run,hfirst,completeFreeTopUp]
  cases completeFreeTopUpTx reads db tradeNo expected with
  | ok r => rfl
  | error e =>
    cases hk : e.keepsFreeOrder with
    | true =>
      simp only [hk,if_true]
      rfl
    | false =>
      simp only [hk,Bool.false_eq_true,if_false]
      change _=step db (.close failureReads tradeNo expected .failed)
      rw [step,exec]
      cases updatePendingTopUpStatus failureReads db tradeNo expected .failed with
      | ok _ | error _ => rfl

/-- Whatever calls are made in whatever order: a success stays one, the wallets hold what the completions credited, and
a success has one completion, one usage of its code and at most one reward a level. -/
theorem topup_credited_once {db : PaymentDB} {order : TopUp} (h : Unpaid db order) (ops : List Op) :
    ∃ o, (run step ops db).topUp? order.tradeNo=some o ∧
      (o.status=.success → ∀ more, ∃ o', (run step more (run step ops db)).topUp? order.tradeNo=some o' ∧ o'.status=.success) ∧
      (∀ u, (run step ops db).wallet u=(db.wallet u).map (· + creditsOf u (events step completions ops db))) ∧
      (o.status=.success → ∃ c, paidFor order.tradeNo (events step completions ops db)=[c] ∧
        c.userId=order.userId ∧ 0<c.credited ∧ (db.wallet order.userId).isSome) ∧
      (o.status≠.success → paidFor order.tradeNo (events step completions ops db)=[]) ∧
      ((run step ops db).usagesOf order).length=(if o.status=.success ∧ db.hasCode order then 1 else 0) ∧
      ∀ level, ((run step ops db).recordsOf order level).length ≤ if o.status=.success then 1 else 0 := by
  obtain ⟨done,hbooks,-⟩ := account_run h h.account ops
  rw [nil_append] at hbooks
  have hlookup := hbooks.standing
  rw [PaymentDB.standing] at hlookup
  obtain ⟨o,ho,hstanding⟩ := map_eq_some_iff.mp hlookup
  have hdone : decide (o.status=.success)=done := (Prod.mk.inj (Prod.mk.inj hstanding).2).2
  subst hdone
  refine ⟨o,ho,fun hs more => ?_,hbooks.wallet,fun hs => ?_,fun hs => ?_,?_,fun level => ?_⟩
  · obtain ⟨last,hlast,hkeep⟩ := account_run h hbooks more
    have hsuccess := hlast.standing
    rw [hkeep (decide_eq_true hs),PaymentDB.standing] at hsuccess
    obtain ⟨o',ho',hstanding'⟩ := map_eq_some_iff.mp hsuccess
    exact ⟨o',ho',of_decide_eq_true (Prod.mk.inj (Prod.mk.inj hstanding').2).2⟩
  · have hpaid := hbooks.paid
    rw [decide_eq_true hs,if_pos rfl] at hpaid
    obtain ⟨c,hc⟩ := length_eq_one_iff.mp hpaid
    have hmem : c∈paidFor order.tradeNo (events step completions ops db) := by
      rw [hc]
      exact mem_singleton_self c
    obtain ⟨hevent,htrade⟩ := mem_filter.mp hmem
    obtain ⟨hpos,hholder,howner⟩ := hbooks.payments c hevent
    have huser := howner (of_decide_eq_true htrade)
    exact ⟨c,hc,huser,hpos,huser ▸ hholder⟩
  · have hpaid := hbooks.paid
    rw [decide_eq_false hs] at hpaid
    exact length_eq_zero_iff.mp hpaid
  · rw [hbooks.usages]
    simp
  · have hrecords := hbooks.records level
    simpa using hrecords

def reopenedOrder : TopUp :=
  { id := 1, userId := 1, amount := 1, money := 7, promoCodeId := 7, creditedQuota := 500000, tradeNo := "T1"
    paymentProvider := "epay" }

def reopenedStart : PaymentDB where
  topUps := [reopenedOrder]
  promo := { promos := [{ id := 7, appliesToTopup := true }] }
  affiliate := { users := [{ id := 1, quota := 20, inviterId := 2 },{ id := 2 }] }

def reopenedOps : List Op :=
  [.close {} "T1" "" .failed,
    .createAttempt { newFromString := fun s => if s="7.00" then some 7 else none } "T1" "stripe" "card" "7.00" "usd",
    .bindProviderOrder {} 1 "pi_1",
    .complete {} "T1" (.completeTopUpPaymentAttempt 1 "stripe" "card" false {}),
    .complete {} "T1" (.completeTopUpPaymentAttempt 1 "stripe" "card" false {}),
    .complete {} "T1" .manualCompleteTopUp,
    .close {} "T1" "" .expired]

theorem topup_credited_once_reopened : (run step reopenedOps reopenedStart).wallet 1=some 500020 ∧
      (∃ c, paidFor "T1" (events step completions reopenedOps reopenedStart)=[c]) ∧
      ((run step reopenedOps reopenedStart).usagesOf reopenedOrder).length=1 := by
  have hunpaid : Unpaid reopenedStart reopenedOrder := by
    refine ⟨rfl,by decide,by decide,by decide +kernel,?_,?_,?_⟩
    · intro o ho _
      rw [mem_singleton.mp ho]
    · intro u hu
      exact absurd hu not_mem_nil
    · intro r hr
      exact absurd hr not_mem_nil
  obtain ⟨o,ho,-,hwallet,hpaid,-,husages,-⟩ := topup_credited_once hunpaid reopenedOps
  have hstatus : ((run step reopenedOps reopenedStart).topUp? "T1").map (·.status)=some .success := by
    decide +kernel
  have hsuccess : o.status=.success := by
    rw [show (run step reopenedOps reopenedStart).topUp? "T1" = some o from ho] at hstatus
    exact Option.some.inj hstatus
  refine ⟨(hwallet 1).trans (by decide +kernel),?_,?_⟩
  · obtain ⟨c,hc,-⟩ := hpaid hsuccess
    exact ⟨c,hc⟩
  · rw [husages,if_pos ⟨hsuccess,by decide +kernel⟩]

end NewApi.Payment
