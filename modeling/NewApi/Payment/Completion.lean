import NewApi.Payment.Model
import NewApi.Promo.Usages

/-! What one transaction of the payment code can do: it leaves orders, wallets, usages and rewards as they
are but for opening and closing an order, or it completes one order that was not completed before. -/
namespace NewApi.Payment
open Option Runs GoStrings Affiliate Promo

def PaymentDB.wallet (db : PaymentDB) (u : Int) : Option Int := (db.affiliate.user? u).map (·.quota)

def TopUp.standing (o : TopUp) : Int×Int×Bool := (o.userId, o.promoCodeId, decide (o.status=.success))

def PaymentDB.standing (db : PaymentDB) (tradeNo : String) : Option (Int×Int×Bool) :=
  (db.topUp? tradeNo).map TopUp.standing

/-- No order is completed, and no wallet, usage or reward is touched. -/
structure Quiet (db db' : PaymentDB) : Prop where
  standing : ∀ t, db'.standing t=db.standing t
  wallet : ∀ u, db'.wallet u=db.wallet u
  promo : Booked db.promo [] db'.promo
  records : db'.affiliate.records=db.affiliate.records

structure Finished (db : PaymentDB) (promoCodeId : Int) (c : Completion) (db' : PaymentDB) : Prop where
  before : db.standing c.tradeNo=some (c.userId, promoCodeId, false)
  standing : ∀ t, db'.standing t = if t=c.tradeNo then some (c.userId, promoCodeId, true) else db.standing t
  credited : 0<c.credited
  holder : (db.wallet c.userId).isSome
  wallet : ∀ u, db'.wallet u = if u=c.userId then (db.wallet u).map (· + c.credited) else db.wallet u
  usages : ∃ added : List PromoCodeUsage, Booked db.promo added db'.promo ∧ added.length=(if usageDue db.promo
      { promoCodeId := promoCodeId, userId := c.userId, orderType := .topup, orderNo := c.tradeNo } then 1 else 0) ∧
    ∀ u∈added, u.promoCodeId=promoCodeId ∧ u.orderNo=c.tradeNo
  records : ∃ added : List AffiliateRecord, db'.affiliate.records=db.affiliate.records++added ∧
    (∀ level, (added.filter fun r => decide (r.level=level)).length≤1) ∧
    ∀ r∈added, r.sourceType=.topup ∧ r.sourceId=trimSpace c.tradeNo

section Parts
variable {db db' : PaymentDB}

theorem Quiet.refl (db : PaymentDB) : Quiet db db := ⟨fun _ => rfl,fun _ => rfl,Booked.refl _,rfl⟩

theorem topUp?_saveTopUp (db : PaymentDB) (o : TopUp) (t : String) :
    (db.saveTopUp o).topUp? t = if t=o.tradeNo then (db.topUp? o.tradeNo).map fun _ => o else db.topUp? t :=
  Keyed.lookup_modify_of TopUp.tradeNo o.tradeNo t db.topUps fun _ _ => rfl

theorem standing_saveTopUp (db : PaymentDB) (o : TopUp) (h : (db.topUp? o.tradeNo).isSome) (t : String) :
    (db.saveTopUp o).standing t = if t=o.tradeNo then some o.standing else db.standing t := by
  obtain ⟨x,hx⟩ := isSome_iff_exists.mp h
  rw [PaymentDB.standing,topUp?_saveTopUp,hx]
  split
  · rfl
  · rfl

theorem wallet_eq (db : PaymentDB) (u : Int) :
    db.wallet u=((db.affiliate.users.map User.wallet).find? fun w => decide (w.1=u)).map (·.2) := by
  rw [List.find?_map,map_map]
  rfl

theorem wallet_of_wallets (h : db'.affiliate.users.map User.wallet=db.affiliate.users.map User.wallet) (u : Int) :
    db'.wallet u=db.wallet u := by
  rw [wallet_eq,h,← wallet_eq]

theorem credit_effect (db : PaymentDB) (userId quota : Int) :
    Ensures (fun p => 0<quota ∧ (db.wallet userId).isSome ∧ p.1={ db with affiliate := p.1.affiliate } ∧
        p.1.affiliate.records=db.affiliate.records ∧
        ∀ u, p.1.wallet u = if u=userId then (db.wallet u).map (· + quota) else db.wallet u) (fun _ => True)
      (creditTopUpQuotaWithSnapshot db userId quota) := by
  unfold creditTopUpQuotaWithSnapshot
  refine Ensures.guard trivial fun hq => ?_
  cases huser : db.affiliate.user? userId with
  | none => trivial
  | some user =>
    refine Ensures.guard trivial fun _ => ⟨by omega,?_,rfl,rfl,fun u => ?_⟩
    · rw [PaymentDB.wallet,huser]
      rfl
    have hlookup := Keyed.lookup_modify User.id userId u (f := fun x => { x with quota := x.quota+quota })
      db.affiliate.users fun _ => rfl
    unfold PaymentDB.wallet AffiliateDB.user? AffiliateDB.updateUser
    simp only [hlookup]
    split
    next hu =>
      rw [hu,map_map,map_map]
      rfl
    · rfl

theorem withPromo_effect {P : PromoDB → Prop} {out : Except PromoError PromoDB}
    (h : Ensures P (fun _ => True) out) :
    Ensures (fun t => P t.promo ∧ t={ db with promo := t.promo }) (fun _ => True) (withPromo db out) := by
  cases out with
  | ok promo => exact ⟨h,rfl⟩
  | error e => trivial

theorem recordUsage_effect (reads : Reads) (db : PaymentDB) (topUp : TopUp) (enforceLimit : Bool) :
    Ensures (fun t => t={ db with promo := t.promo } ∧ ∃ added : List PromoCodeUsage, Booked db.promo added t.promo ∧
        added.length=(if usageDue db.promo
          { promoCodeId := topUp.promoCodeId, userId := topUp.userId, orderType := .topup, orderNo := topUp.tradeNo }
          then 1 else 0) ∧
        ∀ u∈added, u.promoCodeId=topUp.promoCodeId ∧ u.orderNo=topUp.tradeNo) (fun _ => True)
      (recordTopUpPromoUsageTx reads db topUp enforceLimit) := by
  unfold recordTopUpPromoUsageTx
  refine Ensures.ite (fun hc => ⟨rfl,[],Booked.refl _,?_,fun u hu => absurd hu List.not_mem_nil⟩) fun _ => ?_
  · simp [usageDue,Int.not_lt.mpr hc]
  refine (withPromo_effect (record_booked db.promo db.orders _ enforceLimit reads.now)).mono fun t ht => ?_
  obtain ⟨⟨added,hbooked,hlen,hadded⟩,heq⟩ := ht
  exact ⟨heq,added,hbooked,hlen,fun u hu => ⟨(hadded u hu).1,(hadded u hu).2.1⟩⟩

theorem invoice_effect (db : PaymentDB) (topUp : TopUp) (h : db.standing topUp.tradeNo=some topUp.standing) :
    ∀ r, createInvoiceRecordFromTopUpTx db topUp=r → (∀ t, r.1.standing t=db.standing t) ∧ r.1.promo=db.promo ∧
      r.1.affiliate=db.affiliate ∧ r.2.tradeNo=topUp.tradeNo ∧ r.2.userId=topUp.userId ∧
      r.2.affiliateSourceQuota=topUp.affiliateSourceQuota := by
  rintro _ rfl
  unfold createInvoiceRecordFromTopUpTx
  split
  · exact ⟨fun _ => rfl,rfl,rfl,rfl,rfl,rfl⟩
  split
  · exact ⟨fun _ => rfl,rfl,rfl,rfl,rfl,rfl⟩
  refine ⟨fun t => ?_,rfl,rfl,rfl,rfl,rfl⟩
  have hsome : (db.topUp? topUp.tradeNo).isSome := by
    rw [PaymentDB.standing] at h
    obtain ⟨x,hx,-⟩ := map_eq_some_iff.mp h
    rw [hx]
    rfl
  refine (standing_saveTopUp { db with
    invoices := db.invoices++[{ userId := topUp.userId, sourceId := topUp.tradeNo }] }
    { topUp with invoicePending := true } hsome t).trans ?_
  split
  next ht =>
    rw [ht,h]
    rfl
  · rfl

theorem finish_effect (reads : Reads) {topUp o : TopUp} (ho : db.topUp? topUp.tradeNo=some o)
    (huser : topUp.userId=o.userId) (hpromo : topUp.promoCodeId=o.promoCodeId) (hopen : o.status≠.success)
    (quota fallbackQuota : Int) (free : Bool) :
    Ensures (fun p => Finished db o.promoCodeId p.2 p.1 ∧ p.2.tradeNo=topUp.tradeNo ∧ p.2.credited=quota ∧
        p.2.affiliateSource=topUpAffiliateSourceQuota topUp fallbackQuota) (fun _ => True)
      (finishTopUp reads db topUp quota fallbackQuota free) := by
  unfold finishTopUp
  simp only
  set done : TopUp := { topUp with completeTime := reads.now, status := .success } with hdone
  have hsaved := standing_saveTopUp db done (by rw [hdone,ho]; rfl)
  refine (credit_effect (db.saveTopUp done) topUp.userId quota).bind fun p hp => ?_
  obtain ⟨db1,before,after⟩ := p
  obtain ⟨hpos,hholder,hdb1,hrecords1,hwallet1⟩ := hp
  simp only at hdb1 hrecords1 hwallet1 ⊢
  set paid : TopUp := { done with creditedQuota := after-before } with hpaid
  have hstanding1 : ∀ t, db1.standing t = if t=topUp.tradeNo then some paid.standing else db.standing t := by
    intro t
    have heq : db1.standing t=(db.saveTopUp done).standing t := by
      rw [hdb1]
      rfl
    rw [heq,hsaved]
    rfl
  have hpromo1 : db1.promo=db.promo := by rw [hdb1]; rfl
  -- the promo tables change in two steps, the rest stays as it is after the credit
  refine Ensures.bind (P := fun t => Booked db.promo [] t.promo ∧ t={ db1 with promo := t.promo }) ?_ fun db2 h2 => ?_
  · refine Ensures.ite (fun _ => ?_) fun _ => ⟨hpromo1 ▸ Booked.refl _,rfl⟩
    exact withPromo_effect (hpromo1 ▸ reserve_booked db1.promo db1.orders _ _ _ _ _)
  obtain ⟨hbooked2,hdb2⟩ := h2
  refine (recordUsage_effect reads db2 paid free).bind fun db3 h3 => ?_
  obtain ⟨hdb3,added,hbooked3,hlen,hadded⟩ := h3
  have hstanding3 : ∀ t, db3.standing t = if t=topUp.tradeNo then some paid.standing else db.standing t := by
    intro t
    rw [hdb3,hdb2]
    exact hstanding1 t
  have haffiliate3 : db3.affiliate=db1.affiliate := by rw [hdb3,hdb2]
  obtain ⟨hstanding4,hpromo4,haffiliate4,htrade4,huser4,hsource4⟩ := invoice_effect db3 paid
    (by rw [hstanding3]; exact if_pos rfl) _ rfl
  set inv := createInvoiceRecordFromTopUpTx db3 paid
  have hrewards := paymentRewards_effect reads.rewards inv.1.affiliate inv.2.userId .topup inv.2.tradeNo
    (topUpAffiliateSourceQuota inv.2 fallbackQuota)
  cases hout : createAffiliateRewardsForPaymentTx reads.rewards inv.1.affiliate inv.2.userId .topup inv.2.tradeNo
    (topUpAffiliateSourceQuota inv.2 fallbackQuota) with
  | error e => trivial
  | ok affiliate =>
    rw [hout] at hrewards
    obtain ⟨records,hrewarded,hlevels,hsources⟩ := hrewards
    have htrade : inv.2.tradeNo=topUp.tradeNo := htrade4
    have huserId : inv.2.userId=o.userId := huser4.trans huser
    have hdue : usageDue db2.promo
        { promoCodeId := paid.promoCodeId, userId := paid.userId, orderType := .topup, orderNo := paid.tradeNo } =
      usageDue db.promo
        { promoCodeId := o.promoCodeId, userId := inv.2.userId, orderType := .topup, orderNo := inv.2.tradeNo } := by
      have husages : db2.promo.usages=db.promo.usages := hbooked2.usages.trans (List.append_nil _)
      simp only [usageDue,hbooked2.isSome,PromoDB.usage?,husages,htrade,huserId,← huser,← hpromo]
      rfl
    refine ⟨⟨?_,fun t => ?_,hpos,?_,fun u => ?_,?_,?_⟩,htrade,rfl,?_⟩
    · rw [PaymentDB.standing,htrade,ho,huserId]
      simp [TopUp.standing,hopen]
    · refine (hstanding4 t).trans ((hstanding3 t).trans ?_)
      rw [htrade,huserId,← huser,← hpromo]
      rfl
    · rw [huserId,← huser]
      exact hholder
    · have hw : ({ inv.1 with affiliate := affiliate } : PaymentDB).wallet u=db1.wallet u := by
        have hsame : ({ inv.1 with affiliate := affiliate } : PaymentDB).wallet u=inv.1.wallet u :=
          wallet_of_wallets hrewarded.wallets u
        refine hsame.trans ?_
        rw [PaymentDB.wallet,haffiliate4,haffiliate3]
        rfl
      rw [hw,hwallet1,huser,← huserId]
      rfl
    · refine ⟨added,?_,?_,fun u hu => ?_⟩
      · have hb := hbooked2.trans hbooked3
        rw [← hpromo4] at hb
        exact hb
      · rw [hlen,hdue]
      · rw [← hpromo,htrade]
        exact hadded u hu
    · refine ⟨records,?_,hlevels,hsources⟩
      rw [hrewarded.records,haffiliate4,haffiliate3,hrecords1]
      rfl
    · simp only [topUpAffiliateSourceQuota,hsource4]
      rfl

end Parts

section Paths

/-- The column a path derives the credit from when the order has none stored. -/
def CompletionPath.basis (path : CompletionPath) (o : TopUp) : Rat :=
  match path with
  | .recharge => o.money
  | .manualCompleteTopUp => if o.paymentProvider=paymentProviderStripe then o.money else o.amount
  | _ => o.amount

/-- Does the path pass no fallback for the source quota of the rewards? -/
def CompletionPath.isFree : CompletionPath → Bool
  | .completeFreeTopUp _ => true
  | _ => false

structure CompletedBy (reads : Reads) (path : CompletionPath) (db : PaymentDB) (o : TopUp) (c : Completion)
    (db' : PaymentDB) : Prop where
  order : db.topUp? c.tradeNo=some o
  finished : Finished db o.promoCodeId c db'
  quota : quotaToAdd reads o (path.basis o)=.ok c.credited
  source : c.affiliateSource=topUpAffiliateSourceQuota o (if path.isFree then 0 else c.credited)

def Outcome (reads : Reads) (path : CompletionPath) (db : PaymentDB) (r : PaymentDB×Option Completion) : Prop :=
  r=(db, none) ∨ ∃ o c, r.2=some c ∧ CompletedBy reads path db o c r.1

variable {db : PaymentDB}

theorem atomically_ensures {α : Type} {P : α → Prop} (reads : Reads) {out : Except TopUpError α}
    (h : Ensures P (fun _ => True) out) : Ensures P (fun _ => True) (atomically reads out) :=
  Ensures.guard trivial fun _ => h

theorem complete_effect (reads : Reads) (path : CompletionPath) {o : TopUp} (topUp : TopUp)
    (ho : db.topUp? o.tradeNo=some o) (hopen : o.status≠.success) (htrade : topUp.tradeNo=o.tradeNo)
    (huser : topUp.userId=o.userId) (hpromo : topUp.promoCodeId=o.promoCodeId)
    (hsource : topUp.affiliateSourceQuota=o.affiliateSourceQuota) {quota : Int}
    (hquota : quotaToAdd reads o (path.basis o)=.ok quota) :
    Ensures (fun p => CompletedBy reads path db o p.2 p.1) (fun _ => True)
      (finishTopUp reads db topUp quota (if path.isFree then 0 else quota) path.isFree) := by
  refine (finish_effect reads (htrade ▸ ho) huser hpromo hopen quota (if path.isFree then 0 else quota)
    path.isFree).mono fun p hp => ?_
  obtain ⟨hfinished,htrade',hcredited,hsource'⟩ := hp
  refine ⟨?_,hfinished,hcredited ▸ hquota,?_⟩
  · rw [htrade',htrade,ho]
  · rw [hsource',hcredited,topUpAffiliateSourceQuota,topUpAffiliateSourceQuota,hsource]

theorem quota_effect {β : Type} {P : β → Prop} (reads : Reads) (o : TopUp) (amount : Rat)
    {f : Int → Except TopUpError β}
    (h : ∀ quota, quotaToAdd reads o amount=.ok quota → Ensures P (fun _ => True) (f quota)) :
    Ensures P (fun _ => True) ((quotaToAdd reads o amount).bind f) := by
  cases hq : quotaToAdd reads o amount with
  | error e => trivial
  | ok quota => exact h quota hq

theorem completed_effect (reads : Reads) (path : CompletionPath) (o : TopUp)
    {out : Except TopUpError (PaymentDB×Completion)}
    (h : Ensures (fun p => CompletedBy reads path db o p.2 p.1) (fun _ => True) out) :
    Ensures (Outcome reads path db) (fun _ => True) (completed out) :=
  h.map fun p hp => .inr ⟨o,p.2,rfl,hp⟩

theorem topUp?_tradeNo {t : String} {o : TopUp} (h : db.topUp? t=some o) : db.topUp? o.tradeNo=some o := by
  rw [(Keyed.lookup_some h).2]
  exact h

section
variable (reads : Reads)
include reads

theorem rechargeEpay_effect (db : PaymentDB) (tradeNo actualPaymentMethod : String) :
    Ensures (Outcome reads (.rechargeEpay actualPaymentMethod) db) (fun _ => True)
      (rechargeEpay reads db tradeNo actualPaymentMethod) := by
  unfold rechargeEpay
  refine Ensures.guard trivial fun _ => atomically_ensures reads ?_
  cases ho : db.topUp? tradeNo with
  | none => trivial
  | some o =>
    refine Ensures.guard trivial fun _ => Ensures.ite (fun _ => .inl rfl) fun hopen => ?_
    refine Ensures.guard trivial fun _ => ?_
    simp only
    split
    · refine quota_effect reads _ _ fun quota hquota => completed_effect reads _ o ?_
      exact complete_effect reads (.rechargeEpay actualPaymentMethod) { o with paymentMethod := actualPaymentMethod }
        (topUp?_tradeNo ho) hopen rfl rfl rfl rfl hquota
    · refine quota_effect reads _ _ fun quota hquota => completed_effect reads _ o ?_
      exact complete_effect reads (.rechargeEpay actualPaymentMethod) o (topUp?_tradeNo ho) hopen rfl rfl rfl rfl hquota

theorem recharge_effect (db : PaymentDB) (referenceId : String) :
    Ensures (Outcome reads .recharge db) (fun _ => True) (recharge reads db referenceId) := by
  unfold recharge
  refine Ensures.guard trivial fun _ => atomically_ensures reads ?_
  cases ho : db.topUp? referenceId with
  | none => trivial
  | some o =>
    refine Ensures.guard trivial fun _ => Ensures.guard trivial fun hpending => ?_
    have hopen : o.status≠.success := by
      rw [not_not.mp hpending]
      exact TopUpStatus.noConfusion
    refine quota_effect reads _ _ fun quota hquota => completed_effect reads _ o ?_
    exact complete_effect reads .recharge o (topUp?_tradeNo ho) hopen rfl rfl rfl rfl hquota

theorem rechargeWaffoPancake_effect (db : PaymentDB) (tradeNo : String) :
    Ensures (Outcome reads .rechargeWaffoPancake db) (fun _ => True) (rechargeWaffoPancake reads db tradeNo) := by
  unfold rechargeWaffoPancake
  refine Ensures.guard trivial fun _ => atomically_ensures reads ?_
  cases ho : db.topUp? tradeNo with
  | none => trivial
  | some o =>
    refine Ensures.guard trivial fun _ => Ensures.ite (fun _ => .inl rfl) fun hopen => ?_
    refine Ensures.guard trivial fun _ => ?_
    refine quota_effect reads _ _ fun quota hquota => completed_effect reads _ o ?_
    exact complete_effect reads .rechargeWaffoPancake o (topUp?_tradeNo ho) hopen rfl rfl rfl rfl hquota

theorem completeFreeTopUpTx_effect (db : PaymentDB) (tradeNo expected : String) :
    Ensures (Outcome reads (.completeFreeTopUp expected) db) (fun _ => True)
      (completeFreeTopUpTx reads db tradeNo expected) := by
  unfold completeFreeTopUpTx
  refine Ensures.guard trivial fun _ => atomically_ensures reads ?_
  cases ho : db.topUp? tradeNo with
  | none => trivial
  | some o =>
    refine Ensures.guard trivial fun _ => Ensures.ite (fun _ => .inl rfl) fun hopen => ?_
    refine Ensures.guard trivial fun _ => Ensures.guard trivial fun _ => ?_
    refine quota_effect reads _ _ fun quota hquota => completed_effect reads _ o ?_
    exact complete_effect reads (.completeFreeTopUp expected) o (topUp?_tradeNo ho) hopen rfl rfl rfl rfl hquota

theorem manualCompleteTopUp_effect (db : PaymentDB) (tradeNo : String) :
    Ensures (Outcome reads .manualCompleteTopUp db) (fun _ => True) (manualCompleteTopUp reads db tradeNo) := by
  unfold manualCompleteTopUp
  refine Ensures.guard trivial fun _ => atomically_ensures reads ?_
  cases ho : db.topUp? tradeNo with
  | none => trivial
  | some o =>
    refine Ensures.ite (fun _ => .inl rfl) fun hopen => Ensures.guard trivial fun _ => ?_
    refine quota_effect reads _ _ fun quota hquota => completed_effect reads _ o ?_
    exact complete_effect reads .manualCompleteTopUp o (topUp?_tradeNo ho) hopen rfl rfl rfl rfl hquota

end

theorem writeProvider_keeps (topUp : TopUp) (provider method : String) (paid : Option (String×String×String)) :
    ∀ o, writeProvider topUp provider method paid=o → o.tradeNo=topUp.tradeNo ∧ o.userId=topUp.userId ∧
      o.promoCodeId=topUp.promoCodeId ∧ o.affiliateSourceQuota=topUp.affiliateSourceQuota := by
  rintro _ rfl
  cases paid <;> exact ⟨rfl,rfl,rfl,rfl⟩

theorem CompletedBy.updateAttempt {reads : Reads} {path : CompletionPath} {o : TopUp} {c : Completion}
    {db' : PaymentDB} (h : CompletedBy reads path db o c db') (id : Int)
    (f : TopUpPaymentAttempt → TopUpPaymentAttempt) : CompletedBy reads path db o c (db'.updateAttempt id f) := by
  obtain ⟨hbefore,hstanding,hcredited,hholder,hwallet,husages,hrecords⟩ := h.finished
  exact ⟨h.order,⟨hbefore,hstanding,hcredited,hholder,hwallet,husages,hrecords⟩,h.quota,h.source⟩

theorem completeAttempt_effect (reads : Reads) (db : PaymentDB) (attemptId : Int) (tradeNo provider method : String)
    (legacy : Bool) (snapshot : LegacyTopUpPaymentSnapshot) :
    Ensures (Outcome reads (.completeTopUpPaymentAttempt attemptId provider method legacy snapshot) db) (fun _ => True)
      (completeTopUpPaymentAttemptWithLegacySnapshot reads db attemptId tradeNo provider method legacy snapshot) := by
  unfold completeTopUpPaymentAttemptWithLegacySnapshot
  simp only
  cases checkLegacySnapshot reads legacy snapshot with
  | error e => trivial
  | ok normalized =>
    refine Ensures.guard trivial fun _ => atomically_ensures reads ?_
    cases ho : db.topUp? (trimSpace tradeNo) with
    | none => trivial
    | some o =>
      -- whichever attempt is found, the order it completes is the one found by its trade number
      refine Ensures.bind (P := fun _ => True) ?_ fun attempt _ => ?_
      · generalize (if legacy=false then (checkAttempt reads db o attemptId (trimSpace provider)).map some else _ :
          Except TopUpError (Option TopUpPaymentAttempt))=found
        cases found <;> trivial
      refine Ensures.ite (fun _ => .inl rfl) fun hopen => quota_effect reads _ _ fun quota hquota => ?_
      have heffect := fun paid =>
        let hkept := writeProvider_keeps o (trimSpace provider) (trimSpace method) paid _ rfl
        complete_effect reads (.completeTopUpPaymentAttempt attemptId provider method legacy snapshot)
          _ (topUp?_tradeNo ho) hopen hkept.1 hkept.2.1 hkept.2.2.1 hkept.2.2.2 hquota
      refine (heffect _).map fun p hp => .inr ?_
      cases attempt with
      | some a => exact ⟨o,p.2,rfl,hp.updateAttempt _ _⟩
      | none => exact ⟨o,p.2,rfl,hp⟩

theorem completeBy_effect (reads : Reads) (db : PaymentDB) (tradeNo : String) (path : CompletionPath) :
    Ensures (Outcome reads path db) (fun _ => True) (completeBy reads db tradeNo path) := by
  cases path with
  | rechargeEpay actualPaymentMethod => exact rechargeEpay_effect reads db tradeNo actualPaymentMethod
  | recharge => exact recharge_effect reads db tradeNo
  | rechargeWaffoPancake => exact rechargeWaffoPancake_effect reads db tradeNo
  | completeFreeTopUp expected => exact completeFreeTopUpTx_effect reads db tradeNo expected
  | manualCompleteTopUp => exact manualCompleteTopUp_effect reads db tradeNo
  | completeTopUpPaymentAttempt attemptId provider method legacy snapshot =>
    exact completeAttempt_effect reads db attemptId tradeNo provider method legacy snapshot

end Paths

section Steps
variable {db db' db'' : PaymentDB}

theorem Quiet.trans (h : Quiet db db') (h' : Quiet db' db'') : Quiet db db'' :=
  ⟨fun t => (h'.standing t).trans (h.standing t),fun u => (h'.wallet u).trans (h.wallet u),h.promo.trans h'.promo,
    h'.records.trans h.records⟩

theorem quiet_saveTopUp {o : TopUp} {st : TopUpStatus} (ho : db.topUp? o.tradeNo=some o)
    (hopen : o.status≠.success) (hst : st≠.success) : Quiet db (db.saveTopUp { o with status := st }) := by
  refine ⟨fun t => ?_,fun _ => rfl,Booked.refl _,rfl⟩
  have hsaved := standing_saveTopUp db { o with status := st } (by rw [ho]; rfl) t
  rw [hsaved]
  split
  next ht =>
    rw [ht,PaymentDB.standing,ho]
    simp [TopUp.standing,hopen,hst]
  · rfl

theorem quiet_withPromo {out : Except PromoError PromoDB} (h : Ensures (Booked db.promo []) (fun _ => True) out) :
    Ensures (Quiet db) (fun _ => True) (withPromo db out) := by
  refine (withPromo_effect h).mono fun t ht => ?_
  rw [ht.2]
  exact ⟨fun _ => rfl,fun _ => rfl,ht.1,rfl⟩

theorem quiet_attempts (db : PaymentDB) (attempts : List TopUpPaymentAttempt) :
    Quiet db { db with attempts := attempts } := ⟨fun _ => rfl,fun _ => rfl,Booked.refl _,rfl⟩

section
variable (reads : Reads)
include reads

theorem close_quiet (db : PaymentDB) (tradeNo expected : String) (target : Closing) :
    Ensures (Quiet db) (fun _ => True) (updatePendingTopUpStatus reads db tradeNo expected target) := by
  unfold updatePendingTopUpStatus
  refine Ensures.guard trivial fun _ => atomically_ensures reads ?_
  cases ho : db.topUp? tradeNo with
  | none => trivial
  | some o =>
    refine Ensures.guard trivial fun _ => Ensures.guard trivial fun hpending => ?_
    have hopen : o.status≠.success := by
      rw [not_not.mp hpending]
      exact TopUpStatus.noConfusion
    have htarget : target.status≠.success := by cases target <;> exact TopUpStatus.noConfusion
    refine (withPromo_effect (release_booked _ _ _ _ _ _)).bind fun t ht => ?_
    have horder : t.topUp? o.tradeNo=some o := by
      rw [ht.2]
      exact topUp?_tradeNo ho
    have hpromo : Quiet db t := by
      rw [ht.2]
      exact ⟨fun _ => rfl,fun _ => rfl,ht.1,rfl⟩
    exact hpromo.trans (quiet_saveTopUp horder hopen htarget)

theorem createAttempt_quiet (db : PaymentDB) (tradeNo provider method amount currency : String) :
    Ensures (Quiet db) (fun _ => True) (createTopUpPaymentAttempt reads db tradeNo provider method amount currency) := by
  unfold createTopUpPaymentAttempt
  simp only
  cases normalizeTopUpPaymentSnapshot reads provider method amount currency with
  | none => trivial
  | some snapshot =>
    refine Ensures.guard trivial fun _ => atomically_ensures reads ?_
    cases ho : db.topUp? (trimSpace tradeNo) with
    | none => trivial
    | some o =>
      refine Ensures.guard trivial fun hopen => ?_
      refine Ensures.bind (P := Quiet db) ?_ fun t ht => ht.trans (quiet_attempts t _)
      refine Ensures.ite (fun _ => Quiet.refl db) fun _ => ?_
      have hreopen : Quiet db (db.saveTopUp { o with status := .pending }) :=
        quiet_saveTopUp (topUp?_tradeNo ho) hopen TopUpStatus.noConfusion
      exact (quiet_withPromo (reserve_booked _ _ _ _ _ _ _)).mono fun t ht => hreopen.trans ht

theorem markLaunched_quiet (db : PaymentDB) (attemptId : Int) (providerOrderId : String) :
    Ensures (Quiet db) (fun _ => True) (markTopUpPaymentAttemptLaunched reads db attemptId providerOrderId) := by
  unfold markTopUpPaymentAttemptLaunched
  refine Ensures.guard trivial fun _ => atomically_ensures reads ?_
  cases db.attempt? attemptId with
  | none => trivial
  | some attempt =>
    refine Ensures.ite (fun _ => Ensures.ite (fun _ => Quiet.refl db) fun _ => trivial) fun _ => ?_
    exact Ensures.guard trivial fun _ => quiet_attempts db _

theorem markLaunchFailed_quiet (db : PaymentDB) (attemptId : Int) :
    Ensures (Quiet db) (fun _ => True) (markTopUpPaymentAttemptLaunchFailed reads db attemptId) := by
  unfold markTopUpPaymentAttemptLaunchFailed
  refine Ensures.guard trivial fun _ => atomically_ensures reads ?_
  exact Ensures.guard trivial fun _ => quiet_attempts db _

theorem bindProviderOrder_quiet (db : PaymentDB) (attemptId : Int) (providerOrderId : String) :
    Ensures (Quiet db) (fun _ => True) (bindTopUpPaymentAttemptProviderOrder reads db attemptId providerOrderId) := by
  unfold bindTopUpPaymentAttemptProviderOrder
  refine Ensures.guard trivial fun _ => atomically_ensures reads ?_
  cases db.attempt? attemptId with
  | none => trivial
  | some attempt =>
    refine Ensures.ite (fun _ => Quiet.refl db) fun _ => Ensures.guard trivial fun _ => ?_
    exact Ensures.guard trivial fun _ => quiet_attempts db _

end

theorem exec_effect (db : PaymentDB) (op : Op) :
    Ensures (fun r => r.2=none ∧ Quiet db r.1 ∨ ∃ c promoCodeId, r.2=some c ∧ Finished db promoCodeId c r.1)
      (fun _ => True) (exec db op) := by
  cases op with
  | complete reads tradeNo path =>
    refine (completeBy_effect reads db tradeNo path).mono fun r hr => ?_
    obtain rfl | ⟨o,c,hc,h⟩ := hr
    · exact .inl ⟨rfl,Quiet.refl db⟩
    · exact .inr ⟨c,o.promoCodeId,hc,h.finished⟩
  | close reads tradeNo expected target =>
    exact (close_quiet reads db tradeNo expected target).map fun t ht => .inl ⟨rfl,ht⟩
  | createAttempt reads tradeNo provider method amount currency =>
    exact (createAttempt_quiet reads db tradeNo provider method amount currency).map fun t ht => .inl ⟨rfl,ht⟩
  | markLaunched reads attemptId providerOrderId =>
    exact (markLaunched_quiet reads db attemptId providerOrderId).map fun t ht => .inl ⟨rfl,ht⟩
  | markLaunchFailed reads attemptId =>
    exact (markLaunchFailed_quiet reads db attemptId).map fun t ht => .inl ⟨rfl,ht⟩
  | bindProviderOrder reads attemptId providerOrderId =>
    exact (bindProviderOrder_quiet reads db attemptId providerOrderId).map fun t ht => .inl ⟨rfl,ht⟩

theorem step_effect (db : PaymentDB) (op : Op) :
    completions db op=[] ∧ Quiet db (step db op) ∨
      ∃ c promoCodeId, completions db op=[c] ∧ Finished db promoCodeId c (step db op) := by
  have h := exec_effect db op
  unfold completions step
  cases hout : exec db op with
  | error e => exact .inl ⟨rfl,Quiet.refl db⟩
  | ok r =>
    obtain ⟨t,done⟩ := r
    rw [hout] at h
    obtain ⟨hnone,hquiet⟩ | ⟨c,promoCodeId,hsome,hfinished⟩ := h
    · cases hnone
      exact .inl ⟨rfl,hquiet⟩
    · cases hsome
      exact .inr ⟨c,promoCodeId,rfl,hfinished⟩

end Steps

end NewApi.Payment
