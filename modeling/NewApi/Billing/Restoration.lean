import NewApi.Billing.BenefitPath
import NewApi.Billing.SingleSource
import NewApi.Voucher.Release

/-! `Refund` of a session of the benefit path after any `Reserve` calls: each source gives back what it holds on top of its
stores before the session. But where the whole reservation of the vouchers was made by `Reserve`, a refund may be taken for
the repetition of the last rollback. -/
namespace NewApi.Billing
open Function Funding Subscription Voucher CompositeFunding BillingSession
open BenefitVoucherFunding (reserveUpTo refundAdditional)

variable {base : BenefitDB} {r : String} {u g mark : Int} {w w' : World} {addDate : AddDate} {c : Nat → Int}
variable (wallet token now : Int)

def MarkedSide (base : BenefitDB) (r : String) (u g mark : Int) (c : Nat → Int) (w : World) : Prop :=
  VoucherSide base r u g c w ∧ Remembers w.benefit r mark

theorem remembers_reserveUpTo {now amount : Int} (h : Remembers w.benefit w.voucher.requestID mark)
    (hok : reserveUpTo now amount w=.ok w') : Remembers w'.benefit w.voucher.requestID mark := by
  unfold reserveUpTo at hok
  obtain ⟨⟨benefit,res⟩,hreserve,hfin⟩ := Runs.bind_ok hok
  simp only at hfin
  split at hfin
  · cases hfin
    exact h.reserve hreserve
  · cases hfin

theorem MarkedSide.aside {c' : Nat → Int} (h : MarkedSide base r u g mark c w) (ha : Aside w w') (hc : c' 0=c 0) :
    MarkedSide base r u g mark c' w' :=
  ⟨h.1.aside ha hc,ha.benefit ▸ h.2⟩

theorem markedSide_preConsume (base : BenefitDB) (r : String) (u g mark now : Int) :
    CarriesPreConsume (MarkedSide base r u g mark) (benefitSources addDate now) where
  preConsume {i src amount c w w'} hsrc hpos hzero h hcall := by
    refine ⟨(voucherSide_preConsume base r u g now).preConsume hsrc hpos hzero h.1 hcall,?_⟩
    obtain ⟨rfl,rfl⟩ | ⟨rfl,rfl⟩ | ⟨rfl,rfl⟩ := benefitSources_cases hsrc
    · have hm := h.2
      rw [← h.1.1.requestID] at hm ⊢
      exact remembers_reserveUpTo hm (voucher_preConsume_ok h.1.1.down hcall)
    · exact (of_call (P := SubscriptionOnly) (subscription_preConsume_only addDate now amount w) hcall).aside.benefit ▸ h.2
    · exact (of_call (P := WalletOnly) (wallet_preConsume_only amount w) hcall).aside.benefit ▸ h.2
  skip {i src amount c w w' err} hsrc hpos h hcall := by
    refine ⟨(voucherSide_preConsume base r u g now).skip hsrc hpos h.1 hcall,?_⟩
    obtain ⟨rfl,rfl⟩ | ⟨rfl,rfl⟩ | ⟨rfl,rfl⟩ := benefitSources_cases hsrc
    · rw [voucher_preConsume_failed hcall]
      exact h.2
    · exact (of_call (P := SubscriptionOnly) (subscription_preConsume_only addDate now amount w) hcall).aside.benefit ▸ h.2
    · exact (of_call (P := WalletOnly) (wallet_preConsume_only amount w) hcall).aside.benefit ▸ h.2

theorem markedSide_reserve (base : BenefitDB) (r : String) (u g mark now : Int) :
    CarriesReserve (MarkedSide base r u g mark) (benefitSources addDate now) := by
  intro i src call amount c w w' hsrc hres hpos h hcall
  refine ⟨voucherSide_reserve base r u g now hsrc hres hpos h.1 hcall,?_⟩
  obtain ⟨rfl,rfl⟩ | ⟨rfl,rfl⟩ | ⟨rfl,rfl⟩ := benefitSources_cases hsrc
  · cases hres
    have hm := h.2
    rw [← h.1.1.requestID] at hm ⊢
    exact remembers_reserveUpTo hm (voucher_reserve_ok hpos h.1.1.down hcall)
  · cases hres
    exact (of_call (P := SubscriptionOnly) (subscription_reserve_only amount w) hcall).aside.benefit ▸ h.2
  · cases hres
    exact (of_call (P := WalletOnly) (wallet_reserve_only amount w) hcall).aside.benefit ▸ h.2

theorem VoucherOk.release {held : Int} (h : VoucherOk base r u g w held) (hm : Remembers w.benefit r mark)
    (hmark : 0 ≤ mark) {amount : Int} (h0 : 0<amount) (hle : amount≤held) (hrest : held-amount ≤ mark)
    (hno : refundReplayed (w.benefit.requestRows r .preConsume) (w.benefit.requestRows r .refundAdditional) amount = false) :
    ∃ w', refundAdditional amount w=(w',none) ∧ VoucherOk base r u g w' (held-amount) ∧
      Remembers w'.benefit r mark ∧ VoucherOnly w w' := by
  obtain ⟨db',hcall,hdrawn,hm',htaken⟩ := h.drawn.release h.named hm hmark h0 (by rw [h.taken]; exact hle)
    (by rw [h.taken]; exact hrest) hno
  obtain ⟨w',hbooked,honly,hdb,hvoucher⟩ := booked_ok h.down db' (-amount) (-amount)
  refine ⟨w',?_,⟨honly.down.trans h.down,?_,?_,?_,h.named,h.known,hdb ▸ hdrawn,?_,?_,by omega⟩,hdb ▸ hm',honly⟩
  · rw [refundAdditional,if_neg (by omega),h.requestID,hcall,hbooked]
  · rw [hvoucher,← h.requestID]
  · rw [hvoucher,← h.userID]
  · rw [hvoucher,← h.groupID]
  · rw [hdb,htaken,h.taken]
  rw [hvoucher]
  simp only [h.reserved]
  omega

structure WalletSide (wallet token : Int) (c : Nat → Int) (w : World) : Prop where
  wallet : w.wallet=wallet-c 2
  consumed : w.purse.consumed=c 2
  nonneg : 0≤c 2
  token : w.token=token

theorem WalletSide.keep {wallet token : Int} {c' : Nat → Int} (h : WalletSide wallet token c w)
    (hwallet : w'.wallet=w.wallet) (hpurse : w'.purse=w.purse) (htoken : w'.token=w.token) (hc : c' 2=c 2) :
    WalletSide wallet token c' w' :=
  ⟨by rw [hwallet,hc,h.wallet],by rw [hpurse,hc,h.consumed],hc ▸ h.nonneg,htoken.trans h.token⟩

theorem walletSide_preConsume :
    CarriesPreConsume (WalletSide wallet token) (benefitSources addDate now) where
  preConsume {i src amount c w w'} hsrc hpos hzero h hcall := by
    obtain ⟨rfl,rfl⟩ | ⟨rfl,rfl⟩ | ⟨rfl,rfl⟩ := benefitSources_cases hsrc
    · have honly := voucher_preConsume_only hcall
      exact h.keep honly.wallet honly.purse honly.token rfl
    · have honly := of_call (P := SubscriptionOnly) (subscription_preConsume_only addDate now amount w) hcall
      exact h.keep honly.wallet honly.purse honly.token rfl
    · obtain ⟨herr,-⟩ | ⟨-,hle,-⟩ | ⟨-,-,rfl⟩ := wallet_preConsume hcall
      · cases herr
      · omega
      have hwallet := h.wallet
      have hself : ∀ w, put c 2 (measured walletSource amount w) 2=amount := fun w => by
        simp [put,measured,walletSource]
      refine ⟨?_,?_,?_,h.token⟩
      · rw [hself]
        simp only
        omega
      · rw [hself]
      · rw [hself]
        omega
  skip {i src amount c w w' err} hsrc hpos h hcall := by
    obtain ⟨rfl,rfl⟩ | ⟨rfl,rfl⟩ | ⟨rfl,rfl⟩ := benefitSources_cases hsrc
    · rw [voucher_preConsume_failed hcall]
      exact h
    · have honly := of_call (P := SubscriptionOnly) (subscription_preConsume_only addDate now amount w) hcall
      exact h.keep honly.wallet honly.purse honly.token rfl
    · obtain ⟨-,rfl⟩ | ⟨herr,-⟩ | ⟨herr,-⟩ := wallet_preConsume hcall
      · exact h
      · cases herr
      · cases herr

theorem wallet_reserve_ok {amount : Int} (h0 : 0<amount) (h : WalletFunding.reserveAdditional amount w=(w',none)) :
    w'.wallet=w.wallet-amount ∧ w'.purse.consumed=w.purse.consumed+amount ∧ w'.token=w.token := by
  simp only [WalletFunding.reserveAdditional,if_neg (Int.not_le.mpr h0),decreaseUserQuota, if_neg (Int.not_lt.mpr h0.le)] at h
  cases hdown : w.down with
  | true => simp [hdown] at h
  | false =>
    simp only [hdown,Bool.false_eq_true,if_false] at h
    cases h
    exact ⟨rfl,rfl,rfl⟩

theorem walletSide_reserve :
    CarriesReserve (WalletSide wallet token) (benefitSources addDate now) := by
  intro i src call amount c w w' hsrc hres hpos h hcall
  obtain ⟨rfl,rfl⟩ | ⟨rfl,rfl⟩ | ⟨rfl,rfl⟩ := benefitSources_cases hsrc
  · cases hres
    have honly := voucher_reserve_only hpos hcall
    exact h.keep honly.wallet honly.purse honly.token rfl
  · cases hres
    have honly := of_call (P := SubscriptionOnly) (subscription_reserve_only amount w) hcall
    exact h.keep honly.wallet honly.purse honly.token rfl
  · cases hres
    obtain ⟨hwallet,hconsumed,htoken⟩ := wallet_reserve_ok hpos hcall
    have hself : bump c 2 amount 2=c 2+amount := by simp [bump]
    have hstored := h.wallet
    have hheld := h.consumed
    have hnonneg := h.nonneg
    exact ⟨by omega,by omega,by omega,htoken.trans h.token⟩

structure Unbound (db : SubscriptionDB) (requestId : String) (userId : Int) (w : World) : Prop where
  subs : w.subs=db
  requestId : w.subscription.requestId=requestId
  userId : w.subscription.userId=userId
  subscriptionId : w.subscription.subscriptionId=0

/-- The subscription that the source is bound to has paid `pre` at first and holds `held` in all. -/
structure Bound (before : Int → Int) (pre held : Int) (w : World) : Prop where
  table : TableOk w.subs
  named : GoStrings.isBlank w.subscription.requestId=false
  preConsumed : w.subscription.preConsumed=pre
  positive : 0<pre
  within : pre≤held
  id : 0<w.subscription.subscriptionId
  record : ∃ userId, w.subs.record? w.subscription.requestId =
    some ⟨w.subscription.requestId,userId,w.subscription.subscriptionId,pre,.consumed⟩
  row : ∃ row, w.subs.sub? w.subscription.subscriptionId=some row ∧ (row.amountTotal≤0 ∨ row.amountUsed≤row.amountTotal)
  used : ∀ sid, used w.subs sid=before sid + if sid=w.subscription.subscriptionId then held else 0

theorem Bound.keep {before : Int → Int} {pre held : Int} (h : Bound before pre held w) (hsubs : w'.subs=w.subs)
    (hsub : w'.subscription=w.subscription) : Bound before pre held w' := by
  obtain ⟨htable,hnamed,hpre,hpos,hwithin,hid,hrecord,hrow,hused⟩ := h
  rw [← hsubs,← hsub] at *
  exact ⟨htable,hnamed,hpre,hpos,hwithin,hid,hrecord,hrow,hused⟩

def OpeningSide (db : SubscriptionDB) (requestId : String) (userId : Int) (before : Int → Int) (c : Nat → Int)
    (w : World) : Prop :=
  (Unbound db requestId userId w ∧ c 1=0) ∨ Bound before (c 1) (c 1) w

def HeldSide (db : SubscriptionDB) (requestId : String) (userId : Int) (before : Int → Int) (pre : Int) (c : Nat → Int)
    (w : World) : Prop :=
  (Unbound db requestId userId w ∧ c 1=0 ∧ pre=0) ∨ Bound before pre (c 1) w

variable {db : SubscriptionDB} {rid : String} {uid : Int} {before : Int → Int} {pre : Int} {c' : Nat → Int}

theorem OpeningSide.held (h : OpeningSide db rid uid before c w) : HeldSide db rid uid before (c 1) c w := by
  obtain ⟨hunbound,hz⟩ | hbound := h
  · exact .inl ⟨hunbound,hz,hz⟩
  · exact .inr hbound

theorem OpeningSide.keep (h : OpeningSide db rid uid before c w) (hsubs : w'.subs=w.subs)
    (hsub : w'.subscription=w.subscription) (hc : c' 1=c 1) : OpeningSide db rid uid before c' w' := by
  obtain ⟨hunbound,hz⟩ | hbound := h
  · exact .inl ⟨⟨hsubs.trans hunbound.subs,hsub ▸ hunbound.requestId,hsub ▸ hunbound.userId,
      hsub ▸ hunbound.subscriptionId⟩,hc.trans hz⟩
  · exact .inr (hc ▸ hbound.keep hsubs hsub)

theorem HeldSide.keep (h : HeldSide db rid uid before pre c w) (hsubs : w'.subs=w.subs)
    (hsub : w'.subscription=w.subscription) (hc : c' 1=c 1) : HeldSide db rid uid before pre c' w' := by
  obtain ⟨hunbound,hz,hpre⟩ | hbound := h
  · exact .inl ⟨⟨hsubs.trans hunbound.subs,hsub ▸ hunbound.requestId,hsub ▸ hunbound.userId,
      hsub ▸ hunbound.subscriptionId⟩,hc.trans hz,hpre⟩
  · exact .inr (hc ▸ hbound.keep hsubs hsub)

theorem subscription_preConsume_failed {now amount : Int} {err : FundingError} (hpos : 0<amount)
    (h : SubscriptionFunding.preConsume addDate now amount w=(w',some err)) :
    w'={ w with subscription.amount := amount } := by
  simp only [SubscriptionFunding.preConsume,hpos,if_true,SubscriptionFunding.preConsumeAmount] at h
  split at h
  · cases h
    rfl
  split at h
  · cases h
  · cases h
    rfl

/-- Every subscription has an id of its own, and no request is on record yet. -/
structure Unrecorded (db : SubscriptionDB) (requestId : String) : Prop where
  table : TableOk db
  ids : ∀ s∈db.subs, 0<s.id
  fresh : db.record? requestId=none

theorem openingSide_preConsume (hdb : Unrecorded db rid) (now : Int) :
    CarriesPreConsume (OpeningSide db rid uid (usedAfterResets addDate db uid now)) (benefitSources addDate now) where
  preConsume {i src amount c w w'} hsrc hpos hzero h hcall := by
    obtain ⟨rfl,rfl⟩ | ⟨rfl,rfl⟩ | ⟨rfl,rfl⟩ := benefitSources_cases hsrc
    · have honly := voucher_preConsume_only hcall
      exact h.keep honly.subs honly.subscription rfl
    · obtain ⟨hunbound,-⟩ | hbound := h
      · obtain ⟨herr,-⟩ | ⟨-,subs,res,hok,rfl⟩ := subscription_preConsume hpos hcall
        · cases herr
        rw [hunbound.subs,hunbound.requestId,hunbound.userId] at hok
        have hopened := preConsume_opened hdb.table hdb.fresh hok
        let share := put c 1 (measured (subscriptionSource addDate now) amount w) 1
        have hself : share=amount := by
          simp [share,put,measured,subscriptionSource]
        obtain ⟨row,hrow,hroom⟩ := hopened.row
        have hid : 0<res.userSubscriptionId := by
          obtain ⟨-,hbooked⟩ := preConsume_booked hdb.table hok
          cases hs : db.sub? res.userSubscriptionId with
          | none =>
            have hnone := (hbooked res.userSubscriptionId).1 hs
            rw [hrow] at hnone
            cases hnone
          | some s =>
            obtain ⟨hmem,heq⟩ := Keyed.lookup_some hs
            exact heq ▸ hdb.ids s hmem
        refine .inr ⟨hopened.table,?_,?_,?_,Int.le_refl _,hid,⟨uid,?_⟩,⟨row,hrow,hroom⟩,fun sid => ?_⟩
        · change GoStrings.isBlank w.subscription.requestId=false
          rw [hunbound.requestId]
          exact hopened.named
        · change res.preConsumed=_
          rw [hopened.preConsumed]
          exact hself.symm
        · change 0<share
          omega
        · change subs.record? w.subscription.requestId=some ⟨w.subscription.requestId,uid,res.userSubscriptionId,
            share,.consumed⟩
          rw [hunbound.requestId,hself]
          exact hopened.record
        · change Subscription.used subs sid=_ + if sid=res.userSubscriptionId then share else 0
          rw [hself]
          exact hopened.used sid
      · have := hbound.positive
        omega
    · have honly := of_call (P := WalletOnly) (wallet_preConsume_only amount w) hcall
      exact h.keep honly.subs honly.subscription rfl
  skip {i src amount c w w' err} hsrc hpos h hcall := by
    obtain ⟨rfl,rfl⟩ | ⟨rfl,rfl⟩ | ⟨rfl,rfl⟩ := benefitSources_cases hsrc
    · rw [voucher_preConsume_failed hcall]
      exact h
    · rw [subscription_preConsume_failed hpos hcall]
      obtain ⟨hunbound,hz⟩ | hbound := h
      · exact .inl ⟨⟨hunbound.subs,hunbound.requestId,hunbound.userId,hunbound.subscriptionId⟩,hz⟩
      exact .inr ⟨hbound.table,hbound.named,hbound.preConsumed,hbound.positive,hbound.within,hbound.id,
        hbound.record,hbound.row,hbound.used⟩
    · have honly := of_call (P := WalletOnly) (wallet_preConsume_only amount w) hcall
      exact h.keep honly.subs honly.subscription rfl

theorem Bound.post {held : Int} (h : Bound before pre held w) (hbefore : ∀ sid, 0≤before sid) {delta : Int}
    (hne : delta≠0) (hpre : pre≤held+delta) :
    (∀ w', postConsumeSubscription delta w=(w',none) → Bound before pre (held+delta) w') ∧
      (delta<0 → w.down=false → ∃ w', postConsumeSubscription delta w=(w',none)) := by
  obtain ⟨row,hrow,hroom⟩ := h.row
  have hid := h.id
  have hpos := h.positive
  have hused := h.used w.subscription.subscriptionId
  rw [if_pos rfl,used_eq hrow] at hused
  have hfloor := hbefore w.subscription.subscriptionId
  have hmax : max 0 (row.amountUsed+delta)=row.amountUsed+delta := by omega
  have hcall := postDelta_eq hrow hid hne
  rw [hmax] at hcall
  constructor
  · intro w' hout
    rw [postConsumeSubscription,if_neg (by omega),if_neg hne] at hout
    split at hout
    · cases hout
    rw [hcall] at hout
    split at hout
    next subs hok =>
      split at hok
      · cases hok
      rename_i hfits
      cases hok
      cases hout
      refine ⟨?_,h.named,h.preConsumed,h.positive,hpre,h.id,h.record,⟨row.withUsed (row.amountUsed+delta),?_,?_⟩,
        fun sid => ?_⟩
      · exact h.table.updateSub (fun _ hs => hs) fun _ _ _ => by simp only [UserSubscription.withUsed]; omega
      · rw [sub?_withUsed,if_pos rfl,hrow]
        rfl
      · simp only [UserSubscription.withUsed]
        omega
      · rw [used_withUsed hrow]
        split
        next heq =>
          rw [heq]
          omega
        next heq =>
          have := h.used sid
          rw [if_neg heq] at this
          omega
    · cases hout
  · intro hneg hdown
    rw [if_neg (by omega)] at hcall
    refine ⟨{ w with subs := w.subs.updateSub w.subscription.subscriptionId (·.withUsed (row.amountUsed+delta)) },?_⟩
    rw [postConsumeSubscription,if_neg (by omega),if_neg hne,if_neg (by simp [hdown]),hcall]

theorem heldSide_reserve (hbefore : ∀ sid, 0≤before sid) (now : Int) :
    CarriesReserve (HeldSide db rid uid before pre) (benefitSources addDate now) := by
  intro i src call amount c w w' hsrc hres hpos h hcall
  obtain ⟨rfl,rfl⟩ | ⟨rfl,rfl⟩ | ⟨rfl,rfl⟩ := benefitSources_cases hsrc
  · cases hres
    have honly := voucher_reserve_only hpos hcall
    exact h.keep honly.subs honly.subscription rfl
  · cases hres
    rw [SubscriptionFunding.reserveAdditional,if_neg (by omega)] at hcall
    obtain ⟨hunbound,-,-⟩ | hbound := h
    · simp [postConsumeSubscription,hunbound.subscriptionId] at hcall
    have hwithin := hbound.within
    have hself : bump c 1 amount 1=c 1+amount := by simp [bump]
    refine .inr ?_
    rw [hself]
    exact (hbound.post hbefore (by omega) (by omega)).1 w' hcall
  · cases hres
    have honly := of_call (P := WalletOnly) (wallet_reserve_only amount w) hcall
    exact h.keep honly.subs honly.subscription rfl

/-- The stores before the session, and whose they are. `before` is what the subscriptions have used after the
resets that the session makes. -/
structure Origin where
  benefit : BenefitDB
  requestID : String
  userID : Int
  groupID : Int
  subs : SubscriptionDB
  subscriptionRequest : String
  before : Int → Int
  wallet : Int

structure Holding (o : Origin) (mark pre token : Int) (c : Nat → Int) (w : World) : Prop where
  vouchers : MarkedSide o.benefit o.requestID o.userID o.groupID mark c w
  subscription : HeldSide o.subs o.subscriptionRequest o.userID o.before pre c w
  wallet : WalletSide o.wallet token c w

variable {o : Origin} {token : Int}

section
variable (h : Holding o mark pre token c w)
include h

theorem Holding.down : w.down=false := h.vouchers.1.1.down

theorem Holding.nonneg : 0≤c 0 ∧ 0≤c 1 ∧ 0≤c 2 := by
  refine ⟨h.vouchers.1.1.nonneg,?_,h.wallet.nonneg⟩
  obtain ⟨-,hz,-⟩ | hbound := h.subscription
  · omega
  have hpos := hbound.positive
  have hwithin := hbound.within
  omega

theorem Holding.mono {mark' : Int} (hle : mark ≤ mark') : Holding o mark' pre token c w :=
  ⟨⟨h.vouchers.1,h.vouchers.2.mono hle⟩,h.subscription,h.wallet⟩

theorem Holding.retoken (token' : Int) :
    Holding o mark pre token' c { w with token := token' } :=
  ⟨h.vouchers.aside ⟨rfl,rfl,rfl,id⟩ rfl,h.subscription.keep rfl rfl rfl,
    ⟨h.wallet.wallet,h.wallet.consumed,h.wallet.nonneg,rfl⟩⟩

end

variable {initial : Nat → Int} {s : BillingSession} {f : CompositeFunding World} {relayInfo : RelayInfo}

theorem holding_reserve (hbefore : ∀ sid, 0≤o.before sid) (now : Int) :
    CarriesReserve (Holding o mark pre token) (benefitSources addDate now) :=
  fun hsrc hres hpos h hcall =>
    ⟨markedSide_reserve _ _ _ _ _ now hsrc hres hpos h.vouchers hcall,
      heldSide_reserve hbefore now hsrc hres hpos h.subscription hcall,
      walletSide_reserve _ _ now hsrc hres hpos h.wallet hcall⟩

theorem wallet_refundAdditional_ok (hdown : w.down=false) {amount : Int} (h0 : 0<amount) :
    WalletFunding.refundAdditional amount w =
      ({ w with wallet := w.wallet+amount, purse.consumed := w.purse.consumed-amount },none) := by
  simp [WalletFunding.refundAdditional,Int.not_le.mpr h0,increaseUserQuota,Int.not_lt.mpr h0.le,hdown]

theorem holding_returns (hbefore : ∀ sid, 0≤o.before sid) (now : Int) {floor : Nat → Int} (hmark : floor 0=mark)
    (h0 : 0 ≤ mark) (h1 : 0≤floor 1) (hpre : pre≤floor 1) (h2 : 0≤floor 2) :
    Returns (Holding o mark pre token) (benefitSources addDate now) floor := by
  intro i src hsrc
  obtain ⟨rfl,rfl⟩ | ⟨rfl,rfl⟩ | ⟨rfl,rfl⟩ := benefitSources_cases hsrc
  · refine ⟨_,rfl,fun {delta c w} hpos hheld h => ?_⟩
    have hok := h.vouchers.1.1
    have hno := hok.drawn.not_replayed h.vouchers.2 (by rw [hok.taken]; omega) hpos
    obtain ⟨w',hcall,hok',hm',honly⟩ := hok.release h.vouchers.2 h0 hpos (by omega) (by omega) hno
    have hself : put c 0 (floor 0) 0=c 0-delta := by
      simp only [put,update_self]
      omega
    refine ⟨w',hcall,⟨⟨⟨?_,?_⟩,hm'⟩,h.subscription.keep honly.subs honly.subscription rfl,
      h.wallet.keep honly.wallet honly.purse honly.token rfl⟩⟩
    · rw [hself]
      exact hok'
    · rw [honly.subs]
      exact h.vouchers.1.2
  · refine ⟨_,rfl,fun {delta c w} hpos hheld h => ?_⟩
    have hself : put c 1 (floor 1) 1=c 1 + -delta := by
      simp only [put,update_self]
      omega
    obtain ⟨-,hz,-⟩ | hbound := h.subscription
    · omega
    obtain ⟨hpost,hgo⟩ := hbound.post hbefore (show -delta≠0 by omega) (by omega)
    obtain ⟨w',hcall⟩ := hgo (by omega) h.down
    have honly := of_call (P := SubscriptionOnly) (postConsume_only (-delta) w) hcall
    refine ⟨w',?_,⟨h.vouchers.aside honly.aside rfl,.inr ?_,h.wallet.keep honly.wallet honly.purse honly.token rfl⟩⟩
    · rw [SubscriptionFunding.refundAdditional,if_neg (by omega),hcall]
    rw [hself]
    exact hpost w' hcall
  · refine ⟨_,rfl,fun {delta c w} hpos hheld h => ⟨_,wallet_refundAdditional_ok h.down hpos,?_⟩⟩
    have hself : put c 2 (floor 2) 2=c 2-delta := by
      simp only [put,update_self]
      omega
    have hwallet := h.wallet.wallet
    have hconsumed := h.wallet.consumed
    refine ⟨h.vouchers.aside ⟨rfl,rfl,rfl,id⟩ rfl,h.subscription.keep rfl rfl rfl,⟨?_,?_,?_,h.wallet.token⟩⟩
    · rw [hself]
      simp only
      omega
    · rw [hself]
      simp only
      omega
    · rw [hself]
      omega

/-- An open session of the benefit path: `initial` was pre-consumed, the rest was reserved on top. -/
structure SessionOk (o : Origin) (token : Int) (initial : Nat → Int) (s : BillingSession) : Prop where
  kind : s.kind=.composite
  settled : s.settled=false
  fundingSettled : s.fundingSettled=false
  refunded : s.refunded=false
  holding : Holding o (s.funding.consumed 0) (initial 1) s.world.token s.funding.consumed s.funding.world
  split : ∀ j, s.funding.consumed j=initial j+s.funding.additional j
  initial : 0 ≤ initial 0 ∧ 0 ≤ initial 1 ∧ 0 ≤ initial 2
  additional : ∀ j, 0 ≤ s.funding.additional j
  token : s.world.token+s.tokenConsumed=token
  tokenConsumed : 0 ≤ s.tokenConsumed
  exempt : s.usesTokenQuota=false → s.tokenConsumed=0

theorem world_up (h : w.down=false) : { w with down := false }=w := by
  rw [← h]

theorem reserveToken_cases (s : BillingSession) (hdown : s.world.down=false) {delta : Int} (h0 : 0<delta) :
    (∃ err, s.reserveToken false delta=(s,some err)) ∨ s.reserveToken false delta=(s.withWorld { s.world with
        token := s.world.token - if s.usesTokenQuota then delta else 0 },none) := by
  have hback : s.withWorld s.world=s := rfl
  cases huses : s.usesTokenQuota with
  | false =>
    refine .inr ?_
    rw [reserveToken,if_pos (by simp [huses])]
    simp only [Bool.false_eq_true,if_false,Int.sub_zero,hback]
  | true =>
    have hnot : ¬ (delta≤0 ∨ (!s.usesTokenQuota)=true) := by
      simp [huses]
      omega
    have hexempt : ¬ (s.relayInfo.isPlayground=true ∨ s.relayInfo.tokenQuotaExempt=true) := by
      simp only [usesTokenQuota,Bool.and_eq_true,Bool.not_eq_true'] at huses
      simp [huses.1,huses.2]
    rw [reserveToken,if_neg hnot,preConsumeTokenQuota,if_neg (by omega),if_neg hexempt]
    simp only [call,world_up hdown,tryReserveTokenQuota,if_neg (show ¬ delta<0 by omega),
      if_neg (show ¬ delta=0 by omega),decreaseTokenQuota,hdown,Bool.false_eq_true,if_false,if_true]
    split
    · exact .inr rfl
    split
    · exact .inr rfl
    · refine .inl ⟨.message "token quota is not enough",?_⟩
      simp only [world_up hdown,hback]

theorem SessionOk.reserve (hbefore : ∀ sid, 0≤o.before sid)
    (h : SessionOk o token initial s) (now target : Int) (hok : (s.reserve addDate now target {}).2=[] ∨
      (s.reserveFunding addDate now false (target-s.preConsumedQuota)).2=[]) :
    SessionOk o token initial (s.reserve addDate now target {}).1 := by
  set delta := target-s.preConsumedQuota with hdelta
  set sources := benefitSources addDate now with hsources
  have hnonneg := h.holding.nonneg
  have hinitial := h.initial
  have hsplit := h.split
  have hadditional := h.additional
  unfold BillingSession.reserve at hok ⊢
  rw [← hdelta] at hok ⊢
  split
  · exact h
  rename_i hopen
  rw [if_neg hopen] at hok
  have hpos : 0<delta := by
    simp only [Bool.or_eq_true,decide_eq_true_eq,not_or,not_le] at hopen
    omega
  -- the reservation on the sources
  obtain ⟨asked,hasked⟩ : ∃ r, reserveAdditional sources delta s.funding=r := ⟨_,rfl⟩
  have hfunding : s.reserveFunding addDate now false delta=({ s with funding := asked.1 },asked.2) := by
    simp only [reserveFunding,h.kind,callComposite,← hasked,hsources]
  dsimp only at hok ⊢
  rw [hfunding] at hok ⊢
  have herrs : asked.2=[] := by
    obtain hok | hok := hok
    · cases hcase : asked.2 with
      | nil => rfl
      | cons err errs => simp [hcase] at hok
    · exact hok
  obtain ⟨hheld,hreserved⟩ := CarriesReserve.ok (holding_reserve hbefore now) hpos h.holding _ hasked herrs
  simp only [herrs]
  set f := asked.1 with hf
  set s1 : BillingSession := { s with funding := f } with hs1
  have hdown : s1.world.down=false := hheld.down
  have htoken1 : s1.world.token=s.world.token := hheld.wallet.token
  have hext := hreserved.extended
  obtain ⟨err,hrefused⟩ | hgranted := reserveToken_cases s1 hdown hpos
  · -- the token refuses: everything is taken back
    rw [hrefused]
    simp only
    obtain ⟨f',hback,hheld',hcons,hadd⟩ := rollbackAdditional_returns hpos hreserved
      (holding_returns hbefore now rfl hnonneg.1 hnonneg.2.1 (by
        have := hsplit 1
        have := hadditional 1
        omega) hnonneg.2.2) hheld
    have hkind1 : s1.kind=.composite := h.kind
    have hroll : s1.rollbackFundingReserve addDate now false delta=({ s1 with funding := f' },[]) := by
      rw [rollbackFundingReserve,hkind1]
      simp only [callComposite]
      rw [show s1.funding=f from rfl,hback]
      simp only [hkind1]
    rw [hroll]
    have htoken : f'.world.token=s.world.token := hheld'.wallet.token
    refine ⟨h.kind,h.settled,h.fundingSettled,h.refunded,?_,fun j => ?_,hinitial,fun j => ?_,?_,h.tokenConsumed, h.exempt⟩
    · change Holding o (f'.consumed 0) (initial 1) f'.world.token f'.consumed f'.world
      rw [htoken,congrFun hcons 0]
      exact hheld'
    · change f'.consumed j=initial j+f'.additional j
      rw [hcons,hadd]
      exact hsplit j
    · change 0≤f'.additional j
      rw [hadd]
      exact hadditional j
    · change f'.world.token+s.tokenConsumed=token
      rw [htoken]
      exact h.token
  · rw [hgranted]
    simp only
    have hcons := hext.consumed
    have hadd := hext.additional
    have hpart := hext.nonneg
    have hspent := h.token
    have hcount := h.tokenConsumed
    refine ⟨h.kind,h.settled,h.fundingSettled,h.refunded,?_,fun j => ?_,hinitial,fun j => ?_,?_,?_,fun huses => ?_⟩
    · change Holding o (f.consumed 0) (initial 1) (s1.world.token - if s1.usesTokenQuota then delta else 0) f.consumed _
      refine (hheld.mono ?_).retoken _
      have := hcons 0
      have := hpart 0
      omega
    · change f.consumed j=initial j+f.additional j
      rw [hcons,hadd,hsplit j]
      omega
    · change 0≤f.additional j
      have := hadd j
      have := hpart j
      have := hadditional j
      omega
    · change s1.world.token-(if s1.usesTokenQuota then delta else 0) +
        (if s1.usesTokenQuota then s.tokenConsumed+delta else s.tokenConsumed)=token
      split <;> omega
    · change 0 ≤ if s1.usesTokenQuota then s.tokenConsumed+delta else s.tokenConsumed
      split <;> omega
    · change (if s1.usesTokenQuota then s.tokenConsumed+delta else s.tokenConsumed)=0
      have huses1 : s1.usesTokenQuota=false := huses
      rw [huses1]
      exact h.exempt huses

theorem wallet_refundTurn (addDate : AddDate) (now : Int) (hdown : f.world.down=false)
    (h : WalletSide o.wallet token f.consumed f.world) (hadd : 0≤f.additional 2) (hle : f.additional 2≤f.consumed 2) :
    ∃ f', refundLoop (benefitSources addDate now) 3 f=refundLoop (benefitSources addDate now) 2 f' ∧
      WalletOnly f.world f'.world ∧ f'.world.wallet=o.wallet ∧
      (∀ j, j<2 → f'.consumed j=f.consumed j ∧ f'.additional j=f.additional j) := by
  have hsrc : (benefitSources addDate now)[2]? = some walletSource := rfl
  have hwallet := h.wallet
  have hnonneg := h.nonneg
  obtain hz | hpos : f.consumed 2=0 ∨ 0<f.consumed 2 := by omega
  · exact ⟨f,refundLoop_skip hsrc (by omega),WalletOnly.refl _,by omega,fun j _ => ⟨rfl,rfl⟩⟩
  set w1 : World := { f.world with wallet := f.world.wallet+f.additional 2,
                                   purse.consumed := f.world.purse.consumed-f.additional 2 } with hw1
  have hrelease := releaseAdditional_ok hadd (show walletSource.refundAdditional=some _ from rfl) w1
    (fun hpos => wallet_refundAdditional_ok hdown hpos) (fun hz => by simp [hw1,hz])
  have hconsumed : w1.purse.consumed=f.consumed 2-f.additional 2 := by
    rw [← h.consumed]
  set w2 : World := { w1 with wallet := w1.wallet+w1.purse.consumed } with hw2
  have hrefund : walletSource.refund w1=(w2,none) := by
    change WalletFunding.refund w1=_
    rw [WalletFunding.refund]
    split
    · have hz : w1.purse.consumed=0 := by omega
      simp [hw2,hz]
    · have hdown1 : w1.down=false := hdown
      rw [increaseUserQuota,if_neg (by omega),if_neg (by simp [hdown1])]
  refine ⟨_,refundLoop_turn hsrc hpos hrelease hrefund,⟨⟨rfl,rfl,rfl,id⟩,rfl,rfl,rfl⟩,?_,fun j hj => ?_⟩
  · simp only [hw2,hw1]
    simp only [hw1] at hconsumed
    omega
  · have hne : j≠2 := by omega
    simp [put,bump,hne]

theorem subscription_refundTurn (addDate : AddDate) (now : Int)
    (hbefore : ∀ sid, 0≤o.before sid) (hdown : f.world.down=false)
    (h : HeldSide o.subs o.subscriptionRequest o.userID o.before pre f.consumed f.world)
    (hsplit : f.consumed 1=pre+f.additional 1) (hadd : 0≤f.additional 1) :
    ∃ f', refundLoop (benefitSources addDate now) 2 f=refundLoop (benefitSources addDate now) 1 f' ∧
      SubscriptionOnly f.world f'.world ∧
      (∀ sid, used f'.world.subs sid = if 0<f.consumed 1 then o.before sid else used o.subs sid) ∧
      f'.consumed 0=f.consumed 0 ∧ f'.additional 0=f.additional 0 := by
  have hsrc : (benefitSources addDate now)[1]? = some (subscriptionSource addDate now) := rfl
  obtain ⟨hunbound,hz,-⟩ | hbound := h
  · refine ⟨f,refundLoop_skip hsrc (by omega),SubscriptionOnly.refl _,fun sid => ?_,rfl,rfl⟩
    rw [if_neg (by omega),hunbound.subs]
  have hpos := hbound.positive
  have hheld : 0<f.consumed 1 := by omega
  -- the extra reservations first
  have hextra : ∃ w1, (0<f.additional 1 → SubscriptionFunding.refundAdditional (f.additional 1) f.world=(w1,none)) ∧
      (f.additional 1=0 → w1=f.world) ∧ Bound o.before pre pre w1 ∧ SubscriptionOnly f.world w1 := by
    obtain hzero | hmore : f.additional 1=0 ∨ 0<f.additional 1 := by omega
    · refine ⟨f.world,fun h => by omega,fun _ => rfl,?_,SubscriptionOnly.refl _⟩
      have heq : f.consumed 1=pre := by omega
      exact heq ▸ hbound
    · obtain ⟨hpost,hgo⟩ := hbound.post hbefore (show -f.additional 1≠0 by omega) (by omega)
      obtain ⟨w1,hcall⟩ := hgo (by omega) hdown
      have heq : f.consumed 1 + -f.additional 1=pre := by omega
      refine ⟨w1,fun _ => ?_,fun h => by omega,heq ▸ hpost w1 hcall,of_call (postConsume_only _ _) hcall⟩
      rw [SubscriptionFunding.refundAdditional,if_neg (by omega),hcall]
  obtain ⟨w1,hcall,hnone,hbound1,honly1⟩ := hextra
  have hrelease := releaseAdditional_ok hadd
    (show (subscriptionSource addDate now).refundAdditional=some _ from rfl) w1 hcall hnone
  -- then the record of the pre-consumption
  obtain ⟨row,hrow,hroom⟩ := hbound1.row
  obtain ⟨userId,hrecord⟩ := hbound1.record
  have hused := hbound1.used w1.subscription.subscriptionId
  rw [if_pos rfl,used_eq hrow] at hused
  have hfloor := hbefore w1.subscription.subscriptionId
  have hmax : max 0 (row.amountUsed-pre)=row.amountUsed-pre := by omega
  have hback := refund_eq hbound1.named hrecord hpos hrow hbound1.id
  rw [hmax,if_neg (by omega)] at hback
  have hrefund : (subscriptionSource addDate now).refund w1=({ w1 with
      subs := refundedTables w1.subs w1.subscription.requestId w1.subscription.subscriptionId (row.amountUsed-pre) },
      none) := by
    change SubscriptionFunding.refund w1=_
    have hpre := hbound1.preConsumed
    have hdown1 : w1.down=false := honly1.aside.down.trans hdown
    rw [SubscriptionFunding.refund,if_neg (by omega),if_neg (by simp [hdown1]),hback]
  have hdone : ∀ sid, used (refundedTables w1.subs w1.subscription.requestId w1.subscription.subscriptionId
      (row.amountUsed-pre)) sid=o.before sid := by
    intro sid
    rw [used,sub?_refundedTables,← used,used_withUsed hrow]
    have hsid := hbound1.used sid
    split
    next heq =>
      rw [heq]
      omega
    next hne =>
      rw [if_neg hne] at hsid
      omega
  refine ⟨_,refundLoop_turn hsrc hheld hrelease hrefund,⟨⟨honly1.aside.down,honly1.aside.benefit,honly1.aside.voucher,
    fun ht => ?_⟩,honly1.wallet,honly1.purse,honly1.token⟩,fun sid => ?_,by simp [put,bump],by simp [put]⟩
  · have htable : TableOk (w1.subs.updateSub w1.subscription.subscriptionId (·.withUsed (row.amountUsed-pre))) :=
      hbound1.table.updateSub (fun _ hs => hs) fun _ _ _ => by
        simp only [UserSubscription.withUsed]
        omega
    exact ⟨htable.unique,htable.nonneg⟩
  · rw [if_pos hheld]
    exact hdone sid

/-- The refund of all extra reservations would be taken for the repetition of the last rollback, and there is
nothing else that the vouchers hold. -/
def MisreadAsReplay (f : CompositeFunding World) : Prop :=
  0 < f.additional 0 ∧ f.consumed 0=f.additional 0 ∧
    refundReplayed (f.world.benefit.requestRows f.world.voucher.requestID .preConsume)
      (f.world.benefit.requestRows f.world.voucher.requestID .refundAdditional) (f.additional 0)=true

theorem voucher_refund_ok {benefit : BenefitDB} (hdown : w.down=false) (hid : w.voucher.requestID=r)
    (hreserved : 0<w.voucher.reserved) (hdrawn : Drawn benefit w.benefit r u g) (hnamed : GoStrings.isBlank r=false) :
    ∃ w', BenefitVoucherFunding.refund w=(w',none) ∧ VoucherOnly w w' ∧
      ∀ id, remaining? w'.benefit id=remaining? benefit id := by
  obtain ⟨db',hcall,hrestored⟩ := hdrawn.refundAll hnamed
  obtain ⟨w',hbooked,honly,hdb,-⟩ := booked_ok hdown db' (-w.voucher.reserved) (-w.voucher.consumed)
  refine ⟨w',?_,honly,fun id => hdb ▸ hrestored id⟩
  rw [BenefitVoucherFunding.refund,if_neg (by omega),hid,hcall,hbooked]

theorem voucher_refundTurn (addDate : AddDate) (now : Int)
    (h : VoucherOk base r u g f.world (f.consumed 0)) (hm : Remembers f.world.benefit r mark) (hmark : 0 ≤ mark)
    (hadd : 0≤f.additional 0) (hle : f.additional 0≤f.consumed 0) :
    ∃ f', refundLoop (benefitSources addDate now) 1 f=(f',[]) ∧ VoucherOnly f.world f'.world ∧
      ((∀ id, remaining? f'.world.benefit id=remaining? base id) ↔ ¬ MisreadAsReplay f) := by
  have hsrc : (benefitSources addDate now)[0]? = some (voucherSource now) := rfl
  have hnonneg := h.nonneg
  obtain hz | hheld : f.consumed 0=0 ∨ 0<f.consumed 0 := by omega
  · refine ⟨f,refundLoop_skip hsrc (by omega),⟨rfl,rfl,rfl,rfl,rfl,rfl⟩,?_⟩
    refine iff_of_true (h.drawn.remaining_of_taken (h.taken.trans hz)) ?_
    rintro ⟨hpos,heq,-⟩
    omega
  -- the source after its extra reservations: given back, or taken for a repetition
  have hextra : ∃ w1, (0<f.additional 0 → refundAdditional (f.additional 0) f.world=(w1,none)) ∧
      (f.additional 0=0 → w1=f.world) ∧ VoucherOnly f.world w1 ∧ w1.voucher.requestID=r ∧
      w1.voucher.reserved=f.consumed 0-f.additional 0 ∧ Drawn base w1.benefit r u g ∧
      (taken base w1.benefit r=0 ↔ f.consumed 0=f.additional 0 ∧ ¬ MisreadAsReplay f) ∧
      0≤taken base w1.benefit r := by
    obtain hzero | hmore : f.additional 0=0 ∨ 0<f.additional 0 := by omega
    · refine ⟨f.world,fun h => by omega,fun _ => rfl,⟨rfl,rfl,rfl,rfl,rfl,rfl⟩,h.requestID,?_,h.drawn,?_,?_⟩
      · rw [h.reserved]
        omega
      · rw [h.taken]
        constructor
        · intro h
          omega
        · rintro ⟨heq,-⟩
          omega
      · rw [h.taken]
        exact hnonneg
    cases hreplay : refundReplayed (f.world.benefit.requestRows r .preConsume)
        (f.world.benefit.requestRows r .refundAdditional) (f.additional 0) with
    | true =>
      have hcall := h.drawn.replayed h.named (by rw [h.taken]; exact hheld) hmore hreplay
      obtain ⟨w1,hbooked,honly,hdb,hvoucher⟩ := booked_ok h.down f.world.benefit (-f.additional 0) (-f.additional 0)
      refine ⟨w1,fun _ => ?_,fun h => by omega,honly,?_,?_,hdb ▸ h.drawn,?_,?_⟩
      · rw [refundAdditional,if_neg (by omega),h.requestID,hcall,hbooked]
      · rw [hvoucher,← h.requestID]
      · rw [hvoucher]
        simp only [h.reserved]
        omega
      · rw [hdb,h.taken]
        refine iff_of_false (by omega) ?_
        rintro ⟨heq,hmis⟩
        refine hmis ⟨hmore,heq,?_⟩
        rw [h.requestID]
        exact hreplay
      · rw [hdb,h.taken]
        exact hnonneg
    | false =>
      obtain ⟨w1,hcall,hok1,-,honly⟩ := h.release (hm.mono (le_max_left mark (f.consumed 0-f.additional 0)))
        (by omega) hmore hle (le_max_right _ _) hreplay
      refine ⟨w1,fun _ => hcall,fun h => by omega,honly,hok1.requestID,hok1.reserved,hok1.drawn,?_,?_⟩
      · rw [hok1.taken]
        constructor
        · intro hzero
          refine ⟨by omega,?_⟩
          rintro ⟨-,-,hmis⟩
          rw [h.requestID,hreplay] at hmis
          cases hmis
        · rintro ⟨heq,-⟩
          omega
      · rw [hok1.taken]
        omega
  obtain ⟨w1,hcall,hnone,honly1,hid1,hreserved1,hdrawn1,hzero,hnonneg1⟩ := hextra
  have hrelease := releaseAdditional_ok hadd (show (voucherSource now).refundAdditional=some _ from rfl) w1 hcall hnone
  obtain hall | hpart : f.consumed 0=f.additional 0 ∨ f.additional 0<f.consumed 0 := by omega
  · -- the counter is at zero: `Refund` of the source does nothing
    have hrefund : (voucherSource now).refund w1=(w1,none) := by
      change BenefitVoucherFunding.refund w1=_
      rw [BenefitVoucherFunding.refund,if_pos (by omega)]
    refine ⟨_,refundLoop_turn hsrc hheld hrelease hrefund,honly1,?_⟩
    by_cases hmis : MisreadAsReplay f
    · have hne : taken base w1.benefit r≠0 := fun h => (hzero.mp h).2 hmis
      exact iff_of_false (hdrawn1.remaining_ne (by omega)) (not_not.mpr hmis)
    · exact iff_of_true (hdrawn1.remaining_of_taken (hzero.mpr ⟨hall,hmis⟩)) hmis
  · obtain ⟨w2,hrefund,honly2,hrestored⟩ := voucher_refund_ok (honly1.down.trans h.down) hid1 (by omega) hdrawn1 h.named
    refine ⟨_,refundLoop_turn hsrc hheld hrelease hrefund,honly1.trans honly2,iff_of_true hrestored ?_⟩
    rintro ⟨-,heq,-⟩
    omega

theorem MisreadAsReplay.congr {f f' : CompositeFunding World} (hconsumed : f'.consumed 0=f.consumed 0)
    (hadditional : f'.additional 0=f.additional 0) (hbenefit : f'.world.benefit=f.world.benefit)
    (hvoucher : f'.world.voucher=f.world.voucher) : MisreadAsReplay f' ↔ MisreadAsReplay f := by
  rw [MisreadAsReplay,MisreadAsReplay,hconsumed,hadditional,hbenefit,hvoucher]

structure Refunded (o : Origin) (token : Int) (s : BillingSession) (w : World) : Prop where
  vouchers : (∀ id, remaining? w.benefit id=remaining? o.benefit id) ↔ ¬ MisreadAsReplay s.funding
  subscriptions : ∀ sid, used w.subs sid = if 0<s.funding.consumed 1 then o.before sid else used o.subs sid
  wallet : w.wallet=o.wallet
  token : w.token=token

theorem SessionOk.refundFunding (hbefore : ∀ sid, 0≤o.before sid)
    (h : SessionOk o token initial s) (addDate : AddDate) (now : Int) :
    ∃ f, CompositeFunding.refund (benefitSources addDate now) s.funding=(f,[]) ∧ f.world.down=false ∧
      Refunded o s.world.token s f.world := by
  have hadd := h.additional
  have hsplit := h.split
  have hinitial := h.initial
  obtain ⟨f2,hloop2,honly2,hwallet,hsame⟩ := wallet_refundTurn addDate now h.holding.down
    h.holding.wallet (hadd 2) (by have := hsplit 2; omega)
  have hdown2 : f2.world.down=false := honly2.aside.down.trans h.holding.down
  have hsub2 := h.holding.subscription.keep honly2.subs honly2.subscription (hsame 1 (by omega)).1
  obtain ⟨f1,hloop1,honly1,hused,hcons,hextra⟩ := subscription_refundTurn addDate now hbefore hdown2 hsub2
    (by rw [(hsame 1 (by omega)).1,(hsame 1 (by omega)).2,hsplit 1]) (by rw [(hsame 1 (by omega)).2]; exact hadd 1)
  have hcons1 : f1.consumed 0=s.funding.consumed 0 := hcons.trans (hsame 0 (by omega)).1
  have hadd1 : f1.additional 0=s.funding.additional 0 := hextra.trans (hsame 0 (by omega)).2
  have hmarked := (h.holding.vouchers.aside honly2.aside (hsame 0 (by omega)).1).aside honly1.aside hcons
  obtain ⟨f,hloop0,honly,hvouchers⟩ := voucher_refundTurn addDate now hmarked.1.1 hmarked.2
    h.holding.nonneg.1 (by rw [hadd1]; exact hadd 0) (by rw [hadd1,hcons1]; have := hsplit 0; omega)
  refine ⟨f,?_,?_,⟨?_,fun sid => ?_,?_,?_⟩⟩
  · rw [CompositeFunding.refund]
    exact hloop2.trans (hloop1.trans hloop0)
  · rw [honly.down,honly1.aside.down,hdown2]
  · rw [hvouchers,MisreadAsReplay.congr hcons1 hadd1 (honly1.aside.benefit.trans honly2.aside.benefit)
      (honly1.aside.voucher.trans honly2.aside.voucher)]
  · rw [honly.subs,hused sid,(hsame 1 (by omega)).1]
  · rw [honly.wallet,honly1.wallet,hwallet]
  · rw [honly.token,honly1.token,honly2.token]
    rfl

theorem SessionOk.refund (hbefore : ∀ sid, 0≤o.before sid)
    (h : SessionOk o token initial s) (addDate : AddDate) (now : Int) :
    Refunded o token s (s.refund addDate now {}).1.world := by
  have htoken := h.token
  have hcount := h.tokenConsumed
  cases hneeds : s.needsRefundLocked with
  | false =>
    -- nothing was taken
    have hout : s.refund addDate now {}=(s,[]) := by
      simp [BillingSession.refund,h.settled,h.refunded,hneeds]
    simp only [needsRefundLocked,h.settled,h.refunded,h.fundingSettled,Bool.or_self,Bool.false_eq_true,if_false,
      Bool.or_eq_false_iff,decide_eq_false_iff_not,fundingHolds,h.kind,List.any_eq_false,List.mem_range] at hneeds
    obtain ⟨htaken,hheld⟩ := hneeds
    have hzero : ∀ j, j<3 → s.funding.consumed j≤0 := fun j hj => by
      have := hheld j hj
      simpa using this
    have hnonneg := h.holding.nonneg
    have h0 : s.funding.consumed 0=0 := by have := hzero 0 (by omega); omega
    have h1 : s.funding.consumed 1=0 := by have := hzero 1 (by omega); omega
    have h2 : s.funding.consumed 2=0 := by have := hzero 2 (by omega); omega
    rw [hout]
    refine ⟨?_,fun sid => ?_,?_,?_⟩
    · refine iff_of_true (h.holding.vouchers.1.1.drawn.remaining_of_taken (h.holding.vouchers.1.1.taken.trans h0)) ?_
      rintro ⟨hpos,heq,-⟩
      omega
    · rw [if_neg (by omega)]
      obtain ⟨hunbound,-,-⟩ | hbound := h.holding.subscription
      · exact congrArg (used · sid) hunbound.subs
      have := hbound.positive
      have := hbound.within
      omega
    · have hwallet := h.holding.wallet.wallet
      change s.funding.world.wallet=o.wallet
      omega
    · change s.funding.world.token=token
      have hsum : s.funding.world.token+s.tokenConsumed=token := htoken
      omega
  | true =>
    obtain ⟨f,hfunding,hdown,hrefunded⟩ := h.refundFunding hbefore addDate now
    obtain ⟨s2,hfund,hkind,hworld,huses,hspent⟩ : ∃ s2 : BillingSession,
        ({ s with refunded := true } : BillingSession).fundingRefund addDate now false=(s2,[]) ∧
          s2.kind=.composite ∧ s2.world=f.world ∧ s2.usesTokenQuota=s.usesTokenQuota ∧
          s2.tokenConsumed=s.tokenConsumed := by
      refine ⟨{ s with refunded := true, funding := f },?_,h.kind,rfl,rfl,rfl⟩
      simp only [fundingRefund,h.kind,callComposite,hfunding]
    have hopen : ¬ (s.settled || s.refunded || !s.needsRefundLocked)=true := by
      simp [h.settled,h.refunded,hneeds]
    have hdown2 : s2.world.down=false := hworld ▸ hdown
    have hnone : ¬ (s2.extraReserved>0 ∧ s2.kind=.subscription ∧ s2.world.subscription.subscriptionId>0) := by
      rw [hkind]
      simp
    have hout : (s.refund addDate now {}).1.world={ f.world with token := f.world.token+s.tokenConsumed } := by
      rw [BillingSession.refund,if_neg hopen,refundAll,hfund]
      simp only [if_neg hnone,hspent,huses]
      split
      · simp only [call,world_up hdown2,increaseTokenQuota,if_neg (Int.not_lt.mpr hcount),Bool.false_eq_true,if_false]
        rw [← hworld]
        simp only [withWorld,BillingSession.world] at hdown2 ⊢
        simp only [hdown2]
      next hnot =>
        have hz : s.tokenConsumed=0 := by
          cases hq : s.usesTokenQuota with
          | false => exact h.exempt hq
          | true =>
            simp only [hq,and_true] at hnot
            omega
        rw [hworld,hz,Int.add_zero]
    rw [hout]
    have hback := hrefunded.token
    refine ⟨hrefunded.vouchers,hrefunded.subscriptions,hrefunded.wallet,?_⟩
    simp only
    omega

theorem takeToken_ok {s s' : BillingSession} {quota : Int} (hdown : s.world.down=false) (hzero : s.tokenConsumed=0)
    (h : s.takeToken false quota=(s',none)) :
    ∃ spent, 0 ≤ spent ∧ (s.usesTokenQuota=false → spent=0) ∧
      s'={ s.withWorld { s.world with token := s.world.token-spent } with tokenConsumed := spent } := by
  unfold takeToken at h
  split at h
  next hasks =>
    obtain ⟨hpos,huses⟩ := hasks
    have hreserve : s.preConsumeTokenQuota false quota=s.reserveToken false quota := by
      rw [reserveToken,if_neg (by simp [huses]; omega)]
    rw [hreserve] at h
    obtain ⟨err,hrefused⟩ | hgranted := reserveToken_cases s hdown hpos
    · rw [hrefused] at h
      cases h
    · rw [hgranted,huses] at h
      cases h
      exact ⟨quota,hpos.le,fun hno => absurd huses (by simp [hno]),rfl⟩
  · cases h
    refine ⟨0,Int.le_refl 0,fun _ => rfl,?_⟩
    rw [Int.sub_zero,← hzero]
    rfl

structure BenefitStart (relayInfo : RelayInfo) (w : World) : Prop where
  up : w.down=false
  vouchers : Keyed.Unique BenefitUserVoucher.id w.benefit.vouchers
  ledger : Keyed.Unique BenefitVoucherLedger.key w.benefit.ledger
  fresh : ∀ t id, w.benefit.row? t relayInfo.requestId id=none
  named : GoStrings.isBlank relayInfo.requestId=false
  known : relayInfo.userId∈w.benefit.users
  subs : Unrecorded w.subs (relayInfo.requestId++":subscription")

/-- Where the session that `NewBillingSession` opens at `now` comes from. -/
def originOf (addDate : AddDate) (now : Int) (relayInfo : RelayInfo) (groupID : Int) (w : World) : Origin where
  benefit := w.benefit
  requestID := relayInfo.requestId
  userID := relayInfo.userId
  groupID := groupID
  subs := w.subs
  subscriptionRequest := relayInfo.requestId++":subscription"
  before := usedAfterResets addDate w.subs relayInfo.userId now
  wallet := w.wallet

theorem BenefitStart.preConsume (h : BenefitStart relayInfo w) {now quota groupID : Int}
    {s : BillingSession}
    (hopen : (emptySession relayInfo .composite { w with
      voucher := { requestID := relayInfo.requestId, userID := relayInfo.userId, groupID := groupID }
      subscription := { requestId := relayInfo.requestId++":subscription", userId := relayInfo.userId }
      purse := { userId := relayInfo.userId } }).preConsume addDate now quota {}=(s,none)) :
    SessionOk (originOf addDate now relayInfo groupID w) w.token s.funding.consumed s := by
  set w0 : World := { w with
    voucher := { requestID := relayInfo.requestId, userID := relayInfo.userId, groupID := groupID }
    subscription := { requestId := relayInfo.requestId++":subscription", userId := relayInfo.userId }
    purse := { userId := relayInfo.userId } } with hw0
  have htrust : (emptySession relayInfo .composite w0).shouldTrust=false := by
    simp [shouldTrust,emptySession]
  rw [BillingSession.preConsume,effectiveQuota,htrust] at hopen
  simp only [Bool.false_eq_true,if_false] at hopen
  set s0 : BillingSession := { emptySession relayInfo .composite w0 with trusted := false } with hs0
  rcases htake : s0.takeToken false quota with ⟨s1,_ | err⟩
  swap
  · rw [htake] at hopen
    cases hopen
  obtain ⟨spent,hspent,hexempt,rfl⟩ := takeToken_ok (s := s0) h.up rfl htake
  rw [htake] at hopen
  simp only at hopen
  set w1 : World := { w0 with token := w0.token-spent } with hw1
  obtain ⟨taken,htaken⟩ : ∃ r, CompositeFunding.preConsume (benefitSources addDate now) quota (newCompositeFunding w1)=r := ⟨_,rfl⟩
  have hfund : ({ s0.withWorld w1 with tokenConsumed := spent } : BillingSession).fundingPreConsume addDate now false quota =
      ({ s0 with tokenConsumed := spent, funding := taken.1 },taken.2) := htaken ▸ rfl
  rw [show s0.world.token=w0.token from rfl,show ({ s0.world with token := w0.token-spent } : World)=w1 from rfl,
    hfund] at hopen
  cases herrs : taken.2 with
  | cons err errs =>
    rw [herrs] at hopen
    cases hopen
  | nil =>
    rw [herrs] at hopen
    obtain ⟨hdrawn,hbooked⟩ := Drawn.start h.vouchers h.ledger h.fresh relayInfo.userId groupID
    have hmarked : MarkedSide w.benefit relayInfo.requestId relayInfo.userId groupID 0 (fun _ => 0) w1 := by
      refine ⟨⟨⟨h.up,rfl,rfl,rfl,h.named,h.known,hdrawn,hbooked,rfl,Int.le_refl 0⟩,h.subs.table⟩,?_⟩
      exact Remembers.start h.fresh 0
    have hopening : OpeningSide w.subs (relayInfo.requestId++":subscription") relayInfo.userId
        (usedAfterResets addDate w.subs relayInfo.userId now) (fun _ => 0) w1 := .inl ⟨⟨rfl,rfl,rfl,rfl⟩,rfl⟩
    have hwallet : WalletSide w.wallet (w.token-spent) (fun _ => 0) w1 :=
      ⟨(Int.sub_zero _).symm,rfl,Int.le_refl 0,rfl⟩
    obtain ⟨⟨hmarked',hopened,hwallet'⟩,hadditional⟩ :=
      ((markedSide_preConsume w.benefit relayInfo.requestId relayInfo.userId groupID 0 now).and
        ((openingSide_preConsume h.subs now).and (walletSide_preConsume w.wallet (w.token-spent) now))).ok
        ⟨hmarked,hopening,hwallet⟩ _ htaken herrs
    set f := taken.1
    cases hopen
    have htoken : f.world.token=w.token-spent := hwallet'.token
    have hheld : Holding (originOf addDate now relayInfo groupID w) 0 (f.consumed 1) f.world.token f.consumed f.world :=
      ⟨hmarked',hopened.held,htoken.symm ▸ hwallet'⟩
    refine ⟨rfl,rfl,rfl,rfl,hheld.mono hheld.nonneg.1,fun j => ?_,hheld.nonneg,fun j => ?_,?_,hspent,hexempt⟩
    · simp only [hadditional,Int.add_zero]
    · simp only [hadditional]
      exact Int.le_refl 0
    · change f.world.token+spent=w.token
      omega

theorem opening_ok {out : BillingSession×Option ApiErrorCode} {s : BillingSession} (h : opening out=(w',.ok s)) :
    out=(s,none) := by
  obtain ⟨s',_ | code⟩ := out
  · cases h
    rfl
  · cases h

theorem BenefitStart.opened (h : BenefitStart relayInfo w) {now quota : Int} {s : BillingSession}
    (hpath : (tryBenefit addDate now relayInfo quota {} w).isSome)
    (hok : newBillingSession addDate now relayInfo quota {} w=(w',.ok s)) :
    ∃ groupID, SessionOk (originOf addDate now relayInfo groupID w) w.token s.funding.consumed s := by
  obtain ⟨out,hout⟩ := Option.isSome_iff_exists.mp hpath
  rw [newBillingSession,hout] at hok
  subst hok
  unfold tryBenefit at hout
  split at hout
  · cases hout
  obtain ⟨groupID,-,hout⟩ := Option.bind_eq_some_iff.mp hout
  simp only [Bool.false_eq_true,if_false] at hout
  split at hout
  · cases hout
  split at hout
  · exact ⟨groupID,h.preConsume (opening_ok (Option.some.inj hout))⟩
  · cases hout

/-- A call of `Reserve` that succeeds, or fails with the token's reservation only. -/
def ReserveAllowed (addDate : AddDate) (now target : Int) (s : BillingSession) : Prop :=
  (s.reserve addDate now target {}).2=[] ∨ (s.reserveFunding addDate now false (target-s.preConsumedQuota)).2=[]

inductive ReservedFrom (addDate : AddDate) (s : BillingSession) : BillingSession → Prop where
  | opened : ReservedFrom addDate s s
  | reserve {s' : BillingSession} (now target : Int) (h : ReservedFrom addDate s s')
      (hallowed : ReserveAllowed addDate now target s') :
      ReservedFrom addDate s (s'.reserve addDate now target {}).1

theorem ReservedFrom.ok {initial : Nat → Int} {s s' : BillingSession} (hbefore : ∀ sid, 0≤o.before sid)
    (hs : SessionOk o token initial s) (h : ReservedFrom addDate s s') : SessionOk o token initial s' := by
  induction h with
  | opened => exact hs
  | reserve now target _ hallowed ih => exact ih.reserve hbefore now target hallowed

structure RestoresAll (w w' : World) : Prop where
  vouchers : ∀ id, remaining? w'.benefit id=remaining? w.benefit id
  subscriptions : ∀ sid, used w'.subs sid=used w.subs sid
  wallet : w'.wallet=w.wallet
  token : w'.token=w.token

/-- `Refund` restores everything exactly where the vouchers' refund is not taken for a repetition, and the
session has not moved a subscription into its next period. -/
theorem refund_restores_iff {relayInfo : RelayInfo} {now quota : Int} {s s' : BillingSession}
    (hstart : BenefitStart relayInfo w) (hpath : (tryBenefit addDate now relayInfo quota {} w).isSome)
    (hok : newBillingSession addDate now relayInfo quota {} w=(w',.ok s)) (hrun : ReservedFrom addDate s s') (now' : Int) :
    RestoresAll w (s'.refund addDate now' {}).1.world ↔ ¬ MisreadAsReplay s'.funding ∧
        (0<s'.funding.consumed 1 → ¬ ResetDue addDate w.subs relayInfo.userId now) := by
  obtain ⟨groupID,hopened⟩ := hstart.opened hpath hok
  have hbefore : ∀ sid, 0≤(originOf addDate now relayInfo groupID w).before sid :=
    fun sid => hstart.subs.table.usedAfterResets_nonneg addDate relayInfo.userId now sid
  have hout := (hrun.ok hbefore hopened).refund hbefore addDate now'
  have hresets := hstart.subs.table.usedAfterResets_iff addDate relayInfo.userId now
  have hused : (∀ sid, used (s'.refund addDate now' {}).1.world.subs sid=used w.subs sid) ↔
      (0<s'.funding.consumed 1 → ¬ ResetDue addDate w.subs relayInfo.userId now) := by
    simp only [hout.subscriptions]
    by_cases hpaid : 0<s'.funding.consumed 1
    · simp only [hpaid,if_true,true_implies]
      exact hresets
    · exact iff_of_true (fun sid => if_neg hpaid) fun h => absurd h hpaid
  constructor
  · intro h
    exact ⟨hout.vouchers.mp h.vouchers,hused.mp h.subscriptions⟩
  · rintro ⟨hmis,hreset⟩
    exact ⟨hout.vouchers.mpr hmis,hused.mpr hreset,hout.wallet,hout.token⟩

def refundExample : World where
  benefit := ⟨[1],[{ id := 1, groupId := 1, status := .published, startsAt := 0, endsAt := 1000 }],[],
    [{ id := 1, activityId := 1, userId := 1, originalQuota := 10, remainingQuota := 10, usedQuota := 0,
       status := .active, expiresAt := 1000 }],[]⟩
  subs := ⟨[],[],[]⟩
  wallet := 0
  token := 5
  voucher := { requestID := "", userID := 0, groupID := 0 }
  subscription := { requestId := "", userId := 0 }
  purse := { userId := 0 }

def refundExampleInfo : RelayInfo :=
  { requestId := "r", userId := 1, usingGroupId := some 1, benefitGroupExplicit := true, tokenQuota := 5 }

theorem refundExample_start : BenefitStart refundExampleInfo refundExample where
  up := rfl
  vouchers := by simp [Keyed.Unique,refundExample]
  ledger := by simp [Keyed.Unique,refundExample]
  fresh _ _ := rfl
  named := by decide +kernel
  known := by decide
  subs := ⟨⟨by simp [Keyed.Unique,refundExample],by decide⟩,by decide,rfl⟩

def openedExample : BillingSession :=
  match newBillingSession (fun start _ _ _ => start) 10 refundExampleInfo 0 {} refundExample with
  | (_,.ok s) => s
  | (w,.error _) => emptySession refundExampleInfo .composite w

def reserveExample (s : BillingSession) (target : Int) : BillingSession :=
  (s.reserve (fun start _ _ _ => start) 10 target {}).1

theorem openedExample_ok : newBillingSession (fun start _ _ _ => start) 10 refundExampleInfo 0 {} refundExample =
    (openedExample.world,.ok openedExample) := rfl

theorem refund_restores_reserve :
    RestoresAll refundExample ((reserveExample openedExample 5).refund (fun start _ _ _ => start) 10 {}).1.world := by
  have hrun : ReservedFrom (fun start _ _ _ => start) openedExample (reserveExample openedExample 5) :=
    .reserve 10 5 .opened (.inl (by decide +kernel))
  refine (refund_restores_iff refundExample_start (by decide +kernel) openedExample_ok hrun 10).mpr ⟨?_,?_⟩
  · rintro ⟨-,-,hreplay⟩
    exact absurd hreplay (by decide +kernel)
  · intro hpaid
    exact absurd hpaid (by decide +kernel)

theorem refund_after_rollback_loses : BenefitStart refundExampleInfo refundExample ∧
      (tryBenefit (fun start _ _ _ => start) 10 refundExampleInfo 0 {} refundExample).isSome ∧
      newBillingSession (fun start _ _ _ => start) 10 refundExampleInfo 0 {} refundExample =
        (openedExample.world,.ok openedExample) ∧
      ReservedFrom (fun start _ _ _ => start) openedExample (reserveExample (reserveExample openedExample 5) 10) ∧
      ((reserveExample (reserveExample openedExample 5) 10).refund (fun start _ _ _ => start) 10 {}).2=[] ∧
      ¬ RestoresAll refundExample
        ((reserveExample (reserveExample openedExample 5) 10).refund (fun start _ _ _ => start) 10 {}).1.world := by
  refine ⟨refundExample_start,by decide +kernel,openedExample_ok,
    .reserve 10 10 (.reserve 10 5 .opened (.inl (by decide +kernel))) (.inr (by decide +kernel)),by decide +kernel,?_⟩
  intro h
  exact absurd (h.vouchers 1) (by decide +kernel)

end NewApi.Billing
