import NewApi.Billing.Sources
import NewApi.Funding.Carried
import NewApi.Subscription.Usage
import NewApi.Voucher.Request

/-! The composite of the benefit path while its request is alone on the stores: what its calls leave in
the voucher tables, and that the vouchers pay every share planned for them. -/
namespace NewApi.Billing
open Funding Subscription Voucher CompositeFunding
variable (w : World)

/-- The voucher side of the world: the tables before the request with its open reservations. -/
structure VoucherOk (base : BenefitDB) (r : String) (u g : Int) (w : World) (held : Int) : Prop where
  down : w.down=false
  requestID : w.voucher.requestID=r
  userID : w.voucher.userID=u
  groupID : w.voucher.groupID=g
  named : GoStrings.isBlank r=false
  known : u∈base.users
  drawn : Drawn base w.benefit r u g
  taken : taken base w.benefit r=held
  reserved : w.voucher.reserved=held
  nonneg : 0≤held

structure Aside (w w' : World) : Prop where
  down : w'.down=w.down
  benefit : w'.benefit=w.benefit
  voucher : w'.voucher=w.voucher
  table : TableOk w.subs → TableOk w'.subs

structure VoucherOnly (w w' : World) : Prop where
  down : w'.down=w.down
  subs : w'.subs=w.subs
  subscription : w'.subscription=w.subscription
  wallet : w'.wallet=w.wallet
  purse : w'.purse=w.purse
  token : w'.token=w.token

structure SubscriptionOnly (w w' : World) : Prop where
  aside : Aside w w'
  wallet : w'.wallet=w.wallet
  purse : w'.purse=w.purse
  token : w'.token=w.token

structure WalletOnly (w w' : World) : Prop where
  aside : Aside w w'
  subs : w'.subs=w.subs
  subscription : w'.subscription=w.subscription
  token : w'.token=w.token

theorem Aside.refl : Aside w w := ⟨rfl,rfl,rfl,id⟩

theorem SubscriptionOnly.refl : SubscriptionOnly w w := ⟨Aside.refl w,rfl,rfl,rfl⟩

theorem WalletOnly.refl : WalletOnly w w := ⟨Aside.refl w,rfl,rfl,rfl⟩

theorem VoucherOnly.trans {w1 w2 w3 : World} (h : VoucherOnly w1 w2) (h' : VoucherOnly w2 w3) : VoucherOnly w1 w3 :=
  ⟨h'.down.trans h.down,h'.subs.trans h.subs,h'.subscription.trans h.subscription,h'.wallet.trans h.wallet,
    h'.purse.trans h.purse,h'.token.trans h.token⟩

variable {base : BenefitDB} {r : String} {u g : Int} {w w' : World} {held : Int} {addDate : AddDate}

theorem VoucherOk.aside (h : VoucherOk base r u g w held) (ha : Aside w w') : VoucherOk base r u g w' held where
  down := ha.down.trans h.down
  requestID := by rw [ha.voucher,h.requestID]
  userID := by rw [ha.voucher,h.userID]
  groupID := by rw [ha.voucher,h.groupID]
  named := h.named
  known := h.known
  drawn := ha.benefit ▸ h.drawn
  taken := by rw [ha.benefit,h.taken]
  reserved := by rw [ha.voucher,h.reserved]
  nonneg := h.nonneg

theorem clampCapacity_nonneg (n : Int) : 0≤clampCapacity n := by
  unfold clampCapacity
  split
  · omega
  split
  · decide
  · omega

theorem clampCapacity_le {n : Int} (h : 0≤n) : clampCapacity n≤n := by
  unfold clampCapacity
  split
  · omega
  split <;> omega

theorem VoucherOk.capacity (h : VoucherOk base r u g w held) (now : Int) :
    0 ≤ BenefitVoucherFunding.capacity now w ∧ (0<BenefitVoucherFunding.capacity now w → 0<u ∧ 0<g) ∧
      BenefitVoucherFunding.capacity now w≤availableQuota w.benefit u g now := by
  have hnonneg := availableQuota_nonneg w.benefit u g now
  simp only [BenefitVoucherFunding.capacity,h.userID,h.groupID]
  split
  · exact ⟨Int.le_refl 0,fun h => absurd h (by omega),hnonneg⟩
  rename_i hids
  simp only [getBenefitVoucherAvailableQuota,if_neg hids]
  exact ⟨clampCapacity_nonneg _,fun _ => by omega,clampCapacity_le hnonneg⟩

variable {amount now : Int} (quota : Int)

theorem VoucherOk.reserveUpTo (h : VoucherOk base r u g w held) (now : Int) (h0 : 0<amount) :
    (amount≤BenefitVoucherFunding.capacity now w → ∃ w', BenefitVoucherFunding.reserveUpTo now (held+amount) w=.ok w') ∧
    ∀ w', BenefitVoucherFunding.reserveUpTo now (held+amount) w=.ok w' →
      VoucherOk base r u g w' (held+amount) ∧ w'.voucher.consumed=held+amount := by
  have htaken := h.taken
  have hnonneg := h.nonneg
  by_cases hids : 0<u ∧ 0<g
  · have hcall := h.drawn.reserve h.named hids.1 hids.2 h.known (held+amount) now (by omega) (by omega)
    rw [htaken] at hcall
    split at hcall
    · obtain ⟨db',res,hcall,hres,hdrawn,htaken'⟩ := hcall
      have hout : BenefitVoucherFunding.reserveUpTo now (held+amount) w =
          .ok { w with benefit := db', voucher := w.voucher.holding res } := by
        simp only [BenefitVoucherFunding.reserveUpTo,h.requestID,h.userID,h.groupID,hcall]
        rfl
      refine ⟨fun _ => ⟨_,hout⟩,fun w' hw' => ?_⟩
      cases hout.symm.trans hw'
      refine ⟨?_,hres⟩
      exact ⟨h.down,h.requestID,h.userID,h.groupID,h.named,h.known,hdrawn,htaken',hres,by omega⟩
    next hshort =>
      have hout : BenefitVoucherFunding.reserveUpTo now (held+amount) w=.error .voucherUnavailable := by
        simp only [BenefitVoucherFunding.reserveUpTo,h.requestID,h.userID,h.groupID,hcall]
        rfl
      obtain ⟨-,-,havail⟩ := h.capacity now
      exact ⟨fun hle => by omega,fun w' hw' => by simp [hout] at hw'⟩
  · obtain ⟨-,hpos,-⟩ := h.capacity now
    refine ⟨fun hle => absurd (hpos (by omega)) hids,fun w' hw' => ?_⟩
    have hparams : GoStrings.isBlank r=true ∨ u≤0 ∨ g≤0 ∨ held+amount≤0 := by omega
    simp [BenefitVoucherFunding.reserveUpTo,h.requestID,h.userID,h.groupID,reserveBenefitVoucherQuota,hparams,
      Except.bind] at hw'

theorem booked_ok (hdown : w.down=false) (db : BenefitDB) (reserved consumed : Int) :
    ∃ w', BenefitVoucherFunding.booked (.ok db) reserved consumed w=(w',none) ∧ VoucherOnly w w' ∧
      w'.benefit = db ∧ w'.voucher = { w.voucher with reserved := w.voucher.reserved+reserved,
                                                      consumed := w.voucher.consumed+consumed } := by
  refine ⟨{ w with benefit := db, voucher := { w.voucher with reserved := w.voucher.reserved+reserved,
                                                              consumed := w.voucher.consumed+consumed } },
    ?_,⟨rfl,rfl,rfl,rfl,rfl,rfl⟩,rfl,rfl⟩
  simp [BenefitVoucherFunding.booked,hdown]

theorem preConsumeAmount_only (addDate : AddDate) (now amount : Int) (w : World) :
    SubscriptionOnly w (SubscriptionFunding.preConsumeAmount addDate now amount w).1 := by
  unfold SubscriptionFunding.preConsumeAmount
  split
  · exact SubscriptionOnly.refl w
  split
  next subs res hcall =>
    exact ⟨⟨rfl,rfl,rfl,fun ht => (preConsume_booked ht hcall).1⟩,rfl,rfl,rfl⟩
  · exact SubscriptionOnly.refl w

theorem subscription_preConsume_only (addDate : AddDate) (now amount : Int) (w : World) :
    SubscriptionOnly w (SubscriptionFunding.preConsume addDate now amount w).1 := by
  simp only [SubscriptionFunding.preConsume]
  split
  · obtain ⟨haside,hwallet,hpurse,htoken⟩ :=
      preConsumeAmount_only addDate now amount { w with subscription.amount := amount }
    exact ⟨⟨haside.down,haside.benefit,haside.voucher,haside.table⟩,hwallet,hpurse,htoken⟩
  · exact preConsumeAmount_only addDate now _ w

theorem postConsume_only (delta : Int) (w : World) : SubscriptionOnly w (postConsumeSubscription delta w).1 := by
  unfold postConsumeSubscription
  split
  · exact SubscriptionOnly.refl w
  split
  · exact SubscriptionOnly.refl w
  split
  · exact SubscriptionOnly.refl w
  split
  next subs hcall =>
    exact ⟨⟨rfl,rfl,rfl,fun ht => (postDelta_booked ht hcall "").1⟩,rfl,rfl,rfl⟩
  · exact SubscriptionOnly.refl w

theorem subscription_reserve_only (amount : Int) (w : World) :
    SubscriptionOnly w (SubscriptionFunding.reserveAdditional amount w).1 := by
  unfold SubscriptionFunding.reserveAdditional
  split
  · exact SubscriptionOnly.refl w
  · exact postConsume_only amount w

theorem decreaseUserQuota_only (w : World) : WalletOnly w (decreaseUserQuota quota w).1 := by
  unfold decreaseUserQuota
  split
  · exact WalletOnly.refl w
  split
  · exact WalletOnly.refl w
  · exact ⟨⟨rfl,rfl,rfl,id⟩,rfl,rfl,rfl⟩

theorem tryReserveUserQuota_only (w : World) : WalletOnly w (tryReserveUserQuota quota w).1 := by
  unfold tryReserveUserQuota
  split
  · exact WalletOnly.refl w
  split
  · exact WalletOnly.refl w
  split
  · exact WalletOnly.refl w
  split
  · exact ⟨⟨rfl,rfl,rfl,id⟩,rfl,rfl,rfl⟩
  · exact WalletOnly.refl w

theorem WalletOnly.withPurse {w w' : World} (h : WalletOnly w w') (purse : WalletFunding) :
    WalletOnly w { w' with purse := purse } :=
  ⟨⟨h.aside.down,h.aside.benefit,h.aside.voucher,h.aside.table⟩,h.subs,h.subscription,h.token⟩

theorem wallet_preConsume_only (amount : Int) (w : World) : WalletOnly w (WalletFunding.preConsume amount w).1 := by
  unfold WalletFunding.preConsume
  split
  · exact WalletOnly.refl w
  have h := tryReserveUserQuota_only amount w
  split
  next w' hcall =>
    rw [hcall] at h
    exact h.withPurse _
  next w' err hcall =>
    rw [hcall] at h
    exact h

theorem wallet_reserve_only (amount : Int) (w : World) : WalletOnly w (WalletFunding.reserveAdditional amount w).1 := by
  unfold WalletFunding.reserveAdditional
  split
  · exact WalletOnly.refl w
  have h := decreaseUserQuota_only amount w
  split
  next w' hcall =>
    rw [hcall] at h
    exact h.withPurse _
  next w' err hcall =>
    rw [hcall] at h
    exact h

theorem benefitSources_cases {i : Nat} {src : FundingSource World} (h : (benefitSources addDate now)[i]? = some src) :
    (i=0 ∧ src=voucherSource now) ∨ (i=1 ∧ src=subscriptionSource addDate now) ∨ (i=2 ∧ src=walletSource) := by
  obtain ⟨hlt,hget⟩ := List.getElem?_eq_some_iff.mp h
  simp only [benefitSources,List.length_cons,List.length_nil] at hlt
  obtain rfl | rfl | rfl : i=0 ∨ i=1 ∨ i=2 := by omega
  · exact .inl ⟨rfl,hget.symm⟩
  · exact .inr (.inl ⟨rfl,hget.symm⟩)
  · exact .inr (.inr ⟨rfl,hget.symm⟩)

theorem voucher_preConsume_ok (hdown : w.down=false) (h : BenefitVoucherFunding.preConsume now amount w=(w',none)) :
    BenefitVoucherFunding.reserveUpTo now amount w=.ok w' := by
  simp only [BenefitVoucherFunding.preConsume,hdown,Bool.false_eq_true,if_false] at h
  split at h
  · cases h
    assumption
  · cases h

theorem voucher_reserve_ok (h0 : 0<amount) (hdown : w.down=false)
    (h : BenefitVoucherFunding.reserveAdditional now amount w=(w',none)) :
    BenefitVoucherFunding.reserveUpTo now (w.voucher.reserved+amount) w=.ok w' := by
  simp only [BenefitVoucherFunding.reserveAdditional,if_neg (Int.not_le.mpr h0),hdown,Bool.false_eq_true, if_false] at h
  split at h
  · cases h
    assumption
  · cases h

theorem voucher_preConsume_failed {err : FundingError}
    (h : BenefitVoucherFunding.preConsume now amount w=(w',some err)) : w'=w := by
  unfold BenefitVoucherFunding.preConsume at h
  split at h
  · cases h
    rfl
  split at h
  · cases h
  · cases h
    rfl

theorem of_call {P : World → World → Prop} {call : Call World} {out : Option FundingError} (h : P w (call w).1)
    (hcall : call w=(w',out)) : P w w' := by
  rw [hcall] at h
  exact h

theorem voucherOnly_reserveUpTo (h : BenefitVoucherFunding.reserveUpTo now amount w=.ok w') : VoucherOnly w w' := by
  unfold BenefitVoucherFunding.reserveUpTo at h
  obtain ⟨⟨benefit,res⟩,-,hfin⟩ := Runs.bind_ok h
  simp only at hfin
  split at hfin
  · cases hfin
    exact ⟨rfl,rfl,rfl,rfl,rfl,rfl⟩
  · cases hfin

theorem voucher_preConsume_only (h : BenefitVoucherFunding.preConsume now amount w=(w',none)) : VoucherOnly w w' := by
  cases hdown : w.down with
  | true => simp [BenefitVoucherFunding.preConsume,hdown] at h
  | false => exact voucherOnly_reserveUpTo (voucher_preConsume_ok hdown h)

theorem voucher_reserve_only (h0 : 0<amount)
    (h : BenefitVoucherFunding.reserveAdditional now amount w=(w',none)) : VoucherOnly w w' := by
  cases hdown : w.down with
  | true => simp [BenefitVoucherFunding.reserveAdditional,hdown,Int.not_le.mpr h0] at h
  | false => exact voucherOnly_reserveUpTo (voucher_reserve_ok h0 hdown h)

/-- The voucher side of the composite: the request's reservations on the tables `base` are what the source
has consumed. -/
def VoucherSide (base : BenefitDB) (r : String) (u g : Int) (c : Nat → Int) (w : World) : Prop :=
  VoucherOk base r u g w (c 0) ∧ TableOk w.subs

theorem VoucherSide.aside {c c' : Nat → Int} (h : VoucherSide base r u g c w) (ha : Aside w w') (hc : c' 0=c 0) :
    VoucherSide base r u g c' w' :=
  ⟨hc ▸ h.1.aside ha,ha.table h.2⟩

theorem voucherSide_preConsume (base : BenefitDB) (r : String) (u g now : Int) :
    CarriesPreConsume (VoucherSide base r u g) (benefitSources addDate now) where
  preConsume {i src amount c w w'} hsrc hpos hzero h hcall := by
    obtain ⟨rfl,rfl⟩ | ⟨rfl,rfl⟩ | ⟨rfl,rfl⟩ := benefitSources_cases hsrc
    · have hheld := h.1
      rw [hzero] at hheld
      have hout := voucher_preConsume_ok hheld.down hcall
      obtain ⟨hok,hconsumed⟩ := (hheld.reserveUpTo now hpos).2 w' (by rw [zero_add]; exact hout)
      have hm : measured (voucherSource now) amount w'=0+amount := hconsumed
      refine ⟨?_,(voucherOnly_reserveUpTo hout).subs ▸ h.2⟩
      rw [hm,put,Function.update_self]
      exact hok
    · exact h.aside (of_call (P := SubscriptionOnly) (subscription_preConsume_only addDate now amount w) hcall).aside rfl
    · exact h.aside (of_call (P := WalletOnly) (wallet_preConsume_only amount w) hcall).aside rfl
  skip {i src amount c w w' err} hsrc hpos h hcall := by
    obtain ⟨rfl,rfl⟩ | ⟨rfl,rfl⟩ | ⟨rfl,rfl⟩ := benefitSources_cases hsrc
    · rw [voucher_preConsume_failed hcall]
      exact h
    · exact h.aside (of_call (P := SubscriptionOnly) (subscription_preConsume_only addDate now amount w) hcall).aside rfl
    · exact h.aside (of_call (P := WalletOnly) (wallet_preConsume_only amount w) hcall).aside rfl

theorem voucherSide_reserve (base : BenefitDB) (r : String) (u g now : Int) :
    CarriesReserve (VoucherSide base r u g) (benefitSources addDate now) := by
  intro i src call amount c w w' hsrc hres hpos h hcall
  obtain ⟨rfl,rfl⟩ | ⟨rfl,rfl⟩ | ⟨rfl,rfl⟩ := benefitSources_cases hsrc
  · cases hres
    have hout := voucher_reserve_ok hpos h.1.down hcall
    rw [h.1.reserved] at hout
    obtain ⟨hok,-⟩ := (h.1.reserveUpTo now hpos).2 w' hout
    refine ⟨?_,(voucherOnly_reserveUpTo hout).subs ▸ h.2⟩
    rw [bump,Function.update_self]
    exact hok
  · cases hres
    exact h.aside (of_call (P := SubscriptionOnly) (subscription_reserve_only amount w) hcall).aside rfl
  · cases hres
    exact h.aside (of_call (P := WalletOnly) (wallet_reserve_only amount w) hcall).aside rfl

end NewApi.Billing
