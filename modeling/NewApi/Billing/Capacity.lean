import NewApi.Billing.BenefitPath
import NewApi.Subscription.Account

/-! `Settle` of the benefit path within the capacity that its sources report. The vouchers and the wallet
have what they report; the subscription reports what all subscriptions of the user have left, and books on
the one it is bound to. -/
namespace NewApi.Billing
open Funding Subscription Voucher CompositeFunding

structure Starting (w : World) : Prop where
  up : w.down=false
  vouchers : Keyed.Unique BenefitUserVoucher.id w.benefit.vouchers
  ledger : Keyed.Unique BenefitVoucherLedger.key w.benefit.ledger
  fresh : ∀ t id, w.benefit.row? t w.voucher.requestID id=none
  named : GoStrings.isBlank w.voucher.requestID=false
  known : w.voucher.userID∈w.benefit.users
  unreserved : w.voucher.reserved=0
  table : TableOk w.subs

/-- The composite after `PreConsume` and any `ReserveAdditional` calls that went through. -/
inductive Reached (addDate : AddDate) : CompositeFunding World → Prop where
  | preConsume {w : World} (now amount : Int) (h : Starting w)
      (hok : (preConsume (benefitSources addDate now) amount (newCompositeFunding w)).2=[]) :
      Reached addDate (preConsume (benefitSources addDate now) amount (newCompositeFunding w)).1
  | reserve {f : CompositeFunding World} (now amount : Int) (h : Reached addDate f)
      (hok : (reserveAdditional (benefitSources addDate now) amount f).2=[]) :
      Reached addDate (reserveAdditional (benefitSources addDate now) amount f).1

variable {base : BenefitDB} {r : String} {u g : Int} {w : World} {addDate : AddDate} {f : CompositeFunding World} (now : Int)

theorem Starting.side (h : Starting w) :
    VoucherSide w.benefit w.voucher.requestID w.voucher.userID w.voucher.groupID (fun _ => 0) w := by
  obtain ⟨hdrawn,htaken⟩ := Drawn.start h.vouchers h.ledger h.fresh w.voucher.userID w.voucher.groupID
  exact ⟨⟨h.up,rfl,rfl,rfl,h.named,h.known,hdrawn,htaken,h.unreserved,Int.le_refl 0⟩,h.table⟩

theorem Reached.side (h : Reached addDate f) : ∃ base r u g, VoucherSide base r u g f.consumed f.world := by
  induction h with
  | preConsume now amount h hok => exact ⟨_,_,_,_,((voucherSide_preConsume _ _ _ _ now).ok h.side _ rfl hok).1⟩
  | @reserve f now amount h hok ih =>
    obtain ⟨base,r,u,g,hside⟩ := ih
    by_cases h0 : amount≤0
    · rw [reserveAdditional,if_pos h0]
      exact ⟨base,r,u,g,hside⟩
    · exact ⟨base,r,u,g,(CarriesReserve.ok (voucherSide_reserve base r u g now) (by omega) hside _ rfl hok).1⟩

def totalCapacity {W : Type} (sources : List (FundingSource W)) (w : W) : Int :=
  (sources.map fun src => (src.additionalCapacity.map (· w)).getD 0).sum

def voucherShare (now delta : Int) (w : World) : Int := min (BenefitVoucherFunding.capacity now w) delta

def subscriptionShare (now delta : Int) (w : World) : Int :=
  min (SubscriptionFunding.capacity now w) (delta-voucherShare now delta w)

def walletShare (now delta : Int) (w : World) : Int :=
  min (WalletFunding.capacity w) (delta-voucherShare now delta w-subscriptionShare now delta w)

theorem planShares_zero {W : Type} (w : W) (srcs : List (FundingSource W)) (index : Nat) :
    planShares w srcs index 0=(fun _ => 0, 0) := by
  cases srcs with
  | nil => rfl
  | cons src rest => rw [planShares,if_pos (Int.le_refl 0)]

theorem planShares_cons {W : Type} {src : FundingSource W} {capacity : W → Int}
    (hc : src.additionalCapacity=some capacity) {w : W} (h0 : 0≤capacity w) (rest : List (FundingSource W))
    (index : Nat) {remaining : Int} (hrem : 0≤remaining) : planShares w (src::rest) index remaining =
      (put (planShares w rest (index+1) (remaining-min (capacity w) remaining)).1 index (min (capacity w) remaining),
        (planShares w rest (index+1) (remaining-min (capacity w) remaining)).2) := by
  obtain rfl | hpos : remaining=0 ∨ 0<remaining := by omega
  · have hzero : min (capacity w) 0=0 := by omega
    rw [hzero,Int.sub_zero,planShares_zero,planShares_zero,put,Function.update_eq_self]
  · have hshare : share src remaining w=min (capacity w) remaining := by
      simp only [share,hc,if_neg (Int.not_lt.mpr h0)]
      split <;> omega
    rw [planShares,if_neg (Int.not_le.mpr hpos),hshare]

theorem subscription_capacity_nonneg (w : World) : 0≤SubscriptionFunding.capacity now w := by
  unfold SubscriptionFunding.capacity
  split
  · exact clampCapacity_nonneg _
  · exact Int.le_refl 0

theorem wallet_capacity_nonneg (w : World) : 0≤WalletFunding.capacity w := by
  unfold WalletFunding.capacity
  split
  · exact Int.le_refl 0
  · exact clampCapacity_nonneg _

theorem voucher_capacity_nonneg (w : World) : 0≤BenefitVoucherFunding.capacity now w := by
  unfold BenefitVoucherFunding.capacity
  split
  · exact Int.le_refl 0
  split
  · exact clampCapacity_nonneg _
  · exact Int.le_refl 0

variable {delta : Int}

theorem planShares_benefit (now : Int) (w : World) (h0 : 0<delta) (hle : delta≤totalCapacity (benefitSources addDate now) w) :
    ∀ r, planShares w (benefitSources addDate now) 0 delta=r → r.2=0 ∧ r.1 0=voucherShare now delta w ∧
      r.1 1=subscriptionShare now delta w ∧ r.1 2=walletShare now delta w := by
  rintro _ rfl
  have hv := voucher_capacity_nonneg now w
  have hs := subscription_capacity_nonneg now w
  have hp := wallet_capacity_nonneg w
  have hsum : delta≤BenefitVoucherFunding.capacity now w +
      (SubscriptionFunding.capacity now w+(WalletFunding.capacity w+0)) := hle
  have hvouchers : voucherShare now delta w≤delta := by
    unfold voucherShare
    omega
  have hsubscription : subscriptionShare now delta w≤delta-voucherShare now delta w := by
    unfold subscriptionShare
    omega
  have hplan : planShares w (benefitSources addDate now) 0 delta =
      (put (put (put (fun _ => 0) 2 (walletShare now delta w)) 1 (subscriptionShare now delta w)) 0 (voucherShare now delta w),
        delta-voucherShare now delta w-subscriptionShare now delta w-walletShare now delta w) := by
    rw [benefitSources,planShares_cons rfl hv _ 0 h0.le,planShares_cons rfl hs _ 1 (by omega),
      planShares_cons rfl hp _ 2 (by omega)]
    rfl
  rw [hplan]
  refine ⟨?_,by simp [put],by simp [put],by simp [put]⟩
  simp only [walletShare,subscriptionShare,voucherShare]
  omega

theorem VoucherOk.settle {held : Int} (h : VoucherOk base r u g w held) (hheld : 0<held) (now : Int)
    (h0 : 0≤delta) (hle : delta≤BenefitVoucherFunding.capacity now w) :
    ∃ w', BenefitVoucherFunding.settle now delta w=(w',none) ∧ VoucherOnly w w' ∧
      balance w'.benefit=balance w.benefit-delta := by
  obtain ⟨-,-,havail⟩ := h.capacity now
  obtain ⟨db',hcall,hbalance⟩ := h.drawn.settle h.named (by rw [h.taken]; exact hheld) now h0 (by omega)
  obtain ⟨w',hbooked,honly,hdb,-⟩ := booked_ok h.down db' 0 delta
  refine ⟨w',?_,honly,hdb ▸ hbalance⟩
  rw [BenefitVoucherFunding.settle,h.requestID,hcall,hbooked]

variable {adjustments : Nat → Int}

theorem VoucherSide.settleUp (h : VoucherSide base r u g f.consumed f.world) {now : Int}
    (h0 : 0≤adjustments 0) (hle : adjustments 0≤BenefitVoucherFunding.capacity now f.world)
    (sources rest : List (FundingSource World)) :
    ∃ f' applied added, settleUp sources adjustments (voucherSource now::rest) 0 [] [] f =
        settleUp sources adjustments rest 1 applied added f' ∧
      f'.consumed=bump f.consumed 0 (adjustments 0) ∧ VoucherOnly f.world f'.world ∧
      balance f'.world.benefit=balance f.world.benefit-adjustments 0 := by
  have hnonneg := h.1.nonneg
  obtain hheld | hheld : f.consumed 0=0 ∨ 0<f.consumed 0 := by omega
  · obtain hz | hpos : adjustments 0=0 ∨ 0<adjustments 0 := by omega
    · -- nothing held, nothing to book
      refine ⟨f,[],[],settleUp_skip _ _ _ _ hz (.inl (by omega)),by rw [hz,bump_zero],
        ⟨rfl,rfl,rfl,rfl,rfl,rfl⟩,by rw [hz,Int.sub_zero]⟩
    · -- the reservation is opened first and then settled with no difference
      obtain ⟨hgo,hok⟩ := h.1.reserveUpTo now hpos
      obtain ⟨w1,hreserve⟩ := hgo hle
      obtain ⟨hok1,-⟩ := hok w1 hreserve
      have honly1 := voucherOnly_reserveUpTo hreserve
      have hcall : BenefitVoucherFunding.reserveAdditional now (adjustments 0) f.world=(w1,none) := by
        simp only [BenefitVoucherFunding.reserveAdditional,if_neg (Int.not_le.mpr hpos),h.1.down,Bool.false_eq_true,
          if_false,h.1.reserved,hreserve]
      obtain ⟨w2,hsettle,honly2,hbalance⟩ := hok1.settle (by omega) now (Int.le_refl 0) (voucher_capacity_nonneg now w1)
      have hopen : mustOpen (voucherSource now) (f.consumed 0) (adjustments 0)=true := by
        simp [mustOpen,hpos,hheld,voucherSource]
      refine ⟨_,_,_,settleUp_open _ _ _ _ hopen rfl hcall hsettle,rfl,honly1.trans honly2,?_⟩
      have hbalance1 := hok1.drawn.balance
      rw [hok1.taken] at hbalance1
      have hbalance0 := h.1.drawn.balance
      rw [h.1.taken] at hbalance0
      simp only [bookedAt]
      omega
  · obtain ⟨w',hsettle,honly,hbalance⟩ := h.1.settle hheld now h0 hle
    have hin : ¬ (adjustments 0=0 ∧ (f.consumed 0≤0 ∨ (voucherSource now).source≠.benefitVoucher)) := by
      rintro ⟨-,hle | hne⟩
      · omega
      · exact hne rfl
    have hopen : mustOpen (voucherSource now) (f.consumed 0) (adjustments 0)=false := by
      simp only [mustOpen,decide_eq_false_iff_not]
      omega
    exact ⟨_,_,_,settleUp_book _ _ _ _ hin hopen hsettle,rfl,honly,hbalance⟩

def BoundHasRoom (amount : Int) (w : World) : Prop :=
  0 < w.subscription.subscriptionId ∧ ∃ row, w.subs.sub? w.subscription.subscriptionId=some row ∧ hasRoom amount row=true

theorem postConsume_booked (hdown : w.down=false) (hok : TableOk w.subs) (h0 : 0<delta) (h : BoundHasRoom delta w) :
    ∃ subs, postConsumeSubscription delta w=({ w with subs := subs },none) ∧
      ∀ sid, used subs sid=used w.subs sid + if sid=w.subscription.subscriptionId then delta else 0 := by
  obtain ⟨hid,row,hrow,hroom⟩ := h
  have hpos := hok.nonneg row (Keyed.lookup_some hrow).1
  have hmax : max 0 (row.amountUsed+delta)=row.amountUsed+delta := by omega
  have hcall := postDelta_eq hrow hid (show delta≠0 by omega)
  simp only [hasRoom,Bool.not_eq_true',Bool.and_eq_false_iff,decide_eq_false_iff_not] at hroom
  rw [hmax,if_neg (by omega)] at hcall
  refine ⟨w.subs.updateSub w.subscription.subscriptionId (·.withUsed (row.amountUsed+delta)),?_,fun sid => ?_⟩
  · rw [postConsumeSubscription,if_neg (by omega),if_neg (by omega),if_neg (by simp [hdown]),hcall]
  rw [used_withUsed hrow]
  split
  next heq =>
    rw [heq,used_eq hrow]
  · omega

theorem postConsume_refused (hdown : w.down=false) (hok : TableOk w.subs) (h0 : 0<delta)
    (h : ¬ BoundHasRoom delta w) : ∃ err, postConsumeSubscription delta w=(w,some err) := by
  rw [postConsumeSubscription]
  split
  · exact ⟨_,rfl⟩
  rename_i hid
  rw [if_neg (by omega),if_neg (by simp [hdown])]
  cases hrow : w.subs.sub? w.subscription.subscriptionId with
  | none => simp [postConsumeUserSubscriptionDelta,hrow,hid,show delta≠0 by omega]
  | some row =>
    have hroom : hasRoom delta row=false := by
      cases hb : hasRoom delta row with
      | false => rfl
      | true => exact absurd ⟨by omega,row,hrow,hb⟩ h
    have hpos := hok.nonneg row (Keyed.lookup_some hrow).1
    simp only [hasRoom,Bool.not_eq_false',Bool.and_eq_true,decide_eq_true_eq] at hroom
    rw [postDelta_eq hrow (by omega) (show delta≠0 by omega),if_pos (show _ ∧ _ by omega)]
    exact ⟨_,rfl⟩

theorem subscription_settleUp (addDate : AddDate) (hdown : f.world.down=false) (hok : TableOk f.world.subs) (now : Int)
    (h0 : 0≤adjustments 1) (h : adjustments 1=0 ∨ BoundHasRoom (adjustments 1) f.world)
    (sources rest : List (FundingSource World)) (applied added : List Adjustment) :
    ∃ f' applied', settleUp sources adjustments (subscriptionSource addDate now::rest) 1 applied added f =
        settleUp sources adjustments rest 2 applied' added f' ∧
      f'.consumed=bump f.consumed 1 (adjustments 1) ∧ SubscriptionOnly f.world f'.world ∧ ∀ sid, used f'.world.subs sid =
        used f.world.subs sid + if sid=f.world.subscription.subscriptionId then adjustments 1 else 0 := by
  obtain hz | hpos : adjustments 1=0 ∨ 0<adjustments 1 := by omega
  · refine ⟨f,applied,settleUp_skip _ _ _ _ hz (.inr (by simp [subscriptionSource])),by rw [hz,bump_zero],
      SubscriptionOnly.refl f.world,fun sid => by simp [hz]⟩
  · obtain ⟨subs,hcall,hused⟩ := postConsume_booked hdown hok hpos (h.resolve_left (by omega))
    have hsettle : (subscriptionSource addDate now).settle (adjustments 1) f.world=({ f.world with subs := subs },none) := by
      change SubscriptionFunding.settle _ _=_
      rw [SubscriptionFunding.settle,if_neg (by omega),hcall]
    exact ⟨_,_,settleUp_book _ _ _ _ (by omega) (by simp [mustOpen,subscriptionSource]) hsettle,rfl,
      of_call (postConsume_only (adjustments 1) f.world) hcall,hused⟩

theorem subscription_settleUp_refused (hdown : f.world.down=false) (hok : TableOk f.world.subs) (now : Int)
    (h0 : 0<adjustments 1) (h : ¬ BoundHasRoom (adjustments 1) f.world)
    (sources rest : List (FundingSource World)) (applied added : List Adjustment) :
    (settleUp sources adjustments (subscriptionSource addDate now::rest) 1 applied added f).2≠[] := by
  obtain ⟨err,hcall⟩ := postConsume_refused hdown hok h0 h
  have hsettle : (subscriptionSource addDate now).settle (adjustments 1) f.world=(f.world,some err) := by
    change SubscriptionFunding.settle _ _=_
    rw [SubscriptionFunding.settle,if_neg (by omega),hcall]
  exact settleUp_refused _ _ _ _ (by omega) (by simp [mustOpen,subscriptionSource]) hsettle

theorem wallet_settleUp (hdown : f.world.down=false) (h0 : 0≤adjustments 2)
    (sources : List (FundingSource World)) (applied added : List Adjustment) :
    ∃ f', settleUp sources adjustments [walletSource] 2 applied added f=(f',[]) ∧
      f'.consumed=bump f.consumed 2 (adjustments 2) ∧ f'.world.benefit=f.world.benefit ∧
      f'.world.subs=f.world.subs ∧ f'.world.wallet=f.world.wallet-adjustments 2 := by
  obtain hz | hpos : adjustments 2=0 ∨ 0<adjustments 2 := by omega
  · refine ⟨f,settleUp_skip _ _ _ _ hz (.inr (by simp [walletSource])),by rw [hz,bump_zero],rfl,rfl,by omega⟩
  have hsettle : walletSource.settle (adjustments 2) f.world =
      ({ f.world with wallet := f.world.wallet-adjustments 2 },none) := by
    change WalletFunding.settle _ _=_
    rw [WalletFunding.settle,if_neg (by omega),if_pos hpos,decreaseUserQuota,if_neg (by omega), if_neg (by simp [hdown])]
  exact ⟨_,settleUp_book _ _ _ _ (by omega) (by simp [mustOpen,walletSource]) hsettle,rfl,rfl,rfl,rfl⟩

/-- The composite has grown by the difference, and each stored balance has moved by what the composite
booked on its source. -/
structure SettledBy (delta : Int) (f f' : CompositeFunding World) : Prop where
  consumed : ∑ j∈Finset.range 3, f'.consumed j = ∑ j∈Finset.range 3, f.consumed j+delta
  vouchers : balance f'.world.benefit=balance f.world.benefit-(f'.consumed 0-f.consumed 0)
  subscription : ∀ sid, used f'.world.subs sid=used f.world.subs sid +
    if sid=f.world.subscription.subscriptionId then f'.consumed 1-f.consumed 1 else 0
  wallet : f'.world.wallet=f.world.wallet-(f'.consumed 2-f.consumed 2)

def ShareFits (now delta : Int) (w : World) : Prop :=
  subscriptionShare now delta w=0 ∨ BoundHasRoom (subscriptionShare now delta w) w

theorem settleZero_benefit (h : VoucherSide base r u g f.consumed f.world) (now : Int) :
    ∃ w', settleZero (benefitSources addDate now) 0 f=({ f with world := w' },[]) ∧ VoucherOnly f.world w' ∧
      balance w'.benefit=balance f.world.benefit := by
  have hnonneg := h.1.nonneg
  have hrest : ∀ f : CompositeFunding World, settleZero [subscriptionSource addDate now,walletSource] 1 f=(f,[]) := by
    intro f
    simp [settleZero,subscriptionSource,walletSource]
  obtain hheld | hheld : f.consumed 0=0 ∨ 0<f.consumed 0 := by omega
  · refine ⟨f.world,?_,⟨rfl,rfl,rfl,rfl,rfl,rfl⟩,rfl⟩
    rw [benefitSources,settleZero,if_pos (.inl (by omega)),hrest]
  · obtain ⟨w',hsettle,honly,hbalance⟩ := h.1.settle hheld now (Int.le_refl 0) (voucher_capacity_nonneg now f.world)
    refine ⟨w',?_,honly,by rw [hbalance,Int.sub_zero]⟩
    have hin : ¬ (f.consumed 0≤0 ∨ (voucherSource now).source≠.benefitVoucher) := by
      rintro (hle | hne)
      · omega
      · exact hne rfl
    have hcall : (voucherSource now).settle 0 f.world=(w',none) := hsettle
    rw [benefitSources,settleZero,if_neg hin,hcall]
    exact hrest _

/-- A settlement within the reported capacity goes through exactly if the subscription's share fits on the subscription
that the source is bound to. -/
theorem settle_within_capacity_iff (h : Reached addDate f) (now : Int) {delta : Int} (h0 : 0≤delta)
    (hle : delta≤totalCapacity (benefitSources addDate now) f.world) : ((settle (benefitSources addDate now) delta f).2=[] ∧
      SettledBy delta f (settle (benefitSources addDate now) delta f).1) ↔ ShareFits now delta f.world := by
  obtain ⟨base,r,u,g,hside⟩ := h.side
  set f₀ : CompositeFunding World := { f with lastSettleDeltas := fun _ => 0 } with hf₀
  obtain rfl | hpos : delta=0 ∨ 0<delta := by omega
  · have hfits : ShareFits now 0 f.world := by
      have hv := voucher_capacity_nonneg now f.world
      have hs := subscription_capacity_nonneg now f.world
      refine .inl ?_
      simp only [subscriptionShare,voucherShare]
      omega
    obtain ⟨w',hzero,honly,hbalance⟩ := settleZero_benefit (f := f₀) hside now
    have hsettle : settle (benefitSources addDate now) 0 f=({ f₀ with world := w' },[]) := by
      rw [settle,if_pos rfl]
      exact hzero
    rw [hsettle]
    refine ⟨fun _ => hfits,fun _ => ⟨rfl,⟨by simp [hf₀],?_,fun sid => ?_,?_⟩⟩⟩
    · simpa [hf₀] using hbalance
    · simp [hf₀,honly.subs]
    · simp [hf₀,honly.wallet]
  · obtain ⟨hleft,hvoucher,hsubscription,hwallet⟩ := planShares_benefit now f.world hpos hle _ rfl
    have hv := voucher_capacity_nonneg now f.world
    have hs := subscription_capacity_nonneg now f.world
    have hp := wallet_capacity_nonneg f.world
    have hbounds : 0≤voucherShare now delta f.world ∧
        voucherShare now delta f.world≤BenefitVoucherFunding.capacity now f.world ∧
        0 ≤ subscriptionShare now delta f.world ∧ 0≤walletShare now delta f.world ∧
        voucherShare now delta f.world+subscriptionShare now delta f.world+walletShare now delta f.world=delta := by
      have hsum : delta≤BenefitVoucherFunding.capacity now f.world +
          (SubscriptionFunding.capacity now f.world+(WalletFunding.capacity f.world+0)) := hle
      simp only [walletShare,subscriptionShare,voucherShare]
      omega
    obtain ⟨hv0,hvle,hs0,hw0,hsum⟩ := hbounds
    set adjustments := (planShares f.world (benefitSources addDate now) 0 delta).1 with hadj
    have hsettle : settle (benefitSources addDate now) delta f = settleUp (benefitSources addDate now) adjustments
          [voucherSource now,subscriptionSource addDate now,walletSource] 0 [] [] f₀ := by
      rw [settle,if_neg (by omega),if_pos hpos]
      simp only
      rw [if_neg (by omega)]
      rfl
    rw [← hvoucher] at hv0 hvle hsum
    rw [← hsubscription] at hs0 hsum
    rw [← hwallet] at hw0 hsum
    obtain ⟨f₁,applied,added,hstep₁,hcons₁,honly₁,hbal₁⟩ := VoucherSide.settleUp (f := f₀) hside hv0 hvle
      (benefitSources addDate now) [subscriptionSource addDate now,walletSource]
    have hfits : ShareFits now delta f.world ↔ adjustments 1=0 ∨ BoundHasRoom (adjustments 1) f₁.world := by
      rw [ShareFits,← hsubscription,BoundHasRoom,BoundHasRoom,honly₁.subs,honly₁.subscription]
    have hdown₁ : f₁.world.down=false := honly₁.down.trans hside.1.down
    have htable₁ : TableOk f₁.world.subs := honly₁.subs ▸ hside.2
    rw [hsettle,hstep₁,hfits]
    constructor
    · rintro ⟨herrs,-⟩
      by_contra hno
      rw [not_or] at hno
      exact subscription_settleUp_refused hdown₁ htable₁ now (by omega) hno.2 _ _ _ _ herrs
    · intro hroom
      obtain ⟨f₂,applied₂,hstep₂,hcons₂,honly₂,hused₂⟩ := subscription_settleUp addDate hdown₁ htable₁ now
        hs0 hroom (benefitSources addDate now) [walletSource] applied added
      obtain ⟨f₃,hstep₃,hcons₃,hbenefit,hsubs,hpurse⟩ := wallet_settleUp (honly₂.aside.down.trans hdown₁) hw0
        (benefitSources addDate now) applied₂ added
      have hout := hstep₂.trans hstep₃
      have hcons : f₃.consumed=bump (bump (bump f.consumed 0 (adjustments 0)) 1 (adjustments 1)) 2 (adjustments 2) := by
        rw [hcons₃,hcons₂,hcons₁]
      have h0' : f₃.consumed 0=f.consumed 0+adjustments 0 := by simp [hcons,bump]
      have h1' : f₃.consumed 1=f.consumed 1+adjustments 1 := by simp [hcons,bump]
      have h2' : f₃.consumed 2=f.consumed 2+adjustments 2 := by simp [hcons,bump]
      rw [hout]
      refine ⟨rfl,⟨?_,?_,fun sid => ?_,?_⟩⟩
      · simp only [Finset.sum_range_succ,Finset.sum_range_zero,h0',h1',h2']
        omega
      · rw [hbenefit,honly₂.aside.benefit,hbal₁,h0']
        simp only [hf₀]
        omega
      · rw [hsubs,hused₂ sid,honly₁.subs,honly₁.subscription,h1']
        simp only [hf₀]
        split <;> omega
      · rw [hpurse,honly₂.wallet,honly₁.wallet,h2']
        simp only [hf₀]
        omega

def benefitExample : World where
  benefit := ⟨[1],[{ id := 1, groupId := 1, status := .published, startsAt := 0, endsAt := 1000 }],[],
    [{ id := 1, activityId := 1, userId := 1, originalQuota := 10, remainingQuota := 10, usedQuota := 0,
       status := .active, expiresAt := 1000 }],[]⟩
  subs := ⟨[{ id := 1, totalAmount := 100 }],
    [{ id := 1, userId := 1, planId := 1, amountTotal := 100, amountUsed := 0, startTime := 0, endTime := 1000,
       status := .active }],[]⟩
  wallet := 0
  token := 50
  voucher := { requestID := "r", userID := 1, groupID := 1 }
  subscription := { requestId := "r:subscription", userId := 1 }
  purse := { userId := 1 }

theorem benefitExample_starting : Starting benefitExample where
  up := rfl
  vouchers := by simp [Keyed.Unique,benefitExample]
  ledger := by simp [Keyed.Unique,benefitExample]
  fresh _ _ := rfl
  named := by decide +kernel
  known := by decide
  unreserved := rfl
  table := ⟨by simp [Keyed.Unique,benefitExample],by decide⟩

def sameDate : AddDate := fun start _ _ _ => start

def preConsumed (amount : Int) : CompositeFunding World :=
  (preConsume (benefitSources sameDate 10) amount (newCompositeFunding benefitExample)).1

theorem settle_within_capacity_bound : Reached sameDate (preConsumed 15) ∧
      (settle (benefitSources sameDate 10) 20 (preConsumed 15)).2=[] ∧
      SettledBy 20 (preConsumed 15) (settle (benefitSources sameDate 10) 20 (preConsumed 15)).1 := by
  have hreached : Reached sameDate (preConsumed 15) := .preConsume 10 15 benefitExample_starting (by decide +kernel)
  refine ⟨hreached,(settle_within_capacity_iff hreached 10 (by decide) (by decide +kernel)).mpr (.inr ⟨?_,?_⟩)⟩
  · decide +kernel
  exact ⟨{ id := 1, userId := 1, planId := 1, amountTotal := 100, amountUsed := 5, startTime := 0, endTime := 1000,
           status := .active },by decide +kernel,by decide +kernel⟩

theorem unbound_subscription_refuses :
    Reached sameDate (preConsumed 5) ∧ 20≤totalCapacity (benefitSources sameDate 10) (preConsumed 5).world ∧
      (settle (benefitSources sameDate 10) 20 (preConsumed 5)).2 = [.message "invalid userSubscriptionId"] :=
  ⟨.preConsume 10 5 benefitExample_starting (by decide +kernel),by decide +kernel,by decide +kernel⟩

end NewApi.Billing
