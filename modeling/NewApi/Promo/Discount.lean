import Mathlib.Data.Rat.Floor
import Mathlib.Tactic.Linarith
import Mathlib.Tactic.Positivity
import NewApi.Payment.Model

/-! The discount of a promo code: `calculatePromoCodeDiscountTx` of `model/promo_code.go`, and the wallet quota that
`PurchaseSubscriptionWithBalance` takes for a plan with a code and without one. -/
namespace NewApi.Promo
open Int Runs GoStrings Payment
variable (upper : Char → Char) (db : PromoDB) (orders : OrderTables) (code : String)

/-- `decimal.Round`: half away from zero. -/
def roundPlaces (places : Nat) (d : Rat) : Rat := (roundDecimal (d*10 ^ places) : Rat) / 10 ^ places

/-- `decimal.Div`, to the `DivisionPrecision` of the package. -/
def divDecimal (a b : Rat) : Rat := roundPlaces 16 (a / b)

inductive DiscountError where
  | originalNegative | unknownCode | quotaOutOfRange | quotaUnitInvalid | walletRange
  | promo (e : PromoError)
  deriving DecidableEq

structure PromoCodeDiscountResult where
  promoCodeId : Int
  code : String
  name : String
  discountType : DiscountType
  discountValue : Int
  originalAmount : Rat
  discountAmount : Rat
  paidAmount : Rat
  actualPaidQuota : Int

/-- The first half of `calculatePromoCodeDiscountTx`: the row of the code and the checks on it. -/
def usablePromoTx (target : OrderKind) (planId now : Int) :
    Except DiscountError (PromoDB×PromoCode) :=
  match db.promos.find? fun p => decide (p.code=code ∧ p.deleted=false) with
  | none => .error .unknownCode
  | some promo =>
    let (db,promo) := reclaimExpiredPromoReservationsTx db orders promo now
    if promo.status≠.enabled then .error (.promo .unavailable)
    else if promo.expiredTime≠0 ∧ promo.expiredTime<now then .error (.promo .expired)
    else if promo.maxRedeemCount>0 ∧ promo.redeemedCount+promo.reservedCount≥promo.maxRedeemCount then
      .error (.promo .limitReached)
    else if promoAppliesToTarget promo target planId=false then .error (.promo .notApplicable)
    else .ok (db,promo)

/-- The discount before it is clamped and rounded to cents. -/
def PromoCode.discount (promo : PromoCode) (quotaPerUnit original : Rat) : Rat :=
  match promo.discountType with
  | .percent => divDecimal (original*promo.discountValue) 100
  | .fixed => divDecimal promo.discountValue quotaPerUnit

def discountResult (promo : PromoCode) (quotaPerUnit original : Rat) : Except DiscountError PromoCodeDiscountResult :=
  let discount := roundPlaces 2 (min (max (promo.discount quotaPerUnit original) 0) original)
  let paid := max (roundPlaces 2 (original-discount)) 0
  match walletQuotaFromDecimalStrict (paid*quotaPerUnit) with
  | none => .error .quotaOutOfRange
  | some quota =>
    .ok { promoCodeId := promo.id, code := promo.code, name := promo.name, discountType := promo.discountType
          discountValue := promo.discountValue, originalAmount := roundPlaces 2 original, discountAmount := discount
          paidAmount := paid, actualPaidQuota := quota }

def calculatePromoCodeDiscountTx (target : OrderKind)
    (planId : Int) (quotaPerUnit original : Rat) (now : Int) :
    Except DiscountError (PromoDB×Option PromoCodeDiscountResult) :=
  let code := toUpper upper (trimSpace code)
  if code="" then .ok (db,none)
  else if original<0 then .error .originalNegative else
  (usablePromoTx db orders code target planId now).bind fun (db,promo) =>
  (discountResult promo quotaPerUnit original).map fun result => (db,some result)

def calcSubscriptionBalanceQuota (quotaPerUnit price : Rat) : Except DiscountError Int :=
  if price≤0 then .ok 0
  else if quotaPerUnit≤0 then .error .quotaUnitInvalid else
  match walletQuotaFromDecimalStrict ⌈price*quotaPerUnit⌉ with
  | none => .error .walletRange
  | some quota => .ok quota

def requiredQuota (planId : Int) (quotaPerUnit price : Rat)
    (now : Int) : Except DiscountError (PromoDB×Int) :=
  (calcSubscriptionBalanceQuota quotaPerUnit price).bind fun required =>
  (calculatePromoCodeDiscountTx upper db orders code .subscription planId quotaPerUnit price now).map fun (db,discount) =>
  (db,(discount.map (·.actualPaidQuota)).getD required)

structure PromoCode.Valid (promo : PromoCode) : Prop where
  positive : 0<promo.discountValue
  percent : promo.discountType=.percent → promo.discountValue≤100

section Rounding
variable {d e : Rat} {n : Int}

section
variable (hd : 0≤d)
include hd

theorem roundDecimal_nonneg_eq : roundDecimal d = ⌊d+1 / 2⌋ := if_pos hd

theorem roundDecimal_le_iff : roundDecimal d≤n ↔ d<n+1 / 2 := by
  rw [roundDecimal_nonneg_eq hd,floor_le_iff]
  constructor <;> intro h <;> linarith

theorem le_roundDecimal_iff : n≤roundDecimal d ↔ (n : Rat)≤d+1 / 2 := by
  rw [roundDecimal_nonneg_eq hd,le_floor]

theorem roundDecimal_nonneg : 0≤roundDecimal d := by
  rw [le_roundDecimal_iff hd]
  push_cast
  linarith

theorem roundDecimal_mono (hle : d≤e) : roundDecimal d≤roundDecimal e := by
  rw [roundDecimal_nonneg_eq hd,roundDecimal_nonneg_eq (hd.trans hle)]
  exact floor_le_floor (by linarith)

end

theorem roundDecimal_intCast (n : Int) (hn : 0≤n) : roundDecimal n=n := by
  have hn' : (0 : Rat)≤n := by exact_mod_cast hn
  apply le_antisymm
  · rw [roundDecimal_le_iff hn']
    linarith
  · rw [le_roundDecimal_iff hn']
    linarith

theorem roundDecimal_sub (hd : 0≤d) (hn : n≤roundDecimal d) : max (roundDecimal (d-n)) 0=roundDecimal d-n := by
  rcases le_or_gt (n : Rat) d with hle | hlt
  · have hsub : (0 : Rat)≤d-n := by linarith
    have hshift : roundDecimal (d-n)=roundDecimal d-n := by
      rw [roundDecimal_nonneg_eq hsub,roundDecimal_nonneg_eq hd,← floor_sub_intCast]
      congr 1
      ring
    rw [hshift]
    omega
  · have hle : roundDecimal d≤n := (roundDecimal_le_iff hd).mpr (by linarith)
    have hneg : roundDecimal (d-n)≤0 := by
      have hfloor : 0 ≤ ⌊-(d-n)+1 / 2⌋ := floor_nonneg.mpr (by linarith)
      rw [roundDecimal,if_neg (by linarith)]
      exact Int.neg_nonpos_of_nonneg hfloor
    omega

end Rounding

theorem walletQuota_some {d : Rat} {q : Int} : walletQuotaFromDecimalStrict d=some q ↔
    roundDecimal d=q ∧ q≤Affiliate.maxWalletQuota ∧ minWalletQuota≤q := by
  unfold walletQuotaFromDecimalStrict
  split <;> simp only [reduceCtorEq,Option.some.injEq,false_iff] <;> omega

section Discount
variable {upper : Char → Char} {db db' : PromoDB} {orders : OrderTables} {code : String} {planId now : Int} {promo : PromoCode}
variable {unit price : Rat} {quota : Int}

def PromoCode.exactDiscount (promo : PromoCode) (unit price : Rat) : Rat :=
  match promo.discountType with
  | .percent => price*promo.discountValue / 100
  | .fixed => promo.discountValue / unit

theorem discount_eq : promo.discount unit price=roundPlaces 16 (promo.exactDiscount unit price) := by
  unfold PromoCode.discount PromoCode.exactDiscount divDecimal
  cases promo.discountType <;> rfl

theorem exactDiscount_nonneg (hv : promo.Valid) (hp : 0<price) (hQ : 0<unit) : 0≤promo.exactDiscount unit price := by
  have hpos : (0 : Rat)<promo.discountValue := by exact_mod_cast hv.positive
  unfold PromoCode.exactDiscount
  cases promo.discountType <;> positivity

def PromoCode.cents (promo : PromoCode) (unit price : Rat) : Int :=
  roundDecimal (min (max (promo.discount unit price) 0) price*10 ^ 2)

def PromoCode.paidCents (promo : PromoCode) (unit price : Rat) : Int :=
  roundDecimal (price*10 ^ 2)-promo.cents unit price

theorem cents_nonneg (promo : PromoCode) (unit : Rat) (hp : 0<price) :
    0≤promo.cents unit price ∧ 0≤promo.paidCents unit price := by
  have hclamp : 0 ≤ min (max (promo.discount unit price) 0) price := le_min (le_max_right _ _) hp.le
  have hscaled : 0 ≤ min (max (promo.discount unit price) 0) price*10 ^ 2 := by positivity
  refine ⟨roundDecimal_nonneg hscaled,Int.sub_nonneg.mpr (roundDecimal_mono hscaled ?_)⟩
  exact mul_le_mul_of_nonneg_right (min_le_right _ _) (by norm_num)

theorem paidCents_cast : (promo.paidCents unit price : Rat)=roundPlaces 2 price*10 ^ 2-promo.cents unit price := by
  rw [PromoCode.paidCents,roundPlaces]
  push_cast
  ring

theorem cents_le_zero_iff (hv : promo.Valid) (hp : 0<price) (hQ : 0<unit) :
    promo.cents unit price≤0 ↔ promo.exactDiscount unit price<1 / 200-1 / (2*10 ^ 16) ∨ price<1 / 200 := by
  have hexact := exactDiscount_nonneg hv hp hQ
  have hscaled : 0≤promo.exactDiscount unit price*10 ^ 16 := by positivity
  have hnonneg : 0≤promo.discount unit price := by
    have hcast : (0 : Rat)≤roundDecimal (promo.exactDiscount unit price*10 ^ 16) := by
      exact_mod_cast roundDecimal_nonneg hscaled
    rw [discount_eq,roundPlaces]
    positivity
  have hdiscount : promo.discount unit price<1 / 200 ↔ promo.exactDiscount unit price<1 / 200-1 / (2*10 ^ 16) := by
    have hround := roundDecimal_le_iff (n := 5*10 ^ 13-1) hscaled
    have hcast : (roundDecimal (promo.exactDiscount unit price*10 ^ 16) : Rat)<5*10 ^ 13 ↔
        roundDecimal (promo.exactDiscount unit price*10 ^ 16)≤5*10 ^ 13-1 := by
      rw [le_sub_one_iff]
      exact_mod_cast Iff.rfl
    rw [discount_eq,roundPlaces,div_lt_iff₀ (by norm_num)]
    norm_num at hround hcast ⊢
    rw [hcast,hround]
    constructor <;> intro h <;> linarith
  have hclamp : 0 ≤ min (max (promo.discount unit price) 0) price*10 ^ 2 := by positivity
  rw [PromoCode.cents,roundDecimal_le_iff hclamp,max_eq_left hnonneg,← hdiscount,← lt_div_iff₀ (by norm_num)]
  norm_num

theorem paid_quota_le_iff (hv : promo.Valid) (hp : 0<price) (hQ : 0<unit) :
    roundDecimal (promo.paidCents unit price / 10 ^ 2*unit) ≤ ⌈price*unit⌉ ↔
      (promo.exactDiscount unit price<1 / 200-1 / (2*10 ^ 16) → roundDecimal (roundPlaces 2 price*unit) ≤ ⌈price*unit⌉) := by
  obtain ⟨hlow,hpaid⟩ := cents_nonneg promo unit hp
  have hzero := cents_le_zero_iff hv hp hQ
  rcases hlow.eq_or_lt with hnone | hsome
  · have hall : (promo.paidCents unit price : Rat) / 10 ^ 2=roundPlaces 2 price := by
      rw [paidCents_cast,← hnone]
      norm_num
    rw [hall]
    refine ⟨fun h _ => h,fun h => ?_⟩
    rcases hzero.mp hnone.ge with hsmall | hprice
    · exact h hsmall
    have hcents : roundDecimal (price*10 ^ 2)≤0 := by
      rw [roundDecimal_le_iff (by positivity)]
      norm_num
      linarith
    have hround : roundPlaces 2 price=0 := by
      rw [roundPlaces,le_antisymm hcents (roundDecimal_nonneg (by positivity))]
      norm_num
    rw [hround,zero_mul,show roundDecimal 0=0 from by decide +kernel]
    exact ceil_nonneg (by positivity)
  · refine ⟨fun _ h => absurd (hzero.mpr (.inl h)) hsome.not_ge,fun _ => ?_⟩
    have hprice : (promo.paidCents unit price : Rat) / 10 ^ 2≤price := by
      have hround := (le_roundDecimal_iff (d := price*10 ^ 2) (by positivity)).mp le_rfl
      have hone : (1 : Rat)≤promo.cents unit price := by exact_mod_cast hsome
      rw [div_le_iff₀ (by norm_num),PromoCode.paidCents]
      push_cast
      norm_num at hround ⊢
      linarith
    have hcast : (0 : Rat)≤promo.paidCents unit price := by exact_mod_cast hpaid
    rw [roundDecimal_le_iff (by positivity)]
    have hmul := mul_le_mul_of_nonneg_right hprice hQ.le
    have hceil := le_ceil (price*unit)
    linarith

theorem discountResult_eq (hp : 0<price) : discountResult promo unit price =
    match walletQuotaFromDecimalStrict (promo.paidCents unit price / 10 ^ 2*unit) with
    | none => .error .quotaOutOfRange
    | some quota =>
      .ok { promoCodeId := promo.id, code := promo.code, name := promo.name, discountType := promo.discountType
            discountValue := promo.discountValue, originalAmount := roundPlaces 2 price
            discountAmount := promo.cents unit price / 10 ^ 2, paidAmount := promo.paidCents unit price / 10 ^ 2
            actualPaidQuota := quota } := by
  have hscaled : (price-promo.cents unit price / 10 ^ 2)*10 ^ 2=price*10 ^ 2-promo.cents unit price := by ring
  have hsub := roundDecimal_sub (d := price*10 ^ 2) (by positivity) (Int.sub_nonneg.mp (cents_nonneg promo unit hp).2)
  have hpaid : max (roundPlaces 2 (price-promo.cents unit price / 10 ^ 2)) 0=promo.paidCents unit price / 10 ^ 2 := by
    rw [PromoCode.paidCents,roundPlaces,hscaled,← hsub,cast_max,cast_zero, ← max_div_div_right (by norm_num),zero_div]
  rw [← hpaid]
  rfl

def PromoCodeDiscountResult.Splits (result : PromoCodeDiscountResult) (price : Rat) : Prop :=
  result.discountAmount+result.paidAmount=roundPlaces 2 price ∧ 0≤result.discountAmount ∧ 0≤result.paidAmount

theorem discountResult_splits {result : PromoCodeDiscountResult} (hp : 0<price)
    (h : discountResult promo unit price=.ok result) : result.Splits price := by
  obtain ⟨hlow,hpaid⟩ := cents_nonneg promo unit hp
  have hlow' : (0 : Rat)≤promo.cents unit price := by exact_mod_cast hlow
  have hpaid' : (0 : Rat)≤promo.paidCents unit price := by exact_mod_cast hpaid
  rw [discountResult_eq hp] at h
  split at h
  · exact absurd h (by simp)
  obtain rfl := Except.ok.inj h
  refine ⟨?_,by positivity,by positivity⟩
  rw [paidCents_cast]
  ring

theorem calcSubscriptionBalanceQuota_ok (hp : 0<price) (hQ : 0<unit) :
    calcSubscriptionBalanceQuota unit price=.ok quota ↔ ⌈price*unit⌉ = quota ∧ quota≤Affiliate.maxWalletQuota := by
  have hceil : (0 : Int) ≤ ⌈price*unit⌉ := ceil_nonneg (by positivity)
  have hwallet := walletQuota_some (d := ⌈price*unit⌉) (q := quota)
  have hmin : minWalletQuota≤0 := by decide +kernel
  rw [roundDecimal_intCast _ hceil] at hwallet
  rw [calcSubscriptionBalanceQuota,if_neg hp.not_ge,if_neg hQ.not_ge]
  cases hq : walletQuotaFromDecimalStrict ⌈price*unit⌉ with
  | none =>
    simp only [hq,reduceCtorEq,false_iff,not_and] at hwallet ⊢
    exact fun heq hle => hwallet heq hle (by omega)
  | some q =>
    simp only [hq,Option.some.injEq,Except.ok.injEq] at hwallet ⊢
    rw [hwallet]
    exact ⟨fun h => ⟨h.1,h.2.1⟩,fun h => ⟨h.1,h.2,by omega⟩⟩

theorem discount_splits {target : OrderKind} {out : PromoDB} {result : PromoCodeDiscountResult} (hp : 0<price)
    (h : calculatePromoCodeDiscountTx upper db orders code target planId unit price now=.ok (out,some result)) :
    result.Splits price := by
  rw [calculatePromoCodeDiscountTx] at h
  split at h
  · simp at h
  rw [if_neg hp.not_gt] at h
  cases hu : usablePromoTx db orders (toUpper upper (trimSpace code)) target planId now with
  | error e => simp [hu,Except.bind] at h
  | ok found =>
    cases hr : discountResult found.2 unit price with
    | error e => simp [hu,hr,Except.bind,Except.map] at h
    | ok r =>
      simp only [hu,hr,Except.bind,Except.map,Except.ok.injEq,Prod.mk.injEq,Option.some.injEq] at h
      exact h.2 ▸ discountResult_splits hp hr

theorem charged_le_iff (hp : 0<price) (hQ : 0<unit) (hcode : toUpper upper (trimSpace code)≠"")
    (husable : usablePromoTx db orders (toUpper upper (trimSpace code)) .subscription planId now=.ok (db',promo))
    (hquota : calcSubscriptionBalanceQuota unit price=.ok quota) :
    (∃ charged≤quota, requiredQuota upper db orders code planId unit price now=.ok (db',charged)) ↔
      roundDecimal (promo.paidCents unit price / 10 ^ 2*unit) ≤ ⌈price*unit⌉ := by
  obtain ⟨rfl,hmax⟩ := (calcSubscriptionBalanceQuota_ok hp hQ).mp hquota
  rw [requiredQuota,hquota,calculatePromoCodeDiscountTx,if_neg hcode,if_neg hp.not_gt,husable]
  simp only [Except.bind,discountResult_eq hp]
  constructor
  · rintro ⟨charged,hle,h⟩
    split at h
    · exact absurd h (by simp [Except.map])
    next hwallet =>
    simp only [Except.map,Option.map,Option.getD,Except.ok.injEq,Prod.mk.injEq,true_and] at h
    rw [(walletQuota_some.mp hwallet).1,h]
    exact hle
  · intro hle
    have hpaid : (0 : Rat)≤promo.paidCents unit price := by exact_mod_cast (cents_nonneg promo unit hp).2
    have hnonneg := roundDecimal_nonneg (d := promo.paidCents unit price / 10 ^ 2*unit) (by positivity)
    have hmin : minWalletQuota≤0 := by decide +kernel
    refine ⟨_,hle,?_⟩
    rw [walletQuota_some.mpr ⟨rfl,hle.trans hmax,hmin.trans hnonneg⟩]
    rfl

/-- Where the plain price has a quota, the code keeps it exactly when it takes off a cent at least, or the price itself
does not round up past it. -/
theorem promo_code_lowers_iff (hp : 0<price) (hQ : 0<unit) (hcode : toUpper upper (trimSpace code)≠"") (hv : promo.Valid)
    (husable : usablePromoTx db orders (toUpper upper (trimSpace code)) .subscription planId now=.ok (db',promo)) :
    ((∀ target out result, calculatePromoCodeDiscountTx upper db orders code target planId unit price now =
        .ok (out,some result) → result.Splits price) ∧ ∀ quota, calcSubscriptionBalanceQuota unit price=.ok quota →
        ∃ charged≤quota, requiredQuota upper db orders code planId unit price now=.ok (db',charged)) ↔
    (⌈price*unit⌉ ≤ Affiliate.maxWalletQuota → promo.exactDiscount unit price<1 / 200-1 / (2*10 ^ 16) →
        roundDecimal (roundPlaces 2 price*unit) ≤ ⌈price*unit⌉) := by
  rw [← paid_quota_le_iff hv hp hQ,and_iff_right fun _ _ _ h => discount_splits hp h]
  constructor
  · intro h hmax
    have hquota := (calcSubscriptionBalanceQuota_ok hp hQ).mpr ⟨rfl,hmax⟩
    exact (charged_le_iff hp hQ hcode husable hquota).mp (h _ hquota)
  · intro h quota hquota
    obtain ⟨rfl,hmax⟩ := (calcSubscriptionBalanceQuota_ok hp hQ).mp hquota
    exact (charged_le_iff hp hQ hcode husable hquota).mpr (h hmax)

end Discount

def tenPercent : PromoCode := { id := 1, code := "TEN", discountValue := 10, appliesToAllSubscription := true }

theorem promo_code_lowers_ten :
    ((∀ target out result, calculatePromoCodeDiscountTx Char.toUpper { promos := [tenPercent] } {} " ten" target 3 500000 (999 / 100) 0 =
        .ok (out,some result) → result.Splits (999 / 100)) ∧
      ∀ quota, calcSubscriptionBalanceQuota 500000 (999 / 100)=.ok quota → ∃ charged≤quota,
        requiredQuota Char.toUpper { promos := [tenPercent] } {} " ten" 3 500000 (999 / 100) 0=.ok ({ promos := [tenPercent] },charged)) :=
  have hcode : toUpper Char.toUpper (trimSpace " ten")="TEN" := by decide +kernel
  have husable : usablePromoTx { promos := [tenPercent] } {} (toUpper Char.toUpper (trimSpace " ten")) .subscription 3 0 =
      .ok ({ promos := [tenPercent] },tenPercent) := by rw [hcode]; rfl
  (promo_code_lowers_iff (by norm_num) (by norm_num) (by rw [hcode]; decide) ⟨by decide,by decide⟩ husable).mpr
    fun _ h => by norm_num [PromoCode.exactDiscount,tenPercent] at h

def onePercent : PromoCode := { id := 1, code := "ONE", appliesToAllSubscription := true }

theorem half_cent_doubled :
    ¬ ∀ quota, calcSubscriptionBalanceQuota 500000 (1 / 200)=.ok quota → ∃ charged≤quota,
      requiredQuota Char.toUpper { promos := [onePercent] } {} "one" 3 500000 (1 / 200) 0=.ok ({ promos := [onePercent] },charged) := by
  intro h
  have hcode : toUpper Char.toUpper (trimSpace "one")="ONE" := by decide +kernel
  have husable : usablePromoTx { promos := [onePercent] } {} (toUpper Char.toUpper (trimSpace "one")) .subscription 3 0 =
      .ok ({ promos := [onePercent] },onePercent) := by rw [hcode]; rfl
  have hquota : calcSubscriptionBalanceQuota 500000 (1 / 200)=.ok 2500 := by decide +kernel
  have hle := (charged_le_iff (by norm_num) (by norm_num) (by rw [hcode]; decide) husable hquota).mp (h _ hquota)
  exact absurd hle (by decide +kernel)

end NewApi.Promo
