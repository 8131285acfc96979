import NewApi.Activity.Split

/-! A split that passes the feasibility checks goes through: the shares keep to the range and use up the budget
whatever is drawn, and no value on the way leaves the range of an `int64`. -/
namespace NewApi.Activity
open Int List Voucher

def FitsInt64 (v : Int) : Prop := -maxInt64-1≤v ∧ v ≤ maxInt64

namespace BenefitShareSplitInput
variable (input : BenefitShareSplitInput)

def inQuota : Prop := input.totalQuota>0 ∧ (input.fixedQuota>0 ∨ input.minQuota>0 ∨ input.maxQuota>0)

instance : Decidable input.inQuota := inferInstanceAs (Decidable (_ ∧ _))

def total : Int := if input.inQuota then input.totalQuota else input.totalAmountCents

def measure (share : BenefitShareAllocation) : Int := if input.inQuota then share.quota else share.amountCents

def least : Int := match input.mode with
  | .fixed => if input.inQuota then input.fixedQuota else input.fixedAmountCents
  | _ => if input.inQuota then input.minQuota else input.minAmountCents

def most : Int := match input.mode with
  | .fixed => if input.inQuota then input.fixedQuota else input.fixedAmountCents
  | _ => if input.inQuota then input.maxQuota else input.maxAmountCents

structure Feasible : Prop where
  mode : input.mode=.fixed ∨ input.mode=.random
  count : 1 ≤ input.totalCount
  positive : 0 < input.least
  order : input.least ≤ input.most
  lower : input.least*input.totalCount ≤ input.total
  upper : input.total ≤ input.most*input.totalCount
  fits : input.most*input.totalCount ≤ maxInt64
  quotaPerCent : ¬ input.inQuota → 0 < input.quotaPerCent

end BenefitShareSplitInput

/-- A turn of the loop over the slots: the arguments of `randomBalancedAddition` and what it returned. -/
structure SlotCall where
  remaining : Int
  slots : Int
  lower : Int
  upper : Int
  addition : Int

def SlotCall.range (c : SlotCall) : Int×Int := balancedRange c.remaining c.slots c.lower c.upper

def SlotCall.argument? (c : SlotCall) : Option Int :=
  if c.slots≠1 ∧ c.range.2-c.range.1>0 then some (c.range.2-c.range.1+1) else none

def SlotCall.values (c : SlotCall) (capacity : Int) : List Int :=
  let average := c.remaining.tdiv c.slots
  let average := if average<c.lower then c.lower else average
  let average := if average>c.upper then c.upper else average
  let spread := c.upper-c.lower
  let spread₁ := if average-c.lower<spread.tdiv 2 then 2*(average-c.lower) else spread
  let spread₂ := if c.upper-average<spread₁.tdiv 2 then 2*(c.upper-average) else spread₁
  [(c.slots-1)*capacity,c.remaining-(c.slots-1)*capacity,(c.slots-1)*c.upper,
    c.upper+(c.slots-1)*c.upper,average,spread,spread₁,spread₂,average-spread₂.tdiv 2,
    average+(spread₂-spread₂.tdiv 2),c.range.2-c.range.1,c.range.2-c.range.1+1,c.addition,
    c.remaining-c.addition]

def slotCalls (draws : Nat → Nat) (capacity : Int) : Nat → Nat → Int → List SlotCall
  | 0, _, _ => []
  | slots+1, index, remaining =>
    let minimumAddition := remaining-slots*capacity
    let minimumAddition := if minimumAddition<0 then 0 else minimumAddition
    let maximumAddition := if remaining<capacity then remaining else capacity
    match randomBalancedAddition remaining (slots+1) minimumAddition maximumAddition (draws index) with
    | .error _ => []
    | .ok addition =>
      ⟨remaining,slots+1,minimumAddition,maximumAddition,addition⟩ ::
        slotCalls draws capacity slots (index+1) (remaining-addition)

structure SlotCall.Safe (c : SlotCall) (capacity : Int) : Prop where
  values : ∀ v∈c.values capacity, FitsInt64 v
  argument : ∀ n∈c.argument?, 0<n ∧ n ≤ maxInt64

section Slots
variable {remaining slots capacity lower upper : Int}

theorem clamped_bounds (hle : lower≤upper) (average : Int) :
    ∃ a, (if (if average<lower then lower else average)>upper then upper else if average<lower then lower else average)=a ∧
      lower≤a ∧ a≤upper := by
  refine ⟨_,rfl,?_⟩
  split <;> split at * <;> omega

theorem narrowed_bounds {spread room : Int} (hspread : 0 ≤ spread) (hroom : 0≤room) :
    ∃ s, (if room<spread.tdiv 2 then 2*room else spread)=s ∧ 0≤ s ∧ s ≤ spread ∧ s.tdiv 2≤room := by
  refine ⟨_,rfl,?_⟩
  rw [tdiv_eq_ediv_of_nonneg hspread]
  split
  · rw [tdiv_eq_ediv_of_nonneg (by omega)]
    omega
  · rw [tdiv_eq_ediv_of_nonneg hspread]
    omega

theorem balancedRange_bounds (hle : lower≤upper) (remaining slots : Int) :
    ∀ r, balancedRange remaining slots lower upper=r → lower≤r.1 ∧ r.1≤upper ∧ lower≤r.2 ∧ r.2≤upper := by
  rintro _ rfl
  unfold balancedRange
  dsimp only
  obtain ⟨average,haverage,hlow,hhigh⟩ := clamped_bounds hle (remaining.tdiv slots)
  obtain ⟨spread1,hnarrow1,hspread1,-⟩ := narrowed_bounds (show 0≤upper-lower by omega) (show 0≤average-lower by omega)
  obtain ⟨spread2,hnarrow2,hspread2,-⟩ := narrowed_bounds hspread1 (show 0≤upper-average by omega)
  rw [haverage,hnarrow1,hnarrow2,tdiv_eq_ediv_of_nonneg hspread2]
  refine ⟨?_,?_,?_,?_⟩ <;> split <;> omega

theorem SlotCall.safe {c : SlotCall} (hslots : 1≤c.slots) (hlower : 0≤c.lower) (hle : c.lower≤c.upper)
    (hupper : c.upper≤capacity) (hremaining : c.upper≤c.remaining) (hcapacity : capacity < maxInt64)
    (hfits : c.slots*capacity ≤ maxInt64) (hmost : c.remaining≤c.slots*capacity)
    (haddition : c.lower≤c.addition ∧ c.addition≤c.upper) : c.Safe capacity := by
  have hrest : (c.slots-1)*capacity=c.slots*capacity-capacity := by rw [Int.sub_mul,Int.one_mul]
  have hrest0 : 0≤(c.slots-1)*capacity := Int.mul_nonneg (by omega) (by omega)
  have hupper0 : 0≤(c.slots-1)*c.upper := Int.mul_nonneg (by omega) (by omega)
  have hupper1 : (c.slots-1)*c.upper≤(c.slots-1)*capacity := Int.mul_le_mul_of_nonneg_left hupper (by omega)
  obtain ⟨hlow1,hlow2,hhigh1,hhigh2⟩ := balancedRange_bounds hle c.remaining c.slots _ rfl
  change c.lower≤c.range.1 at hlow1
  change c.range.1≤c.upper at hlow2
  change c.lower≤c.range.2 at hhigh1
  change c.range.2≤c.upper at hhigh2
  refine ⟨?_,fun n hn => ?_⟩
  · unfold SlotCall.values
    dsimp only
    obtain ⟨average,haverage,hlow,hhigh⟩ := clamped_bounds hle (c.remaining.tdiv c.slots)
    obtain ⟨spread1,hnarrow1,hspread1,hle1,-⟩ :=
      narrowed_bounds (show 0≤c.upper-c.lower by omega) (show 0≤average-c.lower by omega)
    obtain ⟨spread2,hnarrow2,hspread2,hle2,hhalf⟩ := narrowed_bounds hspread1 (show 0≤c.upper-average by omega)
    rw [haverage,hnarrow1,hnarrow2]
    rw [tdiv_eq_ediv_of_nonneg hspread2] at hhalf ⊢
    have hmax : maxInt64=9223372036854775807 := rfl
    unfold FitsInt64
    intro v hv
    simp only [mem_cons,not_mem_nil,or_false] at hv
    obtain rfl | rfl | rfl | rfl | rfl | rfl | rfl | rfl | rfl | rfl | rfl | rfl | rfl | rfl := hv <;> omega
  · unfold SlotCall.argument? at hn
    split at hn
    · obtain rfl := Option.some.inj hn
      omega
    · cases hn

theorem randomBalancedAddition_ok (hslots : 1 ≤ slots) (hlower : 0≤lower) (hle : lower≤upper) (hupper : upper≤remaining)
    (hmost : remaining ≤ slots*upper) (hmax : upper < maxInt64) (draw : Nat) :
    ∃ addition, randomBalancedAddition remaining slots lower upper draw=.ok addition ∧ lower≤addition ∧ addition≤upper := by
  have hrest : upper+(slots-1)*upper=slots*upper := by
    rw [Int.sub_mul,Int.one_mul]
    omega
  obtain ⟨hlow1,hlow2,-,hhigh⟩ := balancedRange_bounds hle remaining slots _ rfl
  unfold randomBalancedAddition
  rw [if_neg (by omega)]
  split
  next hone =>
    rw [hone,Int.one_mul] at hmost
    rw [if_neg (by omega)]
    exact ⟨remaining,rfl,by omega,hmost⟩
  generalize balancedRange remaining slots lower upper=range at hlow1 hlow2 hhigh ⊢
  obtain ⟨low,high⟩ := range
  dsimp only at hlow1 hlow2 hhigh ⊢
  split
  · exact ⟨low,rfl,hlow1,hlow2⟩
  rw [if_neg (by omega)]
  refine ⟨_,rfl,?_,?_⟩
  · have := emod_nonneg (draw : Int) (show high-low+1≠0 by omega)
    omega
  · have := emod_lt_of_pos (draw : Int) (show 0<high-low+1 by omega)
    omega

theorem splitSlots_ok {draws : Nat → Nat} {alloc : Int → Except SplitError BenefitShareAllocation} (hcapacity : 0≤capacity)
    (hmax : capacity < maxInt64) (halloc : ∀ addition, 0≤addition → addition≤capacity → ∃ a, alloc addition=.ok a)
    (slots : Nat) : ∀ {index : Nat} {remaining : Int}, 0≤remaining → remaining ≤ slots*capacity → slots*capacity ≤ maxInt64 →
      (∃ allocations, splitSlots draws alloc capacity slots index remaining=.ok (allocations,0) ∧
        ∀ a∈allocations, ∃ addition, 0≤addition ∧ addition≤capacity ∧ alloc addition=.ok a) ∧
      ∀ call∈slotCalls draws capacity slots index remaining, call.Safe capacity := by
  induction slots with
  | zero =>
    intro index remaining hpos hle _
    obtain rfl : remaining=0 := by
      rw [Int.natCast_zero,Int.zero_mul] at hle
      omega
    exact ⟨⟨[],rfl,nofun⟩,nofun⟩
  | succ slots ih =>
    intro index remaining hpos hle hfits
    have hsucc : ((slots+1 : Nat) : Int)*capacity=slots*capacity+capacity := by
      rw [natCast_add,Int.natCast_one,Int.add_mul,Int.one_mul]
    have hrest : 0≤(slots : Int)*capacity := Int.mul_nonneg (natCast_nonneg slots) hcapacity
    rw [hsucc] at hle hfits
    rw [splitSlots,slotCalls]
    dsimp only
    generalize hlower : (if remaining-slots*capacity<0 then 0 else remaining-slots*capacity)=lower
    generalize hupper : (if remaining<capacity then remaining else capacity)=upper
    have hbounds : 0≤lower ∧ remaining-slots*capacity≤lower ∧ lower≤upper ∧ upper≤remaining ∧ upper≤capacity := by
      subst hlower hupper
      split <;> split <;> omega
    have hmost : remaining≤(slots+1 : Int)*upper := by
      have hearlier := Int.mul_nonneg (natCast_nonneg slots) (show 0≤upper by omega)
      rw [Int.add_mul,Int.one_mul]
      by_cases hroom : remaining<capacity
      · rw [if_pos hroom] at hupper
        omega
      · rw [if_neg hroom] at hupper
        rw [← hupper]
        omega
    obtain ⟨addition,hadd,hlow,hhigh⟩ := randomBalancedAddition_ok (by omega) hbounds.1 hbounds.2.2.1 hbounds.2.2.2.1 hmost
      (by omega) (draws index)
    obtain ⟨a,ha⟩ := halloc addition (by omega) (by omega)
    obtain ⟨⟨allocations,hsplit,hfrom⟩,hsafe⟩ := @ih (index+1) (remaining-addition) (by omega) (by omega) (by omega)
    rw [hadd]
    dsimp only [Except.bind]
    rw [ha,hsplit]
    refine ⟨⟨a::allocations,rfl,fun b hb => ?_⟩,fun call hcall => ?_⟩
    · obtain rfl | hb := mem_cons.mp hb
      · exact ⟨addition,by omega,by omega,ha⟩
      · exact hfrom b hb
    · obtain rfl | hcall := mem_cons.mp hcall
      · have hslots : (slots+1 : Int)*capacity=slots*capacity+capacity := by rw [Int.add_mul,Int.one_mul]
        exact SlotCall.safe (by dsimp only; omega) hbounds.1 hbounds.2.2.1 hbounds.2.2.2.2 hbounds.2.2.2.1 hmax
          (by dsimp only; omega) (by dsimp only; omega) ⟨hlow,hhigh⟩
      · exact hsafe call hcall

end Slots

def BenefitShareSplitInput.slotCalls (input : BenefitShareSplitInput) (draws : Draws) : List SlotCall :=
  if input.mode=.random then
    Activity.slotCalls draws.additions (input.most-input.least) input.totalCount.toNat 0
      (input.total-input.least*input.totalCount)
  else []

section Input
variable {input : BenefitShareSplitInput} {draws : Draws}

theorem randomSplit_ok (h : input.Feasible) {alloc : Int → Except SplitError BenefitShareAllocation}
    (halloc : ∀ addition, 0≤addition → addition ≤ input.most-input.least →
      ∃ a, alloc addition=.ok a ∧ input.measure a=input.least+addition) (err : SplitError) :
    (∃ shares, (splitSlots draws.additions alloc (input.most-input.least) input.totalCount.toNat 0
          (input.total-input.least*input.totalCount)).bind (finishSplit draws.swaps err)=.ok shares ∧
        ∀ a∈shares, input.least ≤ input.measure a ∧ input.measure a ≤ input.most) ∧
      ∀ call∈Activity.slotCalls draws.additions (input.most-input.least) input.totalCount.toNat 0
        (input.total-input.least*input.totalCount), call.Safe (input.most-input.least) := by
  have hnat : (input.totalCount.toNat : Int)=input.totalCount := toNat_of_nonneg (by have := h.count; omega)
  have hcapacity : (input.totalCount.toNat : Int)*(input.most-input.least) =
      input.most*input.totalCount-input.least*input.totalCount := by
    rw [hnat,Int.mul_sub,Int.mul_comm input.totalCount,Int.mul_comm input.totalCount]
  have hleast : 0 ≤ input.least*input.totalCount :=
    Int.mul_nonneg (by have := h.positive; omega) (by have := h.count; omega)
  have hmost : input.most ≤ input.most*input.totalCount :=
    le_mul_of_one_le_right (by have := h.positive; have := h.order; omega) h.count
  obtain ⟨hpositive,horder,hlower,hupper,hfits⟩ := And.intro h.positive <| And.intro h.order <|
    And.intro h.lower <| And.intro h.upper h.fits
  obtain ⟨⟨allocations,hsplit,hfrom⟩,hsafe⟩ := @splitSlots_ok (input.most-input.least) draws.additions alloc (by omega)
    (by omega) (fun addition hlow hhigh => (halloc addition hlow hhigh).imp fun _ ha => ha.1) input.totalCount.toNat 0
    (input.total-input.least*input.totalCount) (by omega) (by omega) (by omega)
  refine ⟨⟨shuffled draws.swaps allocations,?_,fun a ha => ?_⟩,hsafe⟩
  · rw [hsplit]
    rfl
  · obtain ⟨addition,hlow,hhigh,heq⟩ := hfrom a ((shuffled_perm _ _).mem_iff.mp ha)
    obtain ⟨b,hb,hmeasure⟩ := halloc addition hlow hhigh
    rw [heq] at hb
    cases hb
    rw [hmeasure]
    omega

theorem multiply_ok {left right : Int} (hleft : 0<left) (hright : 0<right) (hfits : left*right ≤ maxInt64) :
    benefitMultiplyPositive left right=.ok (left*right) := by
  unfold benefitMultiplyPositive
  rw [if_neg (by omega),if_neg]
  rw [not_lt,tdiv_eq_ediv_of_nonneg (by decide)]
  exact (Int.le_ediv_iff_mul_le hright).mpr hfits

theorem fits_div {each count : Int} (hcount : 0<count) (hfits : each*count ≤ maxInt64) : ¬ each>maxInt64.tdiv count := by
  rw [not_lt,tdiv_eq_ediv_of_nonneg (by decide)]
  exact (Int.le_ediv_iff_mul_le hcount).mpr hfits

def SplitsInRange (input : BenefitShareSplitInput) (draws : Draws) : Prop :=
  (∃ shares, splitBenefitShares draws input=.ok shares ∧
    ∀ a∈shares, input.least ≤ input.measure a ∧ input.measure a ≤ input.most) ∧
  ∀ call∈input.slotCalls draws, call.Safe (input.most-input.least)

theorem quotaSplit_ok (h : input.Feasible) (hin : input.inQuota) : SplitsInRange input draws := by
  have hcount : 0 < input.totalCount := by have := h.count; omega
  obtain ⟨hpositive,horder,hlower,hupper,hfits⟩ := And.intro h.positive <| And.intro h.order <|
    And.intro h.lower <| And.intro h.upper h.fits
  have htotal : input.total=input.totalQuota := if_pos hin
  have hshares : splitBenefitShares draws input=splitBenefitQuotaShares draws input := if_pos hin
  unfold SplitsInRange BenefitShareSplitInput.slotCalls
  rw [hshares,splitBenefitQuotaShares,if_neg (by have := hin.1; omega)]
  dsimp only
  obtain hmode | hmode := h.mode
  · have hleast : input.least=input.fixedQuota := by rw [BenefitShareSplitInput.least,hmode]; exact if_pos hin
    have hmost : input.most=input.fixedQuota := by rw [BenefitShareSplitInput.most,hmode]; exact if_pos hin
    rw [hleast,htotal] at hlower
    rw [hmost,htotal] at hupper
    rw [hmost] at hfits
    rw [hmode,if_neg (show AmountMode.fixed≠.random from nofun)]
    dsimp only
    rw [if_neg (by have := fits_div hcount hfits; omega)]
    refine ⟨⟨_,rfl,fun a ha => ?_⟩,nofun⟩
    rw [eq_of_mem_replicate ha,BenefitShareSplitInput.measure,if_pos hin,hleast,hmost]
    exact ⟨Int.le_refl _,Int.le_refl _⟩
  · have hleast : input.least=input.minQuota := by rw [BenefitShareSplitInput.least,hmode]; exact if_pos hin
    have hmost : input.most=input.maxQuota := by rw [BenefitShareSplitInput.most,hmode]; exact if_pos hin
    have hmin : input.least*input.totalCount ≤ maxInt64 := by omega
    obtain ⟨⟨shares,hok,hrange⟩,hsafe⟩ := @randomSplit_ok input draws h (fun addition => .ok { quota := input.least+addition })
      (fun addition _ _ => ⟨_,rfl,if_pos hin⟩) .quotaLeftover
    have hfits1 := fits_div hcount hmin
    have hfits2 := fits_div hcount hfits
    rw [hmode,if_pos rfl]
    dsimp only
    rw [← hleast,← hmost,← htotal,if_neg (by omega),if_neg (by omega)]
    exact ⟨⟨shares,hok,hrange⟩,hsafe⟩

theorem centsSplit_ok (h : input.Feasible) (hin : ¬ input.inQuota) (hquota : input.most*input.quotaPerCent ≤ maxInt64) :
    SplitsInRange input draws := by
  have hcount : 0 < input.totalCount := by have := h.count; omega
  obtain ⟨hpositive,horder,hlower,hupper,hfits⟩ := And.intro h.positive <| And.intro h.order <|
    And.intro h.lower <| And.intro h.upper h.fits
  have hcent := h.quotaPerCent hin
  have htotal : input.total=input.totalAmountCents := if_neg hin
  have hbudget : 0 < input.least*input.totalCount := Int.mul_pos hpositive hcount
  have halloc : ∀ amount, input.least≤amount → amount ≤ input.most →
      benefitAllocation amount input.quotaPerCent=.ok ⟨amount,amount*input.quotaPerCent⟩ := by
    intro amount hlow hhigh
    have hle := Int.mul_le_mul_of_nonneg_right hhigh (le_of_lt hcent)
    rw [benefitAllocation,multiply_ok (by omega) hcent (by omega)]
    rfl
  unfold SplitsInRange BenefitShareSplitInput.slotCalls splitBenefitShares
  rw [if_neg (show ¬ (input.totalQuota>0 ∧ _) from hin),if_neg (by omega)]
  dsimp only
  obtain hmode | hmode := h.mode
  · have hleast : input.least=input.fixedAmountCents := by rw [BenefitShareSplitInput.least,hmode]; exact if_neg hin
    have hmost : input.most=input.fixedAmountCents := by rw [BenefitShareSplitInput.most,hmode]; exact if_neg hin
    rw [hmost,← hleast] at hupper hfits
    rw [hmode,if_neg (show AmountMode.fixed≠.random from nofun)]
    dsimp only
    rw [← hleast,multiply_ok hpositive hcount hfits,halloc _ (Int.le_refl _) horder]
    dsimp only [Except.bind]
    rw [if_neg (by omega)]
    refine ⟨⟨_,rfl,fun a ha => ?_⟩,nofun⟩
    rw [eq_of_mem_replicate ha,BenefitShareSplitInput.measure,if_neg hin]
    exact ⟨Int.le_refl _,horder⟩
  · have hleast : input.least=input.minAmountCents := by rw [BenefitShareSplitInput.least,hmode]; exact if_neg hin
    have hmost : input.most=input.maxAmountCents := by rw [BenefitShareSplitInput.most,hmode]; exact if_neg hin
    obtain ⟨⟨shares,hok,hrange⟩,hsafe⟩ := @randomSplit_ok input draws h
      (fun addition => benefitAllocation (input.least+addition) input.quotaPerCent)
      (fun addition _ _ => ⟨_,halloc _ (by omega) (by omega),if_neg hin⟩) .leftover
    rw [hmode,if_pos rfl]
    dsimp only
    rw [← hleast,← hmost,multiply_ok hpositive hcount (by omega),multiply_ok (by omega) hcount hfits]
    dsimp only [Except.bind]
    rw [← htotal,if_neg (by omega)]
    exact ⟨⟨shares,hok,hrange⟩,hsafe⟩

/-- A feasible split gives out exactly the budget, in the planned number of shares, each within its range, and all
its turns are safe, as long as the quota of the largest share in cents can be told. -/
theorem feasible_split_exact (draws : Draws) (h : input.Feasible)
    (hquota : ¬ input.inQuota → input.most*input.quotaPerCent ≤ maxInt64) : (∃ shares, splitBenefitShares draws input=.ok shares ∧
      Splits input.totalCount input.total input.measure shares ∧
      ∀ a∈shares, input.least ≤ input.measure a ∧ input.measure a ≤ input.most) ∧
    ∀ call∈input.slotCalls draws, call.Safe (input.most-input.least) := by
  by_cases hin : input.inQuota
  · obtain ⟨⟨shares,hok,hrange⟩,hsafe⟩ := @quotaSplit_ok input draws h hin
    have hshares : splitBenefitShares draws input=splitBenefitQuotaShares draws input := if_pos hin
    have hsplits := splitBenefitQuotaShares_ok (hshares ▸ hok)
    have hmeasure : input.measure=(·.quota) := funext fun _ => if_pos hin
    rw [← hmeasure,← show input.total=input.totalQuota from if_pos hin] at hsplits
    exact ⟨⟨shares,hok,hsplits,hrange⟩,hsafe⟩
  · obtain ⟨⟨shares,hok,hrange⟩,hsafe⟩ := @centsSplit_ok input draws h hin (hquota hin)
    have hsplits := (splitBenefitShares_cents hin hok).1
    have hmeasure : input.measure=(·.amountCents) := funext fun _ => if_neg hin
    rw [← hmeasure,← show input.total=input.totalAmountCents from if_neg hin] at hsplits
    exact ⟨⟨shares,hok,hsplits,hrange⟩,hsafe⟩

def centsInput : BenefitShareSplitInput :=
  { mode := .random, totalAmountCents := 10, totalCount := 3, fixedAmountCents := 0, minAmountCents := 1, maxAmountCents := 6
    quotaPerCent := 5000, totalQuota := 0, fixedQuota := 0, minQuota := 0, maxQuota := 0 }

theorem feasible_split_cents : (∃ shares, splitBenefitShares ⟨fun n => n+4,fun n => n⟩ centsInput=.ok shares ∧
      Splits 3 10 centsInput.measure shares ∧ ∀ a∈shares, 1≤centsInput.measure a ∧ centsInput.measure a≤6) ∧
    ∀ call∈centsInput.slotCalls ⟨fun n => n+4,fun n => n⟩, call.Safe 5 :=
  @feasible_split_exact centsInput _ ⟨by decide,by decide,by decide,by decide,by decide,by decide,by decide,by decide⟩
    (by decide)

def dearInput : BenefitShareSplitInput :=
  { centsInput with mode := .fixed, totalAmountCents := 2, totalCount := 1, fixedAmountCents := 2, quotaPerCent := 2 ^ 62 }

theorem feasible_split_overflows : dearInput.Feasible ∧ splitBenefitShares ⟨fun n => n,fun n => n⟩ dearInput=.error .overflow :=
  ⟨⟨by decide,by decide,by decide,by decide,by decide,by decide,by decide,by decide⟩,by decide⟩

end Input

end NewApi.Activity
