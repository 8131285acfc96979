import Mathlib.Algebra.Order.BigOperators.Group.List
import Mathlib.Tactic.Linarith
import NewApi.Voucher.Model

/-! `SplitBenefitShares` and `prepareBenefitAllocations`: the budget of an activity cut into shares. Whatever the
random draws are, the shares have the planned number and add up to the planned total. -/
namespace NewApi.Activity
open Runs List Voucher
variable {α : Type} (swaps : Nat → Nat)

structure BenefitShareSplitInput where
  mode : AmountMode
  totalAmountCents : Int
  totalCount : Int
  fixedAmountCents : Int
  minAmountCents : Int
  maxAmountCents : Int
  quotaPerCent : Int
  totalQuota : Int
  fixedQuota : Int
  minQuota : Int
  maxQuota : Int

structure BenefitShareAllocation where
  amountCents : Int := 0
  quota : Int
  deriving DecidableEq

inductive SplitError where
  | notPositive        -- 福利券金额和数量必须大于 0
  | overflow           -- 福利券金额计算溢出
  | totals             -- 福利券总预算、总份数和额度单位必须大于 0
  | fixedAmount        -- 固定面额 %s 元乘 %d 份必须等于总预算 %s 元
  | randomAmount       -- 随机面额参数无效：需满足 %s 元 <= 总预算 <= %s 元
  | unsupportedMode    -- 不支持的福利券面额模式
  | quotaTotals        -- 福利券总额度和总份数必须大于 0
  | fixedQuota         -- 固定面额额度乘总份数必须等于总额度
  | randomQuota        -- 随机面额额度范围无效
  | quotaRange         -- 随机面额额度不在总额度范围内
  | leftover           -- 随机面额拆分后仍有未分配预算
  | quotaLeftover      -- 随机面额额度拆分后仍有未分配额度
  | additionRange      -- 随机面额范围无效
  | additionTooLarge   -- 随机面额范围过大
  | quotaOverflow      -- 福利券份额额度计算溢出
  deriving DecidableEq

structure Draws where
  additions : Nat → Nat
  swaps : Nat → Nat

def benefitMultiplyPositive (left right : Int) : Except SplitError Int :=
  if left≤0 ∨ right≤0 then .error .notPositive
  else if left>maxInt64.tdiv right then .error .overflow
  else .ok (left*right)

def benefitAllocation (amountCents quotaPerCent : Int) : Except SplitError BenefitShareAllocation :=
  (benefitMultiplyPositive amountCents quotaPerCent).bind fun quota =>
    .ok { amountCents := amountCents, quota := quota }

/-- The range around the average in which `randomBalancedAddition` draws. -/
def balancedRange (remaining slots lower upper : Int) : Int×Int :=
  let average := remaining.tdiv slots
  let average := if average<lower then lower else average
  let average := if average>upper then upper else average
  let spread := upper-lower
  let spread := if average-lower<spread.tdiv 2 then 2*(average-lower) else spread
  let spread := if upper-average<spread.tdiv 2 then 2*(upper-average) else spread
  let low := average-spread.tdiv 2
  let high := average+(spread-spread.tdiv 2)
  (if low<lower then lower else low,if high>upper then upper else high)

def randomBalancedAddition (remaining slots lower upper : Int) (draw : Nat) : Except SplitError Int :=
  if slots≤0 ∨ lower<0 ∨ upper<lower ∨ remaining<lower ∨ remaining>upper+(slots-1)*upper then
    .error .additionRange
  else if slots=1 then
    if remaining<lower ∨ remaining>upper then .error .additionRange else .ok remaining
  else
    let (low,high) := balancedRange remaining slots lower upper
    let span := high-low
    if span≤0 then .ok low
    else if span≥maxInt64 then .error .additionTooLarge
    else .ok (low+draw % (span+1))

/-- The loop over the slots of a random split; `alloc` makes the share of an addition. Returns what is left. -/
def splitSlots (draws : Nat → Nat) (alloc : Int → Except SplitError BenefitShareAllocation) (capacity : Int) :
    Nat → Nat → Int → Except SplitError (List BenefitShareAllocation×Int)
  | 0, _, remaining => .ok ([],remaining)
  | slots + 1, index, remaining =>
    let minimumAddition := remaining-slots*capacity
    let minimumAddition := if minimumAddition<0 then 0 else minimumAddition
    let maximumAddition := if remaining<capacity then remaining else capacity
    (randomBalancedAddition remaining (slots+1) minimumAddition maximumAddition (draws index)).bind fun addition =>
      (alloc addition).bind fun allocation =>
        (splitSlots draws alloc capacity slots (index+1) (remaining-addition)).bind fun (allocations,left) =>
          .ok (allocation::allocations,left)

/-- The swaps of positions `index`, ..., 1 with an earlier one. -/
def shuffle {α : Type} (swaps : Nat → Nat) : Nat → Array α → Array α
  | 0, allocations => allocations
  | index+1, allocations =>
    shuffle swaps index (allocations.swapIfInBounds (index+1) (swaps index % (index+2)))

def shuffled {α : Type} (swaps : Nat → Nat) (allocations : List α) : List α :=
  (shuffle swaps (allocations.length-1) allocations.toArray).toList

def finishSplit (swaps : Nat → Nat) (err : SplitError) :
    List BenefitShareAllocation×Int → Except SplitError (List BenefitShareAllocation)
  | (allocations,left) => if left≠0 then .error err else .ok (shuffled swaps allocations)

def splitBenefitQuotaShares (draws : Draws) (input : BenefitShareSplitInput) :
    Except SplitError (List BenefitShareAllocation) :=
  if input.totalQuota≤0 ∨ input.totalCount≤0 then .error .quotaTotals else
  let count := input.totalCount
  match input.mode with
  | .fixed =>
    if input.fixedQuota≤0 ∨ input.fixedQuota>maxInt64.tdiv count ∨ input.fixedQuota*count≠input.totalQuota then
      .error .fixedQuota
    else .ok (List.replicate count.toNat { quota := input.fixedQuota })
  | .random =>
    if input.minQuota≤0 ∨ input.maxQuota < input.minQuota ∨ input.minQuota>maxInt64.tdiv count ∨
        input.maxQuota>maxInt64.tdiv count then .error .randomQuota
    else if input.totalQuota < input.minQuota*count ∨ input.totalQuota>input.maxQuota*count then
      .error .quotaRange
    else (splitSlots draws.additions (fun addition => .ok { quota := input.minQuota+addition })
        (input.maxQuota-input.minQuota) count.toNat 0 (input.totalQuota-input.minQuota*count)).bind
        (finishSplit draws.swaps .quotaLeftover)
  | .unsupported _ => .error .unsupportedMode

def splitBenefitShares (draws : Draws) (input : BenefitShareSplitInput) :
    Except SplitError (List BenefitShareAllocation) :=
  if input.totalQuota>0 ∧ (input.fixedQuota>0 ∨ input.minQuota>0 ∨ input.maxQuota>0) then
    splitBenefitQuotaShares draws input
  else if input.totalAmountCents≤0 ∨ input.totalCount≤0 ∨ input.quotaPerCent≤0 then .error .totals else
  let count := input.totalCount
  match input.mode with
  | .fixed =>
    (benefitMultiplyPositive input.fixedAmountCents count).bind fun total =>
      if total≠input.totalAmountCents then .error .fixedAmount else
      (benefitAllocation input.fixedAmountCents input.quotaPerCent).bind fun allocation =>
        .ok (List.replicate count.toNat allocation)
  | .random =>
    (benefitMultiplyPositive input.minAmountCents count).bind fun minimumTotal =>
    (benefitMultiplyPositive input.maxAmountCents count).bind fun maximumTotal =>
      if input.maxAmountCents < input.minAmountCents ∨ input.totalAmountCents < minimumTotal ∨
          input.totalAmountCents>maximumTotal then .error .randomAmount
      else (splitSlots draws.additions (fun addition => benefitAllocation (input.minAmountCents+addition) input.quotaPerCent)
          (input.maxAmountCents-input.minAmountCents) count.toNat 0 (input.totalAmountCents-minimumTotal)).bind
          (finishSplit draws.swaps .leftover)
  | .unsupported _ => .error .unsupportedMode

def plannedInQuota (plan : ActivityPlan) : Prop := plan.fixedQuota>0 ∨ plan.minQuota>0 ∨ plan.maxQuota>0

instance (plan : ActivityPlan) : Decidable (plannedInQuota plan) := inferInstanceAs (Decidable (_ ∨ _))

def splitInput (plan : ActivityPlan) : BenefitShareSplitInput where
  mode := plan.amountMode
  totalAmountCents := if plannedInQuota plan then 0 else plan.totalAmountCents
  totalCount := plan.totalCount
  fixedAmountCents := plan.fixedAmountCents
  minAmountCents := plan.minAmountCents
  maxAmountCents := plan.maxAmountCents
  quotaPerCent := if plannedInQuota plan then 0 else 1
  totalQuota := plan.totalQuota
  fixedQuota := plan.fixedQuota
  minQuota := plan.minQuota
  maxQuota := plan.maxQuota

def proportional (totalQuota totalAmount : Int) : List BenefitShareAllocation →
    Except SplitError (List BenefitShareAllocation)
  | [] => .ok []
  | a::allocations =>
    let quota := (a.amountCents*totalQuota).tdiv totalAmount
    if quota < -maxInt64-1 ∨ quota>maxInt64 then .error .quotaOverflow
    else (proportional totalQuota totalAmount allocations).bind fun rest => .ok ({ a with quota := quota }::rest)

def handOut : Nat → Nat → List BenefitShareAllocation → List BenefitShareAllocation
  | 0, _, allocations => allocations
  | remaining+1, index, allocations =>
    handOut remaining (index+1) (allocations.modify (index % allocations.length) fun a => { a with quota := a.quota+1 })

def prepareBenefitAllocations (draws : Draws) (plan : ActivityPlan) : Except SplitError (List BenefitShareAllocation) :=
  (splitBenefitShares draws (splitInput plan)).bind fun allocations =>
    if plannedInQuota plan then .ok allocations else
    (proportional plan.totalQuota plan.totalAmountCents allocations).bind fun allocations =>
      let remaining := plan.totalQuota-(allocations.map (·.quota)).sum
      .ok (handOut remaining.toNat 0 allocations)

theorem shuffle_perm (index : Nat) (xs : Array α) :
    (shuffle swaps index xs).toList.Perm xs.toList := by
  induction index generalizing xs with
  | zero => exact .refl _
  | succ index ih =>
    refine (ih _).trans ?_
    unfold Array.swapIfInBounds
    split
    · split
      · exact (Array.swap_perm _ _).toList
      · exact .refl _
    · exact .refl _

theorem shuffled_perm (xs : List α) : (shuffled swaps xs).Perm xs :=
  shuffle_perm swaps _ xs.toArray

variable {alloc : Int → Except SplitError BenefitShareAllocation} {capacity base count total : Int}
variable {measure : BenefitShareAllocation → Int}

theorem splitSlots_sum {draws : Nat → Nat} (halloc : ∀ addition a, alloc addition=.ok a → measure a=base+addition)
    (slots : Nat) : ∀ {index : Nat} {remaining : Int} {allocations : List BenefitShareAllocation} {left : Int},
      splitSlots draws alloc capacity slots index remaining=.ok (allocations,left) →
      allocations.length=slots ∧ (allocations.map measure).sum=slots*base+remaining-left ∧
        ∀ a∈allocations, ∃ addition, alloc addition=.ok a := by
  induction slots with
  | zero =>
    intro index remaining allocations left h
    cases h
    simp
  | succ slots ih =>
    intro index remaining allocations left h
    obtain ⟨addition,-,h⟩ := bind_ok h
    obtain ⟨a,ha,h⟩ := bind_ok h
    obtain ⟨⟨rest,left'⟩,hrest,h⟩ := bind_ok h
    cases h
    obtain ⟨hlen,hsum,hmem⟩ := ih hrest
    refine ⟨by simp [hlen],?_,?_⟩
    · rw [map_cons,sum_cons,hsum,halloc addition a ha]
      push_cast
      linarith
    · intro b hb
      obtain rfl | hb := mem_cons.mp hb
      · exact ⟨addition,ha⟩
      · exact hmem b hb

variable {allocations : List BenefitShareAllocation}

theorem finishSplit_ok {swaps : Nat → Nat} {err : SplitError} {out : List BenefitShareAllocation×Int}
    (h : finishSplit swaps err out=.ok allocations) : out.2=0 ∧ allocations.Perm out.1 := by
  obtain ⟨slots,left⟩ := out
  simp only [finishSplit] at h
  split at h
  · cases h
  rename_i hleft
  cases h
  exact ⟨not_not.mp hleft,shuffled_perm _ _⟩

structure Splits (count total : Int) (measure : BenefitShareAllocation → Int)
    (allocations : List BenefitShareAllocation) : Prop where
  length : (allocations.length : Int)=count
  sum : (allocations.map measure).sum=total

variable {a : BenefitShareAllocation}

theorem Splits.replicate {each : Int} (hcount : 0<count) (ha : measure a=each) (htotal : each*count=total) :
    Splits count total measure (List.replicate count.toNat a) := by
  have hnat : (count.toNat : Int)=count := Int.toNat_of_nonneg hcount.le
  refine ⟨by rw [length_replicate,hnat],?_⟩
  rw [map_replicate,sum_replicate,ha,nsmul_eq_mul,← htotal,mul_comm]
  exact congrArg (each * ·) hnat

variable {draws : Draws}

theorem Splits.random {err : SplitError} (measure : BenefitShareAllocation → Int) (hcount : 0<count)
    (halloc : ∀ addition a, alloc addition=.ok a → measure a=base+addition)
    (h : (splitSlots draws.additions alloc capacity count.toNat 0 (total-base*count)).bind
      (finishSplit draws.swaps err)=.ok allocations) :
    Splits count total measure allocations ∧ ∀ a∈allocations, ∃ addition, alloc addition=.ok a := by
  obtain ⟨⟨slots,left⟩,hslots,hfinish⟩ := bind_ok h
  obtain ⟨hleft,hperm⟩ := finishSplit_ok hfinish
  obtain ⟨hlen,hsum,hmem⟩ := splitSlots_sum halloc _ hslots
  have hnat : (count.toNat : Int)=count := Int.toNat_of_nonneg hcount.le
  simp only at hleft hperm
  refine ⟨⟨by rw [hperm.length_eq,hlen,hnat],?_⟩,fun a ha => hmem a (hperm.mem_iff.mp ha)⟩
  rw [(hperm.map measure).sum_eq,hsum,hleft,hnat]
  linarith [mul_comm base count]

variable {input : BenefitShareSplitInput}

theorem splitBenefitQuotaShares_ok (h : splitBenefitQuotaShares draws input=.ok allocations) :
    Splits input.totalCount input.totalQuota (·.quota) allocations := by
  unfold splitBenefitQuotaShares at h
  split at h
  · cases h
  rename_i hpos
  have hcount : 0 < input.totalCount := by omega
  simp only at h
  split at h
  · split at h
    · cases h
    rename_i hfixed
    cases h
    rw [not_or,not_or] at hfixed
    exact Splits.replicate hcount rfl (not_not.mp hfixed.2.2)
  · split at h
    · cases h
    split at h
    · cases h
    · exact (Splits.random (·.quota) hcount (fun addition a ha => by cases ha; rfl) h).1
  · cases h

theorem benefitMultiplyPositive_ok {left right product : Int} (h : benefitMultiplyPositive left right=.ok product) :
    0<left ∧ 0<right ∧ product=left*right := by
  unfold benefitMultiplyPositive at h
  split at h
  · cases h
  split at h
  · cases h
  · cases h
    exact ⟨by omega,by omega,rfl⟩

theorem benefitAllocation_ok {amountCents quotaPerCent : Int}
    (h : benefitAllocation amountCents quotaPerCent=.ok a) : a.amountCents=amountCents ∧ 0<a.amountCents := by
  obtain ⟨quota,hquota,h⟩ := bind_ok h
  cases h
  exact ⟨rfl,(benefitMultiplyPositive_ok hquota).1⟩

theorem splitBenefitShares_cents (hcents : ¬ (input.totalQuota>0 ∧ (input.fixedQuota>0 ∨ input.minQuota>0 ∨ input.maxQuota>0)))
    (h : splitBenefitShares draws input=.ok allocations) :
    Splits input.totalCount input.totalAmountCents (·.amountCents) allocations ∧ 0 < input.totalAmountCents ∧
      ∀ a∈allocations, 0<a.amountCents := by
  unfold splitBenefitShares at h
  rw [if_neg hcents] at h
  split at h
  · cases h
  rename_i hpos
  have hcount : 0 < input.totalCount := by omega
  have htotal : 0 < input.totalAmountCents := by omega
  simp only at h
  split at h
  · obtain ⟨total,hmul,h⟩ := bind_ok h
    obtain ⟨-,-,rfl⟩ := benefitMultiplyPositive_ok hmul
    split at h
    · cases h
    rename_i heq
    obtain ⟨a,ha,h⟩ := bind_ok h
    cases h
    obtain ⟨hamount,hapos⟩ := benefitAllocation_ok ha
    refine ⟨Splits.replicate hcount hamount (not_not.mp heq),htotal,fun b hb => ?_⟩
    rw [eq_of_mem_replicate hb]
    exact hapos
  · obtain ⟨minimumTotal,hmin,h⟩ := bind_ok h
    obtain ⟨maximumTotal,-,h⟩ := bind_ok h
    obtain ⟨-,-,rfl⟩ := benefitMultiplyPositive_ok hmin
    split at h
    · cases h
    obtain ⟨hsplits,hmem⟩ := Splits.random (·.amountCents) hcount (fun addition a ha => (benefitAllocation_ok ha).1) h
    refine ⟨hsplits,htotal,fun a ha => ?_⟩
    obtain ⟨addition,halloc⟩ := hmem a ha
    exact (benefitAllocation_ok halloc).2
  · cases h

theorem proportional_ok {totalQuota totalAmount : Int} (hq : 0≤totalQuota) (ha : 0<totalAmount)
    (allocations : List BenefitShareAllocation) : ∀ {shares : List BenefitShareAllocation}, (∀ a∈allocations, 0<a.amountCents) →
      proportional totalQuota totalAmount allocations=.ok shares → shares.length=allocations.length ∧
        totalAmount*(shares.map (·.quota)).sum≤totalQuota*(allocations.map (·.amountCents)).sum := by
  induction allocations with
  | nil =>
    intro shares _ h
    cases h
    simp
  | cons a allocations ih =>
    intro shares hpos h
    simp only [proportional] at h
    split at h
    · cases h
    obtain ⟨rest,hrest,h⟩ := bind_ok h
    cases h
    obtain ⟨hlen,hsum⟩ := ih (fun b hb => hpos b (by simp [hb])) hrest
    have hamount := hpos a (by simp)
    have hfloor : totalAmount*((a.amountCents*totalQuota).tdiv totalAmount)≤a.amountCents*totalQuota := by
      rw [Int.tdiv_eq_ediv_of_nonneg (by positivity)]
      exact Int.mul_ediv_self_le (by omega)
    refine ⟨by simp [hlen],?_⟩
    simp only [map_cons,sum_cons,mul_add]
    linarith [mul_comm a.amountCents totalQuota]

theorem sum_modify_succ (allocations : List BenefitShareAllocation) {i : Nat} (hi : i<allocations.length) :
    ((allocations.modify i fun a => { a with quota := a.quota+1 }).map (·.quota)).sum =
      (allocations.map (·.quota)).sum+1 := by
  induction allocations generalizing i with
  | nil => simp at hi
  | cons a allocations ih =>
    cases i with
    | zero =>
      simp only [modify_zero_cons,map_cons,sum_cons]
      omega
    | succ i =>
      rw [modify_succ_cons,map_cons,sum_cons,ih (by simpa using hi),map_cons,sum_cons]
      omega

theorem handOut_sum (remaining : Nat) : ∀ (index : Nat) (allocations : List BenefitShareAllocation), 0<allocations.length →
    (handOut remaining index allocations).length=allocations.length ∧
      ((handOut remaining index allocations).map (·.quota)).sum=(allocations.map (·.quota)).sum+remaining := by
  induction remaining with
  | zero =>
    intro index allocations _
    simp [handOut]
  | succ remaining ih =>
    intro index allocations hpos
    obtain ⟨hlen,hsum⟩ := ih (index+1)
      (allocations.modify (index % allocations.length) fun a => { a with quota := a.quota+1 }) (by simpa using hpos)
    refine ⟨by rw [handOut,hlen,length_modify],?_⟩
    rw [handOut,hsum,sum_modify_succ _ (Nat.mod_lt _ hpos)]
    push_cast
    omega

/-- The shares of a plan have the planned number and add up to the planned quota. -/
theorem prepareBenefitAllocations_splits {plan : ActivityPlan} (hquota : 0<plan.totalQuota)
    (h : prepareBenefitAllocations draws plan=.ok allocations) :
    Splits plan.totalCount plan.totalQuota (·.quota) allocations := by
  obtain ⟨split,hsplit,h⟩ := bind_ok h
  by_cases hplanned : plannedInQuota plan
  · rw [if_pos hplanned] at h
    cases h
    unfold splitBenefitShares at hsplit
    rw [if_pos ⟨hquota,hplanned⟩] at hsplit
    exact splitBenefitQuotaShares_ok hsplit
  · rw [if_neg hplanned] at h
    obtain ⟨shares,hshares,h⟩ := bind_ok h
    cases h
    obtain ⟨hcents,hamount,hpos⟩ := splitBenefitShares_cents (show ¬ ((splitInput plan).totalQuota>0 ∧ _) from fun hq => hplanned hq.2) hsplit
    simp only [splitInput,if_neg hplanned] at hcents hamount
    obtain ⟨hlen,hfloors⟩ := proportional_ok hquota.le hamount split hpos hshares
    rw [hcents.sum,mul_comm plan.totalQuota] at hfloors
    have hle : (shares.map (·.quota)).sum≤plan.totalQuota := le_of_mul_le_mul_left hfloors hamount
    have hcount : 0<shares.length := by
      have := hcents.length
      by_contra hzero
      have hnil : split=[] := eq_nil_of_length_eq_zero (by omega)
      have hsum := hcents.sum
      rw [hnil] at hsum
      simp only [map_nil,sum_nil] at hsum
      omega
    obtain ⟨hlength,hsum⟩ := handOut_sum (plan.totalQuota-(shares.map (·.quota)).sum).toNat 0 shares hcount
    refine ⟨by rw [hlength,hlen,hcents.length],?_⟩
    rw [hsum,Int.toNat_of_nonneg (by omega)]
    omega

end NewApi.Activity
