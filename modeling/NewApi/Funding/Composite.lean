import Mathlib.Data.List.Infix
import Mathlib.Logic.Function.Basic
import NewApi.Lib.GoStrings

/-! `CompositeFunding` of `service/funding_source.go`. A funding source is its method table
over a world `W` (the stores and the source's own fields); an optional interface is an
optional method. A call returns the world it leaves behind, on error too. -/
namespace NewApi.Funding

inductive BillingSource where
  | wallet | subscription | benefitVoucher
  deriving DecidableEq

inductive FundingError where
  | insufficientBenefitVoucher      -- ErrInsufficientBenefitVoucher
  | insufficientWalletQuota         -- ErrInsufficientWalletQuota
  | message (text : String)         -- any other error of a source
  | sourceFailed (source : BillingSource) (err : FundingError)
                                    -- benefit composite funding %s failed: %w
  | invalidReservation              -- benefit composite funding returned invalid reservation
  | insufficient                    -- benefit composite funding insufficient
  | additionalCapacityInsufficient  -- benefit composite funding additional capacity insufficient
  | additionalRefundExceeds         -- benefit composite funding additional refund exceeds reservation
  | settlementCapacityInsufficient  -- benefit composite funding settlement capacity insufficient
  | refundExceedsReservation        -- benefit composite funding refund exceeds reservation
  | cannotReserve (source : BillingSource)
                                    -- funding source %s cannot reserve additional quota
  | cannotReserveSettlement (source : BillingSource)
                                    -- funding source %s cannot reserve settlement quota
  | cannotRefund (source : BillingSource)
                                    -- funding source %s cannot refund additional quota
  deriving DecidableEq

def FundingError.skippable : FundingError → Bool
  | .insufficientBenefitVoucher | .insufficientWalletQuota => true
  | .message text => decide ("no active subscription".toList <:+: text.toList) ||
      decide ("subscription quota insufficient".toList <:+: text.toList)
  | _ => false

abbrev Call (W : Type) := W → W×Option FundingError

structure FundingSource (W : Type) where
  source : BillingSource
  preConsume : Int → Call W
  settle : Int → Call W
  refund : Call W
  capacity : Option (W → Int) := none
  additionalCapacity : Option (W → Int) := none
  preConsumedAmount : Option (W → Int) := none
  reserveAdditional : Option (Int → Call W) := none
  refundAdditional : Option (Int → Call W) := none
  rollbackSettle : Option (Int → Call W) := none

structure Adjustment where
  index : Nat
  delta : Int

/-- The composite and the world of its sources. The slices are functions of the index. -/
structure CompositeFunding (W : Type) where
  world : W
  consumed : Nat → Int
  additional : Nat → Int
  lastSettleDeltas : Nat → Int
  lastReserve : List Adjustment

def newCompositeFunding {W : Type} (w : W) : CompositeFunding W :=
  { world := w, consumed := fun _ => 0, additional := fun _ => 0, lastSettleDeltas := fun _ => 0, lastReserve := [] }

/-- An error list stands for `errors.Join`; the empty one is `nil`. -/
abbrev Errors := List FundingError

def put (v : Nat → Int) (i : Nat) (x : Int) : Nat → Int := Function.update v i x
def bump (v : Nat → Int) (i : Nat) (d : Int) : Nat → Int := Function.update v i (v i+d)

namespace CompositeFunding
variable {W : Type} (sources : List (FundingSource W)) (src : FundingSource W)

/-- Refund the sources below `n` that have something consumed, last one first. -/
def refundConsumed (sources : List (FundingSource W)) :
    Nat → CompositeFunding W → CompositeFunding W×Errors
  | 0, f => (f,[])
  | n + 1, f =>
    match sources[n]? with
    | none => refundConsumed sources n f
    | some src =>
      if f.consumed n>0 then
        match src.refund f.world with
        | (w,some err) =>
          let (f,errs) := refundConsumed sources n { f with world := w }
          (f,err::errs)
        | (w,none) => refundConsumed sources n
            { f with world := w, consumed := put f.consumed n 0, additional := put f.additional n 0 }
      else refundConsumed sources n f

def attempt (remaining : Int) (w : W) : Int :=
  match src.capacity with
  | some capacity => if capacity w≥0 ∧ capacity w<remaining then capacity w else remaining
  | none => remaining

def measured (attempt : Int) (w : W) : Int :=
  match src.preConsumedAmount with
  | some preConsumedAmount => preConsumedAmount w
  | none => attempt

def preConsumeLoop (sources : List (FundingSource W)) :
    List (FundingSource W) → Nat → Int → CompositeFunding W → CompositeFunding W×Int×Errors
  | [], _, remaining, f => (f,remaining,[])
  | src :: rest, index, remaining, f =>
    if remaining≤0 then (f,remaining,[]) else
    if attempt src remaining f.world≤0 then preConsumeLoop sources rest (index+1) remaining f else
    match src.preConsume (attempt src remaining f.world) f.world with
    | (w,some err) =>
      if err.skippable then preConsumeLoop sources rest (index+1) remaining { f with world := w }
      else
        let (f,errs) := refundConsumed sources index { f with world := w }
        (f,remaining,.sourceFailed src.source err::errs)
    | (w,none) =>
      let consumed := measured src (attempt src remaining f.world) w
      if consumed<0 ∨ consumed>attempt src remaining f.world then ({ f with world := w },remaining,[.invalidReservation])
      else preConsumeLoop sources rest (index+1) (remaining-consumed)
        { f with world := w, consumed := put f.consumed index consumed }

def preConsume (amount : Int) (f : CompositeFunding W) :
    CompositeFunding W×Errors :=
  if amount≤0 then (f,[]) else
  let (f,remaining,errs) := preConsumeLoop sources sources 0 amount f
  if errs≠[] then (f,errs)
  else if remaining>0 then
    let (f,errs) := refundConsumed sources sources.length f
    (f,.insufficient::errs)
  else (f,[])

/-- The share of `remaining` that a source can take on top. -/
def share (remaining : Int) (w : W) : Int :=
  match src.additionalCapacity with
  | some available =>
    let capacity := if available w<0 then 0 else available w
    if capacity>remaining then remaining else capacity
  | none => remaining

/-- The split of an amount over the sources in order, and what is left over. -/
def planShares (w : W) : List (FundingSource W) → Nat → Int → (Nat → Int)×Int
  | [], _, remaining => (fun _ => 0, remaining)
  | src::rest, index, remaining =>
    if remaining≤0 then (fun _ => 0, remaining) else
    let (planned,left) := planShares w rest (index+1) (remaining-share src remaining w)
    (put planned index (share src remaining w),left)

def rollbackCompositeAdditional (sources : List (FundingSource W)) :
    List Adjustment → CompositeFunding W → CompositeFunding W×Errors
  | [], f => (f,[])
  | adjustment::applied, f =>
    match sources[adjustment.index]? with
    | none => rollbackCompositeAdditional sources applied f
    | some src =>
      match src.refundAdditional with
      | none =>
        let (f,errs) := rollbackCompositeAdditional sources applied f
        (f,.cannotRefund src.source::errs)
      | some refundAdditional =>
        match refundAdditional adjustment.delta f.world with
        | (w,some err) =>
          let (f,errs) := rollbackCompositeAdditional sources applied { f with world := w }
          (f,err::errs)
        | (w,none) => rollbackCompositeAdditional sources applied
            { f with world := w
                     consumed := bump f.consumed adjustment.index (-adjustment.delta)
                     additional := bump f.additional adjustment.index (-adjustment.delta) }

def reserveLoop (sources : List (FundingSource W)) (planned : Nat → Int) :
    List (FundingSource W) → Nat → List Adjustment → CompositeFunding W →
    CompositeFunding W×List Adjustment×Errors
  | [], _, applied, f => (f,applied,[])
  | src :: rest, index, applied, f =>
    if planned index=0 then reserveLoop sources planned rest (index+1) applied f else
    match src.reserveAdditional with
    | none =>
      let (f,errs) := rollbackCompositeAdditional sources applied f
      (f,applied,.cannotReserve src.source::errs)
    | some reserveAdditional =>
      match reserveAdditional (planned index) f.world with
      | (w,some err) =>
        let (f,errs) := rollbackCompositeAdditional sources applied { f with world := w }
        (f,applied,err::errs)
      | (w,none) => reserveLoop sources planned rest (index+1) (⟨index,planned index⟩::applied)
          { f with world := w
                   consumed := bump f.consumed index (planned index)
                   additional := bump f.additional index (planned index) }

def reserveAdditional (amount : Int) (f : CompositeFunding W) :
    CompositeFunding W×Errors :=
  if amount≤0 then (f,[]) else
  let f := { f with lastReserve := [] }
  let (planned,remaining) := planShares f.world sources 0 amount
  if remaining>0 then (f,[.additionalCapacityInsufficient]) else
  let (f,applied,errs) := reserveLoop sources planned sources 0 [] f
  if errs≠[] then (f,errs) else ({ f with lastReserve := applied.reverse },[])

/-- The loop of `RollbackAdditional` over the last reservation, newest first. -/
def rollbackLoop (sources : List (FundingSource W)) :
    List Adjustment → Int → CompositeFunding W → CompositeFunding W×Int×Errors
  | [], remaining, f => (f,remaining,[])
  | adjustment::rest, remaining, f =>
    if remaining≤0 then (f,remaining,[]) else
    let refund := if adjustment.delta>remaining then remaining else adjustment.delta
    match sources[adjustment.index]? with
    | none => rollbackLoop sources rest remaining f
    | some src =>
      match src.refundAdditional with
      | none =>
        let (f,remaining,errs) := rollbackLoop sources rest remaining f
        (f,remaining,.cannotRefund src.source::errs)
      | some refundAdditional =>
        match refundAdditional refund f.world with
        | (w,some err) =>
          let (f,remaining,errs) := rollbackLoop sources rest remaining { f with world := w }
          (f,remaining,err::errs)
        | (w,none) => rollbackLoop sources rest (remaining-refund)
            { f with world := w
                     consumed := bump f.consumed adjustment.index (-refund)
                     additional := bump f.additional adjustment.index (-refund) }

def rollbackAdditional (amount : Int) (f : CompositeFunding W) :
    CompositeFunding W×Errors :=
  if amount≤0 ∨ f.lastReserve=[] then (f,[]) else
  let (f,remaining,errs) := rollbackLoop sources f.lastReserve.reverse amount f
  ({ f with lastReserve := [] },if remaining>0 then errs++[.additionalRefundExceeds] else errs)

def undoSettle (delta : Int) : Call W :=
  match src.rollbackSettle with
  | some rollbackSettle => rollbackSettle delta
  | none => src.settle (-delta)

def rollbackCompositeSettlement (sources : List (FundingSource W)) :
    List Adjustment → CompositeFunding W → CompositeFunding W×Errors
  | [], f => (f,[])
  | adjustment::applied, f =>
    match sources[adjustment.index]? with
    | none => rollbackCompositeSettlement sources applied f
    | some src =>
      match undoSettle src adjustment.delta f.world with
      | (w,some err) =>
        let (f,errs) := rollbackCompositeSettlement sources applied { f with world := w }
        (f,err::errs)
      | (w,none) => rollbackCompositeSettlement sources applied
          { f with world := w, consumed := bump f.consumed adjustment.index (-adjustment.delta) }

/-- The loop of `Settle` that gives back the reservations it has added, newest first. -/
def refundAdded (sources : List (FundingSource W)) :
    List Adjustment → CompositeFunding W → CompositeFunding W×Errors
  | [], f => (f,[])
  | adjustment::added, f =>
    match sources[adjustment.index]? with
    | none => refundAdded sources added f
    | some src =>
      match src.refundAdditional with
      | none => refundAdded sources added f
      | some refundAdditional =>
        match refundAdditional adjustment.delta f.world with
        | (w,some err) =>
          let (f,errs) := refundAdded sources added { f with world := w }
          (f,err::errs)
        | (w,none) => refundAdded sources added
            { f with world := w, consumed := bump f.consumed adjustment.index (-adjustment.delta) }

/-- `Settle(0)`: the voucher sources are told, the others are left alone. -/
def settleZero : List (FundingSource W) → Nat → CompositeFunding W → CompositeFunding W×Errors
  | [], _, f => (f,[])
  | src::rest, index, f =>
    if f.consumed index≤0 ∨ src.source≠.benefitVoucher then settleZero rest (index+1) f else
    match src.settle 0 f.world with
    | (w,some err) => ({ f with world := w },[err])
    | (w,none) => settleZero rest (index+1) { f with world := w }

/-- A voucher source that holds nothing has to open a reservation before it can settle. -/
def mustOpen (consumed settleDelta : Int) : Bool :=
  decide (settleDelta>0 ∧ consumed=0 ∧ src.source=.benefitVoucher)

def settleSource (index : Nat)
    (settleDelta : Int) (applied added : List Adjustment) (f : CompositeFunding W) :
    CompositeFunding W×Errors :=
  match src.settle settleDelta f.world with
  | (w,some err) =>
    let (f,errs) := rollbackCompositeSettlement sources applied { f with world := w }
    let (f,errs') := refundAdded sources added f
    (f,err::errs++errs')
  | (w, none) =>
    ({ f with world := w
              consumed := bump f.consumed index settleDelta
              lastSettleDeltas := put f.lastSettleDeltas index settleDelta },[])

/-- The apply loop of `Settle` for a positive difference. -/
def settleUp (sources : List (FundingSource W)) (adjustments : Nat → Int) :
    List (FundingSource W) → Nat → List Adjustment → List Adjustment → CompositeFunding W →
    CompositeFunding W×Errors
  | [], _, _, _, f => (f,[])
  | src :: rest, index, applied, added, f =>
    if adjustments index=0 ∧ (f.consumed index≤0 ∨ src.source≠.benefitVoucher) then
      settleUp sources adjustments rest (index+1) applied added f
    else if mustOpen src (f.consumed index) (adjustments index) then
      match src.reserveAdditional with
      | none =>
        let (f,errs) := rollbackCompositeSettlement sources applied f
        (f,.cannotReserveSettlement src.source::errs)
      | some reserveAdditional =>
        match reserveAdditional (adjustments index) f.world with
        | (w,some err) =>
          let (f,errs) := rollbackCompositeSettlement sources applied { f with world := w }
          (f,err::errs)
        | (w,none) =>
          let f := { f with world := w, consumed := bump f.consumed index (adjustments index) }
          let added := ⟨index,adjustments index⟩::added
          match settleSource sources src index 0 applied added f with
          | (f,[]) => settleUp sources adjustments rest (index+1) (⟨index,0⟩::applied) added f
          | (f,errs) => (f,errs)
    else
      match settleSource sources src index (adjustments index) applied added f with
      | (f,[]) =>
        settleUp sources adjustments rest (index+1) (⟨index,adjustments index⟩::applied) added f
      | (f,errs) => (f,errs)

def planRefunds (consumed : Nat → Int) : Nat → Int → (Nat → Int)×Int
  | 0, remaining => (fun _ => 0, remaining)
  | n+1, remaining =>
    if remaining≤0 then (fun _ => 0, remaining) else
    let refund := if consumed n>remaining then remaining else consumed n
    if refund=0 then planRefunds consumed n remaining else
    let (planned,left) := planRefunds consumed n (remaining-refund)
    (put planned n (-refund),left)

/-- The apply loop of `Settle` for a negative difference. -/
def settleDown (sources : List (FundingSource W)) (adjustments : Nat → Int) :
    List (FundingSource W) → Nat → List Adjustment → CompositeFunding W → CompositeFunding W×Errors
  | [], _, _, f => (f,[])
  | src::rest, index, applied, f =>
    if adjustments index=0 ∧ (f.consumed index≤0 ∨ src.source≠.benefitVoucher) then
      settleDown sources adjustments rest (index+1) applied f
    else
      match settleSource sources src index (adjustments index) applied [] f with
      | (f,[]) => settleDown sources adjustments rest (index+1) (⟨index,adjustments index⟩::applied) f
      | (f,errs) => (f,errs)

def settle (delta : Int) (f : CompositeFunding W) :
    CompositeFunding W×Errors :=
  let f := { f with lastSettleDeltas := fun _ => 0 }
  if delta=0 then settleZero sources 0 f
  else if delta>0 then
    let (adjustments,remaining) := planShares f.world sources 0 delta
    if remaining>0 then (f,[.settlementCapacityInsufficient])
    else settleUp sources adjustments sources 0 [] [] f
  else
    let (adjustments,remaining) := planRefunds f.consumed sources.length (-delta)
    if remaining>0 then (f,[.refundExceedsReservation])
    else settleDown sources adjustments sources 0 [] f

/-- The first half of a source's turn in `Refund`: its extra reservations. -/
def releaseAdditional (n : Nat) (f : CompositeFunding W) :
    CompositeFunding W×Errors :=
  if f.additional n>0 then
    match src.refundAdditional with
    | none => (f,[.cannotRefund src.source])
    | some refundAdditional =>
      match refundAdditional (f.additional n) f.world with
      | (w,some err) => ({ f with world := w },[err])
      | (w, none) => ({ f with world := w, consumed := bump f.consumed n (-f.additional n),
                               additional := put f.additional n 0 },[])
  else (f,[])

/-- The loop of `Refund` over the sources below `n`, last one first. -/
def refundLoop (sources : List (FundingSource W)) :
    Nat → CompositeFunding W → CompositeFunding W×Errors
  | 0, f => (f,[])
  | n + 1, f =>
    match sources[n]? with
    | none => refundLoop sources n f
    | some src =>
      if f.consumed n≤0 then refundLoop sources n f else
      match releaseAdditional src n f with
      | (f,[]) =>
        match src.refund f.world with
        | (w,some err) =>
          let (f,errs) := refundLoop sources n { f with world := w }
          (f,err::errs)
        | (w,none) => refundLoop sources n { f with world := w, consumed := put f.consumed n 0 }
      | (f,err) =>
        let (f,errs) := refundLoop sources n f
        (f,err++errs)

def refund (f : CompositeFunding W) : CompositeFunding W×Errors :=
  refundLoop sources sources.length f

def subscriptionAdditional (f : CompositeFunding W) : Int :=
  match f.lastReserve.find? fun adjustment =>
    (sources[adjustment.index]?.map (·.source)) == some .subscription with
  | some adjustment => adjustment.delta
  | none => 0

end CompositeFunding
end NewApi.Funding
