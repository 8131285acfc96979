import NewApi.Billing.Sources

/-! `BillingSession` of `service/billing_session.go`: reservation, settlement and refund of one
request over one funding source or over the composite. The funding is the composite record for
every kind of session; a session over a single source uses its world only. -/
namespace NewApi.Billing
open Funding Subscription Voucher GoStrings

structure RelayInfo where
  requestId : String
  userId : Int
  usingGroupId : Option Int := none        -- ResolveGroupIDForBilling(UsingGroup)
  benefitGroupExplicit : Bool := false     -- ContextKeyBenefitGroupExplicit
  billingPreference : String := ""
  isPlayground : Bool := false
  tokenQuotaExempt : Bool := false
  tokenUnlimited : Bool := false
  tokenQuota : Int := 0                    -- token_quota of the request context
  userQuota : Int := 0
  forcePreConsume : Bool := false
  trustQuota : Int := 0                    -- GetTrustQuota()

inductive FundingKind where
  | wallet | subscription | composite
  deriving DecidableEq

structure BillingSession where
  relayInfo : RelayInfo
  kind : FundingKind
  funding : CompositeFunding World
  preConsumedQuota : Int := 0
  tokenConsumed : Int := 0
  extraReserved : Int := 0
  trusted : Bool := false
  fundingSettled : Bool := false
  settled : Bool := false
  refunded : Bool := false

namespace BillingSession
variable (addDate : AddDate) (now : Int) (s : BillingSession)

def world (s : BillingSession) : World := s.funding.world

def withWorld (s : BillingSession) (w : World) : BillingSession :=
  { s with funding := { s.funding with world := w } }

def call (s : BillingSession) (down : Bool) (f : Call World) : BillingSession×Option FundingError :=
  let (w,err) := f { s.world with down := down }
  (s.withWorld { w with down := false },err)

def usesTokenQuota (s : BillingSession) : Bool := !s.relayInfo.isPlayground && !s.relayInfo.tokenQuotaExempt

def callComposite (s : BillingSession) (f : CompositeFunding World → CompositeFunding World×Errors) :
    BillingSession×Errors :=
  let (funding,errs) := f s.funding
  ({ s with funding := funding },errs)

def single (out : BillingSession×Option FundingError) : BillingSession×Errors := (out.1,out.2.toList)

def fundingPreConsume (down : Bool) (amount : Int) :
    BillingSession×Errors :=
  match s.kind with
  | .wallet => single (s.call down (WalletFunding.preConsume amount))
  | .subscription => single (s.call down (SubscriptionFunding.preConsume addDate now amount))
  | .composite => s.callComposite (CompositeFunding.preConsume (benefitSources addDate now) amount)

def fundingSettle (down : Bool) (delta : Int) :
    BillingSession×Errors :=
  match s.kind with
  | .wallet => single (s.call down (WalletFunding.settle delta))
  | .subscription => single (s.call down (SubscriptionFunding.settle delta))
  | .composite => s.callComposite (CompositeFunding.settle (benefitSources addDate now) delta)

def fundingRefund (down : Bool) : BillingSession×Errors :=
  match s.kind with
  | .wallet => single (s.call down WalletFunding.refund)
  | .subscription => single (s.call down SubscriptionFunding.refund)
  | .composite => s.callComposite (CompositeFunding.refund (benefitSources addDate now))

def reserveFunding (down : Bool) (delta : Int) :
    BillingSession×Errors :=
  match s.kind with
  | .wallet => single (s.call down fun w =>
      match decreaseUserQuota delta w with
      | (w,none) => ({ w with purse.consumed := w.purse.consumed+delta },none)
      | (w,some err) => (w,some err))
  | .subscription => single (s.call down (postConsumeSubscription delta))
  | .composite => s.callComposite (CompositeFunding.reserveAdditional (benefitSources addDate now) delta)

def rollbackFundingReserve (down : Bool) (delta : Int) :
    BillingSession×Errors :=
  match s.kind with
  | .wallet => single (s.call down fun w =>
      match increaseUserQuota delta w with
      | (w,none) => ({ w with purse.consumed := w.purse.consumed-delta },none)
      | (w,some err) => (w,some err))
  | .subscription => single (s.call down (postConsumeSubscription (-delta)))
  | .composite => s.callComposite (CompositeFunding.rollbackAdditional (benefitSources addDate now) delta)

def preConsumeTokenQuota (s : BillingSession) (down : Bool) (quota : Int) : BillingSession×Option FundingError :=
  if quota<0 then (s,some negativeQuota)
  else if s.relayInfo.isPlayground ∨ s.relayInfo.tokenQuotaExempt then (s,none)
  else s.call down (tryReserveTokenQuota quota s.relayInfo.tokenUnlimited)

def reserveToken (s : BillingSession) (down : Bool) (delta : Int) : BillingSession×Option FundingError :=
  if delta≤0 ∨ !s.usesTokenQuota then (s,none) else s.preConsumeTokenQuota down delta

def fundingHolds (s : BillingSession) : Bool :=
  match s.kind with
  | .wallet => decide (s.world.purse.consumed>0)
  | .subscription => decide (s.world.subscription.preConsumed>0)
  | .composite => (List.range 3).any fun i => decide (s.funding.consumed i>0)

def needsRefundLocked (s : BillingSession) : Bool :=
  if s.settled || s.refunded || s.fundingSettled then false
  else decide (s.tokenConsumed>0) || s.fundingHolds

/-- Which of the database calls of one session call fail: the funding's own one, the one that takes
back or completes it, the token's, and the queries before a session exists. -/
structure Faults where
  funding : Bool := false
  undo : Bool := false
  token : Bool := false
  query : Bool := false

def settle (actualQuota : Int) (faults : Faults) :
    BillingSession×Errors :=
  if s.settled then (s,[]) else
  let delta := actualQuota-s.preConsumedQuota
  match if s.fundingSettled then (s,[]) else s.fundingSettle addDate now faults.funding delta with
  | (s, []) =>
    let s := { s with fundingSettled := true }
    if delta=0 then ({ s with settled := true },[])
    else if s.usesTokenQuota then
      let (s,tokenErr) := s.call faults.token (if delta>0 then decreaseTokenQuota delta else increaseTokenQuota (-delta))
      ({ s with settled := true },tokenErr.toList)
    else ({ s with settled := true },[])
  | (s,errs) => (s,errs)

inductive RefundLog where
  | billingSource | extraReserved | tokenQuota
  deriving DecidableEq

def refundAll (faults : Faults) :
    BillingSession×List RefundLog :=
  let (s,fundingErrs) := s.fundingRefund addDate now faults.funding
  let (s,extraErr) :=
    if s.extraReserved>0 ∧ s.kind=.subscription ∧ s.world.subscription.subscriptionId>0 then
      s.call faults.undo (postConsumeSubscription (-s.extraReserved))
    else (s,none)
  let (s,tokenErr) :=
    if s.tokenConsumed>0 ∧ s.usesTokenQuota then s.call faults.token (increaseTokenQuota s.tokenConsumed)
    else (s,none)
  (s,(if fundingErrs≠[] then [.billingSource] else [])++(if extraErr.isSome then [.extraReserved] else []) ++
    (if tokenErr.isSome then [.tokenQuota] else []))

def refund (faults : Faults) :
    BillingSession×List RefundLog :=
  if s.settled || s.refunded || !s.needsRefundLocked then (s,[])
  else refundAll addDate now { s with refunded := true } faults

def reserved (delta : Int) : BillingSession :=
  { s with
    preConsumedQuota := s.preConsumedQuota+delta
    tokenConsumed := if s.usesTokenQuota then s.tokenConsumed+delta else s.tokenConsumed
    extraReserved := s.extraReserved + if s.kind=.composite then
      CompositeFunding.subscriptionAdditional (benefitSources addDate now) s.funding else delta }

def reserve (targetQuota : Int) (faults : Faults) :
    BillingSession×Errors :=
  if s.settled || s.refunded || s.trusted || decide (targetQuota ≤ s.preConsumedQuota) then (s,[]) else
  let delta := targetQuota-s.preConsumedQuota
  match s.reserveFunding addDate now faults.funding delta with
  | (s,[]) =>
    match s.reserveToken faults.token delta with
    | (s,none) => (s.reserved addDate now delta,[])
    | (s,some err) =>
      let (s,errs) := s.rollbackFundingReserve addDate now faults.undo delta
      (s,err::errs)
  | (s,errs) => (s,errs)

def shouldTrust (s : BillingSession) : Bool :=
  !s.relayInfo.forcePreConsume && decide (s.relayInfo.trustQuota>0) &&
    (s.relayInfo.tokenUnlimited || decide (s.relayInfo.tokenQuota>s.relayInfo.trustQuota)) &&
    (match s.kind with
      | .wallet => decide (s.relayInfo.userQuota>s.relayInfo.trustQuota)
      | _ => false)

inductive ApiErrorCode where
  | preConsumeTokenQuotaFailed | insufficientUserQuota | updateDataError | queryDataError

/-- Is it `ErrInsufficientWalletQuota`, or a message of a subscription that cannot pay? -/
def insufficientFunds : FundingError → Bool
  | .insufficientWalletQuota => true
  | .message text => (FundingError.message text).skippable
  | .sourceFailed _ err => insufficientFunds err
  | _ => false

def apiErrorCode (errs : Errors) : ApiErrorCode :=
  if errs.any insufficientFunds then .insufficientUserQuota else .updateDataError

def takeToken (s : BillingSession) (down : Bool) (quota : Int) : BillingSession×Option FundingError :=
  if quota>0 ∧ s.usesTokenQuota then
    match s.preConsumeTokenQuota down quota with
    | (s,none) => ({ s with tokenConsumed := quota },none)
    | (s,some err) => (s,some err)
  else (s,none)

def returnToken (s : BillingSession) (down : Bool) : BillingSession×Option FundingError :=
  if s.tokenConsumed>0 ∧ s.usesTokenQuota then
    let (s,err) := s.call down (increaseTokenQuota s.tokenConsumed)
    ({ s with tokenConsumed := 0 },err)
  else (s,none)

def effectiveQuota (s : BillingSession) (quota : Int) : Int := if s.shouldTrust then 0 else quota

def preConsume (quota : Int) (faults : Faults) :
    BillingSession×Option ApiErrorCode :=
  match { s with trusted := s.shouldTrust }.takeToken faults.token (s.effectiveQuota quota) with
  | (s',some _) => (s',some .preConsumeTokenQuotaFailed)
  | (s',none) =>
    match s'.fundingPreConsume addDate now faults.funding (s.effectiveQuota quota) with
    | (s',[]) => ({ s' with preConsumedQuota := s.effectiveQuota quota },none)
    | (s',errs) =>
      let (s',err) := s'.returnToken faults.undo
      (s',some (apiErrorCode (errs++err.toList)))

end BillingSession

open BillingSession

def emptySession (relayInfo : RelayInfo) (kind : FundingKind) (w : World) : BillingSession :=
  { relayInfo := relayInfo, kind := kind, funding := newCompositeFunding w }

abbrev Opening := World×Except ApiErrorCode BillingSession

def opening (out : BillingSession×Option ApiErrorCode) : Opening :=
  match out with
  | (s,none) => (s.world,.ok s)
  | (s,some code) => (s.world,.error code)

def tryWallet (addDate : AddDate) (now : Int) (relayInfo : RelayInfo) (preConsumedQuota : Int) (faults : Faults)
    (w : World) : Opening :=
  if faults.query then (w,.error .queryDataError)
  else if w.wallet≤0 then (w,.error .insufficientUserQuota)
  else if w.wallet-preConsumedQuota<0 then (w,.error .insufficientUserQuota)
  else
    let w := { w with purse := { userId := relayInfo.userId } }
    opening ((emptySession { relayInfo with userQuota := w.wallet } .wallet w).preConsume addDate now
      preConsumedQuota faults)

def trySubscription (addDate : AddDate) (now : Int) (relayInfo : RelayInfo) (preConsumedQuota : Int)
    (faults : Faults) (w : World) : Opening :=
  let subConsume := if preConsumedQuota≤0 then 1 else preConsumedQuota
  let w := { w with subscription := { requestId := relayInfo.requestId, userId := relayInfo.userId, amount := subConsume } }
  opening ((emptySession relayInfo .subscription w).preConsume addDate now subConsume faults)

/-- The benefit path of `NewBillingSession`; `none` where it is not taken. -/
def tryBenefit (addDate : AddDate) (now : Int) (relayInfo : RelayInfo) (preConsumedQuota : Int) (faults : Faults)
    (w : World) : Option Opening :=
  if !relayInfo.benefitGroupExplicit then none else
  relayInfo.usingGroupId.bind fun groupID =>
    if faults.query then some (w,.error .queryDataError) else
    match getBenefitVoucherAvailableQuota w.benefit relayInfo.userId groupID now with
    | .error _ => some (w,.error .queryDataError)
    | .ok available =>
      if available>0 then
        let w := { w with
          voucher := { requestID := relayInfo.requestId, userID := relayInfo.userId, groupID := groupID }
          subscription := { requestId := relayInfo.requestId++":subscription", userId := relayInfo.userId }
          purse := { userId := relayInfo.userId } }
        some (opening ((emptySession relayInfo .composite w).preConsume addDate now preConsumedQuota faults))
      else none

def orElse (first : Opening) (next : World → Opening) : Opening :=
  match first with
  | (w,.error .insufficientUserQuota) => next w
  | out => out

def normalizeBillingPreference (pref : String) : String :=
  if trimSpace pref∈["subscription_first", "wallet_first", "subscription_only", "wallet_only"] then trimSpace pref
  else "subscription_first"

def newBillingSession (addDate : AddDate) (now : Int) (relayInfo : RelayInfo) (preConsumedQuota : Int)
    (faults : Faults) (w : World) : Opening :=
  let pref := normalizeBillingPreference relayInfo.billingPreference
  let wallet := tryWallet addDate now relayInfo preConsumedQuota faults
  let subscription := trySubscription addDate now relayInfo preConsumedQuota faults
  match tryBenefit addDate now relayInfo preConsumedQuota faults w with
  | some out => out
  | none =>
    if pref="subscription_only" then subscription w
    else if pref="wallet_only" then wallet w
    else if pref="wallet_first" then orElse (wallet w) subscription
    else if faults.query then (w,.error .queryDataError)
    else match hasActiveUserSubscription w.subs relayInfo.userId now with
      | .error _ => (w,.error .queryDataError)
      | .ok false => wallet w
      | .ok true => orElse (subscription w) fun w =>
          match userActiveSubscriptionsAllowWalletOverflow w.subs relayInfo.userId now with
          | .error _ => (w,.error .queryDataError)
          | .ok true => wallet w
          | .ok false => (w,.error .insufficientUserQuota)

end NewApi.Billing
