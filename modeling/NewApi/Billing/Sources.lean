import NewApi.Funding.Composite
import NewApi.Subscription.Model
import NewApi.Voucher.Model

/-! The three funding sources of `service/funding_source.go` over the stores they move: the
benefit voucher tables, the subscription tables, the user's wallet and the request's token.
`now` is the clock of the call. -/
namespace NewApi.Billing
open Funding Subscription Voucher

structure BenefitVoucherFunding where
  requestID : String
  userID : Int
  groupID : Int
  consumed : Int := 0
  reserved : Int := 0
  voucherID : Int := 0
  activityID : Int := 0
  deriving DecidableEq

structure SubscriptionFunding where
  requestId : String
  userId : Int
  amount : Int := 0
  subscriptionId : Int := 0
  preConsumed : Int := 0
  amountTotal : Int := 0
  amountUsedAfter : Int := 0
  deriving DecidableEq

structure WalletFunding where
  userId : Int
  consumed : Int := 0
  deriving DecidableEq

/-- The stores and the fields of the sources; `down` makes the next call of the database fail. -/
structure World where
  benefit : BenefitDB
  subs : SubscriptionDB
  wallet : Int
  token : Int
  voucher : BenefitVoucherFunding
  subscription : SubscriptionFunding
  purse : WalletFunding
  down : Bool := false
  deriving DecidableEq

def dbError : FundingError := .message "database error"
def negativeQuota : FundingError := .message "quota 不能为负数！"

def decreaseUserQuota (quota : Int) : Call World := fun w =>
  if quota<0 then (w,some negativeQuota)
  else if w.down then (w,some dbError) else ({ w with wallet := w.wallet-quota },none)

def increaseUserQuota (quota : Int) : Call World := fun w =>
  if quota<0 then (w,some negativeQuota)
  else if w.down then (w,some dbError) else ({ w with wallet := w.wallet+quota },none)

def tryReserveUserQuota (quota : Int) : Call World := fun w =>
  if quota<0 then (w,some negativeQuota)
  else if quota=0 then (w,none)
  else if w.down then (w,some dbError)
  else if w.wallet≥quota then ({ w with wallet := w.wallet-quota },none)
  else (w,some .insufficientWalletQuota)

def decreaseTokenQuota (quota : Int) : Call World := fun w =>
  if quota<0 then (w,some negativeQuota)
  else if w.down then (w,some dbError) else ({ w with token := w.token-quota },none)

def increaseTokenQuota (quota : Int) : Call World := fun w =>
  if quota<0 then (w,some negativeQuota)
  else if w.down then (w,some dbError) else ({ w with token := w.token+quota },none)

def tryReserveTokenQuota (quota : Int) (unlimited : Bool) : Call World := fun w =>
  if quota<0 then (w,some negativeQuota)
  else if quota=0 then (w,none)
  else if unlimited then decreaseTokenQuota quota w
  else if w.down then (w,some dbError)
  else if w.token≥quota then ({ w with token := w.token-quota },none)
  else (w,some (.message "token quota is not enough"))

def maxInt : Int := 2 ^ 63-1

def clampCapacity (quota : Int) : Int := if quota≤0 then 0 else if quota>maxInt then maxInt else quota

namespace WalletFunding

def capacity (w : World) : Int := if w.purse.userId≤0 then 0 else clampCapacity w.wallet

def preConsume (amount : Int) : Call World := fun w =>
  if amount≤0 then (w,none) else
  match tryReserveUserQuota amount w with
  | (w,none) => ({ w with purse.consumed := amount },none)
  | (w,some err) => (w,some err)

def settle (delta : Int) : Call World := fun w =>
  if delta=0 then (w,none)
  else if delta>0 then decreaseUserQuota delta w else increaseUserQuota (-delta) w

def refund : Call World := fun w =>
  if w.purse.consumed≤0 then (w,none) else increaseUserQuota w.purse.consumed w

def reserveAdditional (amount : Int) : Call World := fun w =>
  if amount≤0 then (w,none) else
  match decreaseUserQuota amount w with
  | (w,none) => ({ w with purse.consumed := w.purse.consumed+amount },none)
  | (w,some err) => (w,some err)

def refundAdditional (amount : Int) : Call World := fun w =>
  if amount≤0 then (w,none) else
  match increaseUserQuota amount w with
  | (w,none) => ({ w with purse.consumed := w.purse.consumed-amount },none)
  | (w,some err) => (w,some err)

end WalletFunding

def walletSource : FundingSource World where
  source := .wallet
  preConsume := WalletFunding.preConsume
  settle := WalletFunding.settle
  refund := WalletFunding.refund
  capacity := some WalletFunding.capacity
  additionalCapacity := some WalletFunding.capacity
  reserveAdditional := some WalletFunding.reserveAdditional
  refundAdditional := some WalletFunding.refundAdditional

def postConsumeSubscription (delta : Int) : Call World := fun w =>
  if w.subscription.subscriptionId≤0 then (w,some (.message SubscriptionError.invalidSubscriptionId.text))
  else if delta=0 then (w,none)
  else if w.down then (w,some dbError)
  else match postConsumeUserSubscriptionDelta w.subs w.subscription.subscriptionId delta with
  | .ok subs => ({ w with subs := subs },none)
  | .error err => (w,some (.message err.text))

namespace SubscriptionFunding

def capacity (now : Int) (w : World) : Int :=
  match getUserSubscriptionAvailableQuota w.subs w.subscription.userId now with
  | .ok available => clampCapacity available
  | .error _ => 0

def bound (f : SubscriptionFunding) (res : SubscriptionPreConsumeResult) : SubscriptionFunding :=
  { f with subscriptionId := res.userSubscriptionId, preConsumed := res.preConsumed,
           amountTotal := res.amountTotal, amountUsedAfter := res.amountUsedAfter }

def preConsumeAmount (addDate : AddDate) (now amount : Int) : Call World := fun w =>
  if w.down then (w,some dbError) else
  match preConsumeUserSubscription addDate w.subs w.subscription.requestId w.subscription.userId amount now with
  | .ok (subs,res) => ({ w with subs := subs, subscription := w.subscription.bound res },none)
  | .error err => (w,some (.message err.text))

def preConsume (addDate : AddDate) (now amount : Int) : Call World := fun w =>
  let w := if amount>0 then { w with subscription.amount := amount } else w
  preConsumeAmount addDate now w.subscription.amount w

def settle (delta : Int) : Call World := fun w =>
  if delta=0 then (w,none) else postConsumeSubscription delta w

def reserveAdditional (amount : Int) : Call World := fun w =>
  if amount≤0 then (w,none) else postConsumeSubscription amount w

def refundAdditional (amount : Int) : Call World := fun w =>
  if amount≤0 then (w,none) else postConsumeSubscription (-amount) w

def refund : Call World := fun w =>
  if w.subscription.preConsumed≤0 then (w,none)
  else if w.down then (w,some dbError)
  else match refundSubscriptionPreConsume w.subs w.subscription.requestId with
  | .ok subs => ({ w with subs := subs },none)
  | .error err => (w,some (.message err.text))

end SubscriptionFunding

def subscriptionSource (addDate : AddDate) (now : Int) : FundingSource World where
  source := .subscription
  preConsume := SubscriptionFunding.preConsume addDate now
  settle := SubscriptionFunding.settle
  refund := SubscriptionFunding.refund
  capacity := some (SubscriptionFunding.capacity now)
  additionalCapacity := some (SubscriptionFunding.capacity now)
  reserveAdditional := some SubscriptionFunding.reserveAdditional
  refundAdditional := some SubscriptionFunding.refundAdditional

def benefitErrorText : BenefitError → String
  | .reserveParams => "福利券预扣参数无效"
  | .recordNotFound => "record not found"
  | .duplicatedKey => "duplicated key not allowed"
  | .refundedTerminal => "福利券请求已退款终态，不能重复预扣"
  | .settledTerminal => "福利券请求已结算终态，不能追加预扣"
  | .voucherUnavailable => "福利券不可用"
  | .refundAdditionalParams => "福利券追加预扣退款参数无效"
  | .missingPreConsume => "福利券结算缺少预扣上下文"
  | .refundExceedsReserved => "福利券追加预扣退款超过预扣额度"
  | .blankRequestID => "福利券结算请求 ID 不能为空"
  | .settleAfterRefund => "福利券请求已进入退款终态，不能重复结算"
  | .settleMismatch => "福利券重复结算额度与原结算不一致"
  | .voucherDead => "福利券已失效"
  | .negativeActual => "福利券实际结算额度不能为负"
  | .balanceShort => "福利券余额不足以补扣"
  | .settleShort => "福利券结算额度不足"
  | .rollbackMismatch => "福利券结算补偿额度与原结算不一致"
  | .rollbackMissingPre => "福利券结算补偿缺少预扣流水"
  | .rollbackInvalid => "福利券结算补偿额度无效"
  | .rollbackBalance => "福利券结算补偿后余额无效"
  | .voidParams => "批量作废参数无效"
  | .voucherIdInvalid => "福利券 ID 必须为正整数"
  | .blankReason => "福利活动终止原因不能为空"
  | .transition => "福利活动状态转换无效"
  | .allocationParams => "福利券请求流水参数无效"
  | .queryParams => "福利券查询参数无效"

namespace BenefitVoucherFunding

def capacity (now : Int) (w : World) : Int :=
  if w.voucher.userID≤0 ∨ w.voucher.groupID≤0 then 0 else
  match getBenefitVoucherAvailableQuota w.benefit w.voucher.userID w.voucher.groupID now with
  | .ok quota => clampCapacity quota
  | .error _ => 0

def holding (f : BenefitVoucherFunding) (r : BenefitVoucherReservation) : BenefitVoucherFunding :=
  { f with reserved := r.reserved, consumed := r.reserved, voucherID := r.voucherID, activityID := r.activityID }

/-- `ReserveBenefitVoucherQuota` up to the amount; a reservation always comes with a voucher. -/
def reserveUpTo (now amount : Int) (w : World) : Except BenefitError World :=
  (reserveBenefitVoucherQuota w.benefit w.voucher.requestID w.voucher.userID w.voucher.groupID amount now).bind
    fun (benefit,reservation) =>
      match reservation with
      | some r => .ok { w with benefit := benefit, voucher := w.voucher.holding r }
      | none => .error .recordNotFound

def preConsume (now amount : Int) : Call World := fun w =>
  if w.down then (w,some dbError) else
  match reserveUpTo now amount w with
  | .ok w => (w,none)
  | .error err => (w,some (if err=.voucherUnavailable then .insufficientBenefitVoucher
      else .message (benefitErrorText err)))

def reserveAdditional (now amount : Int) : Call World := fun w =>
  if amount≤0 then (w,none)
  else if w.down then (w,some dbError) else
  match reserveUpTo now (w.voucher.reserved+amount) w with
  | .ok w => (w,none)
  | .error err => (w,some (.message (benefitErrorText err)))

/-- A voucher transaction that then moves the counters of the source. -/
def booked (out : Except BenefitError BenefitDB) (reserved consumed : Int) : Call World := fun w =>
  if w.down then (w,some dbError) else
  match out with
  | .ok benefit => ({ w with benefit := benefit, voucher.reserved := w.voucher.reserved+reserved,
                             voucher.consumed := w.voucher.consumed+consumed },none)
  | .error err => (w,some (.message (benefitErrorText err)))

def refundAdditional (amount : Int) : Call World := fun w =>
  if amount≤0 then (w,none) else
  booked (refundBenefitVoucherAdditional w.benefit w.voucher.requestID amount) (-amount) (-amount) w

def settle (now delta : Int) : Call World := fun w =>
  booked (settleBenefitVoucherQuota w.benefit w.voucher.requestID delta now) 0 delta w

def rollbackSettle (delta : Int) : Call World := fun w =>
  booked (rollbackBenefitVoucherSettlement w.benefit w.voucher.requestID delta) 0 (-delta) w

def refund : Call World := fun w =>
  if w.voucher.reserved≤0 then (w,none) else
  booked (refundBenefitVoucherQuota w.benefit w.voucher.requestID) (-w.voucher.reserved) (-w.voucher.consumed) w

end BenefitVoucherFunding

def voucherSource (now : Int) : FundingSource World where
  source := .benefitVoucher
  preConsume := BenefitVoucherFunding.preConsume now
  settle := BenefitVoucherFunding.settle now
  refund := BenefitVoucherFunding.refund
  capacity := some (BenefitVoucherFunding.capacity now)
  additionalCapacity := some (BenefitVoucherFunding.capacity now)
  preConsumedAmount := some fun w => w.voucher.consumed
  reserveAdditional := some (BenefitVoucherFunding.reserveAdditional now)
  refundAdditional := some BenefitVoucherFunding.refundAdditional
  rollbackSettle := some BenefitVoucherFunding.rollbackSettle

def benefitSources (addDate : AddDate) (now : Int) : List (FundingSource World) :=
  [voucherSource now,subscriptionSource addDate now,walletSource]

end NewApi.Billing
