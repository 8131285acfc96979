import NewApi.Lib.GoStrings
import NewApi.Lib.Keyed

/-! Payment orders: the rows of `top_ups`, `top_up_payment_attempts` and `subscription_orders`, and which
of them may still be completed by a late callback of a provider. Amounts of money are the decimals that
`decimal.NewFromFloat` reads from their columns. -/
namespace NewApi.Payment
open GoStrings

inductive TopUpStatus where
  | pending | success | failed | expired
  deriving DecidableEq

def paymentProviderEpay : String := "epay"
def paymentProviderStripe : String := "stripe"
def paymentProviderWaffoPancake : String := "waffo_pancake"

structure TopUp where
  id : Int
  userId : Int
  amount : Int := 0
  money : Rat := 0
  originalMoney : Rat := 0
  discountMoney : Rat := 0
  actualMoney : Rat := 0
  promoCodeId : Int := 0
  affiliateSourceQuota : Int := 0
  creditedQuota : Int := 0
  invoiceRequired : Bool := false
  invoicePending : Bool := false
  tradeNo : String
  paymentMethod : String := ""
  paymentProvider : String := ""
  providerOrderId : String := ""
  providerAmount : String := ""
  providerCurrency : String := ""
  createTime : Int := 0
  completeTime : Int := 0
  status : TopUpStatus := .pending

inductive AttemptStatus where
  | created | launched | launchFailed | succeeded
  deriving DecidableEq

structure TopUpPaymentAttempt where
  id : Int
  topUpId : Int
  tradeNo : String
  paymentProvider : String
  paymentMethod : String
  providerOrderId : String := ""
  providerAmount : String
  providerCurrency : String
  status : AttemptStatus := .created
  createTime : Int
  updateTime : Int

structure SubscriptionOrder where
  tradeNo : String
  paymentProvider : String := ""
  providerOrderId : String := ""
  providerAmount : String := ""
  providerCurrency : String := ""
  createTime : Int := 0

structure OrderTables where
  topUps : List TopUp := []
  attempts : List TopUpPaymentAttempt := []
  subscriptionOrders : List SubscriptionOrder := []

def topUpQueryWindowSeconds : Int := 30*24*60*60

def topUpQueryCutoff (now : Int) : Int := now-topUpQueryWindowSeconds

inductive OrderKind where
  | topup | subscription
  deriving DecidableEq

def promoReservationCallbackEligible (orders : OrderTables) (now : Int) : OrderKind → String → Bool
  | .topup, orderNo =>
    match Keyed.lookup TopUp.tradeNo orderNo orders.topUps with
    | none => false
    | some topUp =>
      if topUp.createTime<topUpQueryCutoff now then false
      else (orders.attempts.any fun a => decide (a.topUpId=topUp.id ∧ a.createTime≥topUpQueryCutoff now)) ||
        !isBlank topUp.providerOrderId
  | .subscription, orderNo =>
    match Keyed.lookup SubscriptionOrder.tradeNo orderNo orders.subscriptionOrders with
    | none => false
    | some order =>
      if order.createTime<topUpQueryCutoff now then false
      else !isBlank order.providerOrderId ||
        (decide (order.paymentProvider=paymentProviderEpay) && !isBlank order.providerAmount &&
          !isBlank order.providerCurrency)

end NewApi.Payment
