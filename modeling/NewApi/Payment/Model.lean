import NewApi.Affiliate.Rewards
import NewApi.Promo.Model

/-! Top-up orders: the transactions of `model/topup.go` and `model/topup_payment_attempt.go` that complete an
order, close it, or open another attempt to pay it. An order is found and saved by its trade number. -/
namespace NewApi.Payment
open Runs GoStrings Affiliate Promo

structure InvoiceRecord where
  userId : Int
  sourceId : String

structure PaymentDB where
  topUps : List TopUp
  attempts : List TopUpPaymentAttempt := []
  subscriptionOrders : List SubscriptionOrder := []
  promo : PromoDB := { promos := [] }
  affiliate : AffiliateDB
  invoices : List InvoiceRecord := []

inductive TopUpError where
  | tradeNoMissing | orderNoMissing | notFound | orderNotFound | methodMismatch | statusInvalid | orderStatusInvalid
  | notManuallyCompletable | notFreeOrder | invalidQuota | quotaLimitExceeded | userNotFound
  | attemptNotFound | attemptMismatch | attemptStatusInvalid | database
  | promo (e : PromoError) | affiliate (e : AffiliateError)

/-- What a transaction reads beside the tables: the clock, `common.QuotaPerUnit`, the parser of the decimal
package, the table of `unicode.ToUpper`, the answers for the rewards, and whether one of its statements fails in the
database. -/
structure Reads where
  now : Int := 0
  quotaPerUnit : Rat := 500000
  newFromString : String → Option Rat := fun _ => none
  upper : Char → Char := Char.toUpper
  rewards : RewardReads := {}
  dbError : Bool := false

namespace PaymentDB

def orders (db : PaymentDB) : OrderTables :=
  { topUps := db.topUps, attempts := db.attempts, subscriptionOrders := db.subscriptionOrders }

def topUp? (db : PaymentDB) (tradeNo : String) : Option TopUp := Keyed.lookup TopUp.tradeNo tradeNo db.topUps

def saveTopUp (db : PaymentDB) (topUp : TopUp) : PaymentDB :=
  { db with topUps := Keyed.modify TopUp.tradeNo topUp.tradeNo (fun _ => topUp) db.topUps }

def attempt? (db : PaymentDB) (id : Int) : Option TopUpPaymentAttempt :=
  Keyed.lookup TopUpPaymentAttempt.id id db.attempts

def updateAttempt (db : PaymentDB) (id : Int) (f : TopUpPaymentAttempt → TopUpPaymentAttempt) : PaymentDB :=
  { db with attempts := Keyed.modify TopUpPaymentAttempt.id id f db.attempts }

end PaymentDB

variable (reads : Reads) (db : PaymentDB) (topUp : TopUp)

def atomically {α : Type} (reads : Reads) (out : Except TopUpError α) : Except TopUpError α :=
  if reads.dbError then .error .database else out

/-- `decimal.Round(0)`: half away from zero. -/
def roundDecimal (d : Rat) : Int := if 0≤d then (d+1 / 2).floor else -(-d+1 / 2).floor

def minWalletQuota : Int := -maxWalletQuota-1

def walletQuotaFromDecimalStrict (d : Rat) : Option Int :=
  if roundDecimal d>maxWalletQuota ∨ roundDecimal d < minWalletQuota then none else some (roundDecimal d)

def quotaToAdd (reads : Reads) (topUp : TopUp) (amount : Rat) : Except TopUpError Int :=
  if topUp.creditedQuota>0 then .ok topUp.creditedQuota else
  match walletQuotaFromDecimalStrict (amount*reads.quotaPerUnit) with
  | some quota => if quota≤0 then .error .invalidQuota else .ok quota
  | none => .error .invalidQuota

def creditTopUpQuotaWithSnapshot (db : PaymentDB) (userId creditedQuota : Int) :
    Except TopUpError (PaymentDB×Int×Int) :=
  if creditedQuota≤0 ∨ creditedQuota>maxWalletQuota then .error .invalidQuota else
  match db.affiliate.user? userId with
  | none => .error .userNotFound
  | some user =>
    if user.quota>maxWalletQuota-creditedQuota then .error .quotaLimitExceeded else
    .ok ({ db with affiliate := db.affiliate.updateUser userId fun u => { u with quota := u.quota+creditedQuota } },
      user.quota,user.quota+creditedQuota)

def withPromo (db : PaymentDB) (out : Except PromoError PromoDB) : Except TopUpError PaymentDB :=
  match out with
  | .ok promo => .ok { db with promo := promo }
  | .error e => .error (.promo e)

def recordTopUpPromoUsageTx (enforceLimit : Bool) :
    Except TopUpError PaymentDB :=
  if topUp.promoCodeId≤0 then .ok db else
  withPromo db (recordPromoCodeUsageTx db.promo db.orders
    { promoCodeId := topUp.promoCodeId, userId := topUp.userId, orderType := .topup, orderNo := topUp.tradeNo
      originalAmount := topUp.originalMoney, discountAmount := topUp.discountMoney, paidAmount := topUp.actualMoney }
    enforceLimit reads.now)

/-- A new invoice also saves the order as it stands in memory. -/
def createInvoiceRecordFromTopUpTx (db : PaymentDB) (topUp : TopUp) : PaymentDB×TopUp :=
  if topUp.invoiceRequired=false then (db,topUp)
  else if db.invoices.any fun i => decide (i.sourceId=topUp.tradeNo) then (db,topUp) else
  let topUp := { topUp with invoicePending := true }
  let invoice : InvoiceRecord := { userId := topUp.userId, sourceId := topUp.tradeNo }
  (PaymentDB.saveTopUp { db with invoices := db.invoices++[invoice] } topUp,topUp)

def topUpAffiliateSourceQuota (fallbackQuota : Int) : Int :=
  if topUp.affiliateSourceQuota>0 then topUp.affiliateSourceQuota else fallbackQuota

/-- A completed order: the quota credited to the user's wallet, and the source quota of the rewards. -/
structure Completion where
  tradeNo : String
  userId : Int
  credited : Int
  affiliateSource : Int
  deriving DecidableEq

/-- What the completions share once the quota is known. Only the free completion reserves the promo code again and
enforces its limit. -/
def finishTopUp (quota fallbackQuota : Int) (free : Bool) :
    Except TopUpError (PaymentDB×Completion) :=
  let topUp := { topUp with completeTime := reads.now, status := .success }
  (creditTopUpQuotaWithSnapshot (db.saveTopUp topUp) topUp.userId quota).bind fun (db,balanceBefore,balanceAfter) =>
  let topUp := { topUp with creditedQuota := balanceAfter-balanceBefore }
  (if free then
    withPromo db (reservePromoCodeForOrderTx db.promo db.orders topUp.promoCodeId .topup topUp.tradeNo 0 reads.now)
  else .ok db).bind fun db =>
  (recordTopUpPromoUsageTx reads db topUp free).bind fun db =>
  let (db,topUp) := createInvoiceRecordFromTopUpTx db topUp
  match createAffiliateRewardsForPaymentTx reads.rewards db.affiliate topUp.userId .topup topUp.tradeNo
      (topUpAffiliateSourceQuota topUp fallbackQuota) with
  | .error e => .error (.affiliate e)
  | .ok affiliate =>
    .ok ({ db with affiliate := affiliate },
      { tradeNo := topUp.tradeNo, userId := topUp.userId, credited := quota
        affiliateSource := topUpAffiliateSourceQuota topUp fallbackQuota })

abbrev Completed := Except TopUpError (PaymentDB×Option Completion)

def completed (out : Except TopUpError (PaymentDB×Completion)) : Completed :=
  out.map fun (db,completion) => (db,some completion)

def rechargeEpay (tradeNo actualPaymentMethod : String) : Completed :=
  if tradeNo="" then .error .tradeNoMissing else
  atomically reads <|
  match db.topUp? tradeNo with
  | none => .error .notFound
  | some topUp =>
    if topUp.paymentProvider≠paymentProviderEpay then .error .methodMismatch
    else if topUp.status=.success then .ok (db,none)
    else if topUp.status≠.pending then .error .statusInvalid else
    let topUp := if actualPaymentMethod≠"" ∧ topUp.paymentMethod≠actualPaymentMethod then
        { topUp with paymentMethod := actualPaymentMethod }
      else topUp
    (quotaToAdd reads topUp topUp.amount).bind fun quota =>
    completed (finishTopUp reads db topUp quota quota false)

def recharge (referenceId : String) : Completed :=
  if referenceId="" then .error .tradeNoMissing else
  atomically reads <|
  match db.topUp? referenceId with
  | none => .error .orderNotFound
  | some topUp =>
    if topUp.paymentProvider≠paymentProviderStripe then .error .methodMismatch
    else if topUp.status≠.pending then .error .orderStatusInvalid else
    (quotaToAdd reads topUp topUp.money).bind fun quota =>
    completed (finishTopUp reads db topUp quota quota false)

def rechargeWaffoPancake (tradeNo : String) : Completed :=
  if tradeNo="" then .error .tradeNoMissing else
  atomically reads <|
  match db.topUp? tradeNo with
  | none => .error .orderNotFound
  | some topUp =>
    if topUp.paymentProvider≠paymentProviderWaffoPancake then .error .methodMismatch
    else if topUp.status=.success then .ok (db,none)
    else if topUp.status≠.pending then .error .orderStatusInvalid else
    (quotaToAdd reads topUp topUp.amount).bind fun quota =>
    completed (finishTopUp reads db topUp quota quota false)

def completeFreeTopUpTx (tradeNo expectedPaymentProvider : String) : Completed :=
  if isBlank tradeNo then .error .orderNoMissing else
  atomically reads <|
  match db.topUp? tradeNo with
  | none => .error .notFound
  | some topUp =>
    if expectedPaymentProvider≠"" ∧ topUp.paymentProvider≠expectedPaymentProvider then .error .methodMismatch
    else if topUp.status=.success then .ok (db,none)
    else if topUp.status≠.pending then .error .statusInvalid
    else if topUp.promoCodeId≤0 ∨ topUp.actualMoney>0 ∨ topUp.originalMoney≤0 ∨ topUp.discountMoney≤0 ∨
        topUp.money>0 then .error .notFreeOrder else
    (quotaToAdd reads topUp topUp.amount).bind fun quota =>
    completed (finishTopUp reads db topUp quota 0 true)

/-- The money of a Stripe order is its quantity of dollars. -/
def manualCompleteTopUp (tradeNo : String) : Completed :=
  if tradeNo="" then .error .orderNoMissing else
  atomically reads <|
  match db.topUp? tradeNo with
  | none => .error .orderNotFound
  | some topUp =>
    if topUp.status=.success then .ok (db,none)
    else if topUp.status≠.pending then .error .notManuallyCompletable else
    (quotaToAdd reads topUp
      (if topUp.paymentProvider=paymentProviderStripe then topUp.money else topUp.amount)).bind fun quota =>
    completed (finishTopUp reads db topUp quota quota false)

/-- What a callback knows of an order from before the attempts were stored. -/
structure LegacyTopUpPaymentSnapshot where
  providerOrderId : String := ""
  providerAmount : String := ""
  providerCurrency : String := ""
  amountTolerance : Rat := 0

def allowLegacyTopUpCallback (provider : String) (now : Int) : Bool :=
  decide (topUp.paymentProvider=trimSpace provider ∧ topUp.createTime≥topUpQueryCutoff now)

/-- The normalized snapshot, if there is one: it needs a legacy call, an amount and a currency. -/
def checkLegacySnapshot (reads : Reads) (legacy : Bool) (snapshot : LegacyTopUpPaymentSnapshot) :
    Except TopUpError (Option (LegacyTopUpPaymentSnapshot×Rat)) :=
  let snapshot := { snapshot with
    providerOrderId := trimSpace snapshot.providerOrderId
    providerAmount := trimSpace snapshot.providerAmount
    providerCurrency := toUpper reads.upper (trimSpace snapshot.providerCurrency) }
  if snapshot.providerOrderId="" then .ok none else
  match reads.newFromString snapshot.providerAmount with
  | none => .error .attemptMismatch
  | some amount =>
    if legacy=false ∨ amount<0 ∨ snapshot.providerCurrency="" then .error .attemptMismatch else
    .ok (some ({ snapshot with
      amountTolerance := if snapshot.amountTolerance<0 then 0 else snapshot.amountTolerance },amount))

/-- May the snapshot complete the order? Any attempt makes the order ineligible. -/
def legacySnapshotMatches (snapshot : LegacyTopUpPaymentSnapshot)
    (amount : Rat) : Bool :=
  let expectedAmount := if isBlank topUp.providerAmount then some topUp.money
    else reads.newFromString (trimSpace topUp.providerAmount)
  !(db.attempts.any fun a => decide (a.topUpId=topUp.id ∨ a.tradeNo=topUp.tradeNo)) &&
    decide (topUp.providerOrderId="" ∨ trimSpace topUp.providerOrderId=snapshot.providerOrderId) &&
    expectedAmount.any (fun expected => decide (amount-expected ≤ snapshot.amountTolerance ∧
      expected-amount ≤ snapshot.amountTolerance)) &&
    decide (topUp.providerCurrency="" ∨ toUpper reads.upper (trimSpace topUp.providerCurrency) =
      toUpper reads.upper snapshot.providerCurrency)

/-- The attempt a callback names, if it may complete the order. -/
def checkAttempt (attemptId : Int) (provider : String) :
    Except TopUpError TopUpPaymentAttempt :=
  match db.attempt? attemptId with
  | none => .error .attemptNotFound
  | some attempt =>
    if attempt.topUpId≠topUp.id ∨ attempt.tradeNo≠topUp.tradeNo ∨ attempt.paymentProvider≠provider then
      .error .attemptMismatch
    else if attempt.createTime<topUpQueryCutoff reads.now then .error .attemptNotFound
    else if attempt.status=.created then .error .attemptStatusInvalid
    else .ok attempt

def writeProvider (provider method : String) (paid : Option (String×String×String)) : TopUp :=
  let topUp := { topUp with
    paymentProvider := provider
    paymentMethod := if method≠"" then method else topUp.paymentMethod }
  match paid with
  | some (orderId,amount,currency) =>
    { topUp with providerOrderId := orderId, providerAmount := amount, providerCurrency := currency }
  | none => topUp

def completeTopUpPaymentAttemptWithLegacySnapshot (attemptId : Int)
    (tradeNo provider method : String) (legacy : Bool) (snapshot : LegacyTopUpPaymentSnapshot) : Completed :=
  let tradeNo := trimSpace tradeNo
  let provider := trimSpace provider
  let method := trimSpace method
  (checkLegacySnapshot reads legacy snapshot).bind fun snapshot =>
  if tradeNo="" ∨ provider="" then .error .attemptMismatch else
  atomically reads <|
  match db.topUp? tradeNo with
  | none => .error .notFound
  | some topUp =>
    -- the attempt of the call, or none for a legacy call
    (if legacy=false then (checkAttempt reads db topUp attemptId provider).map some
    else if allowLegacyTopUpCallback topUp provider reads.now=false then .error .attemptMismatch
    else match snapshot with
      | some (snapshot,amount) =>
        if legacySnapshotMatches reads db topUp snapshot amount then .ok none else .error .attemptMismatch
      | none => .ok none).bind fun (attempt : Option TopUpPaymentAttempt) =>
    if topUp.status=.success then .ok (db,none) else
    (quotaToAdd reads topUp topUp.amount).bind fun quota =>
    let paid := match attempt with
      | some attempt => some (attempt.providerOrderId,attempt.providerAmount,attempt.providerCurrency)
      | none => snapshot.map fun (snapshot,_) =>
        (snapshot.providerOrderId,snapshot.providerAmount,snapshot.providerCurrency)
    (finishTopUp reads db (writeProvider topUp provider method paid) quota quota false).map fun (db,completion) =>
    match attempt with
    | some attempt =>
      (db.updateAttempt attempt.id fun a => { a with status := .succeeded, updateTime := reads.now }, some completion)
    | none => (db,some completion)

inductive Closing where
  | failed | expired

def Closing.status : Closing → TopUpStatus
  | .failed => .failed
  | .expired => .expired

def updatePendingTopUpStatus (tradeNo expectedPaymentProvider : String)
    (target : Closing) : Except TopUpError PaymentDB :=
  if tradeNo="" then .error .tradeNoMissing else
  atomically reads <|
  match db.topUp? tradeNo with
  | none => .error .notFound
  | some topUp =>
    if expectedPaymentProvider≠"" ∧ topUp.paymentProvider≠expectedPaymentProvider then .error .methodMismatch
    else if topUp.status≠.pending then .error .statusInvalid else
    (withPromo db (releasePromoCodeReservationTx db.promo db.orders topUp.promoCodeId .topup topUp.tradeNo
      reads.now)).bind fun db =>
    .ok (db.saveTopUp { topUp with status := target.status })

def TopUpError.keepsFreeOrder : TopUpError → Bool
  | .notFound | .methodMismatch | .statusInvalid | .orderNoMissing => true
  | _ => false

/-- `CompleteFreeTopUp` when nothing comes between its transaction and its failure step. -/
def completeFreeTopUp (reads failureReads : Reads) (db : PaymentDB) (tradeNo expectedPaymentProvider : String) :
    PaymentDB×Except TopUpError (Option Completion) :=
  match completeFreeTopUpTx reads db tradeNo expectedPaymentProvider with
  | .ok (db,completion) => (db,.ok completion)
  | .error e =>
    (if e.keepsFreeOrder then db
      else commit db (updatePendingTopUpStatus failureReads db tradeNo expectedPaymentProvider .failed),.error e)

def normalizeTopUpPaymentSnapshot (reads : Reads) (provider method amount currency : String) :
    Option (String×String×String×String) :=
  let provider := trimSpace provider
  let method := trimSpace method
  let amount := trimSpace amount
  let currency := toUpper reads.upper (trimSpace currency)
  if provider="" ∨ method="" ∨ amount="" ∨ currency="" then none else
  match reads.newFromString amount with
  | some parsed => if parsed<0 then none else some (provider,method,amount,currency)
  | none => none

/-- A failed or expired order is opened again. -/
def createTopUpPaymentAttempt (tradeNo provider method amount currency : String) :
    Except TopUpError PaymentDB :=
  let tradeNo := trimSpace tradeNo
  match normalizeTopUpPaymentSnapshot reads provider method amount currency with
  | none => .error .attemptMismatch
  | some (provider,method,amount,currency) =>
    if tradeNo="" then .error .attemptMismatch else
    atomically reads <|
    match db.topUp? tradeNo with
    | none => .error .notFound
    | some topUp =>
      if topUp.status=.success then .error .statusInvalid else
      (if topUp.status=.pending then .ok db else
        let db := db.saveTopUp { topUp with status := .pending }
        withPromo db (reservePromoCodeForOrderTx db.promo db.orders topUp.promoCodeId .topup topUp.tradeNo 0
          reads.now)).bind fun db =>
      let attempt : TopUpPaymentAttempt :=
        { id := db.attempts.length+1, topUpId := topUp.id, tradeNo := topUp.tradeNo, paymentProvider := provider
          paymentMethod := method, providerAmount := amount, providerCurrency := currency, createTime := reads.now
          updateTime := reads.now }
      .ok { db with attempts := db.attempts++[attempt] }

def providerOrderTaken (db : PaymentDB) (attempt : TopUpPaymentAttempt) (providerOrderId : String) : Bool :=
  db.attempts.any fun a => decide
    (a.paymentProvider=attempt.paymentProvider ∧ a.providerOrderId=providerOrderId ∧ a.id≠attempt.id)

def markTopUpPaymentAttemptLaunched (attemptId : Int) (providerOrderId : String) :
    Except TopUpError PaymentDB :=
  let providerOrderId := trimSpace providerOrderId
  if attemptId≤0 then .error .attemptNotFound else
  atomically reads <|
  match db.attempt? attemptId with
  | none => .error .attemptNotFound
  | some attempt =>
    if attempt.status≠.created then (if attempt.providerOrderId=providerOrderId then .ok db else .error .attemptStatusInvalid)
    else if providerOrderId≠"" ∧ providerOrderTaken db attempt providerOrderId then .error .attemptMismatch else
    .ok (db.updateAttempt attemptId fun a =>
      { a with providerOrderId := providerOrderId, status := .launched, updateTime := reads.now })

def markTopUpPaymentAttemptLaunchFailed (attemptId : Int) :
    Except TopUpError PaymentDB :=
  if attemptId≤0 then .error .attemptNotFound else
  atomically reads <|
  if (db.attempt? attemptId).any (fun a => a.status=.created)=false then .error .attemptStatusInvalid else
  .ok (db.updateAttempt attemptId fun a => { a with status := .launchFailed, updateTime := reads.now })

def bindTopUpPaymentAttemptProviderOrder (attemptId : Int) (providerOrderId : String) :
    Except TopUpError PaymentDB :=
  let providerOrderId := trimSpace providerOrderId
  if attemptId≤0 ∨ providerOrderId="" then .error .attemptMismatch else
  atomically reads <|
  match db.attempt? attemptId with
  | none => .error .attemptNotFound
  | some attempt =>
    if attempt.providerOrderId=providerOrderId then .ok db
    else if attempt.providerOrderId≠"" then .error .attemptMismatch
    else if providerOrderTaken db attempt providerOrderId then .error .attemptMismatch else
    .ok (db.updateAttempt attemptId fun a =>
      { a with
        providerOrderId := providerOrderId
        updateTime := reads.now
        status := if a.status=.created then .launched else a.status })

inductive CompletionPath where
  | rechargeEpay (actualPaymentMethod : String)
  | recharge
  | rechargeWaffoPancake
  | completeFreeTopUp (expectedPaymentProvider : String)
  | manualCompleteTopUp
  | completeTopUpPaymentAttempt (attemptId : Int) (provider method : String) (legacy : Bool)
      (snapshot : LegacyTopUpPaymentSnapshot)

def completeBy (tradeNo : String) : CompletionPath → Completed
  | .rechargeEpay actualPaymentMethod => rechargeEpay reads db tradeNo actualPaymentMethod
  | .recharge => recharge reads db tradeNo
  | .rechargeWaffoPancake => rechargeWaffoPancake reads db tradeNo
  | .completeFreeTopUp expectedPaymentProvider => completeFreeTopUpTx reads db tradeNo expectedPaymentProvider
  | .manualCompleteTopUp => manualCompleteTopUp reads db tradeNo
  | .completeTopUpPaymentAttempt attemptId provider method legacy snapshot =>
    completeTopUpPaymentAttemptWithLegacySnapshot reads db attemptId tradeNo provider method legacy snapshot

/-- One transaction of a payment call. The failure step of `CompleteFreeTopUp` is a `close` of its own, so
that other calls may come before it. -/
inductive Op where
  | complete (reads : Reads) (tradeNo : String) (path : CompletionPath)
  | close (reads : Reads) (tradeNo expectedPaymentProvider : String) (target : Closing)
  | createAttempt (reads : Reads) (tradeNo provider method amount currency : String)
  | markLaunched (reads : Reads) (attemptId : Int) (providerOrderId : String)
  | markLaunchFailed (reads : Reads) (attemptId : Int)
  | bindProviderOrder (reads : Reads) (attemptId : Int) (providerOrderId : String)

def exec (db : PaymentDB) : Op → Completed
  | .complete reads tradeNo path => completeBy reads db tradeNo path
  | .close reads tradeNo expected target => (updatePendingTopUpStatus reads db tradeNo expected target).map (·,none)
  | .createAttempt reads tradeNo provider method amount currency =>
    (createTopUpPaymentAttempt reads db tradeNo provider method amount currency).map (·,none)
  | .markLaunched reads attemptId providerOrderId =>
    (markTopUpPaymentAttemptLaunched reads db attemptId providerOrderId).map (·,none)
  | .markLaunchFailed reads attemptId => (markTopUpPaymentAttemptLaunchFailed reads db attemptId).map (·,none)
  | .bindProviderOrder reads attemptId providerOrderId =>
    (bindTopUpPaymentAttemptProviderOrder reads db attemptId providerOrderId).map (·,none)

def step (db : PaymentDB) (op : Op) : PaymentDB :=
  match exec db op with
  | .ok (db',_) => db'
  | .error _ => db

def completions (db : PaymentDB) (op : Op) : List Completion :=
  match exec db op with
  | .ok (_,some completion) => [completion]
  | _ => []

end NewApi.Payment
