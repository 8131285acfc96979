import Mathlib.Data.List.Sort
import NewApi.Lib.GoStrings
import NewApi.Lib.Keyed
import NewApi.Lib.Runs

/-! Subscriptions: the tables of `model/subscription.go` and the transactions that move the
usage counter. Calendar arithmetic depends on the server's time zone: `addDate base years
months days` is `time.Unix(base, 0).AddDate(...)` as a parameter. -/
namespace NewApi.Subscription
open GoStrings
variable (addDate : AddDate) (plan : SubscriptionPlan)

inductive ResetPeriod where
  | never | daily | weekly | monthly | custom
  deriving DecidableEq

def normalizeResetPeriod (period : String) : ResetPeriod :=
  if trimSpace period="daily" then .daily
  else if trimSpace period="weekly" then .weekly
  else if trimSpace period="monthly" then .monthly
  else if trimSpace period="custom" then .custom
  else .never

inductive SubscriptionStatus where
  | active | expired | cancelled
  deriving DecidableEq

inductive RecordStatus where
  | consumed | refunded
  deriving DecidableEq

structure SubscriptionPlan where
  id : Int
  durationUnit : String := "month"
  durationValue : Int := 1
  customSeconds : Int := 0
  maxPurchasePerUser : Int := 0
  upgradeGroup : String := ""
  downgradeGroup : String := ""
  totalAmount : Int := 0
  quotaResetPeriod : String := "never"
  quotaResetCustomSeconds : Int := 0
  allowWalletOverflow : Option Bool := none
  deriving DecidableEq

structure UserSubscription where
  id : Int
  userId : Int
  planId : Int
  amountTotal : Int
  amountUsed : Int
  startTime : Int
  endTime : Int
  status : SubscriptionStatus
  lastResetTime : Int := 0
  nextResetTime : Int := 0
  upgradeGroup : String := ""
  prevUserGroup : String := ""
  downgradeGroup : String := ""
  allowWalletOverflow : Bool := true
  deriving DecidableEq

structure SubscriptionPreConsumeRecord where
  requestId : String
  userId : Int
  userSubscriptionId : Int
  preConsumed : Int
  status : RecordStatus
  deriving DecidableEq

structure SubscriptionDB where
  plans : List SubscriptionPlan
  subs : List UserSubscription
  records : List SubscriptionPreConsumeRecord
  deriving DecidableEq

inductive SubscriptionError where
  | invalidUserId | emptyRequestId | amountNotPositive | alreadyRefunded | recordNotFound
  | noActiveSubscription | quotaInsufficient (need : Int) | invalidSubscriptionId
  | usedExceedsTotal (used total : Int) | invalidPlanId | noPlanSubscription

def SubscriptionError.text : SubscriptionError → String
  | .invalidUserId => "invalid userId"
  | .emptyRequestId => "requestId is empty"
  | .amountNotPositive => "amount must be > 0"
  | .alreadyRefunded => "subscription pre-consume already refunded"
  | .recordNotFound => "record not found"
  | .noActiveSubscription => "no active subscription"
  | .quotaInsufficient need => "subscription quota insufficient, need=" ++ toString need
  | .invalidSubscriptionId => "invalid userSubscriptionId"
  | .usedExceedsTotal used total =>
    "subscription used exceeds total, used=" ++ toString used++" total=" ++ toString total
  | .invalidPlanId => "invalid userId or planId"
  | .noPlanSubscription => "该用户没有有效的此套餐订阅"

abbrev AddDate := Int → Int → Int → Int → Int

def calcNextResetTime (endUnix base : Int) : Int :=
  let next := match normalizeResetPeriod plan.quotaResetPeriod with
    | .never => 0
    | .daily => addDate base 0 0 1
    | .weekly => addDate base 0 0 7
    | .monthly => addDate base 0 1 0
    | .custom => if plan.quotaResetCustomSeconds≤0 then 0 else base+plan.quotaResetCustomSeconds
  if endUnix>0 ∧ next>endUnix then 0 else next

/-- The loop over the reset times that have passed; returns base, next and `advanced`. -/
def advance (next : Int → Int) (now : Int) : Nat → Int → Int → Bool → Int×Int×Bool
  | 0, base, n, advanced => (base,n,advanced)
  | fuel+1, base, n, advanced =>
    if n>0 ∧ n≤now then advance next now fuel n (next n) true else (base,n,advanced)

def passedResets (now : Int) (sub : UserSubscription) :
    Int×Int×Bool :=
  let base := if sub.lastResetTime≤0 then sub.startTime else sub.lastResetTime
  let next := calcNextResetTime addDate plan sub.endTime
  advance next now (now-next base+1).toNat base (next base) false

def maybeResetUserSubscriptionWithPlan (now : Int)
    (sub : UserSubscription) : UserSubscription :=
  if sub.nextResetTime>0 ∧ sub.nextResetTime>now then sub
  else if normalizeResetPeriod plan.quotaResetPeriod=.never then sub else
  let (base,n,advanced) := passedResets addDate plan now sub
  if advanced then { sub with amountUsed := 0, lastResetTime := base, nextResetTime := n }
  else if sub.nextResetTime=0 ∧ n>0 then { sub with nextResetTime := n, lastResetTime := base }
  else sub

def resetUserSubscription (now : Int) (advanceResetTime : Bool)
    (sub : UserSubscription) : UserSubscription :=
  let sub := { sub with amountUsed := 0 }
  if advanceResetTime then
    let nextReset := calcNextResetTime addDate plan sub.endTime now
    { sub with nextResetTime := nextReset, lastResetTime := if nextReset>0 then now else 0 }
  else sub

namespace SubscriptionDB
variable (db : SubscriptionDB)

def sub? (id : Int) : Option UserSubscription :=
  Keyed.lookup UserSubscription.id id db.subs

def plan? (id : Int) : Option SubscriptionPlan :=
  Keyed.lookup SubscriptionPlan.id id db.plans

def record? (requestId : String) : Option SubscriptionPreConsumeRecord :=
  Keyed.lookup SubscriptionPreConsumeRecord.requestId requestId db.records

def updateSub (id : Int) (f : UserSubscription → UserSubscription) : SubscriptionDB :=
  { db with subs := Keyed.modify UserSubscription.id id f db.subs }

def updateRecord (requestId : String)
    (f : SubscriptionPreConsumeRecord → SubscriptionPreConsumeRecord) : SubscriptionDB :=
  { db with records := Keyed.modify SubscriptionPreConsumeRecord.requestId requestId f db.records }

def createRecord (record : SubscriptionPreConsumeRecord) : SubscriptionDB :=
  { db with records := db.records++[record] }

def updateSubsWhere (p : UserSubscription → Bool)
    (f : UserSubscription → UserSubscription) : SubscriptionDB :=
  { db with subs := db.subs.map fun s => if p s then f s else s }

def activeSubs (userId now : Int) : List UserSubscription :=
  db.subs.filter fun s => decide (s.userId=userId ∧ s.status=.active ∧ s.endTime>now)

end SubscriptionDB

def userSubscriptionNextConsumeBoundary (sub : UserSubscription) : Int :=
  if sub.nextResetTime>0 then sub.nextResetTime else sub.endTime

def userSubscriptionConsumeLess (left right : UserSubscription) : Bool :=
  let leftBoundary := userSubscriptionNextConsumeBoundary left
  let rightBoundary := userSubscriptionNextConsumeBoundary right
  if leftBoundary≠rightBoundary then decide (leftBoundary<rightBoundary)
  else if left.endTime≠right.endTime then decide (left.endTime<right.endTime)
  else decide (left.id<right.id)

def sortCandidates (candidates : List UserSubscription) : List UserSubscription :=
  candidates.insertionSort fun a b => userSubscriptionConsumeLess b a=false

def resetCandidates (addDate : AddDate) (now : Int) :
    List UserSubscription → SubscriptionDB → Except SubscriptionError (SubscriptionDB×List UserSubscription)
  | [], db => .ok (db,[])
  | sub :: subs, db =>
    match db.plan? sub.planId with
    | none => .error .recordNotFound
    | some plan =>
      let sub' := maybeResetUserSubscriptionWithPlan addDate plan now sub
      (resetCandidates addDate now subs (db.updateSub sub.id fun _ => sub')).bind fun (db,candidates) =>
        .ok (db,sub'::candidates)

structure SubscriptionPreConsumeResult where
  userSubscriptionId : Int
  preConsumed : Int
  amountTotal : Int
  amountUsedBefore : Int
  amountUsedAfter : Int

def hasRoom (amount : Int) (sub : UserSubscription) : Bool :=
  !(decide (sub.amountTotal>0) && decide (sub.amountTotal-sub.amountUsed<amount))

def preConsumeUserSubscription (addDate : AddDate) (db : SubscriptionDB) (requestId : String)
    (userId amount now : Int) : Except SubscriptionError (SubscriptionDB×SubscriptionPreConsumeResult) :=
  if userId≤0 then .error .invalidUserId
  else if isBlank requestId then .error .emptyRequestId
  else if amount≤0 then .error .amountNotPositive else
  match db.record? requestId with
  | some existing =>
    if existing.status=.refunded then .error .alreadyRefunded else
    match db.sub? existing.userSubscriptionId with
    | none => .error .recordNotFound
    | some sub => .ok (db,⟨sub.id,existing.preConsumed,sub.amountTotal,sub.amountUsed,sub.amountUsed⟩)
  | none =>
    if db.activeSubs userId now=[] then .error .noActiveSubscription else
    (resetCandidates addDate now (db.activeSubs userId now) db).bind fun (db,candidates) =>
      match (sortCandidates candidates).find? (hasRoom amount) with
      | none => .error (.quotaInsufficient amount)
      | some sub =>
        let sub' := { sub with amountUsed := sub.amountUsed+amount }
        .ok ((db.createRecord ⟨requestId,userId,sub.id,amount,.consumed⟩).updateSub sub.id fun _ => sub',
          ⟨sub.id,amount,sub.amountTotal,sub.amountUsed,sub'.amountUsed⟩)

def postConsumeUserSubscriptionDelta (db : SubscriptionDB) (userSubscriptionId delta : Int) :
    Except SubscriptionError SubscriptionDB :=
  if userSubscriptionId≤0 then .error .invalidSubscriptionId
  else if delta=0 then .ok db else
  match db.sub? userSubscriptionId with
  | none => .error .recordNotFound
  | some sub =>
    let newUsed := if sub.amountUsed+delta<0 then 0 else sub.amountUsed+delta
    if sub.amountTotal>0 ∧ newUsed>sub.amountTotal then .error (.usedExceedsTotal newUsed sub.amountTotal)
    else .ok (db.updateSub sub.id fun s => { s with amountUsed := newUsed })

def refundSubscriptionPreConsume (db : SubscriptionDB) (requestId : String) :
    Except SubscriptionError SubscriptionDB :=
  if isBlank requestId then .error .emptyRequestId else
  match db.record? requestId with
  | none => .error .recordNotFound
  | some record =>
    let refunded := fun db : SubscriptionDB => db.updateRecord requestId fun r => { r with status := .refunded }
    if record.status=.refunded then .ok db
    else if record.preConsumed≤0 then .ok (refunded db)
    else (postConsumeUserSubscriptionDelta db record.userSubscriptionId (-record.preConsumed)).bind fun db =>
      .ok (refunded db)

def resetDueSubscription (addDate : AddDate) (db : SubscriptionDB) (subId now : Int) :
    Except SubscriptionError SubscriptionDB :=
  match db.sub? subId with
  | none => .ok db
  | some sub =>
    if ¬ (sub.nextResetTime>0 ∧ sub.nextResetTime≤now) then .ok db else
    match db.plan? sub.planId with
    | none => .ok db
    | some plan => .ok (db.updateSub sub.id (maybeResetUserSubscriptionWithPlan addDate plan now))

/-- The subscriptions an administrator's reset matches; `none` stands for every user. -/
def adminResetMatches (planId now : Int) (userId : Option Int) (s : UserSubscription) : Bool :=
  decide (s.planId=planId ∧ s.status=.active ∧ s.endTime>now) &&
    match userId with
    | some u => decide (s.userId=u)
    | none => true

def adminResetUserSubscriptionsByPlan (addDate : AddDate) (db : SubscriptionDB) (userId planId now : Int)
    (advanceResetTime : Bool) : Except SubscriptionError SubscriptionDB :=
  if userId≤0 ∨ planId≤0 then .error .invalidPlanId else
  match db.plan? planId with
  | none => .error .recordNotFound
  | some plan =>
    if db.subs.filter (adminResetMatches planId now (some userId))=[] then .error .noPlanSubscription
    else .ok (db.updateSubsWhere (adminResetMatches planId now (some userId))
      (resetUserSubscription addDate plan now advanceResetTime))

def adminResetPlanSubscriptions (addDate : AddDate) (db : SubscriptionDB) (planId now : Int)
    (advanceResetTime : Bool) : Except SubscriptionError SubscriptionDB :=
  if planId≤0 then .error .invalidPlanId else
  match db.plan? planId with
  | none => .error .recordNotFound
  | some plan => .ok (db.updateSubsWhere (adminResetMatches planId now none)
      (resetUserSubscription addDate plan now advanceResetTime))

def maxInt64 : Int := 2 ^ 63-1

def sumAvailable : List UserSubscription → Int → Int
  | [], available => available
  | sub::subs, available =>
    if sub.amountTotal≤0 then maxInt64
    else if sub.amountTotal-sub.amountUsed>0 then
      if available>maxInt64-(sub.amountTotal-sub.amountUsed) then maxInt64
      else sumAvailable subs (available+(sub.amountTotal-sub.amountUsed))
    else sumAvailable subs available

def getUserSubscriptionAvailableQuota (db : SubscriptionDB) (userId now : Int) :
    Except SubscriptionError Int :=
  if userId≤0 then .error .invalidUserId else .ok (sumAvailable (db.activeSubs userId now) 0)

def hasActiveUserSubscription (db : SubscriptionDB) (userId now : Int) : Except SubscriptionError Bool :=
  if userId≤0 then .error .invalidUserId else .ok !(db.activeSubs userId now).isEmpty

def userActiveSubscriptionsAllowWalletOverflow (db : SubscriptionDB) (userId now : Int) :
    Except SubscriptionError Bool :=
  if userId≤0 then .error .invalidUserId else .ok ((db.activeSubs userId now).all (·.allowWalletOverflow))

end NewApi.Subscription
