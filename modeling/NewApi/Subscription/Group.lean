import NewApi.Subscription.Model

/-! The user group that a subscription lends: purchases, expiry, cancellation and deletion of
`model/subscription.go`. The group held before a purchase is stored in the new row, so the way
back to the group of a user without subscriptions is a chain of rows. -/
namespace NewApi.Subscription
open GoStrings
variable (db : GroupDB) (userId : Int)

structure GroupDB where
  group : Int → String
  subs : List UserSubscription
  nextId : Int

inductive GroupError where
  | invalidPlan | invalidUserId | purchaseLimit | durationValue | customSeconds | durationUnit
  | invalidSubscriptionId | recordNotFound

def calcPlanEndTime (addDate : AddDate) (plan : SubscriptionPlan) (start : Int) : Except GroupError Int :=
  if plan.durationValue≤0 ∧ plan.durationUnit≠"custom" then .error .durationValue
  else if plan.durationUnit="year" then .ok (addDate start plan.durationValue 0 0)
  else if plan.durationUnit="month" then .ok (addDate start 0 plan.durationValue 0)
  else if plan.durationUnit="day" then .ok (start+plan.durationValue*24*3600)
  else if plan.durationUnit="hour" then .ok (start+plan.durationValue*3600)
  else if plan.durationUnit="custom" then
    if plan.customSeconds≤0 then .error .customSeconds else .ok (start+plan.customSeconds)
  else .error .durationUnit

def latest? : List UserSubscription → Option UserSubscription
  | [] => none
  | s::rest =>
    match latest? rest with
    | none => some s
    | some t => if s.endTime>t.endTime ∨ (s.endTime=t.endTime ∧ s.id>t.id) then some s else some t

def findLatestActiveUpgradeSubscription (db : GroupDB) (userId now : Int) (exclude : List Int) :
    Option UserSubscription :=
  latest? (db.subs.filter fun s => decide (s.userId=userId ∧ s.status=.active ∧ s.endTime>now ∧
    s.upgradeGroup≠"" ∧ s.id∉exclude))

def hasActiveUpgradeGroup (group : String) (now : Int) : Bool :=
  decide (trimSpace group≠"") && db.subs.any fun s =>
    decide (s.userId=userId ∧ s.status=.active ∧ s.endTime>now ∧ s.upgradeGroup=trimSpace group)

def hasUpgradeGroupHistory (group : String) : Bool :=
  decide (trimSpace group≠"") && db.subs.any fun s =>
    decide (s.userId=userId ∧ s.upgradeGroup=trimSpace group)

def fallbackLoop (db : GroupDB) (userId now : Int) : Nat → List String → String → String
  | 0, _, _ => ""
  | fuel+1, visited, currentGroup =>
    if currentGroup="" then ""
    else if currentGroup∈visited then "" else
    match latest? (db.subs.filter fun s =>
      decide (s.userId=userId ∧ s.upgradeGroup=currentGroup ∧ s.prevUserGroup≠"")) with
    | none => ""
    | some sub =>
      let prevGroup := trimSpace sub.prevUserGroup
      if prevGroup="" ∨ prevGroup=currentGroup then ""
      else if hasActiveUpgradeGroup db userId prevGroup now then prevGroup
      else if !hasUpgradeGroupHistory db userId prevGroup then prevGroup
      else fallbackLoop db userId now fuel (currentGroup::visited) prevGroup

def resolveExpiredSubscriptionFallbackGroup (currentGroup : String) (now : Int) :
    String :=
  fallbackLoop db userId now 16 [] (trimSpace currentGroup)

def setGroup (group : String) : GroupDB :=
  { db with group := Function.update db.group userId group }

def reconcileUserGroupAfterSubscriptionChange
    (affectedUpgradeGroups : List String) (now : Int) (exclude : List Int) : GroupDB×String :=
  if userId≤0 ∨ affectedUpgradeGroups=[] then (db,"") else
  let currentGroup := trimSpace (db.group userId)
  if currentGroup∉affectedUpgradeGroups then (db,"") else
  match findLatestActiveUpgradeSubscription db userId now exclude with
  | some activeSub =>
    let targetGroup := trimSpace activeSub.upgradeGroup
    if targetGroup="" ∨ targetGroup=currentGroup then (db,"")
    else (setGroup db userId targetGroup,targetGroup)
  | none =>
    let explicitDowngrade := latest? (db.subs.filter fun s =>
      decide (s.userId=userId ∧ s.upgradeGroup=currentGroup ∧ s.downgradeGroup≠""))
    let downgradeGroup := (explicitDowngrade.map fun s => trimSpace s.downgradeGroup).getD ""
    if downgradeGroup≠"" ∧ downgradeGroup≠currentGroup then (setGroup db userId downgradeGroup,downgradeGroup)
    else
      let targetGroup := resolveExpiredSubscriptionFallbackGroup db userId currentGroup now
      if targetGroup="" ∨ targetGroup=currentGroup then (db,"")
      else (setGroup db userId targetGroup,targetGroup)

def collectAffectedUpgradeGroups (subs : List UserSubscription) : List String :=
  (subs.map fun s => trimSpace s.upgradeGroup).filter fun g => decide (g≠"")

def isDue (userId now : Int) (s : UserSubscription) : Bool :=
  decide (s.userId=userId ∧ s.status=.active ∧ s.endTime>0 ∧ s.endTime≤now)

def expireDue (userId now : Int) (s : UserSubscription) : UserSubscription :=
  if isDue userId now s then { s with status := .expired } else s

def expireDueSubscriptionsForUser (db : GroupDB) (userId now : Int) : Except GroupError GroupDB :=
  if userId≤0 then .error .invalidUserId else
  let dueSubs := db.subs.filter (isDue userId now)
  if dueSubs=[] then .ok db else
  let db := { db with subs := db.subs.map (expireDue userId now) }
  .ok (reconcileUserGroupAfterSubscriptionChange db userId (collectAffectedUpgradeGroups dueSubs) now []).1

def purchasedRow (plan : SubscriptionPlan) (now endUnix : Int)
    (addDate : AddDate) : UserSubscription :=
  let nextReset := calcNextResetTime addDate plan endUnix now
  let upgradeGroup := trimSpace plan.upgradeGroup
  { id := db.nextId, userId := userId, planId := plan.id, amountTotal := plan.totalAmount, amountUsed := 0,
    startTime := now, endTime := endUnix, status := .active,
    lastResetTime := if nextReset>0 then now else 0, nextResetTime := nextReset,
    upgradeGroup := upgradeGroup,
    prevUserGroup := if upgradeGroup≠"" ∧ db.group userId≠upgradeGroup then db.group userId else "",
    downgradeGroup := trimSpace plan.downgradeGroup
    allowWalletOverflow := plan.allowWalletOverflow.getD true }

def createUserSubscriptionFromPlan (addDate : AddDate) (db : GroupDB) (userId : Int) (plan : SubscriptionPlan)
    (now : Int) : Except GroupError GroupDB :=
  if plan.id=0 then .error .invalidPlan
  else if userId≤0 then .error .invalidUserId
  else if plan.maxPurchasePerUser>0 ∧
      ((db.subs.filter fun s => decide (s.userId=userId ∧ s.planId=plan.id ∧ s.status=.active ∧
        s.endTime>now)).length : Int)≥plan.maxPurchasePerUser then .error .purchaseLimit
  else (calcPlanEndTime addDate plan now).bind fun endUnix =>
      let sub := purchasedRow db userId plan now endUnix addDate
      .ok { group := if sub.upgradeGroup≠"" then Function.update db.group userId sub.upgradeGroup else db.group
            subs := db.subs++[sub], nextId := db.nextId+1 }

def cancelled (now : Int) (s : UserSubscription) : UserSubscription :=
  { s with status := .cancelled, endTime := now }

def adminInvalidateUserSubscription (db : GroupDB) (userSubscriptionId now : Int) : Except GroupError GroupDB :=
  if userSubscriptionId≤0 then .error .invalidSubscriptionId else
  match Keyed.lookup UserSubscription.id userSubscriptionId db.subs with
  | none => .error .recordNotFound
  | some sub =>
    let db := { db with subs := Keyed.modify UserSubscription.id sub.id (cancelled now) db.subs }
    let upgradeGroup := trimSpace sub.upgradeGroup
    if upgradeGroup="" ∧ trimSpace sub.downgradeGroup="" then .ok db
    else .ok (reconcileUserGroupAfterSubscriptionChange db sub.userId
      (if upgradeGroup≠"" then [upgradeGroup] else []) now [sub.id]).1

def adminDeleteUserSubscription (db : GroupDB) (userSubscriptionId now : Int) : Except GroupError GroupDB :=
  if userSubscriptionId≤0 then .error .invalidSubscriptionId else
  match Keyed.lookup UserSubscription.id userSubscriptionId db.subs with
  | none => .error .recordNotFound
  | some sub =>
    let db := (reconcileUserGroupAfterSubscriptionChange db sub.userId [trimSpace sub.upgradeGroup] now [sub.id]).1
    .ok { db with subs := db.subs.filter (fun s => decide (s.id≠sub.id)) }

inductive GroupOp where
  | create (userId : Int) (plan : SubscriptionPlan) (now : Int)
  | expire (userId now : Int)
  | invalidate (userSubscriptionId now : Int)
  | delete (userSubscriptionId now : Int)

def GroupOp.call (addDate : AddDate) (db : GroupDB) : GroupOp → Except GroupError GroupDB
  | .create userId plan now => createUserSubscriptionFromPlan addDate db userId plan now
  | .expire userId now => expireDueSubscriptionsForUser db userId now
  | .invalidate userSubscriptionId now => adminInvalidateUserSubscription db userSubscriptionId now
  | .delete userSubscriptionId now => adminDeleteUserSubscription db userSubscriptionId now

def groupStep (addDate : AddDate) (db : GroupDB) (op : GroupOp) : GroupDB :=
  Runs.commit db (op.call addDate db)

end NewApi.Subscription
