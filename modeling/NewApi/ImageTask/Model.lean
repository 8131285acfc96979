import NewApi.Subscription.Model

/-! One image task: its row, the accounts its refund moves and the log sink, with the steps of
`model/image_task.go` that several workers take on them. A worker that crashes takes no further
step, and a transaction that fails changes nothing. -/
namespace NewApi.ImageTask
open Runs NewApi.Subscription

inductive TaskStatus where
  | notStart | submitted | queued | inProgress | failure | success
  deriving DecidableEq

def TaskStatus.active : TaskStatus → Bool
  | .notStart | .submitted | .queued | .inProgress => true
  | .failure | .success => false

/-- The recorded source; code tests it against `"subscription"` only. -/
inductive BillingSource where
  | unset | wallet | subscription
  deriving DecidableEq

inductive ReconciliationState where
  | none | pending | manualUnreported | manualReported

inductive LogType where
  | unknown | topup | consume | manage | system | error | refund
  deriving DecidableEq

structure TaskRefundReconciliation where
  amount : Int
  reason : String := ""
  userId : Int
  channelId : Int := 0
  tokenId : Int := 0
  billingSource : BillingSource := .unset
  subscriptionId : Int := 0
  group : String := ""
  modelName : String := ""
  nodeName : String := ""
  originModelName : String := ""
  upstreamModelName : String := ""
  accountingDone : Bool := false
  walletQuotaVersion : Int := 0
  walletQuota : Int := 0
  cacheRepairDone : Bool := false
  logClaimToken : String := ""
  logClaimUntil : Int := 0
  logWriteAttempted : Bool := false
  logWriteAttemptedAt : Int := 0
  logIdempotencyKey : String := ""
  manualReconciliationRequired : Bool := false
  manualReconciliationReason : String := ""
  manualReconciliationReported : Bool := false

/-- The private data a refund reads; of the billing context only the model name decides anything. -/
structure TaskPrivateData where
  billingSource : BillingSource := .unset
  subscriptionId : Int := 0
  tokenId : Int := 0
  nodeName : String := ""
  billingContext : Option String := none
  refundReconciliation : Option TaskRefundReconciliation := none

structure Task where
  taskId : String
  userId : Int
  channelId : Int := 0
  group : String := ""
  status : TaskStatus
  quota : Int
  submitTime : Int := 0
  updatedAt : Int := 0
  failReason : String := ""
  originModelName : String := ""
  upstreamModelName : String := ""
  privateData : TaskPrivateData := {}
  refundReconciliationState : ReconciliationState := .none

structure User where
  id : Int
  quota : Int
  quotaVersion : Int
  usedQuota : Int := 0
  deriving DecidableEq

structure Token where
  id : Int
  remainQuota : Int
  usedQuota : Int := 0

structure Channel where
  id : Int
  usedQuota : Int

structure Accounts where
  users : List User
  tokens : List Token := []
  channels : List Channel := []
  subscriptions : SubscriptionDB := ⟨[],[],[]⟩

/-- A row of `logs`; the metadata of a consume log names its funding. -/
structure Log where
  requestId : String
  userId : Int
  type : LogType
  quota : Int := 0
  channelId : Int := 0
  tokenId : Int := 0
  modelName : String := ""
  group : String := ""
  createdAt : Int := 0
  idempotencyKey : Option String := none
  metadataSource : BillingSource := .unset

/-- `LOG_DB`: its rows, and how many inserts of refund rows were sent to it. -/
structure Sink where
  clickHouse : Bool
  logs : List Log := []
  attempts : Nat := 0

structure RecordTaskBillingLogParams where
  requestId : String
  userId : Int
  logType : LogType := .refund
  quota : Int := 0
  channelId : Int := 0
  tokenId : Int := 0
  modelName : String := ""
  group : String := ""

inductive RefundError where
  | invalidRefundClaim | quotaChanged (taskId : String) (expected actual : Int)
  | reconciliationWithPositiveQuota (taskId : String) | invalidSubscriptionFunding (taskId : String)
  | subscription (error : SubscriptionError) | invalidUserQuotaIncrease | userNotFound (id : Int)
  | invalidQuotaVersion (id : Int) | invalidReconciliationState (taskId : String)
  | invalidUserUsage | userUsedNotFound (id : Int) | channelUsedNotFound (id : Int)
  | recordNotConsumed (taskId : String) | invalidCacheRepairState (taskId : String)
  | requestMismatch | reconciliationIncomplete (taskId : String) | logClaimChanged (taskId : String)
  | manualWarningNotPersisted (taskId : String)

def Task.marker (t : Task) : Option TaskRefundReconciliation := t.privateData.refundReconciliation

def Task.withMarker (t : Task) (marker : Option TaskRefundReconciliation) (state : ReconciliationState) : Task :=
  { t with
    privateData := { t.privateData with refundReconciliation := marker }
    refundReconciliationState := state }

/-- Returns the new version and balance with the table. -/
def increaseUserQuotaWithTx (users : List User) (id quota : Int) :
    Except RefundError (List User×Int×Int) :=
  if id≤0 ∨ quota≤0 then .error .invalidUserQuotaIncrease else
  match Keyed.lookup User.id id users with
  | none => .error (.userNotFound id)
  | some user =>
    if user.quotaVersion+1≤1 then .error (.invalidQuotaVersion id) else
    .ok (Keyed.modify User.id id (fun u => { u with quota := u.quota+quota, quotaVersion := u.quotaVersion+1 })
      users,user.quotaVersion+1,user.quota+quota)

/-- The funding half of `RefundImageTaskMoney`: the wallet version and balance are zero for a subscription. -/
def refundFunding (accounts : Accounts) (locked : Task) : Except RefundError (Accounts×Int×Int) :=
  if locked.privateData.billingSource=.subscription then
    if locked.privateData.subscriptionId≤0 then .error (.invalidSubscriptionFunding locked.taskId) else
    match postConsumeUserSubscriptionDelta accounts.subscriptions locked.privateData.subscriptionId (-locked.quota) with
    | .error e => .error (.subscription e)
    | .ok subscriptions => .ok ({ accounts with subscriptions := subscriptions },0,0)
  else
    match increaseUserQuotaWithTx accounts.users locked.userId locked.quota with
    | .error e => .error e
    | .ok (users,version,quota) => .ok ({ accounts with users := users },version,quota)

def refundMarker (locked : Task) (reason : String) (version quota : Int) : TaskRefundReconciliation :=
  { amount := locked.quota
    reason := reason
    userId := locked.userId
    channelId := locked.channelId
    tokenId := locked.privateData.tokenId
    billingSource := locked.privateData.billingSource
    subscriptionId := locked.privateData.subscriptionId
    group := locked.group
    modelName := match locked.privateData.billingContext with
      | some name => if name="" then locked.originModelName else name
      | none => locked.originModelName
    nodeName := locked.privateData.nodeName
    originModelName := locked.originModelName
    upstreamModelName := locked.upstreamModelName
    walletQuotaVersion := version
    walletQuota := quota
    cacheRepairDone := locked.privateData.billingSource=.subscription }

def refundImageTaskMoney (accounts : Accounts) (locked : Task) (expectedQuota now : Int) (reason : String) :
    Except RefundError (Accounts×Task×Bool) :=
  if expectedQuota≤0 then .error .invalidRefundClaim
  else if locked.quota=0 then .ok (accounts,locked,false)
  else if locked.quota<0 ∨ locked.quota≠expectedQuota then
    .error (.quotaChanged locked.taskId expectedQuota locked.quota)
  else if locked.marker.isSome then .error (.reconciliationWithPositiveQuota locked.taskId) else
  match refundFunding accounts locked with
  | .error e => .error e
  | .ok (accounts,version,quota) =>
    .ok (accounts,{ locked.withMarker (some (refundMarker locked reason version quota)) .pending with
      quota := 0, updatedAt := now },true)

/-- `IncreaseTokenQuotaWithTx`; a missing token is ignored by the caller. -/
def increaseTokenQuota (tokens : List Token) (id quota : Int) : List Token :=
  Keyed.modify Token.id id (fun t => { t with remainQuota := t.remainQuota+quota, usedQuota := t.usedQuota-quota }) tokens

def updateUserUsedQuotaWithTx (users : List User) (id quota : Int) : Except RefundError (List User) :=
  if id≤0 then .error .invalidUserUsage
  else if (Keyed.lookup User.id id users).isNone then .error (.userUsedNotFound id)
  else .ok (Keyed.modify User.id id (fun u => { u with usedQuota := u.usedQuota+quota }) users)

def updateChannelUsedQuotaWithTx (channels : List Channel) (id quota : Int) : Except RefundError (List Channel) :=
  if (Keyed.lookup Channel.id id channels).isNone then .error (.channelUsedNotFound id)
  else .ok (Keyed.modify Channel.id id (fun c => { c with usedQuota := c.usedQuota+quota }) channels)

def markImageTaskSubscriptionRefundedWithTx (db : SubscriptionDB) (requestId : String) :
    Except RefundError SubscriptionDB :=
  if requestId="" then .ok db else
  match db.record? requestId with
  | none => .ok db
  | some record =>
    if record.status=.consumed then .ok (db.updateRecord requestId fun r => { r with status := .refunded })
    else if record.status=.refunded then .ok db
    else .error (.recordNotConsumed requestId)

/-- The effects of `ReconcileImageTaskRefundAccounting` on the accounts. -/
def reverseAccounting (accounts : Accounts) (taskId : String) (marker : TaskRefundReconciliation) :
    Except RefundError Accounts :=
  let tokens := if marker.tokenId>0 then increaseTokenQuota accounts.tokens marker.tokenId marker.amount
    else accounts.tokens
  (updateUserUsedQuotaWithTx accounts.users marker.userId (-marker.amount)).bind fun users =>
  (if marker.channelId>0 then updateChannelUsedQuotaWithTx accounts.channels marker.channelId (-marker.amount)
    else .ok accounts.channels).bind fun channels =>
  (if marker.billingSource=.subscription then
      markImageTaskSubscriptionRefundedWithTx accounts.subscriptions taskId
    else .ok accounts.subscriptions).bind fun subscriptions =>
  .ok ⟨users,tokens,channels,subscriptions⟩

/-- The flag says that this call made the reversals. -/
def reconcileImageTaskRefundAccounting (accounts : Accounts) (locked : Task) :
    Except RefundError (Accounts×Task×Bool) :=
  match locked.marker with
  | none => .ok (accounts,locked,false)
  | some marker =>
    if marker.accountingDone then .ok (accounts,locked,false)
    else if locked.quota≠0 ∨ marker.amount≤0 then .error (.invalidReconciliationState locked.taskId)
    else (reverseAccounting accounts locked.taskId marker).bind fun accounts =>
      .ok (accounts,locked.withMarker (some { marker with accountingDone := true }) .pending,true)

def markImageTaskRefundCacheRepaired (locked : Task) : Except RefundError Task :=
  match locked.marker with
  | none => .ok locked
  | some marker =>
    if marker.cacheRepairDone then .ok locked
    else if locked.quota≠0 ∨ marker.accountingDone=false ∨ marker.billingSource=.subscription ∨
        marker.walletQuotaVersion≤0 then .error (.invalidCacheRepairState locked.taskId)
    else .ok (locked.withMarker (some { marker with cacheRepairDone := true }) .pending)

def validateImageTaskRefundFinalization (task : Task) (requestId : String) :
    Except RefundError (Option TaskRefundReconciliation) :=
  if task.taskId≠requestId then .error .requestMismatch else
  match task.marker with
  | none => .ok none
  | some marker =>
    if task.quota≠0 ∨ marker.accountingDone=false ∨ marker.cacheRepairDone=false then
      .error (.reconciliationIncomplete task.taskId)
    else .ok (some marker)

def imageTaskRefundLogClaimLease : Int := 120

def clickHouseRefundManualReason : String :=
  "ClickHouse refund audit log write outcome requires manual reconciliation"

def claimImageTaskRefundLog (clickHouse : Bool) (task : Task) (requestId token : String) (now : Int) :
    Except RefundError (Task×Bool) :=
  (validateImageTaskRefundFinalization task requestId).bind fun
    | none => .ok (task,false)
    | some marker =>
      if marker.logWriteAttempted ∨ marker.manualReconciliationRequired then .ok (task,false)
      else if clickHouse=false ∧ marker.logClaimToken≠"" ∧ marker.logClaimUntil>now then .ok (task,false)
      else if clickHouse then
        .ok (task.withMarker (some { marker with
          logClaimToken := token
          logClaimUntil := 0
          logWriteAttempted := true
          logWriteAttemptedAt := now
          logIdempotencyKey := "task-refund:" ++ requestId
          manualReconciliationRequired := true
          manualReconciliationReason := clickHouseRefundManualReason
          manualReconciliationReported := false }) .manualUnreported,true)
      else
        .ok (task.withMarker (some { marker with
          logClaimToken := token
          logClaimUntil := now+imageTaskRefundLogClaimLease }) .pending,true)

def releaseImageTaskRefundLogClaim (task : Task) (claimToken : String) : Task :=
  match task.marker with
  | none => task
  | some marker =>
    if marker.logClaimToken≠claimToken then task
    else if marker.logWriteAttempted ∨ marker.manualReconciliationRequired then task
    else if task.quota≠0 then task
    else task.withMarker (some { marker with logClaimToken := "", logClaimUntil := 0 }) .pending

def completeImageTaskRefundLogClaim (task : Task) (requestId claimToken : String) : Except RefundError Task :=
  (validateImageTaskRefundFinalization task requestId).bind fun
    | none => .ok task
    | some marker =>
      if marker.logClaimToken≠claimToken then .error (.logClaimChanged task.taskId)
      else .ok (task.withMarker none .none)

def markImageTaskRefundManualReconciliationReported (task : Task) : Except RefundError Task :=
  match task.marker with
  | none => .ok task
  | some marker =>
    if marker.logWriteAttempted=false ∧ marker.manualReconciliationRequired=false ∨
        marker.manualReconciliationReported then .ok task
    else if task.quota≠0 then .error (.manualWarningNotPersisted task.taskId)
    else .ok (task.withMarker (some { marker with
      manualReconciliationRequired := true, manualReconciliationReported := true }) .manualReported)

def buildTaskBillingLog (params : RecordTaskBillingLogParams) (createdAt : Int) : Log :=
  { requestId := params.requestId
    userId := params.userId
    type := params.logType
    quota := params.quota
    channelId := params.channelId
    tokenId := params.tokenId
    modelName := params.modelName
    group := params.group
    createdAt := createdAt
    idempotencyKey := if params.logType=.refund ∧ params.requestId≠"" then
      some ("task-refund:" ++ params.requestId) else none }

/-- What the database does with an insert: it stores the row, refuses it with an error, or stores it
and the answer is lost. -/
inductive InsertOutcome where
  | stored | refused | lost
  deriving DecidableEq

/-- The row is stored by a log table without a unique index. -/
def Sink.create (sink : Sink) (log : Log) (outcome : InsertOutcome) : Sink×Bool :=
  ({ sink with
      logs := if outcome=.refused then sink.logs else sink.logs++[log]
      attempts := sink.attempts+1 },outcome=.stored)

/-- The flag is false when an error is returned. -/
def recordTaskBillingLogOnceWithDB (sink : Sink) (log : Log) (outcome : InsertOutcome) : Sink×Bool :=
  match log.idempotencyKey with
  | none => (sink,false)
  | some key =>
    if sink.clickHouse then sink.create log outcome
    else if sink.logs.any fun l => decide (l.idempotencyKey=some key) ||
        decide (l.requestId=log.requestId ∧ l.type=log.type) then (sink,decide (outcome≠.refused))
    else sink.create log outcome

structure ImageTaskBillingEvidence where
  quota : Int
  channelId : Int
  tokenId : Int
  billingSource : BillingSource
  subscriptionId : Int
  modelName : String

def findImageTaskBillingEvidence (db : SubscriptionDB) (logs : List Log) (task : Task) :
    Option ImageTaskBillingEvidence :=
  if task.userId≤0 ∨ task.taskId="" then none else
  match logs.filter fun l => decide (l.requestId=task.taskId ∧ l.userId=task.userId ∧ l.type=.consume ∧
      l.quota>0 ∧ (task.submitTime>0 → l.createdAt≥task.submitTime)) with
  | [log] =>
    if task.privateData.tokenId>0 ∧ log.tokenId≠task.privateData.tokenId then none else
    match db.records.find? fun r => decide (r.requestId=task.taskId ∧ r.userId=task.userId) with
    | some record =>
      if record.status≠.consumed ∨ record.userSubscriptionId≤0 then none
      else some ⟨log.quota,log.channelId,log.tokenId,.subscription,record.userSubscriptionId,log.modelName⟩
    | none =>
      if log.metadataSource=.subscription then none
      else some ⟨log.quota,log.channelId,log.tokenId,.wallet,0,log.modelName⟩
  | _ => none

def applyImageTaskBillingEvidence (nodeName : String) (task : Task) (evidence : ImageTaskBillingEvidence) : Task :=
  { task with
    quota := evidence.quota
    channelId := evidence.channelId
    originModelName := if task.originModelName="" then evidence.modelName else task.originModelName
    privateData := { task.privateData with
      billingSource := evidence.billingSource
      subscriptionId := evidence.subscriptionId
      tokenId := evidence.tokenId
      nodeName := nodeName
      billingContext := some evidence.modelName } }

/-- A copy of the row in a worker's memory, and whether billing evidence was found for it. -/
structure Held where
  task : Task
  found : Bool := false

/-- The last statement of `PersistImageTaskBillingFromConsumeLog`. -/
def persistImageTaskBilling (row held : Task) : Task :=
  if row.status.active then
    { row with
      quota := held.quota
      channelId := held.channelId
      originModelName := held.originModelName
      upstreamModelName := held.upstreamModelName
      privateData := held.privateData }
  else row

/-- The held copy after the call, and the row after `UpdateWithStatus`. -/
def failImageTask (row held : Task) (now : Int) (publicReason : String) : Task×Task :=
  if held.status=.success ∨ held.status=.failure then (held,row) else
  let failed := { held with status := .failure, updatedAt := now, failReason := publicReason }
  (failed,if row.status=held.status then failed else row)

def claimStaleImageTask (row held : Task) (now : Int) (publicReason : String) : Task :=
  if row.status=held.status then
    { row with
      status := .failure
      updatedAt := now
      failReason := publicReason
      quota := held.quota
      channelId := held.channelId
      originModelName := held.originModelName
      upstreamModelName := held.upstreamModelName
      privateData := held.privateData }
  else row

def claimFailedImageTaskRefundRetry (row held : Task) (now : Int) : Task :=
  if row.status=.failure ∧ row.quota>0 ∧ row.updatedAt=held.updatedAt then
    { row with updatedAt := if now≤held.updatedAt then held.updatedAt+1 else now }
  else row

/-- Where a call of `FinalizeImageTaskRefundReconciliation` stands after its claim. -/
inductive Phase where
  | claimed | inserted | failed | returned
  deriving DecidableEq

structure Finalizer where
  params : RecordTaskBillingLogParams
  claimToken : String
  phase : Phase := .claimed

structure System where
  task : Task
  accounts : Accounts
  sink : Sink
  held : List Held := []
  finalizers : List Finalizer := []

/-- One step of one worker; `i` is a copy it holds and `f` its finalizing call. -/
inductive Op where
  | read
  | findEvidence (i : Nat) (nodeName : String)
  | persistImageTaskBillingFromConsumeLog (i : Nat)
  | failImageTask (i : Nat) (now : Int) (publicReason : String)
  | claimStaleImageTaskForBilling (i : Nat) (now : Int) (publicReason : String)
  | claimFailedImageTaskRefundRetry (i : Nat) (now : Int)
  | refundImageTaskMoney (expectedQuota now : Int) (reason : String)
  | reconcileImageTaskRefundAccounting
  | markImageTaskRefundCacheRepaired
  | claimImageTaskRefundLog (params : RecordTaskBillingLogParams) (token : String) (now : Int)
  | recordTaskBillingLog (f : Nat) (createdAt : Int) (outcome : InsertOutcome)
  | releaseImageTaskRefundLogClaim (f : Nat)
  | completeImageTaskRefundLogClaim (f : Nat)
  | markImageTaskRefundManualReconciliationReported

def System.withHeld (s : System) (i : Nat) (f : Held → System) : System :=
  match s.held[i]? with
  | some h => f h
  | none => s

def System.withFinalizer (s : System) (i : Nat) (phase : Phase) (f : Finalizer → System) : System :=
  match s.finalizers[i]? with
  | some w => if w.phase=phase then f w else s
  | none => s

def System.setPhase (s : System) (i : Nat) (w : Finalizer) (phase : Phase) : System :=
  { s with finalizers := s.finalizers.set i { w with phase := phase } }

def step (s : System) : Op → System
  | .read => { s with held := s.held++[⟨s.task,false⟩] }
  | .findEvidence i nodeName => s.withHeld i fun h =>
    match findImageTaskBillingEvidence s.accounts.subscriptions s.sink.logs h.task with
    | none => s
    | some e => { s with held := s.held.set i ⟨applyImageTaskBillingEvidence nodeName h.task e,true⟩ }
  | .persistImageTaskBillingFromConsumeLog i => s.withHeld i fun h =>
    if h.found then { s with task := persistImageTaskBilling s.task h.task } else s
  | .failImageTask i now reason => s.withHeld i fun h =>
    { s with
      task := (failImageTask s.task h.task now reason).2
      held := s.held.set i { h with task := (failImageTask s.task h.task now reason).1 } }
  | .claimStaleImageTaskForBilling i now reason => s.withHeld i fun h =>
    if h.found ∧ h.task.status.active then { s with task := claimStaleImageTask s.task h.task now reason } else s
  | .claimFailedImageTaskRefundRetry i now => s.withHeld i fun h =>
    { s with task := claimFailedImageTaskRefundRetry s.task h.task now }
  | .refundImageTaskMoney expectedQuota now reason =>
    match refundImageTaskMoney s.accounts s.task expectedQuota now reason with
    | .ok (accounts,task,_) => { s with accounts := accounts, task := task }
    | .error _ => s
  | .reconcileImageTaskRefundAccounting =>
    match reconcileImageTaskRefundAccounting s.accounts s.task with
    | .ok (accounts,task,_) => { s with accounts := accounts, task := task }
    | .error _ => s
  | .markImageTaskRefundCacheRepaired =>
    { s with task := commit s.task (markImageTaskRefundCacheRepaired s.task) }
  | .claimImageTaskRefundLog params token now =>
    if params.requestId="" then s else
    match claimImageTaskRefundLog s.sink.clickHouse s.task params.requestId token now with
    | .ok (task,true) => { s with task := task, finalizers := s.finalizers++[⟨params,token,.claimed⟩] }
    | _ => s
  | .recordTaskBillingLog f createdAt outcome => s.withFinalizer f .claimed fun w =>
    let (sink,ok) := recordTaskBillingLogOnceWithDB s.sink (buildTaskBillingLog w.params createdAt) outcome
    { s.setPhase f w (if ok then .inserted else .failed) with sink := sink }
  | .releaseImageTaskRefundLogClaim f => s.withFinalizer f .failed fun w =>
    if s.sink.clickHouse then s.setPhase f w .returned
    else { s.setPhase f w .returned with task := releaseImageTaskRefundLogClaim s.task w.claimToken }
  | .completeImageTaskRefundLogClaim f => s.withFinalizer f .inserted fun w =>
    { s.setPhase f w .returned with
      task := commit s.task (completeImageTaskRefundLogClaim s.task w.params.requestId w.claimToken) }
  | .markImageTaskRefundManualReconciliationReported =>
    { s with task := commit s.task (markImageTaskRefundManualReconciliationReported s.task) }

end NewApi.ImageTask
