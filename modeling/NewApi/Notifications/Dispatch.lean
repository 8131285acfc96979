import NewApi.Lib.Programs
import NewApi.Notifications.Store

/-! The dispatcher of notification deliveries (`model/notification.go`, `service/notification.go`) as sequences of statements, clock
readings and messages. A transaction is one statement. -/
namespace NewApi.Notifications
open GoStrings Keyed Programs

def notificationMaxAttempts : Int := 8

def notificationDispatchBatchSize : Int := 50

def notificationDeliveryLease : Int := 120

def notificationDispatchInterval : Int := 10

def notificationClaimRetryDelaySeconds : Int := 10

structure TelegramMessageResponse where
  ok : Bool
  errorCode : Int := 0
  retryAfter : Int := 0

/-- What comes back after a message was sent; `decoded` is `none` where the body is no answer of Telegram. -/
inductive SendAnswer where
  | requestFailed
  | readFailed
  | tooLarge
  | response (statusCode : Int) (decoded : Option TelegramMessageResponse)

structure TelegramDeliveryError where
  message : String
  retryable : Bool := false
  retryAfter : Int := 0

/-- The end of `sendTelegramMessageContext`: `none` for a message that was accepted. -/
def SendAnswer.error : SendAnswer → Option TelegramDeliveryError
  | requestFailed => some { message := "telegram request failed" }
  | readFailed => some { message := "read telegram response failed" }
  | tooLarge => some { message := "telegram response exceeds size limit" }
  | response statusCode decoded =>
    if statusCode=429 then
      some { message := "telegram rate limited", retryable := true
             retryAfter := (decoded.map TelegramMessageResponse.retryAfter).getD 0 }
    else match decoded with
      | none =>
        if 400 ≤ statusCode ∧ statusCode<500 then some { message := "telegram returned HTTP " ++ toString statusCode }
        else some { message := "telegram returned an invalid response" }
      | some result =>
        if statusCode<200 ∨ statusCode≥300 ∨ result.ok=false then
          if result.errorCode=429 then
            some { message := "telegram rate limited", retryable := true, retryAfter := result.retryAfter }
          else some { message := "telegram rejected message" }
        else none

inductive SendOutcome where
  | accepted | rejected | unknown
  deriving DecidableEq

/-- A definite rejection is one that says to try again; after any other error the message may have arrived. -/
def SendAnswer.outcome (answer : SendAnswer) : SendOutcome :=
  match answer.error with
  | none => .accepted
  | some e => if e.retryable then .rejected else .unknown

/-- What happens to a delivery: the start of a worker's attempt, its message, the answer to it, and the report that it may be tried
again. -/
inductive DeliveryEvent where
  | started (id attempt : Int)
  | posted (id attempt : Int)
  | answered (id attempt : Int) (outcome : SendOutcome)
  | reported (id attempt : Int)
  deriving DecidableEq

inductive StatementError where
  | state | notFound | failed

inductive Ending where
  | success | dead | canceled

def Ending.status : Ending → DeliveryStatus
  | success => .success
  | dead => .dead
  | canceled => .canceled

def Ending.fromStatuses : Ending → List DeliveryStatus
  | success => [.sending]
  | dead => [.claimed,.sending]
  | canceled => [.claimed,.sending]

/-- An operation of a call. `configure` is a transaction of an administrator, which cancels the unsent deliveries of
some tasks. The number of the attempt in `post`, `receive` and `retry` is for the record. -/
inductive DispatchOp where
  | clock
  | ctxErr
  | enqueue (eventType eventKey : String) (payload : Payload)
  | configure (bots : List NotificationBot) (tasks : List NotificationTask) (targets : List NotificationTarget)
    (cancelledTaskIds : List Int)
  | deleteTask (id : Int)
  | staleClaimed (cutoff : Int) (limit : Nat)
  | releaseStale (ids : List Int) (now : Int)
  | staleSending (cutoff : Int) (limit : Nat)
  | candidates (now : Int) (limit : Nat)
  | claim (candidate : NotificationDelivery) (now : Int)
  | findDelivery (id : Int)
  | findEvent (id : Int)
  | findTask (id : Int)
  | findTarget (id : Int)
  | findBot (id : Int)
  | botToken (botId : Int)
  | start (id startedAt : Int)
  | release (id nextAttemptAt now : Int)
  | retry (id attempt nextAttemptAt now : Int)
  | finish (id : Int) (ending : Ending) (now : Int)
  | prune (taskId : Int)
  | post (id attempt : Int)
  | receive (id attempt : Int)

abbrev DispatchAns : DispatchOp → Type
  | .clock => Int
  | .ctxErr => Bool
  | .staleClaimed _ _ | .staleSending _ _ => Except StatementError (List Int)
  | .candidates _ _ => Except StatementError (List NotificationDelivery)
  | .findDelivery _ => Except StatementError NotificationDelivery
  | .findEvent _ => Except StatementError NotificationEvent
  | .findTask _ => Except StatementError NotificationTask
  | .findTarget _ => Except StatementError NotificationTarget
  | .findBot _ => Except StatementError NotificationBot
  | .botToken _ => Option String
  | .claim _ _ => Except StatementError Bool
  | .start _ _ | .finish _ _ _ => Except StatementError Int
  | .receive _ _ => SendAnswer
  | _ => Except StatementError Unit

structure DispatchState where
  db : Store
  log : List DeliveryEvent := []

/-- What the environment decides at a step: whether the statement fails, the clock, in which order rows without an order come,
whether the run is cancelled, the token of a bot and the answer to a message. -/
structure DispatchChoice where
  fails : Bool := false
  clock : Int := 0
  order : List Int := []
  cancelled : Bool := false
  token : Option String := none
  answer : SendAnswer := .requestFailed

namespace Store
variable (db : Store)

def updateDeliveries (select : NotificationDelivery → Bool) (edit : NotificationDelivery → NotificationDelivery) : Store :=
  { db with deliveries := db.deliveries.map fun d => if select d then edit d else d }

def deliveryIds (select : NotificationDelivery → Bool) (order : List Int) (limit : Nat) : List Int :=
  (order.dedup.filter fun id => db.deliveries.any fun d => decide (d.id=id) && select d).take limit

def releaseStale (ids : List Int) (now : Int) : Store :=
  db.updateDeliveries (fun d => decide (d.id∈ids) && decide (d.status=.claimed)) fun d =>
    { d with status := .retrying, nextAttemptAt := now, updatedAt := now }

def isCandidate (candidate d : NotificationDelivery) : Bool :=
  decide (d.id=candidate.id) && decide (d.status=candidate.status) && decide (d.attemptCount=candidate.attemptCount) &&
    decide (d.updatedAt=candidate.updatedAt)

def claimDelivery (candidate : NotificationDelivery) (now : Int) : Store :=
  db.updateDeliveries (isCandidate candidate) fun d => { d with status := .claimed, updatedAt := now }

def inStatus (id : Int) (statuses : List DeliveryStatus) (d : NotificationDelivery) : Bool :=
  decide (d.id=id) && decide (d.status∈statuses)

def startSending (id startedAt : Int) : Store :=
  db.updateDeliveries (inStatus id [.claimed]) fun d =>
    { d with status := .sending, attemptCount := d.attemptCount+1, updatedAt := startedAt }

def releaseClaim (id nextAttemptAt now : Int) : Store :=
  db.updateDeliveries (inStatus id [.claimed]) fun d =>
    { d with status := .retrying, nextAttemptAt := nextAttemptAt, updatedAt := now }

def markRetry (id nextAttemptAt now : Int) : Store :=
  db.updateDeliveries (inStatus id [.sending]) fun d =>
    { d with status := .retrying, nextAttemptAt := nextAttemptAt, updatedAt := now }

def finishDelivery (id : Int) (ending : Ending) (now : Int) : Store :=
  db.updateDeliveries (inStatus id ending.fromStatuses) fun d => { d with status := ending.status, updatedAt := now }

def cancelUnsent (taskIds : List Int) (now : Int) : Store :=
  db.updateDeliveries (fun d => decide (d.taskId∈taskIds) && d.status.unsent) fun d =>
    { d with status := .canceled, updatedAt := now }

def deleteTask (id : Int) : Except StatementError Store :=
  if db.deliveries.any fun d => decide (d.taskId=id) && !d.status.terminal then .error .state
  else .ok { db with
    deliveries := db.deliveries.filter fun d => d.taskId≠id
    targets := db.targets.filter fun t => t.taskId≠id
    tasks := db.tasks.filter fun t => t.id≠id }

end Store

def found {α : Type} (fails : Bool) (row : Option α) : Except StatementError α :=
  if fails then .error .failed else row.elim (.error .notFound) .ok

def DispatchState.change (s : DispatchState) (fails : Bool) (db : Store) : DispatchState×Except StatementError Unit :=
  if fails then (s,.error .failed) else ({ s with db := db },.ok ())

def DispatchState.record (s : DispatchState) (event : DeliveryEvent) : DispatchState := { s with log := s.log++[event] }

section Exec
variable (lower : String → String)

def dispatchExec (s : DispatchState) (c : DispatchChoice) : (op : DispatchOp) → DispatchState×DispatchAns op
  | .clock => (s,c.clock)
  | .ctxErr => (s,c.cancelled)
  | .enqueue eventType eventKey payload =>
    match enqueueNotificationEventTx lower s.db eventType eventKey payload c.clock with
    | none => (s,.error .failed)
    | some (_,db) => s.change c.fails db
  | .configure bots tasks targets cancelledTaskIds => s.change c.fails
      { s.db.cancelUnsent cancelledTaskIds c.clock with bots := bots, tasks := tasks, targets := targets }
  | .deleteTask id =>
    match s.db.deleteTask id with
    | .error e => (s,.error e)
    | .ok db => s.change c.fails db
  | .staleClaimed cutoff limit =>
    (s,if c.fails then .error .failed
      else .ok (s.db.deliveryIds (fun d => decide (d.status=.claimed) && decide (d.updatedAt≤cutoff)) c.order limit))
  | .releaseStale ids now => s.change c.fails (s.db.releaseStale ids now)
  | .staleSending cutoff limit =>
    (s,if c.fails then .error .failed
      else .ok (s.db.deliveryIds (fun d => decide (d.status=.sending) && decide (d.updatedAt≤cutoff)) c.order limit))
  | .candidates now limit =>
    (s,if c.fails then .error .failed
      else .ok ((s.db.deliveries.filter fun d => d.status.waiting && decide (d.nextAttemptAt≤now)).take limit))
  | .claim candidate now =>
    if c.fails then (s,.error .failed)
    else ({ s with db := s.db.claimDelivery candidate now },.ok (s.db.deliveries.any (Store.isCandidate candidate)))
  | .findDelivery id => (s,found c.fails (s.db.delivery id))
  | .findEvent id => (s,found c.fails (s.db.event id))
  | .findTask id => (s,found c.fails (s.db.task id))
  | .findTarget id => (s,found c.fails (s.db.target id))
  | .findBot id => (s,found c.fails (s.db.bot id))
  | .botToken _ => (s,c.token)
  | .start id startedAt =>
    if c.fails then (s,.error .failed)
    else match (s.db.startSending id startedAt).deliveries.find? fun d => d.id=id with
      | none => (s,.error .state)
      | some d =>
        if s.db.deliveries.any (Store.inStatus id [.claimed]) then
          (({ s with db := s.db.startSending id startedAt } : DispatchState).record (.started id d.attemptCount),.ok d.attemptCount)
        else (s,.error .state)
  | .release id nextAttemptAt now =>
    if s.db.deliveries.any (Store.inStatus id [.claimed]) then s.change c.fails (s.db.releaseClaim id nextAttemptAt now)
    else (s,.error .state)
  | .retry id attempt nextAttemptAt now =>
    if c.fails then (s,.error .failed)
    else if s.db.deliveries.any (Store.inStatus id [.sending]) then
      (({ s with db := s.db.markRetry id nextAttemptAt now } : DispatchState).record (.reported id attempt),.ok ())
    else (s,.error .state)
  | .finish id ending now =>
    if c.fails then (s,.error .failed)
    else match s.db.delivery id with
      | none => (s,.error .notFound)
      | some d =>
        if s.db.deliveries.any (Store.inStatus id ending.fromStatuses) then
          ({ s with db := s.db.finishDelivery id ending now },.ok d.taskId)
        else (s,.error .state)
  | .prune taskId => s.change c.fails (pruneNotificationHistoryForTaskTx s.db taskId)
  | .post id attempt => (s.record (.posted id attempt),.ok ())
  | .receive id attempt => (s.record (.answered id attempt c.answer.outcome),c.answer)

end Exec

structure NotificationDeliveryWork where
  delivery : NotificationDelivery
  event : NotificationEvent
  task : NotificationTask
  target : NotificationTarget
  bot : NotificationBot

structure NotificationDispatchResult where
  claimed : Nat := 0
  processed : Nat := 0
  failed : Bool := false

abbrev Code := Prog DispatchOp DispatchAns NotificationDispatchResult

def orNow (time : Int) (next : Int → Code) : Code := if time≤0 then .call .clock next else next time

def markNotificationDeliverySending (id startedAt : Int) (next : Except StatementError Int → Code) : Code :=
  orNow startedAt fun startedAt => .call (.start id startedAt) next

def releaseNotificationDeliveryClaim (id nextAttemptAt : Int) (next : Except StatementError Unit → Code) : Code :=
  .call .clock fun now => .call (.release id nextAttemptAt now) next

def markNotificationDeliveryRetry (id attempt nextAttemptAt : Int) (next : Except StatementError Unit → Code) : Code :=
  .call .clock fun now => .call (.retry id attempt nextAttemptAt now) next

def markNotificationDeliveryTerminal (id : Int) (ending : Ending) (now : Int) (next : Except StatementError Unit → Code) : Code :=
  .call (.finish id ending now) fun
    | .error e => next (.error e)
    | .ok taskId => .call (.prune taskId) next

def markNotificationDeliverySuccess (id sentAt : Int) (next : Except StatementError Unit → Code) : Code :=
  orNow sentAt fun sentAt => markNotificationDeliveryTerminal id .success sentAt next

def markNotificationDeliveryDead (id : Int) (next : Except StatementError Unit → Code) : Code :=
  .call .clock fun now => markNotificationDeliveryTerminal id .dead now next

def markNotificationDeliveryCanceled (id : Int) (next : Except StatementError Unit → Code) : Code :=
  .call .clock fun now => markNotificationDeliveryTerminal id .canceled now next

/-- The loop of `ClaimNotificationDeliveries` over the deliveries that a worker left in sending; it stops at an error other than a
changed state. -/
def endStaleSending (next : Bool → Code) : List Int → Code
  | [] => next true
  | id::rest => markNotificationDeliveryDead id fun
    | .ok _ | .error .state => endStaleSending next rest
    | .error _ => next false

def loadWork (id : Int) (next : Except StatementError NotificationDeliveryWork → Code) : Code :=
  .call (.findDelivery id) fun
    | .error e => next (.error e)
    | .ok delivery => .call (.findEvent delivery.eventId) fun
      | .error e => next (.error e)
      | .ok event => .call (.findTask delivery.taskId) fun
        | .error e => next (.error e)
        | .ok task => .call (.findTarget delivery.targetId) fun
          | .error e => next (.error e)
          | .ok target => .call (.findBot task.botId) fun
            | .error e => next (.error e)
            | .ok bot => next (.ok ⟨delivery,event,task,target,bot⟩)

/-- The loop of `ClaimNotificationDeliveries` over the candidates, with the work claimed so far and whether there was an error. -/
def claimCandidates (now : Int) (next : List NotificationDeliveryWork → Bool → Code) :
    List NotificationDeliveryWork → Bool → List NotificationDelivery → Code
  | claimed, failed, [] => next claimed failed
  | claimed, failed, candidate::rest => .call (.claim candidate now) fun
    | .error _ => claimCandidates now next claimed true rest
    | .ok false => claimCandidates now next claimed failed rest
    | .ok true => loadWork candidate.id fun
      | .ok work => claimCandidates now next (claimed++[work]) failed rest
      | .error .notFound => markNotificationDeliveryDead candidate.id fun _ => claimCandidates now next claimed true rest
      | .error _ => releaseNotificationDeliveryClaim candidate.id (now+notificationClaimRetryDelaySeconds) fun _ =>
          claimCandidates now next claimed true rest

def claimWaiting (limit : Nat) (now : Int) (next : List NotificationDeliveryWork → Bool → Code) : Code :=
  .call (.candidates now limit) fun
    | .error _ => next [] true
    | .ok candidates => claimCandidates now next [] false candidates

def sweepAndClaim (limit : Nat) (now leaseSeconds : Int) (next : List NotificationDeliveryWork → Bool → Code) : Code :=
  .call (.staleSending (now-leaseSeconds) limit) fun
    | .error _ => next [] true
    | .ok ids => endStaleSending (fun swept => if !swept then next [] true else claimWaiting limit now next) ids

def claimNotificationDeliveries (limit now leaseSeconds : Int) (next : List NotificationDeliveryWork → Bool → Code) : Code :=
  let limit := (if limit≤0 then 50 else limit).toNat
  let leaseSeconds := if leaseSeconds≤0 then 120 else leaseSeconds
  orNow now fun now =>
    .call (.staleClaimed (now-leaseSeconds) limit) fun
      | .error _ => next [] true
      | .ok [] => sweepAndClaim limit now leaseSeconds next
      | .ok (id::ids) => .call (.releaseStale (id::ids) now) fun
        | .error _ => next [] true
        | .ok _ => sweepAndClaim limit now leaseSeconds next

/-- What a worker needs besides the tables: whether a payload can be read, the rendered message, and the checks of the endpoint. -/
structure DispatchConfig where
  payloadValid : NotificationEvent → Bool
  render : NotificationEvent → NotificationTask → NotificationTarget → Option String
  endpointAllowed : String → Bool

def notificationRetryDelay (attempt : Int) : Int := min (2 ^ ((min (max attempt 1) 10).toNat-1)) 3600

section Dispatch
variable (config : DispatchConfig)

def sendTelegramMessageContext (id attempt : Int) (token chatId content : String) (next : Option TelegramDeliveryError → Code) :
    Code :=
  if isBlank token ∨ isBlank chatId then next (some { message := "telegram token and chat id are required" })
  else if content.length>4096 then next (some { message := "telegram message exceeds 4096 characters" })
  else if config.endpointAllowed token=false then next (some { message := "telegram endpoint rejected by SSRF policy" })
  else .call (.post id attempt) fun _ => .call (.receive id attempt) fun answer => next (SendAnswer.error answer)

/-- The end of `dispatchNotificationDelivery`, after the message. -/
def reportNotificationDelivery (id attempt : Int) (next : Code) : Option TelegramDeliveryError → Code
  | none => .call .clock fun now => markNotificationDeliverySuccess id now fun _ => next
  | some e =>
    if e.retryable ∧ attempt<notificationMaxAttempts then
      .call .clock fun now => markNotificationDeliveryRetry id attempt
        (now + if 0<e.retryAfter then e.retryAfter else notificationRetryDelay attempt) fun _ => next
    else markNotificationDeliveryDead id fun _ => next

def sendNotificationDelivery (id : Int) (token chatId content : String) (next : Code) : Code :=
  .call .clock fun now => markNotificationDeliverySending id now fun
    | .error _ => next
    | .ok attempt => sendTelegramMessageContext config id attempt token chatId content (reportNotificationDelivery id attempt next)

/-- The query for the bot into the loaded one asks for the key of that one too: a task that has moved to another bot has no
bot here. -/
def refreshNotificationDeliveryConfig (work : NotificationDeliveryWork)
    (next : Except StatementError (NotificationTask×NotificationTarget×NotificationBot) → Code) : Code :=
  .call (.findTask work.delivery.taskId) fun
    | .error e => next (.error e)
    | .ok task => .call (.findTarget work.delivery.targetId) fun
      | .error e => next (.error e)
      | .ok target => .call (.findBot task.botId) fun
        | .error e => next (.error e)
        | .ok bot => if work.bot.id≠0 ∧ bot.id≠work.bot.id then next (.error .notFound) else next (.ok (task,target,bot))

def dispatchNotificationDelivery (work : NotificationDeliveryWork) (next : Code) : Code :=
  let id := work.delivery.id
  refreshNotificationDeliveryConfig work fun
    | .error .notFound => markNotificationDeliveryCanceled id fun _ => next
    | .error _ => .call .clock fun now =>
        releaseNotificationDeliveryClaim id (now+notificationDispatchInterval) fun _ => next
    | .ok (task,target,bot) =>
      if !task.enabled || !target.enabled || !bot.enabled then markNotificationDeliveryCanceled id fun _ => next
      else if bot.type≠"telegram" then markNotificationDeliveryDead id fun _ => next
      else if config.payloadValid work.event=false then markNotificationDeliveryDead id fun _ => next
      else match config.render work.event task target with
        | none => markNotificationDeliveryDead id fun _ => next
        | some content => .call (.botToken bot.id) fun
          | none => .call .clock fun now =>
              releaseNotificationDeliveryClaim id (now+notificationDispatchInterval) fun _ => next
          | some token => sendNotificationDelivery config id token target.chatId content next

def dispatchAll (claimed : Nat) (failed : Bool) : Nat → List NotificationDeliveryWork → Code
  | processed, [] => .returned { claimed := claimed, processed := processed, failed := failed }
  | processed, work::rest => .call .ctxErr fun
    | true => .returned { claimed := claimed, processed := processed, failed := true }
    | false => dispatchNotificationDelivery config work (dispatchAll claimed failed (processed+1) rest)

def runNotificationDispatcherPass : Code :=
  .call .clock fun now =>
    claimNotificationDeliveries notificationDispatchBatchSize now notificationDeliveryLease fun works failed =>
      dispatchAll config works.length failed 0 works

inductive Start where
  | pass
  | enqueue (eventType eventKey : String) (payload : Payload)
  | configure (bots : List NotificationBot) (tasks : List NotificationTask) (targets : List NotificationTarget)
    (cancelledTaskIds : List Int)
  | deleteTask (id : Int)
  | prune (taskId : Int)

def dispatchProgram : Start → Code
  | .pass => runNotificationDispatcherPass config
  | .enqueue eventType eventKey payload => .call (.enqueue eventType eventKey payload) fun _ => .returned {}
  | .configure bots tasks targets cancelledTaskIds => .call (.configure bots tasks targets cancelledTaskIds) fun _ => .returned {}
  | .deleteTask id => .call (.deleteTask id) fun _ => .returned {}
  | .prune taskId => .call (.prune taskId) fun _ => .returned {}

end Dispatch

end NewApi.Notifications
