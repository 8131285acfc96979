import NewApi.Lib.Keyed
import NewApi.Notifications.Filters

/-! The notification tables and the transactions over them (`model/notification.go`): an event is entered once for each key within
the time of its receipt, with a delivery for each target that wants it. -/
namespace NewApi.Notifications
open GoStrings Keyed

inductive DeliveryStatus where
  | pending | claimed | sending | retrying | success | dead | canceled
  deriving DecidableEq

namespace DeliveryStatus

def terminal : DeliveryStatus → Bool
  | success | dead | canceled => true
  | _ => false

def waiting : DeliveryStatus → Bool
  | pending | retrying => true
  | _ => false

def unsent : DeliveryStatus → Bool
  | pending | retrying | claimed => true
  | _ => false

end DeliveryStatus

structure NotificationBot where
  id : Int
  type : String
  enabled : Bool

structure NotificationTask where
  id : Int
  eventType : String
  botId : Int
  template : String := ""
  enabled : Bool
  filterConfig : FilterText := .blank
  activeAfterEventId : Int := 0

structure NotificationTarget where
  id : Int
  taskId : Int
  chatId : String
  enabled : Bool

structure NotificationEvent where
  id : Int
  eventType : String
  eventKey : String
  payload : Payload
  createdAt : Int

/-- The digest under which a receipt is kept, by what it is the digest of. -/
inductive DedupeKey where
  | sequenceLock
  | event (eventType eventKey : String)
  | channelNamePrefix (taskId : Int) (name : String)
  deriving DecidableEq

structure NotificationEventReceipt where
  id : Int
  dedupeKey : DedupeKey
  createdAt : Int

structure NotificationDelivery where
  id : Int
  eventId : Int
  taskId : Int
  targetId : Int
  status : DeliveryStatus
  attemptCount : Int := 0
  nextAttemptAt : Int
  createdAt : Int
  updatedAt : Int

structure Store where
  bots : List NotificationBot := []
  tasks : List NotificationTask := []
  targets : List NotificationTarget := []
  events : List NotificationEvent := []
  receipts : List NotificationEventReceipt := []
  deliveries : List NotificationDelivery := []
  nextEventId : Int := 1
  nextReceiptId : Int := 1
  nextDeliveryId : Int := 1

namespace Store
variable (db : Store)

def bot (id : Int) : Option NotificationBot := lookup NotificationBot.id id db.bots

def task (id : Int) : Option NotificationTask := lookup NotificationTask.id id db.tasks

def target (id : Int) : Option NotificationTarget := lookup NotificationTarget.id id db.targets

def event (id : Int) : Option NotificationEvent := lookup NotificationEvent.id id db.events

def receipt (key : DedupeKey) : Option NotificationEventReceipt := lookup NotificationEventReceipt.dedupeKey key db.receipts

def delivery (id : Int) : Option NotificationDelivery := lookup NotificationDelivery.id id db.deliveries

end Store

def receiptTTLSeconds : Int := 90*24*60*60

def receiptCleanupLimit : Nat := 100

def notificationEventDedupeKey (eventType eventKey : String) : DedupeKey := .event eventType eventKey

section Receipts
variable (lower : String → String)

def notificationPrefixDedupKey (taskId : Int) (name : String) : DedupeKey :=
  .channelNamePrefix taskId (lower name)

def createReceipt (db : Store) (key : DedupeKey) (now : Int) : Store :=
  { db with
    receipts := db.receipts++[{ id := db.nextReceiptId, dedupeKey := key, createdAt := now }]
    nextReceiptId := db.nextReceiptId+1 }

/-- `ensureNotificationReceiptTx`: a receipt that exists stays. -/
def ensureReceipt (db : Store) (key : DedupeKey) (now : Int) : Store :=
  if (db.receipt key).isSome then db else createReceipt db key now

def lockNotificationSequenceTx (db : Store) (now : Int) : Store := ensureReceipt db .sequenceLock now

def cleanupExpiredNotificationReceiptsTx (db : Store) (currentDedupeKey : DedupeKey) (now : Int) : Store :=
  let cutoff := now-receiptTTLSeconds
  let receipts := db.receipts.filter fun r => !(r.dedupeKey=currentDedupeKey && decide (r.createdAt≤cutoff))
  let expired := (receipts.filter fun r => r.dedupeKey≠.sequenceLock && decide (r.createdAt≤cutoff)).take
    receiptCleanupLimit
  { db with receipts := receipts.filter fun r => r.id∉expired.map NotificationEventReceipt.id }

def notificationTaskPrefixDeduped (db : Store) (taskId : Int) (rawFilter : FilterText) (payload : Payload) (now : Int) :
    Bool×Store :=
  match dedupWindow taskId rawFilter payload with
  | none => (false,db)
  | some window =>
    let key := notificationPrefixDedupKey lower taskId (payloadPrefix payload)
    match db.receipt key with
    | none => (false,createReceipt db key now)
    | some stored =>
      if now-stored.createdAt<window then (true,db)
      else (false,{ db with
        receipts := modify NotificationEventReceipt.id stored.id (fun r => { r with createdAt := now }) db.receipts })

end Receipts

def removeExpiredTerminalNotificationEventTx (db : Store) (eventType eventKey : String) : Bool×Store :=
  match db.events.find? fun e => e.eventType=eventType && e.eventKey=eventKey with
  | none => (false,db)
  | some event =>
    if db.deliveries.any fun d => d.eventId=event.id && !d.status.terminal then (true,db)
    else (false,{ db with
      deliveries := db.deliveries.filter fun d => d.eventId≠event.id
      events := db.events.filter fun e => e.id≠event.id })

structure NotificationSubscriber where
  targetId : Int
  taskId : Int
  filterConfig : FilterText

def subscription (db : Store) (eventType : String) (eventId : Int) (target : NotificationTarget) :
    Option NotificationSubscriber :=
  (db.task target.taskId).bind fun task => (db.bot task.botId).bind fun bot =>
    if task.enabled && target.enabled && bot.enabled && task.eventType=eventType && decide (task.activeAfterEventId<eventId)
    then some ⟨target.id,target.taskId,task.filterConfig⟩ else none

def subscribers (db : Store) (eventType : String) (eventId : Int) : List NotificationSubscriber :=
  db.targets.filterMap (subscription db eventType eventId)

inductive EnqueueStatus where
  | queued | duplicate | acceptedWithoutSubscriber

structure NotificationEnqueueResult where
  status : EnqueueStatus
  deliveryCount : Nat := 0

section Enqueue
variable (lower : String → String)

def filterSubscribers (payload : Payload) (now : Int) : Store → List NotificationSubscriber → List NotificationSubscriber×Store
  | db, [] => ([],db)
  | db, subscriber::rest =>
    if notificationTaskFilterMatches lower subscriber.filterConfig payload=false then filterSubscribers payload now db rest
    else match notificationTaskPrefixDeduped lower db subscriber.taskId subscriber.filterConfig payload now with
      | (true,db) => filterSubscribers payload now db rest
      | (false,db) =>
        let filtered := filterSubscribers payload now db rest
        (subscriber::filtered.1,filtered.2)

def pendingDelivery (id eventId now : Int) (subscriber : NotificationSubscriber) : NotificationDelivery where
  id := id
  eventId := eventId
  taskId := subscriber.taskId
  targetId := subscriber.targetId
  status := .pending
  nextAttemptAt := now
  createdAt := now
  updatedAt := now

def createDelivery (eventId now : Int) (db : Store) (subscriber : NotificationSubscriber) : Store :=
  { db with
    deliveries := db.deliveries++[pendingDelivery db.nextDeliveryId eventId now subscriber]
    nextDeliveryId := db.nextDeliveryId+1 }

def fanOut (db : Store) (eventType eventKey : String) (payload : Payload) (now : Int) : NotificationEnqueueResult×Store :=
  let event : NotificationEvent := ⟨db.nextEventId,eventType,eventKey,payload,now⟩
  let created := { db with events := db.events++[event], nextEventId := db.nextEventId+1 }
  let (filtered,filteredStore) := filterSubscribers lower payload now created (subscribers created eventType event.id)
  if filtered=[] then
    (⟨.acceptedWithoutSubscriber,0⟩,{ filteredStore with events := filteredStore.events.filter fun e => e.id≠event.id })
  else (⟨.queued,filtered.length⟩,filtered.foldl (createDelivery event.id now) filteredStore)

/-- `none` where it returns an error, and the transaction of its caller is undone. -/
def enqueueNotificationEventTx (db : Store) (eventType eventKey : String) (payload : Payload) (now : Int) :
    Option (NotificationEnqueueResult×Store) :=
  let eventType := trimSpace eventType
  let eventKey := trimSpace eventKey
  if eventType="" ∨ eventKey="" then none
  else
    let dedupeKey := notificationEventDedupeKey eventType eventKey
    let db := cleanupExpiredNotificationReceiptsTx (lockNotificationSequenceTx db now) dedupeKey now
    if (db.receipt dedupeKey).isSome then some (⟨.duplicate,0⟩,db)
    else match removeExpiredTerminalNotificationEventTx db eventType eventKey with
      | (true,db) => some (⟨.duplicate,0⟩,ensureReceipt db dedupeKey now)
      | (false,db) =>
        -- the receipt is always this call's: the one that was there is gone
        some (fanOut lower (createReceipt db dedupeKey now) eventType eventKey payload now)

end Enqueue

def finishedEvents (db : Store) (taskId : Int) : List Int :=
  let rows := db.deliveries.filter fun d => d.taskId=taskId
  let finished := (rows.map NotificationDelivery.eventId).dedup.filter fun eventId =>
    rows.all fun d => d.eventId≠eventId || d.status.terminal
  let newest (eventId : Int) : Int :=
    ((rows.filter fun d => d.eventId=eventId).map NotificationDelivery.id).foldr max 0
  finished.insertionSort fun a b => newest a≥newest b

def pruneEvent (taskId : Int) (db : Store) (eventId : Int) : Store :=
  let deliveries := db.deliveries.filter fun d => !(d.taskId=taskId && d.eventId=eventId && d.status.terminal)
  { db with
    deliveries := deliveries
    events := if deliveries.any fun d => d.eventId=eventId then db.events else db.events.filter fun e => e.id≠eventId }

def pruneNotificationHistoryForTaskTx (db : Store) (taskId : Int) : Store :=
  if taskId≤0 then db else ((finishedEvents db taskId).drop 5).foldl (pruneEvent taskId) db

end NewApi.Notifications
