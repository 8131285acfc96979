import Mathlib.Data.List.Sort
import NewApi.Lib.Programs
import NewApi.Polling.Tasks

/-! Passes of the task poller (`service/task_polling.go`) as sequences of statements, requests and changes of the copies in memory. -/
namespace NewApi.Polling
open Programs

/-- What happens to a task: it fails with a quota, money is paid back, its billing is settled; and what a pass asks and applies. -/
inductive PollEvent where
  | failed (id quota : Int)
  | credited (id quota : Int)
  | settled (id : Int)
  | queried (channelId id : Int) (upstreamID : String)
  | asked (channelId : Int) (upstreamIDs : List String)
  | applied (channelId : Int) (upstreamID : String) (id : Int)
  deriving DecidableEq

structure PollState where
  rows : List Task := []
  nextId : Int := 1
  copies : List Task := []
  log : List PollEvent := []

/-- What the environment decides at a step: the clock, whether a statement fails, whether the pass is cancelled, the channel and the
adaptor that are found and what an upstream answers. -/
structure PollChoice where
  clock : Int := 0
  fails : Bool := false
  cancelled : Bool := false
  channel : Bool := true
  adaptor : Bool := true
  video : Option VideoBody := none
  suno : Option (List SunoDataResponse) := none

/-- What the poller takes from its surroundings: the timeout in minutes, the number of tasks of a pass, the address of a result, the
quota that an adaptor asks for and the one by tokens. -/
structure PollConfig where
  timeoutMinutes : Int
  queryLimit : Nat
  proxyURL : String → String
  adjustBillingOnComplete : Task → TaskInfo → Int
  quotaByTokens : Task → Int → Int

abbrev CopyRef := Nat×Task

/-- An operation. The last argument of `claimQuota` and `settling` is the status of the copy before the answer, for the record. -/
inductive PollOp where
  | insert (task : Task)
  | clock
  | ctxErr
  | timedOutTasks (cutoff : Int) (limit : Nat)
  | unrefundedTasks (updatedBefore : Int) (limit : Nat)
  | unfinishedTasks (limit : Nat)
  | updateWithStatus (task : Task) (fromStatus : TaskStatus)
  | bulkFail (ids : List Int) (failReason : Option String)
  | claimQuota (id quota : Int) (was : Option TaskStatus)
  | restoreQuota (id quota : Int)
  | refundFunding (id quota : Int)
  | recordQuota (address : Option Nat) (id quota : Int)
  | settling (id : Int) (was : TaskStatus)
  | settleFunding (id delta : Int)
  | findChannel (channelId : Int)
  | fetchVideo (channelId id : Int) (upstreamID : String)
  | fetchSuno (channelId : Int) (upstreamIDs : List String)
  | applyVideo (channelId : Int) (upstreamID : String) (address : Nat) (body : VideoBody)
  | applySuno (channelId : Int) (address : Nat) (item : SunoDataResponse)

structure Applied (α : Type) where
  before : Task
  after : Task
  result : α

abbrev PollAns : PollOp → Type
  | .insert _ | .recordQuota _ _ _ | .settling _ _ => Unit
  | .clock => Int
  | .ctxErr | .findChannel _ => Bool
  | .timedOutTasks _ _ | .unrefundedTasks _ _ => List Task
  | .unfinishedTasks _ => List CopyRef
  | .updateWithStatus _ _ => Option Bool
  | .bulkFail _ _ | .claimQuota _ _ _ | .restoreQuota _ _ | .refundFunding _ _ | .settleFunding _ _ => Bool
  | .fetchVideo _ _ _ => Option VideoBody
  | .fetchSuno _ _ => Option (List SunoDataResponse)
  | .applyVideo _ _ _ _ => Option (Applied TaskInfo)
  | .applySuno _ _ _ => Option (Applied Bool)

namespace PollState
variable (s : PollState)

def record (event : PollEvent) : PollState := { s with log := s.log++[event] }

def update (select : Task → Bool) (edit : Task → Task) : PollState :=
  { s with
    rows := s.rows.map fun row => if select row then edit row else row
    log := s.log++(s.rows.filter fun row =>
        select row && decide (row.status≠taskStatusFailure) && decide ((edit row).status=taskStatusFailure)).map
      fun row => .failed row.id (edit row).quota }

def updateWithStatus (task : Task) (fromStatus : TaskStatus) (now : Int) : PollState :=
  s.update (fun row => decide (row.id=task.id) && decide (row.status=fromStatus)) fun _ => { task with updatedAt := now }

def bulkFail (ids : List Int) (failReason : Option String) (now : Int) : PollState :=
  s.update (fun row => decide (row.id∈ids)) fun row =>
    { row with status := taskStatusFailure, progress := "100%", failReason := failReason.getD row.failReason, updatedAt := now }

def setQuota (id : Int) (select : Task → Bool) (quota now : Int) : PollState :=
  s.update (fun row => decide (row.id=id) && select row) fun row => { row with quota, updatedAt := now }

def insert (row : Task) : PollState :=
  { s with
    rows := s.rows++[row]
    nextId := s.nextId+1
    log := s.log ++ if row.status=taskStatusFailure then [.failed row.id row.quota] else [] }

def load (rows : List Task) : PollState := { s with copies := s.copies++rows }

end PollState

def pollExec (config : PollConfig) (s : PollState) (c : PollChoice) : (op : PollOp) → PollState×PollAns op
  | .insert task => (if c.fails then s else s.insert { task with id := s.nextId, updatedAt := c.clock },())
  | .clock => (s,c.clock)
  | .ctxErr => (s,c.cancelled)
  | .timedOutTasks cutoff limit =>
    (s,if c.fails then []
      else ((s.rows.filter (·.timedOut cutoff)).insertionSort fun a b => a.submitTime≤b.submitTime).take limit)
  | .unrefundedTasks updatedBefore limit =>
    (s,if c.fails then [] else (s.rows.filter (·.unrefunded updatedBefore)).take limit)
  | .unfinishedTasks limit =>
    if c.fails then (s,[])
    else
      let rows := (s.rows.filter Task.unfinished).take limit
      (s.load rows,rows.zipIdx.map fun (row,i) => (s.copies.length+i,row))
  | .updateWithStatus task fromStatus =>
    if c.fails then (s,none)
    else (s.updateWithStatus task fromStatus c.clock,
      some (s.rows.any fun row => decide (row.id=task.id) && decide (row.status=fromStatus)))
  | .bulkFail ids failReason => if c.fails then (s,false) else (s.bulkFail ids failReason c.clock,true)
  | .claimQuota id quota _ =>
    if c.fails then (s,false)
    else (s.setQuota id (fun row => decide (row.quota=quota)) 0 c.clock,
      s.rows.any fun row => decide (row.id=id) && decide (row.quota=quota))
  | .restoreQuota id quota =>
    if c.fails then (s,false)
    else (s.setQuota id (fun row => decide (row.quota=0)) quota c.clock,
      s.rows.any fun row => decide (row.id=id) && decide (row.quota=0))
  | .refundFunding id quota => if c.fails then (s,false) else (s.record (.credited id quota),true)
  | .recordQuota address id quota =>
    let s := { s with copies := (address.map fun a => s.copies.modify a fun task => { task with quota }).getD s.copies }
    (if c.fails then s else s.setQuota id (fun _ => true) quota c.clock,())
  | .settling id _ => (s.record (.settled id),())
  | .settleFunding _ _ => (s,!c.fails)
  | .findChannel _ => (s,c.channel)
  | .fetchVideo channelId id upstreamID => if c.adaptor then (s.record (.queried channelId id upstreamID),c.video) else (s,none)
  | .fetchSuno channelId upstreamIDs => if c.adaptor then (s.record (.asked channelId upstreamIDs),c.suno) else (s,none)
  | .applyVideo channelId upstreamID address body =>
    match s.copies[address]? with
    | none => (s,none)
    | some task =>
      let out := applyVideo config.proxyURL c.clock task body
      (({ s with copies := s.copies.set address out.1 }).record (.applied channelId upstreamID task.id),
        out.2.map fun info => ⟨task,out.1,info⟩)
  | .applySuno channelId address item =>
    match s.copies[address]? with
    | none => (s,none)
    | some task =>
      if taskNeedsUpdate task item then
        (({ s with copies := s.copies.set address (applySuno task item) }).record (.applied channelId item.taskID task.id),
          some ⟨task,applySuno task item,sunoFails task item⟩)
      else (s,none)

abbrev Code := Prog PollOp PollAns Unit

section Programs
variable (config : PollConfig) (tasks : List CopyRef)

/-- `refundTaskQuotaWithClaim` with `refundNonImageTaskQuota`, for the copy at an address if it is shared. -/
def refundTaskQuotaWithClaim (address : Option Nat) (task : Task) (was : Option TaskStatus) (next : Code) : Code :=
  if task.quota=0 then next
  else .call (.claimQuota task.id task.quota was) fun
    | false => next
    | true => .call (.refundFunding task.id task.quota) fun
      | true => .call (.recordQuota address task.id 0) fun _ => next
      | false => .call (.restoreQuota task.id task.quota) fun _ => next

def recalculateTaskQuota (address : Option Nat) (task : Task) (actualQuota : Int) (next : Code) : Code :=
  if actualQuota≤0 ∨ actualQuota=task.quota then next
  else .call (.settleFunding task.id (actualQuota-task.quota)) fun
    | false => next
    | true => .call (.recordQuota address task.id actualQuota) fun _ => next

def settleTaskBillingOnComplete (address : Option Nat) (task : Task) (info : TaskInfo) (was : TaskStatus) (next : Code) : Code :=
  .call (.settling task.id was) fun _ =>
    if task.perCallBilling then next
    else
      let adjusted := config.adjustBillingOnComplete task info
      let actualQuota := if adjusted>0 then adjusted
        else if info.totalTokens>0 then config.quotaByTokens task info.totalTokens else 0
      recalculateTaskQuota address task actualQuota next

def timeOutTasks (now : Int) (next : Code) : List Task → Code
  | [] => next
  | task::rest =>
    let failed := task.timeOut now config.timeoutMinutes
    .call (.updateWithStatus failed task.status) fun
      | some true =>
        if task.legacy then timeOutTasks now next rest
        else refundTaskQuotaWithClaim none failed none (timeOutTasks now next rest)
      | _ => timeOutTasks now next rest

def sweepTimedOutTasks (next : Code) : Code :=
  if config.timeoutMinutes≤0 then next
  else .call .clock fun time => .call (.timedOutTasks (time-config.timeoutMinutes*60) 100) fun
    | [] => next
    | tasks => .call .clock fun now => timeOutTasks config now next tasks

def refundTasks (next : Code) : List Task → Code
  | [] => next
  | task::rest => .call .ctxErr fun
    | true => next
    | false => refundTaskQuotaWithClaim none task none (refundTasks next rest)

def sweepUnrefundedFailedTasks (next : Code) : Code :=
  .call .clock fun time => .call (.unrefundedTasks (time-30) 100) (refundTasks next)

def failNullTasks (tasks : List CopyRef) : List String → Code
  | [] => .returned ()
  | platform::rest => .call .ctxErr fun
    | true => .returned ()
    | false =>
      let nullTaskIds := (tasks.filter fun ref => ref.2.platform=platform ∧ ref.2.getUpstreamTaskID="").map fun ref => ref.2.id
      if nullTaskIds=[] then failNullTasks tasks rest
      else .call (.bulkFail nullTaskIds none) fun _ => failNullTasks tasks rest

/-- `RunTaskPollingOnce` with the order in which it walks the platforms. The updates that it dispatches are calls of their own. -/
def runTaskPollingOnce (platforms : List String) : Code :=
  sweepTimedOutTasks config (sweepUnrefundedFailedTasks (.call (.unfinishedTasks config.queryLimit) fun tasks =>
    failNullTasks tasks platforms))

/-- `taskM`: the last task with the upstream id. -/
def findTask (upstreamID : String) : Option CopyRef :=
  tasks.reverse.find? fun ref => ref.2.getUpstreamTaskID=upstreamID

def failChannel (taskIds : List String) (reason : String) (next : Code) : Code :=
  let failedIDs := (taskIds.filterMap (findTask tasks)).map fun ref => ref.2.id
  if failedIDs=[] then next else .call (.bulkFail failedIDs (some reason)) fun _ => next

def updateSunoItems (tasks : List CopyRef) (channelId : Int) (next : Code) : List SunoDataResponse → Code
  | [] => next
  | item :: rest => .call .ctxErr fun
    | true => next
    | false =>
      match findTask tasks item.taskID with
      | none => updateSunoItems tasks channelId next rest
      | some ref => .call (.applySuno channelId ref.1 item) fun
        | none => updateSunoItems tasks channelId next rest
        | some applied => .call (.updateWithStatus applied.after applied.before.status) fun
          | some true =>
            if applied.result ∧ applied.before.status≠taskStatusFailure then
              refundTaskQuotaWithClaim (some ref.1) applied.after (some applied.before.status)
                (updateSunoItems tasks channelId next rest)
            else updateSunoItems tasks channelId next rest
          | _ => updateSunoItems tasks channelId next rest

def updateSunoTasks (channelId : Int) (taskIds : List String) (next : Code) : Code :=
  .call .ctxErr fun
    | true => next
    | false =>
      if taskIds=[] then next
      else .call (.findChannel channelId) fun
        | false => failChannel tasks taskIds ("获取渠道信息失败，请联系管理员，渠道ID：" ++ toString channelId) next
        | true => .call (.fetchSuno channelId taskIds) fun
          | none => next
          | some items => updateSunoItems tasks channelId next items

/-- `UpdateSunoTasks` with the order in which it walks the channels. -/
def updateAllSunoTasks (tasks : List CopyRef) : List (Int×List String) → Code
  | [] => .returned ()
  | (channelId,taskIds)::rest => .call .ctxErr fun
    | true => .returned ()
    | false => updateSunoTasks tasks channelId taskIds (updateAllSunoTasks tasks rest)

def finishVideo (address : Nat) (applied : Applied TaskInfo) (next : Code) : Code :=
  let bill : Code :=
    if applied.after.status=taskStatusSuccess then
      settleTaskBillingOnComplete config (some address) applied.after applied.result applied.before.status next
    else if applied.after.status=taskStatusFailure then
      refundTaskQuotaWithClaim (some address) applied.after (some applied.before.status) next
    else next
  if Terminal applied.after.status ∧ applied.before.status≠applied.after.status then
    .call (.updateWithStatus applied.after applied.before.status) fun
      | some true => bill
      | _ => next
  else if applied.before.sameSnapshot applied.after then bill
  else .call (.updateWithStatus applied.after applied.before.status) fun _ => bill

def updateVideoSingleTask (channelId : Int) (taskId : String) (next : Code) : Code :=
  .call .ctxErr fun
    | true => next
    | false =>
      match findTask tasks taskId with
      | none => next
      | some ref => .call (.fetchVideo channelId ref.2.id ref.2.getUpstreamTaskID) fun
        | none => next
        | some body => .call (.applyVideo channelId ref.2.getUpstreamTaskID ref.1 body) fun
          | none => next
          | some applied => finishVideo config ref.1 applied next

def updateEachVideo (tasks : List CopyRef) (channelId : Int) : List String → Code
  | [] => .returned ()
  | taskId::rest => .call .ctxErr fun
    | true => .returned ()
    | false => updateVideoSingleTask config tasks channelId taskId (updateEachVideo tasks channelId rest)

def updateVideoTasks (channelId : Int) (taskIds : List String) : Code :=
  .call .ctxErr fun
    | true => .returned ()
    | false =>
      if taskIds=[] then .returned ()
      else .call (.findChannel channelId) fun
        | false => failChannel tasks taskIds ("Failed to get channel info, channel ID: " ++ toString channelId) (.returned ())
        | true => updateEachVideo config tasks channelId taskIds

end Programs

/-- A call: the submission of a task, a pass, and the updates of the channels of a platform, with the tasks of the platform that the
pass has read and that have an upstream id. -/
inductive Start where
  | submit (task : Task)
  | pass (platforms : List String)
  | suno (tasks : List CopyRef) (walk : List (Int×List String))
  | video (tasks : List CopyRef) (channelId : Int) (taskIds : List String)

def pollProgram (config : PollConfig) : Start → Code
  | .submit task => .call (.insert task) fun _ => .returned ()
  | .pass platforms => runTaskPollingOnce config platforms
  | .suno tasks walk => updateAllSunoTasks tasks walk
  | .video tasks channelId taskIds => updateVideoTasks config tasks channelId taskIds

end NewApi.Polling
