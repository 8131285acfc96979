import NewApi.Lib.GoStrings
import NewApi.Lib.Keyed

/-! Asynchronous tasks (`model/task.go`) and what the answer of an upstream does to the copy of a task in memory
(`service/task_polling.go`). -/
namespace NewApi.Polling
open GoStrings

abbrev TaskStatus := String

def taskStatusSubmitted : TaskStatus := "SUBMITTED"

def taskStatusQueued : TaskStatus := "QUEUED"

def taskStatusInProgress : TaskStatus := "IN_PROGRESS"

def taskStatusFailure : TaskStatus := "FAILURE"

def taskStatusSuccess : TaskStatus := "SUCCESS"

def Terminal (status : TaskStatus) : Prop := status=taskStatusSuccess ∨ status=taskStatusFailure

instance (status : TaskStatus) : Decidable (Terminal status) := inferInstanceAs (Decidable (_ ∨ _))

def taskRefundLegacyCutoff : Int := 1771718400

structure PluginTask where
  immediate : Bool
  data : String := ""
  state : String := ""
  resultURL : String := ""

/-- A row of the tasks that are not image tasks; `upstreamTaskID`, `resultURL`, `perCallBilling` and `plugin` are private data. -/
structure Task where
  id : Int := 0
  platform : String := ""
  taskID : String := ""
  channelId : Int := 0
  quota : Int := 0
  status : TaskStatus := "NOT_START"
  failReason : String := ""
  progress : String := ""
  submitTime : Int := 0
  startTime : Int := 0
  finishTime : Int := 0
  updatedAt : Int := 0
  data : String := ""
  upstreamTaskID : String := ""
  resultURL : String := ""
  perCallBilling : Bool := false
  plugin : Option PluginTask := none

namespace Task
variable (task : Task)

def getUpstreamTaskID : String := if task.upstreamTaskID≠"" then task.upstreamTaskID else task.taskID

def unfinished : Bool :=
  decide (task.progress≠"100%") && decide (task.status≠taskStatusFailure) && decide (task.status≠taskStatusSuccess)

def timedOut (cutoff : Int) : Bool := task.unfinished && decide (task.submitTime<cutoff)

def unrefunded (updatedBefore : Int) : Bool :=
  decide (task.status=taskStatusFailure) && decide (task.quota≠0) && decide (task.updatedAt≤updatedBefore) &&
    (decide (task.submitTime≤0) || decide (taskRefundLegacyCutoff≤task.submitTime))

def legacy : Bool := decide (0<task.submitTime) && decide (task.submitTime<taskRefundLegacyCutoff)

def sameSnapshot (other : Task) : Bool :=
  decide (task.status=other.status) && decide (task.progress=other.progress) && decide (task.startTime=other.startTime) &&
    decide (task.finishTime=other.finishTime) && decide (task.failReason=other.failReason) &&
    decide (task.resultURL=other.resultURL) && decide (task.data=other.data) &&
    decide (task.plugin.map PluginTask.state=other.plugin.map PluginTask.state) &&
    decide (task.plugin.map PluginTask.data=other.plugin.map PluginTask.data)

def timeOut (now timeoutMinutes : Int) : Task :=
  let failed := { task with status := taskStatusFailure, progress := "100%", finishTime := now }
  if task.legacy then { failed with failReason := "任务超时（旧系统遗留任务，不进行退款，请联系管理员）", quota := 0 }
  else { failed with failReason := "任务超时（" ++ toString timeoutMinutes++"分钟）" }

end Task

structure SunoDataResponse where
  taskID : String
  status : TaskStatus := ""
  failReason : String := ""
  submitTime : Int := 0
  startTime : Int := 0
  finishTime : Int := 0
  data : String := ""

def sameBytes (a b : String) : Bool := a.toUTF8.data.toList.isPerm b.toUTF8.data.toList

def taskNeedsUpdate (oldTask : Task) (newTask : SunoDataResponse) : Bool :=
  decide (oldTask.submitTime≠newTask.submitTime) || decide (oldTask.startTime≠newTask.startTime) ||
    decide (oldTask.finishTime≠newTask.finishTime) || decide (oldTask.status≠newTask.status) ||
    decide (oldTask.failReason≠newTask.failReason) ||
    (decide (Terminal oldTask.status) && decide (oldTask.progress≠"100%")) || !sameBytes oldTask.data newTask.data

def sunoFails (task : Task) (item : SunoDataResponse) : Bool :=
  decide (item.failReason≠"") || decide ((if item.status≠"" then item.status else task.status)=taskStatusFailure)

def applySuno (task : Task) (item : SunoDataResponse) : Task :=
  { task with
    status := if sunoFails task item then taskStatusFailure else if item.status≠"" then item.status else task.status
    failReason := if item.failReason≠"" then item.failReason else task.failReason
    submitTime := if item.submitTime≠0 then item.submitTime else task.submitTime
    startTime := if item.startTime≠0 then item.startTime else task.startTime
    finishTime := if item.finishTime≠0 then item.finishTime else task.finishTime
    progress := if sunoFails task item || decide (item.status=taskStatusSuccess) then "100%" else task.progress
    data := item.data }

structure TaskInfo where
  status : TaskStatus
  url : String := ""
  progress : String := ""
  reason : String := ""
  totalTokens : Int := 0
  pluginState : Option String := none

def failTaskInfo (reason : String) : TaskInfo := { status := taskStatusFailure, reason }

/-- The body of an answer about a video task: as it is kept, as an answer of this service, as the adaptor reads it, and the code of the
error in it (`none` within where it has no error, `none` where it is no object). -/
structure VideoBody where
  raw : String := ""
  redacted : String := ""
  response : Option TaskInfo := none
  parsed : Option TaskInfo := none
  error : Option (Option String) := none

section Video
variable (proxyURL : String → String)

def PluginTask.receive (plugin : PluginTask) (body : VideoBody) (info : TaskInfo) : PluginTask :=
  { plugin with
    data := if plugin.immediate then plugin.data else body.raw
    state := info.pluginState.getD plugin.state
    resultURL := if info.status=taskStatusSuccess ∧ hasPrefix info.url "data:" then info.url else plugin.resultURL }

def pluginResult (task : Task) (info : TaskInfo) : TaskInfo :=
  if info.status=taskStatusFailure then { info with reason := "上游插件任务失败" }
  else if info.status=taskStatusSuccess then
    { info with url := "/v1/task/plugins/" ++ task.platform++"/" ++ task.taskID++"/artifacts/result" }
  else info

/-- A result without a status; `none` where the task waits for the next round. -/
def statusOfError (body : VideoBody) (info : TaskInfo) : Option TaskInfo :=
  if info.status≠"" then some info
  else match body.error with
    | none => some info
    | some (some "429") => none
    | some (some _) => some (failTaskInfo "upstream returned error")
    | some none => some (failTaskInfo "upstream returned unrecognized message")

/-- The fields that `updateVideoSingleTask` writes for a known status. -/
def advance (now : Int) (task : Task) (info : TaskInfo) : Option Task :=
  let task := { task with status := info.status }
  let advanced : Option Task :=
    if info.status=taskStatusSubmitted then some { task with progress := "10%" }
    else if info.status=taskStatusQueued then some { task with progress := "20%" }
    else if info.status=taskStatusInProgress then
      some { task with progress := "30%", startTime := if task.startTime=0 then now else task.startTime }
    else if info.status=taskStatusSuccess then
      some { task with
        progress := "100%"
        finishTime := if task.finishTime=0 then now else task.finishTime
        resultURL := if hasPrefix info.url "data:" then proxyURL task.taskID else if info.url≠"" then info.url
          else proxyURL task.taskID }
    else if info.status=taskStatusFailure then
      some { task with
        progress := "100%"
        finishTime := if task.finishTime=0 then now else task.finishTime
        failReason := info.reason }
    else none
  advanced.map fun task =>
    if info.status≠taskStatusFailure ∧ info.progress≠"" then { task with progress := info.progress } else task

/-- The copy of a video task after an answer, and the result by which the update and the billing go on, if they do. -/
def applyVideo (now : Int) (task : Task) (body : VideoBody) : Task×Option TaskInfo :=
  let result := if task.plugin.isNone && body.response.isSome then body.response else body.parsed
  match result with
  | none => (task,none)
  | some info =>
    let kept := match task.plugin with
      | some plugin => { task with plugin := some (plugin.receive body info) }
      | none => { task with data := body.redacted }
    let info := if task.plugin.isSome then pluginResult task info else info
    if task.plugin.isSome ∧ info.status="" then (kept,none)
    else match statusOfError body info with
      | none => (kept,none)
      | some info =>
        match advance proxyURL now kept info with
        | none => ({ kept with status := info.status },none)
        | some advanced => (advanced,some info)

end Video

end NewApi.Polling
