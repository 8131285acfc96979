import NewApi.Lib.GoStrings
import NewApi.Lib.Keyed
import NewApi.Lib.Programs

/-! The queue of request archive jobs (`model/request_archive.go`): its functions as sequences of statements and transactions. -/
namespace NewApi.Archive
open GoStrings Programs

inductive JobStatus where
  | queued | processing | retry | done | failed
  deriving DecidableEq

def JobStatus.active : JobStatus → Bool
  | done => false
  | _ => true

inductive ObjectVersionMode where
  | unknown | exact | unversioned | absent
  deriving DecidableEq

structure RequestArchiveJob where
  id : Int := 0
  dedupeKey : Option String := none
  status : JobStatus := .queued
  claimVersion : Int := 0
  workerId : String := ""
  leaseUntil : Int := 0
  attempts : Int := 0
  nextAttemptAt : Int := 0
  targetId : String := ""
  configVersion : Int := 0
  byteSize : Int := 0
  objectKey : String := ""
  objectVersionId : String := ""
  objectVersionMode : ObjectVersionMode := .unknown
  cleanupReconcileStartedAt : Int := 0
  expiresAt : Int := 0

structure RequestArchiveConfig where
  configVersion : Int := 1
  enabled : Bool := false
  activeTargetId : String := ""
  queueCapacity : Int := 32768
  maxBodyBytes : Int := 67108864
  queueMaxBytes : Int := 1073741824

structure RequestArchiveTarget where
  id : String
  enabled : Bool

/-- The counters; `clamped` records that a release took more than there was. A row that is not there yet counts as zeros. -/
structure RequestArchiveQueueState where
  activeCount : Int := 0
  activeBytes : Int := 0
  clamped : Bool := false

inductive ArchiveError where
  | database
  | notFound
  | message (text : String)

/-- The database; `holds` lists the jobs that claims have returned. -/
structure ArchiveState where
  config : RequestArchiveConfig := {}
  targets : List RequestArchiveTarget := []
  jobs : List RequestArchiveJob := []
  nextId : Int := 1
  queue : RequestArchiveQueueState := {}
  holds : List RequestArchiveJob := []

structure RequestArchiveJobCandidate where
  id : Int
  claimVersion : Int

structure RequestArchiveObjectCleanupMatch where
  id : Int
  status : JobStatus
  byteSize : Int
  objectKey : String
  objectVersionId : String
  objectVersionMode : ObjectVersionMode
  cleanupReconcileStartedAt : Int

def requestArchiveJobMaxAttempts : Int := 3

def requestArchiveMaximumBodyBytes : Int := 134217728

def requestArchiveBatchSize : Nat := 500

def second : Int := 1000000000

def requestArchiveMinimumDeliveryWindow : Int := 300*second

def unix (time : Int) : Int := time / second

/-- `isCanonicalRequestArchiveTargetID`; white space and capitals are among the characters that are refused. -/
def isCanonicalTargetID (value : String) : Bool :=
  value≠"" && value.utf8ByteSize≤64 && value.toList.all fun c =>
    ('a' ≤ c && c ≤ 'z') || ('0' ≤ c && c ≤ '9') || c == '-' || c == '_'

def validObjectVersion (value : String) : Bool := value.utf8ByteSize≤4096 && !value.toList.contains (Char.ofNat 0)

def objectVersionMode (objectVersionID : String) : ObjectVersionMode := if objectVersionID="" then .unversioned else .exact

def RequestArchiveQueueState.release (state : RequestArchiveQueueState) (count bytes : Int) : RequestArchiveQueueState :=
  let count := if count<0 then 0 else count
  let bytes := if bytes<0 then 0 else bytes
  { activeCount := if state.activeCount≥count then state.activeCount-count else 0
    activeBytes := if state.activeBytes≥bytes then state.activeBytes-bytes else 0
    clamped := state.clamped || decide (state.activeCount<count) || decide (state.activeBytes<bytes) }

namespace RequestArchiveJob
variable (row : RequestArchiveJob)

def isHeldAs (job : RequestArchiveJob) : Bool :=
  decide (row.id=job.id) && decide (row.status=.processing) && decide (row.claimVersion=job.claimVersion) &&
    decide (row.workerId=job.workerId)

def waiting : Bool := decide (row.status=.queued) || decide (row.status=.retry)

def settled : Bool := decide (row.status=.done) || decide (row.status=.failed)

def expired (now : Int) : Bool := decide (0<row.expiresAt) && decide (row.expiresAt≤now)

def leaseExpired (now : Int) : Bool :=
  decide (row.status=.processing) && decide (0<row.leaseUntil) && decide (row.leaseUntil<now)

def isCandidate (candidate : RequestArchiveJobCandidate) (nowTime : Int) : Bool :=
  decide (row.id=candidate.id) && row.waiting && decide (row.claimVersion=candidate.claimVersion) &&
    decide (row.nextAttemptAt≤unix nowTime) && (decide (row.leaseUntil=0) || decide (row.leaseUntil<unix nowTime)) &&
    decide (unix (nowTime+requestArchiveMinimumDeliveryWindow)<row.expiresAt)

def isLeaseOf (candidate : RequestArchiveJob) (now : Int) : Bool :=
  decide (row.id=candidate.id) && decide (row.claimVersion=candidate.claimVersion) &&
    decide (row.workerId=candidate.workerId) && row.leaseExpired now

def isPending (id now : Int) : Bool := decide (row.id=id) && row.waiting && row.expired now

def isUnreconciled (id : Int) (objectKey : String) : Bool :=
  decide (row.id=id) && decide (row.objectKey=objectKey) && row.settled && decide (row.objectVersionMode=.unknown)

def isMatch (m : RequestArchiveObjectCleanupMatch) (now : Int) : Bool :=
  decide (row.id=m.id) && decide (row.status=m.status) && decide (row.byteSize=m.byteSize) && row.expired now &&
    decide (row.objectKey=m.objectKey) && decide (row.objectVersionId=m.objectVersionId) &&
    decide (row.objectVersionMode=m.objectVersionMode) && decide (row.cleanupReconcileStartedAt=m.cleanupReconcileStartedAt)

def failedWithoutObject (now : Int) : Bool :=
  decide (row.status=.failed) && decide (row.objectKey="") && row.expired now

end RequestArchiveJob

namespace ArchiveState
variable (s : ArchiveState) (job : RequestArchiveJob)

def update (select : RequestArchiveJob → Bool) (edit : RequestArchiveJob → RequestArchiveJob) : ArchiveState :=
  { s with jobs := s.jobs.map fun row => if select row then edit row else row }

def affected (select : RequestArchiveJob → Bool) : Nat := (s.jobs.filter select).length

def enqueue (now : Int) : Except ArchiveError ArchiveState :=
  let config := s.config
  if config.enabled=false ∨ config.configVersion≠job.configVersion ∨ config.activeTargetId≠job.targetId then
    .error (.message "request archive config changed")
  else if config.maxBodyBytes<1 ∨ config.maxBodyBytes>requestArchiveMaximumBodyBytes ∨ job.byteSize>config.maxBodyBytes then
    .error (.message "request archive body too large")
  else if (s.targets.any fun target => decide (target.id=job.targetId) && target.enabled)=false then
    .error (.message "request archive target unavailable")
  else if config.queueCapacity<1 ∨ config.queueMaxBytes<1 ∨ job.byteSize>config.queueMaxBytes then
    .error (.message "request archive queue is full")
  else if s.queue.activeCount<config.queueCapacity ∧ s.queue.activeBytes≤config.queueMaxBytes-job.byteSize then
    if job.dedupeKey.isSome ∧ (s.jobs.any fun row => decide (row.dedupeKey=job.dedupeKey)) then
      .error (.message "request archive candidate already queued")
    else
      .ok { s with
        queue := { s.queue with activeCount := s.queue.activeCount+1, activeBytes := s.queue.activeBytes+job.byteSize }
        jobs := s.jobs++[{ job with id := s.nextId, status := .queued, nextAttemptAt := unix now }]
        nextId := s.nextId+1 }
  else .error (.message "request archive queue is full")

def claim (candidate : RequestArchiveJobCandidate) (workerId : String) (lease nowTime : Int) : ArchiveState :=
  s.update (·.isCandidate candidate nowTime) fun row =>
    { row with status := .processing, workerId, leaseUntil := unix (nowTime+lease), claimVersion := row.claimVersion+1
               attempts := row.attempts+1 }

def renew (leaseUntil : Int) : ArchiveState := s.update (·.isHeldAs job) fun row => { row with leaseUntil }

def retry (next : Int) : ArchiveState :=
  s.update (·.isHeldAs job) fun row => { row with status := .retry, workerId := "", leaseUntil := 0, nextAttemptAt := unix next }

def finish (objectKey objectVersionID : String) : ArchiveState :=
  { s.update (·.isHeldAs job) fun row =>
      { row with status := .done, workerId := "", leaseUntil := 0, objectKey, objectVersionId := objectVersionID
                 objectVersionMode := objectVersionMode objectVersionID } with
    queue := s.queue.release 1 job.byteSize }

def fail : ArchiveState :=
  s.update (·.isHeldAs job) fun row => { row with status := .failed, workerId := "", leaseUntil := 0 }

def markObjectLocation (objectKey : String) : ArchiveState :=
  s.update (·.isHeldAs job) fun row => { row with objectKey }

def markObjectVersion (objectVersionID : String) : ArchiveState :=
  s.update (·.isHeldAs job) fun row =>
    { row with objectVersionId := objectVersionID, objectVersionMode := objectVersionMode objectVersionID }

def recoverOne (now : Int) (acc : ArchiveState×Int) (candidate : RequestArchiveJob) : ArchiveState×Int :=
  let exhausted := decide (requestArchiveJobMaxAttempts≤candidate.attempts)
  (acc.1.update (·.isLeaseOf candidate now) fun row =>
      { row with status := if exhausted then .failed else .retry, workerId := "", leaseUntil := 0
                 nextAttemptAt := if exhausted then 0 else now },
    if acc.1.affected (·.isLeaseOf candidate now)≠1 then acc.2 else acc.2+1)

def expireOne (now : Int) (acc : ArchiveState×Int) (id : Int) : ArchiveState×Int :=
  (acc.1.update (·.isPending id now) fun row =>
      { row with status := .failed, workerId := "", leaseUntil := 0, nextAttemptAt := 0 },
    if acc.1.affected (·.isPending id now)=1 then acc.2+1 else acc.2)

def markCleanupVersion (id : Int) (objectKey objectVersionID : String) : ArchiveState :=
  s.update (·.isUnreconciled id objectKey) fun row =>
    { row with objectVersionId := objectVersionID, objectVersionMode := objectVersionMode objectVersionID
               cleanupReconcileStartedAt := 0 }

def beginReconciliation (id : Int) (objectKey : String) (now : Int) : ArchiveState :=
  s.update (fun row => row.isUnreconciled id objectKey && decide (row.cleanupReconcileStartedAt=0)) fun row =>
    { row with cleanupReconcileStartedAt := now }

def confirmAbsent (id : Int) (objectKey : String) (reconcileStartedAt : Int) : ArchiveState :=
  s.update (fun row => row.isUnreconciled id objectKey && decide (row.cleanupReconcileStartedAt=reconcileStartedAt)) fun row =>
    { row with objectVersionMode := .absent }

end ArchiveState

structure Removal where
  jobs : List RequestArchiveJob
  removed : Int := 0
  retainedCount : Int := 0
  retainedBytes : Int := 0

def Removal.delete (r : Removal) (select : RequestArchiveJob → Bool) (status : JobStatus) (byteSize : Int) : Removal :=
  let left := r.jobs.filter fun row => !select row
  if (r.jobs.filter select).length≠1 then { r with jobs := left }
  else if status=.failed then
    { jobs := left, removed := r.removed+1, retainedCount := r.retainedCount+1, retainedBytes := r.retainedBytes+byteSize }
  else { r with jobs := left, removed := r.removed+1 }

namespace ArchiveState
variable (s : ArchiveState)

def remove (r : Removal) : ArchiveState :=
  { s with jobs := r.jobs, queue := if r.retainedCount=0 then s.queue else s.queue.release r.retainedCount r.retainedBytes }

def objectRemoval (snapshots : List RequestArchiveObjectCleanupMatch) (now : Int) : Removal :=
  snapshots.foldl (fun r m => r.delete (·.isMatch m now) m.status m.byteSize) { jobs := s.jobs }

def failedRemoval (ids : List Int) (now : Int) : Removal :=
  (s.jobs.filter fun row => decide (row.id∈ids) && row.failedWithoutObject now).foldl
    (fun r job => r.delete (fun row => decide (row.id=job.id) && row.failedWithoutObject now) job.status job.byteSize)
    { jobs := s.jobs }

end ArchiveState

/-- A statement or a transaction. `configure` stands for `SaveRequestArchiveConfig`; `readClaimed` has the arguments of its call for
the record. -/
inductive ArchiveOp where
  | configure (config : RequestArchiveConfig) (targets : List RequestArchiveTarget)
  | enqueue (job : RequestArchiveJob)
  | claim (candidate : RequestArchiveJobCandidate) (workerId : String) (lease : Int)
  | readClaimed (candidate : RequestArchiveJobCandidate) (workerId : String)
  | renew (job : RequestArchiveJob) (lease : Int)
  | retry (job : RequestArchiveJob) (next : Int)
  | finish (job : RequestArchiveJob) (objectKey objectVersionID : String)
  | fail (job : RequestArchiveJob)
  | markObjectLocation (job : RequestArchiveJob) (objectKey : String)
  | markObjectVersion (job : RequestArchiveJob) (objectVersionID : String)
  | expiredLeases (now : Int)
  | recover (candidates : List RequestArchiveJob) (now : Int)
  | expiredPending (now : Int)
  | expirePending (ids : List Int) (now : Int)
  | markCleanupVersion (id : Int) (objectKey objectVersionID : String)
  | beginReconciliation (id : Int) (objectKey : String) (now : Int)
  | confirmAbsent (id : Int) (objectKey : String) (reconcileStartedAt : Int)
  | readJob (id : Int)
  | deleteObjectJobs (snapshots : List RequestArchiveObjectCleanupMatch) (now : Int)
  | deleteJobs (ids : List Int) (now : Int)

abbrev ArchiveAns : ArchiveOp → Type
  | .readClaimed _ _ | .readJob _ => Except ArchiveError RequestArchiveJob
  | .expiredLeases _ => Except ArchiveError (List RequestArchiveJob)
  | .expiredPending _ => Except ArchiveError (List Int)
  | .renew _ _ | .recover _ _ | .expirePending _ _ | .deleteObjectJobs _ _ | .deleteJobs _ _ => Except ArchiveError Int
  | .claim _ _ _ | .markCleanupVersion _ _ _ | .beginReconciliation _ _ _ | .confirmAbsent _ _ _ => Except ArchiveError Bool
  | _ => Except ArchiveError Unit

structure ArchiveChoice where
  clock : Int := 0
  fails : Bool := false

def requireOne (s s' : ArchiveState) (affected : Nat) (fails : Bool) (lost : String) : ArchiveState×Except ArchiveError Unit :=
  if fails then (s,.error .database) else if affected≠1 then (s,.error (.message lost)) else (s',.ok ())

def tryUpdate (s s' : ArchiveState) (affected : Nat) (fails : Bool) : ArchiveState×Except ArchiveError Bool :=
  if fails then (s,.error .database) else (s',.ok (affected == 1))

def answer {α : Type} (s : ArchiveState) (fails : Bool) (a : Except ArchiveError α) : ArchiveState×Except ArchiveError α :=
  (s,if fails then .error .database else a)

def counting (s s' : ArchiveState) (fails : Bool) (rows : Int) : ArchiveState×Except ArchiveError Int :=
  if fails then (s,.error .database) else (s',.ok rows)

def archiveExec (s : ArchiveState) (c : ArchiveChoice) : (op : ArchiveOp) → ArchiveState×ArchiveAns op
  | .configure config targets => if c.fails then (s,.error .database) else ({ s with config, targets },.ok ())
  | .enqueue job =>
    match s.enqueue job c.clock with
    | .error e => (s,.error e)
    | .ok s' => if c.fails then (s,.error .database) else (s',.ok ())
  | .claim candidate workerId lease =>
    tryUpdate s (s.claim candidate workerId lease c.clock) (s.affected (·.isCandidate candidate c.clock)) c.fails
  | .readClaimed candidate _ =>
    if c.fails then (s,.error .database)
    else match Keyed.lookup RequestArchiveJob.id candidate.id s.jobs with
      | none => (s,.error .notFound)
      | some row => ({ s with holds := s.holds++[row] },.ok row)
  | .renew job lease =>
    let (s',out) := requireOne s (s.renew job (unix (c.clock+lease))) (s.affected (·.isHeldAs job)) c.fails
      "request archive lease claim lost"
    (s',out.map fun _ => unix (c.clock+lease))
  | .retry job next => requireOne s (s.retry job next) (s.affected (·.isHeldAs job)) c.fails "request archive retry claim lost"
  | .finish job objectKey objectVersionID =>
    requireOne s (s.finish job objectKey objectVersionID) (s.affected (·.isHeldAs job)) c.fails "request archive completion claim lost"
  | .fail job => requireOne s (s.fail job) (s.affected (·.isHeldAs job)) c.fails "request archive failure claim lost"
  | .markObjectLocation job objectKey =>
    requireOne s (s.markObjectLocation job objectKey) (s.affected (·.isHeldAs job)) c.fails "request archive object location claim lost"
  | .markObjectVersion job objectVersionID =>
    requireOne s (s.markObjectVersion job objectVersionID) (s.affected (·.isHeldAs job)) c.fails
      "request archive object version claim lost"
  | .expiredLeases now => answer s c.fails (.ok ((s.jobs.filter (·.leaseExpired now)).take requestArchiveBatchSize))
  | .recover candidates now =>
    let recovered := candidates.foldl (ArchiveState.recoverOne now) (s,0)
    counting s recovered.1 c.fails recovered.2
  | .expiredPending now =>
    answer s c.fails (.ok (((s.jobs.filter fun row => row.waiting && row.expired now).take requestArchiveBatchSize).map
      RequestArchiveJob.id))
  | .expirePending ids now =>
    let expired := ids.foldl (ArchiveState.expireOne now) (s,0)
    counting s expired.1 c.fails expired.2
  | .markCleanupVersion id objectKey objectVersionID =>
    tryUpdate s (s.markCleanupVersion id objectKey objectVersionID) (s.affected (·.isUnreconciled id objectKey)) c.fails
  | .beginReconciliation id objectKey now =>
    tryUpdate s (s.beginReconciliation id objectKey now)
      (s.affected fun row => row.isUnreconciled id objectKey && decide (row.cleanupReconcileStartedAt=0)) c.fails
  | .confirmAbsent id objectKey reconcileStartedAt =>
    tryUpdate s (s.confirmAbsent id objectKey reconcileStartedAt)
      (s.affected fun row => row.isUnreconciled id objectKey && decide (row.cleanupReconcileStartedAt=reconcileStartedAt)) c.fails
  | .readJob id => answer s c.fails ((Keyed.lookup RequestArchiveJob.id id s.jobs).elim (.error .notFound) .ok)
  | .deleteObjectJobs snapshots now => counting s (s.remove (s.objectRemoval snapshots now)) c.fails (s.objectRemoval snapshots now).removed
  | .deleteJobs ids now => counting s (s.remove (s.failedRemoval ids now)) c.fails (s.failedRemoval ids now).removed

inductive Outcome where
  | done
  | jobs (number : Int)
  | elapsed (isOver : Bool)

abbrev Code := Prog ArchiveOp ArchiveAns (Except ArchiveError Outcome)

def ended {α : Type} (outcome : α → Outcome) (a : Except ArchiveError α) : Code := .returned (a.map outcome)

def refused (text : String) : Code := .returned (.error (.message text))

def enqueueRequestArchiveJob (job : RequestArchiveJob) : Code :=
  if isBlank job.targetId then refused "请求归档任务缺少存储目标"
  else if isCanonicalTargetID job.targetId=false then refused "请求归档任务存储目标 ID 无效"
  else if job.configVersion<1 then refused "request archive config changed"
  else if job.byteSize<0 ∨ job.byteSize>requestArchiveMaximumBodyBytes then refused "request archive body too large"
  else .call (.enqueue job) (ended fun _ => .done)

/-- The conditional update and then a read of the row as it is by then. -/
def claimRequestArchiveJobCandidate (workerId : String) (lease : Int) (candidate : RequestArchiveJobCandidate)
    (next : Except ArchiveError RequestArchiveJob → Code) : Code :=
  if isBlank workerId ∨ lease≤0 ∨ candidate.id≤0 then next (.error (.message "请求归档任务领取参数无效"))
  else .call (.claim candidate workerId lease) fun
    | .error e => next (.error e)
    | .ok false => next (.error .notFound)
    | .ok true => .call (.readClaimed candidate workerId) next

def renewRequestArchiveJobLease (job : RequestArchiveJob) (lease : Int) (next : Except ArchiveError Int → Code) : Code :=
  if lease≤0 then next (.error (.message "请求归档任务租约参数无效")) else .call (.renew job lease) next

def retryRequestArchiveJob (job : RequestArchiveJob) (time : Int) (next : Except ArchiveError Unit → Code) : Code :=
  .call (.retry job time) next

def finishRequestArchiveJob (job : RequestArchiveJob) (objectKey objectVersionID : String) (next : Except ArchiveError Unit → Code) :
    Code :=
  if isBlank objectKey then next (.error (.message "请求归档任务完成参数无效"))
  else if validObjectVersion objectVersionID=false then next (.error (.message "请求归档对象版本标识无效"))
  else .call (.finish job objectKey objectVersionID) next

def failRequestArchiveJob (job : RequestArchiveJob) (next : Except ArchiveError Unit → Code) : Code := .call (.fail job) next

def markRequestArchiveJobObjectLocation (job : RequestArchiveJob) (objectKey : String) (next : Except ArchiveError Unit → Code) : Code :=
  if isBlank objectKey then next (.error (.message "请求归档对象键无效")) else .call (.markObjectLocation job objectKey) next

def markRequestArchiveJobObjectVersion (job : RequestArchiveJob) (objectVersionID : String) (next : Except ArchiveError Unit → Code) :
    Code :=
  if validObjectVersion objectVersionID=false then next (.error (.message "请求归档对象版本标识无效"))
  else .call (.markObjectVersion job objectVersionID) next

inductive WorkerTask where
  | renew (lease : Int)
  | retry (time : Int)
  | finish (objectKey objectVersionID : String)
  | fail
  | markObjectLocation (objectKey : String)
  | markObjectVersion (objectVersionID : String)

/-- A worker that does one thing after another with its copy of the job, whatever the answers are. -/
def work : List WorkerTask → RequestArchiveJob → Code
  | [], _ => .returned (.ok .done)
  | .renew lease::rest, job => renewRequestArchiveJobLease job lease fun
    | .ok leaseUntil => work rest { job with leaseUntil }
    | .error _ => work rest job
  | .retry time::rest, job => retryRequestArchiveJob job time fun _ => work rest job
  | .finish objectKey objectVersionID::rest, job => finishRequestArchiveJob job objectKey objectVersionID fun _ => work rest job
  | .fail::rest, job => failRequestArchiveJob job fun _ => work rest job
  | .markObjectLocation objectKey::rest, job => markRequestArchiveJobObjectLocation job objectKey fun
    | .ok _ => work rest { job with objectKey }
    | .error _ => work rest job
  | .markObjectVersion objectVersionID::rest, job => markRequestArchiveJobObjectVersion job objectVersionID fun
    | .ok _ => work rest { job with objectVersionId := objectVersionID, objectVersionMode := objectVersionMode objectVersionID }
    | .error _ => work rest job

def recoverExpiredRequestArchiveJobs (now : Int) : Code :=
  if now≤0 then refused "请求归档租约回收时间无效"
  else .call (.expiredLeases now) fun
    | .error e => .returned (.error e)
    | .ok [] => .returned (.ok (.jobs 0))
    | .ok candidates => .call (.recover candidates now) (ended .jobs)

def expirePendingRequestArchiveJobs (now : Int) : Code :=
  if now≤0 then refused "请求归档过期处理时间无效"
  else .call (.expiredPending now) fun
    | .error e => .returned (.error e)
    | .ok [] => .returned (.ok (.jobs 0))
    | .ok ids => .call (.expirePending ids now) (ended .jobs)

def markRequestArchiveCleanupObjectVersion (id : Int) (objectKey objectVersionID : String) : Code :=
  if id≤0 ∨ isBlank objectKey then refused "请求归档清理对象版本参数无效"
  else if validObjectVersion objectVersionID=false then refused "请求归档对象版本标识无效"
  else .call (.markCleanupVersion id objectKey objectVersionID) fun
    | .error e => .returned (.error e)
    | .ok true => .returned (.ok .done)
    | .ok false => .call (.readJob id) fun
      | .error e => .returned (.error e)
      | .ok stored =>
        if stored.objectKey≠objectKey ∨ stored.objectVersionMode≠objectVersionMode objectVersionID ∨
            stored.objectVersionId≠objectVersionID ∨ stored.cleanupReconcileStartedAt≠0 ∨ stored.settled=false then
          refused "request archive cleanup object version changed"
        else .returned (.ok .done)

def beginRequestArchiveCleanupReconciliation (id : Int) (objectKey : String) (now quietPeriod : Int) : Code :=
  if id≤0 ∨ isBlank objectKey ∨ now≤0 ∨ quietPeriod<second then refused "请求归档对象清理协调参数无效"
  else .call (.beginReconciliation id objectKey now) fun
    | .error e => .returned (.error e)
    | .ok true => .returned (.ok (.elapsed false))
    | .ok false => .call (.readJob id) fun
      | .error e => .returned (.error e)
      | .ok stored =>
        if stored.objectKey≠objectKey ∨ stored.objectVersionMode≠.unknown ∨ stored.cleanupReconcileStartedAt≤0 ∨
            stored.settled=false then refused "request archive cleanup reconciliation changed"
        else .returned (.ok (.elapsed (decide (stored.cleanupReconcileStartedAt≤now-quietPeriod / second))))

def confirmRequestArchiveCleanupAbsent (id : Int) (objectKey : String) (reconcileStartedAt now quietPeriod : Int) : Code :=
  if id≤0 ∨ isBlank objectKey ∨ reconcileStartedAt≤0 ∨ now≤0 ∨ quietPeriod<second then
    refused "请求归档对象不存在确认参数无效"
  else if reconcileStartedAt>now-quietPeriod / second then refused "request archive cleanup quiet period not elapsed"
  else .call (.confirmAbsent id objectKey reconcileStartedAt) fun
    | .error e => .returned (.error e)
    | .ok true => .returned (.ok .done)
    | .ok false => .call (.readJob id) fun
      | .error e => .returned (.error e)
      | .ok stored =>
        if stored.objectKey≠objectKey ∨ stored.objectVersionId≠"" ∨ stored.objectVersionMode≠.absent ∨
            stored.cleanupReconcileStartedAt≠reconcileStartedAt ∨ stored.settled=false then
          refused "request archive cleanup absence confirmation changed"
        else .returned (.ok .done)

/-- A snapshot that `DeleteExpiredRequestArchiveObjectJobs` accepts says what is known of the object. -/
def RequestArchiveObjectCleanupMatch.refusal (m : RequestArchiveObjectCleanupMatch) (seen : List Int) : Option String :=
  if m.id≤0 ∨ isBlank m.objectKey ∨ m.byteSize<0 ∨ (m.status≠.done ∧ m.status≠.failed) then some "请求归档对象清理快照无效"
  else if m.id∈seen then some "请求归档对象清理快照重复"
  else match m.objectVersionMode with
    | .exact =>
      if m.objectVersionId="" ∨ m.cleanupReconcileStartedAt≠0 then some "请求归档精确版本清理快照无效" else none
    | .unversioned =>
      if m.objectVersionId≠"" ∨ m.cleanupReconcileStartedAt≠0 then some "请求归档无版本清理快照无效" else none
    | .absent =>
      if m.objectVersionId≠"" ∨ m.cleanupReconcileStartedAt≤0 then some "请求归档不存在清理快照无效" else none
    | .unknown => some "请求归档对象版本状态未确认"

def snapshotRefusal (seen : List Int) : List RequestArchiveObjectCleanupMatch → Option String
  | [] => none
  | m::rest => (m.refusal seen).or (snapshotRefusal (m.id::seen) rest)

def deleteExpiredRequestArchiveObjectJobs (snapshots : List RequestArchiveObjectCleanupMatch) (now : Int) : Code :=
  if snapshots=[] then .returned (.ok (.jobs 0))
  else if now≤0 then refused "请求归档清理截止时间无效"
  else match snapshotRefusal [] snapshots with
    | some text => refused text
    | none => .call (.deleteObjectJobs snapshots now) (ended .jobs)

def deleteExpiredRequestArchiveJobs (ids : List Int) (now : Int) : Code :=
  if ids=[] then .returned (.ok (.jobs 0))
  else if now≤0 then refused "请求归档清理截止时间无效"
  else .call (.deleteJobs ids now) (ended .jobs)

inductive Start where
  | configure (config : RequestArchiveConfig) (targets : List RequestArchiveTarget)
  | enqueue (job : RequestArchiveJob)
  | worker (workerId : String) (lease : Int) (candidate : RequestArchiveJobCandidate) (tasks : List WorkerTask)
  | recover (now : Int)
  | expirePending (now : Int)
  | markCleanupVersion (id : Int) (objectKey objectVersionID : String)
  | beginReconciliation (id : Int) (objectKey : String) (now quietPeriod : Int)
  | confirmAbsent (id : Int) (objectKey : String) (reconcileStartedAt now quietPeriod : Int)
  | deleteObjectJobs (snapshots : List RequestArchiveObjectCleanupMatch) (now : Int)
  | deleteJobs (ids : List Int) (now : Int)

def archiveProgram : Start → Code
  | .configure config targets => .call (.configure config targets) (ended fun _ => .done)
  | .enqueue job => enqueueRequestArchiveJob job
  | .worker workerId lease candidate tasks => claimRequestArchiveJobCandidate workerId lease candidate fun
    | .error e => .returned (.error e)
    | .ok job => work tasks job
  | .recover now => recoverExpiredRequestArchiveJobs now
  | .expirePending now => expirePendingRequestArchiveJobs now
  | .markCleanupVersion id objectKey objectVersionID => markRequestArchiveCleanupObjectVersion id objectKey objectVersionID
  | .beginReconciliation id objectKey now quietPeriod => beginRequestArchiveCleanupReconciliation id objectKey now quietPeriod
  | .confirmAbsent id objectKey reconcileStartedAt now quietPeriod =>
    confirmRequestArchiveCleanupAbsent id objectKey reconcileStartedAt now quietPeriod
  | .deleteObjectJobs snapshots now => deleteExpiredRequestArchiveObjectJobs snapshots now
  | .deleteJobs ids now => deleteExpiredRequestArchiveJobs ids now

end NewApi.Archive
