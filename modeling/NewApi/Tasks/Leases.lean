import NewApi.Lib.Keyed
import NewApi.Lib.Threads

/-! System tasks and the locks under which runners hold them (`model/system_task.go`). Every statement that a call sends to
the database is a step of its own; between two steps other calls run and time passes. -/
namespace NewApi.Tasks
open List Threads Runs
open Bool (and_eq_true eq_false_iff)

inductive SystemTaskStatus where
  | pending | running | succeeded | failed
  deriving DecidableEq

structure SystemTask where
  id : Nat := 0
  taskID : String
  type : String
  status : SystemTaskStatus
  activeKey : Option String
  payload : String
  state : String
  result : String := ""
  error : String := ""
  lockedBy : String := ""
  createdAt : Int
  updatedAt : Int
  deriving DecidableEq

def SystemTask.Finished (task : SystemTask) : Prop := task.status=.succeeded ∨ task.status=.failed

structure SystemTaskLock where
  type : String
  taskID : String
  lockedBy : String
  lockedUntil : Int
  updatedAt : Int

structure TaskDatabase where
  clock : Int
  tasks : List SystemTask := []
  locks : List SystemTaskLock := []

namespace TaskDatabase
variable (db : TaskDatabase)

def createTask (task : SystemTask) : Option TaskDatabase :=
  if db.tasks.any fun row => row.taskID=task.taskID || (row.activeKey.isSome && row.activeKey=task.activeKey) then none
  else some { db with tasks := db.tasks++[{ task with id := db.tasks.length+1 }] }

def updateTasks (rows : SystemTask → Bool) (set : SystemTask → SystemTask) : TaskDatabase :=
  { db with tasks := db.tasks.map fun row => if rows row then set row else row }

def createLock (lock : SystemTaskLock) : Option TaskDatabase :=
  if db.locks.any fun row => row.type=lock.type then none else some { db with locks := db.locks++[lock] }

def updateLocks (rows : SystemTaskLock → Bool) (set : SystemTaskLock → SystemTaskLock) : TaskDatabase :=
  { db with locks := db.locks.map fun row => if rows row then set row else row }

def deleteLocks (rows : SystemTaskLock → Bool) : TaskDatabase :=
  { db with locks := db.locks.filter fun row => !rows row }

def hasLock (taskID lockedBy : String) (now : Int) : Bool :=
  db.locks.any fun lock => lock.taskID=taskID && lock.lockedBy=lockedBy && now≤lock.lockedUntil

def ownsTask (taskID lockedBy : String) (row : SystemTask) : Bool :=
  row.taskID=taskID && row.status=.running && row.lockedBy=lockedBy && db.hasLock taskID lockedBy db.clock

def markSystemTaskLeaseExpired (taskID : String) : TaskDatabase :=
  db.updateTasks (fun row => row.taskID=taskID && row.status=.running) fun row =>
    { row with status := .failed, activeKey := none, error := "task lease expired", updatedAt := db.clock }

def releaseSystemTaskLock (taskID lockedBy : String) : TaskDatabase :=
  db.deleteLocks fun row => row.taskID=taskID && row.lockedBy=lockedBy

end TaskDatabase

inductive Outcome where
  | ok | refused | lockLost | dbError

/-- Where `ClaimSystemTask` stands, with the task id and the time it has read. -/
inductive ClaimPhase where
  | read
  | createLock (taskID : String) (now : Int)
  | readLock (taskID : String) (now : Int)
  | takeLock (taskID : String) (now : Int) (existing : String)
  | markExpired (taskID : String) (now : Int) (existing : String)
  | setRunning (taskID : String) (now : Int)
  | giveUp (taskID : String) (outcome : Outcome)
  | reload

inductive FinishStatus where
  | succeeded | failed

def FinishStatus.status : FinishStatus → SystemTaskStatus
  | .succeeded => .succeeded
  | .failed => .failed

inductive Call where
  | create (taskID taskType payload state : String)
  | claim (id : Nat) (taskType runnerID : String) (lockUntil : Int) (phase : ClaimPhase)
  | renew (taskID lockedBy : String) (lockUntil : Int)
  | updateState (taskID lockedBy state : String)
  | finish (taskID lockedBy : String) (status : FinishStatus) (result error : String)
  | finishRelease (taskID lockedBy : String)
  | scanLocks
  | markStale (now : Int) (lock : SystemTaskLock) (rest : List SystemTaskLock)
  | deleteStale (now : Int) (lock : SystemTaskLock) (rest : List SystemTaskLock)
  | release (taskID lockedBy : String)
  | closed (outcome : Outcome)

inductive Op where
  | create (taskID taskType payload state : String)
  | claim (id : Nat) (taskType runnerID : String) (lockUntil : Int)
  | renew (taskID lockedBy : String) (lockUntil : Int)
  | updateState (taskID lockedBy state : String)
  | finish (taskID lockedBy : String) (status : FinishStatus) (result error : String)
  | expireStale
  | release (taskID lockedBy : String)

def Op.call : Op → Call
  | .create taskID taskType payload state => .create taskID taskType payload state
  | .claim id taskType runnerID lockUntil => .claim id taskType runnerID lockUntil .read
  | .renew taskID lockedBy lockUntil => .renew taskID lockedBy lockUntil
  | .updateState taskID lockedBy state => .updateState taskID lockedBy state
  | .finish taskID lockedBy status result error => .finish taskID lockedBy status result error
  | .expireStale => .scanLocks
  | .release taskID lockedBy => .release taskID lockedBy

def createSystemTask (db : TaskDatabase) (taskID taskType payload state : String) : TaskDatabase×Call :=
  match db.createTask { taskID := taskID, type := taskType, status := .pending, activeKey := some taskType,
                        payload := payload, state := state, createdAt := db.clock, updatedAt := db.clock } with
  | some db' => (db',.closed .ok)
  | none => (db,.closed .dbError)

def claimStep (db : TaskDatabase) (id : Nat) (taskType runnerID : String) (lockUntil : Int) :
    ClaimPhase → TaskDatabase×Call
  | .read =>
    match db.tasks.find? fun row => row.id=id && row.type=taskType && row.status=.pending with
    | some row => (db,.claim id taskType runnerID lockUntil (.createLock row.taskID db.clock))
    | none => (db,.closed .refused)
  | .createLock taskID now =>
    match db.createLock { type := taskType, taskID := taskID, lockedBy := runnerID, lockedUntil := lockUntil, updatedAt := now } with
    | some db' => (db',.claim id taskType runnerID lockUntil (.setRunning taskID now))
    | none => (db,.claim id taskType runnerID lockUntil (.readLock taskID now))
  | .readLock taskID now =>
    match db.locks.find? fun row => row.type=taskType with
    | some existing =>
      if now≤existing.lockedUntil then (db,.closed .refused)
      else (db,.claim id taskType runnerID lockUntil (.takeLock taskID now existing.taskID))
    | none => (db,.closed .refused)
  | .takeLock taskID now existing =>
    let expired : SystemTaskLock → Bool := fun row => row.type=taskType && row.lockedUntil<now
    if db.locks.any expired then (db.updateLocks expired fun row =>
          { row with taskID := taskID, lockedBy := runnerID, lockedUntil := lockUntil, updatedAt := now },
        .claim id taskType runnerID lockUntil
          (if existing≠"" ∧ existing≠taskID then .markExpired taskID now existing else .setRunning taskID now))
    else (db,.closed .refused)
  | .markExpired taskID now existing =>
    (db.markSystemTaskLeaseExpired existing,.claim id taskType runnerID lockUntil (.setRunning taskID now))
  | .setRunning taskID now =>
    let pending : SystemTask → Bool := fun row => row.id=id && row.type=taskType && row.status=.pending
    if db.tasks.any pending then
      (db.updateTasks pending fun row => { row with status := .running, lockedBy := runnerID, updatedAt := now },
        .claim id taskType runnerID lockUntil .reload)
    else (db,.claim id taskType runnerID lockUntil (.giveUp taskID .refused))
  | .giveUp taskID outcome => (db.releaseSystemTaskLock taskID runnerID,.closed outcome)
  | .reload => (db,.closed .ok)

def claimFails (id : Nat) (taskType runnerID : String) (lockUntil : Int) : ClaimPhase → Call
  | .createLock taskID now => .claim id taskType runnerID lockUntil (.readLock taskID now)
  | .markExpired taskID _ _ => .claim id taskType runnerID lockUntil (.giveUp taskID .dbError)
  | .setRunning taskID _ => .claim id taskType runnerID lockUntil (.giveUp taskID .dbError)
  | .giveUp _ outcome => .closed outcome
  | _ => .closed .dbError

def renewSystemTaskLock (db : TaskDatabase) (taskID lockedBy : String) (lockUntil : Int) : TaskDatabase×Call :=
  let held : SystemTaskLock → Bool := fun row => row.taskID=taskID && row.lockedBy=lockedBy && db.clock≤row.lockedUntil
  if db.locks.any held then
    (db.updateLocks held fun row => { row with lockedUntil := lockUntil, updatedAt := db.clock }, .closed .ok)
  else (db,.closed .lockLost)

def updateSystemTaskState (db : TaskDatabase) (taskID lockedBy state : String) : TaskDatabase×Call :=
  if db.tasks.any (db.ownsTask taskID lockedBy) then
    (db.updateTasks (db.ownsTask taskID lockedBy) fun row => { row with state := state, updatedAt := db.clock }, .closed .ok)
  else (db,.closed .lockLost)

def finishSystemTask (db : TaskDatabase) (taskID lockedBy : String) (status : FinishStatus) (result error : String) :
    TaskDatabase×Call :=
  if db.tasks.any (db.ownsTask taskID lockedBy) then (db.updateTasks (db.ownsTask taskID lockedBy) fun row =>
        { row with status := status.status, activeKey := none, result := result, error := error, updatedAt := db.clock },
      .finishRelease taskID lockedBy)
  else (db,.closed .lockLost)

def expireNext (now : Int) : List SystemTaskLock → Call
  | [] => .closed .ok
  | lock::rest => .markStale now lock rest

def staleLock (lock : SystemTaskLock) (now : Int) (row : SystemTaskLock) : Bool :=
  row.type=lock.type && row.taskID=lock.taskID && row.lockedBy=lock.lockedBy && row.lockedUntil<now

def advanceCall (db : TaskDatabase) : Call → TaskDatabase×Call
  | .create taskID taskType payload state => createSystemTask db taskID taskType payload state
  | .claim id taskType runnerID lockUntil phase => claimStep db id taskType runnerID lockUntil phase
  | .renew taskID lockedBy lockUntil => renewSystemTaskLock db taskID lockedBy lockUntil
  | .updateState taskID lockedBy state => updateSystemTaskState db taskID lockedBy state
  | .finish taskID lockedBy status result error => finishSystemTask db taskID lockedBy status result error
  | .finishRelease taskID lockedBy => (db.releaseSystemTaskLock taskID lockedBy,.closed .ok)
  | .scanLocks => (db,expireNext db.clock (db.locks.filter fun row => row.lockedUntil<db.clock))
  | .markStale now lock rest => (db.markSystemTaskLeaseExpired lock.taskID,.deleteStale now lock rest)
  | .deleteStale now lock rest => (db.deleteLocks (staleLock lock now),expireNext now rest)
  | .release taskID lockedBy => (db.releaseSystemTaskLock taskID lockedBy,.closed .ok)
  | .closed outcome => (db,.closed outcome)

def failCall : Call → Call
  | .claim id taskType runnerID lockUntil phase => claimFails id taskType runnerID lockUntil phase
  | .closed outcome => .closed outcome
  | _ => .closed .dbError

/-- What the environment decides at a step: the time that has passed, and whether the statement fails. -/
structure Choice where
  delay : Nat := 0
  fails : Bool := false

def TaskDatabase.wait (db : TaskDatabase) (delay : Nat) : TaskDatabase := { db with clock := db.clock+delay }

def taskSystem : System TaskDatabase Call Op Choice where
  init := Op.call
  advance db call c := if c.fails then (db.wait c.delay,failCall call) else advanceCall (db.wait c.delay) call

def emptyTasks (clock : Int) : Pool TaskDatabase Call := { shared := { clock := clock }, threads := [] }

section Rows
variable {db db' : TaskDatabase} {row : SystemTask} {p : SystemTask → Bool} {f : SystemTask → SystemTask}

structure Sound (db : TaskDatabase) : Prop where
  lockTypes : Keyed.Unique (·.type) db.locks
  numbered : db.tasks.map (·.id)=List.range' 1 db.tasks.length
  taskIDs : Keyed.Unique (·.taskID) db.tasks
  named : ∀ lock∈db.locks, ∃ row∈db.tasks, row.taskID=lock.taskID ∧ row.type=lock.type

structure Grows (db db' : TaskDatabase) : Prop where
  clock : db.clock≤db'.clock
  rows : ∀ row∈db.tasks, ∃ row'∈db'.tasks, row'.id=row.id ∧ row'.type=row.type ∧ row'.taskID=row.taskID
  finished : ∀ row∈db.tasks, row.Finished → row∈db'.tasks

variable {row' task : SystemTask}

theorem Sound.eq_of_taskID (h : Sound db) {row : SystemTask} (hrow : row∈db.tasks) (hrow' : row'∈db.tasks)
    (heq : row.taskID=row'.taskID) : row=row' := inj_on_of_nodup_map h.taskIDs hrow hrow' heq

theorem Sound.eq_of_id (h : Sound db) {row : SystemTask} (hrow : row∈db.tasks) (hrow' : row'∈db.tasks)
    (heq : row.id=row'.id) : row=row' := by
  apply inj_on_of_nodup_map _ hrow hrow' heq
  rw [h.numbered]
  exact nodup_range'

variable {lock : SystemTaskLock}

theorem Sound.eq_of_type (h : Sound db) {lock' : SystemTaskLock} (hlock : lock∈db.locks) (hlock' : lock'∈db.locks)
    (heq : lock.type=lock'.type) : lock=lock' := inj_on_of_nodup_map h.lockTypes hlock hlock' heq

theorem Sound.type_of_taskID (h : Sound db) (hlock : lock∈db.locks) (hrow : row∈db.tasks)
    (heq : lock.taskID=row.taskID) : lock.type=row.type := by
  obtain ⟨other,hother,hid,htype⟩ := h.named lock hlock
  rw [← htype,h.eq_of_taskID hother hrow (hid.trans heq)]

theorem Grows.refl (db : TaskDatabase) : Grows db db :=
  ⟨Int.le_refl _,fun row hrow => ⟨row,hrow,rfl,rfl,rfl⟩,fun _ hrow _ => hrow⟩

theorem Grows.of_tasks (hclock : db'.clock=db.clock) (htasks : db'.tasks=db.tasks) : Grows db db' := by
  refine ⟨Int.le_of_eq hclock.symm,fun row hrow => ⟨row,?_,rfl,rfl,rfl⟩,fun row hrow _ => ?_⟩
  · rwa [htasks]
  · rwa [htasks]

theorem Grows.trans {db'' : TaskDatabase} (h : Grows db db') (h' : Grows db' db'') : Grows db db'' := by
  refine ⟨Int.le_trans h.clock h'.clock,fun row hrow => ?_,fun row hrow hfin => h'.finished row (h.finished row hrow hfin) hfin⟩
  obtain ⟨row',hrow',hid,htype,htask⟩ := h.rows row hrow
  obtain ⟨row'',hrow'',hid',htype',htask'⟩ := h'.rows row' hrow'
  exact ⟨row'',hrow'',hid'.trans hid,htype'.trans htype,htask'.trans htask⟩

theorem Sound.wait (h : Sound db) (delay : Nat) : Sound (db.wait delay) := ⟨h.lockTypes,h.numbered,h.taskIDs,h.named⟩

theorem Grows.wait (db : TaskDatabase) (delay : Nat) : Grows db (db.wait delay) :=
  ⟨Int.le_add_of_nonneg_right (Int.natCast_nonneg delay),(Grows.refl db).rows,(Grows.refl db).finished⟩

theorem createTask_some (h : db.createTask task=some db') : (∀ row∈db.tasks, row.taskID≠task.taskID) ∧
      db'={ db with tasks := db.tasks++[{ task with id := db.tasks.length+1 }] } := by
  unfold TaskDatabase.createTask at h
  split at h
  · cases h
  next hfree =>
    refine ⟨fun row hrow heq => hfree ?_,(Option.some.inj h).symm⟩
    rw [any_eq_true]
    exact ⟨row,hrow,by rw [decide_eq_true heq,Bool.true_or]⟩

theorem Sound.createTask (h : Sound db) (hcreate : db.createTask task=some db') : Sound db' ∧ Grows db db' := by
  obtain ⟨hfresh,rfl⟩ := createTask_some hcreate
  refine ⟨⟨h.lockTypes,?_,?_,fun lock hlock => ?_⟩,Int.le_refl _,fun row hrow => ?_,fun row hrow _ => ?_⟩
  · simp only [map_append,map_cons,map_nil,h.numbered,length_append,length_singleton]
    rw [range'_1_concat,Nat.add_comm 1]
  · rw [Keyed.Unique,map_append,nodup_append]
    refine ⟨h.taskIDs,nodup_singleton _,fun id hid other hother heq => ?_⟩
    obtain ⟨row,hrow,rfl⟩ := mem_map.mp hid
    exact hfresh row hrow (heq.trans (mem_singleton.mp hother))
  · obtain ⟨row,hrow,hname⟩ := h.named lock hlock
    exact ⟨row,mem_append_left _ hrow,hname⟩
  · exact ⟨row,mem_append_left _ hrow,rfl,rfl,rfl⟩
  · exact mem_append_left _ hrow

def KeepsKeys (f : SystemTask → SystemTask) : Prop :=
  ∀ row, (f row).id=row.id ∧ (f row).type=row.type ∧ (f row).taskID=row.taskID

theorem Sound.updateTasks (h : Sound db) (hkeys : KeepsKeys f)
    (hopen : ∀ row∈db.tasks, p row=true → ¬ row.Finished) : Sound (db.updateTasks p f) ∧ Grows db (db.updateTasks p f) := by
  have hrow : ∀ row, (if p row=true then f row else row).id=row.id ∧
      (if p row=true then f row else row).type=row.type ∧ (if p row=true then f row else row).taskID=row.taskID := by
    intro row
    split
    · exact hkeys row
    · exact ⟨rfl,rfl,rfl⟩
  refine ⟨⟨h.lockTypes,?_,?_,fun lock hlock => ?_⟩,Int.le_refl _,fun row hmem => ?_,fun row hmem hfin => ?_⟩
  · simp only [TaskDatabase.updateTasks,map_map,length_map,← h.numbered]
    exact map_congr_left fun row _ => (hrow row).1
  · have hids : (db.updateTasks p f).tasks.map (·.taskID)=db.tasks.map (·.taskID) := by
      simp only [TaskDatabase.updateTasks,map_map]
      exact map_congr_left fun row _ => (hrow row).2.2
    rw [Keyed.Unique,hids]
    exact h.taskIDs
  · obtain ⟨row,hmem,hid,htype⟩ := h.named lock hlock
    exact ⟨_,mem_map_of_mem hmem,(hrow row).2.2.trans hid,(hrow row).2.1.trans htype⟩
  · exact ⟨_,mem_map_of_mem hmem,hrow row⟩
  · refine mem_map.mpr ⟨row,hmem,?_⟩
    rw [if_neg fun hp => hopen row hmem hp hfin]

theorem Sound.createLock (h : Sound db) (hcreate : db.createLock lock=some db')
    (hnamed : ∃ row∈db.tasks, row.taskID=lock.taskID ∧ row.type=lock.type) :
    (∀ other∈db.locks, other.type≠lock.type) ∧ db'={ db with locks := db.locks++[lock] } ∧ Sound db' ∧ Grows db db' := by
  unfold TaskDatabase.createLock at hcreate
  split at hcreate
  · cases hcreate
  next hfree =>
    obtain rfl := Option.some.inj hcreate
    have hfresh : ∀ other∈db.locks, other.type≠lock.type := by
      intro other hother heq
      apply hfree
      rw [any_eq_true]
      exact ⟨other,hother,decide_eq_true heq⟩
    refine ⟨hfresh,rfl,⟨?_,h.numbered,h.taskIDs,fun other hother => ?_⟩,Grows.of_tasks rfl rfl⟩
    · rw [Keyed.Unique,map_append,nodup_append]
      refine ⟨h.lockTypes,nodup_singleton _,fun type htype other hother heq => ?_⟩
      obtain ⟨row,hrow,rfl⟩ := mem_map.mp htype
      exact hfresh row hrow (heq.trans (mem_singleton.mp hother))
    · obtain hother | hother := mem_append.mp hother
      · exact h.named other hother
      rw [mem_singleton.mp hother]
      exact hnamed

theorem Sound.updateLocks (h : Sound db) {rows : SystemTaskLock → Bool} {set : SystemTaskLock → SystemTaskLock}
    (htype : ∀ lock, (set lock).type=lock.type)
    (hnamed : ∀ lock∈db.locks, rows lock=true → ∃ row∈db.tasks, row.taskID=(set lock).taskID ∧ row.type=lock.type) :
    Sound (db.updateLocks rows set) ∧ Grows db (db.updateLocks rows set) := by
  refine ⟨⟨?_,h.numbered,h.taskIDs,fun other hother => ?_⟩,Grows.of_tasks rfl rfl⟩
  · have htypes : (db.updateLocks rows set).locks.map (·.type)=db.locks.map (·.type) := by
      simp only [TaskDatabase.updateLocks,map_map]
      apply map_congr_left
      intro lock _
      simp only [Function.comp_apply]
      split
      · exact htype lock
      · rfl
    rw [Keyed.Unique,htypes]
    exact h.lockTypes
  · obtain ⟨lock,hlock,rfl⟩ := mem_map.mp hother
    split
    next hrows =>
      obtain ⟨row,hrow,hid,hsame⟩ := hnamed lock hlock hrows
      exact ⟨row,hrow,hid,hsame.trans (htype lock).symm⟩
    next => exact h.named lock hlock

theorem Sound.deleteLocks (h : Sound db) (rows : SystemTaskLock → Bool) :
    Sound (db.deleteLocks rows) ∧ Grows db (db.deleteLocks rows) := by
  refine ⟨⟨?_,h.numbered,h.taskIDs,fun lock hlock => h.named lock (mem_of_mem_filter hlock)⟩, Grows.of_tasks rfl rfl⟩
  exact h.lockTypes.sublist (filter_sublist.map _)

end Rows

section Calls
variable {db db' : TaskDatabase} {call : Call} {c : Choice}

def Claims (db : TaskDatabase) (id : Nat) (taskType taskID : String) (now : Int) : Prop :=
  now≤db.clock ∧ ∃ row∈db.tasks, row.id=id ∧ row.type=taskType ∧ row.taskID=taskID

def Knows (db : TaskDatabase) : Call → Prop
  | .claim id taskType _ _ (.createLock taskID now) => Claims db id taskType taskID now
  | .claim id taskType _ _ (.readLock taskID now) => Claims db id taskType taskID now
  | .claim id taskType _ _ (.takeLock taskID now _) => Claims db id taskType taskID now
  | .claim id taskType _ _ (.markExpired taskID now _) => Claims db id taskType taskID now
  | .claim id taskType _ _ (.setRunning taskID now) => Claims db id taskType taskID now
  | .finishRelease taskID _ => ∃ row∈db.tasks, row.taskID=taskID ∧ row.Finished
  | .markStale now _ _ => now≤db.clock
  | .deleteStale now _ _ => now≤db.clock
  | _ => True

theorem Claims.grows {id : Nat} {taskType taskID : String} {now : Int} (h : Claims db id taskType taskID now)
    (hdb : Grows db db') : Claims db' id taskType taskID now := by
  obtain ⟨hnow,row,hrow,hid,htype,htask⟩ := h
  obtain ⟨row',hrow',hid',htype',htask'⟩ := hdb.rows row hrow
  exact ⟨Int.le_trans hnow hdb.clock,row',hrow',hid'.trans hid,htype'.trans htype,htask'.trans htask⟩

theorem Knows.grows (h : Knows db call) (hdb : Grows db db') : Knows db' call := by
  cases call with
  | claim id taskType runnerID lockUntil phase =>
    cases phase with
    | createLock _ _ | readLock _ _ | takeLock _ _ _ | markExpired _ _ _ | setRunning _ _ => exact Claims.grows h hdb
    | _ => trivial
  | finishRelease taskID lockedBy =>
    obtain ⟨row,hrow,hid,hfin⟩ := h
    exact ⟨row,hdb.finished row hrow hfin,hid,hfin⟩
  | markStale _ _ _ | deleteStale _ _ _ => exact Int.le_trans h hdb.clock
  | _ => trivial

theorem FinishStatus.finished (status : FinishStatus) : status.status=.succeeded ∨ status.status=.failed := by
  cases status with
  | succeeded => exact .inl rfl
  | failed => exact .inr rfl

theorem not_finished {row : SystemTask} (h : row.status=.running ∨ row.status=.pending) : ¬ row.Finished := by
  rintro (hfin | hfin) <;> obtain h | h := h <;> rw [h] at hfin <;> cases hfin

theorem Sound.markExpired (h : Sound db) (taskID : String) :
    Sound (db.markSystemTaskLeaseExpired taskID) ∧ Grows db (db.markSystemTaskLeaseExpired taskID) := by
  apply h.updateTasks
  · exact fun row => ⟨rfl,rfl,rfl⟩
  intro row _ hrow
  simp only [and_eq_true,decide_eq_true_eq] at hrow
  exact not_finished (.inl hrow.2)

theorem ownsTask_iff {taskID lockedBy : String} {row : SystemTask} : db.ownsTask taskID lockedBy row=true ↔
    row.taskID=taskID ∧ row.status=.running ∧ row.lockedBy=lockedBy ∧ db.hasLock taskID lockedBy db.clock=true := by
  simp only [TaskDatabase.ownsTask,and_eq_true,decide_eq_true_eq,and_assoc]

theorem expireNext_knows (db : TaskDatabase) {now : Int} (h : now≤db.clock) (locks : List SystemTaskLock) :
    Knows db (expireNext now locks) := by
  cases locks with
  | nil => trivial
  | cons lock rest => exact h

/-- What a step keeps: the tables it leaves are sound and have grown, and the call knows of what it has read there. -/
abbrev Keeping (db : TaskDatabase) (r : TaskDatabase×Call) : Prop := (Sound r.1 ∧ Grows db r.1) ∧ Knows r.1 r.2

theorem claimStep_sound (h : Sound db) {id : Nat} {taskType runnerID : String} {lockUntil : Int} {phase : ClaimPhase}
    (hk : Knows db (.claim id taskType runnerID lockUntil phase)) :
    Keeping db (claimStep db id taskType runnerID lockUntil phase) := by
  have hsame : Sound db ∧ Grows db db := ⟨h,Grows.refl db⟩
  cases phase with
  | read =>
    simp only [claimStep]
    split
    next row hfind =>
      have hrow := find?_some hfind
      simp only [and_eq_true,decide_eq_true_eq] at hrow
      exact ⟨hsame,Int.le_refl _,row,mem_of_find?_eq_some hfind,hrow.1.1,hrow.1.2,rfl⟩
    next => exact ⟨hsame,trivial⟩
  | createLock taskID now =>
    simp only [claimStep]
    split
    next db' hcreate =>
      obtain ⟨row,hrow,_,htype,htask⟩ := hk.2
      obtain ⟨-,-,hdb'⟩ := h.createLock hcreate ⟨row,hrow,htask,htype⟩
      exact ⟨hdb',Claims.grows hk hdb'.2⟩
    next => exact ⟨hsame,hk⟩
  | readLock taskID now =>
    simp only [claimStep]
    split
    · split
      · exact ⟨hsame,trivial⟩
      · exact ⟨hsame,hk⟩
    · exact ⟨hsame,trivial⟩
  | takeLock taskID now existing =>
    simp only [claimStep]
    split
    · have hdb' := @Sound.updateLocks db h (fun row => row.type=taskType && row.lockedUntil<now)
        (fun row => { row with taskID := taskID, lockedBy := runnerID, lockedUntil := lockUntil, updatedAt := now })
        (fun _ => rfl) (fun lock _ hrows => by
          obtain ⟨row,hrow,_,htype,htask⟩ := hk.2
          simp only [and_eq_true,decide_eq_true_eq] at hrows
          exact ⟨row,hrow,htask,htype.trans hrows.1.symm⟩)
      refine ⟨hdb',?_⟩
      split
      · exact Claims.grows hk hdb'.2
      · exact Claims.grows hk hdb'.2
    · exact ⟨hsame,trivial⟩
  | markExpired taskID now existing =>
    have hdb' := h.markExpired existing
    exact ⟨hdb',Claims.grows hk hdb'.2⟩
  | setRunning taskID now =>
    simp only [claimStep]
    split
    · refine ⟨h.updateTasks (fun row => ⟨rfl,rfl,rfl⟩) fun row _ hrow => ?_,trivial⟩
      simp only [and_eq_true,decide_eq_true_eq] at hrow
      exact not_finished (.inr hrow.2)
    · exact ⟨hsame,trivial⟩
  | giveUp taskID outcome => exact ⟨h.deleteLocks _,trivial⟩
  | reload => exact ⟨hsame,trivial⟩

theorem advanceCall_sound (h : Sound db) (hk : Knows db call) : Keeping db (advanceCall db call) := by
  have hsame : Sound db ∧ Grows db db := ⟨h,Grows.refl db⟩
  cases call with
  | create taskID taskType payload state =>
    simp only [advanceCall,createSystemTask]
    split
    next db' hcreate => exact ⟨h.createTask hcreate,trivial⟩
    next => exact ⟨hsame,trivial⟩
  | claim id taskType runnerID lockUntil phase => exact claimStep_sound h hk
  | renew taskID lockedBy lockUntil =>
    simp only [advanceCall,renewSystemTaskLock]
    split
    · exact ⟨h.updateLocks (fun _ => rfl) fun lock hlock _ => h.named lock hlock,trivial⟩
    · exact ⟨hsame,trivial⟩
  | updateState taskID lockedBy state =>
    simp only [advanceCall,updateSystemTaskState]
    split
    · refine ⟨h.updateTasks (fun row => ⟨rfl,rfl,rfl⟩) fun row _ hrow => ?_,trivial⟩
      exact not_finished (.inl (ownsTask_iff.mp hrow).2.1)
    · exact ⟨hsame,trivial⟩
  | finish taskID lockedBy status result error =>
    simp only [advanceCall,finishSystemTask]
    split
    next hany =>
      refine ⟨h.updateTasks (fun row => ⟨rfl,rfl,rfl⟩) fun row _ hrow => ?_,?_⟩
      · exact not_finished (.inl (ownsTask_iff.mp hrow).2.1)
      obtain ⟨row,hrow,howns⟩ := any_eq_true.mp hany
      refine ⟨_,mem_map_of_mem hrow,?_⟩
      rw [if_pos howns]
      exact ⟨(ownsTask_iff.mp howns).1,status.finished⟩
    next => exact ⟨hsame,trivial⟩
  | finishRelease taskID lockedBy => exact ⟨h.deleteLocks _,trivial⟩
  | scanLocks => exact ⟨hsame,expireNext_knows db (Int.le_refl _) _⟩
  | markStale now lock rest =>
    have hdb' := h.markExpired lock.taskID
    exact ⟨hdb',Int.le_trans hk hdb'.2.clock⟩
  | deleteStale now lock rest =>
    have hdb' := h.deleteLocks (staleLock lock now)
    exact ⟨hdb',expireNext_knows _ (Int.le_trans hk hdb'.2.clock) rest⟩
  | release taskID lockedBy => exact ⟨h.deleteLocks _,trivial⟩
  | closed outcome => exact ⟨hsame,trivial⟩

theorem failCall_knows (hk : Knows db call) : Knows db (failCall call) := by
  cases call with
  | claim id taskType runnerID lockUntil phase =>
    cases phase with
    | createLock taskID now => exact hk
    | _ => trivial
  | _ => trivial

theorem advance_sound (h : Sound db) (hk : Knows db call) (c : Choice) : Keeping db (taskSystem.advance db call c) := by
  have hwait := Grows.wait db c.delay
  simp only [taskSystem]
  split
  · exact ⟨⟨h.wait c.delay,hwait⟩,failCall_knows (hk.grows hwait)⟩
  · obtain ⟨⟨hsound,hgrows⟩,hknows⟩ := advanceCall_sound (h.wait c.delay) (hk.grows hwait)
    exact ⟨⟨hsound,hwait.trans hgrows⟩,hknows⟩

theorem Op.call_knows (db : TaskDatabase) (op : Op) : Knows db op.call := by
  cases op <;> trivial

theorem taskSystem_keeps : Keeps taskSystem Sound Knows where
  init op _ := op.call_knows _
  shared c h hk := (advance_sound h hk c).1.1
  moved c h hk := (advance_sound h hk c).2
  other c h hk hu := hu.grows (advance_sound h hk c).1.2

end Calls

section Lease
variable {db db' : TaskDatabase} {call : Call}

def Held (db : TaskDatabase) : Prop :=
  ∀ row∈db.tasks, row.status=.running →
    ∃ lock∈db.locks, lock.type=row.type ∧ lock.taskID=row.taskID ∧ lock.lockedBy=row.lockedBy

/-- While the task of a lock runs, a sweep that has found the lock at a time leaves it alone. -/
def Spared (db : TaskDatabase) (now : Int) (lock : SystemTaskLock) : Prop :=
  ∀ row∈db.tasks, row.taskID=lock.taskID → row.status=.running → ∀ other∈db.locks, staleLock lock now other=false

def Spares (db : TaskDatabase) : Call → Prop
  | .deleteStale now lock _ => Spared db now lock
  | _ => True

def RunsUnder (db : TaskDatabase) (taskID lockedBy : String) : Prop :=
  ∃ row∈db.tasks, row.taskID=taskID ∧ row.lockedBy=lockedBy ∧ row.status=.running

/-- A claim sets its task running while its lease lasts, and takes over the lock of no task that still runs; a lock is not
renewed to an earlier time, and not released under a task that runs. -/
def InLease (db : TaskDatabase) : Call → Prop
  | .claim id taskType runnerID _ (.setRunning taskID _) => ∀ row∈db.tasks, row.id=id → row.status=.pending →
      ∃ lock∈db.locks, lock.type=taskType ∧ lock.taskID=taskID ∧ lock.lockedBy=runnerID ∧ db.clock≤lock.lockedUntil
  | .claim _ taskType _ _ (.takeLock _ now _) => ∀ lock∈db.locks, lock.type=taskType → lock.lockedUntil<now →
      ∀ row∈db.tasks, row.taskID=lock.taskID → row.status≠.running
  | .claim _ _ runnerID _ (.giveUp taskID _) => ¬ RunsUnder db taskID runnerID
  | .renew taskID lockedBy lockUntil => ∀ lock∈db.locks, lock.taskID=taskID → lock.lockedBy=lockedBy →
      lock.lockedUntil≤lockUntil
  | .release taskID lockedBy => ¬ RunsUnder db taskID lockedBy
  | _ => True

structure Safe (db db' : TaskDatabase) : Prop where
  held : Held db'
  spared : ∀ now lock, now≤db.clock → Spared db now lock → Spared db' now lock

theorem Safe.refl (h : Held db) : Safe db db := ⟨h,fun _ _ _ hs => hs⟩

variable {lock other : SystemTaskLock} {now lockUntil : Int}

theorem staleLock_iff : staleLock lock now other=true ↔
    other.type=lock.type ∧ other.taskID=lock.taskID ∧ other.lockedBy=lock.lockedBy ∧ other.lockedUntil<now := by
  simp only [staleLock,and_eq_true,decide_eq_true_eq,and_assoc]

theorem not_staleLock (h : other.taskID=lock.taskID → other.lockedUntil<now → False) : staleLock lock now other=false := by
  rw [eq_false_iff]
  intro hstale
  obtain ⟨-,htask,-,huntil⟩ := staleLock_iff.mp hstale
  exact h htask huntil

theorem Safe.createTask (h : Held db) {task : SystemTask} (hstatus : task.status=.pending)
    (hcreate : db.createTask task=some db') : Safe db db' := by
  obtain ⟨-,rfl⟩ := createTask_some hcreate
  have hold : ∀ row∈db.tasks++[{ task with id := db.tasks.length+1 }], row.status=.running → row∈db.tasks := by
    intro row hrow hrun
    obtain hrow | hrow := mem_append.mp hrow
    · exact hrow
    rw [mem_singleton.mp hrow] at hrun
    cases hstatus.symm.trans hrun
  exact ⟨fun row hrow hrun => h row (hold row hrow hrun) hrun,
    fun now lock _ hs row hrow htask hrun => hs row (hold row hrow hrun) htask hrun⟩

variable {p : SystemTask → Bool} {f : SystemTask → SystemTask}

theorem Safe.updateTasks (h : Held db) (hkeys : KeepsKeys f)
    (hlock : ∀ row∈db.tasks, p row=true → (f row).status=.running →
      ∃ lock∈db.locks, lock.type=row.type ∧ lock.taskID=row.taskID ∧ lock.lockedBy=(f row).lockedBy)
    (hspared : ∀ now lock, now≤db.clock → Spared db now lock → ∀ row∈db.tasks, p row=true → (f row).status=.running →
      row.taskID=lock.taskID → ∀ other∈db.locks, staleLock lock now other=false) : Safe db (db.updateTasks p f) := by
  constructor
  · intro row hrow hrun
    obtain ⟨old,hold,rfl⟩ := mem_map.mp hrow
    by_cases hp : p old=true
    · rw [if_pos hp] at hrun ⊢
      rw [(hkeys old).2.1,(hkeys old).2.2]
      exact hlock old hold hp hrun
    · rw [if_neg hp] at hrun ⊢
      exact h old hold hrun
  · intro now lock hnow hs row hrow htask hrun
    obtain ⟨old,hold,rfl⟩ := mem_map.mp hrow
    by_cases hp : p old=true
    · rw [if_pos hp] at hrun htask
      exact hspared now lock hnow hs old hold hp hrun ((hkeys old).2.2.symm.trans htask)
    · rw [if_neg hp] at hrun htask
      exact hs old hold htask hrun

theorem Safe.endTasks (h : Held db) (hkeys : KeepsKeys f)
    (hend : ∀ row, (f row).status≠.running) : Safe db (db.updateTasks p f) :=
  Safe.updateTasks h hkeys (fun row _ _ hrun => absurd hrun (hend row)) fun _ _ _ _ row _ _ hrun => absurd hrun (hend row)

theorem Safe.markExpired (h : Held db) (taskID : String) : Safe db (db.markSystemTaskLeaseExpired taskID) :=
  Safe.endTasks h (fun _ => ⟨rfl,rfl,rfl⟩) fun _ => nofun

variable {taskType taskID runnerID lockedBy : String}

theorem Safe.setRunning (hsound : Sound db) (h : Held db) {id : Nat}
    (hrow : ∃ row∈db.tasks, row.id=id ∧ row.type=taskType ∧ row.taskID=taskID)
    (hlock : lock∈db.locks) (htype : lock.type=taskType) (htask : lock.taskID=taskID) (hrunner : lock.lockedBy=runnerID)
    (huntil : db.clock≤lock.lockedUntil) :
    Safe db (db.updateTasks (fun row => row.id=id && row.type=taskType && row.status=.pending) fun row =>
      { row with status := .running, lockedBy := runnerID, updatedAt := now }) := by
  obtain ⟨mine,hmine,hid,hmtype,hmtask⟩ := hrow
  have heq : ∀ row∈db.tasks, (row.id=id && row.type=taskType && row.status=.pending : Bool)=true → row=mine := by
    intro row hmem hp
    simp only [and_eq_true,decide_eq_true_eq] at hp
    exact hsound.eq_of_id hmem hmine (hp.1.1.trans hid.symm)
  apply Safe.updateTasks h
  · exact fun _ => ⟨rfl,rfl,rfl⟩
  · intro row hmem hp _
    rw [heq row hmem hp]
    exact ⟨lock,hlock,htype.trans hmtype.symm,htask.trans hmtask.symm,hrunner⟩
  · intro now lock' hnow _ row hmem hp _ htask' other hother
    apply not_staleLock
    intro hsame hlate
    rw [heq row hmem hp] at htask'
    have hothertype := hsound.type_of_taskID hother hmine (hsame.trans htask'.symm)
    have hsamelock : other=lock := hsound.eq_of_type hother hlock (hothertype.trans (hmtype.trans htype.symm))
    rw [hsamelock] at hlate
    omega

theorem Safe.createLock (hsound : Sound db) (h : Held db) (hcreate : db.createLock lock=some db')
    (hnamed : ∃ row∈db.tasks, row.taskID=lock.taskID ∧ row.type=lock.type) : Safe db db' := by
  obtain ⟨hfresh,rfl,-⟩ := hsound.createLock hcreate hnamed
  constructor
  · intro row hrow hrun
    obtain ⟨other,hother,hlock⟩ := h row hrow hrun
    exact ⟨other,mem_append_left _ hother,hlock⟩
  · intro now stale _ hs row hrow htask hrun other hother
    obtain hother | hother := mem_append.mp hother
    · exact hs row hrow htask hrun other hother
    rw [mem_singleton.mp hother]
    apply not_staleLock
    intro hsame _
    -- a task that runs has a lock of its type, and the new lock would be a second one
    obtain ⟨held,hheld,htype,-,-⟩ := h row hrow hrun
    obtain ⟨mine,hmine,hid,hmtype⟩ := hnamed
    have heq : mine=row := hsound.eq_of_taskID hmine hrow (hid.trans (hsame.trans htask.symm))
    rw [heq] at hmtype
    exact hfresh held hheld (htype.trans hmtype)

theorem Safe.takeLock (hsound : Sound db) (h : Held db) {taskType taskID runnerID : String} {now lockUntil : Int}
    (hrow : ∃ row∈db.tasks, row.taskID=taskID ∧ row.type=taskType)
    (hidle : ∀ lock∈db.locks, lock.type=taskType → lock.lockedUntil<now →
      ∀ row∈db.tasks, row.taskID=lock.taskID → row.status≠.running) :
    Safe db (db.updateLocks (fun row => row.type=taskType && row.lockedUntil<now) fun row =>
      { row with taskID := taskID, lockedBy := runnerID, lockedUntil := lockUntil, updatedAt := now }) := by
  have hstays : ∀ row∈db.tasks, row.status=.running → ∀ lock∈db.locks, lock.taskID=row.taskID →
      ¬ (lock.type=taskType && lock.lockedUntil<now : Bool)=true := by
    intro row hmem hrun lock hlock htask hp
    simp only [and_eq_true,decide_eq_true_eq] at hp
    exact hidle lock hlock hp.1 hp.2 row hmem htask.symm hrun
  constructor
  · intro row hmem hrun
    obtain ⟨lock,hlock,htype,htask,hrunner⟩ := h row hmem hrun
    refine ⟨lock,mem_map.mpr ⟨lock,hlock,?_⟩,htype,htask,hrunner⟩
    rw [if_neg (hstays row hmem hrun lock hlock htask)]
  · intro time stale _ hs row hmem htask hrun other hother
    obtain ⟨old,hold,rfl⟩ := mem_map.mp hother
    by_cases hp : (old.type=taskType && old.lockedUntil<now : Bool)=true
    · rw [if_pos hp]
      apply not_staleLock
      intro hsame _
      obtain ⟨mine,hmine,hid,hmtype⟩ := hrow
      have heq : mine=row := hsound.eq_of_taskID hmine hmem (hid.trans (hsame.trans htask.symm))
      obtain ⟨lock,hlock,htype,htask',-⟩ := h row hmem hrun
      have holdtype : old.type=taskType := by
        simp only [and_eq_true,decide_eq_true_eq] at hp
        exact hp.1
      have hsamelock : lock=old := hsound.eq_of_type hlock hold (by rw [htype,← heq,hmtype,holdtype])
      rw [hsamelock] at htask'
      exact hstays row hmem hrun old hold htask' hp
    · rw [if_neg hp]
      exact hs row hmem htask hrun old hold

theorem Safe.renew (h : Held db)
    (hlater : ∀ lock∈db.locks, lock.taskID=taskID → lock.lockedBy=lockedBy → lock.lockedUntil≤lockUntil) :
    Safe db (db.updateLocks (fun row => row.taskID=taskID && row.lockedBy=lockedBy && db.clock≤row.lockedUntil) fun row =>
      { row with lockedUntil := lockUntil, updatedAt := db.clock }) := by
  constructor
  · intro row hmem hrun
    obtain ⟨lock,hlock,hsame⟩ := h row hmem hrun
    refine ⟨_,mem_map_of_mem hlock,?_⟩
    split
    · exact hsame
    · exact hsame
  · intro now stale _ hs row hmem htask hrun other hother
    obtain ⟨old,hold,rfl⟩ := mem_map.mp hother
    have hspared := hs row hmem htask hrun old hold
    split
    next hp =>
      simp only [and_eq_true,decide_eq_true_eq] at hp
      have hle := hlater old hold hp.1.1 hp.1.2
      rw [eq_false_iff] at hspared ⊢
      intro hstale
      apply hspared
      obtain ⟨htype,htask',hrunner,huntil⟩ := staleLock_iff.mp hstale
      exact staleLock_iff.mpr ⟨htype,htask',hrunner,by dsimp only at huntil; omega⟩
    next => exact hspared

theorem Safe.deleteLocks (h : Held db) {rows : SystemTaskLock → Bool}
    (hstays : ∀ row∈db.tasks, row.status=.running → ∀ lock∈db.locks, lock.taskID=row.taskID →
      lock.lockedBy=row.lockedBy → rows lock=false) : Safe db (db.deleteLocks rows) := by
  constructor
  · intro row hmem hrun
    obtain ⟨lock,hlock,htype,htask,hrunner⟩ := h row hmem hrun
    refine ⟨lock,mem_filter.mpr ⟨hlock,?_⟩,htype,htask,hrunner⟩
    rw [hstays row hmem hrun lock hlock htask hrunner]
    rfl
  · intro now stale _ hs row hmem htask hrun other hother
    exact hs row hmem htask hrun other (mem_of_mem_filter hother)

theorem Safe.release (h : Held db) (hidle : ¬ RunsUnder db taskID lockedBy) :
    Safe db (db.releaseSystemTaskLock taskID lockedBy) := by
  apply Safe.deleteLocks h
  intro row hmem hrun lock _ htask hrunner
  rw [eq_false_iff]
  intro hp
  simp only [and_eq_true,decide_eq_true_eq] at hp
  exact hidle ⟨row,hmem,htask.symm.trans hp.1,hrunner.symm.trans hp.2,hrun⟩

abbrev Saving (db : TaskDatabase) (r : TaskDatabase×Call) : Prop := Safe db r.1 ∧ Spares r.1 r.2

theorem claimStep_safe (hsound : Sound db) (h : Held db) {id : Nat} {phase : ClaimPhase}
    (hk : Knows db (.claim id taskType runnerID lockUntil phase))
    (hok : InLease db (.claim id taskType runnerID lockUntil phase)) :
    Saving db (claimStep db id taskType runnerID lockUntil phase) := by
  have hsame := Safe.refl h
  cases phase with
  | read =>
    simp only [claimStep]
    split
    · exact ⟨hsame,trivial⟩
    · exact ⟨hsame,trivial⟩
  | createLock taskID now =>
    simp only [claimStep]
    split
    next db' hcreate =>
      obtain ⟨row,hrow,_,htype,htask⟩ := hk.2
      exact ⟨Safe.createLock hsound h hcreate ⟨row,hrow,htask,htype⟩,trivial⟩
    next => exact ⟨hsame,trivial⟩
  | readLock taskID now =>
    simp only [claimStep]
    split
    · split
      · exact ⟨hsame,trivial⟩
      · exact ⟨hsame,trivial⟩
    · exact ⟨hsame,trivial⟩
  | takeLock taskID now existing =>
    obtain ⟨row,hrow,_,htype,htask⟩ := hk.2
    have htake := @Safe.takeLock db hsound h taskType taskID runnerID now lockUntil ⟨row,hrow,htask,htype⟩ hok
    simp only [claimStep]
    split
    · exact ⟨htake,trivial⟩
    · exact ⟨hsame,trivial⟩
  | markExpired taskID now existing => exact ⟨Safe.markExpired h existing,trivial⟩
  | setRunning taskID now =>
    simp only [claimStep]
    split
    next hany =>
      obtain ⟨row,hrow,hp⟩ := any_eq_true.mp hany
      simp only [and_eq_true,decide_eq_true_eq] at hp
      obtain ⟨lock,hlock,htype,htask,hrunner,huntil⟩ := hok row hrow hp.1.1 hp.2
      exact ⟨Safe.setRunning hsound h hk.2 hlock htype htask hrunner huntil,trivial⟩
    next => exact ⟨hsame,trivial⟩
  | giveUp taskID outcome => exact ⟨Safe.release h hok,trivial⟩
  | reload => exact ⟨hsame,trivial⟩

theorem advanceCall_safe (hsound : Sound db) (h : Held db) (hk : Knows db call) (hs : Spares db call) (hok : InLease db call) :
    Saving db (advanceCall db call) := by
  have hsame := Safe.refl h
  cases call with
  | create taskID taskType payload state =>
    simp only [advanceCall,createSystemTask]
    split
    next db' hcreate => exact ⟨Safe.createTask h rfl hcreate,trivial⟩
    next => exact ⟨hsame,trivial⟩
  | claim id taskType runnerID lockUntil phase => exact claimStep_safe hsound h hk hok
  | renew taskID lockedBy lockUntil =>
    simp only [advanceCall,renewSystemTaskLock]
    split
    · exact ⟨Safe.renew h hok,trivial⟩
    · exact ⟨hsame,trivial⟩
  | updateState taskID lockedBy state =>
    simp only [advanceCall,updateSystemTaskState]
    split
    · refine ⟨Safe.updateTasks h (fun _ => ⟨rfl,rfl,rfl⟩) (fun row hrow _ hrun => h row hrow hrun) ?_,trivial⟩
      intro now lock _ hspared row hrow _ hrun htask
      exact hspared row hrow htask hrun
    · exact ⟨hsame,trivial⟩
  | finish taskID lockedBy status result error =>
    simp only [advanceCall,finishSystemTask]
    split
    · refine ⟨Safe.endTasks h (fun _ => ⟨rfl,rfl,rfl⟩) fun _ => ?_,trivial⟩
      cases status <;> nofun
    · exact ⟨hsame,trivial⟩
  | finishRelease taskID lockedBy =>
    refine ⟨Safe.release h ?_,trivial⟩
    rintro ⟨row,hrow,htask,-,hrun⟩
    obtain ⟨other,hother,hid,hfin⟩ := hk
    rw [hsound.eq_of_taskID hother hrow (hid.trans htask.symm)] at hfin
    exact not_finished (.inl hrun) hfin
  | scanLocks =>
    refine ⟨hsame,?_⟩
    simp only [advanceCall]
    cases db.locks.filter fun row => row.lockedUntil<db.clock <;> trivial
  | markStale now lock rest =>
    refine ⟨Safe.markExpired h lock.taskID,fun row hrow htask hrun => ?_⟩
    obtain ⟨old,hold,rfl⟩ := mem_map.mp hrow
    split at hrun
    · cases hrun
    next hp =>
      rw [if_neg hp] at htask
      simp only [and_eq_true,decide_eq_true_eq,not_and] at hp
      exact absurd hrun (hp htask)
  | deleteStale now lock rest =>
    constructor
    · apply Safe.deleteLocks h
      intro row hrow hrun other hother htask _
      by_contra hstale
      rw [Bool.not_eq_false] at hstale
      have hlock : row.taskID=lock.taskID := htask.symm.trans (staleLock_iff.mp hstale).2.1
      have hspared := hs row hrow hlock hrun other hother
      rw [hstale] at hspared
      cases hspared
    · simp only [advanceCall]
      cases rest <;> trivial
  | release taskID lockedBy => exact ⟨Safe.release h hok,trivial⟩
  | closed outcome => exact ⟨hsame,trivial⟩

theorem Spares.safe (h : Spares db call) (hk : Knows db call) (hdb : Safe db db') : Spares db' call := by
  cases call with
  | deleteStale now lock rest => exact hdb.spared now lock hk h
  | _ => trivial

theorem Safe.wait (h : Held db) (delay : Nat) : Safe db (db.wait delay) := ⟨h,fun _ _ _ hs => hs⟩

theorem failCall_spares (db : TaskDatabase) (call : Call) : Spares db (failCall call) := by
  cases call with
  | claim id taskType runnerID lockUntil phase => cases phase <;> trivial
  | _ => trivial

def StepInLease (db : TaskDatabase) (call : Call) (c : Choice) : Prop := c.fails=true ∨ InLease (db.wait c.delay) call

theorem advance_safe (hsound : Sound db) (h : Held db) (hk : Knows db call) (hs : Spares db call) {c : Choice}
    (hok : StepInLease db call c) : Saving db (taskSystem.advance db call c) := by
  have hwait := Safe.wait h c.delay
  have hgrows := Grows.wait db c.delay
  simp only [taskSystem]
  split
  · exact ⟨hwait,failCall_spares _ call⟩
  next hfails =>
    obtain ⟨hsafe,hspares⟩ := advanceCall_safe (hsound.wait c.delay) hwait.held (hk.grows hgrows) (hs.safe hk hwait)
      (hok.resolve_left hfails)
    exact ⟨⟨hsafe.held,fun now lock hnow hspared =>
      hsafe.spared now lock (Int.le_trans hnow hgrows.clock) (hwait.spared now lock hnow hspared)⟩,hspares⟩

theorem taskSystem_keepsIf : KeepsIf taskSystem StepInLease (fun db => Sound db ∧ Held db)
    (fun db call => Knows db call ∧ Spares db call) where
  init op _ := ⟨op.call_knows _,by cases op <;> trivial⟩
  shared c hok h ht := ⟨(advance_sound h.1 ht.1 c).1.1,(advance_safe h.1 h.2 ht.1 ht.2 hok).1.held⟩
  moved c hok h ht := ⟨(advance_sound h.1 ht.1 c).2,(advance_safe h.1 h.2 ht.1 ht.2 hok).2⟩
  other c hok h ht hu := ⟨hu.1.grows (advance_sound h.1 ht.1 c).1.2,hu.2.safe hu.1 (advance_safe h.1 h.2 ht.1 ht.2 hok).1⟩

end Lease

section Sweep
variable {db : TaskDatabase} {now : Int} {n : Nat} {taskID : String}

def Freed (db : TaskDatabase) (taskID : String) : Prop :=
  ∃ row∈db.tasks, row.taskID=taskID ∧ row.status=.failed ∧ row.activeKey=none

theorem markExpired_frees (h : ∃ row∈db.tasks, row.taskID=taskID ∧ row.status=.running) :
    Freed (db.markSystemTaskLeaseExpired taskID) taskID := by
  obtain ⟨row,hrow,htask,hrun⟩ := h
  refine ⟨_,mem_map_of_mem hrow,?_⟩
  have hp : (row.taskID=taskID && row.status=.running : Bool)=true := by
    rw [decide_eq_true htask,decide_eq_true hrun]
    rfl
  rw [if_pos hp]
  exact ⟨htask,rfl,rfl⟩

theorem markExpired_other {other : String} (hne : other≠taskID) (h : ∃ row∈db.tasks, row.taskID=taskID ∧ row.status=.running) :
    ∃ row∈(db.markSystemTaskLeaseExpired other).tasks, row.taskID=taskID ∧ row.status=.running := by
  obtain ⟨row,hrow,htask,hrun⟩ := h
  refine ⟨_,mem_map_of_mem hrow,?_⟩
  have hp : ¬ (row.taskID=other && row.status=.running : Bool)=true := by
    rw [htask,decide_eq_false (Ne.symm hne)]
    exact Bool.false_ne_true
  rw [if_neg hp]
  exact ⟨htask,hrun⟩

theorem sweep_frees (rest : List SystemTaskLock) : ∀ (lock : SystemTaskLock) (p : Pool TaskDatabase Call),
    p.threads[n]? = some (.markStale now lock rest) → (∃ found∈lock::rest, found.taskID=taskID) →
    (∃ row∈p.shared.tasks, row.taskID=taskID ∧ row.status=.running) →
    ∃ more, Freed (run taskSystem.act more p).shared taskID := by
  induction rest with
  | nil =>
    intro lock p hcall hfound hrun
    refine ⟨[.step n {}],?_⟩
    obtain ⟨found,hmem,rfl⟩ := hfound
    rw [mem_singleton.mp hmem] at hrun ⊢
    rw [run,run,System.act_step hcall]
    exact @markExpired_frees (p.shared.wait 0) _ hrun
  | cons next rest ih =>
    intro lock p hcall hfound hrun
    by_cases hlock : lock.taskID=taskID
    · refine ⟨[.step n {}],?_⟩
      rw [run,run,System.act_step hcall]
      rw [← hlock] at hrun ⊢
      exact @markExpired_frees (p.shared.wait 0) _ hrun
    · have hlt := (List.getElem?_eq_some_iff.mp hcall).1
      have hmark := System.act_step (m := taskSystem) hcall {}
      have hcall1 : (taskSystem.act p (.step n {})).threads[n]? = some (.deleteStale now lock (next::rest)) := by
        rw [hmark]
        exact getElem?_set_self hlt
      have hdelete := System.act_step (m := taskSystem) hcall1 {}
      have hcall2 : (taskSystem.act (taskSystem.act p (.step n {})) (.step n {})).threads[n]? =
          some (.markStale now next rest) := by
        rw [hdelete]
        exact getElem?_set_self (List.getElem?_eq_some_iff.mp hcall1).1
      obtain ⟨found,hmem,htask⟩ := hfound
      have hrest : found∈next::rest := (mem_cons.mp hmem).resolve_left fun heq => hlock (heq ▸ htask)
      obtain ⟨more,hmore⟩ := ih next _ hcall2 ⟨found,hrest,htask⟩ (by
        rw [hdelete,hmark]
        exact @markExpired_other (p.shared.wait 0) _ _ hlock hrun)
      exact ⟨.step n {}::.step n {}::more,hmore⟩

theorem expire_frees {p : Pool TaskDatabase Call} {lock : SystemTaskLock} (hlock : lock∈p.shared.locks)
    (hrun : ∃ row∈p.shared.tasks, row.taskID=lock.taskID ∧ row.status=.running) :
    ∃ more, Freed (run taskSystem.act more p).shared lock.taskID := by
  have hcall : (taskSystem.act p (.start .expireStale)).threads[p.threads.length]? = some .scanLocks := by
    simp [System.act,taskSystem,Op.call]
  obtain ⟨delay,hdelay⟩ : ∃ delay, (lock.lockedUntil-p.shared.clock+1).toNat=delay := ⟨_,rfl⟩
  have hscan := System.act_step (m := taskSystem) hcall { delay }
  have hstale : lock∈p.shared.locks.filter fun row => row.lockedUntil<p.shared.clock+delay := by
    rw [mem_filter,decide_eq_true_eq]
    exact ⟨hlock,by omega⟩
  obtain ⟨first,rest,hlist⟩ := exists_cons_of_ne_nil (ne_nil_of_mem hstale)
  have hcall1 : (taskSystem.act (taskSystem.act p (.start .expireStale))
      (.step p.threads.length { delay })).threads[p.threads.length]? = some (.markStale (p.shared.clock+delay) first rest) := by
    rw [hscan,getElem?_set_self (List.getElem?_eq_some_iff.mp hcall).1]
    exact congrArg (fun locks => some (expireNext _ locks)) hlist
  obtain ⟨more,hmore⟩ := sweep_frees rest first _ hcall1 ⟨lock,hlist ▸ hstale,rfl⟩ (by
    rw [hscan]
    exact hrun)
  exact ⟨.start .expireStale::.step p.threads.length _::more,hmore⟩

end Sweep

section Leases
variable {db : TaskDatabase} {call : Call} {c : Choice} {taskID lockedBy : String}

def Call.Writes (taskID lockedBy : String) : Call → Prop
  | .updateState id runner _ => id=taskID ∧ runner=lockedBy
  | .finish id runner _ _ _ => id=taskID ∧ runner=lockedBy
  | _ => False

def Succeeds (db : TaskDatabase) (call : Call) (c : Choice) : Prop :=
  (taskSystem.advance db call c).2≠.closed .lockLost ∧ (taskSystem.advance db call c).2≠.closed .dbError

def HoldsLease (db : TaskDatabase) (taskID lockedBy : String) (time : Int) : Prop :=
  ∃ lock∈db.locks, lock.taskID=taskID ∧ lock.lockedBy=lockedBy ∧ time≤lock.lockedUntil ∧
    ∀ other∈db.locks, other.taskID=taskID → other=lock

theorem Sound.holdsLease (h : Sound db) (howns : db.tasks.any (db.ownsTask taskID lockedBy)=true) :
    HoldsLease db taskID lockedBy db.clock := by
  obtain ⟨row,hrow,howner⟩ := any_eq_true.mp howns
  obtain ⟨htask,-,-,hlock⟩ := ownsTask_iff.mp howner
  obtain ⟨lock,hmem,hp⟩ := any_eq_true.mp hlock
  simp only [and_eq_true,decide_eq_true_eq] at hp
  refine ⟨lock,hmem,hp.1.1,hp.1.2,hp.2,fun other hother hsame => ?_⟩
  apply h.eq_of_type hother hmem
  rw [h.type_of_taskID hother hrow (hsame.trans htask.symm),h.type_of_taskID hmem hrow (hp.1.1.trans htask.symm)]

theorem writes_holdsLease (hsound : Sound db) (hwrites : call.Writes taskID lockedBy) (h : Succeeds db call c) :
    HoldsLease db taskID lockedBy (db.clock+c.delay) := by
  cases call with
  | updateState id runner state =>
    obtain ⟨rfl,rfl⟩ := hwrites
    simp only [Succeeds,taskSystem,advanceCall,updateSystemTaskState] at h
    split at h
    · exact absurd rfl h.2
    split at h
    next howns => exact (hsound.wait c.delay).holdsLease howns
    next => exact absurd rfl h.1
  | finish id runner status result error =>
    obtain ⟨rfl,rfl⟩ := hwrites
    simp only [Succeeds,taskSystem,advanceCall,finishSystemTask] at h
    split at h
    · exact absurd rfl h.2
    split at h
    next howns => exact (hsound.wait c.delay).holdsLease howns
    next => exact absurd rfl h.1
  | _ => exact hwrites.elim

theorem each_empty (clock : Int) : Each Sound Knows (emptyTasks clock) :=
  ⟨⟨nodup_nil,rfl,nodup_nil,nofun⟩,nofun⟩

theorem run_finished {p : Pool TaskDatabase Call} (hp : Each Sound Knows p) (more : List (Act Op Choice)) {row : SystemTask}
    (hrow : row∈p.shared.tasks) (hfin : row.Finished) : row∈(run taskSystem.act more p).shared.tasks := by
  induction more generalizing p with
  | nil => exact hrow
  | cons act more ih =>
    apply ih (taskSystem_keeps.act hp act)
    cases act with
    | start op => exact hrow
    | step i c =>
      cases hcall : p.threads[i]? with
      | none =>
        rw [System.act_idle hcall]
        exact hrow
      | some call =>
        rw [System.act_step hcall]
        exact (advance_sound hp.shared (hp.thread call (mem_of_getElem? hcall)) c).1.2.finished row hrow hfin

/-- Only the holder of a lease writes a task, and a finished task stays as it is, in every run. In a run whose steps are all in
the lease every task that runs has a lock, by which a sweep can fail it after the lease. -/
theorem task_leases (clock : Int) (acts : List (Act Op Choice)) : (∀ call taskID lockedBy c, Call.Writes taskID lockedBy call →
      Succeeds (run taskSystem.act acts (emptyTasks clock)).shared call c →
      HoldsLease (run taskSystem.act acts (emptyTasks clock)).shared taskID lockedBy
        ((run taskSystem.act acts (emptyTasks clock)).shared.clock+c.delay)) ∧
    (∀ row∈(run taskSystem.act acts (emptyTasks clock)).shared.tasks, row.Finished → ∀ more,
      row∈(run taskSystem.act (acts++more) (emptyTasks clock)).shared.tasks) ∧
    (Guarded taskSystem.act (Meets StepInLease) acts (emptyTasks clock) →
      ∀ row∈(run taskSystem.act acts (emptyTasks clock)).shared.tasks, row.status=.running →
        (∃ lock∈(run taskSystem.act acts (emptyTasks clock)).shared.locks, lock.type=row.type ∧ lock.taskID=row.taskID) ∧
        ∃ more, Freed (run taskSystem.act (acts++more) (emptyTasks clock)).shared row.taskID) := by
  have hsound := taskSystem_keeps.run acts (each_empty clock)
  refine ⟨fun call taskID lockedBy c hwrites h => writes_holdsLease hsound.shared hwrites h,fun row hrow hfin more => ?_,
    fun hlease row hrow hrun => ?_⟩
  · rw [run_append]
    exact run_finished hsound more hrow hfin
  · have hheld : Held (emptyTasks clock).shared := nofun
    have heach := taskSystem_keepsIf.run ⟨⟨(each_empty clock).shared,hheld⟩,nofun⟩ hlease
    obtain ⟨lock,hlock,htype,htask,-⟩ := heach.shared.2 row hrow hrun
    obtain ⟨more,hmore⟩ := expire_frees hlock ⟨row,hrow,htask.symm,hrun⟩
    refine ⟨⟨lock,hlock,htype,htask⟩,more,?_⟩
    rw [run_append,← htask]
    exact hmore

instance InLease.decidable (db : TaskDatabase) : ∀ call, Decidable (InLease db call)
  | .claim id taskType runnerID _ (.setRunning taskID _) =>
    inferInstanceAs (Decidable (∀ row∈db.tasks, row.id=id → row.status=.pending → ∃ lock∈db.locks,
      lock.type=taskType ∧ lock.taskID=taskID ∧ lock.lockedBy=runnerID ∧ db.clock≤lock.lockedUntil))
  | .claim _ taskType _ _ (.takeLock _ now _) =>
    inferInstanceAs (Decidable (∀ lock∈db.locks, lock.type=taskType → lock.lockedUntil<now →
      ∀ row∈db.tasks, row.taskID=lock.taskID → row.status≠.running))
  | .claim _ _ runnerID _ (.giveUp taskID _) => inferInstanceAs (Decidable (¬ ∃ row∈db.tasks,
      row.taskID=taskID ∧ row.lockedBy=runnerID ∧ row.status=.running))
  | .renew taskID lockedBy lockUntil => inferInstanceAs (Decidable (∀ lock∈db.locks, lock.taskID=taskID →
      lock.lockedBy=lockedBy → lock.lockedUntil≤lockUntil))
  | .release taskID lockedBy => inferInstanceAs (Decidable (¬ ∃ row∈db.tasks,
      row.taskID=taskID ∧ row.lockedBy=lockedBy ∧ row.status=.running))
  | .claim _ _ _ _ .read | .claim _ _ _ _ (.createLock _ _) | .claim _ _ _ _ (.readLock _ _)
  | .claim _ _ _ _ (.markExpired _ _ _) | .claim _ _ _ _ .reload | .create _ _ _ _ | .updateState _ _ _
  | .finish _ _ _ _ _ | .finishRelease _ _ | .scanLocks | .markStale _ _ _ | .deleteStale _ _ _ | .closed _ => isTrue trivial

instance (db : TaskDatabase) (call : Call) (c : Choice) : Decidable (StepInLease db call c) :=
  inferInstanceAs (Decidable (c.fails=true ∨ InLease (db.wait c.delay) call))

def claimedRun : List (Act Op Choice) :=
  [.start (.create "systask_1" "log_cleanup" "null" "null"),.step 0 {},
   .start (.claim 1 "log_cleanup" "runner-a" 60),.step 1 {},.step 1 {},.step 1 { delay := 30 },
   .start (.renew "systask_1" "runner-a" 90),.step 2 {},.start (.updateState "systask_1" "runner-a" "half"),.step 3 { delay := 30 }]

theorem claimed_task_leased : ∃ row∈(run taskSystem.act claimedRun (emptyTasks 0)).shared.tasks,
    row.status=.running ∧ row.state="half" ∧
      ∃ more, Freed (run taskSystem.act (claimedRun++more) (emptyTasks 0)).shared row.taskID := by
  have hrun : (run taskSystem.act claimedRun (emptyTasks 0)).shared.tasks =
      [{ id := 1, taskID := "systask_1", type := "log_cleanup", status := .running, activeKey := some "log_cleanup"
         payload := "null", state := "half", lockedBy := "runner-a", createdAt := 0, updatedAt := 60 }] := by
    decide +kernel
  refine ⟨_,by rw [hrun]; exact mem_singleton_self _,rfl,rfl,?_⟩
  exact ((task_leases 0 claimedRun).2.2 (by decide +kernel) _ (by rw [hrun]; exact mem_singleton_self _) rfl).2

/-- The lease of a claim ends before the claim has set its task running, and a sweep takes the lock away. -/
def sweptRun : List (Act Op Choice) :=
  [.start (.create "systask_1" "log_cleanup" "null" "null"),.step 0 {},
   .start (.claim 1 "log_cleanup" "runner-a" 60),.step 1 {},.step 1 {},
   .start .expireStale,.step 2 { delay := 100 },.step 2 {},.step 2 {},.step 1 {}]

theorem swept_task_stranded : ∃ row∈(run taskSystem.act sweptRun (emptyTasks 0)).shared.tasks,
    row.status=.running ∧ row.activeKey=some "log_cleanup" ∧ (run taskSystem.act sweptRun (emptyTasks 0)).shared.locks=[] := by
  decide +kernel

end Leases

end NewApi.Tasks
