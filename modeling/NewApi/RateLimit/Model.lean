import NewApi.Lib.Windows
import Mathlib.Logic.Function.Basic

/-! The in-process rate limit of model requests: the checks of its settings (`setting/rate_limit.go`), its queues
(`common/rate-limit.go`), and the handler that asks them (`middleware/model-rate-limit.go`). -/
namespace NewApi.RateLimit

def maxInt32 : Int := 2147483647

structure RateLimitCounts where
  total : Int
  success : Int
  checked : 0≤total ∧ 1≤ success ∧ total≤ maxInt32 ∧ success≤ maxInt32

def validateRateLimitCounts (label : String) (total success : Int) : Except String RateLimitCounts :=
  let shown := s!"[{total}, {success}]"
  if htotal : total<0 then .error s!"{label} has negative rate limit total value: {shown}"
  else if hsuccess : success<1 then .error s!"{label} has invalid success rate limit value: {shown}"
  else if hmax : total>maxInt32 ∨ success>maxInt32 then .error s!"{label} {shown} has max rate limits value 2147483647"
  else .ok ⟨total,success,by omega⟩

/-- The settings of `buildModelRequestRateLimitSnapshot`: every scope of a rule has its counts, all of them checked. -/
structure ModelRequestRateLimitSnapshot where
  durationMinutes : Int
  checked : 1≤durationMinutes ∧ durationMinutes≤ maxInt32
  limits : String → RateLimitCounts

def ModelRequestRateLimitSnapshot.durationSeconds (snapshot : ModelRequestRateLimitSnapshot) : Int :=
  snapshot.durationMinutes*60

inductive LimitType where
  | success | total
  deriving DecidableEq

/-- The parts of a memory key, which its text tells apart: the scope is escaped in it. -/
structure MemoryKey where
  limitType : LimitType
  scope : String
  userId : Int
  deriving DecidableEq

def ModelRequestRateLimitSnapshot.maxCount (snapshot : ModelRequestRateLimitSnapshot) (key : MemoryKey) : Int :=
  match key.limitType with
  | .success => (snapshot.limits key.scope).success
  | .total => (snapshot.limits key.scope).total

abbrev Store := MemoryKey → Option (List Int)

def request (store : Store) (now : Int) (key : MemoryKey) (maxRequestNum duration : Int) : Store×Bool :=
  match store key with
  | some queue =>
    if Windows.room maxRequestNum duration now queue then
      (Function.update store key (some (Windows.push maxRequestNum now queue)),true)
    else (store,false)
  | none => (Function.update store key (some [now]),true)

def allow (store : Store) (now : Int) (key : MemoryKey) (maxRequestNum duration : Int) : Bool :=
  (store key).all (Windows.room maxRequestNum duration now)

def expirationDuration : Int := 1200

def expired (now : Int) (queue : List Int) : Bool := queue.getLast?.all fun newest => now-newest>expirationDuration

def clearExpiredItems (store : Store) (now : Int) : Store := fun key => (store key).filter fun queue => !expired now queue

inductive Phase where
  | idle
  | allowed (userId : Int) (scope : String)
  | running (userId : Int) (scope : String)
  | recording (userId : Int) (finalScope : String)

inductive Action where
  | arrive (userId : Int) (scope : String)
  | enter
  | finish (status : Nat) (finalScope : String)
  | record
  | clear

structure Limiter where
  store : Store := fun _ => none
  phase : Phase := .idle
  clock : Int

/-- What a run shows: the times that count for a key, and the requests that are turned down. -/
inductive Event where
  | counted (key : MemoryKey) (now : Int)
  | rejected (userId : Int) (scope : String)
  deriving DecidableEq

variable (snapshot : ModelRequestRateLimitSnapshot)

/-- A call of the limiter and what follows it up to the next one; between the calls time passes and the janitor runs. -/
def handle (s : Limiter) (now : Int) (act : Action) : Limiter×List Event :=
  let ask key := request s.store now key (snapshot.maxCount key) snapshot.durationSeconds
  match act,s.phase with
  | .clear, _ => ({ s with store := clearExpiredItems s.store now },[])
  | .arrive userId scope, .idle =>
    if allow s.store now ⟨.success,scope,userId⟩ (snapshot.limits scope).success snapshot.durationSeconds then
      ({ s with phase := if (snapshot.limits scope).total=0 then .running userId scope else .allowed userId scope },[])
    else (s,[.rejected userId scope])
  | .enter, .allowed userId scope =>
    let (store,allowed) := ask ⟨.total,scope,userId⟩
    if allowed then ({ s with store, phase := .running userId scope },[.counted ⟨.total,scope,userId⟩ now])
    else ({ s with store, phase := .idle },[.rejected userId scope])
  | .finish status finalScope, .running userId scope =>
    if status<400 then
      ({ s with store := (ask ⟨.success,scope,userId⟩).1
                phase := if finalScope≠scope then .recording userId finalScope else .idle },
        [.counted ⟨.success,scope,userId⟩ now])
    else ({ s with phase := .idle },[])
  | .record, .recording userId scope =>
    -- a success that ends under another rule counts there, too, when it is recorded
    let (store,kept) := ask ⟨.success,scope,userId⟩
    ({ s with store, phase := .idle },if kept then [.counted ⟨.success,scope,userId⟩ now] else [])
  | _, _ => (s,[])

def step (s : Limiter) (act : Int×Action) : Limiter := { (handle snapshot s act.1 act.2).1 with clock := act.1 }

def emit (s : Limiter) (act : Int×Action) : List Event := (handle snapshot s act.1 act.2).2

end NewApi.RateLimit
