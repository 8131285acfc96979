import NewApi.Lib.Threads
import NewApi.UserCache.Model

/-! Transactions that raise a user's auth version, cache readers and delayed cache writers of
`model/user_auth_cache.go`, in any interleaving. The fence and the committed version together form a
floor that no script lowers, and a transaction raises the floor before it commits. -/
namespace NewApi.UserCache
open Option Threads Runs
variable (s : AuthState) (written : Option Int)

structure AuthState where
  row : User
  locked : Bool
  keys : Keys

/-- Where a transaction stands. `IncrementUserAuthVersionWithTx` goes through `read`, `fence` and `update`,
with `tries` rounds of its loop left after the present one. -/
inductive TxPhase where
  | read (tries : Nat)
  | fence (tries : Nat) (seen : Int)
  | update (tries : Nat) (seen : Int)
  | bumped (next : Int)
  | committed (next : Int)
  | publish (user : User)
  deriving DecidableEq

inductive CacheWrite where
  | user (user : UserBase) (includeQuota : Bool)
  | group (userId : Int) (group : String) (groupId authVersion : Int)
  | field (userId : Int) (field : CacheField) (value : String) (authVersion : Int)
  deriving DecidableEq

def CacheWrite.apply (k : Keys) : CacheWrite → Keys×Option CacheError
  | .user base includeQuota => writeUserCache k base includeQuota
  | .group userId name groupId authVersion => updateUserGroupCacheAtVersion k userId name groupId authVersion
  | .field userId name value authVersion => updateUserCacheFieldAtVersion k userId name value authVersion

inductive WriterKind where
  | user (includeQuota : Bool)
  | group
  | field (field : CacheField) (value : String)
  deriving DecidableEq

def WriterKind.snapshot (row : User) : WriterKind → CacheWrite
  | .user includeQuota => .user row.toBaseUser includeQuota
  | .group => .group row.id row.group row.groupId row.authVersion
  | .field name value => .field row.id name value row.authVersion

inductive AuthCall where
  | tx (written : Option Int) (phase : TxPhase)
  | read (reading : Reading)
  | snapshot (kind : WriterKind)
  | write (w : CacheWrite)
  | closed
  deriving DecidableEq

inductive AuthOp where
  | transaction | reader | writer (kind : WriterKind)

/-- What the environment decides at a step: whether Redis answers, and how a transaction goes on. -/
inductive AuthChoice where
  | ok | redisError | commit (columns : User) | rollback | again | promote

def nextVersion (seen : Int) : Int := (if seen<1 then 1 else seen)+1

def AuthState.rollback : AuthState×AuthCall :=
  ({ s with locked := s.locked && written.isNone },.closed)

def publishFence (tries : Nat) (seen : Int) : AuthState×AuthCall :=
  let out := setUserAuthVersionFence s.keys s.row.id (nextVersion seen)
  if out.2=none then ({ s with keys := out.1 },.tx written (.update tries seen)) else s.rollback written

/-- The conditional update of `auth_version`, which waits for the row lock and sees the newest row. -/
def updateVersion (tries : Nat) (seen : Int) : AuthState×AuthCall :=
  if s.locked ∧ written=none then (s,.tx written (.update tries seen))
  else if written.getD s.row.authVersion=seen then
    ({ s with locked := true },.tx (some (nextVersion seen)) (.bumped (nextVersion seen)))
  else
    match tries with
    | 0 => s.rollback written
    | tries+1 => (s,.tx written (.read tries))

def advanceTx : TxPhase → AuthChoice → AuthState×AuthCall
  | .read tries, _ => (s,.tx written (.fence tries (written.getD s.row.authVersion)))
  | .fence _ _, .redisError => s.rollback written
  | .fence tries seen, _ => publishFence s written tries seen
  | .update tries seen, _ => updateVersion s written tries seen
  | .bumped next, .commit columns =>
    ({ s with row := { columns with id := s.row.id, authVersion := next }, locked := false },.tx none (.committed next))
  | .bumped _, .again => (s,.tx written (.read 2))
  | .bumped _, .rollback => s.rollback written
  | .bumped next, _ => (s,.tx written (.bumped next))
  | .committed _, .redisError => (s,.closed)
  | .committed next, .promote => ({ s with keys := (publishCommittedUserAuthVersion s.keys s.row.id next).1 },.closed)
  | .committed _, _ => (s,.tx written (.publish s.row))
  | .publish _, .redisError => (s,.closed)
  | .publish user, _ => ({ s with keys := (updateUserCache s.keys user).1 },.closed)

def advanceAuth (s : AuthState) : AuthCall → AuthChoice → AuthState×AuthCall
  | .tx written phase, c => advanceTx s written phase c
  | .read (.done out), _ => (s,.read (.done out))
  | .read _, .redisError => (s,.read (.done (.error .redis)))
  | .read reading, _ => (s,.read (reading.advance s.row.id s.keys))
  | .snapshot kind, _ => (s,.write (kind.snapshot s.row))
  | .write _, .redisError => (s,.closed)
  | .write w, _ => ({ s with keys := (w.apply s.keys).1 },.closed)
  | .closed, _ => (s,.closed)

def authSystem : System AuthState AuthCall AuthOp AuthChoice where
  init
    | .transaction => .tx none (.read 2)
    | .reader => .read .hash
    | .writer kind => .snapshot kind
  advance := advanceAuth

def quiet (row : User) (keys : Keys) : Pool AuthState AuthCall :=
  { shared := { row := row, locked := false, keys := keys }, threads := [] }

abbrev floor := getUserAuthVersionFloor

section
variable (k : Keys)
include k
variable (user : UserBase) (includeQuota : Bool) (userId authVersion : Int)

theorem floor_le_promote (incoming : Int) : floor k≤floor (k.promote incoming) := by
  have hcommitted : max (tonumber k.committed) incoming=tonumber (k.promote incoming).committed := by
    simp only [Keys.promote]
    split
    · simp only [tonumber,getD_some] at *
      omega
    · omega
  have hpending : tonumber (k.promote incoming).pending=tonumber k.pending ∨ tonumber k.pending ≤ incoming := by
    simp only [Keys.promote]
    split
    next h =>
      exact .inr h.2
    · exact .inl rfl
  simp only [tonumber] at hcommitted hpending
  simp only [floor,getUserAuthVersionFloor]
  omega

theorem floor_le_writeScript :
    floor k≤floor (writeUserCacheScript k user includeQuota).1 := by
  have hpromote := floor_le_promote k user.authVersion
  simp only [writeUserCacheScript]
  split
  · exact Int.le_refl _
  split
  · exact Int.le_refl _
  split
  · exact Int.le_refl _
  split <;> exact hpromote

theorem floor_le_writeUserCache :
    floor k≤floor (writeUserCache k user includeQuota).1 := by
  simp only [writeUserCache]
  split
  · exact Int.le_refl _
  split
  · exact Int.le_refl _
  · exact floor_le_writeScript k _ includeQuota

theorem floor_le_updateAtVersion (set : UserHash → UserHash) :
    floor k≤floor (updateAtVersion k userId authVersion set).1 := by
  have hpromote := floor_le_promote k authVersion
  simp only [updateAtVersion]
  split
  · exact Int.le_refl _
  split
  · exact Int.le_refl _
  split <;> exact hpromote

theorem floor_le_apply (w : CacheWrite) : floor k≤floor (w.apply k).1 := by
  cases w with
  | user user includeQuota => exact floor_le_writeUserCache k user includeQuota
  | group userId _ _ authVersion | field userId _ _ authVersion => exact floor_le_updateAtVersion k userId authVersion _

theorem floor_le_fence : floor k≤floor (setUserAuthVersionFence k userId authVersion).1 := by
  simp only [setUserAuthVersionFence]
  split
  · exact Int.le_refl _
  split
  next hlt =>
    simp only [floor,getUserAuthVersionFloor,tonumber,getD_some] at hlt ⊢
    omega
  · exact Int.le_refl _

end

variable (s : AuthState) (written : Option Int) (tries : Nat) (seen : Int)

theorem le_floor_of_fence {k : Keys} {userId authVersion : Int} (h : (setUserAuthVersionFence k userId authVersion).2=none) :
    authVersion≤floor (setUserAuthVersionFence k userId authVersion).1 := by
  simp only [setUserAuthVersionFence] at h ⊢
  by_cases hbad : userId≤0 ∨ authVersion≤0
  · rw [if_pos hbad] at h
    cases h
  by_cases hlt : tonumber k.pending<authVersion
  · simp only [if_neg hbad,if_pos hlt,floor,getUserAuthVersionFloor,getD_some]
    omega
  · simp only [if_neg hbad,if_neg hlt,floor,getUserAuthVersionFloor]
    simp only [tonumber] at hlt
    omega

theorem floor_le_publishCommitted (k : Keys) (userId authVersion : Int) :
    floor k≤floor (publishCommittedUserAuthVersion k userId authVersion).1 := by
  simp only [publishCommittedUserAuthVersion]
  split
  · exact Int.le_refl _
  · exact floor_le_promote k authVersion

theorem floor_le_publishFence :
    floor s.keys≤floor (publishFence s written tries seen).1.keys := by
  simp only [publishFence]
  split
  · exact floor_le_fence s.keys s.row.id (nextVersion seen)
  · exact Int.le_refl _

theorem updateVersion_keys :
    (updateVersion s written tries seen).1.keys=s.keys := by
  unfold updateVersion
  split
  · rfl
  split
  · rfl
  · cases tries <;> rfl

theorem floor_le_tx (phase : TxPhase) (c : AuthChoice) :
    floor s.keys≤floor (advanceTx s written phase c).1.keys := by
  fun_cases advanceTx s written phase c with
  | case3 tries seen => exact floor_le_publishFence s written tries seen
  | case4 tries seen => exact Int.le_of_eq (by rw [updateVersion_keys])
  | case10 next => exact floor_le_publishCommitted s.keys s.row.id next
  | case13 user => exact floor_le_writeUserCache s.keys user.toBaseUser false
  | _ => exact Int.le_refl _

theorem floor_le_advance (s : AuthState) (t : AuthCall) (c : AuthChoice) : floor s.keys≤floor (advanceAuth s t c).1.keys := by
  fun_cases advanceAuth s t c with
  | case1 written phase c => exact floor_le_tx s written phase c
  | case7 w => exact floor_le_apply s.keys w
  | _ => exact Int.le_refl _

/-- What a transaction has fenced off: the version it is about to write or has written. -/
def Fenced (s : AuthState) : AuthCall → Prop
  | .tx _ (.update _ seen) => nextVersion seen≤floor s.keys
  | .tx _ (.bumped next) => next≤floor s.keys
  | _ => True

def passedFloor : AuthCall → Bool
  | .read (.quotaFloor _) => true
  | .read (.done (.ok _)) => true
  | _ => false

/-- The version of a reader whose check has passed is at least `v`. -/
def AtLeast (v : Int) : AuthCall → Prop
  | .read (.quotaFloor user) => v≤user.authVersion
  | .read (.done (.ok user)) => v≤user.authVersion
  | _ => True

variable {s : AuthState} {t : AuthCall}

theorem fenced_mono {s' : AuthState} (h : floor s.keys≤floor s'.keys) (ht : Fenced s t) : Fenced s' t := by
  fun_cases Fenced s t with
  | case1 _ _ _ | case2 _ _ => exact Int.le_trans ht h
  | case3 => simp_all [Fenced]

theorem fenced_publishFence (s : AuthState) (written : Option Int) (tries : Nat) (seen : Int) :
    Fenced (publishFence s written tries seen).1 (publishFence s written tries seen).2 := by
  simp only [publishFence]
  split
  next h =>
    exact le_floor_of_fence h
  · trivial

variable {written : Option Int}

theorem fenced_updateVersion {tries : Nat} {seen : Int} (h : nextVersion seen≤floor s.keys) :
    Fenced (updateVersion s written tries seen).1 (updateVersion s written tries seen).2 := by
  unfold updateVersion
  split
  · exact h
  split
  · exact h
  · cases tries <;> trivial

theorem fenced_tx {phase : TxPhase} (c : AuthChoice) (ht : Fenced s (.tx written phase)) :
    Fenced (advanceTx s written phase c).1 (advanceTx s written phase c).2 := by
  fun_cases advanceTx s written phase c with
  | case3 tries seen => exact fenced_publishFence s written tries seen
  | case4 tries seen => exact fenced_updateVersion ht
  | case8 next => exact ht
  | _ => trivial

theorem fenced_advance (c : AuthChoice) (ht : Fenced s t) : Fenced (advanceAuth s t c).1 (advanceAuth s t c).2 := by
  fun_cases advanceAuth s t c with
  | case1 written phase c => exact fenced_tx c ht
  | _ => trivial

theorem fenced_keeps : Keeps authSystem (fun _ => True) Fenced where
  init o _ := by cases o <;> trivial
  shared _ _ _ := trivial
  moved c _ ht := fenced_advance c ht
  other c _ _ hu := fenced_mono (floor_le_advance _ _ c) hu

theorem atLeast_tx (v : Int) (s : AuthState) (written : Option Int) (phase : TxPhase) (c : AuthChoice) :
    AtLeast v (advanceTx s written phase c).2 := by
  fun_cases advanceTx s written phase c with
  | case3 tries seen =>
    simp only [publishFence]
    split <;> trivial
  | case4 tries seen =>
    unfold updateVersion
    split
    · trivial
    split
    · trivial
    · cases tries <;> trivial
  | _ => trivial

theorem atLeast_reading {v userId : Int} {k : Keys} (hv : v≤floor k) {reading : Reading}
    (hr : AtLeast v (.read reading)) : AtLeast v (.read (reading.advance userId k)) := by
  cases reading with
  | hash =>
    simp only [Reading.advance]
    split
    · trivial
    split <;> trivial
  | floor user =>
    simp only [Reading.advance]
    split
    · trivial
    next hle =>
      exact Int.le_trans hv (Int.not_lt.mp hle)
  | quotaFloor user =>
    simp only [Reading.advance]
    split
    · trivial
    · exact hr
  | done out => exact hr

theorem atLeast_advance {v : Int} (c : AuthChoice) (hv : v≤floor s.keys) (ht : AtLeast v t) :
    AtLeast v (advanceAuth s t c).2 := by
  fun_cases advanceAuth s t c with
  | case1 written phase c => exact atLeast_tx v s written phase c
  | case2 out => exact ht
  | case4 reading => exact atLeast_reading hv ht
  | _ => trivial

/-- Once a transaction has committed the auth version `v`, no reader that had not passed its version check by then
returns a user below `v`. -/
theorem no_stale_reauthorization (row : User) (keys : Keys) (before later : List (Act AuthOp AuthChoice))
    (i j : Nat) (written : Option Int) (v : Int) (columns : User) (base : UserBase)
    (hbumped : (run authSystem.act before (quiet row keys)).threads[i]? = some (.tx written (.bumped v)))
    (hlater : ∀ t∈(run authSystem.act (before++[.step i (.commit columns)]) (quiet row keys)).threads[j]?, passedFloor t=false)
    (hread : (run authSystem.act (before++.step i (.commit columns)::later) (quiet row keys)).threads[j]? =
      some (.read (.done (.ok base)))) :
    (run authSystem.act (before++[.step i (.commit columns)]) (quiet row keys)).shared.row.authVersion=v ∧
      v≤base.authVersion := by
  have hstart : Each (fun _ => True) Fenced (quiet row keys) := ⟨trivial,fun t ht => by cases ht⟩
  have hfenced : v≤floor (run authSystem.act before (quiet row keys)).shared.keys :=
    (fenced_keeps.run before hstart).thread _ (List.mem_of_getElem? hbumped)
  rw [run_append] at hlater hread ⊢
  generalize run authSystem.act before (quiet row keys)=p at hbumped hlater hread hfenced ⊢
  have hcommit : authSystem.act p (.step i (.commit columns))=_ := System.act_step hbumped _
  simp only [run] at hlater hread ⊢
  have hkeys : v≤floor (authSystem.act p (.step i (.commit columns))).shared.keys := by
    rw [hcommit]
    exact Int.le_trans hfenced (floor_le_advance _ _ _)
  have hend := run_thread (m := authSystem) (I := fun s => v≤floor s.keys) (T := AtLeast v)
    (fun o => by cases o <;> trivial) (fun s t c hs => Int.le_trans hs (floor_le_advance s t c))
    (fun s t c hs ht => atLeast_advance c hs ht) j later hkeys (fun t ht => ?_)
  · refine ⟨?_,hend.2 _ hread⟩
    rw [hcommit]
    rfl
  · have hpassed := hlater t ht
    fun_cases AtLeast v t with
    | case1 _ | case2 _ => cases hpassed
    | case3 => simp_all

def bumpActs : List (Act AuthOp AuthChoice) :=
  [.start (.writer (.user true)),.step 0 .ok,.start .transaction,.step 1 .ok,.step 1 .ok,.step 1 .ok]

def readActs : List (Act AuthOp AuthChoice) :=
  [.step 0 .ok,.step 1 .ok,.step 1 .ok,.start (.writer (.user true)),.step 2 .ok,.step 2 .ok,.start .reader,
    .step 3 .ok,.step 3 .ok,.step 3 .ok]

theorem no_stale_reauthorization_delayed_write :
    (run authSystem.act (bumpActs++.step 1 (.commit { plainUser with status := 2 })::readActs)
        (quiet plainUser coldKeys)).threads[3]? =
      some (.read (.done (.ok { plainUser with status := 2, authVersion := 2 }.toBaseUser))) ∧
    (2 : Int)≤{ plainUser with status := 2, authVersion := 2 }.toBaseUser.authVersion :=
  ⟨by decide +kernel,(no_stale_reauthorization plainUser coldKeys bumpActs readActs 1 3 (some 2) 2
    { plainUser with status := 2 } { plainUser with status := 2, authVersion := 2 }.toBaseUser
    (by decide +kernel) (by decide +kernel) (by decide +kernel)).2⟩

end NewApi.UserCache
