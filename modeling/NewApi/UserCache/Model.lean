import Mathlib.Tactic.Common

/-! The cached user of one account: the row in the database, the Redis keys that belong to it, and the
Lua scripts of `model/user_auth_cache.go`, `model/user_cache.go` and `model/quota_reserve.go` that change
them. Each script runs atomically. Redis is enabled and no key expires. -/
namespace NewApi.UserCache
variable (k : Keys)

structure User where
  id : Int
  group : String
  groupId : Int
  email : String
  quota : Int
  quotaVersion : Int
  status : Int
  role : Int
  username : String
  setting : String
  authVersion : Int
  deriving DecidableEq

structure UserBase extends User where
  cacheSchema : Int
  deriving DecidableEq

def userCacheSchemaVersion : Int := 6

def User.toBaseUser (user : User) : UserBase := { user with cacheSchema := userCacheSchemaVersion }

/-- The hash `user: < id>`; any field may be missing. -/
structure UserHash where
  id : Option Int := none
  group : Option String := none
  groupId : Option Int := none
  email : Option String := none
  quota : Option Int := none
  quotaVersion : Option Int := none
  status : Option Int := none
  role : Option Int := none
  username : Option String := none
  setting : Option String := none
  authVersion : Option Int := none
  cacheSchema : Option Int := none

/-- The keys of one user: the hash, `auth:user:fence`, `auth:user:version` and `quota:user:version`. -/
structure Keys where
  hash : Option UserHash
  pending : Option Int
  committed : Option Int
  quotaCommitted : Option Int

inductive CacheError where
  | authPending | quotaPending | invalidAuthVersion | invalidQuotaVersion | invalidFence | versionConflict
  | keyNotFound | schemaStale | redis | invalidUserId | groupChangedRepeatedly | negativeQuota
  deriving DecidableEq

/-- `tonumber(redis.call('GET', ..) or '0')`. -/
def tonumber (value : Option Int) : Int := value.getD 0

def Keys.hget {α : Type} (k : Keys) (field : UserHash → Option α) : Option α := k.hash.bind field

/-- The test by which every cache write yields to a newer version. -/
def Keys.behind (incoming : Int) : Bool :=
  decide (tonumber k.pending>incoming ∨ tonumber k.committed>incoming ∨ tonumber (k.hget (·.authVersion))>incoming)

def Keys.promote (incoming : Int) : Keys :=
  { k with
    committed := if tonumber k.committed < incoming then some incoming else k.committed
    pending := if tonumber k.pending>0 ∧ tonumber k.pending ≤ incoming then none else k.pending }

def UserHash.setUser (hash : UserHash) (user : UserBase) : UserHash :=
  { hash with
    id := some user.id, group := some user.group, groupId := some user.groupId, email := some user.email,
    status := some user.status, role := some user.role, username := some user.username,
    setting := some user.setting, authVersion := some user.authVersion, cacheSchema := some user.cacheSchema }

def UserHash.setQuota (hash : UserHash) (user : UserBase) (quotaCurrent cacheSchema : Int) : UserHash :=
  if hash.quota=none ∨ quotaCurrent≤0 ∨ cacheSchema≠user.cacheSchema then
    { hash with quota := some user.quota, quotaVersion := some user.quotaVersion }
  else hash

def writeUserCacheScript (user : UserBase) (includeQuota : Bool) : Keys×Int :=
  let quotaCurrent := tonumber (k.hget (·.quotaVersion))
  let cacheSchema := tonumber (k.hget (·.cacheSchema))
  if k.behind user.authVersion then (k,0)
  else if includeQuota ∧ user.quotaVersion≤0 then (k, -2)
  else if includeQuota ∧ (tonumber k.quotaCommitted>user.quotaVersion ∨ quotaCurrent>user.quotaVersion) then (k, -1)
  else
    let promoted := k.promote user.authVersion
    if includeQuota=false ∧ k.hash=none then (promoted,1)
    else
      let hash := (k.hash.getD {}).setUser user
      ({ promoted with hash := some (if includeQuota then hash.setQuota user quotaCurrent cacheSchema else hash) },1)

def writeResult (code : Int) : Option CacheError :=
  if code=0 then some .authPending
  else if code = -1 then some .quotaPending
  else if code = -2 then some .invalidQuotaVersion
  else none

def writeUserCache (user : UserBase) (includeQuota : Bool) : Keys×Option CacheError :=
  if user.id≤0 then (k,none)
  else if user.authVersion≤0 then (k,some .invalidAuthVersion)
  else
    let user := { user with
      cacheSchema := userCacheSchemaVersion
      quotaVersion := if includeQuota ∧ user.quotaVersion≤0 then 1 else user.quotaVersion }
    let out := writeUserCacheScript k user includeQuota
    (out.1,writeResult out.2)

def populateUserCache (user : User) : Keys×Option CacheError :=
  writeUserCache k user.toBaseUser true

def updateUserCache (user : User) : Keys×Option CacheError :=
  writeUserCache k user.toBaseUser false

def getUserAuthVersionFloor : Int :=
  max (max 0 (k.pending.getD 0)) (k.committed.getD 0)

def getUserQuotaVersionFloor : Int := k.quotaCommitted.getD 0

def setUserAuthVersionFence (userId authVersion : Int) : Keys×Option CacheError :=
  if userId≤0 ∨ authVersion≤0 then (k,some .invalidFence)
  else if tonumber k.pending<authVersion then ({ k with pending := some authVersion },none)
  else (k,none)

def publishCommittedUserAuthVersion (userId authVersion : Int) : Keys×Option CacheError :=
  if userId≤0 ∨ authVersion≤0 then (k,some .invalidAuthVersion)
  else (k.promote authVersion,none)

/-- The two partial writes of an existing hash share their checks and differ in the fields they set. -/
def updateAtVersion (userId authVersion : Int) (set : UserHash → UserHash) : Keys×Option CacheError :=
  if userId≤0 ∨ authVersion≤0 then (k,some .invalidAuthVersion)
  else if k.behind authVersion then (k,some .authPending)
  else
    let promoted := k.promote authVersion
    if k.hash=none ∨ tonumber (k.hget (·.authVersion))≠authVersion ∨
      tonumber (k.hget (·.cacheSchema))≠userCacheSchemaVersion then (promoted,none)
    else ({ promoted with hash := k.hash.map set },none)

def updateUserGroupCacheAtVersion (userId : Int) (group : String) (groupId authVersion : Int) :
    Keys×Option CacheError :=
  updateAtVersion k userId authVersion fun hash => { hash with group := some group, groupId := some groupId }

/-- The fields that callers of `updateUserCacheField` name. -/
inductive CacheField where
  | email | username | setting
  deriving DecidableEq

def UserHash.setField (hash : UserHash) (value : String) : CacheField → UserHash
  | .email => { hash with email := some value }
  | .username => { hash with username := some value }
  | .setting => { hash with setting := some value }

def updateUserCacheFieldAtVersion (userId : Int) (field : CacheField) (value : String)
    (authVersion : Int) : Keys×Option CacheError :=
  updateAtVersion k userId authVersion fun hash => hash.setField value field

/-- `RedisHGetObj`: a missing field keeps its zero value. -/
def UserHash.load (hash : UserHash) : UserBase :=
  { id := hash.id.getD 0, group := hash.group.getD "", groupId := hash.groupId.getD 0, email := hash.email.getD "",
    quota := hash.quota.getD 0, quotaVersion := hash.quotaVersion.getD 0, status := hash.status.getD 0,
    role := hash.role.getD 0, username := hash.username.getD "", setting := hash.setting.getD "",
    authVersion := hash.authVersion.getD 0, cacheSchema := hash.cacheSchema.getD 0 }

/-- `cacheGetUserBase` reads the hash, the version floor and the quota floor one after the other. -/
inductive Reading where
  | hash
  | floor (user : UserBase)
  | quotaFloor (user : UserBase)
  | done (out : Except CacheError UserBase)
  deriving DecidableEq

def Reading.advance (userId : Int) (k : Keys) : Reading → Reading
  | .hash =>
    match k.hash with
    | none => .done (.error .keyNotFound)
    | some entry =>
      let user := entry.load
      if user.id≠userId ∨ user.cacheSchema≠userCacheSchemaVersion ∨ user.authVersion≤0 ∨
        user.quotaVersion≤0 then .done (.error .schemaStale)
      else .floor user
  | .floor user => if getUserAuthVersionFloor k>user.authVersion then .done (.error .authPending) else .quotaFloor user
  | .quotaFloor user =>
    if getUserQuotaVersionFloor k>user.quotaVersion then .done (.error .quotaPending) else .done (.ok user)
  | .done out => .done out

/-- `GetUserCache`: the cached user, else the row of the database, which is put into the cache. -/
inductive Hydration where
  | cache (reading : Reading)
  | db
  | floor (user : User)
  | quotaFloor (user : User)
  | populate (user : User)
  | done (out : Except CacheError UserBase)

def populated (user : User) : Option CacheError → Except CacheError UserBase
  | some .authPending => .error .authPending
  | some .quotaPending => .error .quotaPending
  | _ => .ok user.toBaseUser

def Hydration.ofReading : Reading → Hydration
  | .done (.ok user) => .done (.ok user)
  | .done (.error _) => .db
  | reading => .cache reading

def Hydration.advance (row : User) (k : Keys) : Hydration → Keys×Hydration
  | .cache reading => (k,.ofReading (reading.advance row.id k))
  | .db => (k,.floor row)
  | .floor user =>
    (k,if getUserAuthVersionFloor k>user.authVersion then .done (.error .authPending) else .quotaFloor user)
  | .quotaFloor user =>
    (k,if getUserQuotaVersionFloor k>user.quotaVersion then .done (.error .quotaPending) else .populate user)
  | .populate user =>
    let out := populateUserCache k user
    (out.1,.done (populated user out.2))
  | .done out => (k,.done out)

/-- The guard of the two quota scripts: the hash holds a quota of the current generation. -/
def Keys.holdsQuota (userId : Int) : Bool :=
  decide (tonumber (k.hget (·.id))=userId ∧ tonumber (k.hget (·.cacheSchema))=userCacheSchemaVersion ∧
    k.hget (·.quota)≠none ∧ 0<tonumber (k.hget (·.quotaVersion)) ∧
    tonumber k.quotaCommitted≤tonumber (k.hget (·.quotaVersion)))

def Keys.addQuota (delta : Int) : Keys :=
  { k with hash := k.hash.map fun hash => { hash with quota := some (hash.quota.getD 0+delta) } }

inductive CacheQuotaResult where
  | insufficient | ok | miss

def cacheTryReserveUserQuota (userId amount : Int) : Keys×CacheQuotaResult :=
  if k.holdsQuota userId=false then (k,.miss)
  else if tonumber (k.hget (·.quota))<amount then (k,.insufficient)
  else (k.addQuota (-amount),.ok)

def cacheApplyUserQuotaDelta (userId delta : Int) : Keys×CacheQuotaResult :=
  if k.holdsQuota userId=false then (k,.miss) else (k.addQuota delta,.ok)

def plainUser : User :=
  { id := 1, group := "default", groupId := 1, email := "", quota := 100, quotaVersion := 1, status := 1, role := 1,
    username := "user", setting := "", authVersion := 1 }

def coldKeys : Keys := { hash := none, pending := none, committed := none, quotaCommitted := none }

end NewApi.UserCache
