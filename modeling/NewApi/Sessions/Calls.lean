import Mathlib.Data.List.Sort
import NewApi.Lib.GoStrings
import NewApi.Lib.Programs
import NewApi.Sessions.Admission

/-! The calls on login sessions (`model/user_session.go`, `service/auth_session.go`) as sequences of clock readings, statements
and Redis operations. Times of the clock are in nanoseconds. A transaction is one statement; rows that it has locked before a
Redis operation are given to it as they were. -/
namespace NewApi.Sessions
open Programs GoStrings

structure CacheEntry where
  sid : String
  userID : Nat
  version : Int
  userAuthVersion : Int
  status : SessionStatus
  createdAt : Int
  lastActiveAt : Int
  expiresAt : Int
  revokedAt : Int
  revokedReason : String

def UserSession.cacheEntry (session : UserSession) : CacheEntry where
  sid := session.sid
  userID := session.userID
  version := session.version
  userAuthVersion := session.userAuthVersion
  status := session.status
  createdAt := session.createdAt
  lastActiveAt := session.lastActiveAt
  expiresAt := session.expiresAt
  revokedAt := session.revokedAt
  revokedReason := session.revokedReason

def CacheEntry.session (entry : CacheEntry) : UserSession where
  sid := entry.sid
  userID := entry.userID
  version := entry.version
  userAuthVersion := entry.userAuthVersion
  status := entry.status
  refreshHash := ""
  createdAt := entry.createdAt
  lastActiveAt := entry.lastActiveAt
  expiresAt := entry.expiresAt
  revokedAt := entry.revokedAt
  revokedReason := entry.revokedReason

def CacheEntry.valid (entry : CacheEntry) (sid : String) : Bool :=
  entry.sid=sid && entry.userID≠0 && 0<entry.version && 0<entry.userAuthVersion

inductive Edit where
  | revoke (now : Int) (reason : String)
  | rotate (nextHash : String) (now graceSeconds : Int)
  | advanceAuth (nextUserAuthVersion now : Int)

def Edit.apply : Edit → UserSession → UserSession
  | revoke now reason, row => row.revoke now reason
  | rotate nextHash now graceSeconds, row => row.rotate nextHash now graceSeconds
  | advanceAuth nextUserAuthVersion now, row => row.advanceAuth nextUserAuthVersion now

def Edit.revokes : Edit → Bool
  | revoke _ _ => true
  | _ => false

def Edit.newHashes : Edit → List String
  | rotate nextHash _ _ => [nextHash]
  | _ => []

structure UserView where
  enabled : Bool
  authVersion : Int
  deriving DecidableEq

/-- What a write to Redis is for: the deny fence of a replayed secret, the tombstone that ends a revocation with the version of a
row read before the row was locked, or any other. -/
inductive WriteMark where
  | fence | final | other

/-- An operation of a call. A clock reading is `late` when it sets the deadline of a snapshot of a row that was written before
it; a lookup of a user says the auth version that it is compared with. -/
inductive AuthOp where
  | clock (late : Option String)
  | user (userID : Nat) (authVersion : Int)
  | query (select : UserSession → Bool)
  | update (select : UserSession → Bool) (edit : Edit)
  | enroll (locked : List UserSession) (now : Int) (session : UserSession)
  | cached (sid : String)
  | script (entry : CacheEntry) (expiration : Int) (mark : WriteMark)

abbrev AuthAns : AuthOp → Type
  | .clock _ => Int
  | .user _ _ => Option UserView
  | .query _ => List UserSession
  | .update _ _ => List UserSession
  | .enroll _ _ _ => Bool
  | .cached _ => Option CacheEntry
  | .script _ _ _ => Bool

/-- The clock, the table of sessions, the cache with the expiry of its keys in milliseconds, the times at which rows were
revoked, and the refresh hashes that each session has had, newest first. -/
structure AuthStore where
  now : Int
  rows : List UserSession := []
  cache : String → Option (CacheEntry×Int) := fun _ => none
  revokedAt : String → Option Int := fun _ => none
  hashes : String → List String := fun _ => []

/-- What the environment decides at a step: the time that has passed, and what a lookup of a user gives. -/
structure AuthChoice where
  elapsed : Nat := 0
  view : Option UserView := none

def unix (t : Int) : Int := t / 1000000000

def unixMilli (t : Int) : Int := t / 1000000

namespace AuthStore
variable (s : AuthStore)

def row (sid : String) : Option UserSession := Keyed.lookup (·.sid) sid s.rows

def visible (sid : String) : Option (CacheEntry×Int) := (s.cache sid).filter fun stored => unixMilli s.now<stored.2

def markRevoked (sids : List String) : String → Option Int := fun sid => if sid∈sids then some s.now else s.revokedAt sid

def selected (select : UserSession → Bool) : List String := (s.rows.filter select).map (·.sid)

def update (select : UserSession → Bool) (edit : Edit) : AuthStore :=
  { s with
    rows := s.rows.map fun row => if select row then edit.apply row else row
    revokedAt := if edit.revokes then s.markRevoked (s.selected select) else s.revokedAt
    hashes := fun sid => if sid∈s.selected select then edit.newHashes++s.hashes sid else s.hashes sid }

def insert (session : UserSession) : AuthStore :=
  { s with
    rows := s.rows++[session]
    hashes := Function.update s.hashes session.sid [session.refreshHash] }

def enroll (locked : List UserSession) (now : Int) (session : UserSession) : AuthStore :=
  (s.update (fun row => row∈locked) (.revoke now "login_session_auto_evicted")).insert session

def put (sid : String) (stored : Option (CacheEntry×Int)) : AuthStore :=
  { s with cache := Function.update s.cache sid stored }

def refuses (entry : CacheEntry) : Bool :=
  (s.visible entry.sid).any fun stored =>
    (entry.status=.active && stored.1.status≠.active) || entry.version<stored.1.version

def script (entry : CacheEntry) (expiration : Int) : AuthStore×Bool :=
  if s.refuses entry then (s,false)
  else if entry.status=.active then
    if expiration-unixMilli s.now-1≤0 then (s.put entry.sid none,true)
    else (s.put entry.sid (some (entry,unixMilli s.now+(expiration-unixMilli s.now-1))),true)
  else (s.put entry.sid (some (entry,unixMilli s.now+expiration)),true)

def wait (elapsed : Nat) : AuthStore := { s with now := s.now+elapsed }

end AuthStore

def authExec (s : AuthStore) (c : AuthChoice) : (op : AuthOp) → AuthStore×AuthAns op
  | .clock _ => (s.wait c.elapsed,(s.wait c.elapsed).now)
  | .user _ _ => (s.wait c.elapsed,c.view)
  | .query select => (s.wait c.elapsed,s.rows.filter select)
  | .update select edit => ((s.wait c.elapsed).update select edit,s.rows.filter select)
  | .enroll locked now session =>
    if (locked.all fun row => row∈s.rows) ∧ s.row session.sid=none then ((s.wait c.elapsed).enroll locked now session,true)
    else (s.wait c.elapsed,false)
  | .cached sid => (s.wait c.elapsed,((s.wait c.elapsed).visible sid).map Prod.fst)
  | .script entry expiration _ => (s.wait c.elapsed).script entry expiration

inductive RefreshError where
  | tokenInvalid | mismatch | revoked | race | failed
  deriving DecidableEq

/-- What a call returns: a session, the sessions it revoked, the secret of a new refresh token, an error. A rotation has judged a
row at a time; a loop that goes on is `running`. -/
structure SessionResult where
  session : Option UserSession := none
  revoked : List String := []
  refreshed : Option String := none
  error : Option RefreshError := none
  judged : Option (UserSession×Int) := none
  running : Bool := false
  deriving DecidableEq

abbrev Code := Prog AuthOp AuthAns SessionResult

def readClock (next : Int → Code) : Code := .call (.clock none) next

def query (select : UserSession → Bool) (next : List UserSession → Code) : Code := .call (.query select) next

def update (select : UserSession → Bool) (edit : Edit) (next : List UserSession → Code) : Code := .call (.update select edit) next

inductive WriteResult where
  | written | stale | inactive | invalid

inductive GetResult where
  | session (session : UserSession)
  | inactive
  | failed

inductive RotateResult where
  | rotated (session : UserSession)
  | race (session : UserSession)
  | reuse
  | refreshInvalid
  | inactive
  | invalid

def userCacheTTLSeconds (redisKeyCacheSeconds : Int) : Int := if redisKeyCacheSeconds≤0 then 60 else redisKeyCacheSeconds

def userSessionRevokeBatchSize : Nat := 500

/-- The outcome of a rotation, with the row and the time it was decided on. -/
structure Rotation where
  result : RotateResult
  judged : Option (UserSession×Int) := none

/-- The settings that the calls read, the digests under the signing keys `refresh` and `refresh-rotate`, and whether `uuid.Parse`
accepts a text. -/
structure SessionConfig where
  redisKeyCacheSeconds : Int
  limits : SessionLimits
  refreshDigest : String → String
  refreshRotateDigest : String → String
  isUUID : String → Bool

section Calls
variable (config : SessionConfig)

def SessionConfig.cacheTTL : Int := userCacheTTLSeconds config.redisKeyCacheSeconds*1000000000

def writeUserSessionCache (entry : CacheEntry) (cacheDeadline : Option Int) (mark : WriteMark) (next : WriteResult → Code) : Code :=
  readClock fun now =>
    let sessionExpiresAt := entry.expiresAt*1000000000
    if entry.status=.active then
      match cacheDeadline with
      | none => next .invalid
      | some cacheDeadline =>
        if cacheDeadline-now≤0 then next .stale
        else if sessionExpiresAt-now≤0 then next .inactive
        else if min cacheDeadline sessionExpiresAt-now<1000000 then next .stale
        else .call (.script entry (unixMilli (min cacheDeadline sessionExpiresAt)) mark) fun written : Bool =>
          if !written then next .inactive
          else readClock fun completedAt =>
            if cacheDeadline≤completedAt then next .stale
            else if sessionExpiresAt≤completedAt then next .inactive
            else next .written
    else
      let ttl := min (sessionExpiresAt-now) config.cacheTTL
      let ttl := if ttl≤0 then 1000000000 else ttl
      .call (.script entry (max (unixMilli ttl) 1) mark) fun written : Bool =>
        next (if written then .written else .inactive)

def writeUserSessionDenyFence (session : UserSession) (now : Int) (reason : String) (mark : WriteMark) (next : WriteResult → Code) : Code :=
  writeUserSessionCache config
    { session.cacheEntry with status := .revoking, revokedAt := now, revokedReason := reason } none mark next

def confirmUserSessionActiveSnapshot (session : UserSession) (next : Bool → Code) : Code :=
  readClock fun now =>
    query (fun row => row.sid=session.sid && row.userID=session.userID && row.live (unix now) && row.revokedAt=0 &&
      row.version=session.version && row.userAuthVersion=session.userAuthVersion) fun rows =>
      next (rows.length=1)

def loadUserSession (sid : String) (next : GetResult → Code) : Code :=
  readClock fun started =>
    query (fun row => row.sid=sid) fun rows =>
      match rows.head? with
      | none => next .failed
      | some session =>
        readClock fun now =>
          if session.status≠.active ∨ session.revokedAt≠0 ∨ session.expiresAt≤unix now then
            writeUserSessionCache config { session.cacheEntry with status := .revoked } none .other fun _ => next .inactive
          else
            writeUserSessionCache config session.cacheEntry (some (started+config.cacheTTL)) .other fun
              | .stale => confirmUserSessionActiveSnapshot session fun confirmed =>
                next (if confirmed then .session session else .inactive)
              | .inactive => next .inactive
              | .written => next (.session session)
              | .invalid => next (.session session)

def getUserSessionCached (sid : String) (next : GetResult → Code) : Code :=
  if sid="" then next .failed
  else .call (.cached sid) fun entry : Option CacheEntry =>
    match entry with
    | none => loadUserSession config sid next
    | some entry =>
      if !entry.valid sid then loadUserSession config sid next
      else readClock fun now =>
        if entry.status≠.active ∨ entry.revokedAt≠0 ∨ entry.expiresAt≤unix now then next .inactive
        else next (.session entry.session)

def rotateAttempts (userID : Nat) (sid presentedHash nextHash : String) (now graceSeconds : Int) (next : Rotation → Code) :
    Nat → Code
  | 0 => next { result := .refreshInvalid }
  | attempts+1 =>
    readClock fun started =>
      query (fun row => row.sid=sid && row.userID=userID) fun rows =>
        match rows.head? with
        | none => next { result := .invalid }
        | some session =>
          let judged := some (session,now)
          if session.status≠.active ∨ session.revokedAt≠0 ∨ session.expiresAt≤now then
            next { result := .inactive, judged := judged }
          else if session.refreshHash=presentedHash then
            update (fun row => row.sid=sid && row.userID=userID && row.live now && row.revokedAt=0 &&
                row.refreshHash=presentedHash) (.rotate nextHash now graceSeconds) fun changed =>
              if changed=[] then
                rotateAttempts userID sid presentedHash nextHash now graceSeconds next attempts
              else
                let rotated := session.rotate nextHash now graceSeconds
                writeUserSessionCache config rotated.cacheEntry (some (started+config.cacheTTL)) .other fun
                  | .stale => confirmUserSessionActiveSnapshot rotated fun confirmed =>
                    next { result := if confirmed then .rotated rotated else .inactive, judged := judged }
                  | .inactive => next { result := .inactive, judged := judged }
                  | .written => next { result := .rotated rotated, judged := judged }
                  | .invalid => next { result := .rotated rotated, judged := judged }
          else if session.previousRefreshHash="" ∨ session.previousRefreshHash≠presentedHash then
            next { result := .refreshInvalid, judged := judged }
          else if now ≤ session.previousValidUntil then next { result := .race session, judged := judged }
          else
            writeUserSessionDenyFence config session now "refresh_reuse" .fence fun
              | .written =>
                update (fun row => row.sid=sid && row.userID=userID && row.live now && row.revokedAt=0)
                    (.revoke now "refresh_reuse") fun changed =>
                  if changed=[] then next { result := .inactive, judged := judged }
                  else
                    writeUserSessionCache config (session.revoke now "refresh_reuse").cacheEntry none .final fun _ =>
                      next { result := .reuse, judged := judged }
              | _ => next { result := .inactive, judged := judged }

def rotateUserSessionRefresh (userID : Nat) (sid presentedHash nextHash : String) (now graceSeconds : Int)
    (next : Rotation → Code) : Code :=
  if userID=0 ∨ sid="" ∨ presentedHash="" ∨ nextHash="" ∨ presentedHash=nextHash ∨ graceSeconds<0 then
    next { result := .invalid }
  else if now≤0 then
    readClock fun clock => rotateAttempts config userID sid presentedHash nextHash (unix clock) graceSeconds next 3
  else rotateAttempts config userID sid presentedHash nextHash now graceSeconds next 3

def revokeUserSession (userID : Nat) (sid reason : String) (next : Bool → Code) : Code :=
  if userID=0 ∨ sid="" then next false
  else
    readClock fun started =>
      query (fun row => row.sid=sid && row.userID=userID) fun rows =>
        match rows.head? with
        | none => next false
        | some candidate =>
          if candidate.status≠.active ∨ candidate.revokedAt≠0 ∨ candidate.expiresAt≤unix started then next false
          else
            writeUserSessionDenyFence config candidate (unix started) reason .other fun
              | .written =>
                update (fun row => row.sid=sid && row.userID=userID && row.live (unix started) && row.revokedAt=0)
                    (.revoke (unix started) reason) fun changed =>
                  if changed=[] then next false
                  else
                    writeUserSessionCache config (candidate.revoke (unix started) reason).cacheEntry none .final fun _ =>
                      next true
              | _ => next false

def revokeUserSessionByRefreshHash (sid presentedHash reason : String) (next : Bool → Code) : Code :=
  if sid="" ∨ presentedHash="" then next false
  else
    readClock fun started =>
      query (fun row => row.sid=sid) fun rows =>
        match rows.head? with
        | none => next false
        | some session =>
          if session.status≠.active ∨ session.revokedAt≠0 ∨ session.expiresAt≤unix started then next false
          else if session.refreshHash≠presentedHash ∧ (session.previousRefreshHash="" ∨
              session.previousValidUntil<unix started ∨ session.previousRefreshHash≠presentedHash) then next false
          else
            writeUserSessionDenyFence config session (unix started) reason .other fun
              | .written =>
                update (fun row => row=session) (.revoke (unix started) reason) fun changed =>
                  if changed=[] then next false
                  else
                    writeUserSessionCache config (session.revoke (unix started) reason).cacheEntry none .other fun _ =>
                      next true
              | _ => next false

def advanceUserSessionAuthVersion (userID : Nat) (sid : String)
    (expectedSessionVersion expectedUserAuthVersion nextUserAuthVersion : Int) (next : Option UserSession → Code) : Code :=
  if userID=0 ∨ sid="" ∨ expectedSessionVersion≤0 ∨ expectedUserAuthVersion≤0 ∨
      nextUserAuthVersion≤expectedUserAuthVersion then next none
  else
    readClock fun started =>
      readClock fun now =>
        update (fun row => row.sid=sid && row.userID=userID && row.live (unix now) &&
            row.version=expectedSessionVersion && row.userAuthVersion=expectedUserAuthVersion)
            (.advanceAuth nextUserAuthVersion (unix now)) fun changed =>
          match changed.head? with
          | none => next none
          | some row =>
            let session := row.advanceAuth nextUserAuthVersion (unix now)
            writeUserSessionCache config session.cacheEntry (some (started+config.cacheTTL)) .other fun
              | .stale => confirmUserSessionActiveSnapshot session fun confirmed =>
                next (if confirmed then some session else none)
              | .inactive => next none
              | .written => next (some session)
              | .invalid => next none

def denyFences (now : Int) (reason : String) (next : Code) : List UserSession → Code
  | [] => next
  | session::sessions =>
    writeUserSessionDenyFence config session now reason .other fun _ => denyFences now reason next sessions

def tombstones (now : Int) (reason : String) (next : Code) : List UserSession → Code
  | [] => next
  | session::sessions =>
    writeUserSessionCache config (session.revoke now reason).cacheEntry none .other fun _ => tombstones now reason next sessions

/-- The loop of `revokeUserSessions`, for as many rounds as a run lets it make. -/
def revokeRounds (userID : Nat) (excludedSID reason : String) (now : Int) : Nat → List String → Code
  | 0, revoked => .returned { revoked := revoked, running := true }
  | rounds+1, revoked =>
    query (fun row => row.userID=userID && row.live now && (excludedSID="" || row.sid≠excludedSID)) fun rows =>
      let candidates := (rows.insertionSort fun a b => a.sid≤b.sid).take userSessionRevokeBatchSize
      if candidates=[] then .returned { revoked := revoked }
      else
        denyFences config now reason
          (update (fun row => row.sid∈candidates.map (·.sid) && row.status=.active) (.revoke now reason) fun changed =>
            tombstones config now reason (revokeRounds userID excludedSID reason now rounds (revoked++changed.map (·.sid)))
              changed)
          candidates

def revokeUserSessions (userID : Nat) (excludedSID reason : String) (rounds : Nat) : Code :=
  if userID=0 then .returned {}
  else readClock fun now => revokeRounds config userID excludedSID reason (unix now) rounds []

/-- The evictions of an admission, which still has to make `left` of them. -/
def evict (login : Login) (next : List UserSession → Code) : Nat → List UserSession → Code
  | 0, evicted => next evicted
  | left+1, evicted =>
    query (fun row => row.userID=login.userID && row.live login.now && !(evicted.any fun e => e.sid=row.sid)) fun rows =>
      match rows.argmin (·.age) with
      | none => .returned {}
      | some candidate =>
        writeUserSessionDenyFence config candidate login.now "login_session_auto_evicted" .other fun
          | .written => evict login next left (evicted++[candidate])
          | _ => .returned {}

@[irreducible] def createUserSessionWithLimits (login : Login) : Code :=
  if !login.valid then .returned {}
  else
    .call (.user login.userID login.userAuthVersion) fun view : Option UserView =>
      if !(view.any fun view => view.enabled && view.authVersion=login.userAuthVersion) then .returned {}
      else
        query (fun row => row.userID=login.userID && login.now-config.limits.userSessionIssuanceWindowSeconds<row.createdAt)
          fun issued =>
            if 0<config.limits.userSessionIssuanceLimit ∧ config.limits.userSessionIssuanceLimit ≤ issued.length then
              .returned {}
            else
              query (fun row => row.userID=login.userID && row.live login.now) fun active =>
                evict config login (fun evicted =>
                  .call (.enroll evicted login.now login.session) fun admitted : Bool =>
                    if !admitted then .returned {}
                    else
                      let revoked := evicted.map (·.sid)
                      tombstones config login.now "login_session_auto_evicted"
                        (.call (.clock (some login.sid)) fun late : Int =>
                          writeUserSessionCache config login.session.cacheEntry (some (late+config.cacheTTL)) .other fun
                            | .stale => confirmUserSessionActiveSnapshot login.session fun confirmed =>
                              .returned { session := if confirmed then some login.session else none, revoked := revoked }
                            | .inactive => .returned { revoked := revoked }
                            | .written => .returned { session := some login.session, revoked := revoked }
                            | .invalid => .returned { session := some login.session, revoked := revoked })
                        evicted)
                  ((active.length-config.limits.userSessionActiveLimit+1 : Int).toNat) []

def splitRefreshToken (raw : String) : Option (String×String) :=
  match cut (trimSpace raw) '.' with
  | none => none
  | some (sid,secret) =>
    if sid="" ∨ secret="" ∨ contains secret "." then none
    else if !config.isUUID sid then none
    else some (sid,secret)

def hashRefreshSecret (secret : String) : String := config.refreshDigest secret

def deriveNextRefreshSecret (sid currentSecret : String) : String := config.refreshRotateDigest (sid++"." ++ currentSecret)

def refreshReplayWindow : Int := 30

def Rotation.refreshResult (rotation : Rotation) (sid nextSecret : String) : SessionResult :=
  match rotation.result with
  | .rotated session => { session := some session, refreshed := some nextSecret }
  | .race session =>
    if hashRefreshSecret config nextSecret=session.refreshHash then
      { session := some session, refreshed := some nextSecret }
    else { error := some .race }
  | .reuse => { revoked := [sid], error := some .revoked }
  | .refreshInvalid => { error := some .tokenInvalid }
  | .inactive => { error := some .failed }
  | .invalid => { error := some .failed }

@[irreducible] def refreshLoginSession (rawRefreshToken expectedSID : String) : Code :=
  match splitRefreshToken config rawRefreshToken with
  | none => .returned { error := some .tokenInvalid }
  | some (sid,secret) =>
    if trimSpace expectedSID≠"" ∧ trimSpace expectedSID≠sid then .returned { error := some .mismatch }
    else
      getUserSessionCached config sid fun
        | .failed => .returned { error := some .tokenInvalid }
        | .inactive => .returned { error := some .revoked }
        | .session session =>
          readClock fun now =>
            if session.status≠.active ∨ session.revokedAt≠0 ∨ session.expiresAt≤unix now then
              .returned { error := some .revoked }
            else
              .call (.user session.userID session.userAuthVersion) fun userCache : Option UserView =>
                match userCache with
                | none => .returned { error := some .failed }
                | some userCache =>
                  .call (.user session.userID session.userAuthVersion) fun currentUser : Option UserView =>
                    match currentUser with
                    | none => .returned { error := some .failed }
                    | some currentUser =>
                      if !userCache.enabled ∨ userCache.authVersion≠session.userAuthVersion ∨ !currentUser.enabled ∨
                          currentUser.authVersion≠session.userAuthVersion then
                        revokeUserSession config session.userID session.sid "user_security_changed" fun revoked =>
                          .returned { revoked := if revoked then [session.sid] else [], error := some .revoked }
                      else
                        let nextSecret := deriveNextRefreshSecret config sid secret
                        readClock fun now =>
                          rotateUserSessionRefresh config session.userID sid (hashRefreshSecret config secret)
                            (hashRefreshSecret config nextSecret) (unix now) refreshReplayWindow fun rotation =>
                              .returned { rotation.refreshResult config sid nextSecret with judged := rotation.judged }

@[irreducible] def revokeByRefreshToken (rawRefreshToken expectedSID reason : String) : Code :=
  match splitRefreshToken config rawRefreshToken with
  | none => .returned {}
  | some (sid,secret) =>
    if trimSpace expectedSID≠"" ∧ trimSpace expectedSID≠sid then .returned { error := some .mismatch }
    else
      revokeUserSessionByRefreshHash config sid (hashRefreshSecret config secret) reason fun revoked =>
        .returned { revoked := if revoked then [sid] else [] }

inductive SessionCall where
  | create (login : Login)
  | get (sid : String)
  | rotate (userID : Nat) (sid presentedHash nextHash : String) (now graceSeconds : Int)
  | advance (userID : Nat) (sid : String) (expectedSessionVersion expectedUserAuthVersion nextUserAuthVersion : Int)
  | revoke (userID : Nat) (sid reason : String)
  | revokeAll (userID : Nat) (excludedSID reason : String) (rounds : Nat)
  | refresh (rawRefreshToken expectedSID : String)
  | revokeByToken (rawRefreshToken expectedSID reason : String)
  deriving DecidableEq

def SessionCall.program : SessionCall → Code
  | create login => createUserSessionWithLimits config login
  | get sid =>
    getUserSessionCached config sid fun
      | .session session => .returned { session := some session }
      | .inactive => .returned {}
      | .failed => .returned {}
  | rotate userID sid presentedHash nextHash now graceSeconds =>
    rotateUserSessionRefresh config userID sid presentedHash nextHash now graceSeconds fun rotation =>
      .returned (match rotation.result with
        | .rotated session => { session := some session }
        | .race session => { session := some session, error := some .race }
        | .reuse => { revoked := [sid], error := some .revoked }
        | .refreshInvalid => { error := some .tokenInvalid }
        | .inactive => { error := some .failed }
        | .invalid => { error := some .failed })
  | advance userID sid expectedSessionVersion expectedUserAuthVersion nextUserAuthVersion =>
    advanceUserSessionAuthVersion config userID sid expectedSessionVersion expectedUserAuthVersion nextUserAuthVersion
      fun session => .returned { session := session }
  | revoke userID sid reason =>
    revokeUserSession config userID sid reason fun revoked => .returned { revoked := if revoked then [sid] else [] }
  | revokeAll userID excludedSID reason rounds => revokeUserSessions config userID excludedSID reason rounds
  | refresh rawRefreshToken expectedSID => refreshLoginSession config rawRefreshToken expectedSID
  | revokeByToken rawRefreshToken expectedSID reason => revokeByRefreshToken config rawRefreshToken expectedSID reason

end Calls

end NewApi.Sessions
