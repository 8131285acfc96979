import Mathlib.Data.Prod.Lex
import Mathlib.Data.String.Basic

/-! Login sessions (`model/user_session.go`). -/
namespace NewApi.Sessions

inductive SessionStatus where
  | active | revoking | revoked
  deriving DecidableEq

structure UserSession where
  sid : String
  userID : Nat
  version : Int := 1
  userAuthVersion : Int
  status : SessionStatus := .active
  refreshHash : String
  previousRefreshHash : String := ""
  previousValidUntil : Int := 0
  createdAt : Int
  lastActiveAt : Int
  expiresAt : Int
  revokedAt : Int := 0
  revokedReason : String := ""
  deriving DecidableEq

/-- The orders of pairs of a time and a name, under which their comparison can be computed. -/
instance ageOrder : LinearOrder (Lex (Int×String)) :=
  @Prod.Lex.instLinearOrder Int String Int.instLinearOrder String.instLinearOrder

instance agePreorder : Preorder (Lex (Int×String)) := ageOrder.toPreorder

namespace UserSession

/-- The rows that count as active: `status = 'active' AND expires_at > now`. -/
def live (session : UserSession) (now : Int) : Bool := session.status=.active && now<session.expiresAt

def age (session : UserSession) : Lex (Int×String) := toLex (session.createdAt,session.sid)

def revoke (session : UserSession) (now : Int) (reason : String) : UserSession :=
  { session with status := .revoked, revokedAt := now, revokedReason := reason }

def rotate (session : UserSession) (nextHash : String) (now graceSeconds : Int) : UserSession :=
  { session with
    previousRefreshHash := session.refreshHash
    previousValidUntil := now+graceSeconds
    refreshHash := nextHash
    lastActiveAt := now }

def advanceAuth (session : UserSession) (nextUserAuthVersion now : Int) : UserSession :=
  { session with version := session.version+1, userAuthVersion := nextUserAuthVersion, lastActiveAt := now }

end UserSession

/-- A session as a login hands it to `CreateUserSessionWithLimits`, created at the time of the login. -/
structure Login where
  sid : String
  userID : Nat
  userAuthVersion : Int
  refreshHash : String
  expiresAt : Int
  now : Int
  deriving DecidableEq

def Login.session (l : Login) : UserSession where
  sid := l.sid
  userID := l.userID
  userAuthVersion := l.userAuthVersion
  refreshHash := l.refreshHash
  createdAt := l.now
  lastActiveAt := l.now
  expiresAt := l.expiresAt

def Login.valid (l : Login) : Bool :=
  l.sid≠"" && l.userID≠0 && 0<l.userAuthVersion && l.refreshHash≠"" && l.now<l.expiresAt

end NewApi.Sessions
