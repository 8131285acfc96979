import Mathlib.Data.List.MinMax
import NewApi.Lib.Keyed
import NewApi.Lib.Runs
import NewApi.Sessions.Model

/-! The limits on the sessions of a user (`CreateUserSessionWithLimits`). The transaction of an admission holds the row of its user,
so that a user has one open admission at most; the statements of other calls run between any two of its steps, and wait for the
rows that it has locked. -/
namespace NewApi.Sessions
open List Runs

structure SessionLimits where
  userSessionActiveLimit : Int
  userSessionIssuanceLimit : Int
  userSessionIssuanceWindowSeconds : Int
  userSessionRevokedRetentionDays : Int

inductive AdmissionPhase where
  | locked | issued
  | evicting (activeCount : Int)

structure Admission where
  login : Login
  phase : AdmissionPhase := .locked
  evicted : List UserSession := []

/-- The table of sessions, the open admissions, every session created so far, and the times of the cleanup's deletions. -/
structure SessionStore where
  rows : List UserSession := []
  admissions : Nat → Option Admission := fun _ => none
  created : List UserSession := []
  cleanups : List Int := []

/-- What the environment decides at a step of an admission: is the user enabled at the auth version of the login, and does the
statement or the deny fence fail? -/
structure AdmissionChoice where
  userOk : Bool := true
  fails : Bool := false

inductive SessionOp where
  | login (l : Login)
  | advance (userID : Nat) (c : AdmissionChoice)
  | revoke (sids : List String) (now : Int) (reason : String)
  | rotate (sid : String) (presentedHash nextHash : String) (now graceSeconds : Int)
  | advanceAuth (sid : String) (version userAuthVersion nextUserAuthVersion now : Int)
  | deleteExpired (sids : List String) (now : Int)
  | deleteRevoked (sids : List String) (now : Int)

def issuedSince (rows : List UserSession) (userID : Nat) (since : Int) : List UserSession :=
  rows.filter fun row => row.userID=userID && since<row.createdAt

def liveSessions (rows : List UserSession) (userID : Nat) (now : Int) : List UserSession :=
  rows.filter fun row => row.userID=userID && row.live now

namespace Admission
variable (a : Admission)

def evicts (row : UserSession) : Bool := row.userID=a.login.userID && a.evicted.any fun e => e.sid=row.sid

def visible (rows : List UserSession) : List UserSession :=
  (liveSessions rows a.login.userID a.login.now).filter fun row => !a.evicts row

def write (row : UserSession) : UserSession :=
  if a.evicts row then row.revoke a.login.now "login_session_auto_evicted" else row

end Admission

namespace SessionStore
variable (s : SessionStore)

def setAdmission (userID : Nat) (a : Option Admission) : SessionStore :=
  { s with admissions := Function.update s.admissions userID a }

def locked (row : UserSession) : Bool := (s.admissions row.userID).any fun a => a.evicts row

def writeRows (rows : UserSession → Bool) (set : UserSession → UserSession) : SessionStore :=
  if s.rows.any fun row => rows row && s.locked row then s
  else { s with rows := s.rows.map fun row => if rows row then set row else row }

def deleteRows (now : Int) (rows : UserSession → Bool) : SessionStore :=
  if s.rows.any fun row => rows row && s.locked row then s
  else { s with rows := s.rows.filter fun row => !rows row, cleanups := s.cleanups++[now] }

end SessionStore

variable (limits : SessionLimits)

def admissionStep (s : SessionStore) (userID : Nat) (c : AdmissionChoice) (a : Admission) : SessionStore :=
  if c.fails then s.setAdmission userID none
  else
    match a.phase with
    | .locked =>
      if !c.userOk then s.setAdmission userID none
      else if 0<limits.userSessionIssuanceLimit ∧ limits.userSessionIssuanceLimit ≤
          (issuedSince s.rows userID (a.login.now-limits.userSessionIssuanceWindowSeconds)).length then s.setAdmission userID none
      else s.setAdmission userID (some { a with phase := .issued })
    | .issued => s.setAdmission userID (some { a with phase := .evicting (liveSessions s.rows userID a.login.now).length })
    | .evicting activeCount =>
      if limits.userSessionActiveLimit≤activeCount then
        match (a.visible s.rows).argmin (·.age) with
        | none => s.setAdmission userID none
        | some candidate =>
          s.setAdmission userID (some { a with phase := .evicting (activeCount-1), evicted := a.evicted++[candidate] })
      else if s.rows.any fun row => row.sid=a.login.sid then s.setAdmission userID none
      else { s.setAdmission userID none with
             rows := s.rows.map a.write++[a.login.session], created := s.created++[a.login.session] }

def expiredRow (now : Int) (row : UserSession) : Bool :=
  row.expiresAt<now && row.createdAt≤now-limits.userSessionIssuanceWindowSeconds &&
    (row.status≠.revoked || row.revokedAt≤0 || row.revokedAt<now-limits.userSessionRevokedRetentionDays*24*60*60)

def revokedRow (now : Int) (row : UserSession) : Bool :=
  row.status=.revoked && 0<row.revokedAt && row.revokedAt<now-limits.userSessionRevokedRetentionDays*24*60*60 &&
    row.createdAt≤now-limits.userSessionIssuanceWindowSeconds

def cleanup (s : SessionStore) (sids : List String) (now : Int) (rows : UserSession → Bool) : SessionStore :=
  if limits.userSessionRevokedRetentionDays≤0 ∨ limits.userSessionIssuanceWindowSeconds≤0 then s
  else s.deleteRows now fun row => row.sid∈sids && rows row

def sessionStep (s : SessionStore) : SessionOp → SessionStore
  | .login l =>
    if l.valid ∧ s.admissions l.userID=none then s.setAdmission l.userID (some { login := l }) else s
  | .advance userID c =>
    match s.admissions userID with
    | some a => admissionStep limits s userID c a
    | none => s
  | .revoke sids now reason =>
    s.writeRows (fun row => row.sid∈sids && row.status=.active) (·.revoke now reason)
  | .rotate sid presentedHash nextHash now graceSeconds =>
    s.writeRows (fun row => row.sid=sid && row.live now && row.revokedAt=0 && row.refreshHash=presentedHash)
      (·.rotate nextHash now graceSeconds)
  | .advanceAuth sid version userAuthVersion nextUserAuthVersion now =>
    s.writeRows (fun row => row.sid=sid && row.live now && row.version=version && row.userAuthVersion=userAuthVersion)
      (·.advanceAuth nextUserAuthVersion now)
  | .deleteExpired sids now => cleanup limits s sids now (expiredRow limits now)
  | .deleteRevoked sids now => cleanup limits s sids now (revokedRow limits now)

section Limits
variable {limits : SessionLimits} {s : SessionStore} {a : Admission} {userID : Nat}

def issuedWithin (limits : SessionLimits) (created : List UserSession) (userID : Nat) (t : Int) : List UserSession :=
  created.filter fun row =>
    row.userID=userID && t-limits.userSessionIssuanceWindowSeconds<row.createdAt && row.createdAt≤t

/-- What an open admission knows: fewer sessions than the limit were issued in its window, no more sessions are live than it has
counted, and those it has evicted are older than those it has not. -/
structure AdmissionSound (limits : SessionLimits) (s : SessionStore) (a : Admission) : Prop where
  issued : a.phase≠.locked → 0<limits.userSessionIssuanceLimit →
    ((issuedSince s.created a.login.userID (a.login.now-limits.userSessionIssuanceWindowSeconds)).length : Int) <
      limits.userSessionIssuanceLimit
  counted : ∀ activeCount, a.phase=.evicting activeCount → ((a.visible s.rows).length : Int)≤activeCount
  oldest : ∀ e∈a.evicted, ∀ row∈a.visible s.rows, e.age≤row.age
  live : ∀ e∈a.evicted, e.userID=a.login.userID ∧ e.live a.login.now=true

structure StoreSound (limits : SessionLimits) (s : SessionStore) : Prop where
  window : 0<limits.userSessionIssuanceLimit → ∀ userID t,
    ((issuedWithin limits s.created userID t).length : Int)≤limits.userSessionIssuanceLimit
  kept : ∀ userID since, (∀ at'∈s.cleanups, at'-limits.userSessionIssuanceWindowSeconds ≤ since) →
    (issuedSince s.created userID since).length≤(issuedSince s.rows userID since).length
  user : ∀ userID, ∀ a∈s.admissions userID, a.login.userID=userID
  admission : ∀ userID, ∀ a∈s.admissions userID, AdmissionSound limits s a

theorem AdmissionSound.of_sublist {s' : SessionStore} (h : AdmissionSound limits s a)
    (hcreated : issuedSince s'.created a.login.userID (a.login.now-limits.userSessionIssuanceWindowSeconds) =
      issuedSince s.created a.login.userID (a.login.now-limits.userSessionIssuanceWindowSeconds))
    (hrows : ((a.visible s'.rows).map (·.age)).Sublist ((a.visible s.rows).map (·.age))) : AdmissionSound limits s' a where
  issued hphase hlimit := by
    rw [hcreated]
    exact h.issued hphase hlimit
  counted activeCount hphase := by
    have hlength := hrows.length_le
    rw [length_map,length_map] at hlength
    exact le_trans (Int.ofNat_le.mpr hlength) (h.counted activeCount hphase)
  oldest e he row hrow := by
    obtain ⟨old,hold,hage⟩ := mem_map.mp (hrows.subset (mem_map_of_mem hrow))
    rw [← hage]
    exact h.oldest e he old hold
  live := h.live

theorem Admission.visible_eq (a : Admission) (rows : List UserSession) : a.visible rows =
    rows.filter fun row => !a.evicts row && (row.userID=a.login.userID && row.live a.login.now) := by
  rw [Admission.visible,liveSessions,filter_filter]

structure Ages (set : UserSession → UserSession) : Prop where
  sid : ∀ row, (set row).sid=row.sid
  userID : ∀ row, (set row).userID=row.userID
  createdAt : ∀ row, (set row).createdAt=row.createdAt
  live : ∀ row now, (set row).live now=true → row.live now=true

theorem Ages.ite {set : UserSession → UserSession} (h : Ages set) (rows : UserSession → Bool) :
    Ages fun row => if rows row then set row else row where
  sid row := by
    split
    · exact h.sid row
    · rfl
  userID row := by
    split
    · exact h.userID row
    · rfl
  createdAt row := by
    split
    · exact h.createdAt row
    · rfl
  live row now := by
    split
    · exact h.live row now
    · exact id

theorem Ages.revoke (now : Int) (reason : String) : Ages (·.revoke now reason) where
  sid _ := rfl
  userID _ := rfl
  createdAt _ := rfl
  live row now' h := by
    simp only [UserSession.live,UserSession.revoke,Bool.and_eq_true] at h
    cases h.1

theorem Ages.rotate (nextHash : String) (now graceSeconds : Int) : Ages (·.rotate nextHash now graceSeconds) :=
  ⟨fun _ => rfl,fun _ => rfl,fun _ => rfl,fun _ _ => id⟩

theorem Ages.advanceAuth (nextUserAuthVersion now : Int) : Ages (·.advanceAuth nextUserAuthVersion now) :=
  ⟨fun _ => rfl,fun _ => rfl,fun _ => rfl,fun _ _ => id⟩

theorem Ages.visible_sublist {set : UserSession → UserSession} (h : Ages set) (a : Admission) (rows : List UserSession) :
    ((a.visible (rows.map set)).map (·.age)).Sublist ((a.visible rows).map (·.age)) := by
  rw [a.visible_eq,a.visible_eq]
  apply Keyed.filter_map_sublist
  · intro row hrow
    simp only [Admission.evicts,h.sid,h.userID,Bool.and_eq_true] at hrow ⊢
    exact ⟨hrow.1,hrow.2.1,h.live row _ hrow.2.2⟩
  · intro row
    simp only [UserSession.age,h.sid,h.createdAt]

theorem Ages.issuedSince_length {set : UserSession → UserSession} (h : Ages set) (rows : List UserSession) (userID : Nat)
    (since : Int) : (issuedSince (rows.map set) userID since).length=(issuedSince rows userID since).length := by
  have hcomp : ((fun row : UserSession => decide (row.userID=userID) && decide (since<row.createdAt)) ∘ set) =
      fun row => decide (row.userID=userID) && decide (since<row.createdAt) := by
    funext row
    simp only [Function.comp_apply,h.userID,h.createdAt]
  rw [issuedSince,filter_map,hcomp,length_map,issuedSince]

section
variable (h : StoreSound limits s)
include h

theorem StoreSound.writeRows {set : UserSession → UserSession} (hset : Ages set)
    (rows : UserSession → Bool) : StoreSound limits (s.writeRows rows set) := by
  unfold SessionStore.writeRows
  split
  · exact h
  exact {
    window := h.window
    kept := fun userID since hsince => by
      rw [(hset.ite rows).issuedSince_length]
      exact h.kept userID since hsince
    user := h.user
    admission := fun userID a ha => (h.admission userID a ha).of_sublist rfl ((hset.ite rows).visible_sublist a s.rows) }

theorem StoreSound.deleteRows {now : Int} {rows : UserSession → Bool}
    (hrows : ∀ row, rows row=true → row.createdAt≤now-limits.userSessionIssuanceWindowSeconds) :
    StoreSound limits (s.deleteRows now rows) := by
  unfold SessionStore.deleteRows
  split
  · exact h
  exact {
    window := h.window
    kept := fun userID since hsince => by
      have hnow : now-limits.userSessionIssuanceWindowSeconds ≤ since :=
        hsince now (mem_append_right _ (mem_singleton_self now))
      have hsame : issuedSince (s.rows.filter fun row => !rows row) userID since=issuedSince s.rows userID since := by
        rw [issuedSince,filter_filter,issuedSince]
        apply filter_congr
        intro row _
        by_cases hlate : since<row.createdAt
        · have hkeep : rows row=false := by
            rw [Bool.eq_false_iff]
            intro hrow
            have hold := hrows row hrow
            omega
          simp only [hkeep,Bool.not_false,Bool.and_true]
        · simp only [hlate,decide_false,Bool.and_false,Bool.false_and]
      rw [hsame]
      exact h.kept userID since fun at' hat => hsince at' (mem_append_left _ hat)
    user := h.user
    admission := fun userID a ha => (h.admission userID a ha).of_sublist rfl (by
      rw [a.visible_eq,a.visible_eq]
      exact (filter_sublist.filter _).map _) }

theorem StoreSound.close (userID : Nat) : StoreSound limits (s.setAdmission userID none) where
  window := h.window
  kept := h.kept
  user userID' a ha := by
    by_cases hid : userID'=userID
    · simp [SessionStore.setAdmission,hid] at ha
    · exact h.user userID' a (by simpa [SessionStore.setAdmission,hid] using ha)
  admission userID' a ha := by
    by_cases hid : userID'=userID
    · simp [SessionStore.setAdmission,hid] at ha
    · exact (h.admission userID' a (by simpa [SessionStore.setAdmission,hid] using ha)).of_sublist rfl (List.Sublist.refl _)

theorem StoreSound.set (huser : a.login.userID=userID) (ha : AdmissionSound limits s a) :
    StoreSound limits (s.setAdmission userID (some a)) where
  window := h.window
  kept := h.kept
  user userID' a' ha' := by
    by_cases hid : userID'=userID
    · have haa : a=a' := by simpa [SessionStore.setAdmission,hid] using ha'
      rw [← haa,huser,hid]
    · exact h.user userID' a' (by simpa [SessionStore.setAdmission,hid] using ha')
  admission userID' a' ha' := by
    by_cases hid : userID'=userID
    · have haa : a=a' := by simpa [SessionStore.setAdmission,hid] using ha'
      rw [← haa]
      exact ha.of_sublist rfl (List.Sublist.refl _)
    · exact (h.admission userID' a' (by simpa [SessionStore.setAdmission,hid] using ha')).of_sublist rfl (List.Sublist.refl _)

end

theorem AdmissionSound.evict {activeCount : Int} {candidate : UserSession} (h : AdmissionSound limits s a)
    (hphase : a.phase=.evicting activeCount) (hmin : (a.visible s.rows).argmin (·.age)=some candidate) :
    AdmissionSound limits s { a with phase := .evicting (activeCount-1), evicted := a.evicted++[candidate] } := by
  have hmem : candidate∈a.visible s.rows := argmin_mem hmin
  have hcandidate : candidate.userID=a.login.userID ∧ candidate.live a.login.now=true := by
    rw [a.visible_eq,mem_filter] at hmem
    simp only [Bool.and_eq_true,decide_eq_true_eq] at hmem
    exact hmem.2.2
  have hvisible : Admission.visible { a with phase := .evicting (activeCount-1), evicted := a.evicted++[candidate] } s.rows =
      (a.visible s.rows).filter fun row => row.sid≠candidate.sid := by
    rw [Admission.visible,Admission.visible,filter_filter]
    apply filter_congr
    intro row hrow
    have huser : row.userID=a.login.userID := by
      simp only [liveSessions,mem_filter,Bool.and_eq_true,decide_eq_true_eq] at hrow
      exact hrow.2.1
    simp only [Admission.evicts,huser,decide_true,Bool.true_and,any_append,any_cons,any_nil,Bool.or_false,
      Bool.not_or,ne_eq,decide_not,Bool.and_comm,eq_comm]
  constructor
  · intro _ hlimit
    exact h.issued (by rw [hphase]; exact nofun) hlimit
  · intro n hn
    have hcount := h.counted activeCount hphase
    have hless : ((a.visible s.rows).filter fun row => row.sid≠candidate.sid).length<(a.visible s.rows).length := by
      apply length_filter_lt_length_iff_exists.mpr
      exact ⟨candidate,hmem,by simp⟩
    obtain rfl : activeCount-1=n := by simpa using hn
    rw [hvisible]
    omega
  · intro e he row hrow
    rw [hvisible] at hrow
    have hold := (mem_filter.mp hrow).1
    obtain he | he := mem_append.mp he
    · exact h.oldest e he row hold
    rw [mem_singleton.mp he]
    exact le_of_mem_argmin hold hmin
  · intro e he
    obtain he | he := mem_append.mp he
    · exact h.live e he
    rw [mem_singleton.mp he]
    exact hcandidate

theorem Admission.write_ages (a : Admission) : Ages a.write :=
  (Ages.revoke a.login.now "login_session_auto_evicted").ite a.evicts

theorem issuedSince_append (rows more : List UserSession) (userID : Nat) (since : Int) :
    issuedSince (rows++more) userID since=issuedSince rows userID since++issuedSince more userID since := filter_append ..

theorem StoreSound.enroll (h : StoreSound limits s) (huser : a.login.userID=userID)
    (ha : AdmissionSound limits s a) (hphase : a.phase≠.locked) :
    StoreSound limits { s.setAdmission userID none with
      rows := s.rows.map a.write++[a.login.session], created := s.created++[a.login.session] } where
  window hlimit userID' t := by
    have hold := h.window hlimit userID' t
    have hroom := ha.issued hphase hlimit
    simp only [issuedWithin,filter_append,length_append]
    by_cases hin : (a.login.session.userID=userID' && t-limits.userSessionIssuanceWindowSeconds<a.login.session.createdAt &&
        a.login.session.createdAt≤t)=true
    · have hsub : (issuedWithin limits s.created userID' t).length ≤
          (issuedSince s.created a.login.userID (a.login.now-limits.userSessionIssuanceWindowSeconds)).length := by
        simp only [Bool.and_eq_true,decide_eq_true_eq] at hin
        have hcreated : a.login.session.createdAt=a.login.now := rfl
        have hid : a.login.userID=userID' := hin.1.1
        apply (monotone_filter_right s.created _).length_le
        intro row hrow
        simp only [Bool.and_eq_true,decide_eq_true_eq] at hrow ⊢
        constructor
        · rw [hid]
          exact hrow.1.1
        · omega
      rw [filter_cons,if_pos hin]
      simp only [issuedWithin,filter_nil,length_singleton] at hsub ⊢
      omega
    · rw [filter_cons,if_neg hin]
      simp only [issuedWithin,filter_nil,length_nil] at hold ⊢
      omega
  kept userID' since hsince := by
    have hold := h.kept userID' since hsince
    rw [issuedSince_append,issuedSince_append,length_append,length_append,a.write_ages.issuedSince_length]
    omega
  user := (h.close userID).user
  admission userID' a' ha' := by
    have hother : userID'≠userID := by
      rintro rfl
      simp [SessionStore.setAdmission] at ha'
    have hold : a'∈s.admissions userID' := by simpa [SessionStore.setAdmission,hother] using ha'
    have hne : a.login.session.userID≠a'.login.userID := by
      have hid := h.user userID' a' hold
      rw [hid]
      exact fun he => hother (he.symm.trans huser)
    apply (h.admission userID' a' hold).of_sublist
    · rw [issuedSince_append]
      simp [issuedSince,hne]
    · rw [a'.visible_eq,filter_append,← a'.visible_eq]
      simp only [hne,filter_cons,filter_nil,decide_false,Bool.false_and,Bool.and_false,Bool.false_eq_true,if_false,
        append_nil]
      exact a.write_ages.visible_sublist a' s.rows

/-- Every deletion of the cleanup so far was made for a time that has come when the admission counts the sessions issued. -/
def InOrder (s : SessionStore) : SessionOp → Prop
  | .advance userID _ => ∀ a∈s.admissions userID, a.phase=.locked → ∀ at'∈s.cleanups, at'≤a.login.now
  | .login _ | .revoke _ _ _ | .rotate _ _ _ _ _ | .advanceAuth _ _ _ _ _ | .deleteExpired _ _ | .deleteRevoked _ _ => True

theorem AdmissionSound.begin (s : SessionStore) (l : Login) : AdmissionSound limits s { login := l } where
  issued h := absurd rfl h
  counted _ h := by cases h
  oldest _ h := absurd h not_mem_nil
  live _ h := absurd h not_mem_nil

theorem StoreSound.admissionStep (h : StoreSound limits s) (ha : a∈s.admissions userID) (c : AdmissionChoice)
    (horder : a.phase=.locked → ∀ at'∈s.cleanups, at'≤a.login.now) : StoreSound limits (admissionStep limits s userID c a) := by
  have huser := h.user userID a ha
  have hsound := h.admission userID a ha
  unfold Sessions.admissionStep
  split
  · exact h.close userID
  cases hphase : a.phase with
  | locked =>
    dsimp only
    split
    · exact h.close userID
    split
    · exact h.close userID
    rename_i hroom
    apply h.set
    · exact huser
    constructor
    · intro _ hlimit
      have hkept := h.kept a.login.userID (a.login.now-limits.userSessionIssuanceWindowSeconds) fun at' hat => by
        have hle := horder hphase at' hat
        omega
      rw [huser] at hkept ⊢
      have hlt := not_and.mp hroom hlimit
      dsimp only at hkept ⊢
      omega
    · exact fun _ => nofun
    · exact hsound.oldest
    · exact hsound.live
  | issued =>
    dsimp only
    apply h.set
    · exact huser
    constructor
    · intro _ hlimit
      exact hsound.issued (by rw [hphase]; exact nofun) hlimit
    · intro n hn
      obtain rfl : ((liveSessions s.rows userID a.login.now).length : Int)=n := by simpa using hn
      rw [← huser]
      exact Int.ofNat_le.mpr filter_sublist.length_le
    · exact hsound.oldest
    · exact hsound.live
  | evicting activeCount =>
    dsimp only
    split
    · cases hmin : (a.visible s.rows).argmin (·.age) with
      | none => exact h.close userID
      | some candidate => exact h.set huser (hsound.evict hphase hmin)
    split
    · exact h.close userID
    · exact h.enroll huser hsound (by rw [hphase]; exact nofun)

theorem StoreSound.cleanup (h : StoreSound limits s) (sids : List String) (now : Int) {rows : UserSession → Bool}
    (hrows : ∀ row, rows row=true → row.createdAt≤now-limits.userSessionIssuanceWindowSeconds) :
    StoreSound limits (cleanup limits s sids now rows) := by
  unfold Sessions.cleanup
  split
  · exact h
  apply h.deleteRows
  intro row hrow
  simp only [Bool.and_eq_true] at hrow
  exact hrows row hrow.2

theorem expiredRow_old {now : Int} {row : UserSession} (h : expiredRow limits now row=true) :
    row.createdAt≤now-limits.userSessionIssuanceWindowSeconds := by
  simp only [expiredRow,Bool.and_eq_true,decide_eq_true_eq] at h
  exact h.1.2

theorem revokedRow_old {now : Int} {row : UserSession} (h : revokedRow limits now row=true) :
    row.createdAt≤now-limits.userSessionIssuanceWindowSeconds := by
  simp only [revokedRow,Bool.and_eq_true,decide_eq_true_eq] at h
  exact h.2

theorem StoreSound.step (h : StoreSound limits s) {op : SessionOp} (horder : InOrder s op) :
    StoreSound limits (sessionStep limits s op) := by
  cases op with
  | login l =>
    simp only [sessionStep]
    split
    · exact h.set rfl (AdmissionSound.begin s l)
    · exact h
  | advance userID c =>
    simp only [sessionStep]
    cases ha : s.admissions userID with
    | none => exact h
    | some a => exact h.admissionStep ha c (horder a ha)
  | revoke sids now reason => exact h.writeRows (Ages.revoke now reason) _
  | rotate sid presentedHash nextHash now graceSeconds => exact h.writeRows (Ages.rotate nextHash now graceSeconds) _
  | advanceAuth sid version userAuthVersion nextUserAuthVersion now =>
    exact h.writeRows (Ages.advanceAuth nextUserAuthVersion now) _
  | deleteExpired sids now => exact h.cleanup sids now fun _ => expiredRow_old
  | deleteRevoked sids now => exact h.cleanup sids now fun _ => revokedRow_old

theorem run_storeSound {ops : List SessionOp} (h : Guarded (sessionStep limits) InOrder ops {}) :
    StoreSound limits (run (sessionStep limits) ops {}) := by
  have hempty : StoreSound limits {} := by
    constructor
    · intro hlimit userID t
      exact le_of_lt hlimit
    · intro userID since _
      exact le_rfl
    · exact fun _ _ => nofun
    · exact fun _ _ => nofun
  exact Guarded.invariant (fun _ _ hs hop => hs.step hop) hempty h

structure Admits (limits : SessionLimits) (s s' : SessionStore) (userID : Nat) (a : Admission) : Prop where
  opened : a ∈ s.admissions userID
  stepped : ∃ c, s'=sessionStep limits s (.advance userID c)
  created : s'.created=s.created++[a.login.session]

theorem Admits.cases {s' : SessionStore} (h : Admits limits s s' userID a) :
    ∃ activeCount, a.phase=.evicting activeCount ∧ activeCount<limits.userSessionActiveLimit ∧
      (∀ row∈s.rows, row.sid≠a.login.sid) ∧ s'.rows=s.rows.map a.write++[a.login.session] := by
  obtain ⟨hopen,⟨c,rfl⟩,hcreated⟩ := h
  have hnot : ∀ a', (s.setAdmission userID a').created≠s.created++[a.login.session] := by
    intro a' he
    have hlength := congrArg List.length he
    simp [SessionStore.setAdmission] at hlength
  simp only [sessionStep,Option.mem_def.mp hopen] at hcreated ⊢
  unfold Sessions.admissionStep at hcreated ⊢
  by_cases hfails : c.fails=true
  · rw [if_pos hfails] at hcreated
    exact absurd hcreated (hnot _)
  rw [if_neg hfails] at hcreated ⊢
  cases hphase : a.phase with
  | locked =>
    simp only [hphase] at hcreated
    split at hcreated
    · exact absurd hcreated (hnot _)
    split at hcreated
    · exact absurd hcreated (hnot _)
    · exact absurd hcreated (hnot _)
  | issued =>
    simp only [hphase] at hcreated
    exact absurd hcreated (hnot _)
  | evicting activeCount =>
    simp only [hphase] at hcreated ⊢
    by_cases hfull : limits.userSessionActiveLimit≤activeCount
    · rw [if_pos hfull] at hcreated
      split at hcreated
      · exact absurd hcreated (hnot _)
      · exact absurd hcreated (hnot _)
    · rw [if_neg hfull] at hcreated ⊢
      by_cases hsid : (s.rows.any fun row => row.sid=a.login.sid)=true
      · rw [if_pos hsid] at hcreated
        exact absurd hcreated (hnot _)
      · rw [if_neg hsid]
        refine ⟨activeCount,rfl,not_le.mp hfull,?_,rfl⟩
        intro row hrow he
        exact hsid (any_eq_true.mpr ⟨row,hrow,by simpa using he⟩)

theorem Admission.write_live (a : Admission) (rows : List UserSession) :
    ((liveSessions (rows.map a.write) a.login.userID a.login.now).map (·.age)).Sublist ((a.visible rows).map (·.age)) := by
  rw [a.visible_eq,liveSessions]
  apply Keyed.filter_map_sublist
  · intro row hrow
    simp only [a.write_ages.userID,Bool.and_eq_true] at hrow ⊢
    refine ⟨?_,hrow.1,a.write_ages.live row _ hrow.2⟩
    rw [Bool.not_eq_true']
    rw [Bool.eq_false_iff]
    intro hevicts
    rw [Admission.write,if_pos hevicts] at hrow
    simp [UserSession.live,UserSession.revoke] at hrow
  · intro row
    simp only [UserSession.age,a.write_ages.sid,a.write_ages.createdAt]

theorem Admits.limit {s' : SessionStore} (h : Admits limits s s' userID a) (hs : StoreSound limits s) :
    ((liveSessions s'.rows userID a.login.now).length : Int)≤limits.userSessionActiveLimit ∧
    (∀ e∈a.evicted, ∀ row∈liveSessions s'.rows userID a.login.now, row.sid≠a.login.sid → e.age≤row.age) ∧
    (∀ row∈s.rows, row∉s'.rows → ∃ e∈a.evicted, e.sid=row.sid) := by
  obtain ⟨activeCount,hphase,hless,-,hrows⟩ := h.cases
  have hsound := hs.admission userID a h.opened
  have hlive := a.write_live s.rows
  rw [hs.user userID a h.opened] at hlive
  have hsplit : liveSessions s'.rows userID a.login.now =
      liveSessions (s.rows.map a.write) userID a.login.now++liveSessions [a.login.session] userID a.login.now := by
    rw [hrows]
    exact filter_append ..
  refine ⟨?_,?_,?_⟩
  · have hlength := hlive.length_le
    rw [length_map,length_map] at hlength
    have hone : (liveSessions [a.login.session] userID a.login.now).length≤1 := length_filter_le _ _
    have hcount := hsound.counted activeCount hphase
    rw [hsplit,length_append]
    omega
  · intro e he row hrow hsid
    rw [hsplit,mem_append] at hrow
    obtain hrow | hrow := hrow
    · obtain ⟨old,hold,hage⟩ := mem_map.mp (hlive.subset (mem_map_of_mem hrow))
      rw [← hage]
      exact hsound.oldest e he old hold
    · have hnew := mem_singleton.mp (mem_of_mem_filter hrow)
      rw [hnew] at hsid
      exact absurd rfl hsid
  · intro row hrow hgone
    rw [hrows,mem_append,not_or] at hgone
    by_cases hevicts : a.evicts row=true
    · simp only [Admission.evicts,Bool.and_eq_true,any_eq_true,decide_eq_true_eq] at hevicts
      exact hevicts.2
    · have hsame : a.write row=row := if_neg hevicts
      exact absurd (hsame ▸ mem_map_of_mem hrow) hgone.1

theorem cleanup_spares {row : UserSession} (hrow : row∈s.rows) (sids : List String) {now : Int}
    (hlate : now-limits.userSessionIssuanceWindowSeconds<row.createdAt) {rows : UserSession → Bool}
    (hrows : ∀ row, rows row=true → row.createdAt≤now-limits.userSessionIssuanceWindowSeconds) :
    row∈(cleanup limits s sids now rows).rows := by
  unfold Sessions.cleanup
  split
  · exact hrow
  unfold SessionStore.deleteRows
  split
  · exact hrow
  apply mem_filter.mpr
  refine ⟨hrow,?_⟩
  rw [Bool.not_eq_true',Bool.eq_false_iff]
  intro hdelete
  have hold := hrows row (Bool.and_eq_true _ _ ▸ hdelete).2
  omega

/-- The limits of a user's sessions in every run whose times do not decrease. -/
theorem session_limits_hold (limits : SessionLimits) (hissuance : 0<limits.userSessionIssuanceLimit) (ops : List SessionOp)
    (h : Guarded (sessionStep limits) InOrder ops {}) :
    (∀ userID t, ((issuedWithin limits (run (sessionStep limits) ops {}).created userID t).length : Int) ≤
      limits.userSessionIssuanceLimit) ∧ (∀ userID a s', Admits limits (run (sessionStep limits) ops {}) s' userID a →
      ((liveSessions s'.rows userID a.login.now).length : Int)≤limits.userSessionActiveLimit ∧
      (∀ e∈a.evicted, ∀ row∈liveSessions s'.rows userID a.login.now, row.sid≠a.login.sid → e.age≤row.age) ∧
      (∀ row∈(run (sessionStep limits) ops {}).rows, row∉s'.rows → ∃ e∈a.evicted, e.sid=row.sid)) ∧
    (∀ row∈(run (sessionStep limits) ops {}).rows, ∀ sids now, now-limits.userSessionIssuanceWindowSeconds<row.createdAt →
        row∈(sessionStep limits (run (sessionStep limits) ops {}) (.deleteExpired sids now)).rows ∧
        row∈(sessionStep limits (run (sessionStep limits) ops {}) (.deleteRevoked sids now)).rows) := by
  have hsound := run_storeSound h
  refine ⟨hsound.window hissuance,fun userID a s' hadmits => hadmits.limit hsound,fun row hrow sids now hlate => ?_⟩
  constructor
  · exact cleanup_spares hrow sids hlate fun _ => expiredRow_old
  · exact cleanup_spares hrow sids hlate fun _ => revokedRow_old

def oneSession : SessionLimits :=
  { userSessionActiveLimit := 1, userSessionIssuanceLimit := 2, userSessionIssuanceWindowSeconds := 60
    userSessionRevokedRetentionDays := 1 }

def loginAt (sid : String) (now : Int) : Login :=
  { sid := sid, userID := 9, userAuthVersion := 1, refreshHash := "h", expiresAt := now+3600, now := now }

def threeLogins : List SessionOp :=
  [.login (loginAt "a" 100),.advance 9 {},.advance 9 {},.advance 9 {},
   .login (loginAt "b" 130),.advance 9 {},.advance 9 {},.advance 9 {},.advance 9 {},
   .login (loginAt "c" 159),.advance 9 {},.deleteExpired ["a", "b"] 160]

theorem third_login_refused : (run (sessionStep oneSession) threeLogins {}).rows.map (fun row => (row.sid,row.status)) =
      [("a",.revoked),("b",.active)] ∧
    ((issuedWithin oneSession (run (sessionStep oneSession) threeLogins {}).created 9 159).length : Int)≤2 := by
  constructor
  · decide +kernel
  apply (session_limits_hold oneSession (by decide) threeLogins _).1 9 159
  refine ⟨trivial,?_,?_,?_,trivial,?_,?_,?_,?_,trivial,?_,trivial,trivial⟩
  all_goals
    rintro a ⟨⟩ _ at' hat
    exact absurd hat not_mem_nil

end Limits

end NewApi.Sessions
