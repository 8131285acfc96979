import NewApi.Sessions.Denial

/-! No lookup accepts a session after a call that revoked it has returned, as long as every login takes the deadline of its snapshot
while its session is active and no revocation ends in a tombstone that the cache refuses. -/
namespace NewApi.Sessions
open List Option Programs Threads Runs
open SessionCall (program)

variable (config : SessionConfig)

def Denied (s : AuthStore) (result : SessionResult) : Prop := ∀ sid∈result.revoked, Fenced config s sid

section Programs
variable {config} {s : AuthStore} {login : Login} {sid : String}

theorem Denied.mono {s' : AuthStore} {result : SessionResult} (hle : Evolves config s s') (h : Denied config s result) :
    Denied config s' result :=
  fun sid hsid => hle.fenced sid (h sid hsid)

theorem denied_nil {result : SessionResult} (h : result.revoked=[]) : Denied config s result := by
  intro sid hsid
  rw [h] at hsid
  cases hsid

theorem denied_if {revoked : Bool} {error : Option RefreshError} (h : revoked=true → Fenced config s sid) :
    Denied config s { revoked := if revoked then [sid] else [], error := error } := by
  intro other hother
  cases revoked with
  | false => cases hother
  | true => exact mem_singleton.mp hother ▸ h rfl

theorem secure_rounds {userID : Nat} {excludedSID reason : String} {now : Int} {rounds : Nat} {revoked : List String}
    (hrevoked : ∀ sid∈revoked, Fenced config s sid) (hinv : StoreInv s) :
    Secure config (Denied config) (revokeRounds config userID excludedSID reason now rounds revoked) s := by
  induction rounds generalizing s revoked with
  | zero => exact hrevoked
  | succ rounds ih =>
    apply secure_query
    intro s1 hle1 hinv1
    dsimp only
    split
    · exact fun sid hsid => hle1.fenced sid (hrevoked sid hsid)
    apply secure_denyFences _ hinv1
    · intro s2 hle2 _
      apply secure_update
      · intro row hrow
        exact of_decide_eq_true (Bool.and_eq_true_iff.mp hrow).2
      intro s3 hle3 hinv3 changed hchanged
      apply secure_tombstones (fun row hrow => (hchanged row hrow).2.stamped) hinv3
      intro s4 hle4 hinv4 hfenced
      apply ih _ hinv4
      intro sid hsid
      obtain hsid | hsid := mem_append.mp hsid
      · exact (((hle1.trans hle2).trans hle3).trans hle4).fenced sid (hrevoked sid hsid)
      obtain ⟨row,hrow,rfl⟩ := List.mem_map.mp hsid
      exact hfenced row hrow
    · intro session hsession
      have hmem := (mem_insertionSort _).mp (mem_of_mem_take hsession)
      exact seen_row (Keyed.lookup_of_mem hinv1.unique (mem_filter.mp hmem).1)

theorem secure_evict {next : List UserSession → Code} {left : Nat} {evicted : List UserSession}
    (hevicted : ∀ row∈evicted, row.status=.active) (hinv : StoreInv s)
    (h : Hereafter config s fun s' => ∀ evicted : List UserSession, (∀ row∈evicted, row.status=.active) →
      Secure config (Denied config) (next evicted) s') :
    Secure config (Denied config) (evict config login next left evicted) s := by
  induction left generalizing s evicted with
  | zero => exact h s (Evolves.refl s) hinv evicted hevicted
  | succ left ih =>
    apply secure_query
    intro s1 hle1 hinv1
    split
    · exact denied_nil rfl
    rename_i candidate hcandidate
    obtain ⟨hmem,hlive⟩ := mem_filter.mp (argmin_mem hcandidate)
    simp only [Bool.and_eq_true] at hlive
    apply secure_denyFence (seen_row (Keyed.lookup_of_mem hinv1.unique hmem))
    intro s2 hle2 hinv2 result
    have hrefused : Secure config (Denied config) (.returned {}) s2 := denied_nil rfl
    cases result with
    | written =>
      apply ih _ hinv2 (h.mono (hle1.trans hle2))
      intro row hrow
      obtain hrow | hrow := mem_append.mp hrow
      · exact hevicted row hrow
      rw [mem_singleton.mp hrow]
      exact active_of_live hlive.1.2
    | stale | inactive | invalid => exact hrefused

theorem secure_create : Secure config (Denied config) (createUserSessionWithLimits config login) s := by
  rw [createUserSessionWithLimits]
  split
  · exact denied_nil rfl
  apply secure_user
  intro s1 _ _ view
  split
  · exact denied_nil rfl
  apply secure_query
  intro s2 _ _
  split
  · exact denied_nil rfl
  apply secure_query
  intro s3 _ hinv3
  apply secure_evict (by simp) hinv3
  intro s4 _ _ evicted hevicted
  apply secure_admit hevicted rfl
  intro s5 _ hinv5 admitted hadmitted
  split
  · exact denied_nil rfl
  rename_i hcommitted
  obtain ⟨hrow,hstamped⟩ := hadmitted (by simpa using hcommitted)
  apply secure_tombstones hstamped hinv5
  intro s6 hle6 _ hfenced
  obtain ⟨row,hrow6,-⟩ := hle6.rows _ _ hrow
  apply secure_late hrow6
  intro s7 hle7 _ hactive
  have hdenied : ∀ s', Evolves config s7 s' → ∀ session,
      Denied config s' { session := session, revoked := evicted.map (·.sid) } := by
    intro s' hle session sid hsid
    obtain ⟨row,hrow,rfl⟩ := List.mem_map.mp hsid
    exact (hle7.trans hle).fenced _ (hfenced row hrow)
  apply secure_write ((@seen_row _ _ login.session hrow).mono (hle6.trans hle7))
  · rintro-deadline hdeadline
    rw [mem_def,Option.some.injEq] at hdeadline
    subst hdeadline
    exact vouched_of_active (Evolves.refl s7) hactive
  · intro s8 hle8 _ result _
    cases result with
    | stale =>
      apply secure_confirm
      intro s9 hle9 _ confirmed
      exact hdenied s9 (hle8.trans hle9) _
    | inactive | written | invalid => exact hdenied s8 hle8 _

theorem secure_refresh (rawRefreshToken expectedSID : String) (hinv : StoreInv s) :
    Secure config (Denied config) (refreshLoginSession config rawRefreshToken expectedSID) s := by
  rw [refreshLoginSession]
  split
  · exact denied_nil rfl
  split
  · exact denied_nil rfl
  apply secure_get _ hinv
  intro s1 _ _ result _
  cases result with
  | failed | inactive => exact denied_nil rfl
  | session session =>
    apply secure_clock
    intro s2 _ _
    dsimp only
    split
    · exact denied_nil rfl
    apply secure_user
    intro s3 _ _ userCache
    cases userCache with
    | none => exact denied_nil rfl
    | some userCache =>
      apply secure_user
      intro s4 _ hinv4 currentUser
      cases currentUser with
      | none => exact denied_nil rfl
      | some currentUser =>
        dsimp only
        split
        · apply secure_revoke _ hinv4
          intro s5 _ _ revoked hfenced
          exact denied_if hfenced
        · apply secure_clock
          intro s5 _ hinv5
          apply secure_rotate _ hinv5
          intro s6 _ _ rotation hfenced sid hsid
          rw [Rotation.refreshResult] at hsid
          split at hsid
          · cases hsid
          · split at hsid <;> cases hsid
          next hreuse =>
            exact mem_singleton.mp hsid ▸ hfenced hreuse
          · cases hsid
          · cases hsid
          · cases hsid

theorem secure_program (call : SessionCall) (hinv : StoreInv s) : Secure config (Denied config) (call.program config) s := by
  cases call with
  | create login => exact secure_create
  | get sid =>
    rw [program]
    apply secure_get _ hinv
    intro s' _ _ result _
    cases result with
    | _ => exact denied_nil rfl
  | rotate userID sid presentedHash nextHash now graceSeconds =>
    rw [program]
    apply secure_rotate _ hinv
    intro s' _ _ rotation hfenced other hother
    split at hother
    · cases hother
    · cases hother
    next hreuse =>
      exact mem_singleton.mp hother ▸ hfenced hreuse
    · cases hother
    · cases hother
    · cases hother
  | advance userID sid expectedSessionVersion expectedUserAuthVersion nextUserAuthVersion =>
    rw [program]
    apply secure_advance _ hinv
    intro s' _ _ session
    exact denied_nil rfl
  | revoke userID sid reason =>
    rw [program]
    apply secure_revoke _ hinv
    intro s' _ _ revoked hfenced
    exact denied_if hfenced
  | revokeAll userID excludedSID reason rounds =>
    rw [program,revokeUserSessions]
    split
    · exact denied_nil rfl
    apply secure_clock
    intro s' _ hinv'
    exact secure_rounds (by simp) hinv'
  | refresh rawRefreshToken expectedSID =>
    rw [program]
    exact secure_refresh rawRefreshToken expectedSID hinv
  | revokeByToken rawRefreshToken expectedSID reason =>
    rw [program,revokeByRefreshToken]
    split
    · exact denied_nil rfl
    split
    · exact denied_nil rfl
    apply secure_revokeByHash _ hinv
    intro s' _ _ revoked hfenced
    exact denied_if hfenced

theorem secure_get_fenced (hfenced : Fenced config s sid) (hinv : StoreInv s) :
    Secure config (fun _ result => result.session=none) ((SessionCall.get sid).program config) s := by
  apply secure_get _ hinv
  intro s' _ _ result hresult
  cases result with
  | session session => exact absurd rfl (hresult hfenced session)
  | inactive | failed => rfl

end Programs

def calls : System AuthStore (Thread SessionCall AuthOp AuthAns SessionResult) SessionCall AuthChoice :=
  system authExec (program config)

abbrev Started : Type := Thread SessionCall AuthOp AuthAns SessionResult

def opened (now : Int) : Pool AuthStore Started where
  shared := { now := now }
  threads := []

abbrev TimelyRun (acts : List (Act SessionCall AuthChoice)) (p : Pool AuthStore Started) : Prop :=
  Guarded (calls config).act (Meets (Allowed fun _ => Timely)) acts p

section Runs
variable {config}

theorem storeInv_opened (now : Int) : StoreInv { now := now } where
  unique := nodup_nil
  entries _ _ h := by
    obtain ⟨h,-⟩ := visible_eq_some.mp h
    cases h
  active _ _ h := by
    cases h
  past _ _ h := by
    cases h

theorem calls_keepsIf {P : AuthStore → Prop} (hP : ∀ s s', Evolves config s s' → P s → P s') :
    KeepsIf (calls config) (Allowed fun _ => Timely) (fun s => StoreInv s ∧ P s)
      (fun s t => Secure config (Denied config) t.code s) :=
  system_keepsIf (fun _ => Timely) (fun _ _ _ => True) (fun _ => Denied config) Evolves.refl (fun _ _ _ => Evolves.trans)
    (fun _ _ _ _ => Denied.mono) hP fun call _ => secure_program call

theorem fenced_of_returned {now : Int} {acts : List (Act SessionCall AuthChoice)}
    (htimely : TimelyRun config acts (opened now)) :
    Each (fun s => StoreInv s ∧ True) (fun s t => Secure config (Denied config) t.code s)
      (run (calls config).act acts (opened now)) := by
  apply (calls_keepsIf fun _ _ _ h => h).run _ htimely
  exact ⟨⟨storeInv_opened now,trivial⟩,by simp [opened]⟩

end Runs

def answered (p : Pool AuthStore Started) (i : Nat) : Option SessionResult := p.threads[i]?.bind fun thread => thread.code.result

/-- After a call that revoked a session has returned, no lookup that starts later returns the session. -/
theorem revoked_never_accepted {now : Int} {pre post : List (Act SessionCall AuthChoice)}
    (htimely : TimelyRun config (pre++post) (opened now)) {i j : Nat} {sid : String} {revocation answer : SessionResult}
    (hrevoked : answered (run (calls config).act pre (opened now)) i=some revocation) (hsid : sid∈revocation.revoked)
    (hlater : (run (calls config).act pre (opened now)).threads.length≤j)
    (hget : (run (calls config).act (pre++post) (opened now)).threads[j]?.map (·.started)=some (.get sid))
    (hanswer : answered (run (calls config).act (pre++post) (opened now)) j=some answer) : answer.session=none := by
  obtain ⟨hpre,hpost⟩ := guarded_append.mp htimely
  have hreached := fenced_of_returned hpre
  have hfenced : Fenced config (run (calls config).act pre (opened now)).shared sid := by
    obtain ⟨revoker,hrevoker,hresult⟩ := bind_eq_some_iff.mp hrevoked
    have hsafe := hreached.thread revoker (mem_of_getElem? hrevoker)
    rw [Prog.result_eq_some.mp hresult] at hsafe
    exact hsafe sid hsid
  obtain ⟨lookup,hlookup,hresult⟩ := bind_eq_some_iff.mp hanswer
  rw [hlookup,map_some,Option.some.injEq] at hget
  rw [run_append] at hlookup
  have hsafe : Secure config (fun _ result => result.session=none) lookup.code
      (run (calls config).act post (run (calls config).act pre (opened now))).shared :=
    system_later (fun _ => Timely) (fun _ _ _ => True) (fun _ => Denied config) _ (fun call => call=.get sid) Evolves.refl
      (fun _ _ _ => Evolves.trans) (fun _ _ _ _ => Denied.mono) (fun _ _ _ _ h => h)
      (fun s s' (hle : Evolves config s s') hf => hle.fenced sid hf) (fun call _ => secure_program call)
      (fun call s hcall hinv hf => hcall ▸ secure_get_fenced hf hinv)
      ⟨⟨hreached.shared.1,hfenced⟩,hreached.thread⟩ hpost hlater hlookup hget
  rw [Prog.result_eq_some.mp hresult] at hsafe
  exact hsafe

def sampleConfig : SessionConfig where
  redisKeyCacheSeconds := 60
  limits := { userSessionActiveLimit := 5, userSessionIssuanceLimit := 0, userSessionIssuanceWindowSeconds := 3600,
              userSessionRevokedRetentionDays := 30 }
  refreshDigest secret := "r:" ++ secret
  refreshRotateDigest text := "n:" ++ text
  isUUID _ := true

def sampleLogin : Login where
  sid := "a"
  userID := 1
  userAuthVersion := 1
  refreshHash := "r:x"
  expiresAt := 100000
  now := 1000

def go (i n : Nat) : List (Act SessionCall AuthChoice) := .replicate n (.step i {})

def late (i : Nat) : Act SessionCall AuthChoice := .step i { elapsed := 61000000000 }

def loginCommits : List (Act SessionCall AuthChoice) :=
  .start (.create sampleLogin)::.step 0 { view := some { enabled := true, authVersion := 1 } }::go 0 3

def sampleRun (acts : List (Act SessionCall AuthChoice)) : Pool AuthStore Started :=
  run (calls sampleConfig).act acts (opened 1000000000000)

def logoutRun : List (Act SessionCall AuthChoice) := loginCommits++go 0 4++.start (.revoke 1 "a" "logout")::go 1 7

theorem revoked_never_accepted_logout : answered (sampleRun (logoutRun++.start (.get "a")::go 2 2)) 2=some {} ∧
    ({} : SessionResult).session=none :=
  have hanswer : answered (sampleRun (logoutRun++.start (.get "a")::go 2 2)) 2=some {} := by decide +kernel
  ⟨hanswer,@revoked_never_accepted sampleConfig 1000000000000 logoutRun (.start (.get "a")::go 2 2) (by decide +kernel) 1 2 "a"
    { revoked := ["a"] } {} (by decide +kernel) (by decide) (by decide +kernel) (by decide +kernel) hanswer⟩

/-- The session is revoked before the login takes the deadline of its snapshot, which it writes after the tombstone has expired. -/
def lateSnapshot : List (Act SessionCall AuthChoice) :=
  loginCommits++.start (.revoke 1 "a" "logout")::go 1 7++late 0::go 0 3

/-- A lookup caches the next version of the session after the deny fence has expired, and the revocation ends in a tombstone of the
version before. -/
def staleTombstone : List (Act SessionCall AuthChoice) :=
  loginCommits++go 0 4++.start (.revoke 1 "a" "logout")::go 1 4++.start (.advance 1 "a" 1 1 2)::go 2 5 ++
    .start (.get "a")::late 3::go 3 6++go 1 3

theorem revoked_session_accepted : (answered (sampleRun lateSnapshot) 1=some { revoked := ["a"] } ∧
    (sampleRun lateSnapshot).threads.length=2 ∧
    ((answered (sampleRun (lateSnapshot++.start (.get "a")::go 2 2)) 2).bind (·.session)).map (·.sid)=some "a") ∧
    answered (sampleRun staleTombstone) 1=some { revoked := ["a"] } ∧ (sampleRun staleTombstone).threads.length=4 ∧
    ((answered (sampleRun (staleTombstone++.start (.get "a")::go 4 2)) 4).bind (·.session)).map (·.sid)=some "a" := by
  decide +kernel

end NewApi.Sessions
