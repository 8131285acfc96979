import NewApi.Sessions.Chain

/-! The calls that carry refresh tokens among the others: every operation of a call keeps the chains, and a call that was given a
refresh token changes a session only if the secret of the token is one of its own. -/
namespace NewApi.Sessions
open Option List Programs

/-- A call by its arguments, where a login is given the secret of its first refresh token and rotations are made by refreshes. -/
inductive LoginCall where
  | login (l : Login) (refreshSecret : String)
  | get (sid : String)
  | advance (userID : Nat) (sid : String) (expectedSessionVersion expectedUserAuthVersion nextUserAuthVersion : Int)
  | revoke (userID : Nat) (sid reason : String)
  | revokeAll (userID : Nat) (excludedSID reason : String) (rounds : Nat)
  | refresh (rawRefreshToken expectedSID : String)
  | revokeByToken (rawRefreshToken expectedSID reason : String)
  deriving DecidableEq

variable (config : SessionConfig)

namespace LoginCall

def sessionCall : LoginCall → SessionCall
  | login l refreshSecret => .create { l with refreshHash := hashRefreshSecret config refreshSecret }
  | get sid => .get sid
  | advance userID sid expectedSessionVersion expectedUserAuthVersion nextUserAuthVersion =>
    .advance userID sid expectedSessionVersion expectedUserAuthVersion nextUserAuthVersion
  | revoke userID sid reason => .revoke userID sid reason
  | revokeAll userID excludedSID reason rounds => .revokeAll userID excludedSID reason rounds
  | refresh rawRefreshToken expectedSID => .refresh rawRefreshToken expectedSID
  | revokeByToken rawRefreshToken expectedSID reason => .revokeByToken rawRefreshToken expectedSID reason

def token : LoginCall → Option (String×String)
  | refresh rawRefreshToken _ => splitRefreshToken config rawRefreshToken
  | revokeByToken rawRefreshToken _ _ => splitRefreshToken config rawRefreshToken
  | _ => none

def refreshes : LoginCall → Bool
  | refresh _ _ => true
  | _ => false

end LoginCall

def Issued (s : AuthStore) (token : String×String) : Prop := hashRefreshSecret config token.2∈s.hashes token.1

instance Issued.decidable (s : AuthStore) (token : String×String) : Decidable (Issued config s token) :=
  inferInstanceAs (Decidable (_∈_))

/-- The row is active, and the digest is its previous one past its window. -/
@[mk_iff] structure Replayed (row : UserSession) (digest : String) (now : Int) : Prop where
  active : row.status=.active
  unrevoked : row.revokedAt=0
  unexpired : now<row.expiresAt
  rotated : row.refreshHash≠digest
  previous : row.previousRefreshHash=digest
  known : row.previousRefreshHash≠""
  late : row.previousValidUntil<now

instance Replayed.decidable (row : UserSession) (digest : String) (now : Int) : Decidable (Replayed row digest now) :=
  decidable_of_iff _ (replayed_iff row digest now).symm

/-- The call is a refresh with the previous secret of a live session, past its window. -/
def Replays (call : LoginCall) (s : AuthStore) : Prop :=
  call.refreshes=true ∧ ∃ token, call.token config=some token ∧ ∃ row, s.row token.1=some row ∧
    Replayed row (hashRefreshSecret config token.2) (unix s.now)

/-- Such a refresh is not turned away: its lookups of the user succeed, its queries find the session, it finds no denial of it in
the cache, and no entry that is there refuses what it writes. -/
def Attended (call : LoginCall) (s : AuthStore) (c : AuthChoice) (op : AuthOp) : Prop :=
  Replays config call (s.wait c.elapsed) →
    match op with
    | .user _ _ => c.view≠none
    | .query select => s.rows.filter select≠[]
    | .cached sid => ∀ stored∈(s.wait c.elapsed).visible sid, stored.1.status=.active
    | .script entry _ _ => (s.wait c.elapsed).refuses entry=false
    | .clock _ | .update _ _ | .enroll _ _ _ => True

/-- A refresh with an unknown secret finds its user enabled at the auth version of the session, and the cache has no version of a
session above that of the deny fence of a replayed secret. -/
def Settled (call : LoginCall) (s : AuthStore) (c : AuthChoice) : AuthOp → Prop
  | .user _ authVersion => call.refreshes=true → ∀ token∈call.token config, Issued config s token ∨
      ∀ view∈c.view, view={ enabled := true, authVersion := authVersion }
  | .script entry _ .fence => ∀ stored∈(s.wait c.elapsed).visible entry.sid, stored.1.version≤entry.version
  | _ => True

structure Proper (call : LoginCall) (s : AuthStore) (c : AuthChoice) (op : AuthOp) : Prop where
  settled : Settled config call s c op
  attended : Attended config call s c op

instance Settled.decidable (call : LoginCall) (s : AuthStore) (c : AuthChoice) : ∀ op, Decidable (Settled config call s c op)
  | .user _ authVersion =>
    inferInstanceAs (Decidable (call.refreshes=true → ∀ token∈call.token config, Issued config s token ∨
      ∀ view∈c.view, view={ enabled := true, authVersion := authVersion }))
  | .script entry _ .fence =>
    inferInstanceAs (Decidable (∀ stored∈(s.wait c.elapsed).visible entry.sid, stored.1.version≤entry.version))
  | .clock _ => isTrue trivial
  | .query _ => isTrue trivial
  | .update _ _ => isTrue trivial
  | .enroll _ _ _ => isTrue trivial
  | .cached _ => isTrue trivial
  | .script _ _ .final => isTrue trivial
  | .script _ _ .other => isTrue trivial

instance Replays.decidable (call : LoginCall) (s : AuthStore) : Decidable (Replays config call s) :=
  decidable_of_iff (call.refreshes=true ∧ (call.token config).any fun token => (s.row token.1).any fun row =>
      Replayed row (hashRefreshSecret config token.2) (unix s.now))
    (by simp only [Replays,Option.any_eq_true,decide_eq_true_eq])

instance Attended.decidable (call : LoginCall) (s : AuthStore) (c : AuthChoice) : ∀ op, Decidable (Attended config call s c op)
  | .user _ _ => inferInstanceAs (Decidable (Replays config call (s.wait c.elapsed) → c.view≠none))
  | .query select => inferInstanceAs (Decidable (Replays config call (s.wait c.elapsed) → s.rows.filter select≠[]))
  | .cached sid => inferInstanceAs (Decidable (Replays config call (s.wait c.elapsed) →
      ∀ stored∈(s.wait c.elapsed).visible sid, stored.1.status=.active))
  | .script entry _ _ =>
    inferInstanceAs (Decidable (Replays config call (s.wait c.elapsed) → (s.wait c.elapsed).refuses entry=false))
  | .clock _ => isTrue fun _ => trivial
  | .update _ _ => isTrue fun _ => trivial
  | .enroll _ _ _ => isTrue fun _ => trivial

instance Proper.decidable (call : LoginCall) (s : AuthStore) (c : AuthChoice) (op : AuthOp) :
    Decidable (Proper config call s c op) :=
  decidable_of_iff (Settled config call s c op ∧ Attended config call s c op)
    ⟨fun h => ⟨h.1,h.2⟩,fun h => ⟨h.settled,h.attended⟩⟩

/-- A step of a call with a token changes rows only if the secret of the token has been given out, and any step moves the digest of a
session only from that of the token to that of the next secret. -/
structure Guarantee (call : LoginCall) (s s' : AuthStore) : Prop where
  issued : s'.rows≠s.rows → ∀ token∈call.token config, Issued config s token
  moved : ∀ sid row row', s.row sid=some row → s'.row sid=some row' → row'.refreshHash≠row.refreshHash →
    ∃ secret, call.token config=some (sid,secret) ∧ call.refreshes=true ∧ row.refreshHash=hashRefreshSecret config secret ∧
      row'.refreshHash=hashRefreshSecret config (deriveNextRefreshSecret config sid secret)

variable (origin : String → String → Prop) (call : LoginCall) (Q : AuthStore → SessionResult → Prop)

abbrev Orderly (code : Code) (s : AuthStore) : Prop :=
  Safe authExec (ChainInv config origin) Moves (Proper config call) (Guarantee config call) Q code s

def Onward (s : AuthStore) (P : AuthStore → Prop) : Prop := ∀ s', Moves s s' → ChainInv config origin s' → P s'

section Operations
variable {config origin call Q} {s : AuthStore} {s' : AuthStore}

theorem Onward.mono {P : AuthStore → Prop} (h : Onward config origin s P) (hle : Moves s s') :
    Onward config origin s' P :=
  fun s'' hle' hinv => h s'' (hle.trans hle') hinv

theorem guarantee_quiet (hrows : s'.rows=s.rows) : Guarantee config call s s' where
  issued hne := absurd hrows hne
  moved sid row row' hrow hrow' hne := by
    rw [AuthStore.row,hrows] at hrow'
    rw [AuthStore.row] at hrow
    rw [hrow,Option.some.injEq] at hrow'
    exact absurd (congrArg UserSession.refreshHash hrow'.symm) hne

def Turned (config : SessionConfig) (origin : String → String → Prop) (call : LoginCall) (s s' : AuthStore) : Prop :=
  ∃ s₁, Moves s s₁ ∧ ChainInv config origin s₁ ∧ Moves s₁ s' ∧
    ((∃ token∈call.token config, s₁.hashes token.1≠s.hashes token.1) ∨ ¬Replays config call s₁)

theorem Turned.mono {s'' : AuthStore} (h : Turned config origin call s s') (hle : Moves s' s'') :
    Turned config origin call s s'' := by
  obtain ⟨s1,hle1,hinv,hle2,hturned⟩ := h
  exact ⟨s1,hle1,hinv,hle2.trans hle,hturned⟩

theorem Turned.earlier {s'' : AuthStore} (h : Turned config origin call s' s'') (hle : Moves s s') :
    Turned config origin call s s'' := by
  obtain ⟨s1,hle1,hinv,hle2,⟨token,htoken,hmoved⟩ | hnot⟩ := h
  · refine ⟨s1,hle.trans hle1,hinv,hle2,.inl ⟨token,htoken,fun hsame => hmoved ?_⟩⟩
    rw [hsame,hle.between hle1 hsame]
  · exact ⟨s1,hle.trans hle1,hinv,hle2,.inr hnot⟩

theorem ChainInv.turned (hinv : ChainInv config origin s') (hle : Moves s s') (h : ¬Replays config call s') :
    Turned config origin call s s' := ⟨s',hle,hinv,Moves.refl s',.inr h⟩

theorem turned_or (hinv : ChainInv config origin s') (hle : Moves s s') : Turned config origin call s s' ∨
    Replays config call s' ∧ ∀ token∈call.token config, s'.hashes token.1=s.hashes token.1 := by
  by_cases hreplays : Replays config call s'
  · by_cases hsame : ∀ token∈call.token config, s'.hashes token.1=s.hashes token.1
    · exact .inr ⟨hreplays,hsame⟩
    · push Not at hsame
      exact .inl ⟨s',hle,hinv,Moves.refl s',.inl hsame⟩
  · exact .inl (hinv.turned hle hreplays)

theorem wait_quiet (hinv : ChainInv config origin s) (elapsed : Nat) :
    ChainInv config origin (s.wait elapsed) ∧ Moves s (s.wait elapsed) :=
  hinv.quiet (s.wait elapsed) rfl rfl (fun _ _ h => .inl h) (Int.le_add_of_nonneg_right (Int.natCast_nonneg elapsed))

theorem orderly_quiet {op : AuthOp} {next : AuthAns op → Code}
    (hquiet : ∀ s' c, (authExec s' c op).1=s'.wait c.elapsed)
    (h : ∀ s' c, Proper config call s' c op → Moves s s' → Moves s (s'.wait c.elapsed) →
      ChainInv config origin (s'.wait c.elapsed) →
      Orderly config origin call Q (next (authExec s' c op).2) (s'.wait c.elapsed)) :
    Orderly config origin call Q (.call op next) s := by
  intro s' hinv hle c hproper
  obtain ⟨hinv',hle'⟩ := wait_quiet hinv c.elapsed
  rw [hquiet]
  exact ⟨hinv',hle',guarantee_quiet rfl,h s' c hproper hle (hle.trans hle') hinv'⟩

theorem orderly_clock {late : Option String} {next : Int → Code}
    (h : Onward config origin s fun s' => Orderly config origin call Q (next s'.now) s') :
    Orderly config origin call Q (.call (.clock late) next) s :=
  orderly_quiet (fun _ _ => rfl) fun _ _ _ _ hle hinv => h _ hle hinv

theorem orderly_user {userID : Nat} {authVersion : Int} {next : Option UserView → Code}
    (h : Onward config origin s fun s' => ∀ view : Option UserView,
      (call.refreshes=true → ∀ token∈call.token config, Issued config s' token ∨
        ∀ found∈view, found=({ enabled := true, authVersion := authVersion } : UserView)) →
      (Replays config call s' → view≠none) → Orderly config origin call Q (next view) s') :
    Orderly config origin call Q (.call (.user userID authVersion) next) s :=
  orderly_quiet (fun _ _ => rfl) fun _ c hproper _ hle hinv => h _ hle hinv c.view hproper.settled hproper.attended

variable {select : UserSession → Bool} {next : List UserSession → Code}

theorem orderly_select (h : Onward config origin s fun s' => (Replays config call s' → s'.rows.filter select≠[]) →
    Orderly config origin call Q (next (s'.rows.filter select)) s') : Orderly config origin call Q (query select next) s :=
  orderly_quiet (fun _ _ => rfl) fun _ _ hproper _ hle hinv => h _ hle hinv hproper.attended

theorem orderly_query (h : Onward config origin s fun s' => Orderly config origin call Q (next (s'.rows.filter select)) s') :
    Orderly config origin call Q (query select next) s :=
  orderly_select fun s' hle hinv _ => h s' hle hinv

theorem orderly_cached {sid : String} {next : Option CacheEntry → Code}
    (h : Onward config origin s fun s' => ∀ entry : Option CacheEntry, (∀ found∈entry, Backed s' found) →
      (Replays config call s' → ∀ found∈entry, found.status=.active) → Orderly config origin call Q (next entry) s') :
    Orderly config origin call Q (.call (.cached sid) next) s := by
  refine orderly_quiet (fun _ _ => rfl) fun s' c hproper _ hle hinv => h _ hle hinv _ ?_ ?_
  · intro found hfound
    obtain ⟨stored,hstored,rfl⟩ := map_eq_some_iff.mp hfound
    exact hinv.cached sid stored (filter_eq_some_iff.mp hstored).1
  · intro hreplays found hfound
    obtain ⟨stored,hstored,rfl⟩ := map_eq_some_iff.mp hfound
    exact hproper.attended hreplays stored hstored

theorem quiet_script (s : AuthStore) (entry : CacheEntry) (expiration : Int) :
    (s.script entry expiration).1.rows=s.rows ∧ (s.script entry expiration).1.hashes=s.hashes ∧
    (s.script entry expiration).1.now=s.now ∧ (∀ sid stored, (s.script entry expiration).1.cache sid=some stored →
      s.cache sid=some stored ∨ stored.1=entry) := by
  have hput : ∀ (other : Option (CacheEntry×Int)), (∀ stored∈other, stored.1=entry) → ∀ sid stored,
      (s.put entry.sid other).cache sid=some stored → s.cache sid=some stored ∨ stored.1=entry := by
    intro other hother sid stored hstored
    simp only [AuthStore.put,Function.update_apply] at hstored
    split at hstored
    · exact .inr (hother stored hstored)
    · exact .inl hstored
  rw [AuthStore.script]
  split
  · exact ⟨rfl,rfl,rfl,fun _ _ h => .inl h⟩
  split
  · split
    · exact ⟨rfl,rfl,rfl,hput none (by simp)⟩
    · exact ⟨rfl,rfl,rfl,hput (some _) (by simp)⟩
  · exact ⟨rfl,rfl,rfl,hput (some _) (by simp)⟩

variable {entry : CacheEntry} {expiration : Int}

theorem script_written (h : s.refuses entry=false) : (s.script entry expiration).2=true := by
  rw [AuthStore.script,h]
  simp only [Bool.false_eq_true,if_false]
  split
  · split <;> rfl
  · rfl

theorem unrefused_fence (hdenied : entry.status≠.active)
    (hversion : ∀ stored∈s.visible entry.sid, stored.1.version≤entry.version) : s.refuses entry=false := by
  rw [AuthStore.refuses]
  cases hvisible : s.visible entry.sid with
  | none => rfl
  | some stored => simpa [hdenied] using hversion stored hvisible

theorem orderly_script {mark : WriteMark} {next : Bool → Code} (hbacked : Backed s entry)
    (h : Onward config origin s fun s' => ∀ written : Bool, (mark=.fence → entry.status≠.active → written=true) →
      (written=false → Turned config origin call s s') → Orderly config origin call Q (next written) s') :
    Orderly config origin call Q (.call (.script entry expiration mark) next) s := by
  intro s' hinv hle c hproper
  obtain ⟨hinv1,hle1⟩ := wait_quiet hinv c.elapsed
  obtain ⟨hrows,hhashes,hnow,hcache⟩ := quiet_script (s'.wait c.elapsed) entry expiration
  have hentry := hbacked.mono (hle.trans hle1)
  obtain ⟨hinv2,hle2⟩ := hinv1.quiet _ hrows hhashes
    (fun sid stored hstored => (hcache sid stored hstored).imp_right fun he => by rwa [he]) (le_of_eq hnow.symm)
  refine ⟨hinv2,hle1.trans hle2,guarantee_quiet hrows,h _ (hle.trans (hle1.trans hle2)) hinv2 _ ?_ fun hrefused => ?_⟩
  · rintro rfl hdenied
    exact script_written (unrefused_fence hdenied hproper.settled)
  · refine (hinv1.turned (hle.trans hle1) fun hreplays => ?_).mono hle2
    have hwritten : ((s'.wait c.elapsed).script entry expiration).2=true := script_written (hproper.attended hreplays)
    exact Bool.false_ne_true (hrefused.symm.trans hwritten)

theorem orderly_update {edit : Edit} (hdigest : config.Collisionless) (hactive : ∀ row, select row=true → row.status=.active)
    (hissued : Onward config origin s fun s' => ∀ row∈s'.rows, select row=true → ∀ token∈call.token config,
      Issued config s' token)
    (hmoved : ∀ row, select row=true → ∀ next∈edit.newHashes, ∃ secret, call.token config=some (row.sid,secret) ∧
      call.refreshes=true ∧ row.refreshHash=hashRefreshSecret config secret ∧
      next=hashRefreshSecret config (deriveNextRefreshSecret config row.sid secret) ∧ next≠"")
    (h : ∀ s1, Moves s s1 → ChainInv config origin s1 → Moves s1 (s1.update select edit) →
      ChainInv config origin (s1.update select edit) →
      Orderly config origin call Q (next (s1.rows.filter select)) (s1.update select edit)) :
    Orderly config origin call Q (update select edit next) s := by
  have hfollows : FollowsChain config select edit := by
    refine fun row hselect => ⟨hactive row hselect,fun next hnext => ?_⟩
    obtain ⟨secret,-,-,hpresented,hderived,hne⟩ := hmoved row hselect next hnext
    exact ⟨hne,secret,hpresented,hderived⟩
  intro s' hinv hle c _
  obtain ⟨hinv1,hle1⟩ := wait_quiet hinv c.elapsed
  obtain ⟨hinv2,hle2⟩ := hinv1.update hdigest hfollows
  refine ⟨hinv2,hle1.trans hle2,⟨?_,?_⟩,h _ (hle.trans hle1) hinv1 hle2 hinv2⟩
  · intro hne token htoken
    by_contra hunknown
    apply hne
    have hunselected : ∀ row∈s'.rows, (if select row then edit.apply row else row)=row := by
      intro row hrow
      rw [if_neg]
      exact fun hselect => hunknown (hissued _ (hle.trans hle1) hinv1 row hrow hselect token htoken)
    exact (map_congr_left hunselected).trans (map_id' _)
  · intro sid row row' hrow hrow' hne
    have hupdated := row_update (s'.wait c.elapsed) select edit sid
    rw [show (s'.wait c.elapsed).row sid=some row from hrow] at hupdated
    rw [show ((s'.wait c.elapsed).update select edit).row sid=some row' from hrow',map_some,Option.some.injEq] at hupdated
    subst hupdated
    split at hne
    next hselect =>
      rw [if_pos hselect]
      obtain rfl := row_sid hrow
      cases edit with
      | rotate nextHash now graceSeconds =>
        obtain ⟨secret,htoken,hrefreshes,hpresented,hderived,-⟩ := hmoved row hselect nextHash mem_cons_self
        exact ⟨secret,htoken,hrefreshes,hpresented,hderived⟩
      | revoke _ _ | advanceAuth _ _ => exact absurd rfl hne
    · exact absurd rfl hne

theorem orderly_admit {locked : List UserSession} {now : Int} {session : UserSession} {secret : String} {next : Bool → Code}
    (hdigest : config.Collisionless) (htoken : call.token config=none) (hlocked : ∀ row∈locked, row.status=.active)
    (horigin : origin session.sid secret) (hhash : session.refreshHash=hashRefreshSecret config secret)
    (hprevious : session.previousRefreshHash="") (hopen : session.revokedAt=0)
    (hfilled : session.userID≠0 ∧ session.refreshHash≠"")
    (h : Onward config origin s fun s' => ∀ admitted : Bool,
      (admitted=true → ∃ row, s'.row session.sid=some row ∧ row.userID=session.userID ∧ row.expiresAt=session.expiresAt) →
      Orderly config origin call Q (next admitted) s') :
    Orderly config origin call Q (.call (.enroll locked now session) next) s := by
  intro s' hinv hle c _
  obtain ⟨hinv1,hle1⟩ := wait_quiet hinv c.elapsed
  rw [authExec]
  split
  next hadmits =>
    have hfollows : FollowsChain config (fun row => decide (row∈locked)) (.revoke now "login_session_auto_evicted") := by
      refine fun row hselect => ⟨hlocked row (of_decide_eq_true hselect),fun next hnext => ?_⟩
      cases hnext
    obtain ⟨hinv2,hle2⟩ := hinv1.update hdigest hfollows
    have hnew : ((s'.wait c.elapsed).update (fun row => decide (row∈locked))
        (.revoke now "login_session_auto_evicted")).row session.sid=none := by
      rw [row_update,map_eq_none_iff]
      exact hadmits.2
    obtain ⟨hinv3,hle3⟩ := hinv2.insert hnew horigin hhash hprevious hopen hfilled
    refine ⟨hinv3,(hle1.trans hle2).trans hle3,⟨?_,?_⟩,h _ (((hle.trans hle1).trans hle2).trans hle3) hinv3 true
      fun _ => ⟨session,row_insert_self hnew,rfl,rfl⟩⟩
    · intro _ token hsome
      rw [htoken] at hsome
      cases hsome
    · intro sid row row' hrow hrow' hne
      have hrow2 := row_update (s'.wait c.elapsed) (fun row => decide (row∈locked))
        (.revoke now "login_session_auto_evicted") sid
      rw [show (s'.wait c.elapsed).row sid=some row from hrow,map_some] at hrow2
      have hadmitted : ((s'.wait c.elapsed).enroll locked now session).row sid=some row' := hrow'
      rw [AuthStore.enroll,row_insert hrow2,Option.some.injEq] at hadmitted
      subst hadmitted
      split at hne
      · exact absurd rfl hne
      · exact absurd rfl hne
  · exact ⟨hinv1,hle1,guarantee_quiet rfl,h _ (hle.trans hle1) hinv1 false Bool.noConfusion⟩

end Operations

section Calls
variable {config origin call Q} {s : AuthStore} {s' : AuthStore} {sid secret : String} {row session : UserSession}

def OnFile (s : AuthStore) (session : UserSession) : Prop :=
  ∃ row, s.row session.sid=some row ∧ row.userID=session.userID ∧ row.expiresAt=session.expiresAt

theorem OnFile.of_row (h : s.row sid=some session) : OnFile s session := ⟨session,row_sid h ▸ h,rfl,rfl⟩

theorem OnFile.of_mem (hinv : ChainInv config origin s) (h : session∈s.rows) : OnFile s session :=
  .of_row (Keyed.lookup_of_mem hinv.unique h)

theorem OnFile.mono (h : OnFile s session) (hle : Moves s s') : OnFile s' session := by
  obtain ⟨row,hrow,huser,hexpires⟩ := h
  obtain ⟨row',hrow',huser',hexpires',-⟩ := hle.rows session.sid row hrow
  exact ⟨row',hrow',huser'.trans huser,hexpires'.trans hexpires⟩

theorem OnFile.backed (h : OnFile s session) {entry : CacheEntry} (hsid : entry.sid=session.sid) (huser : entry.userID=session.userID)
    (hexpires : entry.expiresAt=session.expiresAt) (hopen : entry.status=.active → entry.revokedAt=0) : Backed s entry := by
  obtain ⟨row,hrow,huser',hexpires'⟩ := h
  exact ⟨row,hsid ▸ hrow,huser.trans huser'.symm,hexpires.trans hexpires'.symm,hopen⟩

theorem token_ne (h : call.token config=some (sid,secret)) : sid≠"" := by
  have hsplit : ∀ raw, splitRefreshToken config raw=some (sid,secret) → sid≠"" := by
    intro raw hraw
    rw [splitRefreshToken] at hraw
    split at hraw
    · cases hraw
    split at hraw
    · cases hraw
    rename_i hparts
    split at hraw
    · cases hraw
    cases hraw
    exact fun hempty => hparts (.inl hempty)
  cases call with
  | refresh raw _ => exact hsplit raw h
  | revokeByToken raw _ _ => exact hsplit raw h
  | _ => cases h

theorem token_sid (htoken : call.token config=some (sid,secret)) : ∀ token∈call.token config, token.1=sid := by
  intro token hsome
  rw [htoken,mem_def,Option.some.injEq] at hsome
  rw [← hsome]

theorem Replays.judged (h : Replays config call s) (htoken : ∀ token∈call.token config, token.1=sid) (hrow : s.row sid=some row) :
    ∃ secret, call.token config=some (sid,secret) ∧ Replayed row (hashRefreshSecret config secret) (unix s.now) := by
  obtain ⟨-,⟨sid',secret⟩,hsome,row',hrow',hreplayed⟩ := h
  obtain rfl : sid'=sid := htoken _ hsome
  rw [hrow,Option.some.injEq] at hrow'
  exact ⟨secret,hsome,hrow' ▸ hreplayed⟩

theorem not_replays (htoken : ∀ token∈call.token config, token.1=sid) (hrow : s.row sid=some row)
    (h : row.status≠.active ∨ row.expiresAt≤unix s.now) : ¬Replays config call s := by
  intro hreplays
  obtain ⟨secret,-,hreplayed⟩ := hreplays.judged htoken hrow
  obtain hdenied | hexpired := h
  · exact hdenied hreplayed.active
  · exact absurd hreplayed.unexpired (not_lt.mpr hexpired)

theorem unix_mono (hle : Moves s s') : unix s.now≤unix s'.now := Int.ediv_le_ediv (by decide) hle.now

theorem turned_of_dead (hinv : ChainInv config origin s') (hle : Moves s s') (htoken : ∀ token∈call.token config, token.1=sid)
    (hrow : s'.row sid=some row) {now : Int} (hnow : now≤unix s'.now)
    (h : row.status≠.active ∨ row.revokedAt≠0 ∨ row.expiresAt≤now) : Turned config origin call s s' := by
  refine hinv.turned hle (not_replays htoken hrow ?_)
  obtain hdenied | hrevoked | hexpired := h
  · exact .inl hdenied
  · exact .inl fun hactive => hrevoked (hinv.active sid row hrow hactive)
  · exact .inr (le_trans hexpired hnow)

theorem turned_of_revoked (hinv : ChainInv config origin s') (hle : Moves s s')
    (htoken : ∀ token∈call.token config, token.1=sid) (h : Revoked s' sid) : Turned config origin call s s' := by
  obtain ⟨row,hrow,hdenied⟩ := h
  exact hinv.turned hle (not_replays htoken hrow (.inl hdenied))

variable {next : WriteResult → Code}

structure Written (config : SessionConfig) (origin : String → String → Prop) (call : LoginCall) (s s' : AuthStore)
    (entry : CacheEntry) (mark : WriteMark) (result : WriteResult) : Prop where
  fence : mark=.fence → entry.status≠.active → result=.written
  inactive : result=.inactive → Turned config origin call s s' ∨ entry.status=.active ∧ entry.expiresAt≤unix s'.now
  denied : entry.status≠.active → result=.written ∨ result=.inactive

theorem orderly_write {entry : CacheEntry} {cacheDeadline : Option Int} {mark : WriteMark} (hbacked : Backed s entry)
    (h : Onward config origin s fun s' => ∀ result, Written config origin call s s' entry mark result →
      Orderly config origin call Q (next result) s') :
    Orderly config origin call Q (writeUserSessionCache config entry cacheDeadline mark next) s := by
  have hexpired : ∀ {now : Int}, entry.expiresAt*1000000000-now≤0 → entry.expiresAt≤unix now := by
    intro now hnow
    exact Int.le_ediv_of_mul_le (by decide) (by omega)
  apply orderly_clock
  intro s1 hle1 hinv1
  dsimp only
  split
  next hactive =>
    have hnext : Onward config origin s fun s' => ∀ result, (result=.inactive → Turned config origin call s s' ∨
        entry.expiresAt≤unix s'.now) → Orderly config origin call Q (next result) s' := by
      intro s' hle hinv result hinactive
      refine h s' hle hinv result ⟨fun _ hdenied => absurd hactive hdenied,fun hresult => ?_,fun hdenied => absurd hactive hdenied⟩
      exact (hinactive hresult).imp_right fun he => ⟨hactive,he⟩
    cases cacheDeadline with
    | none => exact hnext s1 hle1 hinv1 .invalid WriteResult.noConfusion
    | some deadline =>
      dsimp only
      split
      · exact hnext s1 hle1 hinv1 .stale WriteResult.noConfusion
      split
      next hpast => exact hnext s1 hle1 hinv1 .inactive fun _ => .inr (hexpired hpast)
      split
      · exact hnext s1 hle1 hinv1 .stale WriteResult.noConfusion
      apply orderly_script (hbacked.mono hle1)
      intro s2 hle2 hinv2 written _ hrefused
      have hle := hle1.trans hle2
      split
      next hunwritten =>
        exact hnext s2 hle hinv2 .inactive fun _ => .inl ((hrefused (by simpa using hunwritten)).earlier hle1)
      apply orderly_clock
      intro s3 hle3 hinv3
      split
      · exact hnext s3 (hle.trans hle3) hinv3 .stale WriteResult.noConfusion
      split
      next hpast => exact hnext s3 (hle.trans hle3) hinv3 .inactive fun _ => .inr (hexpired (by omega))
      · exact hnext s3 (hle.trans hle3) hinv3 .written WriteResult.noConfusion
  next hdenied =>
    apply orderly_script (hbacked.mono hle1)
    intro s2 hle2 hinv2 written hwritten hrefused
    apply h s2 (hle1.trans hle2) hinv2
    cases written with
    | true => exact ⟨fun _ _ => rfl,fun hresult => (WriteResult.noConfusion hresult),fun _ => .inl rfl⟩
    | false =>
      refine ⟨fun hfence hdenied => absurd (hwritten hfence hdenied) Bool.false_ne_true,fun _ => ?_,fun _ => .inr rfl⟩
      exact .inl ((hrefused rfl).earlier hle1)

theorem orderly_denyFence {now : Int} {reason : String} {mark : WriteMark} (hseen : OnFile s session)
    (h : Onward config origin s fun s' => ∀ result, (mark=.fence → result=.written) →
      (result=.written ∨ Turned config origin call s s') → Orderly config origin call Q (next result) s') :
    Orderly config origin call Q (writeUserSessionDenyFence config session now reason mark next) s := by
  apply orderly_write (hseen.backed rfl rfl rfl SessionStatus.noConfusion)
  intro s' hle hinv result hwritten
  refine h s' hle hinv result (fun hfence => hwritten.fence hfence SessionStatus.noConfusion) ?_
  refine (hwritten.denied SessionStatus.noConfusion).imp_right fun hresult => ?_
  exact (hwritten.inactive hresult).resolve_right fun hactive => SessionStatus.noConfusion hactive.1

theorem length_filter_le_one (hinv : ChainInv config origin s) {select : UserSession → Bool}
    (hselect : ∀ row, select row=true → row.sid=sid) : (s.rows.filter select).length≤1 := by
  have hkeys : (s.rows.filter select).map (·.sid)=List.replicate (s.rows.filter select).length sid := by
    refine eq_replicate_iff.mpr ⟨length_map _,fun key hkey => ?_⟩
    obtain ⟨row,hrow,rfl⟩ := mem_map.mp hkey
    exact hselect row (mem_filter.mp hrow).2
  have hnodup : ((s.rows.filter select).map (·.sid)).Nodup := hinv.unique.sublist (filter_sublist.map _)
  rw [hkeys] at hnodup
  exact nodup_replicate.mp hnodup

theorem orderly_confirm {next : Bool → Code}
    (h : Onward config origin s fun s' => ∀ confirmed : Bool, (confirmed=false → Turned config origin call s s') →
      Orderly config origin call Q (next confirmed) s') :
    Orderly config origin call Q (confirmUserSessionActiveSnapshot session next) s := by
  apply orderly_clock
  intro s1 hle1 _
  apply orderly_select
  intro s2 hle2 hinv2 hfound
  refine h s2 (hle1.trans hle2) hinv2 _ fun hunconfirmed => hinv2.turned (hle1.trans hle2) fun hreplays => ?_
  have hpos := length_pos_of_ne_nil (hfound hreplays)
  have honly : ∀ row : UserSession, (row.sid=session.sid && row.userID=session.userID && row.live (unix s1.now) &&
      row.revokedAt=0 && row.version=session.version && row.userAuthVersion=session.userAuthVersion)=true →
      row.sid=session.sid := by
    intro row hrow
    simp only [Bool.and_eq_true,decide_eq_true_eq] at hrow
    exact hrow.1.1.1.1.1
  exact of_decide_eq_false hunconfirmed (le_antisymm (length_filter_le_one hinv2 honly) hpos)

structure Gotten (s : AuthStore) (sid : String) (session : UserSession) : Prop where
  sid : session.sid=sid
  seen : OnFile s session
  active : session.status=.active
  unrevoked : session.revokedAt=0

theorem Gotten.mono (h : Gotten s sid session) (hle : Moves s s') : Gotten s' sid session where
  sid := h.sid
  seen := h.seen.mono hle
  active := h.active
  unrevoked := h.unrevoked

theorem orderly_load {next : GetResult → Code} (htoken : ∀ token∈call.token config, token.1=sid)
    (h : Onward config origin s fun s' => ∀ result, (∀ session, result=.session session → Gotten s' sid session) →
      ((∀ session, result≠.session session) → Turned config origin call s s') → Orderly config origin call Q (next result) s') :
    Orderly config origin call Q (loadUserSession config sid next) s := by
  have hrefused : Onward config origin s fun s' => ∀ result, (∀ session, result≠.session session) →
      Turned config origin call s s' → Orderly config origin call Q (next result) s' :=
    fun s' hle hinv result hnone hturned => h s' hle hinv result (fun session he => absurd he (hnone session)) fun _ => hturned
  have hfailed : ∀ session, GetResult.failed≠.session session := fun _ => GetResult.noConfusion
  have hinactive : ∀ session, GetResult.inactive≠.session session := fun _ => GetResult.noConfusion
  apply orderly_clock
  intro s1 hle1 _
  apply orderly_select
  intro s2 hle2 hinv2 hfound
  have hle := hle1.trans hle2
  split
  next hnone =>
    exact hrefused s2 hle hinv2 .failed hfailed (hinv2.turned hle fun hreplays => hfound hreplays (head?_eq_none_iff.mp hnone))
  rename_i session hhead
  obtain ⟨hrow,hsid⟩ := head_query hinv2.unique sid (fun row hrow => of_decide_eq_true hrow) hhead
  have hseen : OnFile s2 session := .of_row hrow
  apply orderly_clock
  intro s3 hle3 hinv3
  split
  next hdead =>
    have hturned : Turned config origin call s s3 := by
      obtain ⟨row3,hrow3,-,hexpires,hdenied⟩ := hle3.rows sid session hrow
      refine turned_of_dead hinv3 (hle.trans hle3) htoken hrow3 (le_refl _) ?_
      obtain hstatus | hrevoked | hexpired := hdead
      · exact .inl (hdenied hstatus)
      · exact .inl (hdenied fun hactive => hrevoked (hinv2.active sid session hrow hactive))
      · exact .inr (.inr (hexpires ▸ hexpired))
    apply orderly_write ((hseen.mono hle3).backed rfl rfl rfl SessionStatus.noConfusion)
    intro s4 hle4 hinv4 _ _
    exact hrefused s4 ((hle.trans hle3).trans hle4) hinv4 .inactive hinactive (hturned.mono hle4)
  next hlive =>
    simp only [not_or,not_not,not_le] at hlive
    have hgotten : Gotten s3 sid session := ⟨hsid,hseen.mono hle3,hlive.1,hlive.2.1⟩
    apply orderly_write (hgotten.seen.backed rfl rfl rfl fun _ => hlive.2.1)
    intro s4 hle4 hinv4 result hwritten
    have hgiven : Onward config origin s4 fun s' => Orderly config origin call Q (next (.session session)) s' := by
      intro s' hle' hinv'
      refine h s' (((hle.trans hle3).trans hle4).trans hle') hinv' _ ?_ fun hnone => absurd rfl (hnone session)
      rintro found ⟨⟩
      exact hgotten.mono (hle4.trans hle')
    have hle := (hle.trans hle3).trans hle4
    cases result with
    | stale =>
      apply orderly_confirm
      intro s5 hle5 hinv5 confirmed hconfirmed
      cases confirmed with
      | true => exact hgiven s5 hle5 hinv5
      | false => exact hrefused s5 (hle.trans hle5) hinv5 _ hinactive ((hconfirmed rfl).earlier hle)
    | inactive =>
      refine hrefused s4 hle hinv4 _ hinactive ?_
      obtain hturned | ⟨-,hexpired⟩ := hwritten.inactive rfl
      · exact hturned.earlier ((hle1.trans hle2).trans hle3)
      · obtain ⟨row4,hrow4,-,hexpires⟩ := hgotten.seen.mono hle4
        exact turned_of_dead hinv4 hle htoken (hsid ▸ hrow4) (le_refl _) (.inr (.inr (hexpires ▸ hexpired)))
    | written | invalid => exact hgiven s4 (Moves.refl s4) hinv4

theorem orderly_get {next : GetResult → Code} (htoken : ∀ token∈call.token config, token.1=sid)
    (h : Onward config origin s fun s' => ∀ result, (∀ session, result=.session session → Gotten s' sid session) →
      ((∀ session, result≠.session session) → Turned config origin call s s') → Orderly config origin call Q (next result) s')
    (hinv : ChainInv config origin s) :
    Orderly config origin call Q (getUserSessionCached config sid next) s := by
  have hload : Onward config origin s fun s' => Orderly config origin call Q (loadUserSession config sid next) s' :=
    fun s' hle _ => orderly_load htoken fun s'' hle' hinv'' result hgotten hturned =>
      h s'' (hle.trans hle') hinv'' result hgotten fun hnone => (hturned hnone).earlier hle
  rw [getUserSessionCached]
  split
  next hempty =>
    refine h s (Moves.refl s) hinv .failed (fun _ => GetResult.noConfusion) fun _ => hinv.turned (Moves.refl s) fun hreplays => ?_
    obtain ⟨-,⟨sid',secret⟩,hsome,-⟩ := hreplays
    exact token_ne hsome ((htoken _ hsome).trans hempty)
  apply orderly_cached
  intro s1 hle1 hinv1 entry hbacked hactive
  cases entry with
  | none => exact hload s1 hle1 hinv1
  | some entry =>
    dsimp only
    split
    · exact hload s1 hle1 hinv1
    rename_i hvalid
    simp only [CacheEntry.valid,Bool.not_eq_true',Bool.not_eq_false,Bool.and_eq_true,decide_eq_true_eq] at hvalid
    obtain ⟨row,hrow,huser,hexpires,hopen⟩ := hbacked entry rfl
    obtain rfl := hvalid.1.1.1
    apply orderly_clock
    intro s2 hle2 hinv2
    have hle := hle1.trans hle2
    split
    next hdead =>
      refine h s2 hle hinv2 .inactive (fun _ => GetResult.noConfusion) fun _ => ?_
      by_cases hstatus : entry.status=.active
      · obtain ⟨row2,hrow2,-,hexpires2,-⟩ := hle2.rows _ row hrow
        obtain hdenied | hrevoked | hexpired := hdead
        · exact absurd hstatus hdenied
        · exact absurd (hopen hstatus) hrevoked
        · refine turned_of_dead hinv2 hle htoken hrow2 (le_refl _) (.inr (.inr ?_))
          rw [hexpires2,← hexpires]
          exact hexpired
      · exact (hinv1.turned hle1 fun hreplays => hstatus (hactive hreplays entry rfl)).mono hle2
    next hlive =>
      simp only [not_or,not_not,not_le] at hlive
      refine h s2 hle hinv2 _ ?_ fun hnone => absurd rfl (hnone entry.session)
      rintro session ⟨⟩
      have hseen : OnFile s1 entry.session := ⟨row,hrow,huser.symm,hexpires.symm⟩
      exact ⟨rfl,hseen.mono hle2,hlive.1,hlive.2.1⟩

end Calls

/-- Between two states the row of the session was active with the digest as its current or its previous one. -/
def Held (s s' : AuthStore) (sid digest : String) : Prop :=
  ∃ s₁ row, Moves s s₁ ∧ ChainInv config origin s₁ ∧ Moves s₁ s' ∧ s₁.row sid=some row ∧ row.status=.active ∧
    (row.refreshHash=digest ∨ row.previousRefreshHash≠"" ∧ row.previousRefreshHash=digest)

structure Outcome (s s' : AuthStore) (sid digest nextHash : String) (rotation : Rotation) : Prop where
  rotated : ∀ row, rotation.result=.rotated row → Held config origin s s' sid digest ∧ nextHash∈s'.hashes sid
  race : ∀ row, rotation.result=.race row → Held config origin s s' sid digest ∧ row.refreshHash∈s'.hashes sid
  replayed : ∀ row now, rotation.judged=some (row,now) → Replayed row digest now → Revoked s' sid

section Rotations
variable {config origin call Q} {s : AuthStore} {sid digest nextHash secret : String}
variable {s' s'' : AuthStore}

theorem Held.earlier (h : Held config origin s' s'' sid digest) (hle : Moves s s') : Held config origin s s'' sid digest := by
  obtain ⟨s1,row,hle1,hinv,hle2,hrow⟩ := h
  exact ⟨s1,row,hle.trans hle1,hinv,hle2,hrow⟩

variable {rotation : Rotation}

theorem Outcome.earlier (h : Outcome config origin s' s'' sid digest nextHash rotation) (hle : Moves s s') :
    Outcome config origin s s'' sid digest nextHash rotation where
  rotated row hresult := (h.rotated row hresult).imp_left (·.earlier hle)
  race row hresult := (h.race row hresult).imp_left (·.earlier hle)
  replayed := h.replayed

def RotateResult.refuses : RotateResult → Bool
  | .rotated _ | .race _ => false
  | _ => true

theorem outcome_refused (hrefuses : rotation.result.refuses=true)
    (hjudged : ∀ row now, rotation.judged=some (row,now) → Replayed row digest now → Revoked s' sid) :
    Outcome config origin s s' sid digest nextHash rotation where
  rotated row h := by rw [h] at hrefuses; cases hrefuses
  race row h := by rw [h] at hrefuses; cases hrefuses
  replayed := hjudged

variable {row : UserSession} {now : Int}

theorem outcome_unreplayed (hjudged : rotation.judged=some (row,now)) (h : ¬Replayed row digest now) :
    ∀ row now, rotation.judged=some (row,now) → Replayed row digest now → Revoked s' sid := by
  intro row' now' hjudged' hreplayed
  rw [hjudged,Option.some.injEq,Prod.mk.injEq] at hjudged'
  obtain ⟨rfl,rfl⟩ := hjudged'
  exact absurd hreplayed h

theorem ChainInv.current_mem (hinv : ChainInv config origin s) (hrow : s.row sid=some row) : row.refreshHash∈s.hashes sid := by
  obtain ⟨⟨older,hhashes,-⟩,-⟩ := hinv.chain sid row hrow
  rw [hhashes]
  exact mem_cons_self

theorem ChainInv.previous_mem (hinv : ChainInv config origin s) (hrow : s.row sid=some row)
    (hknown : row.previousRefreshHash≠"") : row.previousRefreshHash∈s.hashes sid := by
  obtain ⟨⟨older,hhashes,hprevious⟩,-⟩ := hinv.chain sid row hrow
  cases older with
  | nil => exact absurd hprevious hknown
  | cons digest older =>
    rw [hhashes,hprevious]
    exact mem_cons_of_mem _ mem_cons_self

variable {graceSeconds : Int} {userID : Nat}

theorem ChainInv.mem_rotated (hinv : ChainInv config origin s) {p : UserSession → Bool} (hrow : s.row sid=some row)
    (hselected : row∈s.rows.filter p) (nextHash : String) (now graceSeconds : Int) :
    nextHash∈(s.update p (.rotate nextHash now graceSeconds)).hashes sid := by
  simp only [AuthStore.update]
  rw [if_pos ((mem_selected hinv.unique).mpr ⟨row,hrow,(mem_filter.mp hselected).2⟩)]
  exact mem_cons_self

theorem revoked_update (hinv : ChainInv config origin s) (reason : String) (hrow : s.row sid=some row)
    (huser : row.userID=userID) (hexpires : now<row.expiresAt) :
    Revoked (s.update (fun row => row.sid=sid && row.userID=userID && row.live now && row.revokedAt=0)
      (.revoke now reason)) sid := by
  refine ⟨_,by rw [row_update,hrow,map_some],?_⟩
  split
  · exact SessionStatus.noConfusion
  rename_i hunselected
  intro hactive
  apply hunselected
  simp [row_sid hrow,huser,UserSession.live,hactive,hexpires,hinv.active sid row hrow hactive]

theorem orderly_revocation {session : UserSession} {reason : String} {unchanged changed : Code}
    (hdigest : config.Collisionless) (hissued : ∀ token∈call.token config, Issued config s token) (hfile : OnFile s session)
    (hsid : session.sid=sid) (huser : session.userID=userID) (hexpires : now<session.expiresAt)
    (h : Onward config origin s fun s' => Revoked s' sid →
      Orderly config origin call Q unchanged s' ∧ Orderly config origin call Q changed s') :
    Orderly config origin call Q (update (fun row => row.sid=sid && row.userID=userID && row.live now && row.revokedAt=0)
      (.revoke now reason) fun rows => if rows=[] then unchanged else
        writeUserSessionCache config (session.revoke now reason).cacheEntry none .final fun _ => changed) s := by
  apply orderly_update hdigest
  · intro row hrow
    simp only [Bool.and_eq_true] at hrow
    exact active_of_live hrow.1.2
  · intro s' hle _ _ _ _ token htoken
    exact hle.mem (hissued token htoken)
  · intro row _ next hnext
    cases hnext
  intro s1 hle1 hinv1 hle2 hinv2
  have hle := hle1.trans hle2
  obtain ⟨row,hrow,huser',hexpires'⟩ := hfile.mono hle1
  have hdone := revoked_update hinv1 reason (hsid ▸ hrow) (huser'.trans huser) (hexpires' ▸ hexpires)
  split
  · exact (h _ hle hinv2 hdone).1
  apply orderly_write ((hfile.mono hle).backed rfl rfl rfl SessionStatus.noConfusion)
  intro s3 hle3 hinv3 _ _
  exact (h s3 (hle.trans hle3) hinv3 (hdone.mono hle3)).2

/-- A replayed secret that is still the previous one is past its window later on as well. -/
theorem still_replayed (htoken : call.token config=some (sid,secret)) (hsecret : hashRefreshSecret config secret=digest)
    (hinv : ChainInv config origin s) (hle : Moves s s') (hinv' : ChainInv config origin s') (hrow : s'.row sid=some row) :
    Turned config origin call s s' ∨ Replayed row digest (unix s.now) := by
  obtain hturned | ⟨hreplays,-⟩ : Turned config origin call s s ∨ _ := turned_or hinv (Moves.refl s)
  · exact .inl (hturned.mono hle)
  obtain hturned | ⟨hreplays',hsame⟩ : Turned config origin call s s' ∨ _ := turned_or hinv' hle
  · exact .inl hturned
  obtain ⟨row0,hrow0⟩ : ∃ row, s.row sid=some row := by
    obtain ⟨-,token,hsome,row0,hrow0,-⟩ := hreplays
    exact ⟨row0,token_sid htoken token hsome ▸ hrow0⟩
  obtain ⟨secret0,hsome0,hreplayed0⟩ := hreplays.judged (token_sid htoken) hrow0
  obtain ⟨secret2,hsome2,hreplayed2⟩ := hreplays'.judged (token_sid htoken) hrow
  rw [htoken,Option.some.injEq,Prod.mk.injEq] at hsome0 hsome2
  rw [← hsome2.2,hsecret] at hreplayed2
  have hkept := hle.kept sid row0 row hrow0 hrow (hsame _ htoken)
  exact .inr { hreplayed2 with unexpired := lt_of_le_of_lt (unix_mono hle) hreplayed2.unexpired, late := hkept ▸ hreplayed0.late }

theorem ChainInv.next_current (hinv : ChainInv config origin s) (hdigest : config.Collisionless) (hrow : s.row sid=some row)
    (hprevious : row.previousRefreshHash=hashRefreshSecret config secret) (hknown : row.previousRefreshHash≠"") :
    row.refreshHash=hashRefreshSecret config (deriveNextRefreshSecret config sid secret) := by
  obtain ⟨⟨older,hhashes,holder⟩,-⟩ := hinv.chain sid row hrow
  obtain ⟨start,n,-,hchain,hcurrent⟩ := hinv.current hrow
  rw [hchain] at hhashes
  cases n with
  | zero =>
    rw [chainHashes,List.cons.injEq] at hhashes
    rw [← hhashes.2] at holder
    exact absurd holder hknown
  | succ n =>
    obtain ⟨older',hrest⟩ := chainHashes_eq config sid start n
    rw [chainHashes,hrest,List.cons.injEq] at hhashes
    rw [hprevious,← hhashes.2,headD_cons] at holder
    rw [hcurrent,secretAt_succ,hdigest.hash holder]

variable {next : Rotation → Code} (hdigest : config.Collisionless) (htoken : call.token config=some (sid,secret))
  (hrefreshes : call.refreshes=true) (hsecret : hashRefreshSecret config secret=digest)
  (hnext : hashRefreshSecret config (deriveNextRefreshSecret config sid secret)=nextHash)
include hdigest htoken hrefreshes hsecret hnext

theorem orderly_attempts (hnonempty : nextHash≠"") {base : AuthStore} (hbase : ChainInv config origin base)
    (hnow : now=unix base.now) {attempts : Nat} (hbegun : Moves base s)
    (hlast : attempts=0 → Turned config origin call base s) (h : Onward config origin s fun s' => ∀ rotation,
      Outcome config origin s s' sid digest nextHash rotation → Turned config origin call base s' →
      Orderly config origin call Q (next rotation) s')
    (hinv : ChainInv config origin s) :
    Orderly config origin call Q (rotateAttempts config userID sid digest nextHash now graceSeconds next attempts) s := by
  have htokens : ∀ {s' : AuthStore}, digest∈s'.hashes sid →
      ∀ token∈call.token config, Issued config s' token := by
    intro s' hmem token hsome
    rw [htoken,mem_def,Option.some.injEq] at hsome
    rw [← hsome]
    rwa [Issued,hsecret]
  induction attempts generalizing s with
  | zero => exact h s (Moves.refl s) hinv _ (outcome_refused rfl (by simp)) (hlast rfl)
  | succ attempts ih =>
    apply orderly_clock
    intro s1 hle1 _
    apply orderly_select
    intro s2 hle2 hinv2 hfound
    have hle := hle1.trans hle2
    have hbegun2 := hbegun.trans hle
    split
    next hnone =>
      refine h s2 hle hinv2 _ (outcome_refused rfl (by simp)) (hinv2.turned hbegun2 fun hreplays => ?_)
      exact hfound hreplays (head?_eq_none_iff.mp hnone)
    rename_i session hhead
    obtain ⟨hrow,hsid⟩ := head_query hinv2.unique sid (fun row hrow => of_decide_eq_true (Bool.and_eq_true_iff.mp hrow).1) hhead
    have huser : session.userID=userID := by
      have hselected := (mem_filter.mp (mem_of_head? hhead)).2
      exact of_decide_eq_true (Bool.and_eq_true_iff.mp hselected).2
    have hexit : ¬Replayed session digest now → Turned config origin call base s2 := by
      rw [hnow]
      exact (still_replayed htoken hsecret hbase hbegun2 hinv2 hrow).resolve_right
    split
    next hdead =>
      have hreplayed : ¬Replayed session digest now := by
        intro hreplayed
        obtain hdead | hdead | hdead := hdead
        · exact hdead hreplayed.active
        · exact hdead hreplayed.unrevoked
        · exact absurd hreplayed.unexpired (not_lt.mpr hdead)
      exact h s2 hle hinv2 _ (outcome_refused rfl (outcome_unreplayed rfl hreplayed)) (hexit hreplayed)
    rename_i hlive
    simp only [not_or,not_not,not_le] at hlive
    split
    next hcurrent =>
      have hreplayed : ¬Replayed session digest now := fun hreplayed => hreplayed.rotated hcurrent
      apply orderly_update hdigest
      · intro row hrow
        simp only [Bool.and_eq_true] at hrow
        exact active_of_live hrow.1.1.2
      · intro s' _ hinv' row hmem hselect
        simp only [Bool.and_eq_true,decide_eq_true_eq] at hselect
        apply htokens
        rw [← hselect.2]
        apply hinv'.current_mem
        rw [← hselect.1.1.1.1]
        exact Keyed.lookup_of_mem hinv'.unique hmem
      · intro row hselect next hwritten
        simp only [Bool.and_eq_true,decide_eq_true_eq] at hselect
        rw [Edit.newHashes,mem_singleton] at hwritten
        exact ⟨secret,by rw [hselect.1.1.1.1,htoken],hrefreshes,hselect.2.trans hsecret.symm,
          by rw [hselect.1.1.1.1,hwritten,hnext],hwritten ▸ hnonempty⟩
      intro s3 hle3 hinv3 hle4 hinv4
      have hle := hle.trans hle3
      have hturned := (hexit hreplayed).mono (hle3.trans hle4)
      split
      · exact ih (hbegun.trans (hle.trans hle4)) (fun _ => hturned) (fun s' hle' hinv' rotation houtcome hturned' =>
          h s' ((hle.trans hle4).trans hle') hinv' rotation (houtcome.earlier (hle.trans hle4)) hturned') hinv4
      rename_i hchanged
      obtain ⟨row,hselected⟩ := exists_mem_of_ne_nil _ hchanged
      obtain ⟨hmem,hselect⟩ := mem_filter.mp hselected
      simp only [Bool.and_eq_true,decide_eq_true_eq] at hselect
      have hrow3 : s3.row sid=some row := by
        rw [← hselect.1.1.1.1]
        exact Keyed.lookup_of_mem hinv3.unique hmem
      have hnew := hinv3.mem_rotated hrow3 hselected nextHash now graceSeconds
      have hheld : ∀ {s' : AuthStore}, Moves s3 s' → Held config origin s s' sid digest :=
        fun hle' => ⟨s3,row,hle,hinv3,hle',hrow3,active_of_live hselect.1.1.2,.inl hselect.2⟩
      have hrotated : ∀ {s'' : AuthStore} (rotation : Rotation), Moves s3 s'' → nextHash∈s''.hashes sid →
          rotation.judged=some (session,now) → (∀ row, rotation.result≠.race row) →
          Outcome config origin s s'' sid digest nextHash rotation := by
        intro s'' rotation hle' hmem' hjudged hrace
        exact ⟨fun _ _ => ⟨hheld hle',hmem'⟩,fun row h => absurd h (hrace row),outcome_unreplayed hjudged hreplayed⟩
      apply orderly_write (((OnFile.of_row hrow).mono (hle3.trans hle4)).backed rfl rfl rfl fun _ => hlive.2.1)
      intro s5 hle5 hinv5 result _
      have hle := (hle.trans hle4).trans hle5
      cases result with
      | stale =>
        apply orderly_confirm
        intro s6 hle6 hinv6 confirmed _
        refine h s6 (hle.trans hle6) hinv6 _ ?_ (hturned.mono (hle5.trans hle6))
        cases confirmed with
        | true | false =>
          exact hrotated _ (hle4.trans (hle5.trans hle6)) ((hle5.trans hle6).mem hnew) rfl fun _ => RotateResult.noConfusion
      | inactive | written | invalid =>
        exact h s5 hle hinv5 _ (hrotated _ (hle4.trans hle5) (hle5.mem hnew) rfl fun _ => RotateResult.noConfusion)
          (hturned.mono hle5)
    rename_i hstale
    split
    next hunknown =>
      have hreplayed : ¬Replayed session digest now := by
        intro hreplayed
        obtain hunknown | hunknown := hunknown
        · exact hreplayed.known hunknown
        · exact hunknown hreplayed.previous
      exact h s2 hle hinv2 _ (outcome_refused rfl (outcome_unreplayed rfl hreplayed)) (hexit hreplayed)
    rename_i hknown
    rw [not_or,not_not] at hknown
    have hmem : digest∈s2.hashes sid := by
      rw [← hknown.2]
      exact hinv2.previous_mem hrow hknown.1
    split
    next hwithin =>
      have hreplayed : ¬Replayed session digest now := fun hreplayed => absurd hreplayed.late (not_lt.mpr hwithin)
      refine h s2 hle hinv2 _ ?_ (hexit hreplayed)
      refine ⟨fun _ => RotateResult.noConfusion,?_,outcome_unreplayed rfl hreplayed⟩
      rintro row ⟨⟩
      exact ⟨⟨s2,session,hle,hinv2,Moves.refl s2,hrow,hlive.1,.inr hknown⟩,hinv2.current_mem hrow⟩
    apply orderly_denyFence (.of_row hrow)
    intro s3 hle3 hinv3 result hwritten _
    rw [hwritten rfl]
    apply orderly_revocation hdigest (htokens (hle3.mem hmem)) ((OnFile.of_row hrow).mono hle3) hsid huser hlive.2.2
    intro s4 hle4 hinv4 hdone
    have hle := (hle.trans hle3).trans hle4
    have hturned := turned_of_revoked hinv4 (hbegun.trans hle) (token_sid htoken) hdone
    exact ⟨h s4 hle hinv4 _ (outcome_refused rfl fun _ _ _ _ => hdone) hturned,
      h s4 hle hinv4 _ (outcome_refused rfl fun _ _ _ _ => hdone) hturned⟩

theorem orderly_rotate (hwho : ∃ row, s.row sid=some row ∧ row.userID=userID) (hgrace : 0≤graceSeconds) (hnow : now=unix s.now)
    (h : Onward config origin s fun s' => ∀ rotation, Outcome config origin s s' sid digest nextHash rotation →
      Turned config origin call s s' → Orderly config origin call Q (next rotation) s')
    (hinv : ChainInv config origin s) :
    Orderly config origin call Q (rotateUserSessionRefresh config userID sid digest nextHash now graceSeconds next) s := by
  rw [rotateUserSessionRefresh]
  split
  next hinvalid =>
    refine h s (Moves.refl s) hinv _ (outcome_refused rfl (by simp)) (hinv.turned (Moves.refl s) fun hreplays => ?_)
    obtain ⟨row,hrow,huser⟩ := hwho
    obtain ⟨secret',hsome,hreplayed⟩ := hreplays.judged (token_sid htoken) hrow
    rw [htoken,Option.some.injEq,Prod.mk.injEq] at hsome
    rw [← hsome.2] at hreplayed
    have hcurrent := hinv.next_current hdigest hrow hreplayed.previous hreplayed.known
    rw [hnext] at hcurrent
    obtain ⟨hfilled,hhash⟩ := hinv.filled sid row hrow
    obtain hzero | hempty | hempty | hempty | hsame | hnegative := hinvalid
    · exact hfilled (huser.trans hzero)
    · exact token_ne htoken hempty
    · exact hreplayed.known (hreplayed.previous.trans (hsecret.trans hempty))
    · exact hhash (hcurrent.trans hempty)
    · exact hreplayed.rotated (hcurrent.trans (hsame.symm.trans hsecret.symm))
    · exact absurd hgrace (not_le.mpr hnegative)
  next hvalid =>
    simp only [not_or] at hvalid
    split
    · apply orderly_clock
      intro s1 hle1 hinv1
      exact orderly_attempts hdigest htoken hrefreshes hsecret hnext hvalid.2.2.2.1 hinv1 rfl (Moves.refl s1) (by simp)
        (fun s' hle hinv' rotation houtcome hturned =>
          h s' (hle1.trans hle) hinv' rotation (houtcome.earlier hle1) (hturned.earlier hle1)) hinv1
    · exact orderly_attempts hdigest htoken hrefreshes hsecret hnext hvalid.2.2.2.1 hinv hnow (Moves.refl s) (by simp) h hinv

end Rotations

end NewApi.Sessions
