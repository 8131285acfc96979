import NewApi.Sessions.Rotation

/-! The whole calls: what a call with a refresh token returns, and that every call keeps the chains. -/
namespace NewApi.Sessions
open Option Programs
open SessionCall (program)
open GoStrings (trimSpace)

variable (config : SessionConfig) (origin : String → String → Prop) (call : LoginCall) (Q : AuthStore → SessionResult → Prop)

section Others
variable {config origin call Q} {s : AuthStore} {sid secret : String}
variable {userID : Nat} {reason : String} {next : Bool → Code}

section
variable (hdigest : config.Collisionless)
include hdigest

theorem orderly_revoke (hissued : ∀ token∈call.token config, Issued config s token)
    (h : Onward config origin s fun s' => ∀ revoked, ((∃ row, s.row sid=some row ∧ row.userID=userID) →
      (∀ token∈call.token config, token.1=sid) → Turned config origin call s s') → Orderly config origin call Q (next revoked) s')
    (hinv : ChainInv config origin s) : Orderly config origin call Q (revokeUserSession config userID sid reason next) s := by
  rw [revokeUserSession]
  split
  next hinvalid =>
    refine h s (Moves.refl s) hinv false fun ⟨row,hrow,huser⟩ htoken => hinv.turned (Moves.refl s) fun hreplays => ?_
    obtain ⟨secret,hsome,-⟩ := hreplays.judged htoken hrow
    obtain hzero | hempty := hinvalid
    · exact (hinv.filled sid row hrow).1 (huser.trans hzero)
    · exact token_ne hsome hempty
  apply orderly_clock
  intro s1 hle1 _
  apply orderly_select
  intro s2 hle2 hinv2 hfound
  have hle := hle1.trans hle2
  split
  next hnone =>
    exact h s2 hle hinv2 false fun _ _ => hinv2.turned hle fun hreplays => hfound hreplays (List.head?_eq_none_iff.mp hnone)
  rename_i candidate hhead
  obtain ⟨hrow,-⟩ := head_query hinv2.unique sid (fun row hrow => of_decide_eq_true (Bool.and_eq_true_iff.mp hrow).1) hhead
  have huser : candidate.userID=userID := by
    have hselected := (List.mem_filter.mp (List.mem_of_head? hhead)).2
    exact of_decide_eq_true (Bool.and_eq_true_iff.mp hselected).2
  split
  next hdead => exact h s2 hle hinv2 false fun _ htoken => turned_of_dead hinv2 hle htoken hrow (unix_mono hle2) hdead
  next hlive =>
  simp only [not_or,not_not,not_le] at hlive
  apply orderly_denyFence (.of_row hrow)
  intro s3 hle3 hinv3 result _ hwritten
  have hle := hle.trans hle3
  cases result with
  | written =>
    apply orderly_revocation hdigest (fun token htoken => hle.mem (hissued token htoken)) ((OnFile.of_row hrow).mono hle3)
      (row_sid hrow) huser hlive.2.2
    intro s4 hle4 hinv4 hdone
    have hle := hle.trans hle4
    exact ⟨h s4 hle hinv4 false fun _ htoken => turned_of_revoked hinv4 hle htoken hdone,
      h s4 hle hinv4 true fun _ htoken => turned_of_revoked hinv4 hle htoken hdone⟩
  | stale | inactive | invalid =>
    refine h s3 hle hinv3 false fun _ _ => ?_
    exact (hwritten.resolve_left WriteResult.noConfusion).earlier (hle1.trans hle2)

theorem orderly_revokeByHash (htoken : call.token config=some (sid,secret))
    (h : Onward config origin s fun s' => ∀ revoked : Bool,
      (revoked=true → Held config origin s s' sid (hashRefreshSecret config secret)) →
      Orderly config origin call Q (next revoked) s') (hinv : ChainInv config origin s) :
    Orderly config origin call Q (revokeUserSessionByRefreshHash config sid (hashRefreshSecret config secret) reason next) s := by
  have hfalse : Onward config origin s fun s' => Orderly config origin call Q (next false) s' :=
    fun s' hle' hinv' => h s' hle' hinv' false Bool.noConfusion
  rw [revokeUserSessionByRefreshHash]
  split
  · exact hfalse s (Moves.refl s) hinv
  apply orderly_clock
  intro s1 hle1 _
  apply orderly_query
  intro s2 hle2 hinv2
  have hle := hle1.trans hle2
  split
  · exact hfalse s2 hle hinv2
  rename_i session hhead
  obtain ⟨hrow,hsid⟩ := head_query hinv2.unique sid (fun row hrow => of_decide_eq_true hrow) hhead
  split
  · exact hfalse s2 hle hinv2
  rename_i hlive
  simp only [not_or,not_not,not_le] at hlive
  split
  · exact hfalse s2 hle hinv2
  rename_i hpresented
  have hholds : session.refreshHash=hashRefreshSecret config secret ∨
      session.previousRefreshHash≠"" ∧ session.previousRefreshHash=hashRefreshSecret config secret := by
    by_contra hne
    rw [not_or,not_and] at hne
    apply hpresented
    refine ⟨hne.1,?_⟩
    by_cases hnone : session.previousRefreshHash=""
    · exact .inl hnone
    · exact .inr (.inr (hne.2 hnone))
  have hmem : hashRefreshSecret config secret∈s2.hashes sid := by
    obtain hcurrent | ⟨hknown,hprevious⟩ := hholds
    · rw [← hcurrent]
      exact hinv2.current_mem hrow
    · rw [← hprevious]
      exact hinv2.previous_mem hrow hknown
  apply orderly_denyFence (.of_row hrow)
  intro s3 hle3 hinv3 result _ _
  have hle' := hle.trans hle3
  cases result with
  | written =>
    apply orderly_update hdigest
    · intro row hrow
      rw [of_decide_eq_true hrow]
      exact hlive.1
    · intro s' hle'' _ _ _ _ token hsome
      rw [htoken,mem_def,Option.some.injEq] at hsome
      rw [← hsome]
      exact (hle3.trans hle'').mem hmem
    · intro row _ next hnext
      cases hnext
    intro s4 hle4 _ hle5 hinv5
    have hle'' := (hle'.trans hle4).trans hle5
    split
    · exact hfalse _ hle'' hinv5
    apply orderly_write (((OnFile.of_row hrow).mono ((hle3.trans hle4).trans hle5)).backed rfl rfl rfl SessionStatus.noConfusion)
    intro s6 hle6 hinv6 _ _
    refine h s6 (hle''.trans hle6) hinv6 true fun _ => ?_
    exact ⟨s2,session,hle,hinv2,((hle3.trans hle4).trans hle5).trans hle6,hrow,hlive.1,hholds⟩
  | stale | inactive | invalid => exact hfalse s3 hle' hinv3

theorem orderly_advance {expectedSessionVersion expectedUserAuthVersion nextUserAuthVersion : Int}
    {next : Option UserSession → Code} (htoken : call.token config=none)
    (h : Onward config origin s fun s' => ∀ session, Orderly config origin call Q (next session) s')
    (hinv : ChainInv config origin s) :
    Orderly config origin call Q (advanceUserSessionAuthVersion config userID sid expectedSessionVersion
      expectedUserAuthVersion nextUserAuthVersion next) s := by
  rw [advanceUserSessionAuthVersion]
  split
  · exact h s (Moves.refl s) hinv none
  apply orderly_clock
  intro s1 hle1 _
  apply orderly_clock
  intro s2 hle2 _
  apply orderly_update hdigest
  · intro row hrow
    simp only [Bool.and_eq_true] at hrow
    exact active_of_live hrow.1.1.2
  · intro s' _ _ _ _ _
    simp [htoken]
  · intro row _ next hnext
    cases hnext
  intro s3 hle3 hinv3 hle4 hinv4
  have hle := ((hle1.trans hle2).trans hle3).trans hle4
  split
  · exact h _ hle hinv4 none
  rename_i row hhead
  obtain ⟨hmem,hselected⟩ := List.mem_filter.mp (List.mem_of_head? hhead)
  have hrow := Keyed.lookup_of_mem hinv3.unique hmem
  have hopen : row.revokedAt=0 := by
    simp only [Bool.and_eq_true] at hselected
    exact hinv3.active _ row hrow (active_of_live hselected.1.1.2)
  apply orderly_write (((OnFile.of_mem hinv3 hmem).mono hle4).backed rfl rfl rfl fun _ => hopen)
  intro s5 hle5 hinv5 result _
  cases result with
  | stale =>
    apply orderly_confirm
    intro s6 hle6 hinv6 confirmed _
    exact h s6 ((hle.trans hle5).trans hle6) hinv6 _
  | inactive | written | invalid => exact h s5 (hle.trans hle5) hinv5 _

end

variable {now : Int} {login : Login}

theorem orderly_denyFences {next : Code} {sessions : List UserSession} (hseen : ∀ session∈sessions, OnFile s session)
    (hinv : ChainInv config origin s)
    (h : Onward config origin s fun s' => Orderly config origin call Q next s') :
    Orderly config origin call Q (denyFences config now reason next sessions) s := by
  induction sessions generalizing s with
  | nil => exact h s (Moves.refl s) hinv
  | cons session sessions ih =>
    apply orderly_denyFence (hseen session List.mem_cons_self)
    intro s' hle hinv' _ _ _
    exact ih (fun other hother => (hseen other (List.mem_cons_of_mem _ hother)).mono hle) hinv' (h.mono hle)

theorem orderly_tombstones {next : Code} {rows : List UserSession} (hseen : ∀ row∈rows, OnFile s row)
    (hinv : ChainInv config origin s)
    (h : Onward config origin s fun s' => Orderly config origin call Q next s') :
    Orderly config origin call Q (tombstones config now reason next rows) s := by
  induction rows generalizing s with
  | nil => exact h s (Moves.refl s) hinv
  | cons row rows ih =>
    apply orderly_write ((hseen row List.mem_cons_self).backed rfl rfl rfl SessionStatus.noConfusion)
    intro s' hle hinv' _ _
    exact ih (fun other hother => (hseen other (List.mem_cons_of_mem _ hother)).mono hle) hinv' (h.mono hle)

theorem orderly_rounds {excludedSID : String} {rounds : Nat} {revoked : List String}
    (hdigest : config.Collisionless) (htoken : call.token config=none) (hQ : ∀ s' result, Q s' result)
    (hinv : ChainInv config origin s) :
    Orderly config origin call Q (revokeRounds config userID excludedSID reason now rounds revoked) s := by
  induction rounds generalizing s revoked with
  | zero => exact hQ s _
  | succ rounds ih =>
    apply orderly_query
    intro s1 _ hinv1
    dsimp only
    split
    · exact hQ s1 _
    apply orderly_denyFences _ hinv1
    rotate_left
    · intro session hsession
      have hmem := (List.perm_insertionSort _ _).mem_iff.mp (List.mem_of_mem_take hsession)
      exact .of_mem hinv1 (List.mem_filter.mp hmem).1
    intro s2 _ _
    apply orderly_update hdigest
    · intro row hrow
      exact of_decide_eq_true (Bool.and_eq_true_iff.mp hrow).2
    · intro s' _ _ _ _ _
      simp [htoken]
    · intro row _ next hnext
      cases hnext
    intro s3 _ hinv3 hle4 hinv4
    apply orderly_tombstones (fun row hrow => (OnFile.of_mem hinv3 (List.mem_filter.mp hrow).1).mono hle4) hinv4
    intro s5 _ hinv5
    exact ih hinv5

theorem orderly_evict {next : List UserSession → Code} {left : Nat} {evicted : List UserSession}
    (hQ : ∀ s' result, Q s' result) (hevicted : ∀ row∈evicted, row.status=.active ∧ OnFile s row) (hinv : ChainInv config origin s)
    (h : Onward config origin s fun s' => ∀ evicted : List UserSession, (∀ row∈evicted, row.status=.active ∧ OnFile s' row) →
      Orderly config origin call Q (next evicted) s') :
    Orderly config origin call Q (evict config login next left evicted) s := by
  induction left generalizing s evicted with
  | zero => exact h s (Moves.refl s) hinv evicted hevicted
  | succ left ih =>
    apply orderly_query
    intro s1 hle1 hinv1
    split
    · exact hQ s1 _
    rename_i candidate hcandidate
    obtain ⟨hmem,hlive⟩ := List.mem_filter.mp (List.argmin_mem hcandidate)
    simp only [Bool.and_eq_true] at hlive
    have hseen : OnFile s1 candidate := .of_mem hinv1 hmem
    apply orderly_denyFence hseen
    intro s2 hle2 hinv2 result _ _
    cases result with
    | written =>
      apply ih _ hinv2 (h.mono (hle1.trans hle2))
      intro row hrow
      obtain hrow | hrow := List.mem_append.mp hrow
      · exact (hevicted row hrow).imp_right (·.mono (hle1.trans hle2))
      rw [List.mem_singleton.mp hrow]
      exact ⟨active_of_live hlive.1.2,hseen.mono hle2⟩
    | stale | inactive | invalid => exact hQ s2 _

theorem orderly_create (hdigest : config.Collisionless) (htoken : call.token config=none)
    (hQ : ∀ s' result, Q s' result) (horigin : origin login.sid secret)
    (hhash : login.refreshHash=hashRefreshSecret config secret) :
    Orderly config origin call Q (createUserSessionWithLimits config login) s := by
  rw [createUserSessionWithLimits]
  split
  · exact hQ s _
  rename_i hvalid
  have hfilled : login.session.userID≠0 ∧ login.session.refreshHash≠"" := by
    simp only [Login.valid,Bool.not_eq_true',Bool.not_eq_false,Bool.and_eq_true,decide_eq_true_eq] at hvalid
    exact ⟨hvalid.1.1.1.2,hvalid.1.2⟩
  apply orderly_user
  intro s1 _ _ view _ _
  split
  · exact hQ s1 _
  apply orderly_query
  intro s2 _ _
  split
  · exact hQ s2 _
  apply orderly_query
  intro s3 _ hinv3
  apply orderly_evict hQ (by simp) hinv3
  intro s4 _ _ evicted hevicted
  apply orderly_admit hdigest htoken (fun row hrow => (hevicted row hrow).1) horigin hhash rfl rfl hfilled
  intro s5 hle5 hinv5 admitted hadmitted
  split
  · exact hQ s5 _
  rename_i hnew
  have hseen : OnFile s5 login.session := hadmitted (by simpa using hnew)
  apply orderly_tombstones (fun row hrow => (hevicted row hrow).2.mono hle5) hinv5
  intro s6 hle6 _
  apply orderly_clock
  intro s7 hle7 _
  apply orderly_write ((hseen.mono (hle6.trans hle7)).backed rfl rfl rfl fun _ => rfl)
  intro s8 _ _ result _
  cases result with
  | stale =>
    apply orderly_confirm
    intro s9 _ _ confirmed _
    exact hQ s9 _
  | inactive | written | invalid => exact hQ s8 _

end Others

structure TokenOutcome (s s' : AuthStore) (token : String×String) (result : SessionResult) : Prop where
  refreshed : ∀ next, result.refreshed=some next → next=deriveNextRefreshSecret config token.1 token.2 ∧
      Held config origin s s' token.1 (hashRefreshSecret config token.2) ∧ hashRefreshSecret config next∈s'.hashes token.1
  revoked : call.refreshes=false → result.revoked≠[] → Held config origin s s' token.1 (hashRefreshSecret config token.2)
  replayed : ∀ row now, result.judged=some (row,now) → Replayed row (hashRefreshSecret config token.2) now →
    Revoked s' token.1
  turned : ∀ rawRefreshToken expectedSID, call=.refresh rawRefreshToken expectedSID →
    (trimSpace expectedSID="" ∨ trimSpace expectedSID=token.1) → Turned config origin call s s'

section Tokens
variable {config origin call Q} {s : AuthStore} {s' : AuthStore}

theorem tokenOutcome_refused {token : String×String} {result : SessionResult}
    (hrefreshes : call.refreshes=true) (hrefreshed : result.refreshed=none) (hjudged : result.judged=none)
    (hturned : ∀ rawRefreshToken expectedSID, call=.refresh rawRefreshToken expectedSID →
      (trimSpace expectedSID="" ∨ trimSpace expectedSID=token.1) → Turned config origin call s s') :
    TokenOutcome config origin call s s' token result where
  turned := hturned
  refreshed next h := by
    rw [hrefreshed] at h
    cases h
  revoked h := by
    rw [hrefreshes] at h
    cases h
  replayed row now h := by
    rw [hjudged] at h
    cases h

theorem tokenOutcome_rotation {sid secret : String} {rotation : Rotation} (hrefreshes : call.refreshes=true)
    (h : Outcome config origin s s' sid (hashRefreshSecret config secret)
      (hashRefreshSecret config (deriveNextRefreshSecret config sid secret)) rotation)
    (hturned : Turned config origin call s s') :
    TokenOutcome config origin call s s' (sid,secret)
      { rotation.refreshResult config sid (deriveNextRefreshSecret config sid secret) with judged := rotation.judged } where
  refreshed next hnext := by
    rw [Rotation.refreshResult] at hnext
    split at hnext
    next row hresult =>
      obtain rfl := Option.some.inj hnext
      obtain ⟨hheld,hmem⟩ := h.rotated row hresult
      exact ⟨rfl,hheld,hmem⟩
    next row hresult =>
      obtain ⟨hheld,hmem⟩ := h.race row hresult
      split at hnext
      next hcurrent =>
        obtain rfl := Option.some.inj hnext
        exact ⟨rfl,hheld,hcurrent ▸ hmem⟩
      · cases hnext
    · cases hnext
    · cases hnext
    · cases hnext
    · cases hnext
  revoked h := by
    rw [hrefreshes] at h
    cases h
  replayed := h.replayed
  turned _ _ _ _ := hturned

section
variable (hdigest : config.Collisionless)
include hdigest

theorem orderly_refresh (rawRefreshToken expectedSID : String) (hcall : call=.refresh rawRefreshToken expectedSID)
    (hQ : Onward config origin s fun s' => ∀ result,
      (∀ token∈call.token config, TokenOutcome config origin call s s' token result) → Q s' result)
    (hinv : ChainInv config origin s) :
    Orderly config origin call Q (refreshLoginSession config rawRefreshToken expectedSID) s := by
  have hrefreshes : call.refreshes=true := by
    rw [hcall]
    rfl
  rw [refreshLoginSession]
  cases hsplit : splitRefreshToken config rawRefreshToken with
  | none =>
    refine hQ s (Moves.refl s) hinv _ fun token htoken => ?_
    rw [hcall,LoginCall.token,hsplit] at htoken
    cases htoken
  | some token =>
    obtain ⟨sid,secret⟩ := token
    have htoken : call.token config=some (sid,secret) := by
      rw [hcall]
      exact hsplit
    have hsid := token_sid htoken
    have hrefused : Onward config origin s fun s' => ∀ result : SessionResult, result.refreshed=none → result.judged=none →
        Turned config origin call s s' → Q s' result :=
      fun s' hle hinv' result hrefreshed hjudged hturned =>
        hQ s' hle hinv' result fun _ _ => tokenOutcome_refused hrefreshes hrefreshed hjudged fun _ _ _ _ => hturned
    dsimp only
    split
    next hmismatch =>
      refine hQ s (Moves.refl s) hinv _ fun token hsome => tokenOutcome_refused hrefreshes rfl rfl ?_
      rintro raw expected hsame hexpected
      rw [hcall] at hsame
      obtain ⟨rfl,rfl⟩ := LoginCall.refresh.inj hsame
      rw [hsid token hsome] at hexpected
      exact absurd hmismatch fun hne => hexpected.elim hne.1 hne.2
    apply orderly_get hsid _ hinv
    intro s1 hle1 hinv1 result hgotten hturned
    cases result with
    | failed => exact hrefused s1 hle1 hinv1 _ rfl rfl (hturned fun _ => GetResult.noConfusion)
    | inactive => exact hrefused s1 hle1 hinv1 _ rfl rfl (hturned fun _ => GetResult.noConfusion)
    | session session =>
      have hgotten := hgotten session rfl
      have hwho : ∀ {s' : AuthStore}, Moves s1 s' → ∃ row, s'.row sid=some row ∧ row.userID=session.userID := by
        intro s' hle'
        obtain ⟨row,hrow,huser,-⟩ := hgotten.seen.mono hle'
        exact ⟨row,hgotten.sid ▸ hrow,huser⟩
      apply orderly_clock
      intro s2 hle2 hinv2
      have hle := hle1.trans hle2
      split
      next hdead =>
        refine hrefused s2 hle hinv2 _ rfl rfl ?_
        obtain ⟨row,hrow,-,hexpires⟩ := hgotten.seen.mono hle2
        obtain hdenied | hrevoked | hexpired := hdead
        · exact absurd hgotten.active hdenied
        · exact absurd hgotten.unrevoked hrevoked
        · exact turned_of_dead hinv2 hle hsid (hgotten.sid ▸ hrow) (le_refl _) (.inr (.inr (hexpires ▸ hexpired)))
      apply orderly_user
      intro s3 hle3 hinv3 view1 hview1 hfound1
      have hle := hle.trans hle3
      cases view1 with
      | none => exact hrefused s3 hle hinv3 _ rfl rfl (hinv3.turned hle fun hreplays => hfound1 hreplays rfl)
      | some userCache =>
        apply orderly_user
        intro s4 hle4 hinv4 view2 hview2 hfound2
        have hmoved := (hle2.trans hle3).trans hle4
        have hle := hle.trans hle4
        cases view2 with
        | none => exact hrefused s4 hle hinv4 _ rfl rfl (hinv4.turned hle fun hreplays => hfound2 hreplays rfl)
        | some currentUser =>
          dsimp only
          split
          next hchanged =>
            -- the user is another than the session was made for, so that the secret is not unknown
            have hissued : ∀ token∈call.token config, Issued config s4 token := by
              intro token hsome
              obtain hissued | hgood1 := hview1 hrefreshes token hsome
              · exact hle4.mem hissued
              obtain hissued | hgood2 := hview2 hrefreshes token hsome
              · exact hissued
              rw [hgood1 userCache rfl,hgood2 currentUser rfl] at hchanged
              simp at hchanged
            apply orderly_revoke hdigest hissued _ hinv4
            intro s5 hle5 hinv5 revoked hturned
            refine hrefused s5 (hle.trans hle5) hinv5 _ rfl rfl ((hturned ?_ ?_).earlier hle)
            · rw [hgotten.sid]
              exact hwho hmoved
            · rw [hgotten.sid]
              exact hsid
          · apply orderly_clock
            intro s5 hle5 hinv5
            apply orderly_rotate hdigest htoken hrefreshes rfl rfl (hwho (hmoved.trans hle5)) (by decide) rfl _ hinv5
            intro s6 hle6 hinv6 rotation houtcome hturned
            have hle := hle.trans hle5
            refine hQ s6 (hle.trans hle6) hinv6 _ fun token hsome => ?_
            rw [htoken,mem_def,Option.some.injEq] at hsome
            subst hsome
            exact tokenOutcome_rotation hrefreshes (houtcome.earlier hle) (hturned.earlier hle)

theorem orderly_revokeByToken (rawRefreshToken expectedSID reason : String)
    (hcall : call=.revokeByToken rawRefreshToken expectedSID reason) (hQ : Onward config origin s fun s' => ∀ result,
      (∀ token∈call.token config, TokenOutcome config origin call s s' token result) → Q s' result)
    (hinv : ChainInv config origin s) :
    Orderly config origin call Q (revokeByRefreshToken config rawRefreshToken expectedSID reason) s := by
  have hresult : ∀ {s' : AuthStore} {token : String×String} {result : SessionResult}, result.refreshed=none →
      result.judged=none → (result.revoked≠[] → Held config origin s s' token.1 (hashRefreshSecret config token.2)) →
      TokenOutcome config origin call s s' token result := by
    intro s' token result hrefreshed hjudged hheld
    refine ⟨fun next h => ?_,fun _ => hheld,fun row now h => ?_,fun raw expected hsame => ?_⟩
    · rw [hrefreshed] at h
      cases h
    · rw [hjudged] at h
      cases h
    · rw [hcall] at hsame
      cases hsame
  rw [revokeByRefreshToken]
  cases hsplit : splitRefreshToken config rawRefreshToken with
  | none => exact hQ s (Moves.refl s) hinv _ fun _ _ => hresult rfl rfl fun h => absurd rfl h
  | some token =>
    obtain ⟨sid,secret⟩ := token
    have htoken : call.token config=some (sid,secret) := by
      rw [hcall]
      exact hsplit
    dsimp only
    split
    · exact hQ s (Moves.refl s) hinv _ fun _ _ => hresult rfl rfl fun h => absurd rfl h
    apply orderly_revokeByHash hdigest htoken _ hinv
    intro s' hle hinv' revoked hheld
    refine hQ s' hle hinv' _ fun token hsome => hresult rfl rfl fun hne => ?_
    rw [htoken,mem_def,Option.some.injEq] at hsome
    subst hsome
    cases revoked with
    | false => exact absurd rfl hne
    | true => exact hheld rfl

theorem orderly_program (horigin : ∀ l refreshSecret, call=.login l refreshSecret → origin l.sid refreshSecret)
    (hnone : call.token config=none → ∀ s' result, Q s' result) (hQ : Onward config origin s fun s' => ∀ result,
      (∀ token∈call.token config, TokenOutcome config origin call s s' token result) → Q s' result)
    (hinv : ChainInv config origin s) : Orderly config origin call Q ((call.sessionCall config).program config) s := by
  cases call with
  | login l refreshSecret =>
    exact orderly_create hdigest rfl (hnone rfl) (horigin l refreshSecret rfl) rfl
  | get sid =>
    rw [LoginCall.sessionCall,program]
    apply orderly_get (fun token htoken => by cases htoken) _ hinv
    intro s' _ _ result _ _
    cases result with
    | _ => exact hnone rfl s' _
  | advance userID sid expectedSessionVersion expectedUserAuthVersion nextUserAuthVersion =>
    rw [LoginCall.sessionCall,program]
    apply orderly_advance hdigest rfl _ hinv
    intro s' _ _ session
    exact hnone rfl s' _
  | revoke userID sid reason =>
    rw [LoginCall.sessionCall,program]
    apply orderly_revoke hdigest _ _ hinv
    · intro token htoken
      cases htoken
    · intro s' _ _ revoked _
      exact hnone rfl s' _
  | revokeAll userID excludedSID reason rounds =>
    rw [LoginCall.sessionCall,program,revokeUserSessions]
    split
    · exact hnone rfl s _
    apply orderly_clock
    intro s' _ hinv'
    exact orderly_rounds hdigest rfl (hnone rfl) hinv'
  | refresh rawRefreshToken expectedSID =>
    rw [LoginCall.sessionCall,program]
    exact orderly_refresh hdigest rawRefreshToken expectedSID rfl hQ hinv
  | revokeByToken rawRefreshToken expectedSID reason =>
    rw [LoginCall.sessionCall,program]
    exact orderly_revokeByToken hdigest rawRefreshToken expectedSID reason rfl hQ hinv

end

end Tokens

end NewApi.Sessions
