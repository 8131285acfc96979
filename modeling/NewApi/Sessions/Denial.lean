import NewApi.Sessions.Fences

/-! What each call needs for the session it revokes to stay denied: the deadlines of its snapshots are dated before the
revocation, and the tombstones that end a revocation are not refused. -/
namespace NewApi.Sessions
open List Programs Threads Runs

/-- The row of a session is active when a deadline is taken late, and the cache has no version above that of a tombstone which is
written with the row as it was read before its lock. -/
def Timely (s : AuthStore) (c : AuthChoice) : AuthOp → Prop
  | .clock (some sid) => ∀ row∈s.row sid, row.status=.active
  | .script entry _ .final => ∀ stored∈(s.wait c.elapsed).visible entry.sid, stored.1.version≤entry.version
  | _ => True

instance Timely.decidable (s : AuthStore) (c : AuthChoice) : ∀ op, Decidable (Timely s c op)
  | .clock (some sid) => inferInstanceAs (Decidable (∀ row∈s.row sid, row.status=.active))
  | .script entry _ .final =>
    inferInstanceAs (Decidable (∀ stored∈(s.wait c.elapsed).visible entry.sid, stored.1.version≤entry.version))
  | .clock none => isTrue trivial
  | .user _ _ => isTrue trivial
  | .query _ => isTrue trivial
  | .update _ _ => isTrue trivial
  | .enroll _ _ _ => isTrue trivial
  | .cached _ => isTrue trivial
  | .script _ _ .fence => isTrue trivial
  | .script _ _ .other => isTrue trivial

variable (config : SessionConfig) (Q : AuthStore → SessionResult → Prop)

abbrev Secure (code : Code) (s : AuthStore) : Prop := Safe authExec StoreInv (Evolves config) Timely (fun _ _ => True) Q code s

def Hereafter (s : AuthStore) (P : AuthStore → Prop) : Prop := ∀ s', Evolves config s s' → StoreInv s' → P s'

section Operations
variable {config Q} {s : AuthStore}

theorem Hereafter.mono {s' : AuthStore} {P : AuthStore → Prop} (h : Hereafter config s P) (hle : Evolves config s s') :
    Hereafter config s' P :=
  fun s'' hle' hinv => h s'' (hle.trans hle') hinv

theorem secure_wait {op : AuthOp} {next : AuthAns op → Code}
    (hexec : ∀ s' c, Timely s' c op → StoreInv s' → Evolves config s s' →
      ∃ answer, authExec s' c op=(s'.wait c.elapsed,answer) ∧ Secure config Q (next answer) (s'.wait c.elapsed)) :
    Secure config Q (.call op next) s := by
  intro s' hinv hle c hok
  obtain ⟨answer,hanswer,hnext⟩ := hexec s' c hok hinv hle
  rw [hanswer]
  exact ⟨hinv.wait _,evolves_wait s' _,trivial,hnext⟩

variable {next : Int → Code}

theorem secure_clock (h : Hereafter config s fun s' => Secure config Q (next s'.now) s') :
    Secure config Q (readClock next) s := by
  apply secure_wait
  intro s' c _ hinv hle
  exact ⟨_,rfl,h _ (hle.trans (evolves_wait s' _)) (hinv.wait _)⟩

variable {row : UserSession}

theorem secure_late {sid : String} (hrow : s.row sid=some row)
    (h : Hereafter config s fun s' => s'.revokedAt sid=none → Secure config Q (next s'.now) s') :
    Secure config Q (.call (.clock (some sid)) next) s := by
  apply secure_wait
  intro s' c hok hinv hle
  obtain ⟨row',hrow',-⟩ := hle.rows sid row hrow
  exact ⟨_,rfl,h _ (hle.trans (evolves_wait s' _)) (hinv.wait _) ((hinv.active sid row' hrow').mp (hok row' hrow'))⟩

theorem secure_user {userID : Nat} {authVersion : Int} {next : Option UserView → Code}
    (h : Hereafter config s fun s' => ∀ view, Secure config Q (next view) s') :
    Secure config Q (.call (.user userID authVersion) next) s := by
  apply secure_wait
  intro s' c _ hinv hle
  exact ⟨_,rfl,h _ (hle.trans (evolves_wait s' _)) (hinv.wait _) _⟩

variable {select : UserSession → Bool}

theorem secure_query {next : List UserSession → Code}
    (h : Hereafter config s fun s' => Secure config Q (next (s'.rows.filter select)) s') :
    Secure config Q (query select next) s := by
  apply secure_wait
  intro s' c _ hinv hle
  exact ⟨_,rfl,h _ (hle.trans (evolves_wait s' _)) (hinv.wait _)⟩

theorem secure_cached {sid : String} {next : Option CacheEntry → Code}
    (h : Hereafter config s fun s' => Secure config Q (next ((s'.visible sid).map Prod.fst)) s') :
    Secure config Q (.call (.cached sid) next) s := by
  apply secure_wait
  intro s' c _ hinv hle
  exact ⟨_,rfl,h _ (hle.trans (evolves_wait s' _)) (hinv.wait _)⟩

def Changed (s : AuthStore) (edit : Edit) (row : UserSession) : Prop :=
  row.status=.active ∧ s.row row.sid=some (edit.apply row) ∧ (s.revokedAt row.sid=none ↔ edit.revokes=false)

theorem StoreInv.changed (h : StoreInv s) (hactive : ∀ row, select row=true → row.status=.active) (edit : Edit)
    (hrow : row∈s.rows.filter select) : Changed (s.update select edit) edit row := by
  obtain ⟨hmem,hselect⟩ := mem_filter.mp hrow
  have hrow := Keyed.lookup_of_mem h.unique hmem
  have hedited : (s.update select edit).row row.sid=some (edit.apply row) := by
    rw [row_update,AuthStore.row,hrow,Option.map_some,if_pos hselect]
  refine ⟨hactive row hselect,hedited,?_⟩
  rw [← (h.update hactive edit).active _ _ hedited]
  exact edit.status_apply (hactive row hselect)

theorem secure_update {edit : Edit} {next : List UserSession → Code} (hactive : ∀ row, select row=true → row.status=.active)
    (h : Hereafter config s fun s' => ∀ changed : List UserSession,
      (∀ row∈changed, select row=true ∧ Changed s' edit row) → Secure config Q (next changed) s') :
    Secure config Q (update select edit next) s := by
  intro s' hinv hle c _
  have hwait := hinv.wait c.elapsed
  have hupdate : Evolves config s' ((s'.wait c.elapsed).update select edit) :=
    (evolves_wait s' _).trans (hwait.evolves_update hactive edit)
  refine ⟨hwait.update hactive edit,hupdate,trivial,?_⟩
  apply h _ (hle.trans hupdate) (hwait.update hactive edit)
  intro row hrow
  exact ⟨(mem_filter.mp hrow).2,hwait.changed hactive edit hrow⟩

theorem secure_script {entry : CacheEntry} {expiration : Int} {mark : WriteMark} {next : Bool → Code}
    (hok : Hereafter config s fun s' => EntryOk config s' entry expiration)
    (h : Hereafter config s fun s' => ∀ written : Bool, (entry.status≠.active → s.revokedAt entry.sid≠none →
      (mark=.final ∨ ∃ row, s.row entry.sid=some row ∧ row.version=entry.version) → Fenced config s' entry.sid) →
      Secure config Q (next written) s') : Secure config Q (.call (.script entry expiration mark) next) s := by
  intro s' hinv hle c htimely
  have hwait := hinv.wait c.elapsed
  have hle' := hle.trans (evolves_wait s' c.elapsed)
  have hentry := hok _ hle' hwait
  obtain ⟨hinv',hscript⟩ := hwait.script hentry
  refine ⟨hinv',(evolves_wait s' _).trans hscript,trivial,?_⟩
  apply h _ (hle'.trans hscript) hinv'
  intro hdenied hrevoked hfinal
  obtain ⟨r,hr⟩ := Option.ne_none_iff_exists'.mp hrevoked
  apply hwait.tombstone hentry hdenied (by rw [hle'.revoked _ r hr]; exact Option.some_ne_none r)
  apply refuses_eq_false.mpr
  intro stored hstored
  refine ⟨fun hactive => absurd hactive hdenied,?_⟩
  obtain hfinal | ⟨row,hrow,hversion⟩ := hfinal
  · subst hfinal
    exact htimely stored hstored
  · obtain ⟨-,row',hrow',hle⟩ := hwait.entries _ stored hstored
    obtain ⟨row'',hrow'',-,-,hfrozen⟩ := hle'.rows _ row hrow
    rw [hrow',Option.some.injEq] at hrow''
    subst hrow''
    rw [← hversion,← hfrozen hrevoked]
    exact hle

def Stamped (s : AuthStore) (row : UserSession) : Prop :=
  s.revokedAt row.sid≠none ∧ ∃ row', s.row row.sid=some row' ∧ row'.version=row.version ∧ row'.expiresAt=row.expiresAt

theorem Stamped.mono {s' : AuthStore} (h : Stamped s row) (hle : Evolves config s s') : Stamped s' row := by
  obtain ⟨hrevoked,row',hrow',hversion,hexpires⟩ := h
  obtain ⟨r,hr⟩ := Option.ne_none_iff_exists'.mp hrevoked
  obtain ⟨row'',hrow'',hexpires',-,hfrozen⟩ := hle.rows _ row' hrow'
  exact ⟨by rw [hle.revoked _ r hr]; exact Option.some_ne_none r,row'',hrow'',(hfrozen hrevoked).trans hversion,
    hexpires'.trans hexpires⟩

theorem Changed.stamped {now : Int} {reason : String} (h : Changed s (.revoke now reason) row) : Stamped s row :=
  ⟨fun hnone => absurd (h.2.2.mp hnone) (by simp [Edit.revokes]),_,h.2.1,rfl,rfl⟩

theorem secure_admit {locked : List UserSession} {now : Int} {session : UserSession} {next : Bool → Code}
    (hlocked : ∀ row∈locked, row.status=.active) (hactive : session.status=.active)
    (h : Hereafter config s fun s' => ∀ admitted : Bool,
      (admitted=true → s'.row session.sid=some session ∧ ∀ row∈locked, Stamped s' row) → Secure config Q (next admitted) s') :
    Secure config Q (.call (.enroll locked now session) next) s := by
  intro s' hinv hle c _
  have hwait := hinv.wait c.elapsed
  have hle' := hle.trans (evolves_wait s' c.elapsed)
  rw [authExec]
  split
  next hadmits =>
    have hselect : ∀ row : UserSession, decide (row∈locked)=true → row.status=.active := by
      intro row hrow
      exact hlocked row (of_decide_eq_true hrow)
    have hupdate := hwait.update hselect (.revoke now "login_session_auto_evicted")
    have hevolves : Evolves config (s'.wait c.elapsed) ((s'.wait c.elapsed).update (fun row => decide (row∈locked))
        (.revoke now "login_session_auto_evicted")) := hwait.evolves_update hselect _
    have hnew : ((s'.wait c.elapsed).update (fun row => decide (row∈locked))
        (.revoke now "login_session_auto_evicted")).row session.sid=none := by
      rw [row_update,Option.map_eq_none_iff]
      exact hadmits.2
    refine ⟨hupdate.insert hnew hactive,((evolves_wait s' _).trans hevolves).trans (evolves_insert _ session),trivial,?_⟩
    apply h _ (hle'.trans (hevolves.trans (evolves_insert _ session))) (hupdate.insert hnew hactive)
    refine fun _ => ⟨row_insert_self hnew,fun row hrow => ?_⟩
    have hmem : row∈(s'.wait c.elapsed).rows := of_decide_eq_true (all_eq_true.mp hadmits.1 row hrow)
    obtain ⟨-,hedited,hrevoked⟩ := hwait.changed hselect (.revoke now "login_session_auto_evicted")
      (mem_filter.mpr ⟨hmem,decide_eq_true hrow⟩)
    exact ⟨fun hnone => absurd (hrevoked.mp hnone) (by simp [Edit.revokes]),_,row_insert hedited,rfl,rfl⟩
  · refine ⟨hwait,evolves_wait s' _,trivial,h _ hle' hwait false ?_⟩
    intro hfalse
    cases hfalse

end Operations

theorem unixMilli_mono {a b : Int} (h : a≤b) : unixMilli a≤unixMilli b := by
  simp only [unixMilli]
  omega

theorem cacheTTL_pos : 0<config.cacheTTL := by
  rw [SessionConfig.cacheTTL,userCacheTTLSeconds]
  split <;> omega

/-- A tombstone of a row that is revoked, at the version of the row or written at a step where the cache has none above its own. -/
def Final (s : AuthStore) (entry : CacheEntry) (mark : WriteMark) : Prop :=
  entry.status≠.active ∧ s.revokedAt entry.sid≠none ∧
    (mark=.final ∨ ∃ row, s.row entry.sid=some row ∧ row.version=entry.version)

section Calls
variable {config Q} {s : AuthStore}
variable {entry : CacheEntry} {mark : WriteMark}

theorem Final.mono {s' : AuthStore} (h : Final s entry mark) (hle : Evolves config s s') : Final s' entry mark := by
  obtain ⟨hdenied,hrevoked,hversion⟩ := h
  obtain ⟨r,hr⟩ := Option.ne_none_iff_exists'.mp hrevoked
  refine ⟨hdenied,by rw [hle.revoked _ r hr]; exact Option.some_ne_none r,hversion.imp_right ?_⟩
  rintro ⟨row,hrow,hversion⟩
  obtain ⟨row',hrow',-,-,hfrozen⟩ := hle.rows _ row hrow
  exact ⟨row',hrow',(hfrozen hrevoked).trans hversion⟩

theorem entryOk_snapshot {deadline : Int} (hseen : Seen s entry.sid entry.version entry.expiresAt)
    (hactive : entry.status=.active) (hdeadline : Vouched config s entry.sid deadline) :
    EntryOk config s entry (unixMilli (min deadline (entry.expiresAt*1000000000))) where
  seen := hseen
  snapshot _ := by
    refine ⟨unixMilli_mono (min_le_right _ _),fun r hr => unixMilli_mono ?_⟩
    exact (min_le_left _ _).trans (hdeadline.2 r hr)
  tombstone hdenied := absurd hactive hdenied

variable {now graceSeconds : Int}

theorem entryOk_tombstone {ttl : Int} (hseen : Seen s entry.sid entry.version entry.expiresAt)
    (hdenied : entry.status≠.active) (hnow : now ≤ s.now) (httl : ttl=min (entry.expiresAt*1000000000-now) config.cacheTTL) :
    EntryOk config s entry (max (unixMilli (if ttl≤0 then 1000000000 else ttl)) 1) where
  seen := hseen
  snapshot hactive := absurd hactive hdenied
  tombstone _ := by
    have hpos := cacheTTL_pos config
    rw [SessionConfig.cacheTTL] at *
    simp only [unixMilli]
    split <;> omega

variable {next : WriteResult → Code}

theorem secure_write {cacheDeadline : Option Int} (hseen : Seen s entry.sid entry.version entry.expiresAt)
    (hdeadline : entry.status=.active → ∀ deadline∈cacheDeadline, Vouched config s entry.sid deadline)
    (h : Hereafter config s fun s' => ∀ result, (Final s entry mark → Fenced config s' entry.sid) →
      Secure config Q (next result) s') : Secure config Q (writeUserSessionCache config entry cacheDeadline mark next) s := by
  apply secure_clock
  intro s1 hle1 hinv1
  dsimp only
  split
  next hactive =>
    have hnext : ∀ s', Evolves config s s' → StoreInv s' → ∀ result, Secure config Q (next result) s' :=
      fun s' hle hinv result => h s' hle hinv result fun hfinal => absurd hactive hfinal.1
    cases cacheDeadline with
    | none => exact hnext s1 hle1 hinv1 .invalid
    | some deadline =>
      dsimp only
      split
      · exact hnext s1 hle1 hinv1 .stale
      split
      · exact hnext s1 hle1 hinv1 .inactive
      split
      · exact hnext s1 hle1 hinv1 .stale
      apply secure_script
      · intro s2 hle2 _
        have hle := hle1.trans hle2
        exact entryOk_snapshot (hseen.mono hle) hactive ((hdeadline hactive deadline rfl).mono hle)
      · intro s2 hle2 hinv2 written _
        have hle := hle1.trans hle2
        split
        · exact hnext s2 hle hinv2 .inactive
        apply secure_clock
        intro s3 hle3 hinv3
        split
        · exact hnext s3 (hle.trans hle3) hinv3 .stale
        split
        · exact hnext s3 (hle.trans hle3) hinv3 .inactive
        · exact hnext s3 (hle.trans hle3) hinv3 .written
  next hdenied =>
    apply secure_script
    · intro s2 hle2 _
      exact entryOk_tombstone (hseen.mono (hle1.trans hle2)) hdenied hle2.now rfl
    · intro s2 hle2 hinv2 written hfenced
      apply h s2 (hle1.trans hle2) hinv2
      intro hfinal
      obtain ⟨-,hrevoked,hversion⟩ := hfinal.mono hle1
      exact hfenced hdenied hrevoked hversion

variable {session : UserSession}

theorem secure_confirm {next : Bool → Code}
    (h : Hereafter config s fun s' => ∀ confirmed, Secure config Q (next confirmed) s') :
    Secure config Q (confirmUserSessionActiveSnapshot session next) s := by
  apply secure_clock
  intro s1 hle1 _
  apply secure_query
  intro s2 hle2 hinv2
  exact h s2 (hle1.trans hle2) hinv2 _

variable {reason sid presentedHash nextHash : String}

theorem secure_denyFence (hseen : Seen s session.sid session.version session.expiresAt)
    (h : Hereafter config s fun s' => ∀ result, Secure config Q (next result) s') :
    Secure config Q (writeUserSessionDenyFence config session now reason mark next) s :=
  secure_write hseen (fun hactive => SessionStatus.noConfusion hactive) fun s' hle hinv result _ => h s' hle hinv result

variable {select : UserSession → Bool}

theorem seen_row {sid : String} {row : UserSession} (h : s.row sid=some row) : Seen s row.sid row.version row.expiresAt :=
  ⟨row,row_sid h ▸ h,Int.le_refl _,rfl⟩

theorem vouched_of_active {s' : AuthStore} (hle : Evolves config s s') (hactive : s'.revokedAt sid=none) :
    Vouched config s' sid (s.now+config.cacheTTL) := by
  refine ⟨Int.add_le_add_right hle.now _,fun r hr => ?_⟩
  rw [hactive] at hr
  cases hr

theorem Fenced.revoked (h : Fenced config s sid) : s.revokedAt sid≠none := by
  obtain ⟨r,-,hr,-⟩ := h
  rw [hr]
  exact Option.some_ne_none r

theorem secure_load {next : GetResult → Code}
    (h : Hereafter config s fun s' => ∀ result, (Fenced config s sid → ∀ session, result≠.session session) →
      Secure config Q (next result) s') : Secure config Q (loadUserSession config sid next) s := by
  apply secure_clock
  intro s1 hle1 _
  apply secure_query
  intro s2 hle2 hinv2
  have hle := hle1.trans hle2
  split
  · exact h s2 hle hinv2 .failed fun _ session => GetResult.noConfusion
  rename_i session hhead
  obtain ⟨hrow,hsid⟩ := head_query hinv2.unique sid (fun row hrow => of_decide_eq_true hrow) hhead
  apply secure_clock
  intro s3 hle3 _
  split
  · apply secure_write ((seen_row hrow).mono hle3) fun hactive => SessionStatus.noConfusion hactive
    intro s4 hle4 hinv4 _ _
    exact h s4 ((hle.trans hle3).trans hle4) hinv4 .inactive fun _ session => GetResult.noConfusion
  next hlive =>
    have hactive : s2.revokedAt sid=none := by
      apply (hinv2.active sid session hrow).mp
      by_contra hne
      exact hlive (.inl hne)
    have hopen : ¬Fenced config s sid := fun hf => (hle.fenced sid hf).revoked hactive
    have hnext : ∀ s', Evolves config s3 s' → StoreInv s' → ∀ result, Secure config Q (next result) s' :=
      fun s' hle' hinv result => h s' ((hle.trans hle3).trans hle') hinv result fun hf => absurd hf hopen
    apply secure_write ((seen_row hrow).mono hle3)
    · rintro-deadline hdeadline
      rw [Option.mem_def,Option.some.injEq] at hdeadline
      subst hdeadline
      rw [show session.cacheEntry.sid=sid from hsid]
      exact (vouched_of_active hle2 hactive).mono hle3
    · intro s4 hle4 hinv4 result _
      cases result with
      | stale =>
        apply secure_confirm
        intro s5 hle5 hinv5 confirmed
        exact hnext s5 (hle4.trans hle5) hinv5 _
      | inactive | written | invalid => exact hnext s4 hle4 hinv4 _

theorem secure_get {next : GetResult → Code}
    (h : Hereafter config s fun s' => ∀ result, (Fenced config s sid → ∀ session, result≠.session session) →
      Secure config Q (next result) s') (hinv : StoreInv s) : Secure config Q (getUserSessionCached config sid next) s := by
  rw [getUserSessionCached]
  split
  · exact h s (Evolves.refl s) hinv .failed fun _ session => GetResult.noConfusion
  apply secure_cached
  intro s1 hle1 hinv1
  have hload : Secure config Q (loadUserSession config sid next) s1 := by
    apply secure_load
    intro s' hle' hinv' result hresult
    exact h s' (hle1.trans hle') hinv' result fun hf => hresult (hle1.fenced sid hf)
  cases hvisible : s1.visible sid with
  | none => exact hload
  | some stored =>
    simp only [Option.map_some]
    split
    · exact hload
    apply secure_clock
    intro s2 hle2 hinv2
    split
    · exact h s2 (hle1.trans hle2) hinv2 .inactive fun _ session => GetResult.noConfusion
    rename_i hactive
    apply h s2 (hle1.trans hle2) hinv2
    intro hf
    obtain ⟨r,row,-,-,hdenied⟩ := hle1.fenced sid hf
    rw [hvisible] at hdenied
    exact absurd (.inl hdenied.1) hactive

theorem secure_final (hseen : Seen s session.sid session.version session.expiresAt) (hrevoked : s.revokedAt session.sid≠none)
    (h : Hereafter config s fun s' => ∀ result, Fenced config s' session.sid → Secure config Q (next result) s') :
    Secure config Q (writeUserSessionCache config (session.revoke now reason).cacheEntry none .final next) s := by
  apply secure_write
  · exact hseen
  · exact fun hactive => SessionStatus.noConfusion hactive
  intro s' hle hinv result hfenced
  exact h s' hle hinv result (hfenced ⟨SessionStatus.noConfusion,hrevoked,.inl rfl⟩)

theorem secure_revocation {done unchanged refused : Code} (hsid : session.sid=sid)
    (hseen : Seen s session.sid session.version session.expiresAt)
    (hselect : ∀ row, select row=true → row.sid=sid ∧ row.status=.active)
    (hrefused : Hereafter config s fun s' => Secure config Q refused s')
    (hunchanged : Hereafter config s fun s' => Secure config Q unchanged s')
    (hdone : Hereafter config s fun s' => Fenced config s' sid → Secure config Q done s') :
    Secure config Q (writeUserSessionDenyFence config session now reason mark fun
      | .written => update select (.revoke now reason) fun changed =>
        if changed=[] then unchanged
        else writeUserSessionCache config (session.revoke now reason).cacheEntry none .final fun _ => done
      | _ => refused) s := by
  apply secure_denyFence hseen
  intro s1 hle1 hinv1 result
  cases result with
  | written =>
    apply secure_update fun row hrow => (hselect row hrow).2
    intro s2 hle2 hinv2 changed hchanged
    have hle := hle1.trans hle2
    split
    · exact hunchanged s2 hle hinv2
    rename_i hne
    obtain ⟨row,hrow⟩ := exists_mem_of_ne_nil changed hne
    obtain ⟨hselected,hrow⟩ := hchanged row hrow
    apply secure_final (hseen.mono hle)
    · rw [hsid,← (hselect row hselected).1]
      exact hrow.stamped.1
    · intro s3 hle3 hinv3 _ hfenced
      exact hdone s3 (hle.trans hle3) hinv3 (hsid ▸ hfenced)
  | stale | inactive | invalid => exact hrefused s1 hle1 hinv1

variable {userID : Nat}

theorem secure_attempts {next : Rotation → Code} {attempts : Nat}
    (h : Hereafter config s fun s' => ∀ rotation : Rotation, (rotation.result=.reuse → Fenced config s' sid) →
      Secure config Q (next rotation) s') (hinv : StoreInv s) :
    Secure config Q (rotateAttempts config userID sid presentedHash nextHash now graceSeconds next attempts) s := by
  induction attempts generalizing s with
  | zero => exact h s (Evolves.refl s) hinv _ RotateResult.noConfusion
  | succ attempts ih =>
    apply secure_clock
    intro s1 hle1 _
    apply secure_query
    intro s2 hle2 hinv2
    have hle := hle1.trans hle2
    split
    · exact h s2 hle hinv2 _ RotateResult.noConfusion
    rename_i session hhead
    obtain ⟨hrow,hsid⟩ := head_query hinv2.unique sid (fun row hrow => of_decide_eq_true (Bool.and_eq_true_iff.mp hrow).1) hhead
    split
    · exact h s2 hle hinv2 _ RotateResult.noConfusion
    rename_i hlive
    have hactive : s2.revokedAt sid=none := by
      apply (hinv2.active sid session hrow).mp
      by_contra hne
      exact hlive (.inl hne)
    split
    · apply secure_update
      · intro row hrow
        simp only [Bool.and_eq_true] at hrow
        exact active_of_live hrow.1.1.2
      intro s3 hle3 hinv3 changed _
      split
      · exact ih (h.mono (hle.trans hle3)) hinv3
      have hnext : ∀ s', Evolves config s3 s' → StoreInv s' → ∀ rotation : Rotation, rotation.result≠.reuse →
          Secure config Q (next rotation) s' :=
        fun s' hle' hinv' rotation hne => h s' ((hle.trans hle3).trans hle') hinv' rotation fun hreuse => absurd hreuse hne
      apply secure_write ((seen_row hrow).mono hle3)
      · rintro-deadline hdeadline
        rw [Option.mem_def,Option.some.injEq] at hdeadline
        subst hdeadline
        rw [show (session.rotate nextHash now graceSeconds).cacheEntry.sid=sid from hsid]
        exact (vouched_of_active hle2 hactive).mono hle3
      · intro s4 hle4 hinv4 result _
        cases result with
        | stale =>
          apply secure_confirm
          intro s5 hle5 hinv5 confirmed
          cases confirmed with
          | true | false => exact hnext s5 (hle4.trans hle5) hinv5 _ RotateResult.noConfusion
        | inactive | written | invalid => exact hnext s4 hle4 hinv4 _ RotateResult.noConfusion
    split
    · exact h s2 hle hinv2 _ RotateResult.noConfusion
    split
    · exact h s2 hle hinv2 _ RotateResult.noConfusion
    apply secure_revocation hsid (seen_row hrow)
    · intro row hrow
      simp only [Bool.and_eq_true,decide_eq_true_eq] at hrow
      exact ⟨hrow.1.1.1,active_of_live hrow.1.2⟩
    · exact fun s' hle' hinv' => h s' (hle.trans hle') hinv' _ RotateResult.noConfusion
    · exact fun s' hle' hinv' => h s' (hle.trans hle') hinv' _ RotateResult.noConfusion
    · exact fun s' hle' hinv' hfenced => h s' (hle.trans hle') hinv' _ fun _ => hfenced

theorem secure_rotate {next : Rotation → Code}
    (h : Hereafter config s fun s' => ∀ rotation : Rotation, (rotation.result=.reuse → Fenced config s' sid) →
      Secure config Q (next rotation) s') (hinv : StoreInv s) :
    Secure config Q (rotateUserSessionRefresh config userID sid presentedHash nextHash now graceSeconds next) s := by
  rw [rotateUserSessionRefresh]
  split
  · exact h s (Evolves.refl s) hinv _ RotateResult.noConfusion
  split
  · apply secure_clock
    intro s1 hle1 hinv1
    exact secure_attempts (h.mono hle1) hinv1
  · exact secure_attempts h hinv

theorem secure_revoke {next : Bool → Code}
    (h : Hereafter config s fun s' => ∀ revoked : Bool, (revoked=true → Fenced config s' sid) →
      Secure config Q (next revoked) s') (hinv : StoreInv s) :
    Secure config Q (revokeUserSession config userID sid reason next) s := by
  have hfalse : Hereafter config s fun s' => Secure config Q (next false) s' :=
    fun s' hle' hinv' => h s' hle' hinv' false Bool.noConfusion
  rw [revokeUserSession]
  split
  · exact hfalse s (Evolves.refl s) hinv
  apply secure_clock
  intro s1 hle1 _
  apply secure_query
  intro s2 hle2 hinv2
  have hle := hle1.trans hle2
  split
  · exact hfalse s2 hle hinv2
  rename_i session hhead
  obtain ⟨hrow,hsid⟩ := head_query hinv2.unique sid (fun row hrow => of_decide_eq_true (Bool.and_eq_true_iff.mp hrow).1) hhead
  split
  · exact hfalse s2 hle hinv2
  apply secure_revocation hsid (seen_row hrow)
  · intro row hrow
    simp only [Bool.and_eq_true,decide_eq_true_eq] at hrow
    exact ⟨hrow.1.1.1,active_of_live hrow.1.2⟩
  · exact hfalse.mono hle
  · exact hfalse.mono hle
  · exact fun s' hle' hinv' hfenced => h s' (hle.trans hle') hinv' true fun _ => hfenced

theorem secure_tombstone {row : UserSession} (hrow : Stamped s row)
    (h : Hereafter config s fun s' => ∀ result, Fenced config s' row.sid → Secure config Q (next result) s') :
    Secure config Q (writeUserSessionCache config (row.revoke now reason).cacheEntry none .other next) s := by
  obtain ⟨hrevoked,row',hrow',hversion,hexpires⟩ := hrow
  apply secure_write
  · exact ⟨row',hrow',hversion.ge,hexpires⟩
  · exact fun hactive => SessionStatus.noConfusion hactive
  intro s' hle hinv result hfenced
  exact h s' hle hinv result (hfenced ⟨SessionStatus.noConfusion,hrevoked,.inr ⟨row',hrow',hversion⟩⟩)

theorem secure_revokeByHash {next : Bool → Code}
    (h : Hereafter config s fun s' => ∀ revoked : Bool, (revoked=true → Fenced config s' sid) →
      Secure config Q (next revoked) s') (hinv : StoreInv s) :
    Secure config Q (revokeUserSessionByRefreshHash config sid presentedHash reason next) s := by
  have hfalse : Hereafter config s fun s' => Secure config Q (next false) s' :=
    fun s' hle' hinv' => h s' hle' hinv' false Bool.noConfusion
  rw [revokeUserSessionByRefreshHash]
  split
  · exact hfalse s (Evolves.refl s) hinv
  apply secure_clock
  intro s1 hle1 _
  apply secure_query
  intro s2 hle2 hinv2
  have hle := hle1.trans hle2
  split
  · exact hfalse s2 hle hinv2
  rename_i session hhead
  obtain ⟨hrow,hsid⟩ := head_query hinv2.unique sid (fun row hrow => of_decide_eq_true hrow) hhead
  split
  · exact hfalse s2 hle hinv2
  rename_i hlive
  split
  · exact hfalse s2 hle hinv2
  apply secure_denyFence (seen_row hrow)
  intro s3 hle3 hinv3 result
  have hle := hle.trans hle3
  cases result with
  | written =>
    apply secure_update
    · intro row hrow
      rw [of_decide_eq_true hrow]
      by_contra hne
      exact hlive (.inl hne)
    intro s4 hle4 hinv4 changed hchanged
    have hle := hle.trans hle4
    split
    · exact hfalse s4 hle hinv4
    rename_i hne
    obtain ⟨row,hrow⟩ := exists_mem_of_ne_nil changed hne
    obtain ⟨hselected,hrow⟩ := hchanged row hrow
    rw [of_decide_eq_true hselected] at hrow
    apply secure_tombstone hrow.stamped
    intro s5 hle5 hinv5 _ hfenced
    exact h s5 (hle.trans hle5) hinv5 true fun _ => hsid ▸ hfenced
  | stale | inactive | invalid => exact hfalse s3 hle hinv3

theorem secure_advance {expectedSessionVersion expectedUserAuthVersion nextUserAuthVersion : Int}
    {next : Option UserSession → Code} (h : Hereafter config s fun s' => ∀ session, Secure config Q (next session) s')
    (hinv : StoreInv s) :
    Secure config Q (advanceUserSessionAuthVersion config userID sid expectedSessionVersion expectedUserAuthVersion
      nextUserAuthVersion next) s := by
  rw [advanceUserSessionAuthVersion]
  split
  · exact h s (Evolves.refl s) hinv none
  apply secure_clock
  intro s1 hle1 _
  apply secure_clock
  intro s2 hle2 _
  apply secure_update
  · intro row hrow
    simp only [Bool.and_eq_true] at hrow
    exact active_of_live hrow.1.1.2
  intro s3 hle3 hinv3 changed hchanged
  have hle := (hle1.trans hle2).trans hle3
  split
  · exact h s3 hle hinv3 none
  rename_i row hhead
  obtain ⟨-,-,hrow,hactive⟩ := hchanged row (mem_of_head? hhead)
  apply secure_write
  · exact ⟨_,hrow,Int.le_refl _,rfl⟩
  · rintro-deadline hdeadline
    rw [Option.mem_def,Option.some.injEq] at hdeadline
    subst hdeadline
    exact vouched_of_active (hle2.trans hle3) (hactive.mpr rfl)
  · intro s4 hle4 hinv4 result _
    cases result with
    | stale =>
      apply secure_confirm
      intro s5 hle5 hinv5 confirmed
      exact h s5 ((hle.trans hle4).trans hle5) hinv5 _
    | inactive | written | invalid => exact h s4 (hle.trans hle4) hinv4 _

theorem secure_denyFences {next : Code} {sessions : List UserSession}
    (hseen : ∀ session∈sessions, Seen s session.sid session.version session.expiresAt) (hinv : StoreInv s)
    (h : Hereafter config s fun s' => Secure config Q next s') :
    Secure config Q (denyFences config now reason next sessions) s := by
  induction sessions generalizing s with
  | nil => exact h s (Evolves.refl s) hinv
  | cons session sessions ih =>
    apply secure_denyFence (hseen session mem_cons_self)
    intro s' hle hinv' _
    apply ih (fun other hother => (hseen other (mem_cons_of_mem _ hother)).mono hle) hinv' (h.mono hle)

theorem secure_tombstones {next : Code} {rows : List UserSession} (hrows : ∀ row∈rows, Stamped s row) (hinv : StoreInv s)
    (h : Hereafter config s fun s' => (∀ row∈rows, Fenced config s' row.sid) → Secure config Q next s') :
    Secure config Q (tombstones config now reason next rows) s := by
  induction rows generalizing s with
  | nil =>
    apply h s (Evolves.refl s) hinv
    simp
  | cons row rows ih =>
    apply secure_tombstone (hrows row mem_cons_self)
    intro s1 hle1 hinv1 _ hfenced
    apply ih (fun other hother => (hrows other (mem_cons_of_mem _ hother)).mono hle1) hinv1
    intro s2 hle2 hinv2 hrest
    apply h s2 (hle1.trans hle2) hinv2
    exact forall_mem_cons.mpr ⟨hle2.fenced _ hfenced,hrest⟩

end Calls

end NewApi.Sessions
