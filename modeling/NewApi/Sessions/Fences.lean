import NewApi.Sessions.Rows

/-! A revoked session is denied. A snapshot of an active row expires a TTL after a moment before its revocation at the latest, and
a tombstone that is written after the revocation outlives it; once a tombstone is there, no later write makes the session
active. -/
namespace NewApi.Sessions
open Option Programs Threads Runs
open AuthStore (visible markRevoked refuses script)

variable (config : SessionConfig)

/-- When the last snapshot that was taken of an active row may expire: the row was revoked at `r` and expires at `expiresAt`. -/
def SessionConfig.bound (r expiresAt : Int) : Int := min (unixMilli (r+config.cacheTTL)) (unixMilli (expiresAt*1000000000))-1

def DeniedBy (bound now : Int) : Option (CacheEntry×Int) → Prop
  | some stored => stored.1.status≠.active ∧ bound ≤ stored.2
  | none => bound≤unixMilli now

def Fenced (s : AuthStore) (sid : String) : Prop :=
  ∃ r row, s.revokedAt sid=some r ∧ s.row sid=some row ∧ DeniedBy (config.bound r row.expiresAt) s.now (s.visible sid)

structure StoreInv (s : AuthStore) : Prop where
  unique : Keyed.Unique (·.sid) s.rows
  entries : ∀ sid, ∀ stored∈s.visible sid, stored.1.sid=sid ∧ ∃ row, s.row sid=some row ∧ stored.1.version≤row.version
  active : ∀ sid row, s.row sid=some row → (row.status=.active ↔ s.revokedAt sid=none)
  past : ∀ sid r, s.revokedAt sid=some r → r ≤ s.now ∧ ∃ row, s.row sid=some row

structure Evolves (s s' : AuthStore) : Prop where
  now : s.now ≤ s'.now
  rows : ∀ sid row, s.row sid=some row → ∃ row', s'.row sid=some row' ∧ row'.expiresAt=row.expiresAt ∧
    row.version≤row'.version ∧ (s.revokedAt sid≠none → row'.version=row.version)
  revoked : ∀ sid r, s.revokedAt sid=some r → s'.revokedAt sid=some r
  later : ∀ sid r, s.revokedAt sid=none → s'.revokedAt sid=some r → s.now≤r
  fenced : ∀ sid, Fenced config s sid → Fenced config s' sid

def Seen (s : AuthStore) (sid : String) (version expiresAt : Int) : Prop :=
  ∃ row, s.row sid=some row ∧ version≤row.version ∧ row.expiresAt=expiresAt

def Vouched (s : AuthStore) (sid : String) (deadline : Int) : Prop :=
  deadline ≤ s.now+config.cacheTTL ∧ ∀ r, s.revokedAt sid=some r → deadline≤r+config.cacheTTL

structure EntryOk (s : AuthStore) (entry : CacheEntry) (expiration : Int) : Prop where
  seen : Seen s entry.sid entry.version entry.expiresAt
  snapshot : entry.status=.active → expiration≤unixMilli (entry.expiresAt*1000000000) ∧
    ∀ r, s.revokedAt entry.sid=some r → expiration≤unixMilli (r+config.cacheTTL)
  tombstone : entry.status≠.active →
    min (unixMilli (s.now+config.cacheTTL)) (unixMilli (entry.expiresAt*1000000000)-1)≤unixMilli s.now+expiration

section Store
variable {config} {s s' s'' : AuthStore} {sid : String} {entry : CacheEntry} {expiration : Int}

theorem Evolves.refl (s : AuthStore) : Evolves config s s where
  now := Int.le_refl _
  rows sid row h := ⟨row,h,rfl,Int.le_refl _,fun _ => rfl⟩
  revoked _ _ h := h
  later sid r hnone hsome := by
    rw [hnone] at hsome
    cases hsome
  fenced _ h := h

theorem Evolves.trans (h : Evolves config s s') (h' : Evolves config s' s'') : Evolves config s s'' where
  now := h.now.trans h'.now
  rows sid row hrow := by
    obtain ⟨row',hrow',hexpires,hversion,hfrozen⟩ := h.rows sid row hrow
    obtain ⟨row'',hrow'',hexpires',hversion',hfrozen'⟩ := h'.rows sid row' hrow'
    refine ⟨row'',hrow'',hexpires'.trans hexpires,hversion.trans hversion',fun hne => ?_⟩
    obtain ⟨r,hr⟩ := ne_none_iff_exists'.mp hne
    rw [hfrozen' (by rw [h.revoked sid r hr]; exact some_ne_none r),hfrozen hne]
  revoked sid r hr := h'.revoked sid r (h.revoked sid r hr)
  later sid r hnone hsome := by
    cases hmiddle : s'.revokedAt sid with
    | none => exact h.now.trans (h'.later sid r hmiddle hsome)
    | some r' =>
      rw [h'.revoked sid r' hmiddle] at hsome
      obtain rfl := Option.some.inj hsome
      exact h.later sid r' hnone hmiddle
  fenced sid hf := h'.fenced sid (h.fenced sid hf)

theorem Seen.mono {version expiresAt : Int} (h : Seen s sid version expiresAt) (hle : Evolves config s s') :
    Seen s' sid version expiresAt := by
  obtain ⟨row,hrow,hversion,hexpires⟩ := h
  obtain ⟨row',hrow',hexpires',hversion',-⟩ := hle.rows sid row hrow
  exact ⟨row',hrow',hversion.trans hversion',hexpires'.trans hexpires⟩

theorem Vouched.mono {deadline : Int} (h : Vouched config s sid deadline) (hle : Evolves config s s') :
    Vouched config s' sid deadline := by
  refine ⟨h.1.trans (Int.add_le_add_right hle.now _),fun r hr => ?_⟩
  cases hold : s.revokedAt sid with
  | none => exact h.1.trans (Int.add_le_add_right (hle.later sid r hold hr) _)
  | some r' =>
    rw [hle.revoked sid r' hold] at hr
    obtain rfl := Option.some.inj hr
    exact h.2 r' hold

variable {stored : CacheEntry×Int} {elapsed : Nat}

theorem visible_eq_some : s.visible sid=some stored ↔ s.cache sid=some stored ∧ unixMilli s.now<stored.2 := by
  rw [visible,filter_eq_some_iff,decide_eq_true_eq]

theorem visible_wait_some (h : (s.wait elapsed).visible sid=some stored) : s.visible sid=some stored := by
  obtain ⟨hcache,hlive⟩ := visible_eq_some.mp h
  refine visible_eq_some.mpr ⟨hcache,?_⟩
  simp only [AuthStore.wait,unixMilli] at hlive ⊢
  omega

theorem visible_wait_none (h : s.visible sid=some stored)
    (hnone : (s.wait elapsed).visible sid=none) : stored.2≤unixMilli (s.wait elapsed).now := by
  by_contra hlt
  have hvisible : (s.wait elapsed).visible sid=some stored :=
    visible_eq_some.mpr ⟨(visible_eq_some.mp h).1,by omega⟩
  rw [hnone] at hvisible
  cases hvisible

theorem Fenced.wait (h : Fenced config s sid) (elapsed : Nat) : Fenced config (s.wait elapsed) sid := by
  obtain ⟨r,row,hr,hrow,hdenied⟩ := h
  refine ⟨r,row,hr,hrow,?_⟩
  cases hlater : (s.wait elapsed).visible sid with
  | some stored =>
    rw [visible_wait_some hlater] at hdenied
    exact hdenied
  | none =>
    cases hvisible : s.visible sid with
    | some stored =>
      rw [hvisible] at hdenied
      exact hdenied.2.trans (visible_wait_none hvisible hlater)
    | none =>
      rw [hvisible] at hdenied
      simp only [DeniedBy,AuthStore.wait,unixMilli] at hdenied ⊢
      omega

theorem StoreInv.wait (h : StoreInv s) (elapsed : Nat) : StoreInv (s.wait elapsed) where
  unique := h.unique
  entries sid stored hstored := h.entries sid stored (visible_wait_some hstored)
  active := h.active
  past sid r hr := by
    obtain ⟨hle,hrow⟩ := h.past sid r hr
    refine ⟨?_,hrow⟩
    simp only [AuthStore.wait]
    omega

theorem evolves_wait (s : AuthStore) (elapsed : Nat) : Evolves config s (s.wait elapsed) where
  now := by
    simp only [AuthStore.wait]
    omega
  rows sid row h := ⟨row,h,rfl,Int.le_refl _,fun _ => rfl⟩
  revoked _ _ h := h
  later sid r hnone hsome := by
    rw [show (s.wait elapsed).revokedAt sid=s.revokedAt sid from rfl,hnone] at hsome
    cases hsome
  fenced _ h := h.wait elapsed

theorem revokedAt_update (s : AuthStore) (select : UserSession → Bool) (edit : Edit) (sid : String) :
    (s.update select edit).revokedAt sid =
      if edit.revokes=true ∧ sid∈s.selected select then some s.now else s.revokedAt sid := by
  by_cases hrevokes : edit.revokes=true
  · by_cases hmem : sid∈s.selected select
    · rw [if_pos ⟨hrevokes,hmem⟩]
      simp only [AuthStore.update,if_pos hrevokes,markRevoked,if_pos hmem]
    · rw [if_neg fun h => hmem h.2]
      simp only [AuthStore.update,if_pos hrevokes,markRevoked,if_neg hmem]
  · rw [if_neg fun h => hrevokes h.1]
    simp only [AuthStore.update,if_neg hrevokes]

variable {select : UserSession → Bool}

theorem StoreInv.revokedAt_update_some (h : StoreInv s)
    (hactive : ∀ row, select row=true → row.status=.active) {r : Int} (hr : s.revokedAt sid=some r) :
    sid∉s.selected select := by
  intro hmem
  obtain ⟨row,hrow,hselect⟩ := (mem_selected h.unique).mp hmem
  rw [(h.active sid row hrow).mp (hactive row hselect)] at hr
  cases hr

theorem StoreInv.update (h : StoreInv s) (hactive : ∀ row, select row=true → row.status=.active)
    (edit : Edit) : StoreInv (s.update select edit) where
  unique := unique_update h.unique select edit
  entries sid stored hstored := by
    obtain ⟨hsid,row,hrow,hversion⟩ := h.entries sid stored hstored
    refine ⟨hsid,_,by rw [row_update,hrow,map_some],?_⟩
    split
    · exact hversion.trans (edit.version_apply row)
    · exact hversion
  active sid row' hrow' := by
    rw [row_update,map_eq_some_iff] at hrow'
    obtain ⟨row,hrow,rfl⟩ := hrow'
    simp only [revokedAt_update,mem_selected h.unique]
    have hold := h.active sid row hrow
    by_cases hselect : select row=true
    · rw [if_pos hselect,edit.status_apply (hactive row hselect)]
      have hselected : ∃ row, s.row sid=some row ∧ select row=true := ⟨row,hrow,hselect⟩
      have hnone := hold.mp (hactive row hselect)
      cases edit.revokes with
      | false => simpa using hnone
      | true => simp [hselected]
    · rw [if_neg hselect,if_neg,hold]
      rintro ⟨-,row',hrow',hselect'⟩
      rw [hrow,Option.some.injEq] at hrow'
      exact hselect (hrow' ▸ hselect')
  past sid r hr := by
    have hrow' : ∀ row, s.row sid=some row → ∃ row', (s.update select edit).row sid=some row' := by
      intro row hrow
      exact ⟨_,by rw [row_update,hrow,map_some]⟩
    rw [revokedAt_update] at hr
    split at hr
    next hmem =>
      obtain ⟨row,hrow,-⟩ := (mem_selected h.unique).mp hmem.2
      exact ⟨(Option.some.inj hr).ge,hrow' row hrow⟩
    · obtain ⟨hle,row,hrow⟩ := h.past sid r hr
      exact ⟨hle,hrow' row hrow⟩

theorem StoreInv.evolves_update (h : StoreInv s) (hactive : ∀ row, select row=true → row.status=.active)
    (edit : Edit) : Evolves config s (s.update select edit) := by
  have hkept : ∀ sid r row, s.revokedAt sid=some r → s.row sid=some row → (s.update select edit).row sid=some row := by
    intro sid r row hr hrow
    rw [row_update,hrow,map_some,if_neg]
    intro hselect
    exact h.revokedAt_update_some hactive hr ((mem_selected h.unique).mpr ⟨row,hrow,hselect⟩)
  have hrevoked : ∀ sid r, s.revokedAt sid=some r → (s.update select edit).revokedAt sid=some r := by
    intro sid r hr
    rw [revokedAt_update,if_neg,hr]
    exact fun hmem => h.revokedAt_update_some hactive hr hmem.2
  refine ⟨Int.le_refl _,?_,hrevoked,?_,?_⟩
  · intro sid row hrow
    refine ⟨_,by rw [row_update,hrow,map_some],?_,?_,?_⟩
    · split
      · exact edit.expiresAt_apply row
      · rfl
    · split
      · exact edit.version_apply row
      · exact Int.le_refl _
    · intro hne
      obtain ⟨r,hr⟩ := ne_none_iff_exists'.mp hne
      rw [if_neg]
      intro hselect
      exact h.revokedAt_update_some hactive hr ((mem_selected h.unique).mpr ⟨row,hrow,hselect⟩)
  · intro sid r hnone hsome
    rw [revokedAt_update] at hsome
    split at hsome
    · exact (Option.some.inj hsome).le
    · rw [hnone] at hsome
      cases hsome
  · rintro sid ⟨r,row,hr,hrow,hdenied⟩
    exact ⟨r,row,hrevoked sid r hr,hkept sid r row hr hrow,hdenied⟩

theorem StoreInv.insert (h : StoreInv s) {session : UserSession} (hnew : s.row session.sid=none)
    (hactive : session.status=.active) : StoreInv (s.insert session) where
  unique := Keyed.Unique.append h.unique hnew
  entries sid stored hstored := by
    obtain ⟨hsid,row,hrow,hversion⟩ := h.entries sid stored hstored
    exact ⟨hsid,row,row_insert hrow,hversion⟩
  active sid row hrow := by
    obtain hrow | ⟨rfl,rfl⟩ := row_insert_some hrow
    · exact h.active sid row hrow
    refine iff_of_true hactive ?_
    by_contra hne
    obtain ⟨r,hr⟩ := ne_none_iff_exists'.mp hne
    obtain ⟨-,row',hrow'⟩ := h.past _ r hr
    rw [hnew] at hrow'
    cases hrow'
  past sid r hr := by
    obtain ⟨hle,row,hrow⟩ := h.past sid r hr
    exact ⟨hle,row,row_insert hrow⟩

theorem evolves_insert (s : AuthStore) (session : UserSession) : Evolves config s (s.insert session) where
  now := Int.le_refl _
  rows sid row hrow := ⟨row,row_insert hrow,rfl,Int.le_refl _,fun _ => rfl⟩
  revoked _ _ h := h
  later sid r hnone hsome := by
    rw [show (s.insert session).revokedAt sid=s.revokedAt sid from rfl,hnone] at hsome
    cases hsome
  fenced sid hf := by
    obtain ⟨r,row,hr,hrow,hdenied⟩ := hf
    exact ⟨r,row,hr,row_insert hrow,hdenied⟩

theorem visible_put_self (s : AuthStore) (sid : String) (stored : Option (CacheEntry×Int)) :
    (s.put sid stored).visible sid=stored.filter fun stored => unixMilli s.now<stored.2 := by
  rw [visible,AuthStore.put]
  simp only [Function.update_self]

theorem visible_put_ne {other : String} (h : other≠sid) (stored : Option (CacheEntry×Int)) :
    (s.put sid stored).visible other=s.visible other := by
  rw [visible,AuthStore.put,visible]
  simp only [Function.update_of_ne h]

theorem StoreInv.put (h : StoreInv s) {value : Option (CacheEntry×Int)}
    (hvalue : ∀ stored∈value, stored.1.sid=sid ∧ ∃ row, s.row sid=some row ∧ stored.1.version≤row.version) :
    StoreInv (s.put sid value) where
  unique := h.unique
  entries other found hfound := by
    by_cases hsid : other=sid
    · subst hsid
      rw [visible_put_self] at hfound
      exact hvalue found (filter_eq_some_iff.mp hfound).1
    · rw [visible_put_ne hsid] at hfound
      exact h.entries other found hfound
  active := h.active
  past := h.past

theorem evolves_put {stored : Option (CacheEntry×Int)} (hfenced : Fenced config s sid → Fenced config (s.put sid stored) sid) :
    Evolves config s (s.put sid stored) where
  now := Int.le_refl _
  rows sid row h := ⟨row,h,rfl,Int.le_refl _,fun _ => rfl⟩
  revoked _ _ h := h
  later other r hnone hsome := by
    rw [show (s.put sid stored).revokedAt other=s.revokedAt other from rfl,hnone] at hsome
    cases hsome
  fenced other hf := by
    by_cases hsid : other=sid
    · exact hsid ▸ hfenced (hsid ▸ hf)
    obtain ⟨r,row,hr,hrow,hdenied⟩ := hf
    refine ⟨r,row,hr,hrow,?_⟩
    rw [visible_put_ne hsid]
    exact hdenied

theorem refuses_eq_false : s.refuses entry=false ↔
    ∀ stored∈s.visible entry.sid, (entry.status=.active → stored.1.status=.active) ∧ stored.1.version≤entry.version := by
  rw [refuses]
  cases s.visible entry.sid with
  | none | some _ => simp

theorem fenced_put {r expireAt : Int} {row : UserSession} (hr : s.revokedAt entry.sid=some r)
    (hrow : s.row entry.sid=some row) (hdenied : entry.status≠.active) (hexpires : config.bound r row.expiresAt≤expireAt) :
    Fenced config (s.put entry.sid (some (entry,expireAt))) entry.sid := by
  refine ⟨r,row,hr,hrow,?_⟩
  rw [visible_put_self]
  by_cases hlive : unixMilli s.now<expireAt
  · rw [filter_some,if_pos (decide_eq_true hlive)]
    exact ⟨hdenied,hexpires⟩
  · rw [filter_some,if_neg (by simpa using hlive)]
    exact hexpires.trans (not_lt.mp hlive)

theorem Fenced.snapshot (h : Fenced config s entry.sid) (hactive : entry.status=.active) (hok : EntryOk config s entry expiration)
    (hwrites : s.refuses entry=false) : Fenced config (s.script entry expiration).1 entry.sid := by
  obtain ⟨r,row,hr,hrow,hdenied⟩ := h
  cases hvisible : s.visible entry.sid with
  | some stored =>
    rw [hvisible] at hdenied
    exact absurd ((refuses_eq_false.mp hwrites stored hvisible).1 hactive) hdenied.1
  | none =>
    rw [hvisible] at hdenied
    obtain ⟨row',hrow',-,hexpires⟩ := hok.seen
    rw [hrow,Option.some.injEq] at hrow'
    subst hrow'
    have hlimit := hok.snapshot hactive
    have hpast : expiration-unixMilli s.now-1≤0 := by
      have hr' := hlimit.2 r hr
      have hrow' := hlimit.1
      rw [DeniedBy,SessionConfig.bound,hexpires] at hdenied
      omega
    have hscript : (s.script entry expiration).1=s.put entry.sid none := by
      rw [script,hwrites]
      simp [hactive,hpast]
    rw [hscript]
    refine ⟨r,row,hr,hrow,?_⟩
    rw [visible_put_self]
    exact hdenied

theorem script_tombstone (hdenied : entry.status≠.active) (hwrites : s.refuses entry=false) :
    (s.script entry expiration).1=s.put entry.sid (some (entry,unixMilli s.now+expiration)) := by
  rw [script,hwrites]
  simp [hdenied]

theorem StoreInv.tombstone (h : StoreInv s) (hok : EntryOk config s entry expiration) (hdenied : entry.status≠.active)
    (hrevoked : s.revokedAt entry.sid≠none) (hwrites : s.refuses entry=false) :
    Fenced config (s.script entry expiration).1 entry.sid := by
  obtain ⟨r,hr⟩ := ne_none_iff_exists'.mp hrevoked
  obtain ⟨hpast,-⟩ := h.past _ r hr
  obtain ⟨row,hrow,-,hexpires⟩ := hok.seen
  rw [script_tombstone hdenied hwrites]
  apply fenced_put hr hrow hdenied
  have hlong := hok.tombstone hdenied
  rw [SessionConfig.bound,hexpires]
  simp only [SessionConfig.cacheTTL,unixMilli] at hlong ⊢
  omega

theorem script_refused (hrefuses : s.refuses entry=true) : s.script entry expiration=(s,false) := by
  rw [script,if_pos hrefuses]

theorem script_put (s : AuthStore) (entry : CacheEntry) (expiration : Int) (hwrites : s.refuses entry=false) :
    ∃ value, (s.script entry expiration).1=s.put entry.sid value ∧ ∀ stored∈value, stored.1=entry := by
  rw [script,hwrites]
  split
  · contradiction
  split
  · split
    · exact ⟨none,rfl,by simp⟩
    · exact ⟨_,rfl,by simp⟩
  · exact ⟨_,rfl,by simp⟩

theorem StoreInv.script (h : StoreInv s) (hok : EntryOk config s entry expiration) :
    StoreInv (s.script entry expiration).1 ∧ Evolves config s (s.script entry expiration).1 := by
  cases hwrites : s.refuses entry with
  | true =>
    rw [script_refused hwrites]
    exact ⟨h,Evolves.refl s⟩
  | false =>
    obtain ⟨value,hscript,hvalue⟩ := script_put s entry expiration hwrites
    have hfenced : Fenced config s entry.sid → Fenced config (s.script entry expiration).1 entry.sid := by
      intro hf
      by_cases hactive : entry.status=.active
      · exact hf.snapshot hactive hok hwrites
      obtain ⟨r,row,hr,-⟩ := hf
      exact h.tombstone hok hactive (by rw [hr]; exact some_ne_none r) hwrites
    rw [hscript] at hfenced ⊢
    refine ⟨h.put fun stored hstored => ?_,evolves_put hfenced⟩
    obtain ⟨row,hrow,hversion,-⟩ := hok.seen
    rw [hvalue stored hstored]
    exact ⟨rfl,row,hrow,hversion⟩

end Store

end NewApi.Sessions
