import NewApi.Sessions.Rows

/-! The refresh hashes of a session are the digests of a chain of secrets: each secret derives the next one, from the secret that the
login was given. -/
namespace NewApi.Sessions
open List Option Programs

variable (config : SessionConfig)

def secretAt (sid secret : String) (k : Nat) : String := (deriveNextRefreshSecret config sid)^[k] secret

def chainHashes (sid secret : String) : Nat → List String
  | 0 => [hashRefreshSecret config secret]
  | n+1 => hashRefreshSecret config (secretAt config sid secret (n+1))::chainHashes sid secret n

/-- What is known of the digests: different texts have different digests. -/
structure SessionConfig.Collisionless : Prop where
  refresh : Function.Injective config.refreshDigest
  rotate : Function.Injective config.refreshRotateDigest

def Unpredicted (sid secret : String) : Prop := ∀ other, deriveNextRefreshSecret config sid other≠secret

section Secrets
variable {config} {sid secret : String}

theorem secretAt_succ (k : Nat) :
    secretAt config sid secret (k+1)=deriveNextRefreshSecret config sid (secretAt config sid secret k) :=
  Function.iterate_succ_apply' _ _ _

section
variable (h : config.Collisionless)
include h

theorem SessionConfig.Collisionless.hash {a b : String} (hab : hashRefreshSecret config a=hashRefreshSecret config b) : a=b :=
  h.refresh hab

theorem SessionConfig.Collisionless.derive {a b : String}
    (hab : deriveNextRefreshSecret config sid a=deriveNextRefreshSecret config sid b) : a=b := by
  have htexts := h.rotate hab
  rw [String.append_right_inj] at htexts
  exact htexts

theorem secretAt_inj (hfresh : Unpredicted config sid secret) {j k : Nat}
    (hjk : secretAt config sid secret j=secretAt config sid secret k) : j=k := by
  induction j generalizing k with
  | zero =>
    cases k with
    | zero => rfl
    | succ k =>
      rw [secretAt_succ] at hjk
      exact absurd hjk.symm (hfresh _)
  | succ j ih =>
    cases k with
    | zero =>
      rw [secretAt_succ] at hjk
      exact absurd hjk (hfresh _)
    | succ k =>
      rw [secretAt_succ,secretAt_succ] at hjk
      exact congrArg (· + 1) (ih (h.derive hjk))

end

theorem chainHashes_eq (config : SessionConfig) (sid secret : String) (n : Nat) : ∃ older, chainHashes config sid secret n =
    hashRefreshSecret config (secretAt config sid secret n)::older := by
  cases n with
  | zero => exact ⟨[],rfl⟩
  | succ n => exact ⟨_,rfl⟩

theorem mem_chainHashes {n : Nat} {digest : String} :
    digest∈chainHashes config sid secret n ↔ ∃ k≤n, digest=hashRefreshSecret config (secretAt config sid secret k) := by
  induction n with
  | zero =>
    rw [chainHashes,mem_singleton]
    constructor
    · exact fun h => ⟨0,Nat.le_refl 0,h⟩
    rintro ⟨k,hk,h⟩
    rw [Nat.le_zero.mp hk] at h
    exact h
  | succ n ih =>
    rw [chainHashes,mem_cons,ih]
    constructor
    · rintro (h | ⟨k,hk,h⟩)
      · exact ⟨n+1,Nat.le_refl _,h⟩
      · exact ⟨k,Nat.le_succ_of_le hk,h⟩
    · rintro ⟨k,hk,h⟩
      obtain hlt | rfl := Nat.lt_or_eq_of_le hk
      · exact .inr ⟨k,Nat.lt_succ_iff.mp hlt,h⟩
      · exact .inl h

theorem nodup_chainHashes (h : config.Collisionless) (hfresh : Unpredicted config sid secret) (n : Nat) :
    (chainHashes config sid secret n).Nodup := by
  induction n with
  | zero => exact nodup_singleton _
  | succ n ih =>
    rw [chainHashes,nodup_cons]
    refine ⟨fun hmem => ?_,ih⟩
    obtain ⟨k,hk,hhash⟩ := mem_chainHashes.mp hmem
    have := secretAt_inj h hfresh (h.hash hhash)
    omega

end Secrets

/-- The current and the previous digest of a row are the newest ones that its session has had. -/
def UserSession.Holds (row : UserSession) (hashes : List String) : Prop :=
  ∃ older, hashes=row.refreshHash::older ∧ row.previousRefreshHash=older.headD ""

def Backed (s : AuthStore) (entry : CacheEntry) : Prop :=
  ∃ row, s.row entry.sid=some row ∧ entry.userID=row.userID ∧ entry.expiresAt=row.expiresAt ∧
    (entry.status=.active → entry.revokedAt=0)

/-- The sessions that have been created have the digests of a chain, which starts with the secret of their login. -/
structure ChainInv (origin : String → String → Prop) (s : AuthStore) : Prop where
  unique : Keyed.Unique (·.sid) s.rows
  active : ∀ sid row, s.row sid=some row → row.status=.active → row.revokedAt=0
  filled : ∀ sid row, s.row sid=some row → row.userID≠0 ∧ row.refreshHash≠""
  cached : ∀ sid stored, s.cache sid=some stored → Backed s stored.1
  absent : ∀ sid, s.row sid=none → s.hashes sid=[]
  chain : ∀ sid row, s.row sid=some row → row.Holds (s.hashes sid) ∧
    ∃ secret n, origin sid secret ∧ s.hashes sid=chainHashes config sid secret n

structure Moves (s s' : AuthStore) : Prop where
  rows : ∀ sid row, s.row sid=some row → ∃ row', s'.row sid=some row' ∧ row'.userID=row.userID ∧
    row'.expiresAt=row.expiresAt ∧ (row.status≠.active → row'.status≠.active)
  hashes : ∀ sid, s.hashes sid <:+ s'.hashes sid
  kept : ∀ sid row row', s.row sid=some row → s'.row sid=some row' → s'.hashes sid=s.hashes sid →
    row'.previousValidUntil=row.previousValidUntil
  now : s.now≤ s'.now

theorem Moves.refl (s : AuthStore) : Moves s s where
  rows _ row h := ⟨row,h,rfl,rfl,fun h => h⟩
  hashes _ := suffix_refl _
  kept _ row row' hrow hrow' _ := by
    rw [hrow,Option.some.injEq] at hrow'
    rw [hrow']
  now := le_refl _

variable {s s' : AuthStore}

theorem Moves.between {s'' : AuthStore} (h : Moves s s') (h' : Moves s' s'') {sid : String}
    (hsame : s''.hashes sid=s.hashes sid) : s'.hashes sid=s.hashes sid := by
  have hlength := (h'.hashes sid).length_le
  rw [hsame] at hlength
  exact ((h.hashes sid).eq_of_length_le hlength).symm

theorem Moves.trans {s'' : AuthStore} (h : Moves s s') (h' : Moves s' s'') : Moves s s'' where
  rows sid row hrow := by
    obtain ⟨row',hrow',huser,hexpires,hdenied⟩ := h.rows sid row hrow
    obtain ⟨row'',hrow'',huser',hexpires',hdenied'⟩ := h'.rows sid row' hrow'
    exact ⟨row'',hrow'',huser'.trans huser,hexpires'.trans hexpires,fun hne => hdenied' (hdenied hne)⟩
  hashes sid := (h.hashes sid).trans (h'.hashes sid)
  kept sid row row'' hrow hrow'' hsame := by
    obtain ⟨row',hrow',-⟩ := h.rows sid row hrow
    have hmiddle := h.between h' hsame
    rw [h'.kept sid row' row'' hrow' hrow'' (hsame.trans hmiddle.symm),h.kept sid row row' hrow hrow' hmiddle]
  now := le_trans h.now h'.now

theorem Backed.mono {entry : CacheEntry} (h : Backed s entry) (hle : Moves s s') : Backed s' entry := by
  obtain ⟨row,hrow,huser,hexpires,hopen⟩ := h
  obtain ⟨row',hrow',huser',hexpires',-⟩ := hle.rows entry.sid row hrow
  exact ⟨row',hrow',huser.trans huser'.symm,hexpires.trans hexpires'.symm,hopen⟩
theorem Moves.mem (h : Moves s s') {sid digest : String} (hmem : digest∈s.hashes sid) : digest∈s'.hashes sid :=
  (h.hashes sid).subset hmem

def Revoked (s : AuthStore) (sid : String) : Prop := ∃ row, s.row sid=some row ∧ row.status≠.active

theorem Revoked.mono {sid : String} (h : Revoked s sid) (hle : Moves s s') : Revoked s' sid := by
  obtain ⟨row,hrow,hdenied⟩ := h
  obtain ⟨row',hrow',-,-,hdenied'⟩ := hle.rows sid row hrow
  exact ⟨row',hrow',hdenied' hdenied⟩

section Statements
variable {config} {origin : String → String → Prop} {s : AuthStore}

theorem ChainInv.quiet (h : ChainInv config origin s) (s' : AuthStore) (hrows : s'.rows=s.rows) (hhashes : s'.hashes=s.hashes)
    (hcache : ∀ sid stored, s'.cache sid=some stored → s.cache sid=some stored ∨ Backed s stored.1) (hnow : s.now≤ s'.now) :
    ChainInv config origin s' ∧ Moves s s' := by
  have hrow : ∀ sid, s'.row sid=s.row sid := by
    intro sid
    rw [AuthStore.row,AuthStore.row,hrows]
  refine ⟨⟨hrows ▸ h.unique,?_,?_,?_,?_,?_⟩,?_,?_,?_,hnow⟩
  · intro sid row hsid
    exact h.active sid row (hrow sid ▸ hsid)
  · intro sid row hsid
    exact h.filled sid row (hrow sid ▸ hsid)
  · intro sid stored hstored
    rw [Backed,hrow]
    exact (hcache sid stored hstored).elim (h.cached sid stored) fun hbacked => hbacked
  · intro sid hsid
    rw [hhashes]
    exact h.absent sid (hrow sid ▸ hsid)
  · intro sid row hsid
    rw [hhashes]
    exact h.chain sid row (hrow sid ▸ hsid)
  · intro sid row hsid
    exact ⟨row,(hrow sid).trans hsid,rfl,rfl,fun h => h⟩
  · intro sid
    rw [hhashes]
  · intro sid row row' hsid hsid' _
    rw [hrow,hsid,Option.some.injEq] at hsid'
    rw [hsid']

variable {edit : Edit} {row : UserSession}

theorem Edit.holds_apply {hashes : List String} (h : row.Holds hashes) : (edit.apply row).Holds (edit.newHashes++hashes) := by
  cases edit with
  | rotate nextHash now graceSeconds =>
    obtain ⟨older,rfl,-⟩ := h
    exact ⟨row.refreshHash::older,rfl,rfl⟩
  | _ => exact h

theorem Edit.revokedAt_apply (h : (edit.apply row).status=.active) : (edit.apply row).revokedAt=row.revokedAt := by
  cases edit with
  | revoke now reason => cases h
  | _ => rfl

variable (config) in
def FollowsChain (select : UserSession → Bool) (edit : Edit) : Prop :=
  ∀ row, select row=true → row.status=.active ∧ ∀ next∈edit.newHashes, next≠"" ∧
    ∃ secret, row.refreshHash=hashRefreshSecret config secret ∧
      next=hashRefreshSecret config (deriveNextRefreshSecret config row.sid secret)

theorem Edit.refreshHash_apply (h : row.refreshHash≠"") (hnew : ∀ next∈edit.newHashes, next≠"") :
    (edit.apply row).refreshHash≠"" := by
  cases edit with
  | rotate nextHash now graceSeconds => exact hnew nextHash mem_cons_self
  | _ => exact h

theorem Edit.kept_apply (h : edit.newHashes=[]) : (edit.apply row).previousValidUntil=row.previousValidUntil := by
  cases edit with
  | rotate nextHash now graceSeconds => cases h
  | _ => rfl

variable {select : UserSession → Bool}

theorem FollowsChain.next (hdigest : config.Collisionless) (hfollows : FollowsChain config select edit)
    (hselect : select row=true)
    {secret : String} {n : Nat} (hhead : row.refreshHash=hashRefreshSecret config (secretAt config row.sid secret n)) :
    ∃ m, edit.newHashes++chainHashes config row.sid secret n=chainHashes config row.sid secret m := by
  have hnext := (hfollows row hselect).2
  cases edit with
  | rotate nextHash now graceSeconds =>
    obtain ⟨-,presented,hpresented,hderived⟩ := hnext nextHash mem_cons_self
    refine ⟨n+1,?_⟩
    rw [chainHashes,secretAt_succ,← hdigest.hash (hpresented.symm.trans hhead),← hderived]
    rfl
  | _ => exact ⟨n,rfl⟩

section
variable (h : ChainInv config origin s)
include h

theorem ChainInv.current {sid : String} (hrow : s.row sid=some row) :
    ∃ secret n, origin sid secret ∧ s.hashes sid=chainHashes config sid secret n ∧
      row.refreshHash=hashRefreshSecret config (secretAt config sid secret n) := by
  obtain ⟨⟨older,hhashes,-⟩,secret,n,horigin,hchain⟩ := h.chain sid row hrow
  obtain ⟨older',hchain'⟩ := chainHashes_eq config sid secret n
  rw [hhashes,hchain',List.cons.injEq] at hchain
  exact ⟨secret,n,horigin,by rw [hhashes,hchain',hchain.1,hchain.2],hchain.1⟩

theorem ChainInv.update (hdigest : config.Collisionless) (hfollows : FollowsChain config select edit) :
    ChainInv config origin (s.update select edit) ∧ Moves s (s.update select edit) := by
  have hhashes : ∀ sid, (s.update select edit).hashes sid =
      if sid∈s.selected select then edit.newHashes++s.hashes sid else s.hashes sid := fun sid => rfl
  have hmoved : ∀ sid row, s.row sid=some row → (s.update select edit).row sid =
      some (if select row then edit.apply row else row) := by
    intro sid row hrow
    rw [row_update,hrow,map_some]
  have hsame : ∀ row, (if select row then edit.apply row else row).userID=row.userID ∧
      (if select row then edit.apply row else row).expiresAt=row.expiresAt := by
    intro row
    split
    · exact ⟨edit.userID_apply row,edit.expiresAt_apply row⟩
    · exact ⟨rfl,rfl⟩
  refine ⟨⟨unique_update h.unique select edit,?_,?_,?_,?_,?_⟩,?_,?_,?_,le_refl _⟩
  · intro sid row' hrow' hactive
    rw [row_update,map_eq_some_iff] at hrow'
    obtain ⟨row,hrow,rfl⟩ := hrow'
    split at hactive
    next hselect =>
      rw [if_pos hselect,Edit.revokedAt_apply hactive]
      exact h.active sid row hrow (hfollows row hselect).1
    next hselect =>
      rw [if_neg hselect]
      exact h.active sid row hrow hactive
  · intro sid row' hrow'
    rw [row_update,map_eq_some_iff] at hrow'
    obtain ⟨row,hrow,rfl⟩ := hrow'
    obtain ⟨huser,hhash⟩ := h.filled sid row hrow
    refine ⟨(hsame row).1 ▸ huser,?_⟩
    split
    next hselect => exact Edit.refreshHash_apply hhash fun next hnext => ((hfollows row hselect).2 next hnext).1
    · exact hhash
  · intro sid stored hstored
    obtain ⟨row,hrow,huser,hexpires,hopen⟩ := h.cached sid stored hstored
    exact ⟨_,hmoved _ row hrow,huser.trans (hsame row).1.symm,hexpires.trans (hsame row).2.symm,hopen⟩
  · intro sid hnone
    rw [row_update,map_eq_none_iff] at hnone
    rw [hhashes,if_neg,h.absent sid hnone]
    intro hmem
    obtain ⟨row,hrow,-⟩ := (mem_selected h.unique).mp hmem
    rw [hnone] at hrow
    cases hrow
  · intro sid row' hrow'
    rw [row_update,map_eq_some_iff] at hrow'
    obtain ⟨row,hrow,rfl⟩ := hrow'
    rw [hhashes]
    by_cases hselect : select row=true
    · rw [if_pos hselect,if_pos ((mem_selected h.unique).mpr ⟨row,hrow,hselect⟩)]
      refine ⟨Edit.holds_apply (h.chain sid row hrow).1,?_⟩
      obtain ⟨secret,n,horigin,hchain,hhead⟩ := h.current hrow
      obtain rfl := row_sid hrow
      obtain ⟨m,hm⟩ := hfollows.next hdigest hselect hhead
      exact ⟨secret,m,horigin,hchain ▸ hm⟩
    · rw [if_neg hselect,if_neg]
      · exact h.chain sid row hrow
      intro hmem
      obtain ⟨row',hrow',hselect'⟩ := (mem_selected h.unique).mp hmem
      rw [hrow,Option.some.injEq] at hrow'
      exact hselect (hrow' ▸ hselect')
  · intro sid row hrow
    refine ⟨_,hmoved sid row hrow,(hsame row).1,(hsame row).2,?_⟩
    split
    next hselect => exact fun hdenied => absurd (hfollows row hselect).1 hdenied
    · exact fun h => h
  · intro sid
    rw [hhashes]
    split
    · exact suffix_append _ _
    · exact suffix_refl _
  · intro sid row row' hrow hrow' hkept
    rw [hmoved sid row hrow,Option.some.injEq] at hrow'
    subst hrow'
    split
    next hselect =>
      rw [hhashes,if_pos ((mem_selected h.unique).mpr ⟨row,hrow,hselect⟩)] at hkept
      exact Edit.kept_apply (append_left_eq_self.mp hkept)
    · rfl

theorem ChainInv.insert {session : UserSession} {secret : String}
    (hnew : s.row session.sid=none) (horigin : origin session.sid secret)
    (hhash : session.refreshHash=hashRefreshSecret config secret) (hprevious : session.previousRefreshHash="")
    (hopen : session.revokedAt=0) (hfilled : session.userID≠0 ∧ session.refreshHash≠"") :
    ChainInv config origin (s.insert session) ∧ Moves s (s.insert session) := by
  have hhashes : ∀ sid, (s.insert session).hashes sid = if sid=session.sid then [session.refreshHash] else s.hashes sid := by
    intro sid
    simp only [AuthStore.insert,Function.update_apply]
  have hold : ∀ sid row, s.row sid=some row → sid≠session.sid := by
    rintro sid row hrow rfl
    rw [hnew] at hrow
    cases hrow
  refine ⟨⟨Keyed.Unique.append h.unique hnew,?_,?_,?_,?_,?_⟩,?_,?_,?_,le_refl _⟩
  · intro sid row hrow hactive
    obtain hrow | ⟨-,rfl⟩ := row_insert_some hrow
    · exact h.active sid row hrow hactive
    · exact hopen
  · intro sid row hrow
    obtain hrow | ⟨-,rfl⟩ := row_insert_some hrow
    · exact h.filled sid row hrow
    · exact hfilled
  · intro sid stored hstored
    obtain ⟨row,hrow,hentry⟩ := h.cached sid stored hstored
    exact ⟨row,row_insert hrow,hentry⟩
  · intro sid hnone
    have hold : s.row sid=none := by
      by_contra hne
      obtain ⟨row,hrow⟩ := ne_none_iff_exists'.mp hne
      rw [row_insert hrow] at hnone
      cases hnone
    rw [hhashes,if_neg,h.absent sid hold]
    rintro rfl
    rw [row_insert_self hnew] at hnone
    cases hnone
  · intro sid row hrow
    rw [hhashes]
    obtain hrow | ⟨rfl,rfl⟩ := row_insert_some hrow
    · rw [if_neg (hold sid row hrow)]
      exact h.chain sid row hrow
    · rw [if_pos rfl]
      exact ⟨⟨[],rfl,hprevious⟩,secret,0,horigin,congrArg (fun hash => [hash]) hhash⟩
  · intro sid row hrow
    exact ⟨row,row_insert hrow,rfl,rfl,fun h => h⟩
  · intro sid
    rw [hhashes]
    split
    next hsid =>
      rw [hsid,h.absent _ hnew]
      exact nil_suffix
    · exact suffix_refl _
  · intro sid row row' hrow hrow' _
    rw [row_insert hrow,Option.some.injEq] at hrow'
    rw [hrow']

end

end Statements

end NewApi.Sessions
