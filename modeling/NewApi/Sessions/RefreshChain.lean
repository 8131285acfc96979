import NewApi.Sessions.Tokens

/-! Refresh tokens form one chain, in every run of the calls in which no refresh with an unknown secret finds its user changed, no
refresh with a replayed secret is turned away and its deny fence is not refused. -/
namespace NewApi.Sessions
open Option List Programs Threads Runs
open GoStrings (trimSpace)

variable (config : SessionConfig) (acts : List (Act LoginCall AuthChoice))

abbrev LoginThread : Type := Thread LoginCall AuthOp AuthAns SessionResult

def logins : System AuthStore LoginThread LoginCall AuthChoice :=
  system authExec fun call => (call.sessionCall config).program config

def afterCalls (now : Int) (acts : List (Act LoginCall AuthChoice)) : Pool AuthStore LoginThread :=
  run (logins config).act acts { shared := { now := now }, threads := [] }

def GivenAtLogin (sid secret : String) : Prop :=
  ∃ l : Login, l.sid=sid ∧ .start (.login l secret)∈acts

abbrev ProperRun (now : Int) (acts : List (Act LoginCall AuthChoice)) : Prop :=
  Guarded (logins config).act (Meets (Allowed (Proper config))) acts { shared := { now := now }, threads := [] }

def previousDigest (sid secret : String) : Nat → String
  | 0 => ""
  | n+1 => hashRefreshSecret config (secretAt config sid secret n)

/-- In a run, the refresh tokens of every session form one chain. -/
structure OneChain (now : Int) (acts : List (Act LoginCall AuthChoice)) : Prop where
  /-- The digests of a session are those of the chain, and its row has the newest two. -/
  chain : ∀ sid row, (afterCalls config now acts).shared.row sid=some row → ∃ secret n, GivenAtLogin acts sid secret ∧
    (afterCalls config now acts).shared.hashes sid=chainHashes config sid secret n ∧
    row.refreshHash=hashRefreshSecret config (secretAt config sid secret n) ∧
    row.previousRefreshHash=previousDigest config sid secret n
  /-- The stored digest moves only when a refresh presents its secret, and to the digest of the next one. -/
  moved : ∀ pre a post, acts=pre++a::post → ∀ sid row row', (afterCalls config now pre).shared.row sid=some row →
    (afterCalls config now (pre++[a])).shared.row sid=some row' → row'.refreshHash≠row.refreshHash →
    ∃ i c thread secret, a=.step i c ∧ (afterCalls config now pre).threads[i]? = some thread ∧
      thread.started.refreshes=true ∧ thread.started.token config=some (sid,secret) ∧
      row.refreshHash=hashRefreshSecret config secret ∧
      row'.refreshHash=hashRefreshSecret config (deriveNextRefreshSecret config sid secret)
  /-- Two moves of the digest of a session start from different digests. -/
  once : ∀ pre a mid b post, acts=pre++a::mid++b::post → ∀ sid row₁ row₁' row₂ row₂',
    (afterCalls config now pre).shared.row sid=some row₁ →
    (afterCalls config now (pre++[a])).shared.row sid=some row₁' → row₁'.refreshHash≠row₁.refreshHash →
    (afterCalls config now (pre++a::mid)).shared.row sid=some row₂ →
    (afterCalls config now (pre++a::mid++[b])).shared.row sid=some row₂' → row₂'.refreshHash≠row₂.refreshHash →
    row₁.refreshHash≠row₂.refreshHash
  refreshed : ∀ thread∈(afterCalls config now acts).threads, thread.started.refreshes=true → ∀ sid presented,
    thread.started.token config=some (sid,presented) → ∀ result next, thread.code.result=some result →
    result.refreshed=some next → next=deriveNextRefreshSecret config sid presented ∧
    ∃ secret k, GivenAtLogin acts sid secret ∧ presented=secretAt config sid secret k ∧ next=secretAt config sid secret (k+1)
  /-- No secret before the previous one is accepted by a call that starts later. -/
  older : ∀ pre post, acts=pre++post → ∀ sid secret n k, GivenAtLogin acts sid secret → k+1<n →
    (afterCalls config now pre).shared.hashes sid=chainHashes config sid secret n →
    ∀ j thread, (afterCalls config now pre).threads.length≤j → (afterCalls config now acts).threads[j]? = some thread →
    thread.started.token config=some (sid,secretAt config sid secret k) → ∀ result, thread.code.result=some result →
    result.refreshed=none ∧ (thread.started.refreshes=false → result.revoked=[])
  /-- A refresh that starts with the previous secret of a session past its window has revoked the session when it returns, unless
  the session has expired or the secret is not the previous one any more. -/
  replayed : ∀ pre post, acts=pre++post → ∀ sid row presented, (afterCalls config now pre).shared.row sid=some row →
    Replayed row (hashRefreshSecret config presented) (unix (afterCalls config now pre).shared.now) →
    ∀ j thread, (afterCalls config now pre).threads.length≤j → (afterCalls config now acts).threads[j]? = some thread →
    ∀ rawRefreshToken expectedSID, thread.started=.refresh rawRefreshToken expectedSID →
    splitRefreshToken config rawRefreshToken=some (sid,presented) → trimSpace expectedSID="" ∨ trimSpace expectedSID=sid →
    ∀ result, thread.code.result=some result →
    (afterCalls config now acts).shared.hashes sid=(afterCalls config now pre).shared.hashes sid →
    Revoked (afterCalls config now acts).shared sid ∨ row.expiresAt≤unix (afterCalls config now acts).shared.now
  /-- So has one that has judged a row of which its secret is the previous one, whatever the other calls do. -/
  judged : ∀ thread∈(afterCalls config now acts).threads, thread.started.refreshes=true → ∀ sid presented,
    thread.started.token config=some (sid,presented) → ∀ result row at', thread.code.result=some result →
    result.judged=some (row,at') → Replayed row (hashRefreshSecret config presented) at' →
    Revoked (afterCalls config now acts).shared sid
  revoked : ∀ pre post, acts=pre++post → ∀ sid, Revoked (afterCalls config now pre).shared sid →
    ∀ j thread, (afterCalls config now pre).threads.length≤j → (afterCalls config now acts).threads[j]? = some thread →
    ∀ presented, thread.started.token config=some (sid,presented) → ∀ result, thread.code.result=some result →
    result.refreshed=none ∧ (thread.started.refreshes=false → result.revoked=[])
  unknown : ∀ pre i c post, acts=pre++.step i c::post → ∀ thread, (afterCalls config now pre).threads[i]? = some thread →
    ∀ token∈thread.started.token config, ¬Issued config (afterCalls config now pre).shared token →
    (afterCalls config now (pre++[.step i c])).shared.rows=(afterCalls config now pre).shared.rows

def Spent (origin : String → String → Prop) (s : AuthStore) (sid digest : String) : Prop :=
  ∀ s', ¬Held config origin s s' sid digest

def Accounted (call : LoginCall) (s : AuthStore) (result : SessionResult) : Prop :=
  ∀ token∈call.token config, call.refreshes=true →
    (∀ next, result.refreshed=some next → next=deriveNextRefreshSecret config token.1 token.2 ∧ Issued config s token) ∧
    ∀ row at', result.judged=some (row,at') → Replayed row (hashRefreshSecret config token.2) at' → Revoked s token.1

def Known (call : LoginCall) : Prop :=
  ∀ l refreshSecret, call=.login l refreshSecret → GivenAtLogin acts l.sid refreshSecret

def Careful (call : LoginCall) (s : AuthStore) (c : AuthChoice) (op : AuthOp) : Prop :=
  Known acts call ∧ Proper config call s c op

/-- The code of a call keeps the chains, and its result is as `Q` says. -/
abbrev Tracked (call : LoginCall) (Q : AuthStore → SessionResult → Prop) (code : Code)
    (s : AuthStore) : Prop :=
  Safe authExec (ChainInv config (GivenAtLogin acts)) Moves (Careful config acts call) (Guarantee config call) Q code s

section States
variable {config} {origin : String → String → Prop} {s : AuthStore} {sid digest : String}
variable {s' : AuthStore}

theorem Held.mem (h : Held config origin s s' sid digest) : digest∈s'.hashes sid := by
  obtain ⟨s1,row,-,hinv,hle,hrow,-,hdigest | ⟨hknown,hdigest⟩⟩ := h
  · exact hle.mem (hdigest ▸ hinv.current_mem hrow)
  · exact hle.mem (hdigest ▸ hinv.previous_mem hrow hknown)

theorem mem_drop_of_suffix {l l' : List String} (h : l <:+ l') {k : Nat} (hmem : digest∈l.drop k) : digest∈l'.drop k := by
  obtain ⟨newer,rfl⟩ := h
  rw [drop_append]
  exact mem_append_right _ ((drop_suffix_drop_left l (Nat.sub_le k newer.length)).subset hmem)

theorem ChainInv.nodup (hinv : ChainInv config origin s) (hdigest : config.Collisionless)
    (hfresh : ∀ sid secret, origin sid secret → Unpredicted config sid secret) {row : UserSession} (hrow : s.row sid=some row) :
    (s.hashes sid).Nodup := by
  obtain ⟨-,secret,n,horigin,hhashes⟩ := hinv.chain sid row hrow
  rw [hhashes]
  exact nodup_chainHashes hdigest (hfresh sid secret horigin) n

theorem spent_of_older (hdigest : config.Collisionless)
    (hfresh : ∀ sid secret, origin sid secret → Unpredicted config sid secret) (h : digest∈(s.hashes sid).drop 2) :
    Spent config origin s sid digest := by
  rintro s' ⟨s1,row,hle,hinv,-,hrow,-,hheld⟩
  have hnodup := hinv.nodup hdigest hfresh hrow
  have holder := mem_drop_of_suffix (hle.hashes sid) h
  obtain ⟨⟨older,hhashes,hprevious⟩,-⟩ := hinv.chain sid row hrow
  rw [hhashes] at hnodup holder
  cases older with
  | nil => simp at holder
  | cons previous older =>
    simp only [drop_succ_cons,drop_zero] at holder
    simp only [nodup_cons,mem_cons,not_or] at hnodup
    obtain hcurrent | ⟨-,hheld⟩ := hheld
    · exact hnodup.1.2 (hcurrent ▸ holder)
    rw [hprevious,headD_cons] at hheld
    exact hnodup.2.1 (hheld ▸ holder)

theorem spent_of_revoked (h : Revoked s sid) : Spent config origin s sid digest := by
  rintro s' ⟨s1,row,hle,-,-,hrow,hactive,-⟩
  obtain ⟨row',hrow',hdenied⟩ := h.mono hle
  rw [hrow,Option.some.injEq] at hrow'
  exact hdenied (hrow' ▸ hactive)

theorem Spent.mono (h : Spent config origin s sid digest) (hle : Moves s s') : Spent config origin s' sid digest :=
  fun s'' hheld => h s'' (hheld.earlier hle)

theorem Accounted.mono {call : LoginCall} {result : SessionResult} (hle : Moves s s')
    (h : Accounted config call s result) : Accounted config call s' result := by
  intro token htoken hrefreshes
  obtain ⟨hnext,hreplayed⟩ := h token htoken hrefreshes
  refine ⟨fun next hresult => ?_,fun row at' hjudged hreplay => (hreplayed row at' hjudged hreplay).mono hle⟩
  obtain ⟨hderived,hissued⟩ := hnext next hresult
  exact ⟨hderived,hle.mem hissued⟩

theorem chainInv_empty (now : Int) : ChainInv config origin { now := now } where
  unique := nodup_nil
  active _ _ h := by
    cases h
  filled _ _ h := by
    cases h
  cached _ _ h := by
    cases h
  absent _ _ := rfl
  chain _ _ h := by
    cases h

theorem Turned.over {call : LoginCall} {presented : String} {row : UserSession} (h : Turned config origin call s s')
    (hrefreshes : call.refreshes=true) (htoken : call.token config=some (sid,presented)) (hinv : ChainInv config origin s)
    (hrow : s.row sid=some row) (hreplayed : Replayed row (hashRefreshSecret config presented) (unix s.now))
    (hsame : s'.hashes sid=s.hashes sid) : Revoked s' sid ∨ row.expiresAt≤unix s'.now := by
  obtain ⟨s1,hle1,hinv1,hle2,hturned⟩ := h
  have hsame1 := hle1.between hle2 hsame
  obtain ⟨row1,hrow1,-,hexpires,-⟩ := hle1.rows sid row hrow
  by_contra hover
  rw [not_or,not_le] at hover
  obtain ⟨token,hsome,hmoved⟩ | hnot := hturned
  · rw [htoken,mem_def,Option.some.injEq] at hsome
    exact hmoved (hsome ▸ hsame1)
  have hactive : row1.status=.active := by
    by_contra hdenied
    exact hover.1 (Revoked.mono ⟨row1,hrow1,hdenied⟩ hle2)
  -- the row has the digests that it had
  obtain ⟨⟨older,hhashes,hprevious⟩,-⟩ := hinv.chain sid row hrow
  obtain ⟨⟨older1,hhashes1,hprevious1⟩,-⟩ := hinv1.chain sid row1 hrow1
  rw [hsame1,hhashes,List.cons.injEq] at hhashes1
  obtain ⟨hcurrent,rfl⟩ := hhashes1
  refine hnot ⟨hrefreshes,(sid,presented),htoken,row1,hrow1,?_⟩
  constructor
  · exact hactive
  · exact hinv1.active sid row1 hrow1 hactive
  · rw [hexpires]
    exact lt_of_le_of_lt (unix_mono hle2) hover.2
  · exact hcurrent ▸ hreplayed.rotated
  · rw [hprevious1,← hprevious]
    exact hreplayed.previous
  · rw [hprevious1,← hprevious]
    exact hreplayed.known
  · rw [hle1.kept sid row row1 hrow hrow1 hsame1]
    exact lt_of_lt_of_le hreplayed.late (unix_mono hle1)

end States

section Runs
variable {config} {now : Int} {acts pre post : List (Act LoginCall AuthChoice)}

theorem tracked_logins (hdigest : config.Collisionless) (call : LoginCall) {s : AuthStore}
    (hinv : ChainInv config (GivenAtLogin acts) s) :
    Tracked config acts call (Accounted config call) ((call.sessionCall config).program config) s := by
  by_cases hknown : Known acts call
  · have hnone : call.token config=none → ∀ s' result, Accounted config call s' result := by
      intro hnone s' result token htoken
      rw [hnone] at htoken
      cases htoken
    have hsafe := orderly_program hdigest hknown hnone (fun s' _ _ result houtcome token htoken _ => ?_) hinv
    · exact hsafe.strengthen fun _ _ _ h => h.2
    · have h := houtcome token htoken
      refine ⟨fun next hnext => ?_,h.replayed⟩
      obtain ⟨hderived,hheld,-⟩ := h.refreshed next hnext
      exact ⟨hderived,hheld.mem⟩
  · apply Safe.idle
    · exact fun _ _ _ h => hknown h.1
    intro s' result token htoken
    obtain ⟨l,refreshSecret,hcall,-⟩ : ∃ l refreshSecret, call=.login l refreshSecret ∧
        ¬GivenAtLogin acts l.sid refreshSecret := by
      by_contra hall
      exact hknown fun l refreshSecret hcall => by
        by_contra hgiven
        exact hall ⟨l,refreshSecret,hcall,hgiven⟩
    rw [hcall] at htoken
    cases htoken

theorem ProperRun.careful (h : ProperRun config now acts) :
    Guarded (logins config).act (Meets (Allowed (Careful config acts))) acts { shared := { now := now }, threads := [] } :=
  guarded_started (by simp) (fun o ho l refreshSecret hcall => ⟨l,rfl,hcall ▸ ho⟩) h

theorem ProperRun.before (h : ProperRun config now acts) (hacts : acts=pre++post) : ProperRun config now pre := by
  rw [hacts] at h
  exact (guarded_append.mp h).1

theorem ProperRun.halves (h : ProperRun config now acts) (hacts : acts=pre++post) :
    Guarded (logins config).act (Meets (Allowed (Careful config acts))) pre { shared := { now := now }, threads := [] } ∧
    Guarded (logins config).act (Meets (Allowed (Careful config acts))) post (afterCalls config now pre) := by
  have hcareful := h.careful
  rw [hacts] at hcareful ⊢
  exact guarded_append.mp hcareful

theorem tracked_reached (hdigest : config.Collisionless) (h : ProperRun config now acts) (hacts : acts=pre++post) :
    Each (fun s => ChainInv config (GivenAtLogin acts) s ∧ True)
      (fun s t => Tracked config acts t.started (Accounted config t.started) t.code s) (afterCalls config now pre) := by
  have hkeeps := system_keepsIf (P := fun _ => True) (Careful config acts) (Guarantee config) (Accounted config) Moves.refl
    (fun _ _ _ => Moves.trans) (fun _ _ _ _ => Accounted.mono) (fun _ _ _ h => h)
    (fun call s => tracked_logins (s := s) hdigest call)
  exact hkeeps.run ⟨⟨chainInv_empty now,trivial⟩,by simp⟩ (h.halves hacts).1

theorem afterCalls_append (config : SessionConfig) (now : Int) (pre post : List (Act LoginCall AuthChoice)) :
    afterCalls config now (pre++post)=run (logins config).act post (afterCalls config now pre) :=
  run_append _ pre post _

theorem moves_after (hdigest : config.Collisionless) (h : ProperRun config now acts) (hacts : acts=pre++post) :
    Moves (afterCalls config now pre).shared (afterCalls config now acts).shared := by
  have hkeeps := system_keepsIf (P := fun s => Moves (afterCalls config now pre).shared s) (Careful config acts)
    (Guarantee config) (Accounted config) Moves.refl (fun _ _ _ => Moves.trans) (fun _ _ _ _ => Accounted.mono)
    (fun _ _ hle h => h.trans hle) (fun call s => tracked_logins (s := s) hdigest call)
  have hreached := tracked_reached hdigest h hacts
  have hpost := (h.halves hacts).2
  rw [hacts,afterCalls_append]
  exact (hkeeps.run ⟨⟨hreached.shared.1,Moves.refl _⟩,hreached.thread⟩ hpost).shared.2

theorem afterCalls_snoc (config : SessionConfig) (now : Int) (pre : List (Act LoginCall AuthChoice))
    (a : Act LoginCall AuthChoice) : afterCalls config now (pre++[a])=(logins config).act (afterCalls config now pre) a :=
  afterCalls_append config now pre [a]

variable {thread : LoginThread}

theorem guarantee_step (hdigest : config.Collisionless) (h : ProperRun config now acts) {i : Nat} {c : AuthChoice}
    (hacts : acts=pre++.step i c::post) (hthread : (afterCalls config now pre).threads[i]? = some thread) :
    Guarantee config thread.started (afterCalls config now pre).shared (afterCalls config now (pre++[.step i c])).shared := by
  have hreached := tracked_reached hdigest h hacts
  have hok : Allowed (Careful config acts) (afterCalls config now pre).shared thread c := (h.halves hacts).2.1 thread hthread
  rw [afterCalls_snoc,System.act_step hthread]
  exact safe_guarantee Moves.refl (fun _ _ => guarantee_quiet rfl) hok hreached.shared.1
    (hreached.thread thread (mem_of_getElem? hthread))

variable {sid : String}

section
variable (hdigest : config.Collisionless)
include hdigest

section
variable (h : ProperRun config now acts)
include h

theorem moved_of_chain {a : Act LoginCall AuthChoice} (hacts : acts=pre++a::post) {row row' : UserSession}
    (hrow : (afterCalls config now pre).shared.row sid=some row)
    (hrow' : (afterCalls config now (pre++[a])).shared.row sid=some row') (hne : row'.refreshHash≠row.refreshHash) :
    ∃ i c thread secret, a=.step i c ∧ (afterCalls config now pre).threads[i]? = some thread ∧
      thread.started.refreshes=true ∧ thread.started.token config=some (sid,secret) ∧
      row.refreshHash=hashRefreshSecret config secret ∧
      row'.refreshHash=hashRefreshSecret config (deriveNextRefreshSecret config sid secret) := by
  have hidle : (afterCalls config now (pre++[a])).shared≠(afterCalls config now pre).shared := by
    intro hsame
    rw [hsame,hrow,Option.some.injEq] at hrow'
    exact hne (hrow' ▸ rfl)
  cases a with
  | start call => exact absurd (congrArg Pool.shared (afterCalls_snoc config now pre _)) hidle
  | step i c =>
    cases hthread : (afterCalls config now pre).threads[i]? with
    | none =>
      rw [afterCalls_snoc,System.act_idle hthread] at hidle
      exact absurd rfl hidle
    | some thread =>
      obtain ⟨secret,htoken,hrefreshes,hold,hnew⟩ :=
        (guarantee_step hdigest h hacts hthread).moved sid row row' hrow hrow' hne
      exact ⟨i,c,thread,secret,rfl,hthread,hrefreshes,htoken,hold,hnew⟩

theorem chain_of_run (hacts : acts=pre++post) {row : UserSession} (hrow : (afterCalls config now pre).shared.row sid=some row) :
    ∃ secret n, GivenAtLogin acts sid secret ∧ (afterCalls config now pre).shared.hashes sid=chainHashes config sid secret n ∧
      row.refreshHash=hashRefreshSecret config (secretAt config sid secret n) ∧
      row.previousRefreshHash=previousDigest config sid secret n := by
  obtain ⟨⟨older,hhashes,hprevious⟩,secret,n,hgiven,hchain⟩ :=
    (tracked_reached hdigest h hacts).shared.1.chain sid row hrow
  refine ⟨secret,n,hgiven,hchain,?_⟩
  rw [hchain] at hhashes
  cases n with
  | zero =>
    rw [chainHashes,List.cons.injEq] at hhashes
    exact ⟨hhashes.1.symm,by rw [hprevious,← hhashes.2]; rfl⟩
  | succ n =>
    rw [chainHashes,List.cons.injEq] at hhashes
    obtain ⟨older',holder⟩ := chainHashes_eq config sid secret n
    refine ⟨hhashes.1.symm,?_⟩
    rw [hprevious,← hhashes.2,holder,headD_cons]
    rfl

theorem once_of_chain
    (hfresh : ∀ sid secret, GivenAtLogin acts sid secret → Unpredicted config sid secret) {a b : Act LoginCall AuthChoice}
    {mid : List (Act LoginCall AuthChoice)} (hacts : acts=pre++a::mid++b::post)
    {row1 row1' row2 : UserSession} (hrow1 : (afterCalls config now pre).shared.row sid=some row1)
    (hrow1' : (afterCalls config now (pre++[a])).shared.row sid=some row1') (hne : row1'.refreshHash≠row1.refreshHash)
    (hrow2 : (afterCalls config now (pre++a::mid)).shared.row sid=some row2) : row1.refreshHash≠row2.refreshHash := by
  have hpre : acts=pre++(a::mid++b::post) := by rw [hacts,append_assoc]
  have hstep : acts=(pre++[a])++(mid++b::post) := by simp [hacts]
  have hinv1 := (tracked_reached hdigest h hpre).shared.1
  have hinv1' := (tracked_reached hdigest h hstep).shared.1
  have hinv2 := (tracked_reached hdigest h hacts).shared.1
  have hmoves : Moves (afterCalls config now pre).shared (afterCalls config now (pre++[a])).shared :=
    moves_after hdigest (h.before hstep) rfl
  have hmoves' : Moves (afterCalls config now (pre++[a])).shared (afterCalls config now (pre++a::mid)).shared :=
    moves_after hdigest (h.before hacts) (append_cons pre a mid)
  have hmem : row1.refreshHash∈((afterCalls config now (pre++[a])).shared.hashes sid).drop 1 := by
    have hmem := hmoves.mem (hinv1.current_mem hrow1)
    obtain ⟨⟨older,hhashes,-⟩,-⟩ := hinv1'.chain sid row1' hrow1'
    rw [hhashes] at hmem ⊢
    exact (mem_cons.mp hmem).resolve_left hne.symm
  have hlater := mem_drop_of_suffix (hmoves'.hashes sid) hmem
  have hnodup := hinv2.nodup hdigest hfresh hrow2
  obtain ⟨⟨older,hhashes,-⟩,-⟩ := hinv2.chain sid row2 hrow2
  rw [hhashes] at hlater hnodup
  intro heq
  exact (nodup_cons.mp hnodup).1 (heq ▸ hlater)

theorem unaccepted_of_spent (hacts : acts=pre++post) {presented : String}
    (hspent : Spent config (GivenAtLogin acts) (afterCalls config now pre).shared sid (hashRefreshSecret config presented))
    {j : Nat} (hlater : (afterCalls config now pre).threads.length≤j)
    (hthread : (afterCalls config now acts).threads[j]? = some thread)
    (htoken : thread.started.token config=some (sid,presented)) {result : SessionResult}
    (hresult : thread.code.result=some result) :
    result.refreshed=none ∧ (thread.started.refreshes=false → result.revoked=[]) := by
  have hreached := tracked_reached hdigest h hacts
  have hpost := (h.halves hacts).2
  have hthread' : (run (logins config).act post (afterCalls config now pre)).threads[j]? = some thread := by
    rw [← afterCalls_append,← hacts]
    exact hthread
  have hsafe := system_later (P := fun s => Spent config (GivenAtLogin acts) s sid (hashRefreshSecret config presented))
    (Careful config acts) (Guarantee config) (Accounted config)
    (fun _ result => result.refreshed=none ∧ (thread.started.refreshes=false → result.revoked=[]))
    (fun call => call=thread.started) Moves.refl (fun _ _ _ => Moves.trans) (fun _ _ _ _ => Accounted.mono)
    (fun _ _ _ _ h => h) (fun _ _ hle h => h.mono hle) (fun call s => tracked_logins (s := s) hdigest call)
    (fun call s hcall hinv hspent => ?_) ⟨⟨hreached.shared.1,hspent⟩,hreached.thread⟩ hpost hlater hthread' rfl
  · rw [Prog.result_eq_some.mp hresult] at hsafe
    exact hsafe
  · subst hcall
    have hknown : ∀ l refreshSecret, thread.started=.login l refreshSecret → GivenAtLogin acts l.sid refreshSecret := by
      intro l refreshSecret hcall
      rw [hcall] at htoken
      cases htoken
    refine (orderly_program hdigest hknown (fun hnone => ?_) (fun s' _ _ result houtcome => ?_) hinv).strengthen
      fun _ _ _ h => h.2
    · rw [htoken] at hnone
      cases hnone
    · have h := houtcome _ htoken
      constructor
      · by_contra hne
        obtain ⟨next,hnext⟩ := ne_none_iff_exists'.mp hne
        exact hspent s' (h.refreshed next hnext).2.1
      · intro hrefreshes
        by_contra hne
        exact hspent s' (h.revoked hrefreshes hne)

theorem turned_of_run (hacts : acts=pre++post) {j : Nat} (hlater : (afterCalls config now pre).threads.length≤j)
    (hthread : (afterCalls config now acts).threads[j]? = some thread) {rawRefreshToken expectedSID presented : String}
    (hstarted : thread.started=.refresh rawRefreshToken expectedSID)
    (htoken : splitRefreshToken config rawRefreshToken=some (sid,presented))
    (hexpected : trimSpace expectedSID="" ∨ trimSpace expectedSID=sid) {result : SessionResult}
    (hresult : thread.code.result=some result) :
    Turned config (GivenAtLogin acts) thread.started (afterCalls config now pre).shared (afterCalls config now acts).shared := by
  have hreached := tracked_reached hdigest h hacts
  have hpost := (h.halves hacts).2
  have hthread' : (run (logins config).act post (afterCalls config now pre)).threads[j]? = some thread := by
    rw [← afterCalls_append,← hacts]
    exact hthread
  have hsafe := system_later (P := fun s => Moves (afterCalls config now pre).shared s) (Careful config acts)
    (Guarantee config) (Accounted config)
    (fun s _ => Turned config (GivenAtLogin acts) thread.started (afterCalls config now pre).shared s)
    (fun call => call=thread.started) Moves.refl (fun _ _ _ => Moves.trans) (fun _ _ _ _ => Accounted.mono)
    (fun _ _ _ hle h => h.mono hle) (fun _ _ hle h => h.trans hle) (fun call s => tracked_logins (s := s) hdigest call)
    (fun call s hcall hinv hmoves => ?_) ⟨⟨hreached.shared.1,Moves.refl _⟩,hreached.thread⟩ hpost hlater hthread' rfl
  · have hall : afterCalls config now acts=run (logins config).act post (afterCalls config now pre) :=
      (congrArg _ hacts).trans (afterCalls_append config now pre post)
    rw [Prog.result_eq_some.mp hresult] at hsafe
    rw [hall]
    exact hsafe
  · subst hcall
    have hknown : ∀ l refreshSecret, thread.started=.login l refreshSecret → GivenAtLogin acts l.sid refreshSecret := by
      intro l refreshSecret hcall
      rw [hstarted] at hcall
      cases hcall
    have hsome : thread.started.token config=some (sid,presented) := by
      rw [hstarted]
      exact htoken
    refine (orderly_program hdigest hknown (fun hnone => ?_) (fun s' _ _ result houtcome => ?_) hinv).strengthen
      fun _ _ _ h => h.2
    · rw [hsome] at hnone
      cases hnone
    · exact ((houtcome _ hsome).turned rawRefreshToken expectedSID hstarted hexpected).earlier hmoves

end

end

end Runs

/-- In every proper run, the refresh tokens of every session form one chain, as long as the digests do not collide and the secrets
of the logins are not digests. -/
theorem refresh_tokens_form_one_chain (hdigest : config.Collisionless) {now : Int} {acts : List (Act LoginCall AuthChoice)}
    (hfresh : ∀ sid secret, GivenAtLogin acts sid secret → Unpredicted config sid secret) (h : ProperRun config now acts) :
    OneChain config now acts where
  chain _ _ hrow := chain_of_run hdigest h (append_nil acts).symm hrow
  moved _ _ _ hacts _ _ _ hrow hrow' hne := moved_of_chain hdigest h hacts hrow hrow' hne
  once _ _ _ _ _ hacts _ _ _ _ _ hrow₁ hrow₁' hne hrow₂ _ _ := once_of_chain hdigest h hfresh hacts hrow₁ hrow₁' hne hrow₂
  refreshed thread hthread hrefreshes sid presented htoken result next hresult hnext := by
    have hreached := tracked_reached hdigest h (append_nil acts).symm
    have hsafe := hreached.thread thread hthread
    rw [Prog.result_eq_some.mp hresult] at hsafe
    obtain ⟨hderived,hissued⟩ := (hsafe _ htoken hrefreshes).1 next hnext
    refine ⟨hderived,?_⟩
    have hrow : ∃ row, (afterCalls config now acts).shared.row sid=some row := by
      by_contra hnone
      rw [Issued,hreached.shared.1.absent sid (eq_none_iff_forall_ne_some.mpr fun row h => hnone ⟨row,h⟩)] at hissued
      cases hissued
    obtain ⟨row,hrow⟩ := hrow
    obtain ⟨-,secret,n,hgiven,hhashes⟩ := hreached.shared.1.chain sid row hrow
    rw [Issued,hhashes] at hissued
    obtain ⟨k,-,hk⟩ := mem_chainHashes.mp hissued
    have hpresented : presented=secretAt config sid secret k := hdigest.hash hk
    refine ⟨secret,k,hgiven,hpresented,?_⟩
    rw [secretAt_succ,← hpresented]
    exact hderived
  older pre post hacts sid secret n k hgiven hk hhashes j thread hlater hthread htoken result hresult := by
    apply unaccepted_of_spent hdigest h hacts _ hlater hthread htoken hresult
    apply spent_of_older hdigest hfresh
    obtain ⟨m,rfl⟩ : ∃ m, n=m+2 := ⟨n-2,by omega⟩
    rw [hhashes]
    exact mem_chainHashes.mpr ⟨k,by omega,rfl⟩
  replayed pre post hacts sid row presented hrow hreplayed j thread hlater hthread rawRefreshToken expectedSID hstarted htoken
      hexpected result hresult hsame := by
    have hturned := turned_of_run hdigest h hacts hlater hthread hstarted htoken hexpected hresult
    refine hturned.over ?_ ?_ (tracked_reached hdigest h hacts).shared.1 hrow hreplayed hsame
    · rw [hstarted]
      rfl
    · rw [hstarted]
      exact htoken
  judged thread hthread hrefreshes sid presented htoken result row at' hresult hjudged hreplayed := by
    have hsafe := (tracked_reached hdigest h (append_nil acts).symm).thread thread hthread
    rw [Prog.result_eq_some.mp hresult] at hsafe
    exact (hsafe _ htoken hrefreshes).2 row at' hjudged hreplayed
  revoked pre post hacts sid hrevoked j thread hlater hthread presented htoken result hresult :=
    unaccepted_of_spent hdigest h hacts (spent_of_revoked hrevoked) hlater hthread htoken hresult
  unknown pre i c post hacts thread hthread token htoken hunknown := by
    by_contra hne
    exact hunknown ((guarantee_step hdigest h hacts hthread).issued hne token htoken)

def tokenConfig : SessionConfig where
  redisKeyCacheSeconds := 60
  limits := { userSessionActiveLimit := 5, userSessionIssuanceLimit := 0, userSessionIssuanceWindowSeconds := 3600,
              userSessionRevokedRetentionDays := 30 }
  refreshDigest secret := "r" ++ secret
  refreshRotateDigest text := .ofList ('n' :: text.toList.flatMap fun c => if c = '.' then ['0'] else ['1',c])
  isUUID _ := true

theorem escaped_inj {a b : List Char}
    (h : (a.flatMap fun c => if c = '.' then ['0'] else ['1',c])=b.flatMap fun c => if c = '.' then ['0'] else ['1',c]) :
    a=b := by
  induction a generalizing b with
  | nil =>
    cases b with
    | nil => rfl
    | cons d b =>
      rw [flatMap_nil,flatMap_cons] at h
      split at h <;> cases h
  | cons c a ih =>
    cases b with
    | nil =>
      rw [flatMap_nil,flatMap_cons] at h
      split at h <;> cases h
    | cons d b =>
      rw [flatMap_cons,flatMap_cons] at h
      by_cases hc : c = '.' <;> by_cases hd : d = '.'
      · rw [if_pos hc,if_pos hd] at h
        rw [hc,hd,ih (append_cancel_left h)]
      · rw [if_pos hc,if_neg hd] at h
        simp at h
      · rw [if_neg hc,if_pos hd] at h
        simp at h
      · rw [if_neg hc,if_neg hd] at h
        simp only [cons_append,nil_append,List.cons.injEq,true_and] at h
        rw [h.1,ih h.2]

theorem tokenConfig_collisionless : tokenConfig.Collisionless where
  refresh a b h := (String.append_right_inj "r").mp h
  rotate a b h := by
    have hchars := String.ofList_injective h
    rw [List.cons.injEq] at hchars
    exact String.toList_injective (escaped_inj hchars.2)

theorem tokenConfig_unpredicted (sid : String) : Unpredicted tokenConfig sid "x" := by
  intro other h
  have hchars := congrArg String.toList h
  rw [deriveNextRefreshSecret,tokenConfig] at hchars
  simp at hchars

def tokenLogin : Login where
  sid := "a"
  userID := 1
  userAuthVersion := 1
  refreshHash := ""
  expiresAt := 100000
  now := 1000

def steps (i n : Nat) : List (Act LoginCall AuthChoice) := .replicate n (.step i {})

def looks (i n : Nat) (authVersion : Int) : List (Act LoginCall AuthChoice) :=
  .replicate n (.step i { view := some { enabled := true, authVersion := authVersion } })

def delayed (i : Nat) : List (Act LoginCall AuthChoice) := [.step i { elapsed := 31000000000 }]

def rotatedRun : List (Act LoginCall AuthChoice) :=
  .start (.login tokenLogin "x")::looks 0 1 1++steps 0 7++.start (.refresh "a.x" "")::steps 1 3++looks 1 2 1++steps 1 8

def replayedRun : List (Act LoginCall AuthChoice) :=
  rotatedRun++.start (.refresh "a.x" "")::delayed 2++steps 2 2++looks 2 2 1++steps 2 8

theorem refresh_tokens_form_one_chain_replayed : OneChain tokenConfig 1000000000000 replayedRun ∧
    ((afterCalls tokenConfig 1000000000000 replayedRun).shared.row "a").map (·.status)=some .revoked := by
  refine ⟨refresh_tokens_form_one_chain _ tokenConfig_collisionless ?_ (by decide +kernel),by decide +kernel⟩
  rintro sid secret ⟨l,-,hmem⟩
  have hlogins : replayedRun.all fun a => match a with
      | .start (.login _ refreshSecret) => refreshSecret="x"
      | _ => true := by decide +kernel
  have hsecret : secret="x" := of_decide_eq_true (all_eq_true.mp hlogins _ hmem)
  rw [hsecret]
  exact tokenConfig_unpredicted sid

/-- A refresh with an unknown secret, after the auth version of the user has been bumped. -/
def unknownRun : List (Act LoginCall AuthChoice) :=
  .start (.login tokenLogin "x")::looks 0 1 1++steps 0 7++.start (.refresh "a.y" "")::steps 1 3++looks 1 2 2++steps 1 4

/-- A replay whose deny fence comes after the session has advanced to its next version. -/
def survivedRun : List (Act LoginCall AuthChoice) :=
  rotatedRun++.start (.refresh "a.x" "")::delayed 2++steps 2 2++looks 2 2 1++steps 2 3 ++
    .start (.advance 1 "a" 1 1 2)::steps 3 6++steps 2 2

/-- A revocation that stalls after its deny fence, for which a replay 31 seconds later is refused. -/
def stalledRun : List (Act LoginCall AuthChoice) :=
  rotatedRun++.start (.revoke 1 "a" "logout")::delayed 2++steps 2 3

def refusedRun : List (Act LoginCall AuthChoice) := stalledRun++.start (.refresh "a.x" "")::steps 3 2

def rotatedRow : UserSession where
  sid := "a"
  userID := 1
  userAuthVersion := 1
  refreshHash := "rn1a01x"
  previousRefreshHash := "rx"
  previousValidUntil := 1030
  createdAt := 1000
  lastActiveAt := 1000
  expiresAt := 100000

def returnedBy (p : Pool AuthStore LoginThread) (i : Nat) : Option SessionResult := p.threads[i]?.bind fun thread => thread.code.result

/-- The unknown secret revokes the session. The replayed ones do not, and the next secret is accepted after them. -/
theorem chain_broken : ¬OneChain tokenConfig 1000000000000 (unknownRun++[.step 1 {}]) ∧
    (¬OneChain tokenConfig 1000000000000 survivedRun ∧ ((returnedBy (afterCalls tokenConfig 1000000000000
      (survivedRun++.start (.refresh "a.n1a01x" "")::steps 4 3++looks 4 2 2++steps 4 8)) 4).bind (·.refreshed)).isSome) ∧
    ¬OneChain tokenConfig 1000000000000 refusedRun ∧ ((returnedBy (afterCalls tokenConfig 1000000000000
      (refusedRun++.start (.refresh "a.n1a01x" "")::.step 4 { elapsed := 61000000000 }::steps 4 7++looks 4 2 1++steps 4 8)) 4).bind
      (·.refreshed)).isSome := by
  refine ⟨fun h => ?_,⟨fun h => ?_,by decide +kernel⟩,fun h => ?_,by decide +kernel⟩
  · obtain ⟨thread,hthread⟩ : ∃ thread, (afterCalls tokenConfig 1000000000000 unknownRun).threads[1]? = some thread :=
      isSome_iff_exists.mp (by decide +kernel)
    have hstarted : (afterCalls tokenConfig 1000000000000 unknownRun).threads[1]?.map (·.started) =
        some (.refresh "a.y" "") := by decide +kernel
    rw [hthread,map_some,Option.some.injEq] at hstarted
    have hsame := h.unknown unknownRun 1 {} [] rfl thread hthread ("a","y") (by rw [hstarted]; decide +kernel) (by decide +kernel)
    revert hsame
    decide +kernel
  · have hresult : returnedBy (afterCalls tokenConfig 1000000000000 survivedRun) 2 =
        some { error := some .failed, judged := some (rotatedRow,1031) } := by decide +kernel
    have hreplayed : Replayed rotatedRow (hashRefreshSecret tokenConfig "x") 1031 := by
      constructor <;> decide +kernel
    obtain ⟨thread,hthread,hresult⟩ := bind_eq_some_iff.mp hresult
    have hstarted : (afterCalls tokenConfig 1000000000000 survivedRun).threads[2]?.map (·.started) =
        some (.refresh "a.x" "") := by decide +kernel
    rw [hthread,map_some,Option.some.injEq] at hstarted
    obtain ⟨row',hrow',hdenied⟩ := h.judged thread (mem_of_getElem? hthread) (by rw [hstarted]; rfl) "a" "x"
      (by rw [hstarted]; decide +kernel) _ rotatedRow 1031 hresult rfl hreplayed
    have hactive : ((afterCalls tokenConfig 1000000000000 survivedRun).shared.row "a").map (·.status)=some .active := by
      decide +kernel
    rw [hrow',map_some,Option.some.injEq] at hactive
    exact hdenied hactive
  · have hresult : returnedBy (afterCalls tokenConfig 1000000000000 refusedRun) 3=some { error := some .revoked } := by
      decide +kernel
    obtain ⟨thread,hthread,hresult⟩ := bind_eq_some_iff.mp hresult
    have hstarted : (afterCalls tokenConfig 1000000000000 refusedRun).threads[3]?.map (·.started) =
        some (.refresh "a.x" "") := by decide +kernel
    rw [hthread,map_some,Option.some.injEq] at hstarted
    have hover := h.replayed stalledRun _ rfl "a" rotatedRow "x" (by decide +kernel) (by decide +kernel) 3 thread
      (by decide +kernel) hthread "a.x" "" hstarted (by decide +kernel) (.inl (by decide)) _ hresult (by decide +kernel)
    obtain ⟨row',hrow',hdenied⟩ := hover.resolve_right (by decide +kernel)
    have hactive : ((afterCalls tokenConfig 1000000000000 refusedRun).shared.row "a").map (·.status)=some .active := by
      decide +kernel
    rw [hrow',map_some,Option.some.injEq] at hactive
    exact hdenied hactive

end NewApi.Sessions
