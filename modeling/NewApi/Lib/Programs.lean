import NewApi.Lib.Threads

/-! Concurrent calls written as trees of atomic operations, each followed by what the call does on every answer. A call is
safe from a state when, whatever the others do within a relation that all of them keep, its operations keep the invariant
and the relation, and its result is as it should be. -/
namespace Programs
open List Threads Runs
variable {σ ρ χ ο : Type*} {Op : Type} {Ans : Op → Type}

inductive Prog (Op : Type) (Ans : Op → Type) (ρ : Type*) where
  | returned (result : ρ)
  | call (op : Op) (next : Ans op → Prog Op Ans ρ)

def Prog.result : Prog Op Ans ρ → Option ρ
  | .returned result => some result
  | .call _ _ => none

theorem Prog.result_eq_some {code : Prog Op Ans ρ} {result : ρ} : code.result=some result ↔ code=.returned result := by
  cases code <;> simp [Prog.result]

structure Thread (ο : Type*) (Op : Type) (Ans : Op → Type) (ρ : Type*) where
  started : ο
  code : Prog Op Ans ρ

/-- Calls of a program for each start, over operations that run one at a time. -/
def system (exec : σ → χ → (op : Op) → σ×Ans op) (program : ο → Prog Op Ans ρ) : System σ (Thread ο Op Ans ρ) ο χ where
  init o := { started := o, code := program o }
  advance s t c :=
    match t.code with
    | .returned _ => (s,t)
    | .call op next => ((exec s c op).1,{ t with code := next (exec s c op).2 })

def Allowed (ok : ο → σ → χ → Op → Prop) (s : σ) (t : Thread ο Op Ans ρ) (c : χ) : Prop :=
  match t.code with
  | .returned _ => True
  | .call op _ => ok t.started s c op

instance Allowed.decidable (ok : ο → σ → χ → Op → Prop) [∀ o s c op,Decidable (ok o s c op)] (s : σ) (c : χ) :
    ∀ t : Thread ο Op Ans ρ, Decidable (Allowed ok s t c)
  | ⟨_,.returned _⟩ => isTrue trivial
  | ⟨o,.call op _⟩ => inferInstanceAs (Decidable (ok o s c op))

theorem guarded_of_all {exec : σ → χ → (op : Op) → σ×Ans op} {program : ο → Prog Op Ans ρ} {ok : ο → σ → χ → Op → Prop}
    (hok : ∀ o s c op, ok o s c op) (acts : List (Act ο χ)) (p : Pool σ (Thread ο Op Ans ρ)) :
    Guarded (system exec program).act (Meets (Allowed ok)) acts p := by
  induction acts generalizing p with
  | nil => trivial
  | cons a acts ih =>
    refine ⟨?_,ih _⟩
    cases a with
    | start o => trivial
    | step i c =>
      rintro ⟨started,code⟩ -
      cases code with
      | returned result => trivial
      | call op next => exact hok started p.shared c op

section Safety
variable (exec : σ → χ → (op : Op) → σ×Ans op) (Inv : σ → Prop) (le : σ → σ → Prop)

def Safe (ok : σ → χ → Op → Prop) (G : σ → σ → Prop) (Q : σ → ρ → Prop) : Prog Op Ans ρ → σ → Prop
  | .returned result, s => Q s result
  | .call op next, s => ∀ s', Inv s' → le s s' → ∀ c, ok s' c op →
      Inv (exec s' c op).1 ∧ le s' (exec s' c op).1 ∧ G s' (exec s' c op).1 ∧
        Safe ok G Q (next (exec s' c op).2) (exec s' c op).1

variable {exec Inv le} {ok : ο → σ → χ → Op → Prop} {G : ο → σ → σ → Prop} {Q : ο → σ → ρ → Prop}

theorem Safe.mono {ok : σ → χ → Op → Prop} {G : σ → σ → Prop} {Q : σ → ρ → Prop}
    (htrans : ∀ a b c, le a b → le b c → le a c) (hQ : ∀ a b r, le a b → Q a r → Q b r)
    {p : Prog Op Ans ρ} {s s' : σ} (h : Safe exec Inv le ok G Q p s) (hle : le s s') : Safe exec Inv le ok G Q p s' := by
  cases p with
  | returned result => exact hQ s s' result hle h
  | call op next => exact fun s'' hinv hle' => h s'' hinv (htrans s s' s'' hle hle')

theorem Safe.idle {ok : σ → χ → Op → Prop} {G : σ → σ → Prop} {Q : σ → ρ → Prop} (hok : ∀ s c op, ¬ok s c op)
    (hQ : ∀ s result, Q s result) (p : Prog Op Ans ρ) (s : σ) : Safe exec Inv le ok G Q p s := by
  cases p with
  | returned result => exact hQ s result
  | call op next => exact fun s' _ _ c h => absurd h (hok s' c op)

theorem Safe.strengthen {ok ok' : σ → χ → Op → Prop} {G : σ → σ → Prop} {Q : σ → ρ → Prop} (hok : ∀ s c op, ok' s c op → ok s c op)
    {p : Prog Op Ans ρ} {s : σ} (h : Safe exec Inv le ok G Q p s) : Safe exec Inv le ok' G Q p s := by
  induction p generalizing s with
  | returned result => exact h
  | call op next ih =>
    intro s' hinv hle c hc
    obtain ⟨hinv',hle',hG,hnext⟩ := h s' hinv hle c (hok s' c op hc)
    exact ⟨hinv',hle',hG,ih _ hnext⟩

variable {program : ο → Prog Op Ans ρ} {t : Thread ο Op Ans ρ}

theorem safe_advance (hrefl : ∀ s, le s s) {Q : σ → ρ → Prop} {s : σ} {c : χ} (hok : Allowed ok s t c) (hinv : Inv s)
    (ht : Safe exec Inv le (ok t.started) (G t.started) Q t.code s) :
    ∀ r, (system exec program).advance s t c=r → Inv r.1 ∧ le s r.1 ∧
      Safe exec Inv le (ok t.started) (G t.started) Q r.2.code r.1 := by
  rintro _ rfl
  obtain ⟨started,code⟩ := t
  cases code with
  | returned result => exact ⟨hinv,hrefl s,ht⟩
  | call op next =>
    obtain ⟨hinv',hle,-,hnext⟩ := ht s hinv (hrefl s) c hok
    exact ⟨hinv',hle,hnext⟩

theorem safe_guarantee (hrefl : ∀ s, le s s) (hG : ∀ o s, G o s s) {Q : σ → ρ → Prop} {s : σ} {c : χ}
    (hok : Allowed ok s t c) (hinv : Inv s) (ht : Safe exec Inv le (ok t.started) (G t.started) Q t.code s) :
    G t.started s ((system exec program).advance s t c).1 := by
  obtain ⟨started,code⟩ := t
  cases code with
  | returned result => exact hG started s
  | call op next => exact (ht s hinv (hrefl s) c hok).2.2.1

theorem started_advance (s : σ) (t : Thread ο Op Ans ρ) (c : χ) :
    ((system exec program).advance s t c).2.started=t.started := by
  obtain ⟨started,code⟩ := t
  cases code <;> rfl

variable {p : Pool σ (Thread ο Op Ans ρ)} {acts : List (Act ο χ)}

theorem guarded_started {kind : ο → Prop} (hp : ∀ t∈p.threads, kind t.started) (hacts : ∀ o, .start o∈acts → kind o)
    (h : Guarded (system exec program).act (Meets (Allowed ok)) acts p) :
    Guarded (system exec program).act (Meets (Allowed fun o s c op => kind o ∧ ok o s c op)) acts p := by
  induction acts generalizing p with
  | nil => trivial
  | cons a acts ih =>
    obtain ⟨ha,hrest⟩ := h
    have hacts' : ∀ o, .start o∈acts → kind o := fun o ho => hacts o (mem_cons_of_mem _ ho)
    cases a with
    | start o =>
      refine ⟨trivial,ih (fun t ht => ?_) hacts' hrest⟩
      obtain ht | ht := mem_append.mp ht
      · exact hp t ht
      rw [mem_singleton.mp ht]
      exact hacts o mem_cons_self
    | step i c =>
      refine ⟨fun t ht => ?_,ih (fun t ht => ?_) hacts' hrest⟩
      · have hkind := hp t (mem_of_getElem? ht)
        have hok := ha t ht
        obtain ⟨started,code⟩ := t
        cases code with
        | returned result => trivial
        | call op next => exact ⟨hkind,hok⟩
      · cases hi : p.threads[i]? with
        | none =>
          rw [System.act_idle hi] at ht
          exact hp t ht
        | some u =>
          rw [System.act_step hi] at ht
          obtain ht | ht := mem_or_eq_of_mem_set ht
          · exact hp t ht
          rw [ht,started_advance]
          exact hp u (mem_of_getElem? hi)

theorem system_keepsIf (ok : ο → σ → χ → Op → Prop) (G : ο → σ → σ → Prop) (Q : ο → σ → ρ → Prop)
    {P : σ → Prop} (hrefl : ∀ s, le s s)
    (htrans : ∀ a b c, le a b → le b c → le a c) (hQ : ∀ o a b r, le a b → Q o a r → Q o b r) (hP : ∀ a b, le a b → P a → P b)
    (hprogram : ∀ o s, Inv s → Safe exec Inv le (ok o) (G o) (Q o) (program o) s) :
    KeepsIf (system exec program) (Allowed ok) (fun s => Inv s ∧ P s)
      (fun s t => Safe exec Inv le (ok t.started) (G t.started) (Q t.started) t.code s) where
  init o hs := hprogram o _ hs.1
  shared c hok hs ht := by
    obtain ⟨hinv,hle,-⟩ := safe_advance hrefl hok hs.1 ht _ rfl
    exact ⟨hinv,hP _ _ hle hs.2⟩
  moved c hok hs ht := by
    rw [started_advance]
    exact (safe_advance hrefl hok hs.1 ht _ rfl).2.2
  other c hok hs ht hu := hu.mono htrans (hQ _) (safe_advance hrefl hok hs.1 ht _ rfl).2.1

theorem system_later (ok : ο → σ → χ → Op → Prop) (G : ο → σ → σ → Prop) (Q : ο → σ → ρ → Prop) (Q' : σ → ρ → Prop)
    (kind : ο → Prop) {P : σ → Prop}
    (hrefl : ∀ s, le s s) (htrans : ∀ a b c, le a b → le b c → le a c) (hQ : ∀ o a b r, le a b → Q o a r → Q o b r)
    (hQ' : ∀ a b r, le a b → Q' a r → Q' b r) (hP : ∀ a b, le a b → P a → P b)
    (hprogram : ∀ o s, Inv s → Safe exec Inv le (ok o) (G o) (Q o) (program o) s)
    (hkind : ∀ o s, kind o → Inv s → P s → Safe exec Inv le (ok o) (G o) Q' (program o) s) (hp : Each (fun s => Inv s ∧ P s)
      (fun s t => Safe exec Inv le (ok t.started) (G t.started) (Q t.started) t.code s) p)
    (h : Guarded (system exec program).act (Meets (Allowed ok)) acts p) {j : Nat}
    (hj : p.threads.length≤j) (ht : (run (system exec program).act acts p).threads[j]? = some t) (hstarted : kind t.started) :
    Safe exec Inv le (ok t.started) (G t.started) Q' t.code (run (system exec program).act acts p).shared := by
  refine (system_keepsIf ok G Q hrefl htrans hQ hP hprogram).run_later
    (U := fun s t => kind t.started → Safe exec Inv le (ok t.started) (G t.started) Q' t.code s)
    ?_ ?_ ?_ hp (Nat.le_refl _) ?_ h j t hj ht hstarted
  · exact fun o hs hkind' => hkind o _ hkind' hs.1 hs.2
  · intro s u c hok hs _ hu hkind'
    rw [started_advance] at hkind' ⊢
    exact (safe_advance hrefl hok hs.1 (hu hkind') _ rfl).2.2
  · intro s u v c hok hs hu hv hkind'
    exact (hv hkind').mono htrans hQ' (safe_advance hrefl hok hs.1 hu _ rfl).2.1
  · intro j t hj ht
    rw [getElem?_eq_none hj] at ht
    cases ht

end Safety

end Programs
