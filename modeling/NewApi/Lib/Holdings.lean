import Mathlib.Logic.Function.Basic
import NewApi.Lib.Programs

/-! Concurrent calls each of which holds something of its own: a right, a claim, a place in a row. A call's operations change what
it holds; they leave what the other calls hold true and apart. -/
namespace Holdings
open Function Option Threads Programs Runs
variable {σ ρ χ ο η : Type*} {Op : Type} {Ans : Op → Type}

section Steps
variable (Inv : σ → Prop) (le : σ → σ → Prop) (Know : η → σ → Prop) (Apart : η → η → Prop)

/-- A step of a call that held `h` before it and holds `h'` after it. -/
structure Passes (h h' : η) (s s' : σ) : Prop where
  inv : Inv s'
  le : le s s'
  know : Know h' s'
  frame : ∀ k, Know k s → Apart h k → Know k s' ∧ Apart h' k

variable {Inv le Know Apart} in
theorem Passes.refl (hrefl : ∀ s, le s s) {h : η} {s : σ} (hs : Inv s) (hknow : Know h s) : Passes Inv le Know Apart h h s s :=
  ⟨hs,hrefl s,hknow,fun _ hk hapart => ⟨hk,hapart⟩⟩

variable {Inv le Know Apart} in
theorem Passes.trans (htrans : ∀ a b c, le a b → le b c → le a c) {h h' h'' : η} {s s' s'' : σ}
    (first : Passes Inv le Know Apart h h' s s') (second : Passes Inv le Know Apart h' h'' s' s'') :
    Passes Inv le Know Apart h h'' s s'' :=
  ⟨second.inv,htrans _ _ _ first.le second.le,second.know,fun k hk hapart =>
    second.frame k (first.frame k hk hapart).1 (first.frame k hk hapart).2⟩

/-- The operations of a call that holds `h` are steps of a call that holds something. -/
def Owns (exec : σ → χ → (op : Op) → σ×Ans op) (ok : σ → χ → Op → Prop) : Prog Op Ans ρ → η → Prop
  | .returned _, _ => True
  | .call op next, h => ∀ s c, Inv s → Know h s → ok s c op →
      ∃ h', Passes Inv le Know Apart h h' s (exec s c op).1 ∧ Owns exec ok (next (exec s c op).2) h'

end Steps

variable {exec : σ → χ → (op : Op) → σ×Ans op} {Inv : σ → Prop} {le : σ → σ → Prop} {Know : η → σ → Prop} {Apart : η → η → Prop}
  {ok : ο → σ → χ → Op → Prop} {program : ο → Prog Op Ans ρ}
variable {p : Pool σ (Thread ο Op Ans ρ)} {held : Nat → η}

/-- The invariant holds and the calls hold things that are apart. -/
structure Held (exec : σ → χ → (op : Op) → σ×Ans op) (Inv : σ → Prop) (le : σ → σ → Prop) (Know : η → σ → Prop)
    (Apart : η → η → Prop) (ok : ο → σ → χ → Op → Prop) (p : Pool σ (Thread ο Op Ans ρ)) (held : Nat → η) : Prop where
  inv : Inv p.shared
  know : ∀ i, ∀ t∈p.threads[i]?, Know (held i) p.shared
  owns : ∀ i, ∀ t∈p.threads[i]?, Owns Inv le Know Apart exec (ok t.started) t.code (held i)
  apart : ∀ i j, i<p.threads.length → j<p.threads.length → i≠j → Apart (held i) (held j)

theorem Held.start (hp : Held exec Inv le Know Apart ok p held) {nothing : η}
    (hsymm : ∀ {h k}, Apart h k → Apart k h) (hknow : ∀ s, Inv s → Know nothing s) (hapart : ∀ k, Apart nothing k)
    (hprogram : ∀ o, Owns Inv le Know Apart exec (ok o) (program o) nothing) (o : ο) :
    Held exec Inv le Know Apart ok ((system exec program).act p (.start o)) (Function.update held p.threads.length nothing) := by
  have hold : ∀ i, i<p.threads.length → Function.update held p.threads.length nothing i=held i := fun i hi =>
    update_of_ne (Nat.ne_of_lt hi) _ _
  have hnew : Function.update held p.threads.length nothing p.threads.length=nothing := update_self _ _ _
  have hcases : ∀ i, ∀ t∈(p.threads++[(system exec program).init o])[i]?,
      (i<p.threads.length ∧ p.threads[i]? = some t) ∨ (i=p.threads.length ∧ t=(system exec program).init o) := by
    intro i t ht
    rw [mem_def,List.getElem?_append] at ht
    split at ht
    · exact .inl ⟨‹_›,ht⟩
    have hlt := (List.getElem?_eq_some_iff.mp ht).1
    rw [List.length_singleton] at hlt
    have hi : i=p.threads.length := by omega
    subst hi
    simp only [Nat.sub_self,List.getElem?_cons_zero,Option.some.injEq] at ht
    exact .inr ⟨rfl,ht.symm⟩
  refine ⟨hp.inv,?_,?_,?_⟩
  · intro i t ht
    rcases hcases i t ht with ⟨hi,ht⟩ | ⟨rfl,-⟩
    · rw [hold i hi]
      exact hp.know i t ht
    · rw [hnew]
      exact hknow _ hp.inv
  · intro i t ht
    rcases hcases i t ht with ⟨hi,ht⟩ | ⟨rfl,rfl⟩
    · rw [hold i hi]
      exact hp.owns i t ht
    · rw [hnew]
      exact hprogram o
  · intro i j hi hj hne
    rw [System.act,List.length_append,List.length_singleton] at hi hj
    by_cases hi' : i<p.threads.length
    · rw [hold i hi']
      by_cases hj' : j<p.threads.length
      · rw [hold j hj']
        exact hp.apart i j hi' hj' hne
      · rw [show j=p.threads.length by omega,hnew]
        exact hsymm (hapart _)
    · rw [show i=p.threads.length by omega,hnew]
      exact hapart _

theorem Held.step (hp : Held exec Inv le Know Apart ok p held)
    (hrefl : ∀ s, le s s) (hsymm : ∀ {h k}, Apart h k → Apart k h) {i : Nat} {c : χ} (hok : Meets (Allowed ok) p (.step i c : Act ο χ)) :
    le p.shared ((system exec program).act p (.step i c)).shared ∧
      ∃ held', Held exec Inv le Know Apart ok ((system exec program).act p (.step i c)) held' := by
  cases hi : p.threads[i]? with
  | none =>
    rw [System.act_idle hi]
    exact ⟨hrefl _,held,hp⟩
  | some t =>
    have hallowed := hok t hi
    have howns := hp.owns i t hi
    obtain ⟨started,code⟩ := t
    cases code with
    | returned result =>
      obtain ⟨hlt,hget⟩ := List.getElem?_eq_some_iff.mp hi
      have hidle : (system exec program).act p (.step i c)=p := by
        rw [System.act_step hi]
        show Pool.mk p.shared (p.threads.set i ⟨started,.returned result⟩)=p
        rw [← hget,List.set_getElem_self]
      rw [hidle]
      exact ⟨hrefl _,held,hp⟩
    | call op next =>
      rw [System.act_step hi]
      obtain ⟨h',hstep,hnext⟩ := howns p.shared c hp.inv (hp.know i _ hi) hallowed
      have hlt : i<p.threads.length := (List.getElem?_eq_some_iff.mp hi).1
      have hself : Function.update held i h' i=h' := update_self _ _ _
      have hother : ∀ j, j≠i → Function.update held i h' j=held j := fun j hj => update_of_ne hj _ _
      refine ⟨hstep.le,Function.update held i h',hstep.inv,?_,?_,?_⟩
      · intro j u hu
        by_cases hij : j=i
        · rw [hij,hself]
          exact hstep.know
        · rw [mem_def,List.getElem?_set_ne (Ne.symm hij)] at hu
          have hj := (List.getElem?_eq_some_iff.mp hu).1
          rw [hother j hij]
          exact (hstep.frame _ (hp.know j u hu) (hp.apart i j hlt hj (Ne.symm hij))).1
      · intro j u hu
        by_cases hij : j=i
        · rw [mem_def,hij,List.getElem?_set_self hlt,Option.some.injEq] at hu
          rw [hij,hself,← hu]
          exact hnext
        · rw [mem_def,List.getElem?_set_ne (Ne.symm hij)] at hu
          rw [hother j hij]
          exact hp.owns j u hu
      · have hmoved : ∀ j, j<p.threads.length → j≠i → Apart h' (held j) := fun j hj hij =>
          (hstep.frame _ (hp.know j _ (List.getElem?_eq_getElem hj)) (hp.apart i j hlt hj (Ne.symm hij))).2
        intro j k hj hk hne
        rw [List.length_set] at hj hk
        by_cases hji : j=i
        · rw [hji,hself,hother k (fun h => hne (hji.trans h.symm))]
          exact hmoved k hk fun h => hne (hji.trans h.symm)
        · rw [hother j hji]
          by_cases hki : k=i
          · rw [hki,hself]
            exact hsymm (hmoved j hj hji)
          · rw [hother k hki]
            exact hp.apart j k hj hk hne

/-- Calls that start with nothing and whose operations keep to what they hold leave the invariant in any interleaving, and a state
that is related to the first one. -/
theorem Held.run {nothing : η} (hrefl : ∀ s, le s s) (htrans : ∀ a b c, le a b → le b c → le a c)
    (hsymm : ∀ {h k}, Apart h k → Apart k h) (hknow : ∀ s, Inv s → Know nothing s)
    (hapart : ∀ k, Apart nothing k) (hprogram : ∀ o, Owns Inv le Know Apart exec (ok o) (program o) nothing)
    {acts : List (Act ο χ)} {p : Pool σ (Thread ο Op Ans ρ)} {held : Nat → η} (hp : Held exec Inv le Know Apart ok p held)
    (h : Guarded (system exec program).act (Meets (Allowed ok)) acts p) :
    le p.shared (Runs.run (system exec program).act acts p).shared ∧
      ∃ held', Held exec Inv le Know Apart ok (Runs.run (system exec program).act acts p) held' := by
  induction acts generalizing p held with
  | nil => exact ⟨hrefl _,held,hp⟩
  | cons a acts ih =>
    obtain ⟨ha,hrest⟩ := h
    cases a with
    | start o => exact ih (hp.start hsymm hknow hapart hprogram o) hrest
    | step i c =>
      obtain ⟨hle,held',hp'⟩ := hp.step hrefl hsymm ha
      obtain ⟨hle',hend⟩ := ih hp' hrest
      exact ⟨htrans _ _ _ hle hle',hend⟩

theorem Owns.weaken {ok : σ → χ → Op → Prop} {h k : η} (hknow : ∀ s, Inv s → Know k s → Know h s)
    (hapart : ∀ k', Apart k k' → Apart h k') {p : Prog Op Ans ρ} (hp : Owns Inv le Know Apart exec ok p h) :
    Owns Inv le Know Apart exec ok p k := by
  cases p with
  | returned result => trivial
  | call op next =>
    intro s c hinv hk hok
    obtain ⟨h',hstep,hnext⟩ := hp s c hinv (hknow s hinv hk) hok
    exact ⟨h',⟨hstep.inv,hstep.le,hstep.know,fun k' hk' hdistinct => hstep.frame k' hk' (hapart k' hdistinct)⟩,hnext⟩

theorem Owns.drop {ok : σ → χ → Op → Prop} {nothing : η} (hknow : ∀ s, Inv s → Know nothing s) (hapart : ∀ k, Apart nothing k)
    {p : Prog Op Ans ρ} (h : Owns Inv le Know Apart exec ok p nothing) (k : η) : Owns Inv le Know Apart exec ok p k :=
  h.weaken (fun s hinv _ => hknow s hinv) fun k' _ => hapart k'

end Holdings
