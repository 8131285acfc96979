import Mathlib.Tactic.Common

/-! Finite runs of a state machine whose steps are functions, and the rules by
which a property of one step becomes a property of a whole run. -/
namespace Runs
universe u
variable {σ ο χ : Type*} {ε : Type*}

/-- A transaction: the effects of a failed call are dropped. -/
def commit (s : σ) : Except ε σ → σ
  | .ok s' => s'
  | .error _ => s

def run (step : σ → ο → σ) : List ο → σ → σ
  | [], s => s
  | o::os, s => run step os (step s o)

/-- Every call of the list meets `ok` in the state it is made from. -/
def Guarded (step : σ → ο → σ) (ok : σ → ο → Prop) : List ο → σ → Prop
  | [], _ => True
  | o::os, s => ok s o ∧ Guarded step ok os (step s o)

instance Guarded.decidable (step : σ → ο → σ) (ok : σ → ο → Prop)
    [∀ s o,Decidable (ok s o)] : ∀ os s, Decidable (Guarded step ok os s)
  | [], _ => inferInstanceAs (Decidable True)
  | o::os, s =>
    haveI := Guarded.decidable step ok os (step s o)
    inferInstanceAs (Decidable (ok s o ∧ Guarded step ok os (step s o)))

@[simp] theorem commit_ok (s s' : σ) : commit s (.ok s' : Except ε σ) = s' := rfl
@[simp] theorem commit_error (s : σ) (e : ε) : commit s (.error e) = s := rfl

variable {s : σ}

theorem commit_of_ok {P : σ → Prop} {out : Except ε σ} (hs : P s) (h : ∀ s', out=.ok s' → P s') : P (commit s out) := by
  cases out with
  | ok s' => exact h s' rfl
  | error e => exact hs

theorem run_append (step : σ → ο → σ) (u v : List ο) (s : σ) : run step (u++v) s=run step v (run step u s) := by
  induction u generalizing s with
  | nil => rfl
  | cons o u ih => exact ih (step s o)

theorem Guarded.invariant {step : σ → ο → σ} {ok : σ → ο → Prop} {Inv : σ → Prop}
    (hstep : ∀ s o, Inv s → ok s o → Inv (step s o)) {os : List ο} {s : σ}
    (hs : Inv s) (h : Guarded step ok os s) : Inv (run step os s) := by
  induction os generalizing s with
  | nil => exact hs
  | cons o os ih => exact ih (hstep s o hs h.1) h.2

variable {step : σ → ο → σ} {ok : σ → ο → Prop} {α β : Type u} {x : Except ε α}

theorem guarded_append {u v : List ο} : Guarded step ok (u++v) s ↔ Guarded step ok u s ∧ Guarded step ok v (run step u s) := by
  induction u generalizing s with
  | nil => exact ⟨fun h => ⟨trivial,h⟩,fun h => h.2⟩
  | cons o u ih => exact (and_congr_right fun _ => ih).trans and_assoc.symm

theorem Guarded.and {p q : σ → ο → Prop} {os : List ο} (hp : Guarded step p os s) (hq : Guarded step q os s) :
    Guarded step (fun s o => p s o ∧ q s o) os s := by
  induction os generalizing s with
  | nil => trivial
  | cons o os ih => exact ⟨⟨hp.1,hq.1⟩,ih hp.2 hq.2⟩

def events (step : σ → ο → σ) (emit : σ → ο → List χ) : List ο → σ → List χ
  | [], _ => []
  | o::os, s => emit s o++events step emit os (step s o)

theorem Guarded.invariant_events {emit : σ → ο → List χ} {Inv : List χ → σ → Prop}
    (hstep : ∀ es s o, Inv es s → ok s o → Inv (es++emit s o) (step s o))
    {os : List ο} {es : List χ} (hs : Inv es s) (h : Guarded step ok os s) :
    Inv (es++events step emit os s) (run step os s) := by
  induction os generalizing es s with
  | nil => simpa [events,run] using hs
  | cons o os ih =>
    rw [events,← List.append_assoc]
    exact ih (hstep es s o hs h.1) h.2

theorem bind_ok {f : α → Except ε β} {b : β}
    (h : x.bind f=.ok b) : ∃ a, x=.ok a ∧ f a=.ok b := by
  cases x with
  | ok a => exact ⟨a,rfl,h⟩
  | error e => cases h

theorem map_ok {f : α → β} {b : β} (h : x.map f=.ok b) : ∃ a, x=.ok a ∧ f a=b := by
  cases x with
  | ok a => exact ⟨a,rfl,by cases h; rfl⟩
  | error e => cases h

/-- What a fallible call guarantees of its value and of its error. -/
def Ensures {α : Type u} (P : α → Prop) (E : ε → Prop) : Except ε α → Prop
  | .ok a => P a
  | .error e => E e

variable {E : ε → Prop} {α β : Type u} {P : α → Prop} {Q : β → Prop} {x : Except ε α}

theorem Ensures.bind {f : α → Except ε β}
    (hx : Ensures P E x) (hf : ∀ a, P a → Ensures Q E (f a)) : Ensures Q E (x.bind f) := by
  cases x with
  | ok a => exact hf a hx
  | error e => exact hx

theorem Ensures.mono {α : Type u} {P Q : α → Prop} {x : Except ε α} (hx : Ensures P E x) (h : ∀ a, P a → Q a) :
    Ensures Q E x := by
  cases x with
  | ok a => exact h a hx
  | error e => exact hx

theorem Ensures.map {f : α → β}
    (hx : Ensures P E x) (hf : ∀ a, P a → Q (f a)) : Ensures Q E (x.map f) := by
  cases x with
  | ok a => exact hf a hx
  | error e => exact hx

theorem Ensures.ite {α : Type u} {P : α → Prop} {c : Prop} [Decidable c] {x y : Except ε α}
    (hx : c → Ensures P E x) (hy : ¬ c → Ensures P E y) : Ensures P E (if c then x else y) := by
  split
  · exact hx ‹_›
  · exact hy ‹_›

theorem Ensures.guard {α : Type u} {P : α → Prop} {c : Prop} [Decidable c] {e : ε} {x : Except ε α} (he : E e)
    (hx : ¬ c → Ensures P E x) : Ensures P E (if c then .error e else x) :=
  Ensures.ite (fun _ => he) hx

end Runs
