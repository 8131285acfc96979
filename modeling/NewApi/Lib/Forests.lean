import Mathlib.Logic.Function.Basic
import Mathlib.Logic.Relation

/-! Parent pointers: each point has at most one parent. A pointer structure in which no walk comes back is
a forest, and it stays one when pointers are cut and when a pointer is set that no walk closes. -/
namespace Forests
variable {κ : Type*} {p q : κ → Option κ} {x y a b : κ}

def Parent (p : κ → Option κ) (a b : κ) : Prop := p a=some b

/-- A walk along the parents leads from `a` to `b`. -/
abbrev Reaches (p : κ → Option κ) : κ → κ → Prop := Relation.ReflTransGen (Parent p)

/-- No walk along the parents comes back to where it started. -/
def Acyclic (p : κ → Option κ) : Prop := ∀ a, ¬ Relation.TransGen (Parent p) a a

theorem reaches_of_root (h : p a=none) (hr : Reaches p a b) : b=a := by
  obtain he | ⟨c,hc,-⟩ := hr.cases_head
  · exact he.symm
  rw [Parent,h] at hc
  cases hc

theorem reaches_cons (h : p a=some x) (hr : Reaches p a b) : b=a ∨ Reaches p x b := by
  obtain he | ⟨c,hc,hr⟩ := hr.cases_head
  · exact .inl he.symm
  rw [Parent,h,Option.some.injEq] at hc
  exact .inr (hc ▸ hr)

/-- Pointers that are cut, or that lead to a point without a parent, close no walk. -/
theorem Acyclic.cut (h : Acyclic p) (hq : ∀ a b, q a=some b → p a=some b ∨ q b=none) : Acyclic q := by
  have hwalk : ∀ a b, Relation.TransGen (Parent q) a b → q b≠none → Relation.TransGen (Parent p) a b := by
    intro a b hab
    induction hab with
    | single hab =>
      intro hb
      exact .single ((hq _ _ hab).resolve_right hb)
    | tail _ hbc ih =>
      intro hc
      have hb := ih (by rw [Parent] at hbc; rw [hbc]; exact Option.some_ne_none _)
      exact hb.tail ((hq _ _ hbc).resolve_right hc)
  intro a ha
  obtain ⟨b,hab,-⟩ := Relation.TransGen.head'_iff.mp ha
  exact h a (hwalk a a ha (by rw [Parent] at hab; rw [hab]; exact Option.some_ne_none _))

section Insert
variable [DecidableEq κ]

/-- A walk after a pointer from `x` to `y` was set is a walk without it, or uses it once. -/
theorem transGen_update (hyx : ¬ Reaches p y x) (h : Relation.TransGen (Parent (Function.update p x (some y))) a b) :
    Relation.TransGen (Parent p) a b ∨ Reaches p a x ∧ Reaches p y b := by
  have hedge : ∀ {c d}, Parent (Function.update p x (some y)) c d → c=x ∧ d=y ∨ Parent p c d := by
    intro c d hcd
    by_cases hc : c=x
    · subst hc
      rw [Parent,Function.update_self,Option.some.injEq] at hcd
      exact .inl ⟨rfl,hcd.symm⟩
    · rw [Parent,Function.update_of_ne hc] at hcd
      exact .inr hcd
  induction h with
  | single hab =>
    obtain ⟨rfl,rfl⟩ | hab := hedge hab
    · exact .inr ⟨.refl,.refl⟩
    · exact .inl (.single hab)
  | tail _ hbc ih =>
    obtain ⟨rfl,rfl⟩ | hbc := hedge hbc
    · obtain hab | ⟨-,hyb⟩ := ih
      · exact .inr ⟨hab.to_reflTransGen,.refl⟩
      · exact absurd hyb hyx
    · obtain hab | ⟨hax,hyb⟩ := ih
      · exact .inl (hab.tail hbc)
      · exact .inr ⟨hax,hyb.tail hbc⟩

theorem Acyclic.update (h : Acyclic p) (hyx : ¬ Reaches p y x) : Acyclic (Function.update p x (some y)) := by
  intro a ha
  obtain ha | ⟨hax,hya⟩ := transGen_update hyx ha
  · exact h a ha
  · exact hyx (hya.trans hax)

theorem reaches_update (hyx : ¬ Reaches p y x) (h : Reaches (Function.update p x (some y)) y b) : Reaches p y b := by
  obtain rfl | h := Relation.reflTransGen_iff_eq_or_transGen.mp h
  · exact .refl
  obtain h | ⟨hyx',-⟩ := transGen_update hyx h
  · exact h.to_reflTransGen
  · exact absurd hyx' hyx

end Insert

end Forests
