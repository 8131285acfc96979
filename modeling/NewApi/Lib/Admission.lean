import Mathlib.Data.List.Induction
import Mathlib.Data.List.Perm.Basic
import Mathlib.Data.List.Pairwise

/-! Items taken one after another, each when it fits those taken before it. Fitting together is a matter of each item and of
each two items. -/
namespace Admission
open List
variable {α : Type*} {good : α → Prop} {together : α → α → Prop}

structure Fits (good : α → Prop) (together : α → α → Prop) (items : List α) : Prop where
  good : ∀ a∈items, good a
  together : items.Pairwise together

theorem Fits.nil : Fits good together [] := ⟨by simp,.nil⟩

variable {items part : List α}

theorem Fits.sublist (h : Fits good together items) (hpart : part.Sublist items) : Fits good together part :=
  ⟨fun a ha => h.good a (hpart.subset ha),h.together.sublist hpart⟩

theorem Fits.perm (hsymm : ∀ {a b}, together a b → together b a) {others : List α} (h : Fits good together items)
    (hperm : items.Perm others) : Fits good together others :=
  ⟨fun a ha => h.good a (hperm.mem_iff.mpr ha),h.together.perm hperm hsymm⟩

theorem Fits.subset (hsymm : ∀ {a b}, together a b → together b a) (h : Fits good together items) (hnodup : part.Nodup)
    (hpart : part ⊆ items) : Fits good together part := by
  obtain ⟨others,hperm,hsub⟩ := subperm_of_subset hnodup hpart
  exact (h.sublist hsub).perm hsymm hperm

theorem fits_concat {a : α} (h : Fits good together items) :
    Fits good together (items++[a]) ↔ good a ∧ ∀ b∈items, together b a := by
  constructor
  · intro h'
    refine ⟨h'.good a (by simp),fun b hb => ?_⟩
    exact (pairwise_append.mp h'.together).2.2 b hb a (by simp)
  · rintro ⟨ha,htogether⟩
    refine ⟨?_,pairwise_append.mpr ⟨h.together,pairwise_singleton together a,?_⟩⟩
    · intro b hb
      rcases mem_append.mp hb with hb | hb
      · exact h.good b hb
      rw [mem_singleton.mp hb]
      exact ha
    · intro b hb c hc
      rw [mem_singleton.mp hc]
      exact htogether b hb

/-- The items taken after some have been taken, with `fits` as the test. -/
def take (fits : List α → Bool) : List α → List α → List α
  | taken, [] => taken
  | taken, a::rest => if fits (taken++[a]) then take fits (taken++[a]) rest else take fits taken rest

variable {fits : List α → Bool}

theorem take_sublist (taken items : List α) : (take fits taken items).Sublist (taken++items) := by
  induction items generalizing taken with
  | nil => simp [take]
  | cons a rest ih =>
    rw [take]
    split
    · simpa using ih (taken++[a])
    · exact (ih taken).trans (List.Sublist.append_left (sublist_cons_self a rest) taken)

theorem sublist_take (taken items : List α) : taken.Sublist (take fits taken items) := by
  induction items generalizing taken with
  | nil => exact .refl taken
  | cons a rest ih =>
    rw [take]
    split
    · exact (sublist_append_left taken [a]).trans (ih (taken++[a]))
    · exact ih taken

theorem take_append (taken items more : List α) : take fits taken (items++more)=take fits (take fits taken items) more := by
  induction items generalizing taken with
  | nil => rfl
  | cons a rest ih =>
    rw [cons_append,take,take]
    split
    · exact ih (taken++[a])
    · exact ih taken

theorem mem_take {taken : List α} {a : α} (h : a∈take fits taken items) : a∈taken ∨ a∈items :=
  mem_append.mp ((take_sublist taken items).subset h)

/-- The item is good, and goes with those before it, the latest first, that stand themselves. -/
def StandsAfter (good : α → Prop) (together : α → α → Prop) : List α → α → Prop
  | [], a => good a
  | b::before, a => StandsAfter good together before a ∧ (StandsAfter good together before b → together b a)

def Stands (good : α → Prop) (together : α → α → Prop) (items : List α) (a : α) : Prop :=
  ∃ before after, items=before++a::after ∧ StandsAfter good together before.reverse a

section Test
variable (hfits : ∀ items, fits items=true ↔ Fits good together items)
include hfits

variable {taken items : List α}

theorem take_fits (h : Fits good together taken) (items : List α) : Fits good together (take fits taken items) := by
  induction items generalizing taken with
  | nil => exact h
  | cons a rest ih =>
    rw [take]
    split
    · exact ih ((hfits _).mp ‹_›)
    · exact ih h

theorem take_all (h : Fits good together (taken++items)) : take fits taken items=taken++items := by
  induction items generalizing taken with
  | nil => simp [take]
  | cons a rest ih =>
    have hrest : Fits good together ((taken++[a])++rest) := by simpa using h
    have ha : fits (taken++[a])=true := (hfits _).mpr (hrest.sublist (sublist_append_left _ rest))
    rw [take,if_pos ha,ih hrest]
    simp

theorem not_taken {a : α} (h : Fits good together taken) (ha : a∈items) (hgood : good a)
    (hnot : a∉take fits taken items) : ∃ b∈take fits taken items, ¬together b a := by
  induction items generalizing taken with
  | nil => simp at ha
  | cons c rest ih =>
    rw [take] at hnot ⊢
    rcases mem_cons.mp ha with rfl | ha
    · split at hnot
      next hc =>
        have hmem : a∈taken++[a] := by simp
        exact absurd ((sublist_take _ rest).subset hmem) hnot
      next hc =>
        rw [if_neg hc]
        have hunfit : ¬Fits good together (taken++[a]) := fun hf => hc ((hfits _).mpr hf)
        rw [fits_concat h] at hunfit
        push Not at hunfit
        obtain ⟨b,hb,hapart⟩ := hunfit hgood
        exact ⟨b,(sublist_take taken rest).subset hb,hapart⟩
    · split at hnot
      next hc =>
        rw [if_pos hc]
        exact ih ((hfits _).mp hc) ha hnot
      next hc =>
        rw [if_neg hc]
        exact ih h ha hnot

theorem take_singleton (h : Fits good together taken) (a : α) : take fits taken [a]=taken++[a] ∧
      (good a ∧ ∀ b∈taken, together b a) ∨ take fits taken [a]=taken ∧ ¬(good a ∧ ∀ b∈taken, together b a) := by
  rw [← fits_concat h,← hfits,take,take,take]
  by_cases ha : fits (taken++[a])=true
  · exact .inl ⟨if_pos ha,ha⟩
  · exact .inr ⟨if_neg ha,ha⟩

theorem standsAfter_iff (before : List α) : ∀ a, StandsAfter good together before.reverse a ↔
    good a ∧ ∀ b∈take fits [] before, together b a := by
  induction before using List.reverseRecOn with
  | nil => simp [StandsAfter,take]
  | append_singleton before c ih =>
    intro a
    have hbefore : Fits good together (take fits [] before) := take_fits hfits Fits.nil before
    rw [reverse_append,reverse_singleton,singleton_append,StandsAfter,ih,ih,take_append]
    rcases take_singleton hfits hbefore c with ⟨htake,hc⟩ | ⟨htake,hc⟩
    · rw [htake]
      simp only [hc,forall_mem_append,forall_mem_singleton]
      tauto
    · rw [htake]
      tauto

theorem mem_take_iff (hnodup : items.Nodup) {a : α} : a∈take fits [] items ↔ Stands good together items a := by
  have hsplit : ∀ before after, take fits [] (before++a::after) =
      take fits (take fits (take fits [] before) [a]) after := by
    intro before after
    rw [take_append,← singleton_append,take_append]
  constructor
  · intro ha
    obtain ⟨before,after,rfl⟩ := append_of_mem ((mem_take ha).resolve_left not_mem_nil)
    refine ⟨before,after,rfl,(standsAfter_iff hfits before a).mpr ?_⟩
    rcases take_singleton hfits (take_fits hfits Fits.nil before) a with ⟨-,hstands⟩ | ⟨htake,-⟩
    · exact hstands
    · rw [hsplit,htake] at ha
      have hother := nodup_append.mp hnodup
      rcases mem_take ha with hbefore | hafter
      · exact absurd rfl (hother.2.2 a ((mem_take hbefore).resolve_left not_mem_nil) a mem_cons_self)
      · exact absurd hafter (nodup_cons.mp hother.2.1).1
  · rintro ⟨before,after,rfl,hstands⟩
    rw [hsplit]
    refine (sublist_take _ after).subset ?_
    rcases take_singleton hfits (take_fits hfits Fits.nil before) a with ⟨htake,-⟩ | ⟨-,hnot⟩
    · rw [htake]
      exact mem_append_right _ mem_cons_self
    · exact absurd ((standsAfter_iff hfits before a).mp hstands) hnot

end Test

end Admission
