import Mathlib.Data.List.Chain
import Mathlib.Data.Nat.Find

/-! Relations whose chains have a bounded number of links. Such a relation has no cycle, and
a walk along it can be measured by a rank that falls with every link. -/
namespace Chains
variable {α : Type*} {r s : α → α → Prop} {n : Nat}

/-- No chain of the relation has more than `n` links. -/
def Short (r : α → α → Prop) (n : Nat) : Prop := ∀ x l, List.IsChain r (x::l) → l.length≤n

theorem Short.mono (h : Short s n) (hrs : ∀ x y, r x y → s x y) : Short r n :=
  fun x l hl => h x l (hl.imp hrs)

theorem Short.of_rank (rank : α → Nat) (hrank : ∀ x y, r x y → rank y<rank x) (hle : ∀ x, rank x≤n) : Short r n := by
  have hlen : ∀ l x, List.IsChain r (x::l) → l.length≤rank x := by
    intro l
    induction l with
    | nil => intro x _; exact Nat.zero_le _
    | cons y l ih =>
      intro x hl
      have hxy := List.isChain_cons_cons.mp hl
      have := hrank x y hxy.1
      have := ih y hxy.2
      simp only [List.length_cons]
      omega
  exact fun x l hl => (hlen l x hl).trans (hle x)

theorem Short.exists_rank (h : Short r n) : ∃ rank : α → Nat, (∀ x y, r x y → rank y<rank x) ∧ ∀ x, rank x≤n := by
  classical
  let starts : α → Nat → Prop := fun x k => ∃ l : List α, List.IsChain r (x::l) ∧ l.length=k
  refine ⟨fun x => Nat.findGreatest (starts x) n,fun x y hxy => ?_,fun x => Nat.findGreatest_le n⟩
  have hzero : starts y 0 := ⟨[],List.isChain_singleton y,rfl⟩
  obtain ⟨l,hl,hlen⟩ := Nat.findGreatest_spec (Nat.zero_le n) hzero
  have hcons : List.IsChain r (x::y::l) := List.isChain_cons_cons.mpr ⟨hxy,hl⟩
  have hstarts : starts x (Nat.findGreatest (starts y) n+1) := ⟨y::l,hcons,by simp [hlen]⟩
  have hle := h x (y::l) hcons
  simp only [List.length_cons,hlen] at hle
  exact Nat.le_findGreatest hle hstarts

end Chains
