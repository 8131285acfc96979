import Mathlib.Data.List.GetD
import Mathlib.Data.List.Infix
import Mathlib.Tactic.Common

/-! Borders of a pattern and the table that lists them. A pattern overlaps a text in `m` elements when its first `m`
elements end the text; the table leads from one overlap to the next shorter one. -/
namespace Borders
open List
variable {α : Type*}

def Overlaps (p t : List α) (m : Nat) : Prop := m≤p.length ∧ p.take m <:+ t

def Longest (p t : List α) (m : Nat) : Prop := Overlaps p t m ∧ ∀ q, Overlaps p t q → q ≤ m

theorem overlaps_zero (p t : List α) : Overlaps p t 0 := ⟨Nat.zero_le _,nil_suffix⟩

variable {p t : List α} {m q : Nat}

theorem Overlaps.le_length (h : Overlaps p t m) : m≤t.length := by
  have hle := h.2.length_le
  rw [length_take,min_eq_left h.1] at hle
  exact hle

theorem Overlaps.shorter (hm : Overlaps p t m) (hq : Overlaps p t q) (hle : q ≤ m) : p.take q <:+ p.take m := by
  apply suffix_of_suffix_length_le hq.2 hm.2
  rw [length_take,length_take]
  omega

theorem Overlaps.trans (hm : Overlaps p t m) (hq : p.take q <:+ p.take m) (hle : q ≤ m) : Overlaps p t q :=
  ⟨hle.trans hm.1,hq.trans hm.2⟩

/-- Only the last elements matter, as many as the pattern has. -/
theorem overlaps_window : Overlaps p (t.drop (t.length-p.length)) m ↔ Overlaps p t m := by
  refine and_congr_right fun hle => ⟨fun h => h.trans (drop_suffix _ _),fun h => ?_⟩
  have hlength := h.length_le
  rw [length_take,min_eq_left hle] at hlength
  refine suffix_of_suffix_length_le h (drop_suffix _ _) ?_
  rw [length_take,length_drop]
  omega

theorem overlaps_concat {c : α} : Overlaps p (t++[c]) (q+1) ↔ Overlaps p t q ∧ p[q]? = some c := by
  constructor
  · rintro ⟨hle,hsuffix⟩
    have hget : p[q]? = some p[q] := getElem?_eq_getElem (by omega)
    rw [take_add_one,hget,Option.toList_some] at hsuffix
    obtain ⟨front,hfront⟩ := hsuffix
    rw [← append_assoc] at hfront
    obtain ⟨hinit,hlast⟩ := append_inj' hfront rfl
    exact ⟨⟨by omega,front,hinit⟩,by rw [hget,(List.cons.inj hlast).1]⟩
  · rintro ⟨⟨hle,front,hfront⟩,hget⟩
    have hlt : q<p.length := (List.getElem?_eq_some_iff.mp hget).1
    refine ⟨by omega,front,?_⟩
    rw [take_add_one,hget,Option.toList_some,← append_assoc,hfront]

/-- The first `n` entries are the longest proper overlaps of the parts of the pattern with themselves. -/
def Table (p : List α) (table : List Nat) (n : Nat) : Prop :=
  ∀ j, 0<j → j≤n → table.getD (j-1) 0<j ∧ p.take (table.getD (j-1) 0) <:+ p.take j ∧
    ∀ q<j, p.take q <:+ p.take j → q≤table.getD (j-1) 0

/-- From an overlap down the table to the first that meets a test, or to zero. -/
def descend (table : List Nat) (stop : Nat → Bool) : Nat → Nat → Nat
  | 0, m => m
  | fuel+1, m => if m=0 ∨ stop m=true then m else descend table stop fuel (table.getD (m-1) 0)

theorem descend_spec {p t : List α} {table : List Nat} {n m fuel : Nat} {stop : Nat → Bool} (htable : Table p table n)
    (hm : m≤n) (h : Overlaps p t m) (hfuel : m≤fuel) : descend table stop fuel m ≤ m ∧ Overlaps p t (descend table stop fuel m) ∧
      (descend table stop fuel m=0 ∨ stop (descend table stop fuel m)=true) ∧
      ∀ q, descend table stop fuel m<q → q ≤ m → Overlaps p t q → stop q=false := by
  induction fuel generalizing m with
  | zero =>
    obtain rfl : m=0 := by omega
    exact ⟨le_refl _,h,.inl rfl,fun q hq hle _ => absurd hle (Nat.not_le.mpr hq)⟩
  | succ fuel ih =>
    unfold descend
    split
    next hstop =>
      exact ⟨le_refl _,h,hstop,fun q hq hle _ => absurd hle (Nat.not_le.mpr hq)⟩
    next hgo =>
      rw [not_or,Bool.not_eq_true] at hgo
      obtain ⟨hlt,hborder,hmax⟩ := htable m (Nat.pos_of_ne_zero hgo.1) hm
      obtain ⟨hle,hover,hend,hskip⟩ := ih (by omega) (h.trans hborder (by omega)) (by omega)
      refine ⟨by omega,hover,hend,fun q hq hqm hov => ?_⟩
      rcases Nat.lt_or_eq_of_le hqm with hbelow | rfl
      · exact hskip q hq (hmax q hbelow (h.shorter hov hqm)) hov
      · exact hgo.2

theorem Table.concat {c0 c : α} {rest : List α} {table : List Nat} (hlength : table.length=t.length+1)
    (h : Table (c0::(t++c::rest)) table (t.length+1)) (hm : Longest (c0::(t++c::rest)) (t++[c]) m) :
    Table (c0::(t++c::rest)) (table++[m]) (t.length+2) := by
  intro j hpos hle
  rcases Nat.lt_or_ge (j-1) table.length with hlt | hge
  · rw [getD_append _ _ _ _ hlt]
    exact h j hpos (by omega)
  · obtain rfl : j=t.length+2 := by omega
    have hentry : (table++[m]).getD (t.length+2-1) 0=m := by
      rw [getD_append_right _ _ _ _ hge,hlength]
      simp
    have hpart : (c0::(t++c::rest)).take (t.length+2)=c0::(t++[c]) := by
      rw [take_succ_cons,take_append]
      simp
    have hshort := hm.1.le_length
    rw [length_append,length_singleton] at hshort
    rw [hentry,hpart]
    refine ⟨by omega,hm.1.2.trans (suffix_cons _ _),fun q hq hsuffix => ?_⟩
    have hlong : q≤(c0::(t++c::rest)).length := by
      simp only [length_cons,length_append]
      omega
    obtain heq | hsuffix := suffix_cons_iff.mp hsuffix
    · have hsame := congrArg List.length heq
      rw [length_take,min_eq_left hlong] at hsame
      simp only [length_cons,length_append,length_nil] at hsame
      omega
    · exact hm.2 q ⟨hlong,hsuffix⟩

variable [DecidableEq α]

def advance (table : List Nat) (p : List α) (c : α) (m : Nat) : Nat :=
  let r := descend table (fun r => p[r]? = some c) m m
  if p[r]? = some c then r+1 else r

theorem advance_longest {p t : List α} {table : List Nat} {n m : Nat} {c : α} (htable : Table p table n) (hm : m≤n)
    (h : Longest p t m) : Longest p (t++[c]) (advance table p c m) := by
  obtain ⟨hle,hover,hend,hskip⟩ := @descend_spec _ p t table n m m (fun r => decide (p[r]? = some c)) htable hm h.1 le_rfl
  have hbound : ∀ q, Overlaps p (t++[c]) (q+1) → q≤descend table (fun r => decide (p[r]? = some c)) m m := by
    intro q hq
    obtain ⟨hov,hget⟩ := overlaps_concat.mp hq
    by_contra hgt
    have hfalse := hskip q (by omega) (h.2 q hov) hov
    exact absurd hget (of_decide_eq_false hfalse)
  unfold advance
  dsimp only
  split
  next hget =>
    refine ⟨overlaps_concat.mpr ⟨hover,hget⟩,fun q hq => ?_⟩
    cases q with
    | zero => omega
    | succ q => exact Nat.succ_le_succ (hbound q hq)
  next hget =>
    have hzero : descend table (fun r => decide (p[r]? = some c)) m m=0 :=
      hend.resolve_right fun hstop => hget (of_decide_eq_true hstop)
    rw [hzero] at hget hbound ⊢
    refine ⟨overlaps_zero _ _,fun q hq => ?_⟩
    cases q with
    | zero => exact le_refl _
    | succ q =>
      obtain rfl : q=0 := Nat.le_zero.mp (hbound q hq)
      exact absurd (overlaps_concat.mp hq).2 hget

/-- The longest overlap with a text, read from left to right. -/
def scan (table : List Nat) (p : List α) (text : List α) (m : Nat) : Nat := text.foldl (fun m c => advance table p c m) m

theorem scan_longest {table : List Nat} (htable : Table p table p.length) (text : List α) (h : Longest p t m) :
    Longest p (t++text) (scan table p text m) := by
  induction text generalizing t m with
  | nil => rwa [append_nil]
  | cons c text ih =>
    rw [← singleton_append,← append_assoc]
    exact ih (advance_longest htable h.1.1 h)

def tableFrom (p : List α) : List α → List Nat → Nat → List Nat
  | [], table, _ => table
  | c::rest, table, m => tableFrom p rest (table++[advance table p c m]) (advance table p c m)

def prefixTable : List α → List Nat
  | [] => []
  | c::rest => tableFrom (c::rest) rest [0] 0

theorem tableFrom_table {c0 : α} {t rest : List α} {table : List Nat} {m : Nat} (hlength : table.length=t.length+1)
    (h : Table (c0::(t++rest)) table (t.length+1)) (hm : Longest (c0::(t++rest)) t m) :
    Table (c0::(t++rest)) (tableFrom (c0::(t++rest)) rest table m) (c0::(t++rest)).length := by
  induction rest generalizing t table m with
  | nil =>
    rw [append_nil] at h ⊢
    exact h
  | cons c rest ih =>
    have hshort := hm.1.le_length
    have hnext := @advance_longest _ _ _ t table (t.length+1) m c h (by omega) hm
    have htable := h.concat hlength hnext
    have hassoc : t++c::rest=(t++[c])++rest := by rw [append_assoc,singleton_append]
    unfold tableFrom
    rw [hassoc] at htable hnext ⊢
    refine ih ?_ ?_ hnext
    · rw [length_append,length_append,hlength]
      rfl
    · rw [length_append]
      exact htable

theorem prefixTable_table (p : List α) : Table p (prefixTable p) p.length := by
  cases p with
  | nil =>
    intro j hpos hle
    rw [length_nil] at hle
    omega
  | cons c rest =>
    have hzero : Longest (c::rest) [] 0 :=
      ⟨overlaps_zero _ _,fun q hq => hq.le_length⟩
    refine @tableFrom_table _ _ c [] rest [0] 0 rfl ?_ hzero
    intro j hpos hle
    rw [length_nil] at hle
    obtain rfl : j=1 := by omega
    exact ⟨Nat.one_pos,nil_suffix,fun q hq _ => by omega⟩

end Borders
