import Mathlib.Data.List.Sort
import Mathlib.Tactic.Common

/-! Spans of a text: lists of half-open ranges that are searched, put in order, taken apart and written over. A search or a
selection splits at every cut that no span crosses. -/
namespace Spans
open List
variable {ρ α : Type*}

/-- The places of a search over `n` positions from `i` on: each match blocks the positions it covers. -/
def greedy (hit : Nat → Bool) (width : Nat) : Nat → Nat → Nat → List Nat
  | 0, _, _ => []
  | n+1, i, free => if free ≤ i ∧ hit i=true then i::greedy hit width n (i+1) (i+width)
    else greedy hit width n (i+1) free

section Greedy
variable {hit : Nat → Bool} {width n m i free : Nat}

theorem greedy_skip (h : ∀ j, i≤j → j < i+m → free≤j → hit j=false) :
    greedy hit width (m+n) i free=greedy hit width n (i+m) free := by
  induction m generalizing i with
  | zero => rw [Nat.zero_add,Nat.add_zero]
  | succ m ih =>
    rw [Nat.add_right_comm,greedy,if_neg,ih fun j hj hlt => h j (by omega) (by omega),Nat.add_assoc,Nat.add_comm 1]
    rintro ⟨hfree,hhit⟩
    rw [h i (le_refl _) (by omega) hfree] at hhit
    cases hhit

theorem greedy_free {free' : Nat} (h : free ≤ i) (h' : free' ≤ i) : greedy hit width n i free=greedy hit width n i free' := by
  induction n generalizing i with
  | zero => rfl
  | succ n ih =>
    unfold greedy
    by_cases hhit : hit i=true
    · rw [if_pos ⟨h,hhit⟩,if_pos ⟨h',hhit⟩]
    · rw [if_neg fun hc => hhit hc.2,if_neg fun hc => hhit hc.2,ih (by omega) (by omega)]

theorem mem_greedy {j : Nat} (h : j∈greedy hit width n i free) : i≤j ∧ j < i+n ∧ hit j=true := by
  induction n generalizing i free with
  | zero => cases h
  | succ n ih =>
    unfold greedy at h
    split at h
    next hhit =>
      obtain rfl | h := mem_cons.mp h
      · exact ⟨le_refl _,by omega,hhit.2⟩
      obtain ⟨hle,hlt,hj⟩ := ih h
      exact ⟨by omega,by omega,hj⟩
    · obtain ⟨hle,hlt,hj⟩ := ih h
      exact ⟨by omega,by omega,hj⟩

theorem greedy_append (hfree : free ≤ i+n) (hcut : ∀ j, i≤j → j < i+n → hit j=true → j+width ≤ i+n) :
    greedy hit width (n+m) i free=greedy hit width n i free++greedy hit width m (i+n) (i+n) := by
  induction n generalizing i free with
  | zero =>
    rw [Nat.zero_add,Nat.add_zero,greedy,nil_append]
    exact greedy_free hfree (le_refl _)
  | succ n ih =>
    have hnext : i+(n+1)=i+1+n := by omega
    rw [Nat.add_right_comm,greedy,greedy]
    split
    next hhit =>
      have hend := hcut i (le_refl _) (by omega) hhit.2
      rw [cons_append,hnext,ih (by omega) fun j hj hlt hh => hnext ▸ hcut j (by omega) (by omega) hh]
    · rw [hnext,ih (by omega) fun j hj hlt hh => hnext ▸ hcut j (by omega) (by omega) hh]

theorem greedy_shift {other : Nat → Bool} {d : Nat} (h : ∀ j, i≤j → j < i+n → hit j=other (j+d)) :
    greedy other width n (i+d) (free+d)=(greedy hit width n i free).map (· + d) := by
  induction n generalizing i free with
  | zero => rfl
  | succ n ih =>
    have hhead := h i (le_refl _) (by omega)
    have hrest : ∀ j, i+1≤j → j < i+1+n → hit j=other (j+d) := fun j hj hlt => h j (by omega) (by omega)
    unfold greedy
    rw [← hhead,Nat.add_right_comm i d 1]
    by_cases hhit : free ≤ i ∧ hit i=true
    · rw [if_pos hhit,if_pos ⟨by omega,hhit.2⟩,map_cons,Nat.add_right_comm i d width,ih hrest]
    · rw [if_neg hhit,if_neg fun hc => hhit ⟨by omega,hc.2⟩,ih hrest]

end Greedy

section Stable
variable {r : ρ → ρ → Prop} [DecidableRel r] [IsTrans ρ r]

theorem filter_orderedInsert (p : ρ → Bool) (a : ρ) {l : List ρ} (hl : l.Pairwise r) :
    (l.orderedInsert r a).filter p = if p a=true then (l.filter p).orderedInsert r a else l.filter p := by
  induction l with
  | nil =>
    rw [orderedInsert_nil,filter_nil,orderedInsert_nil]
    by_cases hp : p a=true
    · rw [if_pos hp,filter_cons_of_pos hp,filter_nil]
    · rw [if_neg hp,filter_cons_of_neg hp,filter_nil]
  | cons b l ih =>
    obtain ⟨hb,hl⟩ := pairwise_cons.mp hl
    by_cases hab : r a b
    · rw [orderedInsert_cons_of_le r _ hab]
      by_cases hp : p a=true
      · rw [if_pos hp,filter_cons_of_pos hp]
        cases hrest : (b::l).filter p with
        | nil => rfl
        | cons c rest =>
          have hc : c∈b::l := mem_of_mem_filter (hrest ▸ mem_cons_self : c∈(b::l).filter p)
          have hac : r a c := by
            obtain rfl | hc := mem_cons.mp hc
            · exact hab
            · exact IsTrans.trans a b c hab (hb c hc)
          rw [orderedInsert_cons_of_le r _ hac]
      · rw [if_neg hp,filter_cons_of_neg hp]
    · rw [orderedInsert_of_not_le r _ hab]
      by_cases hpb : p b=true
      · rw [filter_cons_of_pos hpb,ih hl,filter_cons_of_pos hpb]
        by_cases hp : p a=true
        · rw [if_pos hp,if_pos hp,orderedInsert_of_not_le r _ hab]
        · rw [if_neg hp,if_neg hp]
      · rw [filter_cons_of_neg hpb,ih hl,filter_cons_of_neg hpb]

theorem filter_insertionSort [Std.Total r] (p : ρ → Bool) (l : List ρ) :
    (l.insertionSort r).filter p=(l.filter p).insertionSort r := by
  induction l with
  | nil => rfl
  | cons a l ih =>
    rw [insertionSort_cons,filter_orderedInsert p a (pairwise_insertionSort r l),ih]
    by_cases hp : p a=true
    · rw [if_pos hp,filter_cons_of_pos hp,insertionSort_cons]
    · rw [if_neg hp,filter_cons_of_neg hp]

end Stable

section Apart
variable (start stop : ρ → Nat)

def apart : Nat → List ρ → List ρ
  | _, [] => []
  | last, s::rest => if start s<last then apart last rest else s::apart (stop s) rest

/-- Spans in order, none empty and none before `last`. -/
def Separated : Nat → List ρ → Prop
  | _, [] => True
  | last, s::rest => last ≤ start s ∧ start s<stop s ∧ Separated (stop s) rest

variable {start stop} {last cut : Nat} {l : List ρ}

theorem apart_sublist : (apart start stop last l).Sublist l := by
  induction l generalizing last with
  | nil => exact List.Sublist.refl _
  | cons s rest ih =>
    unfold apart
    split
    · exact ih.cons _
    · exact ih.cons_cons _

theorem separated_apart (h : ∀ s∈l, start s<stop s) : Separated start stop last (apart start stop last l) := by
  induction l generalizing last with
  | nil => trivial
  | cons s rest ih =>
    have hrest := fun t ht => h t (mem_cons_of_mem _ ht)
    unfold apart
    split
    · exact ih hrest
    · exact ⟨by omega,h s mem_cons_self,ih hrest⟩

theorem apart_of_le (hl : ∀ s∈l, cut ≤ start s) (hlast : last≤cut) : apart start stop last l=apart start stop 0 l := by
  cases l with
  | nil => rfl
  | cons s rest =>
    have hs := hl s mem_cons_self
    unfold apart
    rw [if_neg (by omega),if_neg (by omega)]

theorem apart_append {right : List ρ} (hl : ∀ s∈l, stop s≤cut) (hright : ∀ s∈right, cut ≤ start s) (hlast : last≤cut) :
    apart start stop last (l++right)=apart start stop last l++apart start stop 0 right := by
  induction l generalizing last with
  | nil => exact apart_of_le hright hlast
  | cons s rest ih =>
    have hrest := fun t ht => hl t (mem_cons_of_mem _ ht)
    rw [cons_append,apart,apart]
    split
    · exact ih hrest hlast
    · rw [cons_append,ih hrest (hl s mem_cons_self)]

/-- Where the spans come in order of their starts, the longest first, each meets one that is kept. -/
theorem apart_meets {s : ρ} (hl : l.Pairwise fun s t => start s<start t ∨ start s=start t ∧ stop t ≤ stop s)
    (hlt : ∀ s∈l, start s<stop s) (hs : s∈l) (hlast : last ≤ start s) :
    ∃ r∈apart start stop last l, start r ≤ start s ∧ start s<stop r ∧ (start r=start s → stop s ≤ stop r) := by
  induction l generalizing last with
  | nil => cases hs
  | cons r rest ih =>
    obtain ⟨hfirst,hrest⟩ := pairwise_cons.mp hl
    have hlt' := fun t ht => hlt t (mem_cons_of_mem _ ht)
    unfold apart
    split
    · obtain rfl | hs := mem_cons.mp hs
      · omega
      · exact ih hrest hlt' hs hlast
    · obtain rfl | hs := mem_cons.mp hs
      · exact ⟨s,mem_cons_self,le_rfl,hlt s mem_cons_self,fun _ => le_rfl⟩
      have horder := hfirst s hs
      by_cases hin : start s<stop r
      · exact ⟨r,mem_cons_self,by omega,hin,by omega⟩
      obtain ⟨t,ht,hmeets⟩ := ih hrest hlt' hs (Nat.le_of_not_lt hin)
      exact ⟨t,mem_cons_of_mem _ ht,hmeets⟩

theorem apart_map {σ : Type*} {f : ρ → σ} {start' stop' : σ → Nat} {d : Nat} (hstart : ∀ s, start' (f s)=start s+d)
    (hstop : ∀ s, stop' (f s)=stop s+d) : apart start' stop' (last+d) (l.map f)=(apart start stop last l).map f := by
  induction l generalizing last with
  | nil => rfl
  | cons s rest ih =>
    rw [map_cons,apart,apart,hstart]
    by_cases hlt : start s<last
    · rw [if_pos hlt,if_pos (by omega),ih]
    · rw [if_neg hlt,if_neg (by omega),map_cons,hstop,ih]

section
variable (h : Separated start stop last l)
include h

theorem Separated.mono (hle : cut≤last) : Separated start stop cut l := by
  cases l with
  | nil => trivial
  | cons s rest => exact ⟨hle.trans h.1,h.2⟩

theorem Separated.le : ∀ s∈l, last ≤ start s ∧ start s<stop s := by
  induction l generalizing last with
  | nil =>
    intro s hs
    cases hs
  | cons t rest ih =>
    intro s hs
    obtain rfl | hs := mem_cons.mp hs
    · exact ⟨h.1,h.2.1⟩
    have hlater := ih h.2.2 s hs
    have hfirst := h.1
    have hwidth := h.2.1
    exact ⟨by omega,hlater.2⟩

theorem Separated.pairwise : l.Pairwise fun s t => start s<start t ∧ stop s ≤ start t := by
  induction l generalizing last with
  | nil => exact .nil
  | cons s rest ih =>
    refine .cons (fun t ht => ?_) (ih h.2.2)
    have hle := (h.2.2.le t ht).1
    have hlt := h.2.1
    omega

theorem Separated.apart {s t : ρ} (hs : s∈l) (ht : t∈l) : stop s ≤ start t ∨ stop t ≤ start s ∨ s=t := by
  induction l generalizing last with
  | nil => cases hs
  | cons r rest ih =>
    obtain rfl | hs' := mem_cons.mp hs
    · obtain rfl | ht' := mem_cons.mp ht
      · exact .inr (.inr rfl)
      · exact .inl (h.2.2.le t ht').1
    · obtain rfl | ht' := mem_cons.mp ht
      · exact .inr (.inl (h.2.2.le s hs').1)
      · exact ih h.2.2 hs' ht'

theorem Separated.filter (p : ρ → Bool) : Separated start stop last (l.filter p) := by
  induction l generalizing last with
  | nil => trivial
  | cons s rest ih =>
    rw [filter_cons]
    split
    · exact ⟨h.1,h.2.1,ih h.2.2⟩
    have hfirst := h.1
    have hwidth := h.2.1
    exact (ih h.2.2).mono (by omega)

end

theorem filter_append_filter (hl : l.Pairwise fun s t => start s ≤ start t) (cut : Nat) :
    l.filter (fun s => decide (start s<cut))++l.filter (fun s => decide (cut ≤ start s))=l := by
  induction l with
  | nil => rfl
  | cons s l ih =>
    obtain ⟨hs,hl⟩ := pairwise_cons.mp hl
    by_cases hlt : start s<cut
    · rw [filter_cons,if_pos (decide_eq_true hlt),filter_cons, if_neg (by rw [decide_eq_true_eq]; omega),cons_append,ih hl]
    have hnone : l.filter (fun t => decide (start t<cut))=[] := by
      rw [filter_eq_nil_iff]
      intro t ht
      have hle := hs t ht
      rw [decide_eq_true_eq]
      omega
    have hall : l.filter (fun t => decide (cut ≤ start t))=l := by
      rw [filter_eq_self]
      intro t ht
      have hle := hs t ht
      rw [decide_eq_true_eq]
      omega
    rw [filter_cons,if_neg (by rw [decide_eq_true_eq]; omega),filter_cons,
      if_pos (by rw [decide_eq_true_eq]; omega),hnone,hall,nil_append]

/-- The spans taken between two cuts that no span crosses are those taken of the spans between them. -/
theorem apart_between {r : ρ → ρ → Prop} [DecidableRel r] [IsTrans ρ r] [Std.Total r]
    (hr : ∀ s t, r s t → start s ≤ start t) {low high : Nat} (hle : low≤high)
    (hlow : ∀ s∈l, start s<low → stop s≤low) (hhigh : ∀ s∈l, start s<high → stop s≤high)
    {p : ρ → Bool} (hp : ∀ s, p s=true ↔ low ≤ start s ∧ start s<high) :
    (apart start stop 0 (l.insertionSort r)).filter p=apart start stop 0 ((l.filter p).insertionSort r) := by
  obtain ⟨sorted,hsorted⟩ : ∃ sorted, sorted=l.insertionSort r := ⟨_,rfl⟩
  obtain ⟨below,hbelow⟩ : ∃ below, below=sorted.filter fun s => decide (start s<low) := ⟨_,rfl⟩
  obtain ⟨above,habove⟩ : ∃ above, above=sorted.filter fun s => decide (high ≤ start s) := ⟨_,rfl⟩
  have hpairs : sorted.Pairwise fun s t => start s ≤ start t := by
    rw [hsorted]
    exact (pairwise_insertionSort r l).imp fun h => hr _ _ h
  have hmem : ∀ s∈sorted, s∈l := fun s hs => (mem_insertionSort r).mp (hsorted ▸ hs)
  have hunder : ∀ s∈below, start s<low ∧ stop s≤low := by
    intro s hs
    obtain ⟨hs,hin⟩ := mem_filter.mp (hbelow ▸ hs)
    exact ⟨of_decide_eq_true hin,hlow s (hmem s hs) (of_decide_eq_true hin)⟩
  have hinside : ∀ s∈sorted.filter p, low ≤ start s ∧ stop s≤high := by
    intro s hs
    obtain ⟨hs,hin⟩ := mem_filter.mp hs
    exact ⟨((hp s).mp hin).1,hhigh s (hmem s hs) ((hp s).mp hin).2⟩
  have hover : ∀ s∈above, high ≤ start s := by
    rw [habove]
    exact fun s hs => of_decide_eq_true (mem_filter.mp hs).2
  have hsplit : sorted=below++(sorted.filter p++above) := by
    have hfirst := filter_append_filter hpairs low
    have hsecond := filter_append_filter (hpairs.filter fun s => decide (low ≤ start s)) high
    have hin : (sorted.filter fun s => decide (low ≤ start s)).filter (fun s => decide (start s<high))=sorted.filter p := by
      rw [filter_filter]
      refine filter_congr fun s _ => ?_
      rw [Bool.eq_iff_iff,hp,Bool.and_eq_true,decide_eq_true_eq,decide_eq_true_eq,and_comm]
    have hout : (sorted.filter fun s => decide (low ≤ start s)).filter (fun s => decide (high ≤ start s))=above := by
      rw [habove,filter_filter]
      refine filter_congr fun s _ => ?_
      rw [Bool.and_eq_left_iff_imp,decide_eq_true_eq,decide_eq_true_eq]
      omega
    rw [hin,hout] at hsecond
    rw [hsecond,hbelow,hfirst]
  have htaken : apart start stop 0 sorted = apart start stop 0 below ++
      (apart start stop 0 (sorted.filter p)++apart start stop 0 above) := by
    have hrest : ∀ s∈sorted.filter p++above, low ≤ start s := by
      intro s hs
      obtain hs | hs := mem_append.mp hs
      · exact (hinside s hs).1
      · exact hle.trans (hover s hs)
    conv_lhs => rw [hsplit]
    rw [apart_append (fun s hs => (hunder s hs).2) hrest (Nat.zero_le _),
      apart_append (fun s hs => (hinside s hs).2) hover (Nat.zero_le _)]
  have hbefore : (apart start stop 0 below).filter p=[] := by
    refine filter_eq_nil_iff.mpr fun s hs hin => ?_
    have hlt := (hunder s (apart_sublist.subset hs)).1
    have hge := ((hp s).mp hin).1
    omega
  have hafter : (apart start stop 0 above).filter p=[] := by
    refine filter_eq_nil_iff.mpr fun s hs hin => ?_
    have hge := hover s (apart_sublist.subset hs)
    have hlt := ((hp s).mp hin).2
    omega
  have hwithin : (apart start stop 0 (sorted.filter p)).filter p=apart start stop 0 (sorted.filter p) :=
    filter_eq_self.mpr fun s hs => (mem_filter.mp (apart_sublist.subset hs)).2
  rw [← hsorted,htaken,filter_append,filter_append,hbefore,hafter,hwithin,nil_append,append_nil,hsorted,filter_insertionSort]

end Apart

section Pieces
variable (start stop : ρ → Nat) (insert : ρ → List α)

def cover (spans : List ρ) (i : Nat) : Option ρ := spans.find? fun s => decide (start s ≤ i) && decide (i<stop s)

/-- What is written for an element: itself, or what its span inserts at its first element and nothing after it. -/
def piece (spans : List ρ) (i : Nat) (a : α) : List α :=
  match cover start stop spans i with
  | none => [a]
  | some s => if i=start s then insert s else []

/-- What is written for the elements of a list, the first of them at position `i`. -/
def pieces (spans : List ρ) : Nat → List α → List α
  | _, [] => []
  | i, a::rest => piece start stop insert spans i a++pieces spans (i+1) rest

def fill (text : List α) : Nat → List ρ → List α
  | cursor, [] => text.drop cursor
  | cursor, s::rest => (text.drop cursor).take (start s-cursor)++insert s++fill text (stop s) rest

variable {start stop insert} {spans : List ρ} {i : Nat} {l : List α} {σ : Type*} {start' stop' : σ → Nat}
variable {insert' : σ → List α} {other : List σ} {s : ρ}

theorem pieces_append (right : List α) : pieces start stop insert spans i (l++right) =
      pieces start stop insert spans i l++pieces start stop insert spans (i+l.length) right := by
  induction l generalizing i with
  | nil => rfl
  | cons a l ih =>
    rw [cons_append,pieces,pieces,ih,append_assoc,length_cons,Nat.add_right_comm,Nat.add_assoc]

theorem pieces_congr {i' : Nat}
    (h : ∀ j<l.length, ∀ a, piece start stop insert spans (i+j) a=piece start' stop' insert' other (i'+j) a) :
    pieces start stop insert spans i l=pieces start' stop' insert' other i' l := by
  induction l generalizing i i' with
  | nil => rfl
  | cons a l ih =>
    rw [pieces,pieces]
    have hhead := h 0 (Nat.zero_lt_succ _) a
    rw [Nat.add_zero,Nat.add_zero] at hhead
    rw [hhead]
    congr 1
    apply ih
    intro j hj b
    have hnext := h (j+1) (Nat.succ_lt_succ hj) b
    rwa [Nat.add_comm j 1,← Nat.add_assoc,← Nat.add_assoc] at hnext

theorem pieces_uncovered (h : ∀ j<l.length, cover start stop spans (i+j)=none) : pieces start stop insert spans i l=l := by
  induction l generalizing i with
  | nil => rfl
  | cons a l ih =>
    have hhead := h 0 (Nat.zero_lt_succ _)
    rw [Nat.add_zero] at hhead
    rw [pieces,piece,hhead,ih]
    · rfl
    intro j hj
    have hnext := h (j+1) (Nat.succ_lt_succ hj)
    rwa [Nat.add_comm j 1,← Nat.add_assoc] at hnext

theorem pieces_inside (hi : start s < i) (h : ∀ j<l.length, cover start stop spans (i+j)=some s) :
    pieces start stop insert spans i l=[] := by
  induction l generalizing i with
  | nil => rfl
  | cons a l ih =>
    have hhead := h 0 (Nat.zero_lt_succ _)
    rw [Nat.add_zero] at hhead
    rw [pieces,piece,hhead,ih (by omega)]
    · rw [append_nil]
      exact if_neg (by omega)
    · intro j hj
      have hnext := h (j+1) (Nat.succ_lt_succ hj)
      rwa [Nat.add_comm j 1,← Nat.add_assoc] at hnext

theorem pieces_span (hl : l≠[]) (h : ∀ j<l.length, cover start stop spans (start s+j)=some s) :
    pieces start stop insert spans (start s) l=insert s := by
  cases l with
  | nil => exact absurd rfl hl
  | cons a l =>
    have hhead := h 0 (Nat.zero_lt_succ _)
    rw [Nat.add_zero] at hhead
    rw [pieces,piece,hhead,pieces_inside (Nat.lt_succ_self _)]
    · rw [append_nil]
      exact if_pos rfl
    · intro j hj
      have hnext := h (j+1) (Nat.succ_lt_succ hj)
      rwa [Nat.add_comm j 1,← Nat.add_assoc] at hnext

theorem cover_eq_none (h : ∀ s∈spans, i<start s ∨ stop s ≤ i) : cover start stop spans i=none := by
  rw [cover,find?_eq_none]
  intro s hs
  have hout := h s hs
  rw [Bool.and_eq_true,decide_eq_true_eq,decide_eq_true_eq]
  omega

theorem cover_cons_inside (hstart : start s ≤ i) (hstop : i<stop s) : cover start stop (s::spans) i=some s := by
  rw [cover,find?_cons_of_pos]
  rw [Bool.and_eq_true,decide_eq_true_eq,decide_eq_true_eq]
  exact ⟨hstart,hstop⟩

theorem cover_cons_outside (h : i<start s ∨ stop s ≤ i) : cover start stop (s::spans) i=cover start stop spans i := by
  rw [cover,find?_cons_of_neg]
  · rfl
  rw [Bool.and_eq_true,decide_eq_true_eq,decide_eq_true_eq]
  omega

theorem cover_filter {p : ρ → Bool} (h : ∀ s∈spans, start s ≤ i → i<stop s → p s=true) :
    cover start stop (spans.filter p) i=cover start stop spans i := by
  induction spans with
  | nil => rfl
  | cons s spans ih =>
    have hrest := ih fun t ht => h t (mem_cons_of_mem _ ht)
    by_cases hin : start s ≤ i ∧ i<stop s
    · rw [filter_cons_of_pos (h s mem_cons_self hin.1 hin.2),cover_cons_inside hin.1 hin.2, cover_cons_inside hin.1 hin.2]
    rw [cover_cons_outside (by omega),filter_cons]
    split
    · rw [cover_cons_outside (by omega),hrest]
    · exact hrest

theorem piece_of_cover {i' d : Nat}
    {f : ρ → σ} (hcover : cover start' stop' other i'=(cover start stop spans i).map f) (hi : i'=i+d)
    (hstart : ∀ s, start' (f s)=start s+d) (hinsert : ∀ s, insert' (f s)=insert s) (a : α) :
    piece start stop insert spans i a=piece start' stop' insert' other i' a := by
  rw [piece,piece,hcover]
  cases cover start stop spans i with
  | none => rfl
  | some s =>
    rw [Option.map_some]
    dsimp only
    rw [hstart,hinsert,hi]
    by_cases heq : i=start s
    · rw [if_pos heq,if_pos (by omega)]
    · rw [if_neg heq,if_neg (by omega)]

theorem cover_map {f : ρ → σ} {d : Nat} (hstart : ∀ s, start' (f s)=start s+d)
    (hstop : ∀ s, stop' (f s)=stop s+d) : cover start' stop' (spans.map f) (i+d)=(cover start stop spans i).map f := by
  have hsame : (fun s => decide (start' s ≤ i+d) && decide (i+d<stop' s)) ∘ f =
      fun s => decide (start s ≤ i) && decide (i<stop s) := by
    funext s
    simp only [Function.comp_apply,hstart,hstop,Nat.add_le_add_iff_right,Nat.add_lt_add_iff_right]
  rw [cover,cover,find?_map,hsame]

theorem fill_eq_pieces {text : List α} {cursor : Nat} (h : Separated start stop cursor spans)
    (hstop : ∀ s∈spans, stop s≤text.length) :
    fill start stop insert text cursor spans=pieces start stop insert spans cursor (text.drop cursor) := by
  induction spans generalizing cursor with
  | nil =>
    rw [fill,pieces_uncovered]
    intro j _
    exact cover_eq_none fun s hs => absurd hs not_mem_nil
  | cons s rest ih =>
    obtain ⟨hstart,hwidth,hrest⟩ := h
    have hend := hstop s mem_cons_self
    have hlater := hrest.le
    have hbefore : text.drop cursor=(text.drop cursor).take (start s-cursor)++text.drop (start s) := by
      have hsplit := (take_append_drop (start s-cursor) (text.drop cursor)).symm
      rwa [drop_drop,Nat.add_sub_cancel' hstart] at hsplit
    have hwithin : text.drop (start s)=(text.drop (start s)).take (stop s-start s)++text.drop (stop s) := by
      have hsplit := (take_append_drop (stop s-start s) (text.drop (start s))).symm
      rwa [drop_drop,Nat.add_sub_cancel' hwidth.le] at hsplit
    have hlen1 : ((text.drop cursor).take (start s-cursor)).length=start s-cursor := by
      rw [length_take,length_drop]
      omega
    have hlen2 : ((text.drop (start s)).take (stop s-start s)).length=stop s-start s := by
      rw [length_take,length_drop]
      omega
    have hfirst : pieces start stop insert (s::rest) cursor ((text.drop cursor).take (start s-cursor)) =
        (text.drop cursor).take (start s-cursor) := by
      apply pieces_uncovered
      intro j hj
      apply cover_eq_none
      intro t ht
      obtain rfl | ht := mem_cons.mp ht
      · omega
      have htle := hlater t ht
      omega
    have hsecond : pieces start stop insert (s::rest) (start s) ((text.drop (start s)).take (stop s-start s)) = insert s := by
      apply pieces_span
      · apply ne_nil_of_length_pos
        omega
      · intro j hj
        exact cover_cons_inside (by omega) (by omega)
    have hthird : pieces start stop insert (s::rest) (stop s) (text.drop (stop s)) =
        pieces start stop insert rest (stop s) (text.drop (stop s)) := by
      apply pieces_congr
      intro j _ a
      rw [piece,piece,cover_cons_outside (.inr (by omega))]
    rw [fill,hbefore,pieces_append,hfirst,hlen1,Nat.add_sub_cancel' hstart,hwithin,pieces_append,hsecond,hlen2,
      Nat.add_sub_cancel' hwidth.le,hthird,ih hrest fun t ht => hstop t (mem_cons_of_mem _ ht),← hwithin,
      append_assoc]
    congr 1
    rw [take_append_of_le_length (by omega),take_of_length_le (by omega)]

end Pieces

end Spans
