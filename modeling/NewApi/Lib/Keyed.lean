import Mathlib.Algebra.BigOperators.Group.Finset.Basic
import Mathlib.Algebra.BigOperators.Group.List.Basic
import Mathlib.Algebra.GroupWithZero.Nat
import Mathlib.Algebra.Ring.Int.Defs
import Mathlib.Data.List.Nodup

/-! Tables kept as lists of rows with a key: lookup, update in place, append,
and how a sum over the rows sees each of them. -/
namespace Keyed
open List (mem_map_of_mem filter_cons_of_pos filter_cons_of_neg map_cons mem_cons sum_cons mem_cons_of_mem mem_cons_self getElem?_map)
variable {ρ κ : Type*} [DecidableEq κ] (key : ρ → κ) (k : κ)

def lookup (key : ρ → κ) (k : κ) (rows : List ρ) : Option ρ :=
  rows.find? fun r => decide (key r=k)

def modify (key : ρ → κ) (k : κ) (f : ρ → ρ) (rows : List ρ) : List ρ :=
  rows.map fun r => if key r=k then f r else r

def Unique (key : ρ → κ) (rows : List ρ) : Prop := (rows.map key).Nodup

def firsts (key : ρ → κ) : List κ → List ρ → List ρ
  | _, [] => []
  | seen, r::rows => if key r∈seen then firsts key seen rows else r::firsts key (key r::seen) rows

/-- The rows without a key and the first row with each key, of the keys that have not been seen. -/
def firstsSome (key : ρ → Option κ) : List κ → List ρ → List ρ
  | _, [] => []
  | seen, r::rows =>
    match key r with
    | none => r::firstsSome key seen rows
    | some k => if k∈seen then firstsSome key seen rows else r::firstsSome key (k::seen) rows

theorem lookup_nil : lookup key k []=none := rfl

theorem lookup_cons (r : ρ) (rows : List ρ) :
    lookup key k (r::rows) = if key r=k then some r else lookup key k rows := by
  by_cases h : key r=k <;> simp [lookup,h]

variable {key : ρ → κ} {k : κ} {rows : List ρ} {r : ρ}

theorem lookup_some (h : lookup key k rows=some r) : r∈rows ∧ key r=k :=
  ⟨List.mem_of_find?_eq_some h,by simpa using List.find?_some h⟩

theorem lookup_of_mem (hu : Unique key rows) (hr : r∈rows) : lookup key (key r) rows=some r := by
  induction rows with
  | nil => simp at hr
  | cons x rows ih =>
    have hn := List.nodup_cons.mp hu
    rw [lookup_cons]
    rcases List.mem_cons.mp hr with rfl | hr
    · simp
    have hne : key x≠key r := by
      intro he
      exact hn.1 (he ▸ mem_map_of_mem hr)
    rw [if_neg hne]
    exact ih hn.2 hr

theorem filter_key (hu : Unique key rows) (hr : r∈rows) : (rows.filter fun x => decide (key x=key r))=[r] := by
  induction rows with
  | nil => simp at hr
  | cons x rows ih =>
    have hn := List.nodup_cons.mp hu
    obtain rfl | hr := List.mem_cons.mp hr
    · have hrest : (rows.filter fun x => decide (key x=key r))=[] := by
        rw [List.filter_eq_nil_iff]
        intro y hy hk
        exact hn.1 (of_decide_eq_true hk ▸ mem_map_of_mem hy)
      rw [filter_cons_of_pos (by simp),hrest]
    · have hne : key x≠key r := fun he => hn.1 (he ▸ mem_map_of_mem hr)
      rw [filter_cons_of_neg (by simpa using hne),ih hn.2 hr]

theorem lookup_isSome : (lookup key k rows).isSome ↔ ∃ r∈rows, key r=k := by
  simp [lookup]

theorem lookup_eq_none : lookup key k rows=none ↔ ∀ r∈rows, key r≠k := by
  simp [lookup]

theorem lookup_append (key : ρ → κ) (k : κ) (rows more : List ρ) :
    lookup key k (rows++more)=(lookup key k rows).or (lookup key k more) := by
  simp [lookup,List.find?_append]

variable {f : ρ → ρ}

theorem lookup_map (key : ρ → κ) (k : κ) (rows : List ρ) (hf : ∀ r, key (f r)=key r) :
    lookup key k (rows.map f)=(lookup key k rows).map f := by
  induction rows with
  | nil => rfl
  | cons r rows ih =>
    rw [map_cons,lookup_cons,lookup_cons,hf,ih]
    split <;> rfl

theorem lookup_modify_of (key : ρ → κ) (k k' : κ) (rows : List ρ) (hf : ∀ r, key r=k → key (f r)=k) :
    lookup key k' (modify key k f rows) = if k'=k then (lookup key k rows).map f else lookup key k' rows := by
  induction rows with
  | nil => by_cases h : k'=k <;> simp [modify,lookup]
  | cons r rows ih =>
    simp only [modify,map_cons] at ih ⊢
    rw [lookup_cons,lookup_cons,lookup_cons,ih]
    by_cases hk : key r=k
    · by_cases h : k'=k
      · simp [hk,h,hf]
      · simp [hk,hf,h,Ne.symm h]
    · by_cases h : k'=k
      · simp [hk,h]
      · simp [hk,h]

theorem lookup_modify (key : ρ → κ) (k k' : κ) (rows : List ρ) (hf : ∀ r, key (f r)=key r) :
    lookup key k' (modify key k f rows) = if k'=k then (lookup key k rows).map f else lookup key k' rows :=
  lookup_modify_of key k k' rows fun r hr => (hf r).trans hr

theorem map_key_modify_of (key : ρ → κ) (k : κ) (rows : List ρ) (hf : ∀ r, key r=k → key (f r)=k) :
    (modify key k f rows).map key=rows.map key := by
  induction rows with
  | nil => rfl
  | cons r rows ih =>
    simp only [modify,map_cons] at ih ⊢
    rw [ih]
    by_cases h : key r=k <;> simp [h,hf]

theorem map_modify {τ : Type*} (key : ρ → κ) (k : κ) {g : ρ → τ} (rows : List ρ) (hf : ∀ r, g (f r)=g r) :
    (modify key k f rows).map g=rows.map g := by
  rw [modify,List.map_map]
  refine List.map_congr_left fun r _ => ?_
  by_cases h : key r=k <;> simp [h,hf]

theorem map_key_modify (key : ρ → κ) (k : κ) (rows : List ρ) (hf : ∀ r, key (f r)=key r) :
    (modify key k f rows).map key=rows.map key :=
  map_key_modify_of key k rows fun r hr => (hf r).trans hr

omit [DecidableEq κ] in
theorem Unique.cons (h : Unique key (r::rows)) : (∀ x∈rows, key x≠key r) ∧ Unique key rows := by
  obtain ⟨hnot,hn⟩ := List.nodup_cons.mp h
  exact ⟨fun x hx he => hnot (he ▸ mem_map_of_mem hx),hn⟩

theorem Unique.modify (hu : Unique key rows) (k : κ) (hf : ∀ r, key (f r)=key r) : Unique key (modify key k f rows) := by
  rw [Unique,map_key_modify key k rows hf]
  exact hu

theorem Unique.append (hu : Unique key rows) (hr : lookup key (key r) rows=none) : Unique key (rows++[r]) := by
  have hfresh := lookup_eq_none.mp hr
  rw [Unique,List.map_append,List.map_singleton]
  refine List.Nodup.append hu (List.nodup_singleton _) ?_
  intro k hk hk'
  obtain ⟨x,hx,rfl⟩ := List.mem_map.mp hk
  exact hfresh x hx (List.mem_singleton.mp hk')

def nextId (ids : List Int) : Int := ids.foldr max 0+1

theorem le_foldr_max (ids : List Int) : ∀ id∈ids, id ≤ ids.foldr max 0 := by
  induction ids with
  | nil => exact fun id h => by cases h
  | cons x ids ih =>
    intro id h
    obtain rfl | h := List.mem_cons.mp h
    · exact le_max_left _ _
    · exact (ih id h).trans (le_max_right _ _)

theorem lt_nextId {ids : List Int} {id : Int} (h : id∈ids) : id<nextId ids := by
  have := le_foldr_max ids id h
  rw [nextId]
  omega

theorem mem_modify {r' : ρ} (h : r'∈modify key k f rows) : ∃ r∈rows, r' = if key r=k then f r else r := by
  obtain ⟨r,hr,he⟩ := List.mem_map.mp h
  exact ⟨r,hr,he.symm⟩

theorem sum_filter_key (hu : Unique key rows) (k : κ) (g : ρ → Int) :
    ((rows.filter fun r => decide (key r=k)).map g).sum=((lookup key k rows).map g).getD 0 := by
  induction rows with
  | nil => rfl
  | cons r rows ih =>
    have hn := List.nodup_cons.mp hu
    rw [lookup_cons]
    by_cases h : key r=k
    · have hrest : rows.filter (fun r => decide (key r=k))=[] := by
        rw [List.filter_eq_nil_iff]
        intro x hx hk
        have hk : key x=k := by simpa using hk
        exact hn.1 (h.trans hk.symm ▸ mem_map_of_mem hx)
      simp [h,hrest]
    · simpa [h] using ih hn.2

theorem modify_of_notMem (h : k∉rows.map key) (f : ρ → ρ) : modify key k f rows=rows := by
  induction rows with
  | nil => rfl
  | cons x rows ih =>
    simp only [map_cons,mem_cons,not_or] at h
    simp only [modify,map_cons] at ih ⊢
    rw [ih h.2,if_neg (Ne.symm h.1)]

theorem sum_modify (hu : Unique key rows) (hr : r∈rows) (f : ρ → ρ) (g : ρ → Int) :
    ((modify key (key r) f rows).map g).sum=(rows.map g).sum+(g (f r)-g r) := by
  induction rows with
  | nil => simp at hr
  | cons x rows ih =>
    have hn := List.nodup_cons.mp hu
    obtain rfl | hr := List.mem_cons.mp hr
    · have hrest := modify_of_notMem hn.1 f
      simp only [modify] at hrest
      simp only [modify,map_cons,sum_cons,hrest,if_true]
      omega
    · have hne : key x≠key r := fun he => hn.1 (he ▸ mem_map_of_mem hr)
      have hrest := ih hn.2 hr
      simp only [modify] at hrest
      simp only [modify,map_cons,sum_cons,hrest,if_neg hne]
      omega

theorem lookup_filter (hu : Unique key rows) (p : ρ → Bool) (k : κ) :
    lookup key k (rows.filter p)=(lookup key k rows).filter p := by
  induction rows with
  | nil => rfl
  | cons x rows ih =>
    have hn := List.nodup_cons.mp hu
    have hrows := ih hn.2
    by_cases hk : key x=k
    · have hnone : lookup key k rows=none :=
        lookup_eq_none.mpr fun r hr he => hn.1 (List.mem_map.mpr ⟨r,hr,he.trans hk.symm⟩)
      by_cases hp : p x=true
      · rw [filter_cons_of_pos hp,lookup_cons,lookup_cons,if_pos hk,if_pos hk,Option.filter_some,if_pos hp]
      rw [filter_cons_of_neg hp,lookup_cons,if_pos hk,hrows,hnone,Option.filter_some,if_neg hp]
      rfl
    · by_cases hp : p x=true
      · rw [filter_cons_of_pos hp,lookup_cons,lookup_cons,if_neg hk,if_neg hk,hrows]
      · rw [filter_cons_of_neg hp,lookup_cons,if_neg hk,hrows]

omit [DecidableEq κ] in
theorem Unique.filter (hu : Unique key rows) (p : ρ → Bool) : Unique key (rows.filter p) :=
  List.Nodup.sublist (List.Sublist.map key (List.filter_sublist)) hu

theorem mem_firsts (hinj : ∀ a∈rows, ∀ b∈rows, key a=key b → a=b) (seen : List κ) : r∈firsts key seen rows ↔ r∈rows ∧ key r∉seen := by
  induction rows generalizing seen with
  | nil => simp [firsts]
  | cons x rows ih =>
    have hrows := ih fun a ha b hb => hinj a (mem_cons_of_mem x ha) b (mem_cons_of_mem x hb)
    by_cases hx : key x∈seen
    · rw [firsts,if_pos hx,hrows]
      constructor
      · rintro ⟨hr,hseen⟩
        exact ⟨mem_cons_of_mem x hr,hseen⟩
      · rintro ⟨hr,hseen⟩
        obtain rfl | hr := List.mem_cons.mp hr
        · exact absurd hx hseen
        · exact ⟨hr,hseen⟩
    · rw [firsts,if_neg hx,mem_cons,hrows]
      constructor
      · rintro (rfl | ⟨hr,hseen⟩)
        · exact ⟨mem_cons_self,hx⟩
        · exact ⟨mem_cons_of_mem x hr,fun h => hseen (mem_cons_of_mem _ h)⟩
      · rintro ⟨hr,hseen⟩
        by_cases hkey : key r=key x
        · exact .inl (hinj r hr x mem_cons_self hkey)
        right
        obtain rfl | hr := List.mem_cons.mp hr
        · exact absurd rfl hkey
        · exact ⟨hr,fun h => (List.mem_cons.mp h).elim hkey hseen⟩

theorem firstsSome_sublist (key : ρ → Option κ) (seen : List κ) (rows : List ρ) : (firstsSome key seen rows).Sublist rows := by
  induction rows generalizing seen with
  | nil => exact List.Sublist.refl _
  | cons r rows ih =>
    rw [firstsSome]
    split
    · exact (ih seen).cons_cons r
    split
    · exact (ih seen).cons r
    · exact (ih _).cons_cons r

theorem notMem_of_firstsSome {key : ρ → Option κ} {seen : List κ} (h : r∈firstsSome key seen rows)
    (hk : key r=some k) : k∉seen := by
  induction rows generalizing seen with
  | nil => cases h
  | cons x rows ih =>
    rw [firstsSome] at h
    split at h
    next hx =>
      obtain rfl | h := List.mem_cons.mp h
      · rw [hx] at hk
        cases hk
      · exact ih h
    next k' hx =>
      split at h
      · exact ih h
      next hk' =>
        obtain rfl | h := List.mem_cons.mp h
        · rw [hx,Option.some.injEq] at hk
          exact hk ▸ hk'
        · exact fun hseen => ih h (mem_cons_of_mem _ hseen)

theorem firstsSome_pairwise (key : ρ → Option κ) (seen : List κ) (rows : List ρ) :
    (firstsSome key seen rows).Pairwise fun a b => ∀ k, key a=some k → key b≠some k := by
  induction rows generalizing seen with
  | nil => exact .nil
  | cons r rows ih =>
    rw [firstsSome]
    split
    next hr =>
      refine .cons (fun b hb k hk => ?_) (ih seen)
      rw [hr] at hk
      cases hk
    next k hr =>
      split
      · exact ih seen
      · refine .cons (fun b hb k' hk hkb => ?_) (ih _)
        rw [hr,Option.some.injEq] at hk
        exact notMem_of_firstsSome hb hkb (hk ▸ mem_cons_self)

theorem firstsSome_eq_self {key : ρ → Option κ} {seen : List κ} : firstsSome key seen rows=rows ↔
      rows.Pairwise (fun a b => ∀ k, key a=some k → key b≠some k) ∧ ∀ r∈rows, ∀ k, key r=some k → k∉seen := by
  constructor
  · intro h
    exact ⟨h ▸ firstsSome_pairwise key seen rows,fun r hr k hk => notMem_of_firstsSome (h ▸ hr) hk⟩
  · rintro ⟨hpair,hseen⟩
    induction rows generalizing seen with
    | nil => rfl
    | cons r rows ih =>
      obtain ⟨hr,hpair⟩ := List.pairwise_cons.mp hpair
      have hrows : ∀ x∈rows, ∀ k, key x=some k → k∉seen := fun x hx => hseen x (mem_cons_of_mem r hx)
      rw [firstsSome]
      split
      next => rw [ih hpair hrows]
      next k hk =>
        rw [if_neg (hseen r mem_cons_self k hk),ih hpair]
        intro x hx k' hk' hmem
        obtain rfl | hmem := List.mem_cons.mp hmem
        · exact hr x hx k' hk hk'
        · exact hrows x hx k' hk' hmem

theorem sum_filter (p : ρ → Bool) (g : ρ → Int) (rows : List ρ) :
    ((rows.filter p).map g).sum=(rows.map fun r => if p r then g r else 0).sum := by
  induction rows with
  | nil => rfl
  | cons r rows ih => by_cases hp : p r=true <;> simp [hp,ih]

theorem sum_map_if (p : ρ → Bool) (f : ρ → ρ) (g : ρ → Int) (rows : List ρ) :
    ((rows.map fun r => if p r then f r else r).map g).sum=(rows.map g).sum+((rows.filter p).map fun r => g (f r)-g r).sum := by
  induction rows with
  | nil => rfl
  | cons r rows ih =>
    by_cases hp : p r=true
    · simp only [map_cons,sum_cons,filter_cons_of_pos hp,if_pos hp,ih]
      omega
    · simp only [map_cons,sum_cons,filter_cons_of_neg hp,if_neg hp,ih]
      omega

variable {p q : ρ → Bool}

theorem sum_filter_or (hpq : ∀ r, p r=true → q r=false) (rows : List ρ) (g : ρ → Int) :
    ((rows.filter fun r => p r || q r).map g).sum = ((rows.filter p).map g).sum+((rows.filter q).map g).sum := by
  induction rows with
  | nil => rfl
  | cons r rows ih =>
    by_cases hp : p r=true
    · simp [hp,hpq r hp,ih]
      omega
    · by_cases hq : q r=true
      · simp [hp,hq,ih]
        omega
      · simp [hp,hq,ih]

theorem filter_map_sublist {τ : Type*} {g : ρ → τ} (hpq : ∀ r, q (f r)=true → p r=true)
    (hg : ∀ r, g (f r)=g r) (rows : List ρ) : (((rows.map f).filter q).map g).Sublist ((rows.filter p).map g) := by
  induction rows with
  | nil => exact List.Sublist.refl _
  | cons r rows ih =>
    rw [map_cons]
    by_cases hq : q (f r)=true
    · rw [filter_cons_of_pos hq,filter_cons_of_pos (hpq r hq),map_cons,map_cons,hg]
      exact ih.cons_cons _
    · rw [filter_cons_of_neg hq]
      by_cases hp : p r=true
      · rw [filter_cons_of_pos hp,map_cons]
        exact ih.cons _
      · rw [filter_cons_of_neg hp]
        exact ih

omit [DecidableEq κ] in
theorem filterMap_key_sublist {f : ρ → Option ρ} (hf : ∀ r r', f r=some r' → key r'=key r) (rows : List ρ) :
    ((rows.filterMap f).map key).Sublist (rows.map key) := by
  induction rows with
  | nil => exact List.Sublist.refl _
  | cons r rows ih =>
    rw [List.filterMap_cons]
    cases hr : f r with
    | none => exact ih.trans (List.sublist_cons_self _ _)
    | some r' =>
      simp only [map_cons,hf r r' hr]
      exact ih.cons_cons _

omit [DecidableEq κ] in
theorem map_filter_filterMap {α γ : Type*} {f : α → Option ρ} {p : α → Bool} {g : ρ → γ} {g' : α → γ}
    (hp : ∀ a, p a=(f a).any q) (hg : ∀ a r, f a=some r → g r=g' a) (l : List α) :
    ((l.filterMap f).filter q).map g=(l.filter p).map g' := by
  induction l with
  | nil => rfl
  | cons a l ih =>
    have hpa := hp a
    cases hf : f a with
    | none =>
      rw [hf,Option.any_none] at hpa
      rw [List.filterMap_cons_none hf,filter_cons_of_neg (by simp [hpa]),ih]
    | some r =>
      rw [hf,Option.any_some] at hpa
      rw [List.filterMap_cons_some hf]
      by_cases hq : q r=true
      · rw [filter_cons_of_pos hq,filter_cons_of_pos (hpa.trans hq),map_cons,map_cons,ih,hg a r hf]
      · rw [filter_cons_of_neg hq,filter_cons_of_neg (by simpa [hpa] using hq),ih]

theorem sum_move {ι : Type*} {S : Finset ι} {f g : ι → Int} {i : ι} (hi : i∈S)
    (hfg : ∀ j, j≠i → g j=f j) : ∑ j∈S, g j = ∑ j∈S, f j+(g i-f i) := by
  classical
  have hrest : ∑ j∈S.erase i, g j = ∑ j∈S.erase i, f j :=
    Finset.sum_congr rfl fun j hj => hfg j (Finset.ne_of_mem_erase hj)
  rw [← Finset.add_sum_erase S g hi,← Finset.add_sum_erase S f hi,hrest]
  omega

end Keyed
