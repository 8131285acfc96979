import Mathlib.Algebra.BigOperators.Group.List.Basic
import Mathlib.Algebra.Group.Basic
import Mathlib.Tactic.Common
import Mathlib.Tactic.Abel

/-! Trees of objects, arrays and leaves that carry a mark at each node; marks that cache a total over the subtree, and edits
below a path that keep them exact by adding one amount to each ancestor. -/
namespace Trees
open List
variable {κ ℓ ℓ' α β M : Type}

inductive Tree (κ ℓ α : Type) where
  | leaf (value : ℓ) (mark : α)
  | object (fields : List (κ×Tree κ ℓ α)) (mark : α)
  | array (items : List (Tree κ ℓ α)) (mark : α)

section Assign
variable [DecidableEq κ]

def assign (key : κ) (value : β) : List (κ×β) → List (κ×β)
  | [] => [(key,value)]
  | entry::rest => if key=entry.1 then (key,value)::rest else entry::assign key value rest

def find (key : κ) : List (κ×β) → Option β
  | [] => none
  | entry::rest => if key=entry.1 then some entry.2 else find key rest

variable {key : κ} {entries : List (κ×β)}

theorem assign_eq_append (h : find key entries=none) (value : β) : assign key value entries=entries++[(key,value)] := by
  induction entries with
  | nil => rfl
  | cons entry rest ih =>
    rw [find] at h
    by_cases hkey : key=entry.1
    · rw [if_pos hkey] at h
      cases h
    · rw [if_neg hkey] at h
      rw [assign,if_neg hkey,ih h,cons_append]

variable {value old : β} (f : α → β)

theorem mem_assign {entry : κ×β} (h : entry∈assign key value entries) : entry=(key,value) ∨ entry∈entries := by
  induction entries with
  | nil => exact .inl (mem_singleton.mp h)
  | cons first rest ih =>
    rw [assign] at h
    split at h
    · exact (mem_cons.mp h).imp_right (mem_cons_of_mem _)
    rcases mem_cons.mp h with rfl | h
    · exact .inr mem_cons_self
    · exact (ih h).imp_right (mem_cons_of_mem _)

theorem mem_of_find (h : find key entries=some value) : (key,value)∈entries := by
  induction entries with
  | nil => cases h
  | cons entry rest ih =>
    rw [find] at h
    by_cases hkey : key=entry.1
    · rw [if_pos hkey] at h
      cases h
      rw [hkey]
      exact mem_cons_self
    · rw [if_neg hkey] at h
      exact mem_cons_of_mem _ (ih h)

theorem length_assign (h : find key entries=some old) (value : β) : (assign key value entries).length=entries.length := by
  induction entries with
  | nil => cases h
  | cons entry rest ih =>
    rw [find] at h
    by_cases hkey : key=entry.1
    · rw [assign,if_pos hkey,length_cons,length_cons]
    rw [if_neg hkey] at h
    rw [assign,if_neg hkey,length_cons,length_cons,ih h]

theorem sum_assign [AddCommGroup M] (h : find key entries=some old) (value : β) (cost : κ×β → M) :
    ((assign key value entries).map cost).sum=(entries.map cost).sum+(cost (key,value)-cost (key,old)) := by
  induction entries with
  | nil => cases h
  | cons entry rest ih =>
    rw [find] at h
    by_cases hkey : key=entry.1
    · rw [if_pos hkey] at h
      cases h
      rw [assign,if_pos hkey,map_cons,map_cons,sum_cons,sum_cons,hkey]
      abel
    · rw [if_neg hkey] at h
      rw [assign,if_neg hkey,map_cons,map_cons,sum_cons,sum_cons,ih h]
      abel

theorem map_assign (key : κ) (value : α) (entries : List (κ×α)) :
    (assign key value entries).map (Prod.map id f)=assign key (f value) (entries.map (Prod.map id f)) := by
  induction entries with
  | nil => rfl
  | cons entry rest ih =>
    rw [assign,map_cons,assign]
    split
    · rw [if_pos (by assumption)]
      rfl
    · rw [if_neg (by assumption),map_cons,ih]

theorem find_map (key : κ) (entries : List (κ×α)) :
    find key (entries.map (Prod.map id f))=(find key entries).map f := by
  induction entries with
  | nil => rfl
  | cons entry rest ih =>
    rw [map_cons,find,find,Prod.map_fst,id]
    split
    · rfl
    · exact ih

end Assign

section Folds

mutual

def Tree.fold (leaf : ℓ → β) (object : List (κ×β) → β) (array : List β → β) : Tree κ ℓ α → β
  | .leaf value _ => leaf value
  | .object fields _ => object (foldFields leaf object array fields)
  | .array items _ => array (foldItems leaf object array items)

def foldFields (leaf : ℓ → β) (object : List (κ×β) → β) (array : List β → β) : List (κ×Tree κ ℓ α) → List (κ×β)
  | [] => []
  | (key,child)::rest => (key,child.fold leaf object array)::foldFields leaf object array rest

def foldItems (leaf : ℓ → β) (object : List (κ×β) → β) (array : List β → β) : List (Tree κ ℓ α) → List β
  | [] => []
  | item::rest => item.fold leaf object array::foldItems leaf object array rest

end

variable {leaf : ℓ → β} {object : List (κ×β) → β} {array : List β → β} (fields : List (κ×Tree κ ℓ α)) (items : List (Tree κ ℓ α))

theorem foldFields_eq :
    foldFields leaf object array fields=fields.map (Prod.map id (Tree.fold leaf object array)) := by
  induction fields with
  | nil => rfl
  | cons field rest ih => rw [foldFields,map_cons,ih]; rfl

theorem foldItems_eq :
    foldItems leaf object array items=items.map (Tree.fold leaf object array) := by
  induction items with
  | nil => rfl
  | cons item rest ih => rw [foldItems,map_cons,ih]

theorem Tree.fold_object (mark : α) :
    (Tree.object fields mark).fold leaf object array=object (fields.map (Prod.map id (Tree.fold leaf object array))) := by
  rw [Tree.fold,foldFields_eq]

theorem Tree.fold_array (mark : α) :
    (Tree.array items mark).fold leaf object array=array (items.map (Tree.fold leaf object array)) := by
  rw [Tree.fold,foldItems_eq]

mutual

variable {p : Tree κ ℓ α → Prop}

theorem Tree.all (hleaf : ∀ value mark, p (.leaf value mark))
    (hobject : ∀ fields mark, (∀ entry∈fields, p entry.2) → p (.object fields mark))
    (harray : ∀ items mark, (∀ item∈items, p item) → p (.array items mark)) : ∀ t, p t
  | .leaf value mark => hleaf value mark
  | .object fields mark => hobject fields mark (Tree.allFields hleaf hobject harray fields)
  | .array items mark => harray items mark (Tree.allItems hleaf hobject harray items)

theorem Tree.allFields (hleaf : ∀ value mark, p (.leaf value mark))
    (hobject : ∀ fields mark, (∀ entry∈fields, p entry.2) → p (.object fields mark))
    (harray : ∀ items mark, (∀ item∈items, p item) → p (.array items mark)) : ∀ fields : List (κ×Tree κ ℓ α), ∀ entry∈fields, p entry.2
  | [] => forall_mem_nil _
  | (_,child)::rest => forall_mem_cons.mpr ⟨Tree.all hleaf hobject harray child,Tree.allFields hleaf hobject harray rest⟩

theorem Tree.allItems (hleaf : ∀ value mark, p (.leaf value mark))
    (hobject : ∀ fields mark, (∀ entry∈fields, p entry.2) → p (.object fields mark))
    (harray : ∀ items mark, (∀ item∈items, p item) → p (.array items mark)) : ∀ items : List (Tree κ ℓ α), ∀ item∈items, p item
  | [] => forall_mem_nil _
  | item::rest => forall_mem_cons.mpr ⟨Tree.all hleaf hobject harray item,Tree.allItems hleaf hobject harray rest⟩

end

def Tree.bare (f : ℓ → ℓ') : Tree κ ℓ α → Tree κ ℓ' Unit :=
  Tree.fold (fun value => .leaf (f value) ()) (fun fields => .object fields ()) fun items => .array items ()

theorem Tree.bare_object (f : ℓ → ℓ') (fields : List (κ×Tree κ ℓ α)) (mark : α) :
    (Tree.object fields mark).bare f=.object (fields.map (Prod.map id (Tree.bare f))) () := Tree.fold_object fields mark

theorem Tree.bare_array (f : ℓ → ℓ') (items : List (Tree κ ℓ α)) (mark : α) :
    (Tree.array items mark).bare f=.array (items.map (Tree.bare f)) () := Tree.fold_array items mark

def Tree.depth : Tree κ ℓ α → Nat :=
  Tree.fold (fun _ => 0) (fun fields => (fields.map fun entry => entry.2+1).foldr max 0) fun items => (items.map (· + 1)).foldr max 0

theorem foldr_max_le {n : Nat} {l : List Nat} : l.foldr max 0≤n ↔ ∀ a∈l, a≤n := by
  induction l with
  | nil => simp
  | cons a l ih => rw [foldr_cons,Nat.max_le,ih,forall_mem_cons]

theorem Tree.depth_object_le {fields : List (κ×Tree κ ℓ α)} {mark : α} {n : Nat} :
    (Tree.object fields mark).depth≤n ↔ ∀ entry∈fields, entry.2.depth+1≤n := by
  rw [Tree.depth,Tree.fold_object,foldr_max_le]
  simp only [map_map,forall_mem_map]
  rfl

theorem Tree.depth_array_le {items : List (Tree κ ℓ α)} {mark : α} {n : Nat} :
    (Tree.array items mark).depth≤n ↔ ∀ item∈items, item.depth+1≤n := by
  rw [Tree.depth,Tree.fold_array,foldr_max_le]
  simp only [map_map,forall_mem_map]
  rfl

end Folds

section Totals
variable [AddCommGroup M]

/-- What the nodes of a tree cost: brackets and commas between the children, keys and leaves. -/
structure Costs (κ ℓ M : Type) where
  leaf : ℓ → M
  key : κ → M
  bracket : M
  comma : M

namespace Costs
variable (costs : Costs κ ℓ M)

def entries (children : List M) : M := costs.bracket+children.sum+(children.length-1) • costs.comma

def total : Tree κ ℓ α → M :=
  Tree.fold costs.leaf (fun fields => costs.entries (fields.map fun entry => costs.key entry.1+entry.2)) costs.entries

theorem total_object (fields : List (κ×Tree κ ℓ α)) (mark : α) :
    costs.total (.object fields mark)=costs.entries (fields.map fun entry => costs.key entry.1+costs.total entry.2) := by
  rw [total,Tree.fold_object,map_map]
  rfl

theorem total_array (items : List (Tree κ ℓ α)) (mark : α) :
    costs.total (.array items mark)=costs.entries (items.map costs.total) := Tree.fold_array items mark

theorem entries_concat (children : List M) (child : M) :
    costs.entries (children++[child])=costs.entries children+(child + if children=[] then 0 else costs.comma) := by
  rw [entries,entries,sum_append,sum_singleton,length_append,length_singleton,Nat.add_sub_cancel]
  cases children with
  | nil => simp
  | cons first rest =>
    rw [if_neg (cons_ne_nil _ _),length_cons,Nat.add_sub_cancel,succ_nsmul]
    abel

variable {old : Tree κ ℓ α}

theorem total_assign [DecidableEq κ] {key : κ} {fields : List (κ×Tree κ ℓ α)} (h : find key fields=some old)
    (child : Tree κ ℓ α) (mark mark' : α) : costs.total (.object (assign key child fields) mark') =
      costs.total (.object fields mark)+(costs.total child-costs.total old) := by
  rw [total_object,total_object,entries,entries,length_map,length_map,length_assign h,sum_assign h]
  abel

theorem total_set {index : Nat} {items : List (Tree κ ℓ α)} (h : items[index]? = some old) (child : Tree κ ℓ α)
    (mark mark' : α) : costs.total (.array (items.set index child) mark') =
      costs.total (.array items mark)+(costs.total child-costs.total old) := by
  have hsum : ((items.set index child).map costs.total).sum=(items.map costs.total).sum+(costs.total child-costs.total old) := by
    induction items generalizing index with
    | nil => cases h
    | cons item rest ih =>
      cases index with
      | zero =>
        cases h
        rw [set_cons_zero,map_cons,map_cons,sum_cons,sum_cons]
        abel
      | succ index =>
        rw [set_cons_succ,map_cons,map_cons,sum_cons,sum_cons,ih h]
        abel
  rw [total_array,total_array,entries,entries,length_map,length_map,length_set,hsum]
  abel

end Costs

def Tree.mark : Tree κ ℓ α → α
  | .leaf _ mark | .object _ mark | .array _ mark => mark

inductive Tree.Within (s : Tree κ ℓ α) : Tree κ ℓ α → Prop
  | root : Within s s
  | field {key child fields mark} : (key,child)∈fields → Within s child → Within s (.object fields mark)
  | item {child items mark} : child∈items → Within s child → Within s (.array items mark)

def Tree.Exact (costs : Costs κ ℓ M) (t : Tree κ ℓ M) : Prop := ∀ s, Tree.Within s t → s.mark=costs.total s

variable {costs : Costs κ ℓ M}

theorem Tree.Exact.mark {t : Tree κ ℓ M} (h : t.Exact costs) : t.mark=costs.total t := h t .root

theorem Tree.Exact.total_sub {s t : Tree κ ℓ M} (hs : s.Exact costs) (ht : t.Exact costs) {added : M} (h : s.mark=t.mark+added) :
    costs.total s-costs.total t=added := by
  rw [← hs.mark,h,← ht.mark,add_sub_cancel_left]

variable {mark : M}

theorem Tree.exact_leaf {value : ℓ} : (Tree.leaf value mark).Exact costs ↔ mark=costs.leaf value := by
  constructor
  · intro h
    exact h.mark
  · rintro h s ⟨⟩
    exact h

theorem Tree.exact_object {fields : List (κ×Tree κ ℓ M)} :
    (Tree.object fields mark).Exact costs ↔ mark=costs.total (.object fields mark) ∧ ∀ entry∈fields, entry.2.Exact costs := by
  constructor
  · intro h
    exact ⟨h.mark,fun entry hentry s hs => h s (.field hentry hs)⟩
  · rintro ⟨hmark,hfields⟩ s hs
    cases hs with
    | root => exact hmark
    | field hentry hs => exact hfields _ hentry s hs

theorem Tree.exact_array {items : List (Tree κ ℓ M)} :
    (Tree.array items mark).Exact costs ↔ mark=costs.total (.array items mark) ∧ ∀ item∈items, item.Exact costs := by
  constructor
  · intro h
    exact ⟨h.mark,fun item hitem s hs => h s (.item hitem hs)⟩
  · rintro ⟨hmark,hitems⟩ s hs
    cases hs with
    | root => exact hmark
    | item hitem hs => exact hitems _ hitem s hs

end Totals

section Paths
variable [DecidableEq κ]

/-- A node on the way to another one, with the place below it where the way goes on. -/
inductive Frame (κ ℓ α : Type) where
  | field (fields : List (κ×Tree κ ℓ α)) (mark : α) (key : κ)
  | item (items : List (Tree κ ℓ α)) (mark : α) (index : Nat)

def Frame.place : Frame κ ℓ α → κ ⊕ Nat
  | .field _ _ key => .inl key
  | .item _ _ index => .inr index

/-- The node with another child at the place, its mark raised. -/
def Frame.fill [Add α] (child : Tree κ ℓ α) (added : α) : Frame κ ℓ α → Tree κ ℓ α
  | .field fields mark key => .object (assign key child fields) (mark+added)
  | .item items mark index => .array (items.set index child) (mark+added)

/-- The tree with another subtree below the frames, the outermost frame first. -/
def refill [Add α] (frames : List (Frame κ ℓ α)) (child : Tree κ ℓ α) (added : α) : Tree κ ℓ α :=
  frames.foldr (fun frame below => frame.fill below added) child

theorem refill_cons [Add α] (frame : Frame κ ℓ α) (frames : List (Frame κ ℓ α)) (child : Tree κ ℓ α) (added : α) :
    refill (frame::frames) child added=frame.fill (refill frames child added) added := rfl

theorem refill_append [Add α] (frames more : List (Frame κ ℓ α)) (child : Tree κ ℓ α) (added : α) :
    refill (frames++more) child added=refill frames (refill more child added) added := foldr_append

inductive Below (s : Tree κ ℓ α) : List (Frame κ ℓ α) → Tree κ ℓ α → Prop
  | here : Below s [] s
  | field {fields mark key child frames} : find key fields=some child → Below s frames child →
      Below s (.field fields mark key::frames) (.object fields mark)
  | item {items mark index child frames} : items[index]? = some child → Below s frames child →
      Below s (.item items mark index::frames) (.array items mark)

variable {costs : Costs κ ℓ M} {s t s' : Tree κ ℓ M} {frames : List (Frame κ ℓ M)}

theorem Below.exact [AddCommGroup M] (h : Below s frames t) (ht : t.Exact costs) : s.Exact costs := by
  induction h with
  | here => exact ht
  | field hfind _ ih => exact ih ((Tree.exact_object.mp ht).2 _ (mem_of_find hfind))
  | item hitem _ ih => exact ih ((Tree.exact_array.mp ht).2 _ (mem_of_getElem? hitem))

theorem Below.depth {s t : Tree κ ℓ α} {frames : List (Frame κ ℓ α)} (h : Below s frames t) {n : Nat} (ht : t.depth≤n) :
    frames.length+s.depth≤n := by
  induction h generalizing n with
  | here => simpa using ht
  | field hfind _ ih =>
    have hchild : _+1≤n := Tree.depth_object_le.mp ht _ (mem_of_find hfind)
    have := ih (Nat.le_sub_one_of_lt hchild)
    rw [length_cons]
    omega
  | item hitem _ ih =>
    have hchild : _+1≤n := Tree.depth_array_le.mp ht _ (mem_of_getElem? hitem)
    have := ih (Nat.le_sub_one_of_lt hchild)
    rw [length_cons]
    omega

variable [AddCommGroup M]

theorem Below.refill_exact (h : Below s frames t) (ht : t.Exact costs) (hs' : s'.Exact costs) {added : M}
    (hadded : s'.mark=s.mark+added) : (refill frames s' added).Exact costs ∧ (refill frames s' added).mark=t.mark+added := by
  induction h with
  | here => exact ⟨hs',hadded⟩
  | field hfind _ ih =>
    obtain ⟨hmark,hfields⟩ := Tree.exact_object.mp ht
    have hchild := hfields _ (mem_of_find hfind)
    obtain ⟨hexact,hraised⟩ := ih hchild
    have hdiff := hexact.total_sub hchild hraised
    refine ⟨Tree.exact_object.mpr ⟨?_,?_⟩,rfl⟩
    · rw [costs.total_assign hfind,← hmark]
      exact congrArg _ hdiff.symm
    · intro entry hentry
      rcases mem_assign hentry with rfl | hentry
      · exact hexact
      · exact hfields entry hentry
  | item hitem _ ih =>
    obtain ⟨hmark,hitems⟩ := Tree.exact_array.mp ht
    have hchild := hitems _ (mem_of_getElem? hitem)
    obtain ⟨hexact,hraised⟩ := ih hchild
    have hdiff := hexact.total_sub hchild hraised
    refine ⟨Tree.exact_array.mpr ⟨?_,?_⟩,rfl⟩
    · rw [costs.total_set hitem,← hmark]
      exact congrArg _ hdiff.symm
    · intro item hmem
      rcases mem_or_eq_of_mem_set hmem with hmem | rfl
      · exact hitems item hmem
      · exact hexact

theorem Below.refill_depth (h : Below s frames t) {n : Nat} (ht : t.depth≤n)
    (hs' : frames.length+s'.depth≤n) (added : M) : (refill frames s' added).depth≤n := by
  induction h generalizing n with
  | here => simpa [refill] using hs'
  | field hfind _ ih =>
    have hfields := Tree.depth_object_le.mp ht
    refine Tree.depth_object_le.mpr fun entry hentry => ?_
    rcases mem_assign hentry with rfl | hentry
    · have hchild : _+1≤n := hfields _ (mem_of_find hfind)
      rw [length_cons] at hs'
      have := ih (Nat.le_sub_one_of_lt hchild) (by omega)
      exact Nat.add_le_of_le_sub (by omega) this
    · exact hfields entry hentry
  | item hitem _ ih =>
    have hitems := Tree.depth_array_le.mp ht
    refine Tree.depth_array_le.mpr fun item hmem => ?_
    rcases mem_or_eq_of_mem_set hmem with hmem | rfl
    · exact hitems item hmem
    have hchild : _+1≤n := hitems _ (mem_of_getElem? hitem)
    rw [length_cons] at hs'
    have := ih (Nat.le_sub_one_of_lt hchild) (by omega)
    exact Nat.add_le_of_le_sub (by omega) this

theorem Below.all {p : Tree κ ℓ α → Prop} (hobject : ∀ fields mark, p (.object fields mark) ↔ ∀ entry∈fields, p entry.2)
    (harray : ∀ items mark, p (.array items mark) ↔ ∀ item∈items, p item) {s t : Tree κ ℓ α} {frames : List (Frame κ ℓ α)}
    (h : Below s frames t) (ht : p t) : p s := by
  induction h with
  | here => exact ht
  | field hfind _ ih => exact ih ((hobject _ _).mp ht _ (mem_of_find hfind))
  | item hitem _ ih => exact ih ((harray _ _).mp ht _ (mem_of_getElem? hitem))

theorem Below.refill_all {p : Tree κ ℓ M → Prop} (hobject : ∀ fields mark, p (.object fields mark) ↔ ∀ entry∈fields, p entry.2)
    (harray : ∀ items mark, p (.array items mark) ↔ ∀ item∈items, p item)
    (h : Below s frames t) (ht : p t) (hs' : p s') (added : M) : p (refill frames s' added) := by
  induction h with
  | here => exact hs'
  | field hfind _ ih =>
    have hfields := (hobject _ _).mp ht
    refine (hobject _ _).mpr fun entry hentry => ?_
    rcases mem_assign hentry with rfl | hentry
    · exact ih (hfields _ (mem_of_find hfind))
    · exact hfields entry hentry
  | item hitem _ ih =>
    have hitems := (harray _ _).mp ht
    refine (harray _ _).mpr fun item hmem => ?_
    rcases mem_or_eq_of_mem_set hmem with hmem | rfl
    · exact hitems item hmem
    · exact ih (hitems _ (mem_of_getElem? hitem))

/-- An edit of a tree at the end of a path: the change is told what is there, if anything. -/
def Tree.edit (change : Option (Tree κ ℓ Unit) → Option (Tree κ ℓ Unit)) : List (κ ⊕ Nat) → Tree κ ℓ Unit → Option (Tree κ ℓ Unit)
  | [], t => change (some t)
  | .inl key::rest, .object fields mark =>
    match find key fields with
    | none => if rest=[] then (change none).map fun child => .object (assign key child fields) mark else none
    | some child => (Tree.edit change rest child).map fun child => .object (assign key child fields) mark
  | .inr index::rest, .array items mark => do
    let child ← items[index]?
    let child ← Tree.edit change rest child
    pure (.array (items.set index child) mark)
  | _, _ => none

theorem Tree.edit_nil (change : Option (Tree κ ℓ Unit) → Option (Tree κ ℓ Unit)) (t : Tree κ ℓ Unit) :
    Tree.edit change [] t=change (some t) := by
  cases t <;> rfl

theorem Tree.edit_missing {change : Option (Tree κ ℓ Unit) → Option (Tree κ ℓ Unit)} {key : κ} {fields : List (κ×Tree κ ℓ Unit)}
    (h : find key fields=none) (mark : Unit) :
    Tree.edit change [.inl key] (.object fields mark)=(change none).map fun child => .object (assign key child fields) mark := by
  rw [Tree.edit,h]
  rfl

variable {f : ℓ → ℓ'} {change : Option (Tree κ ℓ' Unit) → Option (Tree κ ℓ' Unit)}

theorem Below.edit (h : Below s frames t) (rest : List (κ ⊕ Nat))
    (hs' : (s.bare f).edit change rest=some (s'.bare f)) (added : M) :
    (t.bare f).edit change (frames.map Frame.place++rest)=some ((refill frames s' added).bare f) := by
  induction h with
  | here => exact hs'
  | field hfind _ ih =>
    rw [map_cons,Frame.place,cons_append,Tree.bare_object,Tree.edit,find_map,hfind]
    dsimp only [Option.map_some]
    rw [ih,refill_cons,Frame.fill,Tree.bare_object,map_assign]
    rfl
  | item hitem _ ih =>
    rw [map_cons,Frame.place,cons_append,Tree.bare_array,Tree.edit,getElem?_map,hitem]
    rw [Option.map_some,Option.bind_eq_bind,Option.bind_some,ih,refill_cons,Frame.fill,Tree.bare_array,map_set]
    rfl

end Paths
end Trees
