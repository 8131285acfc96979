import Mathlib.Data.List.Infix

/-! Negative indices in the paths of parameter overrides: `processNegativeIndex` of `relay/common/override.go`. Texts
are lists of characters; what `gjson` finds in the body is a parameter, the length of the array at a path if there is
one. -/
namespace NewApi.Relay
open List

def negativeDigits : List Char → Option (List Char)
  | '-' :: rest => if rest.takeWhile Char.isDigit=[] then none else some (rest.takeWhile Char.isDigit)
  | _ => none

def negativeIndexes : List Char → List (List Char)
  | [] => []
  | c::rest => (if c = '.' then (negativeDigits rest).toList else [])++negativeIndexes rest

def beforeFirst (sep : List Char) : List Char → List Char
  | [] => []
  | c::rest => if sep.isPrefixOf (c::rest) then [] else c::beforeFirst sep rest

def replaceFirst (old new : List Char) : List Char → List Char
  | [] => []
  | c::rest => if old.isPrefixOf (c::rest) then new++(c::rest).drop old.length else c::replaceFirst old new rest

/-- The path whose array a negative index is taken from. -/
def arrayPath (path ds : List Char) : List Char :=
  let before := beforeFirst ('-' :: ds) path
  if before.getLast? = some '.' then before.dropLast else before

def digitsValue (ds : List Char) : Nat := ds.foldl (fun n c => 10*n+(c.toNat - '0'.toNat)) 0

/-- The index that a negative one stands for. One that `Atoi` cuts off is longer than any array either way. -/
def actualIndex (length : Option Nat) (ds : List Char) : Option Nat :=
  length.bind fun n => if 0<digitsValue ds ∧ digitsValue ds≤n then some (n-digitsValue ds) else none

section Paths
variable (lengthAt : List Char → Option Nat)

def replaceIndex (path result ds : List Char) : List Char :=
  match actualIndex (lengthAt (arrayPath path ds)) ds with
  | some index => replaceFirst ('.' :: '-' :: ds) ('.' :: Nat.toDigits 10 index) result
  | none => result

def processNegativeIndex (path : List Char) : List Char :=
  (negativeIndexes path).foldl (replaceIndex lengthAt path) path

def segments : List Char → List Char×List (List Char)
  | [] => ([],[])
  | c::rest =>
    if c = '.' then ([],(segments rest).1::(segments rest).2) else (c::(segments rest).1,(segments rest).2)

def joined : List (List Char) → List Char
  | [] => []
  | s::rest => '.' :: (s++joined rest)

/-- The index in the array at `done` that a segment stands for, where the segment is a negative integer. -/
def ownIndex (done s : List Char) : Option Nat :=
  ((negativeDigits s).filter fun ds => s = '-' :: ds).bind (actualIndex (lengthAt done))

def resolveSegment (done s : List Char) : List Char := ((ownIndex lengthAt done s).map (Nat.toDigits 10)).getD s

/-- The path with every index resolved against the array at the resolved path before it. -/
def resolveSegments : List Char → List (List Char) → List Char
  | done, [] => done
  | done, s::rest => resolveSegments (done ++ '.' :: resolveSegment lengthAt done s) rest

/-- Every negative index gives in the array that is looked up for it what it gives in its own array, and where it gives
an index, its text is nowhere in the resolved path before it. -/
def ReadsOwnArrays (path : List Char) : List Char → List (List Char) → Prop
  | _, [] => True
  | done, s::rest =>
    (∀ ds, negativeDigits s=some ds → actualIndex (lengthAt (arrayPath path ds)) ds=ownIndex lengthAt done s ∧
      ((ownIndex lengthAt done s).isSome → ¬ '.' :: '-' :: ds <:+: done)) ∧
    ReadsOwnArrays path (done ++ '.' :: resolveSegment lengthAt done s) rest

end Paths

theorem segments_joined (path : List Char) : (segments path).1++joined (segments path).2=path := by
  induction path with
  | nil => rfl
  | cons c rest ih =>
    by_cases hc : c = '.'
    · simp [segments,hc,joined,ih]
    · simp [segments,hc,ih]

theorem segments_noDot (path : List Char) : '.' ∉ (segments path).1 ∧ ∀ s∈(segments path).2, '.' ∉ s := by
  induction path with
  | nil => simp [segments]
  | cons c rest ih =>
    by_cases hc : c = '.'
    · simpa [segments,hc] using ih
    · simpa [segments,hc,eq_comm] using ih

theorem negativeDigits_append (s : List Char) (rest : List (List Char)) : negativeDigits (s++joined rest)=negativeDigits s := by
  have htake : ∀ t : List Char, (t++joined rest).takeWhile Char.isDigit=t.takeWhile Char.isDigit := by
    intro t
    induction t with
    | nil => cases rest <;> rfl
    | cons c t ih => simp [takeWhile_cons,ih]
  cases s with
  | nil => cases rest <;> rfl
  | cons c t =>
    by_cases hc : c = '-'
    · subst hc
      simp [negativeDigits,htake]
    · simp [negativeDigits,hc]

theorem negativeIndexes_segment {s : List Char} (hs : '.' ∉ s) (tail : List Char) :
    negativeIndexes (s++tail)=negativeIndexes tail := by
  induction s with
  | nil => rfl
  | cons c s ih =>
    simp only [mem_cons,not_or] at hs
    simp [negativeIndexes,Ne.symm hs.1,ih hs.2]

theorem negativeIndexes_joined {rest : List (List Char)} (h : ∀ s∈rest, '.' ∉ s) :
    negativeIndexes (joined rest)=rest.filterMap negativeDigits := by
  induction rest with
  | nil => rfl
  | cons s rest ih =>
    obtain ⟨hs,hrest⟩ := forall_mem_cons.mp h
    rw [joined,negativeIndexes,if_pos rfl,negativeDigits_append,negativeIndexes_segment hs,ih hrest, filterMap_cons]
    cases negativeDigits s <;> rfl

theorem prefix_before_dot {t done tail : List Char} (ht : '.' ∉ t) (h : t <+: done ++ '.' :: tail) : t <+: done := by
  rcases prefix_or_prefix_of_prefix h (prefix_append done _) with hpre | ⟨u,rfl⟩
  · exact hpre
  cases u with
  | nil => simp
  | cons c u =>
    have hc : c = '.' := by
      have := (prefix_append_right_inj done).mp h
      exact (cons_prefix_cons.mp this).1
    exact absurd (by simp [hc]) ht

theorem replaceFirst_at {t done : List Char} (ht : '.' ∉ t) (hdone : ¬ '.' :: t <:+: done) (new tail : List Char) :
    replaceFirst ('.' :: t) new (done ++ '.' :: (t++tail))=done++(new++tail) := by
  induction done with
  | nil => simp [replaceFirst]
  | cons c done ih =>
    have hno : ¬ '.' :: t <+: c::(done ++ '.' :: (t++tail)) := by
      intro h
      obtain ⟨rfl,hpre⟩ := cons_prefix_cons.mp h
      exact hdone (cons_prefix_cons.mpr ⟨rfl,prefix_before_dot ht hpre⟩).isInfix
    have hrest : ¬ '.' :: t <:+: done := fun h => hdone (h.trans (suffix_cons c done).isInfix)
    rw [cons_append,replaceFirst,if_neg (by simpa using hno),ih hrest,cons_append]

section Run
variable {lengthAt : List Char → Option Nat} {path done s ds : List Char}

theorem ownIndex_some {index : Nat} (hds : negativeDigits s=some ds) (h : ownIndex lengthAt done s=some index) :
    s = '-' :: ds := by
  by_contra hne
  rw [ownIndex,hds,Option.filter_some,if_neg (by simpa using hne)] at h
  exact absurd h (by simp)

theorem negativeDigits_digits (h : negativeDigits s=some ds) : '.' ∉ '-' :: ds := by
  unfold negativeDigits at h
  split at h
  · split at h
    · exact absurd h (by simp)
    next rest _ =>
    obtain rfl := Option.some.inj h
    simp only [mem_cons,not_or]
    exact ⟨by decide,fun hmem => absurd (all_eq_true.mp all_takeWhile _ hmem) (by decide)⟩
  · exact absurd h (by simp)

theorem replaceIndex_segment (hds : negativeDigits s=some ds) (rest : List (List Char))
    (hindex : actualIndex (lengthAt (arrayPath path ds)) ds=ownIndex lengthAt done s)
    (hfirst : (ownIndex lengthAt done s).isSome → ¬ '.' :: '-' :: ds <:+: done) :
    replaceIndex lengthAt path (done++joined (s::rest)) ds = (done ++ '.' :: resolveSegment lengthAt done s)++joined rest := by
  rw [replaceIndex,hindex,resolveSegment]
  cases hown : ownIndex lengthAt done s with
  | none => simp [joined]
  | some index =>
    obtain rfl := ownIndex_some hds hown
    have hat := replaceFirst_at (negativeDigits_digits hds) (hfirst (by simp [hown]))
      ('.' :: Nat.toDigits 10 index) (joined rest)
    simpa [joined] using hat

theorem foldl_replaceIndex {rest : List (List Char)} (h : ReadsOwnArrays lengthAt path done rest) :
    (rest.filterMap negativeDigits).foldl (replaceIndex lengthAt path) (done++joined rest) =
      resolveSegments lengthAt done rest := by
  induction rest generalizing done with
  | nil => simp [joined,resolveSegments]
  | cons s rest ih =>
    obtain ⟨hs,hrest⟩ := h
    rw [resolveSegments,← ih hrest,filterMap_cons]
    cases hds : negativeDigits s with
    | none => simp [joined,resolveSegment,ownIndex,hds]
    | some ds => rw [foldl_cons,replaceIndex_segment hds rest (hs ds hds).1 (hs ds hds).2]

end Run

theorem negative_indices_by_level {lengthAt : List Char → Option Nat} {path : List Char}
    (h : ReadsOwnArrays lengthAt path (segments path).1 (segments path).2) :
    processNegativeIndex lengthAt path=resolveSegments lengthAt (segments path).1 (segments path).2 := by
  obtain ⟨hfirst,hrest⟩ := segments_noDot path
  have hmatches : negativeIndexes path=(segments path).2.filterMap negativeDigits := by
    rw [← negativeIndexes_joined hrest,← negativeIndexes_segment hfirst (joined _),segments_joined]
  rw [← foldl_replaceIndex h,segments_joined,← hmatches,processNegativeIndex]

def squareArrays (path : List Char) : Option Nat :=
  if path="a".toList ∨ path="a.1".toList then some 2 else none

theorem negative_indices_by_level_last : processNegativeIndex squareArrays "a.-1.-1".toList =
    resolveSegments squareArrays (segments "a.-1.-1".toList).1 (segments "a.-1.-1".toList).2 := by
  have hsegments : segments "a.-1.-1".toList=(['a'],[['-', '1'],['-', '1']]) := by decide +kernel
  refine negative_indices_by_level ?_
  rw [hsegments]
  refine ⟨fun ds hds => ?_,fun ds hds => ?_,trivial⟩
  · obtain rfl : ['1']=ds := Option.some.inj hds
    exact ⟨by decide +kernel,fun _ => by decide⟩
  · obtain rfl : ['1']=ds := Option.some.inj hds
    exact ⟨by decide +kernel,fun _ => by decide +kernel⟩

def nestedArrays (path : List Char) : Option Nat :=
  if path="a".toList then some 2 else if path="a.0.b".toList then some 0
  else if path="a.1.b".toList then some 3 else none

theorem second_index_of_outer_array : processNegativeIndex nestedArrays "a.-1.b.-1".toList ≠
    resolveSegments nestedArrays (segments "a.-1.b.-1".toList).1 (segments "a.-1.b.-1".toList).2 := by
  decide +kernel

end NewApi.Relay
