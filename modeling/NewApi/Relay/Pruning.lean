import NewApi.Lib.Runs
import NewApi.Relay.RequestJson

/-! The `prune_objects` override (`relay/common/override.go`): the objects of a JSON body that meet the conditions are
removed. A condition reads a field of the object and, where the object has none, the field of the override context. A map
is the list of its entries, and `raw` is the text that `Marshal` gives for a container. -/
namespace NewApi.Relay
open List Runs

abbrev Fields := List (String×JsonValue)

/-- A condition of mode `full` whose path names a field. -/
structure ConditionOperation where
  path : String
  value : JsonValue
  invert : Bool := false
  passMissingKey : Bool := false

structure PruneObjectsOptions where
  conditions : List ConditionOperation
  logic : String := "AND"
  recursive : Bool := true

inductive GjsonType where
  | null | «false» | number | string | «true» | json
  deriving DecidableEq

structure ConditionError where
  path : String
  got : GjsonType
  want : GjsonType

namespace JsonValue

def type : JsonValue → GjsonType
  | null => .null
  | bool false => .false
  | bool true => .true
  | num _ => .number
  | str _ => .string
  | arr _ | obj _ => .json

def isBool : JsonValue → Bool
  | bool _ => true
  | _ => false

/-- Equality of two values of one type. The texts `0` and `-0` are of one number. -/
def same (raw : JsonValue → String) : JsonValue → JsonValue → Bool
  | num a, num b => a=b || [a,b]=["0","-0"] || [a,b]=["-0","0"]
  | str a, str b => a=b
  | a, b => raw a=raw b

end JsonValue

section Conditions
variable (raw : JsonValue → String) (context : Fields)

def compareEqual (path : String) (value target : JsonValue) : Except ConditionError Bool :=
  if value.type=.null ∨ target.type=.null then .ok (value.type=.null && target.type=.null)
  else if value.isBool && target.isBool then .ok (value.type=target.type)
  else if value.type≠target.type then .error ⟨path,value.type,target.type⟩
  else .ok (value.same raw target)

def checkSingleCondition (data : Fields) (c : ConditionOperation) : Except ConditionError Bool :=
  match (JsonValue.field c.path data).or (JsonValue.field c.path context) with
  | none => .ok c.passMissingKey
  | some value => (compareEqual raw c.path value c.value).map fun result => if c.invert then !result else result

def checkConditions (data : Fields) (conditions : List ConditionOperation) (logic : String) : Except ConditionError Bool :=
  if conditions.isEmpty then .ok true
  else (conditions.mapM (checkSingleCondition raw context data)).map fun results =>
    if logic.toUpper="AND" then results.all id else results.any id

def shouldPruneObject (options : PruneObjectsOptions) (node : Fields) : Except ConditionError Bool :=
  checkConditions raw context node options.conditions options.logic

end Conditions

section Prune
variable (shouldPrune : Fields → Except ConditionError Bool) (recursive : Bool)

mutual

def pruneObjectsNode (isRoot : Bool) : JsonValue → Except ConditionError (Option JsonValue)
  | .arr items => (pruneItems items).map fun items => some (.arr items)
  | .obj fields => do
    let shouldDrop ← shouldPrune fields
    if shouldDrop && !isRoot then .ok none
    else if !recursive then .ok (some (.obj fields))
    else (pruneFields fields).map fun fields => some (.obj fields)
  | node => .ok (some node)

def pruneItems : List JsonValue → Except ConditionError (List JsonValue)
  | [] => .ok []
  | item::items => do
    let next ← pruneObjectsNode false item
    (pruneItems items).map (next.toList++·)

def pruneFields : List (String×JsonValue) → Except ConditionError Fields
  | [] => .ok []
  | (key,child)::fields => do
    let next ← pruneObjectsNode false child
    (pruneFields fields).map ((next.map (key,·)).toList++·)

end

end Prune

def pruneObjects (raw : JsonValue → String) (context : Fields) (options : PruneObjectsOptions) (root : JsonValue) :
    Except ConditionError (Option JsonValue) :=
  pruneObjectsNode (shouldPruneObject raw context options) options.recursive true root

section Removal
variable (own : Fields → Bool) (P : Fields → Prop)

mutual

/-- What is left of a value where every object that meets the test goes. -/
def remains : JsonValue → Option JsonValue
  | .obj fields => if own fields then none else some (.obj (remainingFields fields))
  | .arr items => some (.arr (remainingItems items))
  | value => some value

def remainingItems : List JsonValue → List JsonValue
  | [] => []
  | item::items => (remains item).toList++remainingItems items

def remainingFields : List (String×JsonValue) → Fields
  | [] => []
  | (key,child)::fields => ((remains child).map (key,·)).toList++remainingFields fields

end

def without : JsonValue → JsonValue
  | .obj fields => .obj (remainingFields own fields)
  | .arr items => .arr (remainingItems own items)
  | value => value

mutual

/-- Every object outside the removed ones has a property. -/
def Everywhere : JsonValue → Prop
  | .obj fields => P fields ∧ (own fields=false → EveryField fields)
  | .arr items => EveryItem items
  | _ => True

def EveryItem : List JsonValue → Prop
  | [] => True
  | item::items => Everywhere item ∧ EveryItem items

def EveryField : List (String×JsonValue) → Prop
  | [] => True
  | (_,child)::fields => Everywhere child ∧ EveryField fields

end

end Removal

section Counting
variable {judge : Fields → Except ConditionError Bool} {own : Fields → Bool} {P : Fields → Prop}

/-- A verdict may drop an object that does not meet the test, but keeps none that does. -/
structure Follows (judge : Fields → Except ConditionError Bool) (own : Fields → Bool) (P : Fields → Prop) : Prop where
  agrees : ∀ fields, P fields ↔ judge fields=.ok (own fields)
  drops : ∀ fields, judge fields=.ok false → own fields=false

/-- A list grows by what is left of its head. -/
theorem size_append {α : Type} [SizeOf α] (hpos : ∀ a : α, 0<sizeOf a) {o o' : Option α} {l l' : List α} {A B : Prop}
    (ho : sizeOf o ≤ sizeOf o' ∧ (sizeOf o=sizeOf o' → A)) (hl : sizeOf l ≤ sizeOf l' ∧ (sizeOf l=sizeOf l' → B)) :
    sizeOf (o.toList++l) ≤ sizeOf (o'.toList++l') ∧ (sizeOf (o.toList++l)=sizeOf (o'.toList++l') → A ∧ B) := by
  obtain ⟨hole,hoeq⟩ := ho
  obtain ⟨hlle,hleq⟩ := hl
  cases o with
  | none =>
    cases o' with
    | none => exact ⟨hlle,fun heq => ⟨hoeq rfl,hleq heq⟩⟩
    | some b =>
      have hb := hpos b
      simp only [Option.toList,nil_append,cons_append,List.cons.sizeOf_spec]
      exact ⟨by omega,fun heq => by omega⟩
  | some a =>
    have ha := hpos a
    cases o' with
    | none =>
      simp only [Option.some.sizeOf_spec,Option.none.sizeOf_spec] at hole
      omega
    | some b =>
      simp only [Option.some.sizeOf_spec] at hole hoeq
      simp only [Option.toList,nil_append,cons_append,List.cons.sizeOf_spec]
      exact ⟨by omega,fun heq => ⟨hoeq (by omega),hleq (by omega)⟩⟩

theorem size_pos (value : JsonValue) : 0<sizeOf value := by
  cases value <;> simp +arith

theorem size_entry (key : String) {o o' : Option JsonValue} {A : Prop} (ho : sizeOf o ≤ sizeOf o' ∧ (sizeOf o=sizeOf o' → A)) :
    sizeOf (o.map (key,·)) ≤ sizeOf (o'.map (key,·)) ∧ (sizeOf (o.map (key,·))=sizeOf (o'.map (key,·)) → A) := by
  cases o with
  | none => cases o' <;> simp_all
  | some a =>
    have ha := size_pos a
    cases o' with
    | none =>
      simp at ho
      omega
    | some b => simpa using ho

mutual

theorem node_follows (h : Follows judge own P) : ∀ (node : JsonValue), Everywhere own P node →
    pruneObjectsNode judge true false node=.ok (remains own node)
  | .arr items, hall => by
    rw [pruneObjectsNode,items_follow h items hall,remains]
    rfl
  | .obj fields, hall => by
    rw [Everywhere] at hall
    rw [pruneObjectsNode,(h.agrees fields).mp hall.1,remains]
    cases hown : own fields with
    | true => rfl
    | false =>
      change (pruneFields judge true fields).map _=_
      rw [fields_follow h fields (hall.2 hown)]
      rfl
  | .null, _ | .bool _, _ | .num _, _ | .str _, _ => rfl

theorem items_follow (h : Follows judge own P) : ∀ (items : List JsonValue), EveryItem own P items →
    pruneItems judge true items=.ok (remainingItems own items)
  | [], _ => rfl
  | item::items, hall => by
    rw [pruneItems,node_follows h item hall.1,items_follow h items hall.2]
    rfl

theorem fields_follow (h : Follows judge own P) : ∀ (fields : Fields), EveryField own P fields →
    pruneFields judge true fields=.ok (remainingFields own fields)
  | [], _ => rfl
  | (key,child)::fields, hall => by
    rw [pruneFields,node_follows h child hall.1,fields_follow h fields hall.2]
    rfl

end

mutual

/-- No more is left than should be, and as much only where every verdict agrees. -/
theorem node_size (h : Follows judge own P) : ∀ (node : JsonValue) (left : Option JsonValue), pruneObjectsNode judge true false node=.ok left →
    sizeOf left ≤ sizeOf (remains own node) ∧ (sizeOf left=sizeOf (remains own node) → Everywhere own P node)
  | .arr items, left, hleft => by
    rw [pruneObjectsNode] at hleft
    obtain ⟨kept,hkept,rfl⟩ := map_ok hleft
    have hsize := items_size h items kept hkept
    rw [remains,Everywhere]
    simp only [Option.some.sizeOf_spec,JsonValue.arr.sizeOf_spec]
    exact ⟨by omega,fun heq => hsize.2 (by omega)⟩
  | .obj fields, left, hleft => by
    rw [pruneObjectsNode] at hleft
    obtain ⟨dropped,hjudge,hleft⟩ := bind_ok hleft
    cases dropped with
    | true =>
      cases hleft
      cases hown : own fields with
      | true => exact ⟨by simp [remains,hown],fun _ => ⟨(h.agrees fields).mpr (by rw [hjudge,hown]),by simp [hown]⟩⟩
      | false =>
        refine ⟨by simp [remains,hown],fun heq => ?_⟩
        simp [remains,hown] at heq
    | false =>
      have hown := h.drops fields hjudge
      obtain ⟨kept,hkept,rfl⟩ := map_ok (x := pruneFields judge true fields) hleft
      have hsize := fields_size h fields kept hkept
      rw [remains,if_neg (by simp [hown]),Everywhere]
      simp only [Option.some.sizeOf_spec,JsonValue.obj.sizeOf_spec]
      exact ⟨by omega,fun heq => ⟨(h.agrees fields).mpr (by rw [hjudge,hown]),fun _ => hsize.2 (by omega)⟩⟩
  | .null, _, hleft | .bool _, _, hleft | .num _, _, hleft | .str _, _, hleft => by
    cases hleft
    exact ⟨le_rfl,fun _ => trivial⟩

theorem items_size (h : Follows judge own P) : ∀ (items left : List JsonValue), pruneItems judge true items=.ok left →
    sizeOf left ≤ sizeOf (remainingItems own items) ∧ (sizeOf left=sizeOf (remainingItems own items) → EveryItem own P items)
  | [], left, hleft => by
    cases hleft
    exact ⟨le_rfl,fun _ => trivial⟩
  | item::items, left, hleft => by
    rw [pruneItems] at hleft
    obtain ⟨next,hnext,hleft⟩ := bind_ok hleft
    obtain ⟨kept,hkept,rfl⟩ := map_ok hleft
    rw [remainingItems,EveryItem]
    exact size_append size_pos (node_size h item next hnext) (items_size h items kept hkept)

theorem fields_size (h : Follows judge own P) : ∀ (fields left : Fields), pruneFields judge true fields=.ok left →
    sizeOf left ≤ sizeOf (remainingFields own fields) ∧ (sizeOf left=sizeOf (remainingFields own fields) → EveryField own P fields)
  | [], left, hleft => by
    cases hleft
    exact ⟨le_rfl,fun _ => trivial⟩
  | (key,child)::fields, left, hleft => by
    rw [pruneFields] at hleft
    obtain ⟨next,hnext,hleft⟩ := bind_ok hleft
    obtain ⟨kept,hkept,rfl⟩ := map_ok hleft
    rw [remainingFields,EveryField]
    refine size_append (fun ⟨_,_⟩ => ?_) (size_entry key (node_size h child next hnext)) (fields_size h fields kept hkept)
    rw [Prod.mk.sizeOf_spec]
    omega

end

/-- The root is judged, but stays. -/
theorem root_follows (h : Follows judge own P) (root : JsonValue) :
    pruneObjectsNode judge true true root=.ok (some (without own root)) ↔ match root with
      | .obj fields => (∃ dropped, judge fields=.ok dropped) ∧ EveryField own P fields
      | .arr items => EveryItem own P items
      | _ => True := by
  cases root with
  | arr items =>
    constructor
    · intro hroot
      rw [pruneObjectsNode] at hroot
      obtain ⟨kept,hkept,heq⟩ := map_ok hroot
      cases heq
      exact (items_size h items _ hkept).2 rfl
    · intro hall
      rw [pruneObjectsNode,items_follow h items hall]
      rfl
  | obj fields =>
    rw [pruneObjectsNode]
    cases hjudge : judge fields with
    | error e => exact ⟨nofun,fun ⟨⟨_,hok⟩,_⟩ => by
        rw [hjudge] at hok
        cases hok⟩
    | ok dropped =>
      have hstays : (dropped && !true)=false := Bool.and_false dropped
      change (if (dropped && !true)=true then _ else (pruneFields judge true fields).map _)=_ ↔ _
      rw [hstays,if_neg Bool.false_ne_true]
      constructor
      · intro hroot
        obtain ⟨kept,hkept,heq⟩ := map_ok hroot
        cases heq
        exact ⟨⟨dropped,hjudge⟩,(fields_size h fields _ hkept).2 rfl⟩
      · rintro ⟨-,hall⟩
        rw [fields_follow h fields hall]
        rfl
  | null | bool _ | num _ | str _ => exact ⟨fun _ => trivial,fun _ => rfl⟩

end Counting

section Matching
variable (raw : JsonValue → String) (context : Fields) (conditions : List (String×JsonValue)) (logic : String)

def fullEquality (c : String×JsonValue) : ConditionOperation := { path := c.1, value := c.2 }

def JsonValue.equals (value target : JsonValue) : Bool := value.type=target.type && value.same raw target

/-- Values that are compared without an error. -/
def JsonValue.Comparable (value target : JsonValue) : Prop :=
  value.type=.null ∨ target.type=.null ∨ (value.isBool=true ∧ target.isBool=true) ∨ value.type=target.type

def meets (found : String → Option JsonValue) : Bool :=
  let met := fun c : String×JsonValue => (found c.1).any (·.equals raw c.2)
  if logic.toUpper="AND" then conditions.all met else conditions.any met

def meetsOwn (fields : Fields) : Bool := meets raw conditions logic fun path => JsonValue.field path fields

def borrowed (fields : Fields) (path : String) : Option JsonValue :=
  (JsonValue.field path fields).or (JsonValue.field path context)

def AllComparable (fields : Fields) : Prop :=
  ∀ c∈conditions, ∀ value, borrowed context fields c.1=some value → value.Comparable c.2

def Unborrowed (fields : Fields) : Prop :=
  AllComparable context conditions fields ∧ meets raw conditions logic (borrowed context fields)=meetsOwn raw conditions logic fields

variable {raw context conditions logic} {fields : Fields} {path : String}

theorem compareEqual_ok {value target : JsonValue} {b : Bool} :
    compareEqual raw path value target=.ok b ↔ value.Comparable target ∧ value.equals raw target=b := by
  rcases value with _ | (_ | _) | _ | _ | _ | _ <;> rcases target with _ | (_ | _) | _ | _ | _ | _ <;>
    simp [compareEqual,JsonValue.Comparable,JsonValue.equals,JsonValue.type,JsonValue.isBool,JsonValue.same]

theorem single_ok {c : String×JsonValue} {b : Bool} :
    checkSingleCondition raw context fields (fullEquality c)=.ok b ↔
      (∀ value, borrowed context fields c.1=some value → value.Comparable c.2) ∧
        (borrowed context fields c.1).any (·.equals raw c.2)=b := by
  change (match borrowed context fields c.1 with
    | none => Except.ok false
    | some value => (compareEqual raw c.1 value c.2).map fun result => if false=true then !result else result)=_ ↔ _
  cases borrowed context fields c.1 with
  | none => simp
  | some value =>
    have hsame : (compareEqual raw c.1 value c.2).map (fun result => if false=true then !result else result) =
        compareEqual raw c.1 value c.2 := by
      cases compareEqual raw c.1 value c.2 <;> rfl
    simp only [hsame,compareEqual_ok,Option.some.injEq,forall_eq',Option.any_some]

theorem singles_ok {results : List Bool} :
    (conditions.map fullEquality).mapM (checkSingleCondition raw context fields)=.ok results ↔
      AllComparable context conditions fields ∧
        conditions.map (fun c => (borrowed context fields c.1).any (·.equals raw c.2))=results := by
  induction conditions generalizing results with
  | nil => simp [AllComparable,pure,Except.pure]
  | cons c conditions ih =>
    rw [map_cons,mapM_cons,AllComparable,forall_mem_cons,map_cons]
    cases hfirst : checkSingleCondition raw context fields (fullEquality c) with
    | error e =>
      refine ⟨nofun,fun hall => ?_⟩
      rw [single_ok.mpr ⟨hall.1.1,rfl⟩] at hfirst
      cases hfirst
    | ok first =>
      obtain ⟨hcomparable,rfl⟩ := single_ok.mp hfirst
      rw [and_iff_right hcomparable]
      constructor
      · intro hresults
        obtain ⟨rest,hrest,hresults⟩ := bind_ok (x := (conditions.map fullEquality).mapM _) hresults
        cases hresults
        exact ⟨(ih.mp hrest).1,by rw [(ih.mp hrest).2]⟩
      · rintro ⟨hall,rfl⟩
        rw [ih.mpr ⟨hall,rfl⟩]
        rfl

theorem verdict_ok (hne : conditions≠[]) {fields : Fields} {b : Bool} :
    shouldPruneObject raw context { conditions := conditions.map fullEquality, logic := logic } fields=.ok b ↔
      AllComparable context conditions fields ∧ meets raw conditions logic (borrowed context fields)=b := by
  have hsome : (conditions.map fullEquality).isEmpty=false := by simpa using hne
  rw [shouldPruneObject,checkConditions,hsome,if_neg Bool.false_ne_true]
  have hmeets : meets raw conditions logic (borrowed context fields) =
      let results := conditions.map fun c => (borrowed context fields c.1).any (·.equals raw c.2)
      if logic.toUpper="AND" then results.all id else results.any id := by
    simp [meets,all_map,any_map]
  constructor
  · intro hverdict
    obtain ⟨results,hresults,rfl⟩ := map_ok hverdict
    obtain ⟨hall,rfl⟩ := singles_ok.mp hresults
    exact ⟨hall,hmeets⟩
  · rintro ⟨hall,rfl⟩
    rw [singles_ok.mpr ⟨hall,rfl⟩,hmeets]
    rfl

theorem borrowed_of_field {value : JsonValue} (h : JsonValue.field path fields=some value) :
    borrowed context fields path=some value := by
  rw [borrowed,h]
  rfl

theorem verdict_follows (hne : conditions≠[]) :
    Follows (shouldPruneObject raw context { conditions := conditions.map fullEquality, logic := logic })
      (meetsOwn raw conditions logic) (Unborrowed raw context conditions logic) where
  agrees fields := (verdict_ok hne).symm
  drops fields hjudge := by
    have hnot := ((verdict_ok hne).mp hjudge).2
    have hmet : ∀ c : String×JsonValue, (JsonValue.field c.1 fields).any (·.equals raw c.2)=true →
        (borrowed context fields c.1).any (·.equals raw c.2)=true := by
      intro c hc
      obtain ⟨value,hvalue,hequal⟩ := (Option.any_eq_true ..).mp hc
      rw [borrowed_of_field hvalue]
      exact hequal
    by_contra hown
    rw [Bool.not_eq_false] at hown
    refine absurd hnot (Bool.not_eq_false _ ▸ ?_)
    rw [meetsOwn,meets] at hown
    rw [meets]
    split at hown
    next hand =>
      rw [if_pos hand,all_eq_true]
      exact fun c hc => hmet c (all_eq_true.mp hown c hc)
    next hor =>
      rw [if_neg hor,any_eq_true]
      obtain ⟨c,hc,hcmet⟩ := any_eq_true.mp hown
      exact ⟨c,hc,hmet c hcmet⟩

end Matching

def messages (items : List JsonValue) : JsonValue := .obj [("messages",.arr items)]

def pruneEqual (path value : String) (root : JsonValue) : Except ConditionError (Option JsonValue) :=
  pruneObjects (fun _ => "") [("model",.str "gpt-4o")] { conditions := [(path,.str value)].map fullEquality } root

end NewApi.Relay
