import Mathlib.Algebra.Group.Int.Defs
import Mathlib.Algebra.Group.Prod
import Mathlib.Data.Char
import Mathlib.Data.List.Lex
import NewApi.Lib.Runs
import NewApi.Lib.Trees

/-! The nodes of a plugin's JSON result (`pkg/jsplugin/json_state.go`), built within a budget of bytes and nodes. A Go map is the list
of its entries in the order in which it is ranged over. -/
namespace NewApi.Plugins
open List Trees Runs
variable {F : Type}

def maxJSONToolBytes : Int := 1048576
def maxJSONToolDepth : Nat := 32
def maxJSONToolNodes : Int := 32768
def maxJSONChanges : Nat := 256

/-- A Go string as the characters and the stray bytes that ranging over it yields. -/
abbrev Text := List (UInt8 ⊕ Char)

def validString (text : Text) : Bool := text.all Sum.isRight

def runes (text : Text) : List Char := text.map (Sum.elim (fun _ => Char.ofNat 0xFFFD) id)

def byteLength (text : Text) : Int := (text.map (Sum.elim (fun _ => 1) fun c => (c.utf8Size : Int))).sum

inductive Scalar (F : Type) where
  | null
  | bool (value : Bool)
  | num (value : F)
  | str (text : List Char)

abbrev Json (F : Type) := Tree (List Char) (Scalar F) Unit

/-- `encoding/json` and the numbers of type `F` (float64): the encoder writes a string character by character. -/
structure Codec (F : Type) where
  char : Char → List UInt8
  number : F → List UInt8
  finite : F → Bool
  ofInt : Int → F
  /-- The natural number that a number is. -/
  index : F → Option Nat

def ascii (text : String) : List UInt8 := text.toList.map fun c => c.toNat.toUInt8

namespace Codec
variable (codec : Codec F)

def quote (text : List Char) : List UInt8 := ascii "\"" ++ text.flatMap codec.char++ascii "\""

def encodeScalar : Scalar F → List UInt8
  | .null => ascii "null"
  | .bool value => ascii (if value then "true" else "false")
  | .num value => codec.number value
  | .str text => codec.quote text

/-- An object of keys and encoded values, written in the order of the keys. -/
def writeObject (fields : List (List Char×List UInt8)) : List UInt8 :=
  let sorted := fields.mergeSort fun a b => a.1≤b.1
  ascii "\x7b" ++ (ascii ",").intercalate (sorted.map fun field => codec.quote field.1++ascii ":" ++ field.2)++ascii "\x7d"

def writeArray (items : List (List UInt8)) : List UInt8 := ascii "[" ++ (ascii ",").intercalate items++ascii "]"

def encode : Json F → List UInt8 := Tree.fold codec.encodeScalar codec.writeObject writeArray

def finiteScalar : Scalar F → Bool
  | .num value => codec.finite value
  | _ => true

def finiteTree : Json F → Bool :=
  Tree.fold codec.finiteScalar (fun fields => fields.all Prod.snd) fun items => items.all id

def marshal (value : Json F) : Except String (List UInt8) :=
  if codec.finiteTree value then .ok (codec.encode value) else .error "json: unsupported value"

end Codec

def Json.count : Json F → Int :=
  Tree.fold (fun _ => 1) (fun fields => 1+(fields.map Prod.snd).sum) fun items => 1+items.sum

/-- The values that are neither objects nor arrays; `undefined`, `foreign` and `absent` come from a JS runtime, the last for a
property that is not there. -/
inductive Plain (F : Type) where
  | null
  | bool (value : Bool)
  | int (value : Int)
  | float (value : F)
  | text (value : Text)
  | nilMap
  | nilSlice
  | absent
  | undefined
  | foreign
  | unsupported

/-- A Go value, or one of a JS runtime where `js` is set. -/
inductive Value (F : Type) where
  | plain (js : Bool) (value : Plain F)
  | object (js : Bool) (fields : List (Text×Value F))
  | array (js : Bool) (items : List (Value F))

def Value.isAbsent : Value F → Bool
  | .plain _ .absent => true
  | _ => false

/-- The checks of a context that are left before it is cancelled, if it is ever cancelled. -/
abbrev Context := Option Nat

def Context.err : Context → Except String Context
  | none => .ok none
  | some 0 => .error "context canceled"
  | some (n+1) => .ok (some n)

def require (condition : Prop) [Decidable condition] (message : String) : Except String Unit :=
  if condition then .ok () else .error message

abbrev Size := Int×Int

structure Budget where
  ctx : Context
  bytes : Int
  nodes : Int

def Budget.size (budget : Budget) : Size := (budget.bytes,budget.nodes)

def Budget.spend (budget : Budget) (bytes nodes : Int) : Except String Budget := do
  let ctx ← budget.ctx.err
  require (bytes≤budget.bytes ∧ nodes≤budget.nodes) "JSON state exceeds size or node limit"
  pure ⟨ctx,budget.bytes-bytes,budget.nodes-nodes⟩

/-- `jsonStateNode` without children: a scalar, and the builder of a string that was appended to. -/
structure Leaf (F : Type) where
  scalar : Scalar F
  text : Option (List Char)

/-- `jsonStateNode`; a node is marked with its bytes and nodes. -/
abbrev Node (F : Type) := Tree (List Char) (Leaf F) Size

def Leaf.value (leaf : Leaf F) : Scalar F :=
  match leaf.text with
  | some text => .str text
  | none => leaf.scalar

def Node.value (node : Node F) : Json F := Tree.bare Leaf.value node

def Node.bytes (node : Node F) : Int := node.mark.1
def Node.nodes (node : Node F) : Int := node.mark.2

section Build
variable (codec : Codec F)

def checkJS : Plain F → Except String Unit
  | .undefined => .error "undefined is not a JSON value"
  | .foreign => .error "json.clone accepts only plain objects, arrays and JSON scalars"
  | _ => .ok ()

def checkFinite (value : F) : Except String (Scalar F) := do
  require (codec.finite value) "JSON numbers must be finite"
  pure (.num value)

/-- The scalars among the values, with `bytes` left in the budget. -/
def toScalar (bytes : Int) : Plain F → Except String (Scalar F)
  | .null | .nilMap | .nilSlice | .absent => .ok .null
  | .bool value => .ok (.bool value)
  | .int value => checkFinite codec (codec.ofInt value)
  | .float value => checkFinite codec value
  | .text value => do
    require (byteLength value≤bytes) "JSON string exceeds size limit"
    pure (.str (runes value))
  | _ => .error "value must contain only JSON objects, arrays and scalars"

def newScalar (budget : Budget) (value : Plain F) : Except String (Node F×Budget) := do
  checkJS value
  let inner ← budget.spend 0 1
  let scalar ← toScalar codec inner.bytes value
  let encoded ← codec.marshal (.leaf scalar ())
  let rest ← inner.spend encoded.length 0
  pure (.leaf ⟨scalar,none⟩ (budget.size-rest.size),rest)

def checkSize (size : Nat) (budget : Budget) (what : String) : Except String Unit :=
  require (size≤budget.nodes) ("JSON " ++ what++" exceeds node limit")

def checkItems (items : List (Value F)) (budget : Budget) : Except String Unit := do
  checkSize items.length budget "array"
  require (¬ items.any Value.isAbsent) "sparse arrays are not JSON values"

def whenJS (js : Bool) (check : Except String Unit) : Except String Unit := if js then check else .ok ()

/-- The start of an object or array of `size` children, whose brackets and commas cost `bytes`. -/
def enter (size : Nat) (what : String) (bytes : Int) (budget : Budget) : Except String Budget := do
  let inner ← budget.spend 0 1
  checkSize size inner what
  inner.spend bytes 0

def checkDepth (depth : Nat) : Except String Unit := require (depth ≤ maxJSONToolDepth) "JSON state exceeds depth limit"

def checkKey (key : Text) (budget : Budget) : Except String Unit :=
  require (validString key ∧ byteLength key≤budget.bytes) "invalid or oversized JSON object key"

mutual

def newJSONStateNode (depth : Nat) (budget : Budget) : Value F → Except String (Node F×Budget)
  | .plain _ value => do
    checkDepth depth
    newScalar codec budget value
  | .object js fields => do
    checkDepth depth
    whenJS js (checkSize fields.length budget "object")
    let inner ← enter fields.length "object" 2 budget
    let (children,rest) ← newFields (depth+1) true inner fields
    pure (.object children (budget.size-rest.size),rest)
  | .array js items => do
    checkDepth depth
    whenJS js (checkItems items budget)
    let inner ← enter items.length "array" (2+max 0 (items.length-1 : Int)) budget
    let (children,rest) ← newItems (depth+1) inner items
    pure (.array children (budget.size-rest.size),rest)

def newFields (depth : Nat) (first : Bool) (budget : Budget) :
    List (Text×Value F) → Except String (List (List Char×Node F)×Budget)
  | [] => .ok ([],budget)
  | (key,child)::others => do
    checkKey key budget
    let encoded := codec.quote (runes key)
    let budget ← budget.spend (encoded.length+1 + if first then 0 else 1) 0
    let (node,budget) ← newJSONStateNode depth budget child
    let (nodes,rest) ← newFields depth false budget others
    pure ((runes key,node)::nodes,rest)

def newItems (depth : Nat) (budget : Budget) : List (Value F) → Except String (List (Node F)×Budget)
  | [] => .ok ([],budget)
  | child::others => do
    let (node,budget) ← newJSONStateNode depth budget child
    let (nodes,rest) ← newItems depth budget others
    pure (node::nodes,rest)

end

end Build

section Spec

def Plain.json (codec : Codec F) : Plain F → Option (Scalar F)
  | .null | .nilMap | .nilSlice | .absent => some .null
  | .bool value => some (.bool value)
  | .int value => some (.num (codec.ofInt value))
  | .float value => if codec.finite value then some (.num value) else none
  | .text value => some (.str (runes value))
  | _ => none

mutual

def Value.json (codec : Codec F) : Value F → Option (Json F)
  | .plain _ value => (value.json codec).map (Tree.leaf · ())
  | .object _ fields => (jsonFields codec fields).map (Tree.object · ())
  | .array js items => if js ∧ items.any Value.isAbsent then none else (jsonItems codec items).map (Tree.array · ())

def jsonFields (codec : Codec F) : List (Text×Value F) → Option (List (List Char×Json F))
  | [] => some []
  | (key,child)::others => do
    let value ← child.json codec
    let values ← jsonFields codec others
    if validString key then some ((runes key,value)::values) else none

def jsonItems (codec : Codec F) : List (Value F) → Option (List (Json F))
  | [] => some []
  | child::others => do
    let value ← child.json codec
    let values ← jsonItems codec others
    pure (value::values)

end

def costs (codec : Codec F) : Costs (List Char) (Leaf F) Size where
  leaf leaf := ((codec.encodeScalar leaf.value).length,1)
  key key := ((codec.quote key).length+1,0)
  bracket := (2,1)
  comma := (1,0)

variable {codec : Codec F} {depth : Nat} (fields : List (List Char×Json F)) (mark : Unit) {js : Bool} {budget inner rest : Budget}
variable (items : List (Json F)) {ι : Type}

theorem length_intercalate (sep : List UInt8) (parts : List (List UInt8)) :
    (sep.intercalate parts).length=(parts.map List.length).sum+(parts.length-1)*sep.length := by
  induction parts with
  | nil => simp
  | cons part rest ih =>
    cases rest with
    | nil => simp
    | cons next rest =>
      rw [intercalate_cons_cons,length_append,length_append,ih]
      simp only [map_cons,sum_cons,length_cons,Nat.add_sub_cancel,Nat.succ_mul]
      omega

theorem Codec.length_writeObject (fields : List (List Char×List UInt8)) : (codec.writeObject fields).length =
      2+(fields.map fun field => (codec.quote field.1).length+1+field.2.length).sum+(fields.length-1) := by
  have hperm := (mergeSort_perm fields fun a b => decide (a.1≤b.1)).map
    fun field => (codec.quote field.1).length+1+field.2.length
  rw [Codec.writeObject,length_append,length_append,length_intercalate,map_map,length_map, length_mergeSort,← hperm.sum_eq]
  simp only [Function.comp_def,length_append]
  have hone : ∀ s∈[":", ",", "\x7b", "\x7d"], (ascii s).length=1 := by decide
  rw [hone ":" (by decide),hone "," (by decide),hone "\x7b" (by decide),hone "\x7d" (by decide)]
  omega

theorem Codec.length_writeArray (items : List (List UInt8)) :
    (Codec.writeArray items).length=2+(items.map List.length).sum+(items.length-1) := by
  have hone : ∀ s∈["[", ",", "]"], (ascii s).length=1 := by decide
  rw [Codec.writeArray,length_append,length_append,length_intercalate,hone "[" (by decide),hone "," (by decide),
    hone "]" (by decide)]
  omega

theorem Json.count_object :
    Json.count (.object fields mark)=1+(fields.map fun field => Json.count field.2).sum := by
  rw [Json.count,Tree.fold_object,map_map]
  rfl

theorem Json.count_array (mark : Unit) :
    Json.count (.array items mark)=1+(items.map Json.count).sum := Tree.fold_array items mark

theorem sum_pair (f : ι → Size) (l : List ι) :
    (l.map f).sum=((l.map fun i => (f i).1).sum,(l.map fun i => (f i).2).sum) := by
  induction l with
  | nil => rfl
  | cons i l ih => rw [map_cons,sum_cons,ih]; rfl

theorem sum_cast (f : ι → Nat) (l : List ι) : ((l.map f).sum : Int)=(l.map fun i => (f i : Int)).sum := by
  induction l with
  | nil => rfl
  | cons i l ih => rw [map_cons,sum_cons,Nat.cast_add,ih]; rfl

theorem total_costs (node : Node F) :
    (costs codec).total node=(((codec.encode node.value).length : Int),Json.count node.value) := by
  induction node using Tree.all with
  | hleaf => rfl
  | hobject fields mark ih =>
    have hmap : fields.map (fun entry => (costs codec).key entry.1+(costs codec).total entry.2) = fields.map fun entry =>
          (((codec.quote entry.1).length+1+(codec.encode (Node.value entry.2)).length : Int),Json.count (Node.value entry.2)) := by
      refine map_congr_left fun entry hentry => ?_
      rw [ih entry hentry]
      simp [costs]
    have hvalue : Node.value (.object fields mark)=.object (fields.map (Prod.map id Node.value)) () := Tree.bare_object ..
    rw [Costs.total_object,Costs.entries,hmap,sum_pair,length_map,hvalue,Json.count_object,Codec.encode,Tree.fold_object,
      Codec.length_writeObject,map_map,map_map,length_map,length_map]
    refine Prod.ext ?_ ?_
    · simp only [Nat.cast_add,sum_cast]
      simp [costs]
    · simp [costs]
      rfl
  | harray items mark ih =>
    have hmap : items.map (costs codec).total =
        items.map fun item => (((codec.encode (Node.value item)).length : Int),Json.count (Node.value item)) :=
      map_congr_left ih
    have hvalue : Node.value (.array items mark)=.array (items.map Node.value) () := Tree.bare_array ..
    rw [Costs.total_array,Costs.entries,hmap,sum_pair,length_map,hvalue,Json.count_array,Codec.encode,Tree.fold_array,
      Codec.length_writeArray,map_map,map_map,length_map,length_map]
    refine Prod.ext ?_ ?_
    · simp only [Nat.cast_add,sum_cast]
      simp [costs]
    · simp [costs]
      rfl

theorem Codec.finiteTree_object :
    codec.finiteTree (.object fields mark)=fields.all fun field => codec.finiteTree field.2 := by
  rw [Codec.finiteTree,Tree.fold_object,all_map]
  rfl

theorem Codec.finiteTree_array (mark : Unit) :
    codec.finiteTree (.array items mark)=items.all codec.finiteTree := by
  rw [Codec.finiteTree,Tree.fold_array,all_map]
  rfl

theorem require_ok {condition : Prop} [Decidable condition] {message : String} {u : Unit} (h : require condition message=.ok u) :
    condition := by
  by_contra hcondition
  rw [require,if_neg hcondition] at h
  cases h

theorem Budget.spend_ok {budget rest : Budget} {bytes nodes : Int} (h : budget.spend bytes nodes=.ok rest) :
    budget.size=rest.size+(bytes,nodes) ∧ 0≤rest.bytes ∧ 0≤rest.nodes := by
  obtain ⟨ctx,-,h⟩ := bind_ok h
  obtain ⟨_,hroom,h⟩ := bind_ok h
  have hroom := require_ok hroom
  cases h
  refine ⟨Prod.ext ?_ ?_,?_,?_⟩ <;> simp [Budget.size] <;> omega

theorem enter_ok {size : Nat} {what : String} {bytes : Int} {budget inner : Budget} (h : enter size what bytes budget=.ok inner) :
    budget.size=inner.size+(bytes,1) ∧ 0 ≤ inner.bytes ∧ 0 ≤ inner.nodes := by
  obtain ⟨_,hnode,h⟩ := bind_ok h
  obtain ⟨_,-,h⟩ := bind_ok h
  obtain ⟨hnode,-⟩ := Budget.spend_ok hnode
  obtain ⟨hbytes,hleft⟩ := Budget.spend_ok h
  refine ⟨?_,hleft⟩
  rw [hnode,hbytes,add_assoc]
  simp

structure Built (codec : Codec F) (depth : Nat) (budget : Budget) (value : Value F) (node : Node F) (rest : Budget) : Prop where
  exact : node.Exact (costs codec)
  spent : budget.size=rest.size+node.mark
  depth : depth+node.depth ≤ maxJSONToolDepth
  value : value.json codec=some node.value
  finite : codec.finiteTree node.value=true
  left : 0≤rest.bytes ∧ 0≤rest.nodes

theorem checkFinite_ok {value : F} {scalar : Scalar F} (h : checkFinite codec value=.ok scalar) :
    codec.finite value=true ∧ scalar=.num value := by
  obtain ⟨_,hfinite,h⟩ := bind_ok h
  cases h
  exact ⟨require_ok hfinite,rfl⟩

theorem toScalar_ok {bytes : Int} {value : Plain F} {scalar : Scalar F} (h : toScalar codec bytes value=.ok scalar) :
    value.json codec=some scalar ∧ codec.finiteScalar scalar=true := by
  cases value with
  | null | nilMap | nilSlice | absent | bool =>
    cases h
    exact ⟨rfl,rfl⟩
  | int value =>
    obtain ⟨hfinite,rfl⟩ := checkFinite_ok h
    exact ⟨rfl,hfinite⟩
  | float value =>
    obtain ⟨hfinite,rfl⟩ := checkFinite_ok h
    exact ⟨if_pos hfinite,hfinite⟩
  | text value =>
    obtain ⟨_,-,h⟩ := bind_ok h
    cases h
    exact ⟨rfl,rfl⟩
  | undefined | foreign | unsupported => cases h

theorem newScalar_ok (hdepth : depth ≤ maxJSONToolDepth) {budget rest : Budget} {value : Plain F} {node : Node F}
    (h : newScalar codec budget value=.ok (node,rest)) : Built codec depth budget (.plain js value) node rest := by
  obtain ⟨_,-,h⟩ := bind_ok h
  obtain ⟨inner,hnode,h⟩ := bind_ok h
  obtain ⟨scalar,hscalar,h⟩ := bind_ok h
  obtain ⟨encoded,hencoded,h⟩ := bind_ok h
  obtain ⟨last,hbytes,h⟩ := bind_ok h
  cases h
  obtain ⟨hjson,hfinite⟩ := toScalar_ok hscalar
  obtain ⟨hnode,-⟩ := Budget.spend_ok hnode
  obtain ⟨hbytes,hleft⟩ := Budget.spend_ok hbytes
  have hlength : encoded=codec.encodeScalar scalar := by
    rw [Codec.marshal,if_pos (show codec.finiteTree (.leaf scalar ())=true from hfinite)] at hencoded
    cases hencoded
    rfl
  have hcost : budget.size-rest.size=(costs codec).leaf ⟨scalar,none⟩ := by
    rw [hnode,hbytes,hlength,add_assoc,add_sub_cancel_left]
    simp [costs,Leaf.value]
  refine ⟨Tree.exact_leaf.mpr hcost,?_,hdepth,?_,hfinite,hleft⟩
  · exact (add_sub_cancel _ _).symm
  rw [Value.json,hjson]
  rfl

structure FieldsBuilt (codec : Codec F) (depth : Nat) (first : Bool) (budget : Budget) (fields : List (Text×Value F))
    (nodes : List (List Char×Node F)) (rest : Budget) : Prop where
  exact : ∀ entry∈nodes, Tree.Exact (costs codec) entry.2
  spent : budget.size=rest.size+(nodes.map fun entry => (costs codec).key entry.1+(costs codec).total entry.2).sum +
    (nodes.length - if first then 1 else 0) • (costs codec).comma
  depth : ∀ entry∈nodes, depth+entry.2.depth ≤ maxJSONToolDepth
  values : jsonFields codec fields=some (nodes.map (Prod.map id Node.value))
  finite : ∀ entry∈nodes, codec.finiteTree (Node.value entry.2)=true
  left : 0≤budget.bytes ∧ 0≤budget.nodes → 0≤rest.bytes ∧ 0≤rest.nodes

structure ItemsBuilt (codec : Codec F) (depth : Nat) (budget : Budget) (items : List (Value F)) (nodes : List (Node F))
    (rest : Budget) : Prop where
  length : items.length=nodes.length
  exact : ∀ node∈nodes, Tree.Exact (costs codec) node
  spent : budget.size=rest.size+(nodes.map (costs codec).total).sum
  depth : ∀ node∈nodes, depth+node.depth ≤ maxJSONToolDepth
  values : jsonItems codec items=some (nodes.map Node.value)
  finite : ∀ node∈nodes, codec.finiteTree (Node.value node)=true
  left : 0≤budget.bytes ∧ 0≤budget.nodes → 0≤rest.bytes ∧ 0≤rest.nodes

theorem FieldsBuilt.cons {first : Bool} {budget inner next rest : Budget} {key : Text} {child : Value F}
    {others : List (Text×Value F)} {node : Node F} {nodes : List (List Char×Node F)} (hkey : validString key=true)
    (hinner : budget.size=inner.size+((((codec.quote (runes key)).length : Int)+1 + if first then 0 else 1),0))
    (hchild : Built codec depth inner child node next) (hothers : FieldsBuilt codec depth false next others nodes rest) :
    FieldsBuilt codec depth first budget ((key,child)::others) ((runes key,node)::nodes) rest where
  exact := forall_mem_cons.mpr ⟨hchild.exact,hothers.exact⟩
  spent := by
    have hkey : ((((codec.quote (runes key)).length : Int)+1 + if first then 0 else 1),(0 : Int)) =
        (costs codec).key (runes key) + if first then 0 else (costs codec).comma := by
      cases first <;> simp [costs]
    rw [hinner,hkey,hchild.spent,hothers.spent,hchild.exact.mark,map_cons,sum_cons,length_cons]
    cases first
    · simp only [Bool.false_eq_true,if_false,Nat.sub_zero,succ_nsmul]
      abel
    · simp only [Bool.false_eq_true,if_false,if_true,Nat.sub_zero,Nat.add_sub_cancel]
      abel
  depth := forall_mem_cons.mpr ⟨hchild.depth,hothers.depth⟩
  values := by
    rw [jsonFields,hchild.value,hothers.values]
    simp [hkey]
  finite := forall_mem_cons.mpr ⟨hchild.finite,hothers.finite⟩
  left _ := hothers.left hchild.left

theorem ItemsBuilt.cons {budget next rest : Budget} {child : Value F} {others : List (Value F)} {node : Node F}
    {nodes : List (Node F)} (hchild : Built codec depth budget child node next) (hothers : ItemsBuilt codec depth next others nodes rest) :
    ItemsBuilt codec depth budget (child::others) (node::nodes) rest where
  length := congrArg (· + 1) hothers.length
  exact := forall_mem_cons.mpr ⟨hchild.exact,hothers.exact⟩
  spent := by
    rw [hchild.spent,hothers.spent,hchild.exact.mark,map_cons,sum_cons]
    abel
  depth := forall_mem_cons.mpr ⟨hchild.depth,hothers.depth⟩
  values := by
    rw [jsonItems,hchild.value,hothers.values]
    rfl
  finite := forall_mem_cons.mpr ⟨hchild.finite,hothers.finite⟩
  left _ := hothers.left hchild.left

theorem Built.object {fields : List (Text×Value F)}
    {nodes : List (List Char×Node F)} (hinner : budget.size=inner.size+(2,1)) (hleft : 0 ≤ inner.bytes ∧ 0 ≤ inner.nodes)
    (hfields : FieldsBuilt codec (depth+1) true inner fields nodes rest) (hdepth : depth ≤ maxJSONToolDepth) :
    Built codec depth budget (.object js fields) (.object nodes (budget.size-rest.size)) rest := by
  have hsize : budget.size-rest.size=(costs codec).total (Tree.object nodes (budget.size-rest.size)) := by
    have hbracket : (costs codec).bracket=((2,1) : Size) := rfl
    rw [Costs.total_object,Costs.entries,length_map,hbracket,hinner,hfields.spent]
    simp only [if_true]
    abel
  refine ⟨Tree.exact_object.mpr ⟨hsize,hfields.exact⟩,(add_sub_cancel _ _).symm,?_,?_,?_,hfields.left hleft⟩
  · have hbelow : Tree.depth (Tree.object nodes (budget.size-rest.size)) ≤ maxJSONToolDepth-depth :=
      Tree.depth_object_le.mpr fun entry hentry => by
        have := hfields.depth entry hentry
        omega
    omega
  · rw [Value.json,hfields.values,Node.value,Tree.bare_object]
    rfl
  · rw [Node.value,Tree.bare_object,Codec.finiteTree_object,all_map,all_eq_true]
    exact hfields.finite

theorem Built.array {items : List (Value F)} {nodes : List (Node F)}
    (hinner : budget.size=inner.size+(2+max 0 ((items.length : Int)-1),1)) (hleft : 0 ≤ inner.bytes ∧ 0 ≤ inner.nodes)
    (hsparse : js=true → items.any Value.isAbsent=false)
    (hitems : ItemsBuilt codec (depth+1) inner items nodes rest) (hdepth : depth ≤ maxJSONToolDepth) :
    Built codec depth budget (.array js items) (.array nodes (budget.size-rest.size)) rest := by
  have hsize : budget.size-rest.size=(costs codec).total (Tree.array nodes (budget.size-rest.size)) := by
    have hbracket : ((2+max 0 ((items.length : Int)-1),1) : Size) =
        (costs codec).bracket+(nodes.length-1) • (costs codec).comma := by
      refine Prod.ext ?_ ?_ <;> simp [costs,hitems.length]
      omega
    rw [Costs.total_array,Costs.entries,length_map,hinner,hbracket,hitems.spent]
    abel
  refine ⟨Tree.exact_array.mpr ⟨hsize,hitems.exact⟩,(add_sub_cancel _ _).symm,?_,?_,?_,hitems.left hleft⟩
  · have hbelow : Tree.depth (Tree.array nodes (budget.size-rest.size)) ≤ maxJSONToolDepth-depth :=
      Tree.depth_array_le.mpr fun node hnode => by
        have := hitems.depth node hnode
        omega
    omega
  · rw [Value.json,if_neg (by simpa using hsparse),hitems.values,Node.value,Tree.bare_array]
    rfl
  · rw [Node.value,Tree.bare_array,Codec.finiteTree_array,all_map,all_eq_true]
    exact hitems.finite

mutual

theorem newJSONStateNode_ok {depth : Nat} {budget rest : Budget} {node : Node F} :
    ∀ {value : Value F}, newJSONStateNode codec depth budget value=.ok (node,rest) → Built codec depth budget value node rest
  | .plain _ value, h => by
    rw [newJSONStateNode] at h
    obtain ⟨_,hdepth,h⟩ := bind_ok h
    exact newScalar_ok (require_ok hdepth) h
  | .object js fields, h => by
    rw [newJSONStateNode] at h
    obtain ⟨_,hdepth,h⟩ := bind_ok h
    obtain ⟨_,-,h⟩ := bind_ok h
    obtain ⟨inner,hinner,h⟩ := bind_ok h
    obtain ⟨⟨nodes,last⟩,hfields,h⟩ := bind_ok h
    cases h
    obtain ⟨hinner,hleft⟩ := enter_ok hinner
    exact Built.object hinner hleft (newFields_ok hfields) (require_ok hdepth)
  | .array js items, h => by
    rw [newJSONStateNode] at h
    obtain ⟨_,hdepth,h⟩ := bind_ok h
    obtain ⟨_,hjs,h⟩ := bind_ok h
    obtain ⟨inner,hinner,h⟩ := bind_ok h
    obtain ⟨⟨nodes,last⟩,hitems,h⟩ := bind_ok h
    cases h
    obtain ⟨hinner,hleft⟩ := enter_ok hinner
    refine Built.array hinner hleft ?_ (newItems_ok hitems) (require_ok hdepth)
    rintro rfl
    obtain ⟨_,-,hsparse⟩ := bind_ok hjs
    simpa using require_ok hsparse

theorem newFields_ok {depth : Nat} {first : Bool} {budget rest : Budget} {nodes : List (List Char×Node F)} :
    ∀ {fields : List (Text×Value F)}, newFields codec depth first budget fields=.ok (nodes,rest) →
      FieldsBuilt codec depth first budget fields nodes rest
  | [], h => by
    cases h
    exact ⟨by simp,by simp,by simp,rfl,by simp,id⟩
  | (key,child)::others, h => by
    rw [newFields] at h
    obtain ⟨_,hkey,h⟩ := bind_ok h
    obtain ⟨inner,hinner,h⟩ := bind_ok h
    obtain ⟨⟨node,next⟩,hchild,h⟩ := bind_ok h
    obtain ⟨⟨nodes,last⟩,hothers,h⟩ := bind_ok h
    cases h
    exact .cons (require_ok hkey).1 (Budget.spend_ok hinner).1 (newJSONStateNode_ok hchild) (newFields_ok hothers)

theorem newItems_ok {depth : Nat} {budget rest : Budget} {nodes : List (Node F)} :
    ∀ {items : List (Value F)}, newItems codec depth budget items=.ok (nodes,rest) →
      ItemsBuilt codec depth budget items nodes rest
  | [], h => by
    cases h
    exact ⟨rfl,by simp,by simp,by simp,rfl,by simp,id⟩
  | child::others, h => by
    rw [newItems] at h
    obtain ⟨⟨node,next⟩,hchild,h⟩ := bind_ok h
    obtain ⟨⟨nodes,last⟩,hothers,h⟩ := bind_ok h
    cases h
    exact .cons (newJSONStateNode_ok hchild) (newItems_ok hothers)

end

end Spec

end NewApi.Plugins
