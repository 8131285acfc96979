import NewApi.Lib.GoStrings
import NewApi.Plugins.JSONNode

/-! The JSON result that a plugin builds over a stream by batches of changes (`pkg/jsplugin/json_state.go`), with its size kept along
the path of each change. -/
namespace NewApi.Plugins
open Trees Runs
variable {F : Type}

structure JSONState (F : Type) where
  root : Node F
  limit : Int
  failed : Option String

def newJSONState (limit : Int) : JSONState F where
  root := .leaf ⟨.null,none⟩ (4,1)
  limit := max 0 (min limit maxJSONToolBytes)
  failed := none

inductive Op where
  | set
  | append
  | appendText
  deriving DecidableEq

def literal (text : String) : Text := text.toList.map Sum.inr

def asSlice : Value F → Option (List (Value F))
  | .array false items => some items
  | .plain false .nilSlice => some []
  | _ => none

def asText : Option (Value F) → Text
  | some (.plain false (.text text)) => text
  | _ => []

def parseOp (op : Text) : Except String Op :=
  if op=literal "set" then .ok .set
  else if op=literal "append" then .ok .append
  else if op=literal "appendText" then .ok .appendText
  else .error ("unsupported JSON change operation " ++ GoStrings.quoted (String.ofList (runes op)))

def parsePath (path : Option (Value F)) (value : Option (Value F)) : Except String (List (Value F)×Value F) :=
  match path.bind asSlice, value with
  | some path, some value =>
    if path.length ≤ maxJSONToolDepth then .ok (path,value)
    else .error "change requires a JSON value and a path of at most 32 segments"
  | _, _ => .error "change requires a JSON value and a path of at most 32 segments"

def parseChange : Value F → Except String (Op×List (Value F)×Value F)
  | .object false change => do
    require (change.length=3) "each change must contain only op, path and value"
    let (path,value) ← parsePath (find (literal "path") change) (find (literal "value") change)
    let op ← parseOp (asText (find (literal "op") change))
    pure (op,path,value)
  | _ => .error "each change must contain only op, path and value"

section Apply
variable (codec : Codec F)
variable (s : JSONState F) (ctx : Context) (ancestors : List (Frame (List Char) (Leaf F) Size)) (target : Option (Node F))

def pathKey (limit : Int) : Value F → Except String (List Char)
  | .plain false (.text key) => do
    require (validString key ∧ byteLength key≤limit) "JSON object paths require valid string keys"
    pure (runes key)
  | _ => .error "JSON object paths require valid string keys"

def asNumber : Value F → Option F
  | .plain false (.int value) => some (codec.ofInt value)
  | .plain false (.float value) => some value
  | _ => none

def pathItem (items : List (Node F)) (segment : Value F) : Except String (Nat×Node F) :=
  match asNumber codec segment with
  | none => .error "JSON array paths require integer indices"
  | some number =>
    match codec.index number with
    | none => .error "JSON array index is out of range"
    | some index =>
      match items[index]? with
      | none => .error "JSON array index is out of range"
      | some child => .ok (index,child)

def walk (limit : Int) (op : Op) : Node F → List (Value F) → Except String (List (Frame (List Char) (Leaf F) Size)×Option (Node F))
  | target, [] => .ok ([],some target)
  | .object fields mark, segment::rest => do
    let key ← pathKey limit segment
    match find key fields with
    | none => do
      require (rest.isEmpty ∧ op=.set) "JSON change target does not exist"
      pure ([.field fields mark key],none)
    | some child => do
      let (ancestors,target) ← walk limit op child rest
      pure (.field fields mark key::ancestors,target)
  | .array items mark, segment::rest => do
    let (index,child) ← pathItem codec items segment
    let (ancestors,target) ← walk limit op child rest
    pure (.item items mark index::ancestors,target)
  | .leaf _ _, _::_ => .error "JSON change path traverses a scalar"

def newKeyCost : List (Frame (List Char) (Leaf F) Size) → Int
  | [] => 0
  | [.field fields _ key] => (codec.quote key).length+1 + if fields.isEmpty then 0 else 1
  | _::rest => newKeyCost rest

def applySet
    (depth : Nat) (value : Value F) : Except String (Node F×Context) := do
  let old := target.elim 0 Tree.mark
  let added := if target.isSome then 0 else newKeyCost codec ancestors
  let budget : Budget := ⟨ctx,s.limit-Node.bytes s.root+old.1-added,maxJSONToolNodes-Node.nodes s.root+old.2⟩
  let (next,rest) ← newJSONStateNode codec depth budget value
  pure (refill ancestors next ((added,0)+(next.mark-old)),rest.ctx)

def applyAppend
    (depth : Nat) (value : Value F) : Except String (Node F×Context) :=
  match target with
  | some (.array items mark) => do
    let comma : Int := if items.isEmpty then 0 else 1
    let budget : Budget := ⟨ctx,s.limit-Node.bytes s.root-comma,maxJSONToolNodes-Node.nodes s.root⟩
    let (next,rest) ← newJSONStateNode codec (depth+1) budget value
    let added := (comma,0)+next.mark
    pure (refill ancestors (.array (items++[next]) (mark+added)) added,rest.ctx)
  | _ => .error "append requires an array target"

def Leaf.appendText (leaf : Leaf F) (previous text : List Char) : Leaf F :=
  if text=[] then leaf
  else
    match leaf.text with
    | none => ⟨.str [],some (previous++text)⟩
    | some builder => ⟨leaf.scalar,some (builder++text)⟩

def applyAppendText
    (value : Value F) : Except String (Node F×Context) :=
  match target, value with
  | some (.leaf ⟨.str previous,text⟩ mark), .plain false (.text more) => do
    require (byteLength more ≤ s.limit-Node.bytes s.root) "appendText requires strings within the state size limit"
    let added : Int := (codec.quote (runes more)).length-2
    require (added ≤ s.limit-Node.bytes s.root) "JSON state exceeds size limit"
    pure (refill ancestors (.leaf (Leaf.appendText ⟨.str previous,text⟩ previous (runes more)) (mark+(added,0))) (added,0),ctx)
  | _, _ => .error "appendText requires strings within the state size limit"

def applyChange (s : JSONState F) (ctx : Context) (item : Value F) : Except String (Node F×Context) := do
  let ctx ← ctx.err
  let (op,path,value) ← parseChange item
  let (ancestors,target) ← walk codec s.limit op s.root path
  match op with
  | .set => applySet codec s ctx ancestors target path.length value
  | .append => applyAppend codec s ctx ancestors target path.length value
  | .appendText => applyAppendText codec s ctx ancestors target value

def JSONState.applyChanges (s : JSONState F) (ctx : Context) : List (Value F) → JSONState F×Option String
  | [] => (s,none)
  | item::rest =>
    match applyChange codec s ctx item with
    | .error err => (s,some err)
    | .ok (root,ctx) => JSONState.applyChanges { s with root } ctx rest

def checkChanges (ctx : Context) (changes : Value F) : Except String (Context×List (Value F)) := do
  let ctx ← ctx.err
  match asSlice changes with
  | some items => do
    require (items.length ≤ maxJSONChanges) "changes must be an array of at most 256 operations"
    pure (ctx,items)
  | none => .error "changes must be an array of at most 256 operations"

/-- A failure sets `failed`. -/
def fail (result : JSONState F×Option String) : JSONState F×Option String :=
  match result with
  | (s,none) => (s,none)
  | (s,some err) => ({ s with failed := some err },some err)

def JSONState.apply (s : JSONState F) (ctx : Context) (changes : Value F) : JSONState F×Option String :=
  match s.failed with
  | some err => (s,some err)
  | none =>
    match checkChanges ctx changes with
    | .error err => fail (s,some err)
    | .ok (ctx,items) => fail (s.applyChanges codec ctx items)

def JSONState.value (s : JSONState F) : Except String (Json F) :=
  match s.failed with
  | some err => .error err
  | none => do
    let encoded ← codec.marshal (Node.value s.root)
    require ((encoded.length : Int)=Node.bytes s.root ∧ (encoded.length : Int) ≤ s.limit)
      "JSON state encoded size does not match its bounded representation"
    pure (Node.value s.root)

def JSONState.applyAll (s : JSONState F) : List (Context×Value F) → Option (JSONState F)
  | [] => some s
  | (ctx,changes)::rest =>
    match s.apply codec ctx changes with
    | (s',none) => s'.applyAll rest
    | (_,some _) => none

end Apply

section Ordinary
variable (codec : Codec F)

def place : Value F → Option (List Char ⊕ Nat)
  | .plain false (.text key) => if validString key then some (.inl (runes key)) else none
  | segment => (asNumber codec segment).bind fun number => (codec.index number).map Sum.inr

def Op.on (value : Value F) : Op → Option (Json F) → Option (Json F)
  | .set, _ => value.json codec
  | .append, some (.array items _) => (value.json codec).map fun item => .array (items++[item]) ()
  | .appendText, some (.leaf (.str text) _) =>
    match value with
    | .plain false (.text more) => some (.leaf (.str (text++runes more)) ())
    | _ => none
  | _, _ => none

def ordinaryChange (tree : Json F) (item : Value F) : Option (Json F) := do
  let (op,path,value) ← (parseChange item).toOption
  let places ← path.mapM (place codec)
  Tree.edit (op.on codec value) places tree

def ordinaryChanges (tree : Json F) (changes : Value F) : Option (Json F) := do
  let items ← asSlice changes
  items.foldlM (ordinaryChange codec) tree

end Ordinary
end NewApi.Plugins
