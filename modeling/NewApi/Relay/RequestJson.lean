import NewApi.Lib.GoStrings

/-! JSON values in the requests that are converted between the formats (`relaykit/relayconvert`). A value that a struct decodes as
`any` is the value itself; a `json.RawMessage` is the value it holds, or nothing. -/
namespace NewApi.Relay

inductive JsonValue where
  | null
  | bool (value : Bool)
  /-- A number by its text as `strconv.FormatFloat` writes it. -/
  | num (text : String)
  | str (value : String)
  | arr (items : List JsonValue)
  | obj (fields : List (String×JsonValue))

namespace JsonValue

def field (key : String) (fields : List (String×JsonValue)) : Option JsonValue :=
  (fields.find? fun entry => entry.1 == key).map Prod.snd

/-- `kitutil.Interface2String`; `sprint` is `fmt.Sprintf` of an array or object. -/
def toText (sprint : JsonValue → String) : Option JsonValue → String
  | none | some .null => ""
  | some (.bool value) => if value then "true" else "false"
  | some (.num text) => text
  | some (.str value) => value
  | some value => sprint value

def present : Option JsonValue → Bool
  | none | some .null => false
  | _ => true

def asStr : Option JsonValue → Option String
  | some (.str value) => some value
  | _ => none

def asObj : Option JsonValue → Option (List (String×JsonValue))
  | some (.obj fields) => some fields
  | _ => none

end JsonValue

end NewApi.Relay
