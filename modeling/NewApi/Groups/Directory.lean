import NewApi.Lib.GoStrings

/-! Groups, their codes and the codes they had before (`model/group_identity.go`, `model/group_bindings.go`). -/
namespace NewApi.Groups
open GoStrings

def groupStatusActive : Int := 1

structure Group where
  id : Nat
  code : String
  status : Int := groupStatusActive

structure GroupAlias where
  aliasCode : String
  groupId : Nat

structure Directory where
  groups : List Group := []
  aliases : List GroupAlias := []

def reservedGroupCodes : List String := ["", "auto", "all", "null"]

def isVirtualAutoCode (code : String) : Bool := equalFold (trimSpace code) "auto"

def normalizeGroupCode (code : String) : Option String :=
  let code := trimSpace code
  if toLower code∈reservedGroupCodes then none
  else if ',' ∈ code.toList then none
  else if 64<code.length then none
  else some code

def split (value : String) : List String := (value.toList.splitOn ',').map String.ofList

def join (codes : List String) : String := String.intercalate "," codes

def splitLegacyGroupCodes (value : String) : List String :=
  ((split value).map trimSpace).foldl (fun codes code => if code="" ∨ code∈codes then codes else codes++[code]) []

def resolveOne (allows : Group → Bool) (resolved : List Group) : Option Group → Option (List Group)
  | none => none
  | some group =>
    if !allows group then none
    else if resolved.any fun other => other.id=group.id then some resolved
    else some (resolved++[group])

namespace Directory
variable (dir : Directory)

def byID (id : Nat) : Option Group := dir.groups.find? fun group => group.id=id

def byCode (code : String) : Option Group := dir.groups.find? fun group => group.code=code

def byAlias (code : String) : Option Group :=
  (dir.aliases.find? fun row => row.aliasCode=code).bind fun row => dir.byID row.groupId

def getGroupByCodeOrAlias (code : String) : Option Group :=
  let code := trimSpace code
  if code="" ∨ isVirtualAutoCode code then none else (dir.byCode code).or (dir.byAlias code)

/-- `resolveBindingGroupsWithPolicy`: the groups with the given ids, or else those with the codes of a text. -/
def resolveBindingGroups (ids : List Nat) (legacy : String) (allows : Group → Bool) : Option (List Group) :=
  if ids≠[] then ids.foldlM (fun resolved id => resolveOne allows resolved (dir.byID id)) []
  else
    let codes := splitLegacyGroupCodes legacy
    if codes=[] ∧ trimSpace legacy≠"" then none
    else codes.foldlM (fun resolved code =>
      if (normalizeGroupCode code).isNone then none
      else resolveOne allows resolved (dir.getGroupByCodeOrAlias code)) []

end Directory

end NewApi.Groups
