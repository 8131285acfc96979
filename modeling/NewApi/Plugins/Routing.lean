import Mathlib.Data.List.Sort
import Mathlib.Data.String.Basic
import NewApi.Lib.Admission
import NewApi.Lib.GoStrings
import NewApi.Lib.Keyed

/-! Plugins and the routing generations that are built from them (`pkg/jsplugin/routing.go`, `pkg/jsplugin/model_fold.go`). A
generation exists when no two of the claims that its plugins make clash. -/
namespace NewApi.Plugins
open GoStrings Keyed Admission
open String (ofList)

structure Route where
  method : String
  path : String
  deriving DecidableEq

structure ProtocolClaim where
  name : String
  models : List String := []
  deriving DecidableEq

/-- `LoadedPlugin` with its metadata; two objects of one plugin differ in `loaded`. -/
structure LoadedPlugin where
  key : String
  loaded : Nat := 0
  models : List String := []
  channelTypes : List Int := []
  routes : List Route := []
  protocols : List ProtocolClaim := []
  deriving DecidableEq

structure HostProtocolOperation where
  name : String
  methods : List String
  path : String
  modelField : String := ""
  deriving DecidableEq

structure HostProtocolDefinition where
  name : String
  operations : List HostProtocolOperation

def hostProtocols : List HostProtocolDefinition :=
  [{ name := "openai_responses"
     operations :=
      [{ name := "create", methods := ["POST"], path := "/v1/responses", modelField := "model" },
       { name := "retrieve", methods := ["GET"], path := "/v1/responses/:response_id" }] },
   { name := "openai_video"
     operations :=
      [{ name := "create", methods := ["POST"], path := "/v1/videos", modelField := "model" },
       { name := "retrieve", methods := ["GET"], path := "/v1/videos/:task_id" },
       { name := "content", methods := ["GET", "HEAD"], path := "/v1/videos/:task_id/content" }] }]

def hostProtocol (name : String) : HostProtocolDefinition :=
  (lookup HostProtocolDefinition.name name hostProtocols).getD { name := "", operations := [] }

def channelTypeTaskPlugin : Int := 62

def asciiFold (s : String) : String := ofList (s.toList.map lowerAscii)

def pathNamePattern (name : String) : Bool :=
  match name.toList with
  | [] => false
  | c::cs => (c.isAlpha || c = '_') && cs.all fun c => c.isAlphanum || c = '_'

def staticSegment (segment : String) : Bool :=
  segment≠"" && segment.toList.all fun c => c.isAlphanum || c∈['.', '_', '~', '-']

def splitPath (path : String) : List String := (path.toList.splitOn '/').map ofList

def checkSegments (routePath : String) : List String → List String → Except String Unit
  | _, [] => .ok ()
  | seen, segment::rest =>
    if segment="" ∧ rest=[] then .ok ()
    else if segment="." ∨ segment=".." then
      .error ("plugin route path " ++ quoted routePath++" must not contain dot segments")
    else match segment.toList with
      | ':' :: name =>
        if pathNamePattern (ofList name)=false then
          .error ("plugin route path " ++ quoted routePath++" has invalid parameter " ++ quoted segment)
        else if ofList name∈seen then
          .error ("plugin route path " ++ quoted routePath++" repeats parameter " ++ quoted (ofList name))
        else checkSegments routePath (ofList name::seen) rest
      | '*' :: name =>
        if rest≠[] ∨ pathNamePattern (ofList name)=false then
          .error ("plugin route path " ++ quoted routePath++" has an invalid catch-all segment")
        else if ofList name∈seen then
          .error ("plugin route path " ++ quoted routePath++" repeats parameter " ++ quoted (ofList name))
        else checkSegments routePath (ofList name::seen) rest
      | _ =>
        if staticSegment segment=false then
          .error ("plugin route path " ++ quoted routePath++" has invalid segment " ++ quoted segment)
        else checkSegments routePath seen rest

def normalizeRoutePath (routePath : String) : Except String String :=
  match routePath.toList with
  | '/' :: path =>
    if path=[] then .error "plugin route path / is reserved"
    else if path.any fun c => c∈['?', '#', '%'] then
      .error ("plugin route path " ++ quoted routePath++" must not contain a query, fragment, or percent-encoding")
    else if contains routePath "//" then
      .error ("plugin route path " ++ quoted routePath++" must not contain empty segments")
    else (checkSegments routePath [] (splitPath (ofList path))).map fun _ => routePath
  | _ => .error "plugin route path must start with /"

def routePathShape (routePath : String) : Except String String :=
  (normalizeRoutePath routePath).map fun normalized =>
    "/" ++ String.intercalate "/" ((splitPath (ofList (normalized.toList.drop 1))).map fun segment =>
      if hasPrefix segment ":" then ":" else if hasPrefix segment "*" then "*" else segment)

def endpointIndexKey (method path model : String) : String := method++"\x00" ++ path++"\x00" ++ model

structure RouteBinding where
  plugin : LoadedPlugin
  route : Route
  deriving DecidableEq

structure ProtocolBinding where
  plugin : LoadedPlugin
  protocol : String
  operation : HostProtocolOperation
  model : String
  deriving DecidableEq

/-- Its maps are listed in the order of insertion, and a key of `modelPlugins` or `protocolIndex` has as
many entries as its slice has elements. -/
structure RoutingGeneration where
  number : Nat
  plugins : List LoadedPlugin := []
  modelPlugins : List (String×LoadedPlugin) := []
  canonicalModelByFold : List (String×String) := []
  byChannelType : List (Int×LoadedPlugin) := []
  routeIndex : List (String×RouteBinding) := []
  protocolIndex : List (String×ProtocolBinding) := []
  retainCurrent : List String := []
  deriving DecidableEq

namespace RoutingGeneration
variable (gen : RoutingGeneration)

def byKey (key : String) : Option LoadedPlugin := lookup LoadedPlugin.key key gen.plugins

def byModel (model : String) : Option LoadedPlugin := (lookup Prod.fst model gen.modelPlugins).map Prod.snd

def canonicalModel (folded : String) : Option String := (lookup Prod.fst folded gen.canonicalModelByFold).map Prod.snd

def channelOwner (channelType : Int) : Option LoadedPlugin := (lookup Prod.fst channelType gen.byChannelType).map Prod.snd

def routeOwner (key : String) : Option RouteBinding := (lookup Prod.fst key gen.routeIndex).map Prod.snd

def firstBinding (key : String) : Option ProtocolBinding := (lookup Prod.fst key gen.protocolIndex).map Prod.snd

end RoutingGeneration

section Build
variable (plugin : LoadedPlugin)

def indexModel (gen : RoutingGeneration) (model : String) : Except String RoutingGeneration :=
  let listed := { gen with modelPlugins := gen.modelPlugins++[(model,plugin)] }
  match gen.canonicalModel (asciiFold model) with
  | some existing =>
    if existing≠model then
      .error ("plugin " ++ plugin.key++" model " ++ quoted model++" conflicts with plugin " ++
        ((listed.byModel existing).map LoadedPlugin.key).getD plugin.key++" model " ++ quoted existing)
    else .ok listed
  | none => .ok { listed with canonicalModelByFold := gen.canonicalModelByFold++[(asciiFold model,model)] }

def indexChannelType (gen : RoutingGeneration) (channelType : Int) : Except String RoutingGeneration :=
  if channelType=0 ∨ channelType=channelTypeTaskPlugin then .ok gen
  else match gen.channelOwner channelType with
    | some other =>
      .error ("plugin " ++ plugin.key++" channelType " ++ toString channelType++" conflicts with plugin " ++ other.key)
    | none => .ok { gen with byChannelType := gen.byChannelType++[(channelType,plugin)] }

def routeKey (route : Route) : Except String String := (routePathShape route.path).map fun shape => route.method++" " ++ shape

def indexRoute (gen : RoutingGeneration) (route : Route) : Except String RoutingGeneration :=
  (routeKey route).bind fun indexKey =>
    match gen.routeOwner indexKey with
    | some other =>
      .error ("plugin " ++ plugin.key++" route " ++ route.method++" " ++ route.path++" conflicts with plugin " ++
        other.plugin.key++" route " ++ other.route.path)
    | none => .ok { gen with routeIndex := gen.routeIndex++[(indexKey,⟨plugin,route⟩)] }

def indexEndpoint (protocol : String) (operation : HostProtocolOperation) (method : String) (gen : RoutingGeneration)
    (model : String) : Except String RoutingGeneration :=
  let indexKey := endpointIndexKey method operation.path model
  let bound : RoutingGeneration :=
    { gen with protocolIndex := gen.protocolIndex++[(indexKey,⟨plugin,protocol,operation,model⟩)] }
  match gen.firstBinding indexKey with
  | some other =>
    if protocol≠other.protocol then
      .error ("plugin " ++ plugin.key++" protocol " ++ method++" " ++ operation.path++" model " ++ quoted model ++
        " conflicts with plugin " ++ other.plugin.key)
    else .ok bound
  | none => .ok bound

def boundModels (claim : ProtocolClaim) : List String := if claim.models=[] then plugin.models else claim.models

def indexOperation (claim : ProtocolClaim) (gen : RoutingGeneration) (operation : HostProtocolOperation) :
    Except String RoutingGeneration :=
  if operation.modelField="" then .ok gen
  else operation.methods.foldlM
    (fun gen method => (boundModels plugin claim).foldlM (indexEndpoint plugin claim.name operation method) gen) gen

def indexProtocol (gen : RoutingGeneration) (claim : ProtocolClaim) : Except String RoutingGeneration :=
  (hostProtocol claim.name).operations.foldlM (indexOperation plugin claim) gen

end Build

def indexPlugin (gen : RoutingGeneration) (plugin : LoadedPlugin) : Except String RoutingGeneration :=
  (plugin.models.foldlM (indexModel plugin) { gen with plugins := gen.plugins++[plugin] }).bind fun gen =>
  (plugin.channelTypes.foldlM (indexChannelType plugin) gen).bind fun gen =>
  (plugin.routes.foldlM (indexRoute plugin) gen).bind fun gen =>
  plugin.protocols.foldlM (indexProtocol plugin) gen

def sortedByKey (plugins : List LoadedPlugin) : List LoadedPlugin := plugins.insertionSort fun p q => p.key≤q.key

def buildRoutingGenerationFromPlugins (effective : List LoadedPlugin) (number : Nat) : Except String RoutingGeneration :=
  (sortedByKey effective).foldlM indexPlugin { number := number }

inductive RoutingClaim where
  | model (spelling : String)
  | channelType (type : Int)
  | route (key : String)
  | endpoint (key protocol : String)

def RoutingClaim.clash : RoutingClaim → RoutingClaim → Bool
  | model a, model b => asciiFold a=asciiFold b && a≠b
  | channelType a, channelType b => a=b
  | route a, route b => a=b
  | endpoint key protocol, endpoint key' protocol' => key=key' && protocol≠protocol'
  | _, _ => false

def RoutingClaim.Apart (a b : RoutingClaim) : Prop := a.clash b=false

instance : DecidableRel RoutingClaim.Apart := fun a b => inferInstanceAs (Decidable (a.clash b=false))

theorem RoutingClaim.clash_comm (a b : RoutingClaim) : a.clash b=b.clash a := by
  cases a <;> cases b <;> simp [clash,eq_comm]

theorem RoutingClaim.apart_symm {a b : RoutingClaim} (h : a.Apart b) : b.Apart a := by
  rw [Apart,clash_comm]
  exact h

def channelTypeClaims (channelType : Int) : List RoutingClaim :=
  if channelType=0 ∨ channelType=channelTypeTaskPlugin then [] else [.channelType channelType]

def routeClaims (route : Route) : List RoutingClaim :=
  match routeKey route with
  | .ok key => [.route key]
  | .error _ => []

def operationClaims (plugin : LoadedPlugin) (claim : ProtocolClaim) (operation : HostProtocolOperation) : List RoutingClaim :=
  if operation.modelField="" then []
  else operation.methods.flatMap fun method =>
    (boundModels plugin claim).flatMap fun model => [.endpoint (endpointIndexKey method operation.path model) claim.name]

def protocolClaims (plugin : LoadedPlugin) (claim : ProtocolClaim) : List RoutingClaim :=
  (hostProtocol claim.name).operations.flatMap (operationClaims plugin claim)

def LoadedPlugin.claims (plugin : LoadedPlugin) : List RoutingClaim :=
  plugin.models.flatMap (fun model => [.model model])++(plugin.channelTypes.flatMap channelTypeClaims ++
    (plugin.routes.flatMap routeClaims++plugin.protocols.flatMap (protocolClaims plugin)))

def LoadedPlugin.Sound (plugin : LoadedPlugin) : Prop :=
  (∀ route∈plugin.routes, (routeKey route).isOk) ∧ plugin.claims.Pairwise RoutingClaim.Apart

instance (plugin : LoadedPlugin) : Decidable plugin.Sound := inferInstanceAs (Decidable (_ ∧ _))

def LoadedPlugin.Compatible (p q : LoadedPlugin) : Prop := ∀ a∈p.claims, ∀ b∈q.claims, a.Apart b

instance : DecidableRel LoadedPlugin.Compatible := fun p q =>
  inferInstanceAs (Decidable (∀ a∈p.claims, ∀ b∈q.claims, a.Apart b))

theorem LoadedPlugin.compatible_symm {p q : LoadedPlugin} (h : p.Compatible q) : q.Compatible p :=
  fun a ha b hb => RoutingClaim.apart_symm (h b hb a ha)

structure Indexes (gen : RoutingGeneration) (claims : List RoutingClaim) : Prop where
  apart : claims.Pairwise RoutingClaim.Apart
  model : ∀ folded model, gen.canonicalModel folded=some model ↔ .model model∈claims ∧ asciiFold model=folded
  channelType : ∀ type, (gen.channelOwner type).isSome ↔ .channelType type∈claims
  route : ∀ key, (gen.routeOwner key).isSome ↔ .route key∈claims
  bound : ∀ key binding, gen.firstBinding key=some binding → .endpoint key binding.protocol∈claims
  binding : ∀ key protocol, .endpoint key protocol∈claims → ∃ b, gen.firstBinding key=some b ∧ b.protocol=protocol

/-- A step adds claims to the indexes and plugins to the list, and fails when it cannot. -/
def Adds (gen : RoutingGeneration) (claims : List RoutingClaim) (ok : Prop) (more : List RoutingClaim)
    (plugins : List LoadedPlugin) : Except String RoutingGeneration → Prop
  | .ok gen' => ok ∧ Indexes gen' (claims++more) ∧ gen'.plugins=gen.plugins++plugins
  | .error _ => ¬(ok ∧ (claims++more).Pairwise RoutingClaim.Apart)

variable {gen : RoutingGeneration} {claims : List RoutingClaim}

theorem adds_nothing (h : Indexes gen claims) : Adds gen claims True [] [] (.ok gen) := by
  simpa [Adds] using h

variable {x : Except String RoutingGeneration} {β : Type} {f : RoutingGeneration → β → Except String RoutingGeneration}

theorem Adds.bind {first second : List RoutingClaim} {p q : Prop} {some more : List LoadedPlugin}
    {f : RoutingGeneration → Except String RoutingGeneration} (hx : Adds gen claims p first some x)
    (hf : ∀ gen', Indexes gen' (claims++first) → Adds gen' (claims++first) q second more (f gen')) :
    Adds gen claims (p ∧ q) (first++second) (some++more) (x.bind f) := by
  cases x with
  | error e =>
    rintro ⟨⟨hp,-⟩,hclear⟩
    rw [← List.append_assoc] at hclear
    exact hx ⟨hp,hclear.sublist (List.sublist_append_left _ second)⟩
  | ok gen' =>
    obtain ⟨hp,hgen,hplugins⟩ := hx
    have hnext := hf gen' hgen
    show Adds gen claims (p ∧ q) (first++second) (some++more) (f gen')
    cases hresult : f gen' with
    | error e =>
      rw [hresult] at hnext
      rintro ⟨⟨-,hq⟩,hclear⟩
      exact hnext ⟨hq,by rwa [List.append_assoc]⟩
    | ok gen'' =>
      rw [hresult] at hnext
      obtain ⟨hq,hgen',hplugins'⟩ := hnext
      refine ⟨⟨hp,hq⟩,by rwa [← List.append_assoc],?_⟩
      rw [hplugins',hplugins,List.append_assoc]

theorem Adds.congr {more : List RoutingClaim} {p q : Prop} {plugins : List LoadedPlugin}
    (h : Adds gen claims p more plugins x) (hpq : p ↔ q) : Adds gen claims q more plugins x := by
  rwa [propext hpq] at h

theorem adds_foldlM {ok : β → Prop}
    {more : β → List RoutingClaim} (plugins : β → List LoadedPlugin)
    (hf : ∀ gen claims x, Indexes gen claims → Adds gen claims (ok x) (more x) (plugins x) (f gen x)) (xs : List β)
    (h : Indexes gen claims) : Adds gen claims (∀ x∈xs, ok x) (xs.flatMap more) (xs.flatMap plugins) (xs.foldlM f gen) := by
  induction xs generalizing gen claims with
  | nil =>
    have hnothing := adds_nothing h
    exact hnothing.congr (by simp)
  | cons x xs ih =>
    have hstep := (hf gen claims x h).bind fun gen' hgen' => ih hgen'
    exact hstep.congr (by simp)

theorem adds_each {more : β → List RoutingClaim}
    (hf : ∀ gen claims x, Indexes gen claims → Adds gen claims True (more x) [] (f gen x)) (xs : List β)
    (h : Indexes gen claims) : Adds gen claims True (xs.flatMap more) [] (xs.foldlM f gen) := by
  have hall := adds_foldlM (fun _ => []) hf xs h
  rw [show xs.flatMap (fun _ => ([] : List LoadedPlugin))=[] by simp] at hall
  exact hall.congr (by simp)

end NewApi.Plugins
