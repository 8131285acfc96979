import NewApi.Lib.GoStrings

/-! Header overrides of a request over its upstream attempts (`relay/common/override.go`, `relay_info.go`). The relay info
lives through all attempts; an attempt takes the channel's configuration into it, applies the channel's parameter override,
which may write headers, and then reads the header override it sends; the error it ends with is kept for the next one. -/
namespace NewApi.Relay
open GoStrings

abbrev HeaderMap := List (String×String)

namespace HeaderMap

def get (m : HeaderMap) (key : String) : Option String := (m.find? (·.1=key)).map (·.2)

def delete (m : HeaderMap) (key : String) : HeaderMap := m.filter (·.1≠key)

def set (m : HeaderMap) (key value : String) : HeaderMap := m.delete key++[(key,value)]

end HeaderMap

def normalizeHeaderContextKey (key : String) : String := trimSpace (toLower key)

def isHeaderPassthroughRuleKeyForOverride (key : String) : Bool :=
  let key := trimSpace (toLower key)
  key == "*" || "re:".isPrefixOf key || "regex:".isPrefixOf key

/-- An empty value is kept for a passthrough rule only. -/
def sanitizeHeaderOverrideMap (source : HeaderMap) : HeaderMap :=
  source.foldl (fun target (key,value) =>
    let key := normalizeHeaderContextKey key
    let value := trimSpace value
    if key="" then target
    else if value="" then if isHeaderPassthroughRuleKeyForOverride key then target.set key "" else target
    else target.set key value) []

def buildRequestHeadersContext (headers : HeaderMap) : HeaderMap :=
  (headers.filter fun h => normalizeHeaderContextKey h.1≠"" ∧ trimSpace h.2≠"").foldl
    (fun target h => target.set (normalizeHeaderContextKey h.1) (trimSpace h.2)) []

inductive HeaderReplacement where
  | null
  | text (value : String)
  | list (values : List String)
  | flag (value : Bool)
  | object
  deriving DecidableEq

inductive HeaderValue where
  | null
  | rendered (value : String)
  | mapping (entries : List (String×HeaderReplacement))

inductive SyncTarget where
  | json (key : String)
  | header (key : String)

structure ParamOverrideReturnError where
  message : String
  statusCode : Int := 400
  code : String := "invalid_request"
  type : String := "invalid_request_error"
  skipRetry : Bool := true
  deriving DecidableEq

structure NewAPIError where
  statusCode : Int
  message : String
  code : String
  type : String
  skipRetry : Bool
  deriving DecidableEq

/-- The error of a parameter override: one that it returns by `return_error`, or another. -/
inductive OverrideError where
  | returned (error : ParamOverrideReturnError)
  | failed (message : String)
  deriving DecidableEq

def newAPIErrorFromParamOverride : OverrideError → NewAPIError
  | .returned error =>
    { statusCode := if error.statusCode < 100 ∨ 511 < error.statusCode then 400 else error.statusCode
      message := if isBlank error.message then "request blocked by param override" else trimSpace error.message
      code := if isBlank error.code then "invalid_request" else error.code
      type := "openai_error"
      skipRetry := error.skipRetry }
  | .failed message =>
    { statusCode := 500, message, code := "channel:param_override_invalid", type := "new_api_error", skipRetry := true }

def failing {α : Type} (result : Except String α) : Except OverrideError α := result.mapError .failed

/-- An operation of a parameter override. The error of `return_error`, the names of `pass_headers` and the targets of
`sync_fields` are as their values parse. -/
inductive OperationMode (BodyOp : Type) where
  | body (op : BodyOp)
  | returnError (error : Except String ParamOverrideReturnError)
  | setHeader (path : String) (value : HeaderValue)
  | deleteHeader (path : String)
  | copyHeader (path source target : String)
  | moveHeader (path source target : String)
  | passHeaders (names : Except String (List String))
  | syncFields (source target : Except String SyncTarget)
  | unknown (mode : String)

structure ParamOperation (Condition BodyOp : Type) where
  mode : OperationMode BodyOp
  keepOrigin : Bool := false
  conditions : List Condition := []
  allOf : Bool := false

/-- A channel's parameter override: keys of the body that are set, and the operations, if that key is there. -/
structure ParamOverride (Condition BodyOp : Type) where
  legacy : List BodyOp := []
  operations : Option (List (ParamOperation Condition BodyOp)) := none

def ParamOverride.isEmpty {Condition BodyOp : Type} (o : ParamOverride Condition BodyOp) : Bool :=
  o.legacy.isEmpty && o.operations.isNone

/-- The configuration of a channel that `InitChannelMeta` takes over. -/
structure ChannelMeta (Condition BodyOp : Type) where
  headersOverride : HeaderMap := []
  paramOverride : ParamOverride Condition BodyOp := {}

/-- The context of a parameter override; `base` has its entries besides the headers. -/
structure OverrideContext (Base : Type) where
  base : Base
  requestHeaders : HeaderMap
  headerOverride : HeaderMap

structure JsonEngine (Body Base Condition BodyOp : Type) where
  check : Body → OverrideContext Base → List Condition → Bool → Except String Bool
  operate : BodyOp → Body → OverrideContext Base → Except String Body
  read : Body → String → Option String
  write : Body → String → String → Except String Body

def getHeaderValueFromContext {Base : Type} (context : OverrideContext Base) (name : String) : Option String :=
  let name := normalizeHeaderContextKey name
  if name="" then none
  else ((context.headerOverride.get name).map trimSpace).filter (· ≠ "") |>.or
    (((context.requestHeaders.get name).map trimSpace).filter (· ≠ ""))

def splitHeaderListValue (raw : String) : List String := ((raw.splitOn ",").map trimSpace).filter (· ≠ "")

def parseHeaderReplacementTokens : HeaderReplacement → Except String (List String)
  | .null => .ok []
  | .text value => .ok (splitHeaderListValue value)
  | .list values => .ok (values.flatMap splitHeaderListValue).eraseDups
  | .flag value => .ok [if value then "true" else "false"]
  | .object => .error "header replacement value must be string, array or null"

section Headers
variable {Base : Type} (context : OverrideContext Base)

/-- The tokens a header's own tokens become in `resolveHeaderOverrideValueByMapping`. -/
def replaceTokens (entry : String → Option HeaderReplacement) (keepOnlyDeclared : Bool) :
    List String → Except String (List String)
  | [] => .ok []
  | token::tokens => do
    let replacement := (entry token).or (if keepOnlyDeclared then none else entry "*")
    let own ← match replacement with
      | some replacement => parseHeaderReplacementTokens replacement
      | none => .ok (if keepOnlyDeclared then [] else [token])
    return own++(← replaceTokens entry keepOnlyDeclared tokens)

def resolveHeaderOverrideValueByMapping (name : String) (mapping : List (String×HeaderReplacement)) :
    Except String (Option String) := do
  if mapping.isEmpty then throw "header value mapping cannot be empty"
  let entry := fun token => (mapping.find? (·.1=token)).map (·.2)
  let appended ← ((entry "$append").map parseHeaderReplacementTokens).getD (.ok [])
  let source := ((getHeaderValueFromContext context name).map splitHeaderListValue).getD []
  let replaced ← replaceTokens entry (entry "$keep_only_declared" = some (.flag true)) source
  let tokens := (replaced++appended).eraseDups
  return if tokens.isEmpty then none else some (",".intercalate tokens)

def resolveHeaderOverrideValue (name : String) : HeaderValue → Except String (Option String)
  | .null => .error "header value is required"
  | .mapping entries => resolveHeaderOverrideValueByMapping context name entries
  | .rendered value => .ok (if trimSpace value="" then none else some (trimSpace value))

def setHeaderOverrideInContext (name : String) (value : HeaderValue) (keepOrigin : Bool) :
    Except String (OverrideContext Base) := do
  let name := normalizeHeaderContextKey name
  if name="" then throw "header name is required"
  if keepOrigin && ((context.headerOverride.get name).any fun existing => trimSpace existing≠"") then return context
  match ← resolveHeaderOverrideValue context name value with
  | none => return { context with headerOverride := context.headerOverride.delete name }
  | some resolved => return { context with headerOverride := context.headerOverride.set name resolved }

def deleteHeaderOverrideInContext (name : String) : Except String (OverrideContext Base) :=
  let name := normalizeHeaderContextKey name
  if name="" then .error "header name is required"
  else .ok { context with headerOverride := context.headerOverride.delete name }

/-- `none` when the source header is not there. -/
def copyHeaderInContext (source target : String) (keepOrigin : Bool) : Except String (Option (OverrideContext Base)) := do
  let source := normalizeHeaderContextKey source
  let target := normalizeHeaderContextKey target
  if source="" ∨ target="" then throw "copy_header from/to is required"
  match getHeaderValueFromContext context source with
  | none => return none
  | some value => return some (← setHeaderOverrideInContext context target (.rendered value) keepOrigin)

def moveHeaderInContext (source target : String) (keepOrigin : Bool) : Except String (Option (OverrideContext Base)) := do
  let source := normalizeHeaderContextKey source
  let target := normalizeHeaderContextKey target
  if source="" ∨ target="" then throw "move_header from/to is required"
  match ← copyHeaderInContext context source target keepOrigin with
  | none => return none
  | some copied => if source=target then return some copied else return some (← deleteHeaderOverrideInContext copied source)

def passHeadersInContext (keepOrigin : Bool) : OverrideContext Base → List String → Except String (OverrideContext Base)
  | context, [] => .ok context
  | context, name::names => do
    let passed ← copyHeaderInContext context name name keepOrigin
    passHeadersInContext keepOrigin (passed.getD context) names

end Headers

section Attempts
variable {Body Base Condition BodyOp : Type} (json : JsonEngine Body Base Condition BodyOp)

def readSyncTargetValue (body : Body) (context : OverrideContext Base) : SyncTarget → Option String
  | .json key => json.read body key
  | .header key => getHeaderValueFromContext context key

def writeSyncTargetValue (body : Body) (context : OverrideContext Base) (value : String) :
    SyncTarget → Except String (Body×OverrideContext Base)
  | .json key => (json.write body key value).map fun body => (body,context)
  | .header key => (setHeaderOverrideInContext context key (.rendered value) false).map fun context => (body,context)

def syncFieldsBetweenTargets (body : Body) (context : OverrideContext Base) (source target : Except String SyncTarget) :
    Except String (Body×OverrideContext Base) := do
  let source ← source
  let target ← target
  match readSyncTargetValue json body context source, readSyncTargetValue json body context target with
  | some value, none => writeSyncTargetValue json body context value target
  | none, some value => writeSyncTargetValue json body context value source
  | _, _ => return (body,context)

/-- The header that `copy_header` and `move_header` name: the path stands in for a missing one. -/
def headerOr (name path : String) : String := if trimSpace name="" then trimSpace path else trimSpace name

def applyOperation (op : ParamOperation Condition BodyOp) (body : Body) (context : OverrideContext Base) :
    Except OverrideError (Body×OverrideContext Base) := do
  if !(← failing (json.check body context op.conditions op.allOf)) then return (body,context)
  match op.mode with
  | .returnError (.ok error) => throw (.returned error)
  | .returnError (.error message) => throw (.failed message)
  | .body edit => return (← failing (json.operate edit body context),context)
  | .setHeader path value => return (body,← failing (setHeaderOverrideInContext context path value op.keepOrigin))
  | .deleteHeader path => return (body,← failing (deleteHeaderOverrideInContext context path))
  | .copyHeader path source target =>
    let copied ← failing (copyHeaderInContext context (headerOr source path) (headerOr target path) op.keepOrigin)
    return (body,copied.getD context)
  | .moveHeader path source target =>
    let moved ← failing (moveHeaderInContext context (headerOr source path) (headerOr target path) op.keepOrigin)
    return (body,moved.getD context)
  | .passHeaders names => return (body,← failing (names.bind (passHeadersInContext op.keepOrigin context)))
  | .syncFields source target => failing (syncFieldsBetweenTargets json body context source target)
  | .unknown mode => throw (.failed s!"unknown operation: {mode}")

def applyOperations : List (ParamOperation Condition BodyOp) → Body → OverrideContext Base →
    Except OverrideError (Body×OverrideContext Base)
  | [], body, context => .ok (body,context)
  | op::ops, body, context => do
    let (body,context) ← applyOperation json op body context
    applyOperations ops body context

def applyOperationsLegacy (edits : List BodyOp) (body : Body) (context : OverrideContext Base) : Except String Body :=
  edits.foldlM (fun body edit => json.operate edit body context) body

def applyParamOverride (override : ParamOverride Condition BodyOp) (body : Body) (context : OverrideContext Base) :
    Except OverrideError (Body×OverrideContext Base) := do
  let body ← failing (applyOperationsLegacy json override.legacy body context)
  applyOperations json (override.operations.getD []) body context

/-- What a client's request brings to the attempts: its headers, its body for a channel, and the entries of the override
context at an attempt with the error before it. Upstreams refuse it with errors of their own; `normalized` is what the
loop makes of an error. -/
structure ClientRequest (Body Base Condition BodyOp : Type) where
  headers : HeaderMap
  body : ChannelMeta Condition BodyOp → Body
  base : Nat → Option NewAPIError → ChannelMeta Condition BodyOp → Base
  upstreamError : Nat → NewAPIError
  normalized : NewAPIError → NewAPIError := id

/-- The part of `RelayInfo` that the header override is read from. -/
structure RelayHeaders (Condition BodyOp : Type) where
  channelMeta : ChannelMeta Condition BodyOp := {}
  runtimeHeadersOverride : HeaderMap := []
  useRuntimeHeadersOverride : Bool := false
  lastError : Option NewAPIError := none

variable (request : ClientRequest Body Base Condition BodyOp) (info : RelayHeaders Condition BodyOp)

def initChannelMeta (channel : ChannelMeta Condition BodyOp) :
    RelayHeaders Condition BodyOp := { info with channelMeta := channel }

def getEffectiveHeaderOverride : HeaderMap :=
  if info.useRuntimeHeadersOverride then sanitizeHeaderOverrideMap info.runtimeHeadersOverride
  else sanitizeHeaderOverrideMap info.channelMeta.headersOverride

def buildParamOverrideContext (retryIndex : Nat) (info : RelayHeaders Condition BodyOp) : OverrideContext Base :=
  { base := request.base retryIndex info.lastError info.channelMeta
    requestHeaders := buildRequestHeadersContext request.headers
    headerOverride := sanitizeHeaderOverrideMap (getEffectiveHeaderOverride info) }

def syncRuntimeHeaderOverrideFromContext (context : OverrideContext Base) :
    RelayHeaders Condition BodyOp :=
  { info with runtimeHeadersOverride := sanitizeHeaderOverrideMap context.headerOverride
              useRuntimeHeadersOverride := true }

def applyParamOverrideWithRelayInfo (retryIndex : Nat) (info : RelayHeaders Condition BodyOp) :
    Except OverrideError (RelayHeaders Condition BodyOp) :=
  if info.channelMeta.paramOverride.isEmpty then .ok info
  else (applyParamOverride json info.channelMeta.paramOverride (request.body info.channelMeta)
      (buildParamOverrideContext request retryIndex info)).map
    fun result => syncRuntimeHeaderOverrideFromContext info result.2

/-- One attempt that does not succeed: the relay info after it, and the header override it uses, unless its parameter
override fails. -/
def upstreamAttempt (retryIndex : Nat) (info : RelayHeaders Condition BodyOp) (channel : ChannelMeta Condition BodyOp) :
    RelayHeaders Condition BodyOp×Except OverrideError HeaderMap :=
  let info := initChannelMeta info channel
  match applyParamOverrideWithRelayInfo json request retryIndex info with
  | .ok info =>
    ({ info with lastError := some (request.normalized (request.upstreamError retryIndex)) },.ok (getEffectiveHeaderOverride info))
  | .error error =>
    ({ info with lastError := some (request.normalized (newAPIErrorFromParamOverride error)) },.error error)

def infoAfter : Nat → RelayHeaders Condition BodyOp → List (ChannelMeta Condition BodyOp) → RelayHeaders Condition BodyOp
  | _, info, [] => info
  | index, info, channel::channels =>
    infoAfter (index+1) (upstreamAttempt json request index info channel).1 channels

def headerOverrideUsed (earlier : List (ChannelMeta Condition BodyOp)) (channel : ChannelMeta Condition BodyOp) :
    Except OverrideError HeaderMap :=
  (upstreamAttempt json request earlier.length (infoAfter json request 0 {} earlier) channel).2

/-- The error that the upstream of the attempt before gave. -/
def ClientRequest.errorBefore (request : ClientRequest Body Base Condition BodyOp) : Nat → Option NewAPIError
  | 0 => none
  | index+1 => some (request.normalized (request.upstreamError index))

/-- The header override of an attempt before which the upstreams alone refused the request. -/
def ownHeaderOverride (index : Nat) (channel : ChannelMeta Condition BodyOp) : Except OverrideError HeaderMap :=
  (upstreamAttempt json request index { lastError := request.errorBefore index } channel).2

/-- The context in which a channel's parameter override is applied if no earlier one took hold. -/
def freshContext (index : Nat) (last : Option NewAPIError) (channel : ChannelMeta Condition BodyOp) : OverrideContext Base :=
  buildParamOverrideContext request index (initChannelMeta { lastError := last } channel)

/-- A channel's parameter override does not take hold on an attempt: there is none, or it fails. -/
def NotApplied (index : Nat) (last : Option NewAPIError) (channel : ChannelMeta Condition BodyOp) : Prop :=
  channel.paramOverride.isEmpty=true ∨ ∃ error, applyParamOverride json channel.paramOverride (request.body channel)
      (freshContext request index last channel)=.error error

def guardedChannel (conditions : List Condition) : ChannelMeta Condition BodyOp :=
  { paramOverride := { operations := some [{ mode := .setHeader "x" (.rendered "1"), conditions, allOf := true }] } }

/-- Conditions can tell any two errors of the attempt before apart. -/
def TellsErrors : Prop :=
  ∀ index last last', last≠last' → ∃ conditions,
    let channel : ChannelMeta Condition BodyOp := guardedChannel conditions
    json.check (request.body channel) (freshContext request index last channel) conditions true=.ok true ∧
      json.check (request.body channel) (freshContext request index last' channel) conditions true=.ok false

def RelayHeaders.Untouched : Prop :=
  info.runtimeHeadersOverride=[] ∧ info.useRuntimeHeadersOverride=false

variable {json request}
variable {info : RelayHeaders Condition BodyOp} (channels : List (ChannelMeta Condition BodyOp))

theorem init_untouched (h : info.Untouched) (channel : ChannelMeta Condition BodyOp) :
    initChannelMeta info channel=initChannelMeta { lastError := info.lastError } channel := by
  cases info with
  | mk channelMeta runtime used last =>
    obtain ⟨rfl,rfl⟩ := h
    rfl

theorem attempt_untouched (h : info.Untouched) (index : Nat) (channel : ChannelMeta Condition BodyOp) :
    upstreamAttempt json request index info channel=upstreamAttempt json request index { lastError := info.lastError } channel := by
  unfold upstreamAttempt
  rw [init_untouched h]

theorem attempt_applied (index : Nat) (last : Option NewAPIError) (channel : ChannelMeta Condition BodyOp) :
    (upstreamAttempt json request index { lastError := last } channel).1.Untouched ∧
        NotApplied json request index last channel ∨
      (upstreamAttempt json request index { lastError := last } channel).1.useRuntimeHeadersOverride=true ∧
        ¬ NotApplied json request index last channel := by
  unfold upstreamAttempt applyParamOverrideWithRelayInfo NotApplied freshContext
  dsimp only
  have hmeta : (initChannelMeta ({ lastError := last } : RelayHeaders Condition BodyOp) channel).channelMeta=channel := rfl
  rw [hmeta]
  by_cases hempty : channel.paramOverride.isEmpty=true
  · rw [if_pos hempty]
    exact .inl ⟨⟨rfl,rfl⟩,.inl hempty⟩
  · rw [if_neg hempty]
    cases happly : applyParamOverride json channel.paramOverride (request.body channel)
        (buildParamOverrideContext request index (initChannelMeta { lastError := last } channel)) with
    | error error => exact .inl ⟨⟨rfl,rfl⟩,.inr ⟨error,rfl⟩⟩
    | ok result =>
      refine .inr ⟨rfl,?_⟩
      rintro (h | ⟨error,h⟩)
      · exact hempty h
      · cases h

theorem attempt_keeps_runtime (h : info.useRuntimeHeadersOverride=true) (index : Nat) (channel : ChannelMeta Condition BodyOp) :
    (upstreamAttempt json request index info channel).1.useRuntimeHeadersOverride=true := by
  unfold upstreamAttempt applyParamOverrideWithRelayInfo
  dsimp only
  split
  next next hnext =>
    split at hnext
    · rw [← Except.ok.inj hnext]
      exact h
    · cases happly : applyParamOverride json (initChannelMeta info channel).channelMeta.paramOverride
          (request.body (initChannelMeta info channel).channelMeta)
          (buildParamOverrideContext request index (initChannelMeta info channel)) with
      | error error =>
        rw [happly] at hnext
        cases hnext
      | ok result =>
        rw [happly] at hnext
        rw [← Except.ok.inj hnext]
        rfl
  · exact h

theorem infoAfter_runtime :
    ∀ (index : Nat) {info : RelayHeaders Condition BodyOp}, info.useRuntimeHeadersOverride=true →
      (infoAfter json request index info channels).useRuntimeHeadersOverride=true := by
  induction channels with
  | nil => exact fun _ _ h => h
  | cons channel channels ih => exact fun index info h => ih (index+1) (attempt_keeps_runtime h index channel)

/-- No parameter override takes hold on the attempts, each with the error of the one before it. -/
def NoneApplied (json : JsonEngine Body Base Condition BodyOp) (request : ClientRequest Body Base Condition BodyOp)
    (index : Nat) (info : RelayHeaders Condition BodyOp) (channels : List (ChannelMeta Condition BodyOp)) : Prop :=
  ∀ i channel, channels[i]? = some channel →
    NotApplied json request (index+i) (infoAfter json request index info (channels.take i)).lastError channel

theorem noneApplied_cons {index : Nat} {channel : ChannelMeta Condition BodyOp} :
    NoneApplied json request index info (channel::channels) ↔ NotApplied json request index info.lastError channel ∧
      NoneApplied json request (index+1) (upstreamAttempt json request index info channel).1 channels := by
  constructor
  · refine fun h => ⟨h 0 channel rfl,fun i later hi => ?_⟩
    have := h (i+1) later hi
    rwa [← Nat.add_assoc,Nat.add_right_comm] at this
  · rintro ⟨hfirst,hrest⟩ i later hi
    cases i with
    | zero =>
      obtain rfl : channel=later := Option.some.inj hi
      exact hfirst
    | succ i =>
      have := hrest i later hi
      rwa [Nat.add_right_comm,Nat.add_assoc] at this

theorem infoAfter_untouched :
    ∀ (index : Nat) {info : RelayHeaders Condition BodyOp}, info.Untouched →
      (infoAfter json request index info channels).Untouched ∧ NoneApplied json request index info channels ∨
      (infoAfter json request index info channels).useRuntimeHeadersOverride=true ∧
        ¬ NoneApplied json request index info channels := by
  induction channels with
  | nil => exact fun _ _ h => .inl ⟨h,fun i channel hi => (by cases hi)⟩
  | cons channel channels ih =>
    intro index info h
    rw [noneApplied_cons,infoAfter,attempt_untouched h]
    obtain ⟨huntouched,hnot⟩ | ⟨hused,happlied⟩ := @attempt_applied _ _ _ _ json request index info.lastError channel
    · rw [and_iff_right hnot]
      exact ih (index+1) huntouched
    · exact .inr ⟨infoAfter_runtime channels (index+1) hused,fun hnone => happlied hnone.1⟩

theorem runtime_leaks {info : RelayHeaders Condition BodyOp} (h : info.useRuntimeHeadersOverride=true) (index : Nat) :
    ∃ channel, (upstreamAttempt json request index info channel).2≠ownHeaderOverride json request index channel := by
  have hused : ∀ headers : HeaderMap, (upstreamAttempt json request index info { headersOverride := headers }).2 =
      .ok (sanitizeHeaderOverrideMap info.runtimeHeadersOverride) := by
    intro headers
    show Except.ok (getEffectiveHeaderOverride (initChannelMeta info _))=_
    exact congrArg Except.ok (if_pos h)
  have hown : ∀ headers : HeaderMap, ownHeaderOverride json request index { headersOverride := headers } =
      .ok (sanitizeHeaderOverrideMap headers) := fun _ => rfl
  by_cases hempty : sanitizeHeaderOverrideMap info.runtimeHeadersOverride=[]
  · refine ⟨{ headersOverride := [("x","1")] },?_⟩
    rw [hused,hown,hempty]
    intro heq
    have hsanitized : sanitizeHeaderOverrideMap [("x","1")]=[("x","1")] := by decide +kernel
    rw [hsanitized] at heq
    exact absurd (Except.ok.inj heq) (List.cons_ne_nil _ _).symm
  · refine ⟨{ headersOverride := [] },?_⟩
    rw [hused,hown]
    intro heq
    exact hempty (Except.ok.inj heq)

theorem guarded_applied {conditions : List Condition} {holds : Bool} (body : Body) (context : OverrideContext Base)
    (hown : context.headerOverride=[]) (h : json.check body context conditions true=.ok holds) :
    applyParamOverride json (guardedChannel conditions).paramOverride body context =
      .ok (body,if holds then { context with headerOverride := [("x","1")] } else context) := by
  have hset : setHeaderOverrideInContext context "x" (.rendered "1") false =
      .ok { context with headerOverride := [("x","1")] } := by
    have hname : normalizeHeaderContextKey "x" = "x" := by decide +kernel
    have hvalue : trimSpace "1" = "1" := by decide +kernel
    simp [setHeaderOverrideInContext,resolveHeaderOverrideValue,hname,hvalue,hown,HeaderMap.set,HeaderMap.delete,bind,
      Except.bind,pure,Except.pure]
  have hpass : applyParamOverride json (guardedChannel conditions).paramOverride body context =
      applyOperations json [{ mode := .setHeader "x" (.rendered "1"), conditions, allOf := true }] body context := rfl
  rw [hpass,applyOperations,applyOperation,h]
  cases holds with
  | false => rfl
  | true =>
    show ((failing (setHeaderOverrideInContext context "x" (.rendered "1") false)).bind fun set => .ok (body,set)).bind _=_
    rw [hset]
    rfl

theorem attempt_of_applied {index : Nat} {last : Option NewAPIError} {channel : ChannelMeta Condition BodyOp}
    {result : Body×OverrideContext Base} (hsome : channel.paramOverride.isEmpty=false)
    (h : applyParamOverride json channel.paramOverride (request.body channel) (freshContext request index last channel) =
      .ok result) :
    (upstreamAttempt json request index { lastError := last } channel).2 =
      .ok (sanitizeHeaderOverrideMap (sanitizeHeaderOverrideMap result.2.headerOverride)) := by
  have hinfo : applyParamOverrideWithRelayInfo json request index (initChannelMeta { lastError := last } channel) =
      .ok (syncRuntimeHeaderOverrideFromContext (initChannelMeta { lastError := last } channel) result.2) := by
    rw [applyParamOverrideWithRelayInfo,if_neg (by rw [initChannelMeta,hsome]; exact Bool.false_ne_true)]
    exact congrArg (Except.map _) h
  rw [upstreamAttempt,hinfo]
  rfl

theorem guarded_used {index : Nat} {last : Option NewAPIError} {conditions : List Condition} {holds : Bool}
    (h : json.check (request.body (guardedChannel conditions)) (freshContext request index last (guardedChannel conditions))
      conditions true=.ok holds) :
    (upstreamAttempt json request index { lastError := last } (guardedChannel conditions)).2 =
      .ok (if holds then [("x","1")] else []) := by
  have hsanitized : sanitizeHeaderOverrideMap (sanitizeHeaderOverrideMap [("x","1")])=[("x","1")] := by decide +kernel
  rw [attempt_of_applied rfl (guarded_applied _ _ rfl h)]
  cases holds with
  | false => rfl
  | true => exact congrArg Except.ok hsanitized

end Attempts

def noJson : JsonEngine Unit Unit Unit Unit where
  check _ _ _ _ := .ok true
  operate _ body _ := .ok body
  read _ _ := none
  write body _ _ := .ok body

def plainRequest : ClientRequest Unit Unit Unit Unit :=
  { headers := [], body := fun _ => (), base := fun _ _ _ => (), upstreamError := fun _ => ⟨500,"refused","","",false⟩ }

def credentialChannel : ChannelMeta Unit Unit :=
  { paramOverride := { operations := some [{ mode := .setHeader "Authorization" (.rendered "Bearer first") }] } }

def headerChannel : ChannelMeta Unit Unit := { headersOverride := [("X-Own","second")] }

/-- Conditions that compare the error before the attempt. -/
def errorJson : JsonEngine Unit (Option NewAPIError) (Option NewAPIError) Unit where
  check _ context conditions _ := .ok (conditions.all (· = context.base))
  operate _ body _ := .ok body
  read _ _ := none
  write body _ _ := .ok body

def refusedRequest : ClientRequest Unit (Option NewAPIError) (Option NewAPIError) Unit :=
  { headers := [], body := fun _ => (), base := fun _ last _ => last, upstreamError := fun _ => ⟨500,"refused","","",false⟩ }

def returningChannel : ChannelMeta (Option NewAPIError) Unit :=
  { paramOverride := { operations := some [{ mode := .returnError (.ok { message := "next", skipRetry := false }) }] } }

/-- An error that the first channel's override returns is seen by the conditions of the second, though no override took hold. -/
theorem returned_error_reaches_next_channel : TellsErrors errorJson refusedRequest ∧
    NoneApplied errorJson refusedRequest 0 {} [returningChannel] ∧
    headerOverrideUsed errorJson refusedRequest [returningChannel] (guardedChannel [refusedRequest.errorBefore 1])=.ok [] ∧
    headerOverrideUsed errorJson refusedRequest [{}] (guardedChannel [refusedRequest.errorBefore 1])=.ok [("x","1")] := by
  refine ⟨fun index last last' hne => ⟨[last],?_,?_⟩,fun i channel hi => ?_,by decide +kernel,by decide +kernel⟩
  · exact congrArg Except.ok (by simp [freshContext,buildParamOverrideContext,refusedRequest,initChannelMeta])
  · exact congrArg Except.ok (by simp [freshContext,buildParamOverrideContext,refusedRequest,initChannelMeta,hne])
  · cases i with
    | zero =>
      obtain rfl : returningChannel=channel := Option.some.inj hi
      exact .inr ⟨_,rfl⟩
    | succ i => cases hi

end NewApi.Relay
