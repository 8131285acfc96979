import Mathlib.Algebra.Group.Nat.Defs
import NewApi.Filter.Text
import NewApi.Lib.GoStrings

/-! The rules of the filter (`setting/sensitive.go`) and the routes they hold for (`service/request_filter.go`). What is
read from the database is a parameter, and so is `unicode.ToLower`. -/
namespace NewApi.Filter

open GoStrings

structure PolicyRule where
  id : String := ""
  name : String := ""
  enabled : Bool := true
  action : String := "block"
  scope : String := "request"
  replacement : String := ""
  keywords : List String := []
  groupRefs : List String := []
  targetType : String := ""
  channelIds : List Int := []
  channelTags : List String := []
  groupCodes : List String := []
  deriving DecidableEq

structure SensitivePolicySnapshot where
  checkEnabled : Bool := true
  checkOnPromptEnabled : Bool := true
  words : List String := []
  rules : List PolicyRule := []
  rulesConfigured : Bool := true
  legacyChannelIds : List Int := []

def SensitivePolicySnapshot.shouldCheckPromptSensitive (p : SensitivePolicySnapshot) : Bool :=
  p.checkEnabled && p.checkOnPromptEnabled

section Normalize
variable (lower : Char → Char)

def lowered (s : String) : String := String.ofList (s.toList.map lower)

def distinct {α β : Type} [DecidableEq β] (key : α → β) : List β → List α → List α
  | _, [] => []
  | seen, a::rest => if key a∈seen then distinct key seen rest else a::distinct key (key a::seen) rest

def normalizeTexts (texts : List String) : List String :=
  distinct (lowered lower) [] ((texts.map trimSpace).filter (· ≠ ""))

def normalizeSensitiveRuleChannelIds (ids : List Int) : List Int :=
  (distinct id [] (ids.filter (0 < ·))).insertionSort (· ≤ ·)

def normalizeSensitiveRuleChannelTags (tags : List String) : List String :=
  (distinct id [] ((tags.map trimSpace).filter (· ≠ ""))).insertionSort (· ≤ ·)

def normalizeSensitiveRuleGroupCodes (codes : List String) : List String :=
  (distinct id [] ((codes.map trimSpace).filter fun code => code≠"" && !equalFold code "auto")).insertionSort (· ≤ ·)

def PolicyRule.normalizeTargets (rule : PolicyRule) : PolicyRule :=
  match rule.targetType with
  | "channels" =>
    { rule with channelIds := normalizeSensitiveRuleChannelIds rule.channelIds, channelTags := [], groupCodes := [] }
  | "channel_tags" =>
    { rule with channelIds := [], channelTags := normalizeSensitiveRuleChannelTags rule.channelTags, groupCodes := [] }
  | "groups" =>
    { rule with channelIds := [], channelTags := [], groupCodes := normalizeSensitiveRuleGroupCodes rule.groupCodes }
  | "routes" =>
    { rule with
      channelIds := normalizeSensitiveRuleChannelIds rule.channelIds, channelTags := [],
      groupCodes := normalizeSensitiveRuleGroupCodes rule.groupCodes }
  | "all" => { rule with channelIds := [], channelTags := [], groupCodes := [] }
  | _ => { rule with targetType := "", channelIds := [], channelTags := [], groupCodes := [] }

/-- The body of the loop of `NormalizeSensitiveRules`; a rule without content is dropped. -/
def normalizeSensitiveRule (rule : PolicyRule) : Option PolicyRule :=
  let action := trimSpace (toLower rule.action)
  let action := if action≠"mask" && action≠"block" then "block" else action
  let scope := trimSpace (toLower rule.scope)
  let replacement := trimSpace rule.replacement
  let rule := PolicyRule.normalizeTargets { rule with
    id := trimSpace rule.id
    name := trimSpace rule.name
    action := action
    scope := if scope≠"request" && scope≠"response" && scope≠"both" then "request" else scope
    replacement := if action="mask" && replacement="" then "[REDACTED]" else replacement
    keywords := normalizeTexts lower rule.keywords
    groupRefs := normalizeTexts lower rule.groupRefs
    targetType := trimSpace (toLower rule.targetType) }
  match rule.keywords++rule.groupRefs with
  | [] => none
  | fallbackName::_ => some { rule with
      id := if rule.id="" then lowered lower fallbackName else rule.id
      name := if rule.name="" then fallbackName else rule.name }

def normalizeSensitiveRules (rules : List PolicyRule) : List PolicyRule := rules.filterMap (normalizeSensitiveRule lower)

def SensitivePolicySnapshot.getEffectiveSensitiveRules (p : SensitivePolicySnapshot) : List PolicyRule :=
  let rules := normalizeSensitiveRules lower p.rules
  if !rules.isEmpty then rules
  else if p.rulesConfigured then []
  else
    let keywords := normalizeTexts lower p.words
    if keywords.isEmpty then []
    else [{ id := "legacy-sensitive-words", name := "Legacy sensitive words", action := "block", scope := "request",
            keywords := keywords }]

def SensitivePolicySnapshot.getEffectiveSensitiveRulesByScope (p : SensitivePolicySnapshot) (scope : String) :
    List PolicyRule :=
  (p.getEffectiveSensitiveRules lower).filter fun rule => rule.scope=scope || rule.scope="both"

def expandSensitiveRuleGroupRefs (groupKeywords : String → List String) (rules : List PolicyRule) : List PolicyRule :=
  rules.map fun rule =>
    if rule.groupRefs.isEmpty then rule
    else { rule with
      keywords := normalizeTexts lower
        (rule.keywords++rule.groupRefs.flatMap fun ref => groupKeywords (lowered lower (trimSpace ref))) }

def PolicyRule.toRule (rule : PolicyRule) : SensitiveRule :=
  { id := rule.id, name := rule.name, enabled := rule.enabled,
    action := if rule.action="mask" then .mask else .block, replacement := rule.replacement, keywords := rule.keywords }

def newRulesFilter (groupKeywords : String → List String) (rules : List PolicyRule) : SensitiveTextFilter :=
  newSensitiveTextFilter lower
    ((expandSensitiveRuleGroupRefs lower groupKeywords (normalizeSensitiveRules lower rules)).map PolicyRule.toRule)

def SensitiveTextFilter.empty (f : SensitiveTextFilter) : Bool := f.blockRules.isEmpty && f.maskRules.isEmpty

end Normalize

structure SensitiveRuleTargets where
  channelIds : List Int := []
  channelTags : List String := []
  groupCodes : List String := []
  all : Bool := false

def SensitivePolicySnapshot.resolveSensitiveRuleTargets (p : SensitivePolicySnapshot) (rule : PolicyRule) :
    SensitiveRuleTargets :=
  match rule.targetType with
  | "channels" => { channelIds := normalizeSensitiveRuleChannelIds rule.channelIds }
  | "channel_tags" => { channelTags := normalizeSensitiveRuleChannelTags rule.channelTags }
  | "groups" => { groupCodes := normalizeSensitiveRuleGroupCodes rule.groupCodes }
  | "routes" =>
    { channelIds := normalizeSensitiveRuleChannelIds rule.channelIds,
      groupCodes := normalizeSensitiveRuleGroupCodes rule.groupCodes }
  | "all" => { all := true }
  | _ => { channelIds := normalizeSensitiveRuleChannelIds p.legacyChannelIds }

structure RouteScope where
  channelId : Int := 0
  channelTag : String := ""
  channelTagKnown : Bool := false
  channelGroupCodes : List String := []
  channelGroupsKnown : Bool := false
  channelEligible : Bool := false
  channelEligibilityKnown : Bool := false
  candidateGroupCodes : List String := []
  before : Bool := false
  unknownCandidateGroups : Bool := false

section Select
variable (lower : Char → Char) (route : RouteScope)

def containsSensitiveRouteId (ids : List Int) (target : Int) : Bool := 0<target && ids.any (· = target)

def sensitiveChannelTargetsMatchRoute (ids : List Int) : Bool :=
  !ids.isEmpty && 0<route.channelId && containsSensitiveRouteId ids route.channelId

def sensitiveTagTargetsMatchRoute (tags : List String) : Bool :=
  !tags.isEmpty && 0<route.channelId && (!route.channelTagKnown || tags.any (trimSpace · = route.channelTag))

def sensitiveStringTargetsIntersect (left right : List String) : Bool :=
  right.any fun value => left.any fun other => lowered lower (trimSpace other)=lowered lower (trimSpace value)

def sensitiveGroupTargetsMatchRoute (groups : List String) : Bool :=
  if groups.isEmpty then false
  else if 0<route.channelId then
    !route.channelGroupsKnown || sensitiveStringTargetsIntersect lower groups route.channelGroupCodes
  else if !route.before then false
  else if route.unknownCandidateGroups || route.candidateGroupCodes.isEmpty then false
  else sensitiveStringTargetsIntersect lower groups route.candidateGroupCodes

def ruleSelected (policy : SensitivePolicySnapshot) (rule : PolicyRule) : Bool :=
  let targets := policy.resolveSensitiveRuleTargets rule
  rule.enabled && ((rule.targetType="" && route.before && route.channelId≤0 && !targets.channelIds.isEmpty) ||
      sensitiveChannelTargetsMatchRoute route targets.channelIds ||
      sensitiveTagTargetsMatchRoute route targets.channelTags ||
      sensitiveGroupTargetsMatchRoute lower route targets.groupCodes || targets.all)

def selectSensitiveRulesForRoute (rules : List PolicyRule) (policy : SensitivePolicySnapshot) : List PolicyRule :=
  if route.before && 0<route.channelId && route.channelEligibilityKnown && !route.channelEligible then []
  else rules.filter (ruleSelected lower route policy)

def sensitivePrecheckAllowed (rules : List PolicyRule) (policy : SensitivePolicySnapshot) : Bool :=
  if !route.before then true
  else (rules.all fun rule => !rule.enabled || 0<route.channelId ||
      let targets := policy.resolveSensitiveRuleTargets rule
      !(!targets.all && (rule.targetType≠"" || targets.channelIds.isEmpty))) &&
    rules.any (·.enabled)

end Select

structure RouteChannel where
  id : Int
  positive : 0 < id
  enabled : Bool := true
  tag : Option String := none
  groupDetails : Option (List String) := none
  deriving DecidableEq

def RouteChannel.tagText (channel : RouteChannel) : String := (channel.tag.map trimSpace).getD ""

def RouteChannel.sensitiveChannelGroupCodes (channel : RouteChannel) : List String :=
  (channel.groupDetails.getD []).filter (trimSpace · ≠ "")

/-- What the filter reads from the database; a failed read gives nothing. -/
structure RouteDatabase where
  getChannelById : Int → Option RouteChannel
  getChannelGroupCodes : Int → Option (List String)
  getGroupByCodeOrAlias : String → Option String
  found : ∀ id channel, getChannelById id=some channel → channel.id=id

structure RouteContext where
  specificChannel : Option String := none
  selectedChannel : Option RouteChannel := none
  channelId : Int := 0
  selectedGroup : String := ""
  autoGroup : String := ""
  usingGroup : String := ""
  tokenGroup : String := ""
  tokenGroupMode : String := ""
  userGroup : String := ""
  prechecked : Bool := false

def atoiDigits : List Char → Option Nat
  | [] => none
  | digits =>
    if digits.all Char.isDigit then
      let value := digits.foldl (fun acc c => 10*acc+(c.toNat-48)) 0
      if value<2 ^ 63 then some value else none
    else none

/-- The lowest number of the type is left out. -/
def atoi (s : String) : Option Int :=
  match s.toList with
  | '-' :: digits => (atoiDigits digits).map fun n : Nat => -(n : Int)
  | '+' :: digits => (atoiDigits digits).map fun n : Nat => (n : Int)
  | digits => (atoiDigits digits).map fun n : Nat => (n : Int)

def RouteContext.sensitiveFixedChannelId (c : RouteContext) : Int :=
  match c.specificChannel.bind fun text => atoi (trimSpace text) with
  | some id => if id≤0 then 0 else id
  | none => 0

def sensitiveRouteGroupCodes (value : String) : List String :=
  distinct id [] ((((value.toList.splitOn ',').map String.ofList).map trimSpace).filter fun part =>
    part≠"" && !equalFold part "auto")

section Resolve
variable (db : RouteDatabase) (c : RouteContext)

def fixedChannelRoute (channel : RouteChannel) (codes : Option (List String)) : RouteScope :=
  { channelId := c.sensitiveFixedChannelId, before := true,
    channelEligibilityKnown := true, channelEligible := channel.enabled,
    channelTagKnown := true, channelTag := channel.tagText,
    channelGroupCodes := codes.getD [], channelGroupsKnown := codes.isSome }

def resolveSensitiveRouteBeforeDistribution (requestedGroup : String) : RouteScope :=
  let fixed := c.sensitiveFixedChannelId
  let requestedGroup := trimSpace requestedGroup
  if 0<fixed then
    match c.selectedChannel.filter (·.id=fixed) with
    | some channel =>
      if channel.groupDetails.isSome then fixedChannelRoute c channel (some channel.sensitiveChannelGroupCodes)
      else fixedChannelRoute c channel (db.getChannelGroupCodes fixed)
    | none =>
      match db.getChannelById fixed with
      | some channel => fixedChannelRoute c channel (db.getChannelGroupCodes fixed)
      | none => { channelId := fixed, before := true }
  else if requestedGroup≠"" then
    if equalFold requestedGroup "auto" then { before := true, unknownCandidateGroups := true }
    else match db.getGroupByCodeOrAlias requestedGroup with
      | some code => { before := true, candidateGroupCodes := [code] }
      | none => { before := true, unknownCandidateGroups := true }
  else
    let usingGroup := if trimSpace c.usingGroup="" then trimSpace c.userGroup else trimSpace c.usingGroup
    let tokenGroup := if trimSpace c.tokenGroup="" then usingGroup else trimSpace c.tokenGroup
    if equalFold usingGroup "auto" || equalFold tokenGroup "auto" || toLower (trimSpace c.tokenGroupMode)="auto" then
      { before := true, unknownCandidateGroups := true }
    else
      let codes := sensitiveRouteGroupCodes tokenGroup
      let codes := if codes.isEmpty then sensitiveRouteGroupCodes usingGroup else codes
      { before := true, candidateGroupCodes := codes, unknownCandidateGroups := codes.isEmpty }

def resolveSensitiveChannelTag (channelId : Int) : String×Bool :=
  match c.selectedChannel.filter (·.id=channelId) with
  | some channel => (channel.tagText,true)
  | none => match db.getChannelById channelId with
    | some channel => (channel.tagText,true)
    | none => ("",false)

def resolveSensitiveSelectedRoute : RouteScope :=
  if 0<c.channelId then
    let tag := resolveSensitiveChannelTag db c c.channelId
    let selectedGroup := trimSpace c.selectedGroup
    let groups :=
      if selectedGroup≠"" then some [selectedGroup]
      else match c.selectedChannel.filter fun channel => channel.id=c.channelId && channel.groupDetails.isSome with
        | some channel => some channel.sensitiveChannelGroupCodes
        | none => db.getChannelGroupCodes c.channelId
    { channelId := c.channelId, channelTag := tag.1, channelTagKnown := tag.2,
      channelGroupCodes := groups.getD [], channelGroupsKnown := groups.isSome }
  else {}

def selectSensitiveRulesForSelectedRoute (lower : Char → Char) (rules : List PolicyRule)
    (policy : SensitivePolicySnapshot) : List PolicyRule :=
  selectSensitiveRulesForRoute lower (resolveSensitiveSelectedRoute db c) rules policy

end Resolve

end NewApi.Filter
