import Mathlib.Algebra.GroupWithZero.Nat
import Mathlib.Data.List.Dedup
import Mathlib.Data.List.Sort
import NewApi.Lib.GoStrings

/-! Channel selection, from the memory cache (`model/channel_cache.go`) and from the database (`model/ability.go`). A draw
of `rand.Intn` is given by a function of its bound. -/
namespace NewApi.Routing

open GoStrings

def splitComma (s : String) : List String := (s.toList.splitOn ',').map String.ofList

inductive ChannelType where
  | taskPlugin
  | advancedCustom
  | other (type : Nat)
  deriving DecidableEq

structure Channel (Config : Type) where
  id : Nat
  type : ChannelType := .other 1
  enabled : Bool := true
  weight : Option Nat := none
  priority : Option Int := none
  models : String
  group : String
  taskPluginKey : String := ""
  advancedCustom : Option Config := none
  deriving DecidableEq

structure Ability where
  group : String
  model : String
  channelId : Nat
  enabled : Bool
  priority : Option Int
  weight : Nat

variable {Config : Type}

def Channel.getPriority (c : Channel Config) : Int := c.priority.getD 0

def Channel.getWeight (c : Channel Config) : Nat := c.weight.getD 0

def Ability.getPriority (a : Ability) : Int := a.priority.getD 0

structure Tables (Config : Type) where
  channels : List (Channel Config)
  abilities : List Ability

/-- What selection takes from outside: the plugin that is registered for a path, the routes of a custom channel's
configuration, and which channels have a free slot. -/
structure Surroundings (Config : Type) where
  declaredPlugin : String → Option String
  supportsPathForModel : Config → String → String → Bool
  available : Channel Config → Bool

structure Query where
  group : String
  model : String
  retry : Int
  requestPath : String
  excluded : List Nat := []

inductive SelectError where
  | inconsistent (channelId : Nat)
  | concurrencyLimitReached
  | channelNotFound
  | autoGroupsNotEnabled
  deriving DecidableEq

def handleThinkingBudgetModel (name start wildcard : String) : String :=
  if hasPrefix name start && contains name "-thinking-" then wildcard else name

def formatMatchingModelName (name : String) : String :=
  let name :=
    if hasPrefix name "gemini-2.5-flash-lite" then
      handleThinkingBudgetModel name "gemini-2.5-flash-lite" "gemini-2.5-flash-lite-thinking-*"
    else if hasPrefix name "gemini-2.5-flash" then
      handleThinkingBudgetModel name "gemini-2.5-flash" "gemini-2.5-flash-thinking-*"
    else if hasPrefix name "gemini-2.5-pro" then
      handleThinkingBudgetModel name "gemini-2.5-pro" "gemini-2.5-pro-thinking-*"
    else name
  let name := if hasPrefix name "gpt-4-gizmo" then "gpt-4-gizmo-*" else name
  if hasPrefix name "gpt-4o-gizmo" then "gpt-4o-gizmo-*" else name

section Filter
variable (around : Surroundings Config)

def taskPluginChannelMatchesPath (c : Channel Config) (requestPath : String) : Bool :=
  if hasPrefix requestPath "/v1/task/plugins/" then
    let key := String.ofList ((requestPath.toList.drop "/v1/task/plugins/".length).takeWhile (· ≠ '/'))
    key≠"" && c.type=.taskPlugin && c.taskPluginKey=key
  else match around.declaredPlugin requestPath with
    | some key => c.type=.taskPlugin && c.taskPluginKey=key
    | none => c.type≠.taskPlugin

def customSupports (config : Option Config) (requestPath model : String) : Bool :=
  requestPath="" || config.any fun config => around.supportsPathForModel config requestPath model

end Filter

def sortedPriorities (priorities : List Int) : List Int := priorities.dedup.insertionSort (· ≥ ·)

def clampRetry (retry : Int) (tiers : Nat) : Nat := min retry.toNat (tiers-1)

structure ChannelCache (Config : Type) where
  group2model2channels : String → String → List Nat
  channelsIDM : Nat → Option (Channel Config)
  channel2advancedCustomConfig : Nat → Option Config

/-- The ids that an enabled channel appends to the list of a group and a model: one for each pair of names in its
columns. -/
def listedIds (group model : String) (c : Channel Config) : List Nat :=
  (splitComma c.group).flatMap fun g => (splitComma c.models).flatMap fun m => if g=group ∧ m=model then [c.id] else []

def initChannelCache (tables : Tables Config) : ChannelCache Config :=
  let channelsIDM : Nat → Option (Channel Config) := fun id => tables.channels.find? (·.id=id)
  let priorityOf : Nat → Int := fun id => ((channelsIDM id).map (·.getPriority)).getD 0
  { channelsIDM := channelsIDM
    channel2advancedCustomConfig := fun id =>
      (channelsIDM id).bind fun c => if c.type=.advancedCustom then c.advancedCustom else none
    group2model2channels := fun group model =>
      ((tables.channels.filter (·.enabled)).flatMap (listedIds group model)).insertionSort fun (a b : Nat) =>
        priorityOf a≥priorityOf b }

section Cache
variable (around : Surroundings Config) (cache : ChannelCache Config)

def filterChannelsByRequestPathAndModel (channels : List Nat) (requestPath model : String) : List Nat :=
  channels.filter fun id => match cache.channelsIDM id with
    | none => true
    | some c => taskPluginChannelMatchesPath around c requestPath &&
        (c.type≠.advancedCustom || customSupports around (cache.channel2advancedCustomConfig id) requestPath model)

def cacheCandidates (q : Query) : List Nat :=
  let direct := filterChannelsByRequestPathAndModel around cache (cache.group2model2channels q.group q.model)
    q.requestPath q.model
  if direct.isEmpty then
    filterChannelsByRequestPathAndModel around cache
      (cache.group2model2channels q.group (formatMatchingModelName q.model)) q.requestPath q.model
  else direct

/-- The loop of `rand` over the channels of a tier, with the share of each: the first that takes the draw below zero. -/
def drawBelowZero {α : Type} (share : α → Nat) (draw : Int) : List α → Option α
  | [] => none
  | a::rest => if draw-share a<0 then some a else drawBelowZero share (draw-share a) rest

def tierShare (targets : List (Channel Config)) (c : Channel Config) : Nat :=
  let sumWeight := (targets.map (·.getWeight)).sum
  if sumWeight=0 then 100
  else if sumWeight / targets.length<10 then c.getWeight*100
  else c.getWeight

def pickFromTier (intn : Nat → Nat) (targets : List (Channel Config)) : Option (Channel Config) :=
  let sumWeight := (targets.map (·.getWeight)).sum
  let totalWeight := if sumWeight=0 then targets.length*100
    else if sumWeight / targets.length<10 then sumWeight*100 else sumWeight
  drawBelowZero (tierShare targets) (intn totalWeight) targets

def cacheTiers (intn : Nat → Nat) (candidates : List (Channel Config)) (excluded : List Nat) :
    List Int → Bool → Except SelectError (Option (Channel Config))
  | [], sawAvailable => .error (if sawAvailable then .channelNotFound else .concurrencyLimitReached)
  | priority::priorities, sawAvailable =>
    let targets := candidates.filter fun c => c.getPriority=priority && c.id∉excluded && around.available c
    if targets.isEmpty then cacheTiers intn candidates excluded priorities sawAvailable
    else match pickFromTier intn targets with
      | some c => .ok (some c)
      | none => cacheTiers intn candidates excluded priorities true

def getFromCache (q : Query) (intn : Nat → Nat) : Except SelectError (Option (Channel Config)) :=
  let ids := cacheCandidates around cache q
  match ids.find? fun id => (cache.channelsIDM id).isNone with
  | some id => .error (.inconsistent id)
  | none =>
    let candidates := ids.filterMap cache.channelsIDM
    let priorities := sortedPriorities ((candidates.filter fun c => c.id∉q.excluded).map (·.getPriority))
    if priorities.isEmpty then .ok none
    else cacheTiers around intn candidates q.excluded (priorities.drop (clampRetry q.retry priorities.length)) false

end Cache

section Database
variable (around : Surroundings Config) (tables : Tables Config)

def filterAbilitiesByRequestPathAndModel (abilities : List Ability) (requestPath model : String) : List Ability :=
  abilities.filter fun a => (tables.channels.find? (·.id=a.channelId)).any fun c =>
    taskPluginChannelMatchesPath around c requestPath &&
      (c.type≠.advancedCustom || customSupports around c.advancedCustom requestPath model)

def queriedAbilities (q : Query) : List Ability :=
  let ids := q.excluded.filter (· > 0)
  (tables.abilities.filter fun a => a.group=q.group && a.model=q.model && a.enabled && a.channelId∉ids).insertionSort
    fun a b => a.getPriority>b.getPriority ∨ a.getPriority=b.getPriority ∧ a.weight≥b.weight

/-- The loop of `GetRandomInt` over the rows of a tier: the first that takes the draw to zero or below. -/
def drawToZero {α : Type} (share : α → Nat) (draw : Int) : List α → Option α
  | [] => none
  | a::rest => if draw-share a≤0 then some a else drawToZero share (draw-share a) rest

/-- The rows of a tier whose channels have a free slot; an error is a row without its channel. -/
def targetAbilities (priority : Int) : List Ability → Except SelectError (List Ability)
  | [] => .ok []
  | a :: rest =>
    if a.getPriority≠priority then targetAbilities priority rest
    else match tables.channels.find? (·.id=a.channelId) with
      | none => .error (.inconsistent a.channelId)
      | some c => (targetAbilities priority rest).map fun later => if around.available c then a::later else later

def databaseTiers (intn : Nat → Nat) (abilities : List Ability) :
    List Int → Bool → Except SelectError (Option (Channel Config))
  | [], sawAvailable => if sawAvailable then .ok none else .error .concurrencyLimitReached
  | priority::priorities, sawAvailable => do
    let targets ← targetAbilities around tables priority abilities
    if targets.isEmpty then databaseTiers intn abilities priorities sawAvailable
    else match drawToZero (·.weight+10) (intn (targets.map (·.weight+10)).sum) targets with
      | some a =>
        if a.channelId=0 then databaseTiers intn abilities priorities true
        else match tables.channels.find? (·.id=a.channelId) with
          | some c => .ok (some c)
          | none => .error (.inconsistent a.channelId)
      | none => databaseTiers intn abilities priorities true

def getFromDatabase (q : Query) (intn : Nat → Nat) : Except SelectError (Option (Channel Config)) :=
  let abilities := filterAbilitiesByRequestPathAndModel around tables (queriedAbilities tables q) q.requestPath q.model
  if abilities.isEmpty then .ok none
  else
    let priorities := sortedPriorities (abilities.map (·.getPriority))
    databaseTiers around tables intn abilities (priorities.drop (clampRetry q.retry priorities.length)) false

end Database

def getRandomSatisfiedChannelWithSelectionExclusions (around : Surroundings Config) (memoryCacheEnabled : Bool)
    (cache : ChannelCache Config) (tables : Tables Config) (q : Query) (intn : Nat → Nat) :
    Except SelectError (Option (Channel Config)) :=
  if memoryCacheEnabled then getFromCache around cache q intn else getFromDatabase around tables q intn

def Channel.projects (c : Channel Config) (a : Ability) : Prop :=
  a.group∈splitComma c.group ∧ a.model∈splitComma c.models ∧ a.channelId=c.id ∧ a.enabled=c.enabled ∧
    a.priority=c.priority ∧ a.weight=c.getWeight

/-- Consistent tables: channel ids are positive and name one channel, and the ability rows are the projections of the
channels, each once. -/
structure Tables.Consistent (tables : Tables Config) : Prop where
  ids : (tables.channels.map (·.id)).Nodup
  positive : ∀ c∈tables.channels, 0<c.id
  rows : ∀ a, a∈tables.abilities ↔ ∃ c∈tables.channels, c.projects a
  nodup : tables.abilities.Nodup

def CanReturn (select : (Nat → Nat) → Except SelectError (Option (Channel Config)))
    (result : Except SelectError (Option (Channel Config))) : Prop :=
  ∃ intn : Nat → Nat, (∀ n, 0<n → intn n<n) ∧ select intn=result

end NewApi.Routing
