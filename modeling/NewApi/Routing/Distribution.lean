import Mathlib.Data.Rat.Defs
import NewApi.Groups.Directory
import NewApi.Routing.Retries

/-! The group of a request on its way from `Distribute` (`middleware/distributor.go`) through the loop of `Relay`
(`controller/relay.go`): the keys of the context that name it, and the group that sets the price
(`relay/helper/price.go`). -/
namespace NewApi.Routing

open GoStrings

/-- The lease of a user's slot in a group, with the code the group had when the lease was taken or last confirmed. -/
structure GroupUserLease where
  groupID : Nat
  code : String

structure RouteContext (Config : Type) extends RequestContext where
  usingGroup : String := ""
  selectedChannelGroup : String := ""
  selectedChannel : Option (Channel Config) := none
  groupUserConcurrency : Option GroupUserLease := none

structure GroupRatioInfo where
  groupRatio : Rat := 1
  groupSpecialRatio : Rat := -1
  hasSpecialRatio : Bool := false
  deriving DecidableEq

structure RelayInfo where
  usingGroup : String := ""
  groupRatioInfo : GroupRatioInfo := {}

structure Ratios where
  getGroupGroupRatio : String → String → Option Rat
  getGroupRatio : String → Rat

structure RouteRequest where
  usingGroup : String
  tokenGroup : String
  tokenGroups : List String := []
  autoGroups : List String := []
  userGroup : String
  modelName : String
  requestPath : String
  retryTimes : Nat
  ratios : Ratios

structure Draw (Config : Type) where
  select : Query → (Nat → Nat) → Except SelectError (Option (Channel Config))
  intn : Nat → Nat

inductive Slot where
  | unlimited
  | refused
  | granted

/-- What a set-up finds: whether the checks before the group pass and the channel has a slot, the groups, the slots of the
user, and whether the channel has a key. -/
structure SetUp where
  admitted : Bool := true
  lookup : String → Option Groups.Group
  slot : Groups.Group → Slot
  key : Bool := true

inductive SetupError where
  | notAdmitted
  | groupUserLimitReached
  | noKey

/-- A channel that an affinity binding prefers, and the groups it is enabled in for the model. -/
structure Preferred (Config : Type) where
  channel : Channel Config
  enabledFor : String → Bool

variable {Config : Type}

section Price
variable (ratios : Ratios) (userGroup : String)

def groupRatioFor (usingGroup : String) : GroupRatioInfo :=
  match ratios.getGroupGroupRatio userGroup usingGroup with
  | some ratio => { groupRatio := ratio, groupSpecialRatio := ratio, hasSpecialRatio := true }
  | none => { groupRatio := ratios.getGroupRatio usingGroup }

def handleGroupRatio (ctx : RouteContext Config) (info : RelayInfo) : RelayInfo :=
  let usingGroup := if ctx.autoGroup="" then info.usingGroup else ctx.autoGroup
  { usingGroup := usingGroup, groupRatioInfo := groupRatioFor ratios userGroup usingGroup }

end Price

section SettingUp

def acquireGroupUserSlot (setUp : SetUp) (group : Groups.Group) (code : String) : Option GroupUserLease×Bool :=
  match setUp.slot group with
  | .unlimited => (none,true)
  | .refused => (none,false)
  | .granted => (some { groupID := group.id, code := code },true)

def tryAcquireGroupUserConcurrencyForContext (setUp : SetUp) (group : Groups.Group) (code : String) :
    Option GroupUserLease → Option GroupUserLease×Bool
  | some lease =>
    if lease.groupID=group.id then (some { lease with code := code },true) else acquireGroupUserSlot setUp group code
  | none => acquireGroupUserSlot setUp group code

def RouteContext.groupToSetUp (ctx : RouteContext Config) : String :=
  if ctx.selectedChannelGroup≠"" then ctx.selectedChannelGroup
  else if ctx.autoGroup≠"" then ctx.autoGroup
  else ctx.usingGroup

def setupContextForSelectedChannel (setUp : SetUp) (channel : Channel Config) (ctx : RouteContext Config) :
    RouteContext Config×Option SetupError :=
  if !setUp.admitted then (ctx,some .notAdmitted)
  else
    let group := ctx.groupToSetUp
    let ctx := { ctx with selectedChannel := some channel, selectedChannelGroup := group }
    let keyed := if setUp.key then none else some SetupError.noKey
    match (if group="" then none else setUp.lookup group) with
    | none => (ctx,keyed)
    | some found =>
      let (lease,acquired) := tryAcquireGroupUserConcurrencyForContext setUp found group ctx.groupUserConcurrency
      ({ ctx with groupUserConcurrency := lease },if acquired then keyed else some .groupUserLimitReached)

end SettingUp

/-- An attempt: the group whose candidates offered its channel, the group recorded with the channel, the one whose slot is
held, the one that rules are matched with, and the one that sets the price. -/
structure RouteAttempt where
  served : String
  recorded : String
  charged : Option String
  targeted : Option String
  priced : String
  ratio : GroupRatioInfo
  deriving DecidableEq

inductive Phase where
  | arrived
  | fallback (left : Nat) (excluded : List Nat)
  | ready
  | relaying (param : RetryParam)
  | ended

/-- A request under way; `served` is the group whose candidates offered the selected channel. -/
structure RouteState (Config : Type) where
  phase : Phase := .arrived
  ctx : RouteContext Config
  info : RelayInfo := {}
  served : String := ""
  log : List RouteAttempt := []

inductive RouteAct (Config : Type) where
  | distribute (preferred : Option (Preferred Config)) (draw : Draw Config) (setUp : SetUp)
  | fallback (draw : Draw Config) (setUp : SetUp)
  | relay
  | retry (draw : Draw Config) (setUp : SetUp)

def Draw.cacheGet (draw : Draw Config) (param : RetryParam) (ctx : RouteContext Config) :
    RouteContext Config×String×Option (Channel Config) :=
  match cacheGetRandomSatisfiedChannel draw.select param draw.intn ctx.toRequestContext with
  | (keys,group,.ok channel) => ({ ctx with toRequestContext := keys },group,channel)
  | (keys,group,.error _) => ({ ctx with toRequestContext := keys },group,none)

namespace RouteRequest
variable (req : RouteRequest)

def distributeParam (excluded : List Nat) : RetryParam :=
  { tokenGroup := req.usingGroup, modelName := req.modelName, requestPath := req.requestPath, excludedChannelIDs := excluded }

def relayParam : RetryParam :=
  { tokenGroup := if req.tokenGroup="" then req.userGroup else req.tokenGroup
    modelName := req.modelName
    requestPath := req.requestPath }

def start : RouteState Config :=
  { ctx := {
      tokenGroup := req.tokenGroup
      tokenGroups := req.tokenGroups
      autoGroups := req.autoGroups
      usingGroup := req.usingGroup } }

def selectPreferred (ctx : RouteContext Config) (preferred : Preferred Config) :
    Option (RouteContext Config×String×Channel Config) :=
  let groups :=
    if req.usingGroup="auto" then ctx.autoGroups
    else match getRequestTokenGroups ctx.toRequestContext req.usingGroup with
      | [] => [req.usingGroup]
      | groups => groups
  match groups.findIdx? preferred.enabledFor with
  | none => none
  | some index =>
    let group := groups.getD index ""
    let placed := { ctx with autoGroupIndex := index, autoGroupRetryIndex := 1 }
    let ctx :=
      if req.usingGroup="auto" then { placed with autoGroup := group }
      else if 1<groups.length then placed
      else ctx
    some (ctx,group,preferred.channel)

def selectFirst (ctx : RouteContext Config) (preferred : Option (Preferred Config)) (draw : Draw Config) :
    RouteContext Config×String×Option (Channel Config) :=
  match preferred.bind (req.selectPreferred ctx) with
  | some (ctx,group,channel) => (ctx,group,some channel)
  | none => draw.cacheGet (req.distributeParam []) ctx

def recordGroup (ctx : RouteContext Config) (group : String) : RouteContext Config :=
  if group="" then ctx else { ctx with usingGroup := group, selectedChannelGroup := group }

def attempt (s : RouteState Config) : RouteAttempt :=
  { served := s.served
    recorded := s.ctx.selectedChannelGroup
    charged := s.ctx.groupUserConcurrency.map (·.code)
    targeted := let group := trimSpace s.ctx.selectedChannelGroup; if group="" then none else some group
    priced := s.info.usingGroup
    ratio := s.info.groupRatioInfo }

def setSelectedSecurityAuditRoute (ctx : RouteContext Config) (channel : Channel Config) (groupCode : String) :
    RouteContext Config :=
  let ctx := { ctx with selectedChannel := some channel }
  if trimSpace groupCode="" then ctx else { ctx with selectedChannelGroup := trimSpace groupCode }

def distribute (preferred : Option (Preferred Config)) (draw : Draw Config) (setUp : SetUp) (s : RouteState Config) :
    RouteState Config :=
  match req.selectFirst s.ctx preferred draw with
  | (ctx,_,none) => { s with ctx := ctx, phase := .ended }
  | (ctx,group,some channel) =>
    let (ctx,error) := setupContextForSelectedChannel setUp channel (recordGroup ctx group)
    match error with
    | none => { s with ctx := ctx, served := group, phase := .ready }
    | some .groupUserLimitReached => { s with ctx := { ctx with groupUserConcurrency := none }, phase := .ended }
    | some _ =>
      { s with
        ctx := { ctx with groupUserConcurrency := none }
        served := group
        phase := .fallback req.retryTimes [channel.id] }

def fallBack (draw : Draw Config) (setUp : SetUp) (left : Nat) (excluded : List Nat) (s : RouteState Config) :
    RouteState Config :=
  match left with
  | 0 => { s with ctx := { s.ctx with groupUserConcurrency := none }, phase := .ended }
  | left+1 =>
    match draw.cacheGet (req.distributeParam excluded) s.ctx with
    | (ctx,_,none) => { s with ctx := { ctx with groupUserConcurrency := none }, phase := .ended }
    | (ctx,group,some channel) =>
      let (ctx,error) := setupContextForSelectedChannel setUp channel ctx
      match error with
      | none => { s with ctx := ctx, served := group, phase := .ready }
      | some _ => { s with ctx := ctx, served := group, phase := .fallback left (channel.id::excluded) }

def relay (s : RouteState Config) : RouteState Config :=
  let info := handleGroupRatio req.ratios req.userGroup s.ctx { usingGroup := s.ctx.usingGroup }
  match s.ctx.selectedChannel with
  | none => { s with info := info, phase := .ended }
  | some channel =>
    let group := if s.ctx.selectedChannelGroup="" then info.usingGroup else s.ctx.selectedChannelGroup
    let s := { s with info := info, ctx := setSelectedSecurityAuditRoute s.ctx channel group }
    { s with
      phase := .relaying ((req.relayParam.excludeChannelID channel.id true).increaseRetry)
      log := s.log++[attempt s] }

def retry (draw : Draw Config) (setUp : SetUp) (param : RetryParam) (s : RouteState Config) : RouteState Config :=
  match draw.cacheGet param s.ctx with
  | (ctx,_,none) => { s with ctx := ctx, phase := .ended }
  | (ctx,group,some channel) =>
    let info := if group="" then s.info else { s.info with usingGroup := group }
    let ctx := recordGroup ctx group
    let info := handleGroupRatio req.ratios req.userGroup ctx info
    let (ctx,error) := setupContextForSelectedChannel setUp channel ctx
    match error with
    | some _ => { s with ctx := ctx, info := info, phase := .ended }
    | none =>
      let s := { s with ctx := setSelectedSecurityAuditRoute ctx channel group, info := info, served := group }
      { s with
        phase := .relaying ((param.excludeChannelID channel.id true).increaseRetry)
        log := s.log++[attempt s] }

def step (s : RouteState Config) (act : RouteAct Config) : RouteState Config :=
  match s.phase, act with
  | .arrived, .distribute preferred draw setUp => req.distribute preferred draw setUp s
  | .fallback left excluded, .fallback draw setUp => req.fallBack draw setUp left excluded s
  | .ready, .relay => req.relay s
  | .relaying param, .retry draw setUp => req.retry draw setUp param s
  | _, _ => s

end RouteRequest

end NewApi.Routing
