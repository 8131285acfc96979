import NewApi.Lib.Runs
import NewApi.Routing.Distribution

/-! One group for each attempt of a request. The first selection and the retries of `Relay` write the group they select to all
the places that are read from; the fallback of `Distribute` and a retry in a single group write it to some of them. -/
namespace NewApi.Routing

open List GoStrings Runs

variable {Config : Type}

def Named (group : String) : Prop := group≠"" ∧ trimSpace group=group

instance (group : String) : Decidable (Named group) := inferInstanceAs (Decidable (_ ∧ _))

namespace Draw
variable (draw : Draw Config) (param : RetryParam) (ctx : RouteContext Config)

def Offers (group : String) (retry : Nat) : Prop :=
  ∃ channel, selectFromGroup draw.select param draw.intn ctx.toRequestContext group retry=.ok (some channel)

def Exhausted (group : String) (retry : Nat) : Prop :=
  selectFromGroup draw.select param draw.intn ctx.toRequestContext group retry=.ok none

end Draw

section Selection
variable {select : Query → (Nat → Nat) → Except SelectError (Option (Channel Config))} {param : RetryParam}
  {intn : Nat → Nat} {group : String} {channel : Channel Config}

theorem selectFromGroup_moved (keys : RequestContext) (place retryIndex : Nat) (retry : Nat) :
    selectFromGroup select param intn { keys with autoGroupIndex := place, autoGroupRetryIndex := retryIndex } group retry =
      selectFromGroup select param intn keys group retry := rfl

theorem orderedGroupsFrom_group {groups : List String} {keys keys' : RequestContext} {groupStartRetry i : Nat}
    (h : orderedGroupsFrom select param intn keys groupStartRetry i groups=(keys',group,.ok (some channel))) :
    ∃ k retryIndex, groups[k]? = some group ∧
      keys'={ keys with autoGroup := group, autoGroupIndex := i+k, autoGroupRetryIndex := retryIndex } ∧
      selectFromGroup select param intn keys group (if k=0 then param.retry-groupStartRetry else 0) = .ok (some channel) ∧
      (0<k → ∀ first∈groups.head?, selectFromGroup select param intn keys first (param.retry-groupStartRetry)=.ok none) := by
  induction groups generalizing keys groupStartRetry i with
  | nil => cases h
  | cons first groups ih =>
    rw [orderedGroupsFrom] at h
    cases hfirst : selectFromGroup select param intn keys first (param.retry-groupStartRetry) with
    | error e =>
      rw [hfirst] at h
      cases h
    | ok found =>
      rw [hfirst] at h
      cases found with
      | some c =>
        cases h
        exact ⟨0,groupStartRetry,rfl,rfl,hfirst,fun hpos => absurd hpos (lt_irrefl _)⟩
      | none =>
        obtain ⟨k,retryIndex,hget,hkeys,hselected,-⟩ := ih h
        -- Later groups are entered at their first tier.
        rw [Nat.sub_self,ite_self,selectFromGroup_moved] at hselected
        refine ⟨k+1,retryIndex,hget,?_,?_,fun _ => ?_⟩
        · rw [hkeys,Nat.add_assoc,Nat.add_comm 1 k]
        · rw [if_neg (Nat.succ_ne_zero k)]
          exact hselected
        · intro other hother
          obtain rfl := Option.some.inj hother
          exact hfirst

variable {draw : Draw Config} {ctx ctx' : RouteContext Config}

theorem selectFromOrderedGroups_eq (hordered : ¬Regular ctx.toRequestContext param)
    (hgroups : groupsOf ctx.toRequestContext param≠[]) :
    cacheGetRandomSatisfiedChannel select param intn ctx.toRequestContext =
      selectFromOrderedGroups select param intn ctx.toRequestContext (groupsOf ctx.toRequestContext param) := by
  unfold Regular at hordered
  unfold groupsOf at hgroups ⊢
  unfold cacheGetRandomSatisfiedChannel
  by_cases hauto : param.tokenGroup="auto"
  · rw [if_pos hauto] at hgroups
    rw [if_pos hauto,if_pos hauto,if_neg hgroups]
  · have hmany : 1<(getRequestTokenGroups ctx.toRequestContext param.tokenGroup).length := by
      by_contra hnot
      exact hordered ⟨hauto,hnot⟩
    rw [if_neg hauto,if_neg hauto,if_pos hmany,if_pos hmany]

inductive Selected (draw : Draw Config) (param : RetryParam) (ctx : RouteContext Config) (channel : Channel Config) :
    RouteContext Config → String → Prop
  | regular (h : Regular ctx.toRequestContext param)
      (hoffer : selectFromGroup draw.select param draw.intn ctx.toRequestContext param.tokenGroup param.retry =
        .ok (some channel)) :
      Selected draw param ctx channel ctx param.tokenGroup
  | ordered (h : ¬Regular ctx.toRequestContext param) (group : String) (k retryIndex : Nat)
      (hget : (groupsOf ctx.toRequestContext param)[ctx.autoGroupIndex+k]? = some group)
      (hoffer : selectFromGroup draw.select param draw.intn ctx.toRequestContext group
        (if k=0 then param.retry-min ctx.autoGroupRetryIndex param.retry else 0)=.ok (some channel))
      (hexhausted : 0<k → ∀ first∈(groupsOf ctx.toRequestContext param)[ctx.autoGroupIndex]?,
        draw.Exhausted param ctx first (param.retry-min ctx.autoGroupRetryIndex param.retry)) :
      Selected draw param ctx channel
        { ctx with autoGroup := group, autoGroupIndex := ctx.autoGroupIndex+k, autoGroupRetryIndex := retryIndex } group

theorem cacheGet_selected (h : draw.cacheGet param ctx=(ctx',group,some channel)) :
    Selected draw param ctx channel ctx' group := by
  unfold Draw.cacheGet at h
  by_cases hregular : Regular ctx.toRequestContext param
  · unfold cacheGetRandomSatisfiedChannel at h
    rw [if_neg hregular.1,if_neg hregular.2] at h
    cases hselect : selectFromGroup draw.select param draw.intn ctx.toRequestContext param.tokenGroup param.retry with
    | error e =>
      rw [hselect] at h
      cases h
    | ok found =>
      rw [hselect] at h
      cases h
      exact .regular hregular hselect
  · by_cases hgroups : groupsOf ctx.toRequestContext param=[]
    · -- Only the automatic groups can be missing.
      unfold Regular at hregular
      unfold groupsOf at hgroups
      unfold cacheGetRandomSatisfiedChannel at h
      by_cases hauto : param.tokenGroup="auto"
      · rw [if_pos hauto] at hgroups
        rw [if_pos hauto,if_pos hgroups] at h
        cases h
      · have hmany : 1<(getRequestTokenGroups ctx.toRequestContext param.tokenGroup).length := by
          by_contra hnot
          exact hregular ⟨hauto,hnot⟩
        rw [if_neg hauto,if_pos hmany] at hgroups
        rw [hgroups] at hmany
        exact absurd hmany (Nat.not_lt_zero 1)
    · rw [selectFromOrderedGroups_eq hregular hgroups,selectFromOrderedGroups] at h
      cases hloop : orderedGroupsFrom draw.select param draw.intn ctx.toRequestContext
          (min ctx.autoGroupRetryIndex param.retry) ctx.autoGroupIndex
          ((groupsOf ctx.toRequestContext param).drop ctx.autoGroupIndex) with
      | mk keys rest =>
        obtain ⟨served,outcome⟩ := rest
        rw [hloop] at h
        cases outcome with
        | error e => cases h
        | ok found =>
          cases h
          obtain ⟨k,retryIndex,hget,rfl,hoffer,hexhausted⟩ := orderedGroupsFrom_group hloop
          rw [getElem?_drop] at hget
          rw [head?_drop] at hexhausted
          exact .ordered hregular group k retryIndex hget hoffer hexhausted

end Selection

section SettingUp
variable {setUp : SetUp} {channel : Channel Config} {ctx : RouteContext Config} {group : String}

theorem acquireGroupUserSlot_code (setUp : SetUp) (found : Groups.Group) (code : String) :
    ∀ lease∈(acquireGroupUserSlot setUp found code).1, lease.code=code := by
  intro lease hlease
  unfold acquireGroupUserSlot at hlease
  cases hslot : setUp.slot found with
  | unlimited | refused =>
    rw [hslot] at hlease
    cases hlease
  | granted =>
    rw [hslot] at hlease
    obtain rfl := Option.some.inj hlease
    rfl

theorem tryAcquire_code (setUp : SetUp) (found : Groups.Group) (code : String) (held : Option GroupUserLease) :
    ∀ lease∈(tryAcquireGroupUserConcurrencyForContext setUp found code held).1, lease.code=code := by
  cases held with
  | none => exact acquireGroupUserSlot_code setUp found code
  | some held =>
    intro lease hlease
    rw [tryAcquireGroupUserConcurrencyForContext] at hlease
    by_cases hsame : held.groupID=found.id
    · rw [if_pos hsame] at hlease
      obtain rfl := Option.some.inj hlease
      rfl
    · rw [if_neg hsame] at hlease
      exact acquireGroupUserSlot_code setUp found code lease hlease

structure SetUpFor (group : String) (ctx ctx' : RouteContext Config) : Prop where
  keys : ctx'.toRequestContext=ctx.toRequestContext
  usingGroup : ctx'.usingGroup=ctx.usingGroup
  recorded : ctx'.selectedChannelGroup=group
  charged : ∀ lease∈ctx'.groupUserConcurrency, lease.code=group

theorem setup_for (hgroup : ctx.selectedChannelGroup=group) (hne : group≠"")
    (hheld : setUp.admitted=false ∨ setUp.lookup group=none → ∀ lease∈ctx.groupUserConcurrency, lease.code=group) :
    SetUpFor group ctx (setupContextForSelectedChannel setUp channel ctx).1 := by
  subst hgroup
  have htarget : ctx.groupToSetUp=ctx.selectedChannelGroup := by
    unfold RouteContext.groupToSetUp
    rw [if_pos hne]
  unfold setupContextForSelectedChannel
  cases hadmitted : setUp.admitted with
  | false => exact ⟨rfl,rfl,rfl,hheld (.inl hadmitted)⟩
  | true =>
    rw [Bool.not_true,if_neg Bool.false_ne_true]
    dsimp only
    rw [htarget,if_neg hne]
    cases hlookup : setUp.lookup ctx.selectedChannelGroup with
    | none => exact ⟨rfl,rfl,rfl,hheld (.inr hlookup)⟩
    | some found => exact ⟨rfl,rfl,rfl,tryAcquire_code setUp found _ _⟩

theorem setup_ok (h : (setupContextForSelectedChannel setUp channel ctx).2=none) :
    setUp.admitted=true ∧ (setupContextForSelectedChannel setUp channel ctx).1.selectedChannel=some channel := by
  unfold setupContextForSelectedChannel at h ⊢
  cases hadmitted : setUp.admitted with
  | false =>
    rw [hadmitted] at h
    cases h
  | true =>
    rw [Bool.not_true,if_neg Bool.false_ne_true]
    refine ⟨rfl,?_⟩
    dsimp only
    generalize (if ctx.groupToSetUp="" then none else setUp.lookup ctx.groupToSetUp)=found
    cases found <;> rfl

end SettingUp

def RouteAttempt.OneRoute (req : RouteRequest) (a : RouteAttempt) : Prop :=
  a.recorded=a.served ∧ (∀ group∈a.charged, group=a.served) ∧ a.targeted=some a.served ∧ a.priced=a.served ∧
    a.ratio=groupRatioFor req.ratios req.userGroup a.served

/-- What a step has to meet: the groups it selects from are named; a round of the fallback does not leave the recorded group
for another one; and in a retry no slot of another group is held where the group is not found, nor is a price group left
from an ordered selection where the retry is in a single group. -/
def Keeps (req : RouteRequest) (s : RouteState Config) (act : RouteAct Config) : Prop :=
  match s.phase, act with
  | .arrived, .distribute _ _ _ => ∀ group∈groupsOf s.ctx.toRequestContext (req.distributeParam []), Named group
  | .fallback _ excluded, .fallback draw _ =>
    draw.Exhausted (req.distributeParam excluded) s.ctx s.ctx.selectedChannelGroup 0 →
      ∀ group∈(groupsOf s.ctx.toRequestContext (req.distributeParam excluded)).drop (s.ctx.autoGroupIndex+1),
        ¬draw.Offers (req.distributeParam excluded) s.ctx group 0
  | .relaying param, .retry _ setUp =>
    (∀ group∈groupsOf s.ctx.toRequestContext param, Named group ∧
      (setUp.lookup group=none → ∀ lease∈s.ctx.groupUserConcurrency, lease.code=group)) ∧
    (Regular s.ctx.toRequestContext param → s.ctx.autoGroup="" ∨ s.ctx.autoGroup=param.tokenGroup)
  | _, _ => True

section Invariant
variable {req : RouteRequest} {s : RouteState Config} {draw : Draw Config} {setUp : SetUp}

structure OnGroup (s : RouteState Config) : Prop where
  named : Named s.served
  recorded : s.ctx.selectedChannelGroup=s.served
  usingGroup : s.ctx.usingGroup=s.served
  auto : s.ctx.autoGroup="" ∨ s.ctx.autoGroup=s.served
  charged : ∀ lease∈s.ctx.groupUserConcurrency, lease.code=s.served

def PhaseSound (req : RouteRequest) (s : RouteState Config) : Prop :=
  match s.phase with
  | .arrived => s.ctx=req.start.ctx
  | .fallback _ _ => OnGroup s ∧ ¬Regular s.ctx.toRequestContext (req.distributeParam []) ∧
      (groupsOf s.ctx.toRequestContext (req.distributeParam []))[s.ctx.autoGroupIndex]? = some s.served
  | .ready => OnGroup s
  | .relaying _ => True
  | .ended => True

structure RouteSound (req : RouteRequest) (s : RouteState Config) : Prop where
  phase : PhaseSound req s
  log : ∀ a∈s.log, a.OneRoute req

theorem attempt_oneRoute (hnamed : Named s.served) (hrecorded : s.ctx.selectedChannelGroup=s.served)
    (hcharged : ∀ lease∈s.ctx.groupUserConcurrency, lease.code=s.served) (hpriced : s.info.usingGroup=s.served)
    (hratio : s.info.groupRatioInfo=groupRatioFor req.ratios req.userGroup s.info.usingGroup) :
    (RouteRequest.attempt s).OneRoute req := by
  refine ⟨hrecorded,?_,?_,hpriced,?_⟩
  · intro group hgroup
    obtain ⟨lease,hlease,rfl⟩ := Option.map_eq_some_iff.mp hgroup
    exact hcharged lease hlease
  · have htrim : trimSpace s.ctx.selectedChannelGroup=s.served := by
      rw [hrecorded]
      exact hnamed.2
    unfold RouteRequest.attempt
    dsimp only
    rw [htrim,if_neg hnamed.1]
  · rw [hpriced] at hratio
    exact hratio

variable {ctx ctx' : RouteContext Config} {param : RetryParam}

theorem RouteSound.attempted (hs : RouteSound req s) {info : RelayInfo} {served : String} {a : RouteAttempt}
    (h : a.OneRoute req) :
    RouteSound req { phase := .relaying param, ctx := ctx, info := info, served := served, log := s.log++[a] } := by
  refine ⟨trivial,?_⟩
  intro b hb
  obtain hin | hnew := mem_append.mp hb
  · exact hs.log b hin
  obtain rfl := mem_singleton.mp hnew
  exact h

variable {channel : Channel Config} {group : String}

theorem setSelectedSecurityAuditRoute_named (hnamed : Named group) :
    RouteRequest.setSelectedSecurityAuditRoute ctx channel group =
      { ctx with selectedChannel := some channel, selectedChannelGroup := group } := by
  unfold RouteRequest.setSelectedSecurityAuditRoute
  rw [hnamed.2,if_neg hnamed.1]

theorem selectPreferred_ordered {preferred : Preferred Config}
    (hordered : ¬Regular ctx.toRequestContext (req.distributeParam []))
    (h : req.selectPreferred ctx preferred=some (ctx',group,channel)) :
    ∃ index auto, (groupsOf ctx.toRequestContext (req.distributeParam []))[index]? = some group ∧
      (auto=ctx.autoGroup ∨ auto=group) ∧
      ctx'={ ctx with autoGroup := auto, autoGroupIndex := index, autoGroupRetryIndex := 1 } := by
  have htoken : (req.distributeParam []).tokenGroup=req.usingGroup := rfl
  unfold Regular at hordered
  rw [htoken] at hordered
  unfold RouteRequest.selectPreferred at h
  have hget : ∀ (groups : List String) (index : Nat), groups.findIdx? preferred.enabledFor=some index →
      groups[index]? = some (groups.getD index "") := by
    intro groups index hindex
    obtain ⟨hlt,-⟩ := findIdx?_eq_some_iff_getElem.mp hindex
    rw [getD_eq_getElem?_getD,getElem?_eq_getElem hlt]
    rfl
  unfold groupsOf
  rw [htoken]
  by_cases hauto : req.usingGroup="auto"
  · rw [if_pos hauto] at h ⊢
    dsimp only at h
    cases hfind : ctx.autoGroups.findIdx? preferred.enabledFor with
    | none =>
      rw [hfind] at h
      cases h
    | some index =>
      rw [hfind] at h
      dsimp only at h
      rw [if_pos hauto] at h
      cases h
      exact ⟨index,_,hget _ _ hfind,.inr rfl,rfl⟩
  · have hmany : 1<(getRequestTokenGroups ctx.toRequestContext req.usingGroup).length := by
      by_contra hnot
      exact hordered ⟨hauto,hnot⟩
    rw [if_neg hauto] at h
    rw [if_neg hauto,if_pos hmany]
    dsimp only at h
    cases hgroups : getRequestTokenGroups ctx.toRequestContext req.usingGroup with
    | nil =>
      rw [hgroups] at hmany
      exact absurd hmany (Nat.not_lt_zero 1)
    | cons first rest =>
      rw [hgroups] at h hmany
      dsimp only at h
      cases hfind : (first::rest).findIdx? preferred.enabledFor with
      | none =>
        rw [hfind] at h
        cases h
      | some index =>
        rw [hfind] at h
        dsimp only at h
        rw [if_neg hauto,if_pos hmany] at h
        cases h
        exact ⟨index,_,hget _ _ hfind,.inl rfl,rfl⟩

variable {preferred : Option (Preferred Config)}

theorem selectFirst_ordered (hordered : ¬Regular ctx.toRequestContext (req.distributeParam []))
    (h : req.selectFirst ctx preferred draw=(ctx',group,some channel)) :
    ∃ index retryIndex auto, (groupsOf ctx.toRequestContext (req.distributeParam []))[index]? = some group ∧
      (auto=ctx.autoGroup ∨ auto=group) ∧
      ctx'={ ctx with autoGroup := auto, autoGroupIndex := index, autoGroupRetryIndex := retryIndex } := by
  unfold RouteRequest.selectFirst at h
  cases hpreferred : preferred.bind (req.selectPreferred ctx) with
  | some found =>
    obtain ⟨ctx1,group1,channel1⟩ := found
    rw [hpreferred] at h
    cases h
    obtain ⟨wanted,-,hselect⟩ := Option.bind_eq_some_iff.mp hpreferred
    obtain ⟨index,auto,hget,hauto,hctx⟩ := selectPreferred_ordered hordered hselect
    exact ⟨index,1,auto,hget,hauto,hctx⟩
  | none =>
    rw [hpreferred] at h
    cases cacheGet_selected h with
    | regular hregular => exact absurd hregular hordered
    | ordered _ _ k retryIndex hget => exact ⟨_,retryIndex,group,hget,.inr rfl,rfl⟩

section
variable (hs : RouteSound req s)
include hs

theorem RouteSound.distribute (hphase : s.phase=.arrived)
    (hordered : ¬Regular (req.start : RouteState Config).ctx.toRequestContext (req.distributeParam []))
    (hnamed : ∀ group∈groupsOf s.ctx.toRequestContext (req.distributeParam []), Named group) :
    RouteSound req (req.distribute preferred draw setUp s) := by
  have hctx := hs.phase
  rw [PhaseSound,hphase] at hctx
  dsimp only at hctx
  rw [hctx] at hnamed
  unfold RouteRequest.distribute
  rw [hctx]
  obtain ⟨⟨ctx,group,found⟩,hselect⟩ : ∃ out, out=req.selectFirst req.start.ctx preferred draw := ⟨_,rfl⟩
  rw [← hselect]
  cases found with
  | none => exact ⟨trivial,hs.log⟩
  | some channel =>
    dsimp only
    obtain ⟨index,retryIndex,auto,hget,hauto,rfl⟩ := selectFirst_ordered hordered hselect.symm
    have hgroup : Named group := hnamed group (mem_of_getElem? hget)
    rw [RouteRequest.recordGroup,if_neg hgroup.1]
    have hsetup := @setup_for _ setUp channel
      { (req.start : RouteState Config).ctx with
        autoGroup := auto
        autoGroupIndex := index
        autoGroupRetryIndex := retryIndex
        usingGroup := group
        selectedChannelGroup := group } group rfl hgroup.1 (fun _ lease hlease => by cases hlease)
    obtain ⟨⟨ctx',error⟩,hout⟩ : ∃ out, out=setupContextForSelectedChannel setUp channel
      { (req.start : RouteState Config).ctx with
        autoGroup := auto
        autoGroupIndex := index
        autoGroupRetryIndex := retryIndex
        usingGroup := group
        selectedChannelGroup := group } := ⟨_,rfl⟩
    rw [← hout] at hsetup ⊢
    have hauto' : ctx'.autoGroup="" ∨ ctx'.autoGroup=group := by
      rw [hsetup.keys]
      exact hauto
    cases error with
    | none => exact ⟨⟨hgroup,hsetup.recorded,hsetup.usingGroup,hauto',hsetup.charged⟩,hs.log⟩
    | some error =>
      have hfallback : RouteSound req
          { s with
            ctx := { ctx' with groupUserConcurrency := none }
            served := group
            phase := .fallback req.retryTimes [channel.id] } := by
        refine ⟨⟨⟨hgroup,hsetup.recorded,hsetup.usingGroup,hauto',?_⟩,?_,?_⟩,hs.log⟩
        · intro lease hlease
          cases hlease
        · dsimp only
          rw [hsetup.keys]
          exact hordered
        · dsimp only
          rw [hsetup.keys]
          exact hget
      cases error with
      | groupUserLimitReached => exact ⟨trivial,hs.log⟩
      | notAdmitted | noKey => exact hfallback

theorem RouteSound.fallBack {left : Nat} {excluded : List Nat} (hphase : s.phase=.fallback left excluded)
    (hstays : draw.Exhausted (req.distributeParam excluded) s.ctx s.ctx.selectedChannelGroup 0 →
      ∀ group∈(groupsOf s.ctx.toRequestContext (req.distributeParam excluded)).drop (s.ctx.autoGroupIndex+1),
        ¬draw.Offers (req.distributeParam excluded) s.ctx group 0) :
    RouteSound req (req.fallBack draw setUp left excluded s) := by
  have hctx := hs.phase
  rw [PhaseSound,hphase] at hctx
  obtain ⟨hon,hordered,hplace⟩ := hctx
  unfold RouteRequest.fallBack
  cases left with
  | zero => exact ⟨trivial,hs.log⟩
  | succ left =>
    dsimp only
    obtain ⟨⟨ctx,group,found⟩,hselect⟩ : ∃ out, out=draw.cacheGet (req.distributeParam excluded) s.ctx := ⟨_,rfl⟩
    rw [← hselect]
    cases found with
    | none => exact ⟨trivial,hs.log⟩
    | some channel =>
      dsimp only
      cases cacheGet_selected hselect.symm with
      | regular hregular => exact absurd hregular hordered
      | ordered _ _ k retryIndex hget hoffer hexhausted =>
        have hzero : (req.distributeParam excluded).retry=0 := rfl
        rw [hzero,Nat.zero_sub] at hoffer hexhausted
        rw [ite_self] at hoffer
        -- A selection past the recorded group finds it exhausted and another group with a channel.
        have hk : k=0 := by
          by_contra hk
          refine hstays (hexhausted (Nat.pos_of_ne_zero hk) _ ?_) group ?_ ⟨channel,hoffer⟩
          · rw [hon.recorded]
            exact hplace
          · apply mem_of_getElem? (i := k-1)
            rw [getElem?_drop,← hget]
            congr 1
            omega
        subst hk
        have hsame : group=s.served := Option.some.inj (hget.symm.trans hplace)
        subst hsame
        have hsetup := @setup_for _ setUp channel
          { s.ctx with
            autoGroup := s.served
            autoGroupIndex := s.ctx.autoGroupIndex+0
            autoGroupRetryIndex := retryIndex } s.served hon.recorded hon.named.1 (fun _ => hon.charged)
        obtain ⟨⟨ctx',error⟩,hout⟩ : ∃ out, out=setupContextForSelectedChannel setUp channel
          { s.ctx with
            autoGroup := s.served
            autoGroupIndex := s.ctx.autoGroupIndex+0
            autoGroupRetryIndex := retryIndex } := ⟨_,rfl⟩
        rw [← hout] at hsetup ⊢
        have husing : ctx'.usingGroup=s.served := hsetup.usingGroup.trans hon.usingGroup
        have hauto : ctx'.autoGroup="" ∨ ctx'.autoGroup=s.served := by
          rw [hsetup.keys]
          exact .inr rfl
        cases error with
        | none => exact ⟨⟨hon.named,hsetup.recorded,husing,hauto,hsetup.charged⟩,hs.log⟩
        | some error =>
          refine ⟨⟨⟨hon.named,hsetup.recorded,husing,hauto,hsetup.charged⟩,?_,?_⟩,hs.log⟩
          · dsimp only
            rw [hsetup.keys]
            exact hordered
          · dsimp only
            rw [hsetup.keys]
            exact hplace

theorem RouteSound.relay (hphase : s.phase=.ready) : RouteSound req (req.relay s) := by
  have hon := hs.phase
  rw [PhaseSound,hphase] at hon
  unfold RouteRequest.relay
  dsimp only
  cases hchannel : s.ctx.selectedChannel with
  | none => exact ⟨trivial,hs.log⟩
  | some channel =>
    dsimp only
    have hpriced : (handleGroupRatio req.ratios req.userGroup s.ctx { usingGroup := s.ctx.usingGroup }).usingGroup =
        s.served := by
      unfold handleGroupRatio
      obtain hauto | hauto := hon.auto
      · dsimp only
        rw [if_pos hauto]
        exact hon.usingGroup
      · dsimp only
        rw [hauto,if_neg hon.named.1]
    rw [hon.recorded,if_neg hon.named.1,setSelectedSecurityAuditRoute_named hon.named]
    apply hs.attempted
    apply attempt_oneRoute
    · exact hon.named
    · rfl
    · exact hon.charged
    · exact hpriced
    · rfl

theorem RouteSound.retry (hgroups : ∀ group∈groupsOf s.ctx.toRequestContext param, Named group ∧
      (setUp.lookup group=none → ∀ lease∈s.ctx.groupUserConcurrency, lease.code=group))
    (hregular : Regular s.ctx.toRequestContext param → s.ctx.autoGroup="" ∨ s.ctx.autoGroup=param.tokenGroup) :
    RouteSound req (req.retry draw setUp param s) := by
  unfold RouteRequest.retry
  obtain ⟨⟨ctx,group,found⟩,hselect⟩ : ∃ out, out=draw.cacheGet param s.ctx := ⟨_,rfl⟩
  rw [← hselect]
  cases found with
  | none => exact ⟨trivial,hs.log⟩
  | some channel =>
    dsimp only
    have hselected := cacheGet_selected hselect.symm
    obtain ⟨hmem,hauto,hleases⟩ : group∈groupsOf s.ctx.toRequestContext param ∧
        (ctx.autoGroup="" ∨ ctx.autoGroup=group) ∧ ctx.groupUserConcurrency=s.ctx.groupUserConcurrency := by
      cases hselected with
      | regular h =>
        refine ⟨?_,hregular h,rfl⟩
        unfold groupsOf
        rw [if_neg h.1,if_neg h.2]
        exact mem_singleton_self _
      | ordered _ _ k retryIndex hget => exact ⟨mem_of_getElem? hget,.inr rfl,rfl⟩
    obtain ⟨hnamed,hlookup⟩ := hgroups group hmem
    rw [if_neg hnamed.1,RouteRequest.recordGroup,if_neg hnamed.1]
    obtain ⟨⟨ctx',error⟩,hout⟩ : ∃ out, out=setupContextForSelectedChannel setUp channel
      { ctx with usingGroup := group, selectedChannelGroup := group } := ⟨_,rfl⟩
    rw [← hout]
    cases error with
    | some error => exact ⟨trivial,hs.log⟩
    | none =>
      have hok := @setup_ok _ setUp channel { ctx with usingGroup := group, selectedChannelGroup := group } (by rw [← hout])
      have hsetup := @setup_for _ setUp channel { ctx with usingGroup := group, selectedChannelGroup := group } group rfl
        hnamed.1 (by
          rintro (hnot | hnone)
          · rw [hok.1] at hnot
            cases hnot
          · dsimp only
            rw [hleases]
            exact hlookup hnone)
      rw [← hout] at hsetup
      dsimp only
      rw [setSelectedSecurityAuditRoute_named hnamed]
      apply hs.attempted
      apply attempt_oneRoute
      · exact hnamed
      · rfl
      · exact hsetup.charged
      · unfold handleGroupRatio
        dsimp only
        obtain hnone | hgroup := hauto
        · rw [if_pos hnone]
        · rw [hgroup,if_neg hnamed.1]
      · rfl

end

theorem RouteSound.step (hordered : ¬Regular (req.start : RouteState Config).ctx.toRequestContext (req.distributeParam []))
    (s : RouteState Config) (act : RouteAct Config) (hs : RouteSound req s) (h : Keeps req s act) :
    RouteSound req (req.step s act) := by
  unfold RouteRequest.step
  unfold Keeps at h
  cases hphase : s.phase with
  | arrived =>
    rw [hphase] at h
    cases act with
    | distribute preferred draw setUp => exact hs.distribute hphase hordered h
    | fallback | relay | retry => exact hs
  | fallback left excluded =>
    rw [hphase] at h
    cases act with
    | distribute => exact hs
    | fallback draw setUp => exact hs.fallBack hphase h
    | relay | retry => exact hs
  | ready =>
    cases act with
    | distribute | fallback => exact hs
    | relay => exact hs.relay hphase
    | retry => exact hs
  | relaying param =>
    rw [hphase] at h
    cases act with
    | distribute | fallback | relay => exact hs
    | retry draw setUp => exact hs.retry h.1 h.2
  | ended => exact hs

end Invariant

section Runs

instance (draw : Draw Config) (param : RetryParam) (ctx : RouteContext Config) [DecidableEq Config] (group : String)
    (retry : Nat) : Decidable (draw.Exhausted param ctx group retry) :=
  inferInstanceAs (Decidable (_=_))

instance (draw : Draw Config) (param : RetryParam) (ctx : RouteContext Config) (group : String) (retry : Nat) :
    Decidable (draw.Offers param ctx group retry) :=
  match h : selectFromGroup draw.select param draw.intn ctx.toRequestContext group retry with
  | .ok (some channel) => .isTrue ⟨channel,h⟩
  | .ok none => .isFalse fun ⟨_,hoffer⟩ => by cases h.symm.trans hoffer
  | .error _ => .isFalse fun ⟨_,hoffer⟩ => by cases h.symm.trans hoffer

instance (ctx : RequestContext) (param : RetryParam) : Decidable (Regular ctx param) :=
  inferInstanceAs (Decidable (_ ∧ _))

instance [DecidableEq Config] (req : RouteRequest) (s : RouteState Config) (act : RouteAct Config) :
    Decidable (Keeps req s act) := by
  unfold Keeps
  split <;> infer_instance

instance (req : RouteRequest) (a : RouteAttempt) : Decidable (a.OneRoute req) :=
  inferInstanceAs (Decidable (_ ∧ _))

def twoGroups : RouteRequest :=
  { usingGroup := "vip,default"
    tokenGroup := "vip,default"
    tokenGroups := ["vip", "default"]
    userGroup := "default"
    modelName := "gpt-4o"
    requestPath := "/v1/chat/completions"
    retryTimes := 3
    ratios := { getGroupGroupRatio := fun _ _ => none, getGroupRatio := fun group => if group="vip" then 1 else 2 } }

def tierDraw (rows : List (Nat×String×Int)) : Draw Unit :=
  { select := selectorOf plainSurroundings (tierTables rows) true, intn := fun _ => 0 }

def limitedSetUp (admitted : Bool) : SetUp :=
  { admitted := admitted
    lookup := fun code => if code="vip" then some { id := 1, code := code } else some { id := 2, code := code }
    slot := fun _ => .granted }

def threeChannels : List (Nat×String×Int) := [(1,"vip",10),(3,"vip",0),(2,"default",0)]

def retriedRun : List (RouteAct Unit) :=
  [.distribute none (tierDraw threeChannels) (limitedSetUp false),.fallback (tierDraw threeChannels) (limitedSetUp true),
    .relay,.retry (tierDraw threeChannels) (limitedSetUp true),.retry (tierDraw threeChannels) (limitedSetUp true)]

end Runs

end NewApi.Routing
