import NewApi.Filter.Rules

/-! The passes of the request filter: before a channel is chosen (`middleware/prompt_audit.go`), and for the channel of
each attempt (`controller/relay.go`). A request that is marked as checked by the first pass skips the others. -/
namespace NewApi.Filter

open List GoStrings

/-- What the walk over the text fields of a request format does with a filter. -/
structure FieldWalk (Body : Type) where
  blank : Body → Bool
  blockScan : SensitiveTextFilter → Body → List SensitiveFilterMatch
  maskScan : SensitiveTextFilter → Body → Body×List SensitiveFilterMatch×Bool

structure PassResult (Body : Type) where
  blocked : Bool := false
  mutated : Bool := false
  found : List SensitiveFilterMatch := []
  body : Body
  applied : List PolicyRule := []

structure PassSettings where
  lower : Char → Char
  groupKeywords : String → List String
  db : RouteDatabase
  policy : SensitivePolicySnapshot

def PassSettings.requestRules (p : PassSettings) : List PolicyRule :=
  p.policy.getEffectiveSensitiveRulesByScope p.lower "request"

section Passes
variable {Body : Type} (p : PassSettings) (walk : FieldWalk Body) (isJSON : Bool)

def applyRules (c : RouteContext) (beforeDistribution : Bool) (selected : List PolicyRule) (body : Body) :
    RouteContext×PassResult Body :=
  let filter := newRulesFilter p.lower p.groupKeywords selected
  let marked := { c with prechecked := c.prechecked || beforeDistribution }
  if filter.empty then (c,{ body := body, applied := selected })
  else if !isJSON then (c,{ body := body })
  else if walk.blank body then (marked,{ body := body, applied := selected })
  else if !(walk.blockScan filter body).isEmpty then
    (marked,{ blocked := true, found := walk.blockScan filter body, body := body, applied := selected })
  else
    let masked := walk.maskScan filter body
    if masked.2.2 then (marked,{ mutated := true, found := masked.2.1, body := masked.1, applied := selected })
    else (marked,{ body := body, applied := selected })

def applySensitiveFilterBeforeDistribution (c : RouteContext) (requestedGroup : String) (body : Body) :
    RouteContext×PassResult Body :=
  if !p.policy.shouldCheckPromptSensitive then (c,{ body := body })
  else
    let route := resolveSensitiveRouteBeforeDistribution p.db c requestedGroup
    applyRules p walk isJSON c true (if sensitivePrecheckAllowed route p.requestRules p.policy then
        selectSensitiveRulesForRoute p.lower route p.requestRules p.policy
      else []) body

def applySensitiveFilterToRequestBody (c : RouteContext) (body : Body) : RouteContext×PassResult Body :=
  if c.prechecked then (c,{ body := body })
  else if !p.policy.shouldCheckPromptSensitive then (c,{ body := body })
  else applyRules p walk isJSON c false (selectSensitiveRulesForSelectedRoute p.db c p.lower p.requestRules p.policy) body

end Passes

structure Pick where
  channel : RouteChannel
  group : String
  deriving DecidableEq

inductive SetupFailure where
  | early
  | late

/-- `SetupContextForSelectedChannel`, as far as it concerns the route. -/
def RouteContext.setup (c : RouteContext) (channel : RouteChannel) : RouteContext :=
  { c with
    channelId := channel.id
    selectedChannel := some channel
    selectedGroup := if c.selectedGroup≠"" then c.selectedGroup else if c.autoGroup≠"" then c.autoGroup else c.usingGroup }

def RouteContext.recordGroup (c : RouteContext) (group : String) : RouteContext :=
  if group≠"" then { c with usingGroup := group, selectedGroup := group } else c

/-- How the distributor finds a channel: the one of the token, or the first pick and the later ones after each failure. -/
inductive Distribution where
  | specific
  | dynamic (first : Pick) (failures : List (SetupFailure×Pick))

/-- The setup of a channel after failed setups of others; only the first pick's group is recorded. -/
def RouteContext.setupAfter (c : RouteContext) : Pick → List (SetupFailure×Pick) → RouteContext×Pick
  | pick, [] => (c.setup pick.channel,pick)
  | _, (.early,next)::rest => RouteContext.setupAfter c next rest
  | pick, (.late,next)::rest => RouteContext.setupAfter (c.setup pick.channel) next rest

def distribute (db : RouteDatabase) (c : RouteContext) : Distribution → Option (RouteContext×Pick)
  | .specific => do
    let id ← atoi (← c.specificChannel)
    let channel ← db.getChannelById id
    if channel.enabled then
      let c := c.setup channel
      some (c,{ channel := channel, group := c.selectedGroup })
    else none
  | .dynamic first failures =>
    if c.specificChannel.isSome then none else some ((c.recordGroup first.group).setupAfter first failures)

def RouteContext.auditRoute (c : RouteContext) (channel : RouteChannel) (group : String) : RouteContext :=
  { c with
    selectedChannel := some channel
    selectedGroup := if trimSpace group≠"" then trimSpace group else c.selectedGroup }

def RouteContext.firstChannel (c : RouteContext) (channel : RouteChannel) : RouteContext :=
  c.auditRoute channel (if c.selectedGroup="" then c.usingGroup else c.selectedGroup)

def RouteContext.retryChannel (c : RouteContext) (pick : Pick) : RouteContext :=
  ((c.recordGroup pick.group).setup pick.channel).auditRoute pick.channel pick.group

structure Forward (Body : Type) where
  pick : Pick
  body : Body
  applied : List PolicyRule

section Relay
variable {Body : Type} (p : PassSettings) (walk : FieldWalk Body) (isJSON : Bool)

def relayAttempts (pre : List PolicyRule) (original : Body) : RouteContext → List (RouteContext → RouteContext×Pick) →
    List (Forward Body)
  | _, [] => []
  | c, attempt::rest =>
    let routed := attempt c
    let passed := applySensitiveFilterToRequestBody p walk isJSON routed.1 original
    if passed.2.blocked then []
    else { pick := routed.2, body := passed.2.body, applied := pre++passed.2.applied } ::
      relayAttempts pre original passed.1 rest

structure RelayRequest (Body : Type) where
  specificChannel : Option String := none
  usingGroup : String := ""
  tokenGroup : String := ""
  tokenGroupMode : String := ""
  userGroup : String := ""
  audited : Bool := true
  requestedGroup : String := ""
  modelGroup : String := ""
  isJSON : Bool := true
  body : Body

def RelayRequest.context (r : RelayRequest Body) : RouteContext :=
  { specificChannel := r.specificChannel, usingGroup := r.usingGroup, tokenGroup := r.tokenGroup,
    tokenGroupMode := r.tokenGroupMode, userGroup := r.userGroup }

/-- `applyRequestedGroup` where it does not refuse: a group in the request replaces the group in use. -/
def RouteContext.requestGroup (c : RouteContext) (modelGroup : String) : RouteContext :=
  if trimSpace modelGroup≠"" then { c with usingGroup := trimSpace modelGroup } else c

def RelayRequest.precheck (r : RelayRequest Body) : RouteContext×PassResult Body :=
  if r.audited then applySensitiveFilterBeforeDistribution p walk r.isJSON r.context r.requestedGroup r.body
  else (r.context,{ body := r.body })

/-- A request through `PromptAudit`, `Distribute` and `Relay`: what is sent to the channels. A fixed channel is not
retried. -/
def relayRequest (r : RelayRequest Body) (distribution : Distribution) (retries : List Pick) : List (Forward Body) :=
  let pre := r.precheck p walk
  if pre.2.blocked then []
  else match distribute p.db (pre.1.requestGroup r.modelGroup) distribution with
    | none => []
    | some (c,pick) => relayAttempts p walk r.isJSON pre.2.applied pre.2.body c
        ((fun c => (c.firstChannel pick.channel,pick)) ::
          (if r.specificChannel.isSome then [] else retries).map fun next c => (c.retryChannel next,next))

end Relay

section Selection
variable {lower : Char → Char} {route : RouteScope} {rules : List PolicyRule} {policy : SensitivePolicySnapshot}
  {rule : PolicyRule}

def SameGroup (lower : Char → Char) (a b : String) : Prop := lowered lower (trimSpace a)=lowered lower (trimSpace b)

def SensitiveRuleTargets.MatchChannel (t : SensitiveRuleTargets) (channel : RouteChannel) : Prop :=
  t.all=true ∨ channel.id∈t.channelIds ∨ ∃ tag∈t.channelTags, trimSpace tag=channel.tagText

def SensitiveRuleTargets.MatchGroup (lower : Char → Char) (t : SensitiveRuleTargets) (group : String) : Prop :=
  ∃ code∈t.groupCodes, SameGroup lower code group

theorem intersect_iff {left right : List String} :
    sensitiveStringTargetsIntersect lower left right=true ↔ ∃ b∈right, ∃ a∈left, SameGroup lower a b := by
  simp only [sensitiveStringTargetsIntersect,any_eq_true,decide_eq_true_eq,SameGroup]

theorem ruleSelected_of_channel {channel : RouteChannel} (henabled : rule.enabled=true) (hid : route.channelId=channel.id)
    (htag : route.channelTagKnown=true → route.channelTag=channel.tagText)
    (h : (policy.resolveSensitiveRuleTargets rule).MatchChannel channel) : ruleSelected lower route policy rule=true := by
  have hpositive : decide (0<route.channelId)=true := by
    rw [hid]
    exact decide_eq_true channel.positive
  unfold ruleSelected
  dsimp only
  rw [henabled,Bool.true_and]
  obtain hall | hids | ⟨tag,htags,hsame⟩ := h
  · rw [hall,Bool.or_true]
  · have hmatch : sensitiveChannelTargetsMatchRoute route (policy.resolveSensitiveRuleTargets rule).channelIds=true := by
      unfold sensitiveChannelTargetsMatchRoute containsSensitiveRouteId
      rw [hpositive,Bool.and_true,Bool.true_and,Bool.and_eq_true,Bool.not_eq_true',isEmpty_eq_false_iff, any_eq_true]
      exact ⟨ne_nil_of_mem hids,channel.id,hids,decide_eq_true hid.symm⟩
    rw [hmatch,Bool.or_true,Bool.true_or,Bool.true_or,Bool.true_or]
  · have hmatch : sensitiveTagTargetsMatchRoute route (policy.resolveSensitiveRuleTargets rule).channelTags=true := by
      unfold sensitiveTagTargetsMatchRoute
      rw [hpositive,Bool.and_true,Bool.and_eq_true,Bool.not_eq_true',isEmpty_eq_false_iff,Bool.or_eq_true,
        Bool.not_eq_true',any_eq_true]
      refine ⟨ne_nil_of_mem htags,?_⟩
      by_cases hknown : route.channelTagKnown=true
      · exact .inr ⟨tag,htags,decide_eq_true (hsame.trans (htag hknown).symm)⟩
      · exact .inl (Bool.not_eq_true _ ▸ hknown)
    rw [hmatch,Bool.or_true,Bool.true_or,Bool.true_or]

theorem ruleSelected_of_group {group : String} (henabled : rule.enabled=true) (hid : 0<route.channelId)
    (h : (policy.resolveSensitiveRuleTargets rule).MatchGroup lower group)
    (hgroups : route.channelGroupsKnown=true → ∃ other∈route.channelGroupCodes, SameGroup lower other group) :
    ruleSelected lower route policy rule=true := by
  obtain ⟨code,hcode,hsame⟩ := h
  have hmatch : sensitiveGroupTargetsMatchRoute lower route (policy.resolveSensitiveRuleTargets rule).groupCodes=true := by
    unfold sensitiveGroupTargetsMatchRoute
    rw [if_neg (by rw [Bool.not_eq_true,isEmpty_eq_false_iff]; exact ne_nil_of_mem hcode),if_pos hid,
      Bool.or_eq_true,Bool.not_eq_true',intersect_iff]
    by_cases hknown : route.channelGroupsKnown=true
    · obtain ⟨other,hother,heq⟩ := hgroups hknown
      exact .inr ⟨other,hother,code,hcode,hsame.trans heq.symm⟩
    · exact .inl (Bool.not_eq_true _ ▸ hknown)
  unfold ruleSelected
  dsimp only
  rw [henabled,Bool.true_and,hmatch,Bool.or_true,Bool.true_or]

theorem ruleSelected_of_precheck (hbefore : route.before=true) (hid : route.channelId≤0)
    (hallowed : sensitivePrecheckAllowed route rules policy=true) (hrule : rule∈rules) (henabled : rule.enabled=true) :
    ruleSelected lower route policy rule=true := by
  unfold sensitivePrecheckAllowed at hallowed
  rw [hbefore,Bool.not_true,if_neg Bool.false_ne_true,Bool.and_eq_true,all_eq_true] at hallowed
  have hone := hallowed.1 rule hrule
  rw [henabled,Bool.not_true,Bool.false_or,decide_eq_false (by omega),Bool.false_or] at hone
  unfold ruleSelected
  dsimp only at hone ⊢
  rw [henabled,Bool.true_and,hbefore,Bool.and_true,decide_eq_true hid,Bool.and_true]
  by_cases hall : (policy.resolveSensitiveRuleTargets rule).all=true
  · rw [hall,Bool.or_true]
  rw [Bool.not_eq_true] at hall
  rw [hall,Bool.not_false,Bool.true_and,Bool.not_eq_true',Bool.or_eq_false_iff,decide_eq_false_iff_not, not_not] at hone
  rw [decide_eq_true hone.1,hone.2,Bool.not_false,Bool.and_true,Bool.true_or,Bool.true_or,Bool.true_or, Bool.true_or]

end Selection

section Passing
variable {Body : Type} {p : PassSettings} {walk : FieldWalk Body} {c : RouteContext} {pick : Pick} {rule : PolicyRule}

theorem applyRules_spec (isJSON before : Bool) (selected : List PolicyRule) (body : Body) :
    (∃ marked, (applyRules p walk isJSON c before selected body).1={ c with prechecked := marked } ∧
      (before=false → marked=c.prechecked)) ∧
    (isJSON=true → (applyRules p walk isJSON c before selected body).2.applied=selected) := by
  have hkeep : before=false → (c.prechecked || before)=c.prechecked := by
    rintro rfl
    exact Bool.or_false _
  unfold applyRules
  dsimp only
  split
  · exact ⟨⟨c.prechecked,rfl,fun _ => rfl⟩,fun _ => rfl⟩
  by_cases hjson : isJSON=true
  · rw [hjson,Bool.not_true,if_neg Bool.false_ne_true]
    split
    · exact ⟨⟨_,rfl,hkeep⟩,fun _ => rfl⟩
    split
    · exact ⟨⟨_,rfl,hkeep⟩,fun _ => rfl⟩
    split
    · exact ⟨⟨_,rfl,hkeep⟩,fun _ => rfl⟩
    · exact ⟨⟨_,rfl,hkeep⟩,fun _ => rfl⟩
  · rw [Bool.not_eq_true] at hjson
    rw [hjson,Bool.not_false,if_pos rfl]
    exact ⟨⟨c.prechecked,rfl,fun _ => rfl⟩,fun h => absurd h Bool.false_ne_true⟩

def Applicable (p : PassSettings) (pick : Pick) (rule : PolicyRule) : Prop :=
  p.policy.shouldCheckPromptSensitive=true ∧ rule∈p.requestRules ∧ rule.enabled=true ∧
    ((p.policy.resolveSensitiveRuleTargets rule).MatchChannel pick.channel ∨
      (p.policy.resolveSensitiveRuleTargets rule).MatchGroup p.lower pick.group)

structure Routed (lower : Char → Char) (c : RouteContext) (pick : Pick) : Prop where
  id : c.channelId=pick.channel.id
  channel : c.selectedChannel=some pick.channel
  group : trimSpace pick.group≠"" → SameGroup lower c.selectedGroup pick.group

theorem SameGroup.empty_iff {lower : Char → Char} {a b : String} (h : SameGroup lower a b) :
    trimSpace a="" ↔ trimSpace b="" := by
  have hlength := congrArg (fun s : String => s.toList.length) h
  simp only [lowered,String.toList_ofList,length_map] at hlength
  rw [← String.toList_eq_nil_iff,← String.toList_eq_nil_iff,← length_eq_zero_iff,← length_eq_zero_iff,hlength]

theorem distinct_subset {α β : Type} [DecidableEq β] {key : α → β} {seen : List β} {l : List α} : distinct key seen l ⊆ l := by
  induction l generalizing seen with
  | nil => exact List.Subset.refl _
  | cons a l ih =>
    unfold distinct
    split
    · exact fun b hb => mem_cons_of_mem _ (ih hb)
    · exact cons_subset_cons _ ih

theorem normalizedCode_ne_empty {codes : List String} {code : String} (h : code∈normalizeSensitiveRuleGroupCodes codes) :
    trimSpace code≠"" := by
  have hin := distinct_subset ((mem_insertionSort _).mp h)
  obtain ⟨htrimmed,hne⟩ := mem_filter.mp hin
  obtain ⟨text,-,rfl⟩ := mem_map.mp htrimmed
  rw [Bool.and_eq_true,decide_eq_true_eq] at hne
  rw [trimSpace_trimSpace]
  exact hne.1

theorem groupCode_ne_empty {policy : SensitivePolicySnapshot} {code : String}
    (h : code∈(policy.resolveSensitiveRuleTargets rule).groupCodes) : trimSpace code≠"" := by
  unfold SensitivePolicySnapshot.resolveSensitiveRuleTargets at h
  split at h
  · cases h
  · cases h
  · exact normalizedCode_ne_empty h
  · exact normalizedCode_ne_empty h
  · cases h
  · cases h

theorem Routed.route (h : Routed p.lower c pick) : ∀ r, resolveSensitiveSelectedRoute p.db c=r → r.channelId=pick.channel.id ∧
    r.channelTag=pick.channel.tagText ∧ r.before=false ∧
      (trimSpace pick.group≠"" → ∃ other∈r.channelGroupCodes, SameGroup p.lower other pick.group) := by
  rintro _ rfl
  have hpositive : 0<c.channelId := h.id ▸ pick.channel.positive
  have hselected : c.selectedChannel.filter (fun channel => decide (channel.id=c.channelId))=some pick.channel := by
    rw [h.channel,Option.filter_some,if_pos (decide_eq_true h.id.symm)]
  unfold resolveSensitiveSelectedRoute resolveSensitiveChannelTag
  rw [if_pos hpositive,hselected]
  refine ⟨h.id,rfl,rfl,?_⟩
  intro hnamed
  have hsame := h.group hnamed
  have hne : trimSpace c.selectedGroup≠"" := fun hempty => hnamed (hsame.empty_iff.mp hempty)
  dsimp only
  rw [if_pos hne]
  refine ⟨trimSpace c.selectedGroup,mem_singleton_self _,?_⟩
  unfold SameGroup at hsame ⊢
  rw [trimSpace_trimSpace]
  exact hsame

theorem attempt_applies (hrouted : Routed p.lower c pick) (hunmarked : c.prechecked=false) (h : Applicable p pick rule)
    (body : Body) : rule∈(applySensitiveFilterToRequestBody p walk true c body).2.applied := by
  obtain ⟨hcheck,hrule,henabled,hmatch⟩ := h
  obtain ⟨hid,htag,hbefore,hgroup⟩ := hrouted.route _ rfl
  unfold applySensitiveFilterToRequestBody
  rw [hunmarked,if_neg Bool.false_ne_true,hcheck,Bool.not_true,if_neg Bool.false_ne_true,
    (applyRules_spec true false _ body).2 rfl]
  unfold selectSensitiveRulesForSelectedRoute selectSensitiveRulesForRoute
  rw [hbefore,Bool.false_and,Bool.false_and,Bool.false_and,if_neg Bool.false_ne_true,mem_filter]
  refine ⟨hrule,?_⟩
  obtain hchannel | hmatched := hmatch
  · exact ruleSelected_of_channel henabled hid (fun _ => htag) hchannel
  have hnamed : trimSpace pick.group≠"" := by
    obtain ⟨code,hcode,hsame⟩ := hmatched
    exact fun hempty => groupCode_ne_empty hcode (hsame.empty_iff.mpr hempty)
  exact ruleSelected_of_group henabled (hid ▸ pick.channel.positive) hmatched fun _ => hgroup hnamed

theorem atoiDigits_not_space {digits : List Char} {n : Nat} (h : atoiDigits digits=some n) : ∀ c∈digits, isSpace c=false := by
  intro c hc
  unfold atoiDigits at h
  split at h
  · cases h
  split at h
  next hall =>
    exact isSpace_of_isDigit (all_eq_true.mp hall c hc)
  · cases h

theorem trimSpace_of_atoi {s : String} {id : Int} (h : atoi s=some id) : trimSpace s=s := by
  apply trimSpace_eq_self
  intro c hc
  unfold atoi at h
  split at h
  next digits heq =>
    obtain ⟨n,hn,-⟩ := Option.map_eq_some_iff.mp h
    rw [heq] at hc
    obtain rfl | hc := mem_cons.mp hc
    · decide
    · exact atoiDigits_not_space hn c hc
  next digits heq =>
    obtain ⟨n,hn,-⟩ := Option.map_eq_some_iff.mp h
    rw [heq] at hc
    obtain rfl | hc := mem_cons.mp hc
    · decide
    · exact atoiDigits_not_space hn c hc
  · obtain ⟨n,hn,-⟩ := Option.map_eq_some_iff.mp h
    exact atoiDigits_not_space hn c hc

def RelayRequest.groupInUse (r : RelayRequest Body) : String := (r.context.requestGroup r.modelGroup).usingGroup

/-- A fixed channel that covers the group in use: every rule for that group is also a rule for the channel itself, its tag
or one of its own groups. -/
def FixedGroupCovered (p : PassSettings) (r : RelayRequest Body) : Prop :=
  ∀ channel codes, p.db.getChannelById r.context.sensitiveFixedChannelId=some channel →
    p.db.getChannelGroupCodes r.context.sensitiveFixedChannelId=some codes →
    ∀ rule∈p.requestRules, rule.enabled=true → (p.policy.resolveSensitiveRuleTargets rule).MatchGroup p.lower r.groupInUse →
      (p.policy.resolveSensitiveRuleTargets rule).MatchChannel channel ∨
        ∃ own∈codes, (p.policy.resolveSensitiveRuleTargets rule).MatchGroup p.lower own

theorem precheck_context (r : RelayRequest Body) :
    ∃ marked, (r.precheck p walk).1={ r.context with prechecked := marked } := by
  unfold RelayRequest.precheck applySensitiveFilterBeforeDistribution
  split
  · split
    · exact ⟨_,rfl⟩
    · obtain ⟨⟨marked,hmarked,-⟩,-⟩ := @applyRules_spec Body p walk r.context r.isJSON true _ r.body
      exact ⟨marked,hmarked⟩
  · exact ⟨_,rfl⟩

theorem applyRules_nil (isJSON before : Bool) (body : Body) : (applyRules p walk isJSON c before [] body).1=c := rfl

variable {r : RelayRequest Body}

theorem precheck_applied (hjson : r.isJSON=true) (hmarked : (r.precheck p walk).1.prechecked=true) :
    ∀ route, resolveSensitiveRouteBeforeDistribution p.db r.context r.requestedGroup=route →
      sensitivePrecheckAllowed route p.requestRules p.policy=true ∧
      (r.precheck p walk).2.applied=selectSensitiveRulesForRoute p.lower route p.requestRules p.policy := by
  rintro _ rfl
  unfold RelayRequest.precheck applySensitiveFilterBeforeDistribution at hmarked ⊢
  by_cases haudited : r.audited=true
  · rw [if_pos haudited] at hmarked ⊢
    by_cases hcheck : p.policy.shouldCheckPromptSensitive=true
    · rw [hcheck,Bool.not_true,if_neg Bool.false_ne_true] at hmarked ⊢
      dsimp only at hmarked ⊢
      by_cases hallowed : sensitivePrecheckAllowed
          (resolveSensitiveRouteBeforeDistribution p.db r.context r.requestedGroup) p.requestRules p.policy=true
      · rw [if_pos hallowed]
        exact ⟨hallowed,(applyRules_spec _ _ _ _).2 hjson⟩
      · rw [if_neg hallowed,applyRules_nil] at hmarked
        exact absurd hmarked Bool.false_ne_true
    · rw [Bool.not_eq_true] at hcheck
      rw [hcheck,Bool.not_false,if_pos rfl] at hmarked
      exact absurd hmarked Bool.false_ne_true
  · rw [if_neg haudited] at hmarked
    exact absurd hmarked Bool.false_ne_true

theorem dynamicRoute {db : RouteDatabase} (hfixed : ¬ 0<c.sensitiveFixedChannelId) (requestedGroup : String) :
    (resolveSensitiveRouteBeforeDistribution db c requestedGroup).before=true ∧
      (resolveSensitiveRouteBeforeDistribution db c requestedGroup).channelId=0 := by
  unfold resolveSensitiveRouteBeforeDistribution
  dsimp only
  rw [if_neg hfixed]
  split
  · split
    · exact ⟨rfl,rfl⟩
    · split <;> exact ⟨rfl,rfl⟩
  · rw [apply_ite RouteScope.before,apply_ite RouteScope.channelId]
    exact ⟨ite_self _,ite_self _⟩

variable {channel : RouteChannel}

theorem specificRoute {db : RouteDatabase} (hselected : c.selectedChannel=none)
    (hfixed : 0<c.sensitiveFixedChannelId) (hchannel : db.getChannelById c.sensitiveFixedChannelId=some channel)
    (requestedGroup : String) : resolveSensitiveRouteBeforeDistribution db c requestedGroup =
      fixedChannelRoute c channel (db.getChannelGroupCodes c.sensitiveFixedChannelId) := by
  unfold resolveSensitiveRouteBeforeDistribution
  dsimp only
  rw [if_pos hfixed,hselected,Option.filter_none]
  dsimp only
  rw [hchannel]

theorem precheck_dynamic (hjson : r.isJSON=true) (hmarked : (r.precheck p walk).1.prechecked=true)
    (hfixed : ¬ 0<r.context.sensitiveFixedChannelId)
    (hrule : rule∈p.requestRules) (henabled : rule.enabled=true) : rule∈(r.precheck p walk).2.applied := by
  obtain ⟨hallowed,happlied⟩ := precheck_applied hjson hmarked _ rfl
  obtain ⟨hbefore,hid⟩ := @dynamicRoute r.context p.db hfixed r.requestedGroup
  rw [happlied,selectSensitiveRulesForRoute,hid,if_neg,mem_filter]
  · exact ⟨hrule,ruleSelected_of_precheck hbefore (le_of_eq hid) hallowed hrule henabled⟩
  rw [decide_eq_false (by omega),Bool.and_false,Bool.false_and,Bool.false_and]
  exact Bool.false_ne_true

theorem precheck_specific (hjson : r.isJSON=true) (hmarked : (r.precheck p walk).1.prechecked=true)
    (hchannel : p.db.getChannelById r.context.sensitiveFixedChannelId=some channel) (henabled : channel.enabled=true)
    (hcovered : FixedGroupCovered p r) (h : Applicable p { channel := channel, group := r.groupInUse } rule) :
    rule∈(r.precheck p walk).2.applied := by
  obtain ⟨-,hrule,hon,hmatch⟩ := h
  obtain ⟨-,happlied⟩ := precheck_applied hjson hmarked _ rfl
  have hid := p.db.found _ _ hchannel
  have hfixed : 0<r.context.sensitiveFixedChannelId := hid ▸ channel.positive
  rw [happlied,specificRoute rfl hfixed hchannel,selectSensitiveRulesForRoute,if_neg,mem_filter]
  · refine ⟨hrule,?_⟩
    have howns : (p.policy.resolveSensitiveRuleTargets rule).MatchChannel channel ∨
        ∃ group, (p.policy.resolveSensitiveRuleTargets rule).MatchGroup p.lower group ∧
          ∀ codes, p.db.getChannelGroupCodes r.context.sensitiveFixedChannelId=some codes → group∈codes := by
      obtain hmatch | hmatch := hmatch
      · exact .inl hmatch
      cases hcodes : p.db.getChannelGroupCodes r.context.sensitiveFixedChannelId with
      | none => exact .inr ⟨_,hmatch,fun codes hsome => by cases hsome⟩
      | some codes =>
        obtain hown | ⟨own,hin,hown⟩ := hcovered channel codes hchannel hcodes rule hrule hon hmatch
        · exact .inl hown
        · exact .inr ⟨own,hown,fun other hsome => Option.some.inj hsome ▸ hin⟩
    obtain hown | ⟨group,hown,hin⟩ := howns
    · exact ruleSelected_of_channel hon hid.symm (fun _ => rfl) hown
    refine ruleSelected_of_group hon hfixed hown fun hknown => ?_
    obtain ⟨codes,hcodes⟩ := Option.isSome_iff_exists.mp hknown
    refine ⟨group,?_,rfl⟩
    unfold fixedChannelRoute
    dsimp only
    rw [hcodes]
    exact hin codes hcodes
  · unfold fixedChannelRoute
    dsimp only
    rw [henabled,Bool.not_true,Bool.and_false]
    exact Bool.false_ne_true

end Passing

section Attempts
variable {Body : Type} {p : PassSettings} {walk : FieldWalk Body} {c : RouteContext} {pick : Pick} {rule : PolicyRule}

theorem attempt_context (isJSON : Bool) (body : Body) : (applySensitiveFilterToRequestBody p walk isJSON c body).1=c := by
  unfold applySensitiveFilterToRequestBody
  split
  · rfl
  split
  · rfl
  obtain ⟨⟨marked,hmarked,hkeep⟩,-⟩ := @applyRules_spec Body p walk c isJSON false
    (selectSensitiveRulesForSelectedRoute p.db c p.lower p.requestRules p.policy) body
  rw [hmarked,hkeep rfl]

/-- The context after failed setups: the channel of the last pick, and the group that was recorded before. -/
theorem setupAfter_spec (c : RouteContext) (pick : Pick) (failures : List (SetupFailure×Pick)) :
    let out := c.setupAfter pick failures
    out.1.channelId=out.2.channel.id ∧ out.1.selectedChannel=some out.2.channel ∧ out.1.prechecked=c.prechecked ∧
      (c.selectedGroup≠"" → out.1.selectedGroup=c.selectedGroup) ∧
      (out.2=pick ∨ ∃ failure∈failures, out.2=failure.2) := by
  induction failures generalizing c pick with
  | nil =>
    refine ⟨rfl,rfl,rfl,?_,.inl rfl⟩
    intro hgroup
    exact if_pos hgroup
  | cons failure failures ih =>
    obtain ⟨kind,next⟩ := failure
    have hlater : ∀ c', (let out := RouteContext.setupAfter c' next failures
        out.2=next ∨ ∃ failure∈failures, out.2=failure.2) →
        (let out := RouteContext.setupAfter c' next failures
        out.2=pick ∨ ∃ failure∈(kind,next)::failures, out.2=failure.2) := by
      intro c' h
      obtain h | ⟨failure,hin,h⟩ := h
      · exact .inr ⟨(kind,next),mem_cons_self,h⟩
      · exact .inr ⟨failure,mem_cons_of_mem _ hin,h⟩
    cases kind with
    | early =>
      obtain ⟨hid,hchannel,hmark,hgroup,hpick⟩ := ih c next
      exact ⟨hid,hchannel,hmark,hgroup,hlater _ hpick⟩
    | late =>
      obtain ⟨hid,hchannel,hmark,hgroup,hpick⟩ := ih (c.setup pick.channel) next
      refine ⟨hid,hchannel,hmark,fun hne => ?_,hlater _ hpick⟩
      have hsame : (c.setup pick.channel).selectedGroup=c.selectedGroup := if_pos hne
      rw [← hsame] at hne ⊢
      exact hgroup hne

theorem auditRoute_group {lower : Char → Char} {channel : RouteChannel} {group : String} (h : trimSpace group≠"") :
    SameGroup lower (c.auditRoute channel group).selectedGroup group := by
  have hselected : (c.auditRoute channel group).selectedGroup=trimSpace group := if_pos h
  unfold SameGroup
  rw [hselected,trimSpace_trimSpace]

theorem retryChannel_routed {lower : Char → Char} (c : RouteContext) (next : Pick) :
    Routed lower (c.retryChannel next) next ∧ (c.retryChannel next).prechecked=c.prechecked := by
  refine ⟨⟨rfl,rfl,fun hnamed => auditRoute_group hnamed⟩,?_⟩
  unfold RouteContext.retryChannel RouteContext.recordGroup
  split <;> rfl

/-- The condition on a request: a fixed channel covers the group in use, and a setup that fails is not followed by a pick
from another group. -/
def GroupsKept (p : PassSettings) (r : RelayRequest Body) : Distribution → Prop
  | .specific => FixedGroupCovered p r
  | .dynamic first failures => ∀ failure∈failures, SameGroup p.lower failure.2.group first.group

theorem firstChannel_group {lower : Char → Char} {channel : RouteChannel} (h : trimSpace c.selectedGroup≠"") :
    SameGroup lower (c.firstChannel channel).selectedGroup c.selectedGroup := by
  have hne : c.selectedGroup≠"" := fun hempty => h (by rw [hempty]; exact trimSpace_empty)
  unfold RouteContext.firstChannel
  rw [if_neg hne]
  exact auditRoute_group h

def RelayRequest.start (r : RelayRequest Body) (marked : Bool) : RouteContext :=
  ({ r.context with prechecked := marked } : RouteContext).requestGroup r.modelGroup

theorem start_spec (r : RelayRequest Body) (marked : Bool) :
    (r.start marked).specificChannel=r.specificChannel ∧ (r.start marked).selectedGroup="" ∧
      (r.start marked).autoGroup="" ∧ (r.start marked).usingGroup=r.groupInUse ∧ (r.start marked).prechecked=marked := by
  unfold RelayRequest.start RelayRequest.groupInUse RouteContext.requestGroup
  split <;> exact ⟨rfl,rfl,rfl,rfl,rfl⟩

variable {r : RelayRequest Body} {marked : Bool}

theorem distribute_specific (h : distribute p.db (r.start marked) .specific=some (c,pick)) :
    Routed p.lower (c.firstChannel pick.channel) pick ∧ c.prechecked=marked ∧
      p.db.getChannelById r.context.sensitiveFixedChannelId=some pick.channel ∧ pick.channel.enabled=true ∧
      pick.group=r.groupInUse := by
  obtain ⟨hspecific,hselected,hauto,husing,hmark⟩ := start_spec r marked
  generalize r.start marked=start at h hspecific hselected hauto husing hmark
  simp only [distribute,hspecific,Option.bind_eq_bind,Option.bind_eq_some_iff] at h
  obtain ⟨text,htext,id,hid,channel,hchannel,h⟩ := h
  split at h
  next henabled =>
    obtain ⟨rfl,rfl⟩ := Prod.mk.inj (Option.some.inj h)
    have hfixed : r.context.sensitiveFixedChannelId=id := by
      have hpositive : 0 < id := p.db.found _ _ hchannel ▸ channel.positive
      have hread : r.context.specificChannel=some text := htext
      unfold RouteContext.sensitiveFixedChannelId
      rw [hread,Option.bind_some,trimSpace_of_atoi hid,hid]
      exact if_neg (by omega)
    refine ⟨⟨rfl,rfl,fun hnamed => firstChannel_group hnamed⟩,hmark,hfixed ▸ hchannel,henabled,?_⟩
    unfold RouteContext.setup
    dsimp only
    rw [hselected,hauto,husing]
    rfl
  · cases h

theorem distribute_dynamic {first : Pick} {failures : List (SetupFailure×Pick)}
    (h : distribute p.db (r.start marked) (.dynamic first failures)=some (c,pick))
    (hkept : ∀ failure∈failures, SameGroup p.lower failure.2.group first.group) :
    Routed p.lower (c.firstChannel pick.channel) pick ∧ c.prechecked=marked ∧ r.specificChannel=none := by
  obtain ⟨hspecific,-,-,-,hmark⟩ := start_spec r marked
  rw [distribute,hspecific] at h
  split at h
  · cases h
  rename_i hnone
  have hout := Option.some.inj h
  obtain ⟨hid,hchannel,hprechecked,hgroup,hpick⟩ :=
    setupAfter_spec ((r.start marked).recordGroup first.group) first failures
  rw [hout] at hid hchannel hprechecked hgroup hpick
  dsimp only at hid hchannel hprechecked hgroup hpick
  have hsame : SameGroup p.lower pick.group first.group := by
    obtain rfl | ⟨failure,hin,rfl⟩ := hpick
    · rfl
    · exact hkept failure hin
  refine ⟨⟨hid,rfl,?_⟩,?_,Option.not_isSome_iff_eq_none.mp hnone⟩
  · intro hnamed
    have hfirst : trimSpace first.group≠"" := fun hempty => hnamed (hsame.empty_iff.mpr hempty)
    have hne : first.group≠"" := fun hempty => hfirst (by rw [hempty]; exact trimSpace_empty)
    have hrecorded : ((r.start marked).recordGroup first.group).selectedGroup=first.group := by
      unfold RouteContext.recordGroup
      rw [if_pos hne]
    rw [hrecorded] at hgroup
    have hselected := hgroup hne
    have hkeep := @firstChannel_group c p.lower pick.channel (hselected ▸ hfirst)
    rw [hselected] at hkeep
    exact hkeep.trans hsame.symm
  · rw [hprechecked]
    unfold RouteContext.recordGroup
    split <;> exact hmark

theorem relayAttempts_mem {isJSON : Bool} {pre : List PolicyRule} {original : Body}
    {attempts : List (RouteContext → RouteContext×Pick)} {f : Forward Body}
    (hmark : ∀ attempt∈attempts, ∀ c, (attempt c).1.prechecked=c.prechecked)
    (h : f∈relayAttempts p walk isJSON pre original c attempts) :
    ∃ attempt∈attempts, ∃ c', c'.prechecked=c.prechecked ∧ f.pick=(attempt c').2 ∧
      f.applied=pre++(applySensitiveFilterToRequestBody p walk isJSON (attempt c').1 original).2.applied := by
  induction attempts generalizing c with
  | nil => cases h
  | cons attempt attempts ih =>
    rw [relayAttempts] at h
    split at h
    · cases h
    obtain rfl | h := mem_cons.mp h
    · exact ⟨attempt,mem_cons_self,c,rfl,rfl,rfl⟩
    rw [attempt_context] at h
    obtain ⟨other,hother,c',hc',hf⟩ := ih (fun other hother => hmark other (mem_cons_of_mem _ hother)) h
    exact ⟨other,mem_cons_of_mem _ hother,c',hc'.trans (hmark attempt mem_cons_self c),hf⟩

theorem marked_applied {distribution : Distribution} (hjson : r.isJSON=true)
    (hmarked : (r.precheck p walk).1.prechecked=true) (hkept : GroupsKept p r distribution)
    (h : distribute p.db (r.start marked) distribution=some (c,pick)) {sent : Pick}
    (hsent : sent=pick ∨ r.specificChannel=none) (hrule : Applicable p sent rule) : rule∈(r.precheck p walk).2.applied := by
  cases distribution with
  | specific =>
    obtain ⟨-,-,hchannel,henabled,hgroup⟩ := distribute_specific h
    obtain rfl | hnone := hsent
    · have hpick : sent={ channel := sent.channel, group := r.groupInUse } := by rw [← hgroup]
      exact precheck_specific hjson hmarked hchannel henabled hkept (hpick ▸ hrule)
    · obtain ⟨hspecific,-⟩ := start_spec r marked
      simp [distribute,hspecific,hnone] at h
  | dynamic first failures =>
    obtain ⟨-,-,hnone⟩ := distribute_dynamic h hkept
    have hfixed : r.context.sensitiveFixedChannelId=0 := by
      have hread : r.context.specificChannel=none := hnone
      rw [RouteContext.sensitiveFixedChannelId,hread,Option.bind_none]
    exact precheck_dynamic hjson hmarked (by omega) hrule.2.1 hrule.2.2.1

end Attempts

section Seven

def textWalk : FieldWalk String where
  blank body := trimSpace body=""
  blockScan f body := blockMatches toLowerChar f body.toList
  maskScan f body :=
    let masked := maskText toLowerChar f body.toList
    (String.ofList masked.1,masked.2)

def channelSeven : RouteChannel := { id := 7, positive := by decide }

def sevenDatabase (codes : List String) : RouteDatabase where
  getChannelById id := if id=7 then some channelSeven else none
  getChannelGroupCodes id := if id=7 then some codes else some []
  getGroupByCodeOrAlias := some
  found id channel h := by
    split at h
    next hid =>
      rw [hid,← Option.some.inj h]
      rfl
    · cases h

def vipPolicy : SensitivePolicySnapshot :=
  { rules := [{ keywords := ["cat"], targetType := "all" },
      { keywords := ["dog"], targetType := "groups", groupCodes := ["vip"] }] }

def vipRule : PolicyRule :=
  { id := "dog", name := "dog", keywords := ["dog"], targetType := "groups", groupCodes := ["vip"] }

def sevenSettings (codes : List String) : PassSettings :=
  { lower := toLowerChar, groupKeywords := fun _ => [], db := sevenDatabase codes, policy := vipPolicy }

def sevenRequest (body : String) : RelayRequest String := { specificChannel := some "7", usingGroup := "vip", body := body }

theorem vipRule_applicable (codes : List String) :
    Applicable (sevenSettings codes) { channel := channelSeven, group := "vip" } vipRule := by
  have hrules : (sevenSettings codes).requestRules=vipPolicy.getEffectiveSensitiveRulesByScope toLowerChar "request" := rfl
  have hpolicy : (sevenSettings codes).policy=vipPolicy := rfl
  refine ⟨rfl,?_,rfl,.inr ⟨"vip",?_,rfl⟩⟩
  · rw [hrules]
    decide +kernel
  · rw [hpolicy]
    decide +kernel

end Seven

end NewApi.Filter
