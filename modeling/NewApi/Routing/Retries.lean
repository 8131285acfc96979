import Mathlib.Tactic.IntervalCases
import NewApi.Routing.Offers

/-! The attempts of a request (`service/channel_select.go` and the loop of `Relay`). The retry index counts attempts and
names a tier in the list of those that still have an untried channel, so a tier that is used up moves the tiers below it
one place closer. -/
namespace NewApi.Routing

open List GoStrings

structure RequestContext where
  tokenGroup : String := ""
  tokenGroups : List String := []
  autoGroups : List String := []
  autoGroup : String := ""
  autoGroupIndex : Nat := 0
  autoGroupRetryIndex : Nat := 0

structure RetryParam where
  tokenGroup : String
  modelName : String
  requestPath : String
  retry : Nat := 0
  excludedChannelIDs : List Nat := []
  retryFallbackChannelIDs : List Nat := []

def RetryParam.increaseRetry (p : RetryParam) : RetryParam := { p with retry := p.retry+1 }

def RetryParam.excludeChannelID (p : RetryParam) (channelID : Nat) (allowFallback : Bool) : RetryParam :=
  if channelID=0 then p
  else
    { p with
      excludedChannelIDs := channelID::p.excludedChannelIDs
      retryFallbackChannelIDs :=
        if allowFallback then channelID::p.retryFallbackChannelIDs else p.retryFallbackChannelIDs }

def getRequestTokenGroups (ctx : RequestContext) (tokenGroup : String) : List String :=
  let requested := trimSpace tokenGroup
  let original := trimSpace ctx.tokenGroup
  if requested="" ∨ requested="auto" ∨ ctx.tokenGroups=[] then []
  else if original="" ∨ requested=original then ctx.tokenGroups
  else if requested∈ctx.tokenGroups then [requested]
  else []

/-- The exclusions of the second try: a regular group may use the attempted channels again. -/
def retryFallbackExclusions (ctx : RequestContext) (p : RetryParam) : Option (List Nat) :=
  if p.retry=0 ∨ p.retryFallbackChannelIDs=[] ∨ p.tokenGroup="auto" ∨
      1<(getRequestTokenGroups ctx p.tokenGroup).length then none
  else some (p.excludedChannelIDs.filter (· ∉ p.retryFallbackChannelIDs))

def RetryParam.query (p : RetryParam) (group : String) (retry : Nat) (excluded : List Nat) : Query :=
  { group := group, model := p.modelName, retry := retry, requestPath := p.requestPath, excluded := excluded }

variable {Config : Type}

section Selection
variable (select : Query → (Nat → Nat) → Except SelectError (Option (Channel Config))) (p : RetryParam) (intn : Nat → Nat)

def selectFromGroup (ctx : RequestContext) (group : String) (retry : Nat) : Except SelectError (Option (Channel Config)) :=
  match select (p.query group retry p.excludedChannelIDs) intn with
  | .error e => .error e
  | .ok (some c) => .ok (some c)
  | .ok none => match retryFallbackExclusions ctx p with
    | some ids => select (p.query group retry ids) intn
    | none => .ok none

/-- The loop of `selectFromOrderedGroups` over the groups from position `i` on. -/
def orderedGroupsFrom (ctx : RequestContext) (groupStartRetry i : Nat) :
    List String → RequestContext×String×Except SelectError (Option (Channel Config))
  | [] => (ctx,p.tokenGroup,.ok none)
  | group::groups => match selectFromGroup select p intn ctx group (p.retry-groupStartRetry) with
    | .error e => (ctx,group,.error e)
    | .ok none =>
      orderedGroupsFrom { ctx with autoGroupIndex := i+1, autoGroupRetryIndex := p.retry } p.retry (i+1) groups
    | .ok (some c) =>
      ({ ctx with autoGroup := group, autoGroupIndex := i, autoGroupRetryIndex := groupStartRetry },group,.ok (some c))

def selectFromOrderedGroups (ctx : RequestContext) (groups : List String) :
    RequestContext×String×Except SelectError (Option (Channel Config)) :=
  orderedGroupsFrom select p intn ctx (min ctx.autoGroupRetryIndex p.retry) ctx.autoGroupIndex
    (groups.drop ctx.autoGroupIndex)

def cacheGetRandomSatisfiedChannel (ctx : RequestContext) :
    RequestContext×String×Except SelectError (Option (Channel Config)) :=
  if p.tokenGroup="auto" then
    if ctx.autoGroups=[] then (ctx,p.tokenGroup,.error .autoGroupsNotEnabled)
    else selectFromOrderedGroups select p intn ctx ctx.autoGroups
  else if 1<(getRequestTokenGroups ctx p.tokenGroup).length then
    selectFromOrderedGroups select p intn ctx (getRequestTokenGroups ctx p.tokenGroup)
  else (ctx,p.tokenGroup,selectFromGroup select p intn ctx p.tokenGroup p.retry)

end Selection

structure Attempt (Config : Type) where
  group : String
  place : Nat
  channel : Channel Config
  deriving DecidableEq

structure RelayState (Config : Type) where
  ctx : RequestContext
  param : RetryParam
  log : List (Attempt Config) := []

def relayAttempt (select : Query → (Nat → Nat) → Except SelectError (Option (Channel Config))) (s : RelayState Config)
    (intn : Nat → Nat) : Option (RelayState Config) :=
  match cacheGetRandomSatisfiedChannel select s.param intn s.ctx with
  | (ctx,group,.ok (some c)) => some
    { ctx := ctx
      param := (s.param.excludeChannelID c.id true).increaseRetry
      log := s.log++[⟨group,ctx.autoGroupIndex,c⟩] }
  | _ => none

def relayRun (select : Query → (Nat → Nat) → Except SelectError (Option (Channel Config))) :
    List (Nat → Nat) → RelayState Config → Option (RelayState Config)
  | [], s => some s
  | intn::draws, s => (relayAttempt select s intn).bind (relayRun select draws)

section Pacing
variable {fresh tried untried : List (Channel Config)} {c : Channel Config} (priorities : List Int)

def tierAt (channels : List (Channel Config)) (retry : Nat) : Option Int :=
  let priorities := sortedPriorities (channels.map (·.getPriority))
  priorities[clampRetry retry priorities.length]?

def Roomy (channels : List (Channel Config)) : Prop :=
  ∀ high∈channels, ∀ middle∈channels, ∀ low∈channels,
    middle.getPriority<high.getPriority → low.getPriority < middle.getPriority →
      ∃ second∈channels, second≠high ∧ second.getPriority=high.getPriority

/-- The channels tried so far open with one of each tier, from the highest on. -/
def Paced (fresh tried : List (Channel Config)) : Prop :=
  (sortedPriorities (fresh.map (·.getPriority))).take tried.length <+: tried.map (·.getPriority)

theorem sortedPriorities_strict : (sortedPriorities priorities).Pairwise (· > ·) := by
  have hsorted : (sortedPriorities priorities).Pairwise (· ≥ ·) := pairwise_insertionSort _ _
  have hnodup : (sortedPriorities priorities).Nodup :=
    (perm_insertionSort _ _).nodup_iff.mpr priorities.nodup_dedup
  exact (hsorted.and hnodup).imp fun h => lt_of_le_of_ne h.1 (Ne.symm h.2)

theorem sortedPriorities_nodup : (sortedPriorities priorities).Nodup :=
  (sortedPriorities_strict priorities).imp fun h => ne_of_gt h

theorem Paced.append_of_le (h : Paced fresh tried)
    (hle : (sortedPriorities (fresh.map (·.getPriority))).length≤tried.length) (c : Channel Config) :
    Paced fresh (tried++[c]) := by
  unfold Paced at h ⊢
  rw [take_of_length_le hle] at h
  rw [take_of_length_le (by rw [length_append]; omega),map_append]
  exact h.trans (prefix_append _ _)

theorem Paced.map_eq (h : Paced fresh tried) (hlt : tried.length<(sortedPriorities (fresh.map (·.getPriority))).length) :
    tried.map (·.getPriority)=(sortedPriorities (fresh.map (·.getPriority))).take tried.length := by
  refine (h.eq_of_length ?_).symm
  rw [length_take,length_map]
  omega

section
variable (huntried : ∀ d, d∈untried ↔ d∈fresh ∧ d∉tried)
include huntried

theorem tiers_kept (hroomy : Roomy fresh)
    (hpaced : Paced fresh tried) (hlt : tried.length+1<(sortedPriorities (fresh.map (·.getPriority))).length) :
    sortedPriorities (untried.map (·.getPriority))=sortedPriorities (fresh.map (·.getPriority)) := by
  obtain ⟨tiers,htiers⟩ : ∃ tiers, tiers=sortedPriorities (fresh.map (·.getPriority)) := ⟨_,rfl⟩
  have hmap := hpaced.map_eq (by omega)
  rw [← htiers] at hlt hmap
  have hstrict : tiers.Pairwise (· > ·) := htiers ▸ sortedPriorities_strict _
  have htier : ∀ n (hn : n<tiers.length), ∃ d∈fresh, d.getPriority=tiers[n] := by
    intro n hn
    have hmem : tiers[n]∈sortedPriorities (fresh.map (·.getPriority)) := htiers ▸ getElem_mem hn
    exact mem_map.mp (mem_sortedPriorities.mp hmem)
  have hnodup : (tried.map (·.getPriority)).Nodup := by
    rw [hmap,htiers]
    exact (sortedPriorities_nodup _).sublist (take_sublist _ _)
  apply sortedPriorities_congr
  intro p
  simp only [mem_map,huntried]
  constructor
  · rintro ⟨d,⟨hd,-⟩,rfl⟩
    exact ⟨d,hd,rfl⟩
  · rintro ⟨d,hd,rfl⟩
    by_cases htried : d∈tried
    · -- A tried channel is of a tier above the last two.
      have hlisted : d.getPriority∈tiers.take tried.length := hmap ▸ mem_map_of_mem htried
      obtain ⟨n,hn,hpriority⟩ := mem_take_iff_getElem.mp hlisted
      rw [lt_min_iff] at hn
      obtain ⟨middle,hmiddle,hmid⟩ := htier (n+1) (by omega)
      obtain ⟨low,hlow,hbelow⟩ := htier (n+2) (by omega)
      obtain ⟨second,hsecond,hne,hsame⟩ := hroomy d hd middle hmiddle low hlow
        (by rw [hmid,← hpriority]; exact pairwise_iff_getElem.mp hstrict n (n+1) (by omega) (by omega) (by omega))
        (by rw [hmid,hbelow]; exact pairwise_iff_getElem.mp hstrict (n+1) (n+2) (by omega) (by omega) (by omega))
      exact ⟨second,⟨hsecond,fun hin => hne (inj_on_of_nodup_map hnodup hin htried hsame)⟩,hsame⟩
    · exact ⟨d,⟨hd,htried⟩,rfl⟩

theorem tierAt_last (hpaced : Paced fresh tried)
    (hc : tierAt untried tried.length=some c.getPriority) (hlast : tried.length+1=(sortedPriorities (fresh.map (·.getPriority))).length) :
    (sortedPriorities (fresh.map (·.getPriority)))[tried.length]? = some c.getPriority := by
  obtain ⟨tiers,htiers⟩ : ∃ tiers, tiers=sortedPriorities (fresh.map (·.getPriority)) := ⟨_,rfl⟩
  obtain ⟨left,hleft⟩ : ∃ left, left=sortedPriorities (untried.map (·.getPriority)) := ⟨_,rfl⟩
  have hmap := hpaced.map_eq (by omega)
  rw [tierAt,← hleft] at hc
  rw [← htiers] at hlast hmap ⊢
  have hstrict : tiers.Pairwise (· > ·) := htiers ▸ sortedPriorities_strict _
  have hsub : ∀ t∈left, t∈tiers := by
    intro t ht
    rw [hleft,mem_sortedPriorities,mem_map] at ht
    obtain ⟨d,hd,rfl⟩ := ht
    rw [htiers,mem_sortedPriorities]
    exact mem_map_of_mem ((huntried d).mp hd).1
  have hlength : left.length≤tiers.length :=
    ((subperm_of_subset (hleft ▸ sortedPriorities_nodup _) hsub)).length_le
  have hlowest : tiers[tried.length]∈left := by
    have hmem : tiers[tried.length]∈sortedPriorities (fresh.map (·.getPriority)) := htiers ▸ getElem_mem _
    obtain ⟨d,hd,hpriority⟩ := mem_map.mp (mem_sortedPriorities.mp hmem)
    rw [hleft,mem_sortedPriorities,mem_map]
    refine ⟨d,(huntried d).mpr ⟨hd,fun htried => ?_⟩,hpriority⟩
    have hlisted : d.getPriority∈tiers.take tried.length := hmap ▸ mem_map_of_mem htried
    obtain ⟨n,hn,hsame⟩ := mem_take_iff_getElem.mp hlisted
    rw [lt_min_iff] at hn
    have hgt : tiers[n]>tiers[tried.length] := pairwise_iff_getElem.mp hstrict n tried.length _ _ hn.1
    omega
  have hpos : 0<left.length := length_pos_of_mem hlowest
  have hclamp : clampRetry tried.length left.length=left.length-1 := by
    unfold clampRetry
    omega
  rw [hclamp,getElem?_eq_getElem (by omega)] at hc
  have hleast : left[left.length-1]≤tiers[tried.length] := by
    obtain ⟨n,hn,hsame⟩ := getElem_of_mem hlowest
    rw [← hsame]
    rcases Nat.lt_or_ge n (left.length-1) with hlt | hge
    · exact le_of_lt (pairwise_iff_getElem.mp (hleft ▸ sortedPriorities_strict _) n _ hn _ hlt)
    have hn' : n=left.length-1 := by omega
    subst hn'
    exact le_refl _
  have hgreatest : tiers[tried.length]≤left[left.length-1] := by
    obtain ⟨n,hn,hsame⟩ := getElem_of_mem (hsub _ (getElem_mem (by omega : left.length-1<left.length)))
    rw [← hsame]
    rcases Nat.lt_or_ge n tried.length with hlt | hge
    · exact le_of_lt (pairwise_iff_getElem.mp hstrict n _ hn _ hlt)
    have hn' : n=tried.length := by omega
    subst hn'
    exact le_refl _
  rw [getElem?_eq_getElem (by omega),← hc,le_antisymm hleast hgreatest]

theorem Paced.next_tier (hroomy : Roomy fresh)
    (hpaced : Paced fresh tried) (hc : tierAt untried tried.length=some c.getPriority)
    (hlt : tried.length<(sortedPriorities (fresh.map (·.getPriority))).length) :
    (sortedPriorities (fresh.map (·.getPriority)))[tried.length]? = some c.getPriority := by
  rcases Nat.lt_or_ge (tried.length+1) (sortedPriorities (fresh.map (·.getPriority))).length with hinner | hlast
  · have hkept := tiers_kept huntried hroomy hpaced hinner
    have hclamp : clampRetry tried.length (sortedPriorities (fresh.map (·.getPriority))).length=tried.length := by
      unfold clampRetry
      omega
    rw [tierAt,hkept] at hc
    rwa [hclamp] at hc
  · exact tierAt_last huntried hpaced hc (by omega)

end

theorem Paced.all_used (hpaced : Paced fresh tried) (hle : (sortedPriorities (fresh.map (·.getPriority))).length≤tried.length) :
    ∀ d∈fresh, ∃ a∈tried, a.getPriority=d.getPriority := by
  intro d hd
  unfold Paced at hpaced
  rw [take_of_length_le hle] at hpaced
  exact mem_map.mp (hpaced.subset (mem_sortedPriorities.mpr (mem_map_of_mem hd)))

theorem Paced.step (huntried : ∀ d, d∈untried ↔ d∈fresh ∧ d∉tried) (hroomy : Roomy fresh)
    (hpaced : Paced fresh tried) (hc : tierAt untried tried.length=some c.getPriority) : Paced fresh (tried++[c]) ∧
      ∀ d∈fresh, c.getPriority<d.getPriority → ∃ a∈tried, a.getPriority=d.getPriority := by
  rcases Nat.lt_or_ge tried.length (sortedPriorities (fresh.map (·.getPriority))).length with hlt | hle
  · have hnext := hpaced.next_tier huntried hroomy hc hlt
    have hmap := hpaced.map_eq hlt
    constructor
    · unfold Paced
      rw [length_append,length_singleton,take_add_one,hnext,map_append,hmap]
      exact prefix_refl _
    · intro d hd habove
      have hmem : d.getPriority∈sortedPriorities (fresh.map (·.getPriority)) :=
        mem_sortedPriorities.mpr (mem_map_of_mem hd)
      obtain ⟨n,hn,hpriority⟩ := getElem_of_mem hmem
      rw [getElem?_eq_getElem hlt] at hnext
      have hc' := Option.some.inj hnext
      have hbefore : n<tried.length := by
        by_contra hge
        rcases Nat.lt_or_ge tried.length n with hafter | hle
        · have hgt := pairwise_iff_getElem.mp (sortedPriorities_strict (fresh.map (·.getPriority))) _ n hlt hn hafter
          omega
        · obtain rfl : n=tried.length := by omega
          omega
      have hused : d.getPriority∈tried.map (·.getPriority) := by
        rw [hmap,mem_take_iff_getElem]
        exact ⟨n,lt_min hbefore hn,hpriority⟩
      exact mem_map.mp hused
  · exact ⟨hpaced.append_of_le hle c,fun d hd _ => hpaced.all_used hle d hd⟩

end Pacing

section Serving
variable {around : Surroundings Config} {tables : Tables Config}

theorem Outcome.free {q : Query} {model : String} {offered : List (Channel Config) → Channel Config → Prop} {retry : Nat}
    {result : Except SelectError (Option (Channel Config))} (h : Outcome around tables q model offered result)
    (hfree : ∀ c∈tables.channels, around.available c=true) (hoffered : ∀ targets c, offered targets c → c∈targets)
    (hretry : q.retry=retry) : freshFor around tables q model=[] ∧ result=.ok none ∨ ∃ c∈freshFor around tables q model,
        tierAt (freshFor around tables q model) retry=some c.getPriority ∧ result=.ok (some c) := by
  unfold Outcome at h
  split at h
  next hempty =>
    exact .inl ⟨List.isEmpty_iff.mp hempty,h⟩
  next hempty =>
    obtain ⟨tiers,htiers⟩ : ∃ tiers, tiers =
      sortedPriorities ((freshFor around tables q model).map (·.getPriority)) := ⟨_,rfl⟩
    have hne : tiers.isEmpty=false := by
      rw [htiers,sortedPriorities_isEmpty]
      simpa using hempty
    have hlt : clampRetry retry tiers.length<tiers.length := by
      have hpos : 0<tiers.length := length_pos_of_ne_nil (isEmpty_eq_false_iff.mp hne)
      unfold clampRetry
      omega
    have hopen : openTiers around tables q model =
        tiers[clampRetry retry tiers.length]::tiers.drop (clampRetry retry tiers.length+1) := by
      unfold openTiers
      rw [hretry,← htiers,drop_eq_getElem_cons]
    have hserved : servedTier around tables q model=some tiers[clampRetry retry tiers.length] := by
      have hmem : tiers[clampRetry retry tiers.length] ∈
          sortedPriorities ((freshFor around tables q model).map (·.getPriority)) := htiers ▸ getElem_mem hlt
      obtain ⟨c,hc,hpriority⟩ := mem_map.mp (mem_sortedPriorities.mp hmem)
      have hin : c∈tierChannels around tables q model tiers[clampRetry retry tiers.length] := by
        refine mem_filter.mpr ⟨hc,?_⟩
        rw [Bool.and_eq_true,decide_eq_true_eq]
        exact ⟨hpriority,hfree c (mem_of_mem_filter (mem_of_mem_filter hc))⟩
      unfold servedTier
      rw [hopen,find?_cons_of_pos]
      rw [Bool.not_eq_true',isEmpty_eq_false_iff]
      exact ne_nil_of_mem hin
    rw [hserved] at h
    obtain ⟨c,hc,hresult⟩ := h
    have hmem := mem_filter.mp (hoffered _ c hc)
    rw [Bool.and_eq_true,decide_eq_true_eq] at hmem
    refine .inr ⟨c,hmem.1,?_,hresult⟩
    rw [tierAt,← htiers,getElem?_eq_getElem hlt,hmem.2.1]

variable (around tables) (memoryCacheEnabled : Bool)

def selectorOf (q : Query) (intn : Nat → Nat) : Except SelectError (Option (Channel Config)) :=
  getRandomSatisfiedChannelWithSelectionExclusions around memoryCacheEnabled (initChannelCache tables) tables q intn

def candidatesOf (p : RetryParam) (group : String) : List (Channel Config) :=
  let q := p.query group 0 []
  candidatesFor around tables q (if memoryCacheEnabled then cacheModel around tables q else q.model)

def untriedOf (p : RetryParam) (group : String) (excluded : List Nat) : List (Channel Config) :=
  (candidatesOf around tables memoryCacheEnabled p group).filter fun c => c.id∉excluded

variable {around tables memoryCacheEnabled}

theorem selectorOf_spec (h : tables.Consistent) (hfree : ∀ c∈tables.channels, around.available c=true)
    {intn : Nat → Nat} (hintn : ∀ n, 0<n → intn n<n) (p : RetryParam) (group : String) (retry : Nat) (excluded : List Nat) :
    untriedOf around tables memoryCacheEnabled p group excluded=[] ∧
        selectorOf around tables memoryCacheEnabled (p.query group retry excluded) intn=.ok none ∨
      ∃ c∈untriedOf around tables memoryCacheEnabled p group excluded,
        tierAt (untriedOf around tables memoryCacheEnabled p group excluded) retry=some c.getPriority ∧
        selectorOf around tables memoryCacheEnabled (p.query group retry excluded) intn=.ok (some c) := by
  cases memoryCacheEnabled with
  | true =>
    have houtcome := (canReturn_cache around tables (p.query group retry excluded) h _).mp ⟨intn,hintn,rfl⟩
    exact houtcome.free hfree (fun _ _ hc => hc.1) rfl
  | false =>
    have houtcome := (canReturn_database around tables (p.query group retry excluded) h _).mp ⟨intn,hintn,rfl⟩
    exact houtcome.free hfree (fun _ _ hc => hc) rfl

end Serving

section Walk
variable (cand : String → List (Channel Config)) (groups : List String)

def untriedAfter (log : List (Attempt Config)) (group : String) : List (Channel Config) :=
  (cand group).filter fun c => c.id∉log.map (·.channel.id)

/-- Every group is entered with a second channel in each of its upper tiers. -/
def RoomyEntries (log : List (Attempt Config)) : Prop :=
  ∀ n a, log[n]? = some a → (∀ b∈log.take n, b.group≠a.group) → Roomy (untriedAfter cand (log.take n) a.group)

/-- An attempt in a later or the same group, on an untried channel of the tier that the count of the group names, or on
any candidate when none is untried. -/
structure Advance (log : List (Attempt Config)) (place start : Nat) (a : Attempt Config) (start' : Nat) : Prop where
  le : place≤a.place
  group : groups[a.place]? = some a.group
  skipped : ∀ k, place≤k → k<a.place → ∀ g, groups[k]? = some g → untriedAfter cand log g=[]
  start_eq : start' = if a.place=place then start else log.length
  member : a.channel∈cand a.group
  chosen : (a.channel∈untriedAfter cand log a.group ∧
      tierAt (untriedAfter cand log a.group) (log.length-start')=some a.channel.getPriority) ∨
    a.place=place ∧ untriedAfter cand log a.group=[]

/-- What every log keeps: groups in their order, each begun when the earlier ones were used up. -/
structure Walk (log : List (Attempt Config)) (place start : Nat) : Prop where
  entered : log=[] ∧ start=0 ∨ start<log.length
  earlier : ∀ k<place, ∀ g, groups[k]? = some g → ∀ c∈cand g, c∈log.map (·.channel)
  first : ∀ b∈log.take start, groups[place]? ≠ some b.group
  current : ∀ b∈log.drop start, groups[place]? = some b.group
  places : ∀ b∈log, b.place≤place
  attempts : ∀ n a, log[n]? = some a → groups[a.place]? = some a.group ∧ a.channel∈cand a.group ∧
    (∀ b∈log.take n, b.place≤a.place) ∧
    ∀ k<a.place, ∀ g, groups[k]? = some g → ∀ c∈cand g, c∈(log.take n).map (·.channel)

variable {cand groups} {log : List (Attempt Config)} {place start start' : Nat} {a : Attempt Config}

theorem RoomyEntries.before (h : RoomyEntries cand (log++[a])) : RoomyEntries cand log := by
  intro n b hb hfirst
  have hn : n<log.length := (List.getElem?_eq_some_iff.mp hb).1
  have htake : (log++[a]).take n=log.take n := take_append_of_le_length (by omega)
  rw [← htake] at hfirst ⊢
  exact h n b (by rw [getElem?_append_left hn,hb]) hfirst

theorem attempts_append {P : List (Attempt Config) → Attempt Config → Prop}
    (h : ∀ n b, log[n]? = some b → P (log.take n) b) (ha : P log a) :
    ∀ n b, (log++[a])[n]? = some b → P ((log++[a]).take n) b := by
  intro n b hb
  rcases Nat.lt_or_ge n log.length with hn | hn
  · rw [getElem?_append_left hn] at hb
    rw [take_append_of_le_length (by omega)]
    exact h n b hb
  · have hlt : n<(log++[a]).length := (List.getElem?_eq_some_iff.mp hb).1
    rw [length_append,length_singleton] at hlt
    obtain rfl : n=log.length := by omega
    rw [getElem?_concat_length] at hb
    rw [take_left,← Option.some.inj hb]
    exact ha

theorem tried_of_untriedAfter_nil (hids : ∀ g g', ∀ c∈cand g, ∀ d∈cand g', c.id=d.id → c=d)
    (hmember : ∀ b∈log, b.channel∈cand b.group) {g : String} (h : untriedAfter cand log g=[]) {c : Channel Config}
    (hc : c∈cand g) : c∈log.map (·.channel) := by
  have hnot := filter_eq_nil_iff.mp h c hc
  rw [decide_eq_true_eq,not_not,mem_map] at hnot
  obtain ⟨b,hb,hid⟩ := hnot
  rw [← hids _ _ _ (hmember b hb) c hc hid]
  exact mem_map_of_mem hb

theorem Walk.member (h : Walk cand groups log place start) : ∀ b∈log, b.channel∈cand b.group := by
  intro b hb
  obtain ⟨n,hn,hsame⟩ := getElem_of_mem hb
  exact (h.attempts n b (by rw [getElem?_eq_getElem hn,hsame])).2.1

theorem Walk.earlier_tried (hids : ∀ g g', ∀ c∈cand g, ∀ d∈cand g', c.id=d.id → c=d)
    (h : Walk cand groups log place start) (hadvance : Advance cand groups log place start a start') :
    ∀ k<a.place, ∀ g, groups[k]? = some g → ∀ c∈cand g, c∈log.map (·.channel) := by
  intro k hk g hg c hc
  rcases Nat.lt_or_ge k place with hlt | hge
  · exact h.earlier k hlt g hg c hc
  · exact tried_of_untriedAfter_nil hids h.member (hadvance.skipped k hge hk g hg) hc

theorem Walk.enters_new (hids : ∀ g g', ∀ c∈cand g, ∀ d∈cand g', c.id=d.id → c=d)
    (h : Walk cand groups log place start) (hadvance : Advance cand groups log place start a start')
    (hplace : a.place≠place) : ∀ b∈log, b.group≠a.group := by
  intro b hb hsame
  obtain ⟨huntried,-⟩ | ⟨hplace',-⟩ := hadvance.chosen
  · obtain ⟨n,hn,hget⟩ := getElem_of_mem hb
    have hgroup := (h.attempts n b (by rw [getElem?_eq_getElem hn,hget])).1
    have hle := h.places b hb
    have hlt := lt_of_le_of_ne hadvance.le (Ne.symm hplace)
    have htried := h.earlier_tried hids hadvance b.place (by omega) b.group hgroup a.channel (hsame ▸ hadvance.member)
    have hnot := (mem_filter.mp huntried).2
    rw [decide_eq_true_eq] at hnot
    obtain ⟨b',hb',hchannel⟩ := mem_map.mp htried
    exact hnot (mem_map.mpr ⟨b',hb',congrArg _ hchannel⟩)
  · exact hplace hplace'

theorem Walk.step (hids : ∀ g g', ∀ c∈cand g, ∀ d∈cand g', c.id=d.id → c=d)
    (h : Walk cand groups log place start) (hadvance : Advance cand groups log place start a start') :
    Walk cand groups (log++[a]) a.place start' := by
  have htried := h.earlier_tried hids hadvance
  have hstart : start'≤log.length := by
    have hentered := h.entered
    rw [hadvance.start_eq]
    split <;> omega
  refine ⟨.inr ?_,?_,?_,?_,?_,?_⟩
  · rw [length_append,length_singleton]
    omega
  · intro k hk g hg c hc
    rw [map_append]
    exact mem_append_left _ (htried k hk g hg c hc)
  · rw [take_append_of_le_length hstart,hadvance.group]
    intro b hb hsame
    have hstart_eq := hadvance.start_eq
    split at hstart_eq
    next hplace =>
      subst hstart_eq
      exact h.first b hb (by rw [← hplace,hadvance.group,hsame])
    next hplace =>
      exact h.enters_new hids hadvance hplace b (mem_of_mem_take hb) (Option.some.inj hsame).symm
  · rw [drop_append_of_le_length hstart]
    intro b hb
    rw [mem_append,mem_singleton] at hb
    obtain hb | rfl := hb
    · have hstart_eq := hadvance.start_eq
      split at hstart_eq
      next hplace =>
        subst hstart_eq
        rw [hplace]
        exact h.current b hb
      · rw [hstart_eq,drop_length] at hb
        cases hb
    · exact hadvance.group
  · intro b hb
    rw [mem_append,mem_singleton] at hb
    obtain hb | rfl := hb
    · exact (h.places b hb).trans hadvance.le
    · exact le_refl _
  · exact attempts_append (P := fun before a => groups[a.place]? = some a.group ∧ a.channel∈cand a.group ∧
        (∀ b∈before, b.place≤a.place) ∧
        ∀ k<a.place, ∀ g, groups[k]? = some g → ∀ c∈cand g, c∈before.map (·.channel)) h.attempts
      ⟨hadvance.group,hadvance.member,fun b hb => (h.places b hb).trans hadvance.le,htried⟩

def TiersTried (cand : String → List (Channel Config)) (before : List (Attempt Config)) (a : Attempt Config) : Prop :=
  ∀ d∈cand a.group, a.channel.getPriority<d.getPriority →
    ∃ b∈before, b.channel∈cand a.group ∧ b.channel.getPriority=d.getPriority

variable (cand groups) in
structure Kept (log : List (Attempt Config)) (place start : Nat) : Prop where
  paced : ∀ g, groups[place]? = some g → Paced (untriedAfter cand (log.take start) g) ((log.drop start).map (·.channel))
  tiers : ∀ n a, log[n]? = some a → TiersTried cand (log.take n) a

theorem Walk.roomy (hids : ∀ g g', ∀ c∈cand g, ∀ d∈cand g', c.id=d.id → c=d)
    (h : Walk cand groups log place start) (hadvance : Advance cand groups log place start a start')
    (hroomy : RoomyEntries cand (log++[a])) : Roomy (untriedAfter cand (log.take start') a.group) := by
  have hwalk := h.step hids hadvance
  have hlt : start'<(log++[a]).length := by
    obtain ⟨hnil,-⟩ | hlt := hwalk.entered
    · exact absurd hnil (append_ne_nil_of_right_ne_nil _ (cons_ne_nil _ _))
    · exact hlt
  have hle : start'≤log.length := by
    rw [length_append,length_singleton] at hlt
    omega
  have hget : (log++[a])[start']? = some (log++[a])[start'] := getElem?_eq_getElem hlt
  have hsame : (log++[a])[start'].group=a.group := by
    have hmem : (log++[a])[start']∈(log++[a]).drop start' := by
      rw [drop_eq_getElem_cons hlt]
      exact mem_cons_self
    exact Option.some.inj ((hwalk.current _ hmem).symm.trans hadvance.group)
  have hroom := hroomy start' _ hget fun b hb hgroup =>
    hwalk.first b hb (by rw [hadvance.group,hgroup,hsame])
  rwa [hsame,take_append_of_le_length hle] at hroom

theorem Kept.step (hids : ∀ g g', ∀ c∈cand g, ∀ d∈cand g', c.id=d.id → c=d)
    (h : Walk cand groups log place start) (hkept : Kept cand groups log place start)
    (hadvance : Advance cand groups log place start a start') (hroomy : RoomyEntries cand (log++[a])) :
    Kept cand groups (log++[a]) a.place start' := by
  have hstart : start'≤log.length := by
    have hentered := h.entered
    rw [hadvance.start_eq]
    split <;> omega
  obtain ⟨fresh,hfresh⟩ : ∃ fresh, fresh=untriedAfter cand (log.take start') a.group := ⟨_,rfl⟩
  obtain ⟨tried,htried⟩ : ∃ tried, tried=(log.drop start').map (·.channel) := ⟨_,rfl⟩
  have hlength : tried.length=log.length-start' := by rw [htried,length_map,length_drop]
  have hpaced : Paced fresh tried := by
    have hstart_eq := hadvance.start_eq
    split at hstart_eq
    next hplace =>
      rw [hfresh,htried,hstart_eq]
      exact hkept.paced _ (hplace ▸ hadvance.group)
    · rw [htried,hstart_eq,drop_length]
      exact nil_prefix
  have huntried : ∀ d, d∈untriedAfter cand log a.group ↔ d∈fresh ∧ d∉tried := by
    intro d
    rw [hfresh,htried]
    simp only [untriedAfter,mem_filter,decide_eq_true_eq]
    have hsplit : d.id∈log.map (·.channel.id) ↔
        d.id∈(log.take start').map (·.channel.id) ∨ d.id∈(log.drop start').map (·.channel.id) := by
      rw [← mem_append,← map_append,take_append_drop]
    have hlater : d∈cand a.group → (d.id∈(log.drop start').map (·.channel.id) ↔ d∈(log.drop start').map (·.channel)) := by
      intro hd
      constructor
      · intro hid
        obtain ⟨b,hb,hsame⟩ := mem_map.mp hid
        exact mem_map.mpr ⟨b,hb,hids _ _ _ (h.member b (mem_of_mem_drop hb)) d hd hsame⟩
      · intro hchannel
        obtain ⟨b,hb,rfl⟩ := mem_map.mp hchannel
        exact mem_map.mpr ⟨b,hb,rfl⟩
    rw [hsplit]
    constructor
    · rintro ⟨hd,hnot⟩
      exact ⟨⟨hd,fun hin => hnot (.inl hin)⟩,fun hin => hnot (.inr ((hlater hd).mpr hin))⟩
    · rintro ⟨⟨hd,hbefore⟩,hafter⟩
      exact ⟨hd,fun hin => hin.elim hbefore fun hin => hafter ((hlater hd).mp hin)⟩
  have hstep : Paced fresh (tried++[a.channel]) ∧ ∀ d∈fresh, a.channel.getPriority<d.getPriority →
      ∃ c∈tried, c.getPriority=d.getPriority := by
    obtain ⟨-,htier⟩ | ⟨-,hnone⟩ := hadvance.chosen
    · rw [← hlength] at htier
      exact hpaced.step huntried (hfresh ▸ h.roomy hids hadvance hroomy) htier
    · have hall : ∀ d∈fresh, d∈tried := by
        intro d hd
        by_contra hnot
        have hin := (huntried d).mpr ⟨hd,hnot⟩
        rw [hnone] at hin
        cases hin
      have hle : (sortedPriorities (fresh.map (·.getPriority))).length≤tried.length := by
        have hmapped : (tried.map (·.getPriority)).length=tried.length := length_map _
        rw [← hmapped]
        refine (subperm_of_subset (sortedPriorities_nodup _) fun t ht => ?_).length_le
        obtain ⟨d,hd,rfl⟩ := mem_map.mp (mem_sortedPriorities.mp ht)
        exact mem_map_of_mem (hall d hd)
      exact ⟨hpaced.append_of_le hle _,fun d hd _ => ⟨d,hall d hd,rfl⟩⟩
  refine ⟨?_,attempts_append hkept.tiers ?_⟩
  · intro g hg
    obtain rfl : a.group=g := Option.some.inj (hadvance.group.symm.trans hg)
    rw [take_append_of_le_length hstart,drop_append_of_le_length hstart,map_append,← hfresh,← htried]
    exact hstep.1
  · intro d hd habove
    by_cases hin : d∈fresh
    · obtain ⟨c,hc,hpriority⟩ := hstep.2 d hin habove
      rw [htried,mem_map] at hc
      obtain ⟨b,hb,rfl⟩ := hc
      refine ⟨b,mem_of_mem_drop hb,?_,hpriority⟩
      have hgroup : b.group=a.group := by
        have hwalk := (h.step hids hadvance).current b (by
          rw [drop_append_of_le_length hstart]
          exact mem_append_left _ hb)
        exact Option.some.inj (hwalk.symm.trans hadvance.group)
      exact hgroup ▸ h.member b (mem_of_mem_drop hb)
    · -- The candidate itself was tried before the group was entered.
      rw [hfresh,untriedAfter,mem_filter,decide_eq_true_eq,not_and,not_not] at hin
      obtain ⟨b,hb,hsame⟩ := mem_map.mp (hin hd)
      have hb' := mem_of_mem_take hb
      have hchannel := hids _ _ _ (h.member b hb') d hd hsame
      exact ⟨b,hb',hchannel ▸ hd,congrArg _ hchannel⟩

end Walk

def groupsOf (ctx : RequestContext) (p : RetryParam) : List String :=
  if p.tokenGroup="auto" then ctx.autoGroups
  else if 1<(getRequestTokenGroups ctx p.tokenGroup).length then getRequestTokenGroups ctx p.tokenGroup
  else [p.tokenGroup]

/-- A request for one group, which may fall back to the channels it has tried. -/
def Regular (ctx : RequestContext) (p : RetryParam) : Prop :=
  p.tokenGroup≠"auto" ∧ ¬1<(getRequestTokenGroups ctx p.tokenGroup).length

section Tracking
variable {around : Surroundings Config} {tables : Tables Config} {memoryCacheEnabled : Bool} {p : RetryParam}
  {ctx : RequestContext} {intn : Nat → Nat}

theorem selectFromGroup_ordered {select : Query → (Nat → Nat) → Except SelectError (Option (Channel Config))}
    (hordered : ¬Regular ctx p) (group : String) (retry : Nat) :
    selectFromGroup select p intn ctx group retry=select (p.query group retry p.excludedChannelIDs) intn := by
  have hnone : retryFallbackExclusions ctx p=none := by
    refine if_pos ?_
    rw [Regular,not_and_or,not_not,not_not] at hordered
    exact .inr (.inr hordered)
  unfold selectFromGroup
  rw [hnone]
  split
  next hselected =>
    exact hselected.symm
  next hselected =>
    exact hselected.symm
  next hselected =>
    exact hselected.symm

variable {ctx' : RequestContext} {group g : String} {c : Channel Config}

theorem orderedGroupsFrom_spec (h : tables.Consistent) (hfree : ∀ c∈tables.channels, around.available c=true)
    (hintn : ∀ n, 0<n → intn n<n) (hordered : ¬Regular ctx p) {start i : Nat} {groups : List String}
        (hselected : orderedGroupsFrom (selectorOf around tables memoryCacheEnabled) p intn ctx start i groups =
      (ctx',group,.ok (some c))) :
    ∃ n, groups[n]? = some group ∧ (∀ k<n, ∀ g, groups[k]? = some g →
        untriedOf around tables memoryCacheEnabled p g p.excludedChannelIDs=[]) ∧
      ctx'={ ctx with
        autoGroup := group
        autoGroupIndex := i+n
        autoGroupRetryIndex := if n=0 then start else p.retry } ∧
      c∈untriedOf around tables memoryCacheEnabled p group p.excludedChannelIDs ∧
      tierAt (untriedOf around tables memoryCacheEnabled p group p.excludedChannelIDs)
        (p.retry - if n=0 then start else p.retry)=some c.getPriority := by
  induction groups generalizing ctx start i with
  | nil =>
    rw [orderedGroupsFrom,Prod.mk.injEq,Prod.mk.injEq] at hselected
    cases hselected.2.2
  | cons g groups ih =>
    rw [orderedGroupsFrom,selectFromGroup_ordered hordered] at hselected
    obtain ⟨hnone,hresult⟩ | ⟨d,hd,htier,hresult⟩ := @selectorOf_spec _ around tables memoryCacheEnabled h hfree
      intn hintn p g (p.retry-start) p.excludedChannelIDs
    · rw [hresult] at hselected
      have hordered' : ¬Regular { ctx with autoGroupIndex := i+1, autoGroupRetryIndex := p.retry } p := hordered
      obtain ⟨n,hgroup,hskipped,hctx,hc,htier⟩ := ih hordered' hselected
      refine ⟨n+1,hgroup,?_,?_,hc,?_⟩
      · intro k hk g' hg'
        cases k with
        | zero =>
          obtain rfl : g=g' := Option.some.inj hg'
          exact hnone
        | succ k => exact hskipped k (by omega) g' hg'
      · rw [hctx]
        have hplace : i+1+n=i+(n+1) := by omega
        rw [ite_self,hplace]
        rfl
      · rw [ite_self] at htier
        exact htier
    · rw [hresult] at hselected
      obtain ⟨rfl,rfl,hsome⟩ := hselected
      exact ⟨0,rfl,fun k hk => absurd hk (Nat.not_lt_zero k),rfl,hd,htier⟩

theorem selectFromGroup_regular (h : tables.Consistent) (hfree : ∀ c∈tables.channels, around.available c=true)
    (hintn : ∀ n, 0<n → intn n<n) {retry : Nat}
    (hselected : selectFromGroup (selectorOf around tables memoryCacheEnabled) p intn ctx group retry=.ok (some c)) :
    (c∈untriedOf around tables memoryCacheEnabled p group p.excludedChannelIDs ∧
        tierAt (untriedOf around tables memoryCacheEnabled p group p.excludedChannelIDs) retry=some c.getPriority) ∨
      untriedOf around tables memoryCacheEnabled p group p.excludedChannelIDs=[] ∧
        c∈candidatesOf around tables memoryCacheEnabled p group := by
  unfold selectFromGroup at hselected
  obtain ⟨hnone,hresult⟩ | ⟨d,hd,htier,hresult⟩ := @selectorOf_spec _ around tables memoryCacheEnabled h hfree
    intn hintn p group retry p.excludedChannelIDs
  · rw [hresult] at hselected
    dsimp only at hselected
    split at hselected
    next ids _ =>
      obtain ⟨-,hagain⟩ | ⟨d,hd,-,hagain⟩ := @selectorOf_spec _ around tables memoryCacheEnabled h hfree
        intn hintn p group retry ids
      · rw [hagain] at hselected
        cases hselected
      · obtain rfl : d=c := Option.some.inj (Except.ok.inj (hagain.symm.trans hselected))
        exact .inr ⟨hnone,mem_of_mem_filter hd⟩
    · cases hselected
  · rw [hresult] at hselected
    obtain rfl : d=c := Option.some.inj (Except.ok.inj hselected)
    exact .inl ⟨hd,htier⟩

variable (p ctx) in
structure Tracked (s : RelayState Config) : Prop where
  tokenGroups : getRequestTokenGroups s.ctx s.param.tokenGroup=getRequestTokenGroups ctx p.tokenGroup
  autoGroups : s.ctx.autoGroups=ctx.autoGroups
  tokenGroup : s.param.tokenGroup=p.tokenGroup
  modelName : s.param.modelName=p.modelName
  requestPath : s.param.requestPath=p.requestPath
  retry : s.param.retry=s.log.length
  excluded : ∀ id, id∈s.param.excludedChannelIDs ↔ id∈s.log.map (·.channel.id)
  start : s.ctx.autoGroupRetryIndex ≤ s.log.length
  regular : Regular ctx p → s.ctx.autoGroupIndex=0 ∧ s.ctx.autoGroupRetryIndex=0

variable {s : RelayState Config}

section
variable (h : Tracked p ctx s)
include h

theorem Tracked.groupsOf_eq : groupsOf s.ctx s.param=groupsOf ctx p := by
  unfold groupsOf
  rw [h.tokenGroups,h.autoGroups,h.tokenGroup]

theorem Tracked.regular_iff : Regular s.ctx s.param ↔ Regular ctx p := by
  unfold Regular
  rw [h.tokenGroups,h.tokenGroup]

theorem Tracked.candidates (group : String) :
    candidatesOf around tables memoryCacheEnabled s.param group=candidatesOf around tables memoryCacheEnabled p group := by
  unfold candidatesOf RetryParam.query
  rw [h.modelName,h.requestPath]

theorem Tracked.untried (group : String) : untriedOf around tables memoryCacheEnabled s.param group s.param.excludedChannelIDs =
      untriedAfter (candidatesOf around tables memoryCacheEnabled p) s.log group := by
  unfold untriedOf untriedAfter
  rw [h.candidates]
  simp only [h.excluded]

end

theorem cacheGet_advances (h : tables.Consistent) (hfree : ∀ c∈tables.channels, around.available c=true)
    (hintn : ∀ n, 0<n → intn n<n) (hs : Tracked p ctx s)
        (hselected : cacheGetRandomSatisfiedChannel (selectorOf around tables memoryCacheEnabled) s.param intn s.ctx =
      (ctx',group,.ok (some c))) :
    Advance (candidatesOf around tables memoryCacheEnabled p) (groupsOf ctx p) s.log s.ctx.autoGroupIndex
        s.ctx.autoGroupRetryIndex ⟨group,ctx'.autoGroupIndex,c⟩ ctx'.autoGroupRetryIndex ∧
      (Regular ctx p ∨ c∈untriedAfter (candidatesOf around tables memoryCacheEnabled p) s.log group) ∧
      ctx'={ s.ctx with
        autoGroup := ctx'.autoGroup
        autoGroupIndex := ctx'.autoGroupIndex
        autoGroupRetryIndex := ctx'.autoGroupRetryIndex } ∧
      (Regular ctx p → ctx'=s.ctx) := by
  by_cases hregular : Regular ctx p
  · have hnot := (hs.regular_iff).mpr hregular
    unfold cacheGetRandomSatisfiedChannel at hselected
    rw [if_neg hnot.1,if_neg hnot.2,Prod.mk.injEq,Prod.mk.injEq] at hselected
    obtain ⟨rfl,rfl,hresult⟩ := hselected
    obtain ⟨hplace,hstart⟩ := hs.regular hregular
    have hmember : c∈candidatesOf around tables memoryCacheEnabled p s.param.tokenGroup := by
      rw [← hs.candidates]
      obtain ⟨hc,-⟩ | ⟨-,hc⟩ := selectFromGroup_regular h hfree hintn hresult
      · exact mem_of_mem_filter hc
      · exact hc
    refine ⟨⟨le_refl _,?_,?_,?_,hmember,?_⟩,.inl hregular,rfl,fun _ => rfl⟩
    · rw [hplace,groupsOf,if_neg hregular.1,if_neg hregular.2,hs.tokenGroup]
      rfl
    · intro k hk hlt
      exact absurd hlt (Nat.not_lt.mpr hk)
    · rw [if_pos rfl]
    · have hindex : s.log.length-s.ctx.autoGroupRetryIndex=s.param.retry := by
        rw [hs.retry,hstart]
        omega
      rw [hindex,← hs.untried]
      obtain hc | ⟨hnone,-⟩ := selectFromGroup_regular h hfree hintn hresult
      · exact .inl hc
      · exact .inr ⟨rfl,hnone⟩
  · have hordered : ¬Regular s.ctx s.param := fun hr => hregular ((hs.regular_iff).mp hr)
    have hmin : min s.ctx.autoGroupRetryIndex s.param.retry=s.ctx.autoGroupRetryIndex := by
      rw [hs.retry]
      exact min_eq_left hs.start
    have hloop : orderedGroupsFrom (selectorOf around tables memoryCacheEnabled) s.param intn s.ctx
        s.ctx.autoGroupRetryIndex s.ctx.autoGroupIndex ((groupsOf ctx p).drop s.ctx.autoGroupIndex) =
        (ctx',group,.ok (some c)) := by
      rw [← hs.groupsOf_eq]
      unfold cacheGetRandomSatisfiedChannel selectFromOrderedGroups at hselected
      unfold groupsOf
      rw [hmin] at hselected
      split at hselected
      next hauto =>
        rw [if_pos hauto]
        split at hselected
        · cases (Prod.mk.inj (Prod.mk.inj hselected).2).2
        · exact hselected
      next hauto =>
        rw [if_neg hauto]
        split at hselected
        next hmany =>
          rwa [if_pos hmany]
        next hfew =>
          exact absurd ⟨hauto,hfew⟩ hordered
    obtain ⟨n,hgroup,hskipped,hctx,hc,htier⟩ := orderedGroupsFrom_spec h hfree hintn hordered hloop
    rw [getElem?_drop] at hgroup
    have hplace : ctx'.autoGroupIndex=s.ctx.autoGroupIndex+n := by rw [hctx]
    have hstart : ctx'.autoGroupRetryIndex = if n=0 then s.ctx.autoGroupRetryIndex else s.param.retry := by rw [hctx]
    rw [hs.untried] at hc htier
    have hmember : c∈candidatesOf around tables memoryCacheEnabled p group := mem_of_mem_filter hc
    refine ⟨⟨?_,?_,?_,?_,hmember,.inl ⟨hc,?_⟩⟩,.inr hc,?_,fun hr => absurd hr hregular⟩
    · dsimp only
      omega
    · dsimp only
      rw [hplace]
      exact hgroup
    · intro k hk hlt g hg
      dsimp only at hlt
      rw [← hs.untried]
      refine hskipped (k-s.ctx.autoGroupIndex) (by omega) g ?_
      rw [getElem?_drop]
      rwa [Nat.add_sub_cancel' hk]
    · dsimp only
      rw [hstart,hplace,hs.retry]
      by_cases hn : n=0
      · rw [if_pos hn,if_pos (by omega)]
      · rw [if_neg hn,if_neg (by omega)]
    · rw [hstart,← hs.retry]
      exact htier
    · rw [hctx]

theorem candidatesOf_ids (h : tables.Consistent) (g g' : String) :
    ∀ c∈candidatesOf around tables memoryCacheEnabled p g, ∀ d∈candidatesOf around tables memoryCacheEnabled p g',
      c.id=d.id → c=d :=
  fun _ hc _ hd hid => inj_on_of_nodup_map h.ids (mem_of_mem_filter hc) (mem_of_mem_filter hd) hid

variable (around tables memoryCacheEnabled p ctx) in
structure RelayInv (s : RelayState Config) : Prop where
  tracked : Tracked p ctx s
  walk : Walk (candidatesOf around tables memoryCacheEnabled p) (groupsOf ctx p) s.log s.ctx.autoGroupIndex
    s.ctx.autoGroupRetryIndex
  kept : RoomyEntries (candidatesOf around tables memoryCacheEnabled p) s.log →
    Kept (candidatesOf around tables memoryCacheEnabled p) (groupsOf ctx p) s.log s.ctx.autoGroupIndex
      s.ctx.autoGroupRetryIndex
  distinct : (Regular ctx p → s.log.length≤(candidatesOf around tables memoryCacheEnabled p p.tokenGroup).length) →
    (s.log.map (·.channel)).Nodup

variable {log : List (Attempt Config)}

theorem untriedAfter_ne_nil (h : tables.Consistent)
    (hlt : log.length<(candidatesOf around tables memoryCacheEnabled p g).length) :
    untriedAfter (candidatesOf around tables memoryCacheEnabled p) log g≠[] := by
  intro hnil
  have hall : ∀ c∈candidatesOf around tables memoryCacheEnabled p g, c.id∈log.map (·.channel.id) := by
    intro c hc
    have hnot := filter_eq_nil_iff.mp hnil c hc
    rwa [decide_eq_true_eq,not_not] at hnot
  have hnodup : ((candidatesOf around tables memoryCacheEnabled p g).map (·.id)).Nodup :=
    h.ids.sublist (filter_sublist.map _)
  have hle := (subperm_of_subset hnodup fun id hid => by
    obtain ⟨c,hc,rfl⟩ := mem_map.mp hid
    exact hall c hc).length_le
  rw [length_map,length_map] at hle
  omega

theorem RelayInv.step (h : tables.Consistent) (hfree : ∀ c∈tables.channels, around.available c=true)
    (hintn : ∀ n, 0<n → intn n<n) {s s' : RelayState Config} (hs : RelayInv around tables memoryCacheEnabled p ctx s)
    (hround : relayAttempt (selectorOf around tables memoryCacheEnabled) s intn=some s') :
    RelayInv around tables memoryCacheEnabled p ctx s' := by
  unfold relayAttempt at hround
  split at hround
  next ctx' group c hselected =>
    obtain rfl := Option.some.inj hround
    obtain ⟨hadvance,huntried,hctx,hstays⟩ := cacheGet_advances h hfree hintn hs.tracked hselected
    have hids := @candidatesOf_ids _ around tables memoryCacheEnabled p h
    have hpositive : c.id≠0 := (h.positive c (mem_of_mem_filter hadvance.member)).ne'
    have hparam : (s.param.excludeChannelID c.id true).increaseRetry =
        { s.param with
          retry := s.param.retry+1
          excludedChannelIDs := c.id::s.param.excludedChannelIDs
          retryFallbackChannelIDs := c.id::s.param.retryFallbackChannelIDs } := by
      unfold RetryParam.excludeChannelID RetryParam.increaseRetry
      rw [if_neg hpositive]
      rfl
    have hwalk := hs.walk.step hids hadvance
    refine ⟨⟨?_,?_,?_,?_,?_,?_,?_,?_,?_⟩,hwalk,?_,?_⟩
    · rw [hparam,hctx]
      exact hs.tracked.tokenGroups
    · rw [hctx]
      exact hs.tracked.autoGroups
    · rw [hparam]
      exact hs.tracked.tokenGroup
    · rw [hparam]
      exact hs.tracked.modelName
    · rw [hparam]
      exact hs.tracked.requestPath
    · rw [hparam,length_append,length_singleton]
      exact congrArg (· + 1) hs.tracked.retry
    · intro id
      rw [hparam,map_append,mem_append,← hs.tracked.excluded id,mem_cons,map_singleton, mem_singleton]
      exact or_comm
    · obtain ⟨hnil,-⟩ | hlt := hwalk.entered
      · exact absurd hnil (append_ne_nil_of_right_ne_nil _ (cons_ne_nil _ _))
      · exact le_of_lt hlt
    · intro hregular
      rw [hstays hregular]
      exact hs.tracked.regular hregular
    · intro hroomy
      exact Kept.step hids hs.walk (hs.kept hroomy.before) hadvance hroomy
    · intro hshort
      rw [map_append,map_singleton,nodup_append]
      have hbefore : (s.log.map (·.channel)).Nodup := hs.distinct fun hregular => by
        have hle := hshort hregular
        rw [length_append,length_singleton] at hle
        omega
      refine ⟨hbefore,nodup_singleton _,?_⟩
      intro d hd e he hsame
      obtain rfl : e=c := mem_singleton.mp he
      have hnew : e∈untriedAfter (candidatesOf around tables memoryCacheEnabled p) s.log group := by
        obtain hregular | hnew := huntried
        · obtain ⟨hnew,-⟩ | ⟨-,hnone⟩ := hadvance.chosen
          · exact hnew
          have hle := hshort hregular
          rw [length_append,length_singleton] at hle
          have hgroup : group=p.tokenGroup := by
            have hget := hadvance.group
            dsimp only at hget
            rw [hstays hregular,(hs.tracked.regular hregular).1,groupsOf,if_neg hregular.1,if_neg hregular.2] at hget
            exact (Option.some.inj hget).symm
          subst hgroup
          exact absurd hnone (untriedAfter_ne_nil h (Nat.lt_of_succ_le hle))
        · exact hnew
      have hnot := (mem_filter.mp hnew).2
      rw [decide_eq_true_eq] at hnot
      obtain ⟨b,hb,hchannel⟩ := mem_map.mp hd
      exact hnot (mem_map.mpr ⟨b,hb,congrArg _ (hchannel.trans hsame)⟩)
  · cases hround

theorem RelayInv.run (h : tables.Consistent) (hfree : ∀ c∈tables.channels, around.available c=true)
    {draws : List (Nat → Nat)} (hdraws : ∀ intn∈draws, ∀ n, 0<n → intn n<n) {s' : RelayState Config}
    (hs : RelayInv around tables memoryCacheEnabled p ctx s)
    (hrun : relayRun (selectorOf around tables memoryCacheEnabled) draws s=some s') :
    RelayInv around tables memoryCacheEnabled p ctx s' := by
  induction draws generalizing s with
  | nil =>
    obtain rfl := Option.some.inj hrun
    exact hs
  | cons intn draws ih =>
    obtain ⟨middle,hround,hrest⟩ := Option.bind_eq_some_iff.mp hrun
    exact ih (fun intn' hin => hdraws intn' (mem_cons_of_mem _ hin)) (hs.step h hfree (hdraws intn mem_cons_self) hround) hrest

theorem RelayInv.start (hctx : ctx.autoGroupIndex=0 ∧ ctx.autoGroupRetryIndex=0) (hp : p.retry=0 ∧ p.excludedChannelIDs=[]) :
    RelayInv around tables memoryCacheEnabled p ctx { ctx := ctx, param := p, log := [] } := by
  refine ⟨⟨rfl,rfl,rfl,rfl,rfl,hp.1,?_,le_of_eq hctx.2,fun _ => hctx⟩,⟨.inl ⟨rfl,hctx.2⟩,?_,?_,?_,?_,?_⟩,?_,?_⟩
  · intro id
    rw [hp.2]
    rfl
  · intro k hk
    dsimp only at hk
    omega
  · intro b hb
    rw [take_nil] at hb
    cases hb
  · intro b hb
    rw [drop_nil] at hb
    cases hb
  · intro b hb
    cases hb
  · intro n a ha
    cases ha
  · intro _
    refine ⟨fun g _ => ?_,fun n a ha => by cases ha⟩
    rw [drop_nil]
    exact nil_prefix
  · intro _
    exact nodup_nil

theorem descending_of_tiersTried {cand : String → List (Channel Config)}
    (hmember : ∀ (n : Nat) (a : Attempt Config), log[n]? = some a → a.channel∈cand a.group)
    (htiers : ∀ (n : Nat) (a : Attempt Config), log[n]? = some a → TiersTried cand (log.take n) a) (hdistinct : (log.map (·.channel)).Nodup)
    (hsingle : ∀ c∈cand g, ∀ d∈cand g, c.getPriority=d.getPriority → c=d) {m n : Nat}
    {a b : Attempt Config} (hmn : m<n) (ha : log[m]? = some a) (hb : log[n]? = some b) (hag : a.group=g)
    (hbg : b.group=g) : b.channel.getPriority<a.channel.getPriority := by
  have hac : a.channel∈cand g := hag ▸ hmember m a ha
  have hbc : b.channel∈cand g := hbg ▸ hmember n b hb
  have hne : ∀ k c, k<n → log[k]? = some c → c.channel≠b.channel := by
    intro k c hk hc hsame
    have hlt : n<(log.map (·.channel)).length := by
      rw [length_map]
      exact (List.getElem?_eq_some_iff.mp hb).1
    have hk' : (log.map (·.channel))[k]? = some c.channel := by rw [getElem?_map,hc]; rfl
    have hn' : (log.map (·.channel))[n]? = some b.channel := by rw [getElem?_map,hb]; rfl
    have heq := (getElem?_inj (hk.trans hlt) hdistinct).mp (hk'.trans (hsame ▸ hn'.symm))
    omega
  rcases lt_trichotomy b.channel.getPriority a.channel.getPriority with hlt | heq | hgt
  · exact hlt
  · exact absurd (hsingle _ hac _ hbc heq.symm) (hne m a hmn ha)
  -- The higher tier of the later attempt was tried before the earlier one, by the same channel.
  obtain ⟨c,hc,hcc,hpriority⟩ := htiers m a ha b.channel (hag ▸ hbc) hgt
  obtain ⟨k,hk,hget⟩ := mem_take_iff_getElem.mp hc
  rw [lt_min_iff] at hk
  have hsame := hsingle _ (hag ▸ hcc) _ hbc hpriority
  exact absurd hsame (hne k c (by omega) (by rw [getElem?_eq_getElem hk.2,hget]))

end Tracking

section Order
variable (around : Surroundings Config) (tables : Tables Config) (memoryCacheEnabled : Bool) (ctx : RequestContext)
  (p : RetryParam)

/-- The attempts take the groups in order, each after all candidates of the earlier ones. With a second untried channel
in each tier but the two lowest, or with one channel for each tier, a group is taken downwards. -/
theorem retries_keep_order (h : tables.Consistent) (hfree : ∀ c∈tables.channels, around.available c=true)
    (hctx : ctx.autoGroupIndex=0 ∧ ctx.autoGroupRetryIndex=0) (hp : p.retry=0 ∧ p.excludedChannelIDs=[])
    (draws : List (Nat → Nat)) (hdraws : ∀ intn∈draws, ∀ n, 0<n → intn n<n) (s : RelayState Config)
    (hrun : relayRun (selectorOf around tables memoryCacheEnabled) draws { ctx := ctx, param := p, log := [] }=some s) :
    let cand := candidatesOf around tables memoryCacheEnabled p
    (∀ (n : Nat) (a : Attempt Config), s.log[n]? = some a → (groupsOf ctx p)[a.place]? = some a.group ∧ a.channel∈cand a.group ∧
      (∀ b∈s.log.take n, b.place≤a.place) ∧
      ∀ k<a.place, ∀ g, (groupsOf ctx p)[k]? = some g → ∀ c∈cand g, c∈(s.log.take n).map (·.channel)) ∧
    (RoomyEntries cand s.log → (∀ (n : Nat) (a : Attempt Config), s.log[n]? = some a → TiersTried cand (s.log.take n) a) ∧
      ((Regular ctx p → s.log.length≤(cand p.tokenGroup).length) → ∀ g,
        (∀ c∈cand g, ∀ d∈cand g, c.getPriority=d.getPriority → c=d) →
        ∀ (m n : Nat) (a b : Attempt Config), m<n → s.log[m]? = some a → s.log[n]? = some b → a.group=g → b.group=g →
          b.channel.getPriority<a.channel.getPriority)) := by
  intro cand
  have hinv := (@RelayInv.start _ around tables memoryCacheEnabled p ctx hctx hp).run h hfree hdraws hrun
  refine ⟨hinv.walk.attempts,fun hroomy => ?_⟩
  have htiers := (hinv.kept hroomy).tiers
  refine ⟨htiers,fun hshort g hsingle m n a b hmn ha hb hag hbg => ?_⟩
  exact descending_of_tiersTried (fun n a ha => (hinv.walk.attempts n a ha).2.1) htiers (hinv.distinct hshort) hsingle hmn
    ha hb hag hbg

end Order

section Tiers

def tierTables (rows : List (Nat×String×Int)) : Tables Unit :=
  { channels := rows.map fun (id,group,priority) =>
      { id := id, priority := some priority, models := "gpt-4o", group := group }
    abilities := rows.map fun (id,group,priority) =>
      { group := group, model := "gpt-4o", channelId := id, enabled := true, priority := some priority, weight := 0 } }

theorem tierTables_consistent {rows : List (Nat×String×Int)} (hids : (rows.map (·.1)).Nodup)
    (hpositive : ∀ row∈rows, 0<row.1) (hgroups : ∀ row∈rows, splitComma row.2.1=[row.2.1]) : (tierTables rows).Consistent := by
  have hmodels : splitComma "gpt-4o" = ["gpt-4o"] := by decide
  refine ⟨?_,?_,?_,?_⟩
  · rw [tierTables,map_map]
    exact hids
  · intro c hc
    obtain ⟨row,hrow,rfl⟩ := mem_map.mp hc
    exact hpositive row hrow
  · intro a
    simp only [tierTables,mem_map]
    constructor
    · rintro ⟨⟨id,group,priority⟩,hrow,rfl⟩
      refine ⟨_,⟨_,hrow,rfl⟩,?_,?_,rfl,rfl,rfl,rfl⟩
      · rw [hgroups _ hrow]
        exact mem_singleton_self _
      · rw [hmodels]
        exact mem_singleton_self _
    · rintro ⟨c,⟨⟨id,group,priority⟩,hrow,rfl⟩,hgroup,hmodel,hid,henabled,hpriority,hweight⟩
      rw [hgroups _ hrow,mem_singleton] at hgroup
      rw [hmodels,mem_singleton] at hmodel
      refine ⟨_,hrow,?_⟩
      cases a
      simp_all [Channel.getWeight]
  · refine List.Nodup.of_map (·.channelId) ?_
    rw [tierTables,map_map]
    exact hids

def pairedGroups : List (Nat×String×Int) :=
  [(2201,"vip",100),(2202,"vip",50),(2203,"default",100),(2204,"default",50)]

def orderedContext : RequestContext := { tokenGroup := "vip,default", tokenGroups := ["vip", "default"] }

def orderedParam : RetryParam := { tokenGroup := "vip,default", modelName := "gpt-4o", requestPath := "/v1/chat/completions" }

theorem paired_groups_in_order :
    ∃ s, relayRun (selectorOf plainSurroundings (tierTables pairedGroups) true) (List.replicate 4 fun _ => 0)
        { ctx := orderedContext, param := orderedParam, log := [] }=some s ∧
      s.log.map (·.channel.id)=[2201,2202,2203,2204] ∧
      ∀ (n : Nat) (a : Attempt Unit), s.log[n]? = some a →
        TiersTried (candidatesOf plainSurroundings (tierTables pairedGroups) true orderedParam) (s.log.take n) a := by
  obtain ⟨s,hs⟩ : ∃ s, relayRun (selectorOf plainSurroundings (tierTables pairedGroups) true)
      (List.replicate 4 fun _ => 0) { ctx := orderedContext, param := orderedParam, log := [] }=some s :=
    Option.isSome_iff_exists.mp (by decide +kernel)
  have hlog : s.log=(tierTables pairedGroups).channels.map (fun c =>
      { group := c.group, place := if c.group="vip" then 0 else 1, channel := c }) := by
    have hget : (relayRun (selectorOf plainSurroundings (tierTables pairedGroups) true)
      (List.replicate 4 fun _ => 0) { ctx := orderedContext, param := orderedParam, log := [] }).map (·.log) =
        some ((tierTables pairedGroups).channels.map fun c =>
          { group := c.group, place := if c.group="vip" then 0 else 1, channel := c }) := by decide +kernel
    rw [hs] at hget
    exact Option.some.inj hget
  refine ⟨s,hs,by rw [hlog]; decide +kernel,?_⟩
  refine ((retries_keep_order plainSurroundings (tierTables pairedGroups) true orderedContext orderedParam
    (tierTables_consistent (by decide) (by decide) (by decide +kernel)) (fun _ _ => rfl) ⟨rfl,rfl⟩ ⟨rfl,rfl⟩
    _ (fun intn hin n hn => by rw [eq_of_mem_replicate hin]; exact hn) s hs).2 ?_).1
  intro n a ha _
  have hn : n<4 := by
    have hlt := (List.getElem?_eq_some_iff.mp ha).1
    rw [hlog] at hlt
    exact hlt
  rw [hlog] at ha ⊢
  interval_cases n <;> (obtain rfl := Option.some.inj ha; unfold Roomy; decide +kernel)

theorem third_tier_before_second :
    (tierTables [(1,"default",30),(2,"default",20),(3,"default",10)]).Consistent ∧
    ∃ s, relayRun (selectorOf plainSurroundings (tierTables [(1,"default",30),(2,"default",20),(3,"default",10)]) true)
        (List.replicate 3 fun _ => 0)
        { ctx := {}, param := { orderedParam with tokenGroup := "default" }, log := [] }=some s ∧
      s.log.map (·.channel.id)=[1,3,2] ∧
      ¬∀ (n : Nat) (a : Attempt Unit), s.log[n]? = some a →
        TiersTried (candidatesOf plainSurroundings (tierTables [(1,"default",30),(2,"default",20),(3,"default",10)]) true
          { orderedParam with tokenGroup := "default" }) (s.log.take n) a := by
  obtain ⟨s,hs⟩ : ∃ s, relayRun (selectorOf plainSurroundings
      (tierTables [(1,"default",30),(2,"default",20),(3,"default",10)]) true) (List.replicate 3 fun _ => 0)
      { ctx := {}, param := { orderedParam with tokenGroup := "default" }, log := [] }=some s :=
    Option.isSome_iff_exists.mp (by decide +kernel)
  have hlog : s.log=[⟨"default",0,{ id := 1, priority := some 30, models := "gpt-4o", group := "default" }⟩,
      ⟨"default",0,{ id := 3, priority := some 10, models := "gpt-4o", group := "default" }⟩,
      ⟨"default",0,{ id := 2, priority := some 20, models := "gpt-4o", group := "default" }⟩] := by
    have hget : (relayRun (selectorOf plainSurroundings
        (tierTables [(1,"default",30),(2,"default",20),(3,"default",10)]) true) (List.replicate 3 fun _ => 0)
        { ctx := {}, param := { orderedParam with tokenGroup := "default" }, log := [] }).map (·.log)=some [
      ⟨"default",0,{ id := 1, priority := some 30, models := "gpt-4o", group := "default" }⟩,
      ⟨"default",0,{ id := 3, priority := some 10, models := "gpt-4o", group := "default" }⟩,
      ⟨"default",0,{ id := 2, priority := some 20, models := "gpt-4o", group := "default" }⟩] := by decide +kernel
    rw [hs] at hget
    exact Option.some.inj hget
  refine ⟨tierTables_consistent (by decide) (by decide) (by decide +kernel),s,hs,by rw [hlog]; decide +kernel,?_⟩
  rw [hlog]
  intro hall
  have hsecond := hall 1 _ rfl { id := 2, priority := some 20, models := "gpt-4o", group := "default" }
    (by decide +kernel) (by decide +kernel)
  revert hsecond
  decide +kernel

end Tiers

end NewApi.Routing
