import NewApi.Routing.Retries

/-! The error of a reached concurrency limit. A selector gives it when no channel from the tier of the retry index on has
a free slot, and the loop over ordered groups ends at the first group that gives it. -/
namespace NewApi.Routing
open List

variable {Config : Type}

section Eligible
variable (around : Surroundings Config) (memoryCacheEnabled : Bool) (cache : ChannelCache Config)
  (tables : Tables Config) (q : Query)

def eligible : List (Int×Channel Config) :=
  if memoryCacheEnabled then
    (((cacheCandidates around cache q).filterMap cache.channelsIDM).filter fun c => c.id∉q.excluded).map
      fun c => (c.getPriority,c)
  else (filterAbilitiesByRequestPathAndModel around tables (queriedAbilities tables q) q.requestPath q.model).filterMap
      fun a => (tables.channels.find? (·.id=a.channelId)).map fun c => (a.getPriority,c)

def eligibleTiers : List Int :=
  let priorities := sortedPriorities ((eligible around memoryCacheEnabled cache tables q).map (·.1))
  priorities.drop (clampRetry q.retry priorities.length)

def Occupied : Prop := ∀ e∈eligible around memoryCacheEnabled cache tables q, around.available e.2=false

def Serves : Prop := ∃ e∈eligible around memoryCacheEnabled cache tables q,
  e.1∈eligibleTiers around memoryCacheEnabled cache tables q ∧ around.available e.2=true

def Listed : Prop :=
  memoryCacheEnabled=true → ∀ id∈cacheCandidates around cache q, cache.channelsIDM id≠none

inductive SelectionResult : Except SelectError (Option (Channel Config)) → Prop where
  | inconsistent (id : Nat) : ¬Listed around memoryCacheEnabled cache q → SelectionResult (.error (.inconsistent id))
  | nothing : Listed around memoryCacheEnabled cache q → eligible around memoryCacheEnabled cache tables q=[] →
      SelectionResult (.ok none)
  | limit : Listed around memoryCacheEnabled cache q → eligible around memoryCacheEnabled cache tables q≠[] →
      ¬Serves around memoryCacheEnabled cache tables q → SelectionResult (.error .concurrencyLimitReached)
  | channel (c : Channel Config) : Listed around memoryCacheEnabled cache q →
      Serves around memoryCacheEnabled cache tables q → around.available c=true → SelectionResult (.ok (some c))

end Eligible

section Selectors
variable {around : Surroundings Config} {memoryCacheEnabled : Bool} {cache : ChannelCache Config}
  {tables : Tables Config} {q : Query} {intn : Nat → Nat}

/-- The scan of the tiers ends at the first one with a free channel. -/
theorem selected_tier {targets : Int → Bool} {pick : Int → Option (Channel Config)}
    (hlisted : Listed around memoryCacheEnabled cache q) (hsome : eligible around memoryCacheEnabled cache tables q≠[])
    (htargets : ∀ p, targets p=true ↔
      ∃ e∈eligible around memoryCacheEnabled cache tables q, e.1=p ∧ around.available e.2=true)
    (hpick : ∀ p, targets p=true → ∃ c, pick p=some c ∧ around.available c=true) :
    SelectionResult around memoryCacheEnabled cache tables q
      (match (eligibleTiers around memoryCacheEnabled cache tables q).find? targets with
      | none => .error .concurrencyLimitReached
      | some p => .ok (pick p)) := by
  cases hfind : (eligibleTiers around memoryCacheEnabled cache tables q).find? targets with
  | none =>
    refine .limit hlisted hsome ?_
    rintro ⟨e,he,htier,hfree⟩
    exact find?_eq_none.mp hfind e.1 htier ((htargets e.1).mpr ⟨e,he,rfl,hfree⟩)
  | some p =>
    have hp := find?_some hfind
    obtain ⟨e,he,rfl,hfree⟩ := (htargets p).mp hp
    obtain ⟨c,hc,hfree'⟩ := hpick e.1 hp
    dsimp only
    rw [hc]
    exact .channel c hlisted ⟨e,he,mem_of_find?_eq_some hfind,hfree⟩ hfree'

theorem cache_selected (hintn : ∀ n, 0<n → intn n<n) :
    SelectionResult around true cache tables q (getFromCache around cache q intn) := by
  unfold getFromCache
  dsimp only
  cases hfind : (cacheCandidates around cache q).find? fun id => (cache.channelsIDM id).isNone with
  | some id =>
    refine .inconsistent id fun hlisted => hlisted rfl id (mem_of_find?_eq_some hfind) ?_
    simpa using find?_some hfind
  | none =>
    have hlisted : Listed around true cache q := by
      intro _ id hid
      simpa using find?_eq_none.mp hfind id hid
    obtain ⟨candidates,hcandidates⟩ : ∃ candidates, candidates =
      (cacheCandidates around cache q).filterMap cache.channelsIDM := ⟨_,rfl⟩
    have heligible : eligible around true cache tables q =
        (candidates.filter fun c => c.id∉q.excluded).map fun c => (c.getPriority,c) := by
      rw [eligible,if_pos rfl,hcandidates]
    have hpriorities : (candidates.filter fun c => c.id∉q.excluded).map (·.getPriority) =
        (eligible around true cache tables q).map (·.1) := by
      rw [heligible,List.map_map]
      rfl
    dsimp only
    rw [←hcandidates,hpriorities]
    split
    next hempty =>
      rw [isEmpty_congr fun _ => mem_sortedPriorities,List.isEmpty_iff,List.map_eq_nil_iff] at hempty
      exact .nothing hlisted hempty
    next hempty =>
      rw [cacheTiers_eq hintn]
      have hfree : ∀ p c, c∈(candidates.filter fun c => c.getPriority=p && c.id∉q.excluded && around.available c) →
          (p,c)∈eligible around true cache tables q ∧ around.available c=true := by
        intro p c hc
        simp only [mem_filter,Bool.and_eq_true,decide_eq_true_eq] at hc
        obtain ⟨hmem,⟨hpriority,hid⟩,hfree⟩ := hc
        rw [heligible]
        exact ⟨mem_map.mpr ⟨c,by simp [hmem,hid],by rw [hpriority]⟩,hfree⟩
      refine selected_tier hlisted (fun hnil => hempty ?_) (fun p => ?_) fun p htargets => ?_
      · rw [hnil]
        rfl
      · rw [Bool.not_eq_true',isEmpty_eq_false_iff_exists_mem]
        constructor
        · rintro ⟨c,hc⟩
          exact ⟨_,(hfree p c hc).1,rfl,(hfree p c hc).2⟩
        · rw [heligible]
          rintro ⟨e,he,rfl,havailable⟩
          obtain ⟨c,hc,rfl⟩ := mem_map.mp he
          obtain ⟨hmem,hid⟩ := mem_filter.mp hc
          exact ⟨c,mem_filter.mpr ⟨hmem,by simpa [havailable] using hid⟩⟩
      · rw [Bool.not_eq_true',isEmpty_eq_false_iff] at htargets
        obtain ⟨c,hpick,hc⟩ := pickFromTier_isSome hintn htargets
        exact ⟨c,hpick,(hfree p c hc.1).2⟩

theorem database_selected (hintn : ∀ n, 0<n → intn n<n) (hpositive : ∀ a∈tables.abilities, 0<a.channelId) :
    SelectionResult around false cache tables q (getFromDatabase around tables q intn) := by
  unfold getFromDatabase
  obtain ⟨abilities,habilities⟩ : ∃ abilities, abilities =
    filterAbilitiesByRequestPathAndModel around tables (queriedAbilities tables q) q.requestPath q.model := ⟨_,rfl⟩
  have hlisted : Listed around false cache q := nofun
  have heligible : eligible around false cache tables q=abilities.filterMap fun a =>
      (tables.channels.find? (·.id=a.channelId)).map fun c => (a.getPriority,c) := by
    rw [eligible,if_neg Bool.false_ne_true,habilities]
  have hfound : ∀ a∈abilities, 0<a.channelId ∧ ∃ c, tables.channels.find? (·.id=a.channelId)=some c := by
    intro a ha
    rw [habilities] at ha
    obtain ⟨hqueried,hany⟩ := mem_filter.mp ha
    refine ⟨hpositive a (mem_of_mem_filter ((mem_insertionSort _).mp hqueried)),?_⟩
    rw [Option.any_eq_true] at hany
    exact hany.imp fun c hc => hc.1
  have hmem : ∀ p c, (p,c)∈eligible around false cache tables q ↔
      ∃ a∈abilities, a.getPriority=p ∧ tables.channels.find? (·.id=a.channelId)=some c := by
    intro p c
    rw [heligible,mem_filterMap]
    simp [and_comm]
  have hpriorities : sortedPriorities (abilities.map (·.getPriority)) =
      sortedPriorities ((eligible around false cache tables q).map (·.1)) := by
    refine sortedPriorities_congr fun p => ?_
    rw [mem_map,mem_map]
    constructor
    · rintro ⟨a,ha,rfl⟩
      obtain ⟨c,hc⟩ := (hfound a ha).2
      exact ⟨_,(hmem _ c).mpr ⟨a,ha,rfl,hc⟩,rfl⟩
    · rintro ⟨⟨p,c⟩,he,rfl⟩
      obtain ⟨a,ha,hp,-⟩ := (hmem p c).mp he
      exact ⟨a,ha,hp⟩
  dsimp only
  rw [←habilities,hpriorities]
  split
  next hempty =>
    refine .nothing hlisted ?_
    rw [heligible,List.isEmpty_iff.mp hempty]
    rfl
  next hempty =>
    rw [databaseTiers_eq hintn hfound]
    have hrow : ∀ p a, a∈(abilities.filter fun a => a.getPriority=p && rowAvailable around tables a) ↔
        a∈abilities ∧ a.getPriority=p ∧ ∃ c, tables.channels.find? (·.id=a.channelId)=some c ∧ around.available c=true := by
      intro p a
      simp [rowAvailable,Option.any_eq_true]
    refine selected_tier hlisted (fun hnil => hempty ?_) (fun p => ?_) fun p htargets => ?_
    · rw [List.isEmpty_iff,eq_nil_iff_forall_not_mem]
      intro a ha
      obtain ⟨c,hc⟩ := (hfound a ha).2
      have he := (hmem _ c).mpr ⟨a,ha,rfl,hc⟩
      rw [hnil] at he
      cases he
    · rw [Bool.not_eq_true',isEmpty_eq_false_iff_exists_mem]
      constructor
      · rintro ⟨a,ha⟩
        obtain ⟨ha,hp,c,hc,hfree⟩ := (hrow p a).mp ha
        exact ⟨_,(hmem p c).mpr ⟨a,ha,hp,hc⟩,rfl,hfree⟩
      · rintro ⟨⟨_,c⟩,he,rfl,hfree⟩
        obtain ⟨a,ha,hp,hc⟩ := (hmem _ c).mp he
        exact ⟨a,(hrow _ a).mpr ⟨ha,hp,c,hc,hfree⟩⟩
    · rw [Bool.not_eq_true',isEmpty_eq_false_iff] at htargets
      obtain ⟨a,ha,hdrawn⟩ := drawRow_isSome hintn htargets
      obtain ⟨-,-,c,hc,hfree⟩ := (hrow p a).mp ha
      exact ⟨c,by rw [hdrawn,Option.bind_some,hc],hfree⟩

theorem selection_selected (hintn : ∀ n, 0<n → intn n<n) (hpositive : ∀ a∈tables.abilities, 0<a.channelId) :
    SelectionResult around memoryCacheEnabled cache tables q
      (getRandomSatisfiedChannelWithSelectionExclusions around memoryCacheEnabled cache tables q intn) := by
  cases memoryCacheEnabled with
  | true => exact cache_selected hintn
  | false => exact database_selected hintn hpositive

theorem SelectionResult.limit_iff {result : Except SelectError (Option (Channel Config))}
    (h : SelectionResult around memoryCacheEnabled cache tables q result) :
    (result=.error .concurrencyLimitReached → Occupied around memoryCacheEnabled cache tables q) ↔
      (Listed around memoryCacheEnabled cache q → Serves around memoryCacheEnabled cache tables q ∨
        Occupied around memoryCacheEnabled cache tables q) := by
  cases h with
  | inconsistent id hnot => exact ⟨fun _ h => absurd h hnot,nofun⟩
  | nothing _ hnil =>
    refine ⟨fun _ _ => .inr fun e he => ?_,nofun⟩
    rw [hnil] at he
    cases he
  | limit hlisted _ hnot => exact ⟨fun h _ => .inr (h rfl),fun h _ => (h hlisted).resolve_left hnot⟩
  | channel c _ hserves => exact ⟨fun _ _ => .inl hserves,nofun⟩

end Selectors

section Groups
variable (around : Surroundings Config) (memoryCacheEnabled : Bool) (cache : ChannelCache Config)
  (tables : Tables Config) (p : RetryParam)

def AllOccupied (groups : List String) : Prop :=
  ∀ group∈groups, Occupied around memoryCacheEnabled cache tables (p.query group 0 p.excludedChannelIDs)

/-- The first of the groups with an eligible channel has a free one, where it is the current group from the tier of its
retry index on. -/
def FirstServes : Nat → List String → Prop
  | _, [] => False
  | retry, group::groups =>
    Listed around memoryCacheEnabled cache (p.query group retry p.excludedChannelIDs) ∧
    (Serves around memoryCacheEnabled cache tables (p.query group retry p.excludedChannelIDs) ∨
      eligible around memoryCacheEnabled cache tables (p.query group retry p.excludedChannelIDs)=[] ∧ FirstServes 0 groups)

def TellsOccupied (groups : List String) (result : Except SelectError (Option (Channel Config))) : Prop :=
  (result=.error .concurrencyLimitReached → AllOccupied around memoryCacheEnabled cache tables p groups) ∧
  (¬AllOccupied around memoryCacheEnabled cache tables p groups → ∃ c, result=.ok (some c) ∧ around.available c=true)

variable {around memoryCacheEnabled cache tables p} {ctx : RequestContext} {intn : Nat → Nat}

/-- By the groups: one without an eligible channel is passed over, any other one decides. -/
theorem orderedGroupsFrom_tells (hintn : ∀ n, 0<n → intn n<n) (hpositive : ∀ a∈tables.abilities, 0<a.channelId)
    (hordered : ¬Regular ctx p) (groups : List String) (start i : Nat) :
    TellsOccupied around memoryCacheEnabled cache tables p groups (orderedGroupsFrom
        (getRandomSatisfiedChannelWithSelectionExclusions around memoryCacheEnabled cache tables) p intn ctx start i groups).2.2 ↔
      AllOccupied around memoryCacheEnabled cache tables p groups ∨
        FirstServes around memoryCacheEnabled cache tables p (p.retry-start) groups := by
  induction groups generalizing ctx start i with
  | nil => simp [TellsOccupied,AllOccupied,orderedGroupsFrom]
  | cons group groups ih =>
    rw [orderedGroupsFrom,selectFromGroup_ordered hordered,FirstServes]
    set q := p.query group (p.retry-start) p.excludedChannelIDs
    have hselected := @selection_selected _ around memoryCacheEnabled cache tables q intn hintn hpositive
    cases hresult : getRandomSatisfiedChannelWithSelectionExclusions around memoryCacheEnabled cache tables q intn with
    | error e =>
      rw [hresult] at hselected
      have hnot : ¬(Listed around memoryCacheEnabled cache q ∧ (Serves around memoryCacheEnabled cache tables q ∨
          eligible around memoryCacheEnabled cache tables q=[] ∧
              FirstServes around memoryCacheEnabled cache tables p 0 groups)) := by
        rintro ⟨hlisted,hopen⟩
        cases hselected with
        | inconsistent id h => exact h hlisted
        | limit _ hsome hserves => exact hopen.elim hserves fun h => hsome h.1
      rw [or_iff_left hnot]
      refine ⟨fun h => ?_,fun h => ⟨fun _ => h,fun hopen => absurd h hopen⟩⟩
      by_contra hopen
      obtain ⟨c,hc,-⟩ := h.2 hopen
      cases hc
    | ok channel =>
      rw [hresult] at hselected
      cases channel with
      | some c =>
        cases hselected with
        | channel _ hlisted hserves hfree =>
          exact ⟨fun _ => .inr ⟨hlisted,.inl hserves⟩,fun _ => ⟨by simp,fun _ => ⟨c,rfl,hfree⟩⟩⟩
      | none =>
        cases hselected with
        | nothing hlisted hnil =>
          have hall : AllOccupied around memoryCacheEnabled cache tables p (group::groups) ↔
              AllOccupied around memoryCacheEnabled cache tables p groups := by
            refine forall_mem_cons.trans (and_iff_right fun e he => ?_)
            rw [show eligible around memoryCacheEnabled cache tables (p.query group 0 p.excludedChannelIDs)=[] from hnil] at he
            cases he
          have hnot : ¬Serves around memoryCacheEnabled cache tables q := by
            rintro ⟨e,he,-⟩
            rw [hnil] at he
            cases he
          have hordered' : ¬Regular { ctx with autoGroupIndex := i+1, autoGroupRetryIndex := p.retry } p := hordered
          have hrest := ih hordered' p.retry (i+1)
          rw [Nat.sub_self] at hrest
          rw [hall,TellsOccupied,hall,and_iff_right hlisted,or_iff_right hnot,and_iff_right hnil]
          exact hrest

variable (around memoryCacheEnabled cache tables) in
/-- A selector says that the limit is reached where all is occupied exactly when a channel from its tier on is free or
none is; the loop over groups, when the first group with an eligible channel serves or all are occupied. -/
theorem limit_means_occupied_iff (hintn : ∀ n, 0<n → intn n<n) (hpositive : ∀ a∈tables.abilities, 0<a.channelId) :
    (∀ q, (getRandomSatisfiedChannelWithSelectionExclusions around memoryCacheEnabled cache tables q intn =
          .error .concurrencyLimitReached → Occupied around memoryCacheEnabled cache tables q) ↔
        (Listed around memoryCacheEnabled cache q → Serves around memoryCacheEnabled cache tables q ∨
          Occupied around memoryCacheEnabled cache tables q)) ∧ ∀ ctx p, ¬Regular ctx p →
      (TellsOccupied around memoryCacheEnabled cache tables p ((groupsOf ctx p).drop ctx.autoGroupIndex)
          (cacheGetRandomSatisfiedChannel
            (getRandomSatisfiedChannelWithSelectionExclusions around memoryCacheEnabled cache tables) p intn ctx).2.2 ↔
        AllOccupied around memoryCacheEnabled cache tables p ((groupsOf ctx p).drop ctx.autoGroupIndex) ∨
          FirstServes around memoryCacheEnabled cache tables p (p.retry-min ctx.autoGroupRetryIndex p.retry)
            ((groupsOf ctx p).drop ctx.autoGroupIndex)) := by
  refine ⟨fun q => (selection_selected hintn hpositive).limit_iff,fun ctx p hordered => ?_⟩
  have hgroups := @orderedGroupsFrom_tells _ around memoryCacheEnabled cache tables p ctx intn hintn hpositive hordered
  unfold cacheGetRandomSatisfiedChannel groupsOf
  split
  · split
    next hnil =>
      rw [hnil,drop_nil]
      exact ⟨fun _ => .inl nofun,fun _ => ⟨nofun,fun h => absurd nofun h⟩⟩
    · exact hgroups _ _ _
  next hauto =>
    split
    · exact hgroups _ _ _
    next hone =>
      exact absurd ⟨hauto,hone⟩ hordered

end Groups

def oneFree (id : Nat) : Surroundings Unit := { plainSurroundings with available := fun c => c.id=id }

theorem next_group_serves :
    TellsOccupied (oneFree 2203) false (initChannelCache (tierTables pairedGroups)) (tierTables pairedGroups)
      { orderedParam with retry := 2, excludedChannelIDs := [2201,2202] } ["vip","default"]
      (cacheGetRandomSatisfiedChannel (getRandomSatisfiedChannelWithSelectionExclusions (oneFree 2203) false
          (initChannelCache (tierTables pairedGroups)) (tierTables pairedGroups))
        { orderedParam with retry := 2, excludedChannelIDs := [2201,2202] } (fun _ => 0) orderedContext).2.2 := by
  refine ((@limit_means_occupied_iff _ (oneFree 2203) false _ (tierTables pairedGroups) (fun _ => 0)
    (fun _ hn => hn) (by decide)).2 orderedContext _ (fun h => h.2 (by decide +kernel))).mpr (.inr ⟨nofun,.inr ⟨?_,nofun,.inl ?_⟩⟩)
  · decide +kernel
  unfold Serves
  decide +kernel

theorem free_channel_reported_occupied :
    let reported (memoryCacheEnabled : Bool) : Prop :=
      (let tables := tierTables [(1,"default",30),(2,"default",20)]
       let q := { chatQuery with retry := 1 }
       getRandomSatisfiedChannelWithSelectionExclusions (oneFree 1) memoryCacheEnabled (initChannelCache tables) tables q
          (fun _ => 0)=.error .concurrencyLimitReached ∧
        ¬Occupied (oneFree 1) memoryCacheEnabled (initChannelCache tables) tables q) ∧
      (let tables := tierTables [(1,"vip",0),(2,"default",0)]
       (cacheGetRandomSatisfiedChannel (getRandomSatisfiedChannelWithSelectionExclusions (oneFree 2)
          memoryCacheEnabled (initChannelCache tables) tables) orderedParam (fun _ => 0) orderedContext).2.2 =
            .error .concurrencyLimitReached ∧
        ¬AllOccupied (oneFree 2) memoryCacheEnabled (initChannelCache tables) tables orderedParam ["vip","default"])
    reported true ∧ reported false := by
  dsimp only
  unfold AllOccupied Occupied
  decide +kernel

end NewApi.Routing
