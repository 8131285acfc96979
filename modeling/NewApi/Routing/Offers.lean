import Mathlib.Algebra.BigOperators.Ring.List
import Mathlib.Algebra.Order.BigOperators.Group.List
import Mathlib.Tactic.Linarith
import NewApi.Routing.Model

/-! What the two selectors offer. Both go down the tiers of the candidates to the first with a free channel; the database
offers every channel there, the cache passes over those of weight zero unless all weights are zero, and only the cache
looks for the matching name of a model. -/
namespace NewApi.Routing
open Option List

section Draws
variable {α : Type} {share : α → Nat}
variable {draw : Int} {l : List α} {a : α}

theorem drawBelowZero_mem (hdraw : 0≤draw) (h : drawBelowZero share draw l=some a) : a∈l ∧ 0<share a := by
  induction l generalizing draw with
  | nil => cases h
  | cons b rest ih =>
    unfold drawBelowZero at h
    split at h
    · obtain rfl : b=a := Option.some.inj h
      exact ⟨mem_cons_self,by omega⟩
    · obtain ⟨hmem,hshare⟩ := ih (by omega) h
      exact ⟨mem_cons_of_mem _ hmem,hshare⟩

theorem drawBelowZero_isSome (hdraw : 0≤draw) (h : draw<((l.map share).sum : Nat)) :
    ∃ a, drawBelowZero share draw l=some a := by
  induction l generalizing draw with
  | nil =>
    rw [map_nil,sum_nil] at h
    omega
  | cons b rest ih =>
    rw [map_cons,sum_cons] at h
    unfold drawBelowZero
    split
    · exact ⟨b,rfl⟩
    · exact ih (by omega) (by omega)

theorem exists_drawBelowZero (hmem : a∈l) (hshare : 0<share a) :
    ∃ draw : Nat, draw<(l.map share).sum ∧ drawBelowZero share draw l=some a := by
  induction l with
  | nil => cases hmem
  | cons b rest ih =>
    rw [map_cons,sum_cons]
    obtain rfl | hmem := mem_cons.mp hmem
    · refine ⟨0,by omega,?_⟩
      unfold drawBelowZero
      exact if_pos (by omega)
    · obtain ⟨draw,hlt,hdraw⟩ := ih hmem
      refine ⟨share b+draw,by omega,?_⟩
      unfold drawBelowZero
      have hrest : ((share b+draw : Nat) : Int)-share b=draw := by omega
      rw [hrest,if_neg (by omega),hdraw]

theorem drawToZero_mem (h : drawToZero share draw l=some a) : a∈l := by
  induction l generalizing draw with
  | nil => cases h
  | cons b rest ih =>
    unfold drawToZero at h
    split at h
    · exact Option.some.inj h ▸ mem_cons_self
    · exact mem_cons_of_mem _ (ih h)

theorem drawToZero_isSome (hl : l≠[]) (h : draw<((l.map share).sum : Nat)) : ∃ a, drawToZero share draw l=some a := by
  induction l generalizing draw with
  | nil => exact absurd rfl hl
  | cons b rest ih =>
    rw [map_cons,sum_cons] at h
    unfold drawToZero
    split
    · exact ⟨b,rfl⟩
    rename_i hpos
    cases rest with
    | nil =>
      rw [map_nil,sum_nil] at h
      omega
    | cons c rest => exact ih (cons_ne_nil c rest) (by omega)

theorem exists_drawToZero (hmem : a∈l) (hshare : ∀ b, 1<share b) :
    ∃ draw : Nat, 0<draw ∧ draw<(l.map share).sum ∧ drawToZero share draw l=some a := by
  induction l with
  | nil => cases hmem
  | cons b rest ih =>
    have hb := hshare b
    rw [map_cons,sum_cons]
    obtain rfl | hmem := mem_cons.mp hmem
    · refine ⟨1,by omega,by omega,?_⟩
      unfold drawToZero
      exact if_pos (by omega)
    · obtain ⟨draw,hpos,hlt,hdraw⟩ := ih hmem
      refine ⟨share b+draw,by omega,by omega,?_⟩
      unfold drawToZero
      have hrest : ((share b+draw : Nat) : Int)-share b=draw := by omega
      rw [hrest,if_neg (by omega),hdraw]

def drawnAt (total draw : Nat) : Nat → Nat := fun n => if n=total then draw else 0

theorem drawnAt_self (total draw : Nat) : drawnAt total draw total=draw := if_pos rfl

theorem drawnAt_lt {total draw : Nat} (h : draw<total) : ∀ n, 0<n → drawnAt total draw n<n := by
  intro n hn
  unfold drawnAt
  split
  · omega
  · exact hn

end Draws

variable {Config : Type}

def WeightOffered (targets : List (Channel Config)) (c : Channel Config) : Prop :=
  c∈targets ∧ ((∀ d∈targets, d.getWeight=0) ∨ 0<c.getWeight)

section Pick
variable {targets : List (Channel Config)} {c : Channel Config}

theorem sum_weights_eq_zero : (targets.map (·.getWeight)).sum=0 ↔ ∀ d∈targets, d.getWeight=0 := by
  rw [sum_eq_zero_iff]
  simp only [List.mem_map,forall_exists_index,and_imp,forall_apply_eq_imp_iff₂]

theorem sum_tierShare (targets : List (Channel Config)) : (targets.map (tierShare targets)).sum =
    let sumWeight := (targets.map (·.getWeight)).sum
    if sumWeight=0 then targets.length*100
    else if sumWeight / targets.length<10 then sumWeight*100 else sumWeight := by
  unfold tierShare
  dsimp only
  split
  · rw [map_const',sum_replicate]
    rfl
  · split
    · rw [sum_map_mul_right]
    · rfl

theorem tierShare_pos_iff (hc : c∈targets) : 0<tierShare targets c ↔ WeightOffered targets c := by
  unfold tierShare WeightOffered
  dsimp only
  rw [← sum_weights_eq_zero]
  split
  next hzero =>
    exact iff_of_true (by omega) ⟨hc,.inl hzero⟩
  next hne =>
    have hiff : 0<c.getWeight ↔ c∈targets ∧ ((targets.map (·.getWeight)).sum=0 ∨ 0<c.getWeight) :=
      ⟨fun hpos => ⟨hc,.inr hpos⟩,fun h => h.2.resolve_left hne⟩
    split
    · rw [← hiff]
      omega
    · exact hiff

theorem pickFromTier_isSome {intn : Nat → Nat} (hintn : ∀ n, 0<n → intn n<n) (htargets : targets≠[]) :
    ∃ c, pickFromTier intn targets=some c ∧ WeightOffered targets c := by
  have hpos : 0<(targets.map (tierShare targets)).sum := by
    have hlength : 0<targets.length := length_pos_of_ne_nil htargets
    rw [sum_tierShare]
    dsimp only
    split
    · omega
    · split <;> omega
  have hlt := hintn _ hpos
  obtain ⟨c,hc⟩ : ∃ c, drawBelowZero (tierShare targets) (intn (targets.map (tierShare targets)).sum) targets=some c :=
    drawBelowZero_isSome (Int.natCast_nonneg _) (by exact_mod_cast hlt)
  have hpick : pickFromTier intn targets=some c := by
    unfold pickFromTier
    rw [sum_tierShare] at hc
    exact hc
  obtain ⟨hmem,hshare⟩ := drawBelowZero_mem (Int.natCast_nonneg _) hc
  exact ⟨c,hpick,(tierShare_pos_iff hmem).mp hshare⟩

theorem exists_pickFromTier (h : WeightOffered targets c) :
    ∃ intn : Nat → Nat, (∀ n, 0<n → intn n<n) ∧ pickFromTier intn targets=some c := by
  obtain ⟨draw,hlt,hdraw⟩ := exists_drawBelowZero h.1 ((tierShare_pos_iff h.1).mpr h)
  refine ⟨drawnAt (targets.map (tierShare targets)).sum draw,drawnAt_lt hlt,?_⟩
  unfold pickFromTier
  dsimp only
  rw [sum_tierShare]
  dsimp only
  rw [drawnAt_self]
  exact hdraw

end Pick

section Tiers
variable (around : Surroundings Config) (tables : Tables Config) (q : Query) (model : String)

/-- The channel is listed for a query under the name of a model, and fits the path of the query. -/
def listedFor (c : Channel Config) : Bool :=
  c.enabled && decide (q.group∈splitComma c.group) && decide (model∈splitComma c.models) &&
    (taskPluginChannelMatchesPath around c q.requestPath &&
      (c.type≠.advancedCustom || customSupports around c.advancedCustom q.requestPath q.model))

def candidatesFor : List (Channel Config) := tables.channels.filter (listedFor around q model)

def freshFor : List (Channel Config) := (candidatesFor around tables q model).filter fun c => c.id∉q.excluded

def openTiers : List Int :=
  let priorities := sortedPriorities ((freshFor around tables q model).map (·.getPriority))
  priorities.drop (clampRetry q.retry priorities.length)

def tierChannels (priority : Int) : List (Channel Config) :=
  (freshFor around tables q model).filter fun c => c.getPriority=priority && around.available c

def servedTier : Option Int :=
  (openTiers around tables q model).find? fun priority => !(tierChannels around tables q model priority).isEmpty

def Outcome (offered : List (Channel Config) → Channel Config → Prop)
    (result : Except SelectError (Option (Channel Config))) : Prop :=
  if (freshFor around tables q model).isEmpty then result=.ok none
  else match servedTier around tables q model with
    | none => result=.error .concurrencyLimitReached
    | some priority => ∃ c, offered (tierChannels around tables q model priority) c ∧ result=.ok (some c)

end Tiers

theorem isEmpty_congr {α : Type} {left right : List α} (h : ∀ a, a∈left ↔ a∈right) : left.isEmpty=right.isEmpty := by
  rw [Bool.eq_iff_iff,List.isEmpty_iff,List.isEmpty_iff,eq_nil_iff_forall_not_mem,eq_nil_iff_forall_not_mem]
  simp only [h]

theorem mem_sortedPriorities {priorities : List Int} {p : Int} : p∈sortedPriorities priorities ↔ p∈priorities := by
  rw [sortedPriorities,mem_insertionSort,mem_dedup]

theorem sortedPriorities_congr {left right : List Int} (h : ∀ p, p∈left ↔ p∈right) :
    sortedPriorities left=sortedPriorities right := by
  have hperm : left.dedup.Perm right.dedup := by
    rw [perm_ext_iff_of_nodup left.nodup_dedup right.nodup_dedup]
    simpa only [mem_dedup] using h
  have hsorted : (left.dedup.insertionSort (· ≥ ·)).Perm (right.dedup.insertionSort (· ≥ ·)) :=
    (perm_insertionSort _ _).trans (hperm.trans (perm_insertionSort _ _).symm)
  exact hsorted.eq_of_pairwise' (pairwise_insertionSort _ _) (pairwise_insertionSort _ _)

theorem sortedPriorities_isEmpty (channels : List (Channel Config)) :
    (sortedPriorities (channels.map (·.getPriority))).isEmpty=channels.isEmpty := by
  have hsame : (sortedPriorities (channels.map (·.getPriority))).isEmpty=(channels.map (·.getPriority)).isEmpty :=
    isEmpty_congr fun _ => mem_sortedPriorities
  rw [hsame,isEmpty_map]

section Consistency
variable {tables : Tables Config}

theorem find_channel (h : tables.Consistent) {c : Channel Config} (hc : c∈tables.channels) :
    tables.channels.find? (·.id=c.id)=some c := by
  obtain ⟨d,hd⟩ : ∃ d, tables.channels.find? (·.id=c.id)=some d := by
    rw [← isSome_iff_exists,find?_isSome]
    exact ⟨c,hc,decide_eq_true rfl⟩
  have hid : d.id=c.id := by simpa using find?_some hd
  have hsame : d=c := inj_on_of_nodup_map h.ids (mem_of_find?_eq_some hd) hc hid
  rw [hd,hsame]

end Consistency

theorem weightOffered_congr {left right : List (Channel Config)} (h : ∀ c, c∈left ↔ c∈right) (c : Channel Config) :
    WeightOffered left c ↔ WeightOffered right c := by
  simp only [WeightOffered,h]

section Selectors
variable {around : Surroundings Config} {tables : Tables Config} {q : Query} {model : String}

theorem canReturn_iff_outcome {select : (Nat → Nat) → Except SelectError (Option (Channel Config))}
    {pick : (Nat → Nat) → Int → Option (Channel Config)} {offered : List (Channel Config) → Channel Config → Prop}
    {result : Except SelectError (Option (Channel Config))}
    (hrun : ∀ intn : Nat → Nat, (∀ n, 0<n → intn n<n) → select intn =
      if (freshFor around tables q model).isEmpty then .ok none
      else match servedTier around tables q model with
        | none => .error .concurrencyLimitReached
        | some priority => .ok (pick intn priority))
    (hpick : ∀ priority, servedTier around tables q model=some priority → ∀ intn : Nat → Nat,
      (∀ n, 0<n → intn n<n) → ∃ c, pick intn priority=some c ∧ offered (tierChannels around tables q model priority) c)
    (hoffer : ∀ priority, servedTier around tables q model=some priority → ∀ c,
      offered (tierChannels around tables q model priority) c →
      ∃ intn : Nat → Nat, (∀ n, 0<n → intn n<n) ∧ pick intn priority=some c) :
    CanReturn select result ↔ Outcome around tables q model offered result := by
  have hzero : ∀ n, 0<n → (fun _ : Nat => 0) n<n := fun n hn => hn
  unfold CanReturn Outcome
  split
  next hempty =>
    constructor
    · rintro ⟨intn,hintn,rfl⟩
      rw [hrun intn hintn,if_pos hempty]
    · rintro rfl
      exact ⟨_,hzero,by rw [hrun _ hzero,if_pos hempty]⟩
  next hempty =>
    cases hserves : servedTier around tables q model with
    | none =>
      constructor
      · rintro ⟨intn,hintn,rfl⟩
        rw [hrun intn hintn,if_neg hempty,hserves]
      · rintro rfl
        exact ⟨_,hzero,by rw [hrun _ hzero,if_neg hempty,hserves]⟩
    | some priority =>
      constructor
      · rintro ⟨intn,hintn,rfl⟩
        obtain ⟨c,hc,hoffered⟩ := hpick priority hserves intn hintn
        refine ⟨c,hoffered,?_⟩
        rw [hrun intn hintn,if_neg hempty,hserves]
        exact congrArg _ hc
      · rintro ⟨c,hoffered,rfl⟩
        obtain ⟨intn,hintn,hc⟩ := hoffer priority hserves c hoffered
        refine ⟨intn,hintn,?_⟩
        rw [hrun intn hintn,if_neg hempty,hserves]
        exact congrArg _ hc

end Selectors

section Cache
variable {around : Surroundings Config} {tables : Tables Config} {q : Query}

def cacheModel (around : Surroundings Config) (tables : Tables Config) (q : Query) : String :=
  if (candidatesFor around tables q q.model).isEmpty then formatMatchingModelName q.model else q.model

variable {c : Channel Config} {id : Nat}

theorem mem_listedIds {group model : String} :
    id∈listedIds group model c ↔ group∈splitComma c.group ∧ model∈splitComma c.models ∧ id=c.id := by
  simp only [listedIds,mem_flatMap]
  constructor
  · rintro ⟨g,hg,m,hm,hid⟩
    split at hid
    next hnames =>
      exact ⟨hnames.1 ▸ hg,hnames.2 ▸ hm,mem_singleton.mp hid⟩
    · cases hid
  · rintro ⟨hg,hm,rfl⟩
    exact ⟨group,hg,model,hm,by rw [if_pos ⟨rfl,rfl⟩]; exact mem_singleton_self _⟩

theorem mem_filterChannels (h : tables.Consistent) (model : String) :
    id∈filterChannelsByRequestPathAndModel around (initChannelCache tables)
      ((initChannelCache tables).group2model2channels q.group model) q.requestPath q.model ↔
    ∃ c∈candidatesFor around tables q model, c.id=id := by
  simp only [filterChannelsByRequestPathAndModel,initChannelCache,mem_filter,mem_insertionSort,
    mem_flatMap,mem_listedIds,candidatesFor,listedFor,Bool.and_eq_true,decide_eq_true_eq]
  constructor
  · rintro ⟨⟨c,⟨hmem,henabled⟩,hgroup,hmodel,rfl⟩,hfits⟩
    rw [find_channel h hmem] at hfits
    refine ⟨c,⟨hmem,⟨⟨henabled,hgroup⟩,hmodel⟩,?_⟩,rfl⟩
    revert hfits
    by_cases htype : c.type=.advancedCustom <;> simp [htype]
  · rintro ⟨c,⟨hmem,⟨⟨henabled,hgroup⟩,hmodel⟩,hfits⟩,rfl⟩
    refine ⟨⟨c,⟨hmem,henabled⟩,hgroup,hmodel,rfl⟩,?_⟩
    rw [find_channel h hmem]
    revert hfits
    by_cases htype : c.type=.advancedCustom <;> simp [htype]

theorem mem_cacheCandidates (h : tables.Consistent) : id∈cacheCandidates around (initChannelCache tables) q ↔
    ∃ c∈candidatesFor around tables q (cacheModel around tables q), c.id=id := by
  have hempty : (filterChannelsByRequestPathAndModel around (initChannelCache tables)
      ((initChannelCache tables).group2model2channels q.group q.model) q.requestPath q.model).isEmpty =
      (candidatesFor around tables q q.model).isEmpty := by
    have hids : ((candidatesFor around tables q q.model).map (·.id)).isEmpty =
        (candidatesFor around tables q q.model).isEmpty := isEmpty_map
    rw [← hids]
    apply isEmpty_congr
    intro id
    rw [mem_filterChannels h,List.mem_map]
  unfold cacheCandidates cacheModel
  dsimp only
  rw [hempty]
  split
  · exact mem_filterChannels h _
  · exact mem_filterChannels h _

theorem mem_cachedChannels (h : tables.Consistent) :
    c∈(cacheCandidates around (initChannelCache tables) q).filterMap (initChannelCache tables).channelsIDM ↔
    c∈candidatesFor around tables q (cacheModel around tables q) := by
  rw [mem_filterMap]
  constructor
  · rintro ⟨id,hid,hc⟩
    obtain ⟨d,hd,rfl⟩ := (mem_cacheCandidates h).mp hid
    have hfind : tables.channels.find? (·.id=d.id)=some d := find_channel h (mem_of_mem_filter hd)
    have hsame : d=c := Option.some.inj (hfind.symm.trans hc)
    rwa [← hsame]
  · intro hc
    exact ⟨c.id,(mem_cacheCandidates h).mpr ⟨c,hc,rfl⟩,find_channel h (mem_of_mem_filter hc)⟩

theorem cacheTiers_eq {intn : Nat → Nat} (hintn : ∀ n, 0<n → intn n<n) (candidates : List (Channel Config))
    (excluded : List Nat) (tiers : List Int) :
    let targets := fun priority : Int =>
      candidates.filter fun c => c.getPriority=priority && c.id∉excluded && around.available c
    cacheTiers around intn candidates excluded tiers false =
      match tiers.find? fun priority => !(targets priority).isEmpty with
      | none => .error .concurrencyLimitReached
      | some priority => .ok (pickFromTier intn (targets priority)) := by
  intro targets
  induction tiers with
  | nil => rfl
  | cons priority tiers ih =>
    unfold cacheTiers
    rw [find?_cons]
    change (if (targets priority).isEmpty then _ else _)=_
    cases hempty : (targets priority).isEmpty with
    | true => exact ih
    | false =>
      obtain ⟨c,hc,-⟩ := pickFromTier_isSome hintn (isEmpty_eq_false_iff.mp hempty)
      simp only [Bool.false_eq_true,if_false,Bool.not_false]
      rw [show pickFromTier intn (candidates.filter fun c => c.getPriority=priority && c.id∉excluded &&
        around.available c)=some c from hc]

variable (around tables q) in
theorem canReturn_cache (h : tables.Consistent) (result : Except SelectError (Option (Channel Config))) :
    CanReturn (getFromCache around (initChannelCache tables) q) result ↔
    Outcome around tables q (cacheModel around tables q) WeightOffered result := by
  set model := cacheModel around tables q
  have hfound : (cacheCandidates around (initChannelCache tables) q).find? (fun id =>
      ((initChannelCache tables).channelsIDM id).isNone)=none := by
    rw [find?_eq_none]
    intro id hid
    obtain ⟨c,hc,rfl⟩ := (mem_cacheCandidates h).mp hid
    rw [show (initChannelCache tables).channelsIDM c.id=some c from find_channel h (mem_of_mem_filter hc)]
    exact Bool.false_ne_true
  obtain ⟨candidates,hcandidates⟩ : ∃ candidates, candidates =
    (cacheCandidates around (initChannelCache tables) q).filterMap (initChannelCache tables).channelsIDM := ⟨_,rfl⟩
  have hmem : ∀ c, c∈candidates ↔ c∈candidatesFor around tables q model := by
    intro c
    rw [hcandidates,mem_cachedChannels h]
  have hpriorities : sortedPriorities ((candidates.filter fun c => c.id∉q.excluded).map (·.getPriority)) =
      sortedPriorities ((freshFor around tables q model).map (·.getPriority)) := by
    apply sortedPriorities_congr
    intro p
    simp only [freshFor,List.mem_map,mem_filter,hmem]
  have htargets : ∀ priority c, (c∈candidates.filter fun c => c.getPriority=priority && c.id∉q.excluded &&
      around.available c) ↔ c∈tierChannels around tables q model priority := by
    intro priority c
    simp only [tierChannels,freshFor,mem_filter,hmem,Bool.and_eq_true,decide_eq_true_eq]
    tauto
  have hserved : ((openTiers around tables q model).find? fun priority =>
      !(candidates.filter fun c => c.getPriority=priority && c.id∉q.excluded && around.available c).isEmpty) =
      servedTier around tables q model := by
    unfold servedTier
    congr 1
    funext priority
    rw [isEmpty_congr (htargets priority)]
  have hnone : (sortedPriorities ((freshFor around tables q model).map (·.getPriority))).isEmpty =
      (freshFor around tables q model).isEmpty := sortedPriorities_isEmpty _
  have hrun : ∀ intn : Nat → Nat, (∀ n, 0<n → intn n<n) → getFromCache around (initChannelCache tables) q intn =
      if (freshFor around tables q model).isEmpty then .ok none
      else match servedTier around tables q model with
        | none => .error .concurrencyLimitReached
        | some priority => .ok (pickFromTier intn (candidates.filter fun c =>
            c.getPriority=priority && c.id∉q.excluded && around.available c)) := by
    intro intn hintn
    unfold getFromCache
    dsimp only
    rw [hfound,← hcandidates]
    dsimp only
    rw [hpriorities,hnone,cacheTiers_eq hintn]
    dsimp only
    rw [← hserved]
    rfl
  refine canReturn_iff_outcome hrun (fun priority hserves intn hintn => ?_) fun priority _ c hoffered => ?_
  · have hsome := find?_some (hserved.trans hserves)
    obtain ⟨c,hc,hoffered⟩ := pickFromTier_isSome hintn (by simpa only [Bool.not_eq_true',isEmpty_eq_false_iff] using hsome)
    exact ⟨c,hc,(weightOffered_congr (htargets priority) c).mp hoffered⟩
  · exact exists_pickFromTier ((weightOffered_congr (htargets priority) c).mpr hoffered)

end Cache

section Database
variable {around : Surroundings Config} {tables : Tables Config} {q : Query}

def rowOf (q : Query) (c : Channel Config) : Ability :=
  { group := q.group, model := q.model, channelId := c.id, enabled := c.enabled, priority := c.priority,
    weight := c.getWeight }

variable {a : Ability}

theorem mem_queriedAbilities (h : tables.Consistent) :
    a ∈ queriedAbilities tables q ↔ ∃ c∈tables.channels, c.enabled=true ∧ q.group∈splitComma c.group ∧
      q.model∈splitComma c.models ∧ c.id∉q.excluded ∧ a=rowOf q c := by
  simp only [queriedAbilities,mem_insertionSort,mem_filter,h.rows,Channel.projects,Bool.and_eq_true,
    decide_eq_true_eq]
  constructor
  · rintro ⟨⟨c,hc,hgroup,hmodel,hid,henabled,hpriority,hweight⟩,⟨⟨hg,hm⟩,hlive⟩,hfresh⟩
    refine ⟨c,hc,henabled ▸ hlive,hg ▸ hgroup,hm ▸ hmodel,fun hex => hfresh ?_,?_⟩
    · rw [hid]
      exact ⟨hex,h.positive c hc⟩
    · cases a
      simp_all [rowOf]
  · rintro ⟨c,hc,henabled,hgroup,hmodel,hfresh,rfl⟩
    exact ⟨⟨c,hc,hgroup,hmodel,rfl,rfl,rfl,rfl⟩,⟨⟨rfl,rfl⟩,henabled⟩,fun hex => hfresh hex.1⟩

theorem mem_filterAbilities (h : tables.Consistent) :
    a∈filterAbilitiesByRequestPathAndModel around tables (queriedAbilities tables q) q.requestPath q.model ↔
    ∃ c∈freshFor around tables q q.model, a=rowOf q c := by
  simp only [filterAbilitiesByRequestPathAndModel,mem_filter,mem_queriedAbilities h,freshFor,candidatesFor,
    listedFor,Bool.and_eq_true,decide_eq_true_eq]
  constructor
  · rintro ⟨⟨c,hc,henabled,hgroup,hmodel,hfresh,rfl⟩,hfits⟩
    rw [show (rowOf q c).channelId=c.id from rfl,find_channel h hc,any_some,Bool.and_eq_true] at hfits
    exact ⟨c,⟨⟨hc,⟨⟨henabled,hgroup⟩,hmodel⟩,hfits⟩,hfresh⟩,rfl⟩
  · rintro ⟨c,⟨⟨hc,⟨⟨henabled,hgroup⟩,hmodel⟩,hfits⟩,hfresh⟩,rfl⟩
    refine ⟨⟨c,hc,henabled,hgroup,hmodel,hfresh,rfl⟩,?_⟩
    rwa [show (rowOf q c).channelId=c.id from rfl,find_channel h hc,any_some,Bool.and_eq_true]

def rowAvailable (around : Surroundings Config) (tables : Tables Config) (a : Ability) : Bool :=
  (tables.channels.find? (·.id=a.channelId)).any around.available

variable {abilities targets : List Ability}

theorem targetAbilities_eq (priority : Int) (hfound : ∀ a∈abilities, ∃ c, tables.channels.find? (·.id=a.channelId)=some c) :
    targetAbilities around tables priority abilities =
      .ok (abilities.filter fun a => a.getPriority=priority && rowAvailable around tables a) := by
  induction abilities with
  | nil => rfl
  | cons a rest ih =>
    obtain ⟨c,hc⟩ := hfound a mem_cons_self
    have hrest := ih fun b hb => hfound b (mem_cons_of_mem _ hb)
    unfold targetAbilities
    rw [filter_cons]
    by_cases hpriority : a.getPriority=priority
    · rw [if_neg (not_not.mpr hpriority),hc,hrest]
      have hrow : rowAvailable around tables a=around.available c := by
        rw [rowAvailable,hc]
        rfl
      cases havailable : around.available c <;> simp [Except.map,hpriority,hrow,havailable]
    · rw [if_pos hpriority,hrest]
      simp [hpriority]

def drawRow (intn : Nat → Nat) (targets : List Ability) : Option Ability :=
  drawToZero (·.weight+10) (intn (targets.map (·.weight+10)).sum) targets

variable {intn : Nat → Nat}

theorem drawRow_isSome (hintn : ∀ n, 0<n → intn n<n) (h : targets≠[]) : ∃ a∈targets, drawRow intn targets=some a := by
  have hpos : 0<(targets.map (·.weight+10)).sum := by
    cases targets with
    | nil => exact absurd rfl h
    | cons a rest =>
      rw [map_cons,sum_cons]
      omega
  have hlt := hintn _ hpos
  obtain ⟨a,ha⟩ : ∃ a, drawRow intn targets=some a := drawToZero_isSome h (by exact_mod_cast hlt)
  exact ⟨a,drawToZero_mem ha,ha⟩

theorem exists_drawRow (h : a∈targets) : ∃ intn : Nat → Nat, (∀ n, 0<n → intn n<n) ∧ drawRow intn targets=some a := by
  obtain ⟨draw,-,hlt,hdraw⟩ : ∃ draw : Nat, 0<draw ∧ draw<(targets.map (·.weight+10)).sum ∧
      drawToZero (·.weight+10) draw targets=some a := exists_drawToZero h fun b => by omega
  refine ⟨drawnAt (targets.map (·.weight+10)).sum draw,drawnAt_lt hlt,?_⟩
  unfold drawRow
  rw [drawnAt_self]
  exact hdraw

theorem databaseTiers_eq (hintn : ∀ n, 0<n → intn n<n)
    (habilities : ∀ a∈abilities, 0<a.channelId ∧ ∃ c, tables.channels.find? (·.id=a.channelId)=some c)
    (tiers : List Int) :
    let targets := fun priority : Int =>
      abilities.filter fun a => a.getPriority=priority && rowAvailable around tables a
    databaseTiers around tables intn abilities tiers false =
      match tiers.find? fun priority => !(targets priority).isEmpty with
      | none => .error .concurrencyLimitReached
      | some priority => .ok ((drawRow intn (targets priority)).bind fun a =>
          tables.channels.find? (·.id=a.channelId)) := by
  intro targets
  have htargets : ∀ priority, targetAbilities around tables priority abilities=.ok (targets priority) :=
    fun priority => targetAbilities_eq priority fun a ha => (habilities a ha).2
  induction tiers with
  | nil => rfl
  | cons priority tiers ih =>
    unfold databaseTiers
    rw [find?_cons,htargets priority]
    change (if (targets priority).isEmpty then _ else _)=_
    cases hempty : (targets priority).isEmpty with
    | true => exact ih
    | false =>
      obtain ⟨a,ha,hdrawn⟩ := drawRow_isSome hintn (isEmpty_eq_false_iff.mp hempty)
      obtain ⟨hpositive,c,hfind⟩ := habilities a (mem_of_mem_filter ha)
      simp only [Bool.false_eq_true,if_false,Bool.not_false]
      rw [show drawToZero _ _ (targets priority)=some a from hdrawn,hdrawn]
      dsimp only
      rw [if_neg (by omega),hfind,bind_some,hfind]

variable (around tables q) in
theorem canReturn_database (h : tables.Consistent) (result : Except SelectError (Option (Channel Config))) :
    CanReturn (getFromDatabase around tables q) result ↔
    Outcome around tables q q.model (fun targets c => c∈targets) result := by
  set fresh := freshFor around tables q q.model
  obtain ⟨abilities,habilities⟩ : ∃ abilities, abilities =
    filterAbilitiesByRequestPathAndModel around tables (queriedAbilities tables q) q.requestPath q.model := ⟨_,rfl⟩
  have hmem : ∀ a, a∈abilities ↔ ∃ c∈fresh, a=rowOf q c := by
    intro a
    rw [habilities,mem_filterAbilities h]
  have hchannel : ∀ c∈fresh, c∈tables.channels :=
    fun c hc => mem_of_mem_filter (mem_of_mem_filter hc)
  have hempty : abilities.isEmpty=fresh.isEmpty := by
    have hrows : (fresh.map (rowOf q)).isEmpty =
        fresh.isEmpty := isEmpty_map
    rw [← hrows]
    apply isEmpty_congr
    intro a
    simp only [hmem,List.mem_map,eq_comm]
  have hpriorities : sortedPriorities (abilities.map (·.getPriority)) =
      sortedPriorities (fresh.map (·.getPriority)) := by
    apply sortedPriorities_congr
    intro p
    simp only [List.mem_map,hmem]
    constructor
    · rintro ⟨a,⟨c,hc,rfl⟩,rfl⟩
      exact ⟨c,hc,rfl⟩
    · rintro ⟨c,hc,rfl⟩
      exact ⟨rowOf q c,⟨c,hc,rfl⟩,rfl⟩
  have htargets : ∀ priority a, (a∈abilities.filter fun a => a.getPriority=priority && rowAvailable around tables a) ↔
      ∃ c∈tierChannels around tables q q.model priority, a=rowOf q c := by
    intro priority a
    simp only [tierChannels,mem_filter,hmem,Bool.and_eq_true,decide_eq_true_eq]
    constructor
    · rintro ⟨⟨c,hc,rfl⟩,hpriority,havailable⟩
      rw [rowAvailable,show (rowOf q c).channelId=c.id from rfl,find_channel h (hchannel c hc)] at havailable
      exact ⟨c,⟨hc,hpriority,havailable⟩,rfl⟩
    · rintro ⟨c,⟨hc,hpriority,havailable⟩,rfl⟩
      refine ⟨⟨c,hc,rfl⟩,hpriority,?_⟩
      rw [rowAvailable,show (rowOf q c).channelId=c.id from rfl,find_channel h (hchannel c hc)]
      exact havailable
  have hserved : ((openTiers around tables q q.model).find? fun priority =>
      !(abilities.filter fun a => a.getPriority=priority && rowAvailable around tables a).isEmpty) =
      servedTier around tables q q.model := by
    unfold servedTier
    congr 1
    funext priority
    have hrows : ((tierChannels around tables q q.model priority).map (rowOf q)).isEmpty =
        (tierChannels around tables q q.model priority).isEmpty := isEmpty_map
    rw [← hrows]
    congr 1
    apply isEmpty_congr
    intro a
    rw [htargets,List.mem_map]
    simp only [eq_comm]
  have hrun : ∀ intn : Nat → Nat, (∀ n, 0<n → intn n<n) → getFromDatabase around tables q intn =
      if fresh.isEmpty then .ok none
      else match servedTier around tables q q.model with
        | none => .error .concurrencyLimitReached
        | some priority => .ok ((drawRow intn (abilities.filter fun a =>
            a.getPriority=priority && rowAvailable around tables a)).bind fun a =>
              tables.channels.find? (·.id=a.channelId)) := by
    intro intn hintn
    unfold getFromDatabase
    dsimp only
    rw [← habilities,hempty,hpriorities,databaseTiers_eq hintn]
    · dsimp only
      rw [← hserved]
      rfl
    · intro a ha
      obtain ⟨c,hc,rfl⟩ := (hmem a).mp ha
      exact ⟨h.positive c (hchannel c hc),c,find_channel h (hchannel c hc)⟩
  have htier : ∀ priority, ∀ c∈tierChannels around tables q q.model priority,
      tables.channels.find? (·.id=(rowOf q c).channelId)=some c :=
    fun priority c hc => find_channel h (hchannel c (mem_of_mem_filter hc))
  refine canReturn_iff_outcome hrun (fun priority hserves intn hintn => ?_) fun priority _ c hc => ?_
  · have hsome := find?_some (hserved.trans hserves)
    obtain ⟨a,ha,hdrawn⟩ := drawRow_isSome hintn (by
      simpa only [Bool.not_eq_true',isEmpty_eq_false_iff] using hsome)
    obtain ⟨c,hc,rfl⟩ := (htargets priority a).mp ha
    exact ⟨c,by rw [hdrawn,bind_some,htier priority c hc],hc⟩
  · obtain ⟨intn,hintn,hdrawn⟩ := exists_drawRow ((htargets priority _).mpr ⟨c,hc,rfl⟩)
    exact ⟨intn,hintn,by rw [hdrawn,bind_some,htier priority c hc]⟩

end Database

section Agreement
variable (around : Surroundings Config) (tables : Tables Config) (q : Query)

/-- The queries on which the two selectors agree. A model with candidates needs a served tier whose weights are all zero
or all positive; a model without any must have none to offer under its matching name either. -/
def SameOffers : Prop :=
  if (candidatesFor around tables q q.model).isEmpty then
    (freshFor around tables q (formatMatchingModelName q.model)).isEmpty=true
  else ∀ priority, servedTier around tables q q.model=some priority →
    (∀ c∈tierChannels around tables q q.model priority, c.getWeight=0) ∨
      ∀ c∈tierChannels around tables q q.model priority, 0<c.getWeight

theorem weightOffered_all_iff (targets : List (Channel Config)) : (∀ c, WeightOffered targets c ↔ c∈targets) ↔
    (∀ c∈targets, c.getWeight=0) ∨ ∀ c∈targets, 0<c.getWeight := by
  constructor
  · intro h
    by_cases hzero : ∀ c∈targets, c.getWeight=0
    · exact .inl hzero
    · exact .inr fun c hc => ((h c).mpr hc).2.resolve_left hzero
  · rintro (hzero | hpositive) c
    · exact ⟨fun hc => hc.1,fun hc => ⟨hc,.inl hzero⟩⟩
    · exact ⟨fun hc => hc.1,fun hc => ⟨hc,.inr (hpositive c hc)⟩⟩

theorem outcome_none_iff {model : String} {offered : List (Channel Config) → Channel Config → Prop} :
    Outcome around tables q model offered (.ok none) ↔ (freshFor around tables q model).isEmpty=true := by
  unfold Outcome
  split
  next hempty =>
    exact iff_of_true rfl hempty
  next hempty =>
    refine iff_of_false ?_ hempty
    split
    · intro h
      cases h
    · rintro ⟨c,-,h⟩
      cases h

theorem outcome_congr_iff {model : String} {left right : List (Channel Config) → Channel Config → Prop}
    (hmem : ∀ targets c, left targets c → c∈targets) (hright : ∀ targets c, right targets c → c∈targets) :
    (∀ result, Outcome around tables q model left result ↔ Outcome around tables q model right result) ↔
    ∀ priority, servedTier around tables q model=some priority →
      ∀ c, left (tierChannels around tables q model priority) c ↔ right (tierChannels around tables q model priority) c := by
  constructor
  · intro h priority hserves c
    have hfresh : ∀ c∈tierChannels around tables q model priority, ¬(freshFor around tables q model).isEmpty=true := by
      intro c hc hempty
      rw [List.isEmpty_iff] at hempty
      rw [tierChannels,hempty] at hc
      cases hc
    have hreads : ∀ offered : List (Channel Config) → Channel Config → Prop, c∈tierChannels around tables q model priority →
        (Outcome around tables q model offered (.ok (some c)) ↔ offered (tierChannels around tables q model priority) c) := by
      intro offered hc
      unfold Outcome
      rw [if_neg (hfresh c hc),hserves]
      constructor
      · rintro ⟨d,hd,heq⟩
        obtain rfl : c=d := Option.some.inj (Except.ok.inj heq)
        exact hd
      · exact fun hc => ⟨c,hc,rfl⟩
    constructor
    · intro hc
      exact (hreads right (hmem _ c hc)).mp ((h _).mp ((hreads left (hmem _ c hc)).mpr hc))
    · intro hc
      exact (hreads left (hright _ c hc)).mp ((h _).mpr ((hreads right (hright _ c hc)).mpr hc))
  · intro h result
    unfold Outcome
    split
    · rfl
    cases hserves : servedTier around tables q model with
    | none => rfl
    | some priority => simp only [h priority hserves]

/-- The memory cache and the database offer the same channels for a query exactly when `SameOffers` holds of it. -/
theorem cache_offers_as_database_iff (h : tables.Consistent) : (∀ result,
      CanReturn (getRandomSatisfiedChannelWithSelectionExclusions around true (initChannelCache tables) tables q) result ↔
      CanReturn (getRandomSatisfiedChannelWithSelectionExclusions around false (initChannelCache tables) tables q) result) ↔
    SameOffers around tables q := by
  change (∀ result, CanReturn (getFromCache around (initChannelCache tables) q) result ↔
    CanReturn (getFromDatabase around tables q) result) ↔ _
  simp only [canReturn_cache around tables q h,canReturn_database around tables q h]
  unfold SameOffers cacheModel
  split
  next hempty =>
    have hnone : (freshFor around tables q q.model).isEmpty=true := by
      rw [List.isEmpty_iff] at hempty
      rw [freshFor,hempty]
      rfl
    constructor
    · intro hsame
      exact (outcome_none_iff around tables q).mp ((hsame _).mpr ((outcome_none_iff around tables q).mpr hnone))
    · intro hfresh result
      unfold Outcome
      rw [if_pos hfresh,if_pos hnone]
  · rw [outcome_congr_iff around tables q (fun _ _ hc => hc.1) (fun _ _ hc => hc)]
    simp only [weightOffered_all_iff]

end Agreement

section Pair

def pairTables (first second : Nat) : Tables Unit :=
  { channels := [
      { id := 1, weight := some first, models := "gpt-4o", group := "default" },
      { id := 2, weight := some second, models := "gpt-4o", group := "default" }]
    abilities := [
      { group := "default", model := "gpt-4o", channelId := 1, enabled := true, priority := none, weight := first },
      { group := "default", model := "gpt-4o", channelId := 2, enabled := true, priority := none, weight := second }] }

def plainSurroundings : Surroundings Unit :=
  { declaredPlugin := fun _ => none, supportsPathForModel := fun _ _ _ => false, available := fun _ => true }

def chatQuery : Query := { group := "default", model := "gpt-4o", retry := 0, requestPath := "/v1/chat/completions" }

theorem pairTables_consistent (first second : Nat) : (pairTables first second).Consistent := by
  have hgroup : splitComma "default" = ["default"] := by decide
  have hmodels : splitComma "gpt-4o" = ["gpt-4o"] := by decide
  refine ⟨by simp [pairTables],?_,?_,?_⟩
  · intro c hc
    simp only [pairTables,mem_cons,not_mem_nil,or_false] at hc
    obtain rfl | rfl := hc <;> exact Nat.zero_lt_succ _
  · rintro ⟨group,model,channelId,enabled,priority,weight⟩
    simp only [pairTables,Channel.projects,Channel.getWeight,mem_cons,not_mem_nil,or_false,
      exists_eq_or_imp,exists_eq_left,Ability.mk.injEq,hgroup,hmodels,getD_some]
  · simp [pairTables]

theorem positive_weights_offered_alike : (pairTables 5 7).Consistent ∧ ∀ result,
      CanReturn (getRandomSatisfiedChannelWithSelectionExclusions plainSurroundings true (initChannelCache (pairTables 5 7))
        (pairTables 5 7) chatQuery) result ↔
      CanReturn (getRandomSatisfiedChannelWithSelectionExclusions plainSurroundings false (initChannelCache (pairTables 5 7))
        (pairTables 5 7) chatQuery) result := by
  refine ⟨pairTables_consistent 5 7,(cache_offers_as_database_iff _ _ _ (pairTables_consistent 5 7)).mpr ?_⟩
  unfold SameOffers
  rw [if_neg (by decide)]
  intro priority hserves
  obtain rfl : (0 : Int)=priority := by
    have hzero : servedTier plainSurroundings (pairTables 5 7) chatQuery chatQuery.model=some 0 := by decide
    exact Option.some.inj (hzero.symm.trans hserves)
  exact .inr (by decide)

theorem zero_weight_offered_by_database_only : (pairTables 0 5).Consistent ∧ ¬∀ result,
      CanReturn (getRandomSatisfiedChannelWithSelectionExclusions plainSurroundings true (initChannelCache (pairTables 0 5))
        (pairTables 0 5) chatQuery) result ↔
      CanReturn (getRandomSatisfiedChannelWithSelectionExclusions plainSurroundings false (initChannelCache (pairTables 0 5))
        (pairTables 0 5) chatQuery) result := by
  refine ⟨pairTables_consistent 0 5,fun hsame => ?_⟩
  obtain ⟨zero,hzero⟩ : ∃ zero : Channel Unit,
    zero={ id := 1, weight := some 0, models := "gpt-4o", group := "default" } := ⟨_,rfl⟩
  have hdatabase : CanReturn (getFromDatabase plainSurroundings (pairTables 0 5) chatQuery) (.ok (some zero)) := by
    refine ⟨fun n => n-1,fun n hn => Nat.sub_lt hn Nat.one_pos,?_⟩
    rw [hzero]
    decide +kernel
  have hcache : CanReturn (getFromCache plainSurroundings (initChannelCache (pairTables 0 5)) chatQuery)
    (.ok (some zero)) := (hsame _).mpr hdatabase
  rw [canReturn_cache _ _ _ (pairTables_consistent 0 5)] at hcache
  have hserves : servedTier plainSurroundings (pairTables 0 5) chatQuery
      (cacheModel plainSurroundings (pairTables 0 5) chatQuery)=some 0 := by decide +kernel
  unfold Outcome at hcache
  rw [if_neg (by decide +kernel),hserves] at hcache
  obtain ⟨c,⟨-,hweight⟩,hc⟩ := hcache
  obtain rfl : zero=c := Option.some.inj (Except.ok.inj hc)
  rw [hzero] at hweight
  revert hweight
  decide +kernel

end Pair

end NewApi.Routing
