import NewApi.Plugins.Routing

/-! When a generation can be built from a set of plugins, and what is then true of it. -/
namespace NewApi.Plugins
open List Option Keyed Admission RoutingClaim
open RoutingGeneration (canonicalModel channelOwner routeOwner firstBinding)

theorem apart_concat {claims : List RoutingClaim} (h : claims.Pairwise Apart) (c : RoutingClaim) :
    (claims++[c]).Pairwise Apart ↔ ∀ b∈claims, b.Apart c := by
  rw [pairwise_append]
  refine ⟨fun h' b hb => h'.2.2 b hb c (by simp),fun h' => ⟨h,pairwise_singleton _ c,?_⟩⟩
  intro b hb c' hc'
  rw [mem_singleton.mp hc']
  exact h' b hb

theorem lookup_concat {α β : Type} [DecidableEq α] (entries : List (α×β)) (k k' : α) (v : β) :
    (Keyed.lookup Prod.fst k' (entries++[(k,v)])).map Prod.snd =
      ((Keyed.lookup Prod.fst k' entries).map Prod.snd).or (if k=k' then some v else none) := by
  rw [Keyed.lookup_append,Keyed.lookup_cons,Keyed.lookup_nil]
  cases Keyed.lookup Prod.fst k' entries <;> by_cases h : k=k' <;> simp [h]

section Steps
variable {plugin : LoadedPlugin} {gen : RoutingGeneration} {claims : List RoutingClaim}

theorem indexModel_adds (h : Indexes gen claims) (model : String) :
    Adds gen claims True [.model model] [] (indexModel plugin gen model) := by
  have hclash : ∀ b∈claims, ¬b.Apart (.model model) →
      ∃ existing, gen.canonicalModel (asciiFold model)=some existing ∧ existing≠model := by
    intro b hb hapart
    cases b with
    | model m =>
      simp only [Apart,clash,Bool.and_eq_false_iff,decide_eq_false_iff_not,not_or,not_not] at hapart
      exact ⟨m,(h.model _ _).mpr ⟨hb,hapart.1⟩,by simpa using hapart.2⟩
    | channelType _ | route _ | endpoint _ _ => exact absurd rfl hapart
  rw [indexModel]
  cases hfold : gen.canonicalModel (asciiFold model) with
  | some existing =>
    obtain ⟨hmem,hsame⟩ := (h.model _ _).mp hfold
    by_cases hne : existing=model
    · subst hne
      have hapart : ∀ b∈claims, b.Apart (.model existing) := by
        intro b hb
        by_contra hb'
        obtain ⟨other,hother,hne⟩ := hclash b hb hb'
        rw [hfold] at hother
        exact hne (Option.some.inj hother).symm
      simp only [ne_eq,not_true_eq_false,if_false]
      refine ⟨trivial,⟨(apart_concat h.apart _).mpr hapart,?_,?_,?_,?_,?_⟩,by simp⟩
      · intro folded m
        rw [mem_append,mem_singleton]
        refine (h.model folded m).trans ⟨fun h' => ⟨.inl h'.1,h'.2⟩,?_⟩
        rintro ⟨h' | h',hf⟩
        · exact ⟨h',hf⟩
        · rw [RoutingClaim.model.injEq] at h'
          exact ⟨h' ▸ hmem,hf⟩
      · exact fun type => (h.channelType type).trans (by simp)
      · exact fun key => (h.route key).trans (by simp)
      · exact fun key b hb => mem_append_left _ (h.bound key b hb)
      · exact fun key protocol hb => h.binding key protocol (by simpa using hb)
    · simp only [ne_eq,hne,not_false_eq_true,if_true]
      rintro ⟨-,hclear⟩
      have hapart := (apart_concat h.apart _).mp hclear _ hmem
      simp [Apart,clash,hsame,hne] at hapart
  | none =>
    have hapart : ∀ b∈claims, b.Apart (.model model) := by
      intro b hb
      by_contra hb'
      obtain ⟨other,hother,-⟩ := hclash b hb hb'
      rw [hfold] at hother
      cases hother
    refine ⟨trivial,⟨(apart_concat h.apart _).mpr hapart,?_,?_,?_,?_,?_⟩,by simp⟩
    · intro folded m
      rw [canonicalModel,lookup_concat,mem_append,mem_singleton,RoutingClaim.model.injEq]
      by_cases hf : asciiFold model=folded
      · subst hf
        rw [← canonicalModel,hfold,if_pos rfl]
        simp only [none_or,Option.some.injEq]
        constructor
        · rintro rfl
          exact ⟨.inr rfl,rfl⟩
        · rintro ⟨hm | hm,hf⟩
          · have := (h.model _ _).mpr ⟨hm,hf⟩
            rw [hfold] at this
            cases this
          · exact hm.symm
      · rw [if_neg hf,or_none,← canonicalModel,h.model]
        constructor
        · exact fun h' => ⟨.inl h'.1,h'.2⟩
        rintro ⟨hm | rfl,hf'⟩
        · exact ⟨hm,hf'⟩
        · exact absurd hf' hf
    · exact fun type => (h.channelType type).trans (by simp)
    · exact fun key => (h.route key).trans (by simp)
    · exact fun key b hb => mem_append_left _ (h.bound key b hb)
    · exact fun key protocol hb => h.binding key protocol (by simpa using hb)

theorem indexChannelType_adds (h : Indexes gen claims) (channelType : Int) :
    Adds gen claims True (channelTypeClaims channelType) [] (indexChannelType plugin gen channelType) := by
  rw [indexChannelType,channelTypeClaims]
  by_cases hfree : channelType=0 ∨ channelType=channelTypeTaskPlugin
  · rw [if_pos hfree,if_pos hfree]
    exact adds_nothing h
  rw [if_neg hfree,if_neg hfree]
  cases howner : gen.channelOwner channelType with
  | some other =>
    rintro ⟨-,hclear⟩
    have hmem : RoutingClaim.channelType channelType∈claims := (h.channelType _).mp (by rw [howner]; rfl)
    have hapart := (apart_concat h.apart _).mp hclear _ hmem
    simp [Apart,clash] at hapart
  | none =>
    simp only [Adds,append_nil,true_and]
    have hfresh : RoutingClaim.channelType channelType∉claims := by
      rw [← h.channelType,howner]
      simp
    refine ⟨⟨(apart_concat h.apart _).mpr ?_,?_,?_,?_,?_,?_⟩,trivial⟩
    · intro b hb
      cases b with
      | channelType t =>
        simp only [Apart,clash,decide_eq_false_iff_not]
        rintro rfl
        exact hfresh hb
      | model _ | route _ | endpoint _ _ => rfl
    · exact fun folded m => (h.model folded m).trans (by simp)
    · intro type
      rw [channelOwner,lookup_concat,← channelOwner,mem_append,← h.channelType]
      by_cases hsame : channelType=type <;> simp [hsame,@eq_comm _ type]
    · exact fun key => (h.route key).trans (by simp)
    · exact fun key b hb => mem_append_left _ (h.bound key b hb)
    · exact fun key protocol hb => h.binding key protocol (by simpa using hb)

theorem indexRoute_adds (h : Indexes gen claims) (route : Route) :
    Adds gen claims (routeKey route).isOk (routeClaims route) [] (indexRoute plugin gen route) := by
  rw [indexRoute,routeClaims]
  cases hkey : routeKey route with
  | error e => simp [Except.bind,Adds,Except.isOk,Except.toBool]
  | ok key =>
    simp only [Except.bind]
    cases howner : gen.routeOwner key with
    | some other =>
      rintro ⟨-,hclear⟩
      have hmem : RoutingClaim.route key∈claims := (h.route _).mp (by rw [howner]; rfl)
      have hapart := (apart_concat h.apart _).mp hclear _ hmem
      simp [Apart,clash] at hapart
    | none =>
      simp only [Adds,append_nil]
      have hfresh : RoutingClaim.route key∉claims := by
        rw [← h.route,howner]
        simp
      refine ⟨rfl,⟨(apart_concat h.apart _).mpr ?_,?_,?_,?_,?_,?_⟩,trivial⟩
      · intro b hb
        cases b with
        | route k =>
          simp only [Apart,clash,decide_eq_false_iff_not]
          rintro rfl
          exact hfresh hb
        | model _ | channelType _ | endpoint _ _ => rfl
      · exact fun folded m => (h.model folded m).trans (by simp)
      · exact fun type => (h.channelType type).trans (by simp)
      · intro k
        rw [routeOwner,lookup_concat,← routeOwner,mem_append,← h.route]
        by_cases hsame : key=k <;> simp [hsame,@eq_comm _ k]
      · exact fun key b hb => mem_append_left _ (h.bound key b hb)
      · exact fun key protocol hb => h.binding key protocol (by simpa using hb)

theorem indexEndpoint_adds (protocol : String) (operation : HostProtocolOperation) (method : String) (h : Indexes gen claims)
    (model : String) : Adds gen claims True [.endpoint (endpointIndexKey method operation.path model) protocol] []
      (indexEndpoint plugin protocol operation method gen model) := by
  rw [indexEndpoint]
  generalize endpointIndexKey method operation.path model=key
  -- the binding is appended whether or not the key has one already
  have hadd : (∀ b, gen.firstBinding key=some b → b.protocol=protocol) →
      Indexes { gen with protocolIndex := gen.protocolIndex++[(key,⟨plugin,protocol,operation,model⟩)] }
        (claims++[.endpoint key protocol]) := by
    intro hfirst
    refine ⟨(apart_concat h.apart _).mpr ?_,?_,?_,?_,?_,?_⟩
    · intro b hb
      cases b with
      | endpoint k p =>
        simp only [Apart,clash,Bool.and_eq_false_iff,decide_eq_false_iff_not,ne_eq,not_not]
        by_cases hk : k=key
        · subst hk
          obtain ⟨b,hb,hp⟩ := h.binding _ _ hb
          exact .inr (by rw [← hp,hfirst b hb])
        · exact .inl hk
      | model _ | channelType _ | route _ => rfl
    · exact fun folded m => (h.model folded m).trans (by simp)
    · exact fun type => (h.channelType type).trans (by simp)
    · exact fun key => (h.route key).trans (by simp)
    · intro k b hb
      rw [firstBinding,lookup_concat,← firstBinding] at hb
      cases hk : gen.firstBinding k with
      | some b' =>
        rw [hk,some_or,Option.some.injEq] at hb
        exact mem_append_left _ (hb ▸ h.bound k b' hk)
      | none =>
        rw [hk,none_or] at hb
        split at hb
        next hkey =>
          rw [Option.some.injEq] at hb
          simp [← hb,hkey]
        next => cases hb
    · intro k p hb
      rw [firstBinding,lookup_concat,← firstBinding]
      rcases mem_append.mp hb with hb | hb
      · obtain ⟨b,hb,hp⟩ := h.binding k p hb
        exact ⟨b,by rw [hb,some_or],hp⟩
      · simp only [mem_singleton,RoutingClaim.endpoint.injEq] at hb
        obtain ⟨rfl,rfl⟩ := hb
        cases hk : gen.firstBinding k with
        | some b => exact ⟨b,by rw [some_or],hfirst b hk⟩
        | none => exact ⟨⟨plugin,p,operation,model⟩,by rw [none_or,if_pos rfl],rfl⟩
  cases hfirst : gen.firstBinding key with
  | none =>
    rw [hfirst] at hadd
    exact ⟨trivial,hadd (by simp),by simp⟩
  | some other =>
    by_cases hsame : protocol=other.protocol
    · simp only [ne_eq,hsame,not_true_eq_false,if_false]
      rw [← hsame]
      refine ⟨trivial,hadd ?_,by simp⟩
      rw [hfirst]
      rintro b ⟨⟩
      exact hsame.symm
    · simp only [ne_eq,hsame,not_false_eq_true,if_true,Adds,true_and]
      intro hclear
      have hapart := (apart_concat h.apart _).mp hclear _ (h.bound key other hfirst)
      simp only [Apart,clash,decide_true,Bool.true_and,decide_eq_false_iff_not,ne_eq,not_not] at hapart
      exact hsame hapart.symm

theorem indexOperation_adds (claim : ProtocolClaim) (h : Indexes gen claims) (operation : HostProtocolOperation) :
    Adds gen claims True (operationClaims plugin claim operation) [] (indexOperation plugin claim gen operation) := by
  rw [indexOperation,operationClaims]
  split
  · exact adds_nothing h
  · exact adds_each (fun gen claims method h =>
      adds_each (fun gen claims model h => indexEndpoint_adds claim.name operation method h model) _ h) _ h

theorem indexProtocol_adds (h : Indexes gen claims) (claim : ProtocolClaim) :
    Adds gen claims True (protocolClaims plugin claim) [] (indexProtocol plugin gen claim) :=
  adds_each (fun _ _ operation h => indexOperation_adds claim h operation) _ h

theorem indexPlugin_adds (h : Indexes gen claims) (plugin : LoadedPlugin) :
    Adds gen claims (∀ route∈plugin.routes, (routeKey route).isOk) plugin.claims [plugin] (indexPlugin gen plugin) := by
  have hlisted : Adds gen claims True [] [plugin] (.ok { gen with plugins := gen.plugins++[plugin] }) :=
    ⟨trivial,by
      rw [append_nil]
      exact ⟨h.apart,h.model,h.channelType,h.route,h.bound,h.binding⟩,rfl⟩
  have hroutes : ∀ {gen claims}, Indexes gen claims →
      Adds gen claims (∀ route∈plugin.routes, (routeKey route).isOk) (plugin.routes.flatMap routeClaims) []
        (plugin.routes.foldlM (indexRoute plugin) gen) := by
    intro gen claims h
    have hall := adds_foldlM (f := indexRoute plugin) (fun _ => []) (fun _ _ route h => indexRoute_adds h route) plugin.routes h
    rwa [show plugin.routes.flatMap (fun _ => ([] : List LoadedPlugin))=[] by simp] at hall
  have hadds := hlisted.bind fun gen h =>
    (adds_each (f := indexModel plugin) (fun _ _ model h => indexModel_adds h model) plugin.models h).bind fun gen h =>
    (adds_each (f := indexChannelType plugin) (fun _ _ type h => indexChannelType_adds h type) plugin.channelTypes h).bind fun gen h =>
    (hroutes h).bind fun gen h =>
    adds_each (f := indexProtocol plugin) (fun _ _ claim h => indexProtocol_adds h claim) plugin.protocols h
  exact hadds.congr (by simp)

end Steps

variable (plugins : List LoadedPlugin)

theorem indexes_empty (number : Nat) : Indexes { number := number } [] where
  apart := .nil
  model folded model := by simp [canonicalModel,Keyed.lookup_nil]
  channelType type := by simp [channelOwner,Keyed.lookup_nil]
  route key := by simp [routeOwner,Keyed.lookup_nil]
  bound key binding h := by simp [firstBinding,Keyed.lookup_nil] at h
  binding key protocol h := by simp at h

theorem pairwise_claims : (plugins.flatMap LoadedPlugin.claims).Pairwise Apart ↔
      (∀ plugin∈plugins, plugin.claims.Pairwise Apart) ∧ plugins.Pairwise LoadedPlugin.Compatible :=
  pairwise_flatMap

theorem sortedByKey_perm : (sortedByKey plugins).Perm plugins :=
  perm_insertionSort _ plugins

theorem build_spec (effective : List LoadedPlugin) (number : Nat) :
    match buildRoutingGenerationFromPlugins effective number with
    | .ok gen => Fits LoadedPlugin.Sound LoadedPlugin.Compatible effective ∧ gen.plugins=sortedByKey effective
    | .error _ => ¬Fits LoadedPlugin.Sound LoadedPlugin.Compatible effective := by
  have hadds := adds_foldlM (f := indexPlugin) (fun plugin => [plugin]) (fun _ _ plugin h => indexPlugin_adds h plugin)
    (sortedByKey effective) (indexes_empty number)
  rw [← buildRoutingGenerationFromPlugins,show (sortedByKey effective).flatMap (fun plugin => [plugin]) =
    sortedByKey effective by simp] at hadds
  have hfits : Fits LoadedPlugin.Sound LoadedPlugin.Compatible (sortedByKey effective) ↔
      (∀ plugin∈sortedByKey effective, ∀ route∈plugin.routes, (routeKey route).isOk=true) ∧
        ((sortedByKey effective).flatMap LoadedPlugin.claims).Pairwise Apart := by
    rw [pairwise_claims]
    constructor
    · exact fun h => ⟨fun p hp => (h.good p hp).1,fun p hp => (h.good p hp).2,h.together⟩
    · exact fun h => ⟨fun p hp => ⟨h.1 p hp,h.2.1 p hp⟩,h.2.2⟩
  have hperm := sortedByKey_perm effective
  cases hresult : buildRoutingGenerationFromPlugins effective number with
  | ok gen =>
    rw [hresult] at hadds
    obtain ⟨hok,hindexes,hplugins⟩ := hadds
    exact ⟨(hfits.mpr ⟨hok,by simpa using hindexes.apart⟩).perm LoadedPlugin.compatible_symm hperm,by simpa using hplugins⟩
  | error e =>
    rw [hresult] at hadds
    intro h
    exact hadds (by simpa using hfits.mp (h.perm LoadedPlugin.compatible_symm hperm.symm))

end NewApi.Plugins
