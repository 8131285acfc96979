import NewApi.Plugins.Generations

/-! The reload of the plugins (`buildRoutingGenerationAdmitting` in `pkg/jsplugin/routing.go`): the candidates are tried one
after another, plugins that did not change first, and the incumbents of rejected updates last. -/
namespace NewApi.Plugins
open List Option Keyed Admission
open RoutingClaim (Apart apart_symm clash)
open LoadedPlugin (Compatible claims compatible_symm)

structure PluginMap where
  entries : List LoadedPlugin
  unique : Unique LoadedPlugin.key entries

def effectivePlugins (factory override : PluginMap) : List LoadedPlugin :=
  factory.entries.filter (fun plugin => (Keyed.lookup LoadedPlugin.key plugin.key override.entries).isNone)++override.entries

def buildRoutingGeneration (factory override : PluginMap) (number : Nat) : Except String RoutingGeneration :=
  buildRoutingGenerationFromPlugins (effectivePlugins factory override) number

/-- The variables of the two loops of `buildRoutingGenerationAdmitting`. -/
structure Trial where
  accepted : List LoadedPlugin := []
  generation : RoutingGeneration
  routingErrors : List (String×String) := []
  rejected : List LoadedPlugin := []

def tryCandidate (number : Nat) (t : Trial) (candidate : LoadedPlugin) : Trial :=
  match buildRoutingGenerationFromPlugins (t.accepted++[candidate]) number with
  | .ok trial => { t with accepted := t.accepted++[candidate], generation := trial }
  | .error trialErr =>
    { t with
      routingErrors := t.routingErrors ++
        [(candidate.key,"plugin " ++ candidate.key++" rejected from routing generation: " ++ trialErr)]
      rejected := t.rejected++[candidate] }

def tryIncumbent (number : Nat) (t : Trial) (incumbent : LoadedPlugin) : Trial :=
  match buildRoutingGenerationFromPlugins (t.accepted++[incumbent]) number with
  | .ok fallback => { t with accepted := t.accepted++[incumbent], generation := fallback }
  | .error _ => t

def serving (current : Option RoutingGeneration) : List LoadedPlugin := (current.map RoutingGeneration.plugins).getD []

section Reload
variable (current : Option RoutingGeneration) (retainCurrent : List String)

def currentByKey (key : String) : Option LoadedPlugin := Keyed.lookup LoadedPlugin.key key (serving current)

def orderedCandidates (candidates : List LoadedPlugin) : List LoadedPlugin :=
  let unchanged := candidates.filter fun candidate => currentByKey current candidate.key=some candidate
  let changed := candidates.filter fun candidate =>
    (currentByKey current candidate.key).isSome && currentByKey current candidate.key≠some candidate
  let new := candidates.filter fun candidate => (currentByKey current candidate.key).isNone
  sortedByKey unchanged++(sortedByKey changed++sortedByKey new)

def retainedIncumbent (candidate : LoadedPlugin) : Option LoadedPlugin :=
  (currentByKey current candidate.key).filter fun incumbent => candidate.key∈retainCurrent && incumbent≠candidate

def buildRoutingGenerationAdmitting (factory override : PluginMap) (number : Nat) :
    Except String (RoutingGeneration×List (String×String)) :=
  match buildRoutingGenerationFromPlugins [] number with
  | .error err => .error ("initialize routing generation: " ++ err)
  | .ok generation =>
    let tried := (orderedCandidates current (effectivePlugins factory override)).foldl (tryCandidate number)
      { generation := generation }
    let ended := (tried.rejected.filterMap (retainedIncumbent current retainCurrent)).foldl (tryIncumbent number) tried
    .ok ({ ended.generation with retainCurrent := retainCurrent },ended.routingErrors)

end Reload

inductive Reached : Option RoutingGeneration → Prop
  | start : Reached none
  | rebuild (factory override : PluginMap) (number : Nat) {gen : RoutingGeneration}
      (h : buildRoutingGeneration factory override number=.ok gen) : Reached (some gen)
  | reload {current : Option RoutingGeneration} (hcurrent : Reached current) (retainCurrent : List String)
      (factory override : PluginMap) (number : Nat) {gen : RoutingGeneration} {errors : List (String×String)}
      (h : buildRoutingGenerationAdmitting current retainCurrent factory override number=.ok (gen,errors)) :
      Reached (some gen)

/-- One plugin for each channel type and for each method and route shape, one spelling of each model, one protocol for each
endpoint and model. -/
structure ConflictFree (gen : RoutingGeneration) : Prop where
  channelType : ∀ p∈gen.plugins, ∀ q∈gen.plugins, ∀ type, type≠0 → type≠channelTypeTaskPlugin →
    type∈p.channelTypes → type∈q.channelTypes → p=q
  route : ∀ p∈gen.plugins, ∀ q∈gen.plugins, ∀ r∈p.routes, ∀ r'∈q.routes, r.method=r'.method →
    routePathShape r.path=routePathShape r'.path → p=q
  model : ∀ p∈gen.plugins, ∀ q∈gen.plugins, ∀ m∈p.models, ∀ m'∈q.models, asciiFold m=asciiFold m' → m=m'
  protocol : ∀ p∈gen.plugins, ∀ q∈gen.plugins, ∀ c∈p.protocols, ∀ c'∈q.protocols,
    ∀ operation∈(hostProtocol c.name).operations, ∀ operation'∈(hostProtocol c'.name).operations,
    operation.modelField≠"" → operation'.modelField≠"" → operation.path=operation'.path →
    ∀ method∈operation.methods, method∈operation'.methods →
    ∀ model∈boundModels p c, model∈boundModels q c' → c.name=c'.name

abbrev FitsTogether : List LoadedPlugin → Prop := Fits LoadedPlugin.Sound Compatible

def builds (number : Nat) (plugins : List LoadedPlugin) : Bool := (buildRoutingGenerationFromPlugins plugins number).isOk

theorem builds_iff (number : Nat) (plugins : List LoadedPlugin) : builds number plugins=true ↔ FitsTogether plugins := by
  have h := build_spec plugins number
  rw [builds]
  cases hresult : buildRoutingGenerationFromPlugins plugins number with
  | ok gen =>
    rw [hresult] at h
    exact ⟨fun _ => h.1,fun _ => rfl⟩
  | error e =>
    rw [hresult] at h
    exact ⟨nofun,fun hfits => absurd hfits h⟩

theorem builds_ok {number : Nat} {plugins : List LoadedPlugin} {gen : RoutingGeneration}
    (h : buildRoutingGenerationFromPlugins plugins number=.ok gen) :
    FitsTogether plugins ∧ gen.plugins=sortedByKey plugins := by
  have hspec := build_spec plugins number
  rwa [h] at hspec

theorem mem_claims_of_model {p : LoadedPlugin} {m : String} (h : m∈p.models) : .model m∈p.claims := by
  simp [claims,h]

theorem mem_claims_of_channelType {p : LoadedPlugin} {t : Int} (h : t∈p.channelTypes) (hzero : t≠0)
    (htask : t≠channelTypeTaskPlugin) : .channelType t∈p.claims := by
  refine mem_append_right _ (mem_append_left _ (mem_flatMap.mpr ⟨t,h,?_⟩))
  rw [channelTypeClaims,if_neg (by simp [hzero,htask])]
  exact mem_singleton.mpr rfl

theorem mem_claims_of_route {p : LoadedPlugin} {r : Route} {key : String} (h : r∈p.routes) (hkey : routeKey r=.ok key) :
    .route key∈p.claims := by
  refine mem_append_right _ (mem_append_right _ (mem_append_left _ (mem_flatMap.mpr ⟨r,h,?_⟩)))
  rw [routeClaims,hkey]
  exact mem_singleton.mpr rfl

theorem mem_claims_of_protocol {p : LoadedPlugin} {c : ProtocolClaim} {operation : HostProtocolOperation}
    {method model : String} (hc : c∈p.protocols) (hoperation : operation∈(hostProtocol c.name).operations)
    (hfield : operation.modelField≠"") (hmethod : method∈operation.methods) (hmodel : model∈boundModels p c) :
    .endpoint (endpointIndexKey method operation.path model) c.name∈p.claims := by
  refine mem_append_right _ (mem_append_right _ (mem_append_right _ (mem_flatMap.mpr ⟨c,hc,?_⟩)))
  refine mem_flatMap.mpr ⟨operation,hoperation,?_⟩
  rw [operationClaims,if_neg hfield]
  exact mem_flatMap.mpr ⟨method,hmethod,mem_flatMap.mpr ⟨model,hmodel,mem_singleton.mpr rfl⟩⟩

instance : Std.Symm Apart := ⟨fun _ _ => apart_symm⟩

instance : Std.Symm Compatible := ⟨fun _ _ => compatible_symm⟩

theorem FitsTogether.conflictFree {gen : RoutingGeneration} (h : FitsTogether gen.plugins) : ConflictFree gen := by
  have hapart : ∀ p∈gen.plugins, ∀ q∈gen.plugins, ∀ a∈p.claims, ∀ b∈q.claims, a≠b → a.Apart b := by
    have hall : (gen.plugins.flatMap claims).Pairwise Apart :=
      (pairwise_claims _).mpr ⟨fun p hp => (h.good p hp).2,h.together⟩
    intro p hp q hq a ha b hb hne
    exact hall.forall (mem_flatMap.mpr ⟨p,hp,ha⟩) (mem_flatMap.mpr ⟨q,hq,hb⟩) hne
  have hcompatible : ∀ p∈gen.plugins, ∀ q∈gen.plugins, p≠q → p.Compatible q := fun p hp q hq hne =>
    h.together.forall hp hq hne
  constructor
  · intro p hp q hq t hzero htask hpt hqt
    by_contra hne
    have := hcompatible p hp q hq hne _ (mem_claims_of_channelType hpt hzero htask) _ (mem_claims_of_channelType hqt hzero htask)
    simp [Apart,clash] at this
  · intro p hp q hq r hr r' hr' hmethod hshape
    by_contra hne
    have hkeys : routeKey r=routeKey r' := by rw [routeKey,routeKey,hmethod,hshape]
    obtain ⟨key,hkey⟩ : ∃ key, routeKey r=.ok key := by
      have hok := (h.good p hp).1 r hr
      cases hresult : routeKey r with
      | ok key => exact ⟨key,rfl⟩
      | error e => rw [hresult] at hok; cases hok
    have := hcompatible p hp q hq hne _ (mem_claims_of_route hr hkey) _ (mem_claims_of_route hr' (hkeys ▸ hkey))
    simp [Apart,clash] at this
  · intro p hp q hq m hm m' hm' hfold
    by_contra hne
    have := hapart p hp q hq _ (mem_claims_of_model hm) _ (mem_claims_of_model hm') (by simpa using hne)
    simp [Apart,clash,hfold,hne] at this
  · intro p hp q hq c hc c' hc' o ho o' ho' hfield hfield' hpath method hmethod hmethod' model hmodel hmodel'
    by_contra hne
    have hfirst := mem_claims_of_protocol hc ho hfield hmethod hmodel
    have hsecond := mem_claims_of_protocol hc' ho' hfield' hmethod' hmodel'
    rw [← hpath] at hsecond
    have := hapart p hp q hq _ hfirst _ hsecond (by simp [hne])
    simp [Apart,clash,hne] at this

/-- What a loop over plugins leaves: the plugins that were taken, and the generation built from them. -/
structure Trial.Built (number : Nat) (t : Trial) : Prop where
  built : buildRoutingGenerationFromPlugins t.accepted number=.ok t.generation

theorem Trial.Built.fits {number : Nat} {t : Trial} (h : t.Built number) : FitsTogether t.accepted := (builds_ok h.built).1

theorem Trial.Built.plugins {number : Nat} {t : Trial} (h : t.Built number) {p : LoadedPlugin} :
    p∈t.generation.plugins ↔ p∈t.accepted := by
  rw [(builds_ok h.built).2]
  exact (sortedByKey_perm t.accepted).mem_iff

theorem tryCandidate_spec {number : Nat} (candidates : List LoadedPlugin) {t : Trial} (h : t.Built number) :
    let ended := candidates.foldl (tryCandidate number) t
    ended.Built number ∧ ended.accepted=Admission.take (builds number) t.accepted candidates ∧
      (ended.accepted++ended.rejected).Perm ((t.accepted++t.rejected)++candidates) := by
  induction candidates generalizing t with
  | nil => exact ⟨h,rfl,by simp⟩
  | cons candidate rest ih =>
    rw [foldl_cons,Admission.take,builds,tryCandidate]
    cases hresult : buildRoutingGenerationFromPlugins (t.accepted++[candidate]) number with
    | ok trial =>
      obtain ⟨hbuilt,haccepted,hperm⟩ := ih (t := { t with accepted := t.accepted++[candidate], generation := trial }) ⟨hresult⟩
      refine ⟨hbuilt,haccepted,hperm.trans ?_⟩
      simp only [append_assoc]
      exact List.Perm.append_left _ (by simpa using perm_middle.symm)
    | error e =>
      obtain ⟨hbuilt,haccepted,hperm⟩ := ih (t := { t with
        routingErrors := t.routingErrors ++
          [(candidate.key,"plugin " ++ candidate.key++" rejected from routing generation: " ++ e)]
        rejected := t.rejected++[candidate] }) ⟨h.built⟩
      refine ⟨hbuilt,haccepted,hperm.trans ?_⟩
      simp

theorem tryIncumbent_spec {number : Nat} (incumbents : List LoadedPlugin) {t : Trial} (h : t.Built number) :
    let ended := incumbents.foldl (tryIncumbent number) t
    ended.Built number ∧ ended.accepted=Admission.take (builds number) t.accepted incumbents := by
  induction incumbents generalizing t with
  | nil => exact ⟨h,rfl⟩
  | cons incumbent rest ih =>
    rw [foldl_cons,Admission.take,builds,tryIncumbent]
    cases hresult : buildRoutingGenerationFromPlugins (t.accepted++[incumbent]) number with
    | ok fallback => exact ih (t := { t with accepted := t.accepted++[incumbent], generation := fallback }) ⟨hresult⟩
    | error e => exact ih h

theorem effectivePlugins_unique (factory override : PluginMap) :
    Unique LoadedPlugin.key (effectivePlugins factory override) := by
  rw [Keyed.Unique,effectivePlugins,map_append]
  refine nodup_append.mpr ⟨factory.unique.filter _,override.unique,?_⟩
  intro key hfactory key' hoverride
  rintro rfl
  obtain ⟨p,hp,rfl⟩ := List.mem_map.mp hfactory
  obtain ⟨q,hq,hkey⟩ := List.mem_map.mp hoverride
  have hnone := (mem_filter.mp hp).2
  rw [isNone_iff_eq_none,lookup_eq_none] at hnone
  exact hnone q hq hkey

theorem orderedCandidates_perm (current : Option RoutingGeneration) (candidates : List LoadedPlugin) :
    (orderedCandidates current candidates).Perm candidates := by
  have hchanged : candidates.filter (fun c => (currentByKey current c.key).isSome && currentByKey current c.key≠some c) =
      (candidates.filter fun c => !decide (currentByKey current c.key=some c)).filter
        fun c => (currentByKey current c.key).isSome := by
    rw [List.filter_filter]
    exact filter_congr fun c _ => by simp
  have hnew : candidates.filter (fun c => (currentByKey current c.key).isNone) =
      (candidates.filter fun c => !decide (currentByKey current c.key=some c)).filter
        fun c => !(currentByKey current c.key).isSome := by
    rw [List.filter_filter]
    refine filter_congr fun c _ => ?_
    cases currentByKey current c.key <;> simp
  refine ((sortedByKey_perm _).append ((sortedByKey_perm _).append (sortedByKey_perm _))).trans ?_
  rw [hchanged,hnew]
  exact (List.Perm.append_left _ (filter_append_perm _ _)).trans (filter_append_perm _ candidates)

structure Serves (plugins : List LoadedPlugin) : Prop where
  fits : FitsTogether plugins
  unique : Unique LoadedPlugin.key plugins

theorem Serves.byKey {plugins : List LoadedPlugin} (h : Serves plugins) {p : LoadedPlugin} (hp : p∈plugins) :
    Keyed.lookup LoadedPlugin.key p.key plugins=some p := lookup_of_mem h.unique hp

theorem retainedIncumbent_some {current : Option RoutingGeneration} {retainCurrent : List String} {c incumbent : LoadedPlugin}
    (h : retainedIncumbent current retainCurrent c=some incumbent) : incumbent∈serving current ∧ incumbent.key=c.key :=
  lookup_some (filter_eq_some_iff.mp h).1

section Admitting
variable {current : Option RoutingGeneration} (hserves : Serves (serving current)) (retainCurrent : List String)
  (factory override : PluginMap) (number : Nat)

def admitted (current : Option RoutingGeneration) (factory override : PluginMap) (number : Nat) : List LoadedPlugin :=
  Admission.take (builds number) [] (orderedCandidates current (effectivePlugins factory override))

theorem admitted_subset {p : LoadedPlugin} (h : p∈admitted current factory override number) :
    p∈effectivePlugins factory override :=
  (orderedCandidates_perm current _).mem_iff.mp (by simpa using mem_take h)

theorem mem_admitted {p : LoadedPlugin} : p∈admitted current factory override number ↔
    Stands LoadedPlugin.Sound Compatible (orderedCandidates current (effectivePlugins factory override)) p := by
  refine mem_take_iff (builds_iff number) ?_
  rw [(orderedCandidates_perm current _).nodup_iff]
  exact (effectivePlugins_unique factory override).of_map _

include hserves in
theorem unchanged_admitted {p : LoadedPlugin} (hp : p∈serving current) (hcandidate : p∈effectivePlugins factory override) :
    p∈admitted current factory override number := by
  have hsame : currentByKey current p.key=some p := hserves.byKey hp
  generalize hall : effectivePlugins factory override=candidates at hcandidate
  have hunchanged : FitsTogether (sortedByKey (candidates.filter fun c => decide (currentByKey current c.key=some c))) := by
    refine hserves.fits.subset compatible_symm ?_ ?_
    · rw [(sortedByKey_perm _).nodup_iff]
      exact ((hall ▸ effectivePlugins_unique factory override).of_map _).filter _
    · intro q hq
      have hq := (mem_filter.mp ((sortedByKey_perm _).mem_iff.mp hq)).2
      exact (lookup_some (of_decide_eq_true hq)).1
  rw [admitted,hall,orderedCandidates,Admission.take_append]
  refine (sublist_take _ _).subset ?_
  rw [take_all (builds_iff number) (by rwa [nil_append]),nil_append,(sortedByKey_perm _).mem_iff]
  exact mem_filter.mpr ⟨hcandidate,decide_eq_true hsame⟩

theorem admitting_spec : ∃ gen errors fallbacks,
    buildRoutingGenerationAdmitting current retainCurrent factory override number=.ok (gen,errors) ∧
    (∀ c∈effectivePlugins factory override, c∉admitted current factory override number → ∀ incumbent,
      retainedIncumbent current retainCurrent c=some incumbent → incumbent∈fallbacks) ∧
    (∀ incumbent∈fallbacks, incumbent∈serving current) ∧
    (∀ p, p∈gen.plugins ↔ p∈Admission.take (builds number) (admitted current factory override number) fallbacks) ∧
    Serves gen.plugins := by
  have hempty : ∃ generation, buildRoutingGenerationFromPlugins [] number=.ok generation := by
    have h := build_spec [] number
    cases hresult : buildRoutingGenerationFromPlugins [] number with
    | ok generation => exact ⟨generation,rfl⟩
    | error e =>
      rw [hresult] at h
      exact absurd Fits.nil h
  obtain ⟨generation,hgeneration⟩ := hempty
  have hstart : Trial.Built number { generation := generation } := ⟨hgeneration⟩
  have htried := tryCandidate_spec (orderedCandidates current (effectivePlugins factory override)) hstart
  generalize htrial : (orderedCandidates current (effectivePlugins factory override)).foldl (tryCandidate number)
    { generation := generation }=tried at htried
  obtain ⟨hbuilt,haccepted,hperm⟩ := htried
  change tried.accepted=admitted current factory override number at haccepted
  have hended := tryIncumbent_spec (tried.rejected.filterMap (retainedIncumbent current retainCurrent)) hbuilt
  generalize hfallback : (tried.rejected.filterMap (retainedIncumbent current retainCurrent)).foldl (tryIncumbent number)
    tried=ended at hended
  obtain ⟨hbuilt',haccepted'⟩ := hended
  have hcandidates : (tried.accepted++tried.rejected).Perm (effectivePlugins factory override) :=
    hperm.trans (by simpa using orderedCandidates_perm current _)
  refine ⟨{ ended.generation with retainCurrent := retainCurrent },ended.routingErrors,
    tried.rejected.filterMap (retainedIncumbent current retainCurrent),?_,?_,?_,?_,?_⟩
  · rw [buildRoutingGenerationAdmitting,hgeneration]
    simp only [htrial,hfallback]
  · intro c hc hnot incumbent hincumbent
    refine mem_filterMap.mpr ⟨c,?_,hincumbent⟩
    rcases mem_append.mp (hcandidates.mem_iff.mpr hc) with h | h
    · exact absurd (haccepted ▸ h) hnot
    · exact h
  · intro incumbent hincumbent
    obtain ⟨c,-,hc⟩ := mem_filterMap.mp hincumbent
    exact (retainedIncumbent_some hc).1
  · intro p
    rw [← haccepted,← haccepted']
    exact hbuilt'.plugins
  · refine ⟨?_,?_⟩
    · show FitsTogether ended.generation.plugins
      rw [(builds_ok hbuilt'.built).2]
      exact hbuilt'.fits.perm compatible_symm (sortedByKey_perm _).symm
    · show Unique LoadedPlugin.key ended.generation.plugins
      rw [(builds_ok hbuilt'.built).2,Keyed.Unique,((sortedByKey_perm _).map LoadedPlugin.key).nodup_iff,haccepted']
      refine List.Nodup.sublist ((Admission.take_sublist _ _).map LoadedPlugin.key) ?_
      have hkeys : ((tried.accepted++tried.rejected).map LoadedPlugin.key).Nodup :=
        (hcandidates.map LoadedPlugin.key).nodup_iff.mpr (effectivePlugins_unique factory override)
      refine List.Nodup.sublist ?_ hkeys
      rw [map_append,map_append]
      refine List.Sublist.append_left ?_ _
      exact filterMap_key_sublist (fun c incumbent h => (retainedIncumbent_some h).2) _

end Admitting

theorem Reached.serves {current : Option RoutingGeneration} (h : Reached current) : Serves (serving current) := by
  induction h with
  | start => exact ⟨Fits.nil,nodup_nil⟩
  | rebuild factory override number hbuild =>
    obtain ⟨hfits,hplugins⟩ := builds_ok hbuild
    have hperm := sortedByKey_perm (effectivePlugins factory override)
    refine ⟨?_,?_⟩
    · show FitsTogether _
      rw [serving,map_some,getD_some,hplugins]
      exact hfits.perm compatible_symm hperm.symm
    · rw [serving,map_some,getD_some,hplugins,Keyed.Unique,(hperm.map LoadedPlugin.key).nodup_iff]
      exact effectivePlugins_unique factory override
  | reload _ retainCurrent factory override number hbuild ih =>
    obtain ⟨gen',errors',-,hgen',-,-,-,hserves⟩ := admitting_spec retainCurrent factory override number
    rw [hbuild,Except.ok.injEq,Prod.mk.injEq] at hgen'
    rw [serving,map_some,getD_some,hgen'.1]
    exact hserves

/-- An incumbent whose update cannot be admitted goes with every candidate that can be. The candidates that can be admitted
are those that are sound and go with all that can be admitted before them. -/
def IncumbentsFit (current : Option RoutingGeneration) (retainCurrent : List String) (factory override : PluginMap) : Prop :=
  let stands := Stands LoadedPlugin.Sound Compatible (orderedCandidates current (effectivePlugins factory override))
  ∀ incumbent∈serving current, ∀ candidate∈effectivePlugins factory override, candidate.key=incumbent.key →
    incumbent.key∈retainCurrent → ¬stands candidate → ∀ peer, stands peer → peer.Compatible incumbent

/-- A reload succeeds without conflicts and keeps what did not change; each retained key is served by its candidate or
its incumbent exactly when no candidate that can be admitted takes what the incumbent of a refused update holds. -/
theorem hot_reload_keeps_serving_iff {current : Option RoutingGeneration} (hcurrent : Reached current)
    (retainCurrent : List String) (factory override : PluginMap) (number : Nat) : ∃ gen errors,
    buildRoutingGenerationAdmitting current retainCurrent factory override number=.ok (gen,errors) ∧ ConflictFree gen ∧
    (∀ plugin∈serving current, plugin∈effectivePlugins factory override → gen.byKey plugin.key=some plugin) ∧
    ((∀ incumbent∈serving current, ∀ candidate∈effectivePlugins factory override, candidate.key=incumbent.key →
      incumbent.key∈retainCurrent → gen.byKey incumbent.key=some candidate ∨ gen.byKey incumbent.key=some incumbent) ↔
      IncumbentsFit current retainCurrent factory override) := by
  have hserves := hcurrent.serves
  obtain ⟨gen,errors,fallbacks,hgen,hfallback,hincumbents,hplugins,hnext⟩ :=
    admitting_spec retainCurrent factory override number
  have hadmitted : ∀ p∈admitted current factory override number, p∈gen.plugins := fun p hp =>
    (hplugins p).mpr ((sublist_take _ _).subset hp)
  have hunchanged : ∀ incumbent∈serving current, ∀ candidate∈effectivePlugins factory override,
      candidate∉admitted current factory override number → incumbent≠candidate := by
    rintro incumbent hincumbent _ hcandidate hrefused rfl
    exact hrefused (unchanged_admitted hserves factory override number hincumbent hcandidate)
  have hunique := effectivePlugins_unique factory override
  have hsame : ∀ p∈effectivePlugins factory override, ∀ q∈effectivePlugins factory override, p.key=q.key → p=q := by
    intro p hp q hq hkey
    have hlookup := lookup_of_mem hunique hp
    rw [hkey,lookup_of_mem hunique hq] at hlookup
    exact (some.inj hlookup).symm
  refine ⟨gen,errors,hgen,FitsTogether.conflictFree hnext.fits,?_,?_⟩
  · intro plugin hplugin hcandidate
    exact hnext.byKey (hadmitted plugin (unchanged_admitted hserves factory override number hplugin hcandidate))
  simp only [IncumbentsFit,← mem_admitted factory override number]
  constructor
  · intro hkept incumbent hincumbent candidate hcandidate hkey hretain hrefused peer hpeer
    have hne := hunchanged incumbent hincumbent candidate hcandidate hrefused
    have hcandidateOut : gen.byKey incumbent.key≠some candidate := by
      intro hserved
      obtain h | h := mem_take ((hplugins candidate).mp (lookup_some hserved).1)
      · exact hrefused h
      · have hold := hserves.byKey (hincumbents candidate h)
        rw [hkey,hserves.byKey hincumbent] at hold
        exact hne (some.inj hold)
    have hback := (hkept incumbent hincumbent candidate hcandidate hkey hretain).resolve_left hcandidateOut
    refine hnext.fits.together.forall (hadmitted peer hpeer) (lookup_some hback).1 ?_
    rintro rfl
    exact hne (hsame peer (admitted_subset factory override number hpeer) candidate hcandidate hkey.symm)
  · intro hfit incumbent hincumbent candidate hcandidate hkey hretain
    by_cases htaken : candidate∈admitted current factory override number
    · left
      rw [← hkey]
      exact hnext.byKey (hadmitted candidate htaken)
    right
    by_contra hout
    have hretained : retainedIncumbent current retainCurrent candidate=some incumbent := by
      have hold : currentByKey current candidate.key=some incumbent := hkey ▸ hserves.byKey hincumbent
      rw [retainedIncumbent,hold,hkey]
      simp [hretain,hunchanged incumbent hincumbent candidate hcandidate htaken]
    -- the incumbent is tried again; it goes with the candidates that were taken and with what served beside it
    have hfits : FitsTogether (admitted current factory override number) := take_fits (builds_iff number) Fits.nil _
    obtain ⟨peer,hpeer,hclash⟩ := not_taken (builds_iff number) hfits (hfallback candidate hcandidate htaken incumbent hretained)
      (hserves.fits.good incumbent hincumbent) (fun h => hout (hnext.byKey ((hplugins incumbent).mpr h)))
    obtain h | h := mem_take hpeer
    · exact hclash (hfit incumbent hincumbent candidate hcandidate hkey hretain htaken peer h)
    · refine hclash (hserves.fits.together.forall (hincumbents peer h) hincumbent ?_)
      rintro rfl
      exact hout (hnext.byKey ((hplugins peer).mpr hpeer))

def servingPlugin (key : String) (loaded : Nat) (channelType : Int) : LoadedPlugin :=
  { key := key, loaded := loaded, channelTypes := [channelType] }

def noPlugins : PluginMap where
  entries := []
  unique := nodup_nil

def firstPlugins : PluginMap where
  entries := [servingPlugin "alpha" 1 111,servingPlugin "owner" 1 113]
  unique := by
    rw [Keyed.Unique]
    decide

def updatedPlugins : PluginMap where
  entries := [servingPlugin "alpha" 2 113,servingPlugin "owner" 1 113]
  unique := by
    rw [Keyed.Unique]
    decide

def joinedPlugins : PluginMap where
  entries := [servingPlugin "alpha" 2 113,servingPlugin "gamma" 1 111,servingPlugin "owner" 1 113]
  unique := by
    rw [Keyed.Unique]
    decide

def firstGeneration : RoutingGeneration :=
  ((buildRoutingGenerationAdmitting none ["alpha", "owner"] noPlugins firstPlugins 1).toOption.map Prod.fst).getD
    { number := 0 }

theorem reached_firstGeneration : Reached (some firstGeneration) :=
  .reload .start ["alpha", "owner"] noPlugins firstPlugins 1
    (show buildRoutingGenerationAdmitting none ["alpha", "owner"] noPlugins firstPlugins 1 =
      .ok (firstGeneration,[]) by decide +kernel)

theorem incumbents_fit_updated : IncumbentsFit (some firstGeneration) ["alpha", "owner"] noPlugins updatedPlugins := by
  have hadmitted : admitted (some firstGeneration) noPlugins updatedPlugins 2=[servingPlugin "owner" 1 113] := by
    decide +kernel
  have hserving : serving (some firstGeneration)=[servingPlugin "alpha" 1 111,servingPlugin "owner" 1 113] := by
    decide +kernel
  have hcandidates : effectivePlugins noPlugins updatedPlugins=[servingPlugin "alpha" 2 113,servingPlugin "owner" 1 113] := by
    decide +kernel
  have hapart : LoadedPlugin.Compatible (servingPlugin "owner" 1 113) (servingPlugin "alpha" 1 111) := by
    decide +kernel
  intro incumbent hincumbent candidate hcandidate hkey _ hrefused peer hpeer
  rw [hserving] at hincumbent
  rw [hcandidates] at hcandidate
  have hpeer := (mem_admitted noPlugins updatedPlugins 2).mpr hpeer
  have hrefused := fun h => hrefused ((mem_admitted noPlugins updatedPlugins 2).mp h)
  rw [hadmitted,mem_singleton] at hpeer hrefused
  subst hpeer
  obtain rfl | hincumbent := mem_cons.mp hincumbent
  · exact hapart
  rw [mem_singleton.mp hincumbent] at hkey
  obtain rfl | hcandidate := mem_cons.mp hcandidate
  · exact absurd hkey (by decide)
  · exact absurd (mem_singleton.mp hcandidate) hrefused

theorem refused_update_keeps_alpha : ∃ gen errors,
    buildRoutingGenerationAdmitting (some firstGeneration) ["alpha", "owner"] noPlugins updatedPlugins 2=.ok (gen,errors) ∧
      (gen.byKey "alpha" = some (servingPlugin "alpha" 2 113) ∨ gen.byKey "alpha" = some (servingPlugin "alpha" 1 111)) := by
  obtain ⟨gen,errors,hgen,-,-,hkept⟩ :=
    hot_reload_keeps_serving_iff reached_firstGeneration ["alpha", "owner"] noPlugins updatedPlugins 2
  exact ⟨gen,errors,hgen,hkept.mpr incumbents_fit_updated (servingPlugin "alpha" 1 111) (by decide +kernel)
    (servingPlugin "alpha" 2 113) (by decide +kernel) rfl (by decide)⟩

theorem new_plugin_displaces_alpha : ∃ gen errors, Reached (some firstGeneration) ∧
    buildRoutingGenerationAdmitting (some firstGeneration) ["alpha", "owner"] noPlugins joinedPlugins 2 =
      .ok (gen,errors) ∧ firstGeneration.byKey "alpha" = some (servingPlugin "alpha" 1 111) ∧
    servingPlugin "alpha" 2 113∈effectivePlugins noPlugins joinedPlugins ∧ gen.byKey "alpha" = none ∧
    firstGeneration.byKey "gamma" = none ∧ gen.byKey "gamma" = some (servingPlugin "gamma" 1 111) :=
  ⟨_,_,reached_firstGeneration,by rfl,by decide +kernel,by decide +kernel,by decide +kernel,by decide +kernel,
    by decide +kernel⟩

end NewApi.Plugins
