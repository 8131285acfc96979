import NewApi.Channels.Abilities

/-! The table of abilities as a projection of the table of channels, over any sequence of operations. -/
namespace NewApi.Channels
open Option GoStrings Groups Keyed Runs AbilityTable

section Projection
variable {dir : Directory} {db : ChannelDatabase} {table : AbilityTable} {channel : Channel} {key : AbilityKey}

def Channel.projected (channel : Channel) (key : AbilityKey) : Option Ability :=
  if key.group∈split channel.group ∧ key.model∈split channel.models then some channel.ability else none

def projected (channels : List Channel) (key : AbilityKey) : Option Ability :=
  (lookup (·.id) key.channelId channels).bind fun channel => channel.projected key

structure Projects (db : ChannelDatabase) : Prop where
  unique : Unique (·.id) db.channels
  abilities : ∀ key, db.abilities key=projected db.channels key

/-- No two pairs of a group and a model have the same text `group|model`. -/
def Separate (group models : String) : Prop :=
  ∀ g∈split group, ∀ m∈split models, ∀ g'∈split group, ∀ m'∈split models, g++"|" ++ m=g'++"|" ++ m' → g=g' ∧ m=m'

instance (group models : String) : Decidable (Separate group models) := by
  unfold Separate
  infer_instance

variable {group usingKey reason : String}

theorem mem_abilityRows {models : String} (h : Separate group models) (g m : String) :
    (g,m)∈abilityRows group models ↔ g∈split group ∧ m∈split models := by
  have hpair : ∀ row : String×String, row∈((split models).flatMap fun model => (split group).map fun code => (code,model)) ↔
      row.1∈split group ∧ row.2∈split models := by
    intro row
    simp only [List.mem_flatMap,List.mem_map]
    constructor
    · rintro ⟨model,hmodel,code,hcode,rfl⟩
      exact ⟨hcode,hmodel⟩
    · rintro ⟨hcode,hmodel⟩
      exact ⟨row.2,hmodel,row.1,hcode,rfl⟩
  rw [abilityRows,mem_firsts,hpair]
  · exact and_iff_left List.not_mem_nil
  intro a ha b hb hab
  rw [hpair] at ha hb
  obtain ⟨hfst,hsnd⟩ := h a.1 ha.1 a.2 ha.2 b.1 hb.1 b.2 hb.2 hab
  exact Prod.ext hfst hsnd

theorem updateAbilities_apply (table : AbilityTable) (channel : Channel) (group : String) (key : AbilityKey) :
    table.updateAbilities channel group key = if key.channelId=channel.id then
        if (key.group,key.model)∈abilityRows group channel.models then some channel.ability else none else table key := by
  unfold updateAbilities addAbilities deleteAbilities
  by_cases hid : key.channelId=channel.id
  · simp only [hid,if_true,true_and]
  simp only [hid,if_false,false_and]
  cases table key <;> rfl

theorem updateAbilities_projected (hgroup : ∀ code, code∈split group ↔ code∈split channel.group)
    (h : Separate group channel.models) (table : AbilityTable) (key : AbilityKey) :
    table.updateAbilities channel group key = if key.channelId=channel.id then channel.projected key else table key := by
  rw [updateAbilities_apply]
  simp only [mem_abilityRows h,hgroup,Channel.projected]

theorem projected_concat (hnew : lookup (·.id) channel.id db.channels=none) (key : AbilityKey) :
    projected (db.channels++[channel]) key =
      if key.channelId=channel.id then channel.projected key else projected db.channels key := by
  unfold projected
  rw [lookup_append,lookup_cons,lookup_nil]
  by_cases hid : key.channelId=channel.id
  · rw [hid,hnew,if_pos rfl,if_pos rfl]
    rfl
  · rw [if_neg (Ne.symm hid),if_neg hid,or_none]

theorem projected_modify {channelId : Nat} (hold : (lookup (·.id) channelId db.channels).isSome) (hid : channel.id=channelId)
    (key : AbilityKey) : projected (modify (·.id) channelId (fun _ => channel) db.channels) key =
      if key.channelId=channelId then channel.projected key else projected db.channels key := by
  unfold projected
  rw [lookup_modify_of _ _ _ _ fun _ _ => hid]
  by_cases hkey : key.channelId=channelId
  · obtain ⟨old,hold⟩ := isSome_iff_exists.mp hold
    rw [if_pos hkey,if_pos hkey,hold]
    rfl
  · rw [if_neg hkey,if_neg hkey]

theorem projected_map {f : Channel → Channel} (hid : ∀ c, (f c).id=c.id) (key : AbilityKey) :
    projected (db.channels.map f) key=(lookup (·.id) key.channelId db.channels).bind fun c => (f c).projected key := by
  rw [projected,lookup_map _ _ _ hid,bind_map]
  rfl

theorem Projects.updateByTag {tag : String} {set : Channel → Channel} {upd : Ability → Ability} (h : Projects db)
    (hid : ∀ c, (set c).id=c.id) (hset : ∀ c∈db.channels, c.tag=some tag →
      (set c).group=c.group ∧ (set c).models=c.models ∧ (set c).ability=upd c.ability) :
    Projects { db with channels := db.updateChannels tag set
                       abilities := db.abilities.updateWhere (fun _ row => row.tag=some tag) upd } := by
  have hids : ∀ c : Channel, (if c.tag=some tag then set c else c).id=c.id := by
    intro c
    split
    · exact hid c
    · rfl
  constructor
  · simpa only [Keyed.Unique,ChannelDatabase.updateChannels,List.map_map,Function.comp_def,hids] using h.unique
  intro key
  simp only [ChannelDatabase.updateChannels,projected_map hids,updateWhere,h.abilities key]
  rw [projected]
  cases hlook : lookup (·.id) key.channelId db.channels with
  | none => rfl
  | some c =>
    simp only [bind_some,Channel.projected]
    by_cases htag : c.tag=some tag
    · obtain ⟨hgroup,hmodels,hability⟩ := hset c (lookup_some hlook).1 htag
      rw [if_pos htag,hgroup,hmodels,hability]
      split
      · have hrow : c.ability.tag=some tag := htag
        rw [map_some,if_pos (by simpa using hrow)]
      · rfl
    · rw [if_neg htag]
      split
      · have hrow : ¬ c.ability.tag=some tag := htag
        rw [map_some,if_neg (by simpa using hrow)]
      · rfl

theorem foldl_rebuild {f : AbilityTable → Channel → AbilityTable} {g : Channel → AbilityKey → Option Ability → Option Ability}
    (hf : ∀ table c key, f table c key = if key.channelId=c.id then g c key (table key) else table key)
    {channels : List Channel} (hu : Unique (·.id) channels) (table : AbilityTable) (key : AbilityKey) :
    channels.foldl f table key =
      match lookup (·.id) key.channelId channels with
      | some c => g c key (table key)
      | none => table key := by
  induction channels generalizing table with
  | nil => rfl
  | cons c channels ih =>
    have hn := List.nodup_cons.mp hu
    rw [List.foldl_cons,ih hn.2,lookup_cons,hf]
    by_cases hid : c.id=key.channelId
    · have hnone : lookup (·.id) key.channelId channels=none :=
        lookup_eq_none.mpr fun r hr he => hn.1 (List.mem_map.mpr ⟨r,hr,he.trans hid.symm⟩)
      rw [if_pos hid,if_pos hid.symm,hnone]
    · rw [if_neg hid,if_neg (Ne.symm hid)]

variable {db' : ChannelDatabase}

theorem Projects.insert {channel' : Channel} {groupIds : Option (List Nat)} (h : Projects db)
    (hsep : ∀ prepared∈prepareChannelGroupBindings dir groupIds channel'.group allowsActive,
      Separate (channel'.created prepared.2).group channel'.models)
    (hins : Channels.insert dir db channel' groupIds=some db') : Projects db' := by
  unfold Channels.insert at hins
  obtain ⟨prepared,hprepared,hins⟩ := bind_eq_some_iff.mp hins
  split at hins
  · cases hins
  have hnew : lookup (·.id) (channel'.created prepared.2).id db.channels=none := by
    rename_i hsome
    exact not_isSome_iff_eq_none.mp hsome
  rw [← Option.some.inj hins]
  constructor
  · exact h.unique.append hnew
  intro key
  rw [projected_concat hnew]
  simp only [addAbilities,h.abilities key]
  by_cases hid : key.channelId=(channel'.created prepared.2).id
  · have hnone : projected db.channels key=none := by
      rw [projected,hid,hnew]
      rfl
    have hrows := mem_abilityRows (hsep prepared hprepared) key.group key.model
    rw [hnone,if_pos hid]
    simp only [hid,true_and,Channel.projected]
    exact if_congr hrows rfl rfl
  · rw [if_neg hid]
    cases projected db.channels key with
    | some row => rfl
    | none => simp only [hid,false_and,if_false]

theorem Projects.update {u : ChannelUpdate} (h : Projects db)
    (hsep : ∀ existing∈lookup (·.id) u.id db.channels, ∀ groups∈u.groups dir db existing,
      Separate (u.merge existing groups.2).group (u.merge existing groups.2).models)
    (hupd : Channels.update dir db u=some db') : Projects db' := by
  unfold Channels.update at hupd
  split at hupd
  · cases hupd
  obtain ⟨existing,hexisting,hupd⟩ := bind_eq_some_iff.mp hupd
  obtain ⟨groups,hgroups,hupd⟩ := map_eq_some_iff.mp hupd
  have hid : (u.merge existing groups.2).id=u.id := (lookup_some hexisting).2
  rw [← hupd]
  constructor
  · have hkeys := map_key_modify_of (·.id) u.id (f := fun _ => u.merge existing groups.2) db.channels fun _ _ => hid
    rw [Keyed.Unique,hkeys]
    exact h.unique
  · intro key
    dsimp only
    rw [projected_modify (isSome_iff_exists.mpr ⟨existing,hexisting⟩) hid]
    rw [updateAbilities_projected (fun _ => Iff.rfl) (hsep existing hexisting groups hgroups),hid,h.abilities key]

theorem Projects.delete (h : Projects db) (channelId : Nat) : Projects (Channels.delete db channelId) := by
  constructor
  · exact h.unique.filter _
  intro key
  simp only [Channels.delete,deleteAbilities,projected,lookup_filter h.unique]
  by_cases hid : key.channelId=channelId
  · rw [if_pos hid]
    cases hlook : lookup (·.id) key.channelId db.channels with
    | none => rfl
    | some c =>
      have hc : ¬ c.id≠channelId := not_not.mpr ((lookup_some hlook).2.trans hid)
      rw [filter_some,if_neg (by simpa using hc)]
      rfl
  · rw [if_neg hid,h.abilities key,projected]
    cases hlook : lookup (·.id) key.channelId db.channels with
    | none => rfl
    | some c =>
      have hc : c.id≠channelId := fun he => hid ((lookup_some hlook).2.symm.trans he)
      rw [filter_some,if_pos (by simpa using hc)]

theorem updatedChannel_columns {row : Channel} {status now : Int} {automatic : Bool}
    (h : updatedChannel channel usingKey status reason automatic now=some row) :
    row.id=channel.id ∧ row.group=channel.group ∧ row.models=channel.models ∧
      row.ability={ channel.ability with enabled := row.status=channelStatusEnabled } := by
  unfold updatedChannel at h
  split at h
  · cases h
  split at h
  · cases h
  dsimp only at h
  split at h
  · rw [← Option.some.inj h]
    unfold handlerMultiKeyUpdate
    split
    · exact ⟨rfl,rfl,rfl,rfl⟩
    split
    · split
      · exact ⟨rfl,rfl,rfl,rfl⟩
      · exact ⟨rfl,rfl,rfl,rfl⟩
    · dsimp only
      split
      · exact ⟨rfl,rfl,rfl,rfl⟩
      · exact ⟨rfl,rfl,rfl,rfl⟩
  · rw [← Option.some.inj h]
    exact ⟨rfl,rfl,rfl,rfl⟩

theorem Projects.updateStatus {channelId : Nat} {status now : Int} {automatic : Bool} (h : Projects db)
    (hupd : Channels.updateStatus db channelId usingKey status reason automatic now=some db') : Projects db' := by
  obtain ⟨existing,hexisting,hupd⟩ := map_eq_some_iff.mp hupd
  rw [← hupd]
  cases hrow : updatedChannel existing usingKey status reason automatic now with
  | none => exact h
  | some row =>
    obtain ⟨hid,hgroup,hmodels,hability⟩ := updatedChannel_columns hrow
    have hexists : (lookup (·.id) channelId db.channels).isSome := isSome_iff_exists.mpr ⟨existing,hexisting⟩
    have hrowId : row.id=channelId := hid.trans (lookup_some hexisting).2
    have hprojected : ∀ key, row.projected key =
        (existing.projected key).map fun ability => { ability with enabled := row.status=channelStatusEnabled } := by
      intro key
      rw [Channel.projected,Channel.projected,hgroup,hmodels,hability]
      split <;> rfl
    constructor
    · have hkeys := map_key_modify_of (·.id) channelId (f := fun _ => row) db.channels fun _ _ => hrowId
      dsimp only
      rw [Keyed.Unique,hkeys]
      exact h.unique
    · intro key
      dsimp only
      rw [projected_modify hexists hrowId]
      by_cases hkey : key.channelId=channelId
      · have hold : projected db.channels key=existing.projected key := by
          rw [projected,hkey,hexisting]
          rfl
        rw [if_pos hkey,hprojected]
        by_cases hsame : existing.status=row.status
        · have hability' : existing.ability=row.ability := by
            rw [hability,← hsame]
            rfl
          rw [if_pos hsame,h.abilities key,hold,← hprojected,Channel.projected,Channel.projected,hgroup,hmodels,hability']
        · rw [if_neg hsame,updateWhere,h.abilities key,hold]
          simp only [hkey,decide_true,if_true]
      · rw [if_neg hkey]
        by_cases hsame : existing.status=row.status
        · rw [if_pos hsame,h.abilities key]
        rw [if_neg hsame,updateWhere,h.abilities key]
        simp only [hkey,decide_false,Bool.false_eq_true,if_false,map_id']

theorem Projects.fixAbility (h : Projects db) (hsep : ∀ c∈db.channels, Separate c.group c.models) :
    Projects (Channels.fixAbility db) := by
  constructor
  · exact h.unique
  intro key
  have hrebuild : ∀ (table : AbilityTable) (c : Channel) (key : AbilityKey), table.updateAbilities c c.group key =
      if key.channelId=c.id then
        if (key.group,key.model)∈abilityRows c.group c.models then some c.ability else none
      else table key := fun table c key => updateAbilities_apply table c c.group key
  have hfold := foldl_rebuild (g := fun c key _ =>
    if (key.group,key.model)∈abilityRows c.group c.models then some c.ability else none) hrebuild h.unique (fun _ => none) key
  simp only [Channels.fixAbility,hfold,projected]
  cases hlook : lookup (·.id) key.channelId db.channels with
  | none => rfl
  | some c =>
    have hrows := mem_abilityRows (hsep c (lookup_some hlook).1) key.group key.model
    exact if_congr hrows rfl rfl

/-- The groups that a loaded channel is bound to are those of its group column, and they can be told apart. -/
def TagEdit.Bound (dir : Directory) (e : TagEdit) (db : ChannelDatabase) (channel : Channel) : Prop :=
  (∀ code, code∈split (db.hydratedGroup dir e.backfillDone channel) ↔ code∈split channel.group) ∧
    Separate (db.hydratedGroup dir e.backfillDone channel) channel.models

/-- An edit that rebuilds abilities finds each channel bound to the groups of its group column, and fails for channels only that
it leaves as they are. An edit that does not rebuild them sets no weight of zero on a channel with another weight. -/
def TagEdit.Sound (dir : Directory) (db : ChannelDatabase) (e : TagEdit) : Prop :=
  if e.shouldReCreateAbilities then
    ∀ prepared∈e.prepared dir,
      (∀ channel∈(e.write db prepared).channels, channel.tag=some e.updatedTag → e.rebuildFails channel.id=false →
        e.Bound dir (e.write db prepared) channel) ∧
      ∀ channel∈db.channels, channel.tag=some e.tag → e.rebuildFails channel.id=true →
        (e.set prepared.2 channel).group=channel.group ∧ (e.set prepared.2 channel).models=channel.models ∧
          (e.set prepared.2 channel).ability=channel.ability
  else e.weight=some 0 → ∀ channel∈db.channels, channel.tag=some e.tag → channel.weight.getD 0=0

section Edit
variable {e : TagEdit}

theorem TagEdit.set_of_not_rebuilt (hre : ¬ e.shouldReCreateAbilities=true) (channel : Channel) :
    (e.set "" channel).group=channel.group ∧ (e.set "" channel).models=channel.models := by
  simp only [TagEdit.shouldReCreateAbilities,Bool.or_eq_true,not_or,decide_eq_true_eq,ne_eq,not_not] at hre
  constructor
  · rfl
  · exact if_pos hre.1

theorem TagEdit.set_ability (hweight : e.weight=some 0 → channel.weight.getD 0=0) (group : String)
    (htag : channel.tag=some e.tag) : (e.set group channel).ability =
      { channel.ability with
        tag := e.newTag.or channel.ability.tag
        priority := e.priority.getD channel.ability.priority
        weight := if e.weight.getD 0=0 then channel.ability.weight else e.weight.getD 0 } := by
  have hpriority : (e.priority.or channel.priority).getD 0=e.priority.getD (channel.priority.getD 0) := by
    cases e.priority <;> rfl
  have hnewTag : some e.updatedTag=e.newTag.or channel.tag := by
    rw [htag,TagEdit.updatedTag]
    cases e.newTag <;> rfl
  have hnewWeight : (e.weight.or channel.weight).getD 0 = if e.weight.getD 0=0 then channel.weight.getD 0 else e.weight.getD 0 := by
    cases hw : e.weight with
    | none => rfl
    | some w =>
      rw [some_or,getD_some]
      by_cases hzero : w=0
      · rw [if_pos hzero,hzero]
        exact (hweight (hw.trans (congrArg some hzero))).symm
      · rw [if_neg hzero]
  simp only [TagEdit.set,Channel.ability,hpriority,hnewTag,hnewWeight]

theorem TagEdit.rebuild_apply (e : TagEdit) (dir : Directory) (db : ChannelDatabase) (table : AbilityTable) (c : Channel)
    (key : AbilityKey) : e.rebuild dir db table c key = if key.channelId=c.id then if e.rebuildFails c.id then table key
        else if (key.group,key.model)∈abilityRows (db.hydratedGroup dir e.backfillDone c) c.models then some c.ability else none
      else table key := by
  unfold TagEdit.rebuild
  by_cases hfails : e.rebuildFails c.id=true
  · rw [if_pos hfails,if_pos hfails,ite_self]
  · rw [if_neg hfails,if_neg hfails,updateAbilities_apply]

theorem Projects.editByTag {db' : ChannelDatabase} (h : Projects db) (hsound : e.Sound dir db)
    (hedit : Channels.editByTag dir db e=some db') : Projects db' := by
  obtain ⟨prepared,hprepared,hedit⟩ := map_eq_some_iff.mp hedit
  unfold TagEdit.Sound at hsound
  by_cases hre : e.shouldReCreateAbilities=true
  · rw [if_pos hre] at hsound
    obtain ⟨hbound,hkeeps⟩ := hsound prepared hprepared
    have hid : ∀ c : Channel, (if c.tag=some e.tag then e.set prepared.2 c else c).id=c.id := by
      intro c
      split <;> rfl
    have hunique : Keyed.Unique (·.id) (e.write db prepared).channels := by
      simpa only [Keyed.Unique,TagEdit.write,ChannelDatabase.updateChannels,List.map_map,Function.comp_def,hid] using h.unique
    rw [← hedit]
    dsimp only
    rw [if_pos hre]
    constructor
    · exact hunique
    intro key
    have hfold := foldl_rebuild (g := fun c key row => if e.rebuildFails c.id then row
      else if (key.group,key.model)∈abilityRows ((e.write db prepared).hydratedGroup dir e.backfillDone c) c.models
        then some c.ability else none)
      (e.rebuild_apply dir (e.write db prepared)) (hunique.filter fun c => c.tag=some e.updatedTag) db.abilities key
    dsimp only
    rw [hfold,lookup_filter hunique,h.abilities key,projected,projected]
    have hlook : lookup (·.id) key.channelId (e.write db prepared).channels =
        (lookup (·.id) key.channelId db.channels).map fun c => if c.tag=some e.tag then e.set prepared.2 c else c :=
      lookup_map _ _ _ hid
    rw [hlook]
    cases hold : lookup (·.id) key.channelId db.channels with
    | none => rfl
    | some c =>
      have hc := lookup_some hold
      have hnew : (if c.tag=some e.tag then e.set prepared.2 c else c)∈(e.write db prepared).channels :=
        List.mem_map_of_mem hc.1
      rw [map_some,filter_some,bind_some,bind_some]
      by_cases htag : (if c.tag=some e.tag then e.set prepared.2 c else c).tag=some e.updatedTag
      · rw [if_pos (decide_eq_true htag)]
        dsimp only
        by_cases hfails : e.rebuildFails (if c.tag=some e.tag then e.set prepared.2 c else c).id=true
        · rw [if_pos hfails]
          by_cases hedited : c.tag=some e.tag
          · rw [if_pos hedited] at hfails
            obtain ⟨hgroup,hmodels,hability⟩ := hkeeps c hc.1 hedited hfails
            rw [if_pos hedited,Channel.projected,Channel.projected,hgroup,hmodels,hability]
          · rw [if_neg hedited]
        · rw [if_neg hfails]
          obtain ⟨hgroup,hsep⟩ := hbound _ hnew htag (Bool.not_eq_true _ ▸ hfails)
          simp only [mem_abilityRows hsep,hgroup,Channel.projected]
      · have hedited : ¬ c.tag=some e.tag := by
          intro hedited
          rw [if_pos hedited] at htag
          exact htag rfl
        rw [if_neg (by simpa using htag),if_neg hedited]
  · rw [if_neg hre] at hsound
    have hgroup : e.groupChanged=false := by
      simp only [TagEdit.shouldReCreateAbilities,Bool.or_eq_true,not_or,Bool.not_eq_true] at hre
      exact hre.2
    have hprep : prepared=([],"") := by
      rw [TagEdit.prepared,hgroup,if_neg Bool.false_ne_true] at hprepared
      exact (Option.some.inj hprepared).symm
    rw [← hedit,hprep]
    dsimp only
    rw [if_neg hre]
    have hupdate := @Projects.updateByTag _ e.tag (e.set "") (fun row =>
      { row with tag := e.newTag.or row.tag
                 priority := e.priority.getD row.priority
                 weight := if e.weight.getD 0=0 then row.weight else e.weight.getD 0 }) h
      (fun c => rfl) fun c hc htag => by
        obtain ⟨hsame,hmodels⟩ := TagEdit.set_of_not_rebuilt hre c
        exact ⟨hsame,hmodels,TagEdit.set_ability (fun hw => hsound hw c hc htag) "" htag⟩
    exact ⟨hupdate.unique,hupdate.abilities⟩

end Edit

/-- What an operation must find so that its writes keep the abilities: groups and models that can be told apart, and the conditions
of an edit by tag. -/
def ChannelOp.Sound (dir : Directory) (db : ChannelDatabase) : ChannelOp → Prop
  | .insert channel groupIds => ∀ prepared∈prepareChannelGroupBindings dir groupIds channel.group allowsActive,
      Separate (channel.created prepared.2).group channel.models
  | .update u => ∀ existing∈lookup (·.id) u.id db.channels, ∀ groups∈u.groups dir db existing,
      Separate (u.merge existing groups.2).group (u.merge existing groups.2).models
  | .editByTag e => e.Sound dir db
  | .fixAbility => ∀ channel∈db.channels, Separate channel.group channel.models
  | .delete _ | .updateStatus _ _ _ _ _ _ | .enableByTag _ | .disableByTag _ => True

theorem Projects.step (h : Projects db) {op : ChannelOp} (hop : op.Sound dir db) : Projects (channelStep dir db op) := by
  rw [channelStep]
  cases happly : op.apply dir db with
  | none => exact h
  | some db' =>
    rw [getD_some]
    cases op with
    | insert channel groupIds => exact h.insert hop happly
    | update u => exact h.update hop happly
    | delete channelId =>
      rw [← Option.some.inj happly]
      exact h.delete channelId
    | updateStatus channelId usingKey status reason automatic now => exact h.updateStatus happly
    | enableByTag _ | disableByTag _ =>
      rw [← Option.some.inj happly]
      exact h.updateByTag (fun _ => rfl) fun _ _ _ => ⟨rfl,rfl,rfl⟩
    | editByTag e => exact h.editByTag hop happly
    | fixAbility =>
      rw [← Option.some.inj happly]
      exact h.fixAbility hop

/-- The table of abilities stays the projection of the table of channels over every sequence of operations that find what they
need. -/
theorem abilities_project (dir : Directory) (db : ChannelDatabase) (h : Projects db) (ops : List ChannelOp)
    (hops : Guarded (channelStep dir) (ChannelOp.Sound dir) ops db) : Projects (run (channelStep dir) ops db) := by
  apply Guarded.invariant _ h hops
  intro db op hdb hop
  exact hdb.step hop

def noChannels : ChannelDatabase := { channels := [] }

theorem noChannels_projects : Projects noChannels := ⟨List.nodup_nil,fun _ => rfl⟩

def defaultGroup : Directory := { groups := [{ id := 1, code := "default" }] }

def vipChannel : Channel := { id := 4, models := "gpt-5,gpt-5-mini", group := "default", weight := some 5, tag := some "vip" }

theorem vip_channel_projects : Projects (run (channelStep defaultGroup)
    [.insert vipChannel none,.disableByTag "vip",.enableByTag "vip",.editByTag { tag := "vip", weight := some 7 }] noChannels) := by
  apply abilities_project defaultGroup noChannels noChannels_projects
  refine ⟨?_,trivial,trivial,?_,trivial⟩
  · show ∀ prepared∈prepareChannelGroupBindings defaultGroup none "default" allowsActive, _
    decide +kernel
  · intro h
    cases h

theorem zero_weight_skips_abilities :
    (run (channelStep defaultGroup) [.insert vipChannel none,.editByTag { tag := "vip", weight := some 0 }]
      noChannels).channels.map (·.weight)=[some 0] ∧
    (run (channelStep defaultGroup) [.insert vipChannel none,.editByTag { tag := "vip", weight := some 0 }]
      noChannels).abilities ⟨"default", "gpt-5",4⟩=some { enabled := true, priority := 0, weight := 5, tag := some "vip" } ∧
    ¬ Projects (run (channelStep defaultGroup) [.insert vipChannel none,.editByTag { tag := "vip", weight := some 0 }]
      noChannels) := by
  refine ⟨by decide +kernel,by decide +kernel,fun h => ?_⟩
  have hability := h.abilities ⟨"default","gpt-5",4⟩
  revert hability
  decide +kernel

end Projection

end NewApi.Channels
