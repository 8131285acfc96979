import NewApi.Channels.Model
import NewApi.Groups.Directory
import NewApi.Lib.Keyed
import NewApi.Lib.Runs

/-! The abilities of channels (`model/ability.go`, `model/channel.go`): the table that channel selection reads, kept next to the
table of channels by every operation that writes a channel. -/
namespace NewApi.Channels
open GoStrings Groups Keyed

structure AbilityKey where
  group : String
  model : String
  channelId : Nat

structure Ability where
  enabled : Bool
  priority : Int
  weight : Nat
  tag : Option String
  deriving DecidableEq

abbrev AbilityTable := AbilityKey → Option Ability

structure ChannelDatabase where
  channels : List Channel
  bindings : Nat → List Nat := fun _ => []
  abilities : AbilityTable := fun _ => none

def Channel.ability (channel : Channel) : Ability where
  enabled := channel.status=channelStatusEnabled
  priority := channel.priority.getD 0
  weight := channel.weight.getD 0
  tag := channel.tag

/-- The groups and models that `AddAbilities` creates rows for: the first of each `group|model`. -/
def abilityRows (group models : String) : List (String×String) :=
  firsts (fun row => row.1++"|" ++ row.2) [] ((split models).flatMap fun model => (split group).map fun code => (code,model))

namespace AbilityTable
variable (table : AbilityTable)

def addAbilities (channel : Channel) (group : String) : AbilityTable := fun key =>
  match table key with
  | some row => some row
  | none =>
    if key.channelId=channel.id ∧ (key.group,key.model)∈abilityRows group channel.models then some channel.ability else none

def deleteAbilities (channelId : Nat) : AbilityTable := fun key => if key.channelId=channelId then none else table key

def updateAbilities (channel : Channel) (group : String) : AbilityTable :=
  addAbilities (deleteAbilities table channel.id) channel group

def updateWhere (rows : AbilityKey → Ability → Bool) (set : Ability → Ability) : AbilityTable := fun key =>
  (table key).map fun row => if rows key row then set row else row

def updateAbilityStatusByTag (tag : String) (enabled : Bool) : AbilityTable :=
  updateWhere table (fun _ row => row.tag=some tag) fun row => { row with enabled := enabled }

/-- `UpdateAbilityByTag`. The update by a struct leaves a weight of zero out. -/
def updateAbilityByTag (tag : String) (newTag : Option String) (priority : Option Int) (weight : Option Nat) : AbilityTable :=
  updateWhere table (fun _ row => row.tag=some tag) fun row =>
    { row with tag := newTag.or row.tag
               priority := priority.getD row.priority
               weight := if weight.getD 0=0 then row.weight else weight.getD 0 }

end AbilityTable

variable (dir : Directory) (db : ChannelDatabase)

def prepareChannelGroupBindings (groupIds : Option (List Nat)) (group : String) (allows : Group → Bool) :
    Option (List Nat×String) :=
  if groupIds=some [] then none
  else (dir.resolveBindingGroups (groupIds.getD []) group allows).map fun groups =>
    (groups.map (·.id),if groups=[] then group else join (groups.map (·.code)))

def existingChannelGroupIDs (channelId : Nat) : Option (List Nat) :=
  if db.bindings channelId≠[] then some (db.bindings channelId)
  else (lookup (·.id) channelId db.channels).map fun channel =>
    (splitLegacyGroupCodes channel.group).filterMap fun code => (dir.getGroupByCodeOrAlias code).map (·.id)

def allowsActive (group : Group) : Bool := group.status=groupStatusActive

def hydrateChannelGroupBindings (backfillDone : Bool) (bindings : List Nat) (group : String) : String×List Nat :=
  if bindings≠[] then
    (join (((bindings.filterMap dir.byID).map fun g => trimSpace g.code).filter (· ≠ "")),(bindings.filterMap dir.byID).map (·.id))
  else if backfillDone then ("",[])
  else (group,if trimSpace group="" then [] else ((dir.resolveBindingGroups [] group fun _ => true).getD []).map (·.id))

def ChannelDatabase.hydratedGroup (backfillDone : Bool) (channel : Channel) : String :=
  (hydrateChannelGroupBindings dir backfillDone (db.bindings channel.id) channel.group).1

def Channel.created (channel : Channel) (group : String) : Channel :=
  { channel with
    status := if channel.status=0 then channelStatusEnabled else channel.status
    group := if group="" then "default" else group
    priority := some (channel.priority.getD 0)
    weight := some (channel.weight.getD 0) }

def insert (channel : Channel) (groupIds : Option (List Nat)) : Option ChannelDatabase :=
  (prepareChannelGroupBindings dir groupIds channel.group allowsActive).bind fun prepared =>
    if (lookup (·.id) channel.id db.channels).isSome then none
    else
      let row := channel.created prepared.2
      some { channels := db.channels++[row], bindings := Function.update db.bindings channel.id prepared.1
             abilities := db.abilities.addAbilities row row.group }

/-- The fields of the channel that `Channel.Update` is called on, `0`, `""` and `none` where the caller leaves them out. -/
structure ChannelUpdate where
  id : Nat
  status : Int := 0
  keys : Option (List String) := none
  models : String := ""
  group : String := ""
  groupIds : Option (List Nat) := none
  priority : Option Int := none
  weight : Option Nat := none
  tag : Option String := none
  channelInfo : Option ChannelInfo := none
  otherInfo : Option OtherInfo := none
  backfillDone : Bool := true

def ChannelUpdate.groups (u : ChannelUpdate) (db : ChannelDatabase) (existing : Channel) : Option (List Nat×String) :=
  if u.groupIds.isSome ∨ trimSpace u.group≠"" then (existingChannelGroupIDs dir db u.id).bind fun allowed =>
      prepareChannelGroupBindings dir u.groupIds u.group fun group => allowsActive group || group.id∈allowed
  else
    let hydrated := hydrateChannelGroupBindings dir u.backfillDone (db.bindings u.id) existing.group
    if existing.group≠hydrated.1 then none else some (hydrated.2,hydrated.1)

/-- `updateChannelMultiKeyState`: the statuses of keys that the channel does not have are dropped. -/
def ChannelInfo.trimKeys (info : ChannelInfo) (keys : List String) : ChannelInfo :=
  if info.isMultiKey then
    { info with multiKeyStatusList := fun index => if index<keys.length then info.multiKeyStatusList index else none }
  else info

/-- The row after an update by a struct, which leaves zero fields out. -/
def ChannelUpdate.merge (u : ChannelUpdate) (existing : Channel) (group : String) : Channel :=
  { existing with
    status := if u.status=0 then existing.status else u.status
    keys := u.keys.getD existing.keys
    models := if u.models="" then existing.models else u.models
    group := if group="" then existing.group else group
    priority := u.priority.or existing.priority
    weight := u.weight.or existing.weight
    tag := u.tag.or existing.tag
    channelInfo := (u.channelInfo.map (·.trimKeys (u.keys.getD existing.keys))).getD existing.channelInfo
    otherInfo := u.otherInfo.getD existing.otherInfo }

def update (u : ChannelUpdate) : Option ChannelDatabase :=
  if u.id=0 then none
  else (lookup (·.id) u.id db.channels).bind fun existing =>
      (u.groups dir db existing).map fun groups =>
        let row := u.merge existing groups.2
        { channels := modify (·.id) u.id (fun _ => row) db.channels
          bindings := Function.update db.bindings u.id groups.1
          abilities := db.abilities.updateAbilities row row.group }

def delete (channelId : Nat) : ChannelDatabase where
  channels := db.channels.filter fun row => row.id≠channelId
  bindings := Function.update db.bindings channelId []
  abilities := db.abilities.deleteAbilities channelId

def updateStatus (channelId : Nat) (usingKey : String) (status : Int) (reason : String)
    (automatic : Bool) (now : Int) : Option ChannelDatabase :=
  (lookup (·.id) channelId db.channels).map fun channel =>
    match updatedChannel channel usingKey status reason automatic now with
    | none => db
    | some row =>
      { db with
        channels := modify (·.id) channelId (fun _ => row) db.channels
        abilities := if channel.status=row.status then db.abilities else
          db.abilities.updateWhere (fun key _ => key.channelId=channelId) fun ability =>
            { ability with enabled := row.status=channelStatusEnabled } }

def ChannelDatabase.updateChannels (tag : String) (set : Channel → Channel) : List Channel :=
  db.channels.map fun channel => if channel.tag=some tag then set channel else channel

def enableByTag (tag : String) : ChannelDatabase :=
  { db with channels := db.updateChannels tag fun channel => { channel with status := channelStatusEnabled }
            abilities := db.abilities.updateAbilityStatusByTag tag true }

def disableByTag (tag : String) : ChannelDatabase :=
  { db with channels := db.updateChannels tag fun channel => { channel with status := channelStatusManuallyDisabled }
            abilities := db.abilities.updateAbilityStatusByTag tag false }

/-- The arguments of `EditChannelByTag`. A rebuild of abilities may fail, channel by channel, which it only logs. -/
structure TagEdit where
  tag : String
  newTag : Option String := none
  models : Option String := none
  group : Option String := none
  priority : Option Int := none
  weight : Option Nat := none
  backfillDone : Bool := true
  rebuildFails : Nat → Bool := fun _ => false

namespace TagEdit
variable (e : TagEdit)

def updatedTag : String := e.newTag.getD e.tag

def groupChanged : Bool := e.group.getD "" ≠ ""

def shouldReCreateAbilities : Bool := e.models.getD "" ≠ "" || e.groupChanged

def set (group : String) (channel : Channel) : Channel :=
  { channel with
    tag := some e.updatedTag
    models := if e.models.getD "" = "" then channel.models else e.models.getD ""
    group := if group="" then channel.group else group
    priority := e.priority.or channel.priority
    weight := e.weight.or channel.weight }

def prepared : Option (List Nat×String) :=
  if e.groupChanged then prepareChannelGroupBindings dir none (e.group.getD "") allowsActive else some ([],"")

def write (db : ChannelDatabase) (prepared : List Nat×String) : ChannelDatabase :=
  { db with
    channels := db.updateChannels e.tag (e.set prepared.2)
    bindings := fun channelId =>
      if e.groupChanged ∧ db.channels.any fun channel => channel.id=channelId ∧ channel.tag=some e.tag then prepared.1
      else db.bindings channelId }

def rebuild (db : ChannelDatabase) (table : AbilityTable) (channel : Channel) : AbilityTable :=
  if e.rebuildFails channel.id then table
  else table.updateAbilities channel (db.hydratedGroup dir e.backfillDone channel)

end TagEdit

def editByTag (db : ChannelDatabase) (e : TagEdit) : Option ChannelDatabase :=
  (e.prepared dir).map fun prepared =>
    let db' := e.write db prepared
    { db' with abilities :=
        if e.shouldReCreateAbilities then
          (db'.channels.filter fun channel => channel.tag=some e.updatedTag).foldl (e.rebuild dir db') db.abilities
        else db.abilities.updateAbilityByTag e.tag e.newTag e.priority e.weight }

/-- `FixAbility` where no channel fails; it counts those that do without an error, and such a call is no success here. -/
def fixAbility (db : ChannelDatabase) : ChannelDatabase :=
  { db with abilities := db.channels.foldl (fun table channel => table.updateAbilities channel channel.group) fun _ => none }

inductive ChannelOp where
  | insert (channel : Channel) (groupIds : Option (List Nat))
  | update (u : ChannelUpdate)
  | delete (channelId : Nat)
  | updateStatus (channelId : Nat) (usingKey : String) (status : Int) (reason : String) (automatic : Bool) (now : Int)
  | enableByTag (tag : String)
  | disableByTag (tag : String)
  | editByTag (e : TagEdit)
  | fixAbility

def ChannelOp.apply (db : ChannelDatabase) : ChannelOp → Option ChannelDatabase
  | .insert channel groupIds => Channels.insert dir db channel groupIds
  | .update u => Channels.update dir db u
  | .delete channelId => some (Channels.delete db channelId)
  | .updateStatus channelId usingKey status reason automatic now =>
    Channels.updateStatus db channelId usingKey status reason automatic now
  | .enableByTag tag => some (Channels.enableByTag db tag)
  | .disableByTag tag => some (Channels.disableByTag db tag)
  | .editByTag e => Channels.editByTag dir db e
  | .fixAbility => some (Channels.fixAbility db)

def channelStep (db : ChannelDatabase) (op : ChannelOp) : ChannelDatabase := (op.apply dir db).getD db

end NewApi.Channels
