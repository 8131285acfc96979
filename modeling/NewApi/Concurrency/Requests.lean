import NewApi.Concurrency.Leases

/-! The slots of a request (`middleware/distributor.go`): `Distribute` with its fallback, the set-ups of the retries inside the
relay, and the releases. A request is written as the operations on slots that it still has to do, with what it does on each
answer. -/
namespace NewApi.Concurrency
open List Option

inductive Prog where
  | returned
  | acquire (key : SlotKey) (limit : Int) (next : Option (Option Lease) → Prog)
  | release (lease : Lease) (next : Prog)

structure LeaseContext where
  channel : Option Lease := none
  groupUser : Option Lease := none

inductive SetupError where
  | notAdmitted
  | channelLimitReached
  | groupUserLimitReached
  | noKey

structure GroupLimit where
  groupID : Nat
  singleUserConcurrencyLimit : Int

/-- What a set-up is called with and finds: whether its first checks pass, the channel, the group, and a key. -/
structure SetUp where
  admitted : Bool := true
  channelID : Nat
  concurrencyLimit : Int
  group : Option GroupLimit := none
  key : Bool := true

/-- A request: its process and user, the channel selected first, whether a failed set-up may fall back to others, these, and
the channels of the retries inside the relay. -/
structure Request where
  process : Nat
  userID : Nat
  first : Option SetUp
  fallsBack : Bool := true
  fallbacks : List SetUp := []
  retries : List SetUp := []

section Steps
variable (ctx : LeaseContext) (next : LeaseContext → Prog)

def releaseChannelConcurrencyForContext : Prog :=
  match ctx.channel with
  | none => next ctx
  | some lease => .release lease (next { ctx with channel := none })

def releaseGroupUserConcurrencyForContext : Prog :=
  match ctx.groupUser with
  | none => next ctx
  | some lease => .release lease (next { ctx with groupUser := none })

end Steps

section SettingUp
variable (redisEnabled : Bool) (req : Request)

def SetUp.channelKey (setUp : SetUp) : SlotKey := .channel (if redisEnabled then 0 else req.process) setUp.channelID

/-- The new slot is taken before the old one is given back. -/
def tryAcquireChannelConcurrencyForContext (setUp : SetUp) (ctx : LeaseContext) (next : Bool → LeaseContext → Prog) : Prog :=
  if ctx.channel.any fun lease => lease.key=setUp.channelKey redisEnabled req then next true ctx
  else
    .acquire (setUp.channelKey redisEnabled req) setUp.concurrencyLimit fun
      | none => next false ctx
      | some lease => releaseChannelConcurrencyForContext ctx fun ctx =>
        next true { ctx with channel := lease.or ctx.channel }

def acquireGroupUser (group : GroupLimit) (ctx : LeaseContext) (next : Bool → LeaseContext → Prog) : Prog :=
  .acquire (.groupUser req.process req.userID group.groupID) group.singleUserConcurrencyLimit fun
    | none => next false ctx
    | some lease => next true { ctx with groupUser := lease.or ctx.groupUser }

def tryAcquireGroupUserConcurrencyForContext (group : GroupLimit) (ctx : LeaseContext) (next : Bool → LeaseContext → Prog) :
    Prog :=
  if ctx.groupUser.any fun lease => lease.key=.groupUser req.process req.userID group.groupID then next true ctx
  else releaseGroupUserConcurrencyForContext ctx fun ctx => acquireGroupUser req group ctx next

def endSetup (error : Option SetupError) (ctx : LeaseContext) (next : Option SetupError → LeaseContext → Prog) : Prog :=
  match error with
  | none => next none ctx
  | some error => releaseChannelConcurrencyForContext ctx (next (some error))

def setupContextForSelectedChannel (setUp : SetUp) (ctx : LeaseContext) (next : Option SetupError → LeaseContext → Prog) :
    Prog :=
  if !setUp.admitted then next (some .notAdmitted) ctx
  else
    tryAcquireChannelConcurrencyForContext redisEnabled req setUp ctx fun acquired ctx =>
      if !acquired then next (some .channelLimitReached) ctx
      else
        let keyed := if setUp.key then none else some .noKey
        match setUp.group with
        | none => endSetup keyed ctx next
        | some group =>
          tryAcquireGroupUserConcurrencyForContext req group ctx fun acquired ctx =>
            endSetup (if acquired then keyed else some .groupUserLimitReached) ctx next

def abort (ctx : LeaseContext) : Prog :=
  releaseChannelConcurrencyForContext ctx fun ctx => releaseGroupUserConcurrencyForContext ctx fun _ => .returned

def leave (ctx : LeaseContext) : Prog :=
  releaseGroupUserConcurrencyForContext ctx fun ctx => releaseChannelConcurrencyForContext ctx fun _ => .returned

def serve : List SetUp → LeaseContext → Prog
  | [], ctx => leave ctx
  | setUp::setUps, ctx =>
    setupContextForSelectedChannel redisEnabled req setUp ctx fun error ctx =>
      match error with
      | none => serve setUps ctx
      | some _ => leave ctx

def fallBack : List SetUp → LeaseContext → Prog
  | [], ctx => abort ctx
  | setUp::setUps, ctx =>
    setupContextForSelectedChannel redisEnabled req setUp ctx fun error ctx =>
      match error with
      | none => serve redisEnabled req req.retries ctx
      | some _ => releaseChannelConcurrencyForContext ctx (fallBack setUps)

def distribute : Prog :=
  match req.first with
  | none => .returned
  | some setUp =>
    setupContextForSelectedChannel redisEnabled req setUp {} fun error ctx =>
      match error with
      | none => serve redisEnabled req req.retries ctx
      | some .groupUserLimitReached => abort ctx
      | some _ =>
        if req.fallsBack then
          releaseChannelConcurrencyForContext ctx fun ctx =>
            releaseGroupUserConcurrencyForContext ctx (fallBack redisEnabled req req.fallbacks)
        else abort ctx

end SettingUp

structure Holdings where
  channels : List Lease := []
  groupUsers : List Lease := []

namespace Holdings
variable (h : Holdings)

def all : List Lease := h.channels++h.groupUsers

def add (lease : Lease) : Holdings :=
  if lease.key.isChannel then { h with channels := h.channels++[lease] }
  else { h with groupUsers := h.groupUsers++[lease] }

def remove (lease : Lease) : Holdings :=
  { channels := h.channels.filter (· ≠ lease), groupUsers := h.groupUsers.filter (· ≠ lease) }

variable {h} {lease other : Lease}

theorem mem_add : other∈(h.add lease).all ↔ other∈h.all ∨ other=lease := by
  unfold add all
  split
  · simp only [mem_append,mem_singleton]
    tauto
  · simp only [mem_append,mem_singleton]
    tauto

theorem mem_remove : other∈(h.remove lease).all ↔ other∈h.all ∧ other≠lease := by
  unfold remove all
  simp only [mem_append,mem_filter,decide_eq_true_eq]
  tauto

end Holdings

/-- A request that goes on from some leases gives back only what it has, never has two slots of users in groups, has two of
channels only when it gives the older one back next, and has none in the end. -/
def Prog.Safe : Prog → Holdings → Prop
  | .returned, h => h.channels=[] ∧ h.groupUsers=[]
  | .acquire key _ next, h =>
    h.channels.length≤1 ∧ h.groupUsers.length≤1 ∧ (key.isChannel=false → h.groupUsers=[]) ∧
      (next none).Safe h ∧ (next (some none)).Safe h ∧
      ∀ token, (∀ lease∈h.all, lease.token<token) → (next (some (some ⟨key,token⟩))).Safe (h.add ⟨key,token⟩)
  | .release lease next, h =>
    lease∈h.all ∧ (h.channels.length≤1 ∨ ∃ new, h.channels=[lease,new]) ∧ h.groupUsers.length≤1 ∧ next.Safe (h.remove lease)

structure Matches (ctx : LeaseContext) (h : Holdings) : Prop where
  channels : h.channels=ctx.channel.toList
  groupUsers : h.groupUsers=ctx.groupUser.toList
  channelKey : ∀ lease∈ctx.channel, lease.key.isChannel=true
  groupUserKey : ∀ lease∈ctx.groupUser, lease.key.isChannel=false

section Safety
variable {ctx : LeaseContext} {h : Holdings} {redisEnabled : Bool} {req : Request}

theorem Matches.channels_le (hm : Matches ctx h) : h.channels.length≤1 := by
  rw [hm.channels]
  exact length_toList_le

theorem Matches.groupUsers_le (hm : Matches ctx h) : h.groupUsers.length≤1 := by
  rw [hm.groupUsers]
  exact length_toList_le

theorem filter_ne_of_kind {leases : List Lease} {lease : Lease} (kind : Bool) (hleases : ∀ l∈leases, l.key.isChannel=kind)
    (hlease : lease.key.isChannel=!kind) : leases.filter (· ≠ lease)=leases := by
  apply filter_eq_self.mpr
  intro l hl
  rw [decide_eq_true_eq]
  rintro rfl
  rw [hleases l hl] at hlease
  cases kind <;> cases hlease

theorem releaseChannel_safe {next : LeaseContext → Prog} (hm : Matches ctx h)
    (hnext : ∀ ctx' h', Matches ctx' h' → ctx'.channel=none → ctx'.groupUser=ctx.groupUser → (next ctx').Safe h') :
    (releaseChannelConcurrencyForContext ctx next).Safe h := by
  unfold releaseChannelConcurrencyForContext
  cases hchannel : ctx.channel with
  | none => exact hnext ctx h hm hchannel rfl
  | some lease =>
    have hchannels := hm.channels
    rw [hchannel] at hchannels
    refine ⟨?_,.inl hm.channels_le,hm.groupUsers_le,?_⟩
    · unfold Holdings.all
      rw [hchannels]
      exact mem_cons_self
    · refine hnext { ctx with channel := none } (h.remove lease) ⟨?_,?_,?_,hm.groupUserKey⟩ rfl rfl
      · unfold Holdings.remove
        rw [hchannels]
        simp
      · unfold Holdings.remove
        dsimp only
        rw [hm.groupUsers]
        apply filter_ne_of_kind false
        · intro l hl
          exact hm.groupUserKey l (mem_toList.mp hl)
        · exact hm.channelKey lease hchannel
      · intro l hl
        cases hl

theorem releaseGroupUser_safe {next : LeaseContext → Prog} (hm : Matches ctx h)
    (hnext : ∀ ctx' h', Matches ctx' h' → ctx'.groupUser=none → ctx'.channel=ctx.channel → (next ctx').Safe h') :
    (releaseGroupUserConcurrencyForContext ctx next).Safe h := by
  unfold releaseGroupUserConcurrencyForContext
  cases hgroupUser : ctx.groupUser with
  | none => exact hnext ctx h hm hgroupUser rfl
  | some lease =>
    have hgroupUsers := hm.groupUsers
    rw [hgroupUser] at hgroupUsers
    refine ⟨?_,.inl hm.channels_le,hm.groupUsers_le,?_⟩
    · unfold Holdings.all
      rw [hgroupUsers]
      exact mem_append_right _ mem_cons_self
    · refine hnext { ctx with groupUser := none } (h.remove lease) ⟨?_,?_,hm.channelKey,?_⟩ rfl rfl
      · unfold Holdings.remove
        dsimp only
        rw [hm.channels]
        apply filter_ne_of_kind true
        · intro l hl
          exact hm.channelKey l (mem_toList.mp hl)
        · exact hm.groupUserKey lease hgroupUser
      · unfold Holdings.remove
        rw [hgroupUsers]
        simp
      · intro l hl
        cases hl

variable {next : Bool → LeaseContext → Prog}

theorem tryAcquireChannel_safe {setUp : SetUp} (hm : Matches ctx h)
    (hnext : ∀ acquired ctx' h', Matches ctx' h' → (next acquired ctx').Safe h') :
    (tryAcquireChannelConcurrencyForContext redisEnabled req setUp ctx next).Safe h := by
  unfold tryAcquireChannelConcurrencyForContext
  by_cases hheld : (ctx.channel.any fun lease => lease.key=setUp.channelKey redisEnabled req)
  · rw [if_pos hheld]
    exact hnext true ctx h hm
  · rw [if_neg hheld]
    refine ⟨hm.channels_le,hm.groupUsers_le,fun hkind => (by cases hkind),hnext false ctx h hm,?_,?_⟩
    · apply releaseChannel_safe hm
      intro ctx' h' hm' hnone _
      refine hnext true _ h' ⟨?_,hm'.groupUsers,?_,hm'.groupUserKey⟩
      · exact hm'.channels
      · exact hm'.channelKey
    · intro token hfresh
      dsimp only
      have hadded : (h.add ⟨setUp.channelKey redisEnabled req,token⟩) =
          { h with channels := h.channels++[⟨setUp.channelKey redisEnabled req,token⟩] } := rfl
      have hgroupUsers : ∀ l∈h.groupUsers, l.key.isChannel=false := by
        intro l hl
        rw [hm.groupUsers] at hl
        exact hm.groupUserKey l (mem_toList.mp hl)
      unfold releaseChannelConcurrencyForContext
      cases hchannel : ctx.channel with
      | none =>
        have hchannels := hm.channels
        rw [hchannel] at hchannels
        refine hnext true _ _ ⟨?_,?_,?_,hm.groupUserKey⟩
        · rw [hadded,hchannels]
          rfl
        · exact hm.groupUsers
        · intro l hl
          obtain rfl := Option.some.inj hl
          rfl
      | some old =>
        -- The old slot is given back with the new one in hand.
        have hchannels := hm.channels
        rw [hchannel] at hchannels
        have hlt : old.token<token := by
          apply hfresh
          unfold Holdings.all
          rw [hchannels]
          exact mem_cons_self
        have hne : (⟨setUp.channelKey redisEnabled req,token⟩ : Lease)≠old := by
          rintro rfl
          exact Nat.lt_irrefl _ hlt
        rw [hadded,hchannels]
        refine ⟨mem_cons_self,.inr ⟨_,rfl⟩,hm.groupUsers_le,?_⟩
        refine hnext true _ _ ⟨?_,?_,?_,hm.groupUserKey⟩
        · unfold Holdings.remove
          simp [hne]
        · unfold Holdings.remove
          dsimp only
          rw [filter_ne_of_kind false hgroupUsers (hm.channelKey old hchannel)]
          exact hm.groupUsers
        · intro l hl
          obtain rfl := Option.some.inj hl
          rfl

variable {group : GroupLimit}

section
variable (hm : Matches ctx h)
include hm

theorem acquireGroupUser_safe (hnone : ctx.groupUser=none)
    (hnext : ∀ acquired ctx' h', Matches ctx' h' → (next acquired ctx').Safe h') :
    (acquireGroupUser req group ctx next).Safe h := by
  have hgroupUsers := hm.groupUsers
  rw [hnone] at hgroupUsers
  refine ⟨hm.channels_le,hm.groupUsers_le,fun _ => hgroupUsers,hnext false ctx h hm,?_,?_⟩
  · exact hnext true _ h ⟨hm.channels,hm.groupUsers,hm.channelKey,hm.groupUserKey⟩
  intro token _
  refine hnext true _ _ ⟨?_,?_,hm.channelKey,?_⟩
  · exact hm.channels
  · show h.groupUsers++_=_
    rw [hgroupUsers]
    rfl
  · intro l hl
    obtain rfl := Option.some.inj hl
    rfl

theorem tryAcquireGroupUser_safe (hnext : ∀ acquired ctx' h', Matches ctx' h' → (next acquired ctx').Safe h') :
    (tryAcquireGroupUserConcurrencyForContext req group ctx next).Safe h := by
  unfold tryAcquireGroupUserConcurrencyForContext
  split
  · exact hnext true ctx h hm
  apply releaseGroupUser_safe hm
  intro ctx' h' hm' hnone _
  exact acquireGroupUser_safe hm' hnone hnext

theorem endSetup_safe {error : Option SetupError} {next : Option SetupError → LeaseContext → Prog}
    (hnext : ∀ error ctx' h', Matches ctx' h' → (next error ctx').Safe h') : (endSetup error ctx next).Safe h := by
  cases error with
  | none => exact hnext none ctx h hm
  | some error =>
    apply releaseChannel_safe hm
    intro ctx' h' hm' _ _
    exact hnext (some error) ctx' h' hm'

theorem setup_safe {setUp : SetUp} {next : Option SetupError → LeaseContext → Prog}
    (hnext : ∀ error ctx' h', Matches ctx' h' → (next error ctx').Safe h') :
    (setupContextForSelectedChannel redisEnabled req setUp ctx next).Safe h := by
  unfold setupContextForSelectedChannel
  cases setUp.admitted with
  | false => exact hnext (some .notAdmitted) ctx h hm
  | true =>
    rw [Bool.not_true,if_neg Bool.false_ne_true]
    apply tryAcquireChannel_safe hm
    intro acquired ctx' h' hm'
    cases acquired with
    | false => exact hnext (some .channelLimitReached) ctx' h' hm'
    | true =>
      rw [Bool.not_true,if_neg Bool.false_ne_true]
      dsimp only
      cases setUp.group with
      | none => exact endSetup_safe hm' hnext
      | some group =>
        apply tryAcquireGroupUser_safe hm'
        intro acquired ctx'' h'' hm''
        exact endSetup_safe hm'' hnext

theorem returned_safe (hchannel : ctx.channel=none) (hgroupUser : ctx.groupUser=none) : Prog.returned.Safe h := by
  refine ⟨?_,?_⟩
  · rw [hm.channels,hchannel]
    rfl
  · rw [hm.groupUsers,hgroupUser]
    rfl

theorem abort_safe : (abort ctx).Safe h := by
  apply releaseChannel_safe hm
  intro ctx' h' hm' hchannel _
  apply releaseGroupUser_safe hm'
  intro ctx'' h'' hm'' hgroupUser hkept
  exact returned_safe hm'' (hkept.trans hchannel) hgroupUser

theorem leave_safe : (leave ctx).Safe h := by
  apply releaseGroupUser_safe hm
  intro ctx' h' hm' hgroupUser _
  apply releaseChannel_safe hm'
  intro ctx'' h'' hm'' hchannel hkept
  exact returned_safe hm'' hchannel (hkept.trans hgroupUser)

end

variable {setUps : List SetUp}

theorem serve_safe (hm : Matches ctx h) : (serve redisEnabled req setUps ctx).Safe h := by
  induction setUps generalizing ctx h with
  | nil => exact leave_safe hm
  | cons setUp setUps ih =>
    apply setup_safe hm
    intro error ctx' h' hm'
    cases error with
    | none => exact ih hm'
    | some error => exact leave_safe hm'

theorem fallBack_safe (hm : Matches ctx h) : (fallBack redisEnabled req setUps ctx).Safe h := by
  induction setUps generalizing ctx h with
  | nil => exact abort_safe hm
  | cons setUp setUps ih =>
    apply setup_safe hm
    intro error ctx' h' hm'
    cases error with
    | none => exact serve_safe hm'
    | some error =>
      apply releaseChannel_safe hm'
      intro ctx'' h'' hm'' _ _
      exact ih hm''

theorem distribute_safe (redisEnabled : Bool) (req : Request) : (distribute redisEnabled req).Safe {} := by
  unfold distribute
  cases req.first with
  | none => exact ⟨rfl,rfl⟩
  | some setUp =>
    have hempty : Matches {} {} :=
      ⟨rfl,rfl,fun lease hlease => (by cases hlease),fun lease hlease => (by cases hlease)⟩
    apply setup_safe hempty
    intro error ctx h hm
    have hfallBack : (if req.fallsBack then
        releaseChannelConcurrencyForContext ctx fun ctx =>
          releaseGroupUserConcurrencyForContext ctx (fallBack redisEnabled req req.fallbacks)
        else abort ctx).Safe h := by
      split
      · apply releaseChannel_safe hm
        intro ctx' h' hm' _ _
        apply releaseGroupUser_safe hm'
        intro ctx'' h'' hm'' _ _
        exact fallBack_safe hm''
      · exact abort_safe hm
    cases error with
    | none => exact serve_safe hm
    | some error =>
      cases error with
      | groupUserLimitReached => exact abort_safe hm
      | notAdmitted | channelLimitReached | noKey => exact hfallBack

end Safety

end NewApi.Concurrency
