import Mathlib.Logic.Function.Basic
import NewApi.Lib.LeaseSets

/-! The slots of channels (`model/channel_concurrency.go`), in Redis or in the memory of a process, and those of a user in a
group (`model/group_user_concurrency.go`), in the memory of a process. A ledger has the leases that were granted and not given
back. -/
namespace NewApi.Concurrency
open Function List LeaseSets

/-- What slots are counted for. With Redis, a channel has one scope for all processes. -/
inductive SlotKey where
  | channel (scope channelID : Nat)
  | groupUser (process userID groupID : Nat)
  deriving DecidableEq

structure Lease where
  key : SlotKey
  token : Nat
  deriving DecidableEq

inductive Backend where
  | redis
  | memory
  | counter
  deriving DecidableEq

def channelConcurrencyLeaseTTL : Int := 2*60*1000

namespace SlotKey

def isChannel : SlotKey → Bool
  | channel _ _ => true
  | groupUser _ _ _ => false

def backend (redisEnabled : Bool) : SlotKey → Backend
  | channel _ _ => if redisEnabled then .redis else .memory
  | groupUser _ _ _ => .counter

def exempt : SlotKey → Bool
  | channel _ _ => false
  | groupUser _ userID groupID => userID=0 || groupID=0

end SlotKey

structure Grant where
  key : SlotKey
  limit : Int
  live : Nat

structure SlotStore where
  now : Int := 0
  nextToken : Nat := 0
  sets : SlotKey → LeaseSet Nat := fun _ => {}
  active : SlotKey → List Nat := fun _ => []
  groupUserActive : SlotKey → Nat := fun _ => 0
  ledger : SlotKey → List (Nat×Int) := fun _ => []
  lost : List Lease := []
  grants : List Grant := []

/-- How an operation on Redis ends: it may not be executed, or executed without an answer. -/
inductive Outcome where
  | answered
  | lost
  | unanswered
  deriving DecidableEq

namespace SlotStore
variable (redisEnabled : Bool) (s : SlotStore) (key : SlotKey) (limit : Int)

def liveLeases (key : SlotKey) : List (Nat×Int) :=
  match key.backend redisEnabled with
  | .redis => (s.ledger key).filter (alive s.now)
  | .memory => s.ledger key
  | .counter => s.ledger key

def occupied (key : SlotKey) : Nat :=
  match key.backend redisEnabled with
  | .redis => ((s.sets key).prune s.now).length
  | .memory => (s.active key).length
  | .counter => s.groupUserActive key

def Has (lease : Lease) : Prop := lease.token∈(s.ledger lease.key).map Prod.fst

def tryTake : SlotStore×Bool :=
  match key.backend redisEnabled with
  | .redis =>
    let out := (s.sets key).acquire s.now channelConcurrencyLeaseTTL limit s.nextToken
    ({ s with sets := Function.update s.sets key out.1 },out.2)
  | .memory =>
    if limit≤(s.active key).length then (s,false)
    else ({ s with active := Function.update s.active key (s.active key++[s.nextToken]) },true)
  | .counter =>
    if limit ≤ s.groupUserActive key then (s,false)
    else ({ s with groupUserActive := Function.update s.groupUserActive key (s.groupUserActive key+1) },true)

def record : SlotStore :=
  { s with
    nextToken := s.nextToken+1
    ledger := Function.update s.ledger key (s.ledger key++[(s.nextToken,s.now+channelConcurrencyLeaseTTL)])
    grants := s.grants++[{ key := key, limit := limit, live := (s.liveLeases redisEnabled key).length }] }

def acquire (outcome : Outcome) : SlotStore×Option (Option Lease) :=
  if limit≤0 ∨ key.exempt then (s,some none)
  else if key.isChannel ∧ outcome=.lost then (s,none)
  else
    let (taken,granted) := s.tryTake redisEnabled key limit
    if !granted then (taken,none)
    else if key.backend redisEnabled=.redis ∧ outcome=.unanswered then
      ({ taken.record redisEnabled key limit with lost := s.lost++[⟨key,s.nextToken⟩] },none)
    else (taken.record redisEnabled key limit,some (some ⟨key,s.nextToken⟩))

def giveBack (lease : Lease) : SlotStore :=
  let s := { s with ledger := Function.update s.ledger lease.key ((s.ledger lease.key).filter fun e => e.1≠lease.token) }
  match lease.key.backend redisEnabled with
  | .redis => { s with sets := Function.update s.sets lease.key ((s.sets lease.key).release s.now lease.token) }
  | .memory => { s with active := Function.update s.active lease.key ((s.active lease.key).filter (· ≠ lease.token)) }
  | .counter =>
    { s with groupUserActive := Function.update s.groupUserActive lease.key (s.groupUserActive lease.key-1) }

def release (lease : Lease) (outcome : Outcome) : SlotStore :=
  if lease.key.backend redisEnabled=.redis ∧ outcome=.lost then { s with lost := s.lost++[lease] }
  else s.giveBack redisEnabled lease

/-- `RenewChannelConcurrencyLease`; in memory it only looks. -/
def renew (lease : Lease) (outcome : Outcome) : SlotStore :=
  if lease.key.backend redisEnabled≠.redis ∨ outcome=.lost then s
  else
    { s with
      sets := Function.update s.sets lease.key ((s.sets lease.key).renew s.now channelConcurrencyLeaseTTL lease.token).1
      ledger := Function.update s.ledger lease.key
        ((s.ledger lease.key).map (extend s.now channelConcurrencyLeaseTTL lease.token)) }

def available (outcome : Outcome) : SlotStore×Bool :=
  if limit≤0 then (s,true)
  else
    match key.backend redisEnabled with
    | .redis =>
      if outcome=.lost then (s,false)
      else
        let out := (s.sets key).available s.now limit
        ({ s with sets := Function.update s.sets key out.1 },out.2)
    | .memory => (s,(s.active key).length<limit)
    | .counter => (s,true)

def wait (elapsed : Nat) : SlotStore := { s with now := s.now+elapsed }

end SlotStore

def Backed (redisEnabled : Bool) (s : SlotStore) (key : SlotKey) : Prop :=
  match key.backend redisEnabled with
  | .redis => Tracks (s.sets key) (s.ledger key) s.now channelConcurrencyLeaseTTL
  | .memory => s.active key=(s.ledger key).map Prod.fst
  | .counter => s.groupUserActive key=(s.ledger key).length

section Backing
variable {redisEnabled : Bool} {s : SlotStore} {key other : SlotKey}

theorem ttl_pos : 0<channelConcurrencyLeaseTTL := by decide

theorem Backed.empty (redisEnabled : Bool) (key : SlotKey) : Backed redisEnabled {} key := by
  unfold Backed
  cases key.backend redisEnabled with
  | redis => exact Tracks.empty 0 channelConcurrencyLeaseTTL
  | memory | counter => rfl

section
variable (h : Backed redisEnabled s key)
include h

theorem Backed.occupied : s.occupied redisEnabled key=(s.liveLeases redisEnabled key).length := by
  unfold Backed at h
  unfold SlotStore.occupied SlotStore.liveLeases
  cases hbackend : key.backend redisEnabled with
  | redis =>
    rw [hbackend] at h
    exact congrArg List.length h.same
  | memory =>
    rw [hbackend] at h
    dsimp only at h ⊢
    rw [h,length_map]
  | counter =>
    rw [hbackend] at h
    exact h

theorem Backed.congr {s' : SlotStore} (hnow : s'.now=s.now)
    (hsets : s'.sets key=s.sets key) (hactive : s'.active key=s.active key)
    (hcount : s'.groupUserActive key=s.groupUserActive key) (hledger : s'.ledger key=s.ledger key) :
    Backed redisEnabled s' key := by
  unfold Backed at h ⊢
  rw [hnow,hsets,hactive,hcount,hledger]
  exact h

theorem Backed.wait (elapsed : Nat) : Backed redisEnabled (s.wait elapsed) key := by
  unfold Backed at h ⊢
  cases hbackend : key.backend redisEnabled with
  | redis =>
    rw [hbackend] at h
    exact h.wait (show s.now ≤ s.now+elapsed by omega)
  | memory | counter =>
    rw [hbackend] at h
    exact h

end

variable {ledger : List (Nat×Int)}

theorem mem_without {token dropped : Nat} :
    token∈(ledger.filter fun e => e.1≠dropped).map Prod.fst ↔ token∈ledger.map Prod.fst ∧ token≠dropped := by
  simp only [mem_map,mem_filter,decide_eq_true_eq]
  constructor
  · rintro ⟨e,⟨he,hne⟩,rfl⟩
    exact ⟨⟨e,he,rfl⟩,hne⟩
  · rintro ⟨⟨e,he,rfl⟩,hne⟩
    exact ⟨e,⟨he,hne⟩,rfl⟩

theorem length_without {token : Nat} (hnodup : (ledger.map Prod.fst).Nodup)
    (hmem : token∈ledger.map Prod.fst) : ledger.length-1=(ledger.filter fun e => e.1≠token).length := by
  have herase := hnodup.erase_eq_filter token
  have hlength := length_erase_of_mem hmem
  rw [herase,filter_map,length_map,length_map] at hlength
  rw [← hlength]
  congr 1
  apply filter_congr
  intro e _
  by_cases he : e.1=token
  · simp [he]
  · simp [he]

/-- A store whose counts are those of its ledger, with every token once, and no lease granted past its limit. -/
structure StoreSound (redisEnabled : Bool) (s : SlotStore) : Prop where
  backed : ∀ key, Backed redisEnabled s key
  fresh : ∀ key, ∀ e∈s.ledger key, e.1<s.nextToken
  nodup : ∀ key, ((s.ledger key).map Prod.fst).Nodup
  granted : ∀ g∈s.grants, (g.live : Int)<g.limit

theorem StoreSound.empty (redisEnabled : Bool) : StoreSound redisEnabled {} := by
  refine ⟨Backed.empty redisEnabled,?_,fun _ => nodup_nil,?_⟩
  · intro key e he
    cases he
  · intro g hg
    cases hg

theorem StoreSound.wait (h : StoreSound redisEnabled s) (elapsed : Nat) : StoreSound redisEnabled (s.wait elapsed) :=
  ⟨fun key => (h.backed key).wait elapsed,h.fresh,h.nodup,h.granted⟩

theorem StoreSound.has_lt (h : StoreSound redisEnabled s) {lease : Lease} (hhas : s.Has lease) : lease.token<s.nextToken := by
  obtain ⟨e,he,heq⟩ := mem_map.mp hhas
  rw [← heq]
  exact h.fresh lease.key e he

theorem tryTake_spec (key : SlotKey) (h : StoreSound redisEnabled s) (limit : Int) :
    ∀ r, s.tryTake redisEnabled key limit=r → ∃ sets active groupUserActive,
      r.1={ s with sets := sets, active := active, groupUserActive := groupUserActive } ∧
      (r.2=false ∧ (∀ k, Backed redisEnabled r.1 k) ∨ r.2=true ∧ ((s.liveLeases redisEnabled key).length : Int)<limit ∧
        ∀ k, Backed redisEnabled (r.1.record redisEnabled key limit) k) := by
  rintro _ rfl
  have hkey := h.backed key
  have hcount := hkey.occupied
  unfold Backed at hkey
  unfold SlotStore.occupied at hcount
  unfold SlotStore.tryTake
  cases hbackend : key.backend redisEnabled with
  | redis =>
    rw [hbackend] at hkey
    refine ⟨_,s.active,s.groupUserActive,rfl,?_⟩
    dsimp only at hkey ⊢
    obtain ⟨htaken,hlt,htracks⟩ | ⟨hrefused,htracks⟩ := hkey.acquire ttl_pos limit s.nextToken _ rfl
    · right
      refine ⟨htaken,?_,?_⟩
      · unfold SlotStore.liveLeases
        rw [hbackend]
        exact hlt
      · intro k
        by_cases hk : k=key
        · subst hk
          unfold Backed SlotStore.record
          rw [hbackend]
          dsimp only
          rw [update_self,update_self]
          exact htracks
        · exact (h.backed k).congr rfl (update_of_ne hk _ _) rfl rfl (update_of_ne hk _ _)
    · left
      refine ⟨hrefused,?_⟩
      intro k
      by_cases hk : k=key
      · subst hk
        unfold Backed
        rw [hbackend]
        dsimp only
        rw [update_self]
        exact htracks
      · exact (h.backed k).congr rfl (update_of_ne hk _ _) rfl rfl rfl
  | memory =>
    rw [hbackend] at hkey hcount
    dsimp only at hkey hcount ⊢
    by_cases hfull : limit≤(s.active key).length
    · rw [if_pos hfull]
      exact ⟨s.sets,s.active,s.groupUserActive,rfl,.inl ⟨rfl,h.backed⟩⟩
    · rw [if_neg hfull]
      refine ⟨s.sets,_,s.groupUserActive,rfl,.inr ⟨rfl,?_,?_⟩⟩
      · rw [← hcount]
        omega
      · intro k
        by_cases hk : k=key
        · subst hk
          unfold Backed SlotStore.record
          rw [hbackend]
          dsimp only
          rw [update_self,update_self,map_append,hkey]
          rfl
        · exact (h.backed k).congr rfl rfl (update_of_ne hk _ _) rfl (update_of_ne hk _ _)
  | counter =>
    rw [hbackend] at hkey hcount
    dsimp only at hkey hcount ⊢
    by_cases hfull : limit ≤ s.groupUserActive key
    · rw [if_pos hfull]
      exact ⟨s.sets,s.active,s.groupUserActive,rfl,.inl ⟨rfl,h.backed⟩⟩
    · rw [if_neg hfull]
      refine ⟨s.sets,s.active,_,rfl,.inr ⟨rfl,?_,?_⟩⟩
      · rw [← hcount]
        omega
      · intro k
        by_cases hk : k=key
        · subst hk
          unfold Backed SlotStore.record
          rw [hbackend]
          dsimp only
          rw [update_self,update_self,length_append,hkey]
          rfl
        · exact (h.backed k).congr rfl rfl rfl (update_of_ne hk _ _) (update_of_ne hk _ _)

structure Adds (s s' : SlotStore) (lease : Lease) : Prop where
  token : lease.token=s.nextToken
  next : s'.nextToken=s.nextToken+1
  has : ∀ l, s'.Has l ↔ s.Has l ∨ l=lease

structure Same (s s' : SlotStore) : Prop where
  next : s'.nextToken=s.nextToken
  has : ∀ l, s'.Has l ↔ s.Has l
  lost : s'.lost=s.lost

theorem Same.refl (s : SlotStore) : Same s s := ⟨rfl,fun _ => Iff.rfl,rfl⟩

theorem record_adds (redisEnabled : Bool) (s : SlotStore) (key : SlotKey) (limit : Int) :
    Adds s (s.record redisEnabled key limit) ⟨key,s.nextToken⟩ := by
  refine ⟨rfl,rfl,?_⟩
  rintro ⟨leaseKey,token⟩
  unfold SlotStore.Has SlotStore.record
  by_cases hk : leaseKey=key
  · subst hk
    simp only [update_self,map_append,mem_append,map_cons,map_nil,mem_singleton, Lease.mk.injEq,true_and]
  · simp only [update_of_ne hk,Lease.mk.injEq,hk,false_and,or_false]

inductive Acquired (s s' : SlotStore) (key : SlotKey) : Option (Option Lease) → Prop
  | refused (h : Same s s') : Acquired s s' key none
  | unlimited (h : Same s s') : Acquired s s' key (some none)
  | granted (lease : Lease) (hkey : lease.key=key) (h : Adds s s' lease) (hlost : s'.lost=s.lost) :
      Acquired s s' key (some (some lease))
  | orphaned (lease : Lease) (h : Adds s s' lease) (hlost : s'.lost=s.lost++[lease]) : Acquired s s' key none

theorem StoreSound.recorded (h : StoreSound redisEnabled s) {limit : Int} {sets : SlotKey → LeaseSet Nat}
    {active : SlotKey → List Nat} {groupUserActive : SlotKey → Nat} {lost : List Lease}
    (hlive : ((s.liveLeases redisEnabled key).length : Int)<limit)
    (hbacked : ∀ k, Backed redisEnabled
      (SlotStore.record redisEnabled { s with sets := sets, active := active, groupUserActive := groupUserActive } key limit) k) :
    StoreSound redisEnabled
      { SlotStore.record redisEnabled { s with sets := sets, active := active, groupUserActive := groupUserActive } key limit
        with lost := lost } := by
  refine ⟨fun k => (hbacked k).congr rfl rfl rfl rfl rfl,?_,?_,?_⟩
  · intro k e he
    by_cases hk : k=key
    · subst hk
      unfold SlotStore.record at he ⊢
      dsimp only at he ⊢
      rw [update_self] at he
      obtain hold | hnew := mem_append.mp he
      · exact Nat.lt_succ_of_lt (h.fresh k e hold)
      obtain rfl := mem_singleton.mp hnew
      exact Nat.lt_succ_self _
    · unfold SlotStore.record at he ⊢
      dsimp only at he ⊢
      rw [update_of_ne hk] at he
      exact Nat.lt_succ_of_lt (h.fresh k e he)
  · intro k
    unfold SlotStore.record
    dsimp only
    by_cases hk : k=key
    · subst hk
      rw [update_self,map_append,nodup_append]
      refine ⟨h.nodup k,pairwise_singleton _ _,?_⟩
      intro token htoken other hother
      obtain rfl := mem_singleton.mp hother
      obtain ⟨e,he,rfl⟩ := mem_map.mp htoken
      exact Nat.ne_of_lt (h.fresh k e he)
    · rw [update_of_ne hk]
      exact h.nodup k
  · intro g hg
    obtain hold | hnew := mem_append.mp hg
    · exact h.granted g hold
    obtain rfl := mem_singleton.mp hnew
    exact hlive

theorem StoreSound.acquire (h : StoreSound redisEnabled s) (key : SlotKey) (limit : Int) (outcome : Outcome) :
    ∀ r, s.acquire redisEnabled key limit outcome=r → StoreSound redisEnabled r.1 ∧ Acquired s r.1 key r.2 := by
  rintro _ rfl
  unfold SlotStore.acquire
  by_cases hexempt : limit≤0 ∨ key.exempt
  · rw [if_pos hexempt]
    exact ⟨h,.unlimited (Same.refl s)⟩
  · rw [if_neg hexempt]
    by_cases hfails : key.isChannel ∧ outcome=.lost
    · rw [if_pos hfails]
      exact ⟨h,.refused (Same.refl s)⟩
    · rw [if_neg hfails]
      obtain ⟨⟨taken,granted⟩,hpair⟩ : ∃ out, s.tryTake redisEnabled key limit=out := ⟨_,rfl⟩
      obtain ⟨sets,active,groupUserActive,htaken,hout⟩ := tryTake_spec key h limit _ hpair
      rw [hpair]
      dsimp only at htaken hout ⊢
      subst htaken
      obtain ⟨rfl,hbacked⟩ | ⟨rfl,hlive,hbacked⟩ := hout
      · exact ⟨⟨hbacked,h.fresh,h.nodup,h.granted⟩,.refused ⟨rfl,fun _ => Iff.rfl,rfl⟩⟩
      rw [Bool.not_true,if_neg Bool.false_ne_true]
      have hadds := record_adds redisEnabled
        { s with sets := sets, active := active, groupUserActive := groupUserActive } key limit
      by_cases hunanswered : key.backend redisEnabled=.redis ∧ outcome=.unanswered
      · rw [if_pos hunanswered]
        exact ⟨h.recorded hlive hbacked,.orphaned _ ⟨rfl,rfl,hadds.has⟩ rfl⟩
      · rw [if_neg hunanswered]
        exact ⟨h.recorded hlive hbacked,.granted _ rfl ⟨rfl,rfl,hadds.has⟩ rfl⟩

structure Drops (s s' : SlotStore) (lease : Lease) : Prop where
  next : s'.nextToken=s.nextToken
  has : ∀ l, s'.Has l ↔ s.Has l ∧ l≠lease
  lost : s'.lost=s.lost

theorem StoreSound.giveBack (h : StoreSound redisEnabled s) {lease : Lease} (hhas : s.Has lease) :
    StoreSound redisEnabled (s.giveBack redisEnabled lease) ∧ Drops s (s.giveBack redisEnabled lease) lease := by
  obtain ⟨ledger,hledger⟩ : ∃ ledger, ledger =
      Function.update s.ledger lease.key ((s.ledger lease.key).filter fun e => e.1≠lease.token) := ⟨_,rfl⟩
  obtain ⟨sets,active,groupUserActive,heq,hbacked⟩ : ∃ sets active groupUserActive, s.giveBack redisEnabled lease =
        { s with ledger := ledger, sets := sets, active := active, groupUserActive := groupUserActive } ∧
      ∀ k, Backed redisEnabled (s.giveBack redisEnabled lease) k := by
    have hkey := h.backed lease.key
    unfold Backed at hkey
    unfold SlotStore.giveBack
    rw [hledger]
    cases hbackend : lease.key.backend redisEnabled with
    | redis =>
      rw [hbackend] at hkey
      refine ⟨_,s.active,s.groupUserActive,rfl,?_⟩
      intro k
      by_cases hk : k=lease.key
      · subst hk
        unfold Backed
        rw [hbackend]
        dsimp only
        rw [update_self,update_self]
        exact hkey.release lease.token
      · exact (h.backed k).congr rfl (update_of_ne hk _ _) rfl rfl (update_of_ne hk _ _)
    | memory =>
      rw [hbackend] at hkey
      refine ⟨s.sets,_,s.groupUserActive,rfl,?_⟩
      intro k
      by_cases hk : k=lease.key
      · subst hk
        unfold Backed
        rw [hbackend]
        dsimp only at hkey ⊢
        rw [update_self,update_self,hkey,filter_map]
        rfl
      · exact (h.backed k).congr rfl rfl (update_of_ne hk _ _) rfl (update_of_ne hk _ _)
    | counter =>
      rw [hbackend] at hkey
      refine ⟨s.sets,s.active,_,rfl,?_⟩
      intro k
      by_cases hk : k=lease.key
      · subst hk
        unfold Backed
        rw [hbackend]
        dsimp only at hkey ⊢
        rw [update_self,update_self,hkey,length_without (h.nodup lease.key) hhas]
      · exact (h.backed k).congr rfl rfl rfl (update_of_ne hk _ _) (update_of_ne hk _ _)
  rw [heq] at hbacked ⊢
  subst hledger
  refine ⟨⟨hbacked,?_,?_,h.granted⟩,rfl,?_,rfl⟩
  · intro k e he
    by_cases hk : k=lease.key
    · subst hk
      dsimp only at he
      rw [update_self] at he
      exact h.fresh _ e (mem_filter.mp he).1
    · dsimp only at he
      rw [update_of_ne hk] at he
      exact h.fresh k e he
  · intro k
    dsimp only
    by_cases hk : k=lease.key
    · subst hk
      rw [update_self]
      exact (h.nodup lease.key).sublist (List.Sublist.map _ filter_sublist)
    · rw [update_of_ne hk]
      exact h.nodup k
  · rintro ⟨leaseKey,token⟩
    obtain ⟨key,dropped⟩ := lease
    unfold SlotStore.Has
    dsimp only
    by_cases hk : leaseKey=key
    · subst hk
      rw [update_self,mem_without]
      simp only [ne_eq,Lease.mk.injEq,true_and]
    · rw [update_of_ne hk]
      simp only [ne_eq,Lease.mk.injEq,hk,false_and,not_false_eq_true,and_true]

theorem StoreSound.resetSet (h : StoreSound redisEnabled s) (hbackend : key.backend redisEnabled=.redis) {set : LeaseSet Nat}
    {move : Nat×Int → Nat×Int} (hmove : ∀ e, (move e).1=e.1)
    (htracks : Tracks set ((s.ledger key).map move) s.now channelConcurrencyLeaseTTL) :
    StoreSound redisEnabled
        { s with sets := Function.update s.sets key set, ledger := Function.update s.ledger key ((s.ledger key).map move) } ∧
      Same s { s with sets := Function.update s.sets key set, ledger := Function.update s.ledger key ((s.ledger key).map move) } := by
  have htokens : ∀ k, (Function.update s.ledger key ((s.ledger key).map move) k).map Prod.fst=(s.ledger k).map Prod.fst := by
    intro k
    by_cases hk : k=key
    · subst hk
      rw [update_self,map_map]
      apply map_congr_left
      intro e _
      exact hmove e
    · rw [update_of_ne hk]
  refine ⟨⟨?_,?_,?_,h.granted⟩,rfl,?_,rfl⟩
  · intro k
    by_cases hk : k=key
    · subst hk
      unfold Backed
      rw [hbackend]
      dsimp only
      rw [update_self,update_self]
      exact htracks
    · exact (h.backed k).congr rfl (update_of_ne hk _ _) rfl rfl (update_of_ne hk _ _)
  · intro k e he
    have hmem : e.1∈(s.ledger k).map Prod.fst := by
      rw [← htokens k]
      exact mem_map_of_mem he
    obtain ⟨old,hold,hsame⟩ := mem_map.mp hmem
    rw [← hsame]
    exact h.fresh k old hold
  · intro k
    dsimp only
    rw [htokens]
    exact h.nodup k
  · intro lease
    unfold SlotStore.Has
    dsimp only
    rw [htokens]

theorem StoreSound.renew (h : StoreSound redisEnabled s) (lease : Lease) (outcome : Outcome) :
    StoreSound redisEnabled (s.renew redisEnabled lease outcome) ∧ Same s (s.renew redisEnabled lease outcome) := by
  unfold SlotStore.renew
  by_cases hidle : lease.key.backend redisEnabled≠.redis ∨ outcome=.lost
  · rw [if_pos hidle]
    exact ⟨h,Same.refl s⟩
  · rw [if_neg hidle]
    have hbackend : lease.key.backend redisEnabled=.redis := by
      by_contra hne
      exact hidle (.inl hne)
    have hkey := h.backed lease.key
    unfold Backed at hkey
    rw [hbackend] at hkey
    exact h.resetSet hbackend (fun e => extend_fst) (hkey.renew ttl_pos lease.token)

theorem StoreSound.available (h : StoreSound redisEnabled s) (key : SlotKey) (limit : Int) (outcome : Outcome) :
    StoreSound redisEnabled (s.available redisEnabled key limit outcome).1 ∧
      Same s (s.available redisEnabled key limit outcome).1 := by
  unfold SlotStore.available
  by_cases hunlimited : limit≤0
  · rw [if_pos hunlimited]
    exact ⟨h,Same.refl s⟩
  · rw [if_neg hunlimited]
    cases hbackend : key.backend redisEnabled with
    | redis =>
      dsimp only
      by_cases hlost : outcome=.lost
      · rw [if_pos hlost]
        exact ⟨h,Same.refl s⟩
      · rw [if_neg hlost]
        have hkey := h.backed key
        unfold Backed at hkey
        rw [hbackend] at hkey
        have hset := @StoreSound.resetSet _ _ _ h hbackend _ id (fun e => rfl) (by
          rw [map_id]
          exact hkey.pruned)
        rw [map_id,update_eq_self] at hset
        exact hset
    | memory | counter => exact ⟨h,Same.refl s⟩

end Backing

end NewApi.Concurrency
