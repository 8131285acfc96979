import NewApi.Concurrency.Requests
import NewApi.Lib.Threads

/-! Slots under any interleaving of requests, of renewals by the heartbeats, and of the looks that selection takes. -/
namespace NewApi.Concurrency
open List LeaseSets Threads Runs

inductive Call where
  | request (code : Prog) (held : Holdings)
  | renew (lease : Lease)
  | available (key : SlotKey) (limit : Int)
  | done

inductive CallOp where
  | distribute (req : Request)
  | renew (lease : Lease)
  | available (key : SlotKey) (limit : Int)

/-- What the environment decides at a step: the time that has passed, and how an operation on Redis ends. -/
structure SlotChoice where
  elapsed : Nat := 0
  outcome : Outcome := .answered

def Holdings.take (held : Holdings) : Option (Option Lease) → Holdings
  | some (some lease) => held.add lease
  | _ => held

def slotAdvance (redisEnabled : Bool) (s : SlotStore) (c : SlotChoice) : Call → SlotStore×Call
  | .request .returned held => (s,.request .returned held)
  | .request (.acquire key limit next) held =>
    let out := s.acquire redisEnabled key limit c.outcome
    (out.1,.request (next out.2) (held.take out.2))
  | .request (.release lease next) held => (s.release redisEnabled lease c.outcome,.request next (held.remove lease))
  | .renew lease => (s.renew redisEnabled lease c.outcome,.done)
  | .available key limit => ((s.available redisEnabled key limit c.outcome).1,.done)
  | .done => (s,.done)

def slotSystem (redisEnabled : Bool) : System SlotStore Call CallOp SlotChoice where
  init
    | .distribute req => .request (distribute redisEnabled req) {}
    | .renew lease => .renew lease
    | .available key limit => .available key limit
  advance s call c := slotAdvance redisEnabled (s.wait c.elapsed) c call

def idle : Pool SlotStore Call := { shared := {}, threads := [] }

namespace Call

def held : Call → Holdings
  | request _ held => held
  | _ => {}

def returned : Call → Bool
  | request .returned _ => true
  | _ => false

def Safe : Call → Prop
  | request code held => code.Safe held
  | _ => True

/-- A call has one slot of a user in a group, and one of a channel, or two of which it gives the older one back next. -/
def Bounded : Call → Prop
  | request code held => held.groupUsers.length≤1 ∧
      (held.channels.length≤1 ∨ ∃ old new next, code=.release old next ∧ held.channels=[old,new])
  | _ => True

theorem Safe.bounded {t : Call} (h : t.Safe) : t.Bounded := by
  cases t with
  | request code held =>
    cases code with
    | returned => exact ⟨by rw [h.2]; exact Nat.zero_le 1,.inl (by rw [h.1]; exact Nat.zero_le 1)⟩
    | acquire key limit next => exact ⟨h.2.1,.inl h.1⟩
    | release lease next =>
      refine ⟨h.2.2.1,h.2.1.imp_right ?_⟩
      rintro ⟨new,hnew⟩
      exact ⟨lease,new,next,rfl,hnew⟩
  | renew | available | done => trivial

theorem Safe.returned {t : Call} (h : t.Safe) (hreturned : t.returned=true) : t.held.all=[] := by
  cases t with
  | request code held =>
    cases code with
    | returned =>
      show held.channels++held.groupUsers=[]
      rw [h.1,h.2]
      rfl
    | acquire | release => cases hreturned
  | renew | available | done => cases hreturned

end Call

/-- What a step does to the ledger and to the leases of the call that makes it. -/
inductive Effect (s s' : SlotStore) (held : Holdings) : Holdings → Prop
  | same (h : Same s s') : Effect s s' held held
  | granted (lease : Lease) (h : Adds s s' lease) (hlost : s'.lost=s.lost) : Effect s s' held (held.add lease)
  | orphaned (lease : Lease) (h : Adds s s' lease) (hlost : s'.lost=s.lost++[lease]) : Effect s s' held held
  | dropped (lease : Lease) (hheld : lease∈held.all) (h : Drops s s' lease) : Effect s s' held (held.remove lease)
  | abandoned (lease : Lease) (hheld : lease∈held.all) (hnext : s'.nextToken=s.nextToken)
      (hhas : ∀ l, s'.Has l ↔ s.Has l) (hlost : s'.lost=s.lost++[lease]) : Effect s s' held (held.remove lease)

section Steps
variable {redisEnabled : Bool} {s : SlotStore} {c : SlotChoice} {t : Call}

theorem slotAdvance_spec (hs : StoreSound redisEnabled s) (ht : t.Safe) (hheld : ∀ l∈t.held.all, s.Has l) :
    ∀ r, slotAdvance redisEnabled s c t=r → StoreSound redisEnabled r.1 ∧ r.2.Safe ∧ Effect s r.1 t.held r.2.held := by
  rintro _ rfl
  cases t with
  | request code held =>
    cases code with
    | returned => exact ⟨hs,ht,.same (Same.refl s)⟩
    | acquire key limit next =>
      obtain ⟨out,hout⟩ : ∃ out, s.acquire redisEnabled key limit c.outcome=out := ⟨_,rfl⟩
      obtain ⟨hsound,hacquired⟩ := hs.acquire key limit c.outcome out hout
      unfold slotAdvance
      dsimp only
      rw [hout]
      refine ⟨hsound,?_⟩
      obtain ⟨s',answer⟩ := out
      dsimp only at hacquired ⊢
      cases hacquired with
      | refused h => exact ⟨ht.2.2.2.1,.same h⟩
      | unlimited h => exact ⟨ht.2.2.2.2.1,.same h⟩
      | granted lease hkey h hlost =>
        refine ⟨?_,.granted lease h hlost⟩
        obtain ⟨leaseKey,token⟩ := lease
        obtain rfl : leaseKey=key := hkey
        apply ht.2.2.2.2.2
        intro l hl
        rw [show token=s.nextToken from h.token]
        exact hs.has_lt (hheld l hl)
      | orphaned lease h hlost => exact ⟨ht.2.2.2.1,.orphaned lease h hlost⟩
    | release lease next =>
      have hmem : lease∈held.all := ht.1
      unfold slotAdvance SlotStore.release
      dsimp only
      by_cases hlost : lease.key.backend redisEnabled=.redis ∧ c.outcome=.lost
      · rw [if_pos hlost]
        refine ⟨⟨fun key => (hs.backed key).congr rfl rfl rfl rfl rfl,hs.fresh,hs.nodup,hs.granted⟩,ht.2.2.2,?_⟩
        exact .abandoned lease hmem rfl (fun _ => Iff.rfl) rfl
      · rw [if_neg hlost]
        obtain ⟨hsound,hdrops⟩ := hs.giveBack (hheld lease hmem)
        exact ⟨hsound,ht.2.2.2,.dropped lease hmem hdrops⟩
  | renew lease =>
    obtain ⟨hsound,hsame⟩ := hs.renew lease c.outcome
    exact ⟨hsound,trivial,.same hsame⟩
  | available key limit =>
    obtain ⟨hsound,hsame⟩ := hs.available key limit c.outcome
    exact ⟨hsound,trivial,.same hsame⟩
  | done => exact ⟨hs,trivial,.same (Same.refl s)⟩

end Steps

/-- Every lease of the ledger is held by one call, or an operation on Redis failed to give it to its call or to take it
back. -/
structure SlotSound (redisEnabled : Bool) (p : Pool SlotStore Call) : Prop where
  store : StoreSound redisEnabled p.shared
  safe : ∀ t∈p.threads, t.Safe
  held : ∀ t∈p.threads, ∀ l∈t.held.all, p.shared.Has l
  distinct : ∀ (i j : Nat) (t u : Call), p.threads[i]? = some t → p.threads[j]? = some u → ∀ l∈t.held.all, l∈u.held.all → i=j
  owned : ∀ l, p.shared.Has l → l∈p.shared.lost ∨ ∃ t∈p.threads, l∈t.held.all

namespace Effect
variable {s s' : SlotStore} {held held' : Holdings}

section
variable (h : Effect s s' held held')
include h

theorem acquired : ∀ l∈held'.all, l∈held.all ∨ l.token=s.nextToken := by
  intro l hl
  cases h with
  | same => exact .inl hl
  | granted lease h =>
    apply (Holdings.mem_add.mp hl).imp_right
    rintro rfl
    exact h.token
  | orphaned => exact .inl hl
  | dropped _ | abandoned _ => exact .inl (Holdings.mem_remove.mp hl).1

theorem kept (hheld : ∀ l∈held.all, s.Has l) {l : Lease} (hl : l∈held'.all ∨ s.Has l ∧ l∉held.all) : s'.Has l := by
  have hstill : ∀ l, l∈held.all ∨ s.Has l ∧ l∉held.all → s.Has l := fun l hl => hl.elim (hheld l) And.left
  cases h with
  | same h => exact (h.has l).mpr (hstill l hl)
  | granted lease h =>
    apply (h.has l).mpr
    obtain hl | hl := hl
    · exact (Holdings.mem_add.mp hl).imp_left (hheld l)
    · exact .inl hl.1
  | orphaned lease h => exact (h.has l).mpr (.inl (hstill l hl))
  | dropped lease hmem h =>
    apply (h.has l).mpr
    obtain hl | hl := hl
    · obtain ⟨hold,hne⟩ := Holdings.mem_remove.mp hl
      exact ⟨hheld l hold,hne⟩
    · refine ⟨hl.1,?_⟩
      rintro rfl
      exact hl.2 hmem
  | abandoned lease hmem _ hhas =>
    apply (hhas l).mpr
    exact hstill l (hl.imp_left fun hl => (Holdings.mem_remove.mp hl).1)

theorem accounted {l : Lease} (hl : s'.Has l) : (s.Has l ∧ l∉held.all) ∨ l∈held'.all ∨ l∈s'.lost := by
  by_cases hmem : l∈held.all
  · right
    cases h with
    | same => exact .inl hmem
    | granted lease => exact .inl (Holdings.mem_add.mpr (.inl hmem))
    | orphaned => exact .inl hmem
    | dropped lease _ h => exact .inl (Holdings.mem_remove.mpr ⟨hmem,((h.has l).mp hl).2⟩)
    | abandoned lease _ _ _ hlost =>
      by_cases heq : l=lease
      · right
        rw [hlost,heq]
        exact mem_append_right _ (mem_singleton_self _)
      · exact .inl (Holdings.mem_remove.mpr ⟨hmem,heq⟩)
  · cases h with
    | same h => exact .inl ⟨(h.has l).mp hl,hmem⟩
    | granted lease h =>
      obtain hold | hnew := (h.has l).mp hl
      · exact .inl ⟨hold,hmem⟩
      · exact .inr (.inl (Holdings.mem_add.mpr (.inr hnew)))
    | orphaned lease h hlost =>
      obtain hold | hnew := (h.has l).mp hl
      · exact .inl ⟨hold,hmem⟩
      right
      right
      rw [hlost,hnew]
      exact mem_append_right _ (mem_singleton_self _)
    | dropped lease _ h => exact .inl ⟨((h.has l).mp hl).1,hmem⟩
    | abandoned lease _ _ hhas => exact .inl ⟨(hhas l).mp hl,hmem⟩

theorem lost : ∀ l∈s.lost, l∈s'.lost := by
  intro l hl
  cases h with
  | same h =>
    rw [h.lost]
    exact hl
  | granted lease _ hlost =>
    rw [hlost]
    exact hl
  | orphaned lease _ hlost =>
    rw [hlost]
    exact mem_append_left _ hl
  | dropped lease _ h =>
    rw [h.lost]
    exact hl
  | abandoned lease _ _ _ hlost =>
    rw [hlost]
    exact mem_append_left _ hl

end

end Effect

section Runs
variable {redisEnabled : Bool} {p : Pool SlotStore Call}

theorem SlotSound.moved (hp : SlotSound redisEnabled p) {i : Nat} {t t' : Call} {s' : SlotStore}
    (hi : p.threads[i]? = some t) (hs : StoreSound redisEnabled s') (ht : t'.Safe) (heffect : Effect p.shared s' t.held t'.held) :
    SlotSound redisEnabled { shared := s', threads := p.threads.set i t' } := by
  have hlt : i<p.threads.length := (List.getElem?_eq_some_iff.mp hi).1
  have htheld : ∀ l∈t.held.all, p.shared.Has l := hp.held t (mem_of_getElem? hi)
  -- A call at another place holds nothing of the moving one, before and after.
  have hothers : ∀ (j : Nat) (u : Call), p.threads[j]? = some u → i≠j → ∀ l∈u.held.all, l∉t.held.all ∧ l∉t'.held.all := by
    intro j u hj hij l hl
    have hnot : l∉t.held.all := fun hmem => hij (hp.distinct i j t u hi hj l hmem hl)
    refine ⟨hnot,fun hmem => ?_⟩
    obtain hold | hfresh := heffect.acquired l hmem
    · exact hnot hold
    have hless := hp.store.has_lt (hp.held u (mem_of_getElem? hj) l hl)
    rw [hfresh] at hless
    exact Nat.lt_irrefl _ hless
  have hplace : ∀ (j : Nat) (u : Call), (p.threads.set i t')[j]? = some u → j=i ∧ u=t' ∨ i≠j ∧ p.threads[j]? = some u := by
    intro j u hj
    by_cases hij : i=j
    · subst hij
      rw [getElem?_set_self hlt] at hj
      exact .inl ⟨rfl,(Option.some.inj hj).symm⟩
    · rw [getElem?_set_ne hij] at hj
      exact .inr ⟨hij,hj⟩
  refine ⟨hs,?_,?_,?_,?_⟩
  · intro u hu
    obtain hold | hnew := mem_or_eq_of_mem_set hu
    · exact hp.safe u hold
    rw [hnew]
    exact ht
  · intro u hu l hl
    obtain ⟨j,hj⟩ := mem_iff_getElem?.mp hu
    obtain ⟨-,rfl⟩ | ⟨hij,hj'⟩ := hplace j u hj
    · exact heffect.kept htheld (.inl hl)
    · exact heffect.kept htheld (.inr ⟨hp.held u (mem_of_getElem? hj') l hl,(hothers j u hj' hij l hl).1⟩)
  · intro j k u v hj hk l hlu hlv
    obtain ⟨rfl,rfl⟩ | ⟨hij,hj'⟩ := hplace j u hj
    · obtain ⟨rfl,-⟩ | ⟨hik,hk'⟩ := hplace k v hk
      · rfl
      · exact absurd hlu (hothers k v hk' hik l hlv).2
    · obtain ⟨rfl,rfl⟩ | ⟨hik,hk'⟩ := hplace k v hk
      · exact absurd hlv (hothers j u hj' hij l hlu).2
      · exact hp.distinct j k u v hj' hk' l hlu hlv
  · intro l hl
    obtain ⟨hold,hnot⟩ | hmine | hlost := heffect.accounted hl
    · apply (hp.owned l hold).imp (heffect.lost l)
      rintro ⟨u,hu,hlu⟩
      obtain rfl | hset := eq_or_mem_set hi hu t'
      · exact absurd hlu hnot
      · exact ⟨u,hset,hlu⟩
    · exact .inr ⟨t',mem_set_self hi t',hmine⟩
    · exact .inl hlost

theorem SlotSound.start (hp : SlotSound redisEnabled p) {t : Call} (ht : t.Safe) (hnone : t.held.all=[]) :
    SlotSound redisEnabled { p with threads := p.threads++[t] } := by
  have hplace : ∀ (j : Nat) (u : Call), (p.threads++[t])[j]? = some u → p.threads[j]? = some u ∨ u=t := by
    intro j u hj
    rw [getElem?_append] at hj
    split at hj
    · exact .inl hj
    · exact .inr (mem_singleton.mp (mem_of_getElem? hj))
  have hempty : ∀ l, l∉t.held.all := by
    intro l hl
    rw [hnone] at hl
    cases hl
  refine ⟨hp.store,?_,?_,?_,?_⟩
  · intro u hu
    obtain hold | hnew := mem_append.mp hu
    · exact hp.safe u hold
    rw [mem_singleton.mp hnew]
    exact ht
  · intro u hu l hl
    obtain hold | hnew := mem_append.mp hu
    · exact hp.held u hold l hl
    rw [mem_singleton.mp hnew] at hl
    exact absurd hl (hempty l)
  · intro j k u v hj hk l hlu hlv
    obtain hj' | rfl := hplace j u hj
    · obtain hk' | rfl := hplace k v hk
      · exact hp.distinct j k u v hj' hk' l hlu hlv
      · exact absurd hlv (hempty l)
    · exact absurd hlu (hempty l)
  · intro l hl
    apply (hp.owned l hl).imp_right
    rintro ⟨u,hu,hlu⟩
    exact ⟨u,mem_append_left _ hu,hlu⟩

theorem SlotSound.act (hp : SlotSound redisEnabled p) (a : Act CallOp SlotChoice) :
    SlotSound redisEnabled ((slotSystem redisEnabled).act p a) := by
  cases a with
  | start o =>
    cases o with
    | distribute req => exact hp.start (distribute_safe redisEnabled req) rfl
    | renew _ | available _ _ => exact hp.start trivial rfl
  | step i c =>
    cases hi : p.threads[i]? with
    | none =>
      rw [System.act_idle hi]
      exact hp
    | some t =>
      rw [System.act_step hi]
      have hwait : SlotSound redisEnabled { p with shared := p.shared.wait c.elapsed } :=
        ⟨hp.store.wait c.elapsed,hp.safe,hp.held,hp.distinct,hp.owned⟩
      have hmem := mem_of_getElem? hi
      obtain ⟨hs,ht,heffect⟩ := @slotAdvance_spec redisEnabled _ c t hwait.store (hp.safe t hmem) (hwait.held t hmem) _ rfl
      exact hwait.moved hi hs ht heffect

theorem SlotSound.run (hp : SlotSound redisEnabled p) (acts : List (Act CallOp SlotChoice)) :
    SlotSound redisEnabled (Runs.run (slotSystem redisEnabled).act acts p) := by
  induction acts generalizing p with
  | nil => exact hp
  | cons a acts ih => exact ih (hp.act a)

theorem idle_sound (redisEnabled : Bool) : SlotSound redisEnabled idle := by
  refine ⟨StoreSound.empty redisEnabled,?_,?_,?_,?_⟩
  · intro t ht
    cases ht
  · intro t ht
    cases ht
  · intro i j t u hi
    cases hi
  · intro l hl
    cases hl

/-- In every state of every run: no lease past its limit, counts equal to the live leases, one slot of each kind for a
request (two of channels for the moment of a swap), and no lease left behind but by a failed operation on Redis. -/
theorem slots_neither_exceeded_nor_leaked (redisEnabled : Bool) (acts : List (Act CallOp SlotChoice)) :
    let p := Runs.run (slotSystem redisEnabled).act acts idle
    (∀ g∈p.shared.grants, (g.live : Int)<g.limit) ∧
    (∀ key, p.shared.occupied redisEnabled key=(p.shared.liveLeases redisEnabled key).length ∧
      (key.backend redisEnabled=.redis → (p.shared.sets key).prune p.shared.now=p.shared.liveLeases redisEnabled key)) ∧
    (∀ t∈p.threads, t.Bounded ∧ (t.returned=true → t.held.all=[]) ∧ ∀ l∈t.held.all, p.shared.Has l) ∧
    (∀ (i j : Nat) (t u : Call), p.threads[i]? = some t → p.threads[j]? = some u → ∀ l∈t.held.all, l∈u.held.all → i=j) ∧
    ∀ l, p.shared.Has l → l∈p.shared.lost ∨ ∃ t∈p.threads, l∈t.held.all := by
  intro p
  have hp := (idle_sound redisEnabled).run acts
  refine ⟨hp.store.granted,?_,?_,hp.distinct,hp.owned⟩
  · intro key
    have hkey := hp.store.backed key
    refine ⟨hkey.occupied,fun hbackend => ?_⟩
    unfold Backed at hkey
    unfold SlotStore.liveLeases
    rw [hbackend] at hkey ⊢
    exact hkey.same
  · intro t ht
    exact ⟨(hp.safe t ht).bounded,(hp.safe t ht).returned,hp.held t ht⟩

end Runs

section Swaps

def retriedRequest (process : Nat) : Request :=
  { process := process
    userID := 7
    first := some { channelID := 1, concurrencyLimit := 5, group := some { groupID := 3, singleUserConcurrencyLimit := 1 } }
    retries := [{ channelID := 2, concurrencyLimit := 5, group := some { groupID := 3, singleUserConcurrencyLimit := 1 } }] }

def stepTimes (i n : Nat) : List (Act CallOp SlotChoice) := List.replicate n (.step i {})

def swapRun : List (Act CallOp SlotChoice) := .start (.distribute (retriedRequest 0))::stepTimes 0 3

def twoProcesses : List (Act CallOp SlotChoice) :=
  [.start (.distribute (retriedRequest 0)),.start (.distribute (retriedRequest 1))]++stepTimes 0 2++stepTimes 1 2

def failedRelease : List (Act CallOp SlotChoice) :=
  .start (.distribute { retriedRequest 0 with retries := [] })::stepTimes 0 3++[.step 0 { outcome := .lost }]

theorem retry_holds_two_slots : (¬∀ t∈(run (slotSystem true).act swapRun idle).threads, t.held.channels.length≤1) ∧
    (((run (slotSystem true).act twoProcesses idle).shared.liveLeases true (.groupUser 0 7 3)).length +
      ((run (slotSystem true).act twoProcesses idle).shared.liveLeases true (.groupUser 1 7 3)).length=2) ∧
    (∀ t∈(run (slotSystem true).act failedRelease idle).threads, t.returned=true) ∧
    (run (slotSystem true).act failedRelease idle).shared.liveLeases true (.channel 0 1)≠[] := by
  refine ⟨?_,?_,?_,?_⟩ <;> decide +kernel

end Swaps

end NewApi.Concurrency
