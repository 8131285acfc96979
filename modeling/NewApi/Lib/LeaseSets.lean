import Mathlib.Tactic.Common

/-! Leases that end by themselves: a set of tokens with the times their leases end, stored under a key that expires as a whole.
The set is compared with a ledger, which has every lease that was granted and not given back. -/
namespace LeaseSets
open List
variable {τ : Type*}

structure LeaseSet (τ : Type*) where
  members : List (τ×Int) := []
  expireAt : Int := 0

def alive (now : Int) (lease : τ×Int) : Bool := now<lease.2

def extend [DecidableEq τ] (now ttl : Int) (token : τ) (lease : τ×Int) : τ×Int :=
  if lease.1=token ∧ alive now lease then (token,now+ttl) else lease

namespace LeaseSet
variable (s : LeaseSet τ) (now ttl : Int)

def visible : List (τ×Int) := if s.expireAt<now then [] else s.members

def prune : List (τ×Int) := (s.visible now).filter (alive now)

def acquire (limit : Int) (token : τ) : LeaseSet τ×Bool :=
  if limit≤(s.prune now).length then ({ s with members := s.prune now },false)
  else ({ members := s.prune now++[(token,now+ttl)], expireAt := now+ttl },true)

def available (limit : Int) : LeaseSet τ×Bool :=
  ({ s with members := s.prune now },(s.prune now).length<limit)

def renew [DecidableEq τ] (token : τ) : LeaseSet τ×Bool :=
  if token∈(s.prune now).map Prod.fst then
    ({ members := (s.prune now).map fun lease => if lease.1=token then (token,now+ttl) else lease, expireAt := now+ttl },
      true)
  else ({ s with members := s.prune now },false)

def release [DecidableEq τ] (token : τ) : LeaseSet τ := { s with members := (s.visible now).filter fun lease => lease.1≠token }

end LeaseSet

section Alive
variable {now later ttl : Int} {token : τ} {lease : τ×Int}

theorem extend_alive [DecidableEq τ] (httl : 0<ttl) : alive now (extend now ttl token lease)=alive now lease := by
  unfold extend
  by_cases h : lease.1=token ∧ alive now lease
  · rw [if_pos h,h.2]
    simp only [alive,decide_eq_true_eq]
    omega
  · rw [if_neg h]

theorem filter_extend [DecidableEq τ] (httl : 0<ttl) (ledger : List (τ×Int)) :
    (ledger.map (extend now ttl token)).filter (alive now)=(ledger.filter (alive now)).map (extend now ttl token) := by
  rw [filter_map]
  congr 1
  apply filter_congr
  intro lease _
  exact extend_alive httl

theorem extend_fst [DecidableEq τ] : (extend now ttl token lease).1=lease.1 := by
  unfold extend
  split
  · next h => exact h.1.symm
  · rfl

theorem map_extend_of_not_mem [DecidableEq τ] {ledger : List (τ×Int)} (h : token∉(ledger.filter (alive now)).map Prod.fst) :
    ledger.map (extend now ttl token)=ledger := by
  conv_rhs => rw [← map_id ledger]
  apply map_congr_left
  intro lease hlease
  unfold extend
  rw [if_neg]
  · rfl
  rintro ⟨rfl,halive⟩
  exact h (mem_map_of_mem (mem_filter.mpr ⟨hlease,halive⟩))

theorem alive_mono (hle : now≤later) (h : alive later lease=true) : alive now lease=true := by
  simp only [alive,decide_eq_true_eq] at h ⊢
  omega

theorem filter_later (hle : now≤later) (ledger : List (τ×Int)) :
    (ledger.filter (alive now)).filter (alive later)=ledger.filter (alive later) := by
  rw [filter_filter]
  apply filter_congr
  intro lease _
  cases h : alive later lease with
  | false => rfl
  | true => rw [alive_mono hle h,Bool.and_self]

end Alive

/-- The set has exactly the live leases of the ledger, and its key outlives them. -/
structure Tracks (s : LeaseSet τ) (ledger : List (τ×Int)) (now ttl : Int) : Prop where
  same : s.prune now=ledger.filter (alive now)
  covered : ∀ lease∈s.members, lease.2 ≤ s.expireAt
  bounded : ∀ lease∈s.members, lease.2≤now+ttl

namespace Tracks
variable {s : LeaseSet τ} {ledger : List (τ×Int)} {now later ttl : Int}

theorem mem_prune {lease : τ×Int} (h : lease∈s.prune now) : lease∈s.members ∧ alive now lease=true := by
  obtain ⟨hvisible,halive⟩ := mem_filter.mp h
  unfold LeaseSet.visible at hvisible
  split at hvisible
  · cases hvisible
  · exact ⟨hvisible,halive⟩

theorem empty (now ttl : Int) : Tracks ({} : LeaseSet τ) [] now ttl := by
  refine ⟨?_,?_,?_⟩
  · unfold LeaseSet.prune LeaseSet.visible
    rw [ite_self]
  · intro lease h
    cases h
  · intro lease h
    cases h

theorem wait (h : Tracks s ledger now ttl) (hle : now≤later) : Tracks s ledger later ttl := by
  refine ⟨?_,h.covered,fun lease hlease => by have := h.bounded lease hlease; omega⟩
  rw [← filter_later hle,← h.same]
  by_cases hexpired : s.expireAt<later
  · have hnone : (s.prune now).filter (alive later)=[] := by
      apply filter_eq_nil_iff.mpr
      intro lease hlease halive
      have hcovered := h.covered lease (mem_prune hlease).1
      simp only [alive,decide_eq_true_eq] at halive
      omega
    rw [hnone]
    unfold LeaseSet.prune LeaseSet.visible
    rw [if_pos hexpired]
    rfl
  · unfold LeaseSet.prune LeaseSet.visible
    rw [if_neg hexpired,if_neg (by omega),filter_later hle]

theorem pruned (h : Tracks s ledger now ttl) : Tracks { s with members := s.prune now } ledger now ttl := by
  refine ⟨?_,fun lease hlease => h.covered lease (mem_prune hlease).1,
    fun lease hlease => h.bounded lease (mem_prune hlease).1⟩
  rw [← h.same]
  unfold LeaseSet.prune LeaseSet.visible
  split
  · rfl
  · rw [filter_filter]
    simp only [Bool.and_self]

theorem rewritten {members ledger' : List (τ×Int)} (hsame : members.filter (alive now)=ledger'.filter (alive now))
    (hbounded : ∀ lease∈members, lease.2≤now+ttl) (httl : 0<ttl) :
    Tracks { members := members, expireAt := now+ttl } ledger' now ttl := by
  refine ⟨?_,hbounded,hbounded⟩
  unfold LeaseSet.prune LeaseSet.visible
  rw [if_neg (show ¬now+ttl<now by omega)]
  exact hsame

section
variable (h : Tracks s ledger now ttl)
include h

theorem filter_prune : (s.prune now).filter (alive now)=ledger.filter (alive now) := by
  rw [h.same,filter_filter]
  simp only [Bool.and_self]

theorem acquire (httl : 0<ttl) (limit : Int) (token : τ) :
    ∀ r, s.acquire now ttl limit token=r → (r.2=true ∧ (ledger.filter (alive now)).length<limit ∧
      Tracks r.1 (ledger++[(token,now+ttl)]) now ttl) ∨ (r.2=false ∧ Tracks r.1 ledger now ttl) := by
  rintro _ rfl
  unfold LeaseSet.acquire
  by_cases hfull : limit≤(s.prune now).length
  · right
    rw [if_pos hfull]
    exact ⟨rfl,h.pruned⟩
  · left
    rw [if_neg hfull]
    refine ⟨rfl,?_,?_⟩
    · rw [← h.same]
      omega
    · apply rewritten _ _ httl
      · rw [filter_append,filter_append,h.filter_prune]
      intro lease hlease
      obtain hold | hnew := mem_append.mp hlease
      · exact h.bounded lease (mem_prune hold).1
      obtain rfl := mem_singleton.mp hnew
      exact Int.le_refl _

theorem renew [DecidableEq τ] (httl : 0<ttl) (token : τ) :
    Tracks (s.renew now ttl token).1 (ledger.map (extend now ttl token)) now ttl := by
  unfold LeaseSet.renew
  by_cases hmem : token∈(s.prune now).map Prod.fst
  · rw [if_pos hmem]
    have hextend : ((s.prune now).map fun lease => if lease.1=token then (token,now+ttl) else lease) =
        (s.prune now).map (extend now ttl token) := by
      apply map_congr_left
      intro lease hlease
      unfold extend
      rw [(mem_prune hlease).2]
      simp only [and_true]
    rw [hextend]
    apply rewritten _ _ httl
    · rw [filter_extend httl,filter_extend httl,h.filter_prune]
    intro lease hlease
    obtain ⟨old,hold,rfl⟩ := mem_map.mp hlease
    have hbound := h.bounded old (mem_prune hold).1
    unfold extend
    split
    · exact Int.le_refl _
    · exact hbound
  · rw [if_neg hmem,map_extend_of_not_mem (by rw [← h.same]; exact hmem)]
    exact h.pruned

end

theorem filter_swap {p q : τ×Int → Bool} (ledger : List (τ×Int)) :
    (ledger.filter p).filter q=(ledger.filter q).filter p := by
  rw [filter_filter,filter_filter]
  apply filter_congr
  intro lease _
  exact Bool.and_comm _ _

theorem release [DecidableEq τ] (h : Tracks s ledger now ttl) (token : τ) :
    Tracks (s.release now token) (ledger.filter fun lease => lease.1≠token) now ttl := by
  have hmem : ∀ lease∈(s.visible now).filter (fun lease => lease.1≠token), lease∈s.members := by
    intro lease hlease
    have hvisible := (mem_filter.mp hlease).1
    unfold LeaseSet.visible at hvisible
    split at hvisible
    · cases hvisible
    · exact hvisible
  refine ⟨?_,fun lease hlease => h.covered lease (hmem lease hlease),fun lease hlease => h.bounded lease (hmem lease hlease)⟩
  have hsame := congrArg (List.filter fun lease => lease.1≠token) h.same
  rw [filter_swap ledger] at hsame
  rw [← hsame]
  unfold LeaseSet.release LeaseSet.prune LeaseSet.visible
  split
  · rfl
  · exact filter_swap _

end Tracks

end LeaseSets
