import NewApi.RateLimit.Exact

/-! Where windows are no longer than the janitor's own limit, what it does shows in no answer. -/
namespace NewApi.RateLimit
open List Runs Windows

def Action.handled : Action → Bool
  | .clear => false
  | _ => true

variable {now : Int}

theorem old_of_expired {d : Int} {queue : List Int} (hshort : d≤expirationDuration) (hsorted : queue.Pairwise (·≤·))
    (h : expired now queue=true) : ∀ e∈queue, e+d≤now := by
  obtain rfl | ⟨older,newest,rfl⟩ := eq_nil_or_concat queue
  · exact forall_mem_nil _
  · rw [concat_eq_append] at hsorted h ⊢
    simp only [expired,getLast?_append,getLast?_singleton,Option.some_or,Option.all_some,decide_eq_true_eq] at h
    have hle := (pairwise_append.mp hsorted).2.2
    refine forall_mem_append.mpr ⟨fun e he => ?_,forall_mem_singleton.mpr (by omega)⟩
    have := hle e he newest mem_cons_self
    omega

variable (snapshot : ModelRequestRateLimitSnapshot)

structure Alike (s t : Limiter) : Prop where
  phase : s.phase=t.phase
  limited : ∀ userId scope, t.phase=.allowed userId scope → 0<(snapshot.limits scope).total
  trails : ∀ key, 0<snapshot.maxCount key → Trails (snapshot.maxCount key) snapshot.durationSeconds t.clock (queueOf s.store key)
    (queueOf t.store key)

variable {snapshot} {s t : Limiter} {key : MemoryKey}

theorem Alike.clear (hshort : snapshot.durationSeconds≤expirationDuration) (h : Alike snapshot s t) (hle : t.clock≤now) :
    Alike snapshot s (step snapshot t (now,.clear)) := by
  refine ⟨h.phase,h.limited,fun key hn => ?_⟩
  have htrails := (h.trails key hn).wait hle
  show Trails _ _ now (queueOf s.store key) (queueOf (clearExpiredItems t.store now) key)
  rw [queueOf_clear]
  split
  next hexpired =>
    obtain ⟨gone,hfull,-⟩ := htrails.lost
    have hsorted := htrails.ordered
    rw [hfull] at hsorted
    exact htrails.lose (old_of_expired hshort (pairwise_append.mp hsorted).2.1 hexpired)
  next => exact htrails

theorem Alike.ask (h : Alike snapshot s t) (hle : t.clock≤now) (hn : 0<snapshot.maxCount key) :
    (request s.store now key (snapshot.maxCount key) snapshot.durationSeconds).2 =
      (request t.store now key (snapshot.maxCount key) snapshot.durationSeconds).2 ∧
    ∀ k, 0<snapshot.maxCount k → Trails (snapshot.maxCount k) snapshot.durationSeconds now
      (queueOf (request s.store now key (snapshot.maxCount key) snapshot.durationSeconds).1 k)
      (queueOf (request t.store now key (snapshot.maxCount key) snapshot.durationSeconds).1 k) := by
  have htrails := (h.trails key hn).wait hle
  refine ⟨?_,fun k hk => ?_⟩
  · rw [request_eq hn,request_eq hn,htrails.room_eq]
    split <;> rfl
  · by_cases hsame : k=key
    · subst hsame
      rw [request_eq hn,request_eq hn,htrails.room_eq]
      split
      · simpa [queueOf] using htrails.push hn
      · exact htrails
    · rw [queueOf_request hsame,queueOf_request hsame]
      exact (h.trails k hk).wait hle

theorem Alike.handle (h : Alike snapshot s t) {act : Action} (hle : t.clock≤now) (hact : act.handled=true) :
    emit snapshot s (now,act)=emit snapshot t (now,act) ∧
      Alike snapshot (step snapshot s (now,act)) (step snapshot t (now,act)) := by
  have hwait := fun key hn => (h.trails key hn).wait hle
  have hsuccess : ∀ userId scope, 0<snapshot.maxCount ⟨.success,scope,userId⟩ :=
    fun _ scope => (snapshot.limits scope).checked.2.1
  have hlimited := h.limited
  obtain ⟨store,phase,_⟩ := s
  obtain ⟨store',_,_⟩ := t
  obtain rfl : phase=_ := h.phase
  simp only at hlimited hwait
  cases act with
  | clear => cases hact
  | arrive userId scope =>
    cases phase with
    | idle =>
      have hallow : allow store now ⟨.success,scope,userId⟩ (snapshot.limits scope).success snapshot.durationSeconds =
          allow store' now ⟨.success,scope,userId⟩ (snapshot.limits scope).success snapshot.durationSeconds := by
        have hn := hsuccess userId scope
        exact (allow_eq hn).trans ((hwait _ hn).room_eq.symm.trans (allow_eq hn).symm)
      simp only [emit,step,RateLimit.handle,hallow]
      split
      · refine ⟨rfl,rfl,fun user sc hp => ?_,hwait⟩
        have hchecked := (snapshot.limits scope).checked.1
        dsimp only at hp
        split at hp <;> cases hp
        omega
      · exact ⟨rfl,rfl,hlimited,hwait⟩
    | _ => exact ⟨rfl,rfl,hlimited,hwait⟩
  | enter =>
    cases phase with
    | allowed userId scope =>
      have hn : 0<snapshot.maxCount ⟨.total,scope,userId⟩ := hlimited userId scope rfl
      obtain ⟨hanswer,htrails⟩ := h.ask hle hn
      simp only [emit,step,RateLimit.handle]
      rw [hanswer]
      split <;> exact ⟨rfl,rfl,by simp,htrails⟩
    | _ => exact ⟨rfl,rfl,hlimited,hwait⟩
  | finish status finalScope =>
    cases phase with
    | running userId scope =>
      obtain ⟨-,htrails⟩ := h.ask hle (hsuccess userId scope)
      simp only [emit,step,RateLimit.handle]
      split
      · refine ⟨rfl,rfl,fun user sc hp => ?_,htrails⟩
        dsimp only at hp
        split at hp <;> cases hp
      · exact ⟨rfl,rfl,by simp,hwait⟩
    | _ => exact ⟨rfl,rfl,hlimited,hwait⟩
  | record =>
    cases phase with
    | recording userId scope =>
      obtain ⟨hanswer,htrails⟩ := h.ask hle (hsuccess userId scope)
      simp only [emit,step,RateLimit.handle]
      rw [hanswer]
      exact ⟨rfl,rfl,by simp,htrails⟩
    | _ => exact ⟨rfl,rfl,hlimited,hwait⟩

theorem Alike.events_eq (hshort : snapshot.durationSeconds≤expirationDuration) {acts : List (Int×Action)} (h : Alike snapshot s t)
    (hrun : Guarded (step snapshot) (fun s act => s.clock≤act.1) acts t) : events (step snapshot) (emit snapshot) acts t =
      events (step snapshot) (emit snapshot) (acts.filter fun act => act.2.handled) s := by
  induction acts generalizing s t with
  | nil => rfl
  | cons act rest ih =>
    obtain ⟨now,act⟩ := act
    cases hact : act.handled with
    | true =>
      obtain ⟨hemit,hnext⟩ := h.handle hrun.1 hact
      rw [filter_cons_of_pos (by exact hact),events,events,hemit,ih hnext hrun.2]
    | false =>
      cases act <;> cases hact
      rw [filter_cons_of_neg (by simp [Action.handled]),events]
      exact ih (h.clear hshort hrun.1) hrun.2

/-- With windows of at most twenty minutes a run shows just what it shows without the rounds of the janitor. -/
theorem janitor_unseen {snapshot : ModelRequestRateLimitSnapshot} (hshort : snapshot.durationSeconds≤expirationDuration) (clock : Int)
    {acts : List (Int×Action)} (hrun : Guarded (step snapshot) (fun s act => s.clock≤act.1) acts { clock }) :
    events (step snapshot) (emit snapshot) acts { clock } =
      events (step snapshot) (emit snapshot) (acts.filter fun act => act.2.handled) { clock } :=
  Alike.events_eq hshort ⟨rfl,nofun,fun _ hn => ⟨Pairwise.nil,forall_mem_nil _,Int.le_of_lt hn,[],rfl,forall_mem_nil _⟩⟩ hrun

def minute : ModelRequestRateLimitSnapshot := { halfHour with durationMinutes := 1, checked := by decide }

theorem janitor_unseen_minute : events (step minute) (emit minute) (request1 0++(1201,.clear)::request1 1300) { clock := 0 } =
    events (step minute) (emit minute) (request1 0++request1 1300) { clock := 0 } :=
  @janitor_unseen minute (by decide) 0 (request1 0++(1201,.clear)::request1 1300) (by decide +kernel)

end NewApi.RateLimit
