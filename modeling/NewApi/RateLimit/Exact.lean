import NewApi.Lib.Runs
import NewApi.RateLimit.Model

/-! When the limit of a rule holds in every window: the janitor has to leave alone the queues that hold a time of the window. -/
namespace NewApi.RateLimit
open List Runs Windows Function

def timesOf (key : MemoryKey) (es : List Event) : List Int := es.filterMap fun
  | .counted k now => if k=key then some now else none
  | .rejected _ _ => none

def queueOf (store : Store) (key : MemoryKey) : List Int := (store key).getD []

theorem timesOf_append {key : MemoryKey} {es : List Event} (more : List Event) :
    timesOf key (es++more)=timesOf key es++timesOf key more := filterMap_append

theorem timesOf_counted (key k : MemoryKey) (now : Int) : timesOf k [.counted key now]=if k=key then [now] else [] := by
  simp only [timesOf,filterMap_cons,filterMap_nil,eq_comm (a := k)]
  split <;> simp_all

section Calls
variable {store : Store} {key k : MemoryKey} {n d now : Int} {log : List Int}

theorem allow_eq (hn : 0<n) : allow store now key n d=room n d now (queueOf store key) := by
  rw [allow,queueOf]
  cases store key with
  | none => exact (room_iff.mpr (.inl hn)).symm
  | some queue => rfl

theorem request_eq (hn : 0<n) : request store now key n d=if room n d now (queueOf store key)=true then
    (update store key (some (push n now (queueOf store key))),true) else (store,false) := by
  rw [request,queueOf]
  cases store key with
  | none => simp [room,push,hn]
  | some queue => rfl

theorem queueOf_clear : queueOf (clearExpiredItems store now) k=if expired now (queueOf store k) then [] else queueOf store k := by
  rw [queueOf,queueOf,clearExpiredItems]
  cases store k with
  | none => simp
  | some queue => by_cases hexpired : expired now queue=true <;> simp [Option.filter,hexpired]

theorem queueOf_request (hk : k≠key) : queueOf (request store now key n d).1 k=queueOf store k := by
  rw [request]
  split <;> try split
  all_goals simp [queueOf,hk]

end Calls

variable (snapshot : ModelRequestRateLimitSnapshot)

/-- The clock does not run back, and no round of the janitor drops a queue that holds a time of the window. -/
def Proper (s : Limiter) (act : Int×Action) : Prop := s.clock≤act.1 ∧ ∀ key, act.2=.clear →
  expired act.1 (queueOf s.store key)=true → ∀ e∈queueOf s.store key, e+snapshot.durationSeconds≤act.1

abbrev HasRoom (now : Int) (store : Store) (key : MemoryKey) : Prop :=
  room (snapshot.maxCount key) snapshot.durationSeconds now (queueOf store key)=true

/-- The queues remember the times that count, and a request that has been let in can be recorded. -/
structure Exact (es : List Event) (s : Limiter) : Prop where
  remembers : ∀ key, 0<snapshot.maxCount key →
    Remembers (snapshot.maxCount key) snapshot.durationSeconds s.clock (timesOf key es) (queueOf s.store key)
  limited : ∀ userId scope, s.phase=.allowed userId scope → 0<(snapshot.limits scope).total
  room : ∀ userId scope, s.phase=.allowed userId scope ∨ s.phase=.running userId scope →
    HasRoom snapshot s.clock s.store ⟨.success,scope,userId⟩

variable {snapshot} {es out : List Event} {s : Limiter} {now : Int} {key k : MemoryKey}

theorem Exact.asked (h : Exact snapshot es s) (hle : s.clock≤now) (hmax : 0<snapshot.maxCount key)
    (hout : timesOf k out=if k=key ∧ (request s.store now key (snapshot.maxCount key) snapshot.durationSeconds).2=true then [now]
      else []) (hk : 0<snapshot.maxCount k) :
    Remembers (snapshot.maxCount k) snapshot.durationSeconds now (timesOf k (es++out))
      (queueOf (request s.store now key (snapshot.maxCount key) snapshot.durationSeconds).1 k) := by
  have hrem := (h.remembers k hk).wait hle
  rw [timesOf_append,hout]
  by_cases hsame : k=key
  · subst hsame
    rw [request_eq hmax]
    by_cases hroom : Windows.room (snapshot.maxCount k) snapshot.durationSeconds now (queueOf s.store k)=true
    · rw [if_pos hroom]
      simpa [queueOf] using hrem.push hroom
    · rw [if_neg hroom]
      simpa using hrem
  · rw [queueOf_request hsame,if_neg fun hc => hsame hc.1,append_nil]
    exact hrem

theorem Exact.step (h : Exact snapshot es s) {act : Int×Action} (hok : Proper snapshot s act) :
    Exact snapshot (es++emit snapshot s act) (step snapshot s act) := by
  obtain ⟨now,act⟩ := act
  obtain ⟨hle,hkeeps⟩ := hok
  have hsuccess : ∀ userId scope, 0<snapshot.maxCount ⟨.success,scope,userId⟩ :=
    fun _ scope => (snapshot.limits scope).checked.2.1
  have hroom := fun userId scope hp => room_later hle (h.room userId scope hp)
  have hquiet : ∀ key, 0<snapshot.maxCount key → ∀ {out : List Event}, timesOf key out=[] →
      Remembers (snapshot.maxCount key) snapshot.durationSeconds now (timesOf key (es++out)) (queueOf s.store key) := by
    intro key hn out hout
    rw [timesOf_append,hout,append_nil]
    exact (h.remembers key hn).wait hle
  rcases hhandle : handle snapshot s now act with ⟨s',out⟩
  rw [RateLimit.step,emit,hhandle]
  unfold handle at hhandle
  dsimp only at hhandle
  split at hhandle
  · cases hhandle
    refine ⟨fun key hn => ?_,h.limited,fun userId scope hp => ?_⟩
    · rw [queueOf_clear,append_nil]
      split
      next hexpired => exact ((h.remembers key hn).wait hle).forget hn (hkeeps key rfl hexpired)
      next => exact (h.remembers key hn).wait hle
    · rw [HasRoom,queueOf_clear]
      split
      next => exact room_of_old (hsuccess userId scope) nofun
      next => exact hroom userId scope hp
  · next userId scope hphase =>
    split at hhandle
    next hallow =>
      cases hhandle
      refine ⟨fun key hn => hquiet key hn rfl,fun user sc hp => ?_,fun user sc hp => ?_⟩
      · have hchecked := (snapshot.limits scope).checked.1
        dsimp only at hp
        split at hp <;> cases hp
        omega
      · dsimp only at hp
        split at hp <;> obtain hp | hp := hp <;> cases hp <;> exact (allow_eq (hsuccess userId scope)).symm.trans hallow
    next =>
      cases hhandle
      exact ⟨fun key hn => hquiet key hn rfl,h.limited,hroom⟩
  · next userId scope hphase =>
    split at hhandle
    next hallowed =>
      cases hhandle
      refine ⟨fun key hn => h.asked hle (h.limited _ _ hphase) ?_ hn,nofun,fun user sc hp => ?_⟩
      · rw [timesOf_counted]
        exact if_congr (and_iff_left hallowed).symm rfl rfl
      · obtain hp | hp := hp <;> cases hp
        rw [HasRoom,queueOf_request (by simp)]
        exact hroom _ _ (.inl hphase)
    next hallowed =>
      cases hhandle
      exact ⟨fun key hn => h.asked hle (h.limited _ _ hphase) (if_neg fun hc => hallowed hc.2).symm hn,nofun,nofun⟩
  · next status finalScope userId scope hphase =>
    split at hhandle
    · cases hhandle
      refine ⟨fun key hn => h.asked hle (hsuccess userId scope) ?_ hn,fun user sc hp => ?_,fun user sc hp => ?_⟩
      · rw [timesOf_counted,request_eq (hsuccess userId scope),if_pos (hroom _ _ (.inr hphase))]
        exact if_congr (and_iff_left rfl).symm rfl rfl
      · dsimp only at hp
        split at hp <;> cases hp
      · dsimp only at hp
        split at hp <;> simp at hp
    · cases hhandle
      exact ⟨fun key hn => hquiet key hn rfl,nofun,nofun⟩
  · next userId scope hphase =>
    obtain ⟨rfl,rfl⟩ := Prod.mk.inj hhandle
    refine ⟨fun key hn => h.asked hle (hsuccess userId scope) ?_ hn,nofun,nofun⟩
    by_cases hkept : (request s.store now ⟨.success,scope,userId⟩ (snapshot.maxCount ⟨.success,scope,userId⟩)
        snapshot.durationSeconds).2=true
    · rw [if_pos hkept,timesOf_counted]
      exact if_congr (and_iff_left hkept).symm rfl rfl
    · rw [if_neg hkept]
      exact (if_neg fun hc => hkept hc.2).symm
  · cases hhandle
    exact ⟨fun key hn => hquiet key hn rfl,h.limited,hroom⟩

theorem Exact.full (h : Exact snapshot es s) {act : Action} {userId : Int} {scope : String} (hle : s.clock≤now)
    (hmem : .rejected userId scope∈emit snapshot s (now,act)) : ∃ type, 0<snapshot.maxCount ⟨type,scope,userId⟩ ∧
      snapshot.maxCount ⟨type,scope,userId⟩≤count (timesOf ⟨type,scope,userId⟩ es) (now-snapshot.durationSeconds+1) (now+1) := by
  suffices hfull : ∃ type, 0<snapshot.maxCount ⟨type,scope,userId⟩ ∧ ¬HasRoom snapshot now s.store ⟨type,scope,userId⟩ by
    obtain ⟨type,hn,hroom⟩ := hfull
    exact ⟨type,hn,((h.remembers _ hn).wait hle).full hroom⟩
  unfold emit handle at hmem
  dsimp only at hmem
  split at hmem
  · cases hmem
  · split at hmem
    · cases hmem
    next hrefused =>
      cases mem_singleton.mp hmem
      have hn : 0<snapshot.maxCount ⟨.success,scope,userId⟩ := (snapshot.limits scope).checked.2.1
      exact ⟨.success,hn,fun hroom => hrefused ((allow_eq hn).trans hroom)⟩
  · next hphase =>
    split at hmem
    · cases mem_singleton.mp hmem
    next hrefused =>
      cases mem_singleton.mp hmem
      have hn : 0<snapshot.maxCount ⟨.total,scope,userId⟩ := h.limited _ _ hphase
      refine ⟨.total,hn,fun hroom => hrefused ?_⟩
      rw [request_eq hn,if_pos hroom]
  · split at hmem
    · cases mem_singleton.mp hmem
    · cases hmem
  · split at hmem
    · cases mem_singleton.mp hmem
    · cases hmem
  · cases hmem

/-- The limits of all keys hold in every window, and a request is turned down only if one of its two limits is reached, in a run
whose janitor drops no queue that holds a time of the window. -/
theorem memory_limits_exact (snapshot : ModelRequestRateLimitSnapshot) (clock : Int) {acts : List (Int×Action)}
    (hrun : Guarded (step snapshot) (Proper snapshot) acts { clock }) :
    (∀ key, 0<snapshot.maxCount key → ∀ x, count (timesOf key (events (step snapshot) (emit snapshot) acts { clock })) x
      (x+snapshot.durationSeconds)≤ snapshot.maxCount key) ∧
    ∀ now act userId scope, (run (step snapshot) acts { clock }).clock≤now →
      .rejected userId scope∈emit snapshot (run (step snapshot) acts { clock }) (now,act) →
      ∃ type, 0<snapshot.maxCount ⟨type,scope,userId⟩ ∧ snapshot.maxCount ⟨type,scope,userId⟩≤
        count (timesOf ⟨type,scope,userId⟩ (events (step snapshot) (emit snapshot) acts { clock }))
          (now-snapshot.durationSeconds+1) (now+1) := by
  have hstart : Exact snapshot [] { clock } := ⟨fun key hn => .empty hn,nofun,fun _ _ hp => by simp at hp⟩
  have hexact := Guarded.invariant_events (fun _ _ _ h hok => h.step hok) hstart hrun
  exact ⟨fun key hn => (hexact.remembers key hn).fits,fun now act userId scope hle hmem => hexact.full hle hmem⟩

def halfHour : ModelRequestRateLimitSnapshot := ⟨30,by decide,fun _ => ⟨0,1,by decide⟩⟩

def request1 (now : Int) : List (Int×Action) := [(now,.arrive 1 "global"),(now,.finish 200 "global")]

theorem second_request_rejected : ∃ type, 0<halfHour.maxCount ⟨type,"global",1⟩ ∧ halfHour.maxCount ⟨type,"global",1⟩≤
    count (timesOf ⟨type,"global",1⟩ (events (step halfHour) (emit halfHour) ((0,.clear)::request1 0) { clock := 0 })) (-1789) 11 := by
  refine (@memory_limits_exact halfHour 0 ((0,.clear)::request1 0) ?_).2 10 (.arrive 1 "global") 1 "global"
    (by decide) (by decide +kernel)
  exact ⟨⟨Int.le_refl _,fun _ _ _ => nofun⟩,⟨Int.le_refl _,fun _ => nofun⟩,⟨Int.le_refl _,fun _ => nofun⟩,trivial⟩

theorem long_window_forgets :
    Guarded (step halfHour) (fun s act => s.clock≤act.1) (request1 0++(1201,.clear)::request1 1300) { clock := 0 } ∧
    ¬ count (timesOf ⟨.success,"global",1⟩ (events (step halfHour) (emit halfHour) (request1 0++(1201,.clear)::request1 1300)
      { clock := 0 })) 0 (0+halfHour.durationSeconds)≤halfHour.maxCount ⟨.success,"global",1⟩ := by
  decide +kernel

end NewApi.RateLimit
