import NewApi.Lib.Threads
import NewApi.UserCache.Steady

/-! Group changes of one user, the `RefreshUserGroupCache` call after each of them, and `GetUserCache`
hydrations, in any interleaving. A change keeps the auth version, so nothing orders a hydration that read
the row before the change with the refresh after it. -/
namespace NewApi.UserCache
open Option Threads Runs

structure GroupState where
  row : User
  keys : Keys

/-- `RefreshUserGroupCache`: it writes what it has read and reads again, with `tries` further writes of its
loop left; without any left it writes once more and fails. -/
inductive RefreshStage where
  | read
  | write (authoritative : User) (tries : Nat)
  | verify (authoritative : User) (tries : Nat)
  | done (err : Option CacheError)

def sameIdentity (verified authoritative : User) : Bool :=
  decide (verified.authVersion=authoritative.authVersion ∧ verified.group=authoritative.group ∧
    verified.groupId=authoritative.groupId)

def RefreshStage.written (authoritative : User) : Nat → Option CacheError → RefreshStage
  | _, some err => .done (some err)
  | 0, none => .done (some .groupChangedRepeatedly)
  | tries+1, none => .verify authoritative tries

def RefreshStage.advance (row : User) (k : Keys) : RefreshStage → Keys×RefreshStage
  | .read => (k,if row.id≤0 then .done (some .invalidUserId) else .write row 3)
  | .write authoritative tries =>
    let out := updateUserGroupCacheAtVersion k authoritative.id authoritative.group authoritative.groupId
      authoritative.authVersion
    (out.1,.written authoritative tries out.2)
  | .verify authoritative tries =>
    (k,if sameIdentity row authoritative then .done none else .write row tries)
  | .done err => (k,.done err)

inductive GroupCall where
  | change (group : String) (groupId : Int)
  | refresh (stage : RefreshStage)
  | hydrate (h : Hydration)

inductive GroupOp where
  | change (group : String) (groupId : Int)
  | refresh
  | getUserCache

def advanceGroup (s : GroupState) : GroupCall → GroupState×GroupCall
  | .change name groupId => ({ s with row := { s.row with group := name, groupId := groupId } },.refresh .read)
  | .refresh stage =>
    ({ s with keys := (stage.advance s.row s.keys).1 },.refresh (stage.advance s.row s.keys).2)
  | .hydrate h => ({ s with keys := (h.advance s.row s.keys).1 },.hydrate (h.advance s.row s.keys).2)

def groupSystem : System GroupState GroupCall GroupOp Unit where
  init
    | .change name groupId => .change name groupId
    | .refresh => .refresh .read
    | .getUserCache => .hydrate (.cache .hash)
  advance s t _ := advanceGroup s t

def GroupCall.returned : GroupCall → Bool
  | .refresh (.done none) => true
  | .hydrate (.done (.ok _)) => true
  | _ => false

def GroupCall.failed : GroupCall → Bool
  | .refresh (.done (some _)) => true
  | _ => false

/-- The call will still write the group of the row into the cache: it has a refresh to run, a write to
make, or a check ahead that fails. -/
def GroupCall.repairs (row : User) : GroupCall → Bool
  | .change _ _ => true
  | .refresh .read => true
  | .refresh (.write _ _) => true
  | .refresh (.verify authoritative _) => !sameIdentity row authoritative
  | _ => false

def GroupAgrees (s : GroupState) : Prop :=
  ∀ hash, s.keys.hash=some hash → hash.group=some s.row.group ∧ hash.groupId=some s.row.groupId

/-- A hydration about to write holds the row's group, or some call will still repair the cache. -/
def fillsCurrent (p : Pool GroupState GroupCall) : GroupCall → Bool
  | .hydrate (.populate user) =>
    decide (user.group=p.shared.row.group ∧ user.groupId=p.shared.row.groupId) ||
      p.threads.any fun t => t.repairs p.shared.row
  | _ => true

def CurrentFill (p : Pool GroupState GroupCall) : Act GroupOp Unit → Prop
  | .start _ => True
  | .step i _ => ∀ t∈p.threads[i]?, fillsCurrent p t=true

instance (p : Pool GroupState GroupCall) : ∀ a, Decidable (CurrentFill p a)
  | .start _ => isTrue trivial
  | .step i _ => inferInstanceAs (Decidable (∀ t∈p.threads[i]?, fillsCurrent p t=true))

def GroupCallOk (s : GroupState) : GroupCall → Prop
  | .refresh (.write authoritative _) => SameVersions authoritative s.row
  | .refresh (.verify authoritative _) => SameVersions authoritative s.row
  | .hydrate h => HydrationOk s.row s.keys h
  | _ => True

variable {s : GroupState}

theorem groupCallOk_mono {s' : GroupState} {t : GroupCall} (ht : GroupCallOk s t)
    (hrow : SameVersions s.row s'.row) (hk : s.keys.hash≠none → s'.keys.hash≠none) : GroupCallOk s' t := by
  fun_cases GroupCallOk s t with
  | case1 _ _ | case2 _ _ => exact SameVersions.trans ht hrow
  | case3 h => exact HydrationOk.mono ht hrow hk
  | case4 => simp_all [GroupCallOk]

theorem refresh_write (row : User) (k : Keys) (hk : Steady row k) {authoritative : User}
    (hv : SameVersions authoritative row) (tries : Nat) :
    (RefreshStage.write authoritative tries).advance row k = ({ k.promote row.authVersion with hash := k.hash.map fun hash =>
          { hash with group := some authoritative.group, groupId := some authoritative.groupId } },
        .written authoritative tries none) := by
  simp only [RefreshStage.advance,updateGroup_steady hk hv]

variable {stage : RefreshStage}

theorem refresh_ok (hs : Steady s.row s.keys) (ht : GroupCallOk s (.refresh stage)) :
    Steady s.row (stage.advance s.row s.keys).1 ∧ (s.keys.hash≠none → (stage.advance s.row s.keys).1.hash≠none) ∧
      GroupCallOk (advanceGroup s (.refresh stage)).1 (advanceGroup s (.refresh stage)).2 := by
  cases stage with
  | read =>
    refine ⟨hs,id,?_⟩
    have hid := hs.id
    simp only [advanceGroup,RefreshStage.advance,if_neg (Int.not_le.mpr hid)]
    exact SameVersions.refl s.row
  | write authoritative tries =>
    have hv : SameVersions authoritative s.row := ht
    simp only [advanceGroup,refresh_write s.row s.keys hs hv]
    refine ⟨hs.withHash fun x hx => ?_,fun h => by simpa using h,?_⟩
    · obtain ⟨hash,hk,rfl⟩ := map_eq_some_iff.mp hx
      have hc := hs.hash hash hk
      exact ⟨hc.id,hc.schema,hc.auth,hc.quotaVersion,hc.quota⟩
    · cases tries with
      | zero => trivial
      | succ tries => exact hv
  | verify authoritative tries =>
    refine ⟨hs,id,?_⟩
    simp only [advanceGroup,RefreshStage.advance]
    split
    · trivial
    · exact SameVersions.refl s.row
  | done err => exact ⟨hs,id,trivial⟩

theorem hydrate_ok (hs : Steady s.row s.keys) {h : Hydration} (ht : GroupCallOk s (.hydrate h)) :
    Steady s.row (h.advance s.row s.keys).1 ∧ (s.keys.hash≠none → (h.advance s.row s.keys).1.hash≠none) ∧
      GroupCallOk (advanceGroup s (.hydrate h)).1 (advanceGroup s (.hydrate h)).2 := by
  obtain ⟨hsteady,hok,hkeys⟩ := hydration_advance hs ht
  refine ⟨hsteady,fun hne => ?_,hok⟩
  obtain heq | ⟨user,-,heq⟩ := hkeys
  · rwa [heq]
  · simp [heq]

theorem group_keeps : Keeps groupSystem (fun s => Steady s.row s.keys) GroupCallOk where
  init o _ := by cases o <;> trivial
  shared {s t} _ hs ht := by
    cases t with
    | change name groupId => exact hs.of_sameVersions ⟨rfl,rfl,rfl⟩
    | refresh stage => exact (refresh_ok hs ht).1
    | hydrate h => exact (hydrate_ok hs ht).1
  moved {s t} _ hs ht := by
    cases t with
    | change name groupId => trivial
    | refresh stage => exact (refresh_ok hs ht).2.2
    | hydrate h => exact (hydrate_ok hs ht).2.2
  other {s t u} _ hs ht hu := by
    cases t with
    | change name groupId => exact groupCallOk_mono hu ⟨rfl,rfl,rfl⟩ id
    | refresh stage => exact groupCallOk_mono hu (SameVersions.refl _) (refresh_ok hs ht).2.1
    | hydrate h => exact groupCallOk_mono hu (SameVersions.refl _) (hydrate_ok hs ht).2.1

/-- The cache agrees with the row, or a call will still repair it, or a call has failed. -/
def GroupInv (p : Pool GroupState GroupCall) : Prop :=
  GroupAgrees p.shared ∨ ∃ t∈p.threads, t.repairs p.shared.row=true ∨ t.failed=true

theorem refresh_step (hs : Steady s.row s.keys) (ht : GroupCallOk s (.refresh stage)) :
    GroupAgrees { s with keys := (stage.advance s.row s.keys).1 } ∨
      (GroupCall.refresh (stage.advance s.row s.keys).2).repairs s.row=true ∨
      (GroupCall.refresh (stage.advance s.row s.keys).2).failed=true ∨
      ((stage.advance s.row s.keys).1=s.keys ∧ (GroupCall.refresh stage).repairs s.row=false ∧
        (GroupCall.refresh stage).failed=false) := by
  cases stage with
  | read =>
    simp only [RefreshStage.advance,if_neg (Int.not_le.mpr hs.id)]
    exact .inr (.inl rfl)
  | write authoritative tries =>
    have hv : SameVersions authoritative s.row := ht
    rw [refresh_write s.row s.keys hs hv]
    cases tries with
    | zero => exact .inr (.inr (.inl rfl))
    | succ tries =>
      cases hsame : sameIdentity s.row authoritative with
      | false =>
        refine .inr (.inl ?_)
        simp [RefreshStage.written,GroupCall.repairs,hsame]
      | true =>
        left
        intro hash hhash
        obtain ⟨old,-,rfl⟩ := map_eq_some_iff.mp hhash
        obtain ⟨-,hgroup,hgroupId⟩ := of_decide_eq_true hsame
        exact ⟨congrArg some hgroup.symm,congrArg some hgroupId.symm⟩
  | verify authoritative tries =>
    cases hsame : sameIdentity s.row authoritative with
    | false =>
      simp only [RefreshStage.advance,hsame,Bool.false_eq_true,if_false]
      exact .inr (.inl rfl)
    | true => exact .inr (.inr (.inr ⟨rfl,by simp [GroupCall.repairs,hsame],rfl⟩))
  | done err =>
    cases err with
    | none => exact .inr (.inr (.inr ⟨rfl,rfl,rfl⟩))
    | some err => exact .inr (.inr (.inl rfl))

theorem hydrate_step (hs : Steady s.row s.keys) {h : Hydration} (ht : GroupCallOk s (.hydrate h)) :
    (h.advance s.row s.keys).1=s.keys ∨ ∃ user, h=.populate user ∧ ∀ hash, (h.advance s.row s.keys).1.hash=some hash →
        hash.group=some user.group ∧ hash.groupId=some user.groupId := by
  obtain ⟨-,-,hkeys⟩ := hydration_advance hs ht
  obtain heq | ⟨user,hpop,heq⟩ := hkeys
  · exact .inl heq
  refine .inr ⟨user,hpop,fun hash hhash => ?_⟩
  rw [heq] at hhash
  rw [← Option.some.inj hhash]
  exact filled_group hs user

variable {p : Pool GroupState GroupCall}

/-- The invariant over one step, provided that a hydration does not put back a group that no call will
repair. The cases follow the call that moves. -/
theorem groupInv_step (hp : Each (fun s => Steady s.row s.keys) GroupCallOk p) (hinv : GroupInv p) {i : Nat}
    {t : GroupCall} (hi : p.threads[i]? = some t)
    (hfill : CurrentFill p (.step i ())) :
    GroupInv { shared := (advanceGroup p.shared t).1, threads := p.threads.set i (advanceGroup p.shared t).2 } := by
  have ht := hp.thread t (List.mem_of_getElem? hi)
  have hmoved := mem_set_self hi (advanceGroup p.shared t).2
  cases t with
  | change name groupId => exact .inr ⟨_,hmoved,.inl rfl⟩
  | refresh stage =>
    obtain hagree | hrepairs | hfailed | ⟨hsame,hidle,hok⟩ := refresh_step hp.shared ht
    · exact .inl hagree
    · exact .inr ⟨_,hmoved,.inl hrepairs⟩
    · exact .inr ⟨_,hmoved,.inr hfailed⟩
    obtain hagree | ⟨u,hu,hopen⟩ := hinv
    · left
      simp only [advanceGroup,hsame]
      exact hagree
    · obtain rfl | hstays := eq_or_mem_set hi hu (advanceGroup p.shared (.refresh stage)).2
      · simp [hidle,hok] at hopen
      · exact .inr ⟨u,hstays,hopen⟩
  | hydrate h =>
    -- a repair ahead is another call's, and it does not go away
    have hkept : (∃ u∈p.threads, u.repairs p.shared.row=true ∨ u.failed=true) →
        GroupInv { shared := (advanceGroup p.shared (.hydrate h)).1,
                   threads := p.threads.set i (advanceGroup p.shared (.hydrate h)).2 } := by
      rintro ⟨u,hu,hopen⟩
      obtain rfl | hstays := eq_or_mem_set hi hu (advanceGroup p.shared (.hydrate h)).2
      · simp [GroupCall.repairs,GroupCall.failed] at hopen
      · exact .inr ⟨u,hstays,hopen⟩
    obtain hsame | ⟨user,rfl,hwritten⟩ := hydrate_step hp.shared ht
    · obtain hagree | hopen := hinv
      · left
        simp only [advanceGroup,hsame]
        exact hagree
      · exact hkept hopen
    · obtain hcurrent | hrepairs := Bool.or_eq_true_iff.mp (hfill _ hi)
      · left
        intro hash hhash
        obtain ⟨hgroup,hgroupId⟩ := of_decide_eq_true hcurrent
        obtain ⟨hwgroup,hwgroupId⟩ := hwritten hash hhash
        exact ⟨hwgroup.trans (congrArg some hgroup),hwgroupId.trans (congrArg some hgroupId)⟩
      · obtain ⟨u,hu,hrepairs⟩ := List.any_eq_true.mp hrepairs
        exact hkept ⟨u,hu,.inl hrepairs⟩

theorem groupInv_act (hp : Each (fun s => Steady s.row s.keys) GroupCallOk p) (hinv : GroupInv p)
    (a : Act GroupOp Unit) (hfill : CurrentFill p a) : GroupInv (groupSystem.act p a) := by
  cases a with
  | start o =>
    obtain hagree | ⟨t,ht,hopen⟩ := hinv
    · exact .inl hagree
    · exact .inr ⟨t,List.mem_append_left _ ht,hopen⟩
  | step i c =>
    cases hi : p.threads[i]? with
    | none =>
      rw [System.act_idle hi]
      exact hinv
    | some t =>
      rw [System.act_step hi]
      exact groupInv_step hp hinv hi hfill

def groupStart (row : User) (keys : Keys) : Pool GroupState GroupCall :=
  { shared := { row := row, keys := keys }, threads := [] }

/-- In every interleaving in which a hydration writes a group other than the row's only while some call
will still repair the cache, the cached group is that of the row once all calls have returned. -/
theorem group_cache_converges (row : User) (keys : Keys) (hsteady : Steady row keys)
    (hagrees : GroupAgrees { row := row, keys := keys }) (acts : List (Act GroupOp Unit))
    (hfill : Guarded groupSystem.act CurrentFill acts (groupStart row keys))
    (hreturned : ∀ t∈(run groupSystem.act acts (groupStart row keys)).threads, t.returned=true) :
    GroupAgrees (run groupSystem.act acts (groupStart row keys)).shared := by
  have hstep : ∀ p a, Each (fun s => Steady s.row s.keys) GroupCallOk p ∧ GroupInv p → CurrentFill p a →
      Each (fun s => Steady s.row s.keys) GroupCallOk (groupSystem.act p a) ∧ GroupInv (groupSystem.act p a) :=
    fun p a hp ha => ⟨group_keeps.act hp.1 a,groupInv_act hp.1 hp.2 a ha⟩
  obtain ⟨-,hagree | ⟨t,ht,hopen⟩⟩ :=
    hfill.invariant hstep ⟨⟨hsteady,fun t ht => by cases ht⟩,.inl hagrees⟩
  · exact hagree
  have hret := hreturned t ht
  fun_cases GroupCall.returned t with
  | case1 | case2 => simp [GroupCall.repairs,GroupCall.failed] at hopen
  | case3 => simp_all [GroupCall.returned]

def fillThenChange : List (Act GroupOp Unit) :=
  .start .getUserCache::List.replicate 5 (.step 0 ())++.start (.change "pro" 2)::List.replicate 4 (.step 1 ())

theorem group_cache_converges_after_change :
    GroupAgrees (run groupSystem.act fillThenChange (groupStart plainUser coldKeys)).shared :=
  group_cache_converges plainUser coldKeys plain_steady (fun hash h => by cases h) fillThenChange
    (by decide +kernel) (by decide +kernel)

/-- The hydration reads the row, then the group changes and its refresh finds no hash, and then the
hydration writes the old group. -/
def delayedFill : List (Act GroupOp Unit) :=
  .start .getUserCache::List.replicate 2 (.step 0 ())++.start (.change "pro" 2) ::
    List.replicate 4 (.step 1 ())++List.replicate 3 (.step 0 ())

theorem delayed_fill_keeps_old_group : ¬ ∀ acts : List (Act GroupOp Unit),
      (∀ t∈(run groupSystem.act acts (groupStart plainUser coldKeys)).threads, t.returned=true) →
      GroupAgrees (run groupSystem.act acts (groupStart plainUser coldKeys)).shared := by
  intro h
  have hagrees := h delayedFill (by decide +kernel)
  have hhash : ((run groupSystem.act delayedFill (groupStart plainUser coldKeys)).shared.keys.hash.bind (·.group)) =
      some "default" := by decide +kernel
  have hrow : (run groupSystem.act delayedFill (groupStart plainUser coldKeys)).shared.row.group="pro" := by
    decide +kernel
  obtain ⟨hash,hk,hgroup⟩ := bind_eq_some_iff.mp hhash
  have hcached := (hagrees hash hk).1
  rw [hrow,hgroup] at hcached
  exact absurd hcached (by decide)

end NewApi.UserCache
