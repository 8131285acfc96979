import NewApi.Lib.Threads
import NewApi.UserCache.Steady

/-! The wallet of one user in Redis and in the database: `TryReserveUserQuota` of `model/quota_reserve.go`,
`IncreaseUserQuota` and `DecreaseUserQuota` of `model/user.go` with direct database writes, and
`GetUserCache`, in any interleaving. The cache moves by deltas, so an error of a fill never goes away. -/
namespace NewApi.UserCache
open List Option Bool Threads Runs

structure WalletState where
  row : User
  keys : Keys

inductive ReserveStage where
  | tryCache
  | hydrating (h : Hydration)
  | retryCache
  | fallback
  | persist
  | done (reserved : Bool)

inductive WalletCall where
  | change (delta : Int) (cachePending dbPending : Bool)
  | reserve (amount : Int) (stage : ReserveStage)
  | hydrate (h : Hydration)
  | returned (out : Except CacheError Bool)

inductive WalletOp where
  | increaseUserQuota (quota : Int)
  | decreaseUserQuota (quota : Int)
  | tryReserveUserQuota (quota : Int)
  | getUserCache

def WalletOp.init : WalletOp → WalletCall
  | .increaseUserQuota quota => if quota<0 then .returned (.error .negativeQuota) else .change quota true true
  | .decreaseUserQuota quota => if quota<0 then .returned (.error .negativeQuota) else .change (-quota) true true
  | .tryReserveUserQuota quota =>
    if quota<0 then .returned (.error .negativeQuota)
    else if quota=0 then .returned (.ok true)
    else .reserve quota .tryCache
  | .getUserCache => .hydrate (.cache .hash)

def WalletState.addQuota (s : WalletState) (delta : Int) : WalletState :=
  { s with row := { s.row with quota := s.row.quota+delta } }

def ReserveStage.afterScript (missed : ReserveStage) : CacheQuotaResult → ReserveStage
  | .ok => .persist
  | .insufficient => .done false
  | .miss => missed

def ReserveStage.ofHydration : Hydration → ReserveStage
  | .done (.ok _) => .retryCache
  | .done (.error _) => .fallback
  | h => .hydrating h

def advanceReserve (s : WalletState) (amount : Int) : ReserveStage → WalletState×ReserveStage
  | .tryCache =>
    let out := cacheTryReserveUserQuota s.keys s.row.id amount
    ({ s with keys := out.1 },.afterScript (.hydrating (.cache .hash)) out.2)
  | .hydrating h =>
    let out := h.advance s.row s.keys
    ({ s with keys := out.1 },.ofHydration out.2)
  | .retryCache =>
    let out := cacheTryReserveUserQuota s.keys s.row.id amount
    ({ s with keys := out.1 },.afterScript .fallback out.2)
  | .fallback => if amount ≤ s.row.quota then (s.addQuota (-amount),.done true) else (s,.done false)
  | .persist => (s.addQuota (-amount),.done true)
  | .done reserved => (s,.done reserved)

/-- One step of a call. Of a change the scheduler chooses whether the asynchronous cache script or the
database update comes next. -/
def advanceWallet (s : WalletState) : WalletCall → Bool → WalletState×WalletCall
  | .change delta true dbPending, true =>
    ({ s with keys := (cacheApplyUserQuotaDelta s.keys s.row.id delta).1 },.change delta false dbPending)
  | .change delta cachePending true, false => (s.addQuota delta,.change delta cachePending false)
  | .change delta cachePending dbPending, _ => (s,.change delta cachePending dbPending)
  | .reserve amount stage, _ => ((advanceReserve s amount stage).1,.reserve amount (advanceReserve s amount stage).2)
  | .hydrate h, _ => ({ s with keys := (h.advance s.row s.keys).1 },.hydrate (h.advance s.row s.keys).2)
  | .returned out, _ => (s,.returned out)

def walletSystem : System WalletState WalletCall WalletOp Bool where
  init := WalletOp.init
  advance := advanceWallet

def WalletCall.finished : WalletCall → Bool
  | .change _ cachePending dbPending => !cachePending && !dbPending
  | .reserve _ (.done _) => true
  | .hydrate (.done _) => true
  | .returned _ => true
  | _ => false

def WalletCall.cacheDue : WalletCall → Int
  | .change delta true _ => delta
  | _ => 0

def WalletCall.dbDue : WalletCall → Int
  | .change delta _ true => delta
  | .reserve amount .persist => -amount
  | _ => 0

def WalletCall.filling : WalletCall → Option User
  | .hydrate (.populate user) => some user
  | .reserve _ (.hydrating (.populate user)) => some user
  | _ => none

def cacheDue (p : Pool WalletState WalletCall) : Int := (p.threads.map WalletCall.cacheDue).sum

def dbDue (p : Pool WalletState WalletCall) : Int := (p.threads.map WalletCall.dbDue).sum

def WalletAgrees (s : WalletState) : Prop :=
  ∀ hash, s.keys.hash=some hash → hash.quota=some s.row.quota

/-- A fill of an absent hash: its snapshot and the deltas still to come to the cache make up the database
quota and the deltas still to come to the database. -/
def CoherentFill (p : Pool WalletState WalletCall) : Act WalletOp Bool → Prop
  | .start _ => True
  | .step i _ => ∀ t∈p.threads[i]?, ∀ user∈t.filling, p.shared.keys.hash=none →
      user.quota+cacheDue p=p.shared.row.quota+dbDue p

instance (p : Pool WalletState WalletCall) : ∀ a, Decidable (CoherentFill p a)
  | .start _ => isTrue trivial
  | .step i _ => inferInstanceAs (Decidable (∀ t∈p.threads[i]?, ∀ user∈t.filling, p.shared.keys.hash=none →
      user.quota+cacheDue p=p.shared.row.quota+dbDue p))

/-- What a call knows: a retry has seen a hash, so that the fallback to the database is never reached. -/
def WalletCallOk (s : WalletState) : WalletCall → Prop
  | .reserve _ (.hydrating h) => HydrationOk s.row s.keys h
  | .reserve _ .retryCache => s.keys.hash≠none
  | .reserve _ .fallback => False
  | .hydrate h => HydrationOk s.row s.keys h
  | _ => True

variable {s : WalletState} {t t' : WalletCall}

theorem walletCallOk_mono {s' : WalletState} (ht : WalletCallOk s t) (hrow : SameVersions s.row s'.row)
    (hk : s.keys.hash≠none → s'.keys.hash≠none) : WalletCallOk s' t := by
  fun_cases WalletCallOk s t with
  | case1 amount h => exact HydrationOk.mono ht hrow hk
  | case2 amount => exact hk ht
  | case3 amount => exact ht
  | case4 h => exact HydrationOk.mono ht hrow hk
  | case5 => simp_all [WalletCallOk]

/-- The cached quota minus the row's, where there is a hash, with what is still due on either side. -/
def gap (s : WalletState) (hash : UserHash) (cacheDue dbDue : Int) : Int :=
  hash.quota.getD 0+cacheDue-s.row.quota-dbDue

/-- What one step may do: it keeps the versions and an existing hash with its gap, and a hash appears only
by a fill, with the gap of the snapshot. -/
structure WalletEffect (s s' : WalletState) (t t' : WalletCall) : Prop where
  steady : Steady s'.row s'.keys
  rows : SameVersions s.row s'.row
  callOk : WalletCallOk s' t'
  present : ∀ hash, s.keys.hash=some hash → ∃ hash', s'.keys.hash=some hash' ∧
    gap s' hash' t'.cacheDue t'.dbDue=gap s hash t.cacheDue t.dbDue
  absent : s.keys.hash=none → t.filling=none ∧ s'.keys.hash=none ∨
    ∃ user hash', t.filling=some user ∧ s'.keys.hash=some hash' ∧
      gap s' hash' t'.cacheDue t'.dbDue=user.quota+t.cacheDue-s.row.quota-t.dbDue

section
variable (hs : Steady s.row s.keys)
include hs

theorem WalletEffect.of_row {delta : Int} (hok : WalletCallOk (s.addQuota delta) t')
    (hfill : t.filling=none) (hcache : t'.cacheDue=t.cacheDue)
    (hdb : t.dbDue=t'.dbDue+delta) : WalletEffect s (s.addQuota delta) t t' where
  steady := hs.of_sameVersions ⟨rfl,rfl,rfl⟩
  rows := ⟨rfl,rfl,rfl⟩
  callOk := hok
  present hash hk := by
    refine ⟨hash,hk,?_⟩
    simp only [gap,hcache,hdb,WalletState.addQuota]
    omega
  absent hk := .inl ⟨hfill,hk⟩

theorem WalletEffect.of_idle (hok : WalletCallOk s t') (hfill : t.filling=none) (hcache : t'.cacheDue=t.cacheDue)
    (hdb : t'.dbDue=t.dbDue) : WalletEffect s s t t' where
  steady := hs
  rows := SameVersions.refl _
  callOk := hok
  present hash hk := ⟨hash,hk,by rw [hcache,hdb]⟩
  absent hk := .inl ⟨hfill,hk⟩

theorem WalletEffect.of_script {delta : Int} (hhash : s.keys.hash≠none)
    (hok : WalletCallOk { s with keys := s.keys.addQuota delta } t')
    (hdue : t.cacheDue+t'.dbDue=t'.cacheDue+t.dbDue+delta) :
    WalletEffect s { s with keys := s.keys.addQuota delta } t t' where
  steady := hs.addQuota delta
  rows := SameVersions.refl _
  callOk := hok
  present hash hk := by
    refine ⟨{ hash with quota := some (hash.quota.getD 0+delta) },?_,?_⟩
    · simp only [Keys.addQuota,hk,map_some]
    simp only [gap,getD_some]
    omega
  absent hk := absurd hk hhash

theorem WalletEffect.of_hydration {h : Hydration} (hh : HydrationOk s.row s.keys h)
    (hok : HydrationOk s.row (h.advance s.row s.keys).1 (h.advance s.row s.keys).2 →
      WalletCallOk { s with keys := (h.advance s.row s.keys).1 } t')
    (hfill : ∀ user, t.filling=some user ↔ h=.populate user) (hcache : t'.cacheDue=t.cacheDue)
    (hdb : t'.dbDue=t.dbDue) : WalletEffect s { s with keys := (h.advance s.row s.keys).1 } t t' := by
  obtain ⟨hsteady,hnext,hkeys⟩ := hydration_advance hs hh
  refine ⟨hsteady,SameVersions.refl _,hok hnext,fun hash hk => ?_,fun hk => ?_⟩
  · obtain heq | ⟨user,hpop,heq⟩ := hkeys
    · exact ⟨hash,by simp only [heq,hk],by simp only [gap,hcache,hdb]⟩
    refine ⟨filled s.keys user,by simp only [heq],?_⟩
    simp only [gap,hcache,hdb,filled_present hs hk]
    rfl
  · obtain heq | ⟨user,hpop,heq⟩ := hkeys
    · by_cases hnone : t.filling=none
      · exact .inl ⟨hnone,by simp only [heq,hk]⟩
      obtain ⟨user,huser⟩ := ne_none_iff_exists'.mp hnone
      have hpop : h=.populate user := (hfill user).mp huser
      subst hpop
      simp only [Hydration.advance,populate_steady hs hh] at heq
      rw [← heq] at hk
      cases hk
    · refine .inr ⟨user,filled s.keys user,(hfill user).mpr hpop,by simp only [heq],?_⟩
      simp only [gap,hcache,hdb,filled_absent hk,getD_some]

theorem WalletEffect.of_miss (hk : s.keys.hash=none) (hok : WalletCallOk s t')
    (hfill : t.filling=none) : WalletEffect s s t t' where
  steady := hs
  rows := SameVersions.refl _
  callOk := hok
  present hash hhash := by
    rw [hk] at hhash
    cases hhash
  absent _ := .inl ⟨hfill,hk⟩

theorem change_effect (delta : Int) (cachePending dbPending c : Bool) :
    WalletEffect s (advanceWallet s (.change delta cachePending dbPending) c).1 (.change delta cachePending dbPending)
      (advanceWallet s (.change delta cachePending dbPending) c).2 := by
  cases c with
  | true =>
    cases cachePending with
    | false => cases dbPending <;> exact .of_idle hs trivial rfl rfl rfl
    | true =>
      have hholds := holdsQuota_steady hs
      cases hk : s.keys.hash with
      | none =>
        simp only [advanceWallet,cacheApplyUserQuotaDelta,hholds,hk,isSome_none,if_true]
        exact .of_miss hs hk trivial rfl
      | some hash =>
        simp only [advanceWallet,cacheApplyUserQuotaDelta,hholds,hk,isSome_some,true_eq_false,if_false]
        refine .of_script hs (by simp [hk]) trivial ?_
        cases dbPending <;> simp [WalletCall.cacheDue,WalletCall.dbDue]
  | false =>
    cases dbPending with
    | false => cases cachePending <;> exact .of_idle hs trivial rfl rfl rfl
    | true =>
      have hstep : advanceWallet s (.change delta cachePending true) false =
          (s.addQuota delta,.change delta cachePending false) := by
        cases cachePending <;> rfl
      rw [hstep]
      refine .of_row hs trivial rfl ?_ ?_
      · cases cachePending <;> rfl
      · simp [WalletCall.dbDue]

theorem script_effect (amount : Int) {stage missed : ReserveStage}
    (hstage : (WalletCall.reserve amount stage).filling=none)
    (hdue : (WalletCall.reserve amount stage).dbDue=0)
    (hmissed : s.keys.hash=none → WalletCallOk s (.reserve amount missed)) :
    WalletEffect s { s with keys := (cacheTryReserveUserQuota s.keys s.row.id amount).1 } (.reserve amount stage)
      (.reserve amount (.afterScript missed (cacheTryReserveUserQuota s.keys s.row.id amount).2)) := by
  have hholds := holdsQuota_steady hs
  cases hk : s.keys.hash with
  | none =>
    simp only [cacheTryReserveUserQuota,hholds,hk,isSome_none,if_true]
    exact .of_miss hs hk (hmissed hk) hstage
  | some hash =>
    simp only [cacheTryReserveUserQuota,hholds,hk,isSome_some,true_eq_false,if_false]
    split
    · refine .of_idle hs trivial hstage rfl ?_
      rw [hdue]
      rfl
    · refine .of_script hs (by simp [hk]) trivial ?_
      rw [hdue]
      simp [WalletCall.cacheDue,ReserveStage.afterScript,WalletCall.dbDue]

theorem reserve_effect {amount : Int} {stage : ReserveStage} (ht : WalletCallOk s (.reserve amount stage)) :
    WalletEffect s (advanceReserve s amount stage).1 (.reserve amount stage)
      (.reserve amount (advanceReserve s amount stage).2) := by
  cases stage with
  | tryCache => exact script_effect hs amount rfl rfl fun _ => trivial
  | retryCache => exact script_effect hs amount rfl rfl fun hk => absurd hk ht
  | hydrating h =>
    refine .of_hydration hs ht (fun hok => ?_) (fun user => ?_) ?_ ?_
    · simp only [advanceReserve]
      generalize (h.advance s.row s.keys).2=next at hok ⊢
      fun_cases ReserveStage.ofHydration next with
      | case1 _ | case2 _ | case3 => exact hok
    · cases h <;> simp [WalletCall.filling]
    · rfl
    · simp only [advanceReserve]
      generalize (h.advance s.row s.keys).2=next
      fun_cases ReserveStage.ofHydration next <;> rfl
  | fallback => exact ht.elim
  | persist =>
    refine .of_row hs trivial rfl rfl ?_
    simp [WalletCall.dbDue,advanceReserve]
  | done reserved => exact .of_idle hs trivial rfl rfl rfl

theorem wallet_effect (ht : WalletCallOk s t) (c : Bool) :
    WalletEffect s (advanceWallet s t c).1 t (advanceWallet s t c).2 := by
  cases t with
  | change delta cachePending dbPending => exact change_effect hs delta cachePending dbPending c
  | reserve amount stage => exact reserve_effect hs ht
  | hydrate h =>
    refine .of_hydration hs ht (fun hok => hok) (fun user => ?_) rfl rfl
    cases h <;> simp [WalletCall.filling]
  | returned out => exact .of_idle hs trivial rfl rfl rfl

end

theorem wallet_keeps : Keeps walletSystem (fun s => Steady s.row s.keys) WalletCallOk where
  init o _ := by
    cases o with
    | increaseUserQuota _ | decreaseUserQuota _ => simp only [walletSystem,WalletOp.init]; split <;> trivial
    | tryReserveUserQuota quota =>
      simp only [walletSystem,WalletOp.init]
      split
      · trivial
      split <;> trivial
    | getUserCache => trivial
  shared c hs ht := (wallet_effect hs ht c).steady
  moved c hs ht := (wallet_effect hs ht c).callOk
  other {s t u} c hs ht hu := by
    have heffect := wallet_effect hs ht c
    refine walletCallOk_mono hu heffect.rows fun hne => ?_
    obtain ⟨hash,hk⟩ := ne_none_iff_exists'.mp hne
    obtain ⟨hash',hk',-⟩ := heffect.present hash hk
    simp [walletSystem,hk']

abbrev WalletPoolOk (p : Pool WalletState WalletCall) : Prop :=
  Each (fun s => Steady s.row s.keys) WalletCallOk p

def poolGap (p : Pool WalletState WalletCall) (hash : UserHash) : Int := gap p.shared hash (cacheDue p) (dbDue p)

variable {p : Pool WalletState WalletCall} {i : Nat}

theorem cacheDue_step (s' : WalletState) (hi : p.threads[i]? = some t) :
    cacheDue { shared := s', threads := p.threads.set i t' }=cacheDue p+(t'.cacheDue-t.cacheDue) :=
  sum_map_set hi t'

theorem dbDue_step (s' : WalletState) (hi : p.threads[i]? = some t) :
    dbDue { shared := s', threads := p.threads.set i t' }=dbDue p+(t'.dbDue-t.dbDue) :=
  sum_map_set hi t'

theorem init_due (o : WalletOp) : o.init.cacheDue=o.init.dbDue := by
  cases o with
  | increaseUserQuota _ | decreaseUserQuota _ => simp only [WalletOp.init]; split <;> rfl
  | tryReserveUserQuota quota =>
    simp only [WalletOp.init]
    split
    · rfl
    split <;> rfl
  | getUserCache => rfl

theorem poolGap_start (p : Pool WalletState WalletCall) (o : WalletOp) (hash : UserHash) :
    poolGap (walletSystem.act p (.start o)) hash=poolGap p hash := by
  have hdue := init_due o
  simp only [poolGap,gap,System.act,walletSystem,cacheDue,dbDue,map_append,sum_append,map_cons,
    map_nil,sum_cons,sum_nil]
  omega

variable {hash : UserHash} (acts : List (Act WalletOp Bool))

theorem act_present (hp : WalletPoolOk p) (a : Act WalletOp Bool) (hk : p.shared.keys.hash=some hash) :
    CoherentFill p a ∧ ∃ hash', (walletSystem.act p a).shared.keys.hash=some hash' ∧
      poolGap (walletSystem.act p a) hash'=poolGap p hash := by
  cases a with
  | start o => exact ⟨trivial,hash,hk,poolGap_start p o hash⟩
  | step i c =>
    have hfill : CoherentFill p (.step i c) := fun t _ user _ hnone => by simp [hk] at hnone
    refine ⟨hfill,?_⟩
    cases hi : p.threads[i]? with
    | none =>
      rw [System.act_idle hi]
      exact ⟨hash,hk,rfl⟩
    | some t =>
      have heffect := wallet_effect hp.shared (hp.thread t (mem_of_getElem? hi)) c
      obtain ⟨hash',hk',hgap⟩ := heffect.present hash hk
      rw [System.act_step hi]
      refine ⟨hash',hk',?_⟩
      simp only [gap] at hgap
      simp only [poolGap,gap,walletSystem,cacheDue_step _ hi,dbDue_step _ hi]
      omega

theorem act_absent (hp : WalletPoolOk p) (a : Act WalletOp Bool) (hk : p.shared.keys.hash=none) :
    CoherentFill p a ∧ (walletSystem.act p a).shared.keys.hash=none ∨
      ∃ hash', (walletSystem.act p a).shared.keys.hash=some hash' ∧
        (poolGap (walletSystem.act p a) hash'=0 ↔ CoherentFill p a) := by
  cases a with
  | start o => exact .inl ⟨trivial,hk⟩
  | step i c =>
    cases hi : p.threads[i]? with
    | none =>
      rw [System.act_idle hi]
      refine .inl ⟨fun t ht => ?_,hk⟩
      rw [hi] at ht
      cases ht
    | some t =>
      have heffect := wallet_effect hp.shared (hp.thread t (mem_of_getElem? hi)) c
      have honly : CoherentFill p (.step i c) ↔ ∀ user∈t.filling, user.quota+cacheDue p=p.shared.row.quota+dbDue p := by
        simp only [CoherentFill,hi,mem_def,Option.some.injEq,forall_eq',hk,forall_const]
      rw [System.act_step hi,honly]
      obtain ⟨hfill,hnone⟩ | ⟨user,hash',hfill,hk',hgap⟩ := heffect.absent hk
      · left
        refine ⟨fun user huser => ?_,hnone⟩
        rw [hfill] at huser
        cases huser
      · refine .inr ⟨hash',hk',?_⟩
        simp only [hfill,mem_def,Option.some.injEq,forall_eq']
        simp only [gap] at hgap
        simp only [poolGap,gap,walletSystem,cacheDue_step _ hi,dbDue_step _ hi]
        omega

theorem run_present (hp : WalletPoolOk p) (hk : p.shared.keys.hash=some hash) :
    Guarded walletSystem.act CoherentFill acts p ∧ ∃ hash', (run walletSystem.act acts p).shared.keys.hash=some hash' ∧
        poolGap (run walletSystem.act acts p) hash'=poolGap p hash := by
  induction acts generalizing p hash with
  | nil => exact ⟨trivial,hash,hk,rfl⟩
  | cons a acts ih =>
    obtain ⟨hfill,hash1,hk1,hgap1⟩ := act_present hp a hk
    obtain ⟨hguard,hash',hk',hgap'⟩ := ih (wallet_keeps.act hp a) hk1
    exact ⟨⟨hfill,hguard⟩,hash',hk',hgap'.trans hgap1⟩

theorem run_absent (hp : WalletPoolOk p) (hk : p.shared.keys.hash=none) :
    Guarded walletSystem.act CoherentFill acts p ∧ (run walletSystem.act acts p).shared.keys.hash=none ∨
      ∃ hash', (run walletSystem.act acts p).shared.keys.hash=some hash' ∧
        (poolGap (run walletSystem.act acts p) hash'=0 ↔ Guarded walletSystem.act CoherentFill acts p) := by
  induction acts generalizing p with
  | nil => exact .inl ⟨trivial,hk⟩
  | cons a acts ih =>
    obtain ⟨hfill,hnone⟩ | ⟨hash1,hk1,hiff⟩ := act_absent hp a hk
    · obtain ⟨hguard,hend⟩ | ⟨hash',hk',hiff⟩ := ih (wallet_keeps.act hp a) hnone
      · exact .inl ⟨⟨hfill,hguard⟩,hend⟩
      · exact .inr ⟨hash',hk',hiff.trans ⟨fun h => ⟨hfill,h⟩,fun h => h.2⟩⟩
    · obtain ⟨hguard,hash',hk',hgap⟩ := run_present acts (wallet_keeps.act hp a) hk1
      refine .inr ⟨hash',hk',?_⟩
      rw [run,hgap,hiff]
      exact ⟨fun h => ⟨h,hguard⟩,fun h => h.1⟩

theorem finished_due (h : t.finished=true) : t.cacheDue=0 ∧ t.dbDue=0 := by
  fun_cases WalletCall.finished t with
  | case1 delta cachePending dbPending =>
    simp only [WalletCall.finished,and_eq_true,not_eq_true'] at h
    rw [h.1,h.2]
    exact ⟨rfl,rfl⟩
  | case2 | case3 | case4 => exact ⟨rfl,rfl⟩
  | case5 => simp_all [WalletCall.finished]

theorem agrees_iff_gap (hp : WalletPoolOk p) (hfinished : ∀ t∈p.threads, t.finished=true) (hk : p.shared.keys.hash=some hash) :
    WalletAgrees p.shared ↔ poolGap p hash=0 := by
  have hcache : cacheDue p=0 := sum_eq_zero fun x hx => by
    obtain ⟨t,ht,rfl⟩ := List.mem_map.mp hx
    exact (finished_due (hfinished t ht)).1
  have hdb : dbDue p=0 := sum_eq_zero fun x hx => by
    obtain ⟨t,ht,rfl⟩ := List.mem_map.mp hx
    exact (finished_due (hfinished t ht)).2
  obtain ⟨quota,hquota⟩ := ne_none_iff_exists'.mp (hp.shared.hash hash hk).quota
  simp only [WalletAgrees,hk,Option.some.injEq,forall_eq',poolGap,gap,hcache,hdb,hquota,getD_some]
  omega

def walletStart (row : User) (keys : Keys) : Pool WalletState WalletCall :=
  { shared := { row := row, keys := keys }, threads := [] }

/-- Once all calls have finished, the cached quota is that of the database exactly if the fill that created the hash was
coherent. -/
theorem wallet_agrees_at_rest (row : User) (keys : Keys) (hsteady : Steady row keys)
    (hagrees : WalletAgrees { row := row, keys := keys }) (acts : List (Act WalletOp Bool))
    (hfinished : ∀ t∈(run walletSystem.act acts (walletStart row keys)).threads, t.finished=true) :
    WalletAgrees (run walletSystem.act acts (walletStart row keys)).shared ↔
      Guarded walletSystem.act CoherentFill acts (walletStart row keys) := by
  have hp : WalletPoolOk (walletStart row keys) := ⟨hsteady,fun t ht => by cases ht⟩
  have hend := wallet_keeps.run acts hp
  cases hcold : keys.hash with
  | none =>
    obtain ⟨hguard,hnone⟩ | ⟨hash,hk,hiff⟩ := run_absent acts hp hcold
    · refine iff_of_true (fun hash hhash => ?_) hguard
      rw [hnone] at hhash
      cases hhash
    · exact (agrees_iff_gap hend hfinished hk).trans hiff
  | some hash =>
    obtain ⟨hguard,hash',hk',hgap⟩ := run_present acts hp hcold
    have hzero : poolGap (walletStart row keys) hash=0 := by
      simp [poolGap,gap,walletStart,cacheDue,dbDue,hagrees hash hcold]
    exact iff_of_true ((agrees_iff_gap hend hfinished hk').mpr (hgap.trans hzero)) hguard

/-- The hydration reads the row, an increase misses the cache and changes the row, and then the hydration
writes the old quota. -/
def delayedQuotaFill : List (Act WalletOp Bool) :=
  .start .getUserCache::List.replicate 2 (.step 0 true) ++
    [.start (.increaseUserQuota 5),.step 1 true,.step 1 false]++List.replicate 3 (.step 0 true)

def reserveThenIncrease : List (Act WalletOp Bool) :=
  .start (.tryReserveUserQuota 30)::List.replicate 8 (.step 0 true) ++
    [.start (.increaseUserQuota 5),.step 1 false,.step 1 true]

theorem wallet_agrees_at_rest_reserved :
    WalletAgrees (run walletSystem.act reserveThenIncrease (walletStart plainUser coldKeys)).shared :=
  (wallet_agrees_at_rest plainUser coldKeys plain_steady (fun hash h => by cases h) reserveThenIncrease
    (by decide +kernel)).mpr (by decide +kernel)

theorem delayed_fill_keeps_old_quota : ¬ ∀ acts : List (Act WalletOp Bool),
      (∀ t∈(run walletSystem.act acts (walletStart plainUser coldKeys)).threads, t.finished=true) →
      WalletAgrees (run walletSystem.act acts (walletStart plainUser coldKeys)).shared := by
  intro h
  have hagrees := h delayedQuotaFill (by decide +kernel)
  have hhash : ((run walletSystem.act delayedQuotaFill (walletStart plainUser coldKeys)).shared.keys.hash.bind
      (·.quota))=some 100 := by decide +kernel
  have hrow : (run walletSystem.act delayedQuotaFill (walletStart plainUser coldKeys)).shared.row.quota=105 := by
    decide +kernel
  obtain ⟨hash,hk,hquota⟩ := bind_eq_some_iff.mp hhash
  have hcached := hagrees hash hk
  rw [hrow,hquota] at hcached
  exact absurd hcached (by decide)

end NewApi.UserCache
