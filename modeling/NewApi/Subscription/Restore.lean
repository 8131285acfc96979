import NewApi.Subscription.Fallback

/-! What purchases, expirations, cancellations and deletions do to the way back: the invariant of a
step, the conditions under which a step keeps it, and the group after whole runs. -/
namespace NewApi.Subscription
open Keyed Function List GoStrings Chains Runs
variable {db : GroupDB} {u now : Int} {g : String}

/-- What every step keeps: the rows lead back and the group is the one they call for. -/
structure WayBack (u : Int) (g : String) (db : GroupDB) : Prop where
  history : History (userRows db.subs u) g
  restored : GroupRestored db u g
  unique : Keyed.Unique UserSubscription.id db.subs
  fresh : ∀ s∈db.subs, s.id<db.nextId

theorem WayBack.group (h : WayBack u g db) : db.group u=g ∨ ∃ y, LeadsBack (userRows db.subs u) (db.group u) y := by
  by_cases hl : ∃ s∈userRows db.subs u, Lends s
  · obtain ⟨s,hs,hlend,hgroup⟩ := h.restored.2 hl
    by_cases hbase : s.upgradeGroup=g
    · exact Or.inl (hgroup.trans hbase)
    rw [hgroup]
    exact Or.inr (h.history.linked s hs hlend.2 hbase)
  · exact Or.inl (h.restored.1 fun s hs hlend => hl ⟨s,hs,hlend⟩)

theorem WayBack.trimmed (h : WayBack u g db) (hg : trimSpace g=g) : trimSpace (db.group u)=db.group u := by
  rcases h.group with hbase | ⟨y,s,hs,hup,-⟩
  · rw [hbase,hg]
  rw [← hup]
  exact (h.history.trimmed s hs).1

theorem WayBack.group_ne (h : WayBack u g db) (hg : g≠"") : db.group u≠"" := by
  rcases h.group with hbase | ⟨y,s,hs,hup,hne,-⟩
  · rwa [hbase]
  · exact hne

variable {db' : GroupDB} {f : UserSubscription → UserSubscription}

theorem GroupRestored.congr (h : GroupRestored db u g) (hrows : userRows db'.subs u=userRows db.subs u)
    (hgroup : db'.group u=db.group u) : GroupRestored db' u g := by
  rw [GroupRestored,hrows,hgroup]
  exact h

theorem userRows_map (hf : ∀ s, (f s).userId=s.userId)
    (subs : List UserSubscription) : userRows (subs.map f) u=f '' userRows subs u := by
  ext s
  simp only [userRows,mem_map,Set.mem_ofPred_eq,Set.mem_image]
  constructor
  · rintro ⟨⟨t,ht,rfl⟩,huser⟩
    exact ⟨t,⟨ht,(hf t).symm.trans huser⟩,rfl⟩
  · rintro ⟨t,⟨ht,huser⟩,rfl⟩
    exact ⟨⟨t,ht,rfl⟩,(hf t).trans huser⟩

theorem userRows_map_of_fixed (hf : ∀ s, (f s).userId=s.userId)
    (subs : List UserSubscription) (hfix : ∀ s∈subs, s.userId=u → f s=s) : userRows (subs.map f) u=userRows subs u := by
  rw [userRows_map hf,Set.image_congr fun s hs => hfix s hs.1 hs.2,Set.image_id']

structure KeepsGroups (f : UserSubscription → UserSubscription) : Prop where
  id : ∀ s, (f s).id=s.id
  userId : ∀ s, (f s).userId=s.userId
  upgradeGroup : ∀ s, (f s).upgradeGroup=s.upgradeGroup
  prevUserGroup : ∀ s, (f s).prevUserGroup=s.prevUserGroup
  downgradeGroup : ∀ s, (f s).downgradeGroup=s.downgradeGroup
  active : ∀ s, (f s).status=.active → f s=s

variable {f : UserSubscription → UserSubscription} {rows : Set UserSubscription}

theorem KeepsGroups.leadsBack (hf : KeepsGroups f) (x y : String) : LeadsBack (f '' rows) x y ↔ LeadsBack rows x y := by
  simp only [LeadsBack,Set.exists_mem_image,hf.upgradeGroup,hf.prevUserGroup]

theorem History.image (h : History rows g) (hf : KeepsGroups f) : History (f '' rows) g where
  trimmed := by
    rintro _ ⟨s,hs,rfl⟩
    rw [hf.upgradeGroup,hf.prevUserGroup]
    exact h.trimmed s hs
  noDowngrade := by
    rintro _ ⟨s,hs,rfl⟩
    rw [hf.downgradeGroup]
    exact h.noDowngrade s hs
  ending := by
    rintro _ ⟨s,hs,rfl⟩ hactive
    have hsame := hf.active s hactive
    rw [hsame] at hactive ⊢
    exact h.ending s hs hactive
  linked := by
    rintro _ ⟨s,hs,rfl⟩ hne hbase
    rw [hf.upgradeGroup] at hne hbase ⊢
    obtain ⟨y,hy⟩ := h.linked s hs hne hbase
    exact ⟨y,(hf.leadsBack _ _).mpr hy⟩
  ends := by
    intro x y hxy
    simp only [hf.leadsBack] at hxy ⊢
    exact h.ends x y hxy
  apart := by
    rintro _ ⟨s,hs,rfl⟩ hbase x y
    rw [hf.upgradeGroup] at hbase
    rw [hf.leadsBack]
    exact h.apart s hs hbase x y
  short := h.short.mono fun x y hxy => (hf.leadsBack x y).mp hxy

variable {subs : List UserSubscription}

theorem KeepsGroups.unique (hf : KeepsGroups f) (h : Keyed.Unique UserSubscription.id subs) :
    Keyed.Unique UserSubscription.id (subs.map f) := by
  have hids : (subs.map f).map UserSubscription.id=subs.map UserSubscription.id := by
    rw [map_map]
    exact map_congr_left fun s _ => hf.id s
  rw [Keyed.Unique,hids]
  exact h

theorem KeepsGroups.fresh (hf : KeepsGroups f) (h : ∀ s∈db.subs, s.id<db.nextId) : ∀ s∈db.subs.map f, s.id<db.nextId := by
  intro s hs
  obtain ⟨t,ht,rfl⟩ := mem_map.mp hs
  rw [hf.id]
  exact h t ht

theorem WayBack.update (h : WayBack u g db) (hu : 0<u) (hg : g≠"") (htrim : trimSpace g=g)
    (hf : KeepsGroups f) {affected : List String} {exclude : List Int}
    (hstops : ∀ s∈userRows db.subs u, Lends s → ¬ Lends (f s) → s.upgradeGroup∈affected)
    (hexclude : ∀ s∈userRows db.subs u, Lends (f s) → s.id∉exclude)
    (hruns : db.group u∈affected → (∃ s∈userRows db.subs u, Lends (f s)) →
      ∃ s∈userRows db.subs u, Lends (f s) ∧ s.endTime>now) :
    WayBack u g (reconcileUserGroupAfterSubscriptionChange { db with subs := db.subs.map f } u affected
      now exclude).1 := by
  have hrows : userRows (db.subs.map f) u=f '' userRows db.subs u := userRows_map hf.userId db.subs
  have hhistory : History (userRows (db.subs.map f) u) g := hrows ▸ h.history.image hf
  obtain ⟨group,hframe⟩ :=
    reconcile_frame { db with subs := db.subs.map f } u affected now exclude
  have hlends : (∃ s∈userRows (db.subs.map f) u, Lends s) ↔ ∃ s∈userRows db.subs u, Lends (f s) := by
    rw [hrows,Set.exists_mem_image]
  refine ⟨?_,?_,?_,?_⟩
  · rw [hframe]
    exact hhistory
  · by_cases haffected : db.group u∈affected
    · have hgroup : db.group u=g ∨ ∃ y, LeadsBack (userRows (db.subs.map f) u) (db.group u) y := by
        simp only [hrows,hf.leadsBack]
        exact h.group
      have hcases := reconcile_affected { db with subs := db.subs.map f } now exclude hhistory hu hg
        (h.trimmed htrim) hgroup haffected (by
          simp only [hrows]
          rintro _ ⟨s,hs,rfl⟩ hl hid
          exact absurd (hf.id s ▸ hid) (hexclude s hs hl))
      rw [hframe] at hcases ⊢
      rcases hcases with ⟨t,ht,hl,hend,-,hmoved⟩ | ⟨hidle,hmoved⟩
      · exact ⟨fun hnone => absurd hl (hnone t ht),fun _ => ⟨t,ht,hl,hmoved⟩⟩
      refine ⟨fun _ => hmoved,fun hsome => ?_⟩
      obtain ⟨s,hs,hl,hend⟩ := hruns haffected (hlends.mp hsome)
      have hsame := hf.active s hl.1
      have hid := hidle (f s) (hrows ▸ ⟨s,hs,rfl⟩) hl (by rw [hsame]; exact hend)
      exact absurd (hf.id s ▸ hid) (hexclude s hs hl)
    · have hkeep : (reconcileUserGroupAfterSubscriptionChange { db with subs := db.subs.map f } u affected
          now exclude).1={ db with subs := db.subs.map f } := by
        rw [reconcile_unaffected (by rw [h.trimmed htrim]; exact haffected)]
      rw [hkeep]
      have hstill : ∀ s∈userRows db.subs u, Lends s → db.group u=s.upgradeGroup → Lends (f s) := by
        intro s hs hl hgroup
        by_contra hstop
        exact haffected (hgroup ▸ hstops s hs hl hstop)
      constructor
      · intro hnone
        refine h.restored.1 fun s hs hl => ?_
        obtain ⟨t,ht,hlt,hgroup⟩ := h.restored.2 ⟨s,hs,hl⟩
        exact hnone (f t) (hrows ▸ ⟨t,ht,rfl⟩) (hstill t ht hlt hgroup)
      · intro hsome
        obtain ⟨s,hs,hl⟩ := hlends.mp hsome
        have hls : Lends s := hf.active s hl.1 ▸ hl
        obtain ⟨t,ht,hlt,hgroup⟩ := h.restored.2 ⟨s,hs,hls⟩
        exact ⟨f t,hrows ▸ ⟨t,ht,rfl⟩,hstill t ht hlt hgroup,hgroup.trans (hf.upgradeGroup t).symm⟩
  · rw [hframe]
    exact hf.unique h.unique
  · rw [hframe]
    exact hf.fresh h.fresh

theorem WayBack.other (h : WayBack u g db) (hrows : userRows db'.subs u=userRows db.subs u) (hgroup : db'.group u=db.group u)
    (hunique : Keyed.Unique UserSubscription.id db'.subs) (hfresh : ∀ s∈db'.subs, s.id<db'.nextId) : WayBack u g db' :=
  ⟨hrows ▸ h.history,h.restored.congr hrows hgroup,hunique,hfresh⟩

variable {v id endUnix : Int}

theorem setGroup_other (hv : u≠v) (db : GroupDB) (group : String) :
    (setGroup db v group).group u=db.group u := update_of_ne hv _ _

theorem WayBack.updateOther (h : WayBack u g db) (hv : u≠v) (hf : KeepsGroups f)
    (hfix : ∀ s∈db.subs, s.userId=u → f s=s) (affected : List String) (exclude : List Int) :
    WayBack u g (reconcileUserGroupAfterSubscriptionChange { db with subs := db.subs.map f } v affected
      now exclude).1 := by
  obtain ⟨group,hframe⟩ := reconcile_frame { db with subs := db.subs.map f } v affected now exclude
  rw [hframe]
  exact h.other (userRows_map_of_fixed hf.userId db.subs hfix) (setGroup_other hv _ _) (hf.unique h.unique) (hf.fresh h.fresh)

theorem keepsGroups_expireDue (v now : Int) : KeepsGroups (expireDue v now) := by
  constructor <;> intro s <;> unfold expireDue <;> split <;> simp

theorem expire_wayBack (h : WayBack u g db) (hu : 0<u) (hg : g≠"") (htrim : trimSpace g=g)
    (hok : expireDueSubscriptionsForUser db v now=.ok db') : WayBack u g db' := by
  unfold expireDueSubscriptionsForUser at hok
  split at hok
  · cases hok
  simp only at hok
  split at hok
  · cases hok
    exact h
  cases hok
  have hf := keepsGroups_expireDue v now
  by_cases hv : u=v
  · subst hv
    have hdue : ∀ s∈userRows db.subs u, Lends s → (Lends (expireDue u now s) ↔ now<s.endTime) := by
      intro s hs hl
      have hend := h.history.ending s hs hl.1
      simp only [Lends,expireDue,isDue,hs.2,hl.1,hend,true_and,decide_eq_true_eq]
      by_cases hle : s.endTime≤now
      · simp [hle]
      · simp [hle,hl.1,hl.2,not_le.mp hle]
    refine h.update hu hg htrim hf ?_ (fun s hs hl => not_mem_nil) ?_
    · intro s hs hl hstop
      have hend := h.history.ending s hs hl.1
      have hle : s.endTime≤now := not_lt.mp fun hlt => hstop ((hdue s hs hl).mpr hlt)
      simp only [collectAffectedUpgradeGroups,mem_filter,mem_map,decide_eq_true_eq]
      exact ⟨⟨s,⟨hs.1,by simp [isDue,hs.2,hl.1,hend,hle]⟩,(h.history.trimmed s hs).1⟩,hl.2⟩
    · rintro-⟨s,hs,hl⟩
      have hls : Lends s := hf.active s hl.1 ▸ hl
      exact ⟨s,hs,hl,(hdue s hs hls).mp hl⟩
  · refine h.updateOther hv hf (fun s hs huser => ?_) _ _
    have hne : ¬ s.userId=v := by rwa [huser]
    simp [expireDue,isDue,hne]

/-- The row goes whose group the user holds, and every other subscription that lends a group has
run out without having been expired. -/
def ExpiryLag (rows : Set UserSubscription) (group : String) (row : UserSubscription) (now : Int) : Prop :=
  group=row.upgradeGroup ∧ (∃ s∈rows, s.id≠row.id ∧ Lends s) ∧ ∀ s∈rows, s.id≠row.id → Lends s → s.endTime≤now

def cancelRow (id now : Int) (s : UserSubscription) : UserSubscription :=
  if s.id=id then cancelled now s else s

theorem keepsGroups_cancelRow (id now : Int) : KeepsGroups (cancelRow id now) := by
  constructor <;> intro s <;> unfold cancelRow <;> split <;> simp [cancelled]

variable {s t row : UserSubscription}

theorem unique_row (h : Keyed.Unique UserSubscription.id db.subs) (hs : s∈db.subs) (ht : t∈db.subs)
    (hid : s.id=t.id) : s=t := by
  have hfound := lookup_of_mem h hs
  rw [hid,lookup_of_mem h ht] at hfound
  exact (Option.some.inj hfound).symm

theorem invalidate_cases (hok : adminInvalidateUserSubscription db id now=.ok db') :
    ∃ row, Keyed.lookup UserSubscription.id id db.subs=some row ∧
      db'=(reconcileUserGroupAfterSubscriptionChange { db with subs := db.subs.map (cancelRow row.id now) }
        row.userId (if trimSpace row.upgradeGroup≠"" then [trimSpace row.upgradeGroup] else []) now
        [row.id]).1 := by
  unfold adminInvalidateUserSubscription at hok
  split at hok
  · cases hok
  split at hok
  · cases hok
  rename_i row hrow
  refine ⟨row,hrow,?_⟩
  have hmap : Keyed.modify UserSubscription.id row.id (cancelled now) db.subs = db.subs.map (cancelRow row.id now) := rfl
  simp only [hmap] at hok
  split at hok
  next hblank =>
    cases hok
    simp [hblank.1,reconcileUserGroupAfterSubscriptionChange]
  · cases hok
    rfl

theorem invalidate_wayBack (h : WayBack u g db) (hu : 0<u) (hg : g≠"") (htrim : trimSpace g=g)
    (hlag : ∀ row, Keyed.lookup UserSubscription.id id db.subs=some row → row.userId=u →
      ¬ ExpiryLag (userRows db.subs u) (db.group u) row now)
    (hok : adminInvalidateUserSubscription db id now=.ok db') : WayBack u g db' := by
  obtain ⟨row,hrow,rfl⟩ := invalidate_cases hok
  have hmem := (lookup_some hrow).1
  have hf := keepsGroups_cancelRow row.id now
  by_cases huser : row.userId=u
  · have hrowu : row∈userRows db.subs u := ⟨hmem,huser⟩
    have hcancelled : ∀ s, Lends (cancelRow row.id now s) → s.id≠row.id := by
      intro s hl hid
      simp [Lends,cancelRow,hid,cancelled] at hl
    have hother : ∀ s, s.id≠row.id → cancelRow row.id now s=s := by
      intro s hid
      simp [cancelRow,hid]
    rw [(h.history.trimmed row hrowu).1,huser]
    refine h.update hu hg htrim hf ?_ ?_ ?_
    · intro s hs hl hstop
      have hid : s.id=row.id := by
        by_contra hid
        rw [hother s hid] at hstop
        exact hstop hl
      rw [unique_row h.unique hs.1 hmem hid] at hl ⊢
      simp [hl.2]
    · intro s hs hl
      simpa using hcancelled s hl
    · rintro haffected ⟨s,hs,hl⟩
      have hgroup : db.group u=row.upgradeGroup := by
        split at haffected
        · simpa using haffected
        · simp at haffected
      have hne := hcancelled s hl
      rw [hother s hne] at hl
      by_contra hnone
      refine hlag row hrow huser ⟨hgroup,⟨s,hs,hne,hl⟩,fun t ht hid hlt => ?_⟩
      by_contra hend
      exact hnone ⟨t,ht,by rw [hother t hid]; exact hlt,not_le.mp hend⟩
  · refine h.updateOther (Ne.symm huser) hf (fun s hs hsu => ?_) _ _
    have hid : s.id≠row.id := fun hid => huser (unique_row h.unique hs hmem hid ▸ hsu)
    simp [cancelRow,hid]

def LinkSpared (rows : Set UserSubscription) (row : UserSubscription) : Prop :=
  row.upgradeGroup="" ∨ row.prevUserGroup="" ∨
    (∃ s∈rows, s.id≠row.id ∧ s.upgradeGroup=row.upgradeGroup ∧ s.prevUserGroup≠"") ∨
    ∀ s∈rows, s.id≠row.id → s.upgradeGroup≠row.upgradeGroup ∧ s.prevUserGroup≠row.upgradeGroup

def without (rows : Set UserSubscription) (id : Int) : Set UserSubscription := {s | s∈rows ∧ s.id≠id}

variable {x y current : String}

theorem LeadsBack.of_without (h : LeadsBack (without rows id) x y) : LeadsBack rows x y := by
  obtain ⟨s,hs,hrest⟩ := h
  exact ⟨s,hs.1,hrest⟩

theorem LinkSpared.leadsBack (hspared : LinkSpared rows row) (hid : ∀ s∈rows, s.id=row.id → s=row) (h : LeadsBack rows x y)
    (ht : t∈without rows row.id) (hx : t.upgradeGroup=x ∨ t.prevUserGroup=x) : ∃ z, LeadsBack (without rows row.id) x z := by
  obtain ⟨s,hs,hup,hxne,hprev,hyne⟩ := h
  by_cases hsid : s.id=row.id
  · obtain rfl := hid s hs hsid
    rcases hspared with hblank | hblank | ⟨s',hs',hne,hup',hprev'⟩ | hunused
    · exact absurd (hup.symm.trans hblank) hxne
    · exact absurd (hprev.symm.trans hblank) hyne
    · exact ⟨s'.prevUserGroup,s',⟨hs',hne⟩,hup'.trans hup,hxne,rfl,hprev'⟩
    have hmention := hunused t ht.1 ht.2
    rw [hup] at hmention
    rcases hx with hx | hx
    · exact absurd hx hmention.1
    · exact absurd hx hmention.2
  · exact ⟨y,s,⟨hs,hsid⟩,hup,hxne,hprev,hyne⟩

theorem History.without (h : History rows g) (hid : ∀ s∈rows, s.id=row.id → s=row) (hspared : LinkSpared rows row) :
    History (without rows row.id) g where
  trimmed := fun s hs => h.trimmed s hs.1
  noDowngrade := fun s hs => h.noDowngrade s hs.1
  ending := fun s hs => h.ending s hs.1
  linked := by
    intro s hs hne hbase
    obtain ⟨y,hy⟩ := h.linked s hs.1 hne hbase
    exact hspared.leadsBack hid hy hs (Or.inl rfl)
  ends := by
    intro x y hxy
    rcases h.ends x y hxy.of_without with hbase | ⟨z,hz⟩
    · exact Or.inl hbase
    obtain ⟨t,ht,hup,hxne,hprev,hyne⟩ := hxy
    exact Or.inr (hspared.leadsBack hid hz ht (Or.inr hprev))
  apart := fun s hs hbase x y hxy => h.apart s hs.1 hbase x y hxy.of_without
  short := h.short.mono fun x y hxy => hxy.of_without

theorem delete_cases (hok : adminDeleteUserSubscription db id now=.ok db') :
    ∃ row group, Keyed.lookup UserSubscription.id id db.subs=some row ∧
      (reconcileUserGroupAfterSubscriptionChange db row.userId [trimSpace row.upgradeGroup] now [row.id]).1 =
        setGroup db row.userId group ∧
      db'={ setGroup db row.userId group with subs := db.subs.filter (fun s => decide (s.id≠row.id)) } := by
  unfold adminDeleteUserSubscription at hok
  split at hok
  · cases hok
  split at hok
  · cases hok
  rename_i row hrow
  obtain ⟨group,hframe⟩ := reconcile_frame db row.userId [trimSpace row.upgradeGroup] now [row.id]
  refine ⟨row,group,hrow,hframe,?_⟩
  simp only [hframe] at hok
  cases hok
  rfl

theorem delete_wayBack (h : WayBack u g db) (hu : 0<u) (hg : g≠"") (htrim : trimSpace g=g)
    (hlag : ∀ row, Keyed.lookup UserSubscription.id id db.subs=some row → row.userId=u →
      ¬ ExpiryLag (userRows db.subs u) (db.group u) row now ∧ LinkSpared (userRows db.subs u) row)
    (hok : adminDeleteUserSubscription db id now=.ok db') : WayBack u g db' := by
  obtain ⟨row,group,hrow,hframe,rfl⟩ := delete_cases hok
  have hmem := (lookup_some hrow).1
  have hunique : Keyed.Unique UserSubscription.id (db.subs.filter (fun s => decide (s.id≠row.id))) :=
    h.unique.sublist (filter_sublist.map _)
  have hfresh : ∀ s∈db.subs.filter (fun s => decide (s.id≠row.id)), s.id<db.nextId :=
    fun s hs => h.fresh s (mem_filter.mp hs).1
  by_cases huser : row.userId=u
  · obtain ⟨hnolag,hspared⟩ := hlag row hrow huser
    have hrowu : row∈userRows db.subs u := ⟨hmem,huser⟩
    have hid : ∀ s∈userRows db.subs u, s.id=row.id → s=row :=
      fun s hs => unique_row h.unique hs.1 hmem
    have hrows : userRows (db.subs.filter (fun s => decide (s.id≠row.id))) u = without (userRows db.subs u) row.id := by
      ext s
      simp only [userRows,without,mem_filter,decide_eq_true_eq,Set.mem_ofPred_eq]
      tauto
    rw [huser,(h.history.trimmed row hrowu).1] at hframe
    rw [huser]
    refine ⟨hrows ▸ h.history.without hid hspared,?_,hunique,hfresh⟩
    rw [GroupRestored]
    simp only [hrows]
    have hmoved : (setGroup db u group).group u=group := update_self _ _ _
    rw [hmoved]
    by_cases haffected : db.group u=row.upgradeGroup
    · have hcases := reconcile_affected db now [row.id] h.history hu hg (h.trimmed htrim) h.group
        (mem_singleton.mpr haffected) (by
          intro s hs _ hsid
          rw [hid s hs (by simpa using hsid),haffected])
      rw [hframe,hmoved] at hcases
      rcases hcases with ⟨t,ht,hl,-,hne,htarget⟩ | ⟨hidle,htarget⟩
      · have htw : t∈without (userRows db.subs u) row.id := ⟨ht,by simpa using hne⟩
        exact ⟨fun hnone => absurd hl (hnone t htw),fun _ => ⟨t,htw,hl,htarget⟩⟩
      · refine ⟨fun _ => htarget,fun hsome => ?_⟩
        obtain ⟨s,hs,hl⟩ := hsome
        refine absurd ⟨haffected,⟨s,hs.1,hs.2,hl⟩,fun t ht hne hlt => ?_⟩ hnolag
        by_contra hend
        exact hne (by simpa using hidle t ht hlt (not_le.mp hend))
    · have hkeep : group=db.group u := by
        rw [reconcile_unaffected (by rw [h.trimmed htrim]; simpa using haffected)] at hframe
        rw [← hmoved,← hframe]
      have hstays : ∀ s∈userRows db.subs u, Lends s → db.group u=s.upgradeGroup → s∈without (userRows db.subs u) row.id := by
        intro s hs hl hgroup
        exact ⟨hs,fun hsid => haffected (hid s hs hsid ▸ hgroup)⟩
      rw [hkeep]
      constructor
      · intro hnone
        refine h.restored.1 fun s hs hl => ?_
        obtain ⟨t,ht,hlt,hgroup⟩ := h.restored.2 ⟨s,hs,hl⟩
        exact hnone t (hstays t ht hlt hgroup) hlt
      · rintro ⟨s,hs,hl⟩
        obtain ⟨t,ht,hlt,hgroup⟩ := h.restored.2 ⟨s,hs.1,hl⟩
        exact ⟨t,hstays t ht hlt hgroup,hlt,hgroup⟩
  · refine h.other ?_ (setGroup_other (Ne.symm huser) _ _) hunique hfresh
    ext s
    simp only [userRows,mem_filter,decide_eq_true_eq,Set.mem_ofPred_eq]
    refine ⟨fun hs => ⟨hs.1.1,hs.2⟩,fun hs => ⟨⟨hs.1,fun hsid => huser ?_⟩,hs.2⟩⟩
    rw [← unique_row h.unique hs.1 hmem hsid]
    exact hs.2

def Forward (addDate : AddDate) : Prop :=
  ∀ base n : Int, 0<n → base<addDate base n 0 0 ∧ base<addDate base 0 n 0

variable {addDate : AddDate} {plan : SubscriptionPlan}

theorem calcPlanEndTime_later (hforward : Forward addDate) {start : Int}
    (hok : calcPlanEndTime addDate plan start=.ok endUnix) : start<endUnix := by
  unfold calcPlanEndTime at hok
  split at hok
  · cases hok
  rename_i hvalue
  have hpos : plan.durationUnit≠"custom" → 0<plan.durationValue := by
    intro hunit
    by_contra hle
    exact hvalue ⟨not_lt.mp hle,hunit⟩
  split at hok
  next hunit =>
    cases hok
    exact (hforward start plan.durationValue (hpos (by simp [hunit]))).1
  split at hok
  next hunit =>
    cases hok
    exact (hforward start plan.durationValue (hpos (by simp [hunit]))).2
  split at hok
  next hunit =>
    cases hok
    have := hpos (by simp [hunit])
    omega
  split at hok
  next hunit =>
    cases hok
    have := hpos (by simp [hunit])
    omega
  split at hok
  · split at hok
    · cases hok
    · cases hok
      omega
  · cases hok

/-- A purchase of the group `U` by a user who holds `current`: the link it stores makes no chain
of more than sixteen links (so no cycle), and the base group is not sold among others. -/
def LinkFits (rows : Set UserSubscription) (g current U : String) : Prop :=
  U = "" ∨ ((U=g → ∀ x y, ¬ LeadsBack rows x y) ∧ (U≠g → ∀ s∈rows, s.upgradeGroup≠g) ∧
    Short (fun x y => LeadsBack rows x y ∨ (x=U ∧ y=current ∧ x≠y)) 16)

theorem leadsBack_insert : LeadsBack (insert s rows) x y ↔
      LeadsBack rows x y ∨ (s.upgradeGroup=x ∧ x≠"" ∧ s.prevUserGroup=y ∧ y≠"") := by
  constructor
  · rintro ⟨t,rfl | ht,hlink⟩
    · exact Or.inr hlink
    · exact Or.inl ⟨t,ht,hlink⟩
  · rintro (⟨t,ht,hlink⟩ | hlink)
    · exact ⟨t,Set.mem_insert_of_mem s ht,hlink⟩
    · exact ⟨s,Set.mem_insert s rows,hlink⟩

theorem History.insert_unlinked (h : History rows g) (htrim : trimSpace s.upgradeGroup=s.upgradeGroup)
    (hprev : s.prevUserGroup="") (hdown : s.downgradeGroup="") (hend : 0<s.endTime)
    (hlinked : s.upgradeGroup≠"" → s.upgradeGroup≠g → ∃ y, LeadsBack rows s.upgradeGroup y)
    (hapart : s.upgradeGroup=g → ∀ x y, ¬ LeadsBack rows x y) : History (insert s rows) g := by
  have hsame : ∀ x y, LeadsBack (insert s rows) x y ↔ LeadsBack rows x y := by
    intro x y
    rw [leadsBack_insert,hprev]
    constructor
    · rintro (hxy | ⟨-,-,rfl,hne⟩)
      · exact hxy
      · exact absurd rfl hne
    · exact Or.inl
  constructor
  · rintro t (rfl | ht)
    · exact ⟨htrim,by rw [hprev,trimSpace_empty]⟩
    · exact h.trimmed t ht
  · rintro t (rfl | ht)
    · exact hdown
    · exact h.noDowngrade t ht
  · rintro t (rfl | ht) hactive
    · exact hend
    · exact h.ending t ht hactive
  · simp only [hsame]
    rintro t (rfl | ht)
    · exact hlinked
    · exact h.linked t ht
  · simp only [hsame]
    exact h.ends
  · simp only [hsame]
    rintro t (rfl | ht)
    · exact hapart
    · exact h.apart t ht
  · exact h.short.mono fun x y hxy => (hsame x y).mp hxy

theorem History.insert_linked (h : History rows g) (htrim : trimSpace s.upgradeGroup=s.upgradeGroup) (hne : s.upgradeGroup≠"")
    (hprev : s.prevUserGroup=current) (hcurrent : trimSpace current=current) (hcne : current≠"")
    (hdown : s.downgradeGroup="") (hend : 0<s.endTime) (hmoves : s.upgradeGroup≠current)
    (hgroup : current=g ∨ ∃ y, LeadsBack rows current y)
    (hfits : LinkFits rows g current s.upgradeGroup) : History (insert s rows) g := by
  obtain ⟨hbase,hmixed,hshort⟩ := hfits.resolve_left hne
  have hother : s.upgradeGroup≠g := by
    intro hsg
    rcases hgroup with hcg | ⟨y,hy⟩
    · exact hmoves (hsg.trans hcg.symm)
    · exact hbase hsg _ _ hy
  have hold : ∀ {x y}, LeadsBack rows x y → LeadsBack (insert s rows) x y :=
    fun hxy => leadsBack_insert.mpr (Or.inl hxy)
  constructor
  · rintro t (rfl | ht)
    · exact ⟨htrim,by rw [hprev,hcurrent]⟩
    · exact h.trimmed t ht
  · rintro t (rfl | ht)
    · exact hdown
    · exact h.noDowngrade t ht
  · rintro t (rfl | ht) hactive
    · exact hend
    · exact h.ending t ht hactive
  · rintro t (rfl | ht) htne htbase
    · exact ⟨current,leadsBack_insert.mpr (Or.inr ⟨rfl,hne,hprev,hcne⟩)⟩
    · obtain ⟨y,hy⟩ := h.linked t ht htne htbase
      exact ⟨y,hold hy⟩
  · intro x y hxy
    have hend : y=g ∨ ∃ z, LeadsBack rows y z := by
      rcases leadsBack_insert.mp hxy with hxy | ⟨-,-,hy,-⟩
      · exact h.ends x y hxy
      rw [← hy,hprev]
      exact hgroup
    exact hend.imp_right fun ⟨z,hz⟩ => ⟨z,hold hz⟩
  · rintro t (rfl | ht) htbase
    · exact absurd htbase hother
    · exact absurd htbase (hmixed hother t ht)
  · refine hshort.mono fun x y hxy => ?_
    rcases leadsBack_insert.mp hxy with hxy | ⟨rfl,-,hy,-⟩
    · exact Or.inl hxy
    have hyc : y=current := hy.symm.trans hprev
    exact Or.inr ⟨rfl,hyc,by rw [hyc]; exact hmoves⟩

def purchased (addDate : AddDate) (db : GroupDB) (v : Int) (plan : SubscriptionPlan) (now endUnix : Int) :
    GroupDB :=
  let sub := purchasedRow db v plan now endUnix addDate
  { group := if sub.upgradeGroup≠"" then Function.update db.group v sub.upgradeGroup else db.group
    subs := db.subs++[sub], nextId := db.nextId+1 }

theorem create_cases (hok : createUserSubscriptionFromPlan addDate db v plan now=.ok db') :
    ∃ endUnix, calcPlanEndTime addDate plan now=.ok endUnix ∧ db'=purchased addDate db v plan now endUnix := by
  unfold createUserSubscriptionFromPlan at hok
  split at hok
  · cases hok
  split at hok
  · cases hok
  split at hok
  · cases hok
  obtain ⟨endUnix,hend,hok⟩ := bind_ok hok
  cases hok
  exact ⟨endUnix,hend,rfl⟩

theorem userRows_append (subs : List UserSubscription) (s : UserSubscription) :
    userRows (subs++[s]) u = if s.userId=u then insert s (userRows subs u) else userRows subs u := by
  ext t
  split
  next huser =>
    simp only [userRows,mem_append,mem_singleton,Set.mem_ofPred_eq,Set.mem_insert_iff]
    constructor
    · rintro ⟨ht | rfl,htu⟩
      · exact Or.inr ⟨ht,htu⟩
      · exact Or.inl rfl
    · rintro (rfl | ⟨ht,htu⟩)
      · exact ⟨Or.inr rfl,huser⟩
      · exact ⟨Or.inl ht,htu⟩
  next huser =>
    simp only [userRows,mem_append,mem_singleton,Set.mem_ofPred_eq]
    constructor
    · rintro ⟨ht | rfl,htu⟩
      · exact ⟨ht,htu⟩
      · exact absurd htu huser
    · exact fun ht => ⟨Or.inl ht.1,ht.2⟩

theorem purchased_history (h : WayBack u g db) (hg : g≠"") (htrim : trimSpace g=g) (hend : 0<endUnix)
    (hdown : trimSpace plan.downgradeGroup="")
    (hfits : LinkFits (userRows db.subs u) g (db.group u) (trimSpace plan.upgradeGroup)) :
    History (insert (purchasedRow db u plan now endUnix addDate) (userRows db.subs u)) g := by
  by_cases hmoves : trimSpace plan.upgradeGroup≠"" ∧ db.group u≠trimSpace plan.upgradeGroup
  · exact h.history.insert_linked (trimSpace_trimSpace _) hmoves.1 (if_pos hmoves) (h.trimmed htrim)
      (h.group_ne hg) hdown hend (Ne.symm hmoves.2) h.group hfits
  · refine h.history.insert_unlinked (trimSpace_trimSpace _) (if_neg hmoves) hdown hend ?_ ?_
    · intro hne hbase
      have hsame : db.group u=trimSpace plan.upgradeGroup := by
        by_contra hdiff
        exact hmoves ⟨hne,hdiff⟩
      rcases h.group with hcg | hlead
      · exact absurd (hsame.symm.trans hcg) hbase
      · rwa [hsame] at hlead
    · intro hbase
      exact (hfits.resolve_left fun hblank => hg (hbase.symm.trans hblank)).1 hbase

theorem create_wayBack (hforward : Forward addDate) (h : WayBack u g db) (hg : g≠"") (htrim : trimSpace g=g)
    (hscope : v=u → 0≤now ∧ trimSpace plan.downgradeGroup="")
    (hfits : v=u → LinkFits (userRows db.subs u) g (db.group u) (trimSpace plan.upgradeGroup))
    (hok : createUserSubscriptionFromPlan addDate db v plan now=.ok db') : WayBack u g db' := by
  obtain ⟨endUnix,hend,rfl⟩ := create_cases hok
  have hlater := calcPlanEndTime_later hforward hend
  obtain ⟨row,hrow⟩ : ∃ row, purchasedRow db v plan now endUnix addDate=row := ⟨_,rfl⟩
  have hunique : Keyed.Unique UserSubscription.id (purchased addDate db v plan now endUnix).subs := by
    refine h.unique.append (lookup_eq_none.mpr fun s hs hid => ?_)
    have hlt := h.fresh s hs
    rw [hid] at hlt
    exact lt_irrefl _ hlt
  have hfresh : ∀ s∈(purchased addDate db v plan now endUnix).subs, s.id<db.nextId+1 := by
    intro s hs
    rcases mem_append.mp hs with hs | hs
    · exact (h.fresh s hs).trans (by omega)
    rw [mem_singleton.mp hs]
    exact Int.lt_succ _
  have hrows : userRows (purchased addDate db v plan now endUnix).subs u =
      if v=u then insert row (userRows db.subs u) else userRows db.subs u := hrow ▸ userRows_append db.subs _
  by_cases hv : v=u
  · subst hv
    obtain ⟨hnow,hdown⟩ := hscope rfl
    rw [if_pos rfl] at hrows
    have hhistory : History (insert row (userRows db.subs v)) g :=
      hrow ▸ purchased_history h hg htrim (by omega) hdown (hfits rfl)
    refine ⟨hrows ▸ hhistory,?_,hunique,hfresh⟩
    rw [GroupRestored,hrows]
    simp only [purchased,hrow]
    by_cases hblank : row.upgradeGroup=""
    · have hidle : ¬ Lends row := fun hl => hl.2 hblank
      simp only [hblank,ne_eq,not_true,if_false]
      constructor
      · intro hnone
        exact h.restored.1 fun s hs => hnone s (Set.mem_insert_of_mem _ hs)
      · rintro ⟨s,rfl | hs,hl⟩
        · exact absurd hl hidle
        · obtain ⟨t,ht,hlt,hgroup⟩ := h.restored.2 ⟨s,hs,hl⟩
          exact ⟨t,Set.mem_insert_of_mem _ ht,hlt,hgroup⟩
    · have hl : Lends row := ⟨hrow ▸ rfl,hblank⟩
      simp only [ne_eq,hblank,not_false_eq_true,if_true,update_self]
      exact ⟨fun hnone => absurd hl (hnone _ (Set.mem_insert _ _)), fun _ => ⟨_,Set.mem_insert _ _,hl,rfl⟩⟩
  · rw [if_neg hv] at hrows
    refine h.other hrows ?_ hunique hfresh
    simp only [purchased]
    split
    · exact update_of_ne (Ne.symm hv) _ _
    · rfl

/-- The purchases of the user are made at a real time, from plans without a downgrade group. -/
def plainPurchase (u : Int) : GroupOp → Prop
  | .create v plan now => v=u → 0≤now ∧ trimSpace plan.downgradeGroup=""
  | _ => True

/-- A call leaves the way back open: no purchase closes a cycle or makes the way too long, no deletion takes a link that
is needed, and nothing is cancelled or deleted while others wait to be expired. -/
def keepsWayBack (u : Int) (g : String) (db : GroupDB) : GroupOp → Prop
  | .create v plan _ =>
    v=u → LinkFits (userRows db.subs u) g (db.group u) (trimSpace plan.upgradeGroup)
  | .expire _ _ => True
  | .invalidate id now => ∀ row, Keyed.lookup UserSubscription.id id db.subs=some row → row.userId=u →
      ¬ ExpiryLag (userRows db.subs u) (db.group u) row now
  | .delete id now => ∀ row, Keyed.lookup UserSubscription.id id db.subs=some row → row.userId=u →
      ¬ ExpiryLag (userRows db.subs u) (db.group u) row now ∧ LinkSpared (userRows db.subs u) row

theorem groupStep_wayBack (hforward : Forward addDate) (hu : 0<u) (hg : g≠"") (htrim : trimSpace g=g)
    (h : WayBack u g db) {op : GroupOp} (hplain : plainPurchase u op)
    (hkeeps : keepsWayBack u g db op) : WayBack u g (groupStep addDate db op) := by
  refine commit_of_ok h fun db' hok => ?_
  cases op with
  | create v plan now => exact create_wayBack hforward h hg htrim hplain hkeeps hok
  | expire v now => exact expire_wayBack h hu hg htrim hok
  | invalidate id now => exact invalidate_wayBack h hu hg htrim hkeeps hok
  | delete id now => exact delete_wayBack h hu hg htrim hkeeps hok

theorem history_empty (g : String) : History ∅ g := by
  have hnone : ∀ x y, ¬ LeadsBack ∅ x y := by
    rintro x y ⟨s,hs,-⟩
    exact hs
  refine ⟨fun s hs => hs.elim,fun s hs => hs.elim,fun s hs => hs.elim,fun s hs => hs.elim,
    fun x y hxy => absurd hxy (hnone x y),fun s hs => hs.elim,?_⟩
  exact Short.of_rank (fun _ => 0) (fun x y hxy => absurd hxy (hnone x y)) fun _ => Nat.zero_le _

def plainDate : AddDate := fun base years months days => base+(365*years+30*months+days)*86400

def newUser : GroupDB := ⟨fun _ => "default",[],1⟩

def groupPlan (id : Int) (group : String) : SubscriptionPlan :=
  { id := id, durationUnit := "day", durationValue := 30, upgradeGroup := group }

def stackedRun : List GroupOp :=
  [.create 1 (groupPlan 1 "vip") 0,.create 1 (groupPlan 2 "svip") 10,.expire 1 10000000]

def stackedRank (group : String) : Nat := if group="svip" then 2 else if group="vip" then 1 else 0

theorem linkFits_of_rank {U : String} (rank : String → Nat) (hle : ∀ x, rank x≤16) (hbase : U≠g)
    (hrows : ∀ s∈subs, s.upgradeGroup≠g ∧ rank s.prevUserGroup<rank s.upgradeGroup)
    (hnew : U≠current → rank current<rank U) : LinkFits (userRows subs u) g current U := by
  refine Or.inr ⟨fun h => absurd h hbase,fun _ s hs => (hrows s hs.1).1,Short.of_rank rank (fun x y hxy => ?_) hle⟩
  rcases hxy with ⟨s,hs,rfl,-,rfl,-⟩ | ⟨rfl,rfl,hne⟩
  · exact (hrows s hs.1).2
  · exact hnew hne

def alternatingRun : List GroupOp :=
  [.create 1 (groupPlan 1 "vip") 0,.create 1 (groupPlan 2 "svip") 10,.create 1 (groupPlan 1 "vip") 20, .expire 1 10000000]

end NewApi.Subscription
