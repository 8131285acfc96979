import NewApi.UserCache.Model

/-! Spec of the cache scripts while no version of the user changes: the floors do not reject, a hash that
exists is complete, and what remains is which fields each script sets. -/
namespace NewApi.UserCache
open Option

/-- Two copies of the row that differ in unversioned columns only. -/
structure SameVersions (user row : User) : Prop where
  id : user.id=row.id
  auth : user.authVersion=row.authVersion
  quota : user.quotaVersion=row.quotaVersion

theorem SameVersions.refl (row : User) : SameVersions row row := ⟨rfl,rfl,rfl⟩

theorem SameVersions.trans {a b c : User} (hab : SameVersions a b) (hbc : SameVersions b c) : SameVersions a c :=
  ⟨hab.id.trans hbc.id,hab.auth.trans hbc.auth,hab.quota.trans hbc.quota⟩

/-- A hash as `populateUserCache` leaves it, at the versions of the row. -/
structure Complete (row : User) (hash : UserHash) : Prop where
  id : hash.id=some row.id
  schema : hash.cacheSchema=some userCacheSchemaVersion
  auth : hash.authVersion=some row.authVersion
  quotaVersion : hash.quotaVersion=some row.quotaVersion
  quota : hash.quota≠none

/-- No version change is under way: a stored user, floors not above its versions, a complete hash if any. -/
structure Steady (row : User) (k : Keys) : Prop where
  id : 0<row.id
  auth : 0<row.authVersion
  quota : 0<row.quotaVersion
  pending : tonumber k.pending≤row.authVersion
  committed : tonumber k.committed≤row.authVersion
  quotaCommitted : tonumber k.quotaCommitted≤row.quotaVersion
  hash : ∀ h, k.hash=some h → Complete row h

variable {row user : User} {k : Keys}

theorem Complete.of_sameVersions {hash : UserHash} (h : Complete row hash) (hv : SameVersions row user) : Complete user hash :=
  ⟨by rw [h.id,hv.id],h.schema,by rw [h.auth,hv.auth],by rw [h.quotaVersion,hv.quota],h.quota⟩

theorem Steady.of_sameVersions (h : Steady row k) (hv : SameVersions row user) : Steady user k where
  id := hv.id ▸ h.id
  auth := hv.auth ▸ h.auth
  quota := hv.quota ▸ h.quota
  pending := hv.auth ▸ h.pending
  committed := hv.auth ▸ h.committed
  quotaCommitted := hv.quota ▸ h.quotaCommitted
  hash _ hh := (h.hash _ hh).of_sameVersions hv

theorem plain_steady : Steady plainUser coldKeys := by
  refine ⟨by decide,by decide,by decide,by decide,by decide,by decide,fun h hh => ?_⟩
  cases hh

theorem Steady.withHash (h : Steady row k) {hash : Option UserHash} (hh : ∀ x, hash=some x → Complete row x) :
    Steady row { k.promote row.authVersion with hash := hash } := by
  refine ⟨h.id,h.auth,h.quota,?_,?_,h.quotaCommitted,hh⟩
  · simp only [Keys.promote]
    split
    · exact Int.le_of_lt h.auth
    · exact h.pending
  · simp only [Keys.promote]
    split
    · exact Int.le_refl _
    · exact h.committed

theorem Steady.not_behind (h : Steady row k) : k.behind row.authVersion=false := by
  have hcurrent : tonumber (k.hget (·.authVersion))≤row.authVersion := by
    cases hk : k.hash with
    | none =>
      simp only [Keys.hget,hk,bind_none]
      exact Int.le_of_lt h.auth
    | some hash =>
      simp only [Keys.hget,hk,bind_some,(h.hash hash hk).auth]
      exact Int.le_refl _
  have hpending := h.pending
  have hcommitted := h.committed
  simp only [Keys.behind,decide_eq_false_iff_not]
  omega

def filled (k : Keys) (user : User) : UserHash :=
  ((k.hash.getD {}).setUser user.toBaseUser).setQuota user.toBaseUser (tonumber (k.hget (·.quotaVersion)))
    (tonumber (k.hget (·.cacheSchema)))

theorem populate_steady (h : Steady row k) (hv : SameVersions user row) :
    populateUserCache k user=({ k.promote row.authVersion with hash := some (filled k user) },none) := by
  have hid : ¬ user.id≤0 := by have := h.id; rw [hv.id]; omega
  have hauth : ¬ user.authVersion≤0 := by have := h.auth; rw [hv.auth]; omega
  have hquota : ¬ user.quotaVersion≤0 := by have := h.quota; rw [hv.quota]; omega
  have hbehind : k.behind user.authVersion=false := hv.auth ▸ h.not_behind
  have hfloor : ¬ (tonumber k.quotaCommitted>user.quotaVersion ∨ tonumber (k.hget (·.quotaVersion))>user.quotaVersion) := by
    have hcommitted := h.quotaCommitted
    have hcurrent : tonumber (k.hget (·.quotaVersion))≤row.quotaVersion := by
      cases hk : k.hash with
      | none =>
        simp only [Keys.hget,hk,bind_none]
        exact Int.le_of_lt h.quota
      | some hash =>
        simp only [Keys.hget,hk,bind_some,(h.hash hash hk).quotaVersion]
        exact Int.le_refl _
    rw [hv.quota]
    omega
  rw [← hv.auth]
  simp only [populateUserCache,writeUserCache,User.toBaseUser,hid,hauth,hquota,if_false,and_false,
    writeUserCacheScript,hbehind,hfloor,Bool.false_eq_true,Bool.true_eq_false,false_and,writeResult]
  simp [filled,User.toBaseUser]

theorem filled_absent (hk : k.hash=none) (user : User) : filled k user={ ({} : UserHash).setUser user.toBaseUser with
      quota := some user.quota, quotaVersion := some user.quotaVersion } := by
  simp only [filled,hk,getD_none,UserHash.setQuota]
  rw [if_pos (.inl rfl)]
  rfl

section
variable (h : Steady row k)
include h

theorem filled_present {hash : UserHash} (hk : k.hash=some hash) (user : User) :
    filled k user=hash.setUser user.toBaseUser := by
  have hc := h.hash hash hk
  have hquota := h.quota
  have hkept : ¬ ((hash.setUser user.toBaseUser).quota=none ∨ tonumber (k.hget (·.quotaVersion))≤0 ∨
      tonumber (k.hget (·.cacheSchema))≠user.toBaseUser.cacheSchema) := by
    simp only [Keys.hget,hk,bind_some,hc.quotaVersion,hc.schema,tonumber,getD_some]
    rintro (hnone | hle | hne)
    · exact hc.quota hnone
    · omega
    · exact hne rfl
  simp only [filled,hk,getD_some,UserHash.setQuota] at hkept ⊢
  rw [if_neg hkept]

theorem filled_complete (hv : SameVersions user row) : Complete row (filled k user) := by
  cases hk : k.hash with
  | none =>
    rw [filled_absent hk]
    exact ⟨congrArg some hv.id,rfl,congrArg some hv.auth,congrArg some hv.quota,by simp⟩
  | some hash =>
    rw [filled_present h hk]
    exact ⟨congrArg some hv.id,rfl,congrArg some hv.auth,(h.hash hash hk).quotaVersion,(h.hash hash hk).quota⟩

theorem filled_group (user : User) : (filled k user).group=some user.group ∧ (filled k user).groupId=some user.groupId := by
  cases hk : k.hash with
  | none =>
    rw [filled_absent hk]
    exact ⟨rfl,rfl⟩
  | some hash =>
    rw [filled_present h hk]
    exact ⟨rfl,rfl⟩

theorem updateGroup_steady (hv : SameVersions user row) :
    updateUserGroupCacheAtVersion k user.id user.group user.groupId user.authVersion = ({ k.promote row.authVersion with
          hash := k.hash.map fun hash => { hash with group := some user.group, groupId := some user.groupId } },
        none) := by
  have hid : ¬ (row.id≤0 ∨ row.authVersion≤0) := by
    have := h.id
    have := h.auth
    omega
  simp only [updateUserGroupCacheAtVersion,updateAtVersion,hv.id,hv.auth,hid,if_false,h.not_behind, Bool.false_eq_true]
  cases hk : k.hash with
  | none => simp [Keys.promote,hk]
  | some hash =>
    have hc := h.hash hash hk
    simp [Keys.hget,hk,hc.auth,hc.schema,tonumber]

theorem holdsQuota_steady : k.holdsQuota row.id=k.hash.isSome := by
  have hid := h.id
  cases hk : k.hash with
  | none =>
    simp only [Keys.holdsQuota,Keys.hget,hk,bind_none,tonumber,getD_none,isSome_none,
      decide_eq_false_iff_not]
    omega
  | some hash =>
    have hc := h.hash hash hk
    have hquota := h.quota
    have hfloor := h.quotaCommitted
    simp only [Keys.holdsQuota,Keys.hget,hk,bind_some,hc.id,hc.schema,hc.quotaVersion,tonumber,
      getD_some,isSome_some,decide_eq_true_eq] at hfloor ⊢
    exact ⟨trivial,trivial,hc.quota,hquota,hfloor⟩

theorem Steady.addQuota (delta : Int) : Steady row (k.addQuota delta) := by
  refine ⟨h.id,h.auth,h.quota,h.pending,h.committed,h.quotaCommitted,fun x hx => ?_⟩
  obtain ⟨hash,hk,rfl⟩ := map_eq_some_iff.mp hx
  have hc := h.hash hash hk
  exact ⟨hc.id,hc.schema,hc.auth,hc.quotaVersion,by simp⟩

end

/-- What a hydration under way knows: its snapshot has the present versions, and once it has seen or
written a hash there is one. -/
def HydrationOk (row : User) (k : Keys) : Hydration → Prop
  | .cache .hash => True
  | .cache (.floor _) => k.hash≠none
  | .cache (.quotaFloor _) => k.hash≠none
  | .cache (.done _) => False
  | .db => True
  | .floor user => SameVersions user row
  | .quotaFloor user => SameVersions user row
  | .populate user => SameVersions user row
  | .done (.ok _) => k.hash≠none
  | .done (.error _) => False

theorem HydrationOk.mono {row' : User} {k' : Keys} {t : Hydration} (h : HydrationOk row k t)
    (hrow : SameVersions row row') (hk : k.hash≠none → k'.hash≠none) : HydrationOk row' k' t := by
  fun_cases HydrationOk row k t with
  | case1 => trivial
  | case2 | case3 => exact hk h
  | case4 => exact h
  | case5 => trivial
  | case6 | case7 | case8 => exact SameVersions.trans h hrow
  | case9 => exact hk h
  | case10 => exact h

theorem reading_ok {reading : Reading} (h : HydrationOk row k (.cache reading)) :
    HydrationOk row k (.ofReading (reading.advance row.id k)) := by
  cases reading with
  | hash =>
    simp only [Reading.advance]
    split
    · trivial
    rename_i entry hk
    split
    · trivial
    · simp [Hydration.ofReading,HydrationOk,hk]
  | floor _ | quotaFloor _ =>
    simp only [Reading.advance]
    split
    · trivial
    · exact h
  | done out => exact h.elim

theorem hydration_advance (h : Steady row k) {t : Hydration} (ht : HydrationOk row k t) :
    Steady row (t.advance row k).1 ∧ HydrationOk row (t.advance row k).1 (t.advance row k).2 ∧
      ((t.advance row k).1=k ∨ ∃ user, t=.populate user ∧
        (t.advance row k).1={ k.promote row.authVersion with hash := some (filled k user) }) := by
  cases t with
  | cache reading => exact ⟨h,reading_ok ht,.inl rfl⟩
  | db => exact ⟨h,SameVersions.refl row,.inl rfl⟩
  | floor user =>
    refine ⟨h,?_,.inl rfl⟩
    have hauth := h.auth
    have hpending := h.pending
    have hcommitted := h.committed
    have hfloor : ¬ getUserAuthVersionFloor k>user.authVersion := by
      simp only [tonumber] at hpending hcommitted
      simp only [getUserAuthVersionFloor,ht.auth]
      omega
    simp only [Hydration.advance,if_neg hfloor]
    exact ht
  | quotaFloor user =>
    refine ⟨h,?_,.inl rfl⟩
    have hcommitted := h.quotaCommitted
    have hfloor : ¬ getUserQuotaVersionFloor k>user.quotaVersion := by
      simp only [tonumber] at hcommitted
      simp only [getUserQuotaVersionFloor,ht.quota]
      omega
    simp only [Hydration.advance,if_neg hfloor]
    exact ht
  | populate user =>
    simp only [Hydration.advance,populate_steady h ht]
    refine ⟨h.withHash fun x hx => ?_,by simp [populated,HydrationOk],.inr ⟨user,rfl,rfl⟩⟩
    rw [← Option.some.inj hx]
    exact filled_complete h ht
  | done out => exact ⟨h,ht,.inl rfl⟩

end NewApi.UserCache
