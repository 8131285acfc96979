import NewApi.Lib.Chains
import NewApi.Subscription.Group

/-! The way back to the base group. The rows of a user, each with the group it lent and the group
held before, form a relation between groups; as long as its chains are short, every group in it
leads on and the base group ends it, the fallback finds the base group. -/
namespace NewApi.Subscription
open List GoStrings Chains

def userRows (subs : List UserSubscription) (u : Int) : Set UserSubscription := {s | s∈subs ∧ s.userId=u}

def Lends (s : UserSubscription) : Prop := s.status=.active ∧ s.upgradeGroup≠""

/-- While subscriptions lend a group, the user holds one of these groups, and else the base group. -/
def GroupRestored (db : GroupDB) (u : Int) (g : String) : Prop :=
  ((∀ s∈userRows db.subs u, ¬ Lends s) → db.group u=g) ∧ ((∃ s∈userRows db.subs u, Lends s) →
      ∃ s∈userRows db.subs u, Lends s ∧ db.group u=s.upgradeGroup)

/-- Some row lent the group `x` to a user who held `y`. -/
def LeadsBack (rows : Set UserSubscription) (x y : String) : Prop :=
  ∃ s∈rows, s.upgradeGroup=x ∧ x≠"" ∧ s.prevUserGroup=y ∧ y≠""

/-- The rows of a user lead back from every group they lent to the base group. -/
structure History (rows : Set UserSubscription) (g : String) : Prop where
  trimmed : ∀ s∈rows, trimSpace s.upgradeGroup=s.upgradeGroup ∧ trimSpace s.prevUserGroup=s.prevUserGroup
  noDowngrade : ∀ s∈rows, s.downgradeGroup=""
  ending : ∀ s∈rows, s.status=.active → 0<s.endTime
  linked : ∀ s∈rows, s.upgradeGroup≠"" → s.upgradeGroup≠g → ∃ y, LeadsBack rows s.upgradeGroup y
  ends : ∀ x y, LeadsBack rows x y → y=g ∨ ∃ z, LeadsBack rows y z
  apart : ∀ s∈rows, s.upgradeGroup=g → ∀ x y, ¬ LeadsBack rows x y
  short : Short (LeadsBack rows) 16

variable {l : List UserSubscription}

theorem latest_eq_none (h : latest? l=none) : l=[] := by
  cases l with
  | nil => rfl
  | cons s rest =>
    simp only [latest?] at h
    split at h
    · cases h
    · split at h <;> cases h

variable {t : UserSubscription}

theorem mem_of_latest (h : latest? l=some t) : t∈l := by
  induction l with
  | nil => cases h
  | cons s rest ih =>
    simp only [latest?] at h
    split at h
    · cases h
      exact mem_cons_self
    next t' ht' =>
      split at h
      · cases h
        exact mem_cons_self
      · cases h
        exact mem_cons_of_mem s (ih ht')

variable {db : GroupDB} {u now : Int} {g : String}
variable {x : String}

theorem hasUpgradeGroupHistory_iff (hx : trimSpace x=x) (hne : x≠"") :
    hasUpgradeGroupHistory db u x=true ↔ ∃ s∈userRows db.subs u, s.upgradeGroup=x := by
  simp [hasUpgradeGroupHistory,hx,hne,userRows,and_assoc]

theorem hasActiveUpgradeGroup_eq_false (hx : trimSpace x=x)
    (h : ∀ s∈userRows db.subs u, s.status=.active → s.endTime>now → s.upgradeGroup≠x) :
    hasActiveUpgradeGroup db u x now=false := by
  simp only [hasActiveUpgradeGroup,hx,Bool.and_eq_false_iff,any_eq_false,decide_eq_true_eq]
  refine Or.inr fun s hs hrow => ?_
  exact h s ⟨hs,hrow.1⟩ hrow.2.1 hrow.2.2.1 hrow.2.2.2

theorem fallback_row (hx : x≠"") {sub : UserSubscription} (h : latest? (db.subs.filter fun s =>
      decide (s.userId=u ∧ s.upgradeGroup=x ∧ s.prevUserGroup≠""))=some sub) :
    sub∈userRows db.subs u ∧ LeadsBack (userRows db.subs u) x sub.prevUserGroup := by
  have hmem := mem_of_latest h
  simp only [mem_filter,decide_eq_true_eq] at hmem
  obtain ⟨hsub,huser,hup,hprev⟩ := hmem
  exact ⟨⟨hsub,huser⟩,sub,⟨hsub,huser⟩,hup,hx,rfl,hprev⟩

theorem fallback_row_none (h : latest? (db.subs.filter fun s =>
      decide (s.userId=u ∧ s.upgradeGroup=x ∧ s.prevUserGroup≠""))=none) (y : String) :
    ¬ LeadsBack (userRows db.subs u) x y := by
  rintro ⟨s,⟨hs,huser⟩,hup,-,rfl,hprev⟩
  have hnil := filter_eq_nil_iff.mp (latest_eq_none h) s hs
  simp [huser,hup,hprev] at hnil

/-- From a group that leads on, the fallback walks to the base group: the rank falls with every
row, so no group is met twice and sixteen rounds are enough. -/
theorem fallbackLoop_base (h : History (userRows db.subs u) g) {rank : String → Nat}
    (hrank : ∀ x y, LeadsBack (userRows db.subs u) x y → rank y<rank x) {start : String}
    (hactive : ∀ s∈userRows db.subs u, s.status=.active → s.endTime>now → s.upgradeGroup≠"" →
      s.upgradeGroup=start) (fuel : Nat) :
    ∀ (visited : List String) (x : String), (∃ y, LeadsBack (userRows db.subs u) x y) → rank x≤fuel →
      rank x≤rank start → (∀ v∈visited, rank x<rank v) → fallbackLoop db u now fuel visited x=g := by
  induction fuel with
  | zero =>
    rintro visited x ⟨y,hy⟩ hfuel
    have := hrank x y hy
    omega
  | succ fuel ih =>
    rintro visited x ⟨y,hy⟩ hfuel hstart hvisited
    have hx : x≠"" := hy.choose_spec.2.2.1
    have hnew : x∉visited := fun hv => lt_irrefl _ (hvisited x hv)
    rw [fallbackLoop,if_neg hx,if_neg hnew]
    split
    next hnone =>
      exact absurd hy (fallback_row_none hnone y)
    next sub hsub =>
      obtain ⟨hrow,hlead⟩ := fallback_row hx hsub
      have hprev : trimSpace sub.prevUserGroup=sub.prevUserGroup := (h.trimmed sub hrow).2
      have hprevne : sub.prevUserGroup≠"" := hlead.choose_spec.2.2.2.2
      have hfall := hrank _ _ hlead
      have hstep : sub.prevUserGroup≠x := fun he => by
        rw [he] at hfall
        omega
      have hidle : hasActiveUpgradeGroup db u sub.prevUserGroup now=false := by
        refine hasActiveUpgradeGroup_eq_false hprev fun s hs ha he hup => ?_
        have := hactive s hs ha he (hup ▸ hprevne)
        rw [← this,hup] at hstart
        omega
      simp only [hprev,hprevne,hstep,or_self,if_false,hidle,Bool.false_eq_true]
      rcases h.ends _ _ hlead with hbase | hon
      · have hnohist : ¬ hasUpgradeGroupHistory db u sub.prevUserGroup=true := by
          rw [hasUpgradeGroupHistory_iff hprev hprevne]
          rintro ⟨s,hs,hup⟩
          exact h.apart s hs (hup.trans hbase) _ _ hlead
        rw [if_pos (by simpa using hnohist)]
        exact hbase
      · have hhist : hasUpgradeGroupHistory db u sub.prevUserGroup=true := by
          rw [hasUpgradeGroupHistory_iff hprev hprevne]
          obtain ⟨z,t,ht,hup,-⟩ := hon
          exact ⟨t,ht,hup⟩
        rw [hhist]
        simp only [Bool.not_true,Bool.false_eq_true,if_false]
        refine ih _ _ hon (by omega) (by omega) fun v hv => ?_
        rcases mem_cons.mp hv with rfl | hv
        · exact hfall
        · exact hfall.trans (hvisited v hv)

theorem fallbackLoop_stays (h : History (userRows db.subs u) g) (fuel : Nat) (visited : List String) :
    fallbackLoop db u now fuel visited g="" := by
  cases fuel with
  | zero => rfl
  | succ fuel =>
    rw [fallbackLoop]
    split
    · rfl
    rename_i hg
    split
    · rfl
    split
    · rfl
    rename_i sub hsub
    obtain ⟨hrow,hlead⟩ := fallback_row hg hsub
    obtain ⟨s,hs,hup,-⟩ := id hlead
    exact absurd hlead (h.apart s hs hup _ _)

variable {exclude : List Int}

theorem findLatest_some (h : findLatestActiveUpgradeSubscription db u now exclude=some t) :
    t∈userRows db.subs u ∧ Lends t ∧ t.endTime>now ∧ t.id∉exclude := by
  have hmem := mem_of_latest h
  simp only [mem_filter,decide_eq_true_eq] at hmem
  obtain ⟨ht,huser,hactive,hend,hup,hid⟩ := hmem
  exact ⟨⟨ht,huser⟩,⟨hactive,hup⟩,hend,hid⟩

theorem findLatest_none (h : findLatestActiveUpgradeSubscription db u now exclude=none)
    (ht : t∈userRows db.subs u) (hl : Lends t) (hend : t.endTime>now) : t.id∈exclude := by
  have hnil := filter_eq_nil_iff.mp (latest_eq_none h) t ht.1
  simp only [decide_eq_true_eq,ht.2,hl.1,hl.2,hend,true_and,ne_eq,not_false_eq_true,not_not] at hnil
  exact hnil

theorem reconcile_frame (db : GroupDB) (v : Int) (affected : List String) (now : Int) (exclude : List Int) :
    ∃ group, (reconcileUserGroupAfterSubscriptionChange db v affected now exclude).1=setGroup db v group := by
  have hsame : db=setGroup db v (db.group v) := by simp [setGroup]
  unfold reconcileUserGroupAfterSubscriptionChange
  split
  · exact ⟨_,hsame⟩
  simp only
  split
  · exact ⟨_,hsame⟩
  split
  · split
    · exact ⟨_,hsame⟩
    · exact ⟨_,rfl⟩
  · split
    · exact ⟨_,rfl⟩
    split
    · exact ⟨_,hsame⟩
    · exact ⟨_,rfl⟩

variable {affected : List String}

theorem reconcile_unaffected (h : trimSpace (db.group u)∉affected) :
    reconcileUserGroupAfterSubscriptionChange db u affected now exclude=(db,"") := by
  unfold reconcileUserGroupAfterSubscriptionChange
  split
  · rfl
  · simp only [h,not_false_eq_true,if_true]

theorem reconcile_affected (db : GroupDB) (now : Int) (exclude : List Int)
    (h : History (userRows db.subs u) g) (hu : 0<u) (hg : g≠"") (htrim : trimSpace (db.group u)=db.group u)
    (hgroup : db.group u=g ∨ ∃ y, LeadsBack (userRows db.subs u) (db.group u) y) (haffected : db.group u∈affected)
    (hexclude : ∀ s∈userRows db.subs u, Lends s → s.id∈exclude → s.upgradeGroup=db.group u) :
    (∃ t∈userRows db.subs u, Lends t ∧ t.endTime>now ∧ t.id∉exclude ∧
        (reconcileUserGroupAfterSubscriptionChange db u affected now exclude).1.group u=t.upgradeGroup) ∨
      ((∀ t∈userRows db.subs u, Lends t → t.endTime>now → t.id∈exclude) ∧
        (reconcileUserGroupAfterSubscriptionChange db u affected now exclude).1.group u=g) := by
  have hne : ¬ (u≤0 ∨ affected=[]) := by
    rintro (hle | rfl)
    · omega
    · simp at haffected
  unfold reconcileUserGroupAfterSubscriptionChange
  simp only [if_neg hne,htrim,haffected,not_true,if_false]
  split
  next t ht =>
    obtain ⟨hrow,hl,hend,hid⟩ := findLatest_some ht
    have htrimt := (h.trimmed t hrow).1
    refine Or.inl ⟨t,hrow,hl,hend,hid,?_⟩
    rw [htrimt]
    by_cases hsame : t.upgradeGroup=db.group u
    · simp [hsame]
    · simp [hl.2,hsame,setGroup]
  next hnone =>
    have hidle : ∀ t∈userRows db.subs u, Lends t → t.endTime>now → t.id∈exclude :=
      fun t ht hl hend => findLatest_none hnone ht hl hend
    refine Or.inr ⟨hidle,?_⟩
    have hexplicit : db.subs.filter (fun s =>
        decide (s.userId=u ∧ s.upgradeGroup=db.group u ∧ s.downgradeGroup≠""))=[] := by
      rw [filter_eq_nil_iff]
      intro s hs hrow
      simp only [decide_eq_true_eq] at hrow
      exact hrow.2.2 (h.noDowngrade s ⟨hs,hrow.1⟩)
    rw [hexplicit]
    simp only [latest?,Option.map_none,Option.getD_none,ne_eq,not_true,false_and,if_false,
      resolveExpiredSubscriptionFallbackGroup,htrim]
    rcases hgroup with hbase | hlead
    · rw [hbase,fallbackLoop_stays h]
      simpa using hbase
    · obtain ⟨rank,hrank,hle⟩ := h.short.exists_rank
      have hwalk : fallbackLoop db u now 16 [] (db.group u)=g :=
        fallbackLoop_base h hrank (fun s hs ha he hup => hexclude s hs ⟨ha,hup⟩ (hidle s hs ⟨ha,hup⟩ he))
          16 [] (db.group u) hlead (hle _) le_rfl (fun v hv => absurd hv not_mem_nil)
      rw [hwalk]
      by_cases hsame : g=db.group u
      · simp [← hsame]
      · simp [hg,hsame,setGroup]

end NewApi.Subscription
