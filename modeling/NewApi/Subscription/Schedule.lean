import NewApi.Subscription.Model

/-! The reset schedule of a subscription: the catch-up loop ends, and it makes no difference at which times in
between it was run. Dates are those of the server's location. -/
namespace NewApi.Subscription

/-- A period of a location's clock: its offset holds from `start` to `stop`. -/
structure ZonePeriod where
  offset : Int
  start : Int
  stop : Int

/-- `time.Location`, as its `lookup`: the period that a unix time falls in. -/
abbrev Location := Int → ZonePeriod

/-- The first day of a month, in days since 1970; months are counted from March of the year 0. -/
def monthStart (month : Int) : Int :=
  let year := month / 12
  365*year+year / 4-year / 100+year / 400+(153*(month % 12)+2) / 5-719468

def monthOf (day : Int) : Int :=
  let era := (day+719468) / 146097
  let dayOfEra := (day+719468) % 146097
  let yearOfEra := (dayOfEra-dayOfEra / 1460+dayOfEra / 36524-dayOfEra / 146096) / 365
  let dayOfYear := dayOfEra-(365*yearOfEra+yearOfEra / 4-yearOfEra / 100)
  12*(400*era+yearOfEra)+(5*dayOfYear+2) / 153

namespace Location

/-- The unix time of a time on the location's clock, as the end of `time.Date` finds it. -/
def unixOf (loc : Location) (clock : Int) : Int :=
  let period := loc clock
  if period.offset=0 then clock
  else if clock-period.offset<period.start ∨ period.stop≤clock-period.offset then
    clock-(loc (clock-period.offset)).offset
  else clock-period.offset

/-- `time.Unix(base, 0).AddDate(years, months, days)`: the day of the month is kept and may run over. -/
def addDate (loc : Location) : AddDate := fun base years months days =>
  let clock := base+(loc base).offset
  let month := monthOf (clock / 86400)
  let day := monthStart (month+12*years+months)+(clock / 86400-monthStart month)+days
  loc.unixOf (86400*day+clock % 86400)

def Steady (loc : Location) : Prop := ∀ s t, (loc t).offset<(loc s).offset+86400

end Location

section Dates
variable {loc : Location}

theorem monthStart_succ (month : Int) : monthStart month+28 ≤ monthStart (month+1) := by
  unfold monthStart
  dsimp only
  by_cases hlast : month % 12=11
  · have hyear : (month+1) / 12=month / 12+1 := by omega
    have hmonth : (month+1) % 12=0 := by omega
    rw [hyear,hmonth,hlast]
    omega
  · have hyear : (month+1) / 12=month / 12 := by omega
    have hmonth : (month+1) % 12=month % 12+1 := by omega
    rw [hyear,hmonth]
    omega

theorem unixOf_offset (loc : Location) (clock : Int) : ∃ t, loc.unixOf clock=clock-(loc t).offset := by
  unfold Location.unixOf
  dsimp only
  split
  next hzero =>
    exact ⟨clock,by rw [hzero,Int.sub_zero]⟩
  · split
    · exact ⟨_,rfl⟩
    · exact ⟨clock,rfl⟩

theorem addDate_later (h : loc.Steady) (base months days : Int)
    (hlater : 0 < monthStart (monthOf ((base+(loc base).offset) / 86400)+months)+days -
      monthStart (monthOf ((base+(loc base).offset) / 86400))) : base<loc.addDate base 0 months days := by
  unfold Location.addDate
  dsimp only
  obtain ⟨t,ht⟩ := unixOf_offset loc (86400*(monthStart (monthOf ((base+(loc base).offset) / 86400)+12*0+months) +
    ((base+(loc base).offset) / 86400-monthStart (monthOf ((base+(loc base).offset) / 86400)))+days) +
    (base+(loc base).offset) % 86400)
  rw [ht]
  have hoffset := h base t
  rw [Int.mul_zero,Int.add_zero]
  omega

theorem calcNextResetTime_spec (h : loc.Steady) (plan : SubscriptionPlan) (endUnix base : Int) :
    (calcNextResetTime loc.addDate plan endUnix base=0 ∨ base<calcNextResetTime loc.addDate plan endUnix base) ∧
      (0<endUnix → 0<calcNextResetTime loc.addDate plan endUnix base →
        calcNextResetTime loc.addDate plan endUnix base≤endUnix) := by
  have hdays : ∀ days : Int, 0<days → base<loc.addDate base 0 0 days := by
    intro days hpos
    refine addDate_later h base 0 days ?_
    rw [Int.add_zero]
    omega
  have hmonth : base<loc.addDate base 0 1 0 := by
    refine addDate_later h base 1 0 ?_
    have := monthStart_succ (monthOf ((base+(loc base).offset) / 86400))
    omega
  have hcut : ∀ x : Int, x=0 ∨ base<x →
      ((if endUnix>0 ∧ x>endUnix then 0 else x)=0 ∨ base < if endUnix>0 ∧ x>endUnix then 0 else x) ∧
      (0<endUnix → 0<(if endUnix>0 ∧ x>endUnix then 0 else x) → (if endUnix>0 ∧ x>endUnix then 0 else x)≤endUnix) := by
    intro x hx
    split <;> omega
  unfold calcNextResetTime
  refine hcut _ ?_
  cases normalizeResetPeriod plan.quotaResetPeriod with
  | never => exact .inl rfl
  | daily => exact .inr (hdays 1 (by decide))
  | weekly => exact .inr (hdays 7 (by decide))
  | monthly => exact .inr hmonth
  | custom =>
    dsimp only
    split
    · exact .inl rfl
    · exact .inr (Int.lt_add_of_pos_right base (by omega))

end Dates

section Loop
variable {next : Int → Int} (hnext : ∀ b, next b=0 ∨ b<next b)
include hnext

theorem advance_enough {now : Int} (fuel : Nat) : ∀ {fuel' : Nat} {base n : Int} {advanced : Bool},
    n≤0 ∨ (now-n+1).toNat≤fuel → n≤0 ∨ (now-n+1).toNat≤fuel' →
    advance next now fuel base n advanced=advance next now fuel' base n advanced := by
  induction fuel with
  | zero =>
    intro fuel' base n advanced h _
    cases fuel' with
    | zero => rfl
    | succ fuel' => rw [advance,advance,if_neg (by omega)]
  | succ fuel ih =>
    intro fuel' base n advanced h h'
    cases fuel' with
    | zero => rw [advance,advance,if_neg (by omega)]
    | succ fuel' =>
      rw [advance,advance]
      have := hnext n
      split
      · exact ih (by omega) (by omega)
      · rfl

omit hnext in
theorem advance_advanced (now : Int) (fuel : Nat) : ∀ base n : Int, (advance next now fuel base n true).2.2=true ∧
      (advance next now fuel base n true).1=(advance next now fuel base n false).1 ∧
      (advance next now fuel base n true).2.1=(advance next now fuel base n false).2.1 := by
  induction fuel with
  | zero => exact fun _ _ => ⟨rfl,rfl,rfl⟩
  | succ fuel ih =>
    intro base n
    rw [advance,advance]
    split
    · exact ⟨(ih n (next n)).1,rfl,rfl⟩
    · exact ⟨rfl,rfl,rfl⟩

omit hnext in
theorem advance_next (now : Int) (fuel : Nat) : ∀ (base : Int) (advanced : Bool),
    (advance next now fuel base (next base) advanced).2.1=next (advance next now fuel base (next base) advanced).1 := by
  induction fuel with
  | zero => exact fun _ _ => rfl
  | succ fuel ih =>
    intro base advanced
    rw [advance]
    split
    · exact ih (next base) true
    · rfl

def caughtUp (next : Int → Int) (now base : Int) : Int := (advance next now (now-next base+1).toNat base (next base) false).1

theorem advance_caughtUp (now base : Int) : (advance next now (now-next base+1).toNat base (next base) false).2.2 =
        decide (0<next base ∧ next base≤now) ∧
      caughtUp next now base = if 0<next base ∧ next base≤now then caughtUp next now (next base) else base := by
  cases hfuel : (now-next base+1).toNat with
  | zero =>
    have hpassed : ¬ (0<next base ∧ next base≤now) := by omega
    rw [caughtUp,hfuel,advance,if_neg hpassed,decide_eq_false hpassed]
    exact ⟨rfl,rfl⟩
  | succ fuel =>
    rw [caughtUp,hfuel,advance]
    by_cases hpassed : 0<next base ∧ next base≤now
    · rw [if_pos hpassed,if_pos hpassed,decide_eq_true hpassed]
      obtain ⟨hadvanced,hbase,-⟩ := @advance_advanced next now fuel (next base) (next (next base))
      refine ⟨hadvanced,hbase.trans ?_⟩
      have := hnext (next base)
      exact congrArg Prod.fst (advance_enough hnext fuel (by omega) (.inr (Nat.le_refl _)))
    · rw [if_neg hpassed,if_neg hpassed,decide_eq_false hpassed]
      exact ⟨rfl,rfl⟩

theorem caughtUp_induct (now : Int) {P : Int → Prop}
    (turn : ∀ base, (0<next base → next base≤now → P (next base)) → P base) (base : Int) : P base := by
  induction hk : (now-base).toNat using Nat.strong_induction_on generalizing base with
  | _ k ih =>
    refine turn base fun hpos hle => ih _ ?_ (next base) rfl
    have := hnext base
    omega

theorem caughtUp_done (now base : Int) : ¬ (0<next (caughtUp next now base) ∧ next (caughtUp next now base)≤now) := by
  induction base using caughtUp_induct hnext now with
  | turn base ih =>
    rw [(advance_caughtUp hnext now base).2]
    split
    next h =>
      exact ih h.1 h.2
    · assumption

theorem caughtUp_pos {now base : Int} (h : 0<next base ∧ next base≤now) : 0<caughtUp next now base := by
  induction base using caughtUp_induct hnext now with
  | turn base ih =>
    rw [(advance_caughtUp hnext now base).2,if_pos h]
    by_cases hagain : 0<next (next base) ∧ next (next base)≤now
    · exact ih h.1 h.2 hagain
    rw [(advance_caughtUp hnext now (next base)).2,if_neg hagain]
    exact h.1

theorem caughtUp_caughtUp {t1 t2 : Int} (hle : t1≤t2) (base : Int) :
    caughtUp next t2 (caughtUp next t1 base)=caughtUp next t2 base := by
  induction base using caughtUp_induct hnext t1 with
  | turn base ih =>
    rw [(advance_caughtUp hnext t1 base).2]
    split
    next h =>
      rw [ih h.1 h.2,(advance_caughtUp hnext t2 base).2,if_pos ⟨h.1,h.2.trans hle⟩]
    · rfl

end Loop

/-- The reset time that a row shows is to come and before the end, or there is none. -/
def ResetAhead (now endTime resetTime : Int) : Prop := resetTime=0 ∨ (now<resetTime ∧ (0<endTime → resetTime≤endTime))

def UserSubscription.resetBase (sub : UserSubscription) : Int := if sub.lastResetTime≤0 then sub.startTime else sub.lastResetTime

/-- The schedule of a subscription at a time: the loop has run to its end, the next reset is due, and earlier runs, or
the same one before, make no difference. -/
structure Scheduled (addDate : AddDate) (plan : SubscriptionPlan) (now : Int) (sub : UserSubscription) : Prop where
  ends : ¬ (0<(passedResets addDate plan now sub).2.1 ∧ (passedResets addDate plan now sub).2.1≤now)
  due : ResetAhead now sub.endTime (maybeResetUserSubscriptionWithPlan addDate plan now sub).nextResetTime
  path : ∀ t≤now, maybeResetUserSubscriptionWithPlan addDate plan now (maybeResetUserSubscriptionWithPlan addDate plan t sub) =
    maybeResetUserSubscriptionWithPlan addDate plan now sub
  again : maybeResetUserSubscriptionWithPlan addDate plan now (maybeResetUserSubscriptionWithPlan addDate plan now sub) =
    maybeResetUserSubscriptionWithPlan addDate plan now sub

section Schedule
variable {loc : Location} {plan : SubscriptionPlan} (h : loc.Steady) (hperiod : normalizeResetPeriod plan.quotaResetPeriod≠.never)
include h hperiod

theorem maybeReset_eq (now : Int) (sub : UserSubscription) {next : Int → Int}
    (hnext : calcNextResetTime loc.addDate plan sub.endTime=next) :
    maybeResetUserSubscriptionWithPlan loc.addDate plan now sub =
      if 0<sub.nextResetTime ∧ now<sub.nextResetTime then sub
      else if 0<next sub.resetBase ∧ next sub.resetBase≤now then
        { sub with amountUsed := 0, lastResetTime := caughtUp next now sub.resetBase
                   nextResetTime := next (caughtUp next now sub.resetBase) }
      else if sub.nextResetTime=0 ∧ 0<next sub.resetBase then
        { sub with nextResetTime := next sub.resetBase, lastResetTime := sub.resetBase }
      else sub := by
  subst hnext
  have hlater := fun base => (calcNextResetTime_spec h plan sub.endTime base).1
  obtain ⟨hadvanced,hcaught⟩ := advance_caughtUp hlater now sub.resetBase
  have hshown := @advance_next (calcNextResetTime loc.addDate plan sub.endTime) now
    (now-calcNextResetTime loc.addDate plan sub.endTime sub.resetBase+1).toNat sub.resetBase false
  unfold maybeResetUserSubscriptionWithPlan passedResets
  by_cases hshowing : 0<sub.nextResetTime ∧ now<sub.nextResetTime
  · rw [if_pos hshowing,if_pos hshowing]
  rw [if_neg hshowing,if_neg hshowing,if_neg hperiod,← UserSubscription.resetBase]
  dsimp only
  rw [hadvanced,hshown,← caughtUp]
  by_cases hpassed : 0<calcNextResetTime loc.addDate plan sub.endTime sub.resetBase ∧
      calcNextResetTime loc.addDate plan sub.endTime sub.resetBase≤now
  · rw [if_pos hpassed,if_pos (decide_eq_true hpassed)]
  rw [if_neg hpassed] at hcaught
  rw [if_neg hpassed,if_neg (mt of_decide_eq_true hpassed),hcaught]

theorem maybeReset_path {t1 t2 : Int} (hle : t1≤t2) (sub : UserSubscription) :
    maybeResetUserSubscriptionWithPlan loc.addDate plan t2 (maybeResetUserSubscriptionWithPlan loc.addDate plan t1 sub) =
      maybeResetUserSubscriptionWithPlan loc.addDate plan t2 sub := by
  generalize hnext : calcNextResetTime loc.addDate plan sub.endTime=next
  have hlater : ∀ base, next base=0 ∨ base<next base := fun base => hnext ▸ (calcNextResetTime_spec h plan sub.endTime base).1
  rw [maybeReset_eq h hperiod t1 sub hnext]
  split
  · rfl
  rename_i hshown
  split
  · -- the earlier run went on to a base from which the later one goes on
    rename_i hpassed
    have hpos := caughtUp_pos hlater hpassed
    have hdone := caughtUp_done hlater t1 sub.resetBase
    have hagain := caughtUp_caughtUp hlater hle sub.resetBase
    generalize caughtUp next t1 sub.resetBase=base at hpos hdone hagain ⊢
    have hbase : ({ sub with amountUsed := 0, lastResetTime := base, nextResetTime := next base } : UserSubscription).resetBase=base :=
      if_neg (by dsimp only; omega)
    have hrest := maybeReset_eq h hperiod t2 { sub with amountUsed := 0, lastResetTime := base, nextResetTime := next base } hnext
    rw [hbase] at hrest
    rw [maybeReset_eq h hperiod t2 sub hnext,if_neg (by omega),if_pos ⟨hpassed.1,hpassed.2.trans hle⟩,← hagain,hrest]
    have hturn := (advance_caughtUp hlater t2 base).2
    dsimp only
    split
    · rw [hturn,if_neg (by omega)]
    split
    · rfl
    next hstop =>
      rw [hturn,if_neg hstop,if_neg (by omega)]
  · split
    · -- the earlier run only wrote down the next reset time
      rename_i hstop hunset
      have hbase : ({ sub with nextResetTime := next sub.resetBase, lastResetTime := sub.resetBase } : UserSubscription).resetBase =
          sub.resetBase := by
        unfold UserSubscription.resetBase
        dsimp only
        by_cases hlast : sub.lastResetTime≤0
        · rw [if_pos hlast,ite_self]
        · rw [if_neg hlast,if_neg hlast]
      have hrest := maybeReset_eq h hperiod t2 { sub with nextResetTime := next sub.resetBase, lastResetTime := sub.resetBase } hnext
      rw [hbase] at hrest
      rw [maybeReset_eq h hperiod t2 sub hnext,hrest,if_neg (show ¬ (0<sub.nextResetTime ∧ t2<sub.nextResetTime) by omega)]
      dsimp only
      by_cases hlate : next sub.resetBase≤t2
      · rw [if_neg (by omega),if_pos ⟨hunset.2,hlate⟩,if_pos ⟨hunset.2,hlate⟩]
      · rw [if_pos (by omega),if_neg (by omega),if_pos hunset]
    · rfl

def summerTime : Location := fun t => if t<50*86400 then ⟨3600,0,50*86400⟩ else ⟨7200,50*86400,400*86400⟩

omit h hperiod in
theorem summerTime_steady : summerTime.Steady := by
  intro s t
  unfold summerTime
  split <;> split <;> decide

/-- Bought on the evening of the last day of January, with resets every month. -/
def januarySub : UserSubscription :=
  { id := 1, userId := 1, planId := 1, amountTotal := 10, amountUsed := 7, startTime := 30*86400+64800
    endTime := 365*86400, status := .active }

end Schedule

end NewApi.Subscription
