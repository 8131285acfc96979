import Mathlib.Data.List.Nodup
import NewApi.Channels.Model
import NewApi.Lib.Threads

/-! The upstream model guard (`model/upstream_model_guard.go`): it counts, channel by channel, the requests in a row that
another model has answered, and disables the channel at a threshold. An observation that matched looks for a count before it
takes the locks of its transaction. -/
namespace NewApi.Channels
open Function Option List Threads Runs

structure GuardConfig where
  configVersion : Int := 1
  enabled : Bool := false
  excludedChannelIDs : Option (List Nat) := some []
  failureThreshold : Int := 2

/-- What an observation says, with the text of its record for a number of mismatches and a threshold. -/
structure GuardObservation where
  channelID : Nat
  configVersion : Int
  observationKey : String
  reason : Nat → Int → String := fun _ _ => ""

structure GuardRecord where
  channelID : Nat
  configVersion : Int
  observationKey : String
  consecutiveMismatches : Nat
  failureThreshold : Int
  channelDisabled : Bool
  reason : String

structure GuardStreak where
  consecutiveMismatches : Nat
  configVersion : Int

/-- An observation that took effect, in the order in which they did. -/
structure Observed where
  channelID : Nat
  configVersion : Int
  observationKey : String
  matched : Bool

structure GuardStore where
  config : GuardConfig
  channels : Nat → Option Channel
  records : List GuardRecord := []
  streaks : Nat → Option GuardStreak := fun _ => none
  observed : List Observed := []

inductive GuardResult where
  | unchanged | disabled | saved | conflict | refused | updated

inductive GuardCall where
  | lookForStreak (o : GuardObservation)
  | observe (o : GuardObservation) (matched : Bool)
  | save (expectedVersion : Int) (config : GuardConfig)
  | updateStatus (channelID : Nat) (usingKey : String) (status : Int) (reason : String) (automatic : Bool)
  | closed (result : GuardResult)

inductive GuardOp where
  | observe (o : GuardObservation) (matched : Bool)
  | save (expectedVersion : Int) (config : GuardConfig)
  | updateStatus (channelID : Nat) (usingKey : String) (status : Int) (reason : String) (automatic : Bool)

structure GuardChoice where
  now : Int := 0
  fails : Bool := false

def isHexDigit (c : Char) : Bool := c.isDigit || ('a' ≤ c && c ≤ 'f') || ('A' ≤ c && c ≤ 'F')

def GuardObservation.valid (o : GuardObservation) : Bool :=
  o.channelID≠0 && 0<o.configVersion && o.observationKey.length=64 && o.observationKey.toList.all isHexDigit

def GuardOp.call : GuardOp → GuardCall
  | .observe o matched => if !o.valid then .closed .refused else if matched then .lookForStreak o else .observe o false
  | .save expectedVersion config => if expectedVersion≤0 then .closed .refused else .save expectedVersion config
  | .updateStatus channelID usingKey status reason automatic => .updateStatus channelID usingKey status reason automatic

def GuardObservation.entry (o : GuardObservation) (matched : Bool) : Observed :=
  { channelID := o.channelID, configVersion := o.configVersion, observationKey := o.observationKey, matched := matched }

namespace GuardStore
variable (s : GuardStore) (o : GuardObservation)

/-- Does an observation count: is it of the current configuration, of a channel that is enabled and not excluded, and of a request
without a record? -/
def effective : Bool :=
  s.config.enabled && s.config.configVersion=o.configVersion &&
    (s.config.excludedChannelIDs.any fun excluded => o.channelID∉excluded) &&
    ((s.channels o.channelID).any fun channel => channel.status=channelStatusEnabled) &&
    !s.records.any fun record => record.observationKey=o.observationKey

def note (matched : Bool) : GuardStore := { s with observed := s.observed++[o.entry matched] }

def hasStreak (channelID : Nat) (configVersion : Int) : Bool :=
  (s.streaks channelID).any fun streak => streak.configVersion=configVersion && 0<streak.consecutiveMismatches

def nextCount (channelID : Nat) : Nat :=
  match s.streaks channelID with
  | some streak => if streak.configVersion≠s.config.configVersion then 1 else streak.consecutiveMismatches+1
  | none => 1

def threshold : Int := if s.config.failureThreshold≤0 then 2 else s.config.failureThreshold

def setStreak (channelID : Nat) (streak : Option GuardStreak) : GuardStore :=
  { s with streaks := Function.update s.streaks channelID streak }

def record : GuardRecord where
  channelID := o.channelID
  configVersion := o.configVersion
  observationKey := o.observationKey
  consecutiveMismatches := s.nextCount o.channelID
  failureThreshold := s.threshold
  channelDisabled := s.threshold ≤ s.nextCount o.channelID
  reason := o.reason (s.nextCount o.channelID) s.threshold

def disable (now : Int) : GuardStore :=
  { s with
    channels := Function.update s.channels o.channelID ((s.channels o.channelID).map fun channel =>
      { channel with
        status := channelStatusManuallyDisabled
        otherInfo := { channel.otherInfo.explain (s.record o).reason now with upstreamModelGuard := true } }) }

def observeTransaction (matched : Bool) (now : Int) : GuardStore×GuardResult :=
  if !s.effective o then (s,.unchanged)
  else if matched then ((s.setStreak o.channelID none).note o true,.unchanged)
  else
    let counted := { s with records := s.records++[s.record o] }.note o false
    if (s.record o).channelDisabled then
      ({ counted.setStreak o.channelID none with channels := (s.disable o now).channels },.disabled)
    else (counted.setStreak o.channelID (some { consecutiveMismatches := s.nextCount o.channelID
                                                configVersion := s.config.configVersion }),.unchanged)

def saveConfig (expectedVersion : Int) (config : GuardConfig) : GuardStore×GuardResult :=
  if s.config.configVersion=expectedVersion then
    ({ s with config := { config with configVersion := expectedVersion+1 } },.saved)
  else (s,.conflict)

end GuardStore

def advanceGuard (s : GuardStore) (c : GuardChoice) : GuardCall → GuardStore×GuardCall
  | .lookForStreak o =>
    if s.hasStreak o.channelID o.configVersion then (s,.observe o true)
    else (if s.effective o then s.note o true else s,.closed .unchanged)
  | .observe o matched => ((s.observeTransaction o matched c.now).1,.closed (s.observeTransaction o matched c.now).2)
  | .save expectedVersion config => ((s.saveConfig expectedVersion config).1,.closed (s.saveConfig expectedVersion config).2)
  | .updateStatus channelID usingKey status reason automatic =>
    match (s.channels channelID).bind fun channel => updatedChannel channel usingKey status reason automatic c.now with
    | some row => ({ s with channels := Function.update s.channels channelID (some row) },.closed .updated)
    | none => (s,.closed .unchanged)
  | .closed result => (s,.closed result)

def guardSystem : System GuardStore GuardCall GuardOp GuardChoice where
  init := GuardOp.call
  advance s call c := if c.fails then (s,.closed .refused) else advanceGuard s c call

def guardStart (config : GuardConfig) (channels : Nat → Option Channel) : Pool GuardStore GuardCall :=
  { shared := { config := config, channels := channels }, threads := [] }

section Guard
variable {s : GuardStore} {call : GuardCall} {c : GuardChoice} {o : GuardObservation} {ch : Nat} {observed : List Observed}

def GuardStore.observedOf (s : GuardStore) (channelID : Nat) (configVersion : Int) : List Observed :=
  s.observed.filter fun entry => entry.channelID=channelID && entry.configVersion=configVersion

/-- The last `count` observations were made, and they were mismatches. -/
def LastMismatched (observed : List Observed) (count : Int) : Prop :=
  count≤observed.length ∧ ∀ entry∈observed.reverse.take count.toNat, entry.matched=false

theorem LastMismatched.mono {count n : Int} (h : LastMismatched observed n) (hle : count≤n) :
    LastMismatched observed count := by
  obtain ⟨hlength,hmatched⟩ := h
  constructor
  · omega
  intro entry hentry
  exact hmatched entry (take_subset_take_left _ (Int.toNat_le_toNat hle) hentry)

theorem LastMismatched.succ {n : Nat} (h : LastMismatched observed n) {entry : Observed}
    (hentry : entry.matched=false) : LastMismatched (observed++[entry]) (n+1 : Nat) := by
  have hlength := h.1
  constructor
  · rw [length_append,length_singleton]
    omega
  · rw [reverse_append,reverse_singleton,singleton_append,Int.toNat_natCast,take_succ_cons]
    intro e he
    obtain rfl | he := mem_cons.mp he
    · exact hentry
    · exact h.2 e he

theorem LastMismatched.zero (observed : List Observed) : LastMismatched observed (0 : Nat) := by
  constructor
  · omega
  · exact fun _ h => absurd h not_mem_nil

/-- What holds of the guard's tables: no request is counted twice, and a count stands for as many mismatches in a row. -/
structure GuardSound (s : GuardStore) : Prop where
  counted : (s.observed.filter fun entry => !entry.matched).map (·.observationKey)=s.records.map (·.observationKey)
  keys : (s.records.map (·.observationKey)).Nodup
  streak : ∀ ch, ∀ streak∈s.streaks ch, LastMismatched (s.observedOf ch streak.configVersion) streak.consecutiveMismatches

theorem observedOf_note (s : GuardStore) (o : GuardObservation) (matched : Bool) (ch : Nat) (version : Int) :
    (s.note o matched).observedOf ch version=s.observedOf ch version ++
      if o.channelID=ch ∧ o.configVersion=version then [o.entry matched] else [] := by
  simp only [GuardStore.observedOf,GuardStore.note,GuardObservation.entry,filter_append,filter_cons,filter_nil,
    Bool.and_eq_true,decide_eq_true_eq]

theorem GuardStore.effective_spec (h : s.effective o=true) : s.config.configVersion=o.configVersion ∧
    (∃ channel, s.channels o.channelID=some channel ∧ channel.status=channelStatusEnabled) ∧
    o.observationKey∉s.records.map (·.observationKey) := by
  simp only [GuardStore.effective,Bool.and_eq_true,decide_eq_true_eq,Bool.not_eq_true',Option.any_eq_true] at h
  obtain ⟨⟨⟨⟨-,hversion⟩,-⟩,channel,hchannel,hstatus⟩,hkey⟩ := h
  refine ⟨hversion,⟨channel,hchannel,by simpa using hstatus⟩,?_⟩
  intro hmem
  obtain ⟨record,hrecord,he⟩ := mem_map.mp hmem
  have hany : (s.records.any fun record => record.observationKey=o.observationKey)=true :=
    any_eq_true.mpr ⟨record,hrecord,by simpa using he⟩
  rw [hkey] at hany
  cases hany

section
variable (hs : GuardSound s)
include hs

theorem GuardSound.nextCount (heffective : s.effective o=true) :
    LastMismatched ((s.note o false).observedOf o.channelID o.configVersion) (s.nextCount o.channelID) := by
  have hversion := (GuardStore.effective_spec heffective).1
  rw [observedOf_note,if_pos ⟨rfl,rfl⟩]
  unfold GuardStore.nextCount
  cases hstreak : s.streaks o.channelID with
  | none => exact (LastMismatched.zero _).succ rfl
  | some streak =>
    dsimp only
    split
    · exact (LastMismatched.zero _).succ rfl
    rename_i hsame
    have hold := hs.streak o.channelID streak hstreak
    rw [not_not.mp hsame,hversion] at hold
    exact hold.succ rfl

theorem GuardSound.note_streak (matched : Bool) {streak : GuardStreak} (hstreak : s.streaks ch=some streak)
    (hother : o.channelID=ch → o.configVersion≠streak.configVersion) :
    LastMismatched ((s.note o matched).observedOf ch streak.configVersion) streak.consecutiveMismatches := by
  rw [observedOf_note,if_neg (fun h => hother h.1 h.2),append_nil]
  exact hs.streak ch streak hstreak

theorem GuardSound.observeTransaction (o : GuardObservation) (matched : Bool) (now : Int) :
    GuardSound (s.observeTransaction o matched now).1 := by
  unfold GuardStore.observeTransaction
  cases heffective : s.effective o with
  | false => exact hs
  | true =>
    obtain ⟨hversion,-,hkey⟩ := GuardStore.effective_spec heffective
    have hothers : ∀ ch', ch'≠o.channelID → ∀ m, ∀ streak∈s.streaks ch',
        LastMismatched ((s.note o m).observedOf ch' streak.configVersion) streak.consecutiveMismatches :=
      fun ch' hne m streak hstreak => hs.note_streak m hstreak fun he => absurd he.symm hne
    cases matched with
    | true =>
      refine ⟨?_,hs.keys,?_⟩
      · simpa [GuardStore.note,GuardStore.setStreak,GuardObservation.entry] using hs.counted
      intro ch' streak hstreak
      by_cases hch : ch'=o.channelID
      · simp [GuardStore.note,GuardStore.setStreak,hch] at hstreak
      · exact hothers ch' hch true streak (by simpa [GuardStore.note,GuardStore.setStreak,hch] using hstreak)
    | false =>
      have hcounted : ((s.observed++[o.entry false]).filter fun entry => !entry.matched).map (·.observationKey) =
          (s.records++[s.record o]).map (·.observationKey) := by
        rw [filter_append,map_append,map_append,hs.counted]
        rfl
      have hkeys : ((s.records++[s.record o]).map (·.observationKey)).Nodup := by
        rw [map_append,nodup_append]
        refine ⟨hs.keys,nodup_singleton _,?_⟩
        intro a ha b hb hab
        obtain rfl : b=o.observationKey := mem_singleton.mp hb
        exact hkey (hab ▸ ha)
      simp only [Bool.not_true,Bool.false_eq_true,if_false]
      split
      · refine ⟨hcounted,hkeys,?_⟩
        intro ch' streak hstreak
        by_cases hch : ch'=o.channelID
        · simp [GuardStore.note,GuardStore.setStreak,hch] at hstreak
        · exact hothers ch' hch false streak (by simpa [GuardStore.note,GuardStore.setStreak,hch] using hstreak)
      · refine ⟨hcounted,hkeys,?_⟩
        intro ch' streak hstreak
        by_cases hch : ch'=o.channelID
        · have hnew : streak={ consecutiveMismatches := s.nextCount o.channelID, configVersion := s.config.configVersion } := by
            simpa [GuardStore.note,GuardStore.setStreak,hch,eq_comm] using hstreak
          rw [hnew,hch,hversion]
          exact hs.nextCount heffective
        · exact hothers ch' hch false streak (by simpa [GuardStore.note,GuardStore.setStreak,hch] using hstreak)

theorem GuardSound.lookForStreak (hnone : s.hasStreak o.channelID o.configVersion=false) :
    GuardSound (if s.effective o then s.note o true else s) := by
  split
  · refine ⟨?_,hs.keys,?_⟩
    · simpa [GuardStore.note,GuardObservation.entry] using hs.counted
    intro ch' streak hstreak
    by_cases hother : o.channelID=ch' → o.configVersion≠streak.configVersion
    · exact hs.note_streak true hstreak hother
    obtain ⟨rfl,hversion⟩ := Classical.not_imp.mp hother
    have hzero : streak.consecutiveMismatches=0 := by
      have hold : s.streaks o.channelID=some streak := hstreak
      rw [GuardStore.hasStreak,hold,any_some,Bool.and_eq_false_iff] at hnone
      simp only [decide_eq_false_iff_not] at hnone
      obtain hne | hzero := hnone
      · exact absurd (not_not.mp hversion).symm hne
      · omega
    rw [hzero]
    exact LastMismatched.zero _
  · exact hs

end

theorem guardSystem_keeps : Keeps guardSystem GuardSound fun _ _ => True where
  init _ _ := trivial
  shared {s call} c hs _ := by
    simp only [guardSystem]
    split
    · exact hs
    cases call with
    | lookForStreak o =>
      simp only [advanceGuard]
      cases hstreak : s.hasStreak o.channelID o.configVersion with
      | true => exact hs
      | false => exact hs.lookForStreak hstreak
    | observe o matched => exact hs.observeTransaction o matched c.now
    | save expectedVersion config =>
      simp only [advanceGuard,GuardStore.saveConfig]
      split
      · exact ⟨hs.counted,hs.keys,hs.streak⟩
      · exact hs
    | updateStatus channelID usingKey status reason automatic =>
      simp only [advanceGuard]
      split
      · exact ⟨hs.counted,hs.keys,hs.streak⟩
      · exact hs
    | closed result => exact hs
  moved _ _ _ := trivial
  other _ _ _ _ := trivial

theorem guardStart_each (config : GuardConfig) (channels : Nat → Option Channel) :
    Each GuardSound (fun _ _ => True) (guardStart config channels) :=
  ⟨⟨rfl,nodup_nil,fun _ _ => nofun⟩,fun _ _ => trivial⟩

def GuardStore.Enabled (s : GuardStore) (ch : Nat) : Prop :=
  ∃ channel, s.channels ch=some channel ∧ channel.status=channelStatusEnabled

def GuardCall.Observes : GuardCall → Prop
  | .lookForStreak _ | .observe _ _ => True
  | .save _ _ | .updateStatus _ _ _ _ _ | .closed _ => False

def GuardDisables (s : GuardStore) (call : GuardCall) (c : GuardChoice) (ch : Nat) : Prop :=
  call.Observes ∧ s.Enabled ch ∧ ¬ (guardSystem.advance s call c).1.Enabled ch

def GuardStore.Held (s : GuardStore) (ch : Nat) : Prop :=
  ∃ channel, s.channels ch=some channel ∧ channel.status≠channelStatusEnabled ∧ channel.otherInfo.upstreamModelGuard=true

theorem GuardStore.Held.not_enabled (h : s.Held ch) : ¬ s.Enabled ch := by
  rintro ⟨channel,hchannel,hstatus⟩
  obtain ⟨held,hheld,hne,-⟩ := h
  rw [hchannel] at hheld
  exact hne (Option.some.inj hheld ▸ hstatus)

theorem observeTransaction_channels (hs : GuardSound s) (o : GuardObservation) (matched : Bool) (now : Int) :
    (s.observeTransaction o matched now).1.channels=s.channels ∨
    ((s.observeTransaction o matched now).1.channels=(s.disable o now).channels ∧ s.Enabled o.channelID ∧
      LastMismatched ((s.observeTransaction o matched now).1.observedOf o.channelID s.config.configVersion) s.threshold) := by
  unfold GuardStore.observeTransaction
  cases heffective : s.effective o with
  | false => exact .inl rfl
  | true =>
    cases matched with
    | true => exact .inl rfl
    | false =>
      simp only [Bool.not_true,Bool.false_eq_true,if_false]
      split
      next hdisabled =>
        obtain ⟨hversion,henabled,-⟩ := GuardStore.effective_spec heffective
        have hreached : s.threshold ≤ s.nextCount o.channelID := by simpa [GuardStore.record] using hdisabled
        right
        refine ⟨rfl,henabled,?_⟩
        rw [hversion]
        exact (hs.nextCount heffective).mono hreached
      · exact .inl rfl

theorem GuardDisables.spec (hs : GuardSound s) (h : GuardDisables s call c ch) :
    LastMismatched ((guardSystem.advance s call c).1.observedOf ch s.config.configVersion) s.threshold ∧
      (guardSystem.advance s call c).1.Held ch := by
  obtain ⟨hobserves,henabled,hdisabled⟩ := h
  have hsame : ∀ s' : GuardStore, s'.channels=s.channels → s'.Enabled ch := by
    intro s' hchannels
    rw [GuardStore.Enabled,hchannels]
    exact henabled
  cases hfails : c.fails with
  | true =>
    simp only [guardSystem,hfails,if_true] at hdisabled
    exact absurd henabled hdisabled
  | false =>
    simp only [guardSystem,hfails,Bool.false_eq_true,if_false] at hdisabled ⊢
    cases call with
    | lookForStreak o =>
      apply absurd _ hdisabled
      apply hsame
      simp only [advanceGuard]
      split
      · rfl
      · dsimp only
        split <;> rfl
    | observe o matched =>
      simp only [advanceGuard] at hdisabled ⊢
      obtain hchannels | ⟨hchannels,⟨channel,hchannel,-⟩,hlast⟩ := observeTransaction_channels hs o matched c.now
      · exact absurd (hsame _ hchannels) hdisabled
      by_cases hch : ch=o.channelID
      · rw [hch]
        refine ⟨hlast,?_⟩
        rw [GuardStore.Held,hchannels]
        simp only [GuardStore.disable,update_self,hchannel,map_some,Option.some.injEq,exists_eq_left']
        constructor
        · decide
        · trivial
      · apply absurd _ hdisabled
        rw [GuardStore.Enabled,hchannels]
        simp only [GuardStore.disable,update_of_ne hch]
        exact henabled
    | save _ _ | updateStatus _ _ _ _ _ | closed _ => cases hobserves

def NotManualEnable (ch : Nat) (_ : GuardStore) (call : GuardCall) (_ : GuardChoice) : Prop :=
  match call with
  | .updateStatus channelID _ status _ automatic => channelID=ch → automatic=true ∨ status≠channelStatusEnabled
  | .lookForStreak _ | .observe _ _ | .save _ _ | .closed _ => True

theorem updatedChannel_held {channel : Channel} {usingKey reason : String} {status now : Int} {automatic : Bool}
    (hstatus : channel.status≠channelStatusEnabled) (hflag : channel.otherInfo.upstreamModelGuard=true)
    (hmanual : automatic=true ∨ status≠channelStatusEnabled) :
    updatedChannel channel usingKey status reason automatic now=none := by
  have hrefuses : guardRefuses channel status automatic=true := by
    simp only [guardRefuses,hflag,Bool.and_eq_true,Bool.or_eq_true,bne_iff_ne,ne_eq,true_and]
    exact ⟨hstatus,hmanual⟩
  rw [updatedChannel,if_pos hrefuses,ite_self]

theorem held_keepsIf (ch : Nat) :
    KeepsIf guardSystem (NotManualEnable ch) (fun s => GuardSound s ∧ s.Held ch) fun _ _ => True where
  init _ _ := trivial
  shared {s call} c hnot h _ := by
    refine ⟨guardSystem_keeps.shared c h.1 trivial,?_⟩
    obtain ⟨hs,hheld⟩ := h
    simp only [guardSystem]
    split
    · exact hheld
    cases call with
    | lookForStreak o =>
      simp only [advanceGuard]
      split
      · exact hheld
      dsimp only
      split
      · exact hheld
      · exact hheld
    | observe o matched =>
      simp only [advanceGuard]
      rw [GuardStore.Held]
      obtain hchannels | ⟨hchannels,henabled,-⟩ := observeTransaction_channels hs o matched c.now
      · rw [hchannels]
        exact hheld
      · have hch : ch≠o.channelID := fun he => hheld.not_enabled (he ▸ henabled)
        rw [hchannels]
        simp only [GuardStore.disable,update_of_ne hch]
        exact hheld
    | save expectedVersion config =>
      simp only [advanceGuard,GuardStore.saveConfig]
      split
      · exact hheld
      · exact hheld
    | updateStatus channelID usingKey status reason automatic =>
      simp only [advanceGuard]
      split
      next row hrow =>
        by_cases hch : ch=channelID
        · obtain ⟨channel,hchannel,hstatus,hflag⟩ := hheld
          rw [← hch,hchannel,bind_some,updatedChannel_held hstatus hflag (hnot hch.symm)] at hrow
          cases hrow
        · rw [GuardStore.Held]
          simp only [update_of_ne hch]
          exact hheld
      · exact hheld
    | closed result => exact hheld
  moved _ _ _ _ := trivial
  other _ _ _ _ _ := trivial

/-- In every interleaving: no request is counted twice, a channel is disabled only at the end of as many mismatches in a row as the
threshold says, and it then stays disabled until an administrator enables it. -/
theorem guard_disables_on_mismatches (config : GuardConfig) (channels : Nat → Option Channel) (acts : List (Act GuardOp GuardChoice)) :
    (((run guardSystem.act acts (guardStart config channels)).shared.observed.filter fun entry => !entry.matched).map
      (·.observationKey)).Nodup ∧
    (∀ i call c ch, (run guardSystem.act acts (guardStart config channels)).threads[i]? = some call →
      GuardDisables (run guardSystem.act acts (guardStart config channels)).shared call c ch → LastMismatched
        ((guardSystem.act (run guardSystem.act acts (guardStart config channels)) (.step i c)).shared.observedOf ch
          (run guardSystem.act acts (guardStart config channels)).shared.config.configVersion)
        (run guardSystem.act acts (guardStart config channels)).shared.threshold ∧
      ∀ later, Guarded guardSystem.act (Meets (NotManualEnable ch)) later
          (guardSystem.act (run guardSystem.act acts (guardStart config channels)) (.step i c)) → ¬ (run guardSystem.act later
          (guardSystem.act (run guardSystem.act acts (guardStart config channels)) (.step i c))).shared.Enabled ch) := by
  have heach := guardSystem_keeps.run acts (guardStart_each config channels)
  constructor
  · rw [heach.shared.counted]
    exact heach.shared.keys
  · intro i call c ch hcall hdisables
    obtain ⟨hlast,hheld⟩ := hdisables.spec heach.shared
    have hnext := guardSystem_keeps.act heach (.step i c)
    rw [System.act_step hcall] at hnext ⊢
    refine ⟨hlast,fun later hlater => ?_⟩
    exact ((held_keepsIf ch).run ⟨⟨hnext.shared,hheld⟩,fun _ _ => trivial⟩ hlater).shared.2.not_enabled

def guardKey (c : Char) : String := String.ofList (List.replicate 64 c)

def guardedChannel (ch : Nat) : Option Channel := if ch=3 then some { id := 3 } else none

def mismatchOf (c : Char) : GuardObservation := { channelID := 3, configVersion := 1, observationKey := guardKey c }

def mismatchRun : List (Act GuardOp GuardChoice) :=
  [.start (.observe (mismatchOf 'a') false),.step 0 {},.start (.observe (mismatchOf 'b') true),.step 1 {},.step 1 {},
   .start (.observe (mismatchOf 'c') false),.step 2 {},.start (.observe (mismatchOf 'd') false)]

def enabledGuard : GuardConfig := { enabled := true }

theorem second_mismatch_disables :
    (((run guardSystem.act mismatchRun (guardStart enabledGuard guardedChannel)).shared.channels 3).map (·.status) =
      some channelStatusEnabled) ∧
    LastMismatched ((guardSystem.act (run guardSystem.act mismatchRun (guardStart enabledGuard guardedChannel))
      (.step 3 {})).shared.observedOf 3 1) 2 ∧
    ¬ (run guardSystem.act [.start (.updateStatus 3 "" channelStatusEnabled "health check" true),.step 4 {}]
      (guardSystem.act (run guardSystem.act mismatchRun (guardStart enabledGuard guardedChannel)) (.step 3 {}))).shared.Enabled 3 := by
  have hvalid : (mismatchOf 'd').valid=true := by decide +kernel
  obtain ⟨hon,hoff⟩ :
      ((run guardSystem.act mismatchRun (guardStart enabledGuard guardedChannel)).shared.channels 3).map (·.status) =
        some channelStatusEnabled ∧
      ((guardSystem.advance (run guardSystem.act mismatchRun (guardStart enabledGuard guardedChannel)).shared
        (.observe (mismatchOf 'd') false) {}).1.channels 3).map (·.status)=some channelStatusManuallyDisabled := by
    decide +kernel
  have hdisables : GuardDisables (run guardSystem.act mismatchRun (guardStart enabledGuard guardedChannel)).shared
      (.observe (mismatchOf 'd') false) {} 3 := by
    refine ⟨trivial,Option.map_eq_some_iff.mp hon,?_⟩
    rintro ⟨channel,hchannel,hstatus⟩
    rw [hchannel,map_some,hstatus] at hoff
    cases hoff
  have hcall : (run guardSystem.act mismatchRun (guardStart enabledGuard guardedChannel)).threads[3]? =
      some (.observe (mismatchOf 'd') false) := by
    simp [mismatchRun,run,System.act,guardSystem,guardStart,GuardOp.call,hvalid]
  obtain ⟨hlast,hheld⟩ := (guard_disables_on_mismatches enabledGuard guardedChannel mismatchRun).2 3 _ {} 3 hcall hdisables
  refine ⟨hon,hlast,?_⟩
  apply hheld
  refine ⟨trivial,?_,trivial⟩
  rintro call ⟨⟩
  exact fun _ => .inl rfl

end Guard

end NewApi.Channels
