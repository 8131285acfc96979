import NewApi.Channels.Model
import NewApi.Lib.Threads

/-! The keys of a channel in polling mode without the memory cache (`model/channel.go`). A request loads the row of its channel
and later takes a key under the polling lock, where it saves the cursor together with the rest of `channel_info`; a change of
the status runs under the same lock from its first read on. -/
namespace NewApi.Channels
open Function Option List Threads Runs

structure StatusUpdate where
  usingKey : String
  status : Int
  reason : String
  automatic : Bool
  deriving DecidableEq

structure KeyStore where
  row : Channel
  log : List (StatusUpdate×Int) := []

inductive KeyCall where
  | load
  | poll (channel : Channel)
  | update (u : StatusUpdate)
  | closed (key : Option Nat)

inductive KeyOp where
  | request
  | update (u : StatusUpdate)

/-- What the environment decides at a step: the time, a random number, and whether the database fails. -/
structure KeyChoice where
  now : Int := 0
  pick : Nat := 0
  fails : Bool := false

def Channel.enabledIdx (channel : Channel) : List Nat :=
  (List.range channel.keys.length).filter fun index => channel.channelInfo.keyStatus index=channelStatusEnabled

def Channel.nextEnabled (channel : Channel) (cursor : Int) : Option Nat :=
  let start := if cursor<0 ∨ channel.keys.length≤cursor then 0 else cursor.toNat
  ((List.range channel.keys.length).map fun i => (start+i) % channel.keys.length).find? fun index =>
    channel.channelInfo.keyStatus index=channelStatusEnabled

def ChannelInfo.withCursor (info : ChannelInfo) (cursor : Int) : ChannelInfo := { info with multiKeyPollingIndex := cursor }

def getNextEnabledKey (channel : Channel) (cursor : Int) (pick : Nat) : Option Nat×Option ChannelInfo :=
  if !channel.channelInfo.isMultiKey then (some 0,none)
  else if !hasEnabledMultiKey channel.keys channel.channelInfo then (none,none)
  else
    match channel.channelInfo.multiKeyMode with
    | .random => (channel.enabledIdx[pick % channel.enabledIdx.length]?,none)
    | .polling =>
      match channel.nextEnabled cursor with
      | some index => (some index,some (channel.channelInfo.withCursor (((index+1) % channel.keys.length : Nat) : Int)))
      | none => (channel.enabledIdx.head?,some channel.channelInfo)
    | .other _ => (channel.enabledIdx.head?,none)

def KeyStore.save (s : KeyStore) (info : Option ChannelInfo) : KeyStore :=
  { s with row := { s.row with channelInfo := info.getD s.row.channelInfo } }

def StatusUpdate.apply (u : StatusUpdate) (row : Channel) (now : Int) : Option Channel :=
  updatedChannel row u.usingKey u.status u.reason u.automatic now

def advanceKey (s : KeyStore) (c : KeyChoice) : KeyCall → KeyStore×KeyCall
  | .load => (s,.poll s.row)
  | .poll channel =>
    let out := getNextEnabledKey channel s.row.channelInfo.multiKeyPollingIndex c.pick
    (s.save out.2,.closed out.1)
  | .update u =>
    match u.apply s.row c.now with
    | some row => ({ row := row, log := s.log++[(u,c.now)] },.closed none)
    | none => (s,.closed none)
  | .closed key => (s,.closed key)

def keySystem : System KeyStore KeyCall KeyOp KeyChoice where
  init
    | .request => .load
    | .update u => .update u
  advance s call c := if c.fails then (s,.closed none) else advanceKey s c call

def idle (row : Channel) : Pool KeyStore KeyCall := { shared := { row := row }, threads := [] }

section Replay
variable {row : Channel} {u : StatusUpdate} {now : Int}

def replay (row : Channel) (log : List (StatusUpdate×Int)) : Channel :=
  log.foldl (fun row entry => (entry.1.apply row entry.2).getD row) row

theorem replay_concat (row : Channel) (log : List (StatusUpdate×Int)) (entry : StatusUpdate×Int) :
    replay row (log++[entry])=(entry.1.apply (replay row log) entry.2).getD (replay row log) := by
  rw [replay,foldl_append]
  rfl

def Channel.withCursor (row : Channel) (cursor : Int) : Channel :=
  { row with channelInfo := row.channelInfo.withCursor cursor }

def SameButCursor (a b : Channel) : Prop := ∃ cursor, a=b.withCursor cursor

theorem SameButCursor.refl (a : Channel) : SameButCursor a a := ⟨a.channelInfo.multiKeyPollingIndex,rfl⟩

variable {a b row' : Channel} (info : ChannelInfo)

theorem SameButCursor.trans {c : Channel} (hab : SameButCursor a b) (hbc : SameButCursor b c) : SameButCursor a c := by
  obtain ⟨i,rfl⟩ := hab
  obtain ⟨j,rfl⟩ := hbc
  exact ⟨i,rfl⟩

theorem SameButCursor.symm (h : SameButCursor a b) : SameButCursor b a := by
  obtain ⟨i,rfl⟩ := h
  exact ⟨b.channelInfo.multiKeyPollingIndex,rfl⟩

theorem setKeyStatus_withCursor (cursor : Int) (index : Nat) (status : Int) (reason : String) (now : Int) :
    (info.withCursor cursor).setKeyStatus index status reason now =
      (info.setKeyStatus index status reason now).withCursor cursor := by
  unfold ChannelInfo.setKeyStatus
  split <;> rfl

theorem handlerMultiKeyUpdate_withCursor (row : Channel) (cursor : Int) (usingKey : String) (status : Int) (reason : String)
    (now : Int) : handlerMultiKeyUpdate (row.withCursor cursor) usingKey status reason now =
      (handlerMultiKeyUpdate row usingKey status reason now).withCursor cursor := by
  unfold handlerMultiKeyUpdate
  by_cases hkeys : row.keys=[]
  · rw [if_pos hkeys,if_pos (show (row.withCursor cursor).keys=[] from hkeys)]
    rfl
  · rw [if_neg hkeys,if_neg (show ¬ (row.withCursor cursor).keys=[] from hkeys)]
    have hfind : (row.withCursor cursor).keys.findIdx? (· = usingKey)=row.keys.findIdx? (· = usingKey) := rfl
    rw [hfind]
    cases row.keys.findIdx? (· = usingKey) with
    | none =>
      dsimp only
      split <;> rfl
    | some index =>
      have hinfo : (row.withCursor cursor).channelInfo.setKeyStatus index status reason now =
          (row.channelInfo.setKeyStatus index status reason now).withCursor cursor := setKeyStatus_withCursor _ _ _ _ _ _
      dsimp only
      rw [hinfo]
      have henabled : hasEnabledMultiKey (row.withCursor cursor).keys
          ((row.channelInfo.setKeyStatus index status reason now).withCursor cursor) =
          hasEnabledMultiKey row.keys (row.channelInfo.setKeyStatus index status reason now) := rfl
      rw [henabled]
      split <;> rfl

theorem apply_withCursor (row : Channel) (cursor : Int) (u : StatusUpdate) (now : Int) :
    u.apply (row.withCursor cursor) now=(u.apply row now).map (·.withCursor cursor) := by
  unfold StatusUpdate.apply updatedChannel
  by_cases hstatus : row.status=u.status
  · rw [if_pos hstatus,if_pos (show (row.withCursor cursor).status=u.status from hstatus)]
    rfl
  rw [if_neg hstatus,if_neg (show ¬ (row.withCursor cursor).status=u.status from hstatus)]
  have hguard : guardRefuses (row.withCursor cursor) u.status u.automatic=guardRefuses row u.status u.automatic := rfl
  rw [hguard]
  by_cases hrefuses : guardRefuses row u.status u.automatic=true
  · rw [if_pos hrefuses,if_pos hrefuses]
    rfl
  rw [if_neg hrefuses,if_neg hrefuses]
  by_cases hmulti : row.channelInfo.isMultiKey=true
  · have hmulti' : (row.withCursor cursor).channelInfo.isMultiKey=true := hmulti
    dsimp only
    rw [if_pos hmulti,if_pos hmulti',map_some]
    exact congrArg some (handlerMultiKeyUpdate_withCursor
      { row with otherInfo := { row.otherInfo with upstreamModelGuard := false } } cursor u.usingKey u.status u.reason now)
  · have hmulti' : ¬ (row.withCursor cursor).channelInfo.isMultiKey=true := hmulti
    dsimp only
    rw [if_neg hmulti,if_neg hmulti']
    rfl

theorem SameButCursor.apply (h : SameButCursor a b) (u : StatusUpdate) (now : Int) :
    SameButCursor ((u.apply a now).getD a) ((u.apply b now).getD b) := by
  obtain ⟨cursor,rfl⟩ := h
  rw [apply_withCursor]
  cases u.apply b now with
  | none | some _ => exact ⟨cursor,rfl⟩

def StatusUpdate.Enables (u : StatusUpdate) (keys : List String) (index : Nat) : Prop :=
  u.status=channelStatusEnabled ∧ keys.findIdx? (· = u.usingKey)=some index

/-- The parts of a row that no update of the status writes, and the keys that it may write. -/
structure KeepsKeys (row row' : Channel) (u : StatusUpdate) : Prop where
  keys : row'.keys=row.keys
  isMultiKey : row'.channelInfo.isMultiKey=row.channelInfo.isMultiKey
  mode : row'.channelInfo.multiKeyMode=row.channelInfo.multiKeyMode
  disabled : ∀ index, ¬ u.Enables row.keys index → row.channelInfo.keyStatus index≠channelStatusEnabled →
    row'.channelInfo.keyStatus index≠channelStatusEnabled

theorem KeepsKeys.of_info_eq (hkeys : row'.keys=row.keys) (hinfo : row'.channelInfo=row.channelInfo) : KeepsKeys row row' u :=
  ⟨hkeys,by rw [hinfo],by rw [hinfo],fun index _ h => by rw [hinfo]; exact h⟩

theorem setKeyStatus_disabled {info : ChannelInfo} {index k : Nat} {status : Int} (reason : String)
    (hstatus : ¬ (status=channelStatusEnabled ∧ index=k)) (h : info.keyStatus k≠channelStatusEnabled) :
    (info.setKeyStatus index status reason now).keyStatus k≠channelStatusEnabled := by
  unfold ChannelInfo.setKeyStatus
  by_cases hk : k=index
  · have hne : status≠channelStatusEnabled := fun hs => hstatus ⟨hs,hk.symm⟩
    rw [if_neg hne]
    simp only [ChannelInfo.keyStatus,hk,update_self,getD_some]
    exact hne
  · split
    · simpa only [ChannelInfo.keyStatus,update_of_ne hk] using h
    · simpa only [ChannelInfo.keyStatus,update_of_ne hk] using h

theorem setKeyStatus_mode (index : Nat) (status : Int) (reason : String) (now : Int) :
    (info.setKeyStatus index status reason now).isMultiKey=info.isMultiKey ∧
      (info.setKeyStatus index status reason now).multiKeyMode=info.multiKeyMode := by
  unfold ChannelInfo.setKeyStatus
  split <;> exact ⟨rfl,rfl⟩

theorem handlerMultiKeyUpdate_keeps (row : Channel) (u : StatusUpdate) (now : Int) :
    KeepsKeys row (handlerMultiKeyUpdate row u.usingKey u.status u.reason now) u := by
  unfold handlerMultiKeyUpdate
  split
  · exact .of_info_eq rfl rfl
  cases hfind : row.keys.findIdx? (· = u.usingKey) with
  | none =>
    dsimp only
    split
    · exact .of_info_eq rfl rfl
    · exact .of_info_eq rfl rfl
  | some index =>
    have hmode := setKeyStatus_mode row.channelInfo index u.status u.reason now
    have hdisabled : ∀ k, ¬ u.Enables row.keys k → row.channelInfo.keyStatus k≠channelStatusEnabled →
        (row.channelInfo.setKeyStatus index u.status u.reason now).keyStatus k≠channelStatusEnabled := by
      intro k hk h
      apply setKeyStatus_disabled u.reason _ h
      rintro ⟨hstatus,rfl⟩
      exact hk ⟨hstatus,hfind⟩
    dsimp only
    split
    · exact ⟨rfl,hmode.1,hmode.2,hdisabled⟩
    · exact ⟨rfl,hmode.1,hmode.2,hdisabled⟩

theorem StatusUpdate.apply_keeps (h : u.apply row now=some row') : KeepsKeys row row' u := by
  unfold StatusUpdate.apply updatedChannel at h
  split at h
  · cases h
  split at h
  · cases h
  dsimp only at h
  split at h
  · rw [← Option.some.inj h]
    have hkeeps := handlerMultiKeyUpdate_keeps { row with otherInfo := { row.otherInfo with upstreamModelGuard := false } } u now
    exact ⟨hkeeps.keys,hkeeps.isMultiKey,hkeeps.mode,hkeeps.disabled⟩
  · rw [← Option.some.inj h]
    exact .of_info_eq rfl rfl

theorem StatusUpdate.apply_getD_keeps (u : StatusUpdate) (row : Channel) (now : Int) :
    KeepsKeys row ((u.apply row now).getD row) u := by
  cases h : u.apply row now with
  | none => exact .of_info_eq rfl rfl
  | some row' => exact apply_keeps h

theorem replay_append (row : Channel) (log more : List (StatusUpdate×Int)) :
    replay row (log++more)=replay (replay row log) more := foldl_append

theorem replay_keys (row : Channel) (log : List (StatusUpdate×Int)) : (replay row log).keys=row.keys := by
  induction log generalizing row with
  | nil => rfl
  | cons entry log ih => exact (ih _).trans (entry.1.apply_getD_keeps row entry.2).keys

theorem replay_disabled {row : Channel} {log : List (StatusUpdate×Int)} {index : Nat}
    (hlog : ∀ entry∈log, ¬ entry.1.Enables row.keys index) (h : row.channelInfo.keyStatus index≠channelStatusEnabled) :
    (replay row log).channelInfo.keyStatus index≠channelStatusEnabled := by
  induction log generalizing row with
  | nil => exact h
  | cons entry log ih =>
    have hkeeps := entry.1.apply_getD_keeps row entry.2
    apply ih
    · intro later hlater
      rw [hkeeps.keys]
      exact hlog later (mem_cons_of_mem _ hlater)
    · exact hkeeps.disabled index (hlog entry mem_cons_self) h

theorem SameButCursor.keyStatus (h : SameButCursor a b) (index : Nat) :
    a.channelInfo.keyStatus index=b.channelInfo.keyStatus index := by
  obtain ⟨cursor,rfl⟩ := h
  rfl

end Replay

section Polling
variable {row : Channel} {s : KeyStore} {call : KeyCall} {c : KeyChoice}

/-- A poll saves what it loaded. Its row is fresh where it differs from the stored one in the cursor at most. -/
def Fresh (s : KeyStore) : KeyCall → Prop
  | .poll channel => hasEnabledMultiKey channel.keys channel.channelInfo=true →
      ∃ cursor, channel.channelInfo=s.row.channelInfo.withCursor cursor
  | .load | .update _ | .closed _ => True

def StepFresh (s : KeyStore) (call : KeyCall) (c : KeyChoice) : Prop := c.fails=true ∨ Fresh s call

def Channel.Polls (channel : Channel) : Prop :=
  channel.channelInfo.isMultiKey=true ∧ channel.channelInfo.multiKeyMode=.polling

def PollsLoaded (_ : KeyStore) : KeyCall → Prop
  | .poll channel => channel.Polls
  | .load | .update _ | .closed _ => True

theorem getNextEnabledKey_saves {channel : Channel} (hpolls : channel.Polls) (cursor : Int) (pick : Nat) :
    (hasEnabledMultiKey channel.keys channel.channelInfo=true →
      ∃ next, (getNextEnabledKey channel cursor pick).2=some (channel.channelInfo.withCursor next)) ∧
    (hasEnabledMultiKey channel.keys channel.channelInfo=false → (getNextEnabledKey channel cursor pick).2=none) := by
  unfold getNextEnabledKey
  have hmulti : ¬ (!channel.channelInfo.isMultiKey)=true := by simp [hpolls.1]
  rw [if_neg hmulti]
  constructor
  · intro henabled
    have hnone : ¬ (!hasEnabledMultiKey channel.keys channel.channelInfo)=true := by simp [henabled]
    rw [if_neg hnone,hpolls.2]
    dsimp only
    cases channel.nextEnabled cursor with
    | none => exact ⟨channel.channelInfo.multiKeyPollingIndex,rfl⟩
    | some index => exact ⟨_,rfl⟩
  · intro hdisabled
    rw [if_pos (by simp [hdisabled])]

theorem advance_cases (hcall : PollsLoaded s call) (c : KeyChoice) :
    (∃ u channel, call=.update u ∧ u.apply s.row c.now=some channel ∧
      (keySystem.advance s call c).1={ row := channel, log := s.log++[(u,c.now)] }) ∨
    (∃ channel next, call=.poll channel ∧ c.fails=false ∧ hasEnabledMultiKey channel.keys channel.channelInfo=true ∧
      (keySystem.advance s call c).1=s.save (some (channel.channelInfo.withCursor next))) ∨
    ((keySystem.advance s call c).1=s ∧ StepFresh s call c) := by
  cases hfails : c.fails with
  | true =>
    right; right
    constructor
    · simp only [keySystem,hfails,if_true]
    · exact .inl hfails
  | false =>
    have hadvance : keySystem.advance s call c=advanceKey s c call := by
      simp only [keySystem,hfails,Bool.false_eq_true,if_false]
    rw [hadvance]
    cases call with
    | load | closed _ => exact .inr (.inr ⟨rfl,.inr trivial⟩)
    | update u =>
      cases happly : u.apply s.row c.now with
      | none =>
        right; right
        constructor
        · simp only [advanceKey,happly]
        · exact .inr trivial
      | some channel =>
        left
        refine ⟨u,channel,rfl,happly,?_⟩
        simp only [advanceKey,happly]
    | poll channel =>
      right
      have hsaves := getNextEnabledKey_saves hcall s.row.channelInfo.multiKeyPollingIndex c.pick
      cases henabled : hasEnabledMultiKey channel.keys channel.channelInfo with
      | true =>
        obtain ⟨next,hnext⟩ := hsaves.1 henabled
        left
        refine ⟨channel,next,rfl,rfl,henabled,?_⟩
        simp only [advanceKey,hnext]
      | false =>
        right
        constructor
        · simp only [advanceKey,hsaves.2 henabled,KeyStore.save,getD_none]
        right
        intro h
        rw [henabled] at h
        cases h

theorem advance_log (hcall : PollsLoaded s call) (c : KeyChoice) : ∃ more, (keySystem.advance s call c).1.log=s.log++more := by
  obtain ⟨u,channel,-,-,h⟩ | ⟨channel,next,-,-,-,h⟩ | ⟨h,-⟩ := advance_cases hcall c
  · exact ⟨[(u,c.now)],by rw [h]⟩
  · exact ⟨[],by rw [h,append_nil]; rfl⟩
  · exact ⟨[],by rw [h,append_nil]⟩

/-- No update is lost: the stored row is what the committed updates alone make of the first one. -/
def NoneLost (row : Channel) (s : KeyStore) : Prop := SameButCursor s.row (replay row s.log)

theorem advance_noneLost (hnone : NoneLost row s) (hcall : PollsLoaded s call) (c : KeyChoice) :
    NoneLost row (keySystem.advance s call c).1 ↔ StepFresh s call c := by
  obtain ⟨u,channel,rfl,happly,h⟩ | ⟨channel,next,rfl,hok,henabled,h⟩ | ⟨h,hfresh⟩ := advance_cases hcall c
  · rw [h]
    apply iff_of_true _ (.inr trivial)
    have hsame := hnone.apply u c.now
    rw [happly,getD_some] at hsame
    rw [NoneLost,replay_concat]
    exact hsame
  · rw [h]
    constructor
    · intro hsame
      right
      intro _
      obtain ⟨cursor,hcursor⟩ := hsame.trans hnone.symm
      have hinfo : channel.channelInfo.withCursor next=s.row.channelInfo.withCursor cursor := congrArg Channel.channelInfo hcursor
      refine ⟨channel.channelInfo.multiKeyPollingIndex,?_⟩
      calc channel.channelInfo
          = (channel.channelInfo.withCursor next).withCursor channel.channelInfo.multiKeyPollingIndex := rfl
        _=s.row.channelInfo.withCursor channel.channelInfo.multiKeyPollingIndex := by rw [hinfo]; rfl
    · intro hfresh
      obtain hfails | hfresh := hfresh
      · rw [hok] at hfails
        cases hfails
      obtain ⟨cursor,hcursor⟩ := hfresh henabled
      have hsave : SameButCursor (s.save (some (channel.channelInfo.withCursor next))).row s.row := by
        refine ⟨next,?_⟩
        simp only [KeyStore.save,getD_some,hcursor]
        rfl
      exact hsave.trans hnone
  · rw [h]
    exact iff_of_true hnone hfresh

theorem keySystem_keeps : Keeps keySystem (fun s => s.row.Polls) PollsLoaded where
  init o _ := by cases o <;> trivial
  shared {s t} c hs ht := by
    obtain ⟨u,channel,-,happly,h⟩ | ⟨channel,next,rfl,-,-,h⟩ | ⟨h,-⟩ := advance_cases ht c
    · have hkeeps := StatusUpdate.apply_keeps happly
      rw [h]
      exact ⟨hkeeps.isMultiKey.trans hs.1,hkeeps.mode.trans hs.2⟩
    · rw [h]
      exact ht
    · rw [h]
      exact hs
  moved {s t} c hs ht := by
    cases hfails : c.fails with
    | true => simp only [keySystem,hfails,if_true,PollsLoaded]
    | false =>
      simp only [keySystem,hfails,Bool.false_eq_true,if_false]
      cases t with
      | load => exact hs
      | poll _ | closed _ => trivial
      | update u =>
        simp only [advanceKey]
        cases u.apply s.row c.now <;> trivial
  other {s t v} c _ _ hv := by
    cases v <;> exact hv

theorem each_idle (hrow : row.Polls) : Each (fun s => s.row.Polls) PollsLoaded (idle row) where
  shared := hrow
  thread t ht := by cases ht

variable {p : Pool KeyStore KeyCall}

section
variable (hp : Each (fun s => s.row.Polls) PollsLoaded p)
include hp

theorem act_noneLost (hnone : NoneLost row p.shared)
    (a : Act KeyOp KeyChoice) : NoneLost row (keySystem.act p a).shared ↔ Meets StepFresh p a := by
  cases a with
  | start o => exact iff_of_true hnone trivial
  | step i c =>
    cases hi : p.threads[i]? with
    | none =>
      rw [System.act_idle hi]
      apply iff_of_true hnone
      intro t ht
      rw [hi] at ht
      cases ht
    | some t =>
      rw [System.act_step hi]
      apply (advance_noneLost hnone (hp.thread t (mem_of_getElem? hi)) c).trans
      constructor
      · intro h u hu
        rw [hi] at hu
        rw [← Option.some.inj hu]
        exact h
      · intro h
        exact h t hi

theorem run_noneLost (hnone : NoneLost row p.shared)
    (acts : List (Act KeyOp KeyChoice)) : (∀ n, NoneLost row (run keySystem.act (acts.take n) p).shared) ↔
      Guarded keySystem.act (Meets StepFresh) acts p := by
  induction acts generalizing p with
  | nil => exact iff_of_true (fun n => by rw [take_nil]; exact hnone) trivial
  | cons a acts ih =>
    have hact := act_noneLost hp hnone a
    constructor
    · intro h
      have hnext : NoneLost row (keySystem.act p a).shared := h 1
      exact ⟨hact.mp hnext,(ih (keySystem_keeps.act hp a) hnext).mp fun n => h (n+1)⟩
    · intro h n
      cases n with
      | zero => exact hnone
      | succ n => exact (ih (keySystem_keeps.act hp a) (hact.mpr h.1)).mpr h.2 n

theorem run_log (acts : List (Act KeyOp KeyChoice)) : ∃ more, (run keySystem.act acts p).shared.log=p.shared.log++more := by
  induction acts generalizing p with
  | nil => exact ⟨[],by rw [run,append_nil]⟩
  | cons a acts ih =>
    obtain ⟨later,hlater⟩ := ih (keySystem_keeps.act hp a)
    have hact : ∃ more, (keySystem.act p a).shared.log=p.shared.log++more := by
      cases a with
      | start o => exact ⟨[],(append_nil _).symm⟩
      | step i c =>
        cases hi : p.threads[i]? with
        | none => exact ⟨[],by rw [System.act_idle hi,append_nil]⟩
        | some t =>
          rw [System.act_step hi]
          exact advance_log (hp.thread t (mem_of_getElem? hi)) c
    obtain ⟨more,hmore⟩ := hact
    exact ⟨more++later,by rw [run,hlater,hmore,append_assoc]⟩

end

/-- At every point of the run, a key that was disabled before is still disabled unless an update committed since has enabled it. -/
def StayDisabled (row : Channel) (acts : List (Act KeyOp KeyChoice)) : Prop :=
  ∀ first rest later, acts=first++rest++later → ∀ index,
    (run keySystem.act first (idle row)).shared.row.channelInfo.keyStatus index≠channelStatusEnabled →
    (∀ entry∈(run keySystem.act (first++rest) (idle row)).shared.log.drop
      (run keySystem.act first (idle row)).shared.log.length, ¬ entry.1.Enables row.keys index) →
    (run keySystem.act (first++rest) (idle row)).shared.row.channelInfo.keyStatus index≠channelStatusEnabled

theorem stayDisabled_of_noneLost (hrow : row.Polls) {acts : List (Act KeyOp KeyChoice)}
    (h : ∀ n, NoneLost row (run keySystem.act (acts.take n) (idle row)).shared) : StayDisabled row acts := by
  intro first rest later hacts index hdisabled hnot
  have hfirst : NoneLost row (run keySystem.act first (idle row)).shared := by
    simpa [hacts] using h first.length
  have hrest : NoneLost row (run keySystem.act (first++rest) (idle row)).shared := by
    have hn := h (first++rest).length
    rwa [hacts,take_left] at hn
  obtain ⟨more,hmore⟩ := run_log (keySystem_keeps.run first (each_idle hrow)) rest
  rw [← run_append] at hmore
  rw [hrest.keyStatus,hmore,replay_append]
  rw [hmore,drop_left] at hnot
  apply replay_disabled
  · intro entry hentry
    rw [replay_keys]
    exact hnot entry hentry
  · rw [← hfirst.keyStatus]
    exact hdisabled

/-- Disabled keys stay disabled until an update enables them, and no update is lost, if and only if every poll saves a
row that was loaded after the last update of it. -/
theorem disabled_keys_stay (row : Channel) (hmulti : row.channelInfo.isMultiKey=true)
    (hmode : row.channelInfo.multiKeyMode=.polling) (acts : List (Act KeyOp KeyChoice)) :
    ((∀ n, NoneLost row (run keySystem.act (acts.take n) (idle row)).shared) ∧ StayDisabled row acts) ↔
      Guarded keySystem.act (Meets StepFresh) acts (idle row) := by
  have hrow : row.Polls := ⟨hmulti,hmode⟩
  have hrun := run_noneLost (each_idle hrow) (SameButCursor.refl row) acts
  constructor
  · rintro ⟨hnone,-⟩
    exact hrun.mp hnone
  · intro h
    have hnone := hrun.mpr h
    exact ⟨hnone,stayDisabled_of_noneLost hrow hnone⟩

def twoKeys : Channel :=
  { id := 7, keys := ["sk-a", "sk-b"], channelInfo := { isMultiKey := true, multiKeyMode := .polling } }

def disableFirst : StatusUpdate := { usingKey := "sk-a", status := channelStatusAutoDisabled, reason := "401", automatic := true }

theorem disabled_key_stays : (run keySystem.act [.start (.update disableFirst),.step 0 {},.start .request,.step 1 {},.step 1 {}]
      (idle twoKeys)).shared.row.channelInfo.keyStatus 0=channelStatusAutoDisabled ∧ ∀ n, NoneLost twoKeys (run keySystem.act
      ([.start (.update disableFirst),.step 0 {},.start .request,.step 1 {},.step 1 {}].take n) (idle twoKeys)).shared := by
  constructor
  · decide +kernel
  apply ((disabled_keys_stay twoKeys rfl rfl _).mpr _).1
  refine ⟨trivial,?_,trivial,?_,?_,trivial⟩
  · rintro t ⟨⟩
    exact .inr trivial
  · rintro t ⟨⟩
    exact .inr trivial
  · rintro t ⟨⟩
    right
    intro _
    exact ⟨0,rfl⟩

def lateRun : List (Act KeyOp KeyChoice) :=
  [.start .request,.step 0 {},.start (.update disableFirst),.step 1 {},.step 0 {}]

theorem late_poll_enables :
    (run keySystem.act (lateRun.take 4) (idle twoKeys)).shared.row.channelInfo.keyStatus 0=channelStatusAutoDisabled ∧
    (run keySystem.act lateRun (idle twoKeys)).shared.row.channelInfo.keyStatus 0=channelStatusEnabled ∧
    (run keySystem.act lateRun (idle twoKeys)).shared.log=[(disableFirst,0)] ∧ ¬ StayDisabled twoKeys lateRun := by
  refine ⟨by decide +kernel,by decide +kernel,by decide +kernel,?_⟩
  intro h
  have hlog : (run keySystem.act (lateRun.take 4++lateRun.drop 4) (idle twoKeys)).shared.log.drop
      (run keySystem.act (lateRun.take 4) (idle twoKeys)).shared.log.length=[] := by decide +kernel
  apply h (lateRun.take 4) (lateRun.drop 4) [] rfl 0 (by decide +kernel)
  · rw [hlog]
    exact fun _ => nofun
  · decide +kernel

end Polling

end NewApi.Channels
