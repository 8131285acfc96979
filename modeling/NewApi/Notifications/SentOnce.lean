import NewApi.Notifications.Attempts

/-! No notification is sent twice, whatever the dispatchers and administrators do in which order. -/
namespace NewApi.Notifications
open Bool List Keyed Programs Holdings Threads Runs

def DeliveryEvent.starts (id : Int) : DeliveryEvent → Bool
  | .started id' _ => id'=id
  | _ => false

open DeliveryEvent (starts answered reported)
variable {log : List DeliveryEvent}

def attempts (log : List DeliveryEvent) (id : Int) : Int := log.countP (starts id)

/-- The message of an attempt was rejected for now, and the rejection was reported. -/
def Settled (log : List DeliveryEvent) (id attempt : Int) : Prop :=
  .answered id attempt .rejected∈log ∧ .reported id attempt∈log

/-- Before an event: what must have happened to its delivery. -/
def Permitted (before : List DeliveryEvent) : DeliveryEvent → Prop
  | .started id n => n=attempts before id+1
  | .posted id n => .started id n∈before ∧ n≤attempts before id ∧ .posted id n∉before ∧
      ∀ m, .posted id m∈before → Settled before id m
  | .answered id n _ => .posted id n∈before ∧ ∀ o, .answered id n o∉before
  | .reported id n => .answered id n .rejected∈before

inductive Orderly : List DeliveryEvent → Prop
  | nil : Orderly []
  | snoc {log : List DeliveryEvent} {e : DeliveryEvent} (h : Orderly log) (he : Permitted log e) : Orderly (log++[e])

theorem Orderly.split (h : Orderly log) : ∀ {before e after}, log=before++e::after →
    Orderly before ∧ Permitted before e := by
  induction h with
  | nil => exact fun heq => absurd heq (by simp)
  | @snoc log e' h he ih =>
    intro before e after heq
    rcases eq_nil_or_concat after with rfl | ⟨rest,last,rfl⟩
    · obtain ⟨rfl,hlast⟩ := append_inj' heq rfl
      rw [← (List.cons.inj hlast).1]
      exact ⟨h,he⟩
    · rw [concat_eq_append,← cons_append,← append_assoc] at heq
      exact ih (append_inj' heq rfl).1

theorem attempts_append (log : List DeliveryEvent) (e : DeliveryEvent) (id : Int) :
    attempts (log++[e]) id=attempts log id + if e.starts id then 1 else 0 := by
  rw [attempts,attempts,countP_append,countP_singleton]
  split <;> omega

theorem Settled.append {id m : Int} (h : Settled log id m) (e : DeliveryEvent) :
    Settled (log++[e]) id m := ⟨mem_append_left _ h.1,mem_append_left _ h.2⟩

theorem Orderly.posted_le (h : Orderly log) {id m : Int} (hm : .posted id m∈log) :
    m≤attempts log id := by
  induction h with
  | nil => cases hm
  | @snoc log e h he ih =>
    rw [attempts_append]
    obtain hm | hm := mem_append.mp hm
    · have := ih hm
      split <;> omega
    · rw [← mem_singleton.mp hm] at he ⊢
      have := he.2.1
      split <;> omega

theorem Orderly.posted_of_answered (h : Orderly log) {id m : Int} {o : SendOutcome}
    (hm : .answered id m o∈log) : .posted id m∈log := by
  induction h with
  | nil => cases hm
  | @snoc log e h he ih =>
    obtain hm | hm := mem_append.mp hm
    · exact mem_append_left _ (ih hm)
    rw [← mem_singleton.mp hm] at he
    exact mem_append_left _ he.1

theorem Orderly.answer_unique (h : Orderly log) {id m : Int} {o o' : SendOutcome}
    (ho : .answered id m o∈log) (ho' : .answered id m o'∈log) : o=o' := by
  induction h with
  | nil => cases ho
  | @snoc log e h he ih =>
    obtain ho | ho := mem_append.mp ho
    · obtain ho' | ho' := mem_append.mp ho'
      · exact ih ho ho'
      rw [← mem_singleton.mp ho'] at he
      exact absurd ho (he.2 o)
    · obtain ho' | ho' := mem_append.mp ho'
      · rw [← mem_singleton.mp ho] at he
        exact absurd ho' (he.2 o')
      · have := (mem_singleton.mp ho).trans (mem_singleton.mp ho').symm
        exact (DeliveryEvent.answered.inj this).2.2

/-- The invariant of the deliveries with the record of their attempts. -/
structure DispatchState.Sound (s : DispatchState) : Prop where
  ids : Keyed.Unique NotificationDelivery.id s.db.deliveries
  id_lt : ∀ d∈s.db.deliveries, d.id<s.db.nextDeliveryId
  unborn : ∀ id, s.db.nextDeliveryId ≤ id → attempts s.log id=0 ∧ ∀ m, .posted id m∉s.log
  orderly : Orderly s.log
  counted : ∀ d∈s.db.deliveries, d.attemptCount=attempts s.log d.id
  bounded : ∀ id, attempts s.log id≤notificationMaxAttempts
  unsent : ∀ d∈s.db.deliveries, d.status.unsent=true →
    attempts s.log d.id<notificationMaxAttempts ∧ ∀ m, .posted d.id m∈s.log → Settled s.log d.id m
  earlier : ∀ id m, .posted id m∈s.log → m<attempts s.log id → Settled s.log id m

open DispatchState (Sound)
variable {d d' : NotificationDelivery}

inductive SendPhase where
  | fresh | posted | rejected | over

structure Sender where
  id : Int
  attempt : Int
  phase : SendPhase

structure Sender.Valid (h : Sender) (s : DispatchState) : Prop where
  id_lt : h.id<s.db.nextDeliveryId
  current : attempts s.log h.id=h.attempt
  busy : ∀ d∈s.db.deliveries, d.id=h.id → d.status=.sending ∨ d.status.terminal=true
  phase : match h.phase with
    | .fresh => .started h.id h.attempt∈s.log ∧ .posted h.id h.attempt∉s.log
    | .posted => .posted h.id h.attempt∈s.log ∧ ∀ o, .answered h.id h.attempt o∉s.log
    | .rejected => .answered h.id h.attempt .rejected∈s.log
    | .over => True

def Holds (h : Option Sender) (s : DispatchState) : Prop := ∀ sender∈h, sender.Valid s

def Distinct (h k : Option Sender) : Prop := ∀ a∈h, ∀ b∈k, a.id≠b.id

structure Absorbs (s s' : DispatchState) : Prop where
  next_le : s.db.nextDeliveryId ≤ s'.db.nextDeliveryId
  rows : ∀ d'∈s'.db.deliveries, (∃ d∈s.db.deliveries, d.id=d'.id ∧ (d.status.terminal=true → d'.status=d.status)) ∨
    s.db.nextDeliveryId≤d'.id

theorem Absorbs.refl (s : DispatchState) : Absorbs s s := ⟨le_rfl,fun d hd => .inl ⟨d,hd,rfl,fun _ => rfl⟩⟩

theorem Absorbs.trans {a b c : DispatchState} (hab : Absorbs a b) (hbc : Absorbs b c) : Absorbs a c := by
  refine ⟨hab.next_le.trans hbc.next_le,fun d'' hd'' => ?_⟩
  rcases hbc.rows d'' hd'' with ⟨d',hd',hid,hkeep⟩ | hle
  · rcases hab.rows d' hd' with ⟨d,hd,hid',hkeep'⟩ | hle
    · refine .inl ⟨d,hd,hid'.trans hid,fun hterminal => ?_⟩
      have hsame := hkeep' hterminal
      rw [hkeep (hsame ▸ hterminal),hsame]
    · exact .inr (hid ▸ hle)
  · exact .inr (hab.next_le.trans hle)

theorem DeliveryStatus.not_unsent_of_terminal {status : DeliveryStatus} (h : status.terminal=true) : status.unsent=false := by
  cases status <;> first | rfl | cases h

theorem Moves.keeps (h : Moves d d') (hterminal : d.status.terminal=true) :
    d'.status=d.status := by
  rcases h.status with hsame | ⟨hunsent,-⟩ | ⟨hsending,-⟩
  · exact hsame
  · rw [DeliveryStatus.not_unsent_of_terminal hterminal] at hunsent
    cases hunsent
  · rw [hsending] at hterminal
    cases hterminal

theorem Moves.unsent (h : Moves d d') (hunsent : d'.status.unsent=true) :
    d.status.unsent=true := by
  rcases h.status with hsame | ⟨hunsent',-⟩ | ⟨-,hterminal⟩
  · rwa [hsame] at hunsent
  · exact hunsent'
  rw [DeliveryStatus.not_unsent_of_terminal hterminal] at hunsent
  cases hunsent

theorem Moves.busy (h : Moves d d') (hbusy : d.status=.sending ∨ d.status.terminal=true) :
    d'.status=.sending ∨ d'.status.terminal=true := by
  rcases h.status with hsame | ⟨hunsent,-⟩ | ⟨-,hterminal⟩
  · rwa [hsame]
  · rcases hbusy with hsending | hterminal
    · rw [hsending] at hunsent
      cases hunsent
    · rw [DeliveryStatus.not_unsent_of_terminal hterminal] at hunsent
      cases hunsent
  · exact .inr hterminal

section Quiet
variable {s s' : DispatchState} (hlog : s'.log=s.log) (hquiet : Quiet s.db s'.db)
include hlog hquiet

theorem Quiet.sound (hs : s.Sound) : s'.Sound := by
  obtain ⟨hids,hlt⟩ := hquiet.ids hs.ids hs.id_lt
  refine ⟨hids,hlt,?_,hlog ▸ hs.orderly,?_,hlog ▸ hs.bounded,?_,hlog ▸ hs.earlier⟩
  · exact fun id hid => hlog ▸ hs.unborn id (hquiet.next_le.trans hid)
  · intro d' hd'
    rw [hlog]
    rcases hquiet.rows d' hd' with ⟨d,hd,hmoves⟩ | ⟨hnew,-,hzero⟩
    · rw [hmoves.id,hmoves.attemptCount]
      exact hs.counted d hd
    · rw [hzero,(hs.unborn d'.id hnew).1]
  · intro d' hd' hunsent
    rw [hlog]
    rcases hquiet.rows d' hd' with ⟨d,hd,hmoves⟩ | ⟨hnew,-,-⟩
    · rw [hmoves.id]
      exact hs.unsent d hd (hmoves.unsent hunsent)
    · obtain ⟨hzero,hnone⟩ := hs.unborn d'.id hnew
      rw [hzero]
      exact ⟨by decide,fun m hm => absurd hm (hnone m)⟩

theorem Quiet.valid {h : Sender} (hvalid : h.Valid s) : h.Valid s' := by
  refine ⟨hvalid.id_lt.trans_le hquiet.next_le,hlog ▸ hvalid.current,?_,hlog ▸ hvalid.phase⟩
  intro d' hd' hid
  rcases hquiet.rows d' hd' with ⟨d,hd,hmoves⟩ | ⟨hnew,-⟩
  · exact hmoves.busy (hvalid.busy d hd (hmoves.id ▸ hid))
  have := hvalid.id_lt
  omega

omit hlog in
theorem Quiet.absorbs : Absorbs s s' := by
  refine ⟨hquiet.next_le,fun d' hd' => ?_⟩
  rcases hquiet.rows d' hd' with ⟨d,hd,hmoves⟩ | ⟨hnew,-⟩
  · exact .inl ⟨d,hd,hmoves.id.symm,hmoves.keeps⟩
  · exact .inr hnew

theorem Quiet.passes (hs : s.Sound) {h : Option Sender} (hh : Holds h s) :
    Passes Sound Absorbs Holds Distinct h h s s' where
  inv := hquiet.sound hlog hs
  le := hquiet.absorbs
  know sender hsender := hquiet.valid hlog (hh sender hsender)
  frame _ hk hapart := ⟨fun sender hsender => hquiet.valid hlog (hk sender hsender),hapart⟩

end Quiet

def DeliveryEvent.id : DeliveryEvent → Int
  | .started id _ | .posted id _ | .answered id _ _ | .reported id _ => id

theorem starts_of_ne {e : DeliveryEvent} {id : Int} (h : e.id≠id) : e.starts id=false := by
  cases e <;> simp_all [starts,DeliveryEvent.id]

theorem mem_record {log : List DeliveryEvent} {e e' : DeliveryEvent} (h : e.id≠e'.id) : e'∈log++[e] ↔ e'∈log := by
  rw [mem_append,mem_singleton]
  exact ⟨fun hm => hm.resolve_right fun heq => h (heq ▸ rfl),.inl⟩

theorem Sender.Valid.other {s s' : DispatchState} {h : Sender} (hvalid : h.Valid s) {e : DeliveryEvent} (he : e.id≠h.id)
    (hnext : s'.db.nextDeliveryId=s.db.nextDeliveryId) (hlog : s'.log=s.log++[e])
    (hrows : ∀ d'∈s'.db.deliveries, d'.id=h.id → d'∈s.db.deliveries) : h.Valid s' := by
  refine ⟨hnext ▸ hvalid.id_lt,?_,fun d' hd' hid => hvalid.busy d' (hrows d' hd' hid) hid,?_⟩
  · rw [hlog,attempts_append,if_neg (by simp [starts_of_ne he]),add_zero]
    exact hvalid.current
  · have hphase := hvalid.phase
    rw [hlog]
    cases hp : h.phase with
    | fresh =>
      rw [hp] at hphase
      exact ⟨(mem_record he).mpr hphase.1,fun hm => hphase.2 ((mem_record he).mp hm)⟩
    | posted =>
      rw [hp] at hphase
      exact ⟨(mem_record he).mpr hphase.1,fun o hm => hphase.2 o ((mem_record he).mp hm)⟩
    | rejected =>
      rw [hp] at hphase
      exact (mem_record he).mpr hphase
    | _ => trivial

theorem DispatchState.Sound.recorded {s s' : DispatchState} (hs : s.Sound) {e : DeliveryEvent} (he : Permitted s.log e)
    (hstarts : ∀ id, e.starts id=false) (hlog : s'.log=s.log++[e]) (hnext : s'.db.nextDeliveryId=s.db.nextDeliveryId)
    (hids : Keyed.Unique NotificationDelivery.id s'.db.deliveries) (hlt : e.id<s.db.nextDeliveryId)
    (hrows : ∀ d'∈s'.db.deliveries, ∃ d∈s.db.deliveries, d'.id=d.id ∧ d'.attemptCount=d.attemptCount)
    (hunsent : ∀ d'∈s'.db.deliveries, d'.status.unsent=true → attempts s.log d'.id<notificationMaxAttempts ∧
      ∀ m, .posted d'.id m∈s.log++[e] → Settled (s.log++[e]) d'.id m)
    (hearlier : ∀ id m, e=.posted id m → attempts s.log id ≤ m) : s'.Sound := by
  have hsame : ∀ id, attempts s'.log id=attempts s.log id := fun id => by
    rw [hlog,attempts_append,hstarts id]
    simp
  refine ⟨hids,?_,?_,hlog ▸ hs.orderly.snoc he,?_,fun id => hsame id ▸ hs.bounded id,?_,?_⟩
  · intro d' hd'
    obtain ⟨d,hd,hid,-⟩ := hrows d' hd'
    rw [hid,hnext]
    exact hs.id_lt d hd
  · intro id hid
    rw [hnext] at hid
    obtain ⟨hzero,hnone⟩ := hs.unborn id hid
    refine ⟨(hsame id).trans hzero,fun m hm => hnone m ?_⟩
    rw [hlog] at hm
    refine (mem_record ?_).mp hm
    show e.id≠id
    omega
  · intro d' hd'
    obtain ⟨d,hd,hid,hcount⟩ := hrows d' hd'
    rw [hcount,hsame,hid]
    exact hs.counted d hd
  · intro d' hd' hu
    rw [hsame,hlog]
    exact hunsent d' hd' hu
  · intro id m hm hlt'
    rw [hsame] at hlt'
    rw [hlog] at hm ⊢
    obtain hm | hm := mem_append.mp hm
    · exact (hs.earlier id m hm hlt').append e
    have := hearlier id m (mem_singleton.mp hm).symm
    omega

section Steps
variable (lower : String → String) {s : DispatchState} (hs : s.Sound) (c : DispatchChoice) {id n : Int}
include hs

theorem post_passes (hh : Holds (some ⟨id,n,.fresh⟩) s) :
    Passes Sound Absorbs Holds Distinct (some ⟨id,n,.fresh⟩) (some ⟨id,n,.posted⟩) s
      (dispatchExec lower s c (.post id n)).1 := by
  have hvalid := hh _ rfl
  obtain ⟨hstarted,hfresh⟩ := hvalid.phase
  have hcurrent : attempts s.log id=n := hvalid.current
  have hpermitted : Permitted s.log (.posted id n) := by
    refine ⟨hstarted,hcurrent.ge,hfresh,fun m hm => hs.earlier id m hm ?_⟩
    have hle := hs.orderly.posted_le hm
    have hne : m≠n := fun heq => hfresh (heq ▸ hm)
    omega
  refine ⟨?_,?_,?_,?_⟩
  · refine hs.recorded hpermitted (fun _ => rfl) rfl rfl hs.ids hvalid.id_lt (fun d hd => ⟨d,hd,rfl,rfl⟩) ?_ ?_
    · intro d hd hunsent
      obtain ⟨hlt,hsettled⟩ := hs.unsent d hd hunsent
      refine ⟨hlt,fun m hm => ?_⟩
      have hid : d.id≠id := by
        intro heq
        rcases hvalid.busy d hd heq with hsending | hterminal
        · rw [hsending] at hunsent
          cases hunsent
        · rw [DeliveryStatus.not_unsent_of_terminal hterminal] at hunsent
          cases hunsent
      have hother : (DeliveryEvent.posted id n).id≠(DeliveryEvent.posted d.id m).id := fun heq => hid heq.symm
      exact (hsettled m ((mem_record hother).mp hm)).append _
    · rintro id' m ⟨⟩
      exact hcurrent.le
  · exact ⟨le_rfl,fun d hd => .inl ⟨d,hd,rfl,fun _ => rfl⟩⟩
  · rintro _ ⟨⟩
    refine ⟨hvalid.id_lt,?_,hvalid.busy,mem_append_right _ mem_cons_self,fun o hm => ?_⟩
    · exact (attempts_append s.log (.posted id n) id).trans (by simp [starts,hcurrent])
    obtain hm | hm := mem_append.mp hm
    · exact hfresh (hs.orderly.posted_of_answered hm)
    · cases mem_singleton.mp hm
  · intro k hk hapart
    refine ⟨fun b hb => (hk b hb).other (e := .posted id n) (hapart _ rfl b hb) rfl rfl fun d hd _ => hd,?_⟩
    rintro _ ⟨⟩ b hb
    exact hapart _ rfl b hb

def SendOutcome.phase : SendOutcome → SendPhase
  | .rejected => .rejected
  | _ => .over

theorem receive_passes (hh : Holds (some ⟨id,n,.posted⟩) s) :
    Passes Sound Absorbs Holds Distinct (some ⟨id,n,.posted⟩) (some ⟨id,n,c.answer.outcome.phase⟩) s
      (dispatchExec lower s c (.receive id n)).1 := by
  have hvalid := hh _ rfl
  obtain ⟨hposted,hnone⟩ := hvalid.phase
  have hcurrent : attempts s.log id=n := hvalid.current
  have hmem : ∀ id' m, .posted id' m∈s.log++[answered id n c.answer.outcome] → .posted id' m∈s.log := by
    intro id' m hm
    obtain hm | hm := mem_append.mp hm
    · exact hm
    · cases mem_singleton.mp hm
  refine ⟨?_,?_,?_,?_⟩
  · refine hs.recorded (e := .answered id n c.answer.outcome) ⟨hposted,hnone⟩ (fun _ => rfl) rfl rfl hs.ids hvalid.id_lt
      (fun d hd => ⟨d,hd,rfl,rfl⟩) ?_ ?_
    · intro d hd hunsent
      obtain ⟨hlt,hsettled⟩ := hs.unsent d hd hunsent
      exact ⟨hlt,fun m hm => (hsettled m (hmem d.id m hm)).append _⟩
    · rintro id' m ⟨⟩
  · exact ⟨le_rfl,fun d hd => .inl ⟨d,hd,rfl,fun _ => rfl⟩⟩
  · rintro _ ⟨⟩
    refine ⟨hvalid.id_lt,?_,hvalid.busy,?_⟩
    · exact (attempts_append s.log (.answered id n c.answer.outcome) id).trans (by simp [starts,hcurrent])
    cases ho : c.answer.outcome with
    | accepted | unknown => trivial
    | rejected =>
      show answered id n .rejected∈s.log++[answered id n c.answer.outcome]
      rw [ho]
      exact mem_append_right _ mem_cons_self
  · intro k hk hapart
    refine ⟨fun b hb => (hk b hb).other (e := .answered id n c.answer.outcome) (hapart _ rfl b hb) rfl rfl fun d hd _ => hd,?_⟩
    rintro _ ⟨⟩ b hb
    exact hapart _ rfl b hb

theorem retry_passes (hh : Holds (some ⟨id,n,.rejected⟩) s) (hn : n<notificationMaxAttempts) (nextAttemptAt now : Int) :
    ∃ h', Passes Sound Absorbs Holds Distinct (some ⟨id,n,.rejected⟩) h' s
      (dispatchExec lower s c (.retry id n nextAttemptAt now)).1 := by
  have hvalid := hh _ rfl
  have hrejected : .answered id n .rejected∈s.log := hvalid.phase
  have hcurrent : attempts s.log id=n := hvalid.current
  have hidle : Passes Sound Absorbs Holds Distinct (some ⟨id,n,.rejected⟩) (some ⟨id,n,.rejected⟩) s s :=
    Quiet.passes rfl (.refl s.db) hs hh
  rw [dispatchExec]
  split
  · exact ⟨_,hidle⟩
  split
  swap
  · exact ⟨_,hidle⟩
  refine ⟨none,?_,?_,by simp [Holds],?_⟩
  · have hmem : ∀ id' m, .posted id' m∈s.log++[reported id n] → .posted id' m∈s.log := by
      intro id' m hm
      obtain hm | hm := mem_append.mp hm
      · exact hm
      · cases mem_singleton.mp hm
    refine hs.recorded (e := .reported id n) hrejected (fun _ => rfl) rfl rfl ?_ hvalid.id_lt ?_ ?_ ?_
    · refine (updateDeliveries_ids ?_ hs.ids hs.id_lt).1
      exact fun d => rfl
    · intro d' hd'
      obtain ⟨d,hd,⟨-,rfl⟩ | ⟨-,rfl⟩⟩ := mem_updateDeliveries hd'
      · exact ⟨d,hd,rfl,rfl⟩
      · exact ⟨d',hd,rfl,rfl⟩
    · intro d' hd' hunsent
      obtain ⟨d,hd,⟨hsel,rfl⟩ | ⟨-,rfl⟩⟩ := mem_updateDeliveries hd'
      · have hid : d.id=id := of_decide_eq_true (and_eq_true_iff.mp hsel).1
        show attempts s.log d.id<_ ∧ ∀ m, DeliveryEvent.posted d.id m∈_ → Settled _ d.id m
        rw [hid,hcurrent]
        refine ⟨hn,fun m hm => ?_⟩
        have hm := hmem id m hm
        have hle := hs.orderly.posted_le hm
        by_cases hmn : m=n
        · rw [hmn]
          exact ⟨mem_append_left _ hrejected,mem_append_right _ mem_cons_self⟩
        · exact (hs.earlier id m hm (by omega)).append _
      · obtain ⟨hlt,hsettled⟩ := hs.unsent d' hd hunsent
        exact ⟨hlt,fun m hm => (hsettled m (hmem d'.id m hm)).append _⟩
    · rintro id' m ⟨⟩
  · refine ⟨le_rfl,fun d' hd' => ?_⟩
    obtain ⟨d,hd,⟨hsel,rfl⟩ | ⟨-,rfl⟩⟩ := mem_updateDeliveries hd'
    · refine .inl ⟨d,hd,rfl,fun hterminal => ?_⟩
      have hsending : d.status∈[DeliveryStatus.sending] := of_decide_eq_true (and_eq_true_iff.mp hsel).2
      rw [mem_singleton.mp hsending] at hterminal
      cases hterminal
    · exact .inl ⟨d',hd,rfl,fun _ => rfl⟩
  · intro k hk hapart
    refine ⟨fun b hb => (hk b hb).other (e := .reported id n) (hapart _ rfl b hb) rfl rfl fun d' hd' hid => ?_,by simp [Distinct]⟩
    obtain ⟨d,hd,⟨hsel,rfl⟩ | ⟨-,rfl⟩⟩ := mem_updateDeliveries hd'
    · have hsame : d.id=id := of_decide_eq_true (and_eq_true_iff.mp hsel).1
      exact absurd (hsame.symm.trans hid) (hapart _ rfl b hb)
    · exact hd

theorem start_passes (startedAt : Int) :
    ∀ r, dispatchExec lower s c (.start id startedAt)=r → (r.1=s ∧ ∃ e, r.2=.error e) ∨
      ∃ n, r.2=.ok n ∧ ∀ h, Passes Sound Absorbs Holds Distinct h (some ⟨id,n,.fresh⟩) s r.1 := by
  rintro _ rfl
  rw [dispatchExec]
  split
  · exact .inl ⟨rfl,_,rfl⟩
  split
  · exact .inl ⟨rfl,_,rfl⟩
  next started hfind =>
  split
  swap
  · exact .inl ⟨rfl,_,rfl⟩
  next hany =>
  right
  obtain ⟨d,hd,hsel⟩ := any_eq_true.mp hany
  have hid : d.id=id := of_decide_eq_true (and_eq_true_iff.mp hsel).1
  have hclaimed : d.status=.claimed := mem_singleton.mp (of_decide_eq_true (and_eq_true_iff.mp hsel).2)
  have honly : ∀ d'∈s.db.deliveries, d'.id=id → d'=d := by
    intro d' hd' hid'
    have hlookup := lookup_of_mem hs.ids hd'
    rw [hid',← hid,lookup_of_mem hs.ids hd,Option.some.injEq] at hlookup
    exact hlookup.symm
  obtain ⟨hlt,hsettled⟩ := hs.unsent d hd (by rw [hclaimed]; rfl)
  rw [hid] at hlt hsettled
  have hcount : started.attemptCount=attempts s.log id+1 := by
    have hmem := mem_of_find?_eq_some hfind
    have hstarted : started.id=id := by simpa using find?_some hfind
    obtain ⟨d',hd',⟨-,rfl⟩ | ⟨hnot,rfl⟩⟩ := mem_updateDeliveries hmem
    · have hsame := honly d' hd' hstarted
      rw [hsame,← hid,← hs.counted d hd]
    · rw [honly _ hd' hstarted,hsel] at hnot
      cases hnot
  refine ⟨started.attemptCount,rfl,fun h => ?_⟩
  have hattempts : ∀ id', attempts (s.log++[.started id started.attemptCount]) id' =
      attempts s.log id' + if id'=id then 1 else 0 := by
    intro id'
    rw [attempts_append]
    by_cases heq : id'=id
    · simp [starts,heq]
    · simp [starts,heq,Ne.symm heq]
  have hposted : ∀ id' m, .posted id' m∈s.log++[DeliveryEvent.started id started.attemptCount] → .posted id' m∈s.log := by
    intro id' m hm
    obtain hm | hm := mem_append.mp hm
    · exact hm
    · cases mem_singleton.mp hm
  have hidlt : id<s.db.nextDeliveryId := hid ▸ hs.id_lt d hd
  refine ⟨?_,?_,?_,?_⟩
  · obtain ⟨hids,hlts⟩ : Keyed.Unique NotificationDelivery.id (s.db.startSending id startedAt).deliveries ∧
        ∀ d∈(s.db.startSending id startedAt).deliveries, d.id<s.db.nextDeliveryId := by
      refine updateDeliveries_ids ?_ hs.ids hs.id_lt
      exact fun d => rfl
    refine ⟨hids,hlts,?_,hs.orderly.snoc hcount,?_,?_,?_,?_⟩
    · intro id' hle
      obtain ⟨hzero,hnone⟩ := hs.unborn id' hle
      have hne : id'≠id := fun heq => absurd (heq ▸ hle) (not_le.mpr hidlt)
      refine ⟨(hattempts id').trans (by simp [hzero,hne]),fun m hm => hnone m (hposted id' m hm)⟩
    · intro d' hd'
      refine Eq.trans ?_ (hattempts d'.id).symm
      obtain ⟨x,hx,⟨hxsel,rfl⟩ | ⟨hxsel,rfl⟩⟩ := mem_updateDeliveries hd'
      · have hxid : x.id=id := of_decide_eq_true (and_eq_true_iff.mp hxsel).1
        show x.attemptCount+1=attempts s.log x.id + if x.id=id then 1 else 0
        rw [hs.counted x hx,if_pos hxid]
      · have hne : d'.id≠id := fun heq => by
          rw [honly d' hx heq,hsel] at hxsel
          cases hxsel
        rw [hs.counted d' hx,if_neg hne,add_zero]
    · intro id'
      refine (hattempts id').trans_le ?_
      have hbound := hs.bounded id'
      split
      next heq =>
        rw [heq]
        omega
      next => omega
    · intro d' hd' hunsent
      obtain ⟨x,hx,⟨-,rfl⟩ | ⟨hxsel,rfl⟩⟩ := mem_updateDeliveries hd'
      · cases hunsent
      have hne : d'.id≠id := fun heq => by
        rw [honly d' hx heq,hsel] at hxsel
        cases hxsel
      obtain ⟨hlt',hsettled'⟩ := hs.unsent d' hx hunsent
      refine ⟨(hattempts d'.id).trans_lt (by rw [if_neg hne]; omega),fun m hm => ?_⟩
      exact (hsettled' m (hposted d'.id m hm)).append _
    · intro id' m hm hlt'
      have hm := hposted id' m hm
      have hlt' := hlt'.trans_eq (hattempts id')
      by_cases heq : id'=id
      · rw [heq] at hm ⊢
        exact (hsettled m hm).append _
      · rw [if_neg heq,add_zero] at hlt'
        exact (hs.earlier id' m hm hlt').append _
  · refine ⟨le_rfl,fun d' hd' => ?_⟩
    obtain ⟨x,hx,⟨hxsel,rfl⟩ | ⟨-,rfl⟩⟩ := mem_updateDeliveries hd'
    · refine .inl ⟨x,hx,rfl,fun hterminal => ?_⟩
      have hxclaimed : x.status∈[DeliveryStatus.claimed] := of_decide_eq_true (and_eq_true_iff.mp hxsel).2
      rw [mem_singleton.mp hxclaimed] at hterminal
      cases hterminal
    · exact .inl ⟨d',hx,rfl,fun _ => rfl⟩
  · rintro _ ⟨⟩
    refine ⟨hidlt,?_,?_,mem_append_right _ mem_cons_self,fun hm => ?_⟩
    · exact (hattempts id).trans (by rw [if_pos rfl,hcount])
    · intro d' hd' hid'
      obtain ⟨x,hx,⟨-,rfl⟩ | ⟨hxsel,rfl⟩⟩ := mem_updateDeliveries hd'
      · exact .inl rfl
      rw [honly _ hx hid',hsel] at hxsel
      cases hxsel
    · have hle : started.attemptCount≤attempts s.log id := hs.orderly.posted_le (hposted id _ hm)
      omega
  · intro k hk _
    have hne : ∀ b∈k, id≠b.id := by
      intro b hb heq
      rcases (hk b hb).busy d hd (hid.trans heq) with hsending | hterminal
      · rw [hclaimed] at hsending
        cases hsending
      · rw [hclaimed] at hterminal
        cases hterminal
    refine ⟨fun b hb => (hk b hb).other (e := .started id started.attemptCount) (hne b hb) rfl rfl fun d' hd' hid' => ?_,?_⟩
    · obtain ⟨x,hx,⟨hxsel,rfl⟩ | ⟨-,rfl⟩⟩ := mem_updateDeliveries hd'
      · have hxid : x.id=id := of_decide_eq_true (and_eq_true_iff.mp hxsel).1
        exact absurd (hxid.symm.trans hid') (hne b hb)
      · exact hx
    · rintro _ ⟨⟩ b hb
      exact hne b hb

end Steps

section Programs
variable (lower : String → String) (config : DispatchConfig)

abbrev Fair (h : Option Sender) (code : Code) : Prop :=
  Owns Sound Absorbs Holds Distinct (dispatchExec lower) (fun _ _ _ => True) code h

variable {lower}

theorem Fair.quiet {op : DispatchOp} (hop : op.quiet=true) {next : DispatchAns op → Code} {h : Option Sender}
    (hnext : ∀ answer, Fair lower h (next answer)) : Fair lower h (.call op next) := by
  intro s c hs hh _
  obtain ⟨hlog,hquiet⟩ := exec_quiet lower s c hop
  exact ⟨h,hquiet.passes hlog hs hh,hnext _⟩

open Fair

theorem Fair.any {code : Code} (hcode : Fair lower none code) (h : Option Sender) : Fair lower h code :=
  hcode.drop (fun _ _ => nofun) (fun _ => nofun) h

theorem orNow_fair {time : Int} {next : Int → Code} {h : Option Sender} (hnext : ∀ t, Fair lower h (next t)) :
    Fair lower h (orNow time next) := by
  rw [orNow]
  split
  · exact quiet rfl hnext
  · exact hnext time

theorem releaseClaim_fair {id at' : Int} {next : Except StatementError Unit → Code} {h : Option Sender}
    (hnext : ∀ r, Fair lower h (next r)) : Fair lower h (releaseNotificationDeliveryClaim id at' next) :=
  quiet rfl fun _ => quiet rfl hnext

theorem markTerminal_fair {id now : Int} {ending : Ending} {next : Except StatementError Unit → Code} {h : Option Sender}
    (hnext : ∀ r, Fair lower h (next r)) : Fair lower h (markNotificationDeliveryTerminal id ending now next) :=
  quiet rfl fun
    | .error e => hnext (.error e)
    | .ok _ => quiet rfl hnext

theorem markDead_fair {id : Int} {next : Except StatementError Unit → Code} {h : Option Sender}
    (hnext : ∀ r, Fair lower h (next r)) : Fair lower h (markNotificationDeliveryDead id next) :=
  quiet rfl fun _ => markTerminal_fair hnext

theorem markCanceled_fair {id : Int} {next : Except StatementError Unit → Code} {h : Option Sender}
    (hnext : ∀ r, Fair lower h (next r)) : Fair lower h (markNotificationDeliveryCanceled id next) :=
  quiet rfl fun _ => markTerminal_fair hnext

theorem markSuccess_fair {id sentAt : Int} {next : Except StatementError Unit → Code} {h : Option Sender}
    (hnext : ∀ r, Fair lower h (next r)) : Fair lower h (markNotificationDeliverySuccess id sentAt next) :=
  orNow_fair fun _ => markTerminal_fair hnext

theorem endStaleSending_fair {next : Bool → Code} (hnext : ∀ b, Fair lower none (next b)) (ids : List Int) :
    Fair lower none (endStaleSending next ids) := by
  induction ids with
  | nil => exact hnext true
  | cons id rest ih =>
    refine markDead_fair fun r => ?_
    split
    · exact ih
    · exact ih
    · exact hnext false

theorem loadWork_fair {id : Int} {next : Except StatementError NotificationDeliveryWork → Code}
    (hnext : ∀ r, Fair lower none (next r)) : Fair lower none (loadWork id next) := by
  refine quiet rfl fun delivery => ?_
  split
  · exact hnext _
  refine quiet rfl fun event => ?_
  split
  · exact hnext _
  refine quiet rfl fun task => ?_
  split
  · exact hnext _
  refine quiet rfl fun target => ?_
  split
  · exact hnext _
  refine quiet rfl fun bot => ?_
  split
  · exact hnext _
  · exact hnext _

theorem claimCandidates_fair {now : Int} {next : List NotificationDeliveryWork → Bool → Code}
    (hnext : ∀ works failed, Fair lower none (next works failed)) (candidates : List NotificationDelivery)
    (hwaiting : ∀ d∈candidates, d.status.waiting=true) (claimed : List NotificationDeliveryWork) (failed : Bool) :
    Fair lower none (claimCandidates now next claimed failed candidates) := by
  induction candidates generalizing claimed failed with
  | nil => exact hnext claimed failed
  | cons candidate rest ih =>
    have ih := ih fun d hd => hwaiting d (mem_cons_of_mem _ hd)
    have hquiet : (DispatchOp.claim candidate now).quiet=true := hwaiting candidate mem_cons_self
    refine quiet hquiet fun answer => ?_
    split
    · exact ih claimed true
    · exact ih claimed failed
    refine loadWork_fair fun r => ?_
    split
    · exact ih _ failed
    · exact markDead_fair fun _ => ih claimed true
    · exact releaseClaim_fair fun _ => ih claimed true

theorem claimWaiting_fair {limit : Nat} {now : Int} {next : List NotificationDeliveryWork → Bool → Code}
    (hnext : ∀ works failed, Fair lower none (next works failed)) : Fair lower none (claimWaiting limit now next) := by
  intro s c hs hh _
  refine ⟨none,Quiet.passes rfl (.refl s.db) hs hh,?_⟩
  rw [dispatchExec]
  by_cases hfails : c.fails=true
  · simp only [hfails,if_true]
    exact hnext [] true
  · simp only [hfails,false_eq_true,if_false]
    refine claimCandidates_fair hnext _ (fun d hd => ?_) [] false
    have hd := (mem_filter.mp (mem_of_mem_take hd)).2
    exact (and_eq_true_iff.mp hd).1

theorem sweepAndClaim_fair {limit : Nat} {now leaseSeconds : Int} {next : List NotificationDeliveryWork → Bool → Code}
    (hnext : ∀ works failed, Fair lower none (next works failed)) :
    Fair lower none (sweepAndClaim limit now leaseSeconds next) := by
  refine quiet rfl fun answer => ?_
  split
  · exact hnext [] true
  refine endStaleSending_fair (fun swept => ?_) _
  split
  · exact hnext [] true
  · exact claimWaiting_fair hnext

theorem claimDeliveries_fair {limit now leaseSeconds : Int} {next : List NotificationDeliveryWork → Bool → Code}
    (hnext : ∀ works failed, Fair lower none (next works failed)) :
    Fair lower none (claimNotificationDeliveries limit now leaseSeconds next) := by
  refine orNow_fair fun now => quiet rfl fun answer => ?_
  split
  · exact hnext [] true
  · exact sweepAndClaim_fair hnext
  refine quiet rfl fun answer => ?_
  split
  · exact hnext [] true
  · exact sweepAndClaim_fair hnext

theorem report_fair {id n : Int} {next : Code} (hnext : Fair lower none next) (message : String) (h : Option Sender) :
    Fair lower h (reportNotificationDelivery id n next (some { message := message })) := by
  rw [reportNotificationDelivery,if_neg (by simp)]
  exact markDead_fair fun _ => hnext.any h

theorem reportAnswer_fair {id n : Int} {next : Code} (hnext : Fair lower none next) (answer : SendAnswer) :
    Fair lower (some ⟨id,n,answer.outcome.phase⟩) (reportNotificationDelivery id n next answer.error) := by
  cases herror : answer.error with
  | none => exact quiet rfl fun now => markSuccess_fair fun _ => hnext.any _
  | some e =>
    rw [reportNotificationDelivery]
    split
    next hretry =>
      have houtcome : answer.outcome=.rejected := by simp [SendAnswer.outcome,herror,hretry.1]
      rw [houtcome]
      refine quiet rfl fun now => quiet rfl fun now' => ?_
      intro s c hs hh _
      obtain ⟨h',hpasses⟩ := retry_passes lower hs c hh hretry.2 _ now'
      exact ⟨h',hpasses,hnext.any h'⟩
    next => exact markDead_fair fun _ => hnext.any _

theorem sendDelivery_fair {id : Int} {token chatId content : String} {next : Code} (hnext : Fair lower none next) :
    Fair lower none (sendNotificationDelivery config id token chatId content next) := by
  refine quiet rfl fun now => orNow_fair fun startedAt => ?_
  intro s c hs hh _
  rcases @start_passes lower s hs c id startedAt _ rfl with ⟨hsame,e,he⟩ | ⟨n,hn,hpasses⟩
  · refine ⟨none,?_,?_⟩
    · rw [hsame]
      exact Quiet.passes rfl (.refl s.db) hs hh
    · rw [he]
      exact hnext
  refine ⟨_,hpasses none,?_⟩
  rw [hn]
  show Fair lower (some ⟨id,n,.fresh⟩)
    (sendTelegramMessageContext config id n token chatId content (reportNotificationDelivery id n next))
  rw [sendTelegramMessageContext]
  split
  · exact report_fair hnext _ _
  split
  · exact report_fair hnext _ _
  split
  · exact report_fair hnext _ _
  intro s c hs hh _
  refine ⟨_,post_passes lower hs c hh,?_⟩
  intro s c hs hh _
  exact ⟨_,receive_passes lower hs c hh,reportAnswer_fair hnext c.answer⟩

theorem refreshConfig_fair {work : NotificationDeliveryWork}
    {next : Except StatementError (NotificationTask×NotificationTarget×NotificationBot) → Code}
    (hnext : ∀ r, Fair lower none (next r)) : Fair lower none (refreshNotificationDeliveryConfig work next) := by
  refine quiet rfl fun task => ?_
  split
  · exact hnext _
  refine quiet rfl fun target => ?_
  split
  · exact hnext _
  refine quiet rfl fun bot => ?_
  split
  · exact hnext _
  split <;> exact hnext _

theorem dispatch_fair (work : NotificationDeliveryWork) {next : Code} (hnext : Fair lower none next) :
    Fair lower none (dispatchNotificationDelivery config work next) := by
  rw [dispatchNotificationDelivery]
  refine refreshConfig_fair fun r => ?_
  split
  · exact markCanceled_fair fun _ => hnext
  · exact quiet rfl fun _ => releaseClaim_fair fun _ => hnext
  split
  · exact markCanceled_fair fun _ => hnext
  split
  · exact markDead_fair fun _ => hnext
  split
  · exact markDead_fair fun _ => hnext
  split
  · exact markDead_fair fun _ => hnext
  refine quiet rfl fun token => ?_
  split
  · exact quiet rfl fun _ => releaseClaim_fair fun _ => hnext
  · exact sendDelivery_fair config hnext

theorem dispatchAll_fair (claimed : Nat) (failed : Bool) (works : List NotificationDeliveryWork) (processed : Nat) :
    Fair lower none (dispatchAll config claimed failed processed works) := by
  induction works generalizing processed with
  | nil => trivial
  | cons work rest ih =>
    refine quiet rfl fun cancelled => ?_
    split
    · trivial
    · exact dispatch_fair config work (ih (processed+1))

theorem program_fair (start : Start) : Fair lower none (dispatchProgram config start) := by
  cases start with
  | pass => exact quiet rfl fun now => claimDeliveries_fair fun works failed => dispatchAll_fair config _ failed works 0
  | enqueue | configure | deleteTask | prune => exact quiet rfl fun _ => trivial

end Programs

theorem startState_sound {db : Store} (hdb : db.deliveries=[]) : Sound { db := db } where
  ids := by simp [hdb,Keyed.Unique]
  id_lt := by simp [hdb]
  unborn := fun id _ => ⟨rfl,fun m => not_mem_nil⟩
  orderly := .nil
  counted := by simp [hdb]
  bounded := fun id => by simp [attempts,notificationMaxAttempts]
  unsent := by simp [hdb]
  earlier := fun id m hm => by cases hm

/-- A message is sent by a worker that has started an attempt, after every earlier one was rejected for now and the
rejection reported. The attempts are counted and bounded, and a delivery that is over stays so. -/
theorem notification_sent_once (lower : String → String) (config : DispatchConfig) {db : Store} (hdb : db.deliveries=[])
    (acts more : List (Act Start DispatchChoice)) :
    let act := (system (dispatchExec lower) (dispatchProgram config)).act
    let p := run act acts { shared := { db := db }, threads := [] }
    let q := run act more p
    (∀ before id n after, p.shared.log=before++.posted id n::after → .started id n∈before ∧ .posted id n∉before ∧
      (∀ m, .posted id m∈before → .answered id m .rejected∈before ∧ .reported id m∈before) ∧
      ∀ m, .answered id m .accepted∉before ∧ .answered id m .unknown∉before) ∧
    (∀ d∈p.shared.db.deliveries, d.attemptCount=attempts p.shared.log d.id) ∧
    (∀ id, attempts p.shared.log id≤notificationMaxAttempts) ∧
    ∀ d∈p.shared.db.deliveries, d.status.terminal=true → ∀ d'∈q.shared.db.deliveries, d'.id=d.id → d'.status=d.status := by
  intro act p q
  have hstart : Held (dispatchExec lower) Sound Absorbs Holds Distinct (fun _ _ _ _ => True)
      ({ shared := { db := db }, threads := [] } : Pool DispatchState (Thread Start DispatchOp DispatchAns NotificationDispatchResult))
      fun _ => none :=
    ⟨startState_sound hdb,fun i t ht => by simp at ht,fun i t ht => by simp at ht,fun i j hi => by simp at hi⟩
  have hrun : ∀ (acts : List (Act Start DispatchChoice)) {p : Pool DispatchState _} {held : Nat → Option Sender},
      Held (dispatchExec lower) Sound Absorbs Holds Distinct (fun _ _ _ _ => True) p held →
      Absorbs p.shared (run act acts p).shared ∧ ∃ held', Held (dispatchExec lower) Sound Absorbs Holds Distinct
        (fun _ _ _ _ => True) (run act acts p) held' := fun acts _ _ hp =>
    hp.run Absorbs.refl (fun _ _ _ => Absorbs.trans) (fun h a ha b hb => (h b hb a ha).symm) (fun _ _ => nofun)
      (fun _ => nofun) (program_fair config) (guarded_of_all (fun _ _ _ _ => trivial) acts _)
  obtain ⟨-,held,hp⟩ := hrun acts hstart
  obtain ⟨habsorbs,-⟩ := hrun more hp
  have hs : p.shared.Sound := hp.inv
  refine ⟨?_,hs.counted,hs.bounded,?_⟩
  · intro before id n after hlog
    obtain ⟨hbefore,hstarted,-,hnot,hsettled⟩ := hs.orderly.split hlog
    have hanswered : ∀ {m o}, .answered id m o∈before → o=.rejected := fun hm =>
      hbefore.answer_unique hm (hsettled _ (hbefore.posted_of_answered hm)).1
    exact ⟨hstarted,hnot,hsettled,fun m => ⟨fun hm => (nomatch hanswered hm),fun hm => (nomatch hanswered hm)⟩⟩
  · intro d hd hterminal d' hd' hid
    rcases habsorbs.rows d' hd' with ⟨x,hx,hxid,hkeep⟩ | hle
    · have hsame : x=d := by
        have hlookup := lookup_of_mem hs.ids hx
        rw [hxid,hid,lookup_of_mem hs.ids hd,Option.some.injEq] at hlookup
        exact hlookup.symm
      exact hsame ▸ hkeep (hsame ▸ hterminal)
    · exact absurd (hs.id_lt d hd) (not_lt.mpr (hid ▸ hle))

def oneTarget : Store where
  bots := [{ id := 1, type := "telegram", enabled := true }]
  tasks := [{ id := 1, eventType := "channel_disabled", botId := 1, enabled := true }]
  targets := [{ id := 1, taskId := 1, chatId := "-10001", enabled := true }]

def twoDispatchers : List (Act Start DispatchChoice) :=
  let refused : DispatchChoice := { clock := 1000, token := some "t", answer := .response 429 none }
  let taken : DispatchChoice := { clock := 1001, token := some "t", answer := .response 200 (some { ok := true }) }
  [.start (.enqueue "channel_disabled" "channel:1" fun _ => none),.start .pass,.start .pass,
    .step 0 refused,.step 2 taken,.step 2 taken]++List.replicate 24 (.step 1 refused)++List.replicate 24 (.step 2 taken)

def secondDelivers : Pool DispatchState (Thread Start DispatchOp DispatchAns NotificationDispatchResult) :=
  run (system (dispatchExec id) (dispatchProgram ⟨fun _ => true,fun _ _ _ => some "off",fun _ => true⟩)).act twoDispatchers
    { shared := { db := oneTarget }, threads := [] }

theorem two_dispatchers_attempts :
    let refused : List DeliveryEvent := [.started 1 1,.posted 1 1,.answered 1 1 .rejected,.reported 1 1,.started 1 2]
    secondDelivers.shared.log=refused++.posted 1 2::[.answered 1 2 .accepted] ∧
      (∀ m, .posted 1 m∈refused → .answered 1 m .rejected∈refused ∧ .reported 1 m∈refused) ∧
      secondDelivers.shared.db.deliveries.map (·.status)=[.success] ∧
      ∀ d∈secondDelivers.shared.db.deliveries, d.attemptCount=attempts secondDelivers.shared.log d.id := by
  have hlog : secondDelivers.shared.log=[.started 1 1,.posted 1 1,.answered 1 1 .rejected,.reported 1 1,.started 1 2] ++
      .posted 1 2::[.answered 1 2 .accepted] := by decide +kernel
  have hover : secondDelivers.shared.db.deliveries.map (·.status)=[.success] := by decide +kernel
  obtain ⟨hposted,hcounted,-⟩ := notification_sent_once id ⟨fun _ => true,fun _ _ _ => some "off",fun _ => true⟩
    (show oneTarget.deliveries=[] from rfl) twoDispatchers []
  rw [secondDelivers] at hlog hover ⊢
  exact ⟨hlog,(hposted _ 1 2 _ hlog).2.2.1,hover,hcounted⟩

end NewApi.Notifications
