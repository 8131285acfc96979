import NewApi.ImageTask.Model
import NewApi.Subscription.Account

/-! The refund of an image task over every interleaving of its workers: the funding is credited,
the counters are reversed and the marker is cleared, in this order and each at most once. -/
namespace NewApi.ImageTask
open List Runs NewApi.Subscription

structure Charge where
  amount : Int
  userId : Int
  channelId : Int
  tokenId : Int
  billingSource : BillingSource
  subscriptionId : Int
  deriving DecidableEq

def Task.charge (t : Task) : Charge :=
  ⟨t.quota,t.userId,t.channelId,t.privateData.tokenId,t.privateData.billingSource,t.privateData.subscriptionId⟩

def TaskRefundReconciliation.charge (m : TaskRefundReconciliation) : Charge :=
  ⟨m.amount,m.userId,m.channelId,m.tokenId,m.billingSource,m.subscriptionId⟩

/-- One credit of the funding source. A subscription's counter stops at zero. -/
def Charge.credit (c : Charge) (a : Accounts) : Accounts :=
  if c.billingSource=.subscription then
    match a.subscriptions.sub? c.subscriptionId with
    | none => a
    | some row =>
      { a with
        subscriptions := a.subscriptions.updateSub c.subscriptionId (·.withUsed (max 0 (row.amountUsed-c.amount))) }
  else
    { a with
      users := Keyed.modify User.id c.userId
        (fun u => { u with quota := u.quota+c.amount, quotaVersion := u.quotaVersion+1 }) a.users }

def markRefunded (db : SubscriptionDB) (taskId : String) : SubscriptionDB :=
  match db.record? taskId with
  | none => db
  | some record =>
    if taskId≠"" ∧ record.status=.consumed then db.updateRecord taskId fun r => { r with status := .refunded }
    else db

def Charge.reverse (c : Charge) (taskId : String) (a : Accounts) : Accounts :=
  { users := Keyed.modify User.id c.userId (fun u => { u with usedQuota := u.usedQuota-c.amount }) a.users
    tokens := if c.tokenId>0 then increaseTokenQuota a.tokens c.tokenId c.amount else a.tokens
    channels := if c.channelId>0 then
      Keyed.modify Channel.id c.channelId (fun ch => { ch with usedQuota := ch.usedQuota-c.amount }) a.channels
      else a.channels
    subscriptions := if c.billingSource=.subscription then markRefunded a.subscriptions taskId else a.subscriptions }

inductive Event where
  | credited (c : Charge)
  | reversed (c : Charge)
  | cleared
  deriving DecidableEq

def Event.apply (taskId : String) (a : Accounts) : Event → Accounts
  | .credited c => c.credit a
  | .reversed c => c.reverse taskId a
  | .cleared => a

/-- The money a step moves: the credit of the row it finds, the reversals of the marker it finds. -/
def moneyEvents (s : System) : Op → List Event
  | .refundImageTaskMoney expectedQuota now reason =>
    match refundImageTaskMoney s.accounts s.task expectedQuota now reason with
    | .ok (_,_,true) => [.credited s.task.charge]
    | _ => []
  | .reconcileImageTaskRefundAccounting =>
    match reconcileImageTaskRefundAccounting s.accounts s.task with
    | .ok (_,_,true) => (s.task.marker.map fun m => Event.reversed m.charge).toList
    | _ => []
  | _ => []

/-- What a step does to the refund, the removal of the marker included. -/
def emit (s : System) (op : Op) : List Event :=
  moneyEvents s op ++ if s.task.marker.isSome ∧ (step s op).task.marker.isNone then [.cleared] else []

def Sink.refundRows (sink : Sink) (requestId : String) : Nat :=
  sink.logs.countP fun l => decide (l.requestId=requestId ∧ l.type=.refund)

/-- The idempotency key of a request stands on its refund rows only. -/
def Sink.Keyed (sink : Sink) (requestId : String) : Prop :=
  ∀ l∈sink.logs, l.idempotencyKey=some ("task-refund:" ++ requestId) → l.requestId=requestId ∧ l.type=.refund

/-- A task before its refund: no marker, no worker and no insert so far. -/
structure Fresh (s : System) : Prop where
  marker : s.task.marker=none
  held : s.held=[]
  finalizers : s.finalizers=[]
  attempts : s.sink.attempts=0
  rows : s.sink.refundRows s.task.taskId≤1
  keyed : s.sink.Keyed s.task.taskId

/-- The callers refund a task only once it has left the active statuses. -/
def RefundsInactive (s : System) : Op → Prop
  | .refundImageTaskMoney _ _ _ => s.task.status.active=false
  | _ => True

instance (s : System) (op : Op) : Decidable (RefundsInactive s op) := by
  cases op <;> unfold RefundsInactive <;> infer_instance

def pending (ws : List Finalizer) : Nat := ws.countP fun w => decide (w.phase=.claimed)

/-- The sink side: which rows, attempts and finalizing calls a state may have. -/
structure Logged (requestId : String) (s : System) : Prop where
  request : s.task.taskId=requestId
  keyed : s.sink.Keyed requestId
  rows : s.sink.clickHouse=false → s.sink.refundRows requestId≤1
  inserted : s.sink.clickHouse=false → ∀ w∈s.finalizers, w.phase=.inserted → s.sink.refundRows requestId=1
  finalizer : ∀ w∈s.finalizers, w.params.requestId=requestId
  attempts : s.sink.clickHouse=true → s.sink.attempts+pending s.finalizers≤1

structure Unlogged (s : System) : Prop where
  finalizers : s.finalizers=[]
  attempts : s.sink.attempts=0

/-- How far the refund is: the events so far and the row they left. -/
inductive Stage (requestId : String) : List Event → System → Prop
  | untouched {s : System} (marker : s.task.marker=none) (quiet : Unlogged s)
      (held : s.task.status.active=true → ∀ h∈s.held, h.task.marker=none ∧ h.task.taskId=requestId) :
      Stage requestId [] s
  | refunded {s : System} {m : TaskRefundReconciliation} (marker : s.task.marker=some m) (quota : s.task.quota=0)
      (status : s.task.status.active=false) (amount : 0 < m.amount)
      (early : m.accountingDone=false → Unlogged s)
      (fenced : s.sink.clickHouse=true → m.logWriteAttempted=false → Unlogged s) :
      Stage requestId (.credited m.charge :: if m.accountingDone then [.reversed m.charge] else []) s
  | cleared {s : System} {c : Charge} (marker : s.task.marker=none) (quota : s.task.quota=0)
      (status : s.task.status.active=false) (amount : 0<c.amount)
      (row : s.sink.clickHouse=false → s.sink.refundRows requestId=1) :
      Stage requestId [.credited c,.reversed c,.cleared] s

/-- The invariant of a run from the accounts `start`. -/
structure Inv (requestId : String) (start : Accounts) (es : List Event) (s : System) : Prop where
  stage : Stage requestId es s
  logged : Logged requestId s
  accounts : s.accounts=es.foldl (Event.apply requestId) start

section Effects
variable {a a' : Accounts} {t t' : Task}

theorem refundFunding_credit {version quota : Int} (hq : 0<t.quota)
    (h : refundFunding a t=.ok (a',version,quota)) : a'=t.charge.credit a := by
  unfold refundFunding at h
  unfold Charge.credit
  by_cases hsub : t.privateData.billingSource=.subscription
  · have hc : t.charge.billingSource=.subscription := hsub
    rw [if_pos hsub] at h
    rw [if_pos hc]
    split at h
    · cases h
    rename_i hid
    cases hrow : a.subscriptions.sub? t.privateData.subscriptionId with
    | none =>
      rw [postConsumeUserSubscriptionDelta,if_neg hid,if_neg (by omega),hrow] at h
      cases h
    | some row =>
      rw [postDelta_eq hrow (by omega) (by omega)] at h
      have hrow' : a.subscriptions.sub? t.charge.subscriptionId=some row := hrow
      rw [hrow']
      split at h
      · cases h
      rename_i ok hok
      split at hok
      · cases hok
      cases hok
      cases h
      rfl
  · have hc : ¬ t.charge.billingSource=.subscription := hsub
    rw [if_neg hsub] at h
    rw [if_neg hc]
    unfold increaseUserQuotaWithTx at h
    split at h
    · cases h
    rename_i hok
    split at hok
    · cases hok
    split at hok
    · cases hok
    split at hok
    · cases hok
    cases hok
    cases h
    rfl

theorem refundImageTaskMoney_cases {expectedQuota now : Int} {reason : String} {claimed : Bool}
    (h : refundImageTaskMoney a t expectedQuota now reason=.ok (a',t',claimed)) :
    (t.quota=0 ∧ a'=a ∧ t'=t ∧ claimed=false) ∨
    (0<t.quota ∧ t.marker=none ∧ a'=t.charge.credit a ∧ claimed=true ∧
      ∃ version quota, t'={ t.withMarker (some (refundMarker t reason version quota)) .pending with
        quota := 0, updatedAt := now }) := by
  unfold refundImageTaskMoney at h
  split at h
  · cases h
  split at h
  next hq =>
    cases h
    exact .inl ⟨hq,rfl,rfl,rfl⟩
  split at h
  · cases h
  split at h
  · cases h
  rename_i hexp hq hpos hm
  cases hf : refundFunding a t with
  | error e =>
    rw [hf] at h
    cases h
  | ok r =>
    obtain ⟨a1,version,quota⟩ := r
    rw [hf] at h
    cases h
    refine .inr ⟨by omega,by simpa using hm,?_,rfl,version,quota,rfl⟩
    exact refundFunding_credit (by omega) hf

theorem markImageTaskSubscriptionRefunded_ok {db db' : SubscriptionDB} {taskId : String}
    (h : markImageTaskSubscriptionRefundedWithTx db taskId=.ok db') : db'=markRefunded db taskId := by
  unfold markImageTaskSubscriptionRefundedWithTx at h
  unfold markRefunded
  by_cases hid : taskId=""
  · rw [if_pos hid] at h
    cases h
    split <;> simp [hid]
  · rw [if_neg hid] at h
    cases hr : db.record? taskId with
    | none =>
      rw [hr] at h
      cases h
      rfl
    | some record =>
      rw [hr] at h
      simp only at h ⊢
      by_cases hs : record.status=.consumed
      · rw [if_pos hs] at h
        cases h
        rw [if_pos ⟨hid,hs⟩]
      · rw [if_neg hs] at h
        rw [if_neg fun hc => hs hc.2]
        split at h
        · cases h
          rfl
        · cases h

theorem reverseAccounting_reverse {m : TaskRefundReconciliation} {taskId : String}
    (h : reverseAccounting a taskId m=.ok a') : a'=m.charge.reverse taskId a := by
  unfold reverseAccounting at h
  obtain ⟨users,husers,h⟩ := bind_ok h
  obtain ⟨channels,hchannels,h⟩ := bind_ok h
  obtain ⟨subscriptions,hsubs,h⟩ := bind_ok h
  cases h
  have hu : users=Keyed.modify User.id m.userId (fun u => { u with usedQuota := u.usedQuota-m.amount }) a.users := by
    unfold updateUserUsedQuotaWithTx at husers
    split at husers
    · cases husers
    split at husers
    · cases husers
    · cases husers
      rfl
  have hc : channels = if m.channelId>0 then
      Keyed.modify Channel.id m.channelId (fun ch => { ch with usedQuota := ch.usedQuota-m.amount }) a.channels
      else a.channels := by
    split at hchannels
    next hpos =>
      unfold updateChannelUsedQuotaWithTx at hchannels
      split at hchannels
      · cases hchannels
      cases hchannels
      rw [if_pos hpos]
      rfl
    next hpos =>
      cases hchannels
      rw [if_neg hpos]
  have hs : subscriptions = if m.billingSource=.subscription then markRefunded a.subscriptions taskId
      else a.subscriptions := by
    split at hsubs
    next hsub =>
      rw [if_pos hsub]
      exact markImageTaskSubscriptionRefunded_ok hsubs
    next hsub =>
      cases hsubs
      rw [if_neg hsub]
  rw [hu,hc,hs]
  rfl

theorem reconcileAccounting_cases {done : Bool}
    (h : reconcileImageTaskRefundAccounting a t=.ok (a',t',done)) :
    (a'=a ∧ t'=t ∧ done=false ∧ ∀ m, t.marker=some m → m.accountingDone=true) ∨
    (∃ m, t.marker=some m ∧ m.accountingDone=false ∧ a'=m.charge.reverse t.taskId a ∧ done=true ∧
      t'=t.withMarker (some { m with accountingDone := true }) .pending) := by
  unfold reconcileImageTaskRefundAccounting at h
  cases hm : t.marker with
  | none =>
    rw [hm] at h
    cases h
    exact .inl ⟨rfl,rfl,rfl,fun m h => nomatch h⟩
  | some m =>
    rw [hm] at h
    simp only at h
    split at h
    next hd =>
      cases h
      refine .inl ⟨rfl,rfl,rfl,fun m' h' => ?_⟩
      cases h'
      exact hd
    split at h
    · cases h
    rename_i hd _
    obtain ⟨a1,ha,h⟩ := bind_ok h
    cases h
    exact .inr ⟨m,rfl,by simpa using hd,reverseAccounting_reverse ha,rfl,rfl⟩

end Effects

section Steps
variable {r : String} {start : Accounts} {es : List Event} {s : System} {op : Op}

theorem emit_kept (h : s.task.marker.isSome → (step s op).task.marker.isSome) : emit s op=moneyEvents s op := by
  rw [emit,if_neg,append_nil]
  rintro ⟨hs,hn⟩
  rw [Option.isNone_iff_eq_none] at hn
  have := h hs
  rw [hn] at this
  cases this

theorem Inv.of_marker {m : TaskRefundReconciliation} (h : Inv r start es s) (hm : s.task.marker=some m) :
    es=(.credited m.charge :: if m.accountingDone then [.reversed m.charge] else []) ∧ s.task.quota=0 ∧
      s.task.status.active=false ∧ 0 < m.amount ∧ (m.accountingDone=false → Unlogged s) ∧
      (s.sink.clickHouse=true → m.logWriteAttempted=false → Unlogged s) := by
  cases h.stage with
  | untouched marker _ _ =>
    rw [marker] at hm
    cases hm
  | refunded marker quota status amount early fenced =>
    rw [marker] at hm
    cases hm
    exact ⟨rfl,quota,status,amount,early,fenced⟩
  | cleared marker _ _ _ _ =>
    rw [marker] at hm
    cases hm

theorem Inv.remark {m m' : TaskRefundReconciliation} (h : Inv r start es s) (hm : s.task.marker=some m)
    (hcharge : m'.charge=m.charge) (hdone : m'.accountingDone=m.accountingDone)
    (hfence : m'.logWriteAttempted=m.logWriteAttempted) (state : ReconciliationState) :
    Inv r start es { s with task := s.task.withMarker (some m') state } := by
  obtain ⟨rfl,hquota,hstatus,hamount,hearly,hfenced⟩ := h.of_marker hm
  have hpos : 0 < m'.amount := by
    have : m'.amount=m.amount := congrArg Charge.amount hcharge
    omega
  have hquiet : ∀ {u : System}, Unlogged s → u.finalizers=s.finalizers → u.sink=s.sink → Unlogged u :=
    fun hu hf hk => ⟨hf.trans hu.finalizers,hk ▸ hu.attempts⟩
  refine ⟨?_,⟨h.logged.request,h.logged.keyed,h.logged.rows,h.logged.inserted,h.logged.finalizer,h.logged.attempts⟩,
    h.accounts⟩
  rw [← hcharge,← hdone]
  refine Stage.refunded (m := m') rfl hquota hstatus hpos (fun hd => ?_) (fun hc hf => ?_)
  · exact hquiet (hearly (hdone ▸ hd)) rfl rfl
  · exact hquiet (hfenced hc (hfence ▸ hf)) rfl rfl

/-- The steps on copies that workers hold and on the row's other columns. -/
def Op.copying : Op → Bool
  | .read | .findEvidence _ _ | .persistImageTaskBillingFromConsumeLog _ | .failImageTask _ _ _
  | .claimStaleImageTaskForBilling _ _ _ | .claimFailedImageTaskRefundRetry _ _ => true
  | _ => false

theorem moneyEvents_copying (h : op.copying=true) : moneyEvents s op=[] := by
  cases op <;> first | rfl | cases h

theorem withHeld_of {P : System → Prop} {i : Nat} {f : Held → System} (hs : P s)
    (h : ∀ x∈s.held, P (f x)) : P (s.withHeld i f) := by
  unfold System.withHeld
  split
  next x hx =>
    exact h x (mem_of_getElem? hx)
  · exact hs

def Restamped (s u : System) : Prop := ∃ held t, u={ s with held := held, task := { s.task with updatedAt := t } }

theorem Restamped.of_held (held : List Held) : Restamped s { s with held := held } := ⟨held,s.task.updatedAt,rfl⟩

theorem failImageTask_inactive {row held : Task} (h : row.status.active=false) (now : Int) (reason : String) :
    (failImageTask row held now reason).2=row := by
  unfold failImageTask
  split
  · rfl
  rename_i ht
  refine if_neg fun he => ?_
  rw [he] at h
  cases hst : held.status <;> simp_all [TaskStatus.active]

theorem step_copying_inactive (hop : op.copying=true) (hs : s.task.status.active=false) : Restamped s (step s op) := by
  have hsame : Restamped s s := Restamped.of_held s.held
  cases op with
  | read => exact Restamped.of_held _
  | findEvidence i nodeName =>
    refine withHeld_of (P := Restamped s) hsame fun h _ => ?_
    split
    · exact hsame
    · exact Restamped.of_held _
  | persistImageTaskBillingFromConsumeLog i =>
    refine withHeld_of (P := Restamped s) hsame fun h _ => ?_
    have hrow : persistImageTaskBilling s.task h.task=s.task := by
      rw [persistImageTaskBilling,hs]
      rfl
    simp only [hrow]
    split <;> exact hsame
  | failImageTask i now reason =>
    refine withHeld_of (P := Restamped s) hsame fun h _ => ?_
    simp only [failImageTask_inactive hs]
    exact Restamped.of_held _
  | claimStaleImageTaskForBilling i now reason =>
    refine withHeld_of (P := Restamped s) hsame fun h _ => ?_
    split
    next hh =>
      have hrow : claimStaleImageTask s.task h.task now reason=s.task := by
        rw [claimStaleImageTask,if_neg]
        intro he
        rw [he,hh.2] at hs
        cases hs
      rw [hrow]
      exact hsame
    · exact hsame
  | claimFailedImageTaskRefundRetry i now =>
    refine withHeld_of (P := Restamped s) hsame fun h _ => ?_
    unfold claimFailedImageTaskRefundRetry
    split
    · exact ⟨s.held,_,rfl⟩
    · exact hsame
  | _ => cases hop

/-- While the task is active these steps keep it, and every copy of it, without a marker. -/
structure Unmarked (r : String) (s u : System) : Prop where
  accounts : u.accounts=s.accounts
  sink : u.sink=s.sink
  finalizers : u.finalizers=s.finalizers
  request : u.task.taskId=r
  marker : u.task.marker=none
  held : ∀ h∈u.held, h.task.marker=none ∧ h.task.taskId=r

theorem Unmarked.set_held (hs : Unmarked r s s) (i : Nat) {x : Held} (hx : x.task.marker=none ∧ x.task.taskId=r) :
    Unmarked r s { s with held := s.held.set i x } := by
  refine { hs with held := fun h hh => ?_ }
  obtain hh | rfl := mem_or_eq_of_mem_set hh
  · exact hs.held h hh
  · exact hx

variable {t t' : Task}

theorem Unmarked.set_task (hs : Unmarked r s s) (hm : t.marker=none) (ht : t.taskId=r) :
    Unmarked r s { s with task := t } :=
  { hs with request := ht, marker := hm }

theorem step_copying_active (hop : op.copying=true) (hs : Unmarked r s s) : Unmarked r s (step s op) := by
  cases op with
  | read =>
    refine { hs with held := fun h hh => ?_ }
    obtain hh | hh := mem_append.mp hh
    · exact hs.held h hh
    rw [mem_singleton.mp hh]
    exact ⟨hs.marker,hs.request⟩
  | findEvidence i nodeName =>
    refine withHeld_of (P := Unmarked r s) hs fun h hh => ?_
    split
    · exact hs
    · exact hs.set_held i (hs.held h hh)
  | persistImageTaskBillingFromConsumeLog i =>
    refine withHeld_of (P := Unmarked r s) hs fun h hh => ?_
    split
    · unfold persistImageTaskBilling
      split
      · exact hs.set_task (hs.held h hh).1 hs.request
      · exact hs
    · exact hs
  | failImageTask i now reason =>
    refine withHeld_of (P := Unmarked r s) hs fun h hh => ?_
    have hcopy := hs.held h hh
    unfold failImageTask
    split
    · exact hs.set_held i hcopy
    have hset := hs.set_held i
      (x := { h with task := { h.task with status := .failure, updatedAt := now, failReason := reason } }) hcopy
    by_cases hst : s.task.status=h.task.status
    · simp only [if_pos hst]
      exact { hset with request := hcopy.2, marker := hcopy.1 }
    · simp only [if_neg hst]
      exact hset
  | claimStaleImageTaskForBilling i now reason =>
    refine withHeld_of (P := Unmarked r s) hs fun h hh => ?_
    split
    · unfold claimStaleImageTask
      split
      · exact hs.set_task (hs.held h hh).1 hs.request
      · exact hs
    · exact hs
  | claimFailedImageTaskRefundRetry i now =>
    refine withHeld_of (P := Unmarked r s) hs fun h hh => ?_
    unfold claimFailedImageTaskRefundRetry
    split
    · exact hs.set_task hs.marker hs.request
    · exact hs
  | _ => cases hop

variable {u : System}

theorem Inv.restamp (h : Inv r start es s) (hs : s.task.status.active=false) (hu : Restamped s u) : Inv r start es u := by
  obtain ⟨held,t,rfl⟩ := hu
  refine ⟨?_,⟨h.logged.request,h.logged.keyed,h.logged.rows,h.logged.inserted,h.logged.finalizer,h.logged.attempts⟩,h.accounts⟩
  cases h.stage with
  | untouched marker quiet _ =>
    refine .untouched marker ⟨quiet.finalizers,quiet.attempts⟩ fun ha => ?_
    have hna : s.task.status.active=true := ha
    rw [hs] at hna
    cases hna
  | refunded marker quota status amount early fenced =>
    exact .refunded marker quota status amount (fun hd => ⟨(early hd).finalizers,(early hd).attempts⟩)
      fun hc hf => ⟨(fenced hc hf).finalizers,(fenced hc hf).attempts⟩
  | cleared marker quota status amount row => exact .cleared marker quota status amount row

theorem inv_copying (hop : op.copying=true) (h : Inv r start es s) : Inv r start (es++emit s op) (step s op) := by
  cases hs : s.task.status.active with
  | false =>
    have hu := step_copying_inactive hop hs
    have hemit : emit s op=[] := by
      rw [emit_kept,moneyEvents_copying hop]
      obtain ⟨held,t,hu⟩ := hu
      rw [hu]
      exact id
    rw [hemit,append_nil]
    exact h.restamp hs hu
  | true =>
    have hstage := h.stage
    cases hstage with
    | untouched marker quiet held =>
      have hu := step_copying_active hop (s := s) (r := r) ⟨rfl,rfl,rfl,h.logged.request,marker,held hs⟩
      have hemit : emit s op=[] := by
        rw [emit_kept,moneyEvents_copying hop]
        intro hsome
        rw [marker] at hsome
        cases hsome
      rw [hemit]
      refine ⟨.untouched hu.marker ⟨hu.finalizers.trans quiet.finalizers,hu.sink ▸ quiet.attempts⟩ fun _ => hu.held,
        ⟨hu.request,?_,?_,?_,?_,?_⟩,hu.accounts.trans h.accounts⟩
      · rw [hu.sink]
        exact h.logged.keyed
      · rw [hu.sink]
        exact h.logged.rows
      · rw [hu.sink,hu.finalizers]
        exact h.logged.inserted
      · rw [hu.finalizers]
        exact h.logged.finalizer
      · rw [hu.sink,hu.finalizers]
        exact h.logged.attempts
    | refunded _ _ status _ _ _ | cleared _ _ status _ _ =>
      rw [hs] at status
      cases status

theorem Inv.quota_of_refunded (h : Inv r start es s) (hes : es≠[]) : s.task.quota=0 := by
  cases h.stage with
  | untouched _ _ _ => exact absurd rfl hes
  | refunded _ quota _ _ _ _ | cleared _ quota _ _ _ => exact quota

theorem Inv.silent (hu : Inv r start es u) (hstep : step s op=u) (hmoney : moneyEvents s op=[])
    (hkept : s.task.marker.isSome → u.task.marker.isSome) : Inv r start (es++emit s op) (step s op) := by
  rw [emit_kept (hstep ▸ hkept),hmoney,append_nil,hstep]
  exact hu

section
variable (h : Inv r start es s)
include h

theorem Inv.idle (hstep : step s op=s) (hmoney : moneyEvents s op=[]) : Inv r start (es++emit s op) (step s op) :=
  h.silent hstep hmoney id

theorem inv_refund (expectedQuota now : Int) (reason : String) (hok : s.task.status.active=false) :
    Inv r start (es++emit s (.refundImageTaskMoney expectedQuota now reason))
      (step s (.refundImageTaskMoney expectedQuota now reason)) := by
  cases hr : refundImageTaskMoney s.accounts s.task expectedQuota now reason with
  | error e => exact h.idle (by simp only [step,hr]) (by simp only [moneyEvents,hr])
  | ok out =>
    obtain ⟨a',t',claimed⟩ := out
    obtain ⟨-,rfl,rfl,rfl⟩ | ⟨hq,hm,ha,rfl,version,quota,ht⟩ := refundImageTaskMoney_cases hr
    · exact h.idle (by simp only [step,hr]) (by simp only [moneyEvents,hr])
    have hstep : step s (.refundImageTaskMoney expectedQuota now reason)={ s with accounts := a', task := t' } := by
      simp only [step,hr]
    have hes : es=[] := by
      by_contra hne
      have := h.quota_of_refunded hne
      omega
    subst hes
    rw [emit_kept (by rw [hm]; exact fun hc => nomatch hc),hstep]
    have hquiet : Unlogged s := by
      cases h.stage with
      | untouched _ quiet _ => exact quiet
    have hmoney : moneyEvents s (.refundImageTaskMoney expectedQuota now reason)=[.credited s.task.charge] := by
      simp only [moneyEvents,hr]
    rw [hmoney,nil_append,ht]
    refine ⟨?_,⟨h.logged.request,h.logged.keyed,h.logged.rows,h.logged.inserted,h.logged.finalizer,h.logged.attempts⟩,?_⟩
    · exact Stage.refunded (m := refundMarker s.task reason version quota) rfl rfl hok hq
        (fun _ => ⟨hquiet.finalizers,hquiet.attempts⟩) fun _ _ => ⟨hquiet.finalizers,hquiet.attempts⟩
    · have hbase : s.accounts=start := h.accounts
      rw [ha,hbase]
      rfl

theorem inv_reconcile :
    Inv r start (es++emit s .reconcileImageTaskRefundAccounting) (step s .reconcileImageTaskRefundAccounting) := by
  cases hr : reconcileImageTaskRefundAccounting s.accounts s.task with
  | error e => exact h.idle (by simp only [step,hr]) (by simp only [moneyEvents,hr])
  | ok out =>
    obtain ⟨a',t',done⟩ := out
    obtain ⟨rfl,rfl,rfl,-⟩ | ⟨m,hm,hd,ha,rfl,rfl⟩ := reconcileAccounting_cases hr
    · exact h.idle (by simp only [step,hr]) (by simp only [moneyEvents,hr])
    have hstep : step s .reconcileImageTaskRefundAccounting =
        { s with accounts := a', task := s.task.withMarker (some { m with accountingDone := true }) .pending } := by
      simp only [step,hr]
    obtain ⟨hes,hquota,hstatus,hamount,hearly,-⟩ := h.of_marker hm
    have hmoney : moneyEvents s .reconcileImageTaskRefundAccounting=[.reversed m.charge] := by
      simp only [moneyEvents,hr,hm]
      rfl
    have hquiet := hearly hd
    rw [emit_kept (by rw [hstep]; exact fun _ => rfl),hmoney,hstep]
    rw [hd] at hes
    refine ⟨?_,⟨h.logged.request,h.logged.keyed,h.logged.rows,h.logged.inserted,h.logged.finalizer,h.logged.attempts⟩,?_⟩
    · rw [hes]
      exact Stage.refunded (m := { m with accountingDone := true }) rfl hquota hstatus hamount
        (fun hf => nomatch hf) fun _ _ => ⟨hquiet.finalizers,hquiet.attempts⟩
    · rw [foldl_append,← h.accounts,ha,h.logged.request]
      rfl

theorem inv_markCache :
    Inv r start (es++emit s .markImageTaskRefundCacheRepaired) (step s .markImageTaskRefundCacheRepaired) := by
  have hstep : ∀ {t}, markImageTaskRefundCacheRepaired s.task=.ok t →
      step s .markImageTaskRefundCacheRepaired={ s with task := t } := fun ht => by simp only [step,ht,commit_ok]
  cases hm : s.task.marker with
  | none =>
    refine h.idle (hstep ?_) rfl
    rw [markImageTaskRefundCacheRepaired,hm]
  | some m =>
    by_cases hc : m.cacheRepairDone=true
    · refine h.idle (hstep ?_) rfl
      simp only [markImageTaskRefundCacheRepaired,hm,if_pos hc]
    · cases ht : markImageTaskRefundCacheRepaired s.task with
      | error e => exact h.idle (by simp only [step,ht,commit_error]) rfl
      | ok t =>
        have heq : t=s.task.withMarker (some { m with cacheRepairDone := true }) .pending := by
          simp only [markImageTaskRefundCacheRepaired,hm,if_neg hc] at ht
          split at ht
          · cases ht
          · cases ht
            rfl
        subst heq
        refine Inv.silent ?_ (hstep ht) rfl fun _ => rfl
        exact h.remark hm (by rfl) (by rfl) (by rfl) _

theorem inv_manual : Inv r start (es++emit s .markImageTaskRefundManualReconciliationReported)
      (step s .markImageTaskRefundManualReconciliationReported) := by
  have hstep : ∀ {t}, markImageTaskRefundManualReconciliationReported s.task=.ok t →
      step s .markImageTaskRefundManualReconciliationReported={ s with task := t } :=
    fun ht => by simp only [step,ht,commit_ok]
  cases hm : s.task.marker with
  | none =>
    refine h.idle (hstep ?_) rfl
    rw [markImageTaskRefundManualReconciliationReported,hm]
  | some m =>
    cases ht : markImageTaskRefundManualReconciliationReported s.task with
    | error e => exact h.idle (by simp only [step,ht,commit_error]) rfl
    | ok t =>
      have heq : t=s.task ∨ t=s.task.withMarker (some { m with
          manualReconciliationRequired := true, manualReconciliationReported := true }) .manualReported := by
        simp only [markImageTaskRefundManualReconciliationReported,hm] at ht
        split at ht
        · cases ht
          exact .inl rfl
        · split at ht
          · cases ht
          · cases ht
            exact .inr rfl
      obtain rfl | heq := heq
      · exact h.idle (hstep ht) rfl
      subst heq
      refine Inv.silent ?_ (hstep ht) rfl fun _ => rfl
      exact h.remark hm (by rfl) (by rfl) (by rfl) _

end

variable {requestId token : String}

theorem validateFinalization_ok {m : Option TaskRefundReconciliation}
    (h : validateImageTaskRefundFinalization t requestId=.ok m) :
    t.taskId=requestId ∧ t.marker=m ∧ ∀ x∈m, x.accountingDone=true := by
  unfold validateImageTaskRefundFinalization at h
  split at h
  · cases h
  rename_i hid
  cases hm : t.marker with
  | none =>
    rw [hm] at h
    cases h
    exact ⟨by simpa using hid,rfl,fun x hx => nomatch hx⟩
  | some x =>
    rw [hm] at h
    simp only at h
    split at h
    · cases h
    rename_i hdone
    cases h
    refine ⟨by simpa using hid,rfl,fun y hy => ?_⟩
    cases hy
    simp only [not_or,Bool.not_eq_false] at hdone
    exact hdone.2.1

theorem claimLog_cases {clickHouse : Bool} {now : Int}
    (h : claimImageTaskRefundLog clickHouse t requestId token now=.ok (t',true)) :
    t.taskId=requestId ∧ ∃ m m' state, t.marker=some m ∧ m.accountingDone=true ∧ m.logWriteAttempted=false ∧
      t'=t.withMarker (some m') state ∧ m'.charge=m.charge ∧ m'.accountingDone=true ∧ m'.logWriteAttempted=clickHouse := by
  obtain ⟨m,hm,h⟩ := bind_ok h
  obtain ⟨hid,hmarker,hdone⟩ := validateFinalization_ok hm
  cases m with
  | none => cases h
  | some m =>
    have hdone := hdone m rfl
    simp only at h
    split at h
    · cases h
    rename_i hopen
    have hatt : m.logWriteAttempted=false := by
      cases hw : m.logWriteAttempted with
      | false => rfl
      | true => exact absurd (.inl hw) hopen
    split at h
    · cases h
    split at h
    next hch =>
      cases h
      exact ⟨hid,m,_,_,hmarker,hdone,hatt,rfl,rfl,hdone,hch.symm⟩
    next hch =>
      cases h
      exact ⟨hid,m,_,_,hmarker,hdone,hatt,rfl,rfl,hdone,hatt.trans (by simpa using hch)⟩

theorem pending_append (ws : List Finalizer) (w : Finalizer) :
    pending (ws++[w])=pending ws + if w.phase=.claimed then 1 else 0 := by
  simp [pending,countP_append]

theorem inv_claim (h : Inv r start es s) (params : RecordTaskBillingLogParams) (token : String) (now : Int) :
    Inv r start (es++emit s (.claimImageTaskRefundLog params token now))
      (step s (.claimImageTaskRefundLog params token now)) := by
  by_cases hreq : params.requestId=""
  · exact h.idle (by simp only [step,if_pos hreq]) rfl
  cases hr : claimImageTaskRefundLog s.sink.clickHouse s.task params.requestId token now with
  | error e => exact h.idle (by simp only [step,if_neg hreq,hr]) rfl
  | ok out =>
    obtain ⟨t',claimed⟩ := out
    cases claimed with
    | false => exact h.idle (by simp only [step,if_neg hreq,hr]) rfl
    | true =>
      obtain ⟨hid,m,m',state,hm,hd,hatt,rfl,hcharge,hd',hatt'⟩ := claimLog_cases hr
      obtain ⟨hes,hquota,hstatus,hamount,-,hfenced⟩ := h.of_marker hm
      refine Inv.silent (u := { s with
        task := s.task.withMarker (some m') state
        finalizers := s.finalizers++[⟨params,token,.claimed⟩] }) ?_ (by simp only [step,if_neg hreq,hr]) rfl
        fun _ => rfl
      have hpos : 0 < m'.amount := by
        have : m'.amount=m.amount := congrArg Charge.amount hcharge
        omega
      refine ⟨?_,⟨h.logged.request,h.logged.keyed,h.logged.rows,fun hc w hw hp => ?_,fun w hw => ?_,fun hc => ?_⟩,h.accounts⟩
      · have hes' : es=.credited m'.charge :: if m'.accountingDone then [.reversed m'.charge] else [] := by
          rw [hes,hcharge,hd,hd']
        rw [hes']
        refine Stage.refunded (m := m') rfl hquota hstatus hpos (fun hf => ?_) fun hc hf => ?_
        · rw [hd'] at hf
          cases hf
        · have hc : s.sink.clickHouse=true := hc
          rw [hatt',hc] at hf
          cases hf
      · obtain hw | hw := mem_append.mp hw
        · exact h.logged.inserted hc w hw hp
        rw [mem_singleton.mp hw] at hp
        cases hp
      · obtain hw | hw := mem_append.mp hw
        · exact h.logged.finalizer w hw
        rw [mem_singleton.mp hw]
        exact hid.symm.trans h.logged.request
      · have hq := hfenced hc hatt
        rw [pending_append]
        have hsink : s.sink.attempts=0 := hq.attempts
        have hnone : pending s.finalizers=0 := by
          rw [hq.finalizers]
          rfl
        simp only [hsink,hnone]
        decide

variable {w : Finalizer}

theorem pending_set {ws : List Finalizer} {i : Nat} (hw : ws[i]? = some w) (w' : Finalizer) :
    pending (ws.set i w')+(if w.phase=.claimed then 1 else 0) = pending ws + if w'.phase=.claimed then 1 else 0 := by
  obtain ⟨hi,hget⟩ := List.getElem?_eq_some_iff.mp hw
  have hmem : w.phase=.claimed → 0<pending ws := fun hp => by
    rw [pending,countP_pos_iff]
    exact ⟨w,mem_of_getElem? hw,by simpa using hp⟩
  simp only [pending] at hmem ⊢
  rw [countP_set hi,hget]
  by_cases hp : w.phase=.claimed
  · have := hmem hp
    simp only [hp,decide_true,if_true,decide_eq_true_eq]
    omega
  · simp only [hp,decide_false,Bool.false_eq_true,if_false,decide_eq_true_eq]
    omega

theorem refundRows_append (sink : Sink) (l : Log) (n : Nat) :
    ({ sink with logs := sink.logs++[l], attempts := n } : Sink).refundRows r =
      sink.refundRows r + if l.requestId=r ∧ l.type=.refund then 1 else 0 := by
  simp [Sink.refundRows,countP_append,countP_singleton]

variable {outcome : InsertOutcome} {sink sink' : Sink}

theorem create_keeps {log : Log} {ok : Bool} (hk : sink.Keyed r)
    (hlog : log.requestId=r ∧ log.type=.refund) (h : sink.create log outcome=(sink',ok)) :
    sink'.Keyed r ∧ sink'.clickHouse=sink.clickHouse ∧ sink'.attempts=sink.attempts+1 ∧
      sink'.refundRows r ≤ sink.refundRows r+1 ∧ (ok=true → sink'.refundRows r=sink.refundRows r+1) := by
  unfold Sink.create at h
  cases h
  by_cases ho : outcome=.refused
  · subst ho
    exact ⟨hk,rfl,rfl,Nat.le_succ _,fun hc => nomatch hc⟩
  · have hrows := refundRows_append (r := r) sink log (sink.attempts+1)
    rw [if_pos hlog] at hrows
    simp only [if_neg ho]
    refine ⟨fun l hl hkey => ?_,trivial,trivial,by omega,fun _ => hrows⟩
    obtain hl | hl := mem_append.mp hl
    · exact hk l hl hkey
    rw [mem_singleton.mp hl]
    exact hlog

theorem recordOnce_keeps {params : RecordTaskBillingLogParams} {createdAt : Int}
    {ok : Bool} (hk : sink.Keyed r) (hreq : params.requestId=r)
    (h : recordTaskBillingLogOnceWithDB sink (buildTaskBillingLog params createdAt) outcome=(sink',ok)) :
    sink'.Keyed r ∧ sink'.clickHouse=sink.clickHouse ∧ sink'.attempts ≤ sink.attempts+1 ∧
      (sink.clickHouse=false → sink.refundRows r≤1 →
        sink'.refundRows r≤1 ∧ (ok=true ∨ sink.refundRows r=1 → sink'.refundRows r=1)) := by
  unfold recordTaskBillingLogOnceWithDB at h
  cases hkey : (buildTaskBillingLog params createdAt).idempotencyKey with
  | none =>
    rw [hkey] at h
    cases h
    exact ⟨hk,rfl,Nat.le_succ _,fun _ h1 => ⟨h1,by simp⟩⟩
  | some key =>
    have hlog : (buildTaskBillingLog params createdAt).requestId=r ∧
        (buildTaskBillingLog params createdAt).type=.refund ∧ key="task-refund:" ++ r := by
      simp only [buildTaskBillingLog] at hkey ⊢
      split at hkey
      next hc =>
        cases hkey
        exact ⟨hreq,hc.1,by rw [hreq]⟩
      · cases hkey
    obtain ⟨hreq',htype,rfl⟩ := hlog
    rw [hkey] at h
    simp only [hreq',htype] at h
    by_cases hch : sink.clickHouse=true
    · rw [if_pos hch] at h
      obtain ⟨h1,h2,h3,-,-⟩ := create_keeps hk ⟨hreq',htype⟩ h
      exact ⟨h1,h2,h3.le,fun hf => absurd (hch.symm.trans hf) (by decide)⟩
    · rw [if_neg hch] at h
      split at h
      next hany =>
        cases h
        refine ⟨hk,rfl,Nat.le_succ _,fun _ h1 => ⟨h1,fun _ => ?_⟩⟩
        obtain ⟨l,hl,hm⟩ := any_eq_true.mp hany
        have hpos : 0<sink.refundRows r := by
          rw [Sink.refundRows,countP_pos_iff]
          refine ⟨l,hl,?_⟩
          simp only [Bool.or_eq_true,decide_eq_true_eq] at hm ⊢
          obtain hm | hm := hm
          · exact hk l hl hm
          · exact hm
        omega
      next hany =>
        have hzero : sink.refundRows r=0 := by
          rw [Sink.refundRows,countP_eq_zero]
          intro l hl hc
          apply hany
          rw [any_eq_true]
          refine ⟨l,hl,?_⟩
          rw [Bool.or_eq_true]
          exact .inr hc
        obtain ⟨h1,h2,h3,h4,h5⟩ := create_keeps hk ⟨hreq',htype⟩ h
        refine ⟨h1,h2,h3.le,fun _ _ => ⟨by omega,?_⟩⟩
        rintro (hok | hone)
        · rw [h5 hok,hzero]
        · omega

theorem withFinalizer_cases (s : System) (i : Nat) (phase : Phase) (f : Finalizer → System) : s.withFinalizer i phase f=s ∨
      ∃ w, s.finalizers[i]? = some w ∧ w.phase=phase ∧ s.withFinalizer i phase f=f w := by
  unfold System.withFinalizer
  split
  next w hw =>
    split
    next hp =>
      exact .inr ⟨w,hw,hp,rfl⟩
    · exact .inl rfl
  · exact .inl rfl

theorem Inv.refinalize (h : Inv r start es s) (hw : w∈s.finalizers) (htask : u.task=s.task)
    (haccounts : u.accounts=s.accounts) (hch : u.sink.clickHouse=s.sink.clickHouse)
    (hrows : s.sink.clickHouse=false → s.sink.refundRows r=1 → u.sink.refundRows r=1) (hlogged : Logged r u) :
    Inv r start es u := by
  have hbusy : ¬ Unlogged s := fun hq => by
    rw [hq.finalizers] at hw
    cases hw
  refine ⟨?_,hlogged,haccounts.trans h.accounts⟩
  cases h.stage with
  | untouched _ quiet _ => exact absurd quiet hbusy
  | refunded marker quota status amount early fenced =>
    exact .refunded (htask ▸ marker) (htask ▸ quota) (htask ▸ status) amount (fun hd => absurd (early hd) hbusy)
      fun hc hf => absurd (fenced (hch ▸ hc) hf) hbusy
  | cleared marker quota status amount row =>
    refine .cleared (htask ▸ marker) (htask ▸ quota) (htask ▸ status) amount fun hc => ?_
    rw [hch] at hc
    exact hrows hc (row hc)

theorem Inv.setPhase {i : Nat} {phase : Phase} (h : Inv r start es s) (hw : s.finalizers[i]? = some w)
    (hclaimed : phase≠.claimed) (hinserted : phase≠.inserted) : Inv r start es (s.setPhase i w phase) := by
  have hmem : w∈s.finalizers := mem_of_getElem? hw
  refine h.refinalize hmem rfl rfl rfl (fun _ => id)
    ⟨h.logged.request,h.logged.keyed,h.logged.rows,fun hc x hx hp => ?_,fun x hx => ?_,fun hc => ?_⟩
  · obtain hx | rfl := mem_or_eq_of_mem_set hx
    · exact h.logged.inserted hc x hx hp
    · exact absurd hp hinserted
  · obtain hx | rfl := mem_or_eq_of_mem_set hx
    · exact h.logged.finalizer x hx
    · exact h.logged.finalizer w hmem
  · have hset := pending_set hw { w with phase := phase }
    simp only [if_neg hclaimed] at hset
    have hle := h.logged.attempts hc
    simp only [System.setPhase]
    omega

theorem inv_record (h : Inv r start es s) (f : Nat) (createdAt : Int) (outcome : InsertOutcome) :
    Inv r start (es++emit s (.recordTaskBillingLog f createdAt outcome))
      (step s (.recordTaskBillingLog f createdAt outcome)) := by
  obtain hsame | ⟨w,hw,hp,hstep⟩ := withFinalizer_cases s f .claimed fun w =>
    let answer := recordTaskBillingLogOnceWithDB s.sink (buildTaskBillingLog w.params createdAt) outcome
    { s.setPhase f w (if answer.2 then .inserted else .failed) with sink := answer.1 }
  · exact h.idle hsame rfl
  have hmem : w∈s.finalizers := mem_of_getElem? hw
  cases hr : recordTaskBillingLogOnceWithDB s.sink (buildTaskBillingLog w.params createdAt) outcome with
  | mk sink' ok =>
    rw [hr] at hstep
    obtain ⟨hkeyed,hch,hattempts,hrows⟩ := recordOnce_keeps h.logged.keyed (h.logged.finalizer w hmem) hr
    refine Inv.silent ?_ hstep rfl id
    refine h.refinalize hmem rfl rfl hch (fun hc h1 => (hrows hc h1.le).2 (.inr h1))
      ⟨h.logged.request,hkeyed,fun hc => ?_,fun hc x hx hi => ?_,fun x hx => ?_,fun hc => ?_⟩
    · have hc : s.sink.clickHouse=false := hch ▸ hc
      exact (hrows hc (h.logged.rows hc)).1
    · have hc : s.sink.clickHouse=false := hch ▸ hc
      have hkeep := (hrows hc (h.logged.rows hc)).2
      obtain hx | rfl := mem_or_eq_of_mem_set hx
      · exact hkeep (.inr (h.logged.inserted hc x hx hi))
      cases ok with
      | true => exact hkeep (.inl rfl)
      | false => cases hi
    · obtain hx | rfl := mem_or_eq_of_mem_set hx
      · exact h.logged.finalizer x hx
      · exact h.logged.finalizer w hmem
    · have hc : s.sink.clickHouse=true := hch ▸ hc
      have hset := pending_set hw { w with phase := if ok then .inserted else .failed }
      have hnew : (if ok=true then Phase.inserted else .failed)≠.claimed := by
        cases ok <;> decide
      simp only [if_neg hnew,if_pos hp] at hset
      have hle := h.logged.attempts hc
      simp only [System.setPhase]
      omega

theorem inv_release (h : Inv r start es s) (f : Nat) :
    Inv r start (es++emit s (.releaseImageTaskRefundLogClaim f)) (step s (.releaseImageTaskRefundLogClaim f)) := by
  obtain hsame | ⟨w,hw,-,hstep⟩ := withFinalizer_cases s f .failed fun w =>
    if s.sink.clickHouse then s.setPhase f w .returned
    else { s.setPhase f w .returned with task := releaseImageTaskRefundLogClaim s.task w.claimToken }
  · exact h.idle hsame rfl
  have hv : Inv r start es (s.setPhase f w .returned) := h.setPhase hw (by decide) (by decide)
  by_cases hc : s.sink.clickHouse=true
  · rw [if_pos hc] at hstep
    exact hv.silent hstep rfl id
  · rw [if_neg hc] at hstep
    have hrelease : releaseImageTaskRefundLogClaim s.task w.claimToken=s.task ∨ ∃ m, s.task.marker=some m ∧
        releaseImageTaskRefundLogClaim s.task w.claimToken =
          s.task.withMarker (some { m with logClaimToken := "", logClaimUntil := 0 }) .pending := by
      unfold releaseImageTaskRefundLogClaim
      cases hm : s.task.marker with
      | none => exact .inl rfl
      | some m =>
        simp only
        split
        · exact .inl rfl
        split
        · exact .inl rfl
        split
        · exact .inl rfl
        · exact .inr ⟨m,rfl,rfl⟩
    obtain hrelease | ⟨m,hm,hrelease⟩ := hrelease
    · rw [hrelease] at hstep
      exact hv.silent hstep rfl id
    · rw [hrelease] at hstep
      refine Inv.silent ?_ hstep rfl fun _ => rfl
      exact hv.remark (s := s.setPhase f w .returned) hm (by rfl) (by rfl) (by rfl) _

theorem completeClaim_cases (h : completeImageTaskRefundLogClaim t requestId token=.ok t') :
    t'=t ∨ ∃ m, t.marker=some m ∧ m.accountingDone=true ∧ t'=t.withMarker none .none := by
  obtain ⟨m,hm,h⟩ := bind_ok h
  obtain ⟨-,hmarker,hdone⟩ := validateFinalization_ok hm
  cases m with
  | none =>
    cases h
    exact .inl rfl
  | some m =>
    simp only at h
    split at h
    · cases h
    · cases h
      exact .inr ⟨m,hmarker,hdone m rfl,rfl⟩

theorem inv_complete (h : Inv r start es s) (f : Nat) :
    Inv r start (es++emit s (.completeImageTaskRefundLogClaim f)) (step s (.completeImageTaskRefundLogClaim f)) := by
  obtain hsame | ⟨w,hw,hp,hstep⟩ := withFinalizer_cases s f .inserted fun w =>
    { s.setPhase f w .returned with
      task := commit s.task (completeImageTaskRefundLogClaim s.task w.params.requestId w.claimToken) }
  · exact h.idle hsame rfl
  have hv : Inv r start es (s.setPhase f w .returned) := h.setPhase hw (by decide) (by decide)
  have hstep : step s (.completeImageTaskRefundLogClaim f)=_ := hstep
  cases hc : completeImageTaskRefundLogClaim s.task w.params.requestId w.claimToken with
  | error e =>
    rw [hc,commit_error] at hstep
    exact hv.silent hstep rfl id
  | ok t =>
    rw [hc,commit_ok] at hstep
    obtain rfl | ⟨m,hm,hd,rfl⟩ := completeClaim_cases hc
    · exact hv.silent hstep rfl id
    obtain ⟨hes,hquota,hstatus,hamount,-,-⟩ := h.of_marker hm
    have hemit : emit s (.completeImageTaskRefundLogClaim f)=[.cleared] := by
      rw [emit,hstep,if_pos ⟨by rw [hm]; rfl,rfl⟩]
      rfl
    have hrow : s.sink.clickHouse=false → s.sink.refundRows r=1 := fun hcl =>
      h.logged.inserted hcl w (mem_of_getElem? hw) hp
    rw [hemit,hstep,hes,hd]
    refine ⟨Stage.cleared (c := m.charge) rfl hquota hstatus hamount hrow,
      ⟨h.logged.request,h.logged.keyed,h.logged.rows,hv.logged.inserted,hv.logged.finalizer, hv.logged.attempts⟩,?_⟩
    have haccounts := h.accounts
    rw [hes,hd] at haccounts
    exact haccounts

theorem inv_step (h : Inv r start es s) (hok : RefundsInactive s op) : Inv r start (es++emit s op) (step s op) := by
  cases op with
  | read | findEvidence _ _ | persistImageTaskBillingFromConsumeLog _ => exact inv_copying rfl h
  | failImageTask _ _ _ | claimStaleImageTaskForBilling _ _ _ | claimFailedImageTaskRefundRetry _ _ => exact inv_copying rfl h
  | refundImageTaskMoney q now reason => exact inv_refund h q now reason hok
  | reconcileImageTaskRefundAccounting => exact inv_reconcile h
  | markImageTaskRefundCacheRepaired => exact inv_markCache h
  | claimImageTaskRefundLog params token now => exact inv_claim h params token now
  | recordTaskBillingLog f createdAt outcome => exact inv_record h f createdAt outcome
  | releaseImageTaskRefundLogClaim f => exact inv_release h f
  | completeImageTaskRefundLogClaim f => exact inv_complete h f
  | markImageTaskRefundManualReconciliationReported => exact inv_manual h

end Steps

theorem Fresh.inv {s : System} (h : Fresh s) : Inv s.task.taskId s.accounts [] s := by
  refine ⟨.untouched h.marker ⟨h.finalizers,h.attempts⟩ fun _ x hx => ?_,⟨rfl,h.keyed,fun _ => h.rows,fun _ w hw => ?_,
    fun w hw => ?_,fun _ => ?_⟩,rfl⟩
  · rw [h.held] at hx
    cases hx
  · rw [h.finalizers] at hw
    cases hw
  · rw [h.finalizers] at hw
    cases hw
  · rw [h.attempts,h.finalizers]
    decide

theorem recordOnce_clickHouse (sink : Sink) (log : Log) (outcome : InsertOutcome) :
    (recordTaskBillingLogOnceWithDB sink log outcome).1.clickHouse=sink.clickHouse := by
  unfold recordTaskBillingLogOnceWithDB Sink.create
  split
  · rfl
  split
  · rfl
  · split <;> rfl

theorem step_clickHouse (s : System) (op : Op) : (step s op).sink.clickHouse=s.sink.clickHouse := by
  cases op with
  | recordTaskBillingLog f createdAt outcome =>
    obtain hsame | ⟨w,-,-,hstep⟩ := withFinalizer_cases s f .claimed fun w =>
      let answer := recordTaskBillingLogOnceWithDB s.sink (buildTaskBillingLog w.params createdAt) outcome
      { s.setPhase f w (if answer.2 then .inserted else .failed) with sink := answer.1 }
    · exact congrArg (·.sink.clickHouse) hsame
    · exact (congrArg (·.sink.clickHouse) hstep).trans (recordOnce_clickHouse _ _ _)
  | _ =>
    simp only [step,System.withHeld,System.withFinalizer,System.setPhase]
    repeat' split
    all_goals rfl

theorem run_clickHouse (ops : List Op) (s : System) : (run step ops s).sink.clickHouse=s.sink.clickHouse := by
  induction ops generalizing s with
  | nil => rfl
  | cons op ops ih => exact (ih (step s op)).trans (step_clickHouse s op)

/-- Whatever the order of the workers' steps, the run credits the funding, reverses the counters and clears the marker
in this order and each at most once; a relational sink holds at most one refund row, a ClickHouse sink is sent at most
one. -/
theorem image_task_refunded_once {ops : List Op} {s : System} (hs : Fresh s) (h : Guarded step RefundsInactive ops s) :
    (∃ c, events step emit ops s <+: [.credited c,.reversed c,.cleared]) ∧
      (∀ c, .credited c∈events step emit ops s → 0<c.amount) ∧
      (run step ops s).accounts=(events step emit ops s).foldl (Event.apply s.task.taskId) s.accounts ∧
      (s.sink.clickHouse=false → (run step ops s).sink.refundRows s.task.taskId≤1 ∧
        (.cleared∈events step emit ops s → (run step ops s).sink.refundRows s.task.taskId=1)) ∧
      (s.sink.clickHouse=true → (run step ops s).sink.attempts≤1) := by
  have hinv : Inv s.task.taskId s.accounts (events step emit ops s) (run step ops s) := by
    simpa using Guarded.invariant_events (fun es s op hi hok => inv_step hi hok) hs.inv h
  have hch := run_clickHouse ops s
  refine ⟨?_,?_,hinv.accounts,fun hc => ⟨hinv.logged.rows (hch.trans hc),?_⟩,fun hc => ?_⟩
  · generalize events step emit ops s=es at hinv
    cases hinv.stage with
    | untouched _ _ _ => exact ⟨s.task.charge, nil_prefix⟩
    | @refunded _ m _ _ _ _ _ _ =>
      refine ⟨m.charge,?_⟩
      cases m.accountingDone with
      | false => exact ⟨[.reversed m.charge,.cleared],rfl⟩
      | true => exact ⟨[.cleared],rfl⟩
    | @cleared _ c _ _ _ _ _ => exact ⟨c,prefix_rfl⟩
  · intro c hmem
    generalize events step emit ops s=es at hinv hmem
    cases hinv.stage with
    | untouched _ _ _ => cases hmem
    | @refunded _ m _ _ _ amount _ _ =>
      have hc : c=m.charge := by
        cases hd : m.accountingDone <;> simp [hd] at hmem <;> exact hmem
      rw [hc]
      exact amount
    | @cleared _ c' _ _ _ amount _ =>
      have hc : c=c' := by simpa using hmem
      rw [hc]
      exact amount
  · intro hmem
    generalize events step emit ops s=es at hinv hmem
    cases hinv.stage with
    | untouched _ _ _ => cases hmem
    | @refunded _ m _ _ _ _ _ _ => cases hd : m.accountingDone <;> simp [hd] at hmem
    | cleared _ _ _ _ row => exact row (hch.trans hc)
  · have := hinv.logged.attempts (hch.trans hc)
    omega

def walletTask (status : TaskStatus) : System :=
  { task := { taskId := "t1", userId := 7, channelId := 3, status := status, quota := 100,
              privateData := { billingSource := .wallet, tokenId := 5 } }
    accounts := { users := [⟨7,900,4,500⟩], tokens := [⟨5,50,500⟩], channels := [⟨3,800⟩] }
    sink := { clickHouse := false
              logs := [{ requestId := "t1", userId := 7, type := .consume, quota := 100, tokenId := 5, channelId := 3 }] } }

theorem walletTask_fresh (status : TaskStatus) : Fresh (walletTask status) := by
  refine ⟨rfl,rfl,rfl,rfl,by cases status <;> decide,fun l hl hk => ?_⟩
  rw [mem_singleton.mp hl] at hk
  cases hk

def refundRun : List Op :=
  [.read,.findEvidence 0 "n1",.persistImageTaskBillingFromConsumeLog 0,.failImageTask 0 10 "timed out",
    .refundImageTaskMoney 100 11 "timed out",.refundImageTaskMoney 100 12 "timed out",
    .reconcileImageTaskRefundAccounting,.reconcileImageTaskRefundAccounting,.markImageTaskRefundCacheRepaired,
    .claimImageTaskRefundLog { requestId := "t1", userId := 7 } "u1" 20,
    .recordTaskBillingLog 0 21 .lost,.claimImageTaskRefundLog { requestId := "t1", userId := 7 } "u2" 200,
    .recordTaskBillingLog 1 201 .stored,.releaseImageTaskRefundLogClaim 0,.completeImageTaskRefundLogClaim 1]

theorem image_task_refunded_once_retried : events step emit refundRun (walletTask .inProgress) =
        [.credited ⟨100,7,3,5,.wallet,0⟩,.reversed ⟨100,7,3,5,.wallet,0⟩,.cleared] ∧
      (run step refundRun (walletTask .inProgress)).accounts.users=[⟨7,1000,5,400⟩] ∧
      (run step refundRun (walletTask .inProgress)).sink.refundRows "t1" ≤ 1 := by
  have hok : Guarded step RefundsInactive refundRun (walletTask .inProgress) := by decide +kernel
  obtain ⟨-,-,-,hrelational,-⟩ := image_task_refunded_once (walletTask_fresh .inProgress) hok
  exact ⟨by decide +kernel,by decide +kernel,(hrelational rfl).1⟩

def resetSubscriptionTask : System :=
  { task := { taskId := "t1", userId := 7, status := .failure, quota := 100,
              privateData := { billingSource := .subscription, subscriptionId := 2 } }
    accounts := { users := [⟨7,900,4,500⟩]
                  subscriptions := ⟨[], [{ id := 2, userId := 7, planId := 1, amountTotal := 1000, amountUsed := 40,
                                           startTime := 0, endTime := 100, status := .active }],[]⟩ }
    sink := { clickHouse := false } }

/-- A task that is still active is credited twice when its billing is persisted between two refunds, and a
subscription is credited by less than the quota when its counter is lower. -/
theorem image_task_refund_repeated : Fresh (walletTask .inProgress) ∧ Fresh resetSubscriptionTask ∧
      events step emit [.read,.findEvidence 0 "n1",.refundImageTaskMoney 100 11 "failed",
          .persistImageTaskBillingFromConsumeLog 0,.refundImageTaskMoney 100 12 "failed"] (walletTask .inProgress) =
        [.credited ⟨100,7,3,5,.wallet,0⟩,.cleared,.credited ⟨100,7,3,5,.wallet,0⟩] ∧
      (run step [.read,.findEvidence 0 "n1",.refundImageTaskMoney 100 11 "failed",
          .persistImageTaskBillingFromConsumeLog 0,.refundImageTaskMoney 100 12 "failed"]
        (walletTask .inProgress)).accounts.users=[⟨7,1100,6,500⟩] ∧
      (run step [.refundImageTaskMoney 100 11 "failed"] resetSubscriptionTask).accounts.subscriptions.subs.map
        (·.amountUsed)=[0] := by
  refine ⟨walletTask_fresh _,⟨rfl,rfl,rfl,rfl,by decide,fun l hl => nomatch hl⟩,?_,?_,?_⟩ <;> decide +kernel

end NewApi.ImageTask
