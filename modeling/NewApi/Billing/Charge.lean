import NewApi.Billing.Session
import NewApi.Subscription.Account

/-! What a session over one source has charged. Every call of a run moves the charge to the amount
that the flags of the session promise, up to what failed compensations leave behind. -/
namespace NewApi.Billing
open Funding Subscription BillingSession

variable {addDate : AddDate} {now : Int} {s : BillingSession}

namespace BillingSession

@[simp] theorem world_withWorld (w : World) : (s.withWorld w).world = w := rfl
@[simp] theorem kind_withWorld (w : World) : (s.withWorld w).kind = s.kind := rfl

end BillingSession

def TokenOnly (w w' : World) : Prop := ∃ token, w'={ w with token := token, down := false }

theorem call_token (f : Call World) (down : Bool) (hf : ∀ w, ∃ token, (f w).1={ w with token := token }) :
    ∃ w, TokenOnly s.world w ∧ (s.call down f).1=s.withWorld w := by
  obtain ⟨token,htoken⟩ := hf { s.world with down := down }
  refine ⟨{ s.world with token := token, down := false },⟨token,rfl⟩,?_⟩
  simp only [BillingSession.call,htoken]

theorem decreaseTokenQuota_token (quota : Int) (w : World) :
    ∃ token, (decreaseTokenQuota quota w).1={ w with token := token } := by
  unfold decreaseTokenQuota
  split
  · exact ⟨w.token,rfl⟩
  split
  · exact ⟨w.token,rfl⟩
  · exact ⟨_,rfl⟩

theorem increaseTokenQuota_token (quota : Int) (w : World) :
    ∃ token, (increaseTokenQuota quota w).1={ w with token := token } := by
  unfold increaseTokenQuota
  split
  · exact ⟨w.token,rfl⟩
  split
  · exact ⟨w.token,rfl⟩
  · exact ⟨_,rfl⟩

theorem tryReserveTokenQuota_token (quota : Int) (unlimited : Bool) (w : World) :
    ∃ token, (tryReserveTokenQuota quota unlimited w).1={ w with token := token } := by
  unfold tryReserveTokenQuota
  split
  · exact ⟨w.token,rfl⟩
  split
  · exact ⟨w.token,rfl⟩
  split
  · exact decreaseTokenQuota_token quota w
  split
  · exact ⟨w.token,rfl⟩
  split
  · exact ⟨_,rfl⟩
  · exact ⟨w.token,rfl⟩

/-- The session after a call of the token's database: itself, or itself with another token quota. -/
def Tokened (s s' : BillingSession) : Prop := s'=s ∨ ∃ w, TokenOnly s.world w ∧ s'=s.withWorld w

theorem preConsumeTokenQuota_tokened (down : Bool) (quota : Int) : Tokened s (s.preConsumeTokenQuota down quota).1 := by
  unfold preConsumeTokenQuota
  split
  · exact Or.inl rfl
  split
  · exact Or.inl rfl
  · exact Or.inr (call_token _ down fun w => tryReserveTokenQuota_token quota _ w)

theorem reserveToken_tokened (down : Bool) (delta : Int) : Tokened s (s.reserveToken down delta).1 := by
  unfold reserveToken
  split
  · exact Or.inl rfl
  · exact preConsumeTokenQuota_tokened down delta

structure SameFunds (w w' : World) : Prop where
  wallet : w'.wallet=w.wallet
  purse : w'.purse=w.purse
  subs : w'.subs=w.subs
  subscription : w'.subscription=w.subscription

theorem SameFunds.refl (w : World) : SameFunds w w := ⟨rfl,rfl,rfl,rfl⟩

theorem TokenOnly.sameFunds {w w' : World} (h : TokenOnly w w') : SameFunds w w' := by
  obtain ⟨token,rfl⟩ := h
  exact ⟨rfl,rfl,rfl,rfl⟩

structure SameState (s s' : BillingSession) : Prop where
  kind : s'.kind=s.kind
  relayInfo : s'.relayInfo=s.relayInfo
  preConsumedQuota : s'.preConsumedQuota=s.preConsumedQuota
  tokenConsumed : s'.tokenConsumed=s.tokenConsumed
  extraReserved : s'.extraReserved=s.extraReserved
  trusted : s'.trusted=s.trusted
  fundingSettled : s'.fundingSettled=s.fundingSettled
  settled : s'.settled=s.settled
  refunded : s'.refunded=s.refunded

theorem sameState_withWorld (w : World) : SameState s (s.withWorld w) :=
  ⟨rfl,rfl,rfl,rfl,rfl,rfl,rfl,rfl,rfl⟩

theorem SameState.refl (s : BillingSession) : SameState s s := ⟨rfl,rfl,rfl,rfl,rfl,rfl,rfl,rfl,rfl⟩

theorem SameState.trans {s t u : BillingSession} (h : SameState s t) (h' : SameState t u) : SameState s u :=
  ⟨h'.kind.trans h.kind,h'.relayInfo.trans h.relayInfo,h'.preConsumedQuota.trans h.preConsumedQuota,
    h'.tokenConsumed.trans h.tokenConsumed,h'.extraReserved.trans h.extraReserved,h'.trusted.trans h.trusted,
    h'.fundingSettled.trans h.fundingSettled,h'.settled.trans h.settled,h'.refunded.trans h.refunded⟩

theorem Tokened.sameState {s' : BillingSession} (h : Tokened s s') : SameState s s' := by
  obtain rfl | ⟨w,-,rfl⟩ := h
  · exact SameState.refl s'
  · exact sameState_withWorld w

theorem Tokened.sameFunds {s' : BillingSession} (h : Tokened s s') : SameFunds s.world s'.world := by
  obtain rfl | ⟨w,hw,rfl⟩ := h
  · exact SameFunds.refl _
  · exact hw.sameFunds

theorem reserve_cases (addDate : AddDate) (now : Int) {target delta : Int} (hdelta : delta=target-s.preConsumedQuota) (faults : Faults) :
    s.reserve addDate now target faults=(s,[]) ∨ (s.settled=false ∧ s.refunded=false ∧ 0<delta ∧
        ((∃ s' err errs, s.reserveFunding addDate now faults.funding delta=(s',err::errs) ∧
            s.reserve addDate now target faults=(s',err::errs)) ∨
          ∃ s1 s2, s.reserveFunding addDate now faults.funding delta=(s1,[]) ∧ Tokened s1 s2 ∧
            (s.reserve addDate now target faults=(s2.reserved addDate now delta,[]) ∨
              ∃ err s3 errs, s2.rollbackFundingReserve addDate now faults.undo delta=(s3,errs) ∧
                s.reserve addDate now target faults=(s3,err::errs)))) := by
  unfold BillingSession.reserve
  rw [← hdelta]
  split
  · exact Or.inl rfl
  rename_i hopen
  simp only [Bool.or_eq_true,not_or,Bool.not_eq_true,decide_eq_true_eq,not_le] at hopen
  refine Or.inr ⟨hopen.1.1.1,hopen.1.1.2,by omega,?_⟩
  simp only
  rcases hfunding : s.reserveFunding addDate now faults.funding delta with ⟨s1,_ | ⟨err,errs⟩⟩
  · have htokened := reserveToken_tokened (s := s1) faults.token delta
    rcases htoken : s1.reserveToken faults.token delta with ⟨s2,_ | err⟩
    · rw [htoken] at htokened
      exact Or.inr ⟨s1,s2,rfl,htokened,Or.inl (by simp only [htoken])⟩
    · rw [htoken] at htokened
      rcases hundo : s2.rollbackFundingReserve addDate now faults.undo delta with ⟨s3,errs⟩
      exact Or.inr ⟨s1,s2,rfl,htokened,Or.inr ⟨err,s3,errs,hundo,by simp only [htoken,hundo]⟩⟩
  · exact Or.inl ⟨s1,err,errs,rfl,rfl⟩

theorem call_tokened_of (down : Bool) (f : Call World) (hf : ∀ w, ∃ token, (f w).1={ w with token := token }) :
    Tokened s (s.call down f).1 := Or.inr (call_token f down hf)

theorem settle_cases (addDate : AddDate) (now actual : Int) (faults : Faults) (hflags : s.fundingSettled=s.settled) :
    s.settle addDate now actual faults=(s,[]) ∧ s.settled=true ∨ (s.settled=false ∧
        ((∃ s' err errs, s.fundingSettle addDate now faults.funding (actual-s.preConsumedQuota) =
              (s',err::errs) ∧ s.settle addDate now actual faults=(s',err::errs)) ∨
          ∃ s1 s2 errs, s.fundingSettle addDate now faults.funding (actual-s.preConsumedQuota)=(s1,[]) ∧
            Tokened { s1 with fundingSettled := true } s2 ∧
            s.settle addDate now actual faults=({ s2 with settled := true },errs))) := by
  unfold BillingSession.settle
  split
  next hsettled =>
    exact Or.inl ⟨rfl,hsettled⟩
  rename_i hsettled
  simp only [Bool.not_eq_true] at hsettled
  refine Or.inr ⟨hsettled,?_⟩
  simp only [hflags,hsettled,Bool.false_eq_true,if_false]
  rcases hfunding : s.fundingSettle addDate now faults.funding (actual-s.preConsumedQuota) with
    ⟨s1,_ | ⟨err,errs⟩⟩
  · simp only
    refine Or.inr ⟨s1,?_⟩
    split
    · exact ⟨_,[],rfl,Or.inl rfl,rfl⟩
    split
    · refine ⟨_,_,rfl,call_tokened_of faults.token _ (fun w => ?_),rfl⟩
      split
      · exact decreaseTokenQuota_token _ w
      · exact increaseTokenQuota_token _ w
    · exact ⟨_,[],rfl,Or.inl rfl,rfl⟩
  · exact Or.inl ⟨s1,err,errs,rfl,rfl⟩

theorem refund_session_cases (addDate : AddDate) (now : Int) (faults : Faults) :
    s.refund addDate now faults=(s,[]) ∨ (s.settled=false ∧ s.refunded=false ∧ s.fundingSettled=false ∧
        s.refund addDate now faults=refundAll addDate now { s with refunded := true } faults) := by
  unfold BillingSession.refund
  split
  · exact Or.inl rfl
  rename_i hopen
  simp only [Bool.or_eq_true,not_or,Bool.not_eq_true,Bool.not_eq_true',Bool.not_eq_false] at hopen
  obtain ⟨⟨hsettled,hrefunded⟩,hneeds⟩ := hopen
  refine Or.inr ⟨hsettled,hrefunded,?_,rfl⟩
  unfold needsRefundLocked at hneeds
  split at hneeds
  · cases hneeds
  rename_i hflags
  simp only [Bool.or_eq_true,not_or,Bool.not_eq_true] at hflags
  exact hflags.2

inductive SessionCall where
  | reserve (now targetQuota : Int) (faults : Faults)
  | settle (now actualQuota : Int) (faults : Faults)
  | refund (now : Int) (faults : Faults)

def sessionStep (addDate : AddDate) (s : BillingSession) : SessionCall → BillingSession
  | .reserve now targetQuota faults => (s.reserve addDate now targetQuota faults).1
  | .settle now actualQuota faults => (s.settle addDate now actualQuota faults).1
  | .refund now faults => (s.refund addDate now faults).1

/-- The part of a charge that a `Refund` with this log did not return. -/
def kept (s : BillingSession) (charge : Int) (logs : List RefundLog) : Int :=
  if s.kind=.wallet then if .billingSource∈logs then charge else 0
  else charge-(if .billingSource∈logs then 0 else s.world.subscription.preConsumed) -
    (if .extraReserved∈logs then 0 else s.extraReserved)

/-- The account of a run: the quota of the `Settle` that committed the funding, and what failed
compensations have left charged (a `Reserve` with two errors failed at the token and at its rollback). -/
structure Tally where
  actual : Option Int := none
  left : Int := 0

def tallyStep (addDate : AddDate) (s : BillingSession) (t : Tally) : SessionCall → Tally
  | .reserve now targetQuota faults =>
    if (s.reserve addDate now targetQuota faults).2.length≥2 then
      { t with left := t.left+(targetQuota-s.preConsumedQuota) }
    else t
  | .settle now actualQuota faults =>
    if s.settled=false ∧ (s.settle addDate now actualQuota faults).1.settled=true then
      { t with actual := some actualQuota }
    else t
  | .refund now faults =>
    if s.refunded=false ∧ (s.refund addDate now faults).1.refunded=true then
      { t with left := kept s (s.preConsumedQuota+t.left) (s.refund addDate now faults).2 }
    else t

def tallied (addDate : AddDate) (st : BillingSession×Tally) (c : SessionCall) : BillingSession×Tally :=
  (sessionStep addDate st.1 c,tallyStep addDate st.1 st.2 c)

/-- What a funding source promises to a session: `At s c` is an open account with the charge `c`,
`Charged w c` a charge that no call of the session moves any more. -/
structure Account (addDate : AddDate) (At : BillingSession → Int → Prop) (Charged : World → Int → Prop)
    (floor : Int → Int) : Prop where
  tokened : ∀ {s s' c}, At s c → Tokened s s' → At s' c
  funds : ∀ {w w' c}, Charged w c → SameFunds w w' → Charged w' c
  reserved : ∀ {s c now delta}, At s c → 0<delta → s.world.subscription.subscriptionId>0 ∨ s.kind=.wallet →
    At (s.reserved addDate now delta) c
  reserve : ∀ {s s' c now down delta errs}, At s c → 0≤c → 0<delta → s.reserveFunding addDate now down delta=(s',errs) →
    SameState s s' ∧ (errs=[] ∧ At s' (c+delta) ∧
      (s'.world.subscription.subscriptionId>0 ∨ s'.kind=.wallet) ∨ errs.length=1 ∧ At s' c)
  rollback : ∀ {s s' c now down delta errs}, At s c → 0<delta → delta≤c →
    s.rollbackFundingReserve addDate now down delta=(s',errs) →
    SameState s s' ∧ (errs=[] ∧ At s' (c-delta) ∨ errs.length=1 ∧ At s' c)
  settle : ∀ {s s' c now down delta errs}, At s c → 0≤c → s.fundingSettle addDate now down delta=(s',errs) →
    SameState s s' ∧ (errs=[] ∧ Charged s'.world (floor (c+delta)) ∨ errs≠[] ∧ At s' c)
  refund : ∀ {s s' c now faults logs}, At s c → s.preConsumedQuota≤c → 0 ≤ s.preConsumedQuota →
    refundAll addDate now { s with refunded := true } faults=(s',logs) →
    SameState { s with refunded := true } s' ∧ Charged s'.world (floor (kept s c logs))
  whole : ∀ {s c logs}, At s c → .billingSource∉logs → .extraReserved∉logs → kept s s.preConsumedQuota logs=0

structure Ledgered (At : BillingSession → Int → Prop) (Charged : World → Int → Prop) (floor : Int → Int)
    (s : BillingSession) (t : Tally) : Prop where
  flags : s.fundingSettled=s.settled
  apart : ¬ (s.settled=true ∧ s.refunded=true)
  opened : s.settled = false → s.refunded = false →
    0≤t.left ∧ 0 ≤ s.preConsumedQuota ∧ At s (s.preConsumedQuota+t.left)
  settled : s.settled=true → ∃ actual, t.actual=some actual ∧ Charged s.world (floor (actual+t.left))
  refunded : s.refunded=true → Charged s.world (floor t.left)

def settlesBeforeRefund (s : BillingSession) : SessionCall → Prop
  | .settle _ _ _ => s.refunded=false
  | _ => True

variable {At : BillingSession → Int → Prop} {Charged : World → Int → Prop} {floor : Int → Int} {t : Tally}

theorem Ledgered.reopen (h : Ledgered At Charged floor s t) {s' : BillingSession} {t' : Tally}
    (hsame : SameState s s') (hsettled : s.settled=false) (hrefunded : s.refunded=false)
    (hleft : 0≤t'.left) (hat : At s' (s.preConsumedQuota+t'.left)) : Ledgered At Charged floor s' t' := by
  refine ⟨by rw [hsame.fundingSettled,hsame.settled,h.flags],by simp [hsame.settled,hsettled],fun _ _ => ?_,
    fun hs => ?_,fun hr => ?_⟩
  · rw [hsame.preConsumedQuota]
    exact ⟨hleft,(h.opened hsettled hrefunded).2.1,hat⟩
  · rw [hsame.settled,hsettled] at hs
    cases hs
  · rw [hsame.refunded,hrefunded] at hr
    cases hr

theorem Ledgered.reserve (hA : Account addDate At Charged floor) (h : Ledgered At Charged floor s t)
    (now target : Int) (faults : Faults) : Ledgered At Charged floor (sessionStep addDate s (.reserve now target faults))
      (tallyStep addDate s t (.reserve now target faults)) := by
  simp only [sessionStep,tallyStep]
  obtain ⟨delta,hdelta⟩ : ∃ delta, delta=target-s.preConsumedQuota := ⟨_,rfl⟩
  rw [← hdelta]
  rcases reserve_cases addDate now hdelta faults with
    hnoop | ⟨hsettled,hrefunded,hpos,hfail | ⟨s1,s2,hfunding,htoken,hout⟩⟩
  · rw [hnoop]
    exact h
  · obtain ⟨s',err,errs,hfunding,hout⟩ := hfail
    obtain ⟨hleft,hpre,hat⟩ := h.opened hsettled hrefunded
    obtain ⟨hsame,hcase⟩ := hA.reserve hat (by omega) hpos hfunding
    obtain ⟨hnil,-⟩ | ⟨hone,hat'⟩ := hcase
    · cases hnil
    rw [hout,if_neg (by simp only [List.length_cons] at hone ⊢; omega)]
    exact h.reopen hsame hsettled hrefunded hleft hat'
  · obtain ⟨hleft,hpre,hat⟩ := h.opened hsettled hrefunded
    obtain ⟨hsame,hcase⟩ := hA.reserve hat (by omega) hpos hfunding
    obtain ⟨-,hat1,hpaid⟩ | ⟨hone,-⟩ := hcase
    · have hat2 := hA.tokened hat1 htoken
      have hsame2 := hsame.trans htoken.sameState
      obtain hok | ⟨err,s3,errs,hundo,hout⟩ := hout
      · rw [hok,if_neg (by simp)]
        have hpaid2 : s2.world.subscription.subscriptionId>0 ∨ s2.kind=.wallet := by
          rw [htoken.sameFunds.subscription,htoken.sameState.kind]
          exact hpaid
        have hat' : At (s2.reserved addDate now delta) (s.preConsumedQuota+t.left+delta) :=
          hA.reserved hat2 hpos hpaid2
        refine ⟨?_,?_,fun _ _ => ⟨hleft,?_,?_⟩,fun hs => ?_,fun hr => ?_⟩
        · exact hsame2.fundingSettled.trans (h.flags.trans hsame2.settled.symm)
        · intro hboth
          exact Bool.false_ne_true ((hsettled.symm.trans hsame2.settled.symm).trans hboth.1)
        · simp only [BillingSession.reserved,hsame2.preConsumedQuota]
          omega
        · have hsum : (s2.reserved addDate now delta).preConsumedQuota+t.left = s.preConsumedQuota+t.left+delta := by
            simp only [BillingSession.reserved,hsame2.preConsumedQuota]
            omega
          rw [hsum]
          exact hat'
        · exact absurd ((hsettled.symm.trans hsame2.settled.symm).trans hs) Bool.false_ne_true
        · exact absurd ((hrefunded.symm.trans hsame2.refunded.symm).trans hr) Bool.false_ne_true
      · obtain ⟨hsame3,hcase⟩ := hA.rollback hat2 hpos (by omega) hundo
        rw [hout]
        obtain ⟨rfl,hat3⟩ | ⟨hone,hat3⟩ := hcase
        · rw [if_neg (by simp)]
          have hback : s.preConsumedQuota+t.left+delta-delta=s.preConsumedQuota+t.left := by omega
          exact h.reopen (hsame2.trans hsame3) hsettled hrefunded hleft (hback ▸ hat3)
        · rw [if_pos (by simp only [List.length_cons]; omega)]
          have hmore : s.preConsumedQuota+t.left+delta=s.preConsumedQuota+(t.left+delta) := by omega
          exact h.reopen (hsame2.trans hsame3) hsettled hrefunded (by simp only; omega) (hmore ▸ hat3)
    · simp at hone

theorem Ledgered.settle (hA : Account addDate At Charged floor) (h : Ledgered At Charged floor s t)
    (now actual : Int) (faults : Faults) (hopen : s.refunded=false) :
    Ledgered At Charged floor (sessionStep addDate s (.settle now actual faults))
      (tallyStep addDate s t (.settle now actual faults)) := by
  simp only [sessionStep,tallyStep]
  rcases settle_cases addDate now actual faults h.flags with
    ⟨hnoop,hsettled⟩ | ⟨hsettled,⟨s',err,errs,hfunding,hout⟩ | ⟨s1,s2,errs,hfunding,htoken,hout⟩⟩
  · rw [hnoop,if_neg (by simp [hsettled])]
    exact h
  · obtain ⟨hleft,hpre,hat⟩ := h.opened hsettled hopen
    obtain ⟨hsame,hcase⟩ := hA.settle hat (by omega) hfunding
    obtain ⟨hnil,-⟩ | ⟨-,hat'⟩ := hcase
    · cases hnil
    rw [hout,if_neg (by simp [hsame.settled,hsettled])]
    exact h.reopen hsame hsettled hopen hleft hat'
  · obtain ⟨hleft,hpre,hat⟩ := h.opened hsettled hopen
    obtain ⟨hsame,hcase⟩ := hA.settle hat (by omega) hfunding
    obtain ⟨-,hcharged⟩ | ⟨hne,-⟩ := hcase
    · have hfinal : Charged s2.world (floor (actual+t.left)) := by
        have hsum : s.preConsumedQuota+t.left+(actual-s.preConsumedQuota)=actual+t.left := by omega
        rw [hsum] at hcharged
        exact hA.funds hcharged htoken.sameFunds
      have hstate := htoken.sameState
      have hrefunded2 : s2.refunded=false := hstate.refunded.trans (hsame.refunded.trans hopen)
      rw [hout,if_pos ⟨hsettled,rfl⟩]
      refine ⟨hstate.fundingSettled,?_,?_,fun _ => ⟨actual,rfl,hfinal⟩,fun hr => ?_⟩
      · intro hboth
        exact Bool.false_ne_true (hrefunded2.symm.trans hboth.2)
      · intro hs
        cases hs
      · exact absurd (hrefunded2.symm.trans hr) Bool.false_ne_true
    · exact absurd rfl hne

theorem Ledgered.refund (hA : Account addDate At Charged floor) (h : Ledgered At Charged floor s t)
    (now : Int) (faults : Faults) : Ledgered At Charged floor (sessionStep addDate s (.refund now faults))
      (tallyStep addDate s t (.refund now faults)) := by
  simp only [sessionStep,tallyStep]
  rcases refund_session_cases addDate now faults with hnoop | ⟨hsettled,hrefunded,hunset,hout⟩
  · rw [hnoop,if_neg (fun hboth => Bool.false_ne_true (hboth.1.symm.trans hboth.2))]
    exact h
  · obtain ⟨hleft,hpre,hat⟩ := h.opened hsettled hrefunded
    rcases hall : refundAll addDate now { s with refunded := true } faults with ⟨s',logs⟩
    obtain ⟨hsame,hcharged⟩ := hA.refund hat (by omega) hpre hall
    rw [hout,hall,if_pos ⟨hrefunded,hsame.refunded⟩]
    have hopen : s'.settled=false := hsame.settled.trans hsettled
    refine ⟨?_,?_,fun _ hr => ?_,fun hs => ?_,fun _ => hcharged⟩
    · rw [hsame.fundingSettled,hsame.settled]
      exact h.flags
    · intro hboth
      exact Bool.false_ne_true (hopen.symm.trans hboth.1)
    · exact absurd (hr.symm.trans hsame.refunded) Bool.false_ne_true
    · exact absurd (hopen.symm.trans hs) Bool.false_ne_true

theorem Ledgered.step (hA : Account addDate At Charged floor) (h : Ledgered At Charged floor s t) (c : SessionCall)
    (hc : settlesBeforeRefund s c) : Ledgered At Charged floor (sessionStep addDate s c) (tallyStep addDate s t c) := by
  cases c with
  | reserve now target faults => exact h.reserve hA now target faults
  | settle now actual faults => exact h.settle hA now actual faults hc
  | refund now faults => exact h.refund hA now faults

/-- No compensation of the call fails: a `Reserve` that cannot charge the token takes its funding
back, and a `Refund` returns every part of the funding. -/
def compensated (addDate : AddDate) (s : BillingSession) : SessionCall → Prop
  | .reserve now targetQuota faults => (s.reserve addDate now targetQuota faults).2.length<2
  | .settle _ _ _ => True
  | .refund now faults =>
    .billingSource∉(s.refund addDate now faults).2 ∧ .extraReserved∉(s.refund addDate now faults).2

theorem Ledgered.left_eq_zero (hA : Account addDate At Charged floor) (h : Ledgered At Charged floor s t)
    (hleft : t.left=0) {c : SessionCall} (hc : compensated addDate s c) : (tallyStep addDate s t c).left=0 := by
  cases c with
  | reserve now target faults =>
    simp only [tallyStep]
    rw [if_neg (not_le.mpr hc)]
    exact hleft
  | settle now actual faults =>
    simp only [tallyStep]
    split
    · exact hleft
    · exact hleft
  | refund now faults =>
    simp only [tallyStep]
    split
    next hfirst =>
      rcases refund_session_cases addDate now faults with hnoop | ⟨hsettled,hrefunded,-,-⟩
      · rw [hnoop] at hfirst
        exact absurd (hfirst.1.symm.trans hfirst.2) Bool.false_ne_true
      · obtain ⟨-,-,hat⟩ := h.opened hsettled hrefunded
        rw [hleft,add_zero]
        exact hA.whole hat hc.1 hc.2
    · exact hleft

theorem closed_step (addDate : AddDate) {c : SessionCall} (hc : settlesBeforeRefund s c)
    (hclosed : s.settled=true ∨ s.refunded=true) : sessionStep addDate s c=s := by
  cases c with
  | reserve now target faults =>
    have hnoop : s.reserve addDate now target faults=(s,[]) := by
      unfold BillingSession.reserve
      obtain hs | hr := hclosed
      · simp [hs]
      · simp [hr]
    rw [sessionStep,hnoop]
  | settle now actual faults =>
    have hsettled : s.settled=true := by
      obtain hs | hr := hclosed
      · exact hs
      · exact absurd (hc.symm.trans hr) Bool.false_ne_true
    have hnoop : s.settle addDate now actual faults=(s,[]) := by
      unfold BillingSession.settle
      simp [hsettled]
    rw [sessionStep,hnoop]
  | refund now faults =>
    have hnoop : s.refund addDate now faults=(s,[]) := by
      unfold BillingSession.refund
      obtain hs | hr := hclosed
      · simp [hs]
      · simp [hr]
    rw [sessionStep,hnoop]

def promised (s : BillingSession) (t : Tally) : Int :=
  if s.settled then t.actual.getD 0 else if s.refunded then 0 else s.preConsumedQuota

theorem Ledgered.charged (h : Ledgered At Charged floor s t) (hat : ∀ {s c}, At s c → 0≤c → Charged s.world (floor c)) :
    Charged s.world (floor (promised s t+t.left)) := by
  unfold promised
  cases hs : s.settled with
  | true =>
    obtain ⟨actual,hactual,hcharged⟩ := h.settled hs
    simpa [hactual] using hcharged
  | false =>
    cases hr : s.refunded with
    | true => simpa using h.refunded hr
    | false =>
      obtain ⟨hleft,hpre,hopen⟩ := h.opened hs hr
      simpa using hat hopen (by omega)

end NewApi.Billing
