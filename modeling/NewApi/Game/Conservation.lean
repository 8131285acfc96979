import NewApi.Game.Settlement

/-! Runs of the game: every call keeps the worth and the books, and a call that was answered once under a request id
changes nothing when it is repeated. -/
namespace NewApi.Game
open Option List Runs GameDB

section Calls
variable {db : GameDB} {r : Int}

theorem rate_pos (reads : Reads) : 0<reads.rate := by
  unfold Reads.rate
  split <;> omega

section
variable (h : Books db)
include h

theorem underRequest_sound {α : Type} (reads : Reads) (existing : Option α) (same : α → Bool)
    {perform : Except GameError (GameDB×α)} (hperform : Ensures (fun p => Sound r db p.1) (fun _ => True) perform) :
    Sound r db (underRequest reads db existing same perform).1 := by
  unfold underRequest
  have hreplay : Ensures (fun p => Sound r db p.1) (fun _ => True) (atomically reads (replayOr db existing same perform)) := by
    refine Ensures.guard trivial fun _ => ?_
    cases existing with
    | none => exact hperform
    | some row => exact Ensures.ite (fun _ => Sound.refl h) fun _ => trivial
  generalize atomically reads (replayOr db existing same perform)=out at hreplay ⊢
  cases out with
  | ok p => exact hreplay
  | error e =>
    unfold answer
    dsimp only
    split
    · split <;> exact Sound.refl h
    · exact Sound.refl h

theorem exchangeQuotaToGameTokens_sound {reads : Reads} (hr : reads.rate=r) (userId quota : Int)
    (requestIdValue : String) : Sound r db (exchangeQuotaToGameTokens reads db userId quota requestIdValue).1 := by
  unfold exchangeQuotaToGameTokens
  split
  · exact Sound.refl h
  split
  · exact Sound.refl h
  split
  · exact Sound.refl h
  split
  · exact Sound.refl h
  rename_i hamount _
  rw [not_or] at hamount
  refine underRequest_sound h reads _ _ (exchangeIn_sound h (Int.not_le.mp hamount.1) (hr ▸ rate_pos reads) ?_ _)
  rw [hr]

theorem exchangeGameTokensToQuota_sound {reads : Reads} (hr : reads.rate=r) (userId tokens : Int)
    (requestIdValue : String) : Sound r db (exchangeGameTokensToQuota reads db userId tokens requestIdValue).1 := by
  unfold exchangeGameTokensToQuota
  split
  · exact Sound.refl h
  split
  · exact Sound.refl h
  split
  · exact Sound.refl h
  split
  · exact Sound.refl h
  split
  · exact Sound.refl h
  rename_i hamount hquota _
  simp only [not_or,not_not] at hamount
  refine underRequest_sound h reads _ _ (exchangeOut_sound h (Int.not_le.mp hquota) ?_ _)
  rw [← hr]
  exact (Int.tdiv_mul_cancel (Int.dvd_of_tmod_eq_zero hamount.2.2.2)).symm

theorem placeGamePredictionBet_sound (reads : Reads) (userId predictionId optionId amount : Int) (requestIdValue : String) :
    Sound r db (placeGamePredictionBet reads db userId predictionId optionId amount requestIdValue).1 := by
  unfold placeGamePredictionBet
  split
  · exact Sound.refl h
  split
  · exact Sound.refl h
  rename_i hamount
  rw [not_or] at hamount
  exact underRequest_sound h reads _ _ (placeBet_sound h reads (Int.not_le.mp hamount.1) _)

theorem commit_sound {out : Except GameError GameDB} (hout : Ensures (Sound r db) (fun _ => True) out) :
    Sound r db (commit db out) := by
  cases out with
  | ok db' => exact hout
  | error e => exact Sound.refl h

theorem step_sound {op : Op} (hr : op.reads.rate=r) : Sound r db (step db op) := by
  cases op with
  | exchangeQuotaToGameTokens reads userId quota requestId =>
    rw [step,exec]
    exact exchangeQuotaToGameTokens_sound h hr userId quota requestId
  | exchangeGameTokensToQuota reads userId tokens requestId =>
    rw [step,exec]
    exact exchangeGameTokensToQuota_sound h hr userId tokens requestId
  | placeGamePredictionBet reads userId predictionId optionId amount requestId =>
    rw [step,exec]
    exact placeGamePredictionBet_sound h reads userId predictionId optionId amount requestId
  | setGamePredictionAnswer reads predictionId optionId adminId =>
    exact commit_sound h (setAnswer_sound h reads predictionId optionId adminId)
  | settleGamePrediction reads predictionId adminId =>
    exact commit_sound h (settle_sound h reads predictionId adminId)

end

theorem run_sound (ops : List Op) : ∀ {db : GameDB}, Books db → (∀ op∈ops, op.reads.rate=r) → Sound r db (run step ops db) := by
  induction ops with
  | nil => exact fun h _ => Sound.refl h
  | cons op ops ih =>
    intro db h hr
    have hstep := step_sound h (hr op mem_cons_self)
    exact hstep.trans (ih hstep.books fun o ho => hr o (mem_cons_of_mem op ho))

end Calls

section Replays
variable {db db' : GameDB} {r : Int}

def Op.again (reads : Reads) : Op → Op
  | .exchangeQuotaToGameTokens _ userId quota requestId => .exchangeQuotaToGameTokens reads userId quota requestId
  | .exchangeGameTokensToQuota _ userId tokens requestId => .exchangeGameTokensToQuota reads userId tokens requestId
  | .placeGamePredictionBet _ userId predictionId optionId amount requestId =>
    .placeGamePredictionBet reads userId predictionId optionId amount requestId
  | .setGamePredictionAnswer _ predictionId optionId adminId => .setGamePredictionAnswer reads predictionId optionId adminId
  | .settleGamePrediction _ predictionId adminId => .settleGamePrediction reads predictionId adminId

def Op.identified : Op → Bool
  | .exchangeQuotaToGameTokens _ _ _ requestId | .exchangeGameTokensToQuota _ _ _ requestId
  | .placeGamePredictionBet _ _ _ _ _ requestId => GoStrings.trimSpace requestId != ""
  | .setGamePredictionAnswer .. | .settleGamePrediction .. => false

def ExchangeRecorded (db : GameDB) (userId : Int) (type : TransactionType) (quota tokens : Int) (requestId : String) :
    Prop :=
  ∃ rid row, normalizeGameRequestId requestId=.ok (some rid) ∧
    findGameExchangeByRequestId db userId type (some rid)=some row ∧ row.sameAmounts quota tokens=true

def BetRecorded (db : GameDB) (userId predictionId optionId amount : Int) (requestId : String) : Prop :=
  ∃ rid row, normalizeGameRequestId requestId=.ok (some rid) ∧
    findGameBetByRequestId db userId predictionId (some rid)=some row ∧ row.sameBet optionId amount=true

def Recorded (db : GameDB) : Op → Prop
  | .exchangeQuotaToGameTokens reads userId quota requestId =>
    ExchangeRecorded db userId .exchangeIn quota (quota*reads.rate) requestId
  | .exchangeGameTokensToQuota reads userId tokens requestId =>
    ExchangeRecorded db userId .exchangeOut (tokens.tdiv reads.rate) tokens requestId
  | .placeGamePredictionBet _ userId predictionId optionId amount requestId =>
    BetRecorded db userId predictionId optionId amount requestId
  | .setGamePredictionAnswer .. | .settleGamePrediction .. => False

variable {userId quota tokens predictionId optionId amount : Int} {requestId rid : String}

theorem exchangeRecorded_mono (h : Sound r db db') {type : TransactionType}
    (hrec : ExchangeRecorded db userId type quota tokens requestId) :
    ExchangeRecorded db' userId type quota tokens requestId := by
  obtain ⟨rid,row,hnorm,hfind,hsame⟩ := hrec
  obtain ⟨more,hmore⟩ := h.transactions
  refine ⟨rid,row,hnorm,?_,hsame⟩
  simp only [findGameExchangeByRequestId,bind_some] at hfind ⊢
  rw [hmore,find?_append,hfind,some_or]

theorem betRecorded_iff : BetRecorded db userId predictionId optionId amount requestId ↔
      ∃ rid c, normalizeGameRequestId requestId=.ok (some rid) ∧
        (db.bets.map (·.claim)).find? (fun c => decide (c.2.2.2.1=userId ∧ c.2.1=predictionId ∧
          c.2.2.2.2.1=some rid))=some c ∧ c.2.2.1=optionId ∧ c.2.2.2.2.2=amount := by
  constructor
  · rintro ⟨rid,row,hnorm,hfind,hsame⟩
    refine ⟨rid,row.claim,hnorm,?_,of_decide_eq_true hsame⟩
    rw [find?_map]
    exact congrArg (Option.map _) hfind
  · rintro ⟨rid,c,hnorm,hfind,hsame⟩
    rw [find?_map,map_eq_some_iff] at hfind
    obtain ⟨row,hfind,rfl⟩ := hfind
    exact ⟨rid,row,hnorm,hfind,decide_eq_true hsame⟩

theorem betRecorded_mono (h : Sound r db db') (hrec : BetRecorded db userId predictionId optionId amount requestId) :
    BetRecorded db' userId predictionId optionId amount requestId := by
  rw [betRecorded_iff] at hrec ⊢
  obtain ⟨rid,c,hnorm,hfind,hsame⟩ := hrec
  obtain ⟨more,hmore⟩ := h.bets
  refine ⟨rid,c,hnorm,?_,hsame⟩
  rw [hmore,find?_append,hfind,some_or]

theorem Recorded.mono (h : Sound r db db') {op : Op} (hrec : Recorded db op) : Recorded db' op := by
  cases op with
  | exchangeQuotaToGameTokens | exchangeGameTokensToQuota => exact exchangeRecorded_mono h hrec
  | placeGamePredictionBet => exact betRecorded_mono h hrec
  | setGamePredictionAnswer | settleGamePrediction => exact hrec

variable {reads : Reads} {α : Type}

theorem underRequest_replays {same : α → Bool} {row : α} (hsame : same row=true)
    (perform : Except GameError (GameDB×α)) : (underRequest reads db (some row) same perform).1=db := by
  have hreplay : replayOr db (some row) same perform=.ok (db,row) := if_pos hsame
  rw [underRequest,hreplay,atomically]
  split
  · simp [answer,hsame]
  · rfl

theorem Recorded.replays {op : Op} (hrec : Recorded db op) (hr : reads.rate=op.reads.rate) : step db (op.again reads)=db := by
  cases op with
  | exchangeQuotaToGameTokens reads0 userId quota requestId =>
    obtain ⟨rid,row,hnorm,hfind,hsame⟩ := hrec
    simp only [Op.reads] at hr
    rw [← hr] at hsame
    simp only [step,exec,Op.again,exchangeQuotaToGameTokens,hnorm,hfind]
    split
    · rfl
    split
    · rfl
    split
    · rfl
    · exact underRequest_replays hsame _
  | exchangeGameTokensToQuota reads0 userId tokens requestId =>
    obtain ⟨rid,row,hnorm,hfind,hsame⟩ := hrec
    simp only [Op.reads] at hr
    rw [← hr] at hsame
    simp only [step,exec,Op.again,exchangeGameTokensToQuota,hnorm,hfind]
    split
    · rfl
    split
    · rfl
    split
    · rfl
    split
    · rfl
    · exact underRequest_replays hsame _
  | placeGamePredictionBet reads0 userId predictionId optionId amount requestId =>
    obtain ⟨rid,row,hnorm,hfind,hsame⟩ := hrec
    simp only [step,exec,Op.again,placeGamePredictionBet,hnorm,hfind]
    split
    · rfl
    · exact underRequest_replays hsame _
  | setGamePredictionAnswer | settleGamePrediction => exact hrec.elim

theorem underRequest_success {existing : Option α} {same : α → Bool} {perform : Except GameError (GameDB×α)} :
    ∀ r, underRequest reads db existing same perform=r → r.2.isOk=true →
      (∃ row, existing=some row ∧ same row=true ∧ r.1=db) ∨ (existing=none ∧ ∃ p, perform=.ok p ∧ r.1=p.1) := by
  rintro _ rfl hok
  cases existing with
  | some row =>
    by_cases hsame : same row=true
    · exact .inl ⟨row,rfl,hsame,underRequest_replays hsame perform⟩
    have hreplay : replayOr db (some row) same perform=.error .idempotencyConflict := if_neg hsame
    rw [underRequest,hreplay,atomically] at hok
    split at hok <;> simp [answer,hsame,Except.isOk,Except.toBool] at hok
  | none =>
    refine .inr ⟨rfl,?_⟩
    have hreplay : replayOr db none same perform=perform := rfl
    rw [underRequest,hreplay,atomically] at hok ⊢
    split at hok
    · cases hok
    rename_i hdb
    rw [if_neg hdb]
    cases perform with
    | ok p => exact ⟨p,rfl,rfl⟩
    | error e => cases hok

theorem exchangeIn_row (h : Books db) (userId quota tokens : Int) (requestId : Option String) :
    Ensures (fun p => p.1.transactions=db.transactions++[p.2] ∧
      (p.2.userId=userId ∧ p.2.type=.exchangeIn ∧ p.2.requestId=requestId) ∧
      p.2.quotaAmount=quota ∧ p.2.tokenAmount=tokens) (fun _ => True) (exchangeIn db userId quota tokens requestId) := by
  unfold exchangeIn
  cases db.user? userId with
  | none => trivial
  | some user =>
    refine Ensures.guard trivial fun _ => Ensures.guard trivial fun _ => ?_
    refine (getWallet_effect h userId).bind fun ⟨db1,wallet⟩ hp => (checkedAdd_ok _ _).bind fun balance _ => ?_
    dsimp only at hp
    have htransactions : db1.transactions=db.transactions := by rw [hp.2.2.2]
    refine ⟨?_,⟨rfl,rfl,rfl⟩,rfl,rfl⟩
    dsimp only
    rw [← htransactions]
    rfl

theorem exchangeOut_row (h : Books db) (userId quota tokens : Int) (requestId : Option String) :
    Ensures (fun p => p.1.transactions=db.transactions++[p.2] ∧
      (p.2.userId=userId ∧ p.2.type=.exchangeOut ∧ p.2.requestId=requestId) ∧
      p.2.quotaAmount=quota ∧ p.2.tokenAmount=tokens) (fun _ => True) (exchangeOut db userId tokens quota requestId) := by
  unfold exchangeOut
  cases db.user? userId with
  | none => trivial
  | some user =>
    refine Ensures.guard trivial fun _ => ?_
    refine (getWallet_effect h userId).bind fun ⟨db1,wallet⟩ hp => Ensures.guard trivial fun _ => ?_
    dsimp only at hp
    have htransactions : db1.transactions=db.transactions := by rw [hp.2.2.2]
    refine ⟨?_,⟨rfl,rfl,rfl⟩,rfl,rfl⟩
    dsimp only
    rw [← htransactions]
    rfl

theorem placeBet_row (h : Books db) (reads : Reads) (userId predictionId optionId amount : Int) (requestId : Option String) :
    Ensures (fun p => p.1.bets=db.bets++[p.2] ∧ (p.2.userId=userId ∧ p.2.predictionId=predictionId ∧ p.2.requestId=requestId) ∧
      p.2.optionId=optionId ∧ p.2.amount=amount) (fun _ => True)
      (placeBet reads db userId predictionId optionId amount requestId) := by
  unfold placeBet
  cases db.prediction? predictionId with
  | none => trivial
  | some prediction =>
    refine Ensures.guard trivial fun _ => ?_
    cases db.option? optionId predictionId with
    | none => trivial
    | some option =>
      refine (getWallet_effect h userId).bind fun ⟨db1,wallet⟩ hp => Ensures.guard trivial fun _ => ?_
      refine (checkedAdd_ok _ _).bind fun _ _ => (checkedAdd_ok _ _).bind fun _ _ => ?_
      refine Ensures.guard trivial fun _ => ?_
      dsimp only at hp
      have hbets : db1.bets=db.bets := by rw [hp.2.2.2]
      refine ⟨?_,⟨rfl,rfl,rfl⟩,rfl,rfl⟩
      dsimp only
      rw [← hbets]
      rfl

theorem exchange_recorded {type : TransactionType} (hnorm : normalizeGameRequestId requestId=.ok (some rid))
    {perform : Except GameError (GameDB×GameWalletTransaction)}
    (hrow : Ensures (fun p => p.1.transactions=db.transactions++[p.2] ∧
      (p.2.userId=userId ∧ p.2.type=type ∧ p.2.requestId=some rid) ∧
      p.2.quotaAmount=quota ∧ p.2.tokenAmount=tokens) (fun _ => True) perform) :
    ∀ r, underRequest reads db (findGameExchangeByRequestId db userId type (some rid))
      (GameWalletTransaction.sameAmounts quota tokens) perform=r → r.2.isOk=true →
      ExchangeRecorded r.1 userId type quota tokens requestId := by
  intro r hr hok
  obtain ⟨row,hfind,hsame,hdb⟩ | ⟨hfind,p,hp,hdb⟩ := underRequest_success r hr hok
  · rw [hdb]
    exact ⟨rid,row,hnorm,hfind,hsame⟩
  · rw [hdb]
    rw [hp] at hrow
    obtain ⟨htransactions,hkey,hamounts⟩ := hrow
    refine ⟨rid,p.2,hnorm,?_,decide_eq_true hamounts⟩
    simp only [findGameExchangeByRequestId,bind_some] at hfind ⊢
    rw [htransactions,find?_append,hfind,none_or]
    exact find?_cons_of_pos (decide_eq_true hkey)

theorem bet_recorded (hnorm : normalizeGameRequestId requestId=.ok (some rid))
    {perform : Except GameError (GameDB×GamePredictionBet)} (hrow : Ensures (fun p => p.1.bets=db.bets++[p.2] ∧
      (p.2.userId=userId ∧ p.2.predictionId=predictionId ∧ p.2.requestId=some rid) ∧
      p.2.optionId=optionId ∧ p.2.amount=amount) (fun _ => True) perform) :
    ∀ r, underRequest reads db (findGameBetByRequestId db userId predictionId (some rid))
      (GamePredictionBet.sameBet optionId amount) perform=r → r.2.isOk=true →
      BetRecorded r.1 userId predictionId optionId amount requestId := by
  intro r hr hok
  obtain ⟨row,hfind,hsame,hdb⟩ | ⟨hfind,p,hp,hdb⟩ := underRequest_success r hr hok
  · rw [hdb]
    exact ⟨rid,row,hnorm,hfind,hsame⟩
  · rw [hdb]
    rw [hp] at hrow
    obtain ⟨hbets,hkey,hsame⟩ := hrow
    refine ⟨rid,p.2,hnorm,?_,decide_eq_true hsame⟩
    simp only [findGameBetByRequestId,bind_some] at hfind ⊢
    rw [hbets,find?_append,hfind,none_or]
    exact find?_cons_of_pos (decide_eq_true hkey)

theorem normalize_identified {value : String} (h : (GoStrings.trimSpace value != "")=true) {rid : Option String}
    (hnorm : normalizeGameRequestId value=.ok rid) : ∃ s, rid=some s := by
  unfold normalizeGameRequestId at hnorm
  rw [if_neg (by simpa using h)] at hnorm
  split at hnorm
  · cases hnorm
  split at hnorm
  · cases hnorm
  · exact ⟨_,(Except.ok.inj hnorm).symm⟩

theorem recorded_of_success (h : Books db) {op : Op} (hid : op.identified=true) (hok : (exec db op).2=true) :
    Recorded (step db op) op := by
  cases op with
  | exchangeQuotaToGameTokens reads userId quota requestId =>
    simp only [step,exec,Recorded,exchangeQuotaToGameTokens] at hok ⊢
    cases hnorm : normalizeGameRequestId requestId with
    | error e => rw [hnorm] at hok; cases hok
    | ok rid =>
      obtain ⟨s,rfl⟩ := normalize_identified hid hnorm
      rw [hnorm] at hok
      dsimp only at hok ⊢
      split at hok
      · cases hok
      split at hok
      · cases hok
      split at hok
      · cases hok
      rename_i hbatch hamount hmax
      rw [if_neg hbatch,if_neg hamount,if_neg hmax]
      exact exchange_recorded hnorm (exchangeIn_row h _ _ _ _) _ rfl hok
  | exchangeGameTokensToQuota reads userId tokens requestId =>
    simp only [step,exec,Recorded,exchangeGameTokensToQuota] at hok ⊢
    cases hnorm : normalizeGameRequestId requestId with
    | error e => rw [hnorm] at hok; cases hok
    | ok rid =>
      obtain ⟨s,rfl⟩ := normalize_identified hid hnorm
      rw [hnorm] at hok
      dsimp only at hok ⊢
      split at hok
      · cases hok
      split at hok
      · cases hok
      split at hok
      · cases hok
      split at hok
      · cases hok
      rename_i hbatch hamount hquota hmax
      rw [if_neg hbatch,if_neg hamount,if_neg hquota,if_neg hmax]
      exact exchange_recorded hnorm (exchangeOut_row h _ _ _ _) _ rfl hok
  | placeGamePredictionBet reads userId predictionId optionId amount requestId =>
    simp only [step,exec,Recorded,placeGamePredictionBet] at hok ⊢
    cases hnorm : normalizeGameRequestId requestId with
    | error e => rw [hnorm] at hok; cases hok
    | ok rid =>
      obtain ⟨s,rfl⟩ := normalize_identified hid hnorm
      rw [hnorm] at hok
      dsimp only at hok ⊢
      split at hok
      · cases hok
      rename_i hamount
      rw [if_neg hamount]
      exact bet_recorded hnorm (placeBet_row h _ _ _ _ _ _) _ rfl hok
  | setGamePredictionAnswer | settleGamePrediction => cases hid

end Replays

section Economy
variable {db : GameDB} {r : Int}

/-- A game before its first call: no wallet, no bet, predictions with empty pools, and nobody owes quota. -/
structure Fresh (db : GameDB) : Prop where
  users : Keyed.Unique GameUser.id db.users
  predictions : Keyed.Unique GamePrediction.id db.predictions
  quota : ∀ u∈db.users, 0≤u.quota
  wallets : db.wallets=[]
  bets : db.bets=[]
  totalPool : ∀ p∈db.predictions, p.totalPool=0
  poolAmount : ∀ o∈db.options, o.poolAmount=0

theorem Fresh.books (h : Fresh db) : Books db where
  users := h.users
  wallets := by rw [h.wallets]; exact nodup_nil
  predictions := h.predictions
  bets := by rw [h.bets]; exact nodup_nil
  quota := h.quota
  balance := by rw [h.wallets]; exact fun _ hw => nomatch hw
  stake := by rw [h.bets]; exact fun _ hb => nomatch hb
  unpaid := by rw [h.bets]; exact fun _ hb => nomatch hb
  active := by rw [h.bets]; exact fun _ _ _ _ hb => nomatch hb
  totalPool := fun p hp => by rw [h.totalPool p hp,GameDB.staked,h.bets]; rfl
  poolAmount := fun o ho => by rw [h.poolAmount o ho,GameDB.staked,h.bets]; rfl

/-- Along every run at one exchange rate the worth is constant, nobody owes, the pools are the sums of their bets, and
an answered request id changes nothing when repeated. -/
theorem economy_conserved (h : Fresh db) {ops : List Op} (hr : ∀ op∈ops, op.reads.rate=r) :
    (run step ops db).worth r=db.worth r ∧
    (∀ w∈(run step ops db).wallets, 0≤w.balance) ∧ (∀ u∈(run step ops db).users, 0≤u.quota) ∧
    (∀ p∈(run step ops db).predictions, p.totalPool=(run step ops db).staked (onPrediction p.id)) ∧
    (∀ o∈(run step ops db).options, o.poolAmount=(run step ops db).staked (onOption o)) ∧
    ∀ before op later, ops=before++op::later → op.identified=true →
      (exec (run step before db) op).2=true → ∀ reads : Reads, reads.rate=r →
      step (run step ops db) (op.again reads)=run step ops db := by
  have hsound := run_sound ops h.books hr
  refine ⟨hsound.worth,hsound.books.balance,hsound.books.quota,hsound.books.totalPool,hsound.books.poolAmount,?_⟩
  intro before op later hops hid hok reads hreads
  subst hops
  have hbefore := run_sound before h.books fun o ho => hr o (mem_append_left _ ho)
  have hop : op.reads.rate=r := hr op (mem_append_right _ mem_cons_self)
  have hlater := run_sound later (step_sound hbefore.books hop).books fun o ho =>
    hr o (mem_append_right _ (mem_cons_of_mem op ho))
  rw [run_append]
  exact ((recorded_of_success hbefore.books hid hok).mono hlater).replays (hreads.trans hop.symm)

def casino : GameDB :=
  { users := [⟨1,1000⟩,⟨2,500⟩,⟨3,500⟩]
    predictions := [{ id := 1, closeTime := 100 }]
    options := [{ id := 1, predictionId := 1 },{ id := 2, predictionId := 1 }] }

def casinoCalls : List Op :=
  [.exchangeQuotaToGameTokens {} 1 10 "a",.exchangeQuotaToGameTokens {} 2 10 "a",.exchangeQuotaToGameTokens {} 3 10 "",
   .placeGamePredictionBet {} 1 1 1 7 "b",.placeGamePredictionBet {} 2 1 1 3 "b",.placeGamePredictionBet {} 3 1 2 95 "b",
   .placeGamePredictionBet { dbError := true } 1 1 1 7 " b ",.setGamePredictionAnswer { now := 200 } 1 1 9,
   .settleGamePrediction { now := 200 } 1 9,.exchangeGameTokensToQuota {} 1 1000 "c"]

theorem casino_fresh : Fresh casino := by
  refine ⟨?_,?_,by decide,rfl,rfl,by decide,by decide⟩
  · rw [Keyed.Unique]
    decide
  · rw [Keyed.Unique]
    decide

theorem casino_conserved :
    (∀ op∈casinoCalls, op.reads.rate=100) ∧ (run step casinoCalls casino).worth 100=casino.worth 100 ∧
    (run step casinoCalls casino).users.map (·.quota)=[1000,490,490] ∧
    (run step casinoCalls casino).wallets.map (·.balance)=[63,1028,905] ∧
    (run step casinoCalls casino).fees=4 ∧
    step (run step casinoCalls casino) (.placeGamePredictionBet { now := 300 } 1 1 1 7 "b") =
      run step casinoCalls casino := by
  have hrate : ∀ op∈casinoCalls, op.reads.rate=100 := by decide
  have h := economy_conserved casino_fresh hrate
  refine ⟨hrate,h.1,by decide +kernel,by decide +kernel,by decide +kernel,?_⟩
  exact h.2.2.2.2.2 (casinoCalls.take 3) (.placeGamePredictionBet {} 1 1 1 7 "b") (casinoCalls.drop 4) rfl
    (by decide +kernel) (by decide +kernel) { now := 300 } rfl

end Economy

end NewApi.Game
