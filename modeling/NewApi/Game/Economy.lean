import Mathlib.Tactic.LinearCombination
import NewApi.Game.Model

/-! The economy of the game is closed: quota, tokens, stakes, fees and the stakes nobody won add up to the same
worth after every call, and the pools are the sums of their bets. -/
namespace NewApi.Game
open Keyed List Runs

def GamePredictionBet.claim (b : GamePredictionBet) : Int×Int×Int×Int×Option String×Int :=
  (b.id,b.predictionId,b.optionId,b.userId,b.requestId,b.amount)

namespace GameDB

def quotas (db : GameDB) : Int := (db.users.map (·.quota)).sum
def balances (db : GameDB) : Int := (db.wallets.map (·.balance)).sum

def stakes (db : GameDB) : Int := (db.bets.map fun b => if b.status=.active then b.amount else 0).sum

def fees (db : GameDB) : Int := (db.bets.map (·.feeAmount)).sum

def forfeited (db : GameDB) : Int :=
  (db.predictions.map fun p => if p.status=.settled ∧ p.winnerCount=0 then p.totalPool else 0).sum

def worth (r : Int) (db : GameDB) : Int := r*db.quotas+db.balances+db.stakes+db.fees+db.forfeited

def staked (db : GameDB) (on : Int → Int → Bool) : Int :=
  (db.bets.map fun b => if on b.predictionId b.optionId then b.amount else 0).sum

def onPrediction (id : Int) (predictionId _optionId : Int) : Bool := decide (predictionId=id)

def onOption (o : GamePredictionOption) (predictionId optionId : Int) : Bool :=
  decide (predictionId=o.predictionId ∧ optionId=o.id)

end GameDB

open GameDB

structure Books (db : GameDB) : Prop where
  users : Keyed.Unique GameUser.id db.users
  wallets : Keyed.Unique GameWallet.id db.wallets
  predictions : Keyed.Unique GamePrediction.id db.predictions
  bets : Keyed.Unique GamePredictionBet.id db.bets
  quota : ∀ u∈db.users, 0≤u.quota
  balance : ∀ w∈db.wallets, 0≤w.balance
  stake : ∀ b∈db.bets, 0<b.amount
  unpaid : ∀ b∈db.bets, b.status=.active → b.feeAmount=0
  active : ∀ p∈db.predictions, p.status≠.settled → ∀ b∈db.bets, b.predictionId=p.id → b.status=.active
  totalPool : ∀ p∈db.predictions, p.totalPool=db.staked (onPrediction p.id)
  poolAmount : ∀ o∈db.options, o.poolAmount=db.staked (onOption o)

/-- The books stay in order, the worth is the same, and what was recorded stays on record. -/
structure Sound (r : Int) (db db' : GameDB) : Prop where
  books : Books db'
  worth : db'.worth r=db.worth r
  transactions : ∃ more, db'.transactions=db.transactions++more
  bets : ∃ more, db'.bets.map (·.claim)=db.bets.map (·.claim)++more

section Rows
variable {db db' : GameDB} {r : Int} {ρ κ : Type}

theorem Sound.refl (h : Books db) : Sound r db db :=
  ⟨h,rfl,⟨[],(append_nil _).symm⟩,⟨[],(append_nil _).symm⟩⟩

theorem Sound.trans {db'' : GameDB} (h : Sound r db db') (h' : Sound r db' db'') : Sound r db db'' := by
  obtain ⟨ts,hts⟩ := h.transactions
  obtain ⟨ts',hts'⟩ := h'.transactions
  obtain ⟨bs,hbs⟩ := h.bets
  obtain ⟨bs',hbs'⟩ := h'.bets
  refine ⟨h'.books,h'.worth.trans h.worth,⟨ts++ts',?_⟩,⟨bs++bs',?_⟩⟩
  · rw [hts',hts,append_assoc]
  · rw [hbs',hbs,append_assoc]

theorem row_unique [DecidableEq κ] {key : ρ → κ} {rows : List ρ} (hu : Keyed.Unique key rows) {x y : ρ}
    (hx : x∈rows) (hy : y∈rows) (h : key x=key y) : x=y := by
  have hfind := lookup_of_mem hu hx
  rw [h,lookup_of_mem hu hy] at hfind
  exact (Option.some.inj hfind).symm

theorem forall_modify [DecidableEq κ] {key : ρ → κ} {rows : List ρ} {P : ρ → Prop}
    (hu : Keyed.Unique key rows) {x : ρ} (hx : x∈rows) {f : ρ → ρ} (hP : ∀ y∈rows, P y) (hf : P (f x)) :
    ∀ y∈Keyed.modify key (key x) f rows, P y := by
  intro y hy
  obtain ⟨z,hz,rfl⟩ := mem_modify hy
  split
  next hk =>
    rw [row_unique hu hz hx hk]
    exact hf
  · exact hP z hz

theorem Books.updateUser (h : Books db) {u : GameUser} (hu : u∈db.users) {f : GameUser → GameUser}
    (hid : ∀ x, (f x).id=x.id) (hpos : 0≤(f u).quota) :
    Books (db.updateUser u.id f) ∧ (db.updateUser u.id f).quotas=db.quotas+((f u).quota-u.quota) := by
  refine ⟨⟨h.users.modify u.id hid,h.wallets,h.predictions,h.bets,?_,h.balance,h.stake,h.unpaid,h.active,
    h.totalPool,h.poolAmount⟩,sum_modify h.users hu f _⟩
  exact forall_modify h.users hu h.quota hpos

theorem Books.updateWallet (h : Books db) {w : GameWallet} (hw : w∈db.wallets) {f : GameWallet → GameWallet}
    (hid : ∀ x, (f x).id=x.id) (hpos : 0≤(f w).balance) : Books (db.updateWallet w.id f) ∧
      (db.updateWallet w.id f).balances=db.balances+((f w).balance-w.balance) := by
  refine ⟨⟨h.users,h.wallets.modify w.id hid,h.predictions,h.bets,h.quota,?_,h.stake,h.unpaid,h.active,
    h.totalPool,h.poolAmount⟩,sum_modify h.wallets hw f _⟩
  exact forall_modify h.wallets hw h.balance hpos

theorem Books.createTransaction (h : Books db) (t : Int → GameWalletTransaction) : Books (db.createTransaction t) :=
  ⟨h.users,h.wallets,h.predictions,h.bets,h.quota,h.balance,h.stake,h.unpaid,h.active,h.totalPool, h.poolAmount⟩

theorem Sound.createTransaction (h : Sound r db db') (t : Int → GameWalletTransaction) :
    Sound r db (db'.createTransaction t) := by
  obtain ⟨ts,hts⟩ := h.transactions
  refine ⟨h.books.createTransaction t,h.worth,⟨ts++[t (Keyed.nextId (db'.transactions.map (·.id)))],?_⟩,h.bets⟩
  rw [← append_assoc,← hts]
  rfl

theorem wallet_sound (hbooks : Books db') (hbalances : db'.balances=db.balances)
    (hdb : db'={ db with wallets := db'.wallets }) : Sound r db db' := by
  refine ⟨hbooks,?_,⟨[],?_⟩,⟨[],?_⟩⟩
  · have hrest : db'.quotas=db.quotas ∧ db'.stakes=db.stakes ∧ db'.fees=db.fees ∧ db'.forfeited=db.forfeited := by
      rw [hdb]
      exact ⟨rfl,rfl,rfl,rfl⟩
    rw [GameDB.worth,hbalances,hrest.1,hrest.2.1,hrest.2.2.1,hrest.2.2.2,GameDB.worth]
  · rw [hdb,append_nil]
  · rw [hdb,append_nil]

theorem getWallet_effect (h : Books db) (userId : Int) :
    Ensures (fun p => Books p.1 ∧ p.2∈p.1.wallets ∧ p.1.balances=db.balances ∧
        p.1={ db with wallets := p.1.wallets }) (fun _ => True) (getOrCreateGameWallet db userId) := by
  unfold getOrCreateGameWallet
  refine Ensures.guard trivial fun _ => ?_
  cases db.user? userId with
  | none => trivial
  | some user =>
    cases hw : db.walletOf? userId with
    | some wallet => exact ⟨h,(lookup_some hw).1,rfl,rfl⟩
    | none =>
      refine ⟨⟨h.users,?_,h.predictions,h.bets,h.quota,?_,h.stake,h.unpaid,h.active,h.totalPool,h.poolAmount⟩,
        mem_append_right _ (mem_singleton_self _),?_,rfl⟩
      · refine h.wallets.append (lookup_eq_none.mpr fun x hx he => ?_)
        have hlt := lt_nextId (mem_map_of_mem (f := GameWallet.id) hx)
        rw [he] at hlt
        exact lt_irrefl _ hlt
      · intro x hx
        obtain hx | hx := mem_append.mp hx
        · exact h.balance x hx
        · rw [mem_singleton.mp hx]
      · simp [GameDB.balances]

theorem checkedAdd_ok (a b : Int) : Ensures (fun c => c=a+b ∧ (0<b → c ≤ maxInt64)) (fun _ => True) (checkedAddInt64 a b) := by
  unfold checkedAddInt64
  refine Ensures.guard trivial fun hok => ⟨rfl,fun hb => ?_⟩
  rw [not_or] at hok
  by_contra hc
  exact hok.1 ⟨hb,by omega⟩

end Rows

section Exchanges
variable {db : GameDB} {r : Int}

theorem exchanged_sound {user : GameUser} (hmem : user∈db.users) {userId : Int}
    (db1 : GameDB) {wallet : GameWallet}
    (hwallet : Books db1 ∧ wallet∈db1.wallets ∧ db1.balances=db.balances ∧ db1={ db with wallets := db1.wallets })
    {q t : Int} (hq : 0≤user.quota+q) (ht : 0≤wallet.balance+t) (hrate : r*q+t=0)
    {f : GameUser → GameUser} {g : GameWallet → GameWallet} (hf : ∀ u, (f u).id=u.id)
    (hfq : (f user).quota=user.quota+q) (hg : ∀ w, (g w).id=w.id) (hgt : (g wallet).balance=wallet.balance+t)
    (created : Int → GameWalletTransaction) (huser : user.id=userId) :
    Sound r db (((db1.updateUser userId f).updateWallet wallet.id g).createTransaction created) := by
  have hsound := wallet_sound (r := r) hwallet.1 hwallet.2.2.1 hwallet.2.2.2
  obtain ⟨hbooks,hmemw,-,hdb1⟩ := hwallet
  subst huser
  have hmem1 : user∈db1.users := by
    rw [hdb1]
    exact hmem
  obtain ⟨hbooks2,hquotas⟩ := hbooks.updateUser hmem1 hf (by rw [hfq]; exact hq)
  obtain ⟨hbooks3,hbalances⟩ := hbooks2.updateWallet (w := wallet) hmemw hg (by rw [hgt]; exact ht)
  suffices hworth : ((db1.updateUser user.id f).updateWallet wallet.id g).worth r=db1.worth r from
    hsound.trans (Sound.createTransaction ⟨hbooks3,hworth,⟨[],(append_nil _).symm⟩,⟨[],(append_nil _).symm⟩⟩ created)
  change r*(db1.updateUser user.id f).quotas +
    ((db1.updateUser user.id f).updateWallet wallet.id g).balances+db1.stakes+db1.fees+db1.forfeited=_
  have hb2 : (db1.updateUser user.id f).balances=db1.balances := rfl
  rw [hquotas,hbalances,hb2,hfq,hgt,GameDB.worth]
  linear_combination hrate

theorem exchangeIn_sound (h : Books db) {userId quota tokenAmount : Int} (hquota : 0<quota) (hr : 0<r)
    (htokens : tokenAmount=quota*r) (requestId : Option String) :
    Ensures (fun p => Sound r db p.1) (fun _ => True) (exchangeIn db userId quota tokenAmount requestId) := by
  unfold exchangeIn
  cases huser : db.user? userId with
  | none => trivial
  | some user =>
    obtain ⟨hmem,hid⟩ := lookup_some huser
    refine Ensures.guard trivial fun _ => Ensures.guard trivial fun henough => ?_
    refine (getWallet_effect h userId).bind fun ⟨db1,wallet⟩ hp => ?_
    refine (checkedAdd_ok _ _).bind fun balance _ => ?_
    have hpos : 0<tokenAmount := htokens ▸ Int.mul_pos hquota hr
    have hbalance := hp.1.balance wallet hp.2.1
    dsimp only [Ensures] at hp ⊢
    refine exchanged_sound hmem db1 hp (q := -quota) (t := tokenAmount)
      (f := fun u => { u with quota := user.quota-quota }) (g := fun w => { w with balance := w.balance+tokenAmount })
      ?_ ?_ ?_ (fun _ => rfl) ?_ (fun _ => rfl) rfl _ hid
    · omega
    · omega
    · rw [htokens]
      ring
    · exact Int.sub_eq_add_neg

theorem exchangeOut_sound (h : Books db) {userId quota tokens : Int} (hquota : 0<quota)
    (htokens : tokens=quota*r) (requestId : Option String) :
    Ensures (fun p => Sound r db p.1) (fun _ => True) (exchangeOut db userId tokens quota requestId) := by
  unfold exchangeOut
  cases huser : db.user? userId with
  | none => trivial
  | some user =>
    obtain ⟨hmem,hid⟩ := lookup_some huser
    refine Ensures.guard trivial fun _ => ?_
    refine (getWallet_effect h userId).bind fun ⟨db1,wallet⟩ hp => ?_
    refine Ensures.guard trivial fun henough => ?_
    have hquotas := h.quota user hmem
    dsimp only [Ensures] at hp ⊢
    refine exchanged_sound hmem db1 hp (q := quota) (t := -tokens)
      (f := fun u => { u with quota := user.quota+quota }) (g := fun w => { w with balance := w.balance-tokens })
      ?_ ?_ ?_ (fun _ => rfl) rfl (fun _ => rfl) ?_ _ hid
    · omega
    · omega
    · rw [htokens]
      ring
    · exact Int.sub_eq_add_neg

end Exchanges

section Bets
variable {db : GameDB} {r : Int}

theorem staked_append (db : GameDB) (bets : List GamePredictionBet) (bet : GamePredictionBet) (on : Int → Int → Bool) :
    ({ db with bets := bets++[bet] } : GameDB).staked on =
      ({ db with bets := bets } : GameDB).staked on + if on bet.predictionId bet.optionId then bet.amount else 0 := by
  simp [GameDB.staked]

def placed (db : GameDB) (wallet : GameWallet) (bet : GamePredictionBet) : GameDB :=
  let db := db.updateWallet wallet.id fun w => { w with balance := w.balance-bet.amount }
  let db := db.updatePrediction bet.predictionId fun p => { p with totalPool := p.totalPool+bet.amount }
  let db := db.updateOption bet.optionId bet.predictionId fun o =>
    { o with poolAmount := o.poolAmount+bet.amount, betCount := o.betCount+1 }
  { db with bets := db.bets++[bet] }

section
variable (h : Books db)
include h
variable (wallet : GameWallet) (bet : GamePredictionBet)

theorem placed_totalPool :
    ∀ p∈(placed db wallet bet).predictions, p.totalPool=(placed db wallet bet).staked (onPrediction p.id) := by
  intro p hp
  obtain ⟨q,hq,rfl⟩ := mem_modify hp
  have hpool := h.totalPool q hq
  have hstaked := staked_append (placed db wallet bet) db.bets bet
  by_cases hid : q.id=bet.predictionId
  · rw [if_pos hid]
    refine Eq.trans ?_ (hstaked (onPrediction q.id)).symm
    rw [onPrediction,if_pos (decide_eq_true hid.symm)]
    exact congrArg (· + bet.amount) hpool
  · rw [if_neg hid]
    refine Eq.trans ?_ (hstaked (onPrediction q.id)).symm
    rw [onPrediction,if_neg (by simpa using Ne.symm hid),add_zero]
    exact hpool

theorem placed_poolAmount :
    ∀ o∈(placed db wallet bet).options, o.poolAmount=(placed db wallet bet).staked (onOption o) := by
  intro o ho
  obtain ⟨q,hq,rfl⟩ := mem_map.mp ho
  have hpool := h.poolAmount q hq
  have hstaked := staked_append (placed db wallet bet) db.bets bet
  by_cases hid : q.id=bet.optionId ∧ q.predictionId=bet.predictionId
  · rw [if_pos hid]
    refine Eq.trans ?_ (hstaked (onOption q)).symm
    rw [onOption,if_pos (decide_eq_true ⟨hid.2.symm,hid.1.symm⟩)]
    exact congrArg (· + bet.amount) hpool
  · rw [if_neg hid]
    refine Eq.trans ?_ (hstaked (onOption q)).symm
    have hoff : onOption q bet.predictionId bet.optionId=false :=
      decide_eq_false fun hon => hid ⟨hon.2.symm,hon.1.symm⟩
    rw [hoff,if_neg Bool.false_ne_true,add_zero]
    exact hpool

theorem placed_books {wallet : GameWallet} (hw : wallet∈db.wallets) {bet : GamePredictionBet}
    (henough : bet.amount≤wallet.balance) (hpos : 0<bet.amount) (hfresh : bet.id=Keyed.nextId (db.bets.map (·.id)))
    (hactive : bet.status=.active) (hfee : bet.feeAmount=0) : Books (placed db wallet bet) := by
  have hwallets := h.updateWallet hw (f := fun w => { w with balance := w.balance-bet.amount }) (fun _ => rfl)
    (by simp only; omega)
  refine ⟨h.users,hwallets.1.wallets,h.predictions.modify _ fun _ => rfl,?_,h.quota,hwallets.1.balance,?_,?_,?_,
    placed_totalPool h wallet bet,placed_poolAmount h wallet bet⟩
  · refine h.bets.append (lookup_eq_none.mpr fun x hx he => ?_)
    have hlt := lt_nextId (mem_map_of_mem (f := GamePredictionBet.id) hx)
    rw [he,hfresh] at hlt
    exact lt_irrefl _ hlt
  · intro b hb
    obtain hb | hb := mem_append.mp hb
    · exact h.stake b hb
    rw [mem_singleton.mp hb]
    exact hpos
  · intro b hb hst
    obtain hb | hb := mem_append.mp hb
    · exact h.unpaid b hb hst
    rw [mem_singleton.mp hb]
    exact hfee
  · intro p hp hst b hb hon
    obtain ⟨q,hq,rfl⟩ := mem_modify hp
    obtain hb | hb := mem_append.mp hb
    · refine h.active q hq ?_ b hb ?_
      · split at hst <;> exact hst
      · split at hon <;> exact hon
    · rw [mem_singleton.mp hb]
      exact hactive

theorem placed_worth {wallet : GameWallet} (hw : wallet∈db.wallets) {bet : GamePredictionBet}
    {prediction : GamePrediction} (hprediction : prediction∈db.predictions) (hid : prediction.id=bet.predictionId)
    (hopen : prediction.status=.open) (hactive : bet.status=.active) (hfee : bet.feeAmount=0) :
    (placed db wallet bet).worth r=db.worth r := by
  have hbalances : (placed db wallet bet).balances=db.balances+(wallet.balance-bet.amount-wallet.balance) :=
    sum_modify h.wallets hw _ _
  have hforfeited : (placed db wallet bet).forfeited=db.forfeited := by
    have hsum := sum_modify h.predictions hprediction (fun p => { p with totalPool := p.totalPool+bet.amount })
      (fun p => if p.status=.settled ∧ p.winnerCount=0 then p.totalPool else 0)
    rw [hid] at hsum
    refine hsum.trans ?_
    simp [hopen,GameDB.forfeited]
  have hstakes : (placed db wallet bet).stakes=db.stakes+bet.amount := by
    simp [placed,GameDB.stakes,GameDB.updateOption,GameDB.updatePrediction,GameDB.updateWallet,hactive]
  have hfees : (placed db wallet bet).fees=db.fees := by
    simp [placed,GameDB.fees,GameDB.updateOption,GameDB.updatePrediction,GameDB.updateWallet,hfee]
  have hquotas : (placed db wallet bet).quotas=db.quotas := rfl
  rw [GameDB.worth,hbalances,hforfeited,hstakes,hfees,hquotas,GameDB.worth]
  ring

theorem placeBet_sound (reads : Reads) {userId predictionId optionId amount : Int} (hpos : 0<amount)
    (requestId : Option String) : Ensures (fun p => Sound r db p.1) (fun _ => True)
      (placeBet reads db userId predictionId optionId amount requestId) := by
  unfold placeBet
  cases hprediction : db.prediction? predictionId with
  | none => trivial
  | some prediction =>
    obtain ⟨hmem,hid⟩ := lookup_some hprediction
    refine Ensures.guard trivial fun hopen => ?_
    cases db.option? optionId predictionId with
    | none => trivial
    | some option =>
      refine (getWallet_effect h userId).bind fun ⟨db1,wallet⟩ hp => ?_
      refine Ensures.guard trivial fun henough => ?_
      refine (checkedAdd_ok _ _).bind fun _ _ => (checkedAdd_ok _ _).bind fun _ _ => ?_
      refine Ensures.guard trivial fun _ => ?_
      dsimp only [Ensures] at hp ⊢
      have hsound := wallet_sound (r := r) hp.1 hp.2.2.1 hp.2.2.2
      obtain ⟨hbooks,hwallet,-,hdb1⟩ := hp
      suffices hplaced : Sound r db1 (placed db1 wallet
          { id := Keyed.nextId (db1.bets.map (·.id)), predictionId := predictionId, optionId := optionId
            userId := userId, requestId := requestId, walletId := wallet.id, amount := amount }) from
        hsound.trans (hplaced.createTransaction _)
      have hmem1 : prediction∈db1.predictions := by
        rw [hdb1]
        exact hmem
      have hstatus : prediction.status=.open := by
        by_contra hne
        exact hopen (.inl hne)
      refine ⟨placed_books hbooks hwallet ?_ hpos rfl rfl rfl,placed_worth hbooks hwallet hmem1 hid hstatus rfl rfl,
        ⟨[],(append_nil _).symm⟩,⟨_,map_append⟩⟩
      exact Int.not_lt.mp henough

end

end Bets

section Answers
variable {db : GameDB} {r : Int}

theorem updatePrediction_sound (h : Books db) {p : GamePrediction} (hp : p∈db.predictions)
    (hunsettled : p.status≠.settled) {f : GamePrediction → GamePrediction} (hid : ∀ q, (f q).id=q.id)
    (hpool : (f p).totalPool=p.totalPool) (hstatus : (f p).status≠.settled) : Sound r db (db.updatePrediction p.id f) := by
  refine ⟨⟨h.users,h.wallets,h.predictions.modify _ hid,h.bets,h.quota,h.balance,h.stake,h.unpaid,?_,?_,
    h.poolAmount⟩,?_,⟨[],(append_nil _).symm⟩,⟨[],(append_nil _).symm⟩⟩
  · refine forall_modify h.predictions hp h.active fun _ b hb hon => ?_
    rw [hid] at hon
    exact h.active p hp hunsettled b hb hon
  · refine forall_modify h.predictions hp h.totalPool ?_
    rw [hpool,hid]
    exact h.totalPool p hp
  · have hforfeited := sum_modify h.predictions hp f (fun q => if q.status=.settled ∧ q.winnerCount=0 then q.totalPool else 0)
    rw [if_neg (fun hs => hstatus hs.1),if_neg (fun hs => hunsettled hs.1),sub_zero,add_zero] at hforfeited
    exact congrArg (fun x => r*db.quotas+db.balances+db.stakes+db.fees+x) hforfeited

theorem setAnswer_sound (h : Books db) (reads : Reads) (predictionId optionId adminId : Int) :
    Ensures (Sound r db) (fun _ => True) (setGamePredictionAnswer reads db predictionId optionId adminId) := by
  unfold setGamePredictionAnswer atomically
  refine Ensures.guard trivial fun _ => ?_
  cases hprediction : db.prediction? predictionId with
  | none => trivial
  | some prediction =>
    obtain ⟨hmem,rfl⟩ := lookup_some hprediction
    refine Ensures.ite (fun _ => Ensures.guard trivial fun _ => trivial) fun hstatus => ?_
    refine Ensures.guard trivial fun _ => ?_
    cases db.option? optionId prediction.id with
    | none => trivial
    | some option =>
      refine Ensures.guard trivial fun _ => ?_
      refine updatePrediction_sound h hmem ?_ (fun _ => rfl) rfl nofun
      intro hsettled
      rw [hsettled] at hstatus
      exact hstatus ⟨by decide,by decide⟩

end Answers

end NewApi.Game
