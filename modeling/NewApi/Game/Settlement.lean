import Mathlib.Algebra.Order.BigOperators.Group.List
import Mathlib.Tactic.Linarith
import NewApi.Game.Economy

/-! The settlement of a prediction hands out the whole pool: each winner takes its floored share, the last one the
rest, and the fees stay in the books. -/
namespace NewApi.Game
open Keyed List Runs GameDB

/-- What a settlement does to the tables beside the prediction's row: bets of the prediction are closed, and
tokens of the worth `v` are added. -/
structure Settles (predictionId : Int) (db db' : GameDB) (v : Int) : Prop where
  users : db'.users=db.users
  predictions : db'.predictions=db.predictions
  options : db'.options=db.options
  wallets : Keyed.Unique GameWallet.id db.wallets → Keyed.Unique GameWallet.id db'.wallets
  balance : Keyed.Unique GameWallet.id db.wallets → (∀ w∈db.wallets, 0≤w.balance) → ∀ w∈db'.wallets, 0≤w.balance
  transactions : ∃ more, db'.transactions=db.transactions++more
  claims : db'.bets.map (·.claim)=db.bets.map (·.claim)
  closed : ∀ b∈db'.bets, b∈db.bets ∨ (b.status≠.active ∧ b.predictionId=predictionId)
  moved : Keyed.Unique GameWallet.id db.wallets → db'.balances+db'.stakes+db'.fees=db.balances+db.stakes+db.fees+v

section Relation
variable {db db' db'' : GameDB} {predictionId v w : Int}

theorem Settles.refl (predictionId : Int) (db : GameDB) : Settles predictionId db db 0 where
  users := rfl
  predictions := rfl
  options := rfl
  wallets := id
  balance := fun _ h => h
  transactions := ⟨[],(append_nil _).symm⟩
  claims := rfl
  closed := fun _ hb => .inl hb
  moved := fun _ => (add_zero _).symm

theorem Settles.trans (h : Settles predictionId db db' v) (h' : Settles predictionId db' db'' w) :
    Settles predictionId db db'' (v+w) where
  users := h'.users.trans h.users
  predictions := h'.predictions.trans h.predictions
  options := h'.options.trans h.options
  wallets := fun hu => h'.wallets (h.wallets hu)
  balance := fun hu hb => h'.balance (h.wallets hu) (h.balance hu hb)
  transactions := by
    obtain ⟨ts,hts⟩ := h.transactions
    obtain ⟨ts',hts'⟩ := h'.transactions
    exact ⟨ts++ts',by rw [hts',hts,append_assoc]⟩
  claims := h'.claims.trans h.claims
  closed := by
    intro b hb
    obtain hb | hb := h'.closed b hb
    · exact h.closed b hb
    · exact .inr hb
  moved := fun hu => by
    rw [h'.moved (h.wallets hu),h.moved hu,add_assoc]

theorem bet_ids_eq {bets bets' : List GamePredictionBet} (h : bets'.map (·.claim)=bets.map (·.claim)) :
    bets'.map (·.id)=bets.map (·.id) := by
  have hfst := congrArg (List.map Prod.fst) h
  rwa [map_map,map_map] at hfst

theorem staked_eq (h : db'.bets.map (·.claim)=db.bets.map (·.claim)) (on : Int → Int → Bool) : db'.staked on=db.staked on := by
  have hmap := congrArg (List.map fun c => if on c.2.1 c.2.2.1 then c.2.2.2.2.2 else 0) h
  rw [map_map,map_map] at hmap
  exact congrArg List.sum hmap

theorem closeBet_settles (hu : Keyed.Unique GamePredictionBet.id db.bets) {b : GamePredictionBet} (hb : b∈db.bets)
    (hactive : b.status=.active) (hfee : b.feeAmount=0) {f : GamePredictionBet → GamePredictionBet}
    (hclaim : ∀ x, (f x).claim=x.claim) (hclosed : (f b).status≠.active) :
    Settles b.predictionId db (db.updateBet b.id f) ((f b).feeAmount-b.amount) where
  users := rfl
  predictions := rfl
  options := rfl
  wallets := id
  balance := fun _ h => h
  transactions := ⟨[],(append_nil _).symm⟩
  claims := map_modify _ _ _ hclaim
  closed := by
    intro x hx
    obtain ⟨y,hy,rfl⟩ := mem_modify hx
    split
    next hid =>
      rw [row_unique hu hy hb hid]
      have hpred : (f b).predictionId=b.predictionId := congrArg (·.2.1) (hclaim b)
      exact .inr ⟨hclosed,hpred⟩
    · exact .inl hy
  moved := fun _ => by
    have hstakes := sum_modify hu hb f fun x => if x.status=.active then x.amount else 0
    have hfees := sum_modify hu hb f GamePredictionBet.feeAmount
    rw [if_neg hclosed,if_pos hactive] at hstakes
    rw [hfee] at hfees
    have hs : (db.updateBet b.id f).stakes=db.stakes+(0-b.amount) := hstakes
    have hf : (db.updateBet b.id f).fees=db.fees+((f b).feeAmount-0) := hfees
    have hbal : (db.updateBet b.id f).balances=db.balances := rfl
    rw [hs,hf,hbal]
    ring

theorem pay_settles (predictionId : Int) {wallet : GameWallet} (hw : wallet∈db.wallets) {net : Int} (hnet : 0≤net)
    (t : Int → GameWalletTransaction) :
    Settles predictionId db
      ((db.updateWallet wallet.id fun w => { w with balance := w.balance+net }).createTransaction t) net where
  users := rfl
  predictions := rfl
  options := rfl
  wallets := fun hu => hu.modify _ fun _ => rfl
  balance := fun hu hb => by
    refine forall_modify hu hw hb ?_
    have := hb wallet hw
    simp only
    omega
  transactions := ⟨[t (Keyed.nextId (db.transactions.map (·.id)))],rfl⟩
  claims := rfl
  closed := fun _ hb => .inl hb
  moved := fun hu => by
    have hsum := sum_modify hu hw (fun w => { w with balance := w.balance+net }) GameWallet.balance
    have hbal : (((db.updateWallet wallet.id fun w => { w with balance := w.balance+net }).createTransaction
        t).balances)=db.balances+(wallet.balance+net-wallet.balance) := hsum
    rw [hbal]
    change db.balances+(wallet.balance+net-wallet.balance)+db.stakes+db.fees=_
    ring

end Relation

section Shares

theorem floorFee_bounds {profit : Int} (h : 0≤profit) (rate : Rat) :
    0≤floorFeeAmount profit rate ∧ floorFeeAmount profit rate≤profit := by
  unfold floorFeeAmount
  split
  · exact ⟨le_refl 0,h⟩
  dsimp only
  split
  · exact ⟨le_refl 0,h⟩
  split
  · exact ⟨h,le_refl _⟩
  rename_i hpos hrate hone
  split
  · exact ⟨h,le_refl _⟩
  have hp : (0 : Rat)≤profit := by exact_mod_cast h
  have hle : (profit : Rat)*normalizeAwardFeeRate (some rate)≤profit :=
    mul_le_of_le_one_right hp (le_of_lt (not_le.mp hone))
  refine ⟨Int.floor_nonneg.mpr (mul_nonneg hp (le_of_lt (not_le.mp hrate))),?_⟩
  exact_mod_cast (Int.floor_le _).trans hle

theorem floorShare_bounds {totalPool winningPool amount : Int} (hpos : 0<amount) (hamount : amount≤winningPool)
    (hpool : winningPool≤totalPool) (hmax : totalPool ≤ maxInt64) : amount≤floorMulDivInt64 totalPool amount winningPool ∧
      floorMulDivInt64 totalPool amount winningPool*winningPool≤totalPool*amount := by
  have hwinning : 0<winningPool := by omega
  have hlow : amount≤totalPool*amount / winningPool := by
    rw [Int.le_ediv_iff_mul_le hwinning,mul_comm]
    exact Int.mul_le_mul_of_nonneg_right hpool (le_of_lt hpos)
  have hhigh : totalPool*amount / winningPool≤totalPool := by
    refine Int.ediv_le_of_le_mul hwinning ?_
    exact Int.mul_le_mul_of_nonneg_left hamount (by omega)
  unfold floorMulDivInt64
  rw [if_neg (by omega),if_neg (by omega)]
  exact ⟨hlow,Int.ediv_mul_le _ (by omega)⟩

/-- What the pools of a settlement satisfy when there is a winner. -/
structure Settling.Pooled (s : Settling) : Prop where
  winning : 0<s.winningPool
  total : s.winningPool ≤ s.totalPool
  max : s.totalPool ≤ maxInt64

/-- The gross payout of a winner covers its stake, keeps the shares of the winners to come, and empties the pool at
the last one. -/
theorem gross_bounds {s : Settling} (hs : s.Pooled) (paid : Paid) {amount rest : Int} (count : Nat)
    (hpos : 0<amount) (hrest : 0≤rest) (hlast : count=0 → rest=0) (hwinning : amount+rest ≤ s.winningPool)
    (hseen : paid.winningSeen+1+count=s.winnerCount)
    (hshare : paid.allocatedGross*s.winningPool ≤ s.totalPool*(s.winningPool-(amount+rest))) : amount ≤ s.gross paid amount ∧
      (paid.allocatedGross+s.gross paid amount)*s.winningPool ≤ s.totalPool*(s.winningPool-rest) ∧
      (count=0 → paid.allocatedGross+s.gross paid amount=s.totalPool) ∧ s.gross paid amount =
        if count=0 then s.totalPool-paid.allocatedGross else floorMulDivInt64 s.totalPool amount s.winningPool := by
  obtain ⟨hW,hT,hmax⟩ := hs
  by_cases hcount : count=0
  · have hrest0 := hlast hcount
    have hleft : amount ≤ s.totalPool-paid.allocatedGross := by
      by_contra hlt
      have hmore : (s.totalPool-amount+1)*s.winningPool≤paid.allocatedGross*s.winningPool :=
        Int.mul_le_mul_of_nonneg_right (by omega) (by omega)
      have hstake : s.winningPool*amount ≤ s.totalPool*amount :=
        Int.mul_le_mul_of_nonneg_right hT (le_of_lt hpos)
      rw [hrest0] at hshare
      nlinarith
    have hlastSeen : paid.winningSeen+1=s.winnerCount := by omega
    have hgross : s.gross paid amount=s.totalPool-paid.allocatedGross := by
      rw [Settling.gross,if_pos hlastSeen,if_neg (not_lt.mpr hleft)]
    rw [hgross]
    refine ⟨hleft,?_,fun _ => by omega,(if_pos hcount).symm⟩
    rw [hrest0,add_sub_cancel,sub_zero]
  · obtain ⟨hlow,hhigh⟩ := floorShare_bounds hpos (show amount ≤ s.winningPool by omega) hT hmax
    have hmore : paid.winningSeen+1≠s.winnerCount := by omega
    have hgross : s.gross paid amount=floorMulDivInt64 s.totalPool amount s.winningPool := by
      rw [Settling.gross,if_neg hmore,if_neg (not_lt.mpr hlow)]
    rw [hgross]
    refine ⟨hlow,?_,fun h => absurd h hcount,(if_neg hcount).symm⟩
    linarith

end Shares

section Loop
variable {s : Settling} (answerOptionId : Int) (bet : GamePredictionBet) (bets : List GamePredictionBet)

def wins (answerOptionId : Int) (b : GamePredictionBet) : Bool := decide (b.optionId=answerOptionId)

def winning (answerOptionId : Int) (bets : List GamePredictionBet) : Int :=
  ((bets.filter (wins answerOptionId)).map (·.amount)).sum

def winners (answerOptionId : Int) (bets : List GamePredictionBet) : Nat :=
  (bets.filter (wins answerOptionId)).length

def amounts (bets : List GamePredictionBet) : Int := (bets.map (·.amount)).sum

theorem winners_cons :
    winners answerOptionId (bet::bets)=winners answerOptionId bets + if bet.optionId=answerOptionId then 1 else 0 := by
  by_cases h : bet.optionId=answerOptionId <;> simp [winners,wins,h]

theorem winning_cons :
    winning answerOptionId (bet::bets) =
      (if bet.optionId=answerOptionId then bet.amount else 0)+winning answerOptionId bets := by
  by_cases h : bet.optionId=answerOptionId <;> simp [winning,wins,h]

structure Ready (predictionId : Int) (db : GameDB) (bets : List GamePredictionBet) : Prop where
  unique : Keyed.Unique GamePredictionBet.id db.bets
  ids : (bets.map (·.id)).Nodup
  mem : ∀ b∈bets, b∈db.bets
  active : ∀ b∈bets, b.status=.active ∧ b.feeAmount=0 ∧ 0<b.amount ∧ b.predictionId=predictionId

variable {db : GameDB} {bet : GamePredictionBet} {bets : List GamePredictionBet}

theorem Ready.head {predictionId : Int} (h : Ready predictionId db (bet::bets)) :
    bet∈db.bets ∧ bet.status=.active ∧ bet.feeAmount=0 ∧ 0<bet.amount ∧ bet.predictionId=predictionId :=
  ⟨h.mem bet mem_cons_self,h.active bet mem_cons_self⟩

theorem Ready.tail {predictionId : Int} {db db' : GameDB} {bet : GamePredictionBet} {bets : List GamePredictionBet}
    (h : Ready predictionId db (bet::bets)) {f : GamePredictionBet → GamePredictionBet}
    (hf : ∀ x, (f x).id=x.id) (hbets : db'.bets=Keyed.modify GamePredictionBet.id bet.id f db.bets) :
    Ready predictionId db' bets := by
  have hids := nodup_cons.mp h.ids
  refine ⟨?_,hids.2,?_,fun b hb => h.active b (mem_cons_of_mem _ hb)⟩
  · rw [hbets]
    exact h.unique.modify _ hf
  · intro b hb
    rw [hbets]
    exact mem_map.mpr ⟨b,h.mem b (mem_cons_of_mem _ hb), if_neg fun he => hids.1 (mem_map.mpr ⟨b,hb,he⟩)⟩

theorem winning_nonneg (h : ∀ b∈bets, 0<b.amount) (answerOptionId : Int) : 0≤winning answerOptionId bets := by
  refine sum_nonneg fun x hx => ?_
  obtain ⟨b,hb,rfl⟩ := mem_map.mp hx
  exact le_of_lt (h b (mem_filter.mp hb).1)

theorem winning_bounds (h : ∀ b∈bets, 0<b.amount) (answerOptionId : Int) :
    winning answerOptionId bets≤amounts bets ∧ (0<winners answerOptionId bets → 0<winning answerOptionId bets) := by
  induction bets with
  | nil => exact ⟨le_refl _,fun h => absurd h (lt_irrefl _)⟩
  | cons bet bets ih =>
    have hpos := h bet mem_cons_self
    have htail := fun b hb => h b (mem_cons_of_mem bet hb)
    obtain ⟨hle,hlt⟩ := ih htail
    have hrest := winning_nonneg htail answerOptionId
    have hamounts : amounts (bet::bets)=bet.amount+amounts bets := rfl
    rw [winners_cons,winning_cons,hamounts]
    split <;> constructor <;> omega

theorem winning_eq_zero {answerOptionId : Int} (h : winners answerOptionId bets=0) : winning answerOptionId bets=0 := by
  rw [winning,length_eq_zero_iff.mp h]
  rfl

section
variable (h : Ready s.predictionId db (bet::bets))
include h

theorem Ready.close {db' : GameDB} {v : Int} (hpaid : Settles s.predictionId db db' v) (hbets : db'.bets=db.bets)
    {f : GamePredictionBet → GamePredictionBet} (hclaim : ∀ x, (f x).claim=x.claim) (hclosed : (f bet).status≠.active) :
    Settles s.predictionId db (db'.updateBet bet.id f) (v+((f bet).feeAmount-bet.amount)) ∧
      Ready s.predictionId (db'.updateBet bet.id f) bets := by
  obtain ⟨hmem,hactive,hfee,-,hpred⟩ := h.head
  rw [← hbets] at hmem
  have hclose := closeBet_settles (hbets ▸ h.unique) hmem hactive hfee hclaim hclosed
  rw [hpred] at hclose
  refine ⟨hpaid.trans hclose,h.tail (fun x => congrArg Prod.fst (hclaim x)) ?_⟩
  rw [← hbets]
  rfl

theorem loseBet_settles :
    Ensures (fun db' => Settles s.predictionId db db' (-bet.amount) ∧ Ready s.predictionId db' bets) (fun _ => True)
      (loseBet s db bet) := by
  unfold loseBet
  refine Ensures.guard trivial fun _ => ?_
  have hclose := h.close (Settles.refl _ db) rfl (f := fun b => { b with status := .lost, settledAt := s.now })
    (fun _ => rfl) nofun
  have hfee : bet.feeAmount=0 := h.head.2.2.1
  rw [hfee,zero_add,zero_sub] at hclose
  exact hclose

theorem payBet_settles {paid : Paid} (hgross : bet.amount ≤ s.gross paid bet.amount) :
    Ensures (fun p => Settles s.predictionId db p.1 (s.gross paid bet.amount-bet.amount) ∧
        Ready s.predictionId p.1 bets ∧ p.2.allocatedGross=paid.allocatedGross+s.gross paid bet.amount ∧
        p.2.winningSeen=paid.winningSeen+1) (fun _ => True) (payBet s db paid bet) := by
  unfold payBet
  dsimp only
  refine (checkedAdd_ok _ _).bind fun allocatedGross halloc => ?_
  cases hwallet : db.wallet? bet.walletId with
  | none => trivial
  | some wallet =>
    refine (checkedAdd_ok _ _).bind fun balance _ => ?_
    refine Ensures.guard trivial fun _ => ?_
    refine (checkedAdd_ok _ _).bind fun _ _ => (checkedAdd_ok _ _).bind fun _ _ => ?_
    have hpos : 0<bet.amount := h.head.2.2.2.1
    have hfees := floorFee_bounds (show 0 ≤ s.gross paid bet.amount-bet.amount by omega) s.feeRate
    have hpay := pay_settles s.predictionId (lookup_some hwallet).1
      (show 0 ≤ s.gross paid bet.amount-floorFeeAmount (s.gross paid bet.amount-bet.amount) s.feeRate by omega)
    obtain ⟨hsettles,hready⟩ := h.close (hpay _) rfl (f := fun b =>
      { b with status := .won, grossPayout := s.gross paid bet.amount, settledAt := s.now
               feeAmount := floorFeeAmount (s.gross paid bet.amount-bet.amount) s.feeRate
               netPayout := s.gross paid bet.amount-floorFeeAmount (s.gross paid bet.amount-bet.amount) s.feeRate
               payoutTxId := Keyed.nextId (db.transactions.map (·.id)) }) (fun _ => rfl) nofun
    rw [sub_add_sub_cancel] at hsettles
    exact ⟨hsettles,hready,halloc.1,rfl⟩

end

theorem settleBets_settles (hs : s.Pooled) (bets : List GamePredictionBet) :
    ∀ (db : GameDB) (paid : Paid), Ready s.predictionId db bets →
      paid.winningSeen+winners s.answerOptionId bets=s.winnerCount → winning s.answerOptionId bets ≤ s.winningPool →
      paid.allocatedGross*s.winningPool ≤ s.totalPool*(s.winningPool-winning s.answerOptionId bets) → Ensures (fun p =>
          Settles s.predictionId db p.1 (p.2.allocatedGross-paid.allocatedGross-amounts bets) ∧
          p.2.allocatedGross = if winners s.answerOptionId bets=0 then paid.allocatedGross else s.totalPool) (fun _ => True)
        (settleBets s bets db paid) := by
  induction bets with
  | nil =>
    intro db paid _ _ _ _
    refine ⟨?_,rfl⟩
    have hrefl := Settles.refl s.predictionId db
    have hzero : paid.allocatedGross-paid.allocatedGross-amounts []=0 := by simp [amounts]
    dsimp only
    rw [hzero]
    exact hrefl
  | cons bet bets ih =>
    intro db paid hready hseen hwinning hshare
    have hamounts : amounts (bet::bets)=bet.amount+amounts bets := rfl
    rw [settleBets]
    refine Ensures.ite (fun hlost => ?_) fun hwon => ?_
    · rw [winners_cons,if_neg hlost,add_zero] at hseen ⊢
      rw [winning_cons,if_neg hlost,zero_add] at hwinning hshare
      refine (loseBet_settles hready).bind fun db' h' => ?_
      refine (ih db' paid h'.2 hseen hwinning hshare).mono fun p hp => ⟨?_,hp.2⟩
      have htrans := h'.1.trans hp.1
      rw [hamounts]
      convert htrans using 1
      ring
    · rw [winners_cons,if_pos (not_not.mp hwon)] at hseen ⊢
      rw [winning_cons,if_pos (not_not.mp hwon)] at hwinning hshare
      have hrest := winning_nonneg (fun b hb => (hready.active b (mem_cons_of_mem _ hb)).2.2.1)
        s.answerOptionId
      obtain ⟨hgross,hnext,hlast,-⟩ := gross_bounds hs paid (winners s.answerOptionId bets)
        hready.head.2.2.2.1 hrest winning_eq_zero hwinning (by push_cast at hseen; omega) hshare
      refine (payBet_settles hready hgross).bind fun p1 h1 => ?_
      obtain ⟨hpaid,hready1,halloc,hseen1⟩ := h1
      rw [← halloc] at hnext hlast
      refine (ih p1.1 p1.2 hready1 ?_ ?_ hnext).mono fun p hp => ⟨?_,?_⟩
      · rw [hseen1]
        push_cast at hseen
        omega
      · have := hready.head.2.2.2.1
        omega
      · have htrans := hpaid.trans hp.1
        rw [hamounts]
        convert htrans using 1
        rw [halloc]
        ring
      · rw [hp.2,if_neg (Nat.succ_ne_zero _)]
        split
        · exact hlast ‹_›
        · rfl

end Loop

section Settlement
variable {db : GameDB} {r : Int}

theorem addPools_ok (answerOptionId : Int) (bets : List GamePredictionBet) :
    ∀ totalPool winningPool winnerCount : Int, (∀ b∈bets, 0<b.amount) → totalPool ≤ maxInt64 →
      Ensures (fun p => p.1=totalPool+amounts bets ∧ p.2.1=winningPool+winning answerOptionId bets ∧
          p.2.2=winnerCount+winners answerOptionId bets ∧ p.1 ≤ maxInt64) (fun _ => True)
        (addPools answerOptionId bets (totalPool,winningPool,winnerCount)) := by
  induction bets with
  | nil =>
    intro totalPool winningPool winnerCount _ hmax
    exact ⟨(add_zero _).symm,(add_zero _).symm,(add_zero _).symm,hmax⟩
  | cons bet bets ih =>
    intro totalPool winningPool winnerCount hpos hmax
    have hamounts : amounts (bet::bets)=bet.amount+amounts bets := rfl
    have htail := fun b hb => hpos b (mem_cons_of_mem bet hb)
    rw [addPools]
    refine (checkedAdd_ok _ _).bind fun total htotal => ?_
    have hmax' := htotal.2 (hpos bet mem_cons_self)
    refine Ensures.ite (fun hwin => ?_) fun hlost => ?_
    · refine (checkedAdd_ok _ _).bind fun won hwon => ?_
      refine (ih total won (winnerCount+1) htail hmax').mono fun p hp => ?_
      rw [hamounts,winners_cons,winning_cons,if_pos hwin,if_pos hwin]
      push_cast
      refine ⟨?_,?_,?_,hp.2.2.2⟩ <;> omega
    · refine (ih total winningPool winnerCount htail hmax').mono fun p hp => ?_
      rw [hamounts,winners_cons,winning_cons,if_neg hlost,if_neg hlost,add_zero,zero_add]
      refine ⟨?_,hp.2.1,hp.2.2.1,hp.2.2.2⟩
      omega

variable {p : GamePrediction}

theorem settled_sound (h : Books db) (hp : p∈db.predictions) (hunsettled : p.status≠.settled) {db' : GameDB}
    {v : Int} (hsettles : Settles p.id db db' v) {f : GamePrediction → GamePrediction}
    (hid : ∀ q, (f q).id=q.id) (hpool : (f p).totalPool=p.totalPool) (hstatus : (f p).status=.settled)
    (hv : v+(if (f p).winnerCount=0 then p.totalPool else 0)=0) : Sound r db (db'.updatePrediction p.id f) := by
  have hp' : p∈db'.predictions := hsettles.predictions ▸ hp
  have hpredictions : Keyed.Unique GamePrediction.id db'.predictions := hsettles.predictions ▸ h.predictions
  have hstaked : ∀ on, (db'.updatePrediction p.id f).staked on=db.staked on := fun on => staked_eq hsettles.claims on
  have hbets : Keyed.Unique GamePredictionBet.id db'.bets := by
    have hids : db'.bets.map GamePredictionBet.id=db.bets.map GamePredictionBet.id := bet_ids_eq hsettles.claims
    rw [Keyed.Unique,hids]
    exact h.bets
  refine ⟨⟨?_,hsettles.wallets h.wallets,hpredictions.modify _ hid,hbets,?_,hsettles.balance h.wallets h.balance,
    ?_,?_,?_,?_,?_⟩,?_,hsettles.transactions,⟨[],hsettles.claims.trans (append_nil _).symm⟩⟩
  · exact hsettles.users ▸ h.users
  · exact hsettles.users ▸ h.quota
  · intro b hb
    have hmem : b.claim∈db'.bets.map (·.claim) := mem_map_of_mem hb
    rw [hsettles.claims] at hmem
    obtain ⟨c,hc,hclaim⟩ := mem_map.mp hmem
    have hamount : c.amount=b.amount := congrArg (·.2.2.2.2.2) hclaim
    rw [← hamount]
    exact h.stake c hc
  · intro b hb hactive
    obtain hb | hb := hsettles.closed b hb
    · exact h.unpaid b hb hactive
    · exact absurd hactive hb.1
  · intro q hq hst b hb hon
    obtain ⟨q',hq',rfl⟩ := mem_modify hq
    by_cases hqid : q'.id=p.id
    · rw [if_pos hqid,row_unique hpredictions hq' hp' hqid] at hst
      exact absurd hstatus hst
    · rw [if_neg hqid] at hst hon
      obtain hb | hb := hsettles.closed b hb
      · exact h.active q' (hsettles.predictions ▸ hq') hst b hb hon
      · exact absurd (hon.symm.trans hb.2) hqid
  · have hold : ∀ q∈db'.predictions, q.totalPool=(db'.updatePrediction p.id f).staked (onPrediction q.id) := by
      intro q hq
      rw [hstaked]
      exact h.totalPool q (hsettles.predictions ▸ hq)
    refine forall_modify hpredictions hp' hold ?_
    rw [hpool,hid]
    exact hold p hp'
  · intro o ho
    rw [hstaked]
    exact h.poolAmount o (hsettles.options ▸ ho)
  · have hforfeited := sum_modify hpredictions hp' f
      (fun q => if q.status=.settled ∧ q.winnerCount=0 then q.totalPool else 0)
    simp only [hstatus,true_and,hunsettled,false_and,if_false,sub_zero,hpool] at hforfeited
    have hmoved := hsettles.moved h.wallets
    have hquotas : (db'.updatePrediction p.id f).quotas=db.quotas := by
      change (db'.users.map _).sum=_
      rw [hsettles.users]
      rfl
    have hall : (db'.updatePrediction p.id f).forfeited = db.forfeited + if (f p).winnerCount=0 then p.totalPool else 0 := by
      refine hforfeited.trans ?_
      rw [hsettles.predictions]
      rfl
    change r*(db'.updatePrediction p.id f).quotas+db'.balances+db'.stakes+db'.fees + (db'.updatePrediction p.id f).forfeited=_
    rw [hquotas,hall,GameDB.worth]
    linear_combination hmoved+hv

theorem activeBets_ready (h : Books db) (hp : p∈db.predictions) (hunsettled : p.status≠.settled) :
    Ready p.id db (db.bets.filter (·.isActiveOn p.id)) ∧ amounts (db.bets.filter (·.isActiveOn p.id))=p.totalPool := by
  refine ⟨⟨h.bets,h.bets.sublist (List.Sublist.map _ filter_sublist),fun b hb => (mem_filter.mp hb).1,?_⟩,?_⟩
  · intro b hb
    obtain ⟨hb,hon⟩ := mem_filter.mp hb
    obtain ⟨hpred,hactive⟩ := of_decide_eq_true hon
    exact ⟨hactive,h.unpaid b hb hactive,h.stake b hb,hpred⟩
  · rw [h.totalPool p hp,amounts,sum_filter]
    refine congrArg List.sum (map_congr_left fun b hb => ?_)
    by_cases hon : b.predictionId=p.id
    · simp [GamePredictionBet.isActiveOn,onPrediction,hon,h.active p hp hunsettled b hb hon]
    · simp [GamePredictionBet.isActiveOn,onPrediction,hon]

theorem loseAll_settles (db : GameDB) (predictionId now : Int) :
    Settles predictionId db (loseAll db predictionId now) (-amounts (db.bets.filter (·.isActiveOn predictionId))) where
  users := rfl
  predictions := rfl
  options := rfl
  wallets := id
  balance := fun _ h => h
  transactions := ⟨[],(append_nil _).symm⟩
  claims := by
    change (db.bets.map _).map _=_
    rw [map_map]
    refine map_congr_left fun b _ => ?_
    dsimp only [Function.comp_apply]
    split <;> rfl
  closed := by
    intro b hb
    obtain ⟨c,hc,rfl⟩ := mem_map.mp hb
    by_cases hon : c.isActiveOn predictionId=true
    · rw [if_pos hon]
      exact .inr ⟨nofun,(of_decide_eq_true hon).1⟩
    · rw [if_neg hon]
      exact .inl hc
  moved := fun _ => by
    have hbalances : (loseAll db predictionId now).balances=db.balances := rfl
    have hfees : (loseAll db predictionId now).fees=db.fees := by
      change ((db.bets.map _).map _).sum=_
      rw [map_map]
      refine congrArg List.sum (map_congr_left fun b _ => ?_)
      dsimp only [Function.comp_apply]
      split <;> rfl
    have hstakes : (loseAll db predictionId now).stakes+amounts (db.bets.filter (·.isActiveOn predictionId)) = db.stakes := by
      rw [amounts,sum_filter]
      change ((db.bets.map _).map _).sum+_=_
      rw [map_map,← sum_map_add]
      refine congrArg List.sum (map_congr_left fun b _ => ?_)
      dsimp only [Function.comp_apply]
      by_cases hon : b.isActiveOn predictionId=true
      · simp [hon,(of_decide_eq_true hon).2]
      · simp [hon]
    rw [hbalances,hfees,← hstakes]
    ring

theorem settle_sound (h : Books db) (reads : Reads) (predictionId adminId : Int) :
    Ensures (Sound r db) (fun _ => True) (settleGamePrediction reads db predictionId adminId) := by
  unfold settleGamePrediction atomically
  refine Ensures.guard trivial fun _ => ?_
  cases hprediction : db.prediction? predictionId with
  | none => trivial
  | some p =>
    obtain ⟨hmem,rfl⟩ := lookup_some hprediction
    refine Ensures.guard trivial fun hsettled => Ensures.guard trivial fun _ => ?_
    refine Ensures.guard trivial fun _ => Ensures.guard trivial fun _ => ?_
    refine Ensures.guard trivial fun _ => ?_
    have hunsettled : p.status≠.settled := fun hs => hsettled (.inl hs)
    -- the row is marked first, which changes nothing that the books see
    have hmark := updatePrediction_sound (r := r) h hmem hunsettled
      (f := fun p => { p with status := .settling }) (fun _ => rfl) rfl nofun
    generalize hdb1 : db.updatePrediction p.id (fun p => { p with status := .settling })=db1 at hmark ⊢
    have hq : { p with status := .settling }∈db1.predictions := by
      rw [← hdb1]
      exact mem_map.mpr ⟨p,hmem,if_pos rfl⟩
    obtain ⟨hready,hamounts⟩ := activeBets_ready hmark.books hq nofun
    dsimp only at hready hamounts ⊢
    have hpos := fun b hb => (hready.active b hb).2.2.1
    refine (addPools_ok p.answerOptionId _ 0 0 0 hpos (by decide)).bind fun ⟨totalPool,winningPool,winnerCount⟩ hpools => ?_
    dsimp only at hpools ⊢
    obtain ⟨htotal,hwinning,hcount,hmax⟩ := hpools
    rw [zero_add] at htotal hwinning hcount
    have hbounds := winning_bounds hpos p.answerOptionId
    refine Ensures.ite (fun hnone => ?_) fun hsome => ?_
    · refine hmark.trans (settled_sound hmark.books hq nofun (loseAll_settles db1 p.id reads.now) (fun _ => rfl) ?_ rfl ?_)
      · exact htotal.trans hamounts
      dsimp only
      rw [if_pos (by omega),hamounts,neg_add_cancel]
    · have hpooled : Settling.Pooled ⟨p.id,p.answerOptionId,totalPool,winningPool,winnerCount,
          normalizeAwardFeeRate reads.awardFeeRate,reads.now⟩ := ⟨?_,?_,hmax⟩
      · refine (settleBets_settles hpooled _ db1 {} hready ?_ ?_ ?_).bind fun ⟨db',paid⟩ hpaid => ?_
        · exact (zero_add _).trans hcount.symm
        · exact le_of_eq hwinning.symm
        · dsimp only
          rw [hwinning,sub_self,zero_mul,mul_zero]
        · dsimp only [Ensures] at hpaid ⊢
          have hwinner : winners p.answerOptionId (db1.bets.filter (·.isActiveOn p.id))≠0 := by omega
          obtain ⟨hsettles,hall⟩ := hpaid
          rw [if_neg hwinner] at hall
          refine hmark.trans (settled_sound hmark.books hq nofun hsettles (fun _ => rfl) ?_ rfl ?_)
          · exact htotal.trans hamounts
          dsimp only
          rw [if_neg (by omega),hall,← htotal]
          ring
      · dsimp only
        omega
      · dsimp only
        omega

end Settlement

end NewApi.Game
