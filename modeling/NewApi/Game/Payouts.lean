import NewApi.Game.Settlement

/-! How a settlement splits the pool of a prediction among the winning bets. -/
namespace NewApi.Game
open List Runs

section Floors
variable {totalPool winningPool : Int}

theorem floors_sum (hpool : 0<winningPool) (amounts : List Int) :
    totalPool*amounts.sum-winningPool*(amounts.map fun a => totalPool*a / winningPool).sum ≤
      (winningPool-1)*amounts.length := by
  induction amounts with
  | nil => simp
  | cons a amounts ih =>
    have hmod : totalPool*a=winningPool*(totalPool*a / winningPool)+totalPool*a % winningPool :=
      (Int.mul_ediv_add_emod _ _).symm
    have hlt : totalPool*a % winningPool<winningPool := Int.emod_lt_of_pos _ hpool
    simp only [sum_cons,map_cons,length_cons]
    push_cast
    linarith

theorem floors_leave (hpool : 0<winningPool) {amounts : List Int} (hsum : amounts.sum=winningPool) (hne : amounts≠[]) :
    totalPool≤(amounts.map fun a => totalPool*a / winningPool).sum+(amounts.length-1) := by
  have hlength : 0<amounts.length := length_pos_of_ne_nil hne
  have hbound := @floors_sum totalPool winningPool hpool amounts
  rw [hsum] at hbound
  by_contra hlt
  have hmore : winningPool*amounts.length ≤ winningPool*(totalPool-(amounts.map fun a => totalPool*a / winningPool).sum) :=
    Int.mul_le_mul_of_nonneg_left (by omega) (le_of_lt hpool)
  have hpos : (0 : Int)<amounts.length := by exact_mod_cast hlength
  linarith

end Floors

def GameDB.rowOf (db : GameDB) (b : GamePredictionBet) : GamePredictionBet :=
  (Keyed.lookup GamePredictionBet.id b.id db.bets).getD b

structure PaidRow (b row : GamePredictionBet) : Prop where
  status : row.status=.won
  stake : b.amount≤row.grossPayout
  fee : 0≤row.feeAmount
  profit : row.feeAmount≤row.grossPayout-b.amount
  net : row.netPayout=row.grossPayout-row.feeAmount

def grossOf (row : GamePredictionBet → GamePredictionBet) (bets : List GamePredictionBet) : Int :=
  (bets.map fun b => (row b).grossPayout).sum

/-- The winners in their order: each gets the floor of its share, the last one what is left. -/
def Pays (s : Settling) (row : GamePredictionBet → GamePredictionBet) : Int → List GamePredictionBet → Prop
  | _, [] => True
  | allocated, b::rest =>
    ((row b).grossPayout =
        if rest=[] then s.totalPool-allocated else floorMulDivInt64 s.totalPool b.amount s.winningPool) ∧
      PaidRow b (row b) ∧ Pays s row (allocated+(row b).grossPayout) rest

/-- The pool is split: the winners' rows against the stakes, the shares and the checks of the code. -/
structure PaidOut (totalPool winningPool : Int) (winners : List GamePredictionBet)
    (row : GamePredictionBet → GamePredictionBet) : Prop where
  total : grossOf row winners=totalPool
  rows : ∀ b∈winners, PaidRow b (row b)
  floor : ∀ b∈winners.dropLast, (row b).grossPayout=totalPool*b.amount / winningPool
  last : ∀ b∈winners.getLast?, (row b).grossPayout≤totalPool*b.amount / winningPool+(winners.length-1)
  unclamped : ∀ before b rest, winners=before++b::rest →
    b.amount ≤ if rest=[] then totalPool-grossOf row before else floorMulDivInt64 totalPool b.amount winningPool
  unsaturated : ∀ b∈winners, totalPool*b.amount / winningPool ≤ maxInt64

section Shares
variable {s : Settling} {row : GamePredictionBet → GamePredictionBet} {winners : List GamePredictionBet}

theorem Pays.split {b : GamePredictionBet} {rest : List GamePredictionBet} (before : List GamePredictionBet) :
    ∀ {allocated : Int}, Pays s row allocated (before++b::rest) →
      ((row b).grossPayout = if rest=[] then s.totalPool-(allocated+grossOf row before)
        else floorMulDivInt64 s.totalPool b.amount s.winningPool) ∧ PaidRow b (row b) := by
  induction before with
  | nil =>
    rintro allocated ⟨hgross,hrow,-⟩
    refine ⟨?_,hrow⟩
    rw [hgross,grossOf,map_nil,sum_nil,add_zero]
  | cons c before ih =>
    rintro allocated ⟨-,-,hrest⟩
    obtain ⟨hgross,hrow⟩ := ih hrest
    refine ⟨?_,hrow⟩
    rw [hgross,grossOf,grossOf,map_cons,sum_cons,add_assoc]

theorem share_le (hs : s.Pooled) {amount : Int} (hle : amount ≤ s.winningPool) : s.totalPool*amount / s.winningPool ≤ maxInt64 := by
  have htotal : 0 ≤ s.totalPool := le_trans (le_of_lt hs.winning) hs.total
  refine le_trans (Int.ediv_le_of_le_mul hs.winning ?_) hs.max
  exact Int.mul_le_mul_of_nonneg_left hle htotal

theorem floorMulDiv_eq (hs : s.Pooled) {amount : Int} (hpos : 0<amount) (hle : amount ≤ s.winningPool) :
    floorMulDivInt64 s.totalPool amount s.winningPool=s.totalPool*amount / s.winningPool := by
  have hmax := share_le hs hle
  obtain ⟨hW,hT,-⟩ := hs
  unfold floorMulDivInt64
  rw [if_neg (by omega),if_neg (by omega)]

theorem Pays.out (h : Pays s row 0 winners) (hs : s.Pooled) (hpos : ∀ b∈winners, 0<b.amount)
    (hsum : (winners.map (·.amount)).sum=s.winningPool) : PaidOut s.totalPool s.winningPool winners row := by
  have hle : ∀ b∈winners, b.amount ≤ s.winningPool := by
    intro b hb
    rw [← hsum]
    refine single_le_sum (fun x hx => ?_) _ (mem_map_of_mem hb)
    obtain ⟨c,hc,rfl⟩ := mem_map.mp hx
    exact le_of_lt (hpos c hc)
  obtain rfl | ⟨init,l,rfl⟩ := winners.eq_nil_or_concat
  · exact absurd hs.winning (hsum ▸ lt_irrefl 0)
  rw [concat_eq_append] at *
  obtain ⟨hlast,-⟩ := Pays.split init h
  rw [if_pos rfl,zero_add] at hlast
  have hfloor : ∀ b∈init, (row b).grossPayout=s.totalPool*b.amount / s.winningPool := by
    intro b hb
    obtain ⟨before,rest,rfl⟩ := append_of_mem hb
    rw [append_assoc,cons_append] at h
    have hmem := mem_append_left [l] hb
    rw [(Pays.split before h).1,if_neg (append_ne_nil_of_right_ne_nil _ (cons_ne_nil _ _)),
      floorMulDiv_eq hs (hpos b hmem) (hle b hmem)]
  have hgrosses : grossOf row init=(init.map fun b => s.totalPool*b.amount / s.winningPool).sum :=
    congrArg List.sum (map_congr_left hfloor)
  refine ⟨?_,?_,?_,?_,?_,fun b hb => share_le hs (hle b hb)⟩
  · have hsplit : grossOf row (init++[l])=grossOf row init+(row l).grossPayout := by
      simp [grossOf]
    rw [hsplit,hlast]
    ring
  · intro b hb
    obtain ⟨before,rest,heq⟩ := append_of_mem hb
    rw [heq] at h
    exact (Pays.split before h).2
  · rw [dropLast_concat]
    exact hfloor
  · intro b hb
    rw [getLast?_concat,Option.mem_some_iff] at hb
    subst hb
    have hleave := @floors_leave s.totalPool _ hs.winning _ hsum (by simp)
    rw [map_map,map_append,sum_append,length_map] at hleave
    simp only [Function.comp_def,map_cons,map_nil,sum_cons,sum_nil,add_zero] at hleave
    rw [hlast,hgrosses]
    linarith
  · intro before b rest heq
    rw [heq] at h
    obtain ⟨hgross,hrow⟩ := Pays.split before h
    rw [zero_add] at hgross
    rw [← hgross]
    exact hrow.stake

end Shares

structure Awaiting (db : GameDB) (bets : List GamePredictionBet) : Prop where
  ids : (bets.map (·.id)).Nodup
  row : ∀ b∈bets, Keyed.lookup GamePredictionBet.id b.id db.bets=some b
  pos : ∀ b∈bets, 0<b.amount

def OneRow (id : Int) (db db' : GameDB) : Prop :=
  ∀ k≠id, Keyed.lookup GamePredictionBet.id k db'.bets=Keyed.lookup GamePredictionBet.id k db.bets

section Loop
variable {s : Settling} {db db' : GameDB} {bet : GamePredictionBet} {bets : List GamePredictionBet}

theorem updateBet_oneRow (db : GameDB) (id : Int) (f : GamePredictionBet → GamePredictionBet) (hf : ∀ b, (f b).id=b.id) :
    OneRow id db (db.updateBet id f) :=
  fun k hk => (Keyed.lookup_modify GamePredictionBet.id id k db.bets hf).trans (if_neg hk)

theorem rowOf_update (f : GamePredictionBet → GamePredictionBet) (hf : ∀ b, (f b).id=b.id)
    (hb : Keyed.lookup GamePredictionBet.id bet.id db.bets=some bet) : (db.updateBet bet.id f).rowOf bet=f bet := by
  have hlookup := (Keyed.lookup_modify GamePredictionBet.id bet.id bet.id db.bets hf).trans (if_pos rfl)
  rw [hb] at hlookup
  exact congrArg (fun row => row.getD bet) hlookup

theorem Awaiting.tail (h : Awaiting db (bet::bets)) (hrow : OneRow bet.id db db') : Awaiting db' bets where
  ids := (nodup_cons.mp h.ids).2
  row := by
    intro b hb
    have hne : b.id≠bet.id := fun he => (nodup_cons.mp h.ids).1 (mem_map.mpr ⟨b,hb,he⟩)
    exact (hrow b.id hne).trans (h.row b (mem_cons_of_mem _ hb))
  pos := fun b hb => h.pos b (mem_cons_of_mem _ hb)

theorem loseBet_oneRow (s : Settling) (db : GameDB) (bet : GamePredictionBet) :
    Ensures (OneRow bet.id db) (fun _ => True) (loseBet s db bet) := by
  unfold loseBet
  refine Ensures.guard trivial fun _ => ?_
  exact updateBet_oneRow db bet.id _ fun _ => rfl

theorem payBet_row {paid : Paid} (h : Awaiting db (bet::bets)) (hgross : bet.amount ≤ s.gross paid bet.amount) :
    Ensures (fun p => (p.1.rowOf bet).grossPayout=s.gross paid bet.amount ∧ PaidRow bet (p.1.rowOf bet) ∧
        OneRow bet.id db p.1 ∧ p.2.allocatedGross=paid.allocatedGross+s.gross paid bet.amount ∧
        p.2.winningSeen=paid.winningSeen+1) (fun _ => True) (payBet s db paid bet) := by
  have hbet := h.row bet mem_cons_self
  unfold payBet
  dsimp only
  refine (checkedAdd_ok _ _).bind fun _ halloc => ?_
  cases db.wallet? bet.walletId with
  | none => trivial
  | some wallet =>
    refine (checkedAdd_ok _ _).bind fun balance _ => ?_
    refine Ensures.guard trivial fun _ => ?_
    refine (checkedAdd_ok _ _).bind fun _ _ => (checkedAdd_ok _ _).bind fun _ _ => ?_
    obtain ⟨hfee,hprofit⟩ := floorFee_bounds (show 0 ≤ s.gross paid bet.amount-bet.amount by omega) s.feeRate
    dsimp only [Ensures]
    rw [rowOf_update]
    · exact ⟨rfl,⟨rfl,hgross,hfee,hprofit,rfl⟩,updateBet_oneRow _ bet.id _ fun _ => rfl,halloc.1,rfl⟩
    · exact fun _ => rfl
    · exact hbet

theorem settleBets_pays (hs : s.Pooled) (bets : List GamePredictionBet) : ∀ (db : GameDB) (paid : Paid), Awaiting db bets →
      paid.winningSeen+winners s.answerOptionId bets=s.winnerCount → winning s.answerOptionId bets ≤ s.winningPool →
      paid.allocatedGross*s.winningPool ≤ s.totalPool*(s.winningPool-winning s.answerOptionId bets) →
      Ensures (fun p => Pays s p.1.rowOf paid.allocatedGross (bets.filter (wins s.answerOptionId)) ∧ ∀ k∉bets.map (·.id),
            Keyed.lookup GamePredictionBet.id k p.1.bets=Keyed.lookup GamePredictionBet.id k db.bets)
        (fun _ => True) (settleBets s bets db paid) := by
  induction bets with
  | nil => exact fun db paid _ _ _ _ => ⟨trivial,fun _ _ => rfl⟩
  | cons bet bets ih =>
    intro db paid hawaiting hseen hwinning hshare
    have hpos := hawaiting.pos bet mem_cons_self
    rw [settleBets]
    refine Ensures.ite (fun hlost => ?_) fun hwon => ?_
    · rw [winners_cons,if_neg hlost,add_zero] at hseen
      rw [winning_cons,if_neg hlost,zero_add] at hwinning hshare
      refine (loseBet_oneRow s db bet).bind fun db' hrow => ?_
      refine (ih db' paid (hawaiting.tail hrow) hseen hwinning hshare).mono fun p hp => ⟨?_,fun k hk => ?_⟩
      · rw [filter_cons_of_neg (by simpa [wins] using hlost)]
        exact hp.1
      · obtain ⟨hne,hk⟩ := not_or.mp (mt mem_cons.mpr hk)
        exact (hp.2 k hk).trans (hrow k hne)
    · rw [not_not] at hwon
      rw [winners_cons,if_pos hwon] at hseen
      rw [winning_cons,if_pos hwon] at hwinning hshare
      have hrest := winning_nonneg (fun b hb => hawaiting.pos b (mem_cons_of_mem _ hb)) s.answerOptionId
      obtain ⟨hgross,hnext,-,heq⟩ := gross_bounds hs paid (winners s.answerOptionId bets)
        hpos hrest winning_eq_zero hwinning (by push_cast at hseen; omega) hshare
      refine (payBet_row hawaiting hgross).bind fun p1 hp1 => ?_
      obtain ⟨hpaid,hrow,hone,halloc,hseen1⟩ := hp1
      rw [← halloc] at hnext
      refine (ih p1.1 p1.2 (hawaiting.tail hone) ?_ ?_ hnext).mono fun p hp => ⟨?_,fun k hk => ?_⟩
      · rw [hseen1]
        push_cast at hseen
        omega
      · omega
      · have hsame : p.1.rowOf bet=p1.1.rowOf bet :=
          congrArg (·.getD bet) (hp.2 bet.id (nodup_cons.mp hawaiting.ids).1)
        have hnone : bets.filter (wins s.answerOptionId)=[] ↔ winners s.answerOptionId bets=0 :=
          length_eq_zero_iff.symm
        rw [filter_cons_of_pos (by exact decide_eq_true hwon),Pays,hsame,hpaid,← halloc]
        refine ⟨?_,hrow,hp.1⟩
        rw [heq]
        simp only [hnone]
      · obtain ⟨hne,hk⟩ := not_or.mp (mt mem_cons.mpr hk)
        exact (hp.2 k hk).trans (hone k hne)

end Loop

section Settlement
variable {db db' : GameDB}

def GameDB.activeBets (db : GameDB) (predictionId : Int) : List GamePredictionBet :=
  db.bets.filter (·.isActiveOn predictionId)

/-- A settlement with a winner splits the whole pool among the winning bets. -/
theorem settlement_pays (reads : Reads) (adminId : Int) {p : GamePrediction}
    (hids : Keyed.Unique GamePredictionBet.id db.bets) (hprediction : db.prediction? p.id=some p)
    (hpos : ∀ b∈db.activeBets p.id, 0<b.amount) (hwinner : ∃ b∈db.activeBets p.id, b.optionId=p.answerOptionId)
    (h : settleGamePrediction reads db p.id adminId=.ok db') :
    PaidOut (amounts (db.activeBets p.id)) (winning p.answerOptionId (db.activeBets p.id))
      ((db.activeBets p.id).filter (wins p.answerOptionId)) db'.rowOf := by
  suffices hall : Ensures (fun db' => PaidOut (amounts (db.activeBets p.id))
      (winning p.answerOptionId (db.activeBets p.id)) ((db.activeBets p.id).filter (wins p.answerOptionId)) db'.rowOf)
      (fun _ => True) (settleGamePrediction reads db p.id adminId) by
    rw [h] at hall
    exact hall
  unfold settleGamePrediction atomically
  refine Ensures.guard trivial fun _ => ?_
  rw [hprediction]
  refine Ensures.guard trivial fun _ => Ensures.guard trivial fun _ => ?_
  refine Ensures.guard trivial fun _ => Ensures.guard trivial fun _ => ?_
  refine Ensures.guard trivial fun _ => ?_
  generalize hdb₁ : db.updatePrediction p.id (fun p => { p with status := .settling })=db₁
  have hbets : db₁.bets=db.bets := hdb₁ ▸ rfl
  have hactive : db₁.bets.filter (·.isActiveOn p.id)=db.activeBets p.id := by
    rw [hbets]
    rfl
  dsimp only
  rw [hactive]
  generalize hlist : db.activeBets p.id=bets at hpos hwinner ⊢
  have hawaiting : Awaiting db₁ bets := by
    subst hlist
    refine ⟨hids.sublist (List.Sublist.map _ filter_sublist),fun b hb => ?_,hpos⟩
    rw [hbets]
    exact Keyed.lookup_of_mem hids (mem_filter.mp hb).1
  refine (addPools_ok p.answerOptionId bets 0 0 0 hpos (by decide)).bind fun ⟨totalPool,winningPool,winnerCount⟩ hpools => ?_
  dsimp only at hpools ⊢
  obtain ⟨htotal,hwinning,hcount,hmax⟩ := hpools
  rw [zero_add] at htotal hwinning hcount
  subst htotal hwinning
  obtain ⟨hle,hlt⟩ := winning_bounds hpos p.answerOptionId
  have hsome : 0<winners p.answerOptionId bets := by
    obtain ⟨b,hb,hon⟩ := hwinner
    exact length_pos_of_mem (mem_filter.mpr ⟨hb,decide_eq_true hon⟩)
  have hpool := hlt hsome
  rw [if_neg (by omega)]
  have hs : Settling.Pooled ⟨p.id,p.answerOptionId,amounts bets,winning p.answerOptionId bets,winnerCount,
      normalizeAwardFeeRate reads.awardFeeRate,reads.now⟩ := ⟨hpool,hle,hmax⟩
  refine (settleBets_pays hs bets db₁ {} hawaiting ?_ (le_refl _) ?_).bind fun ⟨db₂,paid⟩ hpaid => ?_
  · exact (zero_add _).trans hcount.symm
  · dsimp only
    rw [sub_self,zero_mul,mul_zero]
  · exact Pays.out hpaid.1 hs (fun b hb => hpos b (mem_filter.mp hb).1) rfl

def payday : GameDB :=
  { users := [⟨1,0⟩,⟨2,0⟩,⟨3,0⟩]
    wallets := [{ id := 1, userId := 1 },{ id := 2, userId := 2 },{ id := 3, userId := 3 }]
    predictions := [{ id := 1, status := .answered, closeTime := 100, answerOptionId := 1 }]
    bets := [{ id := 1, predictionId := 1, optionId := 1, userId := 1, walletId := 1, amount := 7 },
      { id := 2, predictionId := 1, optionId := 1, userId := 2, walletId := 2, amount := 3 },
      { id := 3, predictionId := 1, optionId := 2, userId := 3, walletId := 3, amount := 95 }] }

theorem payday_pays : ∃ db', settleGamePrediction { now := 200 } payday 1 9=.ok db' ∧
    db'.bets.map (·.grossPayout)=[73,32,0] ∧
    PaidOut 105 10 ((payday.activeBets 1).filter (wins 1)) db'.rowOf := by
  have hgross : (settleGamePrediction { now := 200 } payday 1 9).map (fun db => db.bets.map (·.grossPayout)) =
      .ok [73,32,0] := by decide +kernel
  cases h : settleGamePrediction { now := 200 } payday 1 9 with
  | error e =>
    rw [h] at hgross
    exact nomatch hgross
  | ok db' =>
    rw [h] at hgross
    refine ⟨db',rfl,Except.ok.inj hgross,?_⟩
    exact settlement_pays { now := 200 } 9 (by unfold Keyed.Unique; decide)
      (p := { id := 1, status := .answered, closeTime := 100, answerOptionId := 1 }) rfl (by decide) (by decide) h

end Settlement

end NewApi.Game
