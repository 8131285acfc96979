import NewApi.Affiliate.Ledger

/-! Every call of the affiliate code keeps the books: over any run the buckets of a balance add up
to its total and to the rows behind them, and no call meets a ledger that contradicts itself. -/
namespace NewApi.Affiliate
open Keyed List Runs

section Writes
variable {db db' : AffiliateDB} {u : Int}

theorem sum_append_singleton {ρ : Type} (g : ρ → Int) (rows : List ρ) (r : ρ) :
    ((rows++[r]).map g).sum=(rows.map g).sum+g r := by
  simp

section
variable (h : Books (fun _ => 0) db)
include h

theorem Wrote.books_same {b : AffiliateBalance}
    (hw : Wrote db u db.records db.withdrawals b db') (hself : Book db.records db.withdrawals 0 u b) : Books (fun _ => 0) db' :=
  hw.books hself (fun v _ => h.book v) h.reward h.quota h.unique h.ids

theorem reward_books {record : AffiliateRecord} (huser : record.userId=u)
    (hstatus : record.status=.pending) (hpos : 0<record.rewardQuota)
    (hw : Wrote db u (db.records++[record]) db.withdrawals
      { db.balance u with
        pendingQuota := (db.balance u).pendingQuota+record.rewardQuota
        totalQuota := (db.balance u).totalQuota+record.rewardQuota } db') : Books (fun _ => 0) db' := by
  have hbook := h.book u
  have hown : pendingOf u record=record.rewardQuota := by
    rw [pendingOf,if_pos ⟨huser,hstatus⟩]
  refine hw.books ?_ (fun v hv => ?_) (fun r hr => ?_) h.quota h.unique h.ids
  · have hp := hbook.pending
    have ht := hbook.total
    exact { hbook with
      total := by
        simp only
        omega
      pending := by
        rw [sum_append_singleton,hown]
        simp only
        omega }
  · refine (h.book v).of_sums ?_ rfl rfl
    have hnone : pendingOf v record=0 := by
      rw [pendingOf,if_neg]
      exact fun hc => hv (hc.1.symm.trans huser)
    rw [sum_append_singleton,hnone]
    omega
  · obtain hr | hr := mem_append.mp hr
    · exact h.reward r hr
    rw [mem_singleton.mp hr]
    exact hpos

theorem settledBalance_book (userId now v : Int) (frozen : Bool) :
    Book (db.records.map (settleRecord userId now)) db.withdrawals 0 v
      (settledBalance frozen (dueQuota db userId now v) (db.balance v)) := by
  have hbook := h.book v
  have hsum := pending_settled db.records userId now v
  have hdue := dueQuota_nonneg h userId now v
  have hp := hbook.pending
  have ht := hbook.total
  have ha := hbook.available_nonneg
  have hr := hbook.riskFrozen_nonneg
  rw [dueQuota] at hdue ⊢
  cases frozen <;>
    exact
    { owner := hbook.owner
      total := by
        simp only [settledBalance,if_true,if_false,Bool.false_eq_true]
        omega
      pending := by
        simp only [settledBalance]
        omega
      frozen := hbook.frozen
      withdrawn := hbook.withdrawn
      available_nonneg := by
        simp only [settledBalance,if_true,if_false,Bool.false_eq_true]
        omega
      riskFrozen_nonneg := by
        simp only [settledBalance,if_true,if_false,Bool.false_eq_true]
        omega
      confiscated_nonneg := hbook.confiscated_nonneg
      transferred_nonneg := hbook.transferred_nonneg }

theorem settled_books {userId now : Int} (hs : Settled db userId now db') : Books (fun _ => 0) db' := by
  refine ⟨fun v => ?_,fun r hr => ?_,hs.withdrawals ▸ h.quota,hs.withdrawals ▸ h.unique,hs.withdrawals ▸ h.ids⟩
  · rw [hs.records,hs.withdrawals,hs.balance]
    exact settledBalance_book h userId now v _
  · rw [hs.records] at hr
    obtain ⟨x,hx,rfl⟩ := mem_map.mp hr
    unfold settleRecord
    split
    · exact h.reward x hx
    · exact h.reward x hx

theorem withdraw_books {q : Int} (hq : 0<q) (hle : q≤(db.balance u).availableQuota)
    (hw : Wrote db u db.records
      (db.withdrawals++[{ id := db.withdrawals.length+1, userId := u, quota := q, status := .pending }])
      { db.balance u with
        availableQuota := (db.balance u).availableQuota-q
        frozenQuota := (db.balance u).frozenQuota+q } db') : Books (fun _ => 0) db' := by
  have hbook := h.book u
  set w : AffiliateWithdrawal :=
    { id := db.withdrawals.length+1, userId := u, quota := q, status := .pending } with hwdef
  have hpaid : ∀ v, paidOf v w=0 := fun v => if_neg fun hc => nomatch hc.2
  have hopen : ∀ v, openOf v w = if v=u then q else 0 := by
    intro v
    by_cases hv : v=u
    · rw [openOf,if_pos ⟨hv.symm,rfl⟩,if_pos hv]
    · rw [openOf,if_neg fun hc => hv hc.1.symm,if_neg hv]
  refine hw.books ?_ (fun v hv => ?_) h.reward (fun x hx => ?_) ?_ (fun x hx => ?_)
  · have hf := hbook.frozen
    have ht := hbook.total
    exact { hbook with
      total := by
        simp only
        omega
      frozen := by
        rw [sum_append_singleton,hopen,if_pos rfl]
        simp only
        omega
      withdrawn := by
        rw [sum_append_singleton,hpaid,add_zero]
        exact hbook.withdrawn
      available_nonneg := by
        simp only
        omega }
  · refine (h.book v).of_sums rfl ?_ ?_
    · rw [sum_append_singleton,hopen,if_neg hv,add_zero]
    · rw [sum_append_singleton,hpaid,add_zero]
  · obtain hx | hx := mem_append.mp hx
    · exact h.quota x hx
    rw [mem_singleton.mp hx]
    exact hq
  · refine Keyed.Unique.append h.unique (lookup_eq_none.mpr fun x hx he => ?_)
    have hid := h.ids x hx
    have he : x.id=(db.withdrawals.length : Int)+1 := he
    omega
  · rw [length_append,length_singleton]
    obtain hx | hx := mem_append.mp hx
    · have := h.ids x hx
      omega
    · rw [mem_singleton.mp hx]
      simp [hwdef]

theorem status_books {w : AffiliateWithdrawal}
    {f : AffiliateWithdrawal → AffiliateWithdrawal} {target : WithdrawalStatus} (hmem : w∈db.withdrawals)
    (hopen : w.open=true) (htarget : target≠.pending)
    (hf : ∀ x, (f x).id=x.id ∧ (f x).userId=x.userId ∧ (f x).quota=x.quota ∧ (f x).status=target)
    (hw : Wrote db w.userId db.records (Keyed.modify AffiliateWithdrawal.id w.id f db.withdrawals)
      (resolvedBalance target w.quota (db.balance w.userId)) db') : Books (fun _ => 0) db' := by
  have hbook := h.book w.userId
  have hle := h.quota_le_frozen hmem hopen
  have hpos := h.quota w hmem
  obtain ⟨-,hfu,hfq,hfs⟩ := hf w
  have hunpaid : w.status≠.paid := by
    intro hp
    rw [AffiliateWithdrawal.open,hp] at hopen
    simp at hopen
  have hsum := fun g => sum_modify h.unique hmem f g
  have hopens : ∀ v, openOf v (f w)-openOf v w =
      if v=w.userId ∧ (target=.paid ∨ target=.rejected) then -w.quota else 0 := by
    intro v
    unfold openOf AffiliateWithdrawal.open at *
    rw [hfu,hfq,hfs]
    by_cases hv : w.userId=v
    · subst hv
      cases target <;> simp_all
    · simp [hv,Ne.symm hv]
  have hpaids : ∀ v, paidOf v (f w)-paidOf v w = if v=w.userId ∧ target=.paid then w.quota else 0 := by
    intro v
    unfold paidOf
    rw [hfu,hfq,hfs]
    by_cases hv : w.userId=v
    · subst hv
      cases target <;> simp_all
    · simp [hv,Ne.symm hv]
  refine hw.books ?_ (fun v hv => ?_) h.reward (fun x hx => ?_) (h.unique.modify w.id fun x => (hf x).1) fun x hx => ?_
  · have hfr := hbook.frozen
    have hwd := hbook.withdrawn
    have ht := hbook.total
    have ha := hbook.available_nonneg
    have ho := hsum (openOf w.userId)
    have hp := hsum (paidOf w.userId)
    rw [hopens] at ho
    rw [hpaids] at hp
    cases target with
    | pending => exact absurd rfl htarget
    | approved =>
      simp at ho hp
      exact hbook.of_sums rfl ho hp
    | rejected =>
      simp at ho hp
      exact { hbook with
        total := by
          simp only [resolvedBalance]
          omega
        frozen := by
          rw [ho]
          simp only [resolvedBalance]
          omega
        withdrawn := by
          rw [hp]
          exact hwd
        available_nonneg := by
          simp only [resolvedBalance]
          omega }
    | paid =>
      simp at ho hp
      exact { hbook with
        total := by
          simp only [resolvedBalance]
          omega
        frozen := by
          rw [ho]
          simp only [resolvedBalance]
          omega
        withdrawn := by
          rw [hp]
          simp only [resolvedBalance]
          omega }
  · have ho := hsum (openOf v)
    have hp := hsum (paidOf v)
    rw [hopens,if_neg fun hc => hv hc.1,add_zero] at ho
    rw [hpaids,if_neg fun hc => hv hc.1,add_zero] at hp
    exact (h.book v).of_sums rfl ho hp
  · obtain ⟨y,hy,rfl⟩ := mem_modify hx
    split
    · rw [(hf y).2.2.1]
      exact h.quota y hy
    · exact h.quota y hy
  · rw [Keyed.modify,length_map]
    obtain ⟨y,hy,rfl⟩ := mem_modify hx
    split
    · rw [(hf y).1]
      exact h.ids y hy
    · exact h.ids y hy

theorem transfer_books {q : Int} (hq : 0<q) (hle : q≤(db.balance u).availableQuota)
    (hw : Wrote db u db.records db.withdrawals
      { db.balance u with
        availableQuota := (db.balance u).availableQuota-q
        transferredQuota := (db.balance u).transferredQuota+q } db') : Books (fun _ => 0) db' := by
  have hbook := h.book u
  have ht := hbook.total
  have htr := hbook.transferred_nonneg
  exact hw.books_same h { hbook with
    total := by
      simp only
      omega
    available_nonneg := by
      simp only
      omega
    transferred_nonneg := by
      simp only
      omega }

theorem freeze_books
    (hw : Wrote db u db.records db.withdrawals (frozenBalance (db.balance u)) db') : Books (fun _ => 0) db' := by
  have hbook := h.book u
  have ht := hbook.total
  have ha := hbook.available_nonneg
  have hr := hbook.riskFrozen_nonneg
  exact hw.books_same h { hbook with
    total := by
      simp only [frozenBalance]
      omega
    available_nonneg := le_rfl
    riskFrozen_nonneg := by
      simp only [frozenBalance]
      omega }

theorem unfreeze_books
    (hw : Wrote db u db.records db.withdrawals (unfrozenBalance (db.balance u)) db') : Books (fun _ => 0) db' := by
  have hbook := h.book u
  have ht := hbook.total
  have ha := hbook.available_nonneg
  have hr := hbook.riskFrozen_nonneg
  exact hw.books_same h { hbook with
    total := by
      simp only [unfrozenBalance]
      omega
    riskFrozen_nonneg := le_rfl
    available_nonneg := by
      simp only [unfrozenBalance]
      omega }

theorem clear_books {adminId now : Int} (hpos : 0<clearedQuota (db.balance u))
    (hw : Wrote db u (db.records.map (clearRecord u now)) (db.withdrawals.map (clearWithdrawal u adminId now))
      (clearedBalance (db.balance u)) db') : Books (fun _ => 0) db' := by
  have hbook := h.book u
  have hids : ∀ w, (clearWithdrawal u adminId now w).id=w.id := by
    intro w
    unfold clearWithdrawal
    split <;> rfl
  have hpaid : ∀ v, ((db.withdrawals.map (clearWithdrawal u adminId now)).map (paidOf v)).sum =
      (db.withdrawals.map (paidOf v)).sum := by
    intro v
    refine sum_map_map fun w _ => ?_
    unfold clearWithdrawal
    split
    next hc =>
      have hs : w.status≠.paid := by
        intro hp
        have := hc.2
        rw [AffiliateWithdrawal.open,hp] at this
        simp at this
      simp [paidOf,hs]
    · rfl
  refine hw.books ?_ (fun v hv => ?_) (fun r hr => ?_) (fun x hx => ?_) ?_ fun x hx => ?_
  · have ht := hbook.total
    have hc := hbook.confiscated_nonneg
    exact
    { owner := hbook.owner
      total := by
        simp only [clearedBalance,clearedQuota]
        omega
      pending := by
        simp only [clearedBalance]
        symm
        rw [add_zero]
        refine sum_eq_zero fun x hx => ?_
        obtain ⟨y,hy,rfl⟩ := mem_map.mp hx
        obtain ⟨r,-,rfl⟩ := mem_map.mp hy
        unfold clearRecord
        split
        · exact if_neg fun hc => absurd hc.2 (by simp)
        next hc =>
          exact if_neg hc
      frozen := by
        simp only [clearedBalance]
        symm
        refine sum_eq_zero fun x hx => ?_
        obtain ⟨y,hy,rfl⟩ := mem_map.mp hx
        obtain ⟨w,-,rfl⟩ := mem_map.mp hy
        unfold clearWithdrawal
        split
        · exact if_neg fun hc => absurd hc.2 (by simp [AffiliateWithdrawal.open])
        next hc =>
          exact if_neg hc
      withdrawn := by
        rw [hpaid]
        exact hbook.withdrawn
      available_nonneg := le_rfl
      riskFrozen_nonneg := le_rfl
      confiscated_nonneg := by
        simp only [clearedBalance]
        omega
      transferred_nonneg := hbook.transferred_nonneg }
  · refine (h.book v).of_sums ?_ ?_ (hpaid v)
    · rw [sum_map_map fun r _ => ?_]
      unfold clearRecord
      split
      next hc =>
        rw [pendingOf,pendingOf,if_neg fun h => hv (h.1.symm.trans hc.1),if_neg fun h => hv (h.1.symm.trans hc.1)]
      · rfl
    · refine sum_map_map fun w _ => ?_
      unfold clearWithdrawal
      split
      next hc =>
        rw [openOf,openOf,if_neg fun h => hv (h.1.symm.trans hc.1),if_neg fun h => hv (h.1.symm.trans hc.1)]
      · rfl
  · obtain ⟨y,hy,rfl⟩ := mem_map.mp hr
    unfold clearRecord
    split
    · exact h.reward y hy
    · exact h.reward y hy
  · obtain ⟨y,hy,rfl⟩ := mem_map.mp hx
    unfold clearWithdrawal
    split
    · exact h.quota y hy
    · exact h.quota y hy
  · rw [Keyed.Unique,map_map]
    have : AffiliateWithdrawal.id ∘ clearWithdrawal u adminId now=AffiliateWithdrawal.id := funext hids
    rw [this]
    exact h.unique
  · obtain ⟨y,hy,rfl⟩ := mem_map.mp hx
    rw [hids,length_map]
    exact h.ids y hy

end

theorem clawbackRecord_pending (u v inviteeId now : Int) (r : AffiliateRecord) :
    pendingOf v (clawbackRecord u inviteeId now r)+(if v=u then recoverableOf .pending u inviteeId r else 0) =
      pendingOf v r := by
  unfold clawbackRecord AffiliateRecord.recoverable pendingOf recoverableOf
  by_cases hv : v=u
  · subst hv
    by_cases hu : r.userId=v <;> by_cases hi : r.inviteeId=inviteeId <;> cases hs : r.status <;>
      simp [hu,hi,hs]
  · by_cases hu : r.userId=u
    · subst hu
      simp [Ne.symm hv]
      split <;> simp [Ne.symm hv]
    · simp [hv,hu]

theorem clawback_sum {u v inviteeId now : Int} {value lost : AffiliateRecord → Int}
    (h : ∀ r, value (clawbackRecord u inviteeId now r)+(if v=u then lost r else 0)=value r) (records : List AffiliateRecord) :
    ((records.map (clawbackRecord u inviteeId now)).map value).sum+(if v=u then (records.map lost).sum else 0) =
      (records.map value).sum := by
  have hsum := congrArg List.sum (map_congr_left fun r (_ : r∈records) => h r)
  rw [sum_map_add] at hsum
  rw [map_map,← hsum]
  split <;> simp [Function.comp_def]

theorem clawback_books (h : Books (fun _ => 0) db) {inviteeId now : Int}
    (hw : Wrote db u (db.records.map (clawbackRecord u inviteeId now)) db.withdrawals
      (recoveredBalance (db.records.map (recoverableOf .pending u inviteeId)).sum
        (db.records.map (recoverableOf .available u inviteeId)).sum (db.balance u)) db') : Books (fun _ => 0) db' := by
  have hbook := h.book u
  have hpending := clawback_sum (clawbackRecord_pending u u inviteeId now) db.records
  rw [if_pos rfl] at hpending
  have hpn := recoverable_nonneg h .pending u inviteeId
  have han := recoverable_nonneg h .available u inviteeId
  refine hw.books ?_ (fun v hv => ?_) (fun r hr => ?_) h.quota h.unique h.ids
  · have hp := hbook.pending
    have ht := hbook.total
    have ha := hbook.available_nonneg
    have hr := hbook.riskFrozen_nonneg
    have hc := hbook.confiscated_nonneg
    refine { hbook with total := ?_, pending := ?_, available_nonneg := ?_, riskFrozen_nonneg := ?_, confiscated_nonneg := ?_ } <;>
      simp only [recoveredBalance] <;> omega
  · have hother := clawback_sum (clawbackRecord_pending u v inviteeId now) db.records
    rw [if_neg hv,add_zero] at hother
    refine (h.book v).of_sums ?_ rfl rfl
    rw [hother]
  · obtain ⟨y,hy,rfl⟩ := mem_map.mp hr
    unfold clawbackRecord
    split
    · exact h.reward y hy
    · exact h.reward y hy

end Writes

section Graph
variable {db db' : AffiliateDB} {due : Int → Int}

/-- Two databases that differ in the invitation graph and in the risk rows only. -/
structure SameLedger (db db' : AffiliateDB) : Prop where
  records : db'.records=db.records
  withdrawals : db'.withdrawals=db.withdrawals
  balances : db'.balances=db.balances
  legacy : ∀ v, (db'.user? v).map seedBalance=(db.user? v).map seedBalance

theorem SameLedger.refl (db : AffiliateDB) : SameLedger db db := ⟨rfl,rfl,rfl,fun _ => rfl⟩

theorem SameLedger.trans {db1 db2 : AffiliateDB} (h : SameLedger db db1) (h' : SameLedger db1 db2) : SameLedger db db2 :=
  ⟨h'.records.trans h.records,h'.withdrawals.trans h.withdrawals,h'.balances.trans h.balances,
    fun v => (h'.legacy v).trans (h.legacy v)⟩

theorem SameLedger.balance (h : SameLedger db db') (v : Int) : db'.balance v=db.balance v := by
  have hl := h.legacy v
  unfold AffiliateDB.balance
  rw [h.balances]
  cases db.balances v with
  | some b => rfl
  | none =>
    cases hx : db.user? v with
    | none =>
      rw [hx,Option.map_none,Option.map_eq_none_iff] at hl
      rw [hl]
    | some x =>
      rw [hx,Option.map_some,Option.map_eq_some_iff] at hl
      obtain ⟨y,hy,he⟩ := hl
      rw [hy]
      exact he

theorem SameLedger.books (hs : SameLedger db db') (h : Books due db) : Books due db' := by
  refine ⟨fun v => ?_,hs.records ▸ h.reward,hs.withdrawals ▸ h.quota,hs.withdrawals ▸ h.unique, hs.withdrawals ▸ h.ids⟩
  rw [hs.records,hs.withdrawals,hs.balance]
  exact h.book v

theorem sameLedger_updateUser (db : AffiliateDB) (id : Int) {f : User → User} (hid : ∀ x, (f x).id=x.id)
    (hseed : ∀ x, seedBalance (f x)=seedBalance x) : SameLedger db (db.updateUser id f) := by
  refine ⟨rfl,rfl,rfl,fun v => ?_⟩
  rw [user?_updateUser _ _ _ hid]
  split
  next hv =>
    rw [hv,Option.map_map]
    exact congrArg (Option.map · _) (funext hseed)
  · rfl

theorem sameLedger_setInviter (db : AffiliateDB) (id inviterId : Int) :
    SameLedger db (db.updateUser id fun u => { u with inviterId := inviterId }) :=
  sameLedger_updateUser db id (fun _ => rfl) fun _ => rfl

theorem sameLedger_addCount (db : AffiliateDB) (id n : Int) :
    SameLedger db (db.updateUser id fun u => { u with affCount := u.affCount+n }) :=
  sameLedger_updateUser db id (fun _ => rfl) fun _ => rfl

theorem sameLedger_decrement (db : AffiliateDB) (id : Int) :
    SameLedger db (db.updateUser id fun u => if u.affCount>0 then { u with affCount := u.affCount-1 } else u) :=
  sameLedger_updateUser db id (fun u => by split <;> rfl) fun u => by split <;> rfl

theorem sameLedger_setRisk (db : AffiliateDB) (userId : Int) (risk : AffiliateRiskUser) :
    SameLedger db (setRisk db userId risk) := ⟨rfl,rfl,rfl,fun _ => rfl⟩

theorem sameLedger_getOrCreate (db : AffiliateDB) (userId : Int) :
    SameLedger db (getOrCreateActiveAffiliateRiskUserTx db userId).1 := by
  unfold getOrCreateActiveAffiliateRiskUserTx
  split
  · split
    · exact SameLedger.refl db
    · exact ⟨rfl,rfl,rfl,fun _ => rfl⟩
  · exact ⟨rfl,rfl,rfl,fun _ => rfl⟩

theorem sameLedger_detach (db : AffiliateDB) (riskUserId userId : Int) :
    SameLedger db (detachAffiliateInviteesTx db riskUserId userId).1 := by
  unfold detachAffiliateInviteesTx
  simp only
  split
  · exact SameLedger.refl db
  refine ⟨rfl,rfl,rfl,fun v => ?_⟩
  have hmap := lookup_map User.id v (f := fun u => if u.inviterId=userId then { u with inviterId := 0 } else u)
    db.users fun u => by split <;> rfl
  have hmod := lookup_modify User.id userId v
    (f := fun u => { u with affCount := if u.affCount≥((db.invitees userId).length : Int) then
      u.affCount-(db.invitees userId).length else 0 })
    (db.users.map fun u => if u.inviterId=userId then { u with inviterId := 0 } else u) fun _ => rfl
  rw [AffiliateDB.user?,hmod]
  split
  next hv =>
    subst hv
    rw [hmap,Option.map_map,Option.map_map]
    refine congrArg (Option.map · _) (funext fun u => ?_)
    simp only [Function.comp_apply]
    split <;> rfl
  · rw [hmap,Option.map_map]
    refine congrArg (Option.map · _) (funext fun u => ?_)
    simp only [Function.comp_apply]
    split <;> rfl

theorem sameLedger_restoreLoop (userId now : Int) (rows : List AffiliateRiskDetachedInvitee) (db : AffiliateDB)
    (n : Int) : SameLedger db (restoreLoop userId now rows db n).1 := by
  induction rows generalizing db n with
  | nil => exact SameLedger.refl db
  | cons row rows ih =>
    unfold restoreLoop
    split
    · split
      · exact ih db n
      refine SameLedger.trans ?_ (ih _ _)
      have hu := sameLedger_setInviter db row.inviteeId userId
      exact ⟨hu.records,hu.withdrawals,hu.balances,hu.legacy⟩
    · exact ih db n

theorem sameLedger_restore (db : AffiliateDB) (riskUserId userId now : Int) :
    SameLedger db (restoreAffiliateDetachedInviteesTx db riskUserId userId now) := by
  unfold restoreAffiliateDetachedInviteesTx
  have hloop := sameLedger_restoreLoop userId now (db.unrestored riskUserId userId) db 0
  simp only
  split
  · exact hloop.trans (sameLedger_addCount _ _ _)
  · exact hloop

end Graph

section Calls
variable {db : AffiliateDB}

abbrev Keeps (out : Except AffiliateError AffiliateDB) : Prop := Ensures (Books fun _ => 0) Consistent out

section
variable (h : Books (fun _ => 0) db)
include h
variable (userId : Int)

theorem createReward_keeps (userId inviteeId level : Int) (sourceType : SourceType)
    (sourceId : String) (sourceQuota ratio now delay : Int) :
    Keeps (createAffiliateRewardRecordTx db userId inviteeId level sourceType sourceId sourceQuota ratio now delay) :=
  (createReward_effect h userId inviteeId level sourceType sourceId sourceQuota ratio now delay).mono fun db' he => by
    obtain hs | ⟨record,huser,-,hstatus,hpos,hw⟩ := he
    · exact hs.books h
    · exact reward_books h huser hstatus hpos hw

theorem settle_keeps (userId now : Int) : Keeps (settleMatureAffiliateRecordsTx db userId now) :=
  (settle_effect h userId now).mono fun _ hs => settled_books h hs

theorem withdraw_keeps (method : PayoutMethod) {req : WithdrawalRequest}
    (hq : 0<req.quota) : Keeps (createAffiliateWithdrawalTx db userId method req) :=
  (withdraw_effect h userId method req).mono fun _ he => withdraw_books h hq he.2.1 he.2.2

theorem status_keeps (withdrawalId adminId : Int) (remark : String) (target : WithdrawalStatus) (now : Int) :
    Keeps (updateAffiliateWithdrawalStatus db withdrawalId adminId remark target now) :=
  (status_effect h withdrawalId adminId remark target now).mono fun db' he => by
    obtain hs | ⟨w,f,hlookup,hopen,htarget,hf,hw⟩ := he
    · exact hs.books h
    obtain ⟨hmem,rfl⟩ := lookup_some hlookup
    exact status_books h hmem hopen htarget hf hw

theorem transfer_keeps {quota : Int} (hq : 0<quota) : Keeps (transferAffiliateQuotaTx db userId quota) :=
  (transfer_effect h userId quota).mono fun _ he => transfer_books h hq he.2.1 he.2.2

theorem freeze_keeps : Keeps (freezeAffiliateAssetsTx db userId) :=
  (freeze_effect h userId).mono fun _ hw => freeze_books h hw

theorem unfreeze_keeps : Keeps (unfreezeAffiliateAssetsTx db userId) :=
  (unfreeze_effect h userId).mono fun _ hw => unfreeze_books h hw

theorem clear_keeps (userId adminId now : Int) :
    Ensures (fun p => Books (fun _ => 0) p.1) Consistent (clearAffiliateAssetsTx db userId adminId now) :=
  (clear_effect h userId adminId now).mono fun p he => by
    obtain ⟨hs,-,-⟩ | ⟨hpos,-,hw⟩ := he
    · exact hs.books h
    · exact clear_books h hpos hw

theorem clawback_keeps (inviterId inviteeId now : Int) :
    Ensures (fun p => Books (fun _ => 0) p.1) Consistent (clawbackEarnings db inviterId inviteeId now) :=
  (clawback_effect h inviterId inviteeId now).mono fun p he => by
    obtain ⟨hs,-,-⟩ | ⟨hw,-⟩ := he
    · exact hs.books h
    · exact clawback_books h hw

theorem apply_keeps (userId adminId : Int) (req : AffiliateRiskApplyRequest) (now : Int) :
    Keeps (applyAffiliateRiskAction db userId adminId req now) := by
  unfold applyAffiliateRiskAction
  refine Ensures.guard nofun fun _ => Ensures.guard nofun fun _ => ?_
  refine Ensures.guard nofun fun _ => Ensures.guard nofun fun _ => ?_
  have hget := (sameLedger_getOrCreate db userId).books h
  set p := getOrCreateActiveAffiliateRiskUserTx db userId
  obtain ⟨db0,risk⟩ := p
  simp only
  set risk' : AffiliateRiskUser := { risk with
    freezeAssets := risk.freezeAssets || req.freezeAssets
    blockInviteCode := risk.blockInviteCode || req.blockInviteCode
    reason := GoStrings.trimSpace req.reason
    adminId := adminId }
  have hset : Books (fun _ => 0) (setRisk db0 userId risk') := (sameLedger_setRisk db0 userId risk').books hget
  refine Ensures.bind (P := Books fun _ => 0) ?_ fun db1 h1 => ?_
  · exact Ensures.ite (fun _ => freeze_keeps hset userId) fun _ => hset
  have hclear : ∀ p : AffiliateDB×AffiliateRiskUser, Books (fun _ => 0) p.1 → Keeps (if req.clearAssets=true then
        (clearAffiliateAssetsTx p.1 userId adminId now).bind fun q =>
          .ok (setRisk q.1 userId { p.2 with clearedQuota := p.2.clearedQuota+q.2 })
      else .ok p.1) := by
    rintro ⟨db2,risk2⟩ hp
    refine Ensures.ite (fun _ => ?_) fun _ => hp
    exact (clear_keeps hp userId adminId now).bind fun q hq => (sameLedger_setRisk q.1 userId _).books hq
  have hd := (sameLedger_detach db1 risk'.id userId).books h1
  refine hclear _ ?_
  split
  · split
    · exact (sameLedger_setRisk _ userId _).books hd
    · exact hd
  · exact h1

theorem remove_keeps (userId adminId : Int) (restore : Bool) (remark : String) (now : Int) :
    Keeps (removeAffiliateRiskAction db userId adminId restore remark now) := by
  unfold removeAffiliateRiskAction
  cases db.risks userId with
  | none => exact fun i => nofun
  | some risk =>
    refine Ensures.guard nofun fun _ => Ensures.bind (P := Books fun _ => 0) ?_ fun db1 h1 => ?_
    · exact Ensures.ite (fun _ => unfreeze_keeps h userId) fun _ => h
    refine (sameLedger_setRisk _ userId _).books ?_
    split
    · exact (sameLedger_restore db1 risk.id userId now).books h1
    · exact h1

theorem unbindRelationship_keeps (alertId adminId : Int) (doClawback : Bool) (now : Int) :
    Keeps (unbindAffiliateRelationship db alertId adminId doClawback now) :=
  unbindRelationship_ensures h (fun _ => nofun) alertId adminId doClawback now
    (fun inviter invitee => clawback_keeps h inviter invitee now)
    (fun t x _ ht _ => ((sameLedger_setInviter t x 0).trans (sameLedger_decrement _ _)).books ht)
    fun _ _ ht => ⟨ht.book,ht.reward,ht.quota,ht.unique,ht.ids⟩

theorem bind_keeps (affCode : String) (force : Bool) :
    Keeps (bindUserInviterByAffCode db userId affCode force) := by
  unfold bindUserInviterByAffCode
  refine Ensures.guard nofun fun _ => ?_
  cases db.user? userId with
  | none => exact fun i => nofun
  | some invitee =>
    refine Ensures.bind (P := fun _ => True) ?_ fun inviter _ => ?_
    · unfold findAffiliateInviterByAffCodeTx
      split
      · exact fun i => nofun
      · exact Ensures.guard nofun fun _ => trivial
      · exact fun i => nofun
    refine Ensures.guard nofun fun _ => Ensures.ite (fun _ => h) fun _ => ?_
    refine Ensures.guard nofun fun _ => Ensures.bind (P := fun _ => True) ?_ fun _ _ => ?_
    · unfold ensureNoAffiliateInviteCycleTx
      generalize (64 : Nat)=depth
      generalize ([] : List Int)=visited
      generalize inviter.id=current
      induction depth generalizing visited current with
      | zero => exact Ensures.guard nofun fun _ => trivial
      | succ depth ih =>
        unfold ensureNoCycleLoop
        refine Ensures.ite (fun _ => trivial) fun _ => Ensures.guard nofun fun _ => ?_
        cases db.user? current with
        | none => exact fun i => nofun
        | some parent => exact ih _ _
    · refine (((sameLedger_setInviter db invitee.id inviter.id).trans ?_).trans (sameLedger_addCount _ _ 1)).books h
      split
      · exact sameLedger_decrement _ _
      · exact SameLedger.refl _

theorem unbind_keeps : Keeps (unbindUserInviter db userId) := by
  unfold unbindUserInviter
  cases db.user? userId with
  | none => exact fun i => nofun
  | some invitee =>
    refine Ensures.ite (fun _ => h) fun _ => ?_
    exact ((sameLedger_setInviter db _ 0).trans (sameLedger_decrement _ _)).books h

end

structure Kept (out : AffiliateDB×Option AffiliateError) : Prop where
  books : Books (fun _ => 0) out.1
  error : ∀ e, out.2=some e → Consistent e

theorem Kept.of_keeps (h : Books (fun _ => 0) db) {out : Except AffiliateError AffiliateDB} (hk : Keeps out) :
    Kept (transact db out) := by
  cases out with
  | ok db' => exact ⟨hk,fun e he => nomatch he⟩
  | error e =>
    refine ⟨h,fun e' he => ?_⟩
    cases he
    exact hk

theorem Kept.settleThen (h : Books (fun _ => 0) db) {userId now : Int}
    {main : AffiliateDB → Except AffiliateError AffiliateDB} (hmain : ∀ t, Books (fun _ => 0) t → Keeps (main t)) :
    Kept (settleThen db userId now main) := by
  have hs := settle_keeps h userId now
  unfold NewApi.Affiliate.settleThen
  split
  next e he =>
    rw [he] at hs
    refine ⟨h,fun e' he' => ?_⟩
    cases he'
    exact hs
  next t ht =>
    rw [ht] at hs
    exact Kept.of_keeps hs (hmain t hs)

theorem checkWithdrawal_consistent (req : WithdrawalRequest) :
    Ensures (fun _ => 0<req.quota) Consistent (checkWithdrawal req) := by
  unfold checkWithdrawal
  refine Ensures.guard nofun fun hq => Ensures.guard nofun fun _ => ?_
  simp only
  cases req.minimum with
  | invalid | outOfRange => simp [Ensures,Consistent]
  | unset =>
    cases req.method with
    | none => simp [Ensures,Consistent]
    | some method => exact Ensures.ite (fun _ => Int.not_le.mp hq) (by simp [Ensures,Consistent])
  | atLeast amount quota =>
    refine Ensures.guard (by simp [Consistent]) fun _ => ?_
    cases req.method with
    | none => simp [Ensures,Consistent]
    | some method => exact Ensures.ite (fun _ => Int.not_le.mp hq) (by simp [Ensures,Consistent])

theorem exec_kept (h : Books (fun _ => 0) db) (op : Op) : Kept (exec db op) := by
  cases op with
  | createAffiliateRewardRecord => exact .of_keeps h (createReward_keeps h _ _ _ _ _ _ _ _ _)
  | settleMatureAffiliateRecords => exact .of_keeps h (settle_keeps h _ _)
  | createAffiliateWithdrawalWithPayout userId req now =>
    have hc := checkWithdrawal_consistent req
    unfold exec
    simp only
    split
    next e he =>
      rw [he] at hc
      refine ⟨h,fun e' he' => ?_⟩
      cases he'
      exact hc
    next method hm =>
      rw [hm] at hc
      exact .settleThen h fun t ht => withdraw_keeps ht userId method hc
  | updateAffiliateWithdrawalStatus => exact .of_keeps h (status_keeps h _ _ _ _ _)
  | transferAffiliateQuotaToBalance userId quota now =>
    unfold exec
    simp only
    split
    · refine ⟨h,fun e he => ?_⟩
      cases he
      exact fun i => nofun
    next hq =>
      exact .settleThen h fun t ht => transfer_keeps ht userId (Int.not_le.mp hq)
  | freezeAffiliateAssets => exact .of_keeps h (freeze_keeps h _)
  | unfreezeAffiliateAssets => exact .of_keeps h (unfreeze_keeps h _)
  | clearAffiliateAssets => exact .of_keeps h ((clear_keeps h _ _ _).map fun _ hp => hp)
  | clawbackEarnings => exact .of_keeps h ((clawback_keeps h _ _ _).map fun _ hp => hp)
  | applyAffiliateRiskAction => exact .of_keeps h (apply_keeps h _ _ _ _)
  | removeAffiliateRiskAction => exact .of_keeps h (remove_keeps h _ _ _ _ _)
  | unbindAffiliateRelationship => exact .of_keeps h (unbindRelationship_keeps h _ _ _ _)
  | bindUserInviterByAffCode => exact .of_keeps h (bind_keeps h _ _ _)
  | unbindUserInviter => exact .of_keeps h (unbind_keeps h _)

theorem run_books (h : Books (fun _ => 0) db) (ops : List Op) : Books (fun _ => 0) (run step ops db) := by
  induction ops generalizing db with
  | nil => exact h
  | cons op ops ih => exact ih (exec_kept h op).books

end Calls

structure Empty (db : AffiliateDB) : Prop where
  records : db.records=[]
  withdrawals : db.withdrawals=[]
  balance : ∀ u, db.balance u={ userId := u }

theorem Empty.books {db : AffiliateDB} (h : Empty db) : Books (fun _ => 0) db := by
  refine ⟨fun u => ?_,?_,?_,?_,?_⟩
  · rw [h.balance,h.records,h.withdrawals]
    exact ⟨rfl,rfl,rfl,rfl,rfl,le_rfl,le_rfl,le_rfl,le_rfl⟩
  · rw [h.records]
    exact fun r hr => nomatch hr
  · rw [h.withdrawals]
    exact fun w hw => nomatch hw
  · rw [h.withdrawals]
    exact nodup_nil
  · rw [h.withdrawals]
    exact fun w hw => nomatch hw

/-- Over every run from empty balances, all buckets agree with the records and withdrawals, none is negative, and no
call reports a violated invariant. -/
theorem affiliate_ledger_balanced {db : AffiliateDB} (h : Empty db) (ops : List Op) (u : Int) :
    ((run step ops db).balance u).totalQuota =
        ((run step ops db).balance u).pendingQuota+((run step ops db).balance u).availableQuota +
          ((run step ops db).balance u).frozenQuota+((run step ops db).balance u).riskFrozenQuota +
          ((run step ops db).balance u).withdrawnQuota+((run step ops db).balance u).transferredQuota ∧
      ((run step ops db).balance u).pendingQuota =
        (((run step ops db).records.filter fun r => decide (r.userId=u ∧ r.status=.pending)).map (·.rewardQuota)).sum ∧
      ((run step ops db).balance u).frozenQuota = (((run step ops db).withdrawals.filter fun w =>
          decide (w.userId=u ∧ (w.status=.pending ∨ w.status=.approved))).map (·.quota)).sum ∧
      ((run step ops db).balance u).withdrawnQuota =
        (((run step ops db).withdrawals.filter fun w => decide (w.userId=u ∧ w.status=.paid)).map (·.quota)).sum ∧
      0≤((run step ops db).balance u).pendingQuota ∧ 0≤((run step ops db).balance u).availableQuota ∧
      0≤((run step ops db).balance u).frozenQuota ∧ 0≤((run step ops db).balance u).riskFrozenQuota ∧
      0≤((run step ops db).balance u).confiscatedQuota ∧ 0≤((run step ops db).balance u).withdrawnQuota ∧
      0≤((run step ops db).balance u).transferredQuota ∧ 0≤((run step ops db).balance u).totalQuota ∧
      ∀ op i, (exec (run step ops db) op).2≠some (.violated i) := by
  have hbooks := run_books h.books ops
  have hbook := hbooks.book u
  have hp : 0≤((run step ops db).balance u).pendingQuota := by
    rw [hbook.pending,add_zero]
    exact hbooks.pending_nonneg u
  have hf : 0≤((run step ops db).balance u).frozenQuota := by
    rw [hbook.frozen]
    exact hbooks.open_nonneg u
  have hw : 0≤((run step ops db).balance u).withdrawnQuota := by
    rw [hbook.withdrawn]
    exact hbooks.paid_nonneg u
  have ha := hbook.available_nonneg
  have hr := hbook.riskFrozen_nonneg
  have ht := hbook.transferred_nonneg
  refine ⟨hbook.total,?_,?_,?_,hp,ha,hf,hr,hbook.confiscated_nonneg,hw,ht,?_,fun op i he => ?_⟩
  · rw [hbook.pending,add_zero,sum_filter]
    simp only [decide_eq_true_eq]
    rfl
  · rw [hbook.frozen,sum_filter]
    refine congrArg List.sum (map_congr_left fun w _ => ?_)
    simp [openOf,AffiliateWithdrawal.open]
  · rw [hbook.withdrawn,sum_filter]
    simp only [decide_eq_true_eq]
    rfl
  · rw [hbook.total]
    omega
  · exact (exec_kept hbooks op).error _ he i rfl

def newcomers : AffiliateDB :=
  { users := [{ id := 1, affCode := "a" },{ id := 2, affCode := "b" },{ id := 3, affCode := "c" }] }

theorem newcomers_empty : Empty newcomers := by
  refine ⟨rfl,rfl,fun u => ?_⟩
  unfold AffiliateDB.balance
  cases hu : newcomers.user? u with
  | none => rfl
  | some x =>
    obtain ⟨hx,rfl⟩ := lookup_some hu
    simp only [newcomers,mem_cons,not_mem_nil,or_false] at hx
    obtain rfl | rfl | rfl := hx <;> rfl

def rewardedRun : List Op :=
  [.createAffiliateRewardRecord 1 2 1 .topup "t1" 1000 10 0 60,.settleMatureAffiliateRecords 0 60,
    .createAffiliateWithdrawalWithPayout 1 { quota := 40, account := { usdtAddress := "x" } } 60,
    .updateAffiliateWithdrawalStatus 1 9 "ok" .approved 61,.updateAffiliateWithdrawalStatus 1 9 "ok" .paid 62,
    .createAffiliateRewardRecord 1 3 1 .topup "t2" 500 10 63 60,.freezeAffiliateAssets 1,
    .clearAffiliateAssets 1 9 64]

theorem affiliate_ledger_balanced_rewarded :
    (run step rewardedRun newcomers).balance 1 =
        { userId := 1, confiscatedQuota := 110, withdrawnQuota := 40, totalQuota := 40 } ∧
      ∀ op i, (exec (run step rewardedRun newcomers) op).2≠some (.violated i) :=
  ⟨by decide +kernel,(affiliate_ledger_balanced newcomers_empty rewardedRun 1).2.2.2.2.2.2.2.2.2.2.2.2⟩

end NewApi.Affiliate
