import NewApi.Activity.Model

/-! The shares of a published activity keep its budget, and its vouchers are claimed one to one from them, in every
run of the activity and voucher transactions. -/
namespace NewApi.Activity
open Keyed Runs List Voucher BenefitDB

structure VoucherClaim where
  id : Int
  activityId : Int
  userId : Int
  shareId : Int
  originalQuota : Int
  expiresAt : Int

def claimOf (v : BenefitUserVoucher) : VoucherClaim :=
  ⟨v.id,v.activityId,v.userId,v.shareId,v.originalQuota,v.expiresAt⟩

def claims (db : BenefitDB) : List VoucherClaim := db.vouchers.map claimOf

def quotasOf (shares : List BenefitActivityShare) (activityID : Int) : List Int :=
  (shares.filter fun s => decide (s.activityId=activityID)).map (·.quota)

structure Backs (c : VoucherClaim) (s : BenefitActivityShare) : Prop where
  id : s.id=c.shareId
  activity : s.activityId=c.activityId
  status : s.status=.claimed
  quota : s.quota=c.originalQuota
  voucher : s.claimedVoucherId=c.id

structure Books (db : BenefitDB) : Prop where
  ledger : Keyed.Unique BenefitVoucherLedger.key db.ledger
  activityIds : Keyed.Unique BenefitActivity.id db.activities
  shareIds : Keyed.Unique BenefitActivityShare.id db.shares
  voucherIds : Keyed.Unique VoucherClaim.id (claims db)
  owner : ∀ s∈db.shares, ∃ a∈db.activities, a.id=s.activityId ∧ a.status≠.draft
  backed : ∀ c∈claims db, ∃ s∈db.shares, Backs c s
  claimed : ∀ s∈db.shares, s.status=.claimed → ∃ c∈claims db, c.shareId=s.id
  onceShare : Keyed.Unique VoucherClaim.shareId (claims db)
  onceUser : Keyed.Unique (fun c : VoucherClaim => (c.activityId,c.userId)) (claims db)
  budget : ∀ a∈db.activities, a.status≠.draft →
    ((quotasOf db.shares a.id).length : Int)=a.plan.totalCount ∧ (quotasOf db.shares a.id).sum=a.plan.totalQuota

/-- What no later transaction takes back: the state of a share that is no longer available, and the plan of an
activity that is no longer a draft. -/
structure Kept (db db' : BenefitDB) : Prop where
  shares : ∀ s∈db.shares, s.status≠.available → s∈db'.shares
  activities : ∀ a∈db.activities, a.status≠.draft → ∃ a'∈db'.activities, a'.id=a.id ∧ a'.plan=a.plan ∧ a'.status≠.draft

variable {db db' : BenefitDB} {rolls : Prop} {r : String}

theorem Kept.refl (db : BenefitDB) : Kept db db := ⟨fun _ hs _ => hs,fun a ha hd => ⟨a,ha,rfl,rfl,hd⟩⟩

theorem Kept.trans {db1 db2 db3 : BenefitDB} (h : Kept db1 db2) (h' : Kept db2 db3) : Kept db1 db3 where
  shares s hs hne := h'.shares s (h.shares s hs hne) hne
  activities a ha hd := by
    obtain ⟨a',ha',hid,hplan,hd'⟩ := h.activities a ha hd
    obtain ⟨a'',ha'',hid',hplan',hd''⟩ := h'.activities a' ha' hd'
    exact ⟨a'',ha'',hid'.trans hid,hplan'.trans hplan,hd''⟩

theorem Books.congr (h : Books db) (hl : Keyed.Unique BenefitVoucherLedger.key db'.ledger)
    (ha : db'.activities=db.activities) (hs : db'.shares=db.shares) (hc : claims db'=claims db) : Books db' ∧ Kept db db' := by
  refine ⟨⟨hl,ha ▸ h.activityIds,hs ▸ h.shareIds,hc ▸ h.voucherIds,?_,?_,?_,hc ▸ h.onceShare,hc ▸ h.onceUser,?_⟩,?_⟩
  · rw [hs,ha]
    exact h.owner
  · rw [hs,hc]
    exact h.backed
  · rw [hs,hc]
    exact h.claimed
  · rw [hs,ha]
    exact h.budget
  · exact ⟨fun s hmem _ => hs ▸ hmem,fun a hmem hd => ⟨a,ha ▸ hmem,rfl,rfl,hd⟩⟩

theorem claims_updateVoucher (db : BenefitDB) (x remaining used : Int) (status : VoucherStatus) :
    (db.updateVoucher x (·.updates remaining used status)).vouchers.map claimOf=claims db :=
  map_modify _ _ _ fun _ => rfl

theorem claims_round {x : Int} (h : Round rolls r x db db') : claims db'=claims db := by
  obtain hsame | ⟨v,remaining,used,status,-,-,-,-,hvs⟩ := h.voucher
  · rw [claims,hsame]
    rfl
  · rw [claims,hvs]
    exact claims_updateVoucher db x remaining used status

theorem Books.rounds {X : Int → Prop} (h : Books db) (hr : Rounds rolls r X db db') :
    Books db' ∧ Kept db db' := by
  induction hr with
  | refl => exact ⟨h,Kept.refl _⟩
  | tail _ hround ih =>
    obtain ⟨x,-,hround⟩ := hround
    obtain ⟨hb,hk⟩ := ih.1.congr (hround.ledger ih.1.ledger) hround.activities hround.shares (claims_round hround)
    exact ⟨hb,ih.2.trans hk⟩

theorem Books.closings (h : Books db) (hc : Closings db db') : Books db' ∧ Kept db db' := by
  induction hc with
  | refl => exact ⟨h,Kept.refl _⟩
  | tail _ hclose ih =>
    obtain ⟨x,remaining,status,-,hvs⟩ := hclose.voucher
    obtain ⟨hb,hk⟩ := ih.1.congr (hclose.ledger ih.1.ledger) hclose.activities hclose.shares (by
      rw [claims,hvs]
      exact claims_updateVoucher _ x remaining 0 status)
    exact ⟨hb,ih.2.trans hk⟩

theorem quotasOf_map (g : BenefitActivityShare → BenefitActivityShare)
    (hg : ∀ s, (g s).activityId=s.activityId ∧ (g s).quota=s.quota) (shares : List BenefitActivityShare)
    (activityID : Int) : quotasOf (shares.map g) activityID=quotasOf shares activityID := by
  rw [quotasOf,filter_map,map_map]
  refine congr (congrArg List.map (funext fun s => (hg s).2)) ?_
  exact filter_congr fun s _ => by simp only [Function.comp_apply,(hg s).1]

theorem Books.moveShares (h : Books db) (activityID : Int) (target : ShareStatus) (ht : target≠.claimed) :
    Books (moveShares activityID target db) ∧ Kept db (moveShares activityID target db) := by
  set g : BenefitActivityShare → BenefitActivityShare := fun s =>
    if s.activityId=activityID ∧ s.status=.available then { s with status := target } else s with hgdef
  have hg : ∀ s, (g s).id=s.id ∧ (g s).activityId=s.activityId ∧ (g s).quota=s.quota := by
    intro s
    simp only [hgdef]
    split <;> exact ⟨rfl,rfl,rfl⟩
  have hfixed : ∀ s, s.status≠.available → g s=s := fun s hs => if_neg fun h => hs h.2
  have hshares : (Voucher.moveShares activityID target db).shares=db.shares.map g := rfl
  have hmem : ∀ s∈db.shares, s.status≠.available → s∈db.shares.map g :=
    fun s hs hne => mem_map.mpr ⟨s,hs,hfixed s hne⟩
  refine ⟨⟨h.ledger,h.activityIds,?_,h.voucherIds,?_,?_,?_,h.onceShare,h.onceUser,?_⟩,⟨hmem,(Kept.refl db).activities⟩⟩
  · rw [hshares,Keyed.Unique,map_map]
    have hid : BenefitActivityShare.id ∘ g=BenefitActivityShare.id := funext fun s => (hg s).1
    rw [hid]
    exact h.shareIds
  · intro s' hs'
    obtain ⟨s,hs,rfl⟩ := mem_map.mp hs'
    obtain ⟨a,ha,hid,hd⟩ := h.owner s hs
    exact ⟨a,ha,hid.trans (hg s).2.1.symm,hd⟩
  · intro c hc
    obtain ⟨s,hs,hb⟩ := h.backed c hc
    exact ⟨s,hmem s hs (by rw [hb.status]; decide),hb⟩
  · intro s' hs' hstatus
    rw [hshares] at hs'
    obtain ⟨s,hs,rfl⟩ := mem_map.mp hs'
    by_cases hmove : s.activityId=activityID ∧ s.status=.available
    · simp only [hgdef,if_pos hmove] at hstatus
      exact absurd hstatus ht
    · have heq : g s=s := if_neg hmove
      rw [heq] at hstatus ⊢
      exact h.claimed s hs hstatus
  · intro a ha hd
    rw [hshares,quotasOf_map g fun s => (hg s).2]
    exact h.budget a ha hd

variable {f : BenefitActivity → BenefitActivity}

theorem Books.updateActivity (h : Books db) (activityID : Int) (hf : ∀ a, (f a).id=a.id ∧ (f a).plan=a.plan)
    (hd : ∀ a∈db.activities, a.id=activityID → ((f a).status=.draft ↔ a.status=.draft)) :
    Books (updateActivity activityID f db) ∧ Kept db (updateActivity activityID f db) := by
  have hmap : ∀ a∈db.activities, ∃ a'∈(Voucher.updateActivity activityID f db).activities,
      a'.id=a.id ∧ a'.plan=a.plan ∧ (a'.status=.draft ↔ a.status=.draft) := by
    intro a ha
    refine ⟨_,mem_map.mpr ⟨a,ha,rfl⟩,?_⟩
    by_cases hid : a.id=activityID
    · rw [if_pos hid]
      exact ⟨(hf a).1,(hf a).2,hd a ha hid⟩
    · rw [if_neg hid]
      exact ⟨rfl,rfl,Iff.rfl⟩
  have hback : ∀ a'∈(Voucher.updateActivity activityID f db).activities, ∃ a∈db.activities,
      a'.id=a.id ∧ a'.plan=a.plan ∧ (a'.status=.draft ↔ a.status=.draft) := by
    intro a' ha'
    obtain ⟨a,ha,he⟩ := mem_modify ha'
    refine ⟨a,ha,?_⟩
    by_cases hid : a.id=activityID
    · rw [if_pos hid] at he
      rw [he]
      exact ⟨(hf a).1,(hf a).2,hd a ha hid⟩
    · rw [if_neg hid] at he
      rw [he]
      exact ⟨rfl,rfl,Iff.rfl⟩
  refine ⟨⟨h.ledger,h.activityIds.modify _ fun a => (hf a).1,h.shareIds,h.voucherIds,?_,h.backed,h.claimed,h.onceShare,
    h.onceUser,?_⟩,⟨fun s hs _ => hs,?_⟩⟩
  · intro s hs
    obtain ⟨a,ha,hid,hne⟩ := h.owner s hs
    obtain ⟨a',ha',hid',-,hdraft⟩ := hmap a ha
    exact ⟨a',ha',hid'.trans hid,fun h => hne (hdraft.mp h)⟩
  · intro a' ha' hne
    obtain ⟨a,ha,hid,hplan,hdraft⟩ := hback a' ha'
    rw [hid,hplan]
    exact h.budget a ha fun h => hne (hdraft.mpr h)
  · intro a ha hne
    obtain ⟨a',ha',hid,hplan,hdraft⟩ := hmap a ha
    exact ⟨a',ha',hid,hplan,fun h => hne (hdraft.mp h)⟩

variable {draws : Draws} {a b : BenefitActivity}

theorem validate_ok {a' : BenefitActivity} (h : validateBenefitActivity draws a=.ok a') :
    a'.id=a.id ∧ a'.deleted=a.deleted ∧ 0<a'.plan.totalQuota := by
  unfold validateBenefitActivity at h
  simp only at h
  split at h
  · cases h
  split at h
  · cases h
  split at h
  · cases h
  rename_i htotals
  split at h
  · cases h
  split at h
  · cases h
  obtain ⟨-,-,h⟩ := bind_ok h
  cases h
  exact ⟨rfl,rfl,by simp only; omega⟩

theorem Books.create (h : Books db) {groupActive : Bool}
    (hok : createBenefitActivity db draws groupActive a=.ok db') : Books db' ∧ Kept db db' := by
  obtain ⟨a',-,hok⟩ := bind_ok hok
  split at hok
  · cases hok
  cases hok
  have hfresh : ∀ b∈db.activities, b.id≠nextId (db.activities.map (·.id)) := fun b hb =>
    (lt_nextId (mem_map_of_mem hb)).ne
  refine ⟨⟨h.ledger,h.activityIds.append (lookup_eq_none.mpr fun b hb => hfresh b hb),h.shareIds,h.voucherIds,?_,h.backed,
    h.claimed,h.onceShare,h.onceUser,?_⟩,⟨fun s hs _ => hs,?_⟩⟩
  · intro s hs
    obtain ⟨b,hb,hid,hd⟩ := h.owner s hs
    exact ⟨b,mem_append_left _ hb,hid,hd⟩
  · intro b hb hd
    obtain hb | hb := mem_append.mp hb
    · exact h.budget b hb hd
    rw [mem_singleton.mp hb] at hd
    exact absurd rfl hd
  · exact fun b hb hd => ⟨b,mem_append_left _ hb,rfl,rfl,hd⟩

variable {activityID now : Int}

theorem stored?_some (h : stored? db activityID=some a) : a∈db.activities ∧ a.id=activityID ∧ a.deleted=false := by
  obtain ⟨hlook,hdel⟩ := Option.filter_eq_some_iff.mp h
  obtain ⟨hmem,hid⟩ := lookup_some hlook
  exact ⟨hmem,hid,by simpa using hdel⟩

theorem newShares_spec (activityID : Int) (allocations : List BenefitShareAllocation) : ∀ first : Int,
    (newShares first activityID allocations).map (·.quota)=allocations.map (·.quota) ∧
      ((newShares first activityID allocations).map (·.id)).Nodup ∧
      ∀ s∈newShares first activityID allocations, first ≤ s.id ∧ s.activityId=activityID ∧ s.status=.available := by
  induction allocations with
  | nil => exact fun first => ⟨rfl,nodup_nil,fun s h => by cases h⟩
  | cons a allocations ih =>
    intro first
    obtain ⟨hquotas,hnodup,hall⟩ := ih (first+1)
    refine ⟨by simp [newShares,hquotas],?_,?_⟩
    · simp only [newShares,map_cons,nodup_cons]
      refine ⟨fun hmem => ?_,hnodup⟩
      obtain ⟨s,hs,hid⟩ := mem_map.mp hmem
      have := (hall s hs).1
      omega
    · intro s hs
      obtain rfl | hs := mem_cons.mp hs
      · exact ⟨Int.le_refl _,rfl,rfl⟩
      · exact ⟨by have := (hall s hs).1; omega,(hall s hs).2⟩

theorem quotasOf_append (shares more : List BenefitActivityShare) (activityID : Int) :
    quotasOf (shares++more) activityID=quotasOf shares activityID++quotasOf more activityID := by
  simp [quotasOf]

variable {shares : List BenefitActivityShare} {α : Type}

theorem quotasOf_eq_nil (h : ∀ s∈shares, s.activityId≠activityID) : quotasOf shares activityID=[] := by
  rw [quotasOf,filter_eq_nil_iff.mpr,map_nil]
  intro s hs
  simpa using h s hs

theorem quotasOf_all (h : ∀ s∈shares, s.activityId=activityID) : quotasOf shares activityID=shares.map (·.quota) := by
  rw [quotasOf,filter_eq_self.mpr]
  intro s hs
  simpa using h s hs

theorem splitting_ok {x : Except SplitError α} {a : α} (h : splitting x=.ok a) : x=.ok a := by
  cases x with
  | ok b =>
    cases h
    rfl
  | error e => cases h

theorem vouching_ok {x : Except BenefitError α} {a : α} (h : vouching x=.ok a) : x=.ok a := by
  cases x with
  | ok b =>
    cases h
    rfl
  | error e => cases h

variable {groupExists : Bool}

section
variable (h : Books db)
include h

theorem Books.publish {check : Draws} (hok : publishBenefitActivity db check draws groupExists activityID=.ok db') :
    Books db' ∧ Kept db db' ∧ ∃ a∈db'.activities, a.id=activityID ∧ a.status≠.draft := by
  unfold publishBenefitActivity at hok
  split at hok
  · cases hok
  rename_i stored hstored
  split at hok
  · cases hok
  rename_i hdraft
  obtain ⟨a,hvalid,hok⟩ := bind_ok hok
  split at hok
  · cases hok
  split at hok
  · cases hok
  obtain ⟨allocations,hsplit,hok⟩ := bind_ok hok
  cases hok
  obtain ⟨hmem,hid,-⟩ := stored?_some hstored
  obtain ⟨haid,-,hquota⟩ := validate_ok hvalid
  have hsplits := prepareBenefitAllocations_splits hquota (splitting_ok hsplit)
  obtain ⟨hquotas,hnodup,hnew⟩ := newShares_spec activityID allocations (nextId (db.shares.map (·.id)))
  set more := newShares (nextId (db.shares.map (·.id))) activityID allocations with hmore
  have hsame : ∀ b∈db.activities, b.id=activityID → b=stored := fun b hb hbid => by
    have h1 := lookup_of_mem h.activityIds hb
    rw [hbid,← hid,lookup_of_mem h.activityIds hmem] at h1
    exact (Option.some.inj h1).symm
  have hnone : ∀ s∈db.shares, s.activityId≠activityID := by
    intro s hs heq
    obtain ⟨b,hb,hbid,hd⟩ := h.owner s hs
    rw [hsame b hb (hbid.trans heq)] at hd
    exact hd (not_not.mp hdraft)
  set published : BenefitActivity := { a with status := .published } with hpub
  have hpid : published.id=activityID := haid.trans hid
  have hpmem : published∈Keyed.modify BenefitActivity.id activityID (fun _ => published) db.activities :=
    mem_map.mpr ⟨stored,hmem,if_pos hid⟩
  have hkeep : ∀ b∈db.activities, b.id≠activityID →
      b∈Keyed.modify BenefitActivity.id activityID (fun _ => published) db.activities :=
    fun b hb hne => mem_map.mpr ⟨b,hb,if_neg hne⟩
  refine ⟨⟨h.ledger,?_,?_,h.voucherIds,?_,?_,?_,h.onceShare,h.onceUser,?_⟩,⟨?_,?_⟩,published,hpmem,hpid,by simp [hpub]⟩
  · have hkeys := map_key_modify_of BenefitActivity.id activityID (f := fun _ => published) db.activities fun _ _ => hpid
    exact (congrArg List.Nodup hkeys).mpr h.activityIds
  · have happ : ((db.shares++more).map BenefitActivityShare.id).Nodup := by
      rw [map_append,nodup_append]
      refine ⟨h.shareIds,hnodup,fun x hx y hy => ?_⟩
      obtain ⟨s,hs,rfl⟩ := mem_map.mp hy
      exact ((lt_nextId hx).trans_le (hnew s hs).1).ne
    exact happ
  · intro s hs
    obtain hs | hs := mem_append.mp hs
    · obtain ⟨b,hb,hbid,hd⟩ := h.owner s hs
      exact ⟨b,hkeep b hb (hbid ▸ hnone s hs),hbid,hd⟩
    · exact ⟨published,hpmem,hpid.trans (hnew s hs).2.1.symm,by simp [hpub]⟩
  · intro c hc
    obtain ⟨s,hs,hb⟩ := h.backed c hc
    exact ⟨s,mem_append_left _ hs,hb⟩
  · intro s hs hstatus
    obtain hs | hs := mem_append.mp hs
    · exact h.claimed s hs hstatus
    rw [(hnew s hs).2.2] at hstatus
    cases hstatus
  · intro b hb hd
    obtain ⟨c,hc,he⟩ := mem_modify hb
    change ((quotasOf (db.shares++more) b.id).length : Int)=_ ∧ (quotasOf (db.shares++more) b.id).sum=_
    rw [quotasOf_append]
    by_cases hcid : c.id=activityID
    · rw [if_pos hcid] at he
      have hcount : ((more.map (·.quota)).length : Int)=a.plan.totalCount := by
        rw [hquotas,length_map]
        exact hsplits.length
      rw [he,hpid,quotasOf_eq_nil hnone,quotasOf_all fun s hs => (hnew s hs).2.1,nil_append]
      exact ⟨hcount,by rw [hquotas]; exact hsplits.sum⟩
    · rw [if_neg hcid] at he
      have hother : quotasOf more b.id=[] := by
        refine quotasOf_eq_nil fun s hs heq => hcid ?_
        rw [← he,← heq,(hnew s hs).2.1]
      rw [hother,append_nil]
      exact h.budget b (he ▸ hc) hd
  · exact fun s hs _ => mem_append_left _ hs
  · intro b hb hd
    refine ⟨b,hkeep b hb fun hbid => hd ?_,rfl,rfl,hd⟩
    rw [hsame b hb hbid]
    exact not_not.mp hdraft

theorem Books.advance (hmem : a∈db.activities) (hd : a.status≠.draft) (hf : ∀ b, (f b).id=b.id ∧ (f b).plan=b.plan)
    (hstatus : ∀ b : BenefitActivity, b.status≠.draft → (f b).status≠.draft) :
    Books (Voucher.updateActivity a.id f db) ∧ Kept db (Voucher.updateActivity a.id f db) := by
  refine h.updateActivity a.id hf fun b hb hid => ?_
  have hlook := lookup_of_mem h.activityIds hb
  rw [hid,lookup_of_mem h.activityIds hmem] at hlook
  rw [← Option.some.inj hlook]
  exact iff_of_false (hstatus a hd) hd

theorem Books.expire (hok : expireBenefitActivityRecordsTx db activityID now=.ok db') : Books db' ∧ Kept db db' := by
  simp only [expireBenefitActivityRecordsTx] at hok
  split at hok
  · cases hok
  rename_i a hstored
  obtain ⟨hmem,rfl⟩ := lookup_some hstored
  split at hok
  next hdue =>
    have hd : a.status≠.draft := fun hd => by simp [hd] at hdue
    obtain ⟨hb1,hk1⟩ := h.advance hmem hd (f := fun a => { a with status := .ended }) (fun _ => ⟨rfl,rfl⟩)
      fun _ _ h => by cases h
    obtain ⟨hb2,hk2⟩ := hb1.moveShares a.id .expired (by decide)
    obtain ⟨hb3,hk3⟩ := hb2.closings (closeVouchers_closings rfl (Or.inr rfl) _ hok).1
    exact ⟨hb3,(hk1.trans hk2).trans hk3⟩
  · exact h.closings (closeVouchers_closings rfl (Or.inr rfl) _ hok).1

theorem Books.terminate {mode : TerminateMode} {reason : String}
    (hok : terminateBenefitActivity db activityID mode reason now=.ok db') : Books db' ∧ Kept db db' := by
  simp only [terminateBenefitActivity] at hok
  split at hok
  · cases hok
  split at hok
  · cases hok
  rename_i a hstored
  obtain ⟨hmem,rfl⟩ := lookup_some hstored
  split at hok
  · cases hok
  split at hok
  · cases hok
  rename_i hstatus
  have hd : a.status≠.draft := fun hd => hstatus (by rw [hd]; decide)
  obtain ⟨hb1,hk1⟩ := h.moveShares a.id .voided (by decide)
  split at hok
  · cases hok
    obtain ⟨hb2,hk2⟩ := hb1.advance hmem hd (f := fun a => { a with status := .terminated, terminateMode := some .unused })
      (fun _ => ⟨rfl,rfl⟩) fun _ _ h => by cases h
    exact ⟨hb2,hk1.trans hk2⟩
  · obtain ⟨db2,hclose,hok⟩ := bind_ok hok
    cases hok
    have hclosings := (closeVouchers_closings rfl (Or.inl rfl) _ hclose).1
    obtain ⟨hb2,hk2⟩ := hb1.closings hclosings
    have hsame : db2.activities=db.activities := hclosings.tables.activities
    obtain ⟨hb3,hk3⟩ := hb2.advance (hsame ▸ hmem) hd
      (f := fun a => { a with status := .terminated, terminateMode := some .all }) (fun _ => ⟨rfl,rfl⟩)
      fun _ _ h => by cases h
    exact ⟨hb3,(hk1.trans hk2).trans hk3⟩

theorem Books.transition {target : ActivityStatus}
    (hok : transitionBenefitActivity db groupExists activityID target now=.ok db') : Books db' ∧ Kept db db' := by
  unfold transitionBenefitActivity at hok
  split at hok
  · cases hok
  rename_i a hstored
  obtain ⟨hmem,rfl,-⟩ := stored?_some hstored
  split at hok
  · split at hok
    · cases hok
    rename_i hstatus
    cases hok
    exact h.advance hmem (fun hd => hstatus (by rw [hd]; decide)) (fun _ => ⟨rfl,rfl⟩) fun _ _ h => by cases h
  · split at hok
    · cases hok
    rename_i hstatus
    split at hok
    · cases hok
    split at hok
    · cases hok
    cases hok
    exact h.advance hmem (fun hd => hstatus (by rw [hd]; decide)) (fun _ => ⟨rfl,rfl⟩) fun _ _ h => by cases h
  · split at hok
    · cases hok
    rename_i hstatus
    cases hok
    obtain ⟨hb1,hk1⟩ := h.advance hmem (fun hd => hstatus (by rw [hd]; decide))
      (f := fun a => { a with status := .ended, endsAt := now }) (fun _ => ⟨rfl,rfl⟩) fun _ _ h => by cases h
    obtain ⟨hb2,hk2⟩ := hb1.moveShares a.id .expired (by decide)
    exact ⟨hb2,hk1.trans hk2⟩
  · cases hok
  · cases hok

end

theorem mem_of_pick {p : BenefitActivityShare → Bool} {i : Nat} {s : BenefitActivityShare}
    (h : (shares.filter p)[i]? = some s) : s∈shares ∧ p s=true :=
  mem_filter.mp (mem_of_getElem? h)

/-- A claim closes what is over and takes a free share for a new voucher. -/
theorem claim_cases {user : Claimant} {pick : Nat} (hok : claimBenefitActivity db activityID user pick now=.ok db') :
    ∃ a∈db.activities, a.id=activityID ∧ a.deleted=false ∧ a.status=.published ∧
      ∃ db1, expireBenefitActivityRecordsTx db activityID now=.ok db1 ∧
      ∃ share∈db1.shares, share.activityId=activityID ∧ share.status=.available ∧
      ∃ v : BenefitUserVoucher, v.status=.active ∧ claimOf v =
        ⟨nextId (db1.vouchers.map (·.id)),a.id,user.userId,share.id,share.quota,now+a.plan.personalValidSeconds⟩ ∧
      (∀ w∈db1.vouchers, ¬ ((w.activityId=a.id ∧ w.userId=user.userId) ∨ w.shareId=share.id)) ∧
      db'={ db1 with vouchers := db1.vouchers++[v]
                     shares := Keyed.modify BenefitActivityShare.id share.id (takenBy v) db1.shares } := by
  unfold claimBenefitActivity at hok
  split at hok
  · cases hok
  rename_i a hstored
  obtain ⟨hmem,haid,hdel⟩ := stored?_some hstored
  obtain ⟨db1,hexpire,hok⟩ := bind_ok hok
  split at hok
  · cases hok
  rename_i hopen
  obtain ⟨eligibility,-,hok⟩ := bind_ok hok
  split at hok
  · cases hok
  split at hok
  · cases hok
  simp only at hok
  split at hok
  · cases hok
  rename_i share hpick
  obtain ⟨hshare,hfree⟩ := mem_of_pick hpick
  rw [decide_eq_true_eq] at hfree
  obtain ⟨db2,hcreate,htake⟩ := bind_ok hok
  unfold createVoucher at hcreate
  split at hcreate
  · cases hcreate
  rename_i hunique
  cases hcreate
  unfold claimShare at htake
  split at htake
  · cases htake
  cases htake
  simp only [any_eq_true,decide_eq_true_eq,not_exists,not_and] at hunique
  exact ⟨a,hmem,haid,hdel,not_not.mp (not_or.mp hopen).1,db1,vouching_ok hexpire,share,hshare,hfree.1,hfree.2,_,rfl,rfl,hunique,rfl⟩

theorem Books.claim (h : Books db) {user : Claimant} {pick : Nat}
    (hok : claimBenefitActivity db activityID user pick now=.ok db') : Books db' ∧ Kept db db' := by
  obtain ⟨a,-,haid,-,-,db1,hexpire,share,hshare,hactivity,havailable,v,-,hv,hnone,rfl⟩ := claim_cases hok
  obtain ⟨h1,hk1⟩ := h.expire hexpire
  have hclaims : claims { db1 with
      vouchers := db1.vouchers++[v]
      shares := Keyed.modify BenefitActivityShare.id share.id (takenBy v) db1.shares }=claims db1++[claimOf v] := by
    simp [claims]
  -- the share that is taken, and the others
  have htaken : takenBy v share={ share with
      status := .claimed, claimedByUserId := v.userId, claimedVoucherId := v.id } := by
    rw [takenBy,if_pos havailable]
  have hfix : ∀ s∈db1.shares, s.status≠.available →
      s∈Keyed.modify BenefitActivityShare.id share.id (takenBy v) db1.shares := by
    intro s hs hne
    refine mem_map.mpr ⟨s,hs,?_⟩
    by_cases hid : s.id=share.id
    · rw [if_pos hid,takenBy,if_neg hne]
    · rw [if_neg hid]
  have hsame : ∀ s, (takenBy v s).id=s.id ∧ (takenBy v s).activityId=s.activityId ∧ (takenBy v s).quota=s.quota := by
    intro s
    unfold takenBy
    split <;> exact ⟨rfl,rfl,rfl⟩
  refine ⟨⟨h1.ledger,h1.activityIds,h1.shareIds.modify _ fun s => (hsame s).1,?_,?_,?_,?_,?_,?_,?_⟩,⟨?_,hk1.activities⟩⟩
  · rw [hclaims,hv]
    refine h1.voucherIds.append (lookup_eq_none.mpr fun c hc => ?_)
    obtain ⟨w,hw,rfl⟩ := mem_map.mp hc
    have hlt : w.id<nextId (db1.vouchers.map (·.id)) := lt_nextId (mem_map_of_mem hw)
    exact hlt.ne
  · intro s' hs'
    obtain ⟨s,hs,he⟩ := mem_modify hs'
    obtain ⟨b,hb,hid,hd⟩ := h1.owner s hs
    refine ⟨b,hb,hid.trans ?_,hd⟩
    rw [he]
    split
    · exact (hsame s).2.1.symm
    · rfl
  · intro c hc
    rw [hclaims] at hc
    obtain hc | hc := mem_append.mp hc
    · obtain ⟨s,hs,hb⟩ := h1.backed c hc
      exact ⟨s,hfix s hs (by rw [hb.status]; decide),hb⟩
    · rw [mem_singleton.mp hc]
      refine ⟨takenBy v share,mem_map.mpr ⟨share,hshare,if_pos rfl⟩,?_⟩
      rw [htaken,hv]
      exact ⟨rfl,hactivity.trans haid.symm,rfl,rfl,congrArg (·.id) hv⟩
  · intro s' hs' hstatus
    rw [hclaims]
    obtain ⟨s,hs,he⟩ := mem_modify hs'
    by_cases hid : s.id=share.id
    · refine ⟨claimOf v,by simp,?_⟩
      rw [he,if_pos hid,(hsame s).1,hid,hv]
    · rw [if_neg hid] at he
      rw [he] at hstatus ⊢
      obtain ⟨c,hc,hcs⟩ := h1.claimed s hs hstatus
      exact ⟨c,mem_append_left _ hc,hcs⟩
  · rw [hclaims,hv]
    refine h1.onceShare.append (lookup_eq_none.mpr fun c hc heq => ?_)
    obtain ⟨w,hw,rfl⟩ := mem_map.mp hc
    exact hnone w hw (.inr heq)
  · rw [hclaims,hv]
    refine h1.onceUser.append (lookup_eq_none.mpr fun c hc heq => ?_)
    obtain ⟨w,hw,rfl⟩ := mem_map.mp hc
    exact hnone w hw (.inl (Prod.mk.inj heq))
  · intro b hb hd
    have hquotas : quotasOf (Keyed.modify BenefitActivityShare.id share.id (takenBy v) db1.shares) b.id =
        quotasOf db1.shares b.id := by
      refine quotasOf_map _ (fun s => ?_) db1.shares b.id
      split
      · exact (hsame s).2
      · exact ⟨rfl,rfl⟩
    rw [hquotas]
    exact h1.budget b hb hd
  · exact fun s hs hne => hfix s (hk1.shares s hs hne) hne

theorem closeRecords_cases {status : ActivityStatus} (hok : closeRecords a now db=.ok (db',status)) :
    ((a.status=.ended ∨ a.status=.terminated) ∧ status=a.status ∧ expireBenefitActivityRecordsTx db a.id now=.ok db') ∨
    (overdue a now=true ∧ status=.ended ∧
      db'=Voucher.updateActivity a.id (fun a => { a with status := .ended }) (Voucher.moveShares a.id .expired db)) ∨
    (status=a.status ∧ db'=db) := by
  unfold Activity.closeRecords at hok
  split at hok
  next hclosed =>
    obtain ⟨db1,hexpire,hok⟩ := map_ok hok
    cases hok
    exact .inl ⟨hclosed,rfl,hexpire⟩
  split at hok
  · cases hok
    exact .inr (.inl ⟨‹_›,rfl,rfl⟩)
  · cases hok
    exact .inr (.inr ⟨rfl,rfl⟩)

theorem Books.closeRecords (h : Books db) {status : ActivityStatus} (hmem : a∈db.activities)
    (hok : closeRecords a now db=.ok (db',status)) : Books db' ∧ Kept db db' := by
  obtain ⟨-,-,hexpire⟩ | ⟨hdue,-,rfl⟩ | ⟨-,rfl⟩ := closeRecords_cases hok
  · exact h.expire hexpire
  · simp only [overdue,decide_eq_true_eq] at hdue
    obtain ⟨hb1,hk1⟩ := h.moveShares a.id .expired (by decide)
    obtain ⟨hb2,hk2⟩ := hb1.advance hmem (fun hd => by simp [hd] at hdue) (f := fun a => { a with status := .ended })
      (fun _ => ⟨rfl,rfl⟩) fun _ _ h => by cases h
    exact ⟨hb2,hk1.trans hk2⟩
  · exact ⟨h,Kept.refl _⟩

variable {skipped : Option SkipReason}

theorem Books.deleteActivity (h : Books db) (hmem : a∈db.activities)
    (hok : deleteActivity a now db=.ok (db',skipped)) : Books db' ∧ Kept db db' := by
  unfold Activity.deleteActivity at hok
  split at hok
  · cases hok
    exact ⟨h,Kept.refl _⟩
  obtain ⟨⟨db1,status⟩,hclose,hok⟩ := bind_ok hok
  obtain ⟨hb1,hk1⟩ := h.closeRecords hmem hclose
  simp only at hok
  split at hok
  · cases hok
    exact ⟨hb1,hk1⟩
  split at hok
  · cases hok
    exact ⟨hb1,hk1⟩
  · cases hok
    obtain ⟨hb2,hk2⟩ := hb1.updateActivity a.id (f := fun a => { a with deleted := true }) (fun _ => ⟨rfl,rfl⟩)
      fun _ _ _ => Iff.rfl
    exact ⟨hb2,hk1.trans hk2⟩

theorem updateActivity_other (hb : b∈db.activities) (hne : b.id≠activityID) :
    b∈(Voucher.updateActivity activityID f db).activities :=
  mem_map.mpr ⟨b,hb,if_neg hne⟩

theorem expire_other (hok : expireBenefitActivityRecordsTx db activityID now=.ok db') (hb : b∈db.activities)
    (hne : b.id≠activityID) : b∈db'.activities := by
  simp only [expireBenefitActivityRecordsTx] at hok
  split at hok
  · cases hok
  split at hok
  · rw [(closeVouchers_closings rfl (Or.inr rfl) _ hok).1.tables.activities]
    exact updateActivity_other hb hne
  · rw [(closeVouchers_closings rfl (Or.inr rfl) _ hok).1.tables.activities]
    exact hb

theorem deleteActivity_other (hok : deleteActivity a now db=.ok (db',skipped)) (hb : b∈db.activities)
    (hne : b.id≠a.id) : b∈db'.activities := by
  unfold Activity.deleteActivity at hok
  split at hok
  · cases hok
    exact hb
  obtain ⟨⟨db1,status⟩,hclose,hok⟩ := bind_ok hok
  have hb1 : b∈db1.activities := by
    obtain ⟨-,-,hexpire⟩ | ⟨-,-,rfl⟩ | ⟨-,rfl⟩ := closeRecords_cases hclose
    · exact expire_other hexpire hb hne
    · exact updateActivity_other hb hne
    · exact hb
  simp only at hok
  split at hok
  · cases hok
    exact hb1
  split at hok
  · cases hok
    exact hb1
  · cases hok
    exact updateActivity_other hb1 hne

theorem Books.deleteActivities (activities : List BenefitActivity) :
    ∀ {result result' : BatchDeleteResult} {db db' : BenefitDB}, Books db → (activities.map (·.id)).Nodup →
      (∀ a∈activities, a∈db.activities) → deleteActivities now activities result db=.ok (db',result') →
      Books db' ∧ Kept db db' := by
  induction activities with
  | nil =>
    intro result result' db db' h _ _ hok
    cases hok
    exact ⟨h,Kept.refl _⟩
  | cons a rest ih =>
    intro result result' db db' h hn hmem hok
    obtain ⟨⟨db1,skipped⟩,hone,hrest⟩ := bind_ok hok
    obtain ⟨hb1,hk1⟩ := h.deleteActivity (hmem a (by simp)) hone
    obtain ⟨hne,hn⟩ := Unique.cons hn
    have hstill : ∀ b∈rest, b∈db1.activities := fun b hb =>
      deleteActivity_other hone (hmem b (by simp [hb])) (hne b hb)
    obtain ⟨hb2,hk2⟩ := ih hb1 hn hstill hrest
    exact ⟨hb2,hk1.trans hk2⟩

theorem deleteByIDs_ok {ids : List Int} {result : BatchDeleteResult}
    (hok : deleteBenefitActivitiesByIDs db ids now=.ok (db',result)) : ∃ result', Activity.deleteActivities now
      (db.activities.filter fun a => !a.deleted && decide (a.id∈ids.eraseDups)) {} db=.ok (db',result') := by
  unfold deleteBenefitActivitiesByIDs at hok
  split at hok
  · cases hok
  obtain ⟨out,hloop,hok⟩ := map_ok hok
  cases hok
  exact ⟨out.2,vouching_ok hloop⟩

theorem Books.delete (h : Books db) {ids : List Int} {result : BatchDeleteResult}
    (hok : deleteBenefitActivitiesByIDs db ids now=.ok (db',result)) : Books db' ∧ Kept db db' := by
  obtain ⟨_,hloop⟩ := deleteByIDs_ok hok
  exact Books.deleteActivities _ h (List.Nodup.sublist (List.Sublist.map _ filter_sublist) h.activityIds)
    (fun a ha => mem_of_mem_filter ha) hloop

theorem Books.vouchers (h : Books db) : Keyed.Unique BenefitUserVoucher.id db.vouchers := by
  have hids := h.voucherIds
  rw [Keyed.Unique,claims,map_map] at hids
  exact hids

theorem Books.voucher (h : Books db) {op : VoucherOp} (hok : op.call db=.ok db') : Books db' ∧ Kept db db' := by
  cases op with
  | reserve requestID userID groupID amount now =>
    obtain ⟨out,hout,hok⟩ := map_ok hok
    cases hok
    obtain hsame | ⟨-,-,hrounds⟩ := reserve_rounds h.vouchers hout
    · rw [hsame]
      exact ⟨h,Kept.refl _⟩
    · exact h.rounds hrounds
  | refundAdditional requestID amount =>
    obtain rfl | ⟨-,hrounds⟩ := refundAdditional_rounds h.ledger hok
    · exact ⟨h,Kept.refl _⟩
    · exact h.rounds hrounds
  | settle requestID delta now =>
    obtain rfl | ⟨-,-,hrounds⟩ := settle_rounds h.ledger hok
    · exact ⟨h,Kept.refl _⟩
    · exact h.rounds hrounds
  | rollback requestID delta =>
    obtain rfl | ⟨-,-,hrounds⟩ := rollback_rounds hok
    · exact ⟨h,Kept.refl _⟩
    · exact h.rounds hrounds
  | refund requestID =>
    obtain rfl | ⟨-,-,hrounds⟩ := refund_rounds h.ledger hok
    · exact ⟨h,Kept.refl _⟩
    · exact h.rounds hrounds
  | void ids operatorID reason now =>
    simp only [VoucherOp.call,voidBenefitVouchers] at hok
    split at hok
    · cases hok
    split at hok
    · cases hok
    · exact h.closings (voidVouchers_closings _ hok)
  | terminate activityID mode reason now => exact h.terminate hok
  | expire activityID now => exact h.expire hok

theorem Books.step (h : Books db) (op : Int×ActivityOp) : Books (activityStep db op) ∧ Kept db (activityStep db op) := by
  refine commit_of_ok (P := fun db' => Books db' ∧ Kept db db') ⟨h,Kept.refl db⟩ fun db' hok => ?_
  obtain ⟨now,op⟩ := op
  cases op with
  | create draws groupActive activity => exact h.create hok
  | publish check draws groupExists activityID => exact ⟨(h.publish hok).1,(h.publish hok).2.1⟩
  | claim activityID user pick => exact h.claim hok
  | transition groupExists activityID target => exact h.transition hok
  | delete ids =>
    obtain ⟨out,hout,hok⟩ := map_ok hok
    cases hok
    exact h.delete hout
  | voucher op => exact h.voucher (vouching_ok hok)

theorem Books.run (ops : List (Int×ActivityOp)) : ∀ {db : BenefitDB}, Books db →
    Books (Runs.run activityStep ops db) ∧ Kept db (Runs.run activityStep ops db) := by
  induction ops with
  | nil => exact fun h => ⟨h,Kept.refl _⟩
  | cons op ops ih =>
    intro db h
    obtain ⟨h1,hk1⟩ := h.step op
    obtain ⟨h2,hk2⟩ := ih h1
    exact ⟨h2,hk1.trans hk2⟩

theorem books_empty (users : List Int) : Books (emptyTables users) where
  ledger := nodup_nil
  activityIds := nodup_nil
  shareIds := nodup_nil
  voucherIds := nodup_nil
  owner s hs := by cases hs
  backed c hc := by cases hc
  claimed s hs := by cases hs
  onceShare := nodup_nil
  onceUser := nodup_nil
  budget a ha := by cases ha

structure BudgetKept (db : BenefitDB) (a : BenefitActivity) : Prop where
  count : ((quotasOf db.shares a.id).length : Int)=a.plan.totalCount
  total : (quotasOf db.shares a.id).sum=a.plan.totalQuota
  oneEach : ∀ v∈db.vouchers, ∀ w∈db.vouchers, v.activityId=a.id → w.activityId=a.id → v.userId=w.userId → v=w
  share : ∀ v∈db.vouchers, v.activityId=a.id → ∃ s, (s∈db.shares ∧ s.activityId=a.id ∧ s.status=.claimed ∧
    s.claimedVoucherId=v.id) ∧ s.quota=v.originalQuota ∧
    ∀ s', s'∈db.shares ∧ s'.activityId=a.id ∧ s'.status=.claimed ∧ s'.claimedVoucherId=v.id → s'=s
  apart : ∀ v∈db.vouchers, ∀ w∈db.vouchers, v.shareId=w.shareId → v=w

theorem eq_of_claim_key {κ : Type} [DecidableEq κ] {key : VoucherClaim → κ} (hu : Keyed.Unique key (claims db))
    {v w : BenefitUserVoucher} (hv : v∈db.vouchers) (hw : w∈db.vouchers) (h : key (claimOf v)=key (claimOf w)) : v=w := by
  have hinj : (db.vouchers.map fun v => key (claimOf v)).Nodup := by
    rw [Keyed.Unique,claims,map_map] at hu
    exact hu
  exact inj_on_of_nodup_map hinj hv hw h

theorem Books.budgetKept (h : Books db) (ha : a∈db.activities) (hd : a.status≠.draft) : BudgetKept db a where
  count := (h.budget a ha hd).1
  total := (h.budget a ha hd).2
  oneEach v hv w hw hav haw huser := eq_of_claim_key h.onceUser hv hw (by
    simp only [claimOf,hav,haw,huser])
  share v hv hav := by
    obtain ⟨s,hs,hb⟩ := h.backed (claimOf v) (mem_map_of_mem hv)
    refine ⟨s,⟨hs,hb.activity.trans hav,hb.status,hb.voucher⟩,hb.quota,?_⟩
    rintro s' ⟨hs',-,hclaimed,hvoucher⟩
    -- a claimed share belongs to the voucher that it names
    obtain ⟨c,hc,hshare⟩ := h.claimed s' hs' hclaimed
    obtain ⟨w,hw,rfl⟩ := mem_map.mp hc
    obtain ⟨s'',hs'',hb''⟩ := h.backed (claimOf w) hc
    have hsame : s''=s' := inj_on_of_nodup_map h.shareIds hs'' hs' (hb''.id.trans hshare)
    have hid : (claimOf w).id=(claimOf v).id := by
      rw [← hb''.voucher,hsame]
      exact hvoucher
    have hvw : w=v := eq_of_claim_key h.voucherIds hw hv hid
    refine inj_on_of_nodup_map h.shareIds hs' hs ?_
    rw [← hshare,hvw]
    exact hb.id.symm
  apart v hv w hw heq := eq_of_claim_key h.onceShare hv hw heq

/-- For every activity that `PublishBenefitActivity` publishes, in every state of every later run, and between any
two such states no share leaves the statuses claimed, voided and expired. -/
theorem published_budget_kept (users : List Int) (before during after : List (Int×ActivityOp)) {db₁ : BenefitDB}
    {check draws : Draws} {groupExists : Bool} {activityID : Int}
    (hpublish : publishBenefitActivity (Runs.run activityStep before (emptyTables users)) check draws groupExists
      activityID=.ok db₁) : (∃ a₁ a, db₁.activity? activityID=some a₁ ∧
      (Runs.run activityStep (during++after) db₁).activity? activityID=some a ∧ a.plan=a₁.plan ∧
      BudgetKept (Runs.run activityStep (during++after) db₁) a) ∧
      ∀ s∈(Runs.run activityStep during db₁).shares, s.status≠.available →
        s∈(Runs.run activityStep (during++after) db₁).shares := by
  obtain ⟨h₀,-⟩ := Books.run before (books_empty users)
  obtain ⟨h₁,-,a₁,ha₁,hid₁,hd₁⟩ := h₀.publish hpublish
  obtain ⟨h₂,-⟩ := Books.run during h₁
  obtain ⟨h₃,hk⟩ := Books.run (during++after) h₁
  obtain ⟨a,ha,hid,hplan,hd⟩ := hk.activities a₁ ha₁ hd₁
  constructor
  · refine ⟨a₁,a,?_,?_,hplan,h₃.budgetKept ha hd⟩
    · exact hid₁ ▸ lookup_of_mem h₁.activityIds ha₁
    · exact (hid.trans hid₁) ▸ lookup_of_mem h₃.activityIds ha
  · intro s hs hne
    rw [run_append]
    exact (Books.run after h₂).2.shares s hs hne

def exampleDraft : BenefitActivity where
  id := 0
  groupId := 1
  status := .draft
  startsAt := 1
  endsAt := 100
  plan := { name := "gift", totalAmountCents := 3, totalQuota := 10, totalCount := 3, fixedAmountCents := 1,
            personalValidSeconds := 50 }

def noDraws : Draws := ⟨fun _ => 0,fun _ => 0⟩

def publishedExample : BenefitDB :=
  Runs.commit (emptyTables [7]) (publishBenefitActivity
    (Runs.run activityStep [(1,.create noDraws true exampleDraft)] (emptyTables [7])) noDraws noDraws true 1)

theorem publishedExample_ok : publishBenefitActivity
    (Runs.run activityStep [(1,.create noDraws true exampleDraft)] (emptyTables [7])) noDraws noDraws true 1 =
    .ok publishedExample := rfl

example : quotasOf publishedExample.shares 1=[4,3,3] := by decide +kernel

theorem published_budget_kept_claimed : ∃ a₁ a, publishedExample.activity? 1=some a₁ ∧
      (Runs.run activityStep [(2,.claim 1 ⟨7,0,0⟩ 1),(200,.voucher (.expire 1 0))] publishedExample).activity? 1 =
        some a ∧ a.plan=a₁.plan ∧
      BudgetKept (Runs.run activityStep [(2,.claim 1 ⟨7,0,0⟩ 1),(200,.voucher (.expire 1 0))] publishedExample) a :=
  (published_budget_kept [7] [(1,.create noDraws true exampleDraft)] [(2,.claim 1 ⟨7,0,0⟩ 1)]
    [(200,.voucher (.expire 1 0))] publishedExample_ok).1

end NewApi.Activity
