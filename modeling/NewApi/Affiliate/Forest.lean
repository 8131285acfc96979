import NewApi.Affiliate.Model
import NewApi.Lib.Forests

/-! The invitation graph: every user has at most one inviter and counts the invitees. A binding walks up
from the new inviter and refuses a cycle; a restoration of detached invitees does not look. -/
namespace NewApi.Affiliate
open Keyed Function List Runs Forests
open AffiliateDB (invitees user? updateUser unrestored)

def AffiliateDB.inviter (db : AffiliateDB) (id : Int) : Option Int := (db.user? id).map (·.inviterId)

/-- The pointers form a forest and the counts are right, but for a surplus that a transaction has still to book. -/
structure Linked (surplus : Int → Int) (db : AffiliateDB) : Prop where
  unique : Keyed.Unique User.id db.users
  positive : ∀ u∈db.users, 0<u.id
  acyclic : Acyclic db.inviter
  count : ∀ u∈db.users, u.affCount+surplus u.id=(db.invitees u.id).length

def User.link (u : User) : Int×Int×Int := (u.id,u.inviterId,u.affCount)

open User (link)

structure SameGraph (db db' : AffiliateDB) : Prop where
  links : db'.users.map link=db.users.map link
  detached : db'.detached=db.detached

section Graph
variable {db db' db'' : AffiliateDB} {surplus : Int → Int}

theorem SameGraph.refl (db : AffiliateDB) : SameGraph db db := ⟨rfl,rfl⟩

theorem SameGraph.trans (h : SameGraph db db') (h' : SameGraph db' db'') : SameGraph db db'' :=
  ⟨h'.links.trans h.links,h'.detached.trans h.detached⟩

theorem inviter_eq_links (db : AffiliateDB) (a : Int) :
    db.inviter a=((db.users.map link).find? fun l => decide (l.1=a)).map (·.2.1) := by
  rw [find?_map,Option.map_map]
  rfl

theorem invitees_length (db : AffiliateDB) (i : Int) :
    ((db.invitees i).length : Int)=(db.users.map fun u => if u.inviterId=i then 1 else 0).sum := by
  have hsum := sum_filter (fun u : User => decide (u.inviterId=i)) (fun _ => 1) db.users
  simp only [decide_eq_true_eq] at hsum
  rw [← hsum]
  simp [invitees]

theorem invitees_length_links (db : AffiliateDB) (i : Int) :
    (db.invitees i).length=((db.users.map link).filter fun l => decide (l.2.1=i)).length := by
  rw [filter_map,length_map]
  rfl

theorem inviter_of_links (h : db'.users.map link=db.users.map link) : db'.inviter=db.inviter := by
  funext a
  rw [inviter_eq_links,h,← inviter_eq_links]

theorem Linked.of_links (h : db'.users.map link=db.users.map link) (hl : Linked surplus db) : Linked surplus db' := by
  have hids : ∀ users : List User, users.map User.id=(users.map link).map (·.1) := by
    intro users
    rw [map_map]
    rfl
  have hmem : ∀ u∈db'.users, ∃ v∈db.users, link v=link u := by
    intro u hu
    have : link u∈db.users.map link := h ▸ mem_map_of_mem hu
    exact mem_map.mp this
  refine ⟨?_,fun u hu => ?_,inviter_of_links h ▸ hl.acyclic,fun u hu => ?_⟩
  · rw [Keyed.Unique,hids,h,← hids]
    exact hl.unique
  · obtain ⟨v,hv,he⟩ := hmem u hu
    have hid : v.id=u.id := congrArg Prod.fst he
    exact hid ▸ hl.positive v hv
  · obtain ⟨v,hv,he⟩ := hmem u hu
    have hid : v.id=u.id := congrArg Prod.fst he
    have hcount : v.affCount=u.affCount := congrArg (·.2.2) he
    rw [invitees_length_links,h,← invitees_length_links,← hid,← hcount]
    exact hl.count v hv

theorem SameGraph.linked (h : SameGraph db db') (hl : Linked surplus db) : Linked surplus db' := hl.of_links h.links

theorem Linked.congr {surplus' : Int → Int} (h : Linked surplus db) (hs : ∀ i, 0 < i → surplus' i=surplus i) :
    Linked surplus' db :=
  { h with count := fun u hu => by rw [hs u.id (h.positive u hu)]; exact h.count u hu }

variable {i x : Int}

theorem Linked.inviter_nonpos (h : Linked surplus db) (hi : i≤0) : db.inviter i=none := by
  rw [AffiliateDB.inviter,Option.map_eq_none_iff]
  refine lookup_eq_none.mpr fun u hu he => ?_
  have := h.positive u hu
  omega

theorem Linked.not_reaches (h : Linked surplus db) (hi : i≤0) (hx : 0<x) : ¬ Reaches db.inviter i x := by
  intro hr
  have := reaches_of_root (h.inviter_nonpos hi) hr
  omega

theorem inviter_updateUser {f : User → User} (hf : ∀ u, (f u).id=u.id) (a : Int) : (db.updateUser x f).inviter a =
      if a=x then (db.user? x).map fun u => (f u).inviterId else db.inviter a := by
  have hlookup := lookup_modify User.id x a db.users hf
  unfold AffiliateDB.inviter user? updateUser
  rw [hlookup]
  split
  · rw [Option.map_map]
    rfl
  · rfl

section
variable (h : Linked surplus db)
include h

theorem Linked.relink {invitee : User} (hx : db.user? x=some invitee) {w : Int}
    (hw : ¬ Reaches db.inviter w x) :
    Linked (fun i => surplus i+(if i=w then 1 else 0) - if i=invitee.inviterId then 1 else 0)
      (db.updateUser x fun u => { u with inviterId := w }) := by
  obtain ⟨hmem,hid⟩ := lookup_some hx
  have hinviter : (db.updateUser x fun u => { u with inviterId := w }).inviter = Function.update db.inviter x (some w) := by
    funext a
    rw [inviter_updateUser (f := fun u : User => { u with inviterId := w }) fun _ => rfl,hx]
    by_cases ha : a=x
    · rw [ha,if_pos rfl,update_self]
      rfl
    · rw [if_neg ha,update_of_ne ha]
  refine ⟨h.unique.modify x fun _ => rfl,fun u hu => ?_,?_,fun u hu => ?_⟩
  · obtain ⟨v,hv,rfl⟩ := mem_modify hu
    split
    · exact h.positive v hv
    · exact h.positive v hv
  · rw [hinviter]
    exact h.acyclic.update hw
  · obtain ⟨v,hv,he⟩ := mem_modify hu
    have huid : u.id=v.id := by
      rw [he]
      split <;> rfl
    have hcount : u.affCount=v.affCount := by
      rw [he]
      split <;> rfl
    have hsum := sum_modify h.unique hmem (fun u => { u with inviterId := w }) fun u => if u.inviterId=v.id then 1 else 0
    have hold := h.count v hv
    rw [hid] at hsum
    rw [invitees_length] at hold
    rw [huid,hcount,invitees_length,updateUser,hsum,← hold]
    simp only [eq_comm (a := v.id)]
    omega

theorem Linked.recount {f : User → User} (surplus' : Int → Int)
    (hid : ∀ u, (f u).id=u.id) (hinviter : ∀ u, (f u).inviterId=u.inviterId)
    (hself : ∀ u∈db.users, u.id=x → (f u).affCount+surplus' x=u.affCount+surplus x)
    (hother : ∀ i, i≠x → surplus' i=surplus i) : Linked surplus' (db.updateUser x f) := by
  have hinv : (db.updateUser x f).inviter=db.inviter := by
    funext a
    rw [inviter_updateUser hid]
    split
    next ha =>
      rw [ha,AffiliateDB.inviter]
      exact congrArg (Option.map · _) (funext hinviter)
    · rfl
  refine ⟨h.unique.modify x hid,fun u hu => ?_,hinv ▸ h.acyclic,fun u hu => ?_⟩
  · obtain ⟨v,hv,rfl⟩ := mem_modify hu
    split
    · rw [hid]
      exact h.positive v hv
    · exact h.positive v hv
  · obtain ⟨v,hv,he⟩ := mem_modify hu
    have hold := h.count v hv
    have hlen : ((db.updateUser x f).invitees v.id).length=(db.invitees v.id).length := by
      have hi := map_modify User.id x (g := User.inviterId) db.users hinviter
      have hl : ∀ users : List User, (users.filter fun u => decide (u.inviterId=v.id)).length =
          ((users.map User.inviterId).filter fun i => decide (i=v.id)).length := by
        intro users
        rw [filter_map,length_map]
        rfl
      rw [invitees,invitees,hl,hl,updateUser,hi]
    have huid : u.id=v.id := by
      rw [he]
      split
      · exact hid v
      · rfl
    rw [huid,hlen,← hold]
    by_cases hx : v.id=x
    · rw [he,if_pos hx]
      have := hself v hv hx
      rw [hx]
      exact this
    · rw [he,if_neg hx,hother _ hx]

theorem Linked.decrement (hx : surplus x = -1) : Linked (Function.update surplus x 0)
      (db.updateUser x fun u => if u.affCount>0 then { u with affCount := u.affCount-1 } else u) := by
  refine h.recount _ (fun u => by split <;> rfl) (fun u => by split <;> rfl) (fun u hu hid => ?_) fun i hi => ?_
  · have hcount := h.count u hu
    rw [hid,hx] at hcount
    have hpos : u.affCount>0 := by omega
    rw [if_pos hpos,update_self,hx]
    simp only
    omega
  · exact update_of_ne hi 0 surplus

theorem Linked.addCount {n : Int} (hx : surplus x=n) :
    Linked (Function.update surplus x 0) (db.updateUser x fun u => { u with affCount := u.affCount+n }) := by
  refine h.recount _ (fun _ => rfl) (fun _ => rfl) (fun u _ _ => ?_) fun i hi => update_of_ne hi 0 surplus
  rw [update_self,hx]
  simp only
  omega

end

end Graph

section Ledger
variable {db : AffiliateDB}

abbrev KeepsGraph (db : AffiliateDB) (out : Except AffiliateError AffiliateDB) : Prop :=
  Ensures (SameGraph db) (fun _ => True) out

theorem sameGraph_updateUser (db : AffiliateDB) (id : Int) {f : User → User}
    (hf : ∀ u, link (f u)=link u) : SameGraph db (db.updateUser id f) :=
  ⟨map_modify User.id id db.users hf,rfl⟩

theorem sameGraph_save (db : AffiliateDB) (b : AffiliateBalance) : SameGraph db (saveAffiliateBalanceTx db b) :=
  ⟨(sameGraph_updateUser db b.userId
    (f := fun u => { u with affQuota := b.availableQuota, affHistory := b.totalQuota }) fun _ => rfl).links,rfl⟩

theorem SameGraph.save {t : AffiliateDB} (h : SameGraph db t) (records : List AffiliateRecord)
    (withdrawals : List AffiliateWithdrawal) (b : AffiliateBalance) :
    SameGraph db (saveAffiliateBalanceTx { t with records := records, withdrawals := withdrawals } b) :=
  h.trans ⟨(sameGraph_save _ b).links,rfl⟩

theorem getBalance_graph (db : AffiliateDB) (u : Int) :
    Ensures (fun p => SameGraph db p.1) (fun _ => True) (getAffiliateBalanceForUpdateTx db u) :=
  getBalance_ensures (SameGraph.refl db) u (fun _ => ⟨rfl,rfl⟩) fun t b ht => ht.trans (sameGraph_save t b)

theorem createReward_graph (db : AffiliateDB) (userId inviteeId level : Int) (sourceType : SourceType)
    (sourceId : String) (sourceQuota ratio now delay : Int) : KeepsGraph db
      (createAffiliateRewardRecordTx db userId inviteeId level sourceType sourceId sourceQuota ratio now delay) := by
  unfold createAffiliateRewardRecordTx
  refine Ensures.ite (fun _ => SameGraph.refl db) fun _ => Ensures.guard trivial fun _ => ?_
  refine Ensures.ite (fun _ => SameGraph.refl db) fun _ => Ensures.ite (fun _ => SameGraph.refl db) fun _ => ?_
  exact (getBalance_graph db userId).bind fun p hp => hp.save _ p.1.withdrawals _

theorem loadBalances_graph (uids : List Int) (db : AffiliateDB) : KeepsGraph db (loadBalances db uids) := by
  induction uids generalizing db with
  | nil => exact SameGraph.refl db
  | cons uid uids ih =>
    exact (getBalance_graph db uid).bind fun p hp => (ih p.1).mono fun _ hs => hp.trans hs

theorem creditSettled_graph (q : Int → Int) (uids : List Int) (db : AffiliateDB) : KeepsGraph db (creditSettled q db uids) := by
  induction uids generalizing db with
  | nil => exact SameGraph.refl db
  | cons uid uids ih =>
    unfold creditSettled
    refine Ensures.ite (fun _ => ih db) fun _ => ?_
    cases db.balances uid with
    | none => trivial
    | some b => exact Ensures.guard trivial fun _ => (ih _).mono fun _ hs => (sameGraph_save db _).trans hs

theorem settle_graph (db : AffiliateDB) (userId now : Int) : KeepsGraph db (settleMatureAffiliateRecordsTx db userId now) := by
  unfold settleMatureAffiliateRecordsTx
  refine Ensures.ite (fun _ => SameGraph.refl db) fun _ => ?_
  refine (loadBalances_graph _ db).bind fun t ht => (creditSettled_graph _ _ _).mono fun _ hs => ht.trans ?_
  exact ⟨hs.links,hs.detached⟩

theorem withdraw_graph (db : AffiliateDB) (userId : Int) (method : PayoutMethod) (req : WithdrawalRequest) :
    KeepsGraph db (createAffiliateWithdrawalTx db userId method req) := by
  refine (getBalance_graph db userId).bind fun p hp => Ensures.guard trivial fun _ => ?_
  refine Ensures.guard trivial fun _ => Ensures.guard trivial fun _ => ?_
  exact hp.save p.1.records _ _

theorem status_graph (db : AffiliateDB) (withdrawalId adminId : Int) (remark : String) (target : WithdrawalStatus)
    (now : Int) : KeepsGraph db (updateAffiliateWithdrawalStatus db withdrawalId adminId remark target now) := by
  unfold updateAffiliateWithdrawalStatus
  refine Ensures.guard trivial fun _ => ?_
  cases Keyed.lookup AffiliateWithdrawal.id withdrawalId db.withdrawals with
  | none => trivial
  | some w =>
    refine (getBalance_graph db w.userId).bind fun p hp => ?_
    refine Ensures.ite (fun _ => hp) fun _ => Ensures.guard trivial fun _ => ?_
    refine Ensures.guard trivial fun _ => ?_
    cases target with
    | pending => trivial
    | approved => exact hp.save p.1.records _ _
    | rejected | paid => exact Ensures.guard trivial fun _ => hp.save p.1.records _ _

theorem transfer_graph (db : AffiliateDB) (userId quota : Int) : KeepsGraph db (transferAffiliateQuotaTx db userId quota) := by
  refine (getBalance_graph db userId).bind fun p hp => Ensures.guard trivial fun _ => ?_
  refine Ensures.guard trivial fun _ => ?_
  cases p.1.user? userId with
  | none => trivial
  | some user =>
    refine Ensures.guard trivial fun _ => (hp.trans ?_).trans (sameGraph_save _ _)
    exact sameGraph_updateUser p.1 userId fun _ => rfl

theorem freeze_graph (db : AffiliateDB) (userId : Int) : KeepsGraph db (freezeAffiliateAssetsTx db userId) :=
  (getBalance_graph db userId).bind fun p hp =>
    Ensures.ite (fun _ => hp.trans (sameGraph_save p.1 _)) fun _ => hp.trans (sameGraph_save p.1 _)

theorem unfreeze_graph (db : AffiliateDB) (userId : Int) : KeepsGraph db (unfreezeAffiliateAssetsTx db userId) :=
  (getBalance_graph db userId).bind fun p hp =>
    Ensures.ite (fun _ => hp) fun _ => hp.trans (sameGraph_save p.1 _)

theorem clear_graph (db : AffiliateDB) (userId adminId now : Int) :
    Ensures (fun p => SameGraph db p.1) (fun _ => True) (clearAffiliateAssetsTx db userId adminId now) :=
  (getBalance_graph db userId).bind fun _ hp =>
    Ensures.ite (fun _ => hp) fun _ => Ensures.guard trivial fun _ => hp.save _ _ _

theorem clawback_graph (db : AffiliateDB) (inviterId inviteeId now : Int) :
    Ensures (fun p => SameGraph db p.1) (fun _ => True) (clawbackEarnings db inviterId inviteeId now) := by
  refine (getBalance_graph db inviterId).bind fun p hp => Ensures.guard trivial fun _ => ?_
  refine Ensures.guard trivial fun _ => Ensures.ite (fun _ => hp) fun _ => ?_
  exact Ensures.guard trivial fun _ => Ensures.guard trivial fun _ => hp.save _ p.1.withdrawals _

end Ledger

section Moves
variable {db : AffiliateDB}

abbrev Rooted (db : AffiliateDB) : Prop := Linked (fun _ => 0) db

abbrev Roots (out : Except AffiliateError AffiliateDB) : Prop := Ensures Rooted (fun _ => True) out

variable {surplus : Int → Int} {x userId : Int}

theorem Linked.cut (h : Linked surplus db) {invitee : User} (hx : db.user? x=some invitee) :
    Linked (fun i => surplus i - if i=invitee.inviterId then 1 else 0)
      (db.updateUser x fun u => { u with inviterId := 0 }) := by
  obtain ⟨hmem,hid⟩ := lookup_some hx
  have hpos := h.positive invitee hmem
  rw [hid] at hpos
  refine (h.relink hx (h.not_reaches le_rfl hpos)).congr fun i hi => ?_
  rw [if_neg hi.ne']
  omega

theorem Linked.unbind (h : Rooted db) {invitee : User} (hx : db.user? x=some invitee) :
    Rooted ((db.updateUser x fun u => { u with inviterId := 0 }).updateUser invitee.inviterId fun u =>
      if u.affCount>0 then { u with affCount := u.affCount-1 } else u) := by
  refine ((h.cut hx).decrement (by simp)).congr fun i _ => ?_
  by_cases hi : i=invitee.inviterId
  · rw [hi,update_self]
  rw [update_of_ne hi,if_neg hi]
  rfl

theorem ensureNoCycleLoop_ok (h : Linked surplus db) {inviteeId : Int} (hpos : 0 < inviteeId) {depth : Nat}
    {visited : List Int} {currentId : Int} (hok : ensureNoCycleLoop db inviteeId depth visited currentId=.ok ()) :
    ¬ Reaches db.inviter currentId inviteeId := by
  induction depth generalizing visited currentId with
  | zero =>
    unfold ensureNoCycleLoop at hok
    split at hok
    · cases hok
    next hc =>
      exact h.not_reaches (Int.not_lt.mp hc) hpos
  | succ depth ih =>
    unfold ensureNoCycleLoop at hok
    split at hok
    next hc =>
      exact h.not_reaches hc hpos
    · split at hok
      · cases hok
      rename_i hne
      cases hu : db.user? currentId with
      | none =>
        rw [hu] at hok
        cases hok
      | some parent =>
        rw [hu] at hok
        have hparent : db.inviter currentId=some parent.inviterId := by rw [AffiliateDB.inviter,hu]; rfl
        intro hr
        obtain he | hr := reaches_cons hparent hr
        · exact hne (.inl he.symm)
        · exact ih hok hr

theorem bind_rooted (h : Rooted db) (userId : Int) (affCode : String) (force : Bool) :
    Roots (bindUserInviterByAffCode db userId affCode force) := by
  unfold bindUserInviterByAffCode
  refine Ensures.guard trivial fun _ => ?_
  cases hu : db.user? userId with
  | none => trivial
  | some invitee =>
    obtain ⟨hmem,rfl⟩ := lookup_some hu
    refine Ensures.bind (P := fun _ => True) ?_ fun inviter _ => ?_
    · cases findAffiliateInviterByAffCodeTx db affCode <;> trivial
    refine Ensures.guard trivial fun _ => Ensures.ite (fun _ => h) fun hnew => ?_
    refine Ensures.guard trivial fun _ => ?_
    refine Ensures.bind (P := fun _ => ¬ Reaches db.inviter inviter.id invitee.id) ?_ fun _ hfree => ?_
    · cases hc : ensureNoAffiliateInviteCycleTx db invitee.id inviter.id with
      | error e => trivial
      | ok _ => exact ensureNoCycleLoop_ok h (h.positive invitee hmem) hc
    · have hlink := h.relink hu hfree
      simp only [zero_add] at hlink
      -- the old inviter's count is taken down first, so that only the new inviter's is still open
      have hold : Linked (fun i => if i=inviter.id then 1 else 0) (if invitee.inviterId>0 then
            (db.updateUser invitee.id fun u => { u with inviterId := inviter.id }).updateUser invitee.inviterId fun u =>
              if u.affCount>0 then { u with affCount := u.affCount-1 } else u
          else db.updateUser invitee.id fun u => { u with inviterId := inviter.id }) := by
        split
        · refine (hlink.decrement (by simp [hnew])).congr fun i _ => ?_
          by_cases hi : i=invitee.inviterId
          · rw [hi,update_self,if_neg hnew]
          rw [update_of_ne hi,if_neg hi]
          omega
        next hz =>
          refine hlink.congr fun i hi => ?_
          have hne : i≠invitee.inviterId := fun he => hz (he ▸ hi)
          rw [if_neg hne,sub_zero]
      refine (hold.addCount (x := inviter.id) (n := 1) (if_pos rfl)).congr fun i _ => ?_
      by_cases hi : i=inviter.id
      · rw [hi,update_self]
      · rw [update_of_ne hi,if_neg hi]

theorem unbind_rooted (h : Rooted db) (userId : Int) : Roots (unbindUserInviter db userId) := by
  unfold unbindUserInviter
  cases hu : db.user? userId with
  | none => trivial
  | some invitee =>
    obtain ⟨-,rfl⟩ := lookup_some hu
    exact Ensures.ite (fun _ => h) fun _ => h.unbind hu

theorem unbindRelationship_rooted (h : Rooted db) (alertId adminId : Int) (doClawback : Bool) (now : Int) :
    Roots (unbindAffiliateRelationship db alertId adminId doClawback now) :=
  unbindRelationship_ensures h trivial alertId adminId doClawback now
    (fun inviter invitee => (clawback_graph db inviter invitee now).mono fun _ hs => hs.linked h)
    (fun _ _ _ ht hu => ht.unbind hu) fun _ _ ht => Linked.of_links (by rfl) ht

theorem detach_rooted (h : Rooted db) (riskUserId : Int) (hpos : 0<userId) :
    Rooted (detachAffiliateInviteesTx db riskUserId userId).1 := by
  unfold detachAffiliateInviteesTx
  simp only
  split
  · exact h
  set cutUsers := db.users.map fun u => if u.inviterId=userId then { u with inviterId := 0 } else u with hcut
  have hid : ∀ u : User, (if u.inviterId=userId then { u with inviterId := 0 } else u).id=u.id := by
    intro u
    split <;> rfl
  -- with the invitees gone but the count still up, the surplus is what was cut
  have hlinked : Linked (fun i => if i=userId then -((db.invitees userId).length : Int) else 0)
      { db with users := cutUsers } := by
    have hinviter : ∀ a, ({ db with users := cutUsers } : AffiliateDB).inviter a =
        (db.inviter a).map fun i => if i=userId then 0 else i := by
      intro a
      rw [AffiliateDB.inviter,AffiliateDB.inviter,user?,hcut,
        lookup_map User.id a db.users hid,Option.map_map,Option.map_map]
      refine congrArg (Option.map · _) (funext fun u => ?_)
      simp only [comp_apply]
      split <;> rfl
    refine ⟨?_,fun u hu => ?_,h.acyclic.cut fun a b hab => ?_,fun u hu => ?_⟩
    · have : User.id ∘ (fun u : User => if u.inviterId=userId then { u with inviterId := 0 } else u)=User.id :=
        funext hid
      rw [Keyed.Unique,hcut,map_map,this]
      exact h.unique
    · obtain ⟨v,hv,rfl⟩ := mem_map.mp hu
      rw [hid]
      exact h.positive v hv
    · rw [hinviter] at hab
      obtain ⟨c,hc,he⟩ := Option.map_eq_some_iff.mp hab
      split at he
      · right
        rw [hinviter,← he,h.inviter_nonpos le_rfl]
        rfl
      · exact .inl (he ▸ hc)
    · obtain ⟨v,hv,rfl⟩ := mem_map.mp hu
      have hcount := h.count v hv
      have haff : (if v.inviterId=userId then { v with inviterId := 0 } else v).affCount=v.affCount := by
        split <;> rfl
      have hvpos := h.positive v hv
      rw [hid,haff,invitees_length { db with users := cutUsers },hcut,map_map]
      rw [add_zero] at hcount
      by_cases hvu : v.id=userId
      · have hzero : (db.users.map ((fun u : User => if u.inviterId=v.id then (1 : Int) else 0) ∘ fun u =>
            if u.inviterId=userId then { u with inviterId := 0 } else u)).sum=0 := by
          refine sum_eq_zero fun x hx => ?_
          obtain ⟨w,-,rfl⟩ := mem_map.mp hx
          simp only [comp_apply,hvu]
          by_cases hw : w.inviterId=userId
          · simp [hw,hpos.ne]
          · simp [hw]
        rw [hzero,if_pos hvu,hcount,hvu]
        omega
      · rw [if_neg hvu,add_zero,hcount,invitees_length]
        refine congrArg List.sum (map_congr_left fun w _ => ?_)
        simp only [comp_apply]
        by_cases hw : w.inviterId=userId
        · simp [hw,Ne.symm hvu,hvpos.ne]
        · simp [hw]
  have hdone := hlinked.recount (x := userId) (fun _ => 0)
    (f := fun u => { u with affCount := if u.affCount≥((db.invitees userId).length : Int) then
      u.affCount-(db.invitees userId).length else 0 })
    (fun _ => rfl) (fun _ => rfl) (fun u hu he => ?_) fun i hi => (if_neg hi).symm
  · exact Linked.of_links (by rfl) hdone
  · have hcount := hlinked.count u hu
    rw [he,if_pos rfl] at hcount
    have hge : u.affCount≥((db.invitees userId).length : Int) := by omega
    simp only [if_pos hge,if_true]
    omega

theorem restoreLoop_linked (now : Int) (rows : List AffiliateRiskDetachedInvitee) {n : Int}
    (h : Linked (fun i => if i=userId then n else 0) db)
    (hfree : ∀ row∈rows, db.inviter row.inviteeId=some 0 → ¬ Reaches db.inviter userId row.inviteeId) :
    Linked (fun i => if i=userId then (restoreLoop userId now rows db n).2 else 0) (restoreLoop userId now rows db n).1 := by
  induction rows generalizing db n with
  | nil => exact h
  | cons row rows ih =>
    have hrest : ∀ r∈rows, db.inviter r.inviteeId=some 0 → ¬ Reaches db.inviter userId r.inviteeId :=
      fun r hr => hfree r (mem_cons_of_mem _ hr)
    unfold restoreLoop
    cases hu : db.user? row.inviteeId with
    | none => exact ih h hrest
    | some invitee =>
      simp only
      by_cases hz : invitee.inviterId=0
      · rw [if_neg (not_not.mpr hz)]
        have hzero : db.inviter row.inviteeId=some 0 := by
          rw [AffiliateDB.inviter,hu,Option.map_some,hz]
        have hrow := hfree row mem_cons_self hzero
        have hlink : Linked (fun i => if i=userId then n+1 else 0)
            (db.updateUser row.inviteeId fun u => { u with inviterId := userId }) := by
          refine (h.relink hu hrow).congr fun i hi => ?_
          rw [hz,if_neg hi.ne']
          split <;> omega
        refine ih (Linked.of_links (by rfl) hlink) fun r hr hr0 => ?_
        have hinviter : (db.updateUser row.inviteeId fun u => { u with inviterId := userId }).inviter =
            Function.update db.inviter row.inviteeId (some userId) := by
          funext a
          rw [inviter_updateUser (f := fun u : User => { u with inviterId := userId }) fun _ => rfl,hu]
          by_cases ha : a=row.inviteeId
          · rw [ha,if_pos rfl,update_self]
            rfl
          · rw [if_neg ha,update_of_ne ha]
        have hr0 : Function.update db.inviter row.inviteeId (some userId) r.inviteeId=some 0 := hinviter ▸ hr0
        suffices ¬ Reaches (Function.update db.inviter row.inviteeId (some userId)) userId r.inviteeId from
          hinviter ▸ this
        intro hreach
        have hreach := reaches_update hrow hreach
        by_cases ha : r.inviteeId=row.inviteeId
        · exact hrow (ha ▸ hreach)
        rw [update_of_ne ha] at hr0
        exact hrest r hr hr0 hreach
      · rw [if_pos hz]
        exact ih h hrest

theorem restore_rooted (h : Rooted db) {riskUserId : Int} (now : Int)
    (hfree : ∀ row∈db.unrestored riskUserId userId, db.inviter row.inviteeId=some 0 →
      ¬ Reaches db.inviter userId row.inviteeId) : Rooted (restoreAffiliateDetachedInviteesTx db riskUserId userId now) := by
  have hloop := restoreLoop_linked now (db.unrestored riskUserId userId) (n := 0) (h.congr fun i _ => by split <;> rfl) hfree
  have hnonneg : ∀ (rows : List AffiliateRiskDetachedInvitee) (t : AffiliateDB) (n : Int), 0≤n →
      0≤(restoreLoop userId now rows t n).2 := by
    intro rows
    induction rows with
    | nil => exact fun _ _ hn => hn
    | cons row rows ih =>
      intro t n hn
      unfold restoreLoop
      split
      · split
        · exact ih _ _ hn
        · exact ih _ _ (by omega)
      · exact ih _ _ hn
  have hn := hnonneg (db.unrestored riskUserId userId) db 0 le_rfl
  unfold restoreAffiliateDetachedInviteesTx
  simp only
  set out := restoreLoop userId now (db.unrestored riskUserId userId) db 0
  split
  · refine (hloop.addCount (x := userId) (if_pos rfl)).congr fun i _ => ?_
    by_cases hi : i=userId
    · rw [hi,update_self]
    · rw [update_of_ne hi,if_neg hi]
  · have hzero : out.2=0 := by omega
    refine hloop.congr fun i _ => ?_
    rw [hzero]
    split <;> rfl

theorem apply_rooted (h : Rooted db) (userId adminId : Int) (req : AffiliateRiskApplyRequest) (now : Int) :
    Roots (applyAffiliateRiskAction db userId adminId req now) := by
  unfold applyAffiliateRiskAction
  refine Ensures.guard trivial fun hid => Ensures.guard trivial fun _ => ?_
  refine Ensures.guard trivial fun _ => Ensures.guard trivial fun _ => ?_
  have hget : Rooted (getOrCreateActiveAffiliateRiskUserTx db userId).1 := by
    refine h.of_links ?_
    unfold getOrCreateActiveAffiliateRiskUserTx
    split
    · split <;> rfl
    · rfl
  have hset : ∀ (t : AffiliateDB) (risk : AffiliateRiskUser), Rooted t → Rooted (setRisk t userId risk) :=
    fun t risk ht => Linked.of_links (by rfl) ht
  set p := getOrCreateActiveAffiliateRiskUserTx db userId
  obtain ⟨db0,risk⟩ := p
  simp only
  refine Ensures.bind (P := Rooted) ?_ fun db1 h1 => ?_
  · exact Ensures.ite (fun _ => (freeze_graph _ userId).mono fun _ hs => hs.linked (hset _ _ hget)) fun _ =>
      hset _ _ hget
  have hclear : ∀ p : AffiliateDB×AffiliateRiskUser, Rooted p.1 → Roots (if req.clearAssets=true then
        (clearAffiliateAssetsTx p.1 userId adminId now).bind fun q =>
          .ok (setRisk q.1 userId { p.2 with clearedQuota := p.2.clearedQuota+q.2 })
      else .ok p.1) := by
    rintro ⟨db2,risk2⟩ hp
    refine Ensures.ite (fun _ => ?_) fun _ => hp
    exact (clear_graph db2 userId adminId now).bind fun q hq => hset _ _ (hq.linked hp)
  refine hclear _ ?_
  split
  · split
    · exact hset _ _ (detach_rooted h1 _ (Int.not_le.mp hid))
    · exact detach_rooted h1 _ (Int.not_le.mp hid)
  · exact h1

/-- The call re-attaches a detached invitee who stands above the user by now. -/
def ClosesCycle (db : AffiliateDB) : Op → Prop
  | .removeAffiliateRiskAction userId _ true _ _ =>
    ∃ risk, db.risks userId=some risk ∧ risk.status=.active ∧ ∃ row∈db.unrestored risk.id userId,
      db.inviter row.inviteeId=some 0 ∧ Reaches db.inviter userId row.inviteeId
  | _ => False

theorem remove_rooted (h : Rooted db) {adminId : Int} {restore : Bool} {remark : String} {now : Int}
    (hok : ¬ ClosesCycle db (.removeAffiliateRiskAction userId adminId restore remark now)) :
    Roots (removeAffiliateRiskAction db userId adminId restore remark now) := by
  unfold removeAffiliateRiskAction
  cases hrisk : db.risks userId with
  | none => trivial
  | some risk =>
    refine Ensures.guard trivial fun hactive => ?_
    refine Ensures.bind (P := SameGraph db) ?_ fun db1 hs => ?_
    · exact Ensures.ite (fun _ => unfreeze_graph db userId) fun _ => SameGraph.refl db
    suffices hrestored : Rooted (if restore=true then restoreAffiliateDetachedInviteesTx db1 risk.id userId now
      else db1) from Linked.of_links (by rfl) hrestored
    cases restore with
    | false => exact hs.linked h
    | true =>
      refine restore_rooted (hs.linked h) now fun row hrow hzero hreach => hok ?_
      rw [unrestored,hs.detached] at hrow
      rw [inviter_of_links hs.links] at hzero hreach
      exact ⟨risk,hrisk,not_not.mp hactive,row,hrow,hzero,hreach⟩

end Moves

section Calls
variable {db : AffiliateDB}
variable {out : Except AffiliateError AffiliateDB}

theorem transact_rooted (h : Rooted db) (ho : Roots out) : Rooted (transact db out).1 := by
  cases out with
  | ok db' => exact ho
  | error e => exact h

theorem transact_graph (h : Rooted db) (ho : KeepsGraph db out) : Rooted (transact db out).1 :=
  transact_rooted h (ho.mono fun _ hs => hs.linked h)

theorem settleThen_graph (h : Rooted db) {userId now : Int} {main : AffiliateDB → Except AffiliateError AffiliateDB}
    (hmain : ∀ t, KeepsGraph t (main t)) : Rooted (settleThen db userId now main).1 := by
  have hsettle := settle_graph db userId now
  unfold settleThen
  cases hs : settleMatureAffiliateRecordsTx db userId now with
  | error e => exact h
  | ok t =>
    rw [hs] at hsettle
    exact transact_graph (hsettle.linked h) (hmain t)

theorem step_rooted (h : Rooted db) {op : Op} (hok : ¬ ClosesCycle db op) : Rooted (step db op) := by
  cases op with
  | createAffiliateRewardRecord => exact transact_graph h (createReward_graph db _ _ _ _ _ _ _ _ _)
  | settleMatureAffiliateRecords => exact transact_graph h (settle_graph db _ _)
  | createAffiliateWithdrawalWithPayout userId req now =>
    unfold step exec
    simp only
    split
    · exact h
    · exact settleThen_graph h fun t => withdraw_graph t userId _ req
  | updateAffiliateWithdrawalStatus => exact transact_graph h (status_graph db _ _ _ _ _)
  | transferAffiliateQuotaToBalance userId quota now =>
    unfold step exec
    simp only
    split
    · exact h
    · exact settleThen_graph h fun t => transfer_graph t userId quota
  | freezeAffiliateAssets => exact transact_graph h (freeze_graph db _)
  | unfreezeAffiliateAssets => exact transact_graph h (unfreeze_graph db _)
  | clearAffiliateAssets => exact transact_graph h ((clear_graph db _ _ _).map fun _ hp => hp)
  | clawbackEarnings => exact transact_graph h ((clawback_graph db _ _ _).map fun _ hp => hp)
  | applyAffiliateRiskAction => exact transact_rooted h (apply_rooted h _ _ _ _)
  | removeAffiliateRiskAction => exact transact_rooted h (remove_rooted h hok)
  | unbindAffiliateRelationship => exact transact_rooted h (unbindRelationship_rooted h _ _ _ _)
  | bindUserInviterByAffCode => exact transact_rooted h (bind_rooted h _ _ _)
  | unbindUserInviter => exact transact_rooted h (unbind_rooted h _)

end Calls

structure Uninvited (db : AffiliateDB) : Prop where
  unique : Keyed.Unique User.id db.users
  positive : ∀ u∈db.users, 0<u.id
  inviterId : ∀ u∈db.users, u.inviterId=0
  affCount : ∀ u∈db.users, u.affCount=0

theorem Uninvited.rooted {db : AffiliateDB} (h : Uninvited db) : Rooted db := by
  have hzero : db.inviter 0=none := by
    rw [AffiliateDB.inviter,Option.map_eq_none_iff]
    exact lookup_eq_none.mpr fun u hu he => by
      have := h.positive u hu
      omega
  have hparent : ∀ a b, db.inviter a=some b → b=0 := by
    intro a b hab
    obtain ⟨u,hu,rfl⟩ := Option.map_eq_some_iff.mp hab
    exact h.inviterId u (lookup_some hu).1
  refine ⟨h.unique,h.positive,?_,fun u hu => ?_⟩
  · have hnone : Acyclic fun _ : Int => (none : Option Int) := by
      intro a ha
      obtain ⟨b,hab,-⟩ := Relation.TransGen.head'_iff.mp ha
      cases hab
    exact hnone.cut fun a b hab => .inr (hparent a b hab ▸ hzero)
  · rw [h.affCount u hu,invitees_length]
    symm
    refine sum_eq_zero fun x hx => ?_
    obtain ⟨v,hv,rfl⟩ := mem_map.mp hx
    have := h.positive u hu
    rw [h.inviterId v hv,if_neg (by omega)]

/-- Over every run from uninvited users in which no removal re-attaches an invitee who stands above the user by then,
the inviters form a forest and every `aff_count` is right. -/
theorem inviters_stay_forest {db : AffiliateDB} (h : Uninvited db) {ops : List Op}
    (hok : Guarded step (fun db op => ¬ ClosesCycle db op) ops db) :
    (∀ id, ¬ Relation.TransGen (fun a b => ∃ u, (run step ops db).user? a=some u ∧ u.inviterId=b) id id) ∧
      ∀ u∈(run step ops db).users, u.affCount=((run step ops db).users.filter fun v => decide (v.inviterId=u.id)).length := by
  have hstep : ∀ s o, Rooted s → ¬ ClosesCycle s o → Rooted (step s o) := fun s o hs ho => step_rooted hs ho
  have hroot := Guarded.invariant hstep h.rooted hok
  refine ⟨fun id hid => hroot.acyclic id (Relation.TransGen.mono (fun a b hab => ?_) id id hid),fun u hu => ?_⟩
  · obtain ⟨u,hu,rfl⟩ := hab
    rw [Parent,AffiliateDB.inviter,hu]
    rfl
  · have hcount := hroot.count u hu
    rw [add_zero] at hcount
    exact hcount

def strangers : AffiliateDB := { users := [{ id := 1, affCode := "a" },{ id := 2, affCode := "b" }] }

theorem strangers_uninvited : Uninvited strangers :=
  ⟨by simp [Keyed.Unique,strangers],by decide,by decide,by decide⟩

def detachedRun : List Op :=
  [.bindUserInviterByAffCode 2 "a" false,.applyAffiliateRiskAction 1 9 { detachInvitees := true } 10]

theorem inviters_stay_forest_restored :
    (run step (detachedRun++[.removeAffiliateRiskAction 1 9 true "" 20]) strangers).inviter 2=some 1 ∧
      ∀ u ∈ (run step (detachedRun++[.removeAffiliateRiskAction 1 9 true "" 20]) strangers).users,
        u.affCount=((run step (detachedRun++[.removeAffiliateRiskAction 1 9 true "" 20]) strangers).users.filter
          fun v => decide (v.inviterId=u.id)).length := by
  have hok : Guarded step (fun db op => ¬ ClosesCycle db op)
      (detachedRun++[.removeAffiliateRiskAction 1 9 true "" 20]) strangers := by
    refine And.intro id (And.intro id (And.intro ?_ trivial))
    rintro ⟨risk,-,-,row,hrow,-,hreach⟩
    have hone : (run step detachedRun strangers).inviter 1=some 0 := by decide +kernel
    have hroot : (run step detachedRun strangers).inviter 0=none := by decide +kernel
    have hdetached : ∀ d∈(run step detachedRun strangers).detached, d.inviteeId=2 := by decide +kernel
    have htwo := hdetached row (mem_of_mem_filter hrow)
    obtain he | hreach := reaches_cons hone hreach
    · omega
    have := reaches_of_root hroot hreach
    omega
  exact ⟨by decide +kernel,(inviters_stay_forest strangers_uninvited hok).2⟩

theorem inviters_form_cycle : Uninvited strangers ∧
      Relation.TransGen (fun a b => ∃ u, (run step (detachedRun++[.bindUserInviterByAffCode 1 "b" false,
        .removeAffiliateRiskAction 1 9 true "" 20]) strangers).user? a=some u ∧ u.inviterId=b) 1 1 :=
  ⟨strangers_uninvited, .tail (.single ⟨{ id := 1, affCode := "a", inviterId := 2, affCount := 1 },by decide +kernel,rfl⟩)
      ⟨{ id := 2, affCode := "b", inviterId := 1, affCount := 1 },by decide +kernel,rfl⟩⟩

end NewApi.Affiliate
