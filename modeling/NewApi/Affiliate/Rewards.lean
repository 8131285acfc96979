import NewApi.Affiliate.Model

/-! Rewards for a payment: `CreateAffiliateRewardsForPaymentTx` gives the inviter of the payer a first level
reward and the inviter's inviter a second level one. -/
namespace NewApi.Affiliate
open List Runs GoStrings

structure AffiliateSetting where
  triggerTopupEnabled : Bool := true
  triggerSubscriptionEnabled : Bool := true
  filterRedemptionTopupEnabled : Bool := false
  firstLevelEnabled : Bool := true
  firstLevelRatio : Int := 10
  secondLevelEnabled : Bool := false
  secondLevelRatio : Int := 0
  settlementDelay : Int := 0

/-- What a call reads beside the tables: `canInvite` and `inviteeEligible` are the answers of
`queryAffiliateUserCanInviteForUpdateWithDB` and `checkInviteeEligibility`. -/
structure RewardReads where
  setting : AffiliateSetting := {}
  canInvite : Int → Bool := fun _ => true
  inviteeEligible : Bool := true
  now : Int := 0

def isAffiliateSourceEnabled (setting : AffiliateSetting) : SourceType → Bool
  | .topup => setting.triggerTopupEnabled
  | .subscription => setting.triggerSubscriptionEnabled
  | .redemption => setting.triggerTopupEnabled && !setting.filterRedemptionTopupEnabled

def createAffiliateRewardsForPaymentTx (reads : RewardReads) (db : AffiliateDB) (inviteeId : Int)
    (sourceType : SourceType) (sourceId : String) (sourceQuota : Int) : Except AffiliateError AffiliateDB :=
  let sourceId := trimSpace sourceId
  if inviteeId≤0 ∨ sourceId="" ∨ sourceQuota≤0 then .ok db
  else if isAffiliateSourceEnabled reads.setting sourceType=false then .ok db else
  match db.user? inviteeId with
  | none => .error .recordNotFound
  | some invitee =>
    if invitee.inviterId≤0 then .ok db else
    match db.user? invitee.inviterId with
    | none => .error .recordNotFound
    | some parent =>
      if reads.canInvite parent.id=false then .ok db
      else if reads.inviteeEligible=false then .ok db else
      (if reads.setting.firstLevelEnabled ∧ reads.setting.firstLevelRatio>0 then
        createAffiliateRewardRecordTx db parent.id inviteeId 1 sourceType sourceId sourceQuota
          reads.setting.firstLevelRatio reads.now reads.setting.settlementDelay
      else .ok db).bind fun db =>
      if reads.setting.secondLevelEnabled=false ∨ reads.setting.secondLevelRatio≤0 then .ok db
      else if parent.inviterId≤0 then .ok db
      else if reads.canInvite parent.inviterId=false then .ok db else
      createAffiliateRewardRecordTx db parent.inviterId inviteeId 2 sourceType sourceId sourceQuota
        reads.setting.secondLevelRatio reads.now reads.setting.settlementDelay

section Effects
variable {db db' db'' : AffiliateDB}

def User.wallet (u : User) : Int×Int := (u.id,u.quota)

structure Rewarded (db : AffiliateDB) (added : List AffiliateRecord) (db' : AffiliateDB) : Prop where
  records : db'.records=db.records++added
  wallets : db'.users.map User.wallet=db.users.map User.wallet

theorem Rewarded.refl (db : AffiliateDB) : Rewarded db [] db := ⟨(append_nil _).symm,rfl⟩

theorem Rewarded.trans {added more : List AffiliateRecord} (h : Rewarded db added db') (h' : Rewarded db' more db'') :
    Rewarded db (added++more) db'' :=
  ⟨by rw [h'.records,h.records,append_assoc],h'.wallets.trans h.wallets⟩

theorem rewarded_save (db : AffiliateDB) (b : AffiliateBalance) : Rewarded db [] (saveAffiliateBalanceTx db b) :=
  ⟨(append_nil _).symm,Keyed.map_modify User.id b.userId db.users fun _ => rfl⟩

theorem getBalance_rewarded (db : AffiliateDB) (u : Int) :
    Ensures (fun p => Rewarded db [] p.1) (fun _ => True) (getAffiliateBalanceForUpdateTx db u) :=
  getBalance_ensures (Rewarded.refl db) u (fun _ => ⟨(append_nil _).symm,rfl⟩) fun t b ht => ht.trans (rewarded_save t b)

theorem createReward_rewarded (db : AffiliateDB) (userId inviteeId level : Int) (sourceType : SourceType)
    (sourceId : String) (sourceQuota ratio now delay : Int) :
    Ensures (fun db' => ∃ added : List AffiliateRecord, Rewarded db added db' ∧ added.length≤1 ∧
        ∀ r∈added, r.sourceType=sourceType ∧ r.sourceId=sourceId ∧ r.level=level) (fun _ => True)
      (createAffiliateRewardRecordTx db userId inviteeId level sourceType sourceId sourceQuota ratio now delay) := by
  have hnone : ∃ added : List AffiliateRecord, Rewarded db added db ∧ added.length≤1 ∧
      ∀ r∈added, r.sourceType=sourceType ∧ r.sourceId=sourceId ∧ r.level=level :=
    ⟨[],Rewarded.refl db,Nat.zero_le _,fun r hr => absurd hr not_mem_nil⟩
  unfold createAffiliateRewardRecordTx
  refine Ensures.ite (fun _ => hnone) fun _ => Ensures.guard trivial fun _ => ?_
  refine Ensures.ite (fun _ => hnone) fun _ => Ensures.ite (fun _ => hnone) fun _ => ?_
  refine (getBalance_rewarded db userId).bind fun p hp => ?_
  refine ⟨[_],(hp.trans (⟨rfl,rfl⟩ : Rewarded p.1 [_] { p.1 with records := p.1.records++[_] })).trans
    (rewarded_save _ _),le_rfl,fun r hr => ?_⟩
  rw [mem_singleton.mp hr]
  exact ⟨rfl,rfl,rfl⟩

abbrev RewardedFor (sourceType : SourceType) (sourceId : String) (db db' : AffiliateDB) : Prop :=
  ∃ added : List AffiliateRecord, Rewarded db added db' ∧ (∀ level, (added.filter fun r => decide (r.level=level)).length≤1) ∧
    ∀ r∈added, r.sourceType=sourceType ∧ r.sourceId=trimSpace sourceId

theorem paymentRewards_effect (reads : RewardReads) (db : AffiliateDB) (inviteeId : Int) (sourceType : SourceType)
    (sourceId : String) (sourceQuota : Int) : Ensures (RewardedFor sourceType sourceId db) (fun _ => True)
      (createAffiliateRewardsForPaymentTx reads db inviteeId sourceType sourceId sourceQuota) := by
  have hnone : RewardedFor sourceType sourceId db db :=
    ⟨[],Rewarded.refl db,fun _ => Nat.zero_le _,fun r hr => absurd hr not_mem_nil⟩
  unfold createAffiliateRewardsForPaymentTx
  refine Ensures.ite (fun _ => hnone) fun _ => Ensures.ite (fun _ => hnone) fun _ => ?_
  cases db.user? inviteeId with
  | none => trivial
  | some invitee =>
    refine Ensures.ite (fun _ => hnone) fun _ => ?_
    cases db.user? invitee.inviterId with
    | none => trivial
    | some parent =>
      refine Ensures.ite (fun _ => hnone) fun _ => Ensures.ite (fun _ => hnone) fun _ => ?_
      refine Ensures.bind (P := fun t => ∃ added : List AffiliateRecord, Rewarded db added t ∧ added.length≤1 ∧
        ∀ r∈added, r.sourceType=sourceType ∧ r.sourceId=trimSpace sourceId ∧ r.level=1) ?_ fun t ht => ?_
      · refine Ensures.ite (fun _ => createReward_rewarded db parent.id inviteeId 1 _ _ _ _ _ _) fun _ => ?_
        exact ⟨[],Rewarded.refl db,Nat.zero_le _,fun r hr => absurd hr not_mem_nil⟩
      obtain ⟨added,hr,hlen,hadded⟩ := ht
      have hlevel : ∀ level, (added.filter fun r => decide (r.level=level)).length≤1 :=
        fun level => (length_filter_le _ _).trans hlen
      have hfirst : RewardedFor sourceType sourceId db t :=
        ⟨added,hr,hlevel,fun r hm => ⟨(hadded r hm).1,(hadded r hm).2.1⟩⟩
      refine Ensures.ite (fun _ => hfirst) fun _ => Ensures.ite (fun _ => hfirst) fun _ => ?_
      refine Ensures.ite (fun _ => hfirst) fun _ => ?_
      refine (createReward_rewarded t parent.inviterId inviteeId 2 _ _ _ _ _ _).mono fun db' he => ?_
      obtain ⟨more,hr',hlen',hmore⟩ := he
      refine ⟨added++more,hr.trans hr',fun level => ?_,fun r hm => ?_⟩
      · rw [filter_append,length_append]
        -- the two levels differ, so one of the parts is empty
        by_cases hone : level=1
        · have hnil : more.filter (fun r => decide (r.level=level))=[] := by
            rw [filter_eq_nil_iff]
            intro r hm hc
            have hl := (hmore r hm).2.2
            rw [decide_eq_true_eq] at hc
            omega
          rw [hnil]
          exact hlevel level
        · have hnil : added.filter (fun r => decide (r.level=level))=[] := by
            rw [filter_eq_nil_iff]
            intro r hm hc
            have hl := (hadded r hm).2.2
            rw [decide_eq_true_eq] at hc
            omega
          rw [hnil,length_nil,Nat.zero_add]
          exact (length_filter_le _ _).trans hlen'
      · obtain hm | hm := mem_append.mp hm
        · exact ⟨(hadded r hm).1,(hadded r hm).2.1⟩
        · exact ⟨(hmore r hm).1,(hmore r hm).2.1⟩

end Effects

end NewApi.Affiliate
