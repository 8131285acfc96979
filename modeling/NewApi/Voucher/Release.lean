import NewApi.Voucher.Request

/-! What a request gives back: parts of its reservation by `RefundBenefitVoucherAdditional`, with its test
for a repeated call, and all of it by `RefundBenefitVoucherQuota`. -/
namespace NewApi.Voucher
open List BenefitDB GoStrings

variable {base db db' : BenefitDB} {r : String} {u g mark : Int}

/-- No partial refund of the request on record left more than `mark`. -/
def Remembers (db : BenefitDB) (r : String) (mark : Int) : Prop :=
  ∀ l∈db.ledger, l.requestId=r → ∀ m, l.metadata=some m → m.reservedAfter ≤ mark ∧ (m.lastRefundVector.map (·.2)).sum ≤ mark

theorem Remembers.start (hfresh : ∀ t id, db.row? t r id=none) (mark : Int) : Remembers db r mark := by
  intro l hl hr
  have hnone := hfresh l.type l.voucherId
  rw [BenefitDB.row?,Keyed.lookup_eq_none] at hnone
  exact absurd (by rw [← hr]; rfl) (hnone l hl)

theorem Remembers.mono (h : Remembers db r mark) {mark' : Int} (hle : mark ≤ mark') : Remembers db r mark' :=
  fun l hl hr m hm => ⟨(h l hl hr m hm).1.trans hle,(h l hl hr m hm).2.trans hle⟩

theorem Remembers.updateLedger (h : Remembers db r mark) (k : LedgerKey) {f : BenefitVoucherLedger → BenefitVoucherLedger}
    (hf : ∀ l∈db.ledger, l.requestId=r → ∀ m, (f l).metadata=some m →
      m.reservedAfter ≤ mark ∧ (m.lastRefundVector.map (·.2)).sum ≤ mark)
    (hkey : ∀ l, (f l).key=l.key) : Remembers (db.updateLedger k f) r mark := by
  intro l' hl' hr m hm
  obtain ⟨l,hl,rfl⟩ := Keyed.mem_modify hl'
  have hreq : ∀ l, (f l).requestId=l.requestId := fun l => congrArg (·.2.1) (hkey l)
  split at hm
  next hk =>
    rw [if_pos hk,hreq] at hr
    exact hf l hl hr m hm
  next hk =>
    rw [if_neg hk] at hr
    exact h l hl hr m hm

theorem Remembers.createLedger (h : Remembers db r mark) {l : BenefitVoucherLedger} (hcreate : db.createLedger l=.ok db')
    (hl : ∀ m, l.metadata=some m → m.reservedAfter ≤ mark ∧ (m.lastRefundVector.map (·.2)).sum ≤ mark) : Remembers db' r mark := by
  obtain ⟨-,rfl⟩ := createLedger_ok hcreate
  intro x hx hr m hm
  obtain hx | hx := mem_append.mp hx
  · exact h x hx hr m hm
  rw [mem_singleton] at hx
  exact hl m (hx ▸ hm)

variable {userID amount id : Int} {existing refunds : List BenefitVoucherLedger}

theorem Remembers.reserveVoucher (h : Remembers db r mark) {reserved : Int} {v : BenefitUserVoucher}
    (hok : reserveVoucher r userID existing v reserved db=.ok db') : Remembers db' r mark := by
  have hv : Remembers (db.updateVoucher v.id (·.updates (v.remainingQuota-reserved) 0
      (statusOf (v.remainingQuota-reserved)))) r mark := h
  unfold Voucher.reserveVoucher at hok
  simp only at hok
  split at hok
  · cases hok
    exact hv.updateLedger _ (fun l hl hr m hm => h l hl hr m hm) (fun _ => rfl)
  · exact hv.createLedger hok (by simp)

theorem Remembers.reserveVouchers (vs : List BenefitUserVoucher) :
    ∀ {remaining rest : Int} {first first' : Option BenefitVoucherReservation} {db db' : BenefitDB},
      Remembers db r mark → reserveVouchers r userID existing vs remaining first db=.ok (db',rest,first') →
      Remembers db' r mark := by
  induction vs with
  | nil =>
    intro remaining rest first first' db db' h hok
    cases hok
    exact h
  | cons v vs ih =>
    intro remaining rest first first' db db' h hok
    simp only [Voucher.reserveVouchers] at hok
    split at hok
    · cases hok
      exact h
    · obtain ⟨db1,hround,hrest⟩ := Runs.bind_ok hok
      exact ih (h.reserveVoucher hround) hrest

theorem Remembers.reserve (h : Remembers db r mark) {userID groupID amount now : Int} {res : Option BenefitVoucherReservation}
    (hok : reserveBenefitVoucherQuota db r userID groupID amount now=.ok (db',res)) : Remembers db' r mark := by
  simp only [reserveBenefitVoucherQuota] at hok
  split at hok
  · cases hok
  split at hok
  · cases hok
  split at hok
  · cases hok
  split at hok
  · split at hok
    · cases hok
      exact h
    · cases hok
  split at hok
  · cases hok
    exact h
  split at hok
  · cases hok
  obtain ⟨⟨db1,rest,first⟩,hloop,hfin⟩ := Runs.bind_ok hok
  simp only at hfin
  split at hfin
  · cases hfin
  · cases hfin
    exact h.reserveVouchers _ hloop

theorem sum_refundVector (pres : List BenefitVoucherLedger) :
    ((benefitVoucherRefundVector pres).map (·.2)).sum=sumReserved pres := by
  rw [benefitVoucherRefundVector,map_map]
  rfl

theorem Drawn.not_replayed (h : Drawn base db r u g) (hm : Remembers db r mark) (hlt : mark<taken base db r) (h0 : 0<amount) :
    refundReplayed (db.requestRows r .preConsume) (db.requestRows r .refundAdditional) amount=false := by
  have hsum := h.sumReserved
  cases hpres : db.requestRows r .preConsume with
  | nil => simp [refundReplayed]
  | cons anchor rest =>
    rw [hpres] at hsum
    have hanchor : anchor∈db.ledger ∧ anchor.requestId=r ∧ anchor.type=.preConsume :=
      mem_requestRows.mp (by rw [hpres]; simp)
    have hvector : ¬ ((anchor.metadata.getD {}).lastRefundAmount=amount ∧
        (anchor.metadata.getD {}).lastRefundVector=benefitVoucherRefundVector (anchor::rest)) := by
      rintro ⟨hamount,hvector⟩
      cases hmeta : anchor.metadata with
      | none =>
        rw [hmeta] at hamount
        simp at hamount
        omega
      | some m =>
        rw [hmeta,Option.getD_some] at hvector
        have hle := (hm anchor hanchor.1 hanchor.2.1 m hmeta).2
        rw [hvector,sum_refundVector,hsum] at hle
        omega
    have hsingle : ∀ refund∈db.requestRows r .refundAdditional, ∀ m, refund.metadata=some m → rest=[] →
        m.reservedAfter ≠ -anchor.quotaDelta := by
      intro refund hrefund m hmeta hrest heq
      obtain ⟨hmem,hrid,-⟩ := mem_requestRows.mp hrefund
      have hle := (hm refund hmem hrid m hmeta).1
      rw [hrest] at hsum
      simp [Voucher.sumReserved] at hsum
      omega
    simp only [refundReplayed,Bool.and_eq_false_iff,Bool.or_eq_false_iff,decide_eq_false_iff_not,any_eq_false]
    refine .inr ⟨not_and_or.mp hvector,?_⟩
    cases rest with
    | cons l rest => exact .inl (by simp)
    | nil =>
      refine .inr fun refund hrefund => ?_
      cases hmeta : refund.metadata with
      | none => simp
      | some m => simp [hsingle refund hrefund m hmeta rfl]

variable {pre : BenefitVoucherLedger}

theorem writeRefundAdditional_ok (hfind : refunds.find? (fun refund => decide (refund.voucherId=pre.voucherId)) =
      db.row? .refundAdditional r pre.voucherId) (refunded balanceAfter : Int) {m : CompensationMetadata}
    (hm : m.reservedAfter ≤ mark ∧ (m.lastRefundVector.map (·.2)).sum ≤ mark) (h : Remembers db r mark) :
    ∃ db', writeRefundAdditional r refunds pre refunded balanceAfter true m db=.ok db' ∧
      db'.users=db.users ∧ db'.activities=db.activities ∧ db'.vouchers=db.vouchers ∧
      Edit db db' r pre.voucherId ∧ Remembers db' r mark ∧
      ∀ t, t≠.refundAdditional → db'.row? t r pre.voucherId=db.row? t r pre.voucherId := by
  cases hrow : db.row? .refundAdditional r pre.voucherId with
  | none =>
    set row : BenefitVoucherLedger :=
      { activityId := pre.activityId, voucherId := pre.voucherId, userId := pre.userId, requestId := r,
        type := .refundAdditional, quotaDelta := refunded, balanceAfter := balanceAfter, metadata := some m }
    have hcreate : db.createLedger row=.ok { db with ledger := db.ledger++[row] } := createLedger_of_none hrow
    refine ⟨{ db with ledger := db.ledger++[row] },?_,rfl,rfl,rfl,Edit.createLedger hcreate,
      h.createLedger hcreate (fun m' hm' => ?_),fun t ht => ?_⟩
    · simp only [writeRefundAdditional,hfind,hrow]
      exact hcreate
    · cases hm'
      exact hm
    · exact (row?_createLedger hcreate t).trans (if_neg ht)
  | some refund =>
    obtain ⟨-,hvid,hrid,htype⟩ := row?_key hrow
    have hkey : refund.key=(pre.voucherId,r,.refundAdditional) := by
      rw [BenefitVoucherLedger.key,hvid,hrid,htype]
    set write : BenefitVoucherLedger → BenefitVoucherLedger := fun l =>
      { l with quotaDelta := l.quotaDelta+refunded, balanceAfter := balanceAfter, metadata := some m }
    refine ⟨db.updateLedger (pre.voucherId,r,.refundAdditional) write,?_,rfl,rfl,rfl,
      Edit.updateLedger _ fun _ => rfl,h.updateLedger _ (fun l _ _ m' hm' => ?_) (fun _ => rfl),fun t ht => ?_⟩
    · simp only [writeRefundAdditional,hfind,hrow,hkey,if_true]
      rfl
    · cases hm'
      exact hm
    · have hne : (pre.voucherId,r,t)≠(pre.voucherId,r,LedgerType.refundAdditional) := by simp [ht]
      rw [row?_updateLedger db _ write (fun _ => rfl),if_neg hne]

theorem Drawn.row_le_taken (h : Drawn base db r u g) (hrow : db.row? .preConsume r id=some pre) :
    -pre.quotaDelta≤taken base db r := by
  obtain ⟨v,hv,-,-⟩ := h.held id pre hrow
  have hle := Finset.single_le_sum (f := fun id => rowAmount (db.row? .preConsume r id)) (fun id _ => ?_) (mem_ids hv)
  · rw [hrow,rowAmount_some] at hle
    exact hle
  · cases hx : db.row? .preConsume r id with
    | none => exact Int.le_refl 0
    | some l =>
      obtain ⟨w,-,hheld,-⟩ := h.held id l hx
      have hreserved := hheld.reserved
      rw [rowAmount_some]
      omega

theorem Drawn.refundAdditionalRow (h : Drawn base db r u g) (hm : Remembers db r mark) (hmark : 0 ≤ mark)
    (hrow : db.row? .preConsume r pre.voucherId=some pre)
    (hfind : refunds.find? (fun refund => decide (refund.voucherId=pre.voucherId)) = db.row? .refundAdditional r pre.voucherId)
    (amount : Int) {remaining : Int} (h0 : 0<remaining) (hle : taken base db r-remaining ≤ mark) :
    ∃ db' pre', Voucher.refundAdditionalRow r amount remaining refunds pre db = .ok (db',pre',min (-pre.quotaDelta) remaining) ∧
      Drawn base db' r u g ∧ Remembers db' r mark ∧ Edit db db' r pre.voucherId ∧
      db'.row? .preConsume r pre.voucherId=some pre' ∧ taken base db' r=taken base db r-min (-pre.quotaDelta) remaining ∧
      -pre'.quotaDelta = -pre.quotaDelta-min (-pre.quotaDelta) remaining := by
  obtain ⟨w,hw,hheld,hdrawn⟩ := h.held _ pre hrow
  have hwid : w.id=pre.voucherId := (mem_of_voucher? hw).2
  obtain ⟨-,-,hrid,htype⟩ := row?_key hrow
  have hkey : pre.key=(pre.voucherId,r,.preConsume) := by
    rw [BenefitVoucherLedger.key,hrid,htype]
  have hreserved := hheld.reserved
  have hquota := hheld.quota
  have hleft := hheld.left
  have hrowle := h.row_le_taken hrow
  set refunded := min (-pre.quotaDelta) remaining with hrefunded
  have hamount : (if -pre.quotaDelta>remaining then remaining else -pre.quotaDelta)=refunded := by
    split <;> omega
  set balanceAfter := (drawn w pre).remainingQuota+refunded with hbalance
  have hremaining : (drawn w pre).remainingQuota=w.remainingQuota+pre.quotaDelta := rfl
  set pre' := pre.updates (-(-pre.quotaDelta-refunded)) balanceAfter with hpre'
  have hdelta : pre'.quotaDelta = -(-pre.quotaDelta-refunded) := rfl
  have hheld' : Held base u g w pre' :=
    ⟨hheld.active,hheld.quota,by omega,by omega,hheld.owner,hheld.activity,hheld.group⟩
  have hstatus : statusOf (w.remainingQuota+pre'.quotaDelta)=.active := by
    rw [statusOf,if_neg (by omega)]
  have hput : db.updateVoucher pre.voucherId (·.updates balanceAfter 0 .active)=putVoucher db w pre' := by
    have heq : balanceAfter=w.remainingQuota+pre'.quotaDelta := by omega
    rw [putVoucher,hstatus,hwid,heq]
  -- the voucher and the row first, then the record of the refund
  set db1 := (putVoucher db w pre').updateLedger (pre.voucherId,r,.preConsume)
    (·.updates (-(-pre.quotaDelta-refunded)) balanceAfter) with hdb1
  have hrows := row?_updateLedger (putVoucher db w pre') (pre.voucherId,r,.preConsume)
    (·.updates (-(-pre.quotaDelta-refunded)) balanceAfter) (fun _ => rfl)
  have hm1 : Remembers db1 r mark := by
    have hv : Remembers (putVoucher db w pre') r mark := hm
    exact hv.updateLedger _ (fun l hl hr m hmeta => hm l hl hr m hmeta) (fun _ => rfl)
  have hfind1 : refunds.find? (fun refund => decide (refund.voucherId=pre.voucherId)) =
      db1.row? .refundAdditional r pre.voucherId := by
    rw [hrows,if_neg (by simp)]
    exact hfind
  obtain ⟨db',hwrite,husers,hactivities,hvouchers,hedit,hm',hsame⟩ := writeRefundAdditional_ok hfind1 refunded
    balanceAfter (m := { reservedAfter := -pre.quotaDelta-refunded, requestedAmount := amount,
                         requestedDelta := refunded }) ⟨by simp only; omega,by simp; omega⟩ hm1
  have hself : db'.row? .preConsume r pre.voucherId=some pre' := by
    have hkept : (putVoucher db w pre').row? .preConsume r pre.voucherId=some pre := hrow
    rw [hsame _ (by decide),hrows,if_pos rfl,hkept]
    rfl
  have hfirst : Edit (putVoucher db w pre') db1 r pre.voucherId := Edit.updateLedger _ fun _ => rfl
  have hedit1 : Edit (putVoucher db w pre') db' r pre.voucherId := hfirst.trans hedit
  rw [← hwid] at hedit1 hself hw hrow
  obtain ⟨hdrawn',hedit',-,htaken⟩ := h.put hw hheld' hedit1 husers hactivities hvouchers (fun t ht hta => by
      rw [hwid,hsame t hta,hrows,if_neg (by simp [ht])]
      rfl) hself
  refine ⟨db',pre',?_,hdrawn',hm',hwid ▸ hedit',hwid ▸ hself,?_,by omega⟩
  · have hterm : terminal (drawn w pre).status=false := (live_iff _).mp (live_statusOf _)
    have hvid : (drawn w pre).id=pre.voucherId := hwid
    simp only [Voucher.refundAdditionalRow,hdrawn,hterm,Bool.false_eq_true,if_false,hamount,hvid,hkey,← hbalance,
      hput,← hdb1,hwrite]
    rfl
  · rw [htaken,hrow,rowAmount_some]
    omega

theorem Drawn.refundAdditionalRows (hmark : 0 ≤ mark) (amount : Int) (refunds pres : List BenefitVoucherLedger) :
    ∀ (remaining : Int) {db : BenefitDB}, Drawn base db r u g → Remembers db r mark → 0≤remaining →
      taken base db r-remaining ≤ mark → (pres.map (·.voucherId)).Nodup →
      (∀ pre∈pres, db.row? .preConsume r pre.voucherId=some pre ∧
        refunds.find? (fun refund => decide (refund.voucherId=pre.voucherId)) = db.row? .refundAdditional r pre.voucherId) →
      ∃ db' pres', Voucher.refundAdditionalRows r amount refunds pres remaining db =
          .ok (db',pres',max 0 (remaining-Voucher.sumReserved pres)) ∧ Drawn base db' r u g ∧ Remembers db' r mark ∧
        taken base db' r=taken base db r-(remaining-max 0 (remaining-Voucher.sumReserved pres)) ∧ Voucher.sumReserved pres' =
          Voucher.sumReserved pres-(remaining-max 0 (remaining-Voucher.sumReserved pres)) ∧
        ∀ id, (db.row? .preConsume r id).isSome → (db'.row? .preConsume r id).isSome := by
  induction pres with
  | nil =>
    intro remaining db h hm h0 _ _ _
    refine ⟨db,[],?_,h,hm,?_,?_,fun _ hid => hid⟩
    · simp [Voucher.refundAdditionalRows,Voucher.sumReserved,h0]
    · simp [Voucher.sumReserved,h0]
    · simp [Voucher.sumReserved,h0]
  | cons pre pres ih =>
    intro remaining db h hm h0 hle hnodup hrows
    obtain ⟨hne,hnodup⟩ := Keyed.Unique.cons hnodup
    have hsum : Voucher.sumReserved (pre::pres) = -pre.quotaDelta+Voucher.sumReserved pres := by
      simp [Voucher.sumReserved]
    have hreserved : ∀ l∈pre::pres, 0 ≤ -l.quotaDelta := by
      intro l hl
      obtain ⟨v,-,hheld,-⟩ := h.held _ l (hrows l hl).1
      have := hheld.reserved
      omega
    have hrest : 0≤Voucher.sumReserved pres := sum_nonneg fun x hx => by
      obtain ⟨l,hl,rfl⟩ := mem_map.mp hx
      exact hreserved l (by simp [hl])
    have hfirst := hreserved pre (by simp)
    obtain rfl | hpos : remaining=0 ∨ 0<remaining := by omega
    · have hzero : max 0 (0-Voucher.sumReserved (pre::pres))=0 := by omega
      rw [hzero]
      refine ⟨db,pre::pres,?_,h,hm,by omega,by omega,fun _ hid => hid⟩
      rw [Voucher.refundAdditionalRows,if_pos (Int.le_refl 0)]
    · obtain ⟨hrow,hfind⟩ := hrows pre (by simp)
      obtain ⟨db1,pre',hround,hdrawn1,hm1,hedit,hself,htaken1,hpre'⟩ :=
        h.refundAdditionalRow hm hmark hrow hfind amount hpos hle
      set refunded := min (-pre.quotaDelta) remaining with hrefunded
      obtain ⟨db',pres',hloop,hdrawn',hm',htaken',hsum',hkeep⟩ := ih (remaining-refunded) hdrawn1 hm1 (by omega)
        (by omega) hnodup (fun l hl => by
          rw [hedit.rows _ r _ (by simp [hne l hl]),hedit.rows _ r _ (by simp [hne l hl])]
          exact hrows l (by simp [hl]))
      have hsplit : max 0 (remaining-refunded-Voucher.sumReserved pres) =
          max 0 (remaining-Voucher.sumReserved (pre::pres)) := by omega
      rw [hsplit] at hloop htaken' hsum'
      have hsum1 : Voucher.sumReserved (pre'::pres') = -pre'.quotaDelta+Voucher.sumReserved pres' := by
        simp [Voucher.sumReserved]
      refine ⟨db',pre'::pres',?_,hdrawn',hm',by omega,by omega,fun id hid => hkeep id ?_⟩
      · rw [Voucher.refundAdditionalRows,if_neg (by omega),hround]
        simp only [Except.bind,hloop]
      · by_cases hx : id=pre.voucherId
        · rw [hx,hself]
          rfl
        · rw [hedit.rows _ r id (by simp [hx])]
          exact hid

theorem Drawn.annotate (h : Drawn base db r u g) (hrow : db.row? .preConsume r id=some pre) (m : CompensationMetadata) :
    Drawn base (db.updateLedger (id,r,.preConsume) fun l => { l with metadata := some m }) r u g ∧
      taken base (db.updateLedger (id,r,.preConsume) fun l => { l with metadata := some m }) r=taken base db r := by
  obtain ⟨v,hv,hheld,hdrawn⟩ := h.held id pre hrow
  set annotated : BenefitVoucherLedger → BenefitVoucherLedger := fun l => { l with metadata := some m }
  have hrows := row?_updateLedger db (id,r,.preConsume) annotated (fun _ => rfl)
  have hedit : Edit db (db.updateLedger (id,r,.preConsume) annotated) r id := Edit.updateLedger _ fun _ => rfl
  have hself : (db.updateLedger (id,r,.preConsume) annotated).row? .preConsume r id=some (annotated pre) := by
    rw [hrows,if_pos rfl,hrow]
    rfl
  refine ⟨h.edit hedit rfl rfl rfl (fun _ _ => rfl) (fun t ht _ => ?_) hself hv ?_ hdrawn,?_⟩
  · rw [hrows,if_neg (by simp [ht])]
  · exact ⟨hheld.active,hheld.quota,hheld.reserved,hheld.left,hheld.owner,hheld.activity,hheld.group⟩
  have hsame : (annotated pre).quotaDelta=pre.quotaDelta := rfl
  rw [taken_edit hedit hv,hself,hrow,rowAmount_some,rowAmount_some,hsame]
  omega

theorem Drawn.release (h : Drawn base db r u g) (hname : isBlank r=false) (hm : Remembers db r mark)
    (hmark : 0 ≤ mark) (h0 : 0<amount) (hle : amount≤taken base db r) (hrest : taken base db r-amount ≤ mark)
    (hno : refundReplayed (db.requestRows r .preConsume) (db.requestRows r .refundAdditional) amount=false) :
    ∃ db', refundBenefitVoucherAdditional db r amount=.ok db' ∧ Drawn base db' r u g ∧ Remembers db' r mark ∧
      taken base db' r=taken base db r-amount := by
  have hsum := h.sumReserved
  cases hpres : db.requestRows r .preConsume with
  | nil =>
    rw [hpres] at hsum
    simp [Voucher.sumReserved] at hsum
    omega
  | cons anchor rest =>
    have hreverse : Voucher.sumReserved (db.requestRows r .preConsume).reverse=taken base db r := by
      rw [← hsum,Voucher.sumReserved,Voucher.sumReserved,map_reverse,sum_reverse]
    obtain ⟨db1,pres',hloop,hdrawn1,hm1,htaken1,hsum1,hkeep⟩ := Drawn.refundAdditionalRows hmark amount
      (db.requestRows r .refundAdditional) (db.requestRows r .preConsume).reverse amount h hm h0.le hrest
      (by
        rw [map_reverse,nodup_reverse]
        exact nodup_requestRows h.ledger r .preConsume)
      (fun pre hpre => ⟨row?_of_mem_requestRows h.ledger (mem_reverse.mp hpre),find?_requestRows db r _ _⟩)
    rw [hreverse] at hloop htaken1 hsum1
    have hzero : max 0 (amount-taken base db r)=0 := by omega
    rw [hzero] at hloop htaken1 hsum1
    have hanchor : anchor∈db.requestRows r .preConsume := by simp [hpres]
    obtain ⟨hmem,hrid,htype⟩ := mem_requestRows.mp hanchor
    have hkey : anchor.key=(anchor.voucherId,r,.preConsume) := by
      rw [BenefitVoucherLedger.key,hrid,htype]
    obtain ⟨row,hrow⟩ := Option.isSome_iff_exists.mp (hkeep anchor.voucherId (by
      rw [row?_of_mem_requestRows h.ledger hanchor]
      rfl))
    set m : CompensationMetadata := { anchor.metadata.getD {} with
      lastRefundAmount := amount, lastRefundVector := benefitVoucherRefundVector pres'.reverse }
    have hm' : m.reservedAfter ≤ mark ∧ (m.lastRefundVector.map (·.2)).sum ≤ mark := by
      constructor
      · cases hmeta : anchor.metadata with
        | none => simpa [m,hmeta] using hmark
        | some old => simpa [m,hmeta] using (hm anchor hmem hrid old hmeta).1
      · have hvector : Voucher.sumReserved pres'.reverse=Voucher.sumReserved pres' := by
          rw [Voucher.sumReserved,map_reverse,sum_reverse,Voucher.sumReserved]
        rw [sum_refundVector,hvector]
        omega
    obtain ⟨hdrawn',htaken'⟩ := hdrawn1.annotate hrow m
    refine ⟨_,?_,hdrawn',hm1.updateLedger _ (fun l _ _ m1 hl => ?_) (fun _ => rfl),by omega⟩
    · have hparams : ¬ (isBlank r=true ∨ amount≤0) := by
        rw [hname]
        simp
        omega
      simp only [refundBenefitVoucherAdditional,if_neg hparams,hno,Bool.false_eq_true,if_false,hloop,Except.bind]
      simp only [hpres,hkey]
      rw [if_neg (by omega)]
    · cases hl
      exact hm'

theorem Drawn.replayed (h : Drawn base db r u g) (hname : isBlank r=false) (hpos : 0<taken base db r) (h0 : 0<amount)
    (hyes : refundReplayed (db.requestRows r .preConsume) (db.requestRows r .refundAdditional) amount=true) :
    refundBenefitVoucherAdditional db r amount=.ok db := by
  have hsum := h.sumReserved
  have hparams : ¬ (isBlank r=true ∨ amount≤0) := by
    rw [hname]
    simp
    omega
  simp only [refundBenefitVoucherAdditional,if_neg hparams,hyes,if_true]
  split
  next hpres =>
    rw [hpres] at hsum
    simp [Voucher.sumReserved] at hsum
    omega
  · rfl

def remaining? (db : BenefitDB) (id : Int) : Option Int := (db.voucher? id).map (·.remainingQuota)

theorem Drawn.remaining_of_taken (h : Drawn base db r u g) (hz : taken base db r=0) (id : Int) :
    remaining? db id=remaining? base id := by
  rw [remaining?,remaining?]
  cases hrow : db.row? .preConsume r id with
  | none => rw [h.free id hrow]
  | some pre =>
    obtain ⟨v,hv,hheld,hdrawn⟩ := h.held id pre hrow
    have hle := h.row_le_taken hrow
    have hreserved := hheld.reserved
    rw [hv,hdrawn]
    simp only [drawn,BenefitUserVoucher.updates,Option.map_some,Option.some.injEq]
    omega

theorem Drawn.remaining_ne (h : Drawn base db r u g) (hpos : 0<taken base db r) :
    ¬ ∀ id, remaining? db id=remaining? base id := by
  intro hall
  have hbalance := h.balance
  have hsame : Voucher.balance db=Voucher.balance base := by
    rw [balance_eq h.vouchers,balance_eq h.unique,h.ids]
    exact Finset.sum_congr rfl fun id _ => congrArg (·.getD 0) (hall id)
  omega

theorem refundRows_ok (pres : List BenefitVoucherLedger) : ∀ {db : BenefitDB}, (pres.map (·.voucherId)).Nodup →
      (∀ pre∈pres, (∃ v, db.voucher? pre.voucherId=some v ∧ terminal v.status=false) ∧ db.row? .refund r pre.voucherId=none) →
      ∃ db', refundRows r pres db=.ok db' ∧ (∀ id, (∀ pre∈pres, pre.voucherId≠id) → db'.voucher? id=db.voucher? id) ∧
        ∀ pre∈pres, remaining? db' pre.voucherId=(remaining? db pre.voucherId).map (· - pre.quotaDelta) := by
  induction pres with
  | nil =>
    intro db _ _
    exact ⟨db,rfl,fun _ _ => rfl,by simp⟩
  | cons pre pres ih =>
    intro db hnodup hrows
    obtain ⟨hne,hnodup⟩ := Keyed.Unique.cons hnodup
    obtain ⟨⟨v,hv,hterm⟩,hfresh⟩ := hrows pre (by simp)
    have hid : v.id=pre.voucherId := (mem_of_voucher? hv).2
    set status : VoucherStatus := if v.usedQuota>0 ∧ v.remainingQuota + -pre.quotaDelta=0 then .exhausted else .active
      with hstatus
    set row : BenefitVoucherLedger :=
      { activityId := pre.activityId, voucherId := pre.voucherId, userId := pre.userId, requestId := r,
        type := .refund, quotaDelta := -pre.quotaDelta, balanceAfter := v.remainingQuota + -pre.quotaDelta } with hrow
    set db1 := db.updateVoucher v.id (·.updates (v.remainingQuota + -pre.quotaDelta) 0 status) with hdb1
    have hcreate : db1.createLedger row=.ok { db1 with ledger := db1.ledger++[row] } := createLedger_of_none hfresh
    have hround : refundRow r pre db=.ok { db1 with ledger := db1.ledger++[row] } := by
      simp only [refundRow,hv,hterm,Bool.false_eq_true,if_false,← hstatus,← hdb1]
      exact hcreate
    have hvoucher : ∀ x, ({ db1 with ledger := db1.ledger++[row] } : BenefitDB).voucher? x =
        if x=pre.voucherId then (db.voucher? pre.voucherId).map
          (·.updates (v.remainingQuota + -pre.quotaDelta) 0 status) else db.voucher? x := by
      intro x
      rw [← hid]
      exact voucher?_updateVoucher db v.id x _ _ _
    obtain ⟨db',hloop,hothers,hall⟩ := @ih { db1 with ledger := db1.ledger++[row] } hnodup (fun l hl => by
      have hl' := hrows l (by simp [hl])
      have hcell : (r,l.voucherId)≠(row.requestId,row.voucherId) := by simp [hrow,hne l hl]
      refine ⟨?_,?_⟩
      · rw [hvoucher,if_neg (hne l hl)]
        exact hl'.1
      · exact ((Edit.createLedger hcreate).rows _ r _ hcell).trans hl'.2)
    refine ⟨db',?_,fun id hnot => ?_,fun l hl => ?_⟩
    · rw [refundRows,hround]
      exact hloop
    · rw [hothers id fun l hl => hnot l (by simp [hl]),hvoucher,if_neg (Ne.symm (hnot pre (by simp)))]
    · obtain rfl | hl := mem_cons.mp hl
      · rw [remaining?,hothers _ hne,hvoucher,if_pos rfl,hv,remaining?,hv]
        simp only [Option.map_some,BenefitUserVoucher.updates,Option.some.injEq]
        omega
      · rw [hall l hl,remaining?,hvoucher,if_neg (hne l hl)]
        rfl

theorem Drawn.refundAll (h : Drawn base db r u g) (hname : isBlank r=false) :
    ∃ db', refundBenefitVoucherQuota db r=.ok db' ∧ ∀ id, remaining? db' id=remaining? base id := by
  have hsettle : db.requestRows r .settleDelta=[] := requestRows_nil.mpr fun v => (h.opened v).settle
  have hrefund : db.requestRows r .refund=[] := requestRows_nil.mpr fun v => (h.opened v).refund
  obtain ⟨db',hloop,hothers,hall⟩ := @refundRows_ok r (db.requestRows r .preConsume) db
    (nodup_requestRows h.ledger r .preConsume) (fun pre hpre => by
      obtain ⟨v,-,-,hdrawn⟩ := h.held _ pre (row?_of_mem_requestRows h.ledger hpre)
      exact ⟨⟨_,hdrawn,(live_iff _).mp (live_statusOf _)⟩,(h.opened _).refund⟩)
  have hrestored : ∀ id, remaining? db' id=remaining? base id := by
    intro id
    cases hrow : db.row? .preConsume r id with
    | none =>
      rw [remaining?,hothers id fun pre hpre heq => ?_,h.free id hrow,remaining?]
      rw [← heq,row?_of_mem_requestRows h.ledger hpre] at hrow
      cases hrow
    | some pre =>
      obtain ⟨v,hv,-,hdrawn⟩ := h.held id pre hrow
      have hid : pre.voucherId=id := (row?_key hrow).2.1
      rw [← hid,hall pre (requestRows_of_row? hrow),hid,remaining?,remaining?,hdrawn,hv]
      simp only [Option.map_some,drawn,BenefitUserVoucher.updates,Option.some.injEq]
      omega
  by_cases hpres : db.requestRows r .preConsume=[]
  · rw [hpres] at hloop
    cases hloop
    refine ⟨db,?_,hrestored⟩
    simp [refundBenefitVoucherQuota,hname,hpres]
  · refine ⟨db',?_,hrestored⟩
    simp only [refundBenefitVoucherQuota,hname,Bool.false_eq_true,if_false,hpres,hrefund,hsettle,ne_eq,
      not_true_eq_false,or_self,length_nil,Nat.lt_irrefl,false_and,gt_iff_lt]
    exact hloop

end NewApi.Voucher
