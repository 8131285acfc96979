import NewApi.Filter.Masking
import NewApi.Filter.Prechecks

/-! The stream buffer across the attempts of a request (`controller/relay.go`). It lives in the request context with the
rules of the channel that created it, and is dropped between two attempts only after a capacity error. -/
namespace NewApi.Filter

open Option List GoStrings

structure NewAPIError where
  errorCode : String := ""
  message : String := ""
  statusCode : Int := 500
  originalStatusCode : Int := 0
  skipRetry : Bool := false
  upstreamCapacityClassification : Bool := false

def upstreamCapacityErrorCodes : List String :=
  ["account_pool_capacity_exhausted", "capacity_exhausted", "model_at_capacity", "model_capacity_exhausted",
    "model_overloaded", "upstream_capacity_exhausted"]

def isUpstreamCapacityError (err : NewAPIError) : Bool :=
  err.upstreamCapacityClassification && (toLower (trimSpace err.errorCode)∈upstreamCapacityErrorCodes ||
      ["selected model is at capacity", "model is at capacity", "model capacity is exhausted",
        "model capacity has been exhausted", "account pool capacity exhausted", "rate limit exceeded",
        "rate limited"].any (contains (toLower (trimSpace err.message))))

def isChannelError (err : NewAPIError) : Bool := hasPrefix err.errorCode "channel:"

def shouldMatchStatusCodeRanges (code : Int) : List (Int×Int) → Bool
  | [] => false
  | (start,stop)::rest =>
    if code<start then false else if code ≤ stop then true else shouldMatchStatusCodeRanges code rest

def shouldRetryByStatusCode (ranges : List (Int×Int)) (code : Int) : Bool :=
  !(code=504 || code=524) && 100≤code && code≤599 && shouldMatchStatusCodeRanges code ranges

structure RetryContext where
  ended : Bool := false
  written : Bool := false
  specificChannel : Bool := false
  affinitySkipsRetry : Bool := false

def shouldRetry (ranges : List (Int×Int)) (c : RetryContext) (err : NewAPIError) (retryTimes : Int) : Bool :=
  let capacityError := isUpstreamCapacityError err
  let retryStatusCode := if err.originalStatusCode≠0 then err.originalStatusCode else err.statusCode
  let validStatusCode := decide (100≤retryStatusCode) && decide (retryStatusCode≤599)
  let configuredRetry := validStatusCode && shouldRetryByStatusCode ranges retryStatusCode
  if c.ended then false
  else if c.written then false
  else if c.specificChannel then false
  else if err.skipRetry then false
  else if !capacityError && err.errorCode="bad_response_body" then false
  else if !capacityError && !configuredRetry && c.affinitySkipsRetry then false
  else if retryTimes≤0 then false
  else if capacityError then true
  else if isChannelError err then true
  else if 200≤retryStatusCode && retryStatusCode<300 then false
  else if !validStatusCode then true
  else configuredRetry

/-- What the stream filter reads, and the status codes that are retried. -/
structure StreamSettings extends PassSettings where
  retryRanges : List (Int×Int)

section Send
variable (p : StreamSettings) (c : RouteContext) (buffer : Option StreamDelayBuffer)

/-- The filter that `getOrCreateSensitiveStreamDelayBuffer` makes for the channel in the context. -/
def responseFilter : Option SensitiveTextFilter :=
  if !p.policy.checkEnabled then none
  else if (selectSensitiveRulesForSelectedRoute p.db c p.lower (p.policy.getEffectiveSensitiveRules p.lower)
      p.policy).isEmpty then none
  else
    let filter := newRulesFilter p.lower p.groupKeywords (selectSensitiveRulesForSelectedRoute p.db c p.lower
      (p.policy.getEffectiveSensitiveRulesByScope p.lower "response") p.policy)
    if filter.empty then none else some filter

def getOrCreateBuffer : Option StreamDelayBuffer :=
  match buffer with
  | some b => some b
  | none => (responseFilter p c).map fun filter => { filter := filter }

def StreamItem.isDone (item : StreamItem) : Bool :=
  match item.data with
  | .plain text => trimSpace text="[DONE]"
  | _ => false

def applyStreamBatch (items : List StreamItem) :
    Option StreamDelayBuffer×Option StreamResult :=
  if items.isEmpty then (buffer,some {})
  else if items.length=1 && items.all StreamItem.isDone then (buffer,some { items := items })
  else match getOrCreateBuffer p c buffer with
    | none => (none,some { items := items })
    | some b => match b.pushBatch p.lower items with
      | none => (some b,none)
      | some (b,result) => (some b,some result)

def flushStream : Option StreamDelayBuffer×Option StreamResult :=
  match buffer with
  | none => (none,some {})
  | some b => (some (b.flush p.lower).1,some (b.flush p.lower).2)

def streamCall : StreamEvent → Option StreamDelayBuffer×Option StreamResult
  | .push items => applyStreamBatch p c buffer items
  | .flush => flushStream p buffer

def streamCalls : Option StreamDelayBuffer → List StreamEvent → Option StreamDelayBuffer×List StreamItem
  | buffer, [] => (buffer,[])
  | buffer, call::rest =>
    let out := streamCall p c buffer call
    let later := streamCalls out.1 rest
    (later.1,(out.2.map (·.items)).getD []++later.2)

end Send

structure Attempt where
  route : RouteContext
  calls : List StreamEvent
  error : Option NewAPIError
  retry : RetryContext := {}

structure RetryLoop where
  buffer : Option StreamDelayBuffer := none
  remaining : Int
  stopped : Bool := false

section Loop
variable (p : StreamSettings)

def retryPlanned (s : RetryLoop) (a : Attempt) : Bool :=
  a.error.any fun err => shouldRetry p.retryRanges a.retry err s.remaining

def attemptStep (s : RetryLoop) (a : Attempt) : RetryLoop :=
  if s.stopped then s
  else
    let out := streamCalls p a.route s.buffer a.calls
    if !retryPlanned p s a then { s with buffer := out.1, stopped := true }
    else { s with
      buffer := if a.error.any isUpstreamCapacityError then none else out.1
      remaining := s.remaining-1 }

def attemptEmits (s : RetryLoop) (a : Attempt) : List (Attempt×List StreamItem) :=
  if s.stopped then [] else [(a,(streamCalls p a.route s.buffer a.calls).2)]

def relayEmits (maxRetries : Int) (attempts : List Attempt) : List (Attempt×List StreamItem) :=
  Runs.events (attemptStep p) (attemptEmits p) attempts { remaining := maxRetries }

end Loop

section Alone
variable {lower : Char → Char} {b : StreamDelayBuffer}

def bufferedItems (lower : Char → Char) : StreamDelayBuffer → List StreamEvent → List StreamItem
  | _, [] => []
  | b, .push items::rest =>
    if items.isEmpty then bufferedItems lower b rest
    else if items.length=1 && items.all StreamItem.isDone then items++bufferedItems lower b rest
    else match b.pushBatch lower items with
      | none => bufferedItems lower b rest
      | some (b',result) => result.items++bufferedItems lower b' rest
  | b, .flush::rest => (b.flush lower).2.items++bufferedItems lower (b.flush lower).1 rest

def filteredItems (lower : Char → Char) (filter : Option SensitiveTextFilter) (calls : List StreamEvent) : List StreamItem :=
  match filter with
  | none => calls.flatMap (·.items)
  | some filter => bufferedItems lower { filter := filter } calls

theorem filteredItems_none (calls : List StreamEvent) : filteredItems lower none calls=calls.flatMap (·.items) := rfl

theorem filteredItems_some (filter : SensitiveTextFilter) (calls : List StreamEvent) :
    filteredItems lower (some filter) calls=bufferedItems lower { filter := filter } calls := rfl

variable {p : StreamSettings} {c : RouteContext} (calls : List StreamEvent)

theorem streamCalls_some : (streamCalls p c (some b) calls).2=bufferedItems p.lower b calls := by
  induction calls generalizing b with
  | nil => rfl
  | cons call rest ih =>
    cases call with
    | push items =>
      unfold streamCalls streamCall applyStreamBatch bufferedItems
      dsimp only
      split
      · exact ih
      split
      · rw [← ih]
        rfl
      · unfold getOrCreateBuffer
        dsimp only
        cases hpush : b.pushBatch p.lower items with
        | none => exact ih
        | some out =>
          obtain ⟨b',result⟩ := out
          dsimp only
          rw [← ih]
          rfl
    | flush =>
      unfold streamCalls streamCall flushStream bufferedItems
      dsimp only
      rw [← ih]
      rfl

theorem streamCalls_none :
    (streamCalls p c none calls).2=filteredItems p.lower (responseFilter p c) calls := by
  induction calls with
  | nil => cases responseFilter p c <;> rfl
  | cons call rest ih =>
    cases hfilter : responseFilter p c with
    | none =>
      rw [hfilter,filteredItems_none] at ih
      rw [filteredItems_none,flatMap_cons,← ih]
      cases call with
      | push items =>
        rw [streamCalls]
        unfold streamCall applyStreamBatch
        dsimp only
        split
        next hempty =>
          rw [List.isEmpty_iff.mp hempty]
          rfl
        · split
          · rfl
          unfold getOrCreateBuffer
          dsimp only
          rw [hfilter]
          rfl
      | flush => rfl
    | some filter =>
      rw [hfilter,filteredItems_some] at ih
      rw [filteredItems_some]
      cases call with
      | push items =>
        rw [streamCalls,bufferedItems]
        unfold streamCall applyStreamBatch
        dsimp only
        split
        · exact ih
        split
        · rw [← ih]
          rfl
        · unfold getOrCreateBuffer
          dsimp only
          rw [hfilter,map_some]
          dsimp only
          cases hpush : ({ filter := filter } : StreamDelayBuffer).pushBatch p.lower items with
          | none => exact streamCalls_some rest
          | some out =>
            obtain ⟨b',result⟩ := out
            dsimp only
            rw [streamCalls_some]
            rfl
      | flush => exact ih

theorem derived_of_forall₂ {pushed sent : List StreamItem} (h : List.Forall₂ Derived pushed sent) {item : StreamItem}
    (hitem : item∈sent) : ∃ source∈pushed, Derived source item := by
  induction h with
  | nil => cases hitem
  | cons hd _ ih =>
    obtain rfl | hitem := mem_cons.mp hitem
    · exact ⟨_,mem_cons_self,hd⟩
    obtain ⟨source,hsource,hderived⟩ := ih hitem
    exact ⟨source,mem_cons_of_mem _ hsource,hderived⟩

theorem evaluate_sources (hcoherent : Coherent b.queue) (endKnown : Bool) :
    (∀ item∈(b.evaluate lower endKnown).2.items, ∃ source∈b.queue.map (·.item), Derived source item) ∧
      ∀ chunk∈(b.evaluate lower endKnown).1.queue, chunk∈b.queue := by
  unfold StreamDelayBuffer.evaluate
  split
  · exact ⟨fun item hitem => absurd hitem not_mem_nil,fun chunk hchunk => hchunk⟩
  dsimp only
  split
  · exact ⟨fun item hitem => absurd hitem not_mem_nil,fun chunk hchunk => absurd hchunk not_mem_nil⟩
  refine ⟨fun item hitem => ?_,fun chunk hchunk => mem_of_mem_drop hchunk⟩
  have hready : Coherent (b.queue.take (b.holdIndex lower endKnown)) :=
    fun chunk hchunk => hcoherent chunk (mem_of_mem_take hchunk)
  have hspec := (@rewriteStreamChunks_spec _ 0 _ (@readyRanges_separated lower b endKnown) hready
    b.historyTail.length).1
  obtain ⟨source,hsource,hderived⟩ := derived_of_forall₂ hspec hitem
  obtain ⟨chunk,hchunk,rfl⟩ := mem_map.mp hsource
  exact ⟨_,mem_map_of_mem (mem_of_mem_take hchunk),hderived⟩

theorem sound_of_batchChunks {items : List StreamItem} {chunks : List StreamChunk} (h : batchChunks items=some chunks) :
    (StreamEvent.push items).Sound := by
  obtain ⟨parsed,hparsed,-⟩ := map_eq_some_iff.mp h
  clear h
  induction items generalizing parsed with
  | nil =>
    intro item hitem
    cases hitem
  | cons first items ih =>
    simp only [mapM_cons,bind_eq_bind,bind_eq_some_iff] at hparsed
    obtain ⟨chunk,hchunk,later,hlater,-⟩ := hparsed
    intro item hitem text hdata
    obtain rfl | hitem := mem_cons.mp hitem
    · rw [newSensitiveStreamChunk,hdata] at hchunk
      cases hchunk
    · exact ih later hlater item hitem text hdata

theorem pushBatch_sources (hcoherent : Coherent b.queue) {items : List StreamItem} {b' : StreamDelayBuffer}
    {result : StreamResult} (h : b.pushBatch lower items=some (b',result)) : Coherent b'.queue ∧
      (∀ item∈result.items, ∃ source∈b.queue.map (·.item)++items, Derived source item) ∧
      ∀ chunk∈b'.queue, chunk.item∈b.queue.map (·.item)++items := by
  obtain ⟨chunks,hchunks,hout⟩ := map_eq_some_iff.mp h
  have hsound := sound_of_batchChunks hchunks
  have hload : (b',result)=((StreamEvent.push items).load b).evaluate lower false := by
    rw [← hout]
    unfold StreamEvent.load
    dsimp only
    rw [hchunks]
    rfl
  have hloaded := hcoherent.load hsound
  obtain ⟨hitems,hqueue⟩ := @evaluate_sources lower _ hloaded false
  rw [← hload,load_items hsound] at hitems
  rw [← hload] at hqueue
  refine ⟨?_,hitems,?_⟩
  · intro chunk hchunk
    exact hloaded chunk (hqueue chunk hchunk)
  · intro chunk hchunk
    have hin := mem_map_of_mem (f := fun chunk : StreamChunk => chunk.item) (hqueue chunk hchunk)
    rw [load_items hsound] at hin
    exact hin

theorem bufferedItems_sources {calls : List StreamEvent} (hcoherent : Coherent b.queue) :
    ∀ item∈bufferedItems lower b calls, ∃ source∈b.queue.map (·.item)++calls.flatMap (·.items), Derived source item := by
  induction calls generalizing b with
  | nil =>
    intro item hitem
    cases hitem
  | cons call rest ih =>
    intro item hitem
    rw [flatMap_cons]
    cases call with
    | push items =>
      have hskip : item∈bufferedItems lower b rest →
          ∃ source∈b.queue.map (·.item)++((StreamEvent.push items).items++rest.flatMap (·.items)), Derived source item := by
        intro hlater
        obtain ⟨source,hsource,hderived⟩ := ih hcoherent item hlater
        simp only [mem_append] at hsource ⊢
        exact ⟨source,hsource.imp_right .inr,hderived⟩
      rw [bufferedItems] at hitem
      split at hitem
      · exact hskip hitem
      split at hitem
      · obtain hitem | hitem := mem_append.mp hitem
        · exact ⟨item,mem_append_right _ (mem_append_left _ hitem),derived_refl item⟩
        · exact hskip hitem
      · split at hitem
        · exact hskip hitem
        rename_i b' result hpush
        obtain ⟨hkept,hsent,hqueue⟩ := pushBatch_sources hcoherent hpush
        obtain hitem | hitem := mem_append.mp hitem
        · obtain ⟨source,hsource,hderived⟩ := hsent item hitem
          rw [← append_assoc]
          exact ⟨source,mem_append_left _ hsource,hderived⟩
        · obtain ⟨source,hsource,hderived⟩ := ih hkept item hitem
          rw [← append_assoc]
          refine ⟨source,?_,hderived⟩
          obtain hsource | hsource := mem_append.mp hsource
          · obtain ⟨chunk,hchunk,rfl⟩ := mem_map.mp hsource
            exact mem_append_left _ (hqueue chunk hchunk)
          · exact mem_append_right _ hsource
    | flush =>
      rw [bufferedItems] at hitem
      obtain ⟨hsent,hqueue⟩ := @evaluate_sources lower b hcoherent true
      obtain hitem | hitem := mem_append.mp hitem
      · obtain ⟨source,hsource,hderived⟩ := hsent item hitem
        exact ⟨source,mem_append_left _ hsource,hderived⟩
      · obtain ⟨source,hsource,hderived⟩ := ih (fun chunk hchunk => hcoherent chunk (hqueue chunk hchunk)) item hitem
        refine ⟨source,?_,hderived⟩
        obtain hsource | hsource := mem_append.mp hsource
        · obtain ⟨chunk,hchunk,rfl⟩ := mem_map.mp hsource
          exact mem_append_left _ (mem_map_of_mem (hqueue chunk hchunk))
        · exact mem_append_right _ (mem_append_right _ hsource)

theorem filteredItems_sources (filter : Option SensitiveTextFilter) (calls : List StreamEvent) :
    ∀ item∈filteredItems lower filter calls, ∃ source∈calls.flatMap (·.items), Derived source item := by
  intro item hitem
  cases filter with
  | none => exact ⟨item,hitem,derived_refl item⟩
  | some filter =>
    have hempty : Coherent ({ filter := filter } : StreamDelayBuffer).queue := fun chunk hchunk => absurd hchunk not_mem_nil
    exact bufferedItems_sources hempty item hitem

end Alone

section Isolation
variable {p : StreamSettings} {s : RetryLoop} {a : Attempt}

def Attempt.pushed (a : Attempt) : List StreamItem := a.calls.flatMap (·.items)

/-- The guard of a turn: an attempt that is retried ends with a capacity error or leaves no buffer. -/
def LeavesNoBuffer (p : StreamSettings) (s : RetryLoop) (a : Attempt) : Prop :=
  s.stopped=true ∨ retryPlanned p s a=false ∨ a.error.any isUpstreamCapacityError=true ∨
    (streamCalls p a.route s.buffer a.calls).1=none

theorem attemptStep_keeps (hclear : LeavesNoBuffer p s a) :
    (attemptStep p s a).stopped=true ∨ (attemptStep p s a).buffer=none := by
  unfold attemptStep
  by_cases hstopped : s.stopped=true
  · rw [if_pos hstopped]
    exact .inl hstopped
  · rw [if_neg hstopped]
    dsimp only
    by_cases hplanned : retryPlanned p s a=true
    · rw [hplanned,Bool.not_true,if_neg Bool.false_ne_true]
      right
      dsimp only
      split
      · rfl
      rename_i hcapacity
      obtain hcase | hcase | hcase | hcase := hclear
      · exact absurd hcase hstopped
      · rw [hplanned] at hcase
        cases hcase
      · exact absurd hcase hcapacity
      · exact hcase
    · rw [Bool.not_eq_true] at hplanned
      rw [hplanned,Bool.not_false,if_pos rfl]
      exact .inl rfl

theorem attempts_isolated (p : StreamSettings) (maxRetries : Int) (attempts : List Attempt)
    (hclear : Runs.Guarded (attemptStep p) (LeavesNoBuffer p) attempts { remaining := maxRetries }) :
    ∀ out∈relayEmits p maxRetries attempts, out.2=filteredItems p.lower (responseFilter p out.1.route) out.1.calls ∧
        ∀ item∈out.2, ∃ source∈out.1.pushed, Derived source item := by
  have hrun : ∀ (attempts : List Attempt) (s : RetryLoop), (s.stopped=true ∨ s.buffer=none) →
      Runs.Guarded (attemptStep p) (LeavesNoBuffer p) attempts s →
      ∀ out∈Runs.events (attemptStep p) (attemptEmits p) attempts s,
        out.2=filteredItems p.lower (responseFilter p out.1.route) out.1.calls := by
    intro attempts
    induction attempts with
    | nil =>
      intro s _ _ out hout
      cases hout
    | cons a rest ih =>
      intro s hs hguard out hout
      rw [Runs.events,mem_append] at hout
      obtain hout | hout := hout
      · unfold attemptEmits at hout
        split at hout
        · cases hout
        rename_i hrunning
        obtain rfl := mem_singleton.mp hout
        rw [hs.resolve_left hrunning]
        exact streamCalls_none a.calls
      · exact ih _ (attemptStep_keeps hguard.1) hguard.2 out hout
  intro out hout
  have hfiltered := hrun attempts { remaining := maxRetries } (.inr rfl) hclear out hout
  refine ⟨hfiltered,?_⟩
  rw [hfiltered]
  exact filteredItems_sources _ _

end Isolation

section Leftover

def catPolicy : SensitivePolicySnapshot := { rules := [{ keywords := ["cat"], scope := "response", targetType := "all" }] }

def defaultRetryRanges : List (Int×Int) :=
  [(100,199),(300,399),(401,407),(409,499),(500,503),(505,523),(525,599)]

def catSettings : StreamSettings :=
  { lower := toLowerChar, groupKeywords := fun _ => [], db := sevenDatabase ["default"], policy := catPolicy,
    retryRanges := defaultRetryRanges }

def routeSeven : RouteContext := { channelId := 7, selectedChannel := some channelSeven, selectedGroup := "default" }

def failedAttempt (text : String) (error : NewAPIError) : Attempt :=
  { route := routeSeven, calls := [.push [deltaItem text]], error := some error }

def lastAttempt (text : String) : Attempt :=
  { route := routeSeven, calls := [.push [deltaItem text],.flush], error := none }

def capacityError : NewAPIError := { errorCode := "model_at_capacity", upstreamCapacityClassification := true }

theorem capacity_error_clears :
    (relayEmits catSettings 1 [failedAttempt "ca" capacityError,lastAttempt "b"]).map (fun out => out.2.flatMap (·.text)) =
      ["".toList, "b".toList] ∧ ∀ out∈relayEmits catSettings 1 [failedAttempt "ca" capacityError,lastAttempt "b"],
      out.2=filteredItems toLowerChar (responseFilter catSettings out.1.route) out.1.calls := by
  refine ⟨by decide +kernel,fun out hout => (attempts_isolated catSettings 1 _ ?_ out hout).1⟩
  exact ⟨.inr (.inr (.inl (by decide +kernel))),.inr (.inl (by decide +kernel)),trivial⟩

theorem waiting_chunk_sent_later : ∃ out∈relayEmits catSettings 1 [failedAttempt "ca" {},lastAttempt "b"],
      out.1.pushed.map (·.text)=["b".toList] ∧ out.2.map (·.text)=["ca".toList, "b".toList] ∧
        out.2≠filteredItems toLowerChar (responseFilter catSettings out.1.route) out.1.calls := by
  have hemits : (relayEmits catSettings 1 [failedAttempt "ca" {},lastAttempt "b"]).map (fun out =>
      (out.1.pushed.map (·.text),out.2.map (·.text),
        (filteredItems toLowerChar (responseFilter catSettings out.1.route) out.1.calls).map (·.text))) =
      [(["ca".toList],[],[]),(["b".toList],["ca".toList, "b".toList],["b".toList])] := by decide +kernel
  have hout : (["b".toList],["ca".toList, "b".toList],["b".toList]) ∈
      (relayEmits catSettings 1 [failedAttempt "ca" {},lastAttempt "b"]).map (fun out =>
        (out.1.pushed.map (·.text),out.2.map (·.text),
          (filteredItems toLowerChar (responseFilter catSettings out.1.route) out.1.calls).map (·.text))) := by
    rw [hemits]
    exact mem_cons_of_mem _ mem_cons_self
  obtain ⟨out,hin,heq⟩ := mem_map.mp hout
  simp only [Prod.mk.injEq] at heq
  refine ⟨out,hin,heq.1,heq.2.1,?_⟩
  intro hsame
  have htexts := heq.2.2
  rw [← hsame,heq.2.1] at htexts
  cases htexts

end Leftover

end NewApi.Filter
