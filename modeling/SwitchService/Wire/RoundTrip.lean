import SwitchService.Consumer.OutcomeConsumer
import SwitchService.Wire.JsonParse
import SwitchService.Wire.RouteEndpoint

set_option autoImplicit false

/-!
# Wire: what is read back of a decision and of an outcome

A decision leaves the service as the body of an answer, its candidates as the text that
`insertDecision` stores; an outcome arrives as the text of a message.  A text keeps a number
only where the number has a finite decimal form.  `decimal_route` says that every number of a
decision has one, whatever Redis holds: counters and samples were read from text themselves,
and the scores are rounded to four places.

A reader has the double of each number.  Counters that add up beyond the range of a double
are not of this kind, so the results say which numbers are in range.
-/

namespace SwitchService.Wire

open SwitchService.Foundation SwitchService.Domain SwitchService.Store
open SwitchService.Services SwitchService.Repositories SwitchService.Consumer

/-! ## The numbers of a decision -/

/-- The numbers of a window have a finite decimal form. -/
structure DecimalStats (stats : ChannelStats) : Prop where
  success : Number.IsDecimal stats.success
  failure : Number.IsDecimal stats.failure
  samples : ∀ v, Number.fin v ∈ stats.latencySamples → 0 ≤ v → Number.IsDecimal v

/-- The numbers of a candidate have a finite decimal form. -/
structure DecimalCandidate (candidate : Candidate) : Prop where
  score : Number.IsDecimal |candidate.score|
  successRate : Number.IsDecimal |candidate.successRate|
  p95Ms : ∀ p ∈ candidate.p95Ms, Number.IsDecimal |p|
  costScore : Number.IsDecimal |candidate.costScore|
  samples : Number.IsDecimal |candidate.samples|

/-- The numbers of a decision have a finite decimal form. -/
structure DecimalDecision (decision : RoutingDecision) : Prop where
  windowMs : Number.IsDecimal |decision.windowMs|
  candidates : ∀ c ∈ decision.candidates, DecimalCandidate c

theorem isDecimal_zero : Number.IsDecimal 0 := by
  exact_mod_cast Number.isDecimal_natCast 0

theorem decimalStats_empty (id : String) : DecimalStats (emptyStats id) where
  success := isDecimal_zero
  failure := isDecimal_zero
  samples v hv := by cases hv

/-! ## What the windows answer -/

theorem isDecimal_toCount (raw : Option String) : Number.IsDecimal (WindowStore.toCount raw) := by
  unfold WindowStore.toCount
  split
  · exact isDecimal_zero
  · split
    · exact isDecimal_zero
    · split
      · rename_i value hvalue
        split
        · rename_i hpos
          exact Number.isDecimal_of_ofText hvalue (le_of_lt hpos)
        · exact isDecimal_zero
      · exact isDecimal_zero

theorem isDecimal_valueNumber {raw : Option String} {v : ℚ}
    (h : WindowStore.valueNumber raw = .fin v) (hv : 0 ≤ v) : Number.IsDecimal v := by
  cases raw with
  | none =>
      cases h
      exact isDecimal_zero
  | some text => exact Number.isDecimal_of_ofText h hv

theorem decimalStats_addBucket {stats : ChannelStats} (h : DecimalStats stats)
    (replies : List (Except String Redis.Reply)) (index : ℕ) :
    DecimalStats (WindowStore.addBucket stats (WindowStore.readBucketReply replies index)) where
  success := h.success.add (isDecimal_toCount _)
  failure := h.failure.add (isDecimal_toCount _)
  samples v hv hnonneg := by
    rcases List.mem_append.mp hv with hv | hv
    · exact h.samples v hv hnonneg
    · obtain ⟨raw, _, hraw⟩ := List.mem_map.mp (List.mem_filter.mp hv).1
      exact isDecimal_valueNumber hraw hnonneg

theorem decimalStats_channelStats (replies : List (Except String Redis.Reply))
    (channelId : String) (start count : ℕ) :
    DecimalStats (WindowStore.channelStats replies channelId start count) := by
  unfold WindowStore.channelStats
  refine List.foldlRecOn _ _ (decimalStats_empty channelId) ?_
  intro stats hstats bucketIndex _
  exact decimalStats_addBucket hstats replies _

/-- Whatever the keys hold, the windows that are read have decimal numbers. -/
theorem decimalStats_readMany {store : WindowStore} {channelIds : List String} {now : ℚ}
    {db : Redis.Keyspace} {result : String → Option ChannelStats}
    (h : store.readMany channelIds now db = .ok result) :
    ∀ id stats, result id = some stats → DecimalStats stats := by
  unfold WindowStore.readMany at h
  split at h
  · cases h
    intro id stats hstats
    cases hstats
  · cases hids : windowBucketIds now store.windowMs store.bucketMs with
    | error message =>
        rw [hids] at h
        cases h
    | ok ids =>
        rw [hids] at h
        obtain rfl := Except.ok.inj h
        refine List.foldlRecOn (motive := fun result : String → Option ChannelStats =>
          ∀ id stats, result id = some stats → DecimalStats stats) _ _
          (fun id stats hstats => by cases hstats) ?_
        rintro result hresult ⟨channelId, channelIndex⟩ _ id stats hstats
        dsimp only at hstats
        by_cases hid : id = channelId
        · rw [hid, Function.update_self] at hstats
          obtain rfl := Option.some.inj hstats
          exact decimalStats_channelStats _ _ _ _
        · rw [Function.update_of_ne hid] at hstats
          exact hresult id stats hstats

/-- The reply of a read of windows has decimal numbers. -/
def DecimalReply : (call : Call) → Except Failure call.Ans → Prop
  | .readWindows _ _, .ok windows =>
      ∀ id stats, windows id = some stats → DecimalStats stats
  | _, _ => True

theorem decimalReply_exec (config : Config) (faults : Faults) (call : Call) (b : Backend) :
    DecimalReply call (Backend.exec config faults call b).1 := by
  cases call with
  | readWindows channelIds now =>
      rcases Backend.exec_cases config faults (.readWindows channelIds now) b with h | ⟨_, h⟩
      · rw [h, Backend.perform]
        cases hread : (WindowStore.ofConfig config.routing).readMany channelIds now b.db with
        | ok windows => exact decimalStats_readMany hread
        | error message => trivial
      · rw [h]
        trivial
  | _ => trivial

/-! ## What the ranking keeps -/

theorem isDecimal_round4 (value : ℚ) : Number.IsDecimal |round4 value| := by
  have habs : |round4 value| = ((mathRound (value * 10000)).natAbs : ℚ) / 10 ^ 4 := by
    rw [round4, abs_div, Nat.cast_natAbs, Int.cast_abs]
    norm_num
  rw [habs]
  exact ⟨_, _, rfl⟩

/-- A percentile is one of the samples. -/
theorem isDecimal_p95 {stats : ChannelStats} (h : DecimalStats stats) (minSamples : ℕ) :
    ∀ p ∈ p95 stats.latencySamples minSamples, Number.IsDecimal |p| := by
  intro p hp
  obtain ⟨sample, hsample, hlatency⟩ : ∃ sample ∈ stats.latencySamples,
      latencyOf sample = some p := by
    unfold p95 percentile at hp
    split at hp
    · cases hp
    · dsimp only at hp
      split at hp
      · cases hp
      · have hmem := List.mem_of_getElem? (show _ = some p from hp)
        rw [List.mem_insertionSort] at hmem
        exact List.mem_filterMap.mp hmem
  unfold latencyOf at hlatency
  split at hlatency
  · split at hlatency
    · rename_i v hv
      obtain rfl := Option.some.inj hlatency
      exact (h.samples v hsample hv).abs
    · cases hlatency
  · cases hlatency

theorem decimal_buildCandidates {localeCompare : String → String → Ordering}
    {channels : List Channel} {windows : String → Option ChannelStats}
    {breakers : String → Option BreakerSnapshot} {config : RoutingConfig}
    (h : ∀ id stats, windows id = some stats → DecimalStats stats) :
    ∀ c ∈ buildCandidates localeCompare channels windows breakers config,
      DecimalCandidate c := by
  intro c hc
  obtain ⟨channel, _, rank, rfl⟩ := mem_buildCandidates hc
  have hstats : DecimalStats ((windows channel.id).getD (emptyStats channel.id)) := by
    cases hread : windows channel.id with
    | none => exact decimalStats_empty _
    | some stats => exact h _ _ hread
  exact {
    score := isDecimal_round4 _
    successRate := isDecimal_round4 _
    p95Ms := isDecimal_p95 hstats _
    costScore := isDecimal_round4 _
    samples := (hstats.success.add hstats.failure).abs }

theorem decimal_markInFlight {id : String} {candidates : List Candidate}
    (h : ∀ c ∈ candidates, DecimalCandidate c) :
    ∀ c ∈ markInFlight id candidates, DecimalCandidate c := by
  intro c hc
  obtain ⟨c', hc', rfl⟩ := List.mem_map.mp hc
  have hdecimal := h c' hc'
  split
  · exact {
      score := hdecimal.score
      successRate := hdecimal.successRate
      p95Ms := hdecimal.p95Ms
      costScore := hdecimal.costScore
      samples := hdecimal.samples }
  · exact hdecimal

theorem decimal_degradedCandidates (channels : List Channel) :
    ∀ c ∈ degradedCandidates channels, DecimalCandidate c := by
  intro c hc
  have hzero := isDecimal_zero.abs
  simp only [degradedCandidates, List.mem_mapIdx] at hc
  obtain ⟨i, hi, rfl⟩ := hc
  exact {
    score := hzero
    successRate := hzero
    p95Ms := fun p hp => by cases hp
    costScore := hzero
    samples := hzero }

/-! ## What a route call decides -/

section

variable {config : RoutingConfig}

theorem decimal_chooseChannel {candidates : List Candidate} (rng : Rng)
    (h : ∀ c ∈ candidates, DecimalCandidate c) :
    Prog.Ensures DecimalReply (fun chosen => ∀ c ∈ chosen.1, DecimalCandidate c)
      (chooseChannel config candidates rng) := by
  unfold chooseChannel
  split
  · trivial
  · split
    · refine Prog.ensures_bind (fun _ => True) (Prog.ensures_trivial _) fun gotSlot _ => ?_
      split
      · exact h
      · dsimp only
        split
        · trivial
        · exact decimal_markInFlight h
    · exact h

theorem decimal_decideWith (hwindow : Number.IsDecimal |config.windowMs|)
    (localeCompare : String → String → Ordering) (rng : Rng) (uuid : String)
    (request : RouteRequest) (now : ℚ) (channels : List Channel) {metrics : Metrics}
    (hmetrics : ∀ id stats, metrics.stats id = some stats → DecimalStats stats) :
    Prog.Ensures DecimalReply DecimalDecision
      (decideWith config localeCompare rng uuid request now channels metrics) := by
  unfold decideWith
  refine Prog.ensures_bind (fun _ => True) (Prog.ensures_trivial _) fun breakers _ => ?_
  refine Prog.ensures_bind _ (decimal_chooseChannel rng (decimal_buildCandidates hmetrics))
    fun chosen hchosen => ?_
  refine Prog.ensures_bind (fun _ => True) (Prog.ensures_trivial _) fun evaluatedAt _ => ?_
  refine Prog.ensures_bind (fun _ => True) (Prog.ensures_trivial _) fun _ _ => ?_
  exact { windowMs := hwindow, candidates := hchosen }

theorem decimal_readMetrics (ids : List String) (now : ℚ) :
    Prog.Ensures DecimalReply
      (fun metrics => ∀ id stats, metrics.stats id = some stats → DecimalStats stats)
      (readMetrics ids now) := by
  refine Prog.ensures_bind
    (fun windows : String → Option ChannelStats =>
      ∀ id stats, windows id = some stats → DecimalStats stats)
    (Prog.ensures_await fun _ h => h) fun windows hwindows => ?_
  exact Prog.ensures_bind (fun _ => True) (Prog.ensures_trivial _) fun _ _ => hwindows

theorem decimal_degradedDecision (hwindow : Number.IsDecimal |config.windowMs|)
    (uuid : String) (channels : List Channel) (request : RouteRequest) (now : ℚ) :
    Prog.Ensures DecimalReply DecimalDecision
      (degradedDecision config uuid channels request now) := by
  unfold degradedDecision
  split
  · trivial
  · refine Prog.ensures_bind (fun _ => True) (Prog.ensures_trivial _) fun _ _ => ?_
    exact { windowMs := hwindow, candidates := decimal_degradedCandidates channels }

theorem decimal_routeAmong (hwindow : Number.IsDecimal |config.windowMs|)
    (localeCompare : String → String → Ordering) (rng : Rng) (uuid : String)
    (request : RouteRequest) (now : ℚ) (all : List Channel) :
    Prog.Ensures DecimalReply DecimalDecision
      (routeAmong config localeCompare rng uuid request now all) := by
  unfold routeAmong
  dsimp only
  split
  · trivial
  · refine Prog.ensures_bind
      (fun metrics => ∀ m ∈ metrics, ∀ id stats, m.stats id = some stats → DecimalStats stats)
      ?_ fun metrics hmetrics => ?_
    · refine Prog.ensures_tryCatch ?_ fun _ m hm => by cases hm
      refine Prog.ensures_bind _ (decimal_readMetrics _ now) fun metrics hmetrics m hm => ?_
      obtain rfl := Option.some.inj hm
      exact hmetrics
    · cases metrics with
      | none => exact decimal_degradedDecision hwindow uuid _ request now
      | some metrics =>
          exact decimal_decideWith hwindow localeCompare rng uuid request now _
            (hmetrics metrics rfl)

/-- Every number of a decision has a finite decimal form. -/
theorem decimal_route (hwindow : Number.IsDecimal |config.windowMs|)
    (localeCompare : String → String → Ordering) (rng : Rng) (uuid : String)
    (request : RouteRequest) :
    Prog.Ensures DecimalReply DecimalDecision
      (route config localeCompare rng uuid request) := by
  unfold route
  refine Prog.ensures_bind (fun _ => True) (Prog.ensures_trivial _) fun now _ => ?_
  refine Prog.ensures_bind (fun _ => True) (Prog.ensures_trivial _) fun all _ => ?_
  exact decimal_routeAmong hwindow localeCompare rng uuid request now all

end

/-! ## Reading a decision -/

/-- A decision as the caller has it: the moment is a printed date. -/
structure AnsweredDecision where
  decisionId : String
  channelId : String
  strategy : RouteStrategy
  windowMs : ℚ
  evaluatedAt : String
  candidates : List Candidate

/-- The decision as it is answered. -/
def AnsweredDecision.of (isoDate : ℚ → String) (decision : RoutingDecision) :
    AnsweredDecision :=
  { decisionId := decision.decisionId
    channelId := decision.channelId
    strategy := decision.strategy
    windowMs := decision.windowMs
    evaluatedAt := isoDate decision.evaluatedAt
    candidates := decision.candidates }

/-- A field that holds a text. -/
def textField (fields : List (String × Json)) (name : String) : Option String :=
  match fields.lookup name with
  | some (.str text) => some text
  | _ => none

/-- A field that holds a number. -/
def numberField (fields : List (String × Json)) (name : String) : Option ℚ :=
  match fields.lookup name with
  | some (.num (.fin value)) => some value
  | _ => none

/-- A number that counts. -/
def countField (fields : List (String × Json)) (name : String) : Option ℕ := do
  let value ← numberField fields name
  if 0 ≤ value ∧ value.den = 1 then some value.num.toNat else none

/-- A field that holds a truth value. -/
def boolField (fields : List (String × Json)) (name : String) : Option Bool :=
  match fields.lookup name with
  | some (.bool value) => some value
  | _ => none

/-- A field that holds a number or `null`. -/
def nullableNumberField (fields : List (String × Json)) (name : String) :
    Option (Option ℚ) :=
  match fields.lookup name with
  | some .null => some none
  | some (.num (.fin value)) => some (some value)
  | _ => none

/-- A field that holds a text or `null`. -/
def nullableTextField (fields : List (String × Json)) (name : String) :
    Option (Option String) :=
  match fields.lookup name with
  | some .null => some none
  | some (.str text) => some (some text)
  | _ => none

/-- A text that names one of some values. -/
def namedField {α : Type} (values : List α) (text : α → String) (fields : List (String × Json))
    (name : String) : Option α := do
  let read ← textField fields name
  values.find? (text · = read)

/-- The candidate that an object spells. -/
def readCandidate : Json → Option Candidate
  | .obj fields => do
      return {
        channelId := ← textField fields "channelId"
        rank := ← countField fields "rank"
        score := ← numberField fields "score"
        successRate := ← numberField fields "successRate"
        p95Ms := ← nullableNumberField fields "p95Ms"
        costScore := ← numberField fields "costScore"
        breakerState := ← namedField [.closed, .opened, .halfOpen] BreakerStore.stateText
          fields "breakerState"
        samples := ← numberField fields "samples"
        coldStart := ← boolField fields "coldStart"
        eligible := ← boolField fields "eligible"
        ineligibleReason := ← nullableTextField fields "ineligibleReason" }
  | _ => none

/-- The candidates that an array spells. -/
def readCandidates : Json → Option (List Candidate)
  | .arr items => items.mapM readCandidate
  | _ => none

/-- The decision that an object spells. -/
def readDecision : Json → Option AnsweredDecision
  | .obj fields => do
      return {
        decisionId := ← textField fields "decisionId"
        channelId := ← textField fields "channelId"
        strategy := ← namedField [.best, .explore, .onlyCandidate, .degraded] strategyText
          fields "strategy"
        windowMs := ← numberField fields "windowMs"
        evaluatedAt := ← textField fields "evaluatedAt"
        candidates := ← (fields.lookup "candidates").bind readCandidates }
  | _ => none

theorem countField_nat {fields : List (String × Json)} {name : String} {n : ℕ}
    (h : fields.lookup name = some (.num (.fin (n : ℚ)))) : countField fields name = some n := by
  simp [countField, numberField, h]

theorem readCandidate_json (candidate : Candidate) :
    readCandidate (candidateJson candidate) = some candidate := by
  obtain ⟨channelId, rank, score, successRate, p95Ms, costScore, breakerState, samples,
    coldStart, eligible, ineligibleReason⟩ := candidate
  have hp95 : ∀ fields : List (String × Json),
      fields.lookup "p95Ms" = some (nullableNumber p95Ms) →
      nullableNumberField fields "p95Ms" = some p95Ms := by
    intro fields h
    cases p95Ms <;> simp [nullableNumberField, h, nullableNumber]
  have hreason : ∀ fields : List (String × Json),
      fields.lookup "ineligibleReason" = some (nullableText ineligibleReason) →
      nullableTextField fields "ineligibleReason" = some ineligibleReason := by
    intro fields h
    cases ineligibleReason <;> simp [nullableTextField, h, nullableText]
  have hstate : ∀ fields : List (String × Json),
      fields.lookup "breakerState" = some (.str (BreakerStore.stateText breakerState)) →
      namedField [.closed, .opened, .halfOpen] BreakerStore.stateText fields "breakerState" =
        some breakerState := by
    intro fields h
    cases breakerState <;> simp [namedField, textField, h, BreakerStore.stateText]
  unfold readCandidate candidateJson
  dsimp only
  rw [hp95 _ rfl, hreason _ rfl, hstate _ rfl, countField_nat rfl]
  rfl

theorem readCandidates_json (candidates : List Candidate) :
    readCandidates (.arr (candidates.map candidateJson)) = some candidates := by
  induction candidates with
  | nil => rfl
  | cons candidate candidates ih =>
      have hrest : (candidates.map candidateJson).mapM readCandidate = some candidates := ih
      rw [readCandidates, List.map_cons, List.mapM_cons, readCandidate_json, hrest]
      rfl

theorem readDecision_json (isoDate : ℚ → String) (decision : RoutingDecision) :
    readDecision (decisionJson isoDate decision) = some (.of isoDate decision) := by
  have hstrategy : ∀ fields : List (String × Json),
      fields.lookup "strategy" = some (.str (strategyText decision.strategy)) →
      namedField [.best, .explore, .onlyCandidate, .degraded] strategyText fields "strategy" =
        some decision.strategy := by
    intro fields h
    cases hcase : decision.strategy <;>
      simp [namedField, textField, h, hcase, strategyText]
  have hcandidates : ∀ fields : List (String × Json),
      fields.lookup "candidates" = some (.arr (decision.candidates.map candidateJson)) →
      (fields.lookup "candidates").bind readCandidates = some decision.candidates := by
    intro fields h
    rw [h, Option.bind_some, readCandidates_json]
  unfold readDecision decisionJson
  dsimp only
  rw [hstrategy _ rfl, hcandidates _ rfl]
  rfl

/-! ## The doubles of a decision -/

/-- A number in half of the range of a double, so that its double is finite. -/
def InRange (value : ℚ) : Prop := |value| < 2 ^ 1023

instance (value : ℚ) : Decidable (InRange value) := inferInstanceAs (Decidable (_ < _))

/-- Every number of a candidate has a finite double, and the rank is one. -/
structure RangedCandidate (candidate : Candidate) : Prop where
  rank : candidate.rank ≤ Number.maxSafeInteger
  score : InRange candidate.score
  successRate : InRange candidate.successRate
  p95Ms : ∀ p ∈ candidate.p95Ms, InRange p
  costScore : InRange candidate.costScore
  samples : InRange candidate.samples

/-- Every number of a decision has a finite double. -/
structure RangedDecision (decision : RoutingDecision) : Prop where
  windowMs : InRange decision.windowMs
  candidates : ∀ c ∈ decision.candidates, RangedCandidate c

instance (candidate : Candidate) : Decidable (RangedCandidate candidate) :=
  decidable_of_iff (candidate.rank ≤ Number.maxSafeInteger ∧ InRange candidate.score ∧
      InRange candidate.successRate ∧ (∀ p ∈ candidate.p95Ms, InRange p) ∧
      InRange candidate.costScore ∧ InRange candidate.samples)
    ⟨fun ⟨h1, h2, h3, h4, h5, h6⟩ => ⟨h1, h2, h3, h4, h5, h6⟩,
      fun h => ⟨h.rank, h.score, h.successRate, h.p95Ms, h.costScore, h.samples⟩⟩

instance (decision : RoutingDecision) : Decidable (RangedDecision decision) :=
  decidable_of_iff (InRange decision.windowMs ∧ ∀ c ∈ decision.candidates, RangedCandidate c)
    ⟨fun ⟨h1, h2⟩ => ⟨h1, h2⟩, fun h => ⟨h.windowMs, h.candidates⟩⟩

/-- The candidate with the doubles of its numbers. -/
def doubledCandidate (candidate : Candidate) : Candidate :=
  { candidate with
    score := Number.nearest candidate.score
    successRate := Number.nearest candidate.successRate
    p95Ms := candidate.p95Ms.map Number.nearest
    costScore := Number.nearest candidate.costScore
    samples := Number.nearest candidate.samples }

/-- The decision with the doubles of its numbers; the clock reading is printed as a date. -/
def doubledDecision (decision : RoutingDecision) : RoutingDecision :=
  { decision with
    windowMs := Number.nearest decision.windowMs
    candidates := decision.candidates.map doubledCandidate }

theorem doubled_fin {value : ℚ} (h : InRange value) :
    doubled (.num (.fin value)) = .num (.fin (Number.nearest value)) := by
  rw [doubled, Number.double, Number.toDouble_of_lt h]

theorem doubled_natCast {n : ℕ} (h : n ≤ Number.maxSafeInteger) :
    doubled (.num (.fin n)) = .num (.fin n) := by
  rw [doubled, Number.double, Number.toDouble_natCast h]

theorem doubled_nullableNumber {value : Option ℚ} (h : ∀ v ∈ value, InRange v) :
    doubled (nullableNumber value) = nullableNumber (value.map Number.nearest) := by
  cases value with
  | none => rfl
  | some v => exact doubled_fin (h v rfl)

theorem doubled_nullableText (value : Option String) :
    doubled (nullableText value) = nullableText value := by
  cases value <;> rfl

theorem doubled_candidateJson {candidate : Candidate} (h : RangedCandidate candidate) :
    doubled (candidateJson candidate) = candidateJson (doubledCandidate candidate) := by
  unfold candidateJson doubledCandidate
  rw [doubled]
  simp only [doubledFields, doubledField, doubled_natCast h.rank, doubled_fin h.score,
    doubled_fin h.successRate, doubled_nullableNumber h.p95Ms, doubled_fin h.costScore,
    doubled_fin h.samples, doubled_nullableText]
  rfl

theorem doubled_candidates {candidates : List Candidate}
    (h : ∀ c ∈ candidates, RangedCandidate c) :
    doubled (.arr (candidates.map candidateJson)) =
      .arr ((candidates.map doubledCandidate).map candidateJson) := by
  rw [doubled, doubledItems_eq, List.map_map, List.map_map]
  exact congrArg Json.arr (List.map_congr_left fun c hc => doubled_candidateJson (h c hc))

theorem doubled_decisionJson (isoDate : ℚ → String) {decision : RoutingDecision}
    (h : RangedDecision decision) :
    doubled (decisionJson isoDate decision) =
      decisionJson isoDate (doubledDecision decision) := by
  unfold decisionJson doubledDecision
  rw [doubled]
  simp only [doubledFields, doubledField, doubled_fin h.windowMs,
    doubled_candidates h.candidates]
  rfl

/-! ## The texts -/

theorem faithful_candidateJson {candidate : Candidate} (h : DecimalCandidate candidate) :
    Faithful (candidateJson candidate) := by
  have hp95 : Faithful (nullableNumber candidate.p95Ms) := by
    cases hcase : candidate.p95Ms with
    | none => trivial
    | some p => exact h.p95Ms p hcase
  have hreason : Faithful (nullableText candidate.ineligibleReason) := by
    cases candidate.ineligibleReason <;> trivial
  exact ⟨by simp, trivial, (Number.isDecimal_natCast candidate.rank).abs, h.score,
    h.successRate, hp95, h.costScore, trivial, h.samples, trivial, trivial, hreason, trivial⟩

theorem faithful_candidates {candidates : List Candidate}
    (h : ∀ c ∈ candidates, DecimalCandidate c) :
    Faithful (.arr (candidates.map candidateJson)) := by
  induction candidates with
  | nil => trivial
  | cons candidate candidates ih =>
      exact ⟨faithful_candidateJson (h candidate List.mem_cons_self),
        ih fun c hc => h c (List.mem_cons_of_mem candidate hc)⟩

theorem faithful_decisionJson (isoDate : ℚ → String) {decision : RoutingDecision}
    (h : DecimalDecision decision) : Faithful (decisionJson isoDate decision) :=
  ⟨by simp, trivial, trivial, trivial, h.windowMs, trivial,
    faithful_candidates h.candidates, trivial⟩

/-- A decision that a route call makes over Redis, whatever the keys hold and whichever calls
fail, is read back from the body of the answer, and its candidates from the text that the
decision log stores, each number as its double. -/
theorem decision_round_trip {config : Config}
    (hwindow : Number.IsDecimal |config.routing.windowMs|) (faults : Faults)
    (localeCompare : String → String → Ordering) (rng : Rng) (uuid : String)
    (isoDate : ℚ → String) (request : RouteRequest) (b : Backend) {decision : RoutingDecision}
    (h : (Backend.run config faults
      (route config.routing localeCompare rng uuid request) b).1 = .ok decision)
    (hrange : RangedDecision decision) :
    (parse (stringify (decisionJson isoDate decision))).bind readDecision =
        some (.of isoDate (doubledDecision decision)) ∧
      (parse (stringify (.arr (decision.candidates.map candidateJson)))).bind readCandidates =
        some (decision.candidates.map doubledCandidate) := by
  have hdecimal : DecimalDecision decision :=
    (decimal_route hwindow localeCompare rng uuid request).run
      (fun call b => decimalReply_exec config faults call b) h
  constructor
  · rw [parse_stringify (faithful_decisionJson isoDate hdecimal), Option.bind_some,
      doubled_decisionJson isoDate hrange, readDecision_json]
  · rw [parse_stringify (faithful_candidates hdecimal.candidates), Option.bind_some,
      doubled_candidates hrange.candidates, readCandidates_json]

/-- One channel with a bucket of five payouts, two of them with a latency between integers. -/
def railsBackend : Backend where
  now := 60000
  db := (Redis.multi 60000 [
    .hset (bucketKey "RAIL-A" 12) [("success", "4"), ("failure", "1")],
    .lpush (latencyKey "RAIL-A" 12) "120.3",
    .lpush (latencyKey "RAIL-A" 12) "80.1"] Redis.empty).2
  table := seededA
  cache := none
  decisions := []

theorem decision_round_trip_first : ∃ decision,
    (Backend.run defaultConfig noFaults
      (route defaultConfig.routing compare (Stream'.const 0) "u1" anyRequest) railsBackend).1 =
        .ok decision ∧
    decision.candidates.map (fun c => (c.samples, c.successRate)) = [(5, 4 / 5)] ∧
    (parse (stringify (decisionJson (fun _ => "") decision))).bind readDecision =
      some (.of (fun _ => "") (doubledDecision decision)) := by
  have hanswered : (Backend.run defaultConfig noFaults
      (route defaultConfig.routing compare (Stream'.const 0) "u1" anyRequest)
      railsBackend).1.toOption.any (fun decision =>
        decide (RangedDecision decision) &&
          decide (decision.candidates.map (fun c => (c.samples, c.successRate)) =
            [(5, 4 / 5)])) = true := by decide +kernel
  cases hrun : (Backend.run defaultConfig noFaults
      (route defaultConfig.routing compare (Stream'.const 0) "u1" anyRequest) railsBackend).1 with
  | error failure =>
      rw [hrun] at hanswered
      cases hanswered
  | ok decision =>
      rw [hrun] at hanswered
      obtain ⟨hrange, hshown⟩ := Bool.and_eq_true_iff.mp hanswered
      exact ⟨decision, rfl, of_decide_eq_true hshown,
        (decision_round_trip ⟨60000, 0, by decide +kernel⟩ noFaults compare (Stream'.const 0)
          "u1" (fun _ => "") anyRequest railsBackend hrun (of_decide_eq_true hrange)).1⟩

/-! ## Outcomes -/

/-- `Number.isSafeInteger` of the integers of an event. -/
structure SafeIntegers (event : TxnOutcomeEvent) : Prop where
  schemaVersion : event.schemaVersion ≤ Number.maxSafeInteger
  latencyMs : event.latencyMs ≤ Number.maxSafeInteger
  attempt : event.attempt ≤ Number.maxSafeInteger

theorem faithful_event (event : TxnOutcomeEvent) : Faithful event.toJson := by
  have hnat : ∀ n : ℕ, Number.IsDecimal |(n : ℚ)| := fun n => (Number.isDecimal_natCast n).abs
  obtain ⟨_, _, _, _, _, _, _, _, errorCode, _, _⟩ := event
  cases errorCode <;>
    exact ⟨by simp, hnat _, trivial, trivial, trivial, trivial, trivial, trivial, trivial,
      hnat _, trivial, hnat _, trivial, trivial⟩

/-- Every number of such an event is its own double. -/
theorem doubled_event {event : TxnOutcomeEvent} (h : SafeIntegers event) :
    doubled event.toJson = event.toJson := by
  rw [TxnOutcomeEvent.toJson, doubled]
  simp only [doubledFields, doubledField, doubled_natCast h.schemaVersion,
    doubled_natCast h.latencyMs, doubled_natCast h.attempt]
  cases event.errorCode <;> rfl

theorem stringify_ne_empty (value : Json) : stringify value ≠ "" := by
  obtain ⟨c, cs, hcons, _⟩ := stringifyChars_head value
  intro hempty
  have hlist := congrArg String.toList hempty
  rw [stringify, String.toList_ofList, hcons] at hlist
  cases hlist

/-- An entry of the stream whose payload is the text of a well-formed event: the consumer gives
its handler a message that the schema reads as exactly this event. -/
theorem event_round_trip {event : TxnOutcomeEvent} (hevent : event.WellFormed)
    (hsafe : SafeIntegers event) (messageId : ℕ) {fields : List String}
    (hfields : fieldValue fields "payload" = some (stringify event.toJson)) :
    ∃ message, outcomeEventSchema message = .valid event ∧
      process parse messageId fields =
        (beginProcess messageId >>= fun _ => handleMessage messageId fields message) := by
  refine ⟨event.toJson, outcomeEventSchema_toJson hevent, ?_⟩
  have hpayload : parsePayload parse (fieldValue fields "payload") = some event.toJson := by
    rw [hfields, parsePayload, if_neg (stringify_ne_empty _),
      parse_stringify (faithful_event event), doubled_event hsafe]
  unfold process
  rw [hpayload]

theorem event_round_trip_payout : ∃ message,
    outcomeEventSchema message = .valid (payoutOutcome "evt_1" "dec_1" "RAIL-A" .failed) ∧
    process parse 7 ["payload",
        stringify (payoutOutcome "evt_1" "dec_1" "RAIL-A" .failed).toJson] =
      (beginProcess 7 >>= fun _ => handleMessage 7 ["payload",
        stringify (payoutOutcome "evt_1" "dec_1" "RAIL-A" .failed).toJson] message) :=
  event_round_trip (by constructor <;> decide) (by constructor <;> decide) 7 rfl

end SwitchService.Wire
