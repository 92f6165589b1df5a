import SwitchService.Domain.Dominance
import SwitchService.Services.DecisionRecord
import SwitchService.Store.BreakerStore
import SwitchService.Wire.RouteRequest

set_option autoImplicit false

/-!
# Wire: the endpoint `POST /route` (`app.ts`, `lib/errors.ts`, `routing.controller.ts`)

A request is validated, routed and answered; whatever is thrown on the way is answered by
the error handler, which never changes the contract of a typed error.

`postRoute_answers` says for every body, every stored state and every pattern of failing
store calls which answer the caller gets: there is always one, a bad body touches nothing,
and the text of an unexpected error does not leave the service.
-/

namespace SwitchService.Wire

open SwitchService.Foundation SwitchService.Domain SwitchService.Store
open SwitchService.Services SwitchService.Consumer

/-! ## Errors -/

/-- The classes of `AppError`. -/
inductive AppError where
  | badRequest
  | validation
  | notFound
  | channelNotFound
  | serviceUnavailable
  | databaseUnavailable
  | noEligibleChannel
  deriving DecidableEq

namespace AppError

/-- The HTTP code of a class. -/
def httpCode : AppError → ℕ
  | .badRequest | .validation => 400
  | .notFound | .channelNotFound => 404
  | .serviceUnavailable | .databaseUnavailable | .noEligibleChannel => 503

/-- The `errorType` of a class. -/
def errorType : AppError → String
  | .badRequest => "BAD_REQUEST"
  | .validation => "VALIDATION_FAILED"
  | .notFound => "NOT_FOUND"
  | .channelNotFound => "CHANNEL_NOT_FOUND"
  | .serviceUnavailable => "SERVICE_UNAVAILABLE"
  | .databaseUnavailable => "DATABASE_UNAVAILABLE"
  | .noEligibleChannel => "NO_ELIGIBLE_CHANNEL"

/-- The class that a class extends. -/
def parent : AppError → Option AppError
  | .validation => some .badRequest
  | .channelNotFound => some .notFound
  | .databaseUnavailable | .noEligibleChannel => some .serviceUnavailable
  | .badRequest | .notFound | .serviceUnavailable => none

/-- The rule of the error classes: a subclass never changes the HTTP code of its parent. -/
theorem httpCode_parent {error parent : AppError} (h : error.parent = some parent) :
    parent.httpCode = error.httpCode := by
  cases error <;> cases h <;> rfl

/-- No two classes share an error type. -/
theorem errorType_injective : Function.Injective errorType := by
  intro a b h
  cases a <;> cases b <;> first | rfl | exact absurd h (by decide)

end AppError

/-- What reaches the error handler. -/
inductive Thrown where
  | app (error : AppError) (message : String)
  /-- Any other error. -/
  | unexpected (message : String)

/-- What a rejected service function throws. -/
def Thrown.ofFailure : Failure → Thrown
  | .noEligibleChannel message _ => .app .noEligibleChannel message
  | .contract detail => .unexpected detail
  | .rejected message => .unexpected message

/-! ## Answers -/

/-- An answer with its `x-trace-id`. -/
structure HttpAnswer where
  status : ℕ
  body : Json
  traceId : Option String

/-- The trace identifier of a request: that of the caller, or a fresh one. -/
def traceIdOf (header : Option String) (uuid : String) : String :=
  String.ofList (Utf16.decode ((Utf16.units (header.getD uuid).toList).take 64))

/-- The body of an error.  A trace identifier that is undefined is not printed. -/
def errorBody (errorType message : String) (traceId : Option String) : Json :=
  .obj ([("error", .bool true), ("errorType", .str errorType), ("message", .str message)] ++
    traceId.toList.map fun id => ("traceId", .str id))

/-- The error handler of `createApp`. -/
def errorAnswer (traceId : Option String) : Thrown → HttpAnswer
  | .app error message =>
      { status := error.httpCode
        body := errorBody error.errorType message traceId
        traceId := traceId }
  | .unexpected _ =>
      { status := 500
        body := errorBody "INTERNAL_ERROR" "the request could not be completed" traceId
        traceId := traceId }

/-- The strategy as it is sent. -/
def strategyText : RouteStrategy → String
  | .best => "best"
  | .explore => "explore"
  | .onlyCandidate => "only-candidate"
  | .degraded => "degraded"

/-- A text or `null`. -/
def nullableText : Option String → Json
  | some text => .str text
  | none => .null

/-- A number or `null`. -/
def nullableNumber : Option ℚ → Json
  | some value => .num (.fin value)
  | none => .null

/-- A candidate as it is sent and stored. -/
def candidateJson (candidate : Candidate) : Json :=
  .obj [
    ("channelId", .str candidate.channelId),
    ("rank", .num (.fin candidate.rank)),
    ("score", .num (.fin candidate.score)),
    ("successRate", .num (.fin candidate.successRate)),
    ("p95Ms", nullableNumber candidate.p95Ms),
    ("costScore", .num (.fin candidate.costScore)),
    ("breakerState", .str (BreakerStore.stateText candidate.breakerState)),
    ("samples", .num (.fin candidate.samples)),
    ("coldStart", .bool candidate.coldStart),
    ("eligible", .bool candidate.eligible),
    ("ineligibleReason", nullableText candidate.ineligibleReason)]

/-- The body of `RoutingController.route`.  `isoDate` prints a clock reading. -/
def decisionJson (isoDate : ℚ → String) (decision : RoutingDecision) : Json :=
  .obj [
    ("decisionId", .str decision.decisionId),
    ("channelId", .str decision.channelId),
    ("strategy", .str (strategyText decision.strategy)),
    ("windowMs", .num (.fin decision.windowMs)),
    ("evaluatedAt", .str (isoDate decision.evaluatedAt)),
    ("candidates", .arr (decision.candidates.map candidateJson))]

/-! ## The endpoint -/

/-- A call of `POST /route`: the body as the parser left it, or nothing where the parser
threw, which it does before there is a trace identifier. -/
structure RouteCall where
  header : Option String
  traceUuid : String
  body : Option Json

/-- The trace identifier of a call. -/
def RouteCall.traceId (call : RouteCall) : String := traceIdOf call.header call.traceUuid

/-- The handlers of `POST /route`, in their order. -/
def postRoute (config : RoutingConfig) (localeCompare : String → String → Ordering)
    (rng : Rng) (uuid : String) (isoDate : ℚ → String) (call : RouteCall) :
    Program HttpAnswer :=
  match call.body with
  | none => return errorAnswer none (.unexpected "the body could not be parsed")
  | some body =>
      match routeRequestSchema body with
      | .invalid issues =>
          return errorAnswer (some call.traceId)
            (.app .validation (validationMessage "body" issues))
      | .valid parsed =>
          Prog.tryCatch
            (route config localeCompare rng uuid parsed.request >>= fun decision =>
              return {
                status := 200
                body := decisionJson isoDate decision
                traceId := some call.traceId })
            fun failure => return errorAnswer (some call.traceId) (.ofFailure failure)

/-! ## The status -/

/-- The stores reject with plain errors. -/
def StoresReject (faults : Faults) : Prop :=
  ∀ call failure, faults call = some failure → ∃ message, failure = .rejected message

/-- Traffic may be sent to the channel. -/
def OpenTo (config : RoutingConfig) (w : World) (channel : Channel) : Prop :=
  channel.enabled = true ∧ (refreshedAt config w channel.id).state ≠ .opened

instance (config : RoutingConfig) (w : World) (channel : Channel) :
    Decidable (OpenTo config w channel) := inferInstanceAs (Decidable (_ ∧ _))

/-- The status of a call with a valid request: without the channel list, or where the slot
of the chosen channel cannot be asked for, it is 500; where there is no channel left to
choose, 503. -/
def routeStatus (config : RoutingConfig) (faults : Faults)
    (localeCompare : String → String → Ordering) (rng : Rng) (request : RouteRequest)
    (w : World) : ℕ :=
  let channels := routeChannels w request
  if ¬ ListAnswered faults w w.now request.corridor then 500
  else if ¬ MetricsAnswered faults (channels.map (·.id)) w.now then
    if ∃ channel ∈ channels, channel.enabled = true then 200 else 503
  else match askedSlot config faults localeCompare rng request w with
    | none => if ∃ channel ∈ channels, OpenTo config w channel then 200 else 503
    | some id =>
        if (faults (.takeProbeSlot id probeSlotTtlMs)).isSome then 500
        else if w.slotHeld id then
          if ∃ channel ∈ channels, channel.id ≠ id ∧ OpenTo config w channel then 200 else 503
        else 200

/-- The status that the error handler gives a failure, and 200 where there is none. -/
def statusOf {α : Type} : Except Failure α → ℕ
  | .ok _ => 200
  | .error failure => (errorAnswer none (.ofFailure failure)).status

section

variable {config : Config} {faults : Faults} {w : World}
  {localeCompare : String → String → Ordering} {rng : Rng} {uuid : String}
  {request : RouteRequest}

theorem statusOf_map {α β : Type} (f : α → β) (result : Except Failure α) :
    statusOf (result.map f) = statusOf result := by
  cases result <;> rfl

theorem statusOf_rejected {failure : Failure}
    (h : ∃ message, failure = .rejected message) {α : Type} :
    statusOf (.error failure : Except Failure α) = 500 := by
  obtain ⟨message, rfl⟩ := h
  rfl

/-- The metrics of a call. -/
abbrev metricsAt (config : RoutingConfig) (w : World) (request : RouteRequest) : Metrics :=
  metricsOf config w w.now ((routeChannels w request).map (·.id))

/-- The candidate of a channel before it is ranked. -/
abbrev candidateAt (config : RoutingConfig) (w : World) (request : RouteRequest)
    (channel : Channel) : Candidate :=
  listedCandidate (routeChannels w request) (metricsAt config w request).stats
    (refreshedBreakers config (metricsAt config w request) w.now
      ((routeChannels w request).map (·.id))) config channel

theorem candidateAt_eligible_iff {channel : Channel}
    (h : channel ∈ routeChannels w request) :
    (candidateAt config.routing w request channel).eligible = true ↔
      OpenTo config.routing w channel := by
  have hmem : channel.id ∈ (routeChannels w request).map (·.id) := List.mem_map_of_mem h
  have hstate : ((refreshedBreakers config.routing (metricsAt config.routing w request) w.now
      ((routeChannels w request).map (·.id)) channel.id).map (·.state)).getD .closed =
        (refreshedAt config.routing w channel.id).state := by
    simp [refreshedBreakers, hmem, refreshedBreaker_metricsOf hmem, refreshedAt]
  unfold candidateAt listedCandidate candidateOf
  dsimp only
  rw [hstate]
  unfold eligibilityOf OpenTo
  split_ifs with hdisabled hopened
  · simp [hdisabled]
  · simp [hopened]
  · exact iff_of_true rfl ⟨Bool.eq_true_of_not_eq_false hdisabled, hopened⟩

/-- The eligible candidates stand for the channels that traffic may be sent to. -/
theorem exists_eligible_iff (P : String → Prop) :
    (∃ c ∈ candidatesAt config.routing localeCompare w request,
        c.eligible = true ∧ P c.channelId) ↔
      ∃ channel ∈ routeChannels w request, P channel.id ∧ OpenTo config.routing w channel := by
  constructor
  · rintro ⟨c, hc, hel, hP⟩
    obtain ⟨channel, hchannel, rank, rfl⟩ := mem_buildCandidates hc
    exact ⟨channel, hchannel, hP, (candidateAt_eligible_iff hchannel).mp hel⟩
  · rintro ⟨channel, hchannel, hP, hopen⟩
    obtain ⟨rank, hmem⟩ : ∃ rank, { candidateAt config.routing w request channel with
        rank := rank } ∈ candidatesAt config.routing localeCompare w request :=
      exists_mem_buildCandidates hchannel
    exact ⟨_, hmem, (candidateAt_eligible_iff hchannel).mpr hopen, hP⟩

/-- A choice fails exactly where no candidate is eligible, and then with 503. -/
theorem statusOf_select (config : RoutingConfig) (candidates : List Candidate) (rng : Rng) :
    statusOf (select config candidates rng).1 =
      if ∃ c ∈ candidates, c.eligible = true then 200 else 503 := by
  rcases hselect : select config candidates rng with ⟨failure | selection, rng'⟩
  · have hnone : ¬ ∃ c ∈ candidates, c.eligible = true := by
      rintro ⟨c, hc, hel⟩
      rw [select_error hselect c hc] at hel
      cases hel
    rw [if_neg hnone]
    unfold select at hselect
    split at hselect
    · cases hselect
    · obtain rfl := Except.error.inj (Prod.mk.inj hselect).1
      rfl
  · obtain ⟨c, hc, hel, _⟩ := select_eligible hselect
    rw [if_pos ⟨c, hc, hel⟩]
    rfl

/-- The candidates that stay eligible when one channel is denied its slot. -/
theorem exists_eligible_markInFlight (id : String) (candidates : List Candidate) :
    (∃ c ∈ markInFlight id candidates, c.eligible = true) ↔
      ∃ c ∈ candidates, c.eligible = true ∧ c.channelId ≠ id := by
  constructor
  · rintro ⟨c, hc, hel⟩
    obtain ⟨hmem, hne⟩ := eligible_of_mem_markInFlight hc hel
    exact ⟨c, hmem, hel, hne⟩
  · rintro ⟨c, hc, hel, hne⟩
    exact ⟨c, List.mem_map.mpr ⟨c, hc, if_neg hne⟩, hel⟩

theorem statusOf_chosenAmong (hreject : StoresReject faults)
    (hinformed : Informed faults w request) :
    statusOf (chosenAmong config.routing faults w
        (candidatesAt config.routing localeCompare w request) rng) =
      routeStatus config.routing faults localeCompare rng request w := by
  have hselect := statusOf_select config.routing
    (candidatesAt config.routing localeCompare w request) rng
  have hopen : (∃ c ∈ candidatesAt config.routing localeCompare w request,
      c.eligible = true ∧ True) ↔ _ := exists_eligible_iff fun _ => True
  simp only [and_true, true_and] at hopen
  simp only [hopen] at hselect
  unfold routeStatus askedSlot chosenAmong
  dsimp only
  rw [if_neg (not_not.mpr hinformed.1), if_neg (not_not.mpr hinformed.2), if_pos hinformed]
  rcases hchoice : select config.routing (candidatesAt config.routing localeCompare w request)
    rng with ⟨failure | first, rng'⟩
  · rw [hchoice] at hselect
    exact hselect
  · rw [hchoice] at hselect
    have hprobe := isProbe_candidatesAt config.routing
      ((select_eligible hchoice).imp fun c hc => ⟨hc.1, hc.2.2⟩)
    dsimp only
    by_cases hhalf : (refreshedAt config.routing w first.channelId).state = .halfOpen
    · rw [if_pos (hprobe.mpr hhalf), if_pos hhalf]
      dsimp only
      cases hfault : faults (.takeProbeSlot first.channelId probeSlotTtlMs) with
      | some failure =>
          simp only [Option.isSome_some, if_true]
          exact statusOf_rejected (hreject _ _ hfault)
      | none =>
          simp only [Option.isSome_none, Bool.false_eq_true, if_false]
          by_cases hheld : w.slotHeld first.channelId
          · have hothers : (∃ c ∈ candidatesAt config.routing localeCompare w request,
                c.eligible = true ∧ c.channelId ≠ first.channelId) ↔ _ :=
              exists_eligible_iff fun id => id ≠ first.channelId
            rw [if_pos hheld, if_pos hheld, statusOf_map, statusOf_select]
            simp only [exists_eligible_markInFlight, hothers]
          · rw [if_neg hheld, if_neg hheld]
            rfl
    · rw [if_neg fun h => hhalf (hprobe.mp h), if_neg hhalf]
      exact hselect

theorem statusOf_degradedAnswer (config : RoutingConfig) (channels : List Channel) (now : ℚ) :
    statusOf (degradedAnswer config uuid channels request now) =
      if ∃ channel ∈ channels, channel.enabled = true then 200 else 503 := by
  by_cases henabled : ∃ channel ∈ channels, channel.enabled = true
  · obtain ⟨_, decision, _, hanswer, _⟩ :=
      degradedAnswer_of_enabled config uuid request now henabled
    rw [if_pos henabled, hanswer]
    rfl
  · have hfind := find?_degradedCandidates channels
    rw [List.find?_eq_none.mpr fun channel hchannel hen => henabled ⟨channel, hchannel, hen⟩]
      at hfind
    rw [if_neg henabled, degradedAnswer, Option.map_eq_none_iff.mp hfind]
    rfl

/-- Without its channel list a call rejects with what the query rejected with. -/
theorem route_unlisted (hlist : ¬ ListAnswered faults w w.now request.corridor) :
    ∃ failure, faults (.queryChannels request.corridor) = some failure ∧
      ((route config.routing localeCompare rng uuid request).run config faults w) =
        (.error failure, w) := by
  obtain ⟨hcache, hquery⟩ := not_or.mp hlist
  obtain ⟨failure, hfailure⟩ := Option.ne_none_iff_exists'.mp hquery
  have hrefill : (Repositories.refillCache w.now request.corridor).run config faults w =
      (.error failure, w) := by
    simp [Repositories.refillCache, Repositories.listChannels, run_bind,
      exec_of_some rfl hfailure]
  refine ⟨failure, hfailure, ?_⟩
  unfold route Repositories.listChannelsCached
  rw [run_bind_ok (run_clockNow w)]
  refine run_bind_error ?_
  rw [run_bind_ok (run_getCache w)]
  cases hentry : w.cache with
  | none => exact hrefill
  | some entry =>
      have hold : ¬ w.now - entry.filledAt < Repositories.cacheTtlMs := by
        intro hfresh
        exact hcache (by simp [Repositories.cachedAt, hentry, hfresh])
      simpa [hold] using hrefill

/-- The status of a call with a valid request, from the stored state alone. -/
theorem statusOf_route (hreject : StoresReject faults) :
    statusOf ((route config.routing localeCompare rng uuid request).run config faults w).1 =
      routeStatus config.routing faults localeCompare rng request w := by
  by_cases hlist : ListAnswered faults w w.now request.corridor
  · rw [route_answer config faults localeCompare rng uuid request w hlist]
    by_cases hmetrics : MetricsAnswered faults ((routeChannels w request).map (·.id)) w.now
    · rw [if_pos hmetrics, ← statusOf_chosenAmong hreject ⟨hlist, hmetrics⟩]
      split
      · -- Among no candidates there is nothing to choose either.
        rename_i hempty
        have hnone : candidatesAt config.routing localeCompare w request = [] := by
          simp [candidatesAt, routeCandidates, hempty, buildCandidates]
        rw [hnone]
        simp [chosenAmong, select, selectChannel, statusOf, Thrown.ofFailure, noChannel,
          errorAnswer]
      · exact statusOf_map _ _
    · rw [if_neg hmetrics]
      unfold routeStatus
      dsimp only
      rw [if_neg (not_not.mpr hlist), if_pos hmetrics]
      split
      · rename_i hempty
        simp [hempty, statusOf, Thrown.ofFailure, noChannel, errorAnswer, AppError.httpCode]
      · exact statusOf_degradedAnswer _ _ _
  · obtain ⟨failure, hfailure, hrun⟩ : ∃ failure, _ ∧
        (route config.routing localeCompare rng uuid request).run config faults w = _ :=
      route_unlisted hlist
    unfold routeStatus
    dsimp only
    rw [if_pos hlist, hrun]
    exact statusOf_rejected (hreject _ _ hfailure)

/-! ## What a caller gets -/

/-- The error type and the message that belong to a status. -/
def ErrorOf (status : ℕ) (errorType message : String) : Prop :=
  (status = 400 ∧ errorType = "VALIDATION_FAILED") ∨
    (status = 503 ∧ errorType = "NO_ELIGIBLE_CHANNEL") ∨
      status = 500 ∧ errorType = "INTERNAL_ERROR" ∧
        message = "the request could not be completed"

/-- The expected status of a call. -/
def callStatus (config : RoutingConfig) (faults : Faults)
    (localeCompare : String → String → Ordering) (rng : Rng) (call : RouteCall) (w : World) :
    ℕ :=
  match call.body with
  | none => 500
  | some body =>
      match routeRequestSchema body with
      | .invalid _ => 400
      | .valid parsed => routeStatus config faults localeCompare rng parsed.request w

/-- What a caller is told: the expected status, and with 200 a decision that was made. -/
structure Answered (isoDate : ℚ → String) (call : RouteCall) (expected : ℕ)
    (made : RoutingDecision → Prop) (answer : HttpAnswer) : Prop where
  status : answer.status = expected
  decision : expected = 200 → ∃ decision, made decision ∧
    answer.body = decisionJson isoDate decision
  /-- Else an error of the type that belongs to the status. -/
  error : expected ≠ 200 → ∃ errorType message, ErrorOf expected errorType message ∧
    answer.body = errorBody errorType message answer.traceId
  /-- With the trace identifier of the call, if its body could be read. -/
  traceId : answer.traceId = call.body.map fun _ => call.traceId

/-- The error handler answers a failure of the service with the error of its status. -/
theorem answered_failure (isoDate : ℚ → String) {call : RouteCall} {body : Json}
    (hbody : call.body = some body) (made : RoutingDecision → Prop) (failure : Failure) :
    Answered isoDate call (statusOf (.error failure : Except Failure RoutingDecision)) made
        (errorAnswer (some call.traceId) (.ofFailure failure)) ∧
      (errorAnswer (some call.traceId) (.ofFailure failure)).status ≠ 400 := by
  have htrace : some call.traceId = call.body.map fun _ => call.traceId := by
    rw [hbody]
    rfl
  cases failure with
  | noEligibleChannel message context =>
      exact ⟨⟨rfl, (fun h => by cases h), fun _ => ⟨_, _, .inr (.inl ⟨rfl, rfl⟩), rfl⟩, htrace⟩,
        fun h => by cases h⟩
  | contract detail =>
      exact ⟨⟨rfl, (fun h => by cases h), fun _ => ⟨_, _, .inr (.inr ⟨rfl, rfl, rfl⟩), rfl⟩,
        htrace⟩, fun h => by cases h⟩
  | rejected message =>
      exact ⟨⟨rfl, (fun h => by cases h), fun _ => ⟨_, _, .inr (.inr ⟨rfl, rfl, rfl⟩), rfl⟩,
        htrace⟩, fun h => by cases h⟩

/-- Every call of `POST /route` is answered, whatever its body is, whatever is stored and
whichever store calls fail: with the status that the stored state gives, with the decision
that was made or with the error that belongs to the status.  A body that is refused touches
nothing. -/
theorem postRoute_answers (config : Config) (faults : Faults)
    (localeCompare : String → String → Ordering) (rng : Rng) (uuid : String)
    (isoDate : ℚ → String) (call : RouteCall) (w : World) (hreject : StoresReject faults) :
    ∃ answer w', (postRoute config.routing localeCompare rng uuid isoDate call).run config
        faults w = (.ok answer, w') ∧
      Answered isoDate call (callStatus config.routing faults localeCompare rng call w)
        (fun decision => ∃ body parsed, call.body = some body ∧
          routeRequestSchema body = .valid parsed ∧
          ((route config.routing localeCompare rng uuid parsed.request).run config faults
            w).1 = .ok decision) answer ∧
      (answer.status = 400 → w' = w) := by
  unfold postRoute callStatus
  cases hbody : call.body with
  | none =>
      refine ⟨_, w, rfl, ⟨rfl, (fun h => by cases h), fun _ => ⟨_, _, ?_, rfl⟩, ?_⟩,
        fun _ => rfl⟩
      · exact .inr (.inr ⟨rfl, rfl, rfl⟩)
      · rw [hbody]
        rfl
  | some body =>
      dsimp only
      cases hschema : routeRequestSchema body with
      | invalid issues =>
          refine ⟨_, w, rfl, ⟨rfl, (fun h => by cases h), fun _ => ⟨_, _, ?_, rfl⟩, ?_⟩,
            fun _ => rfl⟩
          · exact .inl ⟨rfl, rfl⟩
          · rw [hbody]
            rfl
      | valid parsed =>
          have hstatus : statusOf ((route config.routing localeCompare rng uuid
              parsed.request).run config faults w).1 = _ := statusOf_route hreject
          dsimp only
          rw [run_tryCatch, run_bind, ← hstatus]
          rcases hrun : (route config.routing localeCompare rng uuid parsed.request).run config
            faults w with ⟨failure | decision, w'⟩
          · obtain ⟨hanswered, hcode⟩ := answered_failure isoDate hbody _ failure
            exact ⟨_, w', rfl, hanswered, fun h => absurd h hcode⟩
          · refine ⟨_, w', rfl, ⟨rfl, fun _ => ⟨decision, ⟨body, parsed, rfl, hschema, ?_⟩, rfl⟩,
              fun h => absurd rfl h, ?_⟩, fun h => by cases h⟩
            · rw [hrun]
            · rw [hbody]
              rfl

end

/-- A call for a payout. -/
def payoutCall : RouteCall where
  header := none
  traceUuid := "5f0c"
  body := some (.obj [
    ("transactionId", .str "txn_1"),
    ("amountMinor", .num (.fin 1050)),
    ("currency", .str "EUR"),
    ("corridor", .str Repositories.defaultCorridor),
    ("bankCode", .str "044"),
    ("requestedAt", .str "2026-01-01T00:00:00.000Z"),
    ("supportedChannels", .arr [.str "RAIL-A"])])

/-- The theorem at a call whose windows cannot be read: it is answered in degraded mode. -/
theorem postRoute_answers_windowsDown :
    ∃ answer w', (postRoute defaultConfig.routing compare (Stream'.const 0) "u1" (fun _ => "")
        payoutCall).run defaultConfig windowsDown openWorld = (.ok answer, w') ∧
      answer.status = 200 := by
  obtain ⟨answer, w', hrun, hanswered, -⟩ := postRoute_answers defaultConfig windowsDown compare
    (Stream'.const 0) "u1" (fun _ => "") payoutCall openWorld (by
      intro call failure h
      cases call with
      | readWindows ids now => exact ⟨_, (Option.some.inj h).symm⟩
      | _ => cases h)
  have hstatus : callStatus defaultConfig.routing windowsDown compare (Stream'.const 0)
      payoutCall openWorld = 200 := by decide +kernel
  exact ⟨answer, w', hrun, hanswered.status.trans hstatus⟩

end SwitchService.Wire
