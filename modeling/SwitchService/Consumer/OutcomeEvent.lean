import SwitchService.Foundation.Number
import SwitchService.Foundation.Validation

set_option autoImplicit false

/-!
# The outcome event (`outcomeEventSchema` of `consumer/outcomeHandler.ts`)

The handler takes any JSON value.  The schema checks it field by field, in the
order of the declaration, and reports every issue with the path of its field.
The texts of the issues are those of the schema library.
-/

namespace SwitchService.Consumer

open SwitchService.Foundation

/-- A JSON value. -/
inductive Json where
  | null
  | bool (value : Bool)
  | num (value : Number)
  | str (value : String)
  | arr (items : List Json)
  | obj (fields : List (String × Json))

/-- The type name that an issue reports for a received value. -/
def Json.typeName : Json → String
  | .null => "null"
  | .bool _ => "boolean"
  | .num .nan => "nan"
  | .num _ => "number"
  | .str _ => "string"
  | .arr _ => "array"
  | .obj _ => "object"

/-- `'success' | 'failed'`. -/
inductive OutcomeStatus where
  | success
  | failed
  deriving DecidableEq, Repr

/-- `'switch' | 'fallback'`. -/
inductive RoutingSource where
  | switch
  | fallback
  deriving DecidableEq, Repr

/-- The outcome of one payout. -/
structure TxnOutcomeEvent where
  schemaVersion : ℕ
  eventId : String
  occurredAt : String
  transactionId : String
  decisionId : String
  channelId : String
  status : OutcomeStatus
  latencyMs : ℕ
  errorCode : Option String
  attempt : ℕ
  routingSource : RoutingSource
  deriving DecidableEq

/-! ## The checks of one field -/

/-- The result of a check: a value, or what is wrong with it. -/
abbrev Check (α : Type) : Type := Validation Issue α

/-- The issue of a value of the wrong type. -/
def typeIssue (path expected : String) : Option Json → Issue
  | none => { path := path, message := "Required" }
  | some value =>
      { path := path, message := "Expected " ++ expected ++ ", received " ++ value.typeName }

/-- `z.string().min(1)`. -/
def nonEmptyString (path : String) : Option Json → Check String
  | some (.str value) =>
      if value = "" then
        .invalid [{ path := path, message := "String must contain at least 1 character(s)" }]
      else .valid value
  | value => .invalid [typeIssue path "string" value]

/-- `z.string().nullable()`. -/
def nullableString (path : String) : Option Json → Check (Option String)
  | some .null => .valid none
  | some (.str value) => .valid (some value)
  | value => .invalid [typeIssue path "string" value]

/-- `z.number().int()` with a lower bound of at least zero. -/
def boundedInt (path : String) (bound : Bound) : Option Json → Check ℕ
  | some (.num .nan) => .invalid [typeIssue path "number" (some (.num .nan))]
  | some (.num value) =>
      match integerIssues path bound value with
      | [] => .valid (value.toInt?.getD 0).toNat
      | issues => .invalid issues
  | value => .invalid [typeIssue path "number" value]

/-- `z.number().int().positive()`. -/
def positiveInt (path : String) : Option Json → Check ℕ := boundedInt path .positive

/-- `z.number().int().nonnegative()`. -/
def nonNegativeInt (path : String) : Option Json → Check ℕ := boundedInt path .nonnegative

/-- `z.literal(...)` of a string. -/
def literalString (path expected : String) : Option Json → Check Unit
  | some (.str value) =>
      if value = expected then .valid ()
      else .invalid [{
        path := path
        message := "Invalid literal value, expected \"" ++ expected ++ "\"" }]
  | _ => .invalid [{
      path := path
      message := "Invalid literal value, expected \"" ++ expected ++ "\"" }]

/-- `z.enum([...])`: the options with the values they stand for. -/
def enumString {α : Type} (path : String) (options : List (String × α)) :
    Option Json → Check α
  | some (.str value) =>
      match options.lookup value with
      | some a => .valid a
      | none => .invalid [{
          path := path
          message :=
            "Invalid enum value. Expected " ++ names ++ ", received '" ++ value ++ "'" }]
  | value => .invalid [typeIssue path names value]
where
  names : String := String.intercalate " | " (options.map fun o => "'" ++ o.1 ++ "'")

/-! ## The schema -/

/-- The event from its checked fields; the literal `eventType` carries nothing. -/
def TxnOutcomeEvent.ofFields (schemaVersion : ℕ) (eventId : String) (_eventType : Unit)
    (occurredAt transactionId decisionId channelId : String) (status : OutcomeStatus)
    (latencyMs : ℕ) (errorCode : Option String) (attempt : ℕ)
    (routingSource : RoutingSource) : TxnOutcomeEvent :=
  { schemaVersion, eventId, occurredAt, transactionId, decisionId, channelId, status,
    latencyMs, errorCode, attempt, routingSource }

/-- `outcomeEventSchema.safeParse`. -/
def outcomeEventSchema : Json → Check TxnOutcomeEvent
  | .obj fields =>
      TxnOutcomeEvent.ofFields
        <$> positiveInt "schemaVersion" (fields.lookup "schemaVersion")
        <*> nonEmptyString "eventId" (fields.lookup "eventId")
        <*> literalString "eventType" "txn.outcome" (fields.lookup "eventType")
        <*> nonEmptyString "occurredAt" (fields.lookup "occurredAt")
        <*> nonEmptyString "transactionId" (fields.lookup "transactionId")
        <*> nonEmptyString "decisionId" (fields.lookup "decisionId")
        <*> nonEmptyString "channelId" (fields.lookup "channelId")
        <*> enumString "status" [("success", .success), ("failed", .failed)]
              (fields.lookup "status")
        <*> nonNegativeInt "latencyMs" (fields.lookup "latencyMs")
        <*> nullableString "errorCode" (fields.lookup "errorCode")
        <*> positiveInt "attempt" (fields.lookup "attempt")
        <*> enumString "routingSource" [("switch", .switch), ("fallback", .fallback)]
              (fields.lookup "routingSource")
  | value => .invalid [typeIssue "" "object" (some value)]

/-- The `detail` of an `OutcomeContractError`. -/
def issuesDetail (issues : List Issue) : String :=
  String.intercalate "; " (issues.map fun i => i.path ++ " " ++ i.message)

/-! ## Valid events and their JSON form -/

/-- What the schema checks about the fields of an event. -/
structure TxnOutcomeEvent.WellFormed (event : TxnOutcomeEvent) : Prop where
  schemaVersion : 0 < event.schemaVersion
  eventId : event.eventId ≠ ""
  occurredAt : event.occurredAt ≠ ""
  transactionId : event.transactionId ≠ ""
  decisionId : event.decisionId ≠ ""
  channelId : event.channelId ≠ ""
  attempt : 0 < event.attempt

/-- The message that carries an event. -/
def TxnOutcomeEvent.toJson (event : TxnOutcomeEvent) : Json :=
  .obj [
    ("schemaVersion", .num (.fin event.schemaVersion)),
    ("eventId", .str event.eventId),
    ("eventType", .str "txn.outcome"),
    ("occurredAt", .str event.occurredAt),
    ("transactionId", .str event.transactionId),
    ("decisionId", .str event.decisionId),
    ("channelId", .str event.channelId),
    ("status", .str (match event.status with | .success => "success" | .failed => "failed")),
    ("latencyMs", .num (.fin event.latencyMs)),
    ("errorCode", match event.errorCode with | some code => .str code | none => .null),
    ("attempt", .num (.fin event.attempt)),
    ("routingSource",
      .str (match event.routingSource with | .switch => "switch" | .fallback => "fallback"))]

theorem boundedInt_nat (path : String) {bound : Bound} {n : ℕ}
    (h : bound.holds (.fin n) = true) :
    boundedInt path bound (some (.num (.fin n))) = .valid n := by
  have hissues : integerIssues path bound (.fin n) = [] :=
    integerIssues_eq_nil.mpr ⟨⟨n, toInt?_natCast n⟩, h⟩
  simp [boundedInt, hissues, toInt?_natCast]

theorem positiveInt_nat (path : String) {n : ℕ} (h : 0 < n) :
    positiveInt path (some (.num (.fin n))) = .valid n :=
  boundedInt_nat path (by simp [Bound.positive, h])

theorem nonNegativeInt_nat (path : String) (n : ℕ) :
    nonNegativeInt path (some (.num (.fin n))) = .valid n := by
  refine boundedInt_nat path ?_
  rcases Nat.eq_zero_or_pos n with h | h
  · simp [Bound.nonnegative, h]
  · simp [Bound.nonnegative, h]

theorem nonEmptyString_of_ne (path : String) {s : String} (h : s ≠ "") :
    nonEmptyString path (some (.str s)) = .valid s := by
  simp [nonEmptyString, h]

/-- The schema reads back every well-formed event from its message. -/
theorem outcomeEventSchema_toJson {event : TxnOutcomeEvent} (h : event.WellFormed) :
    outcomeEventSchema event.toJson = .valid event := by
  have hstatus : enumString "status" [("success", OutcomeStatus.success), ("failed", .failed)]
      (some (.str (match event.status with | .success => "success" | .failed => "failed"))) =
      .valid event.status := by
    cases event.status <;> rfl
  have hcode : nullableString "errorCode"
      (some (match event.errorCode with | some code => Json.str code | none => .null)) =
      .valid event.errorCode := by
    cases event.errorCode <;> rfl
  have hsource : enumString "routingSource"
      [("switch", RoutingSource.switch), ("fallback", .fallback)]
      (some (.str (match event.routingSource with
        | .switch => "switch" | .fallback => "fallback"))) = .valid event.routingSource := by
    cases event.routingSource <;> rfl
  have htype : literalString "eventType" "txn.outcome" (some (.str "txn.outcome")) =
      .valid () := rfl
  simp only [outcomeEventSchema, TxnOutcomeEvent.toJson, List.lookup_cons, String.reduceBEq,
    positiveInt_nat _ h.schemaVersion, nonEmptyString_of_ne _ h.eventId, htype,
    nonEmptyString_of_ne _ h.occurredAt, nonEmptyString_of_ne _ h.transactionId,
    nonEmptyString_of_ne _ h.decisionId, nonEmptyString_of_ne _ h.channelId, hstatus,
    nonNegativeInt_nat, hcode, positiveInt_nat _ h.attempt, hsource, Validation.map_valid,
    Validation.valid_seq_valid, TxnOutcomeEvent.ofFields]

/-- The outcome of a payout that was routed by a decision. -/
def payoutOutcome (eventId decisionId channelId : String) (status : OutcomeStatus) :
    TxnOutcomeEvent where
  schemaVersion := 1
  eventId := eventId
  occurredAt := "2026-01-01T00:00:00.000Z"
  transactionId := "txn_1"
  decisionId := decisionId
  channelId := channelId
  status := status
  latencyMs := 120
  errorCode := none
  attempt := 1
  routingSource := .switch

theorem payoutOutcome_message {eventId decisionId channelId : String}
    (status : OutcomeStatus) (hevent : eventId ≠ "") (hdecision : decisionId ≠ "")
    (hchannel : channelId ≠ "") :
    outcomeEventSchema (payoutOutcome eventId decisionId channelId status).toJson =
      .valid (payoutOutcome eventId decisionId channelId status) := by
  apply outcomeEventSchema_toJson
  constructor <;> simp [payoutOutcome, *]

end SwitchService.Consumer
