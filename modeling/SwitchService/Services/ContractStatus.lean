import SwitchService.Config
import SwitchService.Foundation.FirstOfKey
import Mathlib.Data.List.DropRight

set_option autoImplicit false

/-!
# Services: the contracts of the broker (`services/contractStatusService.ts`)

The broker is asked once for each participant, and the rows of both answers are collected
in the order of arrival.  A row is left out where one with the same consumer, provider and
consumer version is there already; the version of the provider is not compared.
-/

namespace SwitchService.Services

open SwitchService.Foundation

/-! ## What the broker answers -/

/-- The version of a participant in an entry. -/
structure ParticipantVersion where
  number : Option String
  deriving DecidableEq

/-- One side of an entry. -/
structure Participant where
  name : Option String
  version : Option ParticipantVersion
  deriving DecidableEq

/-- The result of an entry, where there is one. -/
structure VerificationResult where
  success : Option Bool
  verifiedAt : Option String
  deriving DecidableEq

/-- One entry of a matrix; everything in it may be missing or null. -/
structure MatrixEntry where
  consumer : Option Participant
  provider : Option Participant
  verificationResult : Option VerificationResult
  deriving DecidableEq

/-- How the request for the matrix of one participant ends. -/
inductive MatrixAnswer where
  /-- The request or the reading of its body rejects. -/
  | rejected
  /-- A status that is not of the success range. -/
  | notOk
  | body (matrix : Option (List MatrixEntry))
  deriving DecidableEq

/-- `PACTICIPANTS`. -/
def pacticipants : List String := ["disbursement-service", "switch-service"]

/-- `BROKER_URL`, without the slashes at its end. -/
def brokerUrl (env : Environment) : String :=
  String.ofList (((env "PACT_BROKER_BASE_URL").getD "http://localhost:9292").toList.rdropWhile
    (· = '/'))

/-! ## The status -/

/-- A line of the status. -/
structure ContractRow where
  consumer : String
  provider : String
  consumerVersion : Option String
  providerVersion : Option String
  verified : Option Bool
  verifiedAt : Option String
  deriving DecidableEq

/-- How many rows are verified, failed and unknown. -/
structure ContractSummary where
  verified : ℕ
  failed : ℕ
  unknown : ℕ
  deriving DecidableEq

/-- What `status` answers. -/
structure ContractStatus where
  brokerUrl : String
  reachable : Bool
  /-- The clock reading that the source prints as an ISO date. -/
  checkedAt : ℚ
  rows : List ContractRow
  summary : ContractSummary
  deriving DecidableEq

/-- The number of the version, where there is one. -/
def versionNumber (participant : Option Participant) : Option String :=
  participant.bind fun p => p.version.bind (·.number)

/-- The row of an entry. -/
def toRow (entry : MatrixEntry) : ContractRow where
  consumer := (entry.consumer.bind (·.name)).getD "unknown"
  provider := (entry.provider.bind (·.name)).getD "unknown"
  consumerVersion := versionNumber entry.consumer
  providerVersion := versionNumber entry.provider
  verified := entry.verificationResult.bind (·.success)
  verifiedAt := entry.verificationResult.bind (·.verifiedAt)

/-- A row of the same pair is there. -/
def already (rows : List ContractRow) (row : ContractRow) : Bool :=
  rows.any fun r =>
    r.consumer = row.consumer && r.provider = row.provider &&
      r.consumerVersion = row.consumerVersion

/-- Pushes the row of an entry unless one of the same pair is there. -/
def pushRow (rows : List ContractRow) (entry : MatrixEntry) : List ContractRow :=
  if already rows (toRow entry) then rows else rows ++ [toRow entry]

/-- Takes up the answer for one participant. -/
def takeAnswer (state : Bool × List ContractRow) (answer : MatrixAnswer) :
    Bool × List ContractRow :=
  match answer with
  | .rejected | .notOk => (false, state.2)
  | .body matrix => (state.1, (matrix.getD []).foldl pushRow state.2)

/-- The counts of the rows by their result. -/
def summarize (rows : List ContractRow) : ContractSummary where
  verified := (rows.filter (·.verified = some true)).length
  failed := (rows.filter (·.verified = some false)).length
  unknown := (rows.filter (·.verified = none)).length

/-- The status from the rows that were collected. -/
def statusOf (env : Environment) (checkedAt : ℚ) (state : Bool × List ContractRow) :
    ContractStatus where
  brokerUrl := brokerUrl env
  reachable := state.1
  checkedAt := checkedAt
  rows := state.2
  summary := summarize state.2

/-- Asks the broker for each participant in turn. -/
def readBroker (env : Environment) (checkedAt : ℚ) (fetch : String → MatrixAnswer) :
    ContractStatus :=
  statusOf env checkedAt
    (pacticipants.foldl (fun state p => takeAnswer state (fetch p)) (true, []))

/-! ## The rows as the first of each pair -/

/-- The entries of one answer. -/
def entriesOf : MatrixAnswer → List MatrixEntry
  | .rejected | .notOk => []
  | .body matrix => matrix.getD []

/-- The entries of all answers, in the order of arrival. -/
def received (fetch : String → MatrixAnswer) : List MatrixEntry :=
  pacticipants.flatMap fun p => entriesOf (fetch p)

/-- What the rows of one pair have in common. -/
def pairOf (entry : MatrixEntry) : String × String × Option String :=
  ((toRow entry).consumer, (toRow entry).provider, (toRow entry).consumerVersion)

variable {env : Environment} {checkedAt : ℚ} {fetch : String → MatrixAnswer}

theorem takeAnswer_rows (state : Bool × List ContractRow) (answer : MatrixAnswer) :
    (takeAnswer state answer).2 = (entriesOf answer).foldl pushRow state.2 := by
  cases answer <;> rfl

theorem already_map (kept : List MatrixEntry) (entry : MatrixEntry) :
    already (kept.map toRow) (toRow entry) =
      kept.any fun other => pairOf other = pairOf entry := by
  unfold already pairOf
  rw [List.any_map]
  congr 1
  funext other
  simp [Bool.and_assoc]

theorem pushRow_map (kept : List MatrixEntry) (entry : MatrixEntry) :
    pushRow (kept.map toRow) entry = (addNew pairOf kept entry).map toRow := by
  unfold pushRow addNew
  rw [already_map]
  split
  · rfl
  · rw [List.map_append, List.map_singleton]

theorem foldl_pushRow (entries kept : List MatrixEntry) :
    entries.foldl pushRow (kept.map toRow) = (entries.foldl (addNew pairOf) kept).map toRow := by
  induction entries generalizing kept with
  | nil => rfl
  | cons entry entries ih => rw [List.foldl_cons, List.foldl_cons, pushRow_map, ih]

/-- The rows are those of the first entry of each pair. -/
theorem rows_eq : (readBroker env checkedAt fetch).rows =
    (firstOfEach pairOf (received fetch)).map toRow := by
  have hstate : ∀ (names : List String) (state : Bool × List ContractRow),
      (names.foldl (fun state p => takeAnswer state (fetch p)) state).2 =
        (names.flatMap fun p => entriesOf (fetch p)).foldl pushRow state.2 := by
    intro names
    induction names with
    | nil => exact fun _ => rfl
    | cons name names ih =>
        intro state
        rw [List.foldl_cons, ih, takeAnswer_rows, List.flatMap_cons, List.foldl_append]
  exact (hstate pacticipants (true, [])).trans (foldl_pushRow (received fetch) [])

/-! ## The summary -/

/-- The result that an entry reports. -/
def resultOf (entry : MatrixEntry) : Option Bool := (toRow entry).verified

/-- Summaries are equal exactly when the rows have the same results. -/
theorem summarize_eq_iff {rows rows' : List ContractRow} :
    summarize rows = summarize rows' ↔
      (rows.map (·.verified)).Perm (rows'.map (·.verified)) := by
  have hcount : ∀ (rows : List ContractRow) (result : Option Bool),
      (rows.filter (·.verified = result)).length = (rows.map (·.verified)).count result := by
    intro rows result
    rw [List.count, List.countP_map, List.countP_eq_length_filter]
    refine congrArg List.length (List.filter_congr fun row _ => ?_)
    rw [Function.comp_apply, beq_eq_decide]
  rw [List.perm_iff_count]
  constructor
  · intro h result
    rw [← hcount, ← hcount]
    cases result with
    | none => exact congrArg ContractSummary.unknown h
    | some success =>
        cases success with
        | false => exact congrArg ContractSummary.failed h
        | true => exact congrArg ContractSummary.verified h
  · intro h
    unfold summarize
    rw [hcount, hcount, hcount, hcount, hcount, hcount, h, h, h]

/-- The summary does not depend on the order in which the entries come, and a failed
verification that no other entry of the same versions contradicts is counted. -/
structure FaithfulSummary (env : Environment) (checkedAt : ℚ)
    (fetch : String → MatrixAnswer) : Prop where
  unordered : ∀ fetch', (received fetch').Perm (received fetch) →
    (readBroker env checkedAt fetch').summary = (readBroker env checkedAt fetch).summary
  counted : ∀ entry ∈ received fetch, resultOf entry = some false →
    (∀ other ∈ received fetch, pairOf other = pairOf entry →
      (toRow other).providerVersion = (toRow entry).providerVersion →
        resultOf other ≠ some true) →
    1 ≤ (readBroker env checkedAt fetch).summary.failed

/-- The entries that share a consumer, a provider and a consumer version report the same. -/
def PairsAgree (fetch : String → MatrixAnswer) : Prop :=
  ∀ entry ∈ received fetch, ∀ other ∈ received fetch,
    pairOf entry = pairOf other → resultOf entry = resultOf other

variable (env checkedAt fetch) in
theorem results_eq : (readBroker env checkedAt fetch).rows.map (·.verified) =
    (firstOfEach pairOf (received fetch)).map resultOf := by
  rw [rows_eq, List.map_map]
  rfl

theorem summary_eq_iff {fetch' : String → MatrixAnswer} :
    (readBroker env checkedAt fetch').summary = (readBroker env checkedAt fetch).summary ↔
      ((firstOfEach pairOf (received fetch')).map resultOf).Perm
        ((firstOfEach pairOf (received fetch)).map resultOf) := by
  rw [← results_eq env checkedAt fetch', ← results_eq env checkedAt fetch]
  exact summarize_eq_iff

/-- Any entries can be what a broker answers. -/
theorem exists_received (entries : List MatrixEntry) : ∃ fetch', received fetch' = entries := by
  refine ⟨fun p => if p = "switch-service" then .notOk else .body (some entries), ?_⟩
  simp [received, pacticipants, entriesOf]

/-- Where the entries of one pair report the same, a failed entry has a failed row. -/
theorem PairsAgree.failed_pos (h : PairsAgree fetch) {entry : MatrixEntry}
    (hmem : entry ∈ received fetch) (hfailed : resultOf entry = some false) :
    1 ≤ (readBroker env checkedAt fetch).summary.failed := by
  obtain ⟨kept, hkept, hpair⟩ : ∃ kept ∈ firstOfEach pairOf (received fetch),
      pairOf kept = pairOf entry := exists_mem_firstOfEach hmem
  have hresult : (toRow kept).verified = some false :=
    (h kept (mem_of_mem_firstOfEach hkept) entry hmem hpair).trans hfailed
  have hrow : toRow kept ∈ (readBroker env checkedAt fetch).rows := by
    rw [rows_eq]
    exact List.mem_map_of_mem hkept
  have hcounted : toRow kept ∈ (readBroker env checkedAt fetch).rows.filter
      (·.verified = some false) := List.mem_filter.mpr ⟨hrow, decide_eq_true hresult⟩
  exact List.length_pos_of_mem hcounted

/-- The summary is that of the entries, in any order and with every failure, exactly when
the entries of the same consumer, provider and consumer version report the same. -/
theorem faithfulSummary_iff (env : Environment) (checkedAt : ℚ)
    (fetch : String → MatrixAnswer) :
    FaithfulSummary env checkedAt fetch ↔ PairsAgree fetch := by
  constructor
  · intro h entry hentry other hother hpair
    refine agree_of_map_perm resultOf (fun entries hperm => ?_) hentry hother hpair
    obtain ⟨fetch', rfl⟩ := exists_received entries
    exact summary_eq_iff.mp (h.unordered fetch' hperm)
  · intro h
    exact
      { unordered := fun fetch' hperm =>
          summary_eq_iff.mpr (firstOfEach_map_perm resultOf h hperm)
        counted := fun entry hmem hfailed _ => h.failed_pos hmem hfailed }

/-! ## Two versions of a provider -/

/-- A participant at a version. -/
def participant (name version : String) : Participant where
  name := some name
  version := some { number := some version }

/-- A consumer at its first version, verified by one version of the provider. -/
def verification (providerVersion : String) (success : Bool) : MatrixEntry where
  consumer := some (participant "disbursement-service" "1")
  provider := some (participant "switch-service" providerVersion)
  verificationResult := some { success := some success, verifiedAt := none }

/-- The first version of the provider passes and the second fails. -/
def secondFails (_ : String) : MatrixAnswer :=
  .body (some [verification "1" true, verification "2" false])

/-- The failure of the second version is not counted. -/
theorem secondFails_hidden : ¬ FaithfulSummary (fun _ => none) 0 secondFails := by
  intro h
  have hcounted := h.counted (verification "2" false) (by decide) (by decide) (by decide)
  exact absurd hcounted (by decide)

end SwitchService.Services
