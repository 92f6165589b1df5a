import SwitchService.Foundation.NumberText
import SwitchService.Foundation.Redis
import SwitchService.Domain.Breaker
import SwitchService.Domain.Window
import SwitchService.Store.WindowSeries

set_option autoImplicit false

/-!
# Store: the breakers and the marks in Redis
(`store/breakerStore.ts`, `store/processedStore.ts`)

A breaker is a hash with three fields, a probe lock and a processed mark are texts with a
time to live.  Every snapshot that the breaker can come to reads back as it was written,
whatever the hash held before.
-/

namespace SwitchService.Store

open SwitchService.Foundation SwitchService.Domain

namespace BreakerStore

/-- The text of a state. -/
def stateText : BreakerState → String
  | .closed => "CLOSED"
  | .opened => "OPEN"
  | .halfOpen => "HALF_OPEN"

/-- A number that is finite and not below zero, or zero; `Number(undefined)` is `NaN`. -/
def toNumber (raw : Option String) : ℚ :=
  match raw.map Number.ofText with
  | some (.fin value) => if value ≥ 0 then value else 0
  | _ => 0

/-- The snapshot with the numbers of a hash. -/
def snapshotOf (state : BreakerState) (raw : String → Option String) : BreakerSnapshot where
  state := state
  openedAt := toNumber (raw "openedAt")
  probeSuccess := toNumber (raw "probeSuccess")

/-- Reads a hash; anything unknown is closed. -/
def parseSnapshot (raw : String → Option String) : BreakerSnapshot :=
  if raw "state" = some "OPEN" then snapshotOf .opened raw
  else if raw "state" = some "HALF_OPEN" then snapshotOf .halfOpen raw
  else closedBreaker

/-- The fields of one reply; an error and a missing reply have none. -/
def repliedFields (reply : Option (Except String Redis.Reply)) : String → Option String :=
  match reply with
  | some (.ok (.object raw)) => raw
  | _ => fun _ => none

/-- `read`: a key that is not there reads as a closed breaker. -/
def read (channelId : String) (now : ℚ) (db : Redis.Keyspace) :
    Except String BreakerSnapshot :=
  match (Redis.exec now (.hgetall (breakerKey channelId)) db).1 with
  | .error message => .error message
  | .ok reply => .ok (parseSnapshot (repliedFields (some (.ok reply))))

/-- The transaction of `readMany`. -/
def readCommands (channelIds : List String) : List Redis.Command :=
  channelIds.map fun id => .hgetall (breakerKey id)

/-- Reads some breakers in one round trip; an error of one command reads as no fields. -/
def readMany (channelIds : List String) (now : ℚ) (db : Redis.Keyspace) :
    String → Option BreakerSnapshot :=
  let replies := (Redis.multi now (readCommands channelIds) db).1
  channelIds.zipIdx.foldl
    (fun result (id, index) =>
      Function.update result id (some (parseSnapshot (repliedFields replies[index]?))))
    fun _ => none

/-- The fields that `write` sets. -/
def snapshotFields (snapshot : BreakerSnapshot) : List (String × String) :=
  [("state", stateText snapshot.state),
    ("openedAt", Number.numberText snapshot.openedAt),
    ("probeSuccess", Number.numberText snapshot.probeSuccess)]

/-- `write`: one `HSET` of all fields. -/
def write (channelId : String) (snapshot : BreakerSnapshot) (now : ℚ) (db : Redis.Keyspace) :
    Except String Redis.Keyspace :=
  let result := Redis.exec now (.hset (breakerKey channelId) (snapshotFields snapshot)) db
  result.1.map fun _ => result.2

/-- `SET` with `NX`: true when this call set the key. -/
def setIfFree (key : String) (ttlMs : ℤ) (now : ℚ) (db : Redis.Keyspace) :
    Except String (Bool × Redis.Keyspace) :=
  match Redis.exec now (.setNx key "1" ttlMs) db with
  | (.ok .ok, db') => .ok (true, db')
  | (.ok _, db') => .ok (false, db')
  | (.error message, _) => .error message

/-- Takes the single probe slot of a half-open breaker. -/
def takeProbeSlot (channelId : String) (ttlMs : ℚ) (now : ℚ) (db : Redis.Keyspace) :
    Except String (Bool × Redis.Keyspace) :=
  match Number.toInt? (.fin ttlMs) with
  | some ttl => setIfFree (probeLockKey channelId) ttl now db
  | none => .error Redis.outOfRange

/-- `releaseProbeSlot`: the slot is deleted, whoever holds it. -/
def releaseProbeSlot (channelId : String) (now : ℚ) (db : Redis.Keyspace) : Redis.Keyspace :=
  (Redis.exec now (.del (probeLockKey channelId)) db).2

/-- Removes the breakers of some channels and their probe locks. -/
def reset (channelIds : List String) (now : ℚ) (db : Redis.Keyspace) : Redis.Keyspace :=
  (Redis.multi now (channelIds.flatMap fun id =>
    [.del (breakerKey id), .del (probeLockKey id)]) db).2

end BreakerStore

/-- `RedisProcessedStore.claim`. -/
def ProcessedStore.claim (ttlSeconds : ℕ) (eventId : String) (now : ℚ)
    (db : Redis.Keyspace) : Except String (Bool × Redis.Keyspace) :=
  BreakerStore.setIfFree (processedKey eventId) (ttlSeconds * 1000) now db

namespace BreakerStore

/-! ## The snapshots that read back -/

/-- A snapshot that its text stands for: a closed one is the closed one, and the numbers of
the others have a decimal form. -/
def Storable (snapshot : BreakerSnapshot) : Prop :=
  snapshot = closedBreaker ∨
    (snapshot.state ≠ .closed ∧ Number.IsDecimal snapshot.openedAt ∧
      Number.IsDecimal snapshot.probeSuccess)

theorem toNumber_isDecimal (raw : Option String) : Number.IsDecimal (toNumber raw) := by
  unfold toNumber
  split
  · rename_i value hvalue
    split
    · rename_i hnonneg
      obtain ⟨text, _, htext⟩ := Option.map_eq_some_iff.mp hvalue
      exact Number.isDecimal_of_ofText htext hnonneg
    · exact_mod_cast Number.isDecimal_natCast 0
  · exact_mod_cast Number.isDecimal_natCast 0

theorem toNumber_numberText {q : ℚ} (h : Number.IsDecimal q) :
    toNumber (some (Number.numberText q)) = q := by
  simp [toNumber, Number.ofText_numberText h, h.nonneg]

/-- Whatever a hash holds, what is read of it could have been written. -/
theorem parseSnapshot_storable (raw : String → Option String) :
    Storable (parseSnapshot raw) := by
  unfold parseSnapshot
  split
  · exact .inr ⟨by simp [snapshotOf], toNumber_isDecimal _, toNumber_isDecimal _⟩
  · split
    · exact .inr ⟨by simp [snapshotOf], toNumber_isDecimal _, toNumber_isDecimal _⟩
    · exact .inl rfl

theorem Storable.evaluate {current : BreakerSnapshot} (h : Storable current) {now : ℚ}
    (hnow : Number.IsDecimal now) (stats : ChannelStats) (config : RoutingConfig) :
    Storable (evaluateBreaker current stats config now) := by
  have hzero : Number.IsDecimal 0 := by exact_mod_cast Number.isDecimal_natCast 0
  rcases evaluateBreaker_cases current stats config now with he | ⟨_, _, he⟩ | ⟨hs, _, he⟩
  · rw [he]
    exact h
  · rw [he]
    exact .inr ⟨by simp, hnow, hzero⟩
  · rw [he]
    rcases h with rfl | ⟨_, hopened, _⟩
    · cases hs
    · exact .inr ⟨by simp, hopened, hzero⟩

theorem Storable.probe {current : BreakerSnapshot} (h : Storable current) {now : ℚ}
    (hnow : Number.IsDecimal now) (success : Bool) (config : RoutingConfig) :
    Storable (recordProbe current success config now) := by
  have hzero : Number.IsDecimal 0 := by exact_mod_cast Number.isDecimal_natCast 0
  by_cases hstate : current.state = .halfOpen
  · cases success with
    | false =>
        rw [recordProbe_failed hstate]
        exact .inr ⟨by simp, hnow, hzero⟩
    | true =>
        rw [recordProbe_good hstate]
        split
        · exact .inl rfl
        · rcases h with rfl | ⟨_, hopened, hprobes⟩
          · cases hstate
          · exact .inr ⟨by simp, hopened, by exact_mod_cast hprobes.add_natCast 1⟩
  · rw [recordProbe_of_ne hstate]
    exact h

/-- A written snapshot reads back, whatever fields were there. -/
theorem parseSnapshot_setFields {snapshot : BreakerSnapshot} (h : Storable snapshot)
    (fields : String → Option String) :
    parseSnapshot (Redis.setFields fields (snapshotFields snapshot)) = snapshot := by
  have hstate : Redis.setFields fields (snapshotFields snapshot) "state" =
      some (stateText snapshot.state) := by
    simp [Redis.setFields, snapshotFields]
  have hopened : Redis.setFields fields (snapshotFields snapshot) "openedAt" =
      some (Number.numberText snapshot.openedAt) := by
    simp [Redis.setFields, snapshotFields]
  have hprobes : Redis.setFields fields (snapshotFields snapshot) "probeSuccess" =
      some (Number.numberText snapshot.probeSuccess) := by
    simp [Redis.setFields, snapshotFields]
  unfold parseSnapshot snapshotOf
  rw [hstate, hopened, hprobes]
  obtain ⟨state, openedAt, probeSuccess⟩ := snapshot
  rcases h with hclosed | ⟨hne, hdecimal, hdecimal'⟩
  · cases hclosed
    simp [stateText, closedBreaker]
  · cases state with
    | closed => exact absurd rfl hne
    | opened => simp [stateText, toNumber_numberText hdecimal, toNumber_numberText hdecimal']
    | halfOpen => simp [stateText, toNumber_numberText hdecimal, toNumber_numberText hdecimal']

/-! ## What a reader is shown -/

section

variable {now : ℚ} {db : Redis.Keyspace} {channelId : String}

/-- The key of a breaker holds a hash or nothing. -/
def HoldsHash (now : ℚ) (db : Redis.Keyspace) (channelId : String) : Prop :=
  ∃ fields, Redis.fieldsOf (Redis.left now (db (breakerKey channelId))) = .ok fields

/-- The snapshot that the key of a breaker shows. -/
def shown (now : ℚ) (db : Redis.Keyspace) (channelId : String) : BreakerSnapshot :=
  parseSnapshot (repliedFields (some (Redis.exec now (.hgetall (breakerKey channelId)) db).1))

theorem shown_of_fields {fields : String → Option String}
    (h : Redis.fieldsOf (Redis.left now (db (breakerKey channelId))) = .ok fields) :
    shown now db channelId = parseSnapshot fields := by
  simp [shown, Redis.exec, Redis.Command.key, Redis.Command.apply, h, repliedFields]

theorem shown_storable (now : ℚ) (db : Redis.Keyspace) (channelId : String) :
    Storable (shown now db channelId) := parseSnapshot_storable _

theorem read_eq (h : HoldsHash now db channelId) :
    read channelId now db = .ok (shown now db channelId) := by
  obtain ⟨fields, hfields⟩ := h
  rw [shown_of_fields hfields]
  simp [read, Redis.exec, Redis.Command.key, Redis.Command.apply, hfields, repliedFields]

theorem shown_of_read {snapshot : BreakerSnapshot} (h : read channelId now db = .ok snapshot) :
    HoldsHash now db channelId ∧ snapshot = shown now db channelId := by
  cases hfields : Redis.fieldsOf (Redis.left now (db (breakerKey channelId))) with
  | error message =>
      simp [read, Redis.exec, Redis.Command.key, Redis.Command.apply, hfields] at h
  | ok fields =>
      have hholds : HoldsHash now db channelId := ⟨fields, hfields⟩
      rw [read_eq hholds, Except.ok.injEq] at h
      exact ⟨hholds, h.symm⟩

/-- `readMany` shows each breaker by its own key. -/
theorem readMany_eq (channelIds : List String) :
    readMany channelIds now db = fun id =>
      if id ∈ channelIds then some (shown now db id) else none := by
  have hreplies : (Redis.multi now (readCommands channelIds) db).1 =
      channelIds.map fun id => (Redis.exec now (.hgetall (breakerKey id)) db).1 := by
    rw [Redis.multi_replies_of_reads]
    · simp only [readCommands, List.map_map]
      rfl
    · intro command hcommand content
      obtain ⟨id, _, rfl⟩ := List.mem_map.mp hcommand
      exact Redis.apply_hgetall _
  unfold readMany
  dsimp only
  rw [hreplies]
  refine WindowStore.foldl_update_zipIdx channelIds 0
    (fun _ index => parseSnapshot (repliedFields
      (channelIds.map fun id => (Redis.exec now (.hgetall (breakerKey id)) db).1)[index]?))
    (shown now db) ?_ _
  intro i id hid
  simp [hid, shown]

/-- A key with the same content shows the same. -/
theorem shown_congr {db' : Redis.Keyspace}
    (h : Redis.left now (db' (breakerKey channelId)) =
      Redis.left now (db (breakerKey channelId))) :
    shown now db' channelId = shown now db channelId := by
  simp [shown, Redis.exec, Redis.Command.key, h]

theorem HoldsHash.congr {db' : Redis.Keyspace} (h : HoldsHash now db channelId)
    (hsame : db' (breakerKey channelId) = db (breakerKey channelId)) :
    HoldsHash now db' channelId := by
  unfold HoldsHash
  rw [hsame]
  exact h

theorem read_congr {db' : Redis.Keyspace}
    (hsame : Redis.left now (db' (breakerKey channelId)) =
      Redis.left now (db (breakerKey channelId))) :
    read channelId now db' = read channelId now db := by
  simp [read, Redis.exec, Redis.Command.key, hsame]

/-- A key that holds nothing reads as a closed breaker. -/
theorem read_of_none (h : Redis.left now (db (breakerKey channelId)) = none) :
    read channelId now db = .ok closedBreaker := by
  simp [read, Redis.exec, Redis.Command.key, Redis.Command.apply, h, Redis.fieldsOf,
    repliedFields, parseSnapshot]

/-- A reset removes the two keys of each of its channels and leaves the others. -/
theorem reset_eq (channelIds : List String) (key : String) :
    reset channelIds now db key =
      if ∃ id ∈ channelIds, key = breakerKey id ∨ key = probeLockKey id then none
      else db key := by
  have hdel : ∀ command ∈ channelIds.flatMap fun id =>
      [Redis.Command.del (breakerKey id), .del (probeLockKey id)],
      ∃ key, command = .del key := by
    intro command hcommand
    obtain ⟨id, _, hid⟩ := List.mem_flatMap.mp hcommand
    rcases List.mem_pair.mp hid with rfl | rfl
    · exact ⟨_, rfl⟩
    · exact ⟨_, rfl⟩
  unfold reset
  rw [Redis.multi_del db hdel]
  refine if_congr ?_ rfl rfl
  rw [List.map_flatMap, List.mem_flatMap]
  simp [Redis.Command.key]

/-- A write sets the snapshot of its channel and leaves every other key. -/
theorem write_eq (h : HoldsHash now db channelId) {snapshot : BreakerSnapshot}
    (hstorable : Storable snapshot) :
    ∃ db', write channelId snapshot now db = .ok db' ∧ HoldsHash now db' channelId ∧
      shown now db' channelId = snapshot ∧
      ∀ key, key ≠ breakerKey channelId → db' key = db key := by
  obtain ⟨fields, hfields⟩ := h
  refine ⟨(Redis.exec now (.hset (breakerKey channelId) (snapshotFields snapshot)) db).2,
    ?_, ?_⟩
  · simp [write, Redis.exec, Redis.Command.key, Redis.Command.apply, hfields, Except.map]
  · have hafter : Redis.fieldsOf (Redis.left now ((Redis.exec now (.hset (breakerKey channelId)
        (snapshotFields snapshot)) db).2 (breakerKey channelId))) =
          .ok (Redis.setFields fields (snapshotFields snapshot)) := by
      simp only [Redis.exec, Redis.Command.key, Redis.Command.apply, hfields,
        Function.update_self, Redis.left_keep]
      rfl
    refine ⟨⟨_, hafter⟩, ?_, fun key hkey => Redis.exec_other hkey⟩
    rw [shown_of_fields hafter, parseSnapshot_setFields hstorable]

/-- `SET` with `NX` touches its own key only. -/
theorem setIfFree_other {key key' : String} {ttlMs : ℤ} {taken : Bool} {db' : Redis.Keyspace}
    (h : setIfFree key ttlMs now db = .ok (taken, db')) (hne : key' ≠ key) :
    db' key' = db key' := by
  unfold setIfFree at h
  have hother : (Redis.exec now (.setNx key "1" ttlMs) db).2 key' = db key' :=
    Redis.exec_other hne
  split at h
  · rename_i hexec
    cases h
    rw [hexec] at hother
    exact hother
  · rename_i hexec
    cases h
    rw [hexec] at hother
    exact hother
  · cases h

theorem releaseProbeSlot_other {key : String} (hne : key ≠ probeLockKey channelId) :
    releaseProbeSlot channelId now db key = db key :=
  Redis.exec_other hne

theorem takeProbeSlot_other {key : String} {ttlMs : ℚ} {taken : Bool} {db' : Redis.Keyspace}
    (h : takeProbeSlot channelId ttlMs now db = .ok (taken, db'))
    (hne : key ≠ probeLockKey channelId) : db' key = db key := by
  unfold takeProbeSlot at h
  split at h
  · exact setIfFree_other h hne
  · cases h

end

end BreakerStore

end SwitchService.Store
