import SwitchService.Consumer.OutcomeConsumer
import SwitchService.Domain.KeySpace
import SwitchService.Repositories.ChannelWrites
import SwitchService.Store.Refinement
import SwitchService.Store.BreakerStore

set_option autoImplicit false

/-!
# Services: the reset between two tests (`services/adminService.ts`)

`reset` empties the stores in a fixed order: three families of keys by scanning for a
pattern, the breakers by the list of the channels, the rest at once.  The list is the one of
the default corridor, so a breaker whose channel has no row there is left as it was;
everything else is forgotten.

Every call is carried out, nothing else runs in between, and the clock stands still.
-/

namespace SwitchService.Services

open SwitchService.Foundation SwitchService.Domain SwitchService.Store
open SwitchService.Repositories SwitchService.Consumer

/-- What the service keeps, in its process, in its database and in Redis. -/
structure ServiceState where
  /-- `Date.now()`, by which Redis counts its times to live. -/
  now : ℕ
  /-- The offset of the clock of the service. -/
  offsetMs : ℚ
  redis : Redis.Database
  table : Table
  cache : Option ChannelCache
  decisions : List (RoutingDecision × String)

/-- What an action of a test rejects with. -/
inductive AdminError where
  /-- `NotFoundError`. -/
  | notFound (message : String)
  /-- A Redis command that rejected. -/
  | rejected (message : String)
  deriving DecidableEq

/-- What `reset` answers. -/
structure ResetAnswer where
  reset : Bool
  removedWindowKeys : ℤ
  deriving DecidableEq

/-- Guards every action of a test. -/
def assertNotProduction (config : Config) : Except AdminError Unit :=
  if config.nodeEnv = "production" then .error (.notFound "no route") else .ok ()

namespace ServiceState

/-! ## The steps -/

/-- `OffsetClock.reset`. -/
def resetClock (s : ServiceState) : ServiceState := { s with offsetMs := 0 }

/-- `WindowStore.clear`. -/
def clearWindows (scanner : Redis.Scanner) (s : ServiceState) : ℤ × ServiceState :=
  let removed := s.redis.deleteByPattern scanner s.now "sw:*"
  (removed.1, { s with redis := removed.2 })

/-- `BreakerStore.reset`. -/
def resetBreakers (channelIds : List String) (s : ServiceState) : ServiceState :=
  { s with
    redis :=
      { keyspace := BreakerStore.reset channelIds s.now s.redis.keyspace
        keys := s.redis.keys
        listed := by
          intro key hkey
          rw [BreakerStore.reset_eq] at hkey
          split at hkey
          · exact absurd rfl hkey
          · exact s.redis.listed key hkey } }

/-- `TRUNCATE routing_decisions`. -/
def truncateDecisions (s : ServiceState) : ServiceState := { s with decisions := [] }

/-- `DELETE FROM channels`; the cached list goes with it. -/
def deleteAllChannels (s : ServiceState) : ServiceState :=
  { s with table := emptyTable, cache := none }

/-- `clearChannelCache`. -/
def clearChannelCache (s : ServiceState) : ServiceState := { s with cache := none }

/-- `DEL` of one key. -/
def del (key : String) (s : ServiceState) : ServiceState :=
  { s with redis := (s.redis.del s.now [key]).2 }

/-- `ensureConsumerGroup`: true when this call made the group. -/
def ensureConsumerGroup (config : Config) (s : ServiceState) :
    Except AdminError Bool × ServiceState :=
  match s.redis.exec s.now (.xgroupCreate config.outcomeStream) with
  | (.ok _, redis) => (.ok true, { s with redis := redis })
  | (.error message, redis) =>
      if includesText message "BUSYGROUP" then (.ok false, { s with redis := redis })
      else (.error (.rejected message), { s with redis := redis })

/-- `SCAN` with a pattern, and `DEL` of what it finds. -/
def deleteByPattern (scanner : Redis.Scanner) (pattern : String) (s : ServiceState) :
    ServiceState :=
  { s with redis := (s.redis.deleteByPattern scanner s.now pattern).2 }

end ServiceState

/-- The steps of a reset before it makes the consumer group again. -/
def emptied (config : Config) (scanner : Redis.Scanner) (s : ServiceState) :
    ℤ × ServiceState :=
  let s := s.resetClock
  let (removedWindowKeys, s) := s.clearWindows scanner
  let channels := channelsOf s.table defaultCorridor
  let s := s.resetBreakers (channels.map (·.id))
  let s := s.truncateDecisions
  let s := s.deleteAllChannels
  let s := s.clearChannelCache
  let s := s.del config.outcomeStream
  let s := s.del config.deadLetterStream
  (removedWindowKeys, s)

/-- Puts the service back to a known state. -/
def reset (config : Config) (scanner : Redis.Scanner) (s : ServiceState) :
    Except AdminError ResetAnswer × ServiceState :=
  match assertNotProduction config with
  | .error error => (.error error, s)
  | .ok () =>
      let (removedWindowKeys, s) := emptied config scanner s
      match s.ensureConsumerGroup config with
      | (.error error, s) => (.error error, s)
      | (.ok _, s) =>
          let s := s.deleteByPattern scanner "processed:*"
          let s := s.deleteByPattern scanner "probe:*"
          (.ok { reset := true, removedWindowKeys := removedWindowKeys }, s)

/-! ## What is left in Redis -/

variable (config : Config) (scanner : Redis.Scanner) (s : ServiceState)

/-- A key of a channel that a reset of the breakers comes to. -/
def IsListedKey (key : String) : Prop :=
  ∃ id ∈ (channelsOf s.table defaultCorridor).map (·.id),
    key = breakerKey id ∨ key = probeLockKey id

instance (key : String) : Decidable (IsListedKey s key) :=
  inferInstanceAs (Decidable (∃ _ ∈ _, _))

theorem shown_clearWindows (key : String) :
    (s.clearWindows scanner).2.redis.shown s.now key =
      if Redis.BeginsWith "sw:" key then none else s.redis.shown s.now key := by
  have hmatch := Redis.globMatch_iff "sw:" "sw:*" rfl (by decide) key
  unfold ServiceState.clearWindows
  rw [Redis.shown_deleteByPattern]
  exact if_congr hmatch rfl rfl

theorem shown_deleteByPattern (start pattern key : String)
    (hpattern : pattern.toList = start.toList ++ ['*']) (hstar : '*' ∉ start.toList) :
    (s.deleteByPattern scanner pattern).redis.shown s.now key =
      if Redis.BeginsWith start key then none else s.redis.shown s.now key := by
  unfold ServiceState.deleteByPattern
  rw [Redis.shown_deleteByPattern]
  exact if_congr (Redis.globMatch_iff start pattern hpattern hstar key) rfl rfl

theorem shown_resetBreakers (channelIds : List String) (key : String) :
    (s.resetBreakers channelIds).redis.shown s.now key =
      if ∃ id ∈ channelIds, key = breakerKey id ∨ key = probeLockKey id then none
      else s.redis.shown s.now key := by
  unfold ServiceState.resetBreakers Redis.Database.shown
  dsimp only
  rw [BreakerStore.reset_eq]
  split <;> rfl

theorem shown_del (gone key : String) :
    (s.del gone).redis.shown s.now key =
      if key = gone then none else s.redis.shown s.now key := by
  unfold ServiceState.del
  rw [Redis.shown_del]
  exact if_congr List.mem_singleton rfl rfl

theorem shown_emptied (key : String) :
    (emptied config scanner s).2.redis.shown s.now key =
      if key = config.deadLetterStream ∨ key = config.outcomeStream ∨ IsListedKey s key ∨
          Redis.BeginsWith "sw:" key then none
      else s.redis.shown s.now key := by
  set windowsGone := (s.resetClock.clearWindows scanner).2
  set breakersGone := windowsGone.resetBreakers
    ((channelsOf s.table defaultCorridor).map (·.id))
  have hwindows : windowsGone.redis.shown s.now key =
      if Redis.BeginsWith "sw:" key then none else s.redis.shown s.now key :=
    shown_clearWindows scanner s.resetClock key
  have hbreakers : breakersGone.redis.shown s.now key =
      if IsListedKey s key then none else windowsGone.redis.shown s.now key :=
    shown_resetBreakers windowsGone _ key
  have hstream : (breakersGone.del config.outcomeStream).redis.shown s.now key =
      if key = config.outcomeStream then none else breakersGone.redis.shown s.now key :=
    shown_del breakersGone config.outcomeStream key
  have hdead : (emptied config scanner s).2.redis.shown s.now key =
      if key = config.deadLetterStream then none
      else (breakersGone.del config.outcomeStream).redis.shown s.now key :=
    shown_del (breakersGone.del config.outcomeStream) config.deadLetterStream key
  rw [hdead, hstream, hbreakers, hwindows]
  simp only [ite_or]

/-- The group is made on a key that holds nothing. -/
theorem ensureConsumerGroup_eq (h : s.redis.shown s.now config.outcomeStream = none) :
    ∃ redis, s.ensureConsumerGroup config = (.ok true, { s with redis := redis }) ∧
      ∀ key, redis.shown s.now key =
        if key = config.outcomeStream then some Redis.freshStream
        else s.redis.shown s.now key := by
  obtain ⟨redis, hexec, hshown⟩ := Redis.exec_xgroupCreate h
  refine ⟨redis, ?_, hshown⟩
  unfold ServiceState.ensureConsumerGroup
  rw [hexec]

/-- What is shown under every key after a reset. -/
def Swept (redis : Redis.Database) : Prop :=
  ∀ key, redis.shown s.now key =
    if Redis.BeginsWith "probe:" key ∨ Redis.BeginsWith "processed:" key then none
    else if key = config.outcomeStream then some Redis.freshStream
    else if key = config.deadLetterStream ∨ key = config.outcomeStream ∨ IsListedKey s key ∨
        Redis.BeginsWith "sw:" key then none
    else s.redis.shown s.now key

/-- Outside production a reset answers, and this is what it leaves. -/
theorem reset_spec (hnode : config.nodeEnv ≠ "production") :
    ∃ redis, reset config scanner s =
        (.ok { reset := true, removedWindowKeys := (emptied config scanner s).1 },
          { now := s.now, offsetMs := 0, redis := redis, table := emptyTable, cache := none,
            decisions := [] }) ∧
      Swept config s redis := by
  have hnone : (emptied config scanner s).2.redis.shown s.now config.outcomeStream = none := by
    rw [shown_emptied, if_pos (.inr (.inl rfl))]
  obtain ⟨redis, hgroup, hshown⟩ :=
    ensureConsumerGroup_eq config (emptied config scanner s).2 hnone
  set created : ServiceState := { (emptied config scanner s).2 with redis := redis }
  refine ⟨((created.deleteByPattern scanner "processed:*").deleteByPattern scanner
    "probe:*").redis, ?_, fun key => ?_⟩
  · unfold reset assertNotProduction
    rw [if_neg hnode]
    dsimp only
    rw [hgroup]
    rfl
  · have hprobe := shown_deleteByPattern scanner (created.deleteByPattern scanner "processed:*")
      "probe:" "probe:*" key rfl (by decide)
    have hprocessed := shown_deleteByPattern scanner created "processed:" "processed:*" key rfl
      (by decide)
    rw [ite_or]
    have hstream := (hshown key).trans
      (if_congr Iff.rfl rfl (shown_emptied config scanner s key))
    exact hprobe.trans (if_congr Iff.rfl rfl (hprocessed.trans
      (if_congr Iff.rfl rfl hstream)))

/-! ## What a reader finds -/

/-- What the service and its console can find.  The stores are read by the wall clock, by
which the service goes where the offset is zero. -/
@[ext]
structure Observed where
  offsetMs : ℚ
  rows : List Row
  cache : Option ChannelCache
  decisions : List (RoutingDecision × String)
  outcomes : Option Redis.Stored
  deadLetters : Option Redis.Stored
  window : String → Except String ChannelStats
  breaker : String → Except String BreakerSnapshot
  probeSlot : String → Option Redis.Stored
  processed : String → Option Redis.Stored

/-- The view of every store. -/
def ServiceState.observe (config : Config) (s : ServiceState) : Observed where
  offsetMs := s.offsetMs
  rows := s.table.rows
  cache := s.cache
  decisions := s.decisions
  outcomes := s.redis.shown s.now config.outcomeStream
  deadLetters := s.redis.shown s.now config.deadLetterStream
  window channelId :=
    (WindowStore.ofConfig config.routing).read channelId s.now s.redis.keyspace
  breaker channelId := BreakerStore.read channelId s.now s.redis.keyspace
  probeSlot channelId := s.redis.shown s.now (probeLockKey channelId)
  processed eventId := s.redis.shown s.now (processedKey eventId)

/-- Nothing but an empty stream with a fresh group. -/
def blank (config : Config) : Observed where
  offsetMs := 0
  rows := []
  cache := none
  decisions := []
  outcomes := some Redis.freshStream
  deadLetters :=
    if config.deadLetterStream = config.outcomeStream then some Redis.freshStream else none
  window channelId := .ok (emptyStats channelId)
  breaker _ := .ok closedBreaker
  probeSlot _ := none
  processed _ := none

/-- Resets from two states end in the same state, in which nothing is left. -/
structure Forgets (config : Config) (scanner : Redis.Scanner) (s s' : ServiceState) : Prop where
  answers : ∃ answer, (reset config scanner s).1 = .ok answer
  answers' : ∃ answer, (reset config scanner s').1 = .ok answer
  same : (reset config scanner s).2.observe config = (reset config scanner s').2.observe config
  blank : (reset config scanner s).2.observe config = blank config

/-- The name of the outcome stream is no key that the reset scans for after it made the
stream again, and no key of a breaker. -/
structure StreamApart (config : Config) : Prop where
  probe : ¬ Redis.BeginsWith "probe:" config.outcomeStream
  processed : ¬ Redis.BeginsWith "processed:" config.outcomeStream
  breaker : ¬ Redis.BeginsWith "breaker:" config.outcomeStream

/-- Every breaker that does not read as closed is one that the reset comes to: its channel
has a row of the default corridor, or its key is the name of the dead-letter stream. -/
def Reaches (config : Config) (s : ServiceState) : Prop :=
  ∀ channelId, BreakerStore.read channelId s.now s.redis.keyspace ≠ .ok closedBreaker →
    (∃ row ∈ s.table.rows, row.id = channelId ∧ row.corridor = defaultCorridor) ∨
      breakerKey channelId = config.deadLetterStream

/-! ## The keys of the stores -/

theorem isListedKey_breakerKey (channelId : String) :
    IsListedKey s (breakerKey channelId) ↔
      ∃ row ∈ s.table.rows, row.id = channelId ∧ row.corridor = defaultCorridor := by
  have hprobe : ∀ id, breakerKey channelId ≠ probeLockKey id := fun id =>
    ne_of_keyFamily (by simp)
  simp only [IsListedKey, breakerKey_inj, hprobe, or_false, exists_eq_right', channelsOf,
    List.map_map, List.mem_map, List.mem_filter, decide_eq_true_eq, Function.comp, toChannel]
  constructor
  · rintro ⟨row, ⟨hmem, hcorridor⟩, hid⟩
    exact ⟨row, hmem, hid, hcorridor⟩
  · rintro ⟨row, hmem, hid, hcorridor⟩
    exact ⟨row, ⟨hmem, hcorridor⟩, hid⟩

/-- No scan comes to the key of a breaker. -/
theorem not_beginsWith_breakerKey (channelId : String) :
    ¬ Redis.BeginsWith "sw:" (breakerKey channelId) ∧
      ¬ Redis.BeginsWith "probe:" (breakerKey channelId) ∧
      ¬ Redis.BeginsWith "processed:" (breakerKey channelId) := by
  have hother : ∀ f : Family, f ≠ .breaker →
      ¬ Redis.BeginsWith f.start (breakerKey channelId) := fun f hf hbegins =>
    hf (((Key.breaker channelId).beginsWith_start_iff f).mp hbegins).symm
  exact ⟨hother .window (by decide), hother .probeLock (by decide),
    hother .processed (by decide)⟩

/-! ## What a reset leaves -/

variable {config scanner s} {redis : Redis.Database}

/-- The keys of the windows hold nothing, unless one is the name of the stream. -/
theorem Swept.silent (h : Swept config s redis) {key : String}
    (hkey : Redis.BeginsWith "sw:" key) :
    WindowStore.Silent (Redis.left s.now (redis.keyspace key)) := by
  have hshown := h key
  unfold Redis.Database.shown at hshown
  unfold WindowStore.Silent
  rw [hshown]
  by_cases hscanned : Redis.BeginsWith "probe:" key ∨ Redis.BeginsWith "processed:" key
  · rw [if_pos hscanned]
    exact .inl rfl
  · rw [if_neg hscanned]
    by_cases hstream : key = config.outcomeStream
    · rw [if_pos hstream]
      exact .inr ⟨_, _, rfl⟩
    · rw [if_neg hstream, if_pos (.inr (.inr (.inr hkey)))]
      exact .inl rfl

theorem Swept.window (h : Swept config s redis) (channelId : String) :
    (WindowStore.ofConfig config.routing).read channelId s.now redis.keyspace =
      .ok (emptyStats channelId) :=
  WindowStore.read_of_silent config.accepted.bucketMs
    (fun id => h.silent (Key.bucket channelId id).start_prefix_text)
    fun id => h.silent (Key.latency channelId id).start_prefix_text

/-- The key of a breaker after a reset. -/
theorem Swept.breakerKey (h : Swept config s redis) (channelId : String) :
    redis.shown s.now (breakerKey channelId) =
      if breakerKey channelId = config.outcomeStream then some Redis.freshStream
      else if breakerKey channelId = config.deadLetterStream ∨
          ∃ row ∈ s.table.rows, row.id = channelId ∧ row.corridor = defaultCorridor then none
      else s.redis.shown s.now (breakerKey channelId) := by
  obtain ⟨hwindow, hprobe, hprocessed⟩ := not_beginsWith_breakerKey channelId
  rw [h, if_neg (not_or.mpr ⟨hprobe, hprocessed⟩)]
  by_cases hstream : Domain.breakerKey channelId = config.outcomeStream
  · rw [if_pos hstream, if_pos hstream]
  · rw [if_neg hstream, if_neg hstream]
    refine if_congr ?_ rfl rfl
    simp [hstream, hwindow, isListedKey_breakerKey]

/-- A breaker reads as closed after a reset exactly when its key is not the name of the
stream and the reset came to it, or it was closed before. -/
theorem Swept.breaker_iff (h : Swept config s redis) (channelId : String) :
    BreakerStore.read channelId s.now redis.keyspace = .ok closedBreaker ↔
      Domain.breakerKey channelId ≠ config.outcomeStream ∧
        (BreakerStore.read channelId s.now s.redis.keyspace ≠ .ok closedBreaker →
          (∃ row ∈ s.table.rows, row.id = channelId ∧ row.corridor = defaultCorridor) ∨
            Domain.breakerKey channelId = config.deadLetterStream) := by
  have hshown := h.breakerKey channelId
  by_cases hstream : Domain.breakerKey channelId = config.outcomeStream
  · rw [if_pos hstream] at hshown
    have hread : BreakerStore.read channelId s.now redis.keyspace = .error Redis.wrongType := by
      unfold Redis.Database.shown at hshown
      simp [BreakerStore.read, Redis.exec, Redis.Command.key, hshown, Redis.Command.apply,
        Redis.freshStream, Redis.fieldsOf]
    simp [hread, hstream]
  · rw [if_neg hstream] at hshown
    by_cases hreached : Domain.breakerKey channelId = config.deadLetterStream ∨
        ∃ row ∈ s.table.rows, row.id = channelId ∧ row.corridor = defaultCorridor
    · rw [if_pos hreached] at hshown
      rw [BreakerStore.read_of_none hshown]
      exact ⟨fun _ => ⟨hstream, fun _ => hreached.symm⟩, fun _ => rfl⟩
    · rw [if_neg hreached] at hshown
      rw [BreakerStore.read_congr hshown]
      constructor
      · exact fun hclosed => ⟨hstream, fun hne => absurd hclosed hne⟩
      · rintro ⟨-, hreaches⟩
        by_contra hne
        exact hreached (hreaches hne).symm

/-- The stream is there with a fresh group unless the last two scans come to it. -/
theorem Swept.outcomes_iff (h : Swept config s redis) :
    redis.shown s.now config.outcomeStream = some Redis.freshStream ↔
      ¬ (Redis.BeginsWith "probe:" config.outcomeStream ∨
        Redis.BeginsWith "processed:" config.outcomeStream) := by
  rw [h]
  split
  · rename_i hscanned
    simp [hscanned]
  · rename_i hscanned
    simp [hscanned]

theorem Swept.deadLetters (h : Swept config s redis)
    (hkept : ¬ (Redis.BeginsWith "probe:" config.outcomeStream ∨
      Redis.BeginsWith "processed:" config.outcomeStream)) :
    redis.shown s.now config.deadLetterStream =
      if config.deadLetterStream = config.outcomeStream then some Redis.freshStream
      else none := by
  by_cases hsame : config.deadLetterStream = config.outcomeStream
  · rw [if_pos hsame, hsame]
    exact h.outcomes_iff.mpr hkept
  · rw [if_neg hsame, h]
    simp [hsame]

theorem Swept.probeSlot (h : Swept config s redis) (channelId : String) :
    redis.shown s.now (probeLockKey channelId) = none := by
  rw [h, if_pos (.inl (Key.probeLock channelId).start_prefix_text)]

theorem Swept.processed (h : Swept config s redis) (eventId : String) :
    redis.shown s.now (processedKey eventId) = none := by
  rw [h, if_pos (.inr (Key.processed eventId).start_prefix_text)]

variable (scanner) in
/-- A reset leaves nothing exactly when the stream is apart from the other keys and the
reset comes to every breaker that does not read as closed. -/
theorem observe_reset_iff (hnode : config.nodeEnv ≠ "production") :
    (reset config scanner s).2.observe config = blank config ↔
      StreamApart config ∧ Reaches config s := by
  obtain ⟨redis, hreset, hswept⟩ := reset_spec config scanner s hnode
  rw [hreset]
  constructor
  · intro hblank
    have hbreaker : ∀ channelId,
        BreakerStore.read channelId s.now redis.keyspace = .ok closedBreaker := fun channelId =>
      congrFun (congrArg Observed.breaker hblank) channelId
    have hkept := hswept.outcomes_iff.mp (congrArg Observed.outcomes hblank)
    rw [not_or] at hkept
    refine ⟨⟨hkept.1, hkept.2, ?_⟩, fun channelId =>
      ((hswept.breaker_iff channelId).mp (hbreaker channelId)).2⟩
    intro hbegins
    obtain ⟨channelId, hname⟩ := Redis.beginsWith_iff.mp hbegins
    exact ((hswept.breaker_iff channelId).mp (hbreaker channelId)).1 hname.symm
  · rintro ⟨hapart, hreaches⟩
    have hkept := not_or.mpr ⟨hapart.probe, hapart.processed⟩
    have hbreaker : ∀ channelId,
        BreakerStore.read channelId s.now redis.keyspace = .ok closedBreaker := by
      intro channelId
      refine (hswept.breaker_iff channelId).mpr ⟨fun hname => ?_, hreaches channelId⟩
      exact hapart.breaker (Redis.beginsWith_iff.mpr ⟨channelId, hname.symm⟩)
    exact Observed.ext rfl rfl rfl rfl (hswept.outcomes_iff.mpr hkept)
      (hswept.deadLetters hkept) (funext hswept.window) (funext hbreaker)
      (funext hswept.probeSlot) (funext hswept.processed)

/-- Two resets forget what was there before exactly when each of them comes to every breaker
that does not read as closed, and the outcome stream is apart from the other keys. -/
theorem reset_forgets_iff (config : Config) (scanner : Redis.Scanner) (s s' : ServiceState)
    (hnode : config.nodeEnv ≠ "production") :
    Forgets config scanner s s' ↔
      StreamApart config ∧ Reaches config s ∧ Reaches config s' := by
  constructor
  · intro h
    obtain ⟨hapart, hreaches⟩ := (observe_reset_iff scanner hnode).mp h.blank
    exact ⟨hapart, hreaches, ((observe_reset_iff scanner hnode).mp (h.same.symm.trans h.blank)).2⟩
  · rintro ⟨hapart, hreaches, hreaches'⟩
    have hblank := (observe_reset_iff scanner hnode).mpr ⟨hapart, hreaches⟩
    have hblank' := (observe_reset_iff scanner hnode).mpr ⟨hapart, hreaches'⟩
    obtain ⟨_, hanswer, _⟩ := reset_spec config scanner s hnode
    obtain ⟨_, hanswer', _⟩ := reset_spec config scanner s' hnode
    exact
      { answers := ⟨_, congrArg Prod.fst hanswer⟩
        answers' := ⟨_, congrArg Prod.fst hanswer'⟩
        same := hblank.trans hblank'.symm
        blank := hblank }

/-! ## A breaker that was left open -/

/-- An open breaker. -/
def openSnapshot : BreakerSnapshot where
  state := .opened
  openedAt := 1000
  probeSuccess := 0

/-- One row, and the hash of its open breaker. -/
def leftBehind (row : Row) : ServiceState where
  now := 1000
  offsetMs := 300000
  redis :=
    { keyspace := Function.update Redis.empty (breakerKey row.id)
        (some { value := .hash (Redis.setFields (fun _ => none)
                  (BreakerStore.snapshotFields openSnapshot))
                expiresAt := none })
      keys := [breakerKey row.id]
      listed := by
        intro key hkey
        by_contra hne
        rw [Function.update_of_ne (by simpa using hne)] at hkey
        exact hkey rfl }
  table := { rows := [row], unique := List.nodup_singleton _ }
  cache := none
  decisions := []

/-- A row of another corridor. -/
def railX : Row := { railA with id := "RAIL-X", corridor := "KES_BANK" }

theorem read_leftBehind (row : Row) :
    BreakerStore.read row.id (leftBehind row).now (leftBehind row).redis.keyspace =
      .ok openSnapshot := by
  have hstorable : BreakerStore.Storable openSnapshot := by
    refine .inr ⟨by decide, ?_, ?_⟩
    · exact_mod_cast Number.isDecimal_natCast 1000
    · exact_mod_cast Number.isDecimal_natCast 0
  have hfields : Redis.fieldsOf (Redis.left (leftBehind row).now
      ((leftBehind row).redis.keyspace (breakerKey row.id))) =
        .ok (Redis.setFields (fun _ => none) (BreakerStore.snapshotFields openSnapshot)) := by
    dsimp only [leftBehind]
    rw [Function.update_self, Redis.left_of_live rfl]
    rfl
  rw [BreakerStore.read_eq ⟨_, hfields⟩, BreakerStore.shown_of_fields hfields,
    BreakerStore.parseSnapshot_setFields hstorable]

theorem read_leftBehind_of_ne {row : Row} {channelId : String} (hne : channelId ≠ row.id) :
    BreakerStore.read channelId (leftBehind row).now (leftBehind row).redis.keyspace =
      .ok closedBreaker := by
  refine BreakerStore.read_of_none ?_
  have hkey : breakerKey channelId ≠ breakerKey row.id := fun h => hne (breakerKey_inj.mp h)
  simp [leftBehind, Function.update_of_ne hkey, Redis.empty, Redis.left]

/-- The theorem with an open breaker of the default corridor in both states. -/
theorem reset_forgets_iff_at :
    Forgets defaultConfig .onePage (leftBehind railA) (leftBehind railB) := by
  have hreaches : ∀ row : Row, row.corridor = defaultCorridor →
      Reaches defaultConfig (leftBehind row) := by
    intro row hcorridor channelId hopen
    by_cases hid : channelId = row.id
    · exact .inl ⟨row, List.mem_singleton_self _, hid.symm, hcorridor⟩
    · exact absurd (read_leftBehind_of_ne hid) hopen
  refine (reset_forgets_iff defaultConfig .onePage _ _ (by decide)).mpr
    ⟨⟨by decide, by decide, by decide⟩, hreaches railA rfl, hreaches railB rfl⟩

/-- The open breaker of a channel of another corridor is left. -/
theorem reset_keeps_breaker :
    ¬ Forgets defaultConfig .onePage (leftBehind railX) (leftBehind railA) := by
  intro h
  obtain ⟨_, hreaches⟩ := (observe_reset_iff .onePage (by decide)).mp h.blank
  have hopen : BreakerStore.read railX.id (leftBehind railX).now
      (leftBehind railX).redis.keyspace ≠ .ok closedBreaker := by
    rw [read_leftBehind]
    decide
  rcases hreaches railX.id hopen with ⟨row, hmem, _, hcorridor⟩ | hname
  · rw [List.mem_singleton.mp hmem] at hcorridor
    exact absurd hcorridor (by decide)
  · exact absurd hname (by decide)

end SwitchService.Services
