import SwitchService.Runs.System

set_option autoImplicit false

/-!
# Runs: the channel cache

The cache holds the list of one corridor and answers for every corridor.  A run is
followed with the tables it has seen and the corridor that the cache was filled
for; a lookup is right as long as it asks a fresh cache for that corridor.
-/

namespace SwitchService.Runs

open SwitchService.Foundation SwitchService.Domain SwitchService.Store
open SwitchService.Repositories SwitchService.Consumer SwitchService.Services

/-- What is remembered of a run: every table with the moments it was seen at, newest
first, and the corridor and the table of the last query. -/
structure CacheLedger where
  seen : List (ℚ × Table)
  filledFor : String
  filledFrom : Table

/-- A world with the ledger of the run that led to it. -/
structure Ledgered where
  world : World
  ledger : CacheLedger

/-- A run starts with an empty cache. -/
def Ledgered.start (w : World) : Ledgered where
  world := clearChannelCache w
  ledger := { seen := [(w.now, w.table)], filledFor := defaultCorridor, filledFrom := w.table }

/-- The corridor whose channels a step asks for. -/
def lookedUp : Act → Option String
  | .route _ _ _ request => some request.corridor
  | .deliver message => if (supportedEvent message).isSome then some defaultCorridor else none
  | _ => none

/-- The cache answers now. -/
def Ledgered.fresh (s : Ledgered) : Bool := (cachedAt s.world.now s.world.cache).isSome

variable (config : Config) (localeCompare : String → String → Ordering)

/-- A step, with what is remembered of it. -/
def Ledgered.next (s : Ledgered) (act : Act) : Ledgered :=
  let world := perform config localeCompare s.world act
  { world := world
    ledger :=
      { seen := (world.now, world.table) :: s.ledger.seen
        filledFor := if s.fresh then s.ledger.filledFor
          else (lookedUp act).getD s.ledger.filledFor
        filledFrom := if s.fresh then s.ledger.filledFrom
          else ((lookedUp act).map fun _ => s.world.table).getD s.ledger.filledFrom } }

/-- A table that was in force less than five seconds ago. -/
def Ledgered.Recent (s : Ledgered) (table : Table) : Prop :=
  ∃ t, (t, table) ∈ s.ledger.seen ∧ t ≤ s.world.now ∧ s.world.now - t < cacheTtlMs

/-- A lookup of this step asks a fresh cache for the corridor it was filled for. -/
def AsksFilledCorridor (s : Ledgered) (act : Act) : Prop :=
  ∀ corridor ∈ lookedUp act, s.fresh = true → s.ledger.filledFor = corridor

instance (s : Ledgered) (act : Act) : Decidable (AsksFilledCorridor s act) :=
  inferInstanceAs (Decidable (∀ corridor ∈ lookedUp act, _))

/-- A lookup of this step answers the rows that its corridor had less than five seconds
ago, and a decision shows and names rows of its corridor. -/
def SeesOwnCorridor (s : Ledgered) (act : Act) : Prop :=
  (∀ corridor ∈ lookedUp act, ∃ table, s.Recent table ∧
    lookup s.world s.world.now corridor = channelsOf table corridor) ∧
  ∀ faults rng uuid request decision, act = .route faults rng uuid request →
    (routed config localeCompare faults rng uuid request s.world).1 = .ok decision →
    ∃ table, s.Recent table ∧
      (∀ c ∈ decision.candidates, ∃ row ∈ table.rows, row.id = c.channelId ∧
        row.corridor = request.corridor) ∧
      ∃ row ∈ table.rows, row.id = decision.channelId ∧ row.corridor = request.corridor

/-! ## The invariant -/

/-- The current table is on record, and a fresh entry holds the list of the corridor and
the table of the last query. -/
structure CacheInv (s : Ledgered) : Prop where
  current : (s.world.now, s.world.table) ∈ s.ledger.seen
  past : ∀ p ∈ s.ledger.seen, p.1 ≤ s.world.now
  filled : ∀ entry, s.world.cache = some entry → s.world.now - entry.filledAt < cacheTtlMs →
    (entry.filledAt, s.ledger.filledFrom) ∈ s.ledger.seen ∧
      entry.channels = channelsOf s.ledger.filledFrom s.ledger.filledFor

theorem cacheInv_start (w : World) : CacheInv (Ledgered.start w) where
  current := List.mem_singleton_self _
  past p hp := by
    rw [List.mem_singleton.mp hp]
    exact le_refl _
  filled entry h := by simp [Ledgered.start, clearChannelCache] at h

variable {config localeCompare}

variable (config localeCompare) in
/-- What a step does to the clock and to the cache. -/
theorem perform_cache (w : World) (act : Act) :
    w.now ≤ (perform config localeCompare w act).now ∧
    ((perform config localeCompare w act).cache = w.cache ∨
      (perform config localeCompare w act).cache = none ∨
      ∃ corridor, lookedUp act = some corridor ∧
        (perform config localeCompare w act).now = w.now ∧
        (perform config localeCompare w act).cache =
          (afterLookup w w.now corridor).cache) := by
  cases act with
  | route faults rng uuid request =>
      have heffect := routeEffect config faults localeCompare rng uuid request w
      refine ⟨heffect.now.ge, ?_⟩
      rcases heffect.cache with h | h
      · exact .inl h
      · exact .inr (.inr ⟨request.corridor, rfl, heffect.now, h⟩)
  | deliver message =>
      change w.now ≤ (handled config message w).2.now ∧
        ((handled config message w).2.cache = w.cache ∨ _ ∨ ∃ corridor, _ ∧
          (handled config message w).2.now = w.now ∧ (handled config message w).2.cache = _)
      cases hevent : supportedEvent message with
      | none =>
          rw [handled_unsupported hevent]
          exact ⟨le_refl _, .inl rfl⟩
      | some event =>
          have hlooked : lookedUp (.deliver message) = some defaultCorridor := by
            simp [lookedUp, hevent]
          cases happlied : appliedEvent w message with
          | none =>
              rw [handled_not_applied happlied, hevent]
              exact ⟨(afterLookup_now).ge, .inr (.inr ⟨_, hlooked, afterLookup_now, rfl⟩)⟩
          | some event =>
              rw [handled_applied happlied]
              exact ⟨(afterDelivery_now config event w).ge, .inr (.inr ⟨_, hlooked,
                afterDelivery_now config event w, afterDelivery_cache config event w⟩)⟩
  | advance elapsed =>
      exact ⟨le_add_of_nonneg_right elapsed.2, .inl rfl⟩
  | edit table => exact ⟨le_refl _, .inl rfl⟩
  | clearCache => exact ⟨le_refl _, .inr (.inl rfl)⟩

/-- Every step keeps the invariant, whatever it asks for. -/
theorem cacheInv_next {s : Ledgered} (h : CacheInv s) (act : Act) :
    CacheInv (s.next config localeCompare act) := by
  obtain ⟨hnow, hcache⟩ := perform_cache config localeCompare s.world act
  have hpast : ∀ p ∈ (s.next config localeCompare act).ledger.seen,
      p.1 ≤ (s.next config localeCompare act).world.now := by
    intro p hp
    rcases List.mem_cons.mp hp with rfl | hp
    · exact le_refl _
    · exact le_trans (h.past p hp) hnow
  refine ⟨List.mem_cons_self, hpast, ?_⟩
  intro entry hentry hfresh
  change (perform config localeCompare s.world act).cache = some entry at hentry
  change (perform config localeCompare s.world act).now - entry.filledAt < cacheTtlMs at hfresh
  -- An entry that was there before the step was fresh before it.
  have hkept : s.world.cache = some entry →
      (entry.filledAt, (s.next config localeCompare act).ledger.filledFrom) ∈
          (s.next config localeCompare act).ledger.seen ∧
        entry.channels = channelsOf (s.next config localeCompare act).ledger.filledFrom
          (s.next config localeCompare act).ledger.filledFor := by
    intro hsame
    have hbefore : s.world.now - entry.filledAt < cacheTtlMs := by linarith
    obtain ⟨hseen, hchannels⟩ := h.filled entry hsame hbefore
    have hs : s.fresh = true := by
      simp [Ledgered.fresh, hsame, cachedAt, hbefore]
    constructor
    · refine List.mem_cons_of_mem _ ?_
      simpa [Ledgered.next, hs] using hseen
    · simpa [Ledgered.next, hs] using hchannels
  rcases hcache with hsame | hnone | ⟨corridor, hlooked, hclock, hafter⟩
  · exact hkept (hsame ▸ hentry)
  · rw [hnone] at hentry
    cases hentry
  · rw [hafter] at hentry
    unfold afterLookup at hentry
    cases hcached : cachedAt s.world.now s.world.cache with
    | some channels =>
        rw [hcached] at hentry
        exact hkept hentry
    | none =>
        -- The step filled the cache from the current table.
        rw [hcached] at hentry
        cases hentry
        have hs : s.fresh = false := by simp [Ledgered.fresh, hcached]
        constructor
        · refine List.mem_cons_of_mem _ ?_
          simpa [Ledgered.next, hs, hlooked] using h.current
        · simp [Ledgered.next, hs, hlooked]

/-! ## Lookups -/

theorem recent_current {s : Ledgered} (h : CacheInv s) : s.Recent s.world.table :=
  ⟨s.world.now, h.current, le_refl _, by simp [cacheTtlMs]⟩

/-- The table that answers a lookup now: that of the last query while the cache is fresh,
and else the current one. -/
def Ledgered.source (s : Ledgered) : Table :=
  if s.fresh then s.ledger.filledFrom else s.world.table

theorem recent_source {s : Ledgered} (h : CacheInv s) : s.Recent s.source := by
  unfold Ledgered.source
  by_cases hfresh : s.fresh = true
  · obtain ⟨channels, hcached⟩ := Option.isSome_iff_exists.mp hfresh
    obtain ⟨entry, hentry, hyoung, _⟩ := cachedAt_eq_some.mp hcached
    obtain ⟨hseen, _⟩ := h.filled entry hentry hyoung
    rw [if_pos hfresh]
    exact ⟨entry.filledAt, hseen, h.past _ hseen, hyoung⟩
  · rw [if_neg hfresh]
    exact recent_current h

/-- A lookup that asks for the corridor on record, or a cache that does not answer, gets
the rows of its own corridor. -/
theorem lookup_own {s : Ledgered} (h : CacheInv s) {corridor : String}
    (hasks : s.fresh = true → s.ledger.filledFor = corridor) :
    lookup s.world s.world.now corridor = channelsOf s.source corridor := by
  unfold lookup Ledgered.source
  cases hcached : cachedAt s.world.now s.world.cache with
  | none => simp [Ledgered.fresh, hcached]
  | some channels =>
      have hfresh : s.fresh = true := by simp [Ledgered.fresh, hcached]
      obtain ⟨entry, hentry, hyoung, hchannels⟩ := cachedAt_eq_some.mp hcached
      rw [if_pos hfresh, ← hasks hfresh, ← (h.filled entry hentry hyoung).2]
      exact hchannels.symm

theorem mem_channelsOf {table : Table} {corridor : String} {channel : Channel}
    (h : channel ∈ channelsOf table corridor) :
    ∃ row ∈ table.rows, row.id = channel.id ∧ row.corridor = corridor := by
  obtain ⟨row, hrow, rfl⟩ := List.mem_map.mp h
  rw [List.mem_filter] at hrow
  exact ⟨row, hrow.1, rfl, by simpa using hrow.2⟩

theorem seesOwnCorridor_of_asks {s : Ledgered} (h : CacheInv s) {act : Act}
    (hasks : AsksFilledCorridor s act) : SeesOwnCorridor config localeCompare s act := by
  refine ⟨fun corridor hlooked =>
    ⟨s.source, recent_source h, lookup_own h (hasks corridor hlooked)⟩, ?_⟩
  rintro faults rng uuid request decision rfl hdecision
  obtain ⟨hcandidates, channel, hchannel, hid⟩ := route_decision_channels hdecision
  rw [lookup_own h (hasks request.corridor rfl)] at hcandidates hchannel
  refine ⟨s.source, recent_source h, ?_, ?_⟩
  · intro c hc
    obtain ⟨channel, hchannel, hid⟩ := hcandidates c hc
    rw [← hid]
    exact mem_channelsOf hchannel
  · rw [← hid]
    exact mem_channelsOf hchannel

/-- In every run in which each lookup asks a fresh cache for the corridor it was filled
for, every lookup and every decision sees its own corridor. -/
theorem route_sees_own_corridor (config : Config)
    (localeCompare : String → String → Ordering) (w : World) (acts : List Act)
    (h : Always (Ledgered.next config localeCompare) AsksFilledCorridor (Ledgered.start w)
      acts) :
    Always (Ledgered.next config localeCompare) (SeesOwnCorridor config localeCompare)
      (Ledgered.start w) acts :=
  Always.of_invariant
    (fun _ act hinv hasks => ⟨seesOwnCorridor_of_asks hinv hasks, cacheInv_next hinv act⟩)
    (cacheInv_start w) h

/-- A channel of another corridor than the seeded ones. -/
def railK : Row where
  id := "RAIL-K"
  name := "Kappa Rail"
  cost := 1
  corridor := "KES_BANK"
  enabled := true

/-- A channel in each of two corridors. -/
def twoCorridors : Table := { rows := [railA, railK], unique := by decide }

/-- The run after a first call for the default corridor. -/
def afterFirstCall : Ledgered :=
  (Ledgered.start (World.fresh 0 twoCorridors)).next defaultConfig compare
    (callFor "u1" "NGN_BANK")

theorem route_sees_other_corridor :
    ¬ Always (Ledgered.next defaultConfig compare) (SeesOwnCorridor defaultConfig compare)
      (Ledgered.start (World.fresh 0 twoCorridors))
      [callFor "u1" "NGN_BANK", callFor "u2" "KES_BANK"] := by
  intro h
  obtain ⟨table, ⟨t, hseen, _⟩, hlookup⟩ := h.2.1.1 "KES_BANK" rfl
  have htable : ∀ p ∈ afterFirstCall.ledger.seen, p.2 = twoCorridors := by decide +kernel
  have hother : lookup afterFirstCall.world afterFirstCall.world.now "KES_BANK" ≠
      channelsOf twoCorridors "KES_BANK" := by decide +kernel
  have heq : table = twoCorridors := htable _ hseen
  rw [heq] at hlookup
  exact hother hlookup

theorem route_sees_own_corridor_apart :
    Always (Ledgered.next defaultConfig compare) (SeesOwnCorridor defaultConfig compare)
      (Ledgered.start (World.fresh 0 twoCorridors))
      [callFor "u1" "NGN_BANK", .advance 5000, callFor "u2" "KES_BANK"] :=
  route_sees_own_corridor defaultConfig compare (World.fresh 0 twoCorridors) _
    (by decide +kernel)

/-! ## Known channels -/

/-- The row of a table is listed for a corridor exactly when that is its corridor. -/
theorem any_channelsOf_iff {table : Table} {id : String}
    (hrow : ∃ row ∈ table.rows, row.id = id) (corridor : String) :
    (channelsOf table corridor).any (·.id = id) = true ↔
      ∀ row ∈ table.rows, row.id = id → row.corridor = corridor := by
  constructor
  · intro h row hmem hid
    obtain ⟨channel, hchannel, hsame⟩ := List.any_eq_true.mp h
    obtain ⟨other, hother, hotherId, hcorridor⟩ := mem_channelsOf hchannel
    have hids : other.id = row.id :=
      (hotherId.trans (by simpa using hsame)).trans hid.symm
    rw [← List.inj_on_of_nodup_map table.unique hother hmem hids]
    exact hcorridor
  · intro h
    obtain ⟨row, hmem, hid⟩ := hrow
    refine List.any_eq_true.mpr ⟨toChannel row, ?_, by simp [toChannel, hid]⟩
    exact List.mem_map.mpr
      ⟨row, List.mem_filter.mpr ⟨hmem, by simpa using h row hmem hid⟩, rfl⟩

/-- An event that is claimed is not answered as unknown. -/
theorem claimEvent_not_ignored {w : World} {event : TxnOutcomeEvent} (reason : String) :
    ((claimEvent config.routing event).run config noFaults w).1 ≠ .ok (.ignored reason) := by
  by_cases hmarked : w.marked event.eventId
  · rw [run_claimEvent_marked hmarked]
    simp
  · rw [run_claimEvent hmarked, run_applyEvent]
    simp

/-- The corridor whose list the handler looks the channel up in. -/
def Ledgered.knownCorridor (s : Ledgered) : String :=
  if s.fresh then s.ledger.filledFor else defaultCorridor

theorem lookup_knownCorridor {s : Ledgered} (h : CacheInv s) :
    lookup s.world s.world.now defaultCorridor = channelsOf s.source s.knownCorridor := by
  unfold Ledgered.knownCorridor
  by_cases hfresh : s.fresh = true
  · obtain ⟨channels, hcached⟩ := Option.isSome_iff_exists.mp hfresh
    rw [if_pos hfresh, ← lookup_own h fun _ => rfl]
    simp [lookup, hcached]
  · rw [if_neg hfresh]
    exact lookup_own h fun hf => absurd hf hfresh

/-- The handler as wired answers for a channel whose row was there for the last five
seconds exactly where the row stands in the corridor that the handler looks in: the one the
fresh cache was filled for, or else the default one. -/
theorem known_channel_kept_iff (config : Config)
    (localeCompare : String → String → Ordering) (w : World) (acts : List Act)
    (message : Json) (event : TxnOutcomeEvent) (hevent : supportedEvent message = some event)
    (hrow : ∀ table,
      (runFrom (Ledgered.next config localeCompare) (Ledgered.start w) acts).Recent table →
        ∃ row ∈ table.rows, row.id = event.channelId) :
    (handled config message
        (runFrom (Ledgered.next config localeCompare) (Ledgered.start w) acts).world).1 ≠
      .ok (.ignored ("unknown channel " ++ event.channelId)) ↔
    ∀ row ∈ (runFrom (Ledgered.next config localeCompare) (Ledgered.start w) acts).source.rows,
      row.id = event.channelId → row.corridor =
        (runFrom (Ledgered.next config localeCompare) (Ledgered.start w) acts).knownCorridor := by
  have hinv : CacheInv (runFrom (Ledgered.next config localeCompare) (Ledgered.start w) acts) :=
    runFrom_invariant acts (fun _ act h => cacheInv_next h act) (cacheInv_start w)
  generalize runFrom (Ledgered.next config localeCompare) (Ledgered.start w) acts = s at *
  have hknows : knows s.world event.channelId = true ↔
      ∀ row ∈ s.source.rows, row.id = event.channelId → row.corridor = s.knownCorridor := by
    unfold knows
    rw [lookup_knownCorridor hinv]
    exact any_channelsOf_iff (hrow s.source (recent_source hinv)) s.knownCorridor
  rw [handled_supported hevent, ← hknows]
  by_cases h : knows s.world event.channelId = true
  · rw [if_pos h]
    exact iff_of_true (claimEvent_not_ignored _) h
  · rw [if_neg h]
    exact iff_of_false (fun hne => hne rfl) h

/-- An outcome of the channel outside the default corridor. -/
def railKOutcome : TxnOutcomeEvent := payoutOutcome "evt_1" "dec_1" "RAIL-K" .success

theorem railKOutcome_supported : supportedEvent railKOutcome.toJson = some railKOutcome :=
  supportedEvent_eq_some.mpr
    ⟨payoutOutcome_message .success (by decide) (by decide) (by decide), by decide⟩

/-- The run in which nobody asks for anything for five seconds. -/
def quietRun : Ledgered :=
  runFrom (Ledgered.next defaultConfig compare) (Ledgered.start (World.fresh 0 twoCorridors))
    [.advance 5000]

theorem known_channel_ignored :
    (handled defaultConfig railKOutcome.toJson quietRun.world).1 =
        .ok (.ignored "unknown channel RAIL-K") ∧
      ∀ table, quietRun.Recent table → railK ∈ table.rows := by
  constructor
  · decide +kernel
  · rintro table ⟨t, hseen, _⟩
    have hrows : ∀ p ∈ quietRun.ledger.seen, railK ∈ p.2.rows := by decide +kernel
    exact hrows _ hseen

/-- The run after a call for the corridor of that channel. -/
def afterOwnCall : Ledgered :=
  runFrom (Ledgered.next defaultConfig compare) (Ledgered.start (World.fresh 0 twoCorridors))
    [callFor "u1" "KES_BANK"]

theorem known_channel_kept_iff_railK :
    (handled defaultConfig railKOutcome.toJson afterOwnCall.world).1 ≠
      .ok (.ignored ("unknown channel " ++ railKOutcome.channelId)) ↔
    ∀ row ∈ afterOwnCall.source.rows,
      row.id = railKOutcome.channelId → row.corridor = afterOwnCall.knownCorridor := by
  refine known_channel_kept_iff defaultConfig compare (World.fresh 0 twoCorridors)
    [callFor "u1" "KES_BANK"] railKOutcome.toJson railKOutcome railKOutcome_supported ?_
  rintro table ⟨t, hseen, _⟩
  have hrows : ∀ p ∈ afterOwnCall.ledger.seen, railK ∈ p.2.rows := by decide +kernel
  exact ⟨railK, hrows _ hseen, rfl⟩

end SwitchService.Runs
