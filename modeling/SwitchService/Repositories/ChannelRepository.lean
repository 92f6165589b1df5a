import SwitchService.Store.Backend

set_option autoImplicit false

/-!
# Repositories: the channel registry (`repositories/channelRepository.ts`)

The list of channels is cached for five seconds in one module-level variable,
whatever corridor it was asked for.
-/

namespace SwitchService.Repositories

open SwitchService.Foundation SwitchService.Domain SwitchService.Store

/-- `CACHE_TTL_MS`. -/
def cacheTtlMs : ℚ := 5000

/-- `DEFAULT_CORRIDOR`. -/
def defaultCorridor : String := "NGN_BANK"

/-! ## The seeded rows (`migrations/002_seed_channels.sql`) -/

/-- The dearer seeded channel. -/
def railA : Row where
  id := "RAIL-A"
  name := "Alpha Bank Rail"
  cost := 12 / 10
  corridor := defaultCorridor
  enabled := true

/-- The cheaper seeded channel. -/
def railB : Row where
  id := "RAIL-B"
  name := "Beta Payments Rail"
  cost := 1
  corridor := defaultCorridor
  enabled := true

/-- One seeded row. -/
def seededA : Table := { rows := [railA], unique := by decide }

/-- Two seeded rows. -/
def seededAB : Table := { rows := [railA, railB], unique := by decide }

/-! ## The cached list -/

/-- `toChannel`: the corridor stays behind. -/
def toChannel (row : Row) : Channel where
  id := row.id
  name := row.name
  cost := row.cost
  enabled := row.enabled

/-- `listChannels`. -/
def listChannels (corridor : String) : Program (List Channel) := do
  let rows ← queryChannels corridor
  return rows.map toChannel

/-- The part of `listChannelsCached` after the cache did not answer. -/
def refillCache (now : ℚ) (corridor : String) : Program (List Channel) := do
  let channels ← listChannels corridor
  setCache { filledAt := now, channels := channels }
  return channels

/-- The cached read that the routing path uses. -/
def listChannelsCached (now : ℚ) (corridor : String) : Program (List Channel) := do
  let cache ← getCache
  match cache with
  | some entry =>
      if now - entry.filledAt < cacheTtlMs then return entry.channels
      else refillCache now corridor
  | none => refillCache now corridor

/-- `clearChannelCache`. -/
def clearChannelCache (w : World) : World := { w with cache := none }

/-! ## What a lookup answers -/

/-- The rows of a corridor, as channels. -/
def channelsOf (table : Table) (corridor : String) : List Channel :=
  (table.rows.filter (·.corridor = corridor)).map toChannel

/-- The list of an entry that is younger than five seconds. -/
def cachedAt (now : ℚ) : Option ChannelCache → Option (List Channel)
  | some entry => if now - entry.filledAt < cacheTtlMs then some entry.channels else none
  | none => none

variable {config : Config} {faults : Faults} {w : World} {now : ℚ} {corridor : String}

theorem cachedAt_eq_some {cache : Option ChannelCache} {channels : List Channel} :
    cachedAt now cache = some channels ↔
      ∃ entry, cache = some entry ∧ now - entry.filledAt < cacheTtlMs ∧
        entry.channels = channels := by
  cases cache with
  | none => simp [cachedAt]
  | some entry => simp [cachedAt]

/-- An entry that is stale stays stale. -/
theorem cachedAt_none_mono {t : ℚ} {cache : Option ChannelCache} (hnow : t ≤ now)
    (h : cachedAt t cache = none) : cachedAt now cache = none := by
  cases cache with
  | none => rfl
  | some entry =>
      simp only [cachedAt, ite_eq_right_iff, reduceCtorEq, imp_false, not_lt] at h ⊢
      linarith

/-- What a lookup answers. -/
def lookup (w : World) (now : ℚ) (corridor : String) : List Channel :=
  (cachedAt now w.cache).getD (channelsOf w.table corridor)

/-- The state after a lookup. -/
def afterLookup (w : World) (now : ℚ) (corridor : String) : World :=
  match cachedAt now w.cache with
  | some _ => w
  | none =>
      { w with cache := some { filledAt := now, channels := channelsOf w.table corridor } }

@[simp] theorem afterLookup_now : (afterLookup w now corridor).now = w.now := by
  unfold afterLookup
  split <;> rfl

@[simp] theorem afterLookup_table : (afterLookup w now corridor).table = w.table := by
  unfold afterLookup
  split <;> rfl

@[simp] theorem afterLookup_windows : (afterLookup w now corridor).windows = w.windows := by
  unfold afterLookup
  split <;> rfl

@[simp] theorem afterLookup_breakers : (afterLookup w now corridor).breakers = w.breakers := by
  unfold afterLookup
  split <;> rfl

@[simp] theorem afterLookup_probeSlots :
    (afterLookup w now corridor).probeSlots = w.probeSlots := by
  unfold afterLookup
  split <;> rfl

@[simp] theorem afterLookup_processed :
    (afterLookup w now corridor).processed = w.processed := by
  unfold afterLookup
  split <;> rfl

variable (config w now) in
theorem run_refillCache (h : faults (.queryChannels corridor) = none) :
    (refillCache now corridor).run config faults w =
      (.ok (channelsOf w.table corridor),
        { w with
          cache := some { filledAt := now, channels := channelsOf w.table corridor } }) := by
  simp [refillCache, listChannels, run_bind, exec_of_none h, perform, channelsOf]

theorem run_listChannelsCached (h : faults (.queryChannels corridor) = none) :
    (listChannelsCached now corridor).run config faults w =
      (.ok (lookup w now corridor), afterLookup w now corridor) := by
  have hrefill := run_refillCache config w now h
  unfold listChannelsCached lookup afterLookup
  rw [run_bind_ok (run_getCache w)]
  cases hcache : w.cache with
  | none => simpa [cachedAt] using hrefill
  | some entry =>
      by_cases hfresh : now - entry.filledAt < cacheTtlMs
      · simp [cachedAt, hfresh]
      · simpa [cachedAt, hfresh] using hrefill

/-! ## The lookup with Redis behind it -/

variable (config) in
/-- The channel list is read without touching Redis. -/
theorem backend_listChannelsCached {b : Backend}
    (h : cachedAt b.now b.cache ≠ none ∨ faults (.queryChannels corridor) = none) :
    ∃ cache, b.run config faults (listChannelsCached b.now corridor) =
      (.ok ((cachedAt b.now b.cache).getD (channelsOf b.table corridor)),
        { b with cache := cache }) := by
  have hrefill : cachedAt b.now b.cache = none →
      b.run config faults (refillCache b.now corridor) =
        (.ok (channelsOf b.table corridor), { b with
          cache := some { filledAt := b.now, channels := channelsOf b.table corridor } }) := by
    intro hnone
    have hquery : b.run config faults (queryChannels corridor) =
        (.ok (b.table.rows.filter (·.corridor = corridor)), b) := by
      rw [queryChannels, Backend.run_await,
        Backend.exec_of_none (h.resolve_left fun hne => hne hnone)]
      rfl
    unfold refillCache listChannels
    rw [Backend.run_bind, Backend.run_bind_ok hquery]
    rfl
  unfold listChannelsCached
  rw [Backend.run_bind_ok Backend.run_getCache]
  cases hcache : b.cache with
  | none =>
      rw [hcache] at hrefill
      exact ⟨_, hrefill rfl⟩
  | some entry =>
      rw [hcache] at hrefill
      by_cases hfresh : b.now - entry.filledAt < cacheTtlMs
      · refine ⟨b.cache, ?_⟩
        simp [hfresh, cachedAt]
      · have hstale : cachedAt b.now (some entry) = none := by simp [cachedAt, hfresh]
        refine ⟨some { filledAt := b.now, channels := channelsOf b.table corridor }, ?_⟩
        rw [hstale]
        simp only [hfresh, if_false]
        exact hrefill hstale

end SwitchService.Repositories
