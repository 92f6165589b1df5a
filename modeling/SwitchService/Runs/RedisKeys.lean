import SwitchService.Runs.RedisPool

set_option autoImplicit false

/-!
# Runs: the keys that the tasks leave in Redis

Every key that the tasks write is one of the store's keys, and every one but a breaker's
has a time to live.  So Redis forgets: once nothing has happened for the longest of these
times, only the breakers are left, however many channels, events and outcomes there were.
-/

namespace SwitchService.Runs

open SwitchService.Foundation SwitchService.Domain SwitchService.Store
open SwitchService.Repositories SwitchService.Services

/-- The longest time to live that the stores give a key. -/
def longestTtlMs (config : Config) : ℚ :=
  max probeSlotTtlMs (max (WindowStore.ofConfig config.routing).ttlMs
    (config.processedTtlSeconds * 1000))

/-- The content is that of a breaker, or it is gone within the longest time to live. -/
def Passing (config : Config) (now : ℚ) (key : Key) (stored : Redis.Stored) : Prop :=
  key.family = .breaker ∨
    ∃ gone, stored.expiresAt = some gone ∧ gone ≤ now + longestTtlMs config

/-- Redis holds keys of the stores only, and all but the breakers pass. -/
def KeysPass (config : Config) (b : Backend) : Prop :=
  ∀ text stored, b.db text = some stored →
    ∃ key : Key, text = key.text ∧ Passing config b.now key stored

variable {config : Config} {b : Backend}

theorem Passing.mono {now later : ℚ} {key : Key} {stored : Redis.Stored}
    (h : Passing config now key stored) (hle : now ≤ later) :
    Passing config later key stored := by
  rcases h with h | ⟨gone, hgone, hbound⟩
  · exact .inl h
  · exact .inr ⟨gone, hgone, by linarith⟩

theorem keysPass_fresh (config : Config) (now : ℕ) (table : Table) :
    KeysPass config (Backend.fresh now table) := fun _ _ h => by cases h

/-- One key gets a new content. -/
theorem KeysPass.update (h : KeysPass config b) (key : Key) {content : Option Redis.Stored}
    (hcontent : ∀ stored, content = some stored → Passing config b.now key stored) :
    KeysPass config { b with db := Function.update b.db key.text content } := by
  intro text stored hstored
  dsimp only at hstored
  by_cases htext : text = key.text
  · subst htext
    rw [Function.update_self] at hstored
    exact ⟨key, rfl, hcontent stored hstored⟩
  · rw [Function.update_of_ne htext] at hstored
    exact h text stored hstored

/-- What is left of a key passes with it. -/
theorem KeysPass.left (h : KeysPass config b) (key : Key) {stored : Redis.Stored}
    (hleft : Redis.left b.now (b.db key.text) = some stored) :
    Passing config b.now key stored := by
  obtain ⟨other, htext, hpass⟩ := h key.text stored (Option.filter_eq_some_iff.mp hleft).1
  rwa [Key.eq_of_text_eq htext]

/-! ## Calls -/

/-- `SET` with `NX` leaves a key with its time to live, or as it was. -/
theorem KeysPass.setIfFree (h : KeysPass config b) (key : Key) (ttlMs : ℤ)
    (httl : (ttlMs : ℚ) ≤ longestTtlMs config) :
    KeysPass config
      (b.commit (BreakerStore.setIfFree key.text ttlMs b.now b.db)).2 := by
  have hexec : KeysPass config
      { b with db := (Redis.exec b.now (.setNx key.text "1" ttlMs) b.db).2 } := by
    refine h.update key fun stored hstored => ?_
    simp only [Redis.Command.key, Redis.Command.apply] at hstored
    split at hstored
    · exact h.left key hstored
    · cases hleft : Redis.left b.now (b.db key.text) with
      | some before =>
          rw [hleft] at hstored
          cases hstored
          exact h.left key hleft
      | none =>
          rw [hleft] at hstored
          cases hstored
          exact .inr ⟨_, rfl, by linarith⟩
  unfold BreakerStore.setIfFree
  rcases hreply : Redis.exec b.now (.setNx key.text "1" ttlMs) b.db with
    ⟨message | reply, db⟩
  · exact h
  · rw [hreply] at hexec
    cases reply with
    | ok | integer _ | bulks _ | object _ | null => exact hexec

/-- A record sets the time to live of its two keys anew. -/
theorem KeysPass.record (h : KeysPass config b) (channelId : String) (success : Bool)
    (latencyMs : ℕ) (now : ℚ) :
    KeysPass config
      { b with
        db := (WindowStore.ofConfig config.routing).recordedAt channelId success latencyMs now
          b.now b.db } := by
  have hseconds := WindowStore.ttlSeconds_pos (WindowStore.ofConfig config.routing)
    config.accepted.windowMs
  have hpassing : ∀ (key : Key) (stored : Redis.Stored), stored.expiresAt = some ((b.now : ℚ) +
      bucketTtlSeconds (WindowStore.ofConfig config.routing).windowMs * 1000) →
        Passing config b.now key stored := by
    intro key stored hexpires
    refine .inr ⟨_, hexpires, ?_⟩
    have hlongest : (WindowStore.ofConfig config.routing).ttlMs ≤ longestTtlMs config :=
      (le_max_left _ _).trans (le_max_right _ _)
    unfold WindowStore.ttlMs at hlongest
    linarith
  intro text stored hstored
  dsimp only at hstored
  by_cases hcounters : text = bucketKey channelId
      ⌊now / (WindowStore.ofConfig config.routing).bucketMs⌋
  · subst hcounters
    unfold WindowStore.recordedAt at hstored
    rw [Redis.multi_key, WindowStore.filter_counters] at hstored
    exact ⟨.bucket _ _, rfl,
      hpassing _ _ (Redis.expiry_applyAll [_, _] hseconds hstored)⟩
  · by_cases hsamples : text = latencyKey channelId
        ⌊now / (WindowStore.ofConfig config.routing).bucketMs⌋
    · subst hsamples
      unfold WindowStore.recordedAt at hstored
      rw [Redis.multi_key, WindowStore.filter_samples] at hstored
      exact ⟨.latency _ _, rfl,
        hpassing _ _ (Redis.expiry_applyAll [_, _] hseconds hstored)⟩
    · rw [WindowStore.recordedAt_frame _ success latencyMs hcounters hsamples] at hstored
      exact h text stored hstored

/-- Every call of a task leaves keys that pass. -/
theorem KeysPass.carry (h : KeysPass config b) {seen : Seen} {call : Call}
    (hmoment : AtMoment seen call) : KeysPass config (b.carry config call).2 := by
  cases call with
  | now | getCache | setCache _ | queryChannels _ | insertDecision _ _ | readBreakers _ =>
      exact h
  | readWindow _ _ | readWindows _ _ | readBreaker _ =>
      simp only [Backend.carry, Backend.perform, Backend.answer]
      split
      · exact h
      · exact h
  | claim eventId =>
      refine h.setIfFree (.processed eventId) _ ?_
      have hlongest : (config.processedTtlSeconds : ℚ) * 1000 ≤ longestTtlMs config :=
        (le_max_right _ _).trans (le_max_right _ _)
      exact_mod_cast hlongest
  | takeProbeSlot channelId ttlMs =>
      obtain rfl : ttlMs = probeSlotTtlMs := hmoment
      refine h.setIfFree (.probeLock channelId) 10000 ?_
      have hlongest : probeSlotTtlMs ≤ longestTtlMs config := le_max_left _ _
      exact_mod_cast hlongest
  | releaseProbeSlot channelId =>
      simp only [Backend.carry, Backend.perform, releaseProbeSlot_eq]
      exact h.update (.probeLock channelId) fun _ hnone => by cases hnone
  | writeBreaker channelId snapshot =>
      simp only [Backend.carry, Backend.perform, BreakerStore.write]
      cases (Redis.exec b.now (.hset (breakerKey channelId)
          (BreakerStore.snapshotFields snapshot)) b.db).1 with
      | error message => exact h
      | ok reply => exact h.update (.breaker channelId) fun _ _ => .inl rfl
  | record channelId success latencyMs moment =>
      rw [Backend.carry_record]
      exact h.record channelId success latencyMs moment

theorem KeysPass.change (h : KeysPass config b) (change : RedisChange) :
    KeysPass config (change.apply b) := by
  cases change with
  | edit _ | clearCache => exact h
  | advance elapsed =>
      intro text stored hstored
      obtain ⟨key, htext, hpass⟩ := h text stored hstored
      refine ⟨key, htext, hpass.mono ?_⟩
      exact_mod_cast Nat.le_add_right _ _

theorem KeysPass.answer (h : KeysPass config b) (fate : Fate) {seen : Seen} {call : Call}
    (hmoment : AtMoment seen call) : KeysPass config (redisAnswer config fate call b).2 := by
  unfold redisAnswer
  split
  · exact h
  · exact h.carry hmoment
  · exact h.carry hmoment

variable {ι : Type} [DecidableEq ι]

/-- Whatever the tasks, the order of their calls, the calls that fail and the time between
them: Redis holds keys of the stores only, and after a quiet time as long as the longest
time to live nothing but breakers is left. -/
theorem redis_forgets (config : Config) (localeCompare : String → String → Ordering)
    (tasks : ι → Task) {b : Backend} (h : KeysPass config b)
    (moves : List (Move ι Fate RedisChange)) :
    KeysPass config (runFrom (RedisPool.next config)
        (RedisPool.start config localeCompare tasks b) moves).shared ∧
      ∀ quiet : ℕ, longestTtlMs config ≤ quiet → ∀ text,
        Redis.left ((runFrom (RedisPool.next config)
            (RedisPool.start config localeCompare tasks b) moves).shared.now + quiet)
          ((runFrom (RedisPool.next config)
            (RedisPool.start config localeCompare tasks b) moves).shared.db text) ≠ none →
        ∃ channelId, text = breakerKey channelId := by
  obtain ⟨_, hpass⟩ := runFrom_invariant (I := fun pool : RedisPool tasks =>
    RedisInv config pool ∧ KeysPass config pool.shared) moves (fun pool move hpool => by
      refine ⟨hpool.1.next move, hpool.1.sound.next_of
        (C := fun pool => KeysPass config pool.shared) hpool.2 hpool.2.change move ?_⟩
      intro i fate call k _ _ hallowed
      exact hpool.2.answer fate hallowed.2) ⟨redisInv_start localeCompare b, h⟩
  refine ⟨hpass, fun quiet hquiet text hleft => ?_⟩
  obtain ⟨stored, hstored⟩ := Option.ne_none_iff_exists'.mp hleft
  obtain ⟨hcontent, hlive⟩ := Option.filter_eq_some_iff.mp hstored
  obtain ⟨key, rfl, hfamily | ⟨gone, hgone, hbound⟩⟩ := hpass text stored hcontent
  · cases key with
    | breaker channelId => exact ⟨channelId, rfl⟩
    | bucket | latency | probeLock | processed => cases hfamily
  · -- A key with a time to live is over by then.
    simp only [Redis.Stored.isLive, hgone, decide_eq_true_eq] at hlive
    linarith

/-- Redis after the run of the payouts. -/
def payoutRedis : Backend :=
  (runFrom (RedisPool.next defaultConfig)
    (RedisPool.start defaultConfig compare payoutTasks (Backend.fresh 60000 seededA))
    payoutMoves).shared

/-- The theorem at that run: ten minutes later only breakers are left. -/
theorem redis_forgets_payouts :
    KeysPass defaultConfig payoutRedis ∧
      ∀ text, Redis.left (payoutRedis.now + (600000 : ℕ)) (payoutRedis.db text) ≠ none →
        ∃ channelId, text = breakerKey channelId := by
  obtain ⟨hpass, hquiet⟩ := redis_forgets defaultConfig compare payoutTasks
    (keysPass_fresh defaultConfig 60000 seededA) payoutMoves
  exact ⟨hpass, hquiet 600000 (by decide +kernel)⟩

end SwitchService.Runs
