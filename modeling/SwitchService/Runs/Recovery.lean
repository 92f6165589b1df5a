import SwitchService.Runs.System

set_option autoImplicit false

/-!
# Runs: recovery of a channel

A breaker that good probes closed is evaluated again against a window that may still
hold the failures that opened it.  A run is followed with what happened to one channel
since it went HALF_OPEN; the breaker stays closed where the window at the moment of the
closing can no longer open it by itself.
-/

namespace SwitchService.Runs

open SwitchService.Foundation SwitchService.Domain SwitchService.Store
open SwitchService.Repositories SwitchService.Consumer SwitchService.Services

/-! ## Windows that cannot open a breaker -/

/-- Any number of further successes leaves the window above the threshold: filled up
with successes to the least size the breaker looks at, it is not below it. -/
def Settled (config : RoutingConfig) (stats : ChannelStats) : Prop :=
  Number.lt (.fin ((max (stats.success + stats.failure) config.minSamples - stats.failure) /
    max (stats.success + stats.failure) config.minSamples))
      config.breaker.failureRateThreshold = false

/-- The buckets are settled at every moment from now on. -/
def Calm (config : RoutingConfig) (channelId : String) (buckets : Buckets) (now : ℚ) : Prop :=
  ∀ t, now ≤ t → Settled config (buckets.statsAt config channelId t)

section

variable {config : RoutingConfig} {stats stats' : ChannelStats} {channelId : String}
  {buckets buckets' : Buckets} {now : ℚ}

theorem Settled.not_trips (hmin : 0 < config.minSamples) (h : Settled config stats) :
    ¬ Trips stats config := by
  intro ⟨hsamples, htrips⟩
  have hpos : (0 : ℚ) < config.minSamples := by exact_mod_cast hmin
  have hne : stats.success + stats.failure ≠ 0 := by linarith
  have hrate : (stats.success + stats.failure - stats.failure) /
      (stats.success + stats.failure) = breakerSuccessRate stats := by
    simp [breakerSuccessRate, hne]
  unfold Settled at h
  rw [max_eq_left hsamples, hrate, htrips] at h
  cases h

/-- More successes keep a window settled. -/
theorem Settled.mono (hmin : 0 < config.minSamples) (h : Settled config stats)
    (hfailure : stats'.failure = stats.failure) (hnonneg : 0 ≤ stats.failure)
    (hsuccess : stats.success ≤ stats'.success) : Settled config stats' := by
  have hpos : (0 : ℚ) < config.minSamples := by exact_mod_cast hmin
  set n := max (stats.success + stats.failure) (config.minSamples : ℚ) with hn
  set n' := max (stats'.success + stats'.failure) (config.minSamples : ℚ) with hn'
  have hnpos : 0 < n := lt_of_lt_of_le hpos (le_max_right _ _)
  have hle : n ≤ n' := max_le_max (by linarith) (le_refl _)
  have hrate : (n - stats.failure) / n ≤ (n' - stats'.failure) / n' := by
    rw [hfailure, div_le_div_iff₀ hnpos (lt_of_lt_of_le hnpos hle)]
    nlinarith
  unfold Settled at h ⊢
  rw [← hn']
  rw [← hn] at h
  by_contra hlt
  rw [Bool.not_eq_false] at hlt
  rw [Number.lt_of_le_of_lt hrate hlt] at h
  cases h

theorem Calm.not_trips (hmin : 0 < config.minSamples)
    (h : Calm config channelId buckets now) :
    ¬ Trips (buckets.statsAt config channelId now) config :=
  (h now (le_refl _)).not_trips hmin

theorem Calm.later {t : ℚ} (h : Calm config channelId buckets now) (ht : now ≤ t) :
    Calm config channelId buckets t :=
  fun t' ht' => h t' (ht.trans ht')

/-- A recorded success keeps the buckets calm. -/
theorem Calm.recorded (hmin : 0 < config.minSamples)
    (h : Calm config channelId buckets now) (latencyMs : ℕ) :
    Calm config channelId (buckets.recorded config true latencyMs now) now := by
  intro t ht
  refine (h t ht).mono hmin ?_ (Buckets.stats_nonneg _).2 ?_
  · exact Buckets.stats_failure_congr _ fun id => Buckets.failure_recorded_good latencyMs id
  · exact Buckets.stats_success_mono _ fun id => Buckets.success_le_recorded true latencyMs id

/-- A window without failures is settled when a perfect channel is not below the
threshold. -/
theorem settled_of_no_failure (hmin : 0 < config.minSamples) (hfailure : stats.failure = 0)
    (hthreshold : Number.lt (.fin 1) config.breaker.failureRateThreshold = false) :
    Settled config stats := by
  have hpos : (0 : ℚ) < config.minSamples := by exact_mod_cast hmin
  have hne : max (stats.success + stats.failure) (config.minSamples : ℚ) ≠ 0 :=
    (lt_of_lt_of_le hpos (le_max_right _ _)).ne'
  unfold Settled
  rw [hfailure] at hne ⊢
  rwa [sub_zero, div_self hne]

end

/-! ## The history of one channel -/

/-- What is remembered of one channel: whether its breaker is closed because probes closed
it, and whether a failed outcome was recorded since it last went HALF_OPEN. -/
structure Recovery where
  recovered : Bool
  failedSince : Bool

/-- A world with the history of one channel. -/
structure Watched where
  world : World
  recovery : Recovery

/-- Nothing is remembered at first. -/
def Watched.start (w : World) : Watched where
  world := w
  recovery := { recovered := false, failedSince := false }

/-- The step records a failed outcome of the channel. -/
def recordsFailure (channelId : String) (w : World) : Act → Bool
  | .deliver message =>
      (appliedEvent w message).any fun event => event.channelId = channelId && !event.success
  | _ => false

variable (config : Config) (localeCompare : String → String → Ordering) (channelId : String)

/-- A step, with what is remembered of the channel. -/
def Watched.next (s : Watched) (act : Act) : Watched :=
  let world := perform config localeCompare s.world act
  let before := (s.world.breakers channelId).state
  let after := (world.breakers channelId).state
  { world := world
    recovery :=
      { recovered := after = .closed && (before = .halfOpen || s.recovery.recovered)
        failedSince := !(after = .halfOpen && before ≠ .halfOpen) &&
          (s.recovery.failedSince || recordsFailure channelId s.world act) } }

/-- The step opens a breaker that probes had closed, without a failed outcome since it
was HALF_OPEN. -/
def Relapses (s : Watched) (act : Act) : Prop :=
  (s.world.breakers channelId).state = .closed ∧
    ((perform config localeCompare s.world act).breakers channelId).state = .opened ∧
    s.recovery.recovered = true ∧ s.recovery.failedSince = false ∧
    recordsFailure channelId s.world act = false

instance (s : Watched) (act : Act) :
    Decidable (Relapses config localeCompare channelId s act) :=
  inferInstanceAs (Decidable (_ ∧ _ ∧ _ ∧ _ ∧ _))

/-- Where the step is the probe that closes the breaker, the window it leaves is settled
from then on. -/
def ClosesCalmly (s : Watched) (act : Act) : Prop :=
  ∀ message event, act = .deliver message → appliedEvent s.world message = some event →
    event.channelId = channelId → (s.world.breakers channelId).state = .halfOpen →
    (recordProbe (s.world.breakers channelId) event.success config.routing
      s.world.now).state = .closed →
    Calm config.routing channelId
      ((s.world.windows channelId).recorded config.routing event.success event.latencyMs
        s.world.now) s.world.now

/-- While the breaker is closed by probes and nothing failed since, the window is calm. -/
def RecoveryInv (s : Watched) : Prop :=
  s.recovery.recovered = true → s.recovery.failedSince = false →
    Calm config.routing channelId (s.world.windows channelId) s.world.now

/-! ## One step -/

variable {config localeCompare channelId}

/-- What a step leaves of the history, when it neither relapses nor breaks the
invariant. -/
def KeepsRecovery (config : Config) (localeCompare : String → String → Ordering)
    (channelId : String) (s : Watched) (act : Act) : Prop :=
  ¬ Relapses config localeCompare channelId s act ∧
    RecoveryInv config channelId (s.next config localeCompare channelId act)

/-- After a step that leaves the breaker out of CLOSED there is nothing to keep. -/
theorem recoveryInv_of_not_closed {s : Watched} {act : Act}
    (h : ((perform config localeCompare s.world act).breakers channelId).state ≠ .closed) :
    RecoveryInv config channelId (s.next config localeCompare channelId act) := by
  intro hrecovered
  simp [Watched.next, h] at hrecovered

/-- A step that leaves the breaker or evaluates it against a window that cannot open it. -/
theorem keepsRecovery_of_move {s : Watched} {act : Act} {stats : ChannelStats}
    (hmove : (perform config localeCompare s.world act).breakers channelId =
        s.world.breakers channelId ∨
      (perform config localeCompare s.world act).breakers channelId =
        evaluateBreaker (s.world.breakers channelId) stats config.routing s.world.now)
    (htrips : s.recovery.recovered = true → s.recovery.failedSince = false →
      recordsFailure channelId s.world act = false → ¬ Trips stats config.routing)
    (hcalm : s.recovery.recovered = true → s.recovery.failedSince = false →
      recordsFailure channelId s.world act = false →
      Calm config.routing channelId
        ((perform config localeCompare s.world act).windows channelId)
        (perform config localeCompare s.world act).now) :
    KeepsRecovery config localeCompare channelId s act := by
  have hcases : (perform config localeCompare s.world act).breakers channelId =
        s.world.breakers channelId ∨
      ((s.world.breakers channelId).state = .closed ∧ Trips stats config.routing ∧
        ((perform config localeCompare s.world act).breakers channelId).state = .opened) ∨
      ((s.world.breakers channelId).state = .opened ∧
        ((perform config localeCompare s.world act).breakers channelId).state = .halfOpen) := by
    rcases hmove with hsame | hmove
    · exact .inl hsame
    · rw [hmove]
      rcases evaluateBreaker_cases (s.world.breakers channelId) stats config.routing
        s.world.now with h | ⟨hclosed, htrip, h⟩ | ⟨hopened, _, h⟩
      · exact .inl h
      · exact .inr (.inl ⟨hclosed, htrip, by rw [h]⟩)
      · exact .inr (.inr ⟨hopened, by rw [h]⟩)
  rcases hcases with hsame | ⟨hclosed, htrip, hopens⟩ | ⟨hopened, hhalf⟩
  · constructor
    · rintro ⟨hclosed, hopened, _⟩
      rw [hsame, hclosed] at hopened
      cases hopened
    · intro hrecovered hfailed
      cases hstate : (s.world.breakers channelId).state with
      | opened | halfOpen => simp [Watched.next, hsame, hstate] at hrecovered
      | closed =>
          simp [Watched.next, hsame, hstate] at hrecovered hfailed
          exact hcalm hrecovered hfailed.1 hfailed.2
  · constructor
    · rintro ⟨_, _, hrecovered, hfailed, hgood⟩
      exact htrips hrecovered hfailed hgood htrip
    · exact recoveryInv_of_not_closed (by rw [hopens]; simp)
  · constructor
    · rintro ⟨hclosed, _⟩
      rw [hopened] at hclosed
      cases hclosed
    · exact recoveryInv_of_not_closed (by rw [hhalf]; simp)

/-- A step that leaves window and breaker of the channel. -/
theorem keepsRecovery_of_same {s : Watched} {act : Act} (h : RecoveryInv config channelId s)
    (hnow : s.world.now ≤ (perform config localeCompare s.world act).now)
    (hwindows : (perform config localeCompare s.world act).windows channelId =
      s.world.windows channelId)
    (hbreakers : (perform config localeCompare s.world act).breakers channelId =
      s.world.breakers channelId) :
    KeepsRecovery config localeCompare channelId s act := by
  refine keepsRecovery_of_move (.inl hbreakers) (fun hrecovered hfailed _ =>
    (h hrecovered hfailed).not_trips config.accepted.minSamples) fun hrecovered hfailed _ => ?_
  rw [hwindows]
  exact (h hrecovered hfailed).later hnow

/-- A refresh by a route call. -/
theorem keepsRecovery_route {s : Watched} (h : RecoveryInv config channelId s)
    (faults : Faults) (rng : Rng) (uuid : String) (request : RouteRequest) :
    KeepsRecovery config localeCompare channelId s (.route faults rng uuid request) := by
  have heffect := routeEffect config faults localeCompare rng uuid request s.world
  refine keepsRecovery_of_move (heffect.breakers channelId) (fun hrecovered hfailed _ =>
    (h hrecovered hfailed).not_trips config.accepted.minSamples) fun hrecovered hfailed _ => ?_
  have hcalm := (h hrecovered hfailed).later heffect.now.ge
  rwa [← congrFun heffect.windows channelId] at hcalm

/-- A delivery that applies an outcome of the channel. -/
theorem keepsRecovery_applied {s : Watched} (h : RecoveryInv config channelId s)
    {message : Json} {event : TxnOutcomeEvent}
    (happlied : appliedEvent s.world message = some event)
    (hchannel : event.channelId = channelId)
    (hcalm : ClosesCalmly config channelId s (.deliver message)) :
    KeepsRecovery config localeCompare channelId s (.deliver message) := by
  set recorded := (s.world.windows channelId).recorded config.routing event.success
    event.latencyMs s.world.now with hrecorded
  have hworld : perform config localeCompare s.world (.deliver message) =
      afterDelivery config event s.world := by
    simp [perform, handled_applied happlied]
  have hwindows : (perform config localeCompare s.world (.deliver message)).windows channelId =
      recorded := by
    rw [hworld, afterDelivery_windows, hchannel, Function.update_self]
  have hbreakers : (perform config localeCompare s.world (.deliver message)).breakers channelId =
      movedBreaker config.routing channelId (s.world.breakers channelId) recorded event.success
        s.world.now := by
    rw [hworld, afterDelivery_breakers, hchannel, Function.update_self]
  have hfailure : recordsFailure channelId s.world (.deliver message) = !event.success := by
    simp [recordsFailure, happlied, hchannel]
  -- A success recorded while nothing failed keeps the window calm.
  have hkept : s.recovery.recovered = true → s.recovery.failedSince = false →
      recordsFailure channelId s.world (.deliver message) = false →
      Calm config.routing channelId recorded s.world.now := by
    intro hrecovered hfailed hgood
    have hsuccess : event.success = true := by simpa [hfailure] using hgood
    rw [hrecorded, hsuccess]
    exact (h hrecovered hfailed).recorded config.accepted.minSamples event.latencyMs
  have hnow : (perform config localeCompare s.world (.deliver message)).now = s.world.now := by
    rw [hworld, afterDelivery_now]
  unfold movedBreaker at hbreakers
  by_cases hstate : (s.world.breakers channelId).state = .halfOpen
  · rw [if_pos hstate] at hbreakers
    constructor
    · rintro ⟨hclosed, _⟩
      rw [hstate] at hclosed
      cases hclosed
    · by_cases hclosed : (recordProbe (s.world.breakers channelId) event.success config.routing
        s.world.now).state = .closed
      · intro _ _
        simp only [Watched.next, hwindows, hnow]
        exact hcalm message event rfl happlied hchannel hstate hclosed
      · exact recoveryInv_of_not_closed (by rwa [hbreakers])
  · rw [if_neg hstate] at hbreakers
    refine keepsRecovery_of_move (.inr hbreakers) (fun hrecovered hfailed hgood =>
      (hkept hrecovered hfailed hgood).not_trips config.accepted.minSamples)
      fun hrecovered hfailed hgood => ?_
    rw [hwindows, hnow]
    exact hkept hrecovered hfailed hgood

/-- Every step that closes calmly keeps the recovery. -/
theorem keepsRecovery_step {s : Watched} {act : Act} (h : RecoveryInv config channelId s)
    (hcalm : ClosesCalmly config channelId s act) :
    KeepsRecovery config localeCompare channelId s act := by
  cases act with
  | route faults rng uuid request => exact keepsRecovery_route h faults rng uuid request
  | deliver message =>
      cases happlied : appliedEvent s.world message with
      | none =>
          obtain ⟨hnow, hwindows, hbreakers, _⟩ :=
            handled_not_applied_same config happlied
          exact keepsRecovery_of_same h hnow.ge (congrFun hwindows channelId)
            (congrFun hbreakers channelId)
      | some event =>
          by_cases hchannel : event.channelId = channelId
          · exact keepsRecovery_applied h happlied hchannel hcalm
          · have hworld : perform config localeCompare s.world (.deliver message) =
                afterDelivery config event s.world := by
              simp [perform, handled_applied happlied]
            refine keepsRecovery_of_same h ?_ ?_ ?_
            all_goals
              rw [hworld]
              simp [Function.update_of_ne (Ne.symm hchannel)]
  | advance elapsed =>
      exact keepsRecovery_of_same h (le_add_of_nonneg_right elapsed.2) rfl rfl
  | edit table => exact keepsRecovery_of_same h (le_refl _) rfl rfl
  | clearCache => exact keepsRecovery_of_same h (le_refl _) rfl rfl

/-- In every run in which the probes close the breaker on a settled window, the channel
does not relapse.  A whole call is one step here: a route call that reads the windows before
the closing probe and the breaker after it is outside these runs. -/
theorem recovery_stable (config : Config) (localeCompare : String → String → Ordering)
    (channelId : String) (w : World) (acts : List Act)
    (h : Always (Watched.next config localeCompare channelId) (ClosesCalmly config channelId)
      (Watched.start w) acts) :
    Always (Watched.next config localeCompare channelId)
      (fun s act => ¬ Relapses config localeCompare channelId s act) (Watched.start w) acts :=
  Always.of_invariant (fun _ _ hinv hcalm => keepsRecovery_step hinv hcalm)
    (fun hrecovered => by cases hrecovered) h

/-- Twenty failures open the breaker; half a minute later three probes close it; the next
call finds the failures still in the window. -/
def outage : List Act :=
  failures ++
    [openTimePasses,
      callFor "1" defaultCorridor, outcomeOf "evt_20" "dec_1" .success,
      callFor "2" defaultCorridor, outcomeOf "evt_21" "dec_2" .success,
      callFor "3" defaultCorridor, outcomeOf "evt_22" "dec_3" .success,
      callFor "4" defaultCorridor]

theorem recovery_relapses :
    ¬ Always (Watched.next defaultConfig compare "RAIL-A")
      (fun s act => ¬ Relapses defaultConfig compare "RAIL-A" s act)
      (Watched.start (World.fresh 0 seededA)) outage := by
  decide +kernel

/-- The last probe is out, and the window has forgotten the failures. -/
def recoveringWorld : World :=
  (World.fresh 90000 seededA).setBreaker "RAIL-A"
    { state := .halfOpen, openedAt := 0, probeSuccess := 2 }

theorem recovery_stable_empty_window :
    Always (Watched.next defaultConfig compare "RAIL-A")
      (fun s act => ¬ Relapses defaultConfig compare "RAIL-A" s act)
      (Watched.start recoveringWorld)
      [outcomeOf "evt_1" "dec_1" .success, callFor "2" defaultCorridor] := by
  refine recovery_stable defaultConfig compare "RAIL-A" recoveringWorld _ ⟨?_, ?_, trivial⟩
  · intro message event hact happlied _ _ _
    cases hact
    have hevent : event = payoutOutcome "evt_1" "dec_1" "RAIL-A" .success := by
      have hsupported := (supportedEvent_eq_some.mp (appliedEvent_eq_some.mp happlied).1).1
      rw [payoutOutcome_message .success (by decide) (by decide) (by decide)] at hsupported
      cases hsupported
      rfl
    subst hevent
    intro t _
    refine settled_of_no_failure (by decide) ?_ (by decide +kernel)
    refine (Buckets.stats_failure_congr _ fun id => Buckets.failure_recorded_good _ id).trans ?_
    simp [Buckets.stats, Watched.start, recoveringWorld, World.fresh, Bucket.empty]
  · rintro message event hact
    cases hact

end SwitchService.Runs
