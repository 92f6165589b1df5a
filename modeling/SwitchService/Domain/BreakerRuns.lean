import SwitchService.Domain.Breaker
import SwitchService.Foundation.Runs

set_option autoImplicit false

/-!
# Domain: the breaker over whole runs

A run is a sequence of calls of `evaluateBreaker` and `recordProbe` from a closed
breaker, in any order and at any times.  A half-open breaker counts the good probes of
one episode, so what the snapshot says can be read off the calls that led to it.
-/

namespace SwitchService.Domain

open SwitchService.Foundation

/-- One call of the breaker. -/
inductive BreakerCall where
  | evaluate (stats : ChannelStats) (now : ℚ)
  | probe (success : Bool) (now : ℚ)
  deriving DecidableEq

/-- The `now` of a call. -/
def BreakerCall.time : BreakerCall → ℚ
  | .evaluate _ now => now
  | .probe _ now => now

/-- The results of the `recordProbe` calls among some calls. -/
def probeResults (calls : List BreakerCall) : List Bool :=
  calls.filterMap fun
    | .probe success _ => some success
    | .evaluate _ _ => none

/-- One call moves the breaker. -/
def stepBreaker (config : RoutingConfig) (current : BreakerSnapshot) :
    BreakerCall → BreakerSnapshot
  | .evaluate stats now => evaluateBreaker current stats config now
  | .probe success now => recordProbe current success config now

/-- The breaker after some calls. -/
def breakerAfter (config : RoutingConfig) (calls : List BreakerCall) : BreakerSnapshot :=
  runFrom (stepBreaker config) closedBreaker calls

/-- A call moves the breaker into a state that it was not in before. -/
def Enters (config : RoutingConfig) (calls : List BreakerCall) (call : BreakerCall)
    (state : BreakerState) : Prop :=
  (breakerAfter config calls).state ≠ state ∧
    (breakerAfter config (calls ++ [call])).state = state

instance (config : RoutingConfig) (calls : List BreakerCall) (call : BreakerCall)
    (state : BreakerState) : Decidable (Enters config calls call state) :=
  inferInstanceAs (Decidable (_ ∧ _))

/-! ## What a run says -/

/-- The snapshots that the two functions can produce. -/
def WellShaped (config : RoutingConfig) (snapshot : BreakerSnapshot) : Prop :=
  match snapshot.state with
  | .closed => snapshot.openedAt = 0 ∧ snapshot.probeSuccess = 0
  | .opened => snapshot.probeSuccess = 0
  | .halfOpen => 0 ≤ snapshot.probeSuccess ∧
      snapshot.probeSuccess < config.breaker.probesToClose

/-- The last entry into OPEN of a run, and the calls since. -/
structure LastOpening (config : RoutingConfig) (calls older : List BreakerCall)
    (opening : BreakerCall) (since : List BreakerCall) : Prop where
  split : calls = older ++ opening :: since
  enters : Enters config older opening .opened
  last : ∀ mid call tail, since = mid ++ call :: tail →
    ¬ Enters config (older ++ opening :: mid) call .opened

/-- The breaker went to HALF_OPEN on an `evaluateBreaker` call after its time, and since
then had probe results only of the given kind. -/
structure Probation (config : RoutingConfig) (calls : List BreakerCall) (opening : BreakerCall)
    (results : List Bool) : Prop where
  evaluated : ∃ older wait stats now probes,
    LastOpening config calls older opening (wait ++ .evaluate stats now :: probes) ∧
      Enters config (older ++ opening :: wait) (.evaluate stats now) .halfOpen ∧
      opening.time + config.breaker.openMs ≤ now ∧ probeResults probes = results

/-- Every part of a run keeps to the protocol of the breaker. -/
structure KeepsProtocol (config : RoutingConfig) (calls : List BreakerCall) : Prop where
  shape : ∀ before after, calls = before ++ after →
    WellShaped config (breakerAfter config before)
  opening : ∀ before call after, calls = before ++ call :: after →
    (breakerAfter config before).state = .closed → Enters config before call .opened →
    ∃ stats now, call = .evaluate stats now ∧
      config.minSamples ≤ stats.success + stats.failure
  closing : ∀ before call after, calls = before ++ call :: after →
    Enters config before call .closed →
    ∃ opening, Probation config (before ++ [call]) opening
      (List.replicate config.breaker.probesToClose true)

section

variable {config : RoutingConfig} {calls older since : List BreakerCall}
  {opening call : BreakerCall} {state : BreakerState}

@[simp] theorem breakerAfter_snoc (config : RoutingConfig) (calls : List BreakerCall)
    (call : BreakerCall) : breakerAfter config (calls ++ [call]) =
      stepBreaker config (breakerAfter config calls) call :=
  runFrom_append _ _ _ _

/-- A breaker that is in a state does not enter it. -/
theorem not_enters_of_state (h : (breakerAfter config calls).state = state) :
    ¬ Enters config calls call state := fun henters => henters.1 h

theorem not_enters_of_after (h : (stepBreaker config (breakerAfter config calls) call).state ≠
    state) : ¬ Enters config calls call state := by
  intro henters
  rw [← breakerAfter_snoc] at h
  exact h henters.2

/-! ## The calls since the last opening -/

theorem LastOpening.of_enters (h : Enters config calls call .opened) :
    LastOpening config (calls ++ [call]) calls call [] where
  split := rfl
  enters := h
  last mid other tail hsplit := by simp at hsplit

theorem LastOpening.snoc (h : LastOpening config calls older opening since)
    (hcall : ¬ Enters config calls call .opened) :
    LastOpening config (calls ++ [call]) older opening (since ++ [call]) where
  split := by
    rw [h.split]
    simp
  enters := h.enters
  last mid other tail hsplit := by
    rcases List.eq_nil_or_concat tail with rfl | ⟨tail', last, rfl⟩
    · obtain ⟨rfl, heq⟩ := List.append_inj' hsplit rfl
      obtain rfl := (List.cons.inj heq).1
      rw [← h.split]
      exact hcall
    · refine h.last mid other tail' ?_
      rw [List.concat_eq_append, ← List.cons_append, ← List.append_assoc] at hsplit
      exact (List.append_inj' hsplit rfl).1

theorem probeResults_append (calls more : List BreakerCall) :
    probeResults (calls ++ more) = probeResults calls ++ probeResults more :=
  List.filterMap_append

theorem Probation.snoc {results : List Bool} (h : Probation config calls opening results)
    (hcall : ¬ Enters config calls call .opened) :
    Probation config (calls ++ [call]) opening (results ++ probeResults [call]) := by
  obtain ⟨older, wait, stats, now, probes, hlast, henters, htime, rfl⟩ := h.evaluated
  refine ⟨older, wait, stats, now, probes ++ [call], ?_, henters, htime,
    probeResults_append probes [call]⟩
  have hsnoc := hlast.snoc hcall
  rw [List.append_assoc, List.cons_append] at hsnoc
  exact hsnoc

/-! ## The history of a snapshot -/

/-- What the calls so far say about the snapshot that they led to. -/
inductive History (config : RoutingConfig) (calls : List BreakerCall) : Prop where
  | closed (hsnapshot : breakerAfter config calls = closedBreaker)
  | opened (older : List BreakerCall) (opening : BreakerCall) (since : List BreakerCall)
      (hsnapshot : breakerAfter config calls =
        { state := .opened, openedAt := opening.time, probeSuccess := 0 })
      (hlast : LastOpening config calls older opening since)
  | halfOpen (opening : BreakerCall) (good : ℕ)
      (hsnapshot : breakerAfter config calls =
        { state := .halfOpen, openedAt := opening.time, probeSuccess := good })
      (hgood : good < config.breaker.probesToClose)
      (hprobation : Probation config calls opening (List.replicate good true))

theorem History.wellShaped (h : History config calls) :
    WellShaped config (breakerAfter config calls) := by
  cases h with
  | closed hsnapshot =>
      rw [hsnapshot]
      exact ⟨rfl, rfl⟩
  | opened older opening since hsnapshot hlast =>
      rw [hsnapshot]
      exact rfl
  | halfOpen opening good hsnapshot hgood hprobation =>
      rw [hsnapshot]
      exact ⟨Nat.cast_nonneg good, Nat.cast_lt.mpr hgood⟩

theorem History.step_closed (h : breakerAfter config calls = closedBreaker)
    (call : BreakerCall) : History config (calls ++ [call]) := by
  have hstate : (breakerAfter config calls).state = .closed := by rw [h]; rfl
  cases call with
  | evaluate stats now =>
      rcases evaluateBreaker_cases (breakerAfter config calls) stats config now with
        hsame | ⟨_, _, hopened⟩ | ⟨hopened, _, _⟩
      · exact .closed (by rw [breakerAfter_snoc, stepBreaker, hsame, h])
      · refine .opened calls (.evaluate stats now) [] ?_ (.of_enters ⟨?_, ?_⟩)
        · rw [breakerAfter_snoc, stepBreaker, hopened]
          rfl
        · rw [hstate]
          decide
        · rw [breakerAfter_snoc, stepBreaker, hopened]
      · rw [hstate] at hopened
        cases hopened
  | probe success now =>
      refine .closed ?_
      rw [breakerAfter_snoc, stepBreaker, recordProbe_of_ne (by rw [hstate]; decide), h]

theorem History.step_opened (hprobes : 0 < config.breaker.probesToClose)
    (h : breakerAfter config calls =
      { state := .opened, openedAt := opening.time, probeSuccess := 0 })
    (hlast : LastOpening config calls older opening since) (call : BreakerCall) :
    History config (calls ++ [call]) := by
  have hstate : (breakerAfter config calls).state = .opened := by rw [h]
  have hquiet : ¬ Enters config calls call .opened := not_enters_of_state hstate
  have hsnoc := hlast.snoc hquiet
  cases call with
  | evaluate stats now =>
      rcases evaluateBreaker_cases (breakerAfter config calls) stats config now with
        hsame | ⟨hclosed, _, _⟩ | ⟨_, hwait, hhalf⟩
      · exact .opened older opening _ (by rw [breakerAfter_snoc, stepBreaker, hsame, h]) hsnoc
      · rw [hstate] at hclosed
        cases hclosed
      · rw [h] at hwait hhalf
        dsimp only at hwait hhalf
        have hafter : breakerAfter config (calls ++ [.evaluate stats now]) =
            { state := .halfOpen, openedAt := opening.time, probeSuccess := 0 } := by
          rw [breakerAfter_snoc, stepBreaker, h, hhalf]
        refine .halfOpen opening 0 hafter hprobes
          ⟨older, since, stats, now, [], hsnoc, ⟨?_, ?_⟩, by linarith, rfl⟩
        · rw [← hlast.split, hstate]
          decide
        · rw [← hlast.split, hafter]
  | probe success now =>
      refine .opened older opening _ ?_ hsnoc
      rw [breakerAfter_snoc, stepBreaker, recordProbe_of_ne (by rw [hstate]; decide), h]

theorem History.step_halfOpen {good : ℕ} (h : breakerAfter config calls =
      { state := .halfOpen, openedAt := opening.time, probeSuccess := good })
    (hgood : good < config.breaker.probesToClose)
    (hprobation : Probation config calls opening (List.replicate good true))
    (call : BreakerCall) : History config (calls ++ [call]) := by
  have hstate : (breakerAfter config calls).state = .halfOpen := by rw [h]
  cases call with
  | evaluate stats now =>
      have hsame : evaluateBreaker (breakerAfter config calls) stats config now =
          breakerAfter config calls := evaluateBreaker_halfOpen hstate
      refine .halfOpen opening good (by rw [breakerAfter_snoc, stepBreaker, hsame, h]) hgood ?_
      have hquiet : ¬ Enters config calls (.evaluate stats now) .opened :=
        not_enters_of_after (by rw [stepBreaker, hsame, hstate]; decide)
      have hsnoc := hprobation.snoc hquiet
      rw [show probeResults [.evaluate stats now] = [] from rfl, List.append_nil] at hsnoc
      exact hsnoc
  | probe success now =>
      cases success with
      | false =>
          have hafter : breakerAfter config (calls ++ [.probe false now]) =
              { state := .opened, openedAt := now, probeSuccess := 0 } := by
            rw [breakerAfter_snoc, stepBreaker, recordProbe_failed hstate]
          refine .opened calls (.probe false now) [] hafter (.of_enters ⟨?_, ?_⟩)
          · rw [hstate]
            decide
          · rw [hafter]
      | true =>
          have hafter : breakerAfter config (calls ++ [.probe true now]) =
              if config.breaker.probesToClose ≤ (good : ℚ) + 1 then closedBreaker
              else
                { state := .halfOpen, openedAt := opening.time, probeSuccess := good + 1 } := by
            rw [breakerAfter_snoc, stepBreaker, recordProbe_good hstate, h]
          split at hafter
          · exact .closed hafter
          · rename_i hfew
            have hless : good + 1 < config.breaker.probesToClose := by
              exact_mod_cast not_le.mp hfew
            refine .halfOpen opening (good + 1) ?_ hless ?_
            · rw [hafter]
              simp
            · have hquiet : ¬ Enters config calls (.probe true now) .opened := by
                rintro ⟨_, hopened⟩
                rw [hafter] at hopened
                cases hopened
              have hsnoc := hprobation.snoc hquiet
              rw [show probeResults [.probe true now] = [true] from rfl,
                ← List.replicate_succ'] at hsnoc
              exact hsnoc

theorem history (hprobes : 0 < config.breaker.probesToClose) (calls : List BreakerCall) :
    History config calls := by
  induction calls using List.reverseRecOn with
  | nil => exact .closed rfl
  | append_singleton calls call ih =>
      cases ih with
      | closed hsnapshot => exact .step_closed hsnapshot call
      | opened older opening since hsnapshot hlast =>
          exact .step_opened hprobes hsnapshot hlast call
      | halfOpen opening good hsnapshot hgood hprobation =>
          exact .step_halfOpen hsnapshot hgood hprobation call

/-! ## The moves into OPEN and CLOSED -/

theorem enters_opened_of_closed (hstate : (breakerAfter config calls).state = .closed)
    (henters : Enters config calls call .opened) :
    ∃ stats now, call = .evaluate stats now ∧
      config.minSamples ≤ stats.success + stats.failure := by
  have hafter := henters.2
  rw [breakerAfter_snoc] at hafter
  cases call with
  | evaluate stats now =>
      rcases evaluateBreaker_cases (breakerAfter config calls) stats config now with
        hsame | ⟨_, htrips, _⟩ | ⟨hopened, _, _⟩
      · rw [stepBreaker, hsame, hstate] at hafter
        cases hafter
      · exact ⟨stats, now, rfl, htrips.1⟩
      · rw [hstate] at hopened
        cases hopened
  | probe success now =>
      rw [stepBreaker, recordProbe_of_ne (by rw [hstate]; decide), hstate] at hafter
      cases hafter

/-- Only the last good probe of an episode closes the breaker. -/
theorem History.enters_closed (h : History config calls)
    (henters : Enters config calls call .closed) :
    ∃ opening, Probation config (calls ++ [call]) opening
      (List.replicate config.breaker.probesToClose true) := by
  have hbefore := henters.1
  have hafter := henters.2
  rw [breakerAfter_snoc] at hafter
  cases call with
  | evaluate stats now =>
      rcases evaluateBreaker_cases (breakerAfter config calls) stats config now with
        hsame | ⟨_, _, hopened⟩ | ⟨_, _, hhalf⟩
      · rw [stepBreaker, hsame] at hafter
        exact absurd hafter hbefore
      · rw [stepBreaker, hopened] at hafter
        cases hafter
      · rw [stepBreaker, hhalf] at hafter
        cases hafter
  | probe success now =>
      have hstate : (breakerAfter config calls).state = .halfOpen := by
        by_contra hne
        rw [stepBreaker, recordProbe_of_ne hne] at hafter
        exact hbefore hafter
      cases h with
      | closed hsnapshot =>
          rw [hsnapshot] at hstate
          cases hstate
      | opened older opening since hsnapshot hlast =>
          rw [hsnapshot] at hstate
          cases hstate
      | halfOpen opening good hsnapshot hgood hprobation =>
          cases success with
          | false =>
              rw [stepBreaker, recordProbe_failed hstate] at hafter
              cases hafter
          | true =>
              rw [stepBreaker, recordProbe_good hstate, hsnapshot] at hafter
              split at hafter
              · rename_i hlast
                have hcount : config.breaker.probesToClose = good + 1 := by
                  have hle : config.breaker.probesToClose ≤ good + 1 := by
                    dsimp only at hlast
                    exact_mod_cast hlast
                  omega
                have hquiet : ¬ Enters config calls (.probe true now) .opened := by
                  rintro ⟨_, hopened⟩
                  rw [henters.2] at hopened
                  cases hopened
                have hsnoc := hprobation.snoc hquiet
                rw [show probeResults [.probe true now] = [true] from rfl,
                  ← List.replicate_succ', ← hcount] at hsnoc
                exact ⟨opening, hsnoc⟩
              · cases hafter

/-- Every run of the breaker keeps to its protocol. -/
theorem breaker_keepsProtocol (config : RoutingConfig) (calls : List BreakerCall)
    (hprobes : 0 < config.breaker.probesToClose) : KeepsProtocol config calls where
  shape before _ _ := (history hprobes before).wellShaped
  opening _ _ _ _ hclosed henters := enters_opened_of_closed hclosed henters
  closing before _ _ _ henters := (history hprobes before).enters_closed henters

/-- A closed breaker opens on twenty failures, waits and closes on three good probes. -/
def fullCycle : List BreakerCall :=
  [.evaluate { channelId := "RAIL-A", success := 0, failure := 20, latencySamples := [] } 1000,
    .evaluate (emptyStats "RAIL-A") 31000, .probe true 31100, .probe true 31200,
    .probe true 31300]

theorem breaker_keepsProtocol_fullCycle : KeepsProtocol defaultRoutingConfig fullCycle ∧
    Enters defaultRoutingConfig (fullCycle.take 4) (.probe true 31300) .closed :=
  ⟨breaker_keepsProtocol defaultRoutingConfig fullCycle (by decide), by decide +kernel⟩

end

end SwitchService.Domain
