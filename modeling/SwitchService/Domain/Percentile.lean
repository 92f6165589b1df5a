import SwitchService.Foundation.Number
import Mathlib.Data.List.Sort

set_option autoImplicit false

/-!
# Domain: the percentile of the latency samples (`domain/percentile.ts`)

With too few samples the answer is `null`, not a number.
-/

namespace SwitchService.Domain

open SwitchService.Foundation

/-- `MIN_SAMPLES_FOR_PERCENTILE`. -/
def minSamplesForPercentile : ℕ := 5

/-- The value of a sample that can be a latency: finite and not negative. -/
def latencyOf : Number → Option ℚ
  | .fin v => if 0 ≤ v then some v else none
  | _ => none

/-- The percentile of the samples.  The error carries the refused fraction, which
the message of the source prints. -/
def percentile (samples : List Number) (fraction : ℚ) (minSamples : ℕ) :
    Except ℚ (Option ℚ) :=
  if fraction ≤ 0 ∨ fraction > 1 then .error fraction
  else
    let clean := samples.filterMap latencyOf
    if clean.length < minSamples then .ok none
    else
      let sorted := clean.insertionSort (· ≤ ·)
      let index := min ((sorted.length : ℤ) - 1) (max 0 (⌈fraction * sorted.length⌉ - 1))
      .ok sorted[index.toNat]?

/-- The p95.  The fraction 0.95 is never refused. -/
def p95 (samples : List Number) (minSamples : ℕ) : Option ℚ :=
  (percentile samples (95 / 100) minSamples).toOption.join

end SwitchService.Domain
