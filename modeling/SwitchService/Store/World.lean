import SwitchService.Config
import SwitchService.Store.Buckets

set_option autoImplicit false

/-!
# Store: the state behind the calls

`World` is everything that the routing service and the outcome handler share: the
`channels` table, the module-level channel cache, and what the stores keep in
Redis.  Redis and the application share one clock, and a key with a time to live
is there until that time has passed.
-/

namespace SwitchService.Store

open SwitchService.Foundation SwitchService.Domain

/-- A row of the `channels` table. -/
structure Row where
  id : String
  name : String
  cost : ℚ
  corridor : String
  enabled : Bool
  deriving DecidableEq

/-- The `channels` table, in the order of `ORDER BY id`.  `id` is the primary key. -/
structure Table where
  rows : List Row
  unique : (rows.map (·.id)).Nodup
  deriving DecidableEq

/-- The module-level cache of `channelRepository.ts`. -/
structure ChannelCache where
  filledAt : ℚ
  channels : List Channel
  deriving DecidableEq

/-- The state behind the calls.  A mark or a lock is stored with the moment at
which it is gone. -/
structure World where
  now : ℚ
  table : Table
  cache : Option ChannelCache
  windows : String → Buckets
  breakers : String → BreakerSnapshot
  probeSlots : String → Option ℚ
  processed : String → Option ℚ
  decisions : List (RoutingDecision × String)

/-- A state with nothing stored. -/
def World.fresh (now : ℚ) (table : Table) : World where
  now := now
  table := table
  cache := none
  windows _ _ := .empty
  breakers _ := closedBreaker
  probeSlots _ := none
  processed _ := none
  decisions := []

/-- A mark with the given end is still there. -/
def liveAt (now : ℚ) : Option ℚ → Prop
  | none => False
  | some expiresAt => now < expiresAt

instance (now : ℚ) : (mark : Option ℚ) → Decidable (liveAt now mark)
  | none => inferInstanceAs (Decidable False)
  | some expiresAt => inferInstanceAs (Decidable (now < expiresAt))

@[simp] theorem liveAt_none (now : ℚ) : ¬ liveAt now none := fun h => h

@[simp] theorem liveAt_some (now expiresAt : ℚ) :
    liveAt now (some expiresAt) ↔ now < expiresAt := Iff.rfl

/-- A mark that is there now was there before. -/
theorem liveAt_mono {t now : ℚ} {mark : Option ℚ} (hnow : t ≤ now) (h : liveAt now mark) :
    liveAt t mark := by
  cases mark with
  | none => exact h
  | some expiresAt => exact lt_of_le_of_lt hnow h

/-- The probe slot of a channel is held. -/
def World.slotHeld (w : World) (channelId : String) : Prop :=
  liveAt w.now (w.probeSlots channelId)

instance (w : World) (channelId : String) : Decidable (w.slotHeld channelId) :=
  inferInstanceAs (Decidable (liveAt _ _))

/-- The mark of a processed event is there. -/
def World.marked (w : World) (eventId : String) : Prop :=
  liveAt w.now (w.processed eventId)

instance (w : World) (eventId : String) : Decidable (w.marked eventId) :=
  inferInstanceAs (Decidable (liveAt _ _))

/-! ## One entry changes -/

/-- The buckets of one channel are replaced. -/
def World.setWindow (w : World) (channelId : String) (buckets : Buckets) : World :=
  { w with windows := Function.update w.windows channelId buckets }

/-- The breaker of one channel is replaced. -/
def World.setBreaker (w : World) (channelId : String) (snapshot : BreakerSnapshot) : World :=
  { w with breakers := Function.update w.breakers channelId snapshot }

/-- The probe slot of one channel is taken, or freed. -/
def World.setProbeSlot (w : World) (channelId : String) (expiresAt : Option ℚ) : World :=
  { w with probeSlots := Function.update w.probeSlots channelId expiresAt }

/-- An event is marked, or its mark removed. -/
def World.setProcessed (w : World) (eventId : String) (expiresAt : Option ℚ) : World :=
  { w with processed := Function.update w.processed eventId expiresAt }

section

variable (w : World) (id : String) (buckets : Buckets) (snapshot : BreakerSnapshot)
  (expiresAt : Option ℚ)

@[simp] theorem setWindow_now : (w.setWindow id buckets).now = w.now := rfl
@[simp] theorem setWindow_table : (w.setWindow id buckets).table = w.table := rfl
@[simp] theorem setWindow_cache : (w.setWindow id buckets).cache = w.cache := rfl
@[simp] theorem setWindow_windows :
    (w.setWindow id buckets).windows = Function.update w.windows id buckets := rfl
@[simp] theorem setWindow_breakers : (w.setWindow id buckets).breakers = w.breakers := rfl
@[simp] theorem setWindow_probeSlots :
    (w.setWindow id buckets).probeSlots = w.probeSlots := rfl
@[simp] theorem setWindow_processed : (w.setWindow id buckets).processed = w.processed := rfl

@[simp] theorem setBreaker_now : (w.setBreaker id snapshot).now = w.now := rfl
@[simp] theorem setBreaker_table : (w.setBreaker id snapshot).table = w.table := rfl
@[simp] theorem setBreaker_cache : (w.setBreaker id snapshot).cache = w.cache := rfl
@[simp] theorem setBreaker_windows : (w.setBreaker id snapshot).windows = w.windows := rfl
@[simp] theorem setBreaker_breakers :
    (w.setBreaker id snapshot).breakers = Function.update w.breakers id snapshot := rfl
@[simp] theorem setBreaker_probeSlots :
    (w.setBreaker id snapshot).probeSlots = w.probeSlots := rfl
@[simp] theorem setBreaker_processed :
    (w.setBreaker id snapshot).processed = w.processed := rfl

@[simp] theorem setProbeSlot_now : (w.setProbeSlot id expiresAt).now = w.now := rfl
@[simp] theorem setProbeSlot_table : (w.setProbeSlot id expiresAt).table = w.table := rfl
@[simp] theorem setProbeSlot_cache : (w.setProbeSlot id expiresAt).cache = w.cache := rfl
@[simp] theorem setProbeSlot_windows : (w.setProbeSlot id expiresAt).windows = w.windows := rfl
@[simp] theorem setProbeSlot_breakers :
    (w.setProbeSlot id expiresAt).breakers = w.breakers := rfl
@[simp] theorem setProbeSlot_probeSlots :
    (w.setProbeSlot id expiresAt).probeSlots = Function.update w.probeSlots id expiresAt := rfl
@[simp] theorem setProbeSlot_processed :
    (w.setProbeSlot id expiresAt).processed = w.processed := rfl

@[simp] theorem setProcessed_now : (w.setProcessed id expiresAt).now = w.now := rfl
@[simp] theorem setProcessed_table : (w.setProcessed id expiresAt).table = w.table := rfl
@[simp] theorem setProcessed_cache : (w.setProcessed id expiresAt).cache = w.cache := rfl
@[simp] theorem setProcessed_windows : (w.setProcessed id expiresAt).windows = w.windows := rfl
@[simp] theorem setProcessed_breakers :
    (w.setProcessed id expiresAt).breakers = w.breakers := rfl
@[simp] theorem setProcessed_probeSlots :
    (w.setProcessed id expiresAt).probeSlots = w.probeSlots := rfl
@[simp] theorem setProcessed_processed :
    (w.setProcessed id expiresAt).processed = Function.update w.processed id expiresAt := rfl

end

end SwitchService.Store
