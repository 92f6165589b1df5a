import SwitchService.Domain.Scoring
import SwitchService.Repositories.ChannelRepository

set_option autoImplicit false

/-!
# Repositories: the writes of the registry (`repositories/channelRepository.ts`)

`setEnabled`, `upsertChannel` and `deleteAllChannels` send one statement and clear the cache
when it is answered.  They are programs over the calls of the readers and the statements;
the order of `ORDER BY id` is a parameter.
-/

namespace SwitchService.Repositories

open SwitchService.Foundation SwitchService.Domain SwitchService.Store

/-! ## The statements (`migrations/001_init.sql`) -/

/-- `UPDATE channels SET enabled = $2 WHERE id = $1`. -/
def updateEnabled (table : Table) (id : String) (enabled : Bool) : Table where
  rows := table.rows.map fun row => if row.id = id then { row with enabled := enabled } else row
  unique := by
    have hids : (table.rows.map fun row =>
        if row.id = id then { row with enabled := enabled } else row).map (·.id) =
          table.rows.map (·.id) := by
      rw [List.map_map]
      refine List.map_congr_left fun row _ => ?_
      dsimp only [Function.comp]
      split <;> rfl
    rw [hids]
    exact table.unique

/-- The value that a `NUMERIC(10,4)` column keeps. -/
def numericCost (cost : ℚ) : ℚ := if cost < 0 then -round4 (-cost) else round4 cost

/-- What the column rejects: its overflow and its check. -/
def costError (cost : ℚ) : Option String :=
  if numericCost cost < 0 then
    some "new row for relation \"channels\" violates check constraint \"channels_cost_check\""
  else if 1000000 ≤ numericCost cost then some "numeric field overflow"
  else none

/-- The row under an identifier is replaced, or the row is put in its place. -/
def upsertRow (idOrder : String → String → Bool) (table : Table) (row : Row) : Table where
  rows :=
    if row.id ∈ table.rows.map (·.id) then
      table.rows.map fun other => if other.id = row.id then row else other
    else table.rows.orderedInsert (fun a b => idOrder a.id b.id = true) row
  unique := by
    by_cases hmem : row.id ∈ table.rows.map (·.id)
    · rw [if_pos hmem]
      have hids : (table.rows.map fun other => if other.id = row.id then row else other).map
          (·.id) = table.rows.map (·.id) := by
        rw [List.map_map]
        refine List.map_congr_left fun other _ => ?_
        dsimp only [Function.comp]
        split
        · rename_i heq
          exact heq.symm
        · rfl
      rw [hids]
      exact table.unique
    · rw [if_neg hmem]
      have hperm := (List.perm_orderedInsert (fun a b : Row => idOrder a.id b.id = true) row
        table.rows).map (·.id)
      exact hperm.nodup_iff.mpr (List.nodup_cons.mpr ⟨hmem, table.unique⟩)

/-- `DELETE FROM channels`. -/
def emptyTable : Table := { rows := [], unique := List.nodup_nil }

/-- What `upsertChannel` is given; the optional fields have defaults. -/
structure UpsertChannelInput where
  id : String
  name : String
  cost : ℚ
  corridor : Option String
  enabled : Option Bool
  deriving DecidableEq

/-- The row that an upsert writes. -/
def UpsertChannelInput.row (input : UpsertChannelInput) : Row where
  id := input.id
  name := input.name
  cost := numericCost input.cost
  corridor := input.corridor.getD defaultCorridor
  enabled := input.enabled.getD true

/-! ## The calls -/

/-- What the writers wait for, and the calls of the readers beside them. -/
inductive RegistryCall where
  /-- A call of the readers. -/
  | store (call : Call)
  | update (id : String) (enabled : Bool)
  | upsert (input : UpsertChannelInput)
  | deleteAll
  | clearCache

/-- `RETURNING` gives the row that was written. -/
abbrev RegistryCall.Ans : RegistryCall → Type
  | .store call => call.Ans
  | .update .. => Option Row
  | .upsert _ => Row
  | .deleteAll => Unit
  | .clearCache => Unit

/-- The call is a statement that writes. -/
def RegistryCall.isWrite : RegistryCall → Bool
  | .update .. | .upsert _ | .deleteAll => true
  | _ => false

/-- The cache is in the process itself. -/
def RegistryCall.isAwaited : RegistryCall → Bool
  | .store call => call.isAwaited
  | .clearCache => false
  | _ => true

/-- What a call does when it is carried out. -/
def performRegistry (config : Config) (idOrder : String → String → Bool) :
    (call : RegistryCall) → World → Except Failure call.Ans × World
  | .store call, w => perform config call w
  | .update id enabled, w =>
      let table := updateEnabled w.table id enabled
      (.ok (table.rows.find? (·.id = id)), { w with table := table })
  | .upsert input, w =>
      match costError input.cost with
      | some message => (.error (.rejected message), w)
      | none => (.ok input.row, { w with table := upsertRow idOrder w.table input.row })
  | .deleteAll, w => (.ok (), { w with table := emptyTable })
  | .clearCache, w => (.ok (), clearChannelCache w)

/-! ## The programs -/

/-- An asynchronous function over the calls of the registry. -/
abbrev RegistryProgram (α : Type) : Type := Prog RegistryCall RegistryCall.Ans Failure α

/-- A reader among the calls of the registry. -/
def reader {α : Type} (program : Program α) : RegistryProgram α :=
  Prog.embed RegistryCall.store program

/-- `setEnabled`: the cache is cleared once the statement has answered. -/
def setEnabled (id : String) (enabled : Bool) : RegistryProgram (Option Channel) := do
  let row ← Prog.await (RegistryCall.update id enabled)
  let _ ← Prog.await RegistryCall.clearCache
  return row.map toChannel

/-- `upsertChannel`. -/
def upsertChannel (input : UpsertChannelInput) : RegistryProgram Channel := do
  let row ← Prog.await (RegistryCall.upsert input)
  let _ ← Prog.await RegistryCall.clearCache
  return toChannel row

/-- `deleteAllChannels`. -/
def deleteAllChannels : RegistryProgram Unit := do
  let _ ← Prog.await RegistryCall.deleteAll
  let _ ← Prog.await RegistryCall.clearCache
  return ()

/-! ## What a statement leaves enabled -/

/-- The channel is enabled in a table. -/
def EnabledIn (table : Table) (id : String) : Prop :=
  ∃ row ∈ table.rows, row.id = id ∧ row.enabled = true

/-- The statement enables the channel. -/
def RegistryCall.enables (id : String) : RegistryCall → Bool
  | .update other enabled => decide (other = id) && enabled
  | .upsert input => decide (input.id = id) && input.enabled.getD true
  | _ => false

theorem enabledIn_updateEnabled {table : Table} {id other : String} {enabled : Bool}
    (h : EnabledIn (updateEnabled table other enabled) id) :
    if other = id then enabled = true else EnabledIn table id := by
  obtain ⟨row', hmem, hid, henabled⟩ := h
  obtain ⟨row, hrow, rfl⟩ := List.mem_map.mp hmem
  by_cases hother : row.id = other
  · rw [if_pos hother] at hid henabled
    rw [if_pos (hother.symm.trans hid)]
    exact henabled
  · rw [if_neg hother] at hid henabled
    rw [if_neg fun heq => hother (hid.trans heq.symm)]
    exact ⟨row, hrow, hid, henabled⟩

theorem enabledIn_upsertRow {idOrder : String → String → Bool} {table : Table} {row : Row}
    {id : String} (h : EnabledIn (upsertRow idOrder table row) id) :
    (row.id = id ∧ row.enabled = true) ∨ EnabledIn table id := by
  obtain ⟨found, hmem, hid, henabled⟩ := h
  unfold upsertRow at hmem
  dsimp only at hmem
  split at hmem
  · obtain ⟨other, hother, rfl⟩ := List.mem_map.mp hmem
    split at hid
    · rename_i heq
      rw [if_pos heq] at henabled
      exact .inl ⟨hid, henabled⟩
    · rename_i hne
      rw [if_neg hne] at henabled
      exact .inr ⟨other, hother, hid, henabled⟩
  · rcases (List.mem_orderedInsert _).mp hmem with rfl | hmem
    · exact .inl ⟨hid, henabled⟩
    · exact .inr ⟨found, hmem, hid, henabled⟩

section

variable {config : Config} {idOrder : String → String → Bool} {w : World}

@[simp] theorem perform_table (call : Call) : (perform config call w).2.table = w.table := by
  cases call with
  | claim | record | readWindow | readWindows | takeProbeSlot =>
      unfold perform
      dsimp only
      split <;> rfl
  | _ => rfl

theorem perform_cache_of_ne {call : Call} (h : ∀ entry, call ≠ .setCache entry) :
    (perform config call w).2.cache = w.cache := by
  cases call with
  | setCache entry => exact absurd rfl (h entry)
  | claim | record | readWindow | readWindows | takeProbeSlot =>
      unfold perform
      dsimp only
      split <;> rfl
  | _ => rfl

/-- Only a statement changes the table. -/
theorem performRegistry_table {call : RegistryCall} (h : call.isWrite = false) :
    (performRegistry config idOrder call w).2.table = w.table := by
  cases call with
  | store call => exact perform_table call
  | clearCache => rfl
  | update | upsert | deleteAll => cases h

/-- An upsert leaves the table, or puts its row there. -/
theorem performRegistry_upsert (input : UpsertChannelInput) :
    (performRegistry config idOrder (.upsert input) w).2.table = w.table ∨
      (performRegistry config idOrder (.upsert input) w).2.table =
        upsertRow idOrder w.table input.row := by
  unfold performRegistry
  dsimp only
  split
  · exact .inl rfl
  · exact .inr rfl

/-- A channel that a call leaves enabled was enabled before, or by it. -/
theorem enabledIn_performRegistry {call : RegistryCall} {id : String}
    (h : EnabledIn (performRegistry config idOrder call w).2.table id) :
    call.enables id = true ∨ EnabledIn w.table id := by
  cases call with
  | update other enabled =>
      have hcase := enabledIn_updateEnabled h
      split at hcase
      · rename_i heq
        simp [RegistryCall.enables, heq, hcase]
      · exact .inr hcase
  | upsert input =>
      rcases performRegistry_upsert input with hsame | hupsert
      · rw [hsame] at h
        exact .inr h
      · rw [hupsert] at h
        refine (enabledIn_upsertRow h).imp_left fun hrow => ?_
        simpa [RegistryCall.enables, UpsertChannelInput.row] using hrow
  | deleteAll =>
      obtain ⟨row, hrow, -⟩ := h
      cases hrow
  | store call =>
      rw [performRegistry_table rfl] at h
      exact .inr h
  | clearCache => exact .inr h

/-- What was disabled is not enabled. -/
theorem not_enabledIn_disabled {id : String} :
    ¬ EnabledIn (performRegistry config idOrder (.update id false) w).2.table id := by
  intro h
  have hcase := enabledIn_updateEnabled h
  rw [if_pos rfl] at hcase
  cases hcase

end

end SwitchService.Repositories
