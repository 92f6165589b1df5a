import Mathlib.Tactic

set_option autoImplicit false

/-!
# Foundation: a Redis stream with one consumer group

Entries are added at the end of a stream and may be removed by anybody.  The group knows
how far it has delivered and keeps a pending list of what was delivered and not yet
acknowledged, in the order of the entries.  Every command works on the state at one
moment; identifiers are numbered in the order of `XADD`, and `none` is the answer where
the group is missing, or is there already.
-/

namespace SwitchService.Foundation.Redis

/-- An entry of a stream. -/
structure StreamEntry where
  id : ℕ
  /-- Names and values in turn. -/
  fields : List String
  deriving DecidableEq

/-- An entry of the pending list. -/
structure PendingEntry where
  id : ℕ
  consumer : String
  deliveredAt : ℚ
  deliveries : ℕ
  deriving DecidableEq

/-- A consumer group; what is pending was delivered, and is kept in the order of the
entries. -/
structure ConsumerGroup where
  lastDelivered : ℕ
  pending : List PendingEntry
  delivered : ∀ p ∈ pending, p.id ≤ lastDelivered
  sorted : pending.Pairwise fun a b => a.id < b.id

/-- A stream; the identifiers of its entries ascend. -/
structure MessageStream where
  entries : List StreamEntry
  lastId : ℕ
  group : Option ConsumerGroup
  sorted : entries.Pairwise fun a b => a.id < b.id
  bounded : ∀ e ∈ entries, e.id ≤ lastId

/-- A stream without entries and without a group. -/
def MessageStream.empty : MessageStream where
  entries := []
  lastId := 0
  group := none
  sorted := List.Pairwise.nil
  bounded := by simp

/-- `XADD` with an automatic identifier. -/
def MessageStream.add (s : MessageStream) (fields : List String) : MessageStream where
  entries := s.entries ++ [{ id := s.lastId + 1, fields := fields }]
  lastId := s.lastId + 1
  group := s.group
  sorted := by
    refine List.pairwise_append.mpr ⟨s.sorted, List.pairwise_singleton _ _, ?_⟩
    intro a ha b hb
    obtain rfl := List.mem_singleton.mp hb
    exact Nat.lt_succ_of_le (s.bounded a ha)
  bounded e he := by
    rcases List.mem_append.mp he with hmem | hmem
    · exact (s.bounded e hmem).trans (Nat.le_succ _)
    · obtain rfl := List.mem_singleton.mp hmem
      exact le_refl _

/-- `XDEL` and `XTRIM`. -/
def MessageStream.remove (s : MessageStream) (gone : StreamEntry → Bool) : MessageStream where
  entries := s.entries.filter (!gone ·)
  lastId := s.lastId
  group := s.group
  sorted := s.sorted.filter _
  bounded e he := s.bounded e (List.mem_filter.mp he).1

/-- The stream with another state of its group. -/
def MessageStream.withGroup (s : MessageStream) (group : ConsumerGroup) : MessageStream :=
  { s with group := some group }

/-- `XGROUP CREATE` from the start of the stream. -/
def MessageStream.createGroup (s : MessageStream) : Option MessageStream :=
  match s.group with
  | some _ => none
  | none => some (s.withGroup
      { lastDelivered := 0, pending := [], delivered := by simp, sorted := .nil })

/-! ## The pending list -/

/-- The greatest identifier of some entries, or the one before them. -/
def furthest (start : ℕ) (entries : List StreamEntry) : ℕ :=
  (entries.map (·.id)).foldr max start

theorem le_furthest (start : ℕ) (entries : List StreamEntry) :
    start ≤ furthest start entries := by
  induction entries with
  | nil => exact le_refl _
  | cons e entries ih => exact ih.trans (le_max_right _ _)

theorem id_le_furthest (start : ℕ) {entries : List StreamEntry} {e : StreamEntry}
    (h : e ∈ entries) : e.id ≤ furthest start entries := by
  induction entries with
  | nil => cases h
  | cons first entries ih =>
      rcases List.mem_cons.mp h with rfl | hmem
      · exact le_max_left _ _
      · exact (ih hmem).trans (le_max_right _ _)

/-- Entries that the group had not come to are given to a consumer. -/
def ConsumerGroup.deliver (group : ConsumerGroup) (consumer : String) (now : ℚ)
    (taken : List StreamEntry) (hsorted : taken.Pairwise fun a b => a.id < b.id)
    (hnew : ∀ e ∈ taken, group.lastDelivered < e.id) : ConsumerGroup where
  lastDelivered := furthest group.lastDelivered taken
  pending := group.pending ++ taken.map fun e =>
    { id := e.id, consumer := consumer, deliveredAt := now, deliveries := 1 }
  delivered p hp := by
    rcases List.mem_append.mp hp with hmem | hmem
    · exact (group.delivered p hmem).trans (le_furthest _ _)
    · obtain ⟨e, he, rfl⟩ := List.mem_map.mp hmem
      exact id_le_furthest _ he
  sorted := by
    refine List.pairwise_append.mpr ⟨group.sorted, List.pairwise_map.mpr hsorted, ?_⟩
    intro p hp q hq
    obtain ⟨e, he, rfl⟩ := List.mem_map.mp hq
    exact lt_of_le_of_lt (group.delivered p hp) (hnew e he)

/-- A message leaves the pending list. -/
def ConsumerGroup.drop (group : ConsumerGroup) (id : ℕ) : ConsumerGroup where
  lastDelivered := group.lastDelivered
  pending := group.pending.filter (·.id ≠ id)
  delivered p hp := group.delivered p (List.mem_filter.mp hp).1
  sorted := group.sorted.filter _

/-- A pending message after it was given to a consumer again. -/
def PendingEntry.redelivered (p : PendingEntry) (consumer : String) (now : ℚ) : PendingEntry :=
  { p with consumer := consumer, deliveredAt := now, deliveries := p.deliveries + 1 }

/-- A pending message comes to a consumer again. -/
def ConsumerGroup.redeliver (group : ConsumerGroup) (consumer : String) (now : ℚ) (id : ℕ) :
    ConsumerGroup where
  lastDelivered := group.lastDelivered
  pending := group.pending.map fun p => if p.id = id then p.redelivered consumer now else p
  delivered p hp := by
    obtain ⟨q, hq, rfl⟩ := List.mem_map.mp hp
    split
    · exact group.delivered q hq
    · exact group.delivered q hq
  sorted := by
    refine List.pairwise_map.mpr (group.sorted.imp fun {a b} hab => ?_)
    split <;> split <;> exact hab

/-! ## The commands of a group -/

/-- The first entries that a group has not come to. -/
def MessageStream.ahead (s : MessageStream) (group : ConsumerGroup) (count : ℕ) :
    List StreamEntry :=
  (s.entries.filter (group.lastDelivered < ·.id)).take count

theorem sorted_ahead (s : MessageStream) (group : ConsumerGroup) (count : ℕ) :
    (s.ahead group count).Pairwise fun a b => a.id < b.id :=
  s.sorted.sublist ((List.take_sublist _ _).trans List.filter_sublist)

theorem lt_of_mem_ahead {s : MessageStream} {group : ConsumerGroup} {count : ℕ}
    {e : StreamEntry} (h : e ∈ s.ahead group count) : group.lastDelivered < e.id := by
  simpa using (List.mem_filter.mp (List.mem_of_mem_take h)).2

/-- `XREADGROUP … >`. -/
def MessageStream.readGroup (s : MessageStream) (consumer : String) (count : ℕ) (now : ℚ) :
    Option (List StreamEntry × MessageStream) :=
  s.group.map fun group =>
    (s.ahead group count, s.withGroup (group.deliver consumer now (s.ahead group count)
      (sorted_ahead s group count) fun _ => lt_of_mem_ahead))

/-- `XACK`. -/
def MessageStream.ack (s : MessageStream) (id : ℕ) : MessageStream :=
  { s with group := s.group.map (·.drop id) }

/-- `XPENDING … IDLE`. -/
def MessageStream.pendingIdle (s : MessageStream) (minIdle : ℚ) (count : ℕ) (now : ℚ) :
    Option (List PendingEntry) :=
  s.group.map fun group =>
    (group.pending.filter (minIdle ≤ now - ·.deliveredAt)).take count

/-- `XRANGE` with one identifier. -/
def MessageStream.range (s : MessageStream) (id : ℕ) : List StreamEntry :=
  s.entries.filter (·.id = id)

/-- `XCLAIM` of one message.  One that was idle for too short a time is refused, and one
whose entry was removed leaves the pending list. -/
def MessageStream.claim (s : MessageStream) (consumer : String) (minIdle : ℚ) (id : ℕ)
    (now : ℚ) : Option (List StreamEntry × MessageStream) :=
  s.group.map fun group =>
    match group.pending.find? (·.id = id) with
    | none => ([], s)
    | some p =>
        if now - p.deliveredAt < minIdle then ([], s)
        else match s.entries.find? (·.id = id) with
          | none => ([], s.withGroup (group.drop id))
          | some entry => ([entry], s.withGroup (group.redeliver consumer now id))

/-! ## What the commands do to one message -/

/-- The pending entry of a message. -/
def MessageStream.pendingOf (s : MessageStream) (id : ℕ) : Option PendingEntry :=
  s.group.bind fun group => group.pending.find? (·.id = id)

/-- The group has not come to a message. -/
def MessageStream.Ahead (s : MessageStream) (id : ℕ) : Prop :=
  ∀ group, s.group = some group → group.lastDelivered < id

section

variable {s s' : MessageStream} {group : ConsumerGroup} {consumer : String} {count id other : ℕ}
  {now minIdle : ℚ} {taken : List StreamEntry}

@[simp] theorem pendingOf_withGroup :
    (s.withGroup group).pendingOf id = group.pending.find? (·.id = id) := rfl

/-- A message that the group has not come to is not pending. -/
theorem pendingOf_of_ahead (h : s.Ahead id) : s.pendingOf id = none := by
  unfold MessageStream.pendingOf
  cases hgroup : s.group with
  | none => rfl
  | some group =>
      refine List.find?_eq_none.mpr fun p hp => ?_
      have hle := group.delivered p hp
      have hlt := h group hgroup
      simp only [decide_eq_true_eq]
      omega

theorem pendingOf_createGroup (id : ℕ) (h : s.createGroup = some s') :
    s.group = none ∧ s'.pendingOf id = none := by
  unfold MessageStream.createGroup at h
  cases hgroup : s.group with
  | some group => simp [hgroup] at h
  | none =>
      simp only [hgroup, Option.some.injEq] at h
      subst h
      exact ⟨rfl, rfl⟩

/-- A read gives each message once, and only messages that the group had not come to. -/
theorem readGroup_spec (h : s.readGroup consumer count now = some (taken, s')) :
    (taken.map (·.id)).Nodup ∧ (∀ id ∈ taken.map (·.id), s.Ahead id ∧ ¬ s'.Ahead id) ∧
      (∀ id, s'.Ahead id → s.Ahead id) ∧
      ∀ id, s'.pendingOf id = if id ∈ taken.map (·.id) then
          some { id := id, consumer := consumer, deliveredAt := now, deliveries := 1 }
        else s.pendingOf id := by
  unfold MessageStream.readGroup at h
  cases hgroup : s.group with
  | none => simp [hgroup] at h
  | some group =>
      simp only [hgroup, Option.map_some, Option.some.injEq, Prod.mk.injEq] at h
      obtain ⟨rfl, rfl⟩ := h
      set taken := s.ahead group count with htaken
      have hahead : ∀ id ∈ taken.map (·.id), s.Ahead id := by
        intro id hid other hother
        obtain ⟨e, he, rfl⟩ := List.mem_map.mp hid
        rw [hgroup] at hother
        cases hother
        exact lt_of_mem_ahead he
      refine ⟨?_, fun id hid => ⟨hahead id hid, ?_⟩, ?_, ?_⟩
      · exact List.pairwise_map.mpr ((sorted_ahead s group count).imp fun h => h.ne)
      · intro hafter
        obtain ⟨e, he, rfl⟩ := List.mem_map.mp hid
        exact absurd (hafter _ rfl) (not_lt.mpr (id_le_furthest _ he))
      · intro id hafter other hother
        rw [hgroup] at hother
        cases hother
        exact lt_of_le_of_lt (le_furthest _ _) (hafter _ rfl)
      · intro id
        have hfind : ∀ l : List StreamEntry, (l.map fun e => (⟨e.id, consumer, now, 1⟩ :
            PendingEntry)).find? (·.id = id) =
              if id ∈ l.map (·.id) then some ⟨id, consumer, now, 1⟩ else none := by
          intro l
          induction l with
          | nil => rfl
          | cons e l ih =>
              rw [List.map_cons, List.find?_cons]
              by_cases heq : e.id = id
              · simp [heq]
              · simp [heq, ih, Ne.symm heq]
        rw [pendingOf_withGroup, ConsumerGroup.deliver, List.find?_append, hfind]
        by_cases hid : id ∈ taken.map (·.id)
        · have hnone := pendingOf_of_ahead (hahead id hid)
          unfold MessageStream.pendingOf at hnone
          rw [hgroup, Option.bind_some] at hnone
          rw [if_pos hid, if_pos hid, hnone, Option.none_or]
        · rw [if_neg hid, if_neg hid, Option.or_none, MessageStream.pendingOf, hgroup]
          rfl

/-- A message is listed once. -/
theorem nodup_pendingIdle {rows : List PendingEntry}
    (h : s.pendingIdle minIdle count now = some rows) : (rows.map (·.id)).Nodup := by
  obtain ⟨group, -, rfl⟩ := Option.map_eq_some_iff.mp h
  have hsorted := group.sorted.sublist
    ((List.take_sublist count _).trans (List.filter_sublist (p := fun p : PendingEntry =>
      decide (minIdle ≤ now - p.deliveredAt))))
  exact List.pairwise_map.mpr (hsorted.imp fun h => h.ne)

theorem find?_drop : (group.drop id).pending.find? (·.id = other) =
    if other = id then none else group.pending.find? (·.id = other) := by
  unfold ConsumerGroup.drop
  rw [List.find?_filter]
  by_cases heq : other = id
  · rw [if_pos heq]
    refine List.find?_eq_none.mpr fun p _ => ?_
    simp only [decide_eq_true_eq, not_and]
    intro hne hid
    exact hne (hid.trans heq)
  · rw [if_neg heq]
    congr 1
    funext p
    by_cases hp : p.id = other
    · simp [hp, heq]
    · simp [hp]

theorem find?_redeliver : (group.redeliver consumer now id).pending.find? (·.id = other) =
    if other = id then (group.pending.find? (·.id = id)).map (·.redelivered consumer now)
    else group.pending.find? (·.id = other) := by
  have hid : ((fun p : PendingEntry => decide (p.id = other)) ∘ fun p =>
      if p.id = id then p.redelivered consumer now else p) = fun p => decide (p.id = other) := by
    funext p
    dsimp only [Function.comp]
    split <;> rfl
  unfold ConsumerGroup.redeliver
  dsimp only
  rw [List.find?_map, hid]
  by_cases heq : other = id
  · rw [if_pos heq, heq]
    cases hfind : group.pending.find? (·.id = id) with
    | none => rfl
    | some p =>
        have hp : p.id = id := by simpa using List.find?_some hfind
        simp [hp]
  · rw [if_neg heq]
    cases hfind : group.pending.find? (·.id = other) with
    | none => rfl
    | some p =>
        have hp : p.id = other := by simpa using List.find?_some hfind
        simp [hp, heq]

@[simp] theorem pendingOf_ack :
    (s.ack id).pendingOf other = if other = id then none else s.pendingOf other := by
  unfold MessageStream.ack MessageStream.pendingOf
  cases s.group with
  | none => simp
  | some group => exact find?_drop

/-- A claim gives nothing, or one message that is pending for long enough. -/
theorem claim_spec (h : s.claim consumer minIdle id now = some (taken, s')) :
    (taken = [] ∧ (∀ other, s'.pendingOf other = s.pendingOf other ∨
        s'.pendingOf other = none)) ∨
      ∃ entry p, taken = [entry] ∧ entry ∈ s.range id ∧ s.pendingOf id = some p ∧
        minIdle ≤ now - p.deliveredAt ∧ ∀ other, s'.pendingOf other =
          if other = id then some (p.redelivered consumer now) else s.pendingOf other := by
  unfold MessageStream.claim at h
  cases hgroup : s.group with
  | none => simp [hgroup] at h
  | some group =>
      have hpending : ∀ other, s.pendingOf other = group.pending.find? (·.id = other) := by
        intro other
        unfold MessageStream.pendingOf
        rw [hgroup]
        rfl
      simp only [hgroup, Option.map_some, Option.some.injEq] at h
      cases hfind : group.pending.find? (·.id = id) with
      | none =>
          simp only [hfind, Prod.mk.injEq] at h
          obtain ⟨rfl, rfl⟩ := h
          exact .inl ⟨rfl, fun _ => .inl rfl⟩
      | some p =>
          simp only [hfind] at h
          split at h
          · obtain ⟨rfl, rfl⟩ := Prod.mk.inj h
            exact .inl ⟨rfl, fun _ => .inl rfl⟩
          · rename_i hidle
            split at h
            · obtain ⟨rfl, rfl⟩ := Prod.mk.inj h
              refine .inl ⟨rfl, fun other => ?_⟩
              rw [pendingOf_withGroup, find?_drop, hpending]
              split
              · exact .inr rfl
              · exact .inl rfl
            · rename_i entry hentry
              obtain ⟨rfl, rfl⟩ := Prod.mk.inj h
              have hid : entry.id = id := by simpa using List.find?_some hentry
              have hrange : entry ∈ s.range id :=
                List.mem_filter.mpr ⟨List.mem_of_find?_eq_some hentry, decide_eq_true hid⟩
              refine .inr ⟨entry, p, rfl, hrange, (hpending id).trans hfind, not_lt.mp hidle,
                fun other => ?_⟩
              rw [pendingOf_withGroup, find?_redeliver, hfind, hpending]
              rfl

theorem ahead_claim (h : s.claim consumer minIdle id now = some (taken, s')) :
    s'.Ahead other ↔ s.Ahead other := by
  unfold MessageStream.claim at h
  cases hgroup : s.group with
  | none => simp [hgroup] at h
  | some group =>
      have hkept : ∀ group' : ConsumerGroup, group'.lastDelivered = group.lastDelivered →
          ((s.withGroup group').Ahead other ↔ s.Ahead other) := by
        intro group' hlast
        simp [MessageStream.Ahead, MessageStream.withGroup, hgroup, hlast]
      simp only [hgroup, Option.map_some, Option.some.injEq] at h
      split at h
      · obtain ⟨rfl, rfl⟩ := Prod.mk.inj h
        exact Iff.rfl
      · split at h
        · obtain ⟨rfl, rfl⟩ := Prod.mk.inj h
          exact Iff.rfl
        · split at h
          · obtain ⟨rfl, rfl⟩ := Prod.mk.inj h
            exact hkept _ rfl
          · obtain ⟨rfl, rfl⟩ := Prod.mk.inj h
            exact hkept _ rfl

@[simp] theorem ahead_ack : (s.ack id).Ahead other ↔ s.Ahead other := by
  unfold MessageStream.ack MessageStream.Ahead
  cases s.group with
  | none => simp
  | some group => simp [ConsumerGroup.drop]

@[simp] theorem ahead_add (fields : List String) : (s.add fields).Ahead id ↔ s.Ahead id :=
  Iff.rfl

@[simp] theorem ahead_remove (gone : StreamEntry → Bool) :
    (s.remove gone).Ahead id ↔ s.Ahead id := Iff.rfl

end

end SwitchService.Foundation.Redis
