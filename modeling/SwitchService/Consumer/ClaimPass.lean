import SwitchService.Consumer.Hand

set_option autoImplicit false

/-!
# Consumer: what a claim pass does with its list

A claim pass lists pending messages once and goes through the list.  How far it has come,
and what it has written and acknowledged, can be read off its own calls: it claims only
what it listed below the limit, and unless a command of it was rejected it disposes of
everything that it listed at the limit.
-/

namespace SwitchService.Consumer

open SwitchService.Foundation SwitchService.Foundation.Redis SwitchService.Store

/-- How far a claim pass has come. -/
structure ClaimPass where
  listed : List PendingEntry
  /-- What it has not come to yet. -/
  rows : List PendingEntry
  /-- The messages that it wrote dead letters for. -/
  letters : List ℕ
  acked : List ℕ
  /-- One of its commands was rejected. -/
  failed : Bool
  deriving DecidableEq

/-- A pass that has not listed yet. -/
def ClaimPass.init : ClaimPass where
  listed := []
  rows := []
  letters := []
  acked := []
  failed := false

/-- What a reply tells a pass. -/
def ClaimPass.next (pass : ClaimPass) :
    (call : ConsumerCall) → Except Failure call.Ans → ClaimPass
  | .xpending, .ok rows => { pass with listed := rows, rows := rows }
  | .xrange _, .ok _ => { pass with rows := pass.rows.tail }
  | .xclaim _ _, .ok _ => { pass with rows := pass.rows.tail }
  | .xadd letter, .ok _ => { pass with letters := letter.originalId :: pass.letters }
  | .xack id, .ok _ => { pass with acked := id :: pass.acked }
  | call, .error _ => if call.isCommand then { pass with failed := true } else pass
  | _, .ok _ => pass

/-- The calls of a claim pass: it lists once, and claims what it listed below the limit. -/
def ClaimPass.Allows (config : Config) (pass : ClaimPass) : ConsumerCall → Prop
  | .xpending => pass = ClaimPass.init
  | .xrange id => ∃ row rows, pass.rows = row :: rows ∧ row.id = id ∧
      config.maxDeliveries ≤ row.deliveries
  | .xclaim _ id => ∃ row rows, pass.rows = row :: rows ∧ row.id = id ∧
      row.deliveries < config.maxDeliveries
  | _ => True

/-- What a pass knows decides which calls it may make. -/
def passProtocol (config : Config) :
    Prog.Protocol ConsumerCall ConsumerCall.Ans Failure ClaimPass where
  allows := ClaimPass.Allows config
  next := ClaimPass.next

/-- The pass has written a dead letter for the message and acknowledged it. -/
def ClaimPass.Moved (pass : ClaimPass) (id : ℕ) : Prop := id ∈ pass.letters ∧ id ∈ pass.acked

/-- Where a pass stands before the given rows: the listed messages that are not among
them were moved where they had come to the limit. -/
def ClaimPass.Through (config : Config) (rows : List PendingEntry) (pass : ClaimPass) : Prop :=
  ∀ row ∈ pass.listed, row ∈ rows ∨ (config.maxDeliveries ≤ row.deliveries → pass.Moved row.id)

/-- How a pass ends: it is through with its list, or a command was rejected. -/
def ClaimPass.Ended {α : Type} (config : Config) (pass : ClaimPass) (_ : Except Failure α) :
    Prop := pass.failed = true ∨ pass.Through config []

/-- The pass does not go back: what other work of it leaves as it was. -/
structure ClaimPass.Later (pass pass' : ClaimPass) : Prop where
  listed : pass'.listed = pass.listed
  rows : pass'.rows = pass.rows
  letters : ∀ id ∈ pass.letters, id ∈ pass'.letters
  acked : ∀ id ∈ pass.acked, id ∈ pass'.acked
  failed : pass.failed = true → pass'.failed = true

section

variable {config : Config} {pass pass' pass'' : ClaimPass} {rows : List PendingEntry}

theorem ClaimPass.Later.refl (pass : ClaimPass) : pass.Later pass :=
  ⟨rfl, rfl, fun _ h => h, fun _ h => h, fun h => h⟩

theorem ClaimPass.Later.trans (h : pass.Later pass') (h' : pass'.Later pass'') :
    pass.Later pass'' where
  listed := h'.listed.trans h.listed
  rows := h'.rows.trans h.rows
  letters id hid := h'.letters id (h.letters id hid)
  acked id hid := h'.acked id (h.acked id hid)
  failed hfailed := h'.failed (h.failed hfailed)

theorem ClaimPass.Later.through (h : pass.Later pass') (hthrough : pass.Through config rows) :
    pass'.Through config rows := by
  intro row hrow
  rw [h.listed] at hrow
  refine (hthrough row hrow).imp_right fun hmoved hlimit => ?_
  obtain ⟨hletter, hacked⟩ := hmoved hlimit
  exact ⟨h.letters _ hletter, h.acked _ hacked⟩

/-- A call that a read loop makes too does not take the pass further through its list. -/
theorem later_next {hand : Hand} {call : ConsumerCall} (hallows : hand.Allows true call)
    (reply : Except Failure call.Ans) : pass.Later (pass.next call reply) := by
  have hfailed : pass.Later { pass with failed := true } :=
    ⟨rfl, rfl, fun _ h => h, fun _ h => h, fun _ => rfl⟩
  cases call with
  | xpending | xrange | xclaim => exact absurd hallows.1 (by simp)
  | xadd letter =>
      cases reply with
      | error failure => exact hfailed
      | ok _ => exact ⟨rfl, rfl, fun _ h => List.mem_cons_of_mem _ h, fun _ h => h, fun h => h⟩
  | xack id =>
      cases reply with
      | error failure => exact hfailed
      | ok _ => exact ⟨rfl, rfl, fun _ h => h, fun _ h => List.mem_cons_of_mem _ h, fun h => h⟩
  | xgroupCreate | xreadgroup =>
      cases reply with
      | error failure => exact hfailed
      | ok _ => exact .refl pass
  | running | process | sleep | handle =>
      cases reply with
      | error failure => exact .refl pass
      | ok _ => exact .refl pass

theorem allows_of_hand {hand : Hand} {call : ConsumerCall} (hallows : hand.Allows true call) :
    pass.Allows config call := by
  cases call with
  | xpending | xrange | xclaim => exact absurd hallows.1 (by simp)
  | _ => trivial

/-- What keeps to the calls of a read loop is other work for a claim pass. -/
theorem follows_later {α : Type} {post : Hand → Except Failure α → Prop}
    {program : ConsumerProgram α} {hand : Hand}
    (h : Prog.Follows (handProtocol true) post program hand) :
    Prog.Follows (passProtocol config)
      (fun pass' result => ∃ hand', pass.Later pass' ∧ post hand' result) program pass :=
  Prog.Follows.simulate (R := fun _ pass' => pass.Later pass')
    (fun _ _ _ _ hallows => allows_of_hand hallows)
    (fun _ _ _ reply hlater hallows => hlater.trans (later_next hallows reply)) h (.refl pass)

/-! ## The pass -/

/-- A dead letter is written and its message acknowledged, unless a command is rejected. -/
theorem moves_deadLetter (id : ℕ) (fields : List String) (reason : String) :
    Prog.Follows (passProtocol config)
      (fun pass' result => pass.Later pass' ∧ (pass'.failed = true ∨ pass'.Moved id) ∧
        ∃ a, result = .ok a) (deadLetter id fields reason) pass := by
  unfold deadLetter
  refine Prog.follows_tryCatch
    (fun pass' result => pass.Later pass' ∧ (pass'.failed = true ∨ pass'.Moved id)) ?_
    (fun a _ h => ⟨h.1, h.2, a, rfl⟩) fun _ _ h => ⟨h.1, h.2, (), rfl⟩
  have hletter : ∀ reply, pass.Later
      (pass.next (.xadd ⟨id, reason, (fieldValue fields "payload").getD ""⟩) reply) :=
    later_next (show Hand.Allows true ⟨[], .fresh id⟩ _ from .inl rfl)
  refine Prog.follows_await_bind trivial (fun _ => ?_) fun error =>
    ⟨hletter (.error error), .inl rfl⟩
  have hack : ∀ (pass : ClaimPass) reply, pass.Later (pass.next (.xack id) reply) :=
    fun pass => later_next (show Hand.Allows true ⟨[], .settled id⟩ _ from rfl)
  refine Prog.follows_await_bind trivial (fun _ => ?_) fun error => ?_
  · refine ⟨(hletter (.ok ())).trans (hack _ (.ok ())), .inr ⟨?_, ?_⟩⟩
    · exact List.mem_cons_self
    · exact List.mem_cons_self
  · exact ⟨(hletter (.ok ())).trans (hack _ (.error error)), .inl rfl⟩

variable (parse : String → Option Json) (consumer : String)

/-- Where the pass stands after it has worked on a row. -/
def ClaimPass.After {α : Type} (config : Config) (rows : List PendingEntry)
    (pass : ClaimPass) : Except Failure α → Prop
  | .ok _ => pass.rows = rows ∧ (pass.failed = true ∨ pass.Through config rows)
  | .error _ => pass.failed = true

theorem moves_claimOne {row : PendingEntry} (hrows : pass.rows = row :: rows)
    (hthrough : pass.failed = true ∨ pass.Through config (row :: rows)) :
    Prog.Follows (passProtocol config) (ClaimPass.After config rows)
      (claimOne config parse consumer row) pass := by
  have htail : pass.rows.tail = rows := by rw [hrows]; rfl
  unfold claimOne
  split
  · rename_i hlimit
    refine Prog.follows_await_bind ⟨row, rows, hrows, rfl, hlimit⟩ (fun entries => ?_)
      fun _ => rfl
    refine (moves_deadLetter row.id _ _).mono fun pass' result h => ?_
    obtain ⟨hlater, hmoved, a, rfl⟩ := h
    refine ⟨hlater.rows.trans htail, ?_⟩
    rcases hthrough with hfailed | hthrough
    · exact .inl (hlater.failed hfailed)
    · refine hmoved.imp_right fun hmoved other hother => ?_
      rw [hlater.listed] at hother
      rcases hthrough other hother with hmem | hdone
      · rcases List.mem_cons.mp hmem with rfl | hmem
        · exact .inr fun _ => hmoved
        · exact .inl hmem
      · exact .inr fun h => ⟨hlater.letters _ (hdone h).1, hlater.acked _ (hdone h).2⟩
  · rename_i hlimit
    refine Prog.follows_await_bind ⟨row, rows, hrows, rfl, not_le.mp hlimit⟩ (fun claimed => ?_)
      fun _ => rfl
    have hquiet : Prog.Follows (handProtocol true) (LeavesQuietly []) (processAll parse claimed)
        ⟨claimed.map (·.id), .idle⟩ := follows_processAll parse rfl
    refine (follows_later hquiet).mono fun pass' result h => ?_
    obtain ⟨hand, hlater, -, a, rfl⟩ := h
    refine ⟨hlater.rows.trans htail, ?_⟩
    rcases hthrough with hfailed | hthrough
    · exact .inl (hlater.failed hfailed)
    · refine .inr (hlater.through fun other hother => ?_)
      rcases hthrough other hother with hmem | hdone
      · rcases List.mem_cons.mp hmem with rfl | hmem
        · exact .inr fun h => absurd h hlimit
        · exact .inl hmem
      · exact .inr hdone

theorem moves_claimAll (hrows : pass.rows = rows)
    (hthrough : pass.failed = true ∨ pass.Through config rows) :
    Prog.Follows (passProtocol config) (ClaimPass.After config [])
      (claimAll config parse consumer rows) pass := by
  induction rows generalizing pass with
  | nil => exact ⟨hrows, hthrough⟩
  | cons row rows ih =>
      unfold claimAll
      exact Prog.follows_bind (ClaimPass.After config rows)
        (moves_claimOne parse consumer hrows hthrough)
        (fun _ _ h => ih h.1 h.2) fun _ _ h => h

theorem moves_claimStale : Prog.Follows (passProtocol config) (ClaimPass.Ended config)
    (claimStale config parse consumer) ClaimPass.init := by
  have hnone : ClaimPass.init.Through config [] := fun row hrow => absurd hrow List.not_mem_nil
  unfold claimStale
  refine Prog.follows_await_bind trivial (fun running => ?_) fun _ => .inr hnone
  split
  · refine Prog.follows_tryCatch (ClaimPass.After config []) ?_ (fun _ _ h => h.2)
      fun _ _ h => .inl h
    refine Prog.follows_await_bind rfl (fun rows => ?_) fun _ => rfl
    exact moves_claimAll parse consumer rfl (.inr fun row hrow => .inl hrow)
  · exact .inr hnone

/-- Every consumer keeps to the calls of a claim pass; a read loop lists nothing. -/
theorem moves_task (task : ConsumerTask) : Prog.Follows (passProtocol config)
    (ClaimPass.Ended config) (task.program config parse) ClaimPass.init := by
  cases task with
  | readLoop consumer rounds =>
      have hloop : Prog.Follows (handProtocol true) (Leaves []) (readLoop parse consumer rounds)
          Hand.init := follows_readLoop parse consumer rounds rfl
      refine (follows_later hloop).mono fun pass' result h => ?_
      obtain ⟨hand, hlater, -⟩ := h
      exact .inr (hlater.through fun row hrow => absurd hrow List.not_mem_nil)
  | claimStale consumer => exact moves_claimStale parse consumer

end

end SwitchService.Consumer
