import SwitchService.Foundation.Program
import SwitchService.Foundation.Runs

set_option autoImplicit false

/-!
# Foundation: programs that share a state

Any number of programs run at the same time over one state.  A step carries out one
call of one thread; how the call ends is part of the step.  Between the calls the
state may change in other ways.  The pool keeps a log of the calls, newest first, and
what a thread has seen so far is read off that log.

`nextUnless` is the step where a call may have to wait, as for a lock that another thread
holds.

`Sound` says that every thread keeps to its protocol from what it has seen; it is
kept by every step, so that a property of the runs needs to look at allowed calls only.
`Orderly` says the same of the log, so that it can be read without the pool.
-/

namespace SwitchService.Foundation

/-- A call of a thread, how it ended, its reply, and the state that it found. -/
structure Entry (ι φ σ ε : Type) {Op : Type} (Ans : Op → Type) where
  thread : ι
  op : Op
  fate : φ
  reply : Except ε (Ans op)
  before : σ

/-- The threads, each with what is left of its program, the state, and the log. -/
structure Pool (φ σ ε : Type) {ι Op : Type} (Ans : Op → Type) (α : ι → Type) where
  threads : (i : ι) → Prog Op Ans ε (α i)
  shared : σ
  log : List (Entry ι φ σ ε Ans)

/-- The call that a program is about to make. -/
def Prog.nextCall {Op ε α : Type} {Ans : Op → Type} : Prog Op Ans ε α → Option Op
  | .call op _ => some op
  | _ => none

/-- One step: a call of a thread, or something else that changes the state. -/
inductive Move (ι φ β : Type) where
  | step (thread : ι) (fate : φ)
  | other (change : β)

namespace Pool

variable {ι φ σ ε β γ Op : Type} {Ans : Op → Type} {α : ι → Type} [DecidableEq ι]

/-- How a call that ends in a given way is answered, and what it leaves behind. -/
abbrev Answer (φ σ ε : Type) {Op : Type} (Ans : Op → Type) : Type :=
  φ → (op : Op) → σ → Except ε (Ans op) × σ

/-- The threads before their first call. -/
def start (threads : (i : ι) → Prog Op Ans ε (α i)) (s : σ) : Pool φ σ ε Ans α where
  threads := threads
  shared := s
  log := []

variable (answer : Answer φ σ ε Ans) (other : β → σ → σ)

/-- The log entry of a call. -/
def entry (pool : Pool φ σ ε Ans α) (i : ι) (fate : φ) (op : Op) : Entry ι φ σ ε Ans where
  thread := i
  op := op
  fate := fate
  reply := (answer fate op pool.shared).1
  before := pool.shared

/-- The pool after a call. -/
def called (pool : Pool φ σ ε Ans α) (i : ι) (fate : φ) (op : Op)
    (k : Except ε (Ans op) → Prog Op Ans ε (α i)) : Pool φ σ ε Ans α where
  threads := Function.update pool.threads i (k (answer fate op pool.shared).1)
  shared := (answer fate op pool.shared).2
  log := pool.entry answer i fate op :: pool.log

/-- The pool after a step; a thread that has ended makes none. -/
def next (pool : Pool φ σ ε Ans α) : Move ι φ β → Pool φ σ ε Ans α
  | .step i fate =>
      match pool.threads i with
      | .call op k => pool.called answer i fate op k
      | _ => pool
  | .other change => { pool with shared := other change pool.shared }

/-- The next call of the thread has to wait. -/
def blocked (waits : φ → Op → σ → Bool) (pool : Pool φ σ ε Ans α) : Move ι φ β → Bool
  | .step i fate => (pool.threads i).nextCall.any (waits fate · pool.shared)
  | .other _ => false

/-- The pool after a step; a thread whose call has to wait makes none. -/
def nextUnless (waits : φ → Op → σ → Bool) (pool : Pool φ σ ε Ans α) (move : Move ι φ β) :
    Pool φ σ ε Ans α :=
  if pool.blocked waits move then pool else pool.next answer other move

/-- What a thread has seen, by its protocol. -/
def seen (P : ι → Prog.Protocol Op Ans ε γ) (init : ι → γ) (i : ι) :
    List (Entry ι φ σ ε Ans) → γ
  | [] => init i
  | e :: log => if e.thread = i then (P i).next (seen P init i log) e.op e.reply
      else seen P init i log

variable {answer other} {P : ι → Prog.Protocol Op Ans ε γ} {init : ι → γ}

theorem seen_self {e : Entry ι φ σ ε Ans} {i : ι} (h : e.thread = i)
    (log : List (Entry ι φ σ ε Ans)) :
    seen P init i (e :: log) = (P i).next (seen P init i log) e.op e.reply := by
  rw [seen, if_pos h]

theorem seen_of_ne {e : Entry ι φ σ ε Ans} {i : ι} (h : e.thread ≠ i)
    (log : List (Entry ι φ σ ε Ans)) : seen P init i (e :: log) = seen P init i log := by
  rw [seen, if_neg h]

theorem seen_entry_self (pool : Pool φ σ ε Ans α) (i : ι) (fate : φ) (op : Op)
    (log : List (Entry ι φ σ ε Ans)) :
    seen P init i (pool.entry answer i fate op :: log) =
      (P i).next (seen P init i log) op (answer fate op pool.shared).1 := by
  simp [seen, entry]

theorem seen_entry_of_ne (pool : Pool φ σ ε Ans α) {i j : ι} (h : j ≠ i) (fate : φ) (op : Op)
    (log : List (Entry ι φ σ ε Ans)) :
    seen P init j (pool.entry answer i fate op :: log) = seen P init j log := by
  simp [seen, entry, Ne.symm h]

/-- Every thread keeps to its protocol from what it has seen, and ends as its program
promises. -/
def Ends (P : ι → Prog.Protocol Op Ans ε γ) (init : ι → γ)
    (post : (i : ι) → γ → Except ε (α i) → Prop) (pool : Pool φ σ ε Ans α) : Prop :=
  ∀ i, Prog.Follows (P i) (post i) (pool.threads i) (seen P init i pool.log)

section

variable {post : (i : ι) → γ → Except ε (α i) → Prop}

/-- A call that such a pool makes is allowed to its thread. -/
theorem Ends.allows {pool : Pool φ σ ε Ans α} (h : Ends P init post pool) {i : ι} {op : Op}
    {k : Except ε (Ans op) → Prog Op Ans ε (α i)} (hcall : pool.threads i = .call op k) :
    (P i).allows (seen P init i pool.log) op := by
  have hfollows := h i
  rw [hcall] at hfollows
  exact hfollows.1

/-- A thread that has ended has ended as its program promises. -/
theorem Ends.ended {pool : Pool φ σ ε Ans α} (h : Ends P init post pool) {i : ι}
    (hended : (pool.threads i).nextCall = none) :
    ∃ result, post i (seen P init i pool.log) result := by
  have hfollows := h i
  cases hthread : pool.threads i with
  | call op k => simp [hthread, Prog.nextCall] at hended
  | ret a =>
      rw [hthread] at hfollows
      exact ⟨.ok a, hfollows⟩
  | throw error =>
      rw [hthread] at hfollows
      exact ⟨.error error, hfollows⟩

/-- What is left of a thread that has returned is what it promised. -/
theorem Ends.returned {pool : Pool φ σ ε Ans α} (h : Ends P init post pool) {i : ι} {a : α i}
    (hret : pool.threads i = .ret a) : post i (seen P init i pool.log) (.ok a) := by
  have hfollows := h i
  rw [hret] at hfollows
  exact hfollows

/-- What is left of a thread that has thrown is what it promised. -/
theorem Ends.failed {pool : Pool φ σ ε Ans α} (h : Ends P init post pool) {i : ι} {error : ε}
    (hthrow : pool.threads i = .throw error) :
    post i (seen P init i pool.log) (.error error) := by
  have hfollows := h i
  rw [hthrow] at hfollows
  exact hfollows

theorem Ends.called {pool : Pool φ σ ε Ans α} (h : Ends P init post pool) {i : ι} {op : Op}
    {k : Except ε (Ans op) → Prog Op Ans ε (α i)} (hcall : pool.threads i = .call op k)
    (fate : φ) : Ends P init post (pool.called answer i fate op k) := by
  intro j
  by_cases hj : j = i
  · subst hj
    have hfollows := h j
    rw [hcall] at hfollows
    simp only [Pool.called, Function.update_self]
    rw [seen_entry_self]
    exact hfollows.2 _
  · simp only [Pool.called, Function.update_of_ne hj]
    rw [seen_entry_of_ne pool hj]
    exact h j

/-- The rule for one step: what stays when nothing happens, and is kept by the other
changes and by every allowed call, is kept. -/
theorem Ends.next_of {pool : Pool φ σ ε Ans α} (h : Ends P init post pool)
    {C : Pool φ σ ε Ans α → Prop} (hsame : C pool)
    (hother : ∀ change, C { pool with shared := other change pool.shared })
    (move : Move ι φ β)
    (hcalled : ∀ i fate op (k : Except ε (Ans op) → Prog Op Ans ε (α i)),
      move = .step i fate → pool.threads i = .call op k →
      (P i).allows (seen P init i pool.log) op → C (pool.called answer i fate op k)) :
    C (pool.next answer other move) := by
  cases move with
  | other change => exact hother change
  | step i fate =>
      unfold Pool.next
      dsimp only
      split
      · rename_i op k hcall
        exact hcalled i fate op k rfl hcall (h.allows hcall)
      · exact hsame

/-- The rule for one step where calls may have to wait. -/
theorem Ends.nextUnless_of {waits : φ → Op → σ → Bool} {pool : Pool φ σ ε Ans α}
    (h : Ends P init post pool) {C : Pool φ σ ε Ans α → Prop} (hsame : C pool)
    (hother : ∀ change, C { pool with shared := other change pool.shared })
    (move : Move ι φ β)
    (hcalled : ∀ i fate op (k : Except ε (Ans op) → Prog Op Ans ε (α i)),
      pool.threads i = .call op k → (P i).allows (seen P init i pool.log) op →
      waits fate op pool.shared = false → C (pool.called answer i fate op k)) :
    C (pool.nextUnless answer other waits move) := by
  unfold nextUnless
  split
  · exact hsame
  · rename_i hblocked
    refine h.next_of hsame hother move ?_
    rintro i fate op k rfl hcall hallow
    refine hcalled i fate op k hcall hallow ?_
    simpa [blocked, hcall, Prog.nextCall] using hblocked

theorem Ends.next {pool : Pool φ σ ε Ans α} (h : Ends P init post pool) (move : Move ι φ β) :
    Ends P init post (pool.next answer other move) := by
  refine h.next_of h (fun change => h) move ?_
  intro i fate op k _ hcall _
  exact h.called hcall fate

end

/-- Every thread keeps to its protocol from what it has seen. -/
def Sound (P : ι → Prog.Protocol Op Ans ε γ) (init : ι → γ) (pool : Pool φ σ ε Ans α) : Prop :=
  ∀ i, Prog.Follows (P i) (fun _ _ => True) (pool.threads i) (seen P init i pool.log)

theorem sound_start {threads : (i : ι) → Prog Op Ans ε (α i)} {s : σ}
    (h : ∀ i, Prog.Follows (P i) (fun _ _ => True) (threads i) (init i)) :
    Sound P init (start threads s : Pool φ σ ε Ans α) := h

/-- A call that a sound pool makes is allowed to its thread. -/
theorem Sound.allows {pool : Pool φ σ ε Ans α} (h : Sound P init pool) {i : ι} {op : Op}
    {k : Except ε (Ans op) → Prog Op Ans ε (α i)} (hcall : pool.threads i = .call op k) :
    (P i).allows (seen P init i pool.log) op := Ends.allows h hcall

/-- The rule for one step of a sound pool. -/
theorem Sound.next_of {pool : Pool φ σ ε Ans α} (h : Sound P init pool)
    {C : Pool φ σ ε Ans α → Prop} (hsame : C pool)
    (hother : ∀ change, C { pool with shared := other change pool.shared })
    (move : Move ι φ β)
    (hcalled : ∀ i fate op (k : Except ε (Ans op) → Prog Op Ans ε (α i)),
      move = .step i fate → pool.threads i = .call op k →
      (P i).allows (seen P init i pool.log) op → C (pool.called answer i fate op k)) :
    C (pool.next answer other move) := Ends.next_of h hsame hother move hcalled

theorem Sound.next {pool : Pool φ σ ε Ans α} (h : Sound P init pool) (move : Move ι φ β) :
    Sound P init (pool.next answer other move) := Ends.next h move

/-! ## The log of a run -/

/-- Every call of the log was allowed to its thread by what the thread had seen. -/
def Lawful (P : ι → Prog.Protocol Op Ans ε γ) (init : ι → γ) :
    List (Entry ι φ σ ε Ans) → Prop
  | [] => True
  | e :: older => (P e.thread).allows (seen P init e.thread older) e.op ∧
      Lawful P init older

theorem Lawful.older (newer : List (Entry ι φ σ ε Ans)) {older : List (Entry ι φ σ ε Ans)}
    (h : Lawful P init (newer ++ older)) : Lawful P init older := by
  induction newer with
  | nil => exact h
  | cons e newer ih => exact ih h.2

/-- Every reply of the log is the answer to its call. -/
def Answered (answer : Answer φ σ ε Ans) (log : List (Entry ι φ σ ε Ans)) : Prop :=
  ∀ e ∈ log, e.reply = (answer e.fate e.op e.before).1

/-- What every run keeps: the threads and the log keep to the protocols, and the log to
the answers. -/
structure Orderly (answer : Answer φ σ ε Ans) (P : ι → Prog.Protocol Op Ans ε γ)
    (init : ι → γ) (post : (i : ι) → γ → Except ε (α i) → Prop)
    (pool : Pool φ σ ε Ans α) : Prop where
  ends : Ends P init post pool
  lawful : Lawful P init pool.log
  answered : Answered answer pool.log

section

variable {post : (i : ι) → γ → Except ε (α i) → Prop}

theorem Orderly.called {pool : Pool φ σ ε Ans α} (h : Orderly answer P init post pool) {i : ι}
    {op : Op} {k : Except ε (Ans op) → Prog Op Ans ε (α i)}
    (hcall : pool.threads i = .call op k) (fate : φ) :
    Orderly answer P init post (pool.called answer i fate op k) where
  ends := h.ends.called hcall fate
  lawful := ⟨h.ends.allows hcall, h.lawful⟩
  answered e he := by
    rcases List.mem_cons.mp he with rfl | hmem
    · rfl
    · exact h.answered e hmem

theorem Orderly.next {pool : Pool φ σ ε Ans α} (h : Orderly answer P init post pool)
    (move : Move ι φ β) : Orderly answer P init post (pool.next answer other move) := by
  refine h.ends.next_of h (fun change => ⟨h.ends, h.lawful, h.answered⟩) move ?_
  intro i fate op k _ hcall _
  exact h.called hcall fate

/-- Every run of threads that follow their protocols is orderly. -/
theorem orderly_run {threads : (i : ι) → Prog Op Ans ε (α i)} (s : σ)
    (h : ∀ i, Prog.Follows (P i) (post i) (threads i) (init i)) (moves : List (Move ι φ β)) :
    Orderly answer P init post
      (runFrom (Pool.next answer other) (start threads s) moves) :=
  runFrom_invariant moves (fun _ move hpool => hpool.next move)
    ⟨h, trivial, fun _ he => absurd he List.not_mem_nil⟩

end

/-- The log of a run only grows. -/
theorem log_run (answer : Answer φ σ ε Ans) (other : β → σ → σ) (pool : Pool φ σ ε Ans α)
    (moves : List (Move ι φ β)) :
    ∃ newer, (runFrom (Pool.next answer other) pool moves).log = newer ++ pool.log := by
  refine runFrom_invariant (I := fun later : Pool φ σ ε Ans α =>
    ∃ newer, later.log = newer ++ pool.log) moves ?_ ⟨[], rfl⟩
  rintro later move ⟨newer, hlog⟩
  cases move with
  | other change => exact ⟨newer, hlog⟩
  | step i fate =>
      unfold Pool.next
      dsimp only
      split
      · exact ⟨_ :: newer, congrArg _ hlog⟩
      · exact ⟨newer, hlog⟩

/-! ## The state by the log -/

/-- Every call of the log found the state as the calls before it had left it. -/
def Found (I : List (Entry ι φ σ ε Ans) → σ → Prop) : List (Entry ι φ σ ε Ans) → Prop
  | [] => True
  | e :: older => I older e.before ∧ Found I older

omit [DecidableEq ι] in
theorem Found.older {I : List (Entry ι φ σ ε Ans) → σ → Prop}
    (newer : List (Entry ι φ σ ε Ans)) {older : List (Entry ι φ σ ε Ans)}
    (h : Found I (newer ++ older)) : Found I older := by
  induction newer with
  | nil => exact h
  | cons _ newer ih => exact ih h.2

omit [DecidableEq ι] in
theorem Found.at {I : List (Entry ι φ σ ε Ans) → σ → Prop}
    {newer older : List (Entry ι φ σ ε Ans)} {e : Entry ι φ σ ε Ans}
    (h : Found I (newer ++ e :: older)) : I older e.before := by
  induction newer with
  | nil => exact h.1
  | cons _ newer ih => exact ih h.2

variable (answer other) in
/-- What the log says of the state, by the calls alone, holds after every run and of every
state that a call found. -/
theorem found_run {I : List (Entry ι φ σ ε Ans) → σ → Prop} (pool : Pool φ σ ε Ans α)
    (hother : ∀ log s change, I log s → I log (other change s))
    (hcalled : ∀ (pool : Pool φ σ ε Ans α) i fate op, I pool.log pool.shared →
      I (pool.entry answer i fate op :: pool.log) (answer fate op pool.shared).2)
    (h : I pool.log pool.shared) (hfound : Found I pool.log) (moves : List (Move ι φ β)) :
    I (runFrom (Pool.next answer other) pool moves).log
        (runFrom (Pool.next answer other) pool moves).shared ∧
      Found I (runFrom (Pool.next answer other) pool moves).log := by
  refine runFrom_invariant (I := fun pool : Pool φ σ ε Ans α =>
    I pool.log pool.shared ∧ Found I pool.log) moves ?_ ⟨h, hfound⟩
  rintro later move ⟨hlater, hkept⟩
  cases move with
  | other change => exact ⟨hother _ _ change hlater, hkept⟩
  | step i fate =>
      unfold Pool.next
      dsimp only
      split
      · rename_i op k _
        exact ⟨hcalled later i fate op hlater, hlater, hkept⟩
      · exact ⟨hlater, hkept⟩

/-- The same for a pool whose threads keep to their protocols: only allowed calls count. -/
theorem Sound.found_run {I : List (Entry ι φ σ ε Ans) → σ → Prop} {pool : Pool φ σ ε Ans α}
    (hsound : Sound P init pool) (hother : ∀ log s change, I log s → I log (other change s))
    (hcalled : ∀ (pool : Pool φ σ ε Ans α) i fate op,
      (P i).allows (seen P init i pool.log) op → I pool.log pool.shared →
      I (pool.entry answer i fate op :: pool.log) (answer fate op pool.shared).2)
    (h : I pool.log pool.shared) (hfound : Found I pool.log) (moves : List (Move ι φ β)) :
    Found I (runFrom (Pool.next answer other) pool moves).log := by
  refine (runFrom_invariant (I := fun pool : Pool φ σ ε Ans α =>
    Sound P init pool ∧ I pool.log pool.shared ∧ Found I pool.log) moves ?_
    ⟨hsound, h, hfound⟩).2.2
  rintro later move ⟨hlater, hstate, hkept⟩
  refine ⟨hlater.next move, hlater.next_of (C := fun pool : Pool φ σ ε Ans α =>
    I pool.log pool.shared ∧ Found I pool.log) ⟨hstate, hkept⟩ ?_ move ?_⟩
  · exact fun change => ⟨hother _ _ change hstate, hkept⟩
  · intro i fate op k _ _ hallow
    exact ⟨hcalled later i fate op hallow hstate, hstate, hkept⟩

/-! ## The end of a thread -/

/-- A thread of which no call has rejected goes on to return. -/
def Completing (pool : Pool φ σ ε Ans α) : Prop :=
  ∀ i, (pool.threads i).Completes ∨ ∃ e ∈ pool.log, e.thread = i ∧ e.reply.isOk = false

theorem Completing.called {pool : Pool φ σ ε Ans α} (h : Completing pool)
    (answer : Answer φ σ ε Ans) {i : ι} {op : Op} {k : Except ε (Ans op) → Prog Op Ans ε (α i)}
    (hcall : pool.threads i = .call op k) (fate : φ) :
    Completing (pool.called answer i fate op k) := by
  intro j
  by_cases hj : j = i
  · subst hj
    cases hreply : (answer fate op pool.shared).1 with
    | error e =>
        exact .inr ⟨pool.entry answer j fate op, List.mem_cons_self, rfl, by
          rw [entry, hreply]
          rfl⟩
    | ok value =>
        refine (h j).imp (fun hcompletes => ?_) fun ⟨e, he, hfailed⟩ =>
          ⟨e, List.mem_cons_of_mem _ he, hfailed⟩
        rw [hcall] at hcompletes
        simp only [Pool.called, Function.update_self, hreply]
        exact hcompletes value
  · simp only [Pool.called, Function.update_of_ne hj]
    exact (h j).imp_right fun ⟨e, he, hfailed⟩ => ⟨e, List.mem_cons_of_mem _ he, hfailed⟩

omit [DecidableEq ι] in
/-- A thread that has ended has returned, or one of its calls has rejected. -/
theorem Completing.ended {pool : Pool φ σ ε Ans α} (h : Completing pool) {i : ι}
    (hended : (pool.threads i).nextCall = none) :
    (∃ a, pool.threads i = .ret a) ∨ ∃ e ∈ pool.log, e.thread = i ∧ e.reply.isOk = false := by
  refine (h i).imp_left fun hcompletes => ?_
  cases hthread : pool.threads i with
  | ret a => exact ⟨a, rfl⟩
  | throw e =>
      rw [hthread] at hcompletes
      exact hcompletes.elim
  | call op k =>
      rw [hthread] at hended
      cases hended

/-- What no thread does more often than something else, all threads together do not do
more often. -/
theorem sum_le_of_threads (f g : Entry ι φ σ ε Ans → ℕ) {log : List (Entry ι φ σ ε Ans)}
    (h : ∀ i, ((log.filter (·.thread = i)).map f).sum ≤
      ((log.filter (·.thread = i)).map g).sum) : (log.map f).sum ≤ (log.map g).sum := by
  induction hlength : log.length using Nat.strong_induction_on generalizing log with
  | _ n ih =>
      cases log with
      | nil => exact le_refl 0
      | cons e log =>
          -- The calls of the newest thread, and the calls of the others.
          set others := (e :: log).filter (¬ ·.thread = e.thread) with hothers
          have hshorter : others.length < n := by
            rw [← hlength, hothers, List.filter_cons_of_neg (by simp)]
            exact lt_of_le_of_lt (List.length_filter_le _ _) (Nat.lt_succ_self _)
          have hrest : (others.map f).sum ≤ (others.map g).sum := by
            refine ih others.length hshorter (fun i => ?_) rfl
            rw [hothers, List.filter_filter]
            by_cases hi : i = e.thread
            · have hnone : ((e :: log).filter fun e' =>
                  decide (e'.thread = i) && decide (¬ e'.thread = e.thread)) = [] := by
                refine List.filter_eq_nil_iff.mpr fun e' _ => ?_
                simp [hi]
              rw [hnone]
              exact le_refl 0
            · have hsame : ((e :: log).filter fun e' =>
                  decide (e'.thread = i) && decide (¬ e'.thread = e.thread)) =
                    (e :: log).filter (·.thread = i) := by
                refine List.filter_congr fun e' _ => ?_
                by_cases he : e'.thread = i
                · simp [he, hi]
                · simp [he]
              rw [hsame]
              exact h i
          rw [← List.sum_map_filter_add_sum_map_filter_not (·.thread = e.thread) f,
            ← List.sum_map_filter_add_sum_map_filter_not (·.thread = e.thread) g]
          exact Nat.add_le_add (h e.thread) hrest

end Pool

end SwitchService.Foundation
