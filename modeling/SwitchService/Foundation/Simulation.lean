import SwitchService.Foundation.Interleaving

set_option autoImplicit false

/-!
# Foundation: one pool that follows another

The same programs run over two states, a concrete one and an abstract one.  As long as
related states answer a call alike, the two pools make the same calls: their threads stay
equal and their logs differ only in the states that the calls found.  So everything that is
said about the abstract pool by its threads, its log and its replies holds of the concrete
one.

The condition under which a call is answered alike may speak about the whole concrete pool;
an invariant of the concrete pool is carried along.
-/

namespace SwitchService.Foundation

variable {ι φ σ τ ε β β' γ Op : Type} {Ans : Op → Type} {α : ι → Type}

/-- The same step for a pool with other changes. -/
def Move.mapChange (f : β → β') : Move ι φ β → Move ι φ β'
  | .step thread fate => .step thread fate
  | .other change => .other (f change)

/-- The same entry of a pool over another state. -/
def Entry.over (e : Entry ι φ σ ε Ans) (before : τ) : Entry ι φ τ ε Ans where
  thread := e.thread
  op := e.op
  fate := e.fate
  reply := e.reply
  before := before

/-- Two entries differ in the related states that their calls found. -/
def Entry.Alike (R : σ → τ → Prop) (e : Entry ι φ σ ε Ans) (e' : Entry ι φ τ ε Ans) : Prop :=
  ∃ before, R e.before before ∧ e' = e.over before

namespace Pool

/-- The pools make the same calls over related states. -/
structure Alike (R : σ → τ → Prop) (pool : Pool φ σ ε Ans α) (pool' : Pool φ τ ε Ans α) :
    Prop where
  threads : pool'.threads = pool.threads
  shared : R pool.shared pool'.shared
  log : List.Forall₂ (Entry.Alike R) pool.log pool'.log

variable {R : σ → τ → Prop} {answer : Answer φ σ ε Ans} {answer' : Answer φ τ ε Ans}
  {other : β → σ → σ} {other' : β' → τ → τ} {f : β → β'}
  {pool : Pool φ σ ε Ans α} {pool' : Pool φ τ ε Ans α}

theorem alike_start (threads : (i : ι) → Prog Op Ans ε (α i)) {s : σ} {t : τ} (h : R s t) :
    Alike R (start threads s : Pool φ σ ε Ans α) (start threads t) :=
  ⟨rfl, h, .nil⟩

/-- A call of the one log is a call of the other, with alike calls before it. -/
theorem split_of_alike {newer older : List (Entry ι φ σ ε Ans)} {e : Entry ι φ σ ε Ans}
    {log' : List (Entry ι φ τ ε Ans)}
    (h : List.Forall₂ (Entry.Alike R) (newer ++ e :: older) log') :
    ∃ newer' before older', log' = newer' ++ e.over before :: older' ∧ R e.before before ∧
      List.Forall₂ (Entry.Alike R) older older' := by
  induction newer generalizing log' with
  | nil =>
      obtain ⟨_, older', ⟨before, hrel, rfl⟩, holder, rfl⟩ := List.forall₂_cons_left_iff.mp h
      exact ⟨[], before, older', rfl, hrel, holder⟩
  | cons first newer ih =>
      obtain ⟨first', rest, _, hrest, rfl⟩ := List.forall₂_cons_left_iff.mp h
      obtain ⟨newer', before, older', rfl, hrel, holder⟩ := ih hrest
      exact ⟨first' :: newer', before, older', rfl, hrel, holder⟩

/-- The two states answer the next call of a step alike and stay related. -/
def AnswersAlike (R : σ → τ → Prop) (answer : Answer φ σ ε Ans) (answer' : Answer φ τ ε Ans)
    (fate : φ) (op : Op) (s : σ) (t : τ) : Prop :=
  (answer' fate op t).1 = (answer fate op s).1 ∧ R (answer fate op s).2 (answer' fate op t).2

variable [DecidableEq ι]

theorem Alike.called (h : Alike R pool pool') (i : ι) {fate : φ} {op : Op}
    (k : Except ε (Ans op) → Prog Op Ans ε (α i))
    (hcall : AnswersAlike R answer answer' fate op pool.shared pool'.shared) :
    Alike R (pool.called answer i fate op k) (pool'.called answer' i fate op k) where
  threads := by
    simp only [Pool.called, h.threads, hcall.1]
  shared := hcall.2
  log := by
    refine .cons ⟨pool'.shared, h.shared, ?_⟩ h.log
    simp only [entry, Entry.over, hcall.1]

/-- One step of both pools, where the states answer its call alike. -/
theorem Alike.next (h : Alike R pool pool') (move : Move ι φ β)
    (hother : ∀ change, move = .other change →
      R (other change pool.shared) (other' (f change) pool'.shared))
    (hcall : ∀ i fate op (k : Except ε (Ans op) → Prog Op Ans ε (α i)),
      move = .step i fate → pool.threads i = .call op k →
        AnswersAlike R answer answer' fate op pool.shared pool'.shared) :
    Alike R (pool.next answer other move) (pool'.next answer' other' (move.mapChange f)) := by
  cases move with
  | other change => exact ⟨h.threads, hother change rfl, h.log⟩
  | step i fate =>
      simp only [Pool.next, Move.mapChange, h.threads]
      cases hthread : pool.threads i with
      | ret _ | throw _ => exact h
      | call op k => exact h.called i k (hcall i fate op k rfl hthread)

/-- The rule for runs: where an invariant of the concrete pool and a guard of its steps make
related states answer alike, a guarded run of the concrete pool is followed by the abstract
one. -/
theorem alike_run {I : Pool φ σ ε Ans α → Prop} {G : Pool φ σ ε Ans α → Move ι φ β → Prop}
    (hinv : ∀ pool move, I pool → G pool move → I (pool.next answer other move))
    (hother : ∀ (s : σ) (t : τ) change, R s t → R (other change s) (other' (f change) t))
    (hcall : ∀ (pool : Pool φ σ ε Ans α) (t : τ) i fate op
      (k : Except ε (Ans op) → Prog Op Ans ε (α i)), I pool → R pool.shared t →
      G pool (.step i fate) → pool.threads i = .call op k →
        AnswersAlike R answer answer' fate op pool.shared t)
    {moves : List (Move ι φ β)} (h : Alike R pool pool') (hI : I pool)
    (hguard : Always (Pool.next answer other) G pool moves) :
    Alike R (runFrom (Pool.next answer other) pool moves)
      (runFrom (Pool.next answer' other') pool' (moves.map (Move.mapChange f))) := by
  induction moves generalizing pool pool' with
  | nil => exact h
  | cons move moves ih =>
      refine ih ?_ (hinv pool move hI hguard.1) hguard.2
      refine h.next move (fun change _ => hother _ _ change h.shared) ?_
      rintro i fate op k rfl hthread
      exact hcall pool _ i fate op k hI h.shared hguard.1 hthread

end Pool

end SwitchService.Foundation
