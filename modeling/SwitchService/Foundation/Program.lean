import Mathlib.Tactic

set_option autoImplicit false

/-!
# Foundation: programs that make calls

An asynchronous function awaits one call after another; each call is answered
or rejects, and the function goes on with the answer, handles the rejection or
rejects itself.  `Prog` is the syntax of such a function: the calls it makes are
data, so the same program can be run to its end against one state, or taken one
call at a time between the calls of others.

* `run` executes a program against a state, with an answer for every call.
* `Follows` says that whatever the answers are, the program keeps to a call
  protocol: it is the program logic for calls that anybody may answer.
* `Ensures` says what a program answers where every reply is as assumed.
* `Completes` says that a program returns where no call rejects.
-/

namespace SwitchService.Foundation

/-- A program that makes calls from `Op`, answered in `Ans`, and ends with a
value or an error.  The continuation of a call sees the rejection too. -/
inductive Prog (Op : Type) (Ans : Op → Type) (ε α : Type) : Type where
  | ret (value : α)
  | throw (error : ε)
  | call (op : Op) (next : Except ε (Ans op) → Prog Op Ans ε α)

namespace Prog

variable {Op : Type} {Ans : Op → Type} {ε α β γ σ : Type}

/-- Sequential composition; an error skips the rest. -/
def bind : Prog Op Ans ε α → (α → Prog Op Ans ε β) → Prog Op Ans ε β
  | .ret a, f => f a
  | .throw e, _ => .throw e
  | .call op next, f => .call op fun reply => (next reply).bind f

/-- `try … catch`: the handler takes over where the body throws. -/
def tryCatch : Prog Op Ans ε α → (ε → Prog Op Ans ε α) → Prog Op Ans ε α
  | .ret a, _ => .ret a
  | .throw e, handler => handler e
  | .call op next, handler => .call op fun reply => (next reply).tryCatch handler

instance : Monad (Prog Op Ans ε) where
  pure := .ret
  bind := bind

/-- `try … finally`: the cleanup runs after the body has ended in either way. -/
def tryFinally : Prog Op Ans ε α → Prog Op Ans ε Unit → Prog Op Ans ε α
  | .ret a, cleanup => cleanup >>= fun _ => .ret a
  | .throw e, cleanup => cleanup >>= fun _ => .throw e
  | .call op next, cleanup => .call op fun reply => (next reply).tryFinally cleanup

/-- `await` of one call: a rejection is thrown on. -/
def await (op : Op) : Prog Op Ans ε (Ans op) :=
  .call op fun
    | .ok a => .ret a
    | .error e => .throw e

/-- The program as one that could make more calls. -/
def embed {Op' : Type} {Ans' : Op' → Type} (f : Op → Op') :
    Prog Op (fun op => Ans' (f op)) ε α → Prog Op' Ans' ε α
  | .ret a => .ret a
  | .throw e => .throw e
  | .call op next => .call (f op) fun reply => (next reply).embed f

@[simp] theorem pure_eq (a : α) : (pure a : Prog Op Ans ε α) = .ret a := rfl

@[simp] theorem ret_bind (a : α) (f : α → Prog Op Ans ε β) :
    (Prog.ret a : Prog Op Ans ε α) >>= f = f a := rfl

@[simp] theorem throw_bind (e : ε) (f : α → Prog Op Ans ε β) :
    (Prog.throw e : Prog Op Ans ε α) >>= f = .throw e := rfl

@[simp] theorem call_bind (op : Op) (next : Except ε (Ans op) → Prog Op Ans ε α)
    (f : α → Prog Op Ans ε β) :
    Prog.call op next >>= f = .call op fun reply => next reply >>= f := rfl

/-! ## Running a program to its end -/

/-- Run a program against a state.  `exec` answers one call: it gives the reply
and the state after the call. -/
def run (exec : (op : Op) → σ → Except ε (Ans op) × σ) :
    Prog Op Ans ε α → σ → Except ε α × σ
  | .ret a, s => (.ok a, s)
  | .throw e, s => (.error e, s)
  | .call op next, s => run exec (next (exec op s).1) (exec op s).2

variable (exec : (op : Op) → σ → Except ε (Ans op) × σ)

@[simp] theorem run_ret (a : α) (s : σ) :
    run exec (.ret a : Prog Op Ans ε α) s = (.ok a, s) := rfl

@[simp] theorem run_throw (e : ε) (s : σ) :
    run exec (.throw e : Prog Op Ans ε α) s = (.error e, s) := rfl

@[simp] theorem run_call (op : Op) (next : Except ε (Ans op) → Prog Op Ans ε α) (s : σ) :
    run exec (.call op next) s = run exec (next (exec op s).1) (exec op s).2 := rfl

/-- A run of a composition is the run of the first part, then of the rest. -/
theorem run_bind (p : Prog Op Ans ε α) (f : α → Prog Op Ans ε β) (s : σ) :
    run exec (p >>= f) s =
      match run exec p s with
      | (.ok a, s') => run exec (f a) s'
      | (.error e, s') => (.error e, s') := by
  induction p generalizing s with
  | ret a => rfl
  | throw e => rfl
  | call op next ih => exact ih (exec op s).1 (exec op s).2

theorem run_bind_ok {p : Prog Op Ans ε α} {f : α → Prog Op Ans ε β} {s s' : σ} {a : α}
    (h : run exec p s = (.ok a, s')) : run exec (p >>= f) s = run exec (f a) s' := by
  rw [run_bind, h]

theorem run_bind_error {p : Prog Op Ans ε α} {f : α → Prog Op Ans ε β} {s s' : σ} {e : ε}
    (h : run exec p s = (.error e, s')) : run exec (p >>= f) s = (.error e, s') := by
  rw [run_bind, h]

@[simp] theorem run_await (op : Op) (s : σ) : run exec (await op) s = exec op s := by
  unfold await
  rw [run_call]
  split <;> simp_all [Prod.ext_iff]

theorem run_tryCatch (p : Prog Op Ans ε α) (handler : ε → Prog Op Ans ε α) (s : σ) :
    run exec (p.tryCatch handler) s =
      match run exec p s with
      | (.ok a, s') => (.ok a, s')
      | (.error e, s') => run exec (handler e) s' := by
  induction p generalizing s with
  | ret a => rfl
  | throw e => rfl
  | call op next ih => exact ih (exec op s).1 (exec op s).2

/-! ## Call protocols -/

/-- A call protocol: which calls a program may make in each of its own states,
and how a reply moves that state. -/
structure Protocol (Op : Type) (Ans : Op → Type) (ε γ : Type) where
  allows : γ → Op → Prop
  next : γ → (op : Op) → Except ε (Ans op) → γ

/-- Whatever the replies are, the program makes only calls its protocol allows
and ends in a state of `post`. -/
def Follows (P : Protocol Op Ans ε γ) (post : γ → Except ε α → Prop) :
    Prog Op Ans ε α → γ → Prop
  | .ret a, g => post g (.ok a)
  | .throw e, g => post g (.error e)
  | .call op next, g =>
      P.allows g op ∧ ∀ reply, Follows P post (next reply) (P.next g op reply)

variable {P : Protocol Op Ans ε γ}

theorem follows_await {op : Op} {post : γ → Except ε (Ans op) → Prop} {g : γ}
    (hallow : P.allows g op) (hok : ∀ a, post (P.next g op (.ok a)) (.ok a))
    (herror : ∀ e, post (P.next g op (.error e)) (.error e)) :
    Follows P post (await op) g := by
  refine ⟨hallow, ?_⟩
  intro reply
  cases reply with
  | ok a => exact hok a
  | error e => exact herror e

/-- The composition rule. -/
theorem follows_bind (mid : γ → Except ε α → Prop) {post : γ → Except ε β → Prop}
    {p : Prog Op Ans ε α} {f : α → Prog Op Ans ε β} {g : γ}
    (hp : Follows P mid p g)
    (hok : ∀ a g', mid g' (.ok a) → Follows P post (f a) g')
    (herror : ∀ e g', mid g' (.error e) → post g' (.error e)) :
    Follows P post (p >>= f) g := by
  induction p generalizing g with
  | ret a => exact hok a g hp
  | throw e => exact herror e g hp
  | call op next ih => exact ⟨hp.1, fun reply => ih reply (hp.2 reply)⟩

/-- A call, then the rest. -/
theorem follows_await_bind {op : Op} {post : γ → Except ε β → Prop}
    {f : Ans op → Prog Op Ans ε β} {g : γ} (hallow : P.allows g op)
    (hok : ∀ a, Follows P post (f a) (P.next g op (.ok a)))
    (herror : ∀ e, post (P.next g op (.error e)) (.error e)) :
    Follows P post (await op >>= f) g := by
  refine ⟨hallow, ?_⟩
  intro reply
  cases reply with
  | ok a => exact hok a
  | error e => exact herror e

/-- The rule for `try … catch`. -/
theorem follows_tryCatch (mid : γ → Except ε α → Prop) {post : γ → Except ε α → Prop}
    {p : Prog Op Ans ε α} {handler : ε → Prog Op Ans ε α} {g : γ}
    (hp : Follows P mid p g)
    (hok : ∀ a g', mid g' (.ok a) → post g' (.ok a))
    (herror : ∀ e g', mid g' (.error e) → Follows P post (handler e) g') :
    Follows P post (p.tryCatch handler) g := by
  induction p generalizing g with
  | ret a => exact hok a g hp
  | throw e => exact herror e g hp
  | call op next ih => exact ⟨hp.1, fun reply => ih reply (hp.2 reply)⟩

/-- The consequence rule. -/
theorem Follows.mono {post post' : γ → Except ε α → Prop} {p : Prog Op Ans ε α} {g : γ}
    (hp : Follows P post p g) (h : ∀ g' r, post g' r → post' g' r) : Follows P post' p g := by
  induction p generalizing g with
  | ret a => exact h g _ hp
  | throw e => exact h g _ hp
  | call op next ih => exact ⟨hp.1, fun reply => ih reply (hp.2 reply)⟩

/-- A program that keeps to two protocols with one view keeps to both at once. -/
theorem Follows.and {allows allows' : γ → Op → Prop}
    {next : γ → (op : Op) → Except ε (Ans op) → γ} {post post' : γ → Except ε α → Prop}
    {p : Prog Op Ans ε α} {g : γ}
    (hp : Follows { allows := allows, next := next } post p g)
    (hq : Follows { allows := allows', next := next } post' p g) :
    Follows { allows := fun g op => allows g op ∧ allows' g op, next := next }
      (fun g' r => post g' r ∧ post' g' r) p g := by
  induction p generalizing g with
  | ret a => exact ⟨hp, hq⟩
  | throw e => exact ⟨hp, hq⟩
  | call op next ih => exact ⟨⟨hp.1, hq.1⟩, fun reply => ih reply (hp.2 reply) (hq.2 reply)⟩

/-- The protocol for the calls of an embedded program. -/
def Protocol.along {Op' : Type} {Ans' : Op' → Type} (P : Protocol Op' Ans' ε γ) (f : Op → Op') :
    Protocol Op (fun op => Ans' (f op)) ε γ where
  allows g op := P.allows g (f op)
  next g op reply := P.next g (f op) reply

theorem Follows.embed {Op' : Type} {Ans' : Op' → Type} {P : Protocol Op' Ans' ε γ} {f : Op → Op'}
    {post : γ → Except ε α → Prop} {p : Prog Op (fun op => Ans' (f op)) ε α} {g : γ}
    (hp : Follows (P.along f) post p g) : Follows P post (p.embed f) g := by
  induction p generalizing g with
  | ret a => exact hp
  | throw e => exact hp
  | call op next ih => exact ⟨hp.1, fun reply => ih reply (hp.2 reply)⟩

/-- A program that keeps to one protocol keeps to every other that simulates it. -/
theorem Follows.simulate {δ : Type} {Q : Protocol Op Ans ε δ} {R : γ → δ → Prop}
    (hallow : ∀ g d op, R g d → P.allows g op → Q.allows d op)
    (hnext : ∀ g d op reply, R g d → P.allows g op → R (P.next g op reply) (Q.next d op reply))
    {post : γ → Except ε α → Prop} {p : Prog Op Ans ε α} {g : γ} {d : δ}
    (hp : Follows P post p g) (h : R g d) :
    Follows Q (fun d' r => ∃ g', R g' d' ∧ post g' r) p d := by
  induction p generalizing g d with
  | ret a => exact ⟨g, h, hp⟩
  | throw e => exact ⟨g, h, hp⟩
  | call op next ih =>
      exact ⟨hallow g d op h hp.1,
        fun reply => ih reply (hp.2 reply) (hnext g d op reply h hp.1)⟩

/-! ## Assumed replies -/

/-- Where every reply is as assumed, what the program answers is in `post`. -/
def Ensures (assumed : (op : Op) → Except ε (Ans op) → Prop) (post : α → Prop) :
    Prog Op Ans ε α → Prop
  | .ret a => post a
  | .throw _ => True
  | .call op next => ∀ reply, assumed op reply → Ensures assumed post (next reply)

variable {assumed : (op : Op) → Except ε (Ans op) → Prop}

theorem ensures_trivial (p : Prog Op Ans ε α) : Ensures assumed (fun _ => True) p := by
  induction p with
  | ret a => trivial
  | throw e => trivial
  | call op next ih => exact fun reply _ => ih reply

theorem ensures_await {op : Op} {post : Ans op → Prop}
    (h : ∀ a, assumed op (.ok a) → post a) : Ensures assumed post (await op) := by
  intro reply hreply
  cases reply with
  | ok a => exact h a hreply
  | error e => trivial

theorem ensures_bind (mid : α → Prop) {post : β → Prop} {p : Prog Op Ans ε α}
    {f : α → Prog Op Ans ε β} (hp : Ensures assumed mid p)
    (hf : ∀ a, mid a → Ensures assumed post (f a)) : Ensures assumed post (p >>= f) := by
  induction p with
  | ret a => exact hf a hp
  | throw e => trivial
  | call op next ih => exact fun reply hreply => ih reply (hp reply hreply)

theorem ensures_tryCatch {post : α → Prop} {p : Prog Op Ans ε α}
    {handler : ε → Prog Op Ans ε α} (hp : Ensures assumed post p)
    (hhandler : ∀ e, Ensures assumed post (handler e)) :
    Ensures assumed post (p.tryCatch handler) := by
  induction p with
  | ret a => exact hp
  | throw e => exact hhandler e
  | call op next ih => exact fun reply hreply => ih reply (hp reply hreply)

/-- A run whose replies are all as assumed answers something in `post`. -/
theorem Ensures.run {exec : (op : Op) → σ → Except ε (Ans op) × σ} {post : α → Prop}
    {p : Prog Op Ans ε α} (hp : Ensures assumed post p)
    (hexec : ∀ op s, assumed op (exec op s).1) {s : σ} {a : α}
    (h : (Prog.run exec p s).1 = .ok a) : post a := by
  induction p generalizing s with
  | ret b =>
      cases h
      exact hp
  | throw e => cases h
  | call op next ih => exact ih _ (hp _ (hexec op s)) h

/-! ## Runs without a rejection -/

/-- Where no call rejects, the program returns. -/
def Completes : Prog Op Ans ε α → Prop
  | .ret _ => True
  | .throw _ => False
  | .call _ next => ∀ value, Completes (next (.ok value))

end Prog

end SwitchService.Foundation
