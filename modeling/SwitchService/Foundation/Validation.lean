import SwitchService.Foundation.Number

set_option autoImplicit false

/-!
# Foundation: validation that collects every issue

A schema checks all fields of its input and reports the issues of all of them,
in field order.  `Validation` is the applicative that does this: a composition
succeeds only when both parts do, and otherwise keeps the issues of both.
-/

namespace SwitchService.Foundation

/-- A checked value, or the issues found. -/
inductive Validation (ε α : Type) where
  | valid (value : α)
  | invalid (issues : List ε)

namespace Validation

variable {ε α β : Type}

/-- The value is mapped, the issues stay. -/
def map (f : α → β) : Validation ε α → Validation ε β
  | .valid a => .valid (f a)
  | .invalid issues => .invalid issues

/-- Application: the issues of the function come before those of the argument. -/
def seq : Validation ε (α → β) → Validation ε α → Validation ε β
  | .valid f, .valid a => .valid (f a)
  | .valid _, .invalid issues => .invalid issues
  | .invalid issues, .valid _ => .invalid issues
  | .invalid issues, .invalid more => .invalid (issues ++ more)

instance : Functor (Validation ε) where
  map := map

instance : Seq (Validation ε) where
  seq f a := seq f (a ())

@[simp] theorem map_valid (f : α → β) (a : α) :
    f <$> (.valid a : Validation ε α) = .valid (f a) := rfl

@[simp] theorem valid_seq_valid (f : α → β) (a : α) :
    (.valid f : Validation ε (α → β)) <*> .valid a = .valid (f a) := rfl

@[simp] theorem map_eq_valid {f : α → β} {v : Validation ε α} {b : β} :
    f <$> v = .valid b ↔ ∃ a, v = .valid a ∧ f a = b := by
  change map f v = .valid b ↔ _
  cases v <;> simp [map]

/-- A composition is valid exactly when both of its parts are. -/
@[simp] theorem seq_eq_valid {f : Validation ε (α → β)} {v : Validation ε α} {b : β} :
    f <*> v = .valid b ↔ ∃ g a, f = .valid g ∧ v = .valid a ∧ g a = b := by
  change seq f v = .valid b ↔ _
  cases f <;> cases v <;> simp [seq]

end Validation

/-! ## Issues and integer checks -/

/-- One issue of a schema: the path of the field and what is wrong with it. -/
structure Issue where
  path : String
  message : String
  deriving DecidableEq

/-- A lower bound on a number, with the text of its issue. -/
structure Bound where
  holds : Number → Bool
  message : String

/-- `.positive()`. -/
def Bound.positive : Bound where
  holds value := Number.lt (.fin 0) value
  message := "Number must be greater than 0"

/-- `.nonnegative()`. -/
def Bound.nonnegative : Bound where
  holds value := Number.lt (.fin 0) value || value == .fin 0
  message := "Number must be greater than or equal to 0"

/-- The issues of `.int()` followed by a bound. -/
def integerIssues (path : String) (bound : Bound) (value : Number) : List Issue :=
  (if value.toInt?.isSome then []
    else [{ path := path, message := "Expected integer, received float" }]) ++
  (if bound.holds value then [] else [{ path := path, message := bound.message }])

/-- A number without issues is an integer within the bound. -/
theorem integerIssues_eq_nil {path : String} {bound : Bound} {value : Number} :
    integerIssues path bound value = [] ↔
      (∃ n, value.toInt? = some n) ∧ bound.holds value = true := by
  simp [integerIssues, Option.isSome_iff_exists]

theorem toInt?_natCast (n : ℕ) : Number.toInt? (.fin n) = some (n : ℤ) := by
  simp [Number.toInt?]

end SwitchService.Foundation
