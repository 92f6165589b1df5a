import Mathlib.Tactic

set_option autoImplicit false

/-!
# Foundation: the UTF-16 units of a text

ECMAScript counts and escapes the units of UTF-16, not characters.  A character above
`U+FFFF` has two units, a high and a low surrogate; a surrogate without its partner is no
character and is read as the replacement character, as an encoder to UTF-8 writes it.
-/

namespace SwitchService.Foundation.Utf16

/-- The units of one character. -/
def unitsOf (c : Char) : List ℕ :=
  if c.toNat < 0x10000 then [c.toNat]
  else [0xD800 + (c.toNat - 0x10000) / 0x400, 0xDC00 + (c.toNat - 0x10000) % 0x400]

/-- The units of some characters. -/
def units (cs : List Char) : List ℕ := cs.flatMap unitsOf

/-- `String.prototype.length`. -/
def length (text : String) : ℕ := (units text.toList).length

/-- A unit that is a character by itself. -/
def single (u : ℕ) : Char := if 0xD800 ≤ u ∧ u < 0xE000 then '\uFFFD' else Char.ofNat u

/-- The character of a high and a low surrogate. -/
def pair (high low : ℕ) : Char :=
  Char.ofNat (0x10000 + (high - 0xD800) * 0x400 + (low - 0xDC00))

/-- The text of some units. -/
def decode : List ℕ → List Char
  | [] => []
  | [u] => [single u]
  | u :: v :: rest =>
      if (0xD800 ≤ u ∧ u < 0xDC00) ∧ 0xDC00 ≤ v ∧ v < 0xE000 then pair u v :: decode rest
      else single u :: decode (v :: rest)

/-- A character is no surrogate and not above `U+10FFFF`. -/
theorem toNat_cases (c : Char) : c.toNat < 0xD800 ∨ (0xE000 ≤ c.toNat ∧ c.toNat < 0x110000) := by
  have h := c.valid
  change c.toNat < 0xD800 ∨ (0xDFFF < c.toNat ∧ c.toNat < 0x110000) at h
  omega

theorem single_toNat (c : Char) : single c.toNat = c := by
  have h := toNat_cases c
  unfold single
  rw [if_neg (by omega), Char.ofNat_toNat]

/-- The units of a character are read as that character, whatever follows. -/
theorem decode_unitsOf (c : Char) (rest : List ℕ) :
    decode (unitsOf c ++ rest) = c :: decode rest := by
  have h := toNat_cases c
  unfold unitsOf
  split
  · cases rest with
    | nil => simp [decode, single_toNat]
    | cons v rest =>
        rw [List.singleton_append, decode, if_neg (by omega), single_toNat]
  · have hpair : pair (0xD800 + (c.toNat - 0x10000) / 0x400)
        (0xDC00 + (c.toNat - 0x10000) % 0x400) = c := by
      have hsum : 0x10000 + (0xD800 + (c.toNat - 0x10000) / 0x400 - 0xD800) * 0x400 +
          (0xDC00 + (c.toNat - 0x10000) % 0x400 - 0xDC00) = c.toNat := by omega
      unfold pair
      rw [hsum, Char.ofNat_toNat]
    rw [List.cons_append, List.singleton_append, decode, if_pos (by omega), hpair]

/-- Every text is read back from its units. -/
theorem decode_units (cs : List Char) : decode (units cs) = cs := by
  induction cs with
  | nil => rfl
  | cons c cs ih =>
      rw [units, List.flatMap_cons, decode_unitsOf]
      exact congrArg _ ih

end SwitchService.Foundation.Utf16
