import Mathlib.Data.List.TakeWhile
import Mathlib.Data.Rat.Floor
import Mathlib.Tactic

set_option autoImplicit false

/-!
# Foundation: ECMAScript numbers and their decimal text

Redis holds text and the routing maths works on numbers, so every counter that
is read back goes through `Number(text)` and every one that is written goes
through `String(number)`.  This module carries both directions once.

Finite values are exact rationals.  Neither rounding nor overflow is modelled,
and negative zero is zero; `NaN` and the infinities are kept, since the readers
test for them.
-/

namespace SwitchService.Foundation

/-- An ECMAScript number with exact finite values. -/
inductive Number where
  | nan
  | negInf
  | fin (value : ℚ)
  | posInf
  deriving DecidableEq, Inhabited

namespace Number

/-- The relation `<`, false as soon as one side is `NaN`. -/
def lt : Number → Number → Bool
  | .fin a, .fin b => decide (a < b)
  | .negInf, .fin _ | .negInf, .posInf | .fin _, .posInf => true
  | _, _ => false

/-- The relation `<=`, false as soon as one side is `NaN`. -/
def le : Number → Number → Bool
  | .nan, _ | _, .nan => false
  | a, b => !lt b a

/-- Unary minus. -/
def neg : Number → Number
  | .nan => .nan
  | .negInf => .posInf
  | .fin a => .fin (-a)
  | .posInf => .negInf

/-- Addition; opposite infinities give `NaN`. -/
def add : Number → Number → Number
  | .nan, _ | _, .nan | .posInf, .negInf | .negInf, .posInf => .nan
  | .posInf, _ | _, .posInf => .posInf
  | .negInf, _ | _, .negInf => .negInf
  | .fin a, .fin b => .fin (a + b)

/-- A finite value times `+Infinity`. -/
def scaleInf (a : ℚ) : Number :=
  if a = 0 then .nan else if 0 < a then .posInf else .negInf

/-- Multiplication; zero times an infinity gives `NaN`. -/
def mul : Number → Number → Number
  | .nan, _ | _, .nan => .nan
  | .fin a, .fin b => .fin (a * b)
  | .fin a, .posInf | .posInf, .fin a => scaleInf a
  | .fin a, .negInf | .negInf, .fin a => (scaleInf a).neg
  | .posInf, .posInf | .negInf, .negInf => .posInf
  | .posInf, .negInf | .negInf, .posInf => .negInf

/-- `Math.abs`. -/
def abs : Number → Number
  | .nan => .nan
  | .fin a => .fin |a|
  | _ => .posInf

/-- The value of a finite number that is an integer: `Number.isInteger`. -/
def toInt? : Number → Option ℤ
  | .fin a => if a.den = 1 then some a.num else none
  | _ => none

@[simp] theorem lt_fin (a b : ℚ) : lt (.fin a) (.fin b) = decide (a < b) := rfl

@[simp] theorem le_fin (a b : ℚ) : le (.fin a) (.fin b) = decide (a ≤ b) := by
  rw [le, lt_fin, ← decide_not]
  · simp only [not_lt]
  · simp
  · simp

@[simp] theorem add_fin (a b : ℚ) : add (.fin a) (.fin b) = .fin (a + b) := rfl

@[simp] theorem mul_fin (a b : ℚ) : mul (.fin a) (.fin b) = .fin (a * b) := rfl

/-- A smaller left side stays below any bound the larger one is below. -/
theorem lt_of_le_of_lt {a b : ℚ} {c : Number} (hab : a ≤ b) (h : lt (.fin b) c = true) :
    lt (.fin a) c = true := by
  cases c with
  | nan => simp [lt] at h
  | negInf => simp [lt] at h
  | fin c =>
      simp only [lt_fin, decide_eq_true_eq] at h ⊢
      exact hab.trans_lt h
  | posInf => rfl

/-- A finite sum has finite terms. -/
theorem add_eq_fin {a b : Number} {v : ℚ} (h : a.add b = .fin v) :
    ∃ x y, a = .fin x ∧ b = .fin y ∧ x + y = v := by
  unfold add at h
  split at h
  all_goals cases h
  exact ⟨_, _, rfl, rfl, rfl⟩

/-- A finite multiple is one of a finite number. -/
theorem mul_fin_eq_fin {a : Number} {x v : ℚ} (h : a.mul (.fin x) = .fin v) :
    ∃ y, a = .fin y ∧ y * x = v := by
  cases a with
  | nan => cases h
  | fin y => exact ⟨y, rfl, by simpa using h⟩
  | negInf =>
      simp only [mul, scaleInf] at h
      split at h
      · cases h
      · split at h
        · cases h
        · cases h
  | posInf =>
      simp only [mul, scaleInf] at h
      split at h
      · cases h
      · split at h
        · cases h
        · cases h

/-! ## `Number(text)` -/

/-- White space and line terminators, which `Number` strips from both ends. -/
def isStrWhiteSpace (c : Char) : Bool :=
  [0x9, 0xA, 0xB, 0xC, 0xD, 0x20, 0xA0, 0x1680, 0x2000, 0x2001, 0x2002, 0x2003,
    0x2004, 0x2005, 0x2006, 0x2007, 0x2008, 0x2009, 0x200A, 0x2028, 0x2029,
    0x202F, 0x205F, 0x3000, 0xFEFF].contains c.toNat

/-- `String.prototype.trim` on characters. -/
def trim (cs : List Char) : List Char :=
  ((cs.dropWhile isStrWhiteSpace).reverse.dropWhile isStrWhiteSpace).reverse

/-- A nonempty run of decimal digits. -/
def digits (cs : List Char) : Option ℕ :=
  if cs ≠ [] ∧ cs.all Char.isDigit then some (Nat.ofDigitChars 10 cs 0) else none

/-- What follows the mantissa: nothing, or `e` with a signed exponent. -/
def exponentPart : List Char → Option ℤ
  | [] => some 0
  | e :: rest =>
      if e = 'e' ∨ e = 'E' then
        match rest with
        | '-' :: ds => (digits ds).map fun n => -Int.ofNat n
        | '+' :: ds => (digits ds).map Int.ofNat
        | ds => (digits ds).map Int.ofNat
      else none

/-- The fraction digits after the point, and the rest. -/
def fractionPart : List Char → List Char × List Char
  | '.' :: rest => (rest.takeWhile Char.isDigit, rest.dropWhile Char.isDigit)
  | rest => ([], rest)

/-- A decimal literal without a sign. -/
def unsignedDecimal (cs : List Char) : Option ℚ :=
  let whole := cs.takeWhile Char.isDigit
  let tail := fractionPart (cs.dropWhile Char.isDigit)
  if whole = [] ∧ tail.1 = [] then none
  else (exponentPart tail.2).map fun e : ℤ =>
    (Nat.ofDigitChars 10 (whole ++ tail.1) 0 : ℚ) * 10 ^ (e - tail.1.length)

/-- The value of a digit in a radix up to sixteen. -/
def radixDigit (c : Char) : ℕ :=
  if c.isDigit then c.toNat - '0'.toNat
  else if 'a' ≤ c ∧ c ≤ 'f' then c.toNat - 'a'.toNat + 10
  else if 'A' ≤ c ∧ c ≤ 'F' then c.toNat - 'A'.toNat + 10
  else 16

/-- Digits in the given radix. -/
def radixDigits (base : ℕ) (cs : List Char) : Option ℚ :=
  if cs ≠ [] ∧ cs.all (fun c => decide (radixDigit c < base)) then
    some ((cs.foldl (fun n c => base * n + radixDigit c) 0 : ℕ) : ℚ)
  else none

/-- The literals `0x…`, `0o…` and `0b…`, by their second letter. -/
def radixBase (c : Char) : Option ℕ :=
  if c = 'x' ∨ c = 'X' then some 16
  else if c = 'o' ∨ c = 'O' then some 8
  else if c = 'b' ∨ c = 'B' then some 2
  else none

/-- A number literal without a sign. -/
def unsigned (cs : List Char) : Number :=
  if cs = ['I', 'n', 'f', 'i', 'n', 'i', 't', 'y'] then .posInf
  else match unsignedDecimal cs with
    | some q => .fin q
    | none => .nan

/-- A number literal with an optional sign. -/
def signed : List Char → Number
  | '-' :: cs => (unsigned cs).neg
  | '+' :: cs => unsigned cs
  | cs => unsigned cs

/-- `Number` on text that is already stripped of white space. -/
def ofStripped : List Char → Number
  | [] => .fin 0
  | '0' :: c :: cs =>
      match radixBase c with
      | some base =>
          match radixDigits base cs with
          | some q => .fin q
          | none => .nan
      | none => signed ('0' :: c :: cs)
  | cs => signed cs

/-- `Number(text)`. -/
def ofText (s : String) : Number := ofStripped (trim s.toList)

/-! ## `String(number)` on the natural numbers -/

/-- From `10 ^ 21` on, `String` prints the significant digits and an exponent. -/
def exponentText (n : ℕ) : List Char :=
  let ds := Nat.toDigits 10 n
  let significant := (ds.reverse.dropWhile (· == '0')).reverse
  let mantissa :=
    match significant with
    | d :: e :: rest => d :: '.' :: e :: rest
    | ds => ds
  mantissa ++ 'e' :: '+' :: Nat.toDigits 10 (ds.length - 1)

/-- `String(n)` for a natural number. -/
def natText (n : ℕ) : String :=
  if n < 10 ^ 21 then String.ofList (Nat.toDigits 10 n) else String.ofList (exponentText n)

/-! ## `Number(String(n)) = n` -/

theorem digit_bounds {c : Char} (h : c.isDigit = true) : 48 ≤ c.toNat ∧ c.toNat ≤ 57 :=
  Char.isDigit_iff_toNat.mp h

theorem isStrWhiteSpace_digit {c : Char} (h : c.isDigit = true) :
    isStrWhiteSpace c = false := by
  have hc := digit_bounds h
  simp only [isStrWhiteSpace, List.contains_eq_mem, List.mem_cons, List.not_mem_nil,
    or_false, decide_eq_false_iff_not]
  omega

theorem trim_eq_self {cs : List Char} (h : ∀ c ∈ cs, isStrWhiteSpace c = false) :
    trim cs = cs := by
  have hdrop : ∀ l : List Char, (∀ c ∈ l, isStrWhiteSpace c = false) →
      l.dropWhile isStrWhiteSpace = l := by
    intro l hl
    cases l with
    | nil => rfl
    | cons c rest => simp [hl c (by simp)]
  rw [trim, hdrop cs h, hdrop cs.reverse (fun c hc => h c (by simpa using hc)),
    List.reverse_reverse]

/-- Text that starts with a digit is read as an unsigned literal, unless its
second character announces a radix. -/
theorem ofStripped_digit {c : Char} {cs : List Char} (hc : c.isDigit = true)
    (hcs : ∀ d ∈ cs.head?, radixBase d = none) :
    ofStripped (c :: cs) = unsigned (c :: cs) := by
  have hsigned : signed (c :: cs) = unsigned (c :: cs) := by
    unfold signed
    split
    · rename_i h
      cases h
      exact absurd hc (by decide)
    · rename_i h
      cases h
      exact absurd hc (by decide)
    · rfl
  unfold ofStripped
  split
  · rename_i h
    cases h
  · rename_i d rest h
    cases h
    rw [hcs d rfl]
    exact hsigned
  · exact hsigned

theorem unsigned_of_decimal {c : Char} {cs : List Char} {q : ℚ} (hc : c.isDigit = true)
    (h : unsignedDecimal (c :: cs) = some q) : unsigned (c :: cs) = .fin q := by
  have hne : c :: cs ≠ ['I', 'n', 'f', 'i', 'n', 'i', 't', 'y'] := by
    intro he
    cases he
    exact absurd hc (by decide)
  simp [unsigned, hne, h]

theorem radixBase_digit {c : Char} (h : c.isDigit = true) : radixBase c = none := by
  have hc := digit_bounds h
  have hne : ∀ d : Char, d.toNat < 48 ∨ 57 < d.toNat → c ≠ d := by
    rintro d hd rfl
    omega
  simp [radixBase, hne 'x' (by decide), hne 'X' (by decide), hne 'o' (by decide),
    hne 'O' (by decide), hne 'b' (by decide), hne 'B' (by decide)]

theorem toDigits_isDigit (n : ℕ) : ∀ c ∈ Nat.toDigits 10 n, c.isDigit = true :=
  fun _ hc => Nat.isDigit_of_mem_toDigits (by decide) (by decide) hc

theorem takeWhile_digits {ds r : List Char} (hd : ∀ c ∈ ds, c.isDigit = true)
    (hr : ∀ c ∈ r.head?, c.isDigit = false) :
    (ds ++ r).takeWhile Char.isDigit = ds ∧ (ds ++ r).dropWhile Char.isDigit = r := by
  have hr' : r.takeWhile Char.isDigit = [] ∧ r.dropWhile Char.isDigit = r := by
    cases r with
    | nil => exact ⟨rfl, rfl⟩
    | cons c rest => simp [hr c rfl]
  rw [List.takeWhile_append_of_pos hd, List.dropWhile_append_of_pos hd, hr'.1, hr'.2]
  simp

theorem digits_eq_some {ds : List Char} (hne : ds ≠ []) (hd : ∀ c ∈ ds, c.isDigit = true) :
    digits ds = some (Nat.ofDigitChars 10 ds 0) := by
  rw [digits, if_pos ⟨hne, List.all_eq_true.mpr hd⟩]

theorem exponentPart_pos {ds : List Char} (hne : ds ≠ []) (hd : ∀ c ∈ ds, c.isDigit = true) :
    exponentPart ('e' :: '+' :: ds) = some (Nat.ofDigitChars 10 ds 0 : ℤ) := by
  simp [exponentPart, digits_eq_some hne hd]

/-- A literal without a point. -/
theorem unsignedDecimal_whole (ds rest : List Char) (e : ℤ) (hne : ds ≠ [])
    (hd : ∀ c ∈ ds, c.isDigit = true)
    (hrest : ∀ c ∈ rest.head?, c.isDigit = false ∧ c ≠ '.')
    (hexp : exponentPart rest = some e) :
    unsignedDecimal (ds ++ rest) = some ((Nat.ofDigitChars 10 ds 0 : ℚ) * 10 ^ e) := by
  obtain ⟨htake, hdrop⟩ := takeWhile_digits hd (r := rest) fun c hc => (hrest c hc).1
  have hfraction : fractionPart rest = ([], rest) := by
    unfold fractionPart
    split
    · exact absurd rfl (hrest '.' rfl).2
    · rfl
  simp [unsignedDecimal, htake, hdrop, hfraction, hexp, hne]

/-- A literal with a point. -/
theorem unsignedDecimal_pointed (ds fs rest : List Char) (e : ℤ) (hne : ds ≠ [])
    (hd : ∀ c ∈ ds, c.isDigit = true) (hf : ∀ c ∈ fs, c.isDigit = true)
    (hrest : ∀ c ∈ rest.head?, c.isDigit = false) (hexp : exponentPart rest = some e) :
    unsignedDecimal (ds ++ '.' :: (fs ++ rest)) =
      some ((Nat.ofDigitChars 10 (ds ++ fs) 0 : ℚ) * 10 ^ (e - fs.length)) := by
  obtain ⟨htake, hdrop⟩ := takeWhile_digits hd (r := '.' :: (fs ++ rest)) (by simp)
  obtain ⟨htake', hdrop'⟩ := takeWhile_digits hf (r := rest) hrest
  simp [unsignedDecimal, htake, hdrop, fractionPart, htake', hdrop', hexp, hne]

/-- A literal made of digits only is its value. -/
theorem unsignedDecimal_digits {ds : List Char} (hne : ds ≠ [])
    (hd : ∀ c ∈ ds, c.isDigit = true) :
    unsignedDecimal ds = some (Nat.ofDigitChars 10 ds 0 : ℚ) := by
  have hvalue := unsignedDecimal_whole ds [] 0 hne hd (by simp) rfl
  rwa [List.append_nil, zpow_zero, mul_one] at hvalue

/-- Digits are significant digits followed by zeros. -/
theorem digits_split (ds : List Char) :
    ∃ z : ℕ, ds = (ds.reverse.dropWhile (· == '0')).reverse ++ List.replicate z '0' := by
  have hzeros : ∀ c ∈ ds.reverse.takeWhile (· == '0'), c = '0' := by
    intro c hc
    simpa using List.mem_takeWhile_imp hc
  refine ⟨(ds.reverse.takeWhile (· == '0')).length, ?_⟩
  have happ := List.takeWhile_append_dropWhile (p := (· == '0')) (l := ds.reverse)
  rw [List.eq_replicate_of_mem hzeros] at happ
  have hrev := congrArg List.reverse happ
  rw [List.reverse_append, List.reverse_replicate, List.reverse_reverse] at hrev
  exact hrev.symm

theorem significant_isDigit (n : ℕ) :
    ∀ c ∈ ((Nat.toDigits 10 n).reverse.dropWhile (· == '0')).reverse, c.isDigit = true := by
  intro c hc
  obtain ⟨z, hz⟩ := digits_split (Nat.toDigits 10 n)
  refine toDigits_isDigit n c ?_
  rw [hz]
  exact List.mem_append_left _ hc

theorem ofDigitChars_append_zeros (ds : List Char) (z : ℕ) :
    Nat.ofDigitChars 10 (ds ++ List.replicate z '0') 0 =
      Nat.ofDigitChars 10 ds 0 * 10 ^ z := by
  rw [Nat.ofDigitChars_append, Nat.ofDigitChars_replicate_zero, Nat.mul_comm]

/-- The exponent form of a natural number reads back as the number. -/
theorem unsignedDecimal_exponentText {n : ℕ} (hn : 0 < n) :
    unsignedDecimal (exponentText n) = some (n : ℚ) := by
  obtain ⟨z, hz⟩ := digits_split (Nat.toDigits 10 n)
  set sig := ((Nat.toDigits 10 n).reverse.dropWhile (· == '0')).reverse with hsig
  have hvalue : n = Nat.ofDigitChars 10 sig 0 * 10 ^ z := by
    rw [← ofDigitChars_append_zeros, ← hz, Nat.ofDigitChars_ten_toDigits]
  have hdigit : ∀ c ∈ sig, c.isDigit = true := significant_isDigit n
  have hlength : (Nat.toDigits 10 n).length = sig.length + z := by
    rw [hz, List.length_append, List.length_replicate]
  have hne : sig ≠ [] := by
    intro hnil
    rw [hnil] at hvalue
    simp at hvalue
    omega
  have hexp := toDigits_isDigit ((Nat.toDigits 10 n).length - 1)
  have hexpne : Nat.toDigits 10 ((Nat.toDigits 10 n).length - 1) ≠ [] := Nat.toDigits_ne_nil
  unfold exponentText
  simp only [← hsig]
  cases hs : sig with
  | nil => exact absurd hs hne
  | cons d rest =>
      rw [hs] at hvalue hdigit hlength
      cases rest with
      | nil =>
          have hform := unsignedDecimal_whole [d] _ _ (List.cons_ne_nil d []) hdigit
            (by simp) (exponentPart_pos hexpne hexp)
          simp only [List.cons_append, List.nil_append] at hform ⊢
          rw [hform, Nat.ofDigitChars_ten_toDigits, hlength]
          simp only [List.length_cons, List.length_nil, Nat.zero_add, Nat.add_sub_cancel_left]
          rw [hvalue]
          push_cast
          rfl
      | cons e rest =>
          have hform := unsignedDecimal_pointed [d] (e :: rest) _ _ (List.cons_ne_nil d [])
            (fun c hc => hdigit c (by simp at hc; simp [hc]))
            (fun c hc => hdigit c (List.mem_cons_of_mem d hc)) (by simp)
            (exponentPart_pos hexpne hexp)
          simp only [List.cons_append, List.nil_append] at hform ⊢
          rw [hform, Nat.ofDigitChars_ten_toDigits, hlength]
          have hz' : (((d :: e :: rest).length + z - 1 : ℕ) : ℤ) -
              ((e :: rest).length : ℕ) = z := by
            simp only [List.length_cons]
            omega
          rw [hz', zpow_natCast]
          conv_rhs => rw [hvalue]
          push_cast
          rfl

/-- The characters of the exponent form, and how it starts. -/
theorem exponentText_shape {n : ℕ} (hn : 0 < n) :
    (∀ c ∈ exponentText n, isStrWhiteSpace c = false) ∧
      ∃ c cs, exponentText n = c :: cs ∧ c.isDigit = true ∧
        ∀ d ∈ cs.head?, radixBase d = none := by
  obtain ⟨z, hz⟩ := digits_split (Nat.toDigits 10 n)
  have hdigit := significant_isDigit n
  have hexp : ∀ c ∈ Nat.toDigits 10 ((Nat.toDigits 10 n).length - 1),
      isStrWhiteSpace c = false := fun c hc => isStrWhiteSpace_digit (toDigits_isDigit _ c hc)
  unfold exponentText
  simp only
  cases hs : ((Nat.toDigits 10 n).reverse.dropWhile (· == '0')).reverse with
  | nil =>
      rw [hs, List.nil_append] at hz
      have hzero := ofDigitChars_append_zeros [] z
      rw [List.nil_append, ← hz, Nat.ofDigitChars_ten_toDigits] at hzero
      simp at hzero
      omega
  | cons d rest =>
      rw [hs] at hdigit
      have hd := hdigit d (by simp)
      cases rest with
      | nil =>
          refine ⟨?_, d, _, rfl, hd, ?_⟩
          · simp only [List.cons_append, List.nil_append, List.mem_cons]
            rintro c (rfl | rfl | rfl | hc)
            · exact isStrWhiteSpace_digit hd
            · decide
            · decide
            · exact hexp c hc
          · rintro c hc
            cases hc
            decide
      | cons e rest =>
          refine ⟨?_, d, _, rfl, hd, ?_⟩
          · simp only [List.cons_append, List.mem_cons, List.mem_append]
            rintro c (rfl | rfl | rfl | hc | rfl | rfl | hc)
            · exact isStrWhiteSpace_digit hd
            · decide
            · exact isStrWhiteSpace_digit (hdigit c (by simp))
            · exact isStrWhiteSpace_digit (hdigit c (by simp [hc]))
            · decide
            · decide
            · exact hexp c hc
          · rintro c hc
            cases hc
            decide

/-- The value of the decimal text of a natural number. -/
theorem ofText_digits (n : ℕ) : ofText (String.ofList (Nat.toDigits 10 n)) = .fin n := by
  have hdigit := toDigits_isDigit n
  rw [ofText, String.toList_ofList,
    trim_eq_self fun c hc => isStrWhiteSpace_digit (hdigit c hc)]
  have hvalue := unsignedDecimal_digits Nat.toDigits_ne_nil hdigit
  rw [Nat.ofDigitChars_ten_toDigits] at hvalue
  cases hds : Nat.toDigits 10 n with
  | nil => exact absurd hds Nat.toDigits_ne_nil
  | cons c cs =>
      rw [hds] at hdigit hvalue
      have hc := hdigit c (by simp)
      rw [ofStripped_digit hc, unsigned_of_decimal hc hvalue]
      intro d hd
      exact radixBase_digit (hdigit d (List.mem_cons_of_mem c (List.mem_of_mem_head? hd)))

/-- `Number(String(n))` is `n`. -/
@[simp] theorem ofText_natText (n : ℕ) : ofText (natText n) = .fin n := by
  unfold natText
  split
  · exact ofText_digits n
  · rename_i hn
    have hpos : 0 < n := by omega
    obtain ⟨hspace, c, cs, hcons, hc, hcs⟩ := exponentText_shape hpos
    have hvalue := unsignedDecimal_exponentText hpos
    rw [ofText, String.toList_ofList, trim_eq_self hspace]
    rw [hcons] at hvalue ⊢
    rw [ofStripped_digit hc hcs, unsigned_of_decimal hc hvalue]

/-! ## Integers in decimal -/

/-- The integer that a decimal text stands for. -/
def intOfText (s : String) : Option ℤ :=
  match s.toList with
  | '-' :: cs => (digits cs).map fun n => -(n : ℤ)
  | cs => (digits cs).map fun n => (n : ℤ)

theorem toList_toString_ofNat (n : ℕ) : (toString (n : ℤ)).toList = Nat.toDigits 10 n := by
  simp [Int.toString_eq_repr, Int.repr]

theorem toList_toString_negSucc (n : ℕ) :
    (toString (Int.negSucc n)).toList = '-' :: Nat.toDigits 10 (n + 1) := by
  simp [Int.toString_eq_repr, Int.repr]

theorem digits_toDigits (n : ℕ) : digits (Nat.toDigits 10 n) = some n := by
  rw [digits_eq_some Nat.toDigits_ne_nil (toDigits_isDigit n), Nat.ofDigitChars_ten_toDigits]

theorem intOfText_toString (n : ℤ) : intOfText (toString n) = some n := by
  cases n with
  | negSucc n =>
      unfold intOfText
      rw [toList_toString_negSucc]
      simp [digits_toDigits, Int.negSucc_eq]
  | ofNat n =>
      unfold intOfText
      rw [Int.ofNat_eq_natCast, toList_toString_ofNat]
      split
      · rename_i cs hcons
        have hdigit := toDigits_isDigit n '-' (by rw [hcons]; exact List.mem_cons_self)
        exact absurd hdigit (by decide)
      · simp [digits_toDigits]

/-- `Number` of the decimal text of a natural number. -/
theorem ofText_toString (n : ℕ) : ofText (toString (n : ℤ)) = .fin n := by
  rw [← ofText_digits, ← toList_toString_ofNat, String.ofList_toList]

end Number

end SwitchService.Foundation
