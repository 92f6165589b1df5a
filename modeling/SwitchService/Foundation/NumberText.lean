import SwitchService.Foundation.Number

set_option autoImplicit false

/-!
# Foundation: the text of a decimal number

`String(number)` prints the significant digits of a number and places the point among
them, pads with zeros or adds an exponent.  A finite value here is an exact rational; the
ones that have a finite decimal form read back as themselves, so no two of them are printed
alike.
-/

namespace SwitchService.Foundation.Number

/-- A number that is not negative and has a finite decimal form. -/
def IsDecimal (q : ℚ) : Prop := ∃ s m : ℕ, q = s / 10 ^ m

/-- How many digits after the point a decimal needs. -/
def decimalPlaces (q : ℚ) : ℕ :=
  ((List.range (q.den.log2 + 1)).find? fun m => 10 ^ m % q.den = 0).getD 0

/-- The digits with a point after the first. -/
def mantissaText : List Char → List Char
  | d :: e :: rest => d :: '.' :: e :: rest
  | ds => ds

/-- `String` of `s / 10 ^ m`, with `m` digits after the point. -/
def fractionText (s m : ℕ) : List Char :=
  let ds := Nat.toDigits 10 s
  if m < ds.length then
    if ds.length - m ≤ 21 then ds.take (ds.length - m) ++ '.' :: ds.drop (ds.length - m)
    else mantissaText ds ++ 'e' :: '+' :: Nat.toDigits 10 (ds.length - m - 1)
  else if m - ds.length < 6 then '0' :: '.' :: (List.replicate (m - ds.length) '0' ++ ds)
  else mantissaText ds ++ 'e' :: '-' :: Nat.toDigits 10 (m - ds.length + 1)

/-- `String` of a number that is not negative. -/
def decimalText (q : ℚ) : String :=
  if q.den = 1 then natText q.num.toNat
  else String.ofList (fractionText (q * 10 ^ decimalPlaces q).num.toNat (decimalPlaces q))

/-- `String(number)`. -/
def numberText (q : ℚ) : String :=
  if q < 0 then "-" ++ decimalText (-q) else decimalText q

/-! ## Decimals -/

theorem isDecimal_natCast (n : ℕ) : IsDecimal n := ⟨n, 0, by simp⟩

theorem IsDecimal.nonneg {q : ℚ} (h : IsDecimal q) : 0 ≤ q := by
  obtain ⟨s, m, rfl⟩ := h
  positivity

theorem IsDecimal.add_natCast {q : ℚ} (h : IsDecimal q) (n : ℕ) : IsDecimal (q + n) := by
  obtain ⟨s, m, rfl⟩ := h
  refine ⟨s + n * 10 ^ m, m, ?_⟩
  push_cast
  rw [add_div, mul_div_cancel_right₀ _ (by positivity)]

theorem IsDecimal.add {q r : ℚ} (hq : IsDecimal q) (hr : IsDecimal r) : IsDecimal (q + r) := by
  obtain ⟨s, m, rfl⟩ := hq
  obtain ⟨t, n, rfl⟩ := hr
  refine ⟨s * 10 ^ n + t * 10 ^ m, m + n, ?_⟩
  push_cast
  rw [pow_add]
  field_simp

theorem IsDecimal.abs {q : ℚ} (h : IsDecimal q) : IsDecimal |q| := by
  rwa [abs_of_nonneg h.nonneg]

theorem isDecimal_mul_zpow (n : ℕ) (e : ℤ) : IsDecimal (n * 10 ^ e) := by
  cases e with
  | ofNat e => exact ⟨n * 10 ^ e, 0, by push_cast; simp⟩
  | negSucc e => exact ⟨n, e + 1, by rw [zpow_negSucc, div_eq_mul_inv]⟩

/-- A divisor of a power of ten divides an early one. -/
theorem dvd_ten_pow_log2 {d m : ℕ} (h : d ∣ 10 ^ m) : d ∣ 10 ^ d.log2 := by
  have hd : d ≠ 0 := fun hzero => by
    rw [hzero, Nat.zero_dvd] at h
    exact absurd h (by positivity)
  have hpow : ∀ k : ℕ, 10 ^ k = 2 ^ k * 5 ^ k := fun k => by rw [← Nat.mul_pow]
  rw [hpow] at h ⊢
  obtain ⟨a, b, ha, hb, rfl⟩ := (Nat.dvd_mul).mp h
  obtain ⟨i, _, rfl⟩ := (Nat.dvd_prime_pow Nat.prime_two).mp ha
  obtain ⟨j, _, rfl⟩ := (Nat.dvd_prime_pow Nat.prime_five).mp hb
  -- Both powers are at most the divisor, so both exponents are at most its logarithm.
  have hi : i ≤ (2 ^ i * 5 ^ j).log2 := by
    rw [Nat.le_log2 hd]
    exact Nat.le_mul_of_pos_right _ (by positivity)
  have hj : j ≤ (2 ^ i * 5 ^ j).log2 := by
    rw [Nat.le_log2 hd]
    calc 2 ^ j ≤ 5 ^ j := Nat.pow_le_pow_left (by decide) j
      _ ≤ 2 ^ i * 5 ^ j := Nat.le_mul_of_pos_left _ (by positivity)
  exact Nat.mul_dvd_mul (Nat.pow_dvd_pow 2 hi) (Nat.pow_dvd_pow 5 hj)

theorem den_dvd_decimalPlaces {q : ℚ} (h : IsDecimal q) : q.den ∣ 10 ^ decimalPlaces q := by
  obtain ⟨s, m, rfl⟩ := h
  have hden : ((s : ℚ) / 10 ^ m).den ∣ 10 ^ m := by
    have hdvd := Rat.den_dvd (s : ℤ) ((10 ^ m : ℕ) : ℤ)
    rw [Rat.divInt_eq_div, Int.natCast_dvd_natCast] at hdvd
    rwa [Int.cast_natCast, Int.cast_natCast, Nat.cast_pow, Nat.cast_ofNat] at hdvd
  have hlog := dvd_ten_pow_log2 hden
  unfold decimalPlaces
  cases hfind : (List.range (((s : ℚ) / 10 ^ m).den.log2 + 1)).find? fun k =>
      10 ^ k % ((s : ℚ) / 10 ^ m).den = 0 with
  | none =>
      rw [List.find?_eq_none] at hfind
      have hnone := hfind _ (List.mem_range.mpr (Nat.lt_succ_self _))
      exact absurd (Nat.mod_eq_zero_of_dvd hlog) (by simpa using hnone)
  | some k => exact Nat.dvd_of_mod_eq_zero (by simpa using List.find?_some hfind)

/-- A decimal is the number of its digits, shifted by its places. -/
theorem eq_num_div_pow {q : ℚ} (h : IsDecimal q) :
    q = ((q * 10 ^ decimalPlaces q).num.toNat : ℚ) / 10 ^ decimalPlaces q := by
  obtain ⟨c, hc⟩ := den_dvd_decimalPlaces h
  have hscaled : q * 10 ^ decimalPlaces q = ((q.num * c : ℤ) : ℚ) := by
    have hcast : ((10 : ℚ) ^ decimalPlaces q) = q.den * c := by exact_mod_cast hc
    rw [hcast, ← mul_assoc, Rat.mul_den_eq_num]
    push_cast
    rfl
  have hnonneg : 0 ≤ q.num * (c : ℤ) :=
    mul_nonneg (Rat.num_nonneg.mpr h.nonneg) (Int.natCast_nonneg c)
  have hnum : ((q * 10 ^ decimalPlaces q).num.toNat : ℚ) = q * 10 ^ decimalPlaces q := by
    rw [hscaled, Rat.num_intCast]
    exact_mod_cast Int.toNat_of_nonneg hnonneg
  rw [hnum, mul_div_cancel_right₀ _ (by positivity)]

/-! ## The value of a literal -/

/-- Digits with a point after the first, and an exponent. -/
theorem unsignedDecimal_mantissa (ds rest : List Char) (e : ℤ) (hne : ds ≠ [])
    (hd : ∀ c ∈ ds, c.isDigit = true)
    (hrest : ∀ c ∈ rest.head?, c.isDigit = false ∧ c ≠ '.')
    (hexp : exponentPart rest = some e) :
    unsignedDecimal (mantissaText ds ++ rest) =
      some ((Nat.ofDigitChars 10 ds 0 : ℚ) * 10 ^ (e - ((ds.length - 1 : ℕ) : ℤ))) := by
  cases ds with
  | nil => exact absurd rfl hne
  | cons d ds =>
      cases ds with
      | nil =>
          rw [show mantissaText [d] = [d] from rfl,
            unsignedDecimal_whole [d] rest e hne hd hrest hexp]
          simp
      | cons f fs =>
          have hvalue := unsignedDecimal_pointed [d] (f :: fs) rest e (List.cons_ne_nil d [])
            (fun c hc => hd c (by simp at hc; simp [hc]))
            (fun c hc => hd c (List.mem_cons_of_mem d hc)) (fun c hc => (hrest c hc).1) hexp
          simpa [mantissaText] using hvalue

theorem ofDigitChars_zeros_append (z : ℕ) (ds : List Char) :
    Nat.ofDigitChars 10 ('0' :: (List.replicate z '0' ++ ds)) 0 = Nat.ofDigitChars 10 ds 0 := by
  have hzeros : Nat.ofDigitChars 10 (List.replicate (z + 1) '0') 0 = 0 := by
    rw [Nat.ofDigitChars_replicate_zero, Nat.mul_zero]
  rw [← List.cons_append, ← List.replicate_succ, Nat.ofDigitChars_append, hzeros]

/-- Digits behind a point and some zeros. -/
theorem unsignedDecimal_zeros (z : ℕ) (ds : List Char) (hd : ∀ c ∈ ds, c.isDigit = true) :
    unsignedDecimal ('0' :: '.' :: (List.replicate z '0' ++ ds)) =
      some ((Nat.ofDigitChars 10 ds 0 : ℚ) * 10 ^ (-((z + ds.length : ℕ) : ℤ))) := by
  have hdigit : ∀ c ∈ List.replicate z '0' ++ ds, c.isDigit = true := by
    intro c hc
    rcases List.mem_append.mp hc with hc | hc
    · rw [List.eq_of_mem_replicate hc]
      decide
    · exact hd c hc
  have hform := unsignedDecimal_pointed ['0'] (List.replicate z '0' ++ ds) [] 0 (by simp)
    (by simp) hdigit (by simp) rfl
  rw [List.append_nil, List.singleton_append, List.singleton_append, ofDigitChars_zeros_append,
    List.length_append, List.length_replicate, zero_sub] at hform
  exact hform

/-- The digits of a number, shifted by some places. -/
theorem ofDigitChars_shift (s m : ℕ) {e : ℤ} (he : e = -(m : ℤ)) :
    (Nat.ofDigitChars 10 (Nat.toDigits 10 s) 0 : ℚ) * 10 ^ e = (s : ℚ) / 10 ^ m := by
  rw [he, Nat.ofDigitChars_ten_toDigits, zpow_neg, zpow_natCast, div_eq_mul_inv]

/-- The printed form of a fraction has the value of the fraction. -/
theorem unsignedDecimal_fractionText (s m : ℕ) :
    unsignedDecimal (fractionText s m) = some ((s : ℚ) / 10 ^ m) := by
  have hdigit := toDigits_isDigit s
  have hne : Nat.toDigits 10 s ≠ [] := Nat.toDigits_ne_nil
  have hlength : 0 < (Nat.toDigits 10 s).length := List.length_pos_iff.mpr hne
  have hexpdigits : ∀ n : ℕ, digits (Nat.toDigits 10 n) = some n := digits_toDigits
  unfold fractionText
  dsimp only
  split
  · rename_i hpoint
    split
    · have htake : (Nat.toDigits 10 s).take ((Nat.toDigits 10 s).length - m) ≠ [] := by
        intro hnil
        rw [List.take_eq_nil_iff] at hnil
        rcases hnil with hzero | hnil
        · omega
        · exact hne hnil
      have hform := unsignedDecimal_pointed _
        ((Nat.toDigits 10 s).drop ((Nat.toDigits 10 s).length - m)) [] 0 htake
        (fun c hc => hdigit c (List.mem_of_mem_take hc))
        (fun c hc => hdigit c (List.mem_of_mem_drop hc)) (by simp) rfl
      rw [List.append_nil, List.take_append_drop] at hform
      rw [hform, Option.some.injEq]
      refine ofDigitChars_shift s m ?_
      rw [List.length_drop]
      omega
    · have hform := unsignedDecimal_mantissa _
        ('e' :: '+' :: Nat.toDigits 10 ((Nat.toDigits 10 s).length - m - 1))
        (((Nat.toDigits 10 s).length - m - 1 : ℕ) : ℤ) hne hdigit
        (by simp) (by simp [exponentPart, hexpdigits])
      rw [hform, Option.some.injEq]
      refine ofDigitChars_shift s m ?_
      omega
  · rename_i hpoint
    split
    · rw [unsignedDecimal_zeros _ _ hdigit, Option.some.injEq]
      refine ofDigitChars_shift s m ?_
      omega
    · have hform := unsignedDecimal_mantissa _
        ('e' :: '-' :: Nat.toDigits 10 (m - (Nat.toDigits 10 s).length + 1))
        (-((m - (Nat.toDigits 10 s).length + 1 : ℕ) : ℤ)) hne hdigit
        (by simp) (by simp [exponentPart, hexpdigits])
      rw [hform, Option.some.injEq]
      refine ofDigitChars_shift s m ?_
      omega

/-! ## Reading it back -/

/-- A character of a printed number. -/
def isNumeral (c : Char) : Bool := c.isDigit || ['.', 'e', '+', '-'].contains c

theorem isNumeral_plain {c : Char} (h : isNumeral c = true) :
    isStrWhiteSpace c = false ∧ radixBase c = none := by
  unfold isNumeral at h
  rw [Bool.or_eq_true] at h
  rcases h with h | h
  · exact ⟨isStrWhiteSpace_digit h, radixBase_digit h⟩
  · simp only [List.contains_eq_mem, List.mem_cons, List.not_mem_nil, or_false,
      decide_eq_true_eq] at h
    rcases h with rfl | rfl | rfl | rfl
    · decide
    · decide
    · decide
    · decide

/-- Text of such characters that starts with a digit is read as its decimal value. -/
theorem ofText_of_numerals {c : Char} {cs : List Char} {v : ℚ} (hc : c.isDigit = true)
    (hcs : ∀ d ∈ cs, isNumeral d = true) (h : unsignedDecimal (c :: cs) = some v) :
    ofText (String.ofList (c :: cs)) = .fin v := by
  have hspace : ∀ d ∈ c :: cs, isStrWhiteSpace d = false := by
    intro d hd
    rcases List.mem_cons.mp hd with rfl | hd
    · exact isStrWhiteSpace_digit hc
    · exact (isNumeral_plain (hcs d hd)).1
  rw [ofText, String.toList_ofList, trim_eq_self hspace, ofStripped_digit hc,
    unsigned_of_decimal hc h]
  intro d hd
  exact (isNumeral_plain (hcs d (List.mem_of_mem_head? hd))).2

theorem isNumeral_of_isDigit {c : Char} (h : c.isDigit = true) : isNumeral c = true := by
  unfold isNumeral
  rw [h, Bool.true_or]

theorem isNumeral_mantissa {ds : List Char} (hd : ∀ c ∈ ds, c.isDigit = true) :
    ∀ c ∈ mantissaText ds, isNumeral c = true := by
  intro c hc
  unfold mantissaText at hc
  split at hc
  · rename_i d e rest
    simp only [List.mem_cons] at hc
    rcases hc with rfl | rfl | rfl | hc
    · exact isNumeral_of_isDigit (hd c (by simp))
    · decide
    · exact isNumeral_of_isDigit (hd c (by simp))
    · exact isNumeral_of_isDigit (hd c (by simp [hc]))
  · exact isNumeral_of_isDigit (hd c hc)

/-- A printed fraction is made of the characters of numbers. -/
theorem isNumeral_fractionText (s m : ℕ) : ∀ c ∈ fractionText s m, isNumeral c = true := by
  have hdigit : ∀ n : ℕ, ∀ c ∈ Nat.toDigits 10 n, isNumeral c = true := fun n c hc =>
    isNumeral_of_isDigit (toDigits_isDigit n c hc)
  have hmantissa := isNumeral_mantissa (toDigits_isDigit s)
  intro c hc
  unfold fractionText at hc
  dsimp only at hc
  split at hc
  · split at hc
    · simp only [List.mem_append, List.mem_cons] at hc
      rcases hc with hc | rfl | hc
      · exact hdigit s c (List.mem_of_mem_take hc)
      · decide
      · exact hdigit s c (List.mem_of_mem_drop hc)
    · simp only [List.mem_append, List.mem_cons] at hc
      rcases hc with hc | rfl | rfl | hc
      · exact hmantissa c hc
      · decide
      · decide
      · exact hdigit _ c hc
  · split at hc
    · simp only [List.mem_append, List.mem_cons] at hc
      rcases hc with rfl | rfl | hc | hc
      · decide
      · decide
      · rw [List.eq_of_mem_replicate hc]
        decide
      · exact hdigit s c hc
    · simp only [List.mem_append, List.mem_cons] at hc
      rcases hc with hc | rfl | rfl | hc
      · exact hmantissa c hc
      · decide
      · decide
      · exact hdigit _ c hc

/-- A printed fraction starts with a digit. -/
theorem fractionText_head (s m : ℕ) :
    ∃ c cs, fractionText s m = c :: cs ∧ c.isDigit = true := by
  have hdigit := toDigits_isDigit s
  obtain ⟨d, ds, hds⟩ := List.exists_cons_of_ne_nil (Nat.toDigits_ne_nil (b := 10) (n := s))
  have hd : d.isDigit = true := hdigit d (by rw [hds]; exact List.mem_cons_self)
  have hmantissa : ∃ rest, mantissaText (Nat.toDigits 10 s) = d :: rest := by
    rw [hds]
    cases ds with
    | nil => exact ⟨_, rfl⟩
    | cons e rest => exact ⟨_, rfl⟩
  obtain ⟨rest, hrest⟩ := hmantissa
  unfold fractionText
  dsimp only
  split
  · rename_i hpoint
    split
    · obtain ⟨n, hn⟩ : ∃ n, (Nat.toDigits 10 s).length - m = n + 1 :=
        ⟨(Nat.toDigits 10 s).length - m - 1, by omega⟩
      rw [hn, hds, List.take_succ_cons]
      exact ⟨d, _, rfl, hd⟩
    · rw [hrest]
      exact ⟨d, _, rfl, hd⟩
  · split
    · exact ⟨'0', _, rfl, by decide⟩
    · rw [hrest]
      exact ⟨d, _, rfl, hd⟩

/-- `Number(String(q))` is `q`. -/
theorem ofText_numberText {q : ℚ} (h : IsDecimal q) : ofText (numberText q) = .fin q := by
  rw [numberText, if_neg (not_lt.mpr h.nonneg), decimalText]
  split
  · rename_i hden
    rw [ofText_natText, fin.injEq]
    have hnum : (q.num.toNat : ℤ) = q.num := Int.toNat_of_nonneg (Rat.num_nonneg.mpr h.nonneg)
    have hcast : ((q.num.toNat : ℤ) : ℚ) = (q.num : ℚ) := by rw [hnum]
    rw [Rat.coe_int_num_of_den_eq_one hden] at hcast
    exact_mod_cast hcast
  · obtain ⟨c, cs, hcons, hc⟩ := fractionText_head (q * 10 ^ decimalPlaces q).num.toNat
      (decimalPlaces q)
    have hchars := isNumeral_fractionText (q * 10 ^ decimalPlaces q).num.toNat (decimalPlaces q)
    have hvalue := unsignedDecimal_fractionText (q * 10 ^ decimalPlaces q).num.toNat
      (decimalPlaces q)
    rw [← eq_num_div_pow h] at hvalue
    rw [hcons] at hchars hvalue ⊢
    exact ofText_of_numerals hc (fun d hd => hchars d (List.mem_cons_of_mem c hd)) hvalue

theorem isDecimal_of_unsignedDecimal {cs : List Char} {q : ℚ}
    (h : unsignedDecimal cs = some q) : IsDecimal q := by
  unfold unsignedDecimal at h
  dsimp only at h
  split at h
  · cases h
  · obtain ⟨e, _, rfl⟩ := Option.map_eq_some_iff.mp h
    exact isDecimal_mul_zpow _ _

theorem isDecimal_of_unsigned {cs : List Char} {q : ℚ} (h : unsigned cs = .fin q) :
    IsDecimal q := by
  unfold unsigned at h
  split at h
  · cases h
  · split at h
    · rename_i v hv
      cases h
      exact isDecimal_of_unsignedDecimal hv
    · cases h

theorem isDecimal_of_signed {cs : List Char} {q : ℚ} (h : signed cs = .fin q) (hq : 0 ≤ q) :
    IsDecimal q := by
  unfold signed at h
  split at h
  · rename_i rest
    -- A literal behind a minus sign is negative or zero.
    cases hv : unsigned rest with
    | nan => rw [hv] at h; cases h
    | negInf => rw [hv] at h; cases h
    | posInf => rw [hv] at h; cases h
    | fin v =>
        rw [hv] at h
        cases h
        have hnonneg := (isDecimal_of_unsigned hv).nonneg
        have hzero : -v = 0 := by linarith
        rw [hzero]
        exact_mod_cast isDecimal_natCast 0
  · exact isDecimal_of_unsigned h
  · exact isDecimal_of_unsigned h

theorem isDecimal_of_radixDigits {base : ℕ} {cs : List Char} {q : ℚ}
    (h : radixDigits base cs = some q) : IsDecimal q := by
  unfold radixDigits at h
  split at h
  · cases h
    exact isDecimal_natCast _
  · cases h

/-- What `Number` reads is a decimal, unless it is negative. -/
theorem isDecimal_of_ofText {text : String} {q : ℚ} (h : ofText text = .fin q) (hq : 0 ≤ q) :
    IsDecimal q := by
  unfold ofText ofStripped at h
  split at h
  · cases h
    exact_mod_cast isDecimal_natCast 0
  · split at h
    · split at h
      · rename_i hradix
        cases h
        exact isDecimal_of_radixDigits hradix
      · cases h
    · exact isDecimal_of_signed h hq
  · exact isDecimal_of_signed h hq

example : numberText (1 / 8) = "0.125" := by decide +kernel

/-! ## Different numbers have different texts -/

theorem isNumeral_exponentText (n : ℕ) : ∀ c ∈ exponentText n, isNumeral c = true := by
  intro c hc
  change c ∈ mantissaText _ ++ 'e' :: '+' :: Nat.toDigits 10 _ at hc
  simp only [List.mem_append, List.mem_cons] at hc
  rcases hc with hc | rfl | rfl | hc
  · exact isNumeral_mantissa (significant_isDigit n) c hc
  · decide
  · decide
  · exact isNumeral_of_isDigit (toDigits_isDigit _ c hc)

theorem isNumeral_natText (n : ℕ) : ∀ c ∈ (natText n).toList, isNumeral c = true := by
  intro c hc
  unfold natText at hc
  split at hc
  · rw [String.toList_ofList] at hc
    exact isNumeral_of_isDigit (toDigits_isDigit n c hc)
  · rw [String.toList_ofList] at hc
    exact isNumeral_exponentText n c hc

theorem natText_head (n : ℕ) : ∃ c cs, (natText n).toList = c :: cs ∧ c.isDigit = true := by
  unfold natText
  split
  · rw [String.toList_ofList]
    obtain ⟨c, cs, hcons⟩ := List.exists_cons_of_ne_nil (Nat.toDigits_ne_nil (b := 10) (n := n))
    exact ⟨c, cs, hcons, toDigits_isDigit n c (by rw [hcons]; exact List.mem_cons_self)⟩
  · rename_i hn
    obtain ⟨-, c, cs, hcons, hc, -⟩ := exponentText_shape (n := n) (by omega)
    rw [String.toList_ofList]
    exact ⟨c, cs, hcons, hc⟩

/-- The text of a number that is not negative starts with a digit. -/
theorem decimalText_head (q : ℚ) :
    ∃ c cs, (decimalText q).toList = c :: cs ∧ c.isDigit = true := by
  unfold decimalText
  split
  · exact natText_head _
  · rw [String.toList_ofList]
    exact fractionText_head _ _

/-- A printed number is made of the characters of numbers. -/
theorem isNumeral_numberText (q : ℚ) : ∀ c ∈ (numberText q).toList, isNumeral c = true := by
  have hdecimal : ∀ r : ℚ, ∀ c ∈ (decimalText r).toList, isNumeral c = true := by
    intro r c hc
    unfold decimalText at hc
    split at hc
    · exact isNumeral_natText _ c hc
    · rw [String.toList_ofList] at hc
      exact isNumeral_fractionText _ _ c hc
  intro c hc
  unfold numberText at hc
  split at hc
  · rw [String.toList_append] at hc
    rcases List.mem_append.mp hc with hsign | hc
    · obtain rfl : c = '-' := by simpa using hsign
      decide
    · exact hdecimal (-q) c hc
  · exact hdecimal q c hc

theorem decimalText_inj {q r : ℚ} (hq : IsDecimal q) (hr : IsDecimal r)
    (h : decimalText q = decimalText r) : q = r := by
  have hread : ∀ v : ℚ, IsDecimal v → ofText (decimalText v) = .fin v := by
    intro v hv
    have hvalue := ofText_numberText hv
    rwa [numberText, if_neg (not_lt.mpr hv.nonneg)] at hvalue
  have hfin := (hread q hq).symm.trans (h ▸ hread r hr)
  exact fin.inj hfin

/-- A text with a sign is none that starts with a digit. -/
theorem minus_decimalText_ne (q r : ℚ) : "-" ++ decimalText q ≠ decimalText r := by
  obtain ⟨c, cs, hcons, hc⟩ := decimalText_head r
  intro h
  have hlist := congrArg String.toList h
  rw [String.toList_append, hcons] at hlist
  obtain rfl : '-' = c := (List.cons.inj hlist).1
  exact absurd hc (by decide)

/-- Two decimals with one text are the same, whatever their signs. -/
theorem numberText_inj {q r : ℚ} (hq : IsDecimal |q|) (hr : IsDecimal |r|)
    (h : numberText q = numberText r) : q = r := by
  unfold numberText at h
  split at h
  · rename_i hqneg
    split at h
    · rename_i hrneg
      rw [abs_of_neg hqneg] at hq
      rw [abs_of_neg hrneg] at hr
      exact neg_inj.mp (decimalText_inj hq hr (String.append_right_inj "-" |>.mp h))
    · exact absurd h (minus_decimalText_ne _ _)
  · rename_i hqpos
    split at h
    · exact absurd h.symm (minus_decimalText_ne _ _)
    · rename_i hrpos
      rw [abs_of_nonneg (not_lt.mp hqpos)] at hq
      rw [abs_of_nonneg (not_lt.mp hrpos)] at hr
      exact decimalText_inj hq hr h

theorem isDecimal_abs_intCast (n : ℤ) : IsDecimal |(n : ℚ)| := by
  have hcast : |(n : ℚ)| = (n.natAbs : ℚ) := by
    rw [Nat.cast_natAbs, Int.cast_abs]
  rw [hcast]
  exact isDecimal_natCast _

theorem numberText_int_injective : Function.Injective fun n : ℤ => numberText n := by
  intro m n h
  have heq := numberText_inj (isDecimal_abs_intCast m) (isDecimal_abs_intCast n) h
  exact_mod_cast heq

example : numberText (-15 * 10 ^ 20 : ℤ) = "-1.5e+21" := by decide +kernel

end SwitchService.Foundation.Number
