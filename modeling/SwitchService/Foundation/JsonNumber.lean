import SwitchService.Foundation.NumberText

set_option autoImplicit false

/-!
# Foundation: the numbers of JSON

A number of JSON has no needless zero in front, a digit on both sides of a point and no plus
sign in front.  Every printed number is one, and it is read back with its sign.
-/

namespace SwitchService.Foundation.Number

/-- The digits in front of a point: a zero alone, or none in front. -/
def isWholePart (ds : List Char) : Bool :=
  ds == ['0'] || (!ds.isEmpty && ds.head? != some '0')

/-- What may follow the whole part. -/
def isFractionAndExponent : List Char → Bool
  | '.' :: rest =>
      !(rest.takeWhile Char.isDigit).isEmpty &&
        (exponentPart (rest.dropWhile Char.isDigit)).isSome
  | rest => (exponentPart rest).isSome

/-- The grammar of a number without its sign. -/
def isJsonUnsigned (cs : List Char) : Bool :=
  isWholePart (cs.takeWhile Char.isDigit) &&
    isFractionAndExponent (cs.dropWhile Char.isDigit)

/-- The grammar of a number. -/
def isJsonNumber : List Char → Bool
  | '-' :: cs => isJsonUnsigned cs
  | cs => isJsonUnsigned cs

/-! ## The forms of a number -/

theorem isJsonUnsigned_whole {ds rest : List Char} (hd : ∀ c ∈ ds, c.isDigit = true)
    (hwhole : isWholePart ds = true)
    (hrest : ∀ c ∈ rest.head?, c.isDigit = false ∧ c ≠ '.')
    (hexp : (exponentPart rest).isSome = true) : isJsonUnsigned (ds ++ rest) = true := by
  obtain ⟨htake, hdrop⟩ := takeWhile_digits hd fun c hc => (hrest c hc).1
  have hfraction : isFractionAndExponent rest = true := by
    unfold isFractionAndExponent
    split
    · exact absurd rfl (hrest '.' rfl).2
    · exact hexp
  rw [isJsonUnsigned, htake, hdrop, hwhole, hfraction]
  rfl

theorem isJsonUnsigned_pointed (ds fs rest : List Char) (hd : ∀ c ∈ ds, c.isDigit = true)
    (hwhole : isWholePart ds = true) (hf : ∀ c ∈ fs, c.isDigit = true) (hne : fs ≠ [])
    (hrest : ∀ c ∈ rest.head?, c.isDigit = false)
    (hexp : (exponentPart rest).isSome = true) :
    isJsonUnsigned (ds ++ '.' :: (fs ++ rest)) = true := by
  obtain ⟨htake, hdrop⟩ := takeWhile_digits hd (r := '.' :: (fs ++ rest)) (by simp)
  obtain ⟨htake', hdrop'⟩ := takeWhile_digits hf hrest
  rw [isJsonUnsigned, htake, hdrop, hwhole, isFractionAndExponent, htake', hdrop', hexp]
  simp [hne]

theorem isWholePart_single (d : Char) : isWholePart [d] = true := by
  by_cases h : d = '0'
  · rw [h]
    decide
  · simp [isWholePart, h]

theorem isWholePart_of_head {d : Char} {ds : List Char} (h : d ≠ '0') :
    isWholePart (d :: ds) = true := by
  simp [isWholePart, h]

/-- The digits of a positive number do not start with a zero. -/
theorem toDigits_head {n : ℕ} (hn : 0 < n) : ∃ d ds, Nat.toDigits 10 n = d :: ds ∧ d ≠ '0' := by
  induction n using Nat.strong_induction_on with
  | _ n ih =>
      by_cases hsmall : n < 10
      · have hdigit : ∀ k < 10, 0 < k → Nat.digitChar k ≠ '0' := by decide
        exact ⟨_, _, Nat.toDigits_of_lt_base hsmall, hdigit n hsmall hn⟩
      · obtain ⟨d, ds, hds, hd⟩ := ih (n / 10) (by omega) (by omega)
        rw [Nat.toDigits_of_base_le (by decide) (not_lt.mp hsmall), hds]
        exact ⟨d, _, rfl, hd⟩

theorem isWholePart_toDigits (n : ℕ) : isWholePart (Nat.toDigits 10 n) = true := by
  rcases Nat.eq_zero_or_pos n with rfl | hn
  · decide
  · obtain ⟨d, ds, hds, hd⟩ := toDigits_head hn
    rw [hds]
    exact isWholePart_of_head hd

/-- One digit, or more with a point after the first, and an exponent. -/
theorem isJsonUnsigned_mantissa {ds rest : List Char} (hd : ∀ c ∈ ds, c.isDigit = true)
    (hne : ds ≠ []) (hrest : ∀ c ∈ rest.head?, c.isDigit = false ∧ c ≠ '.')
    (hexp : (exponentPart rest).isSome = true) :
    isJsonUnsigned (mantissaText ds ++ rest) = true := by
  match ds with
  | [] => exact absurd rfl hne
  | [d] => exact isJsonUnsigned_whole hd (isWholePart_single d) hrest hexp
  | d :: e :: es =>
      have hform := isJsonUnsigned_pointed [d] (e :: es) rest
        (fun c hc => hd c (by rw [List.mem_singleton.mp hc]; exact List.mem_cons_self))
        (isWholePart_single d) (fun c hc => hd c (List.mem_cons_of_mem d hc))
        (List.cons_ne_nil e es) (fun c hc => (hrest c hc).1) hexp
      simpa [mantissaText] using hform

/-- A printed fraction is a number of JSON. -/
theorem isJsonUnsigned_fractionText {s m : ℕ} (hs : 0 < s) (hm : 0 < m) :
    isJsonUnsigned (fractionText s m) = true := by
  have hdigit := toDigits_isDigit s
  have hne : Nat.toDigits 10 s ≠ [] := Nat.toDigits_ne_nil
  have hexp : ∀ n : ℕ, digits (Nat.toDigits 10 n) = some n := digits_toDigits
  obtain ⟨d, ds, hds, hd⟩ := toDigits_head hs
  unfold fractionText
  dsimp only
  split
  · rename_i hpoint
    split
    · have htake : ∃ es, (Nat.toDigits 10 s).take ((Nat.toDigits 10 s).length - m) = d :: es := by
        obtain ⟨n, hn⟩ : ∃ n, (Nat.toDigits 10 s).length - m = n + 1 :=
          ⟨(Nat.toDigits 10 s).length - m - 1, by omega⟩
        rw [hn, hds, List.take_succ_cons]
        exact ⟨_, rfl⟩
      obtain ⟨es, hes⟩ := htake
      have hdrop : (Nat.toDigits 10 s).drop ((Nat.toDigits 10 s).length - m) ≠ [] := by
        intro hnil
        rw [List.drop_eq_nil_iff] at hnil
        omega
      have hform := isJsonUnsigned_pointed
        ((Nat.toDigits 10 s).take ((Nat.toDigits 10 s).length - m))
        ((Nat.toDigits 10 s).drop ((Nat.toDigits 10 s).length - m)) []
        (fun c hc => hdigit c (List.mem_of_mem_take hc))
        (by rw [hes]; exact isWholePart_of_head hd)
        (fun c hc => hdigit c (List.mem_of_mem_drop hc)) hdrop (by simp) rfl
      rwa [List.append_nil] at hform
    · exact isJsonUnsigned_mantissa hdigit hne (by simp) (by simp [exponentPart, hexp])
  · split
    · have hall : ∀ c ∈ List.replicate (m - (Nat.toDigits 10 s).length) '0' ++ Nat.toDigits 10 s,
          c.isDigit = true := by
        intro c hc
        rcases List.mem_append.mp hc with hc | hc
        · rw [List.eq_of_mem_replicate hc]
          decide
        · exact hdigit c hc
      have hform := isJsonUnsigned_pointed ['0']
        (List.replicate (m - (Nat.toDigits 10 s).length) '0' ++ Nat.toDigits 10 s) []
        (fun c hc => by rw [List.mem_singleton.mp hc]; rfl) (by decide) hall (by simp [hne])
        (by simp) rfl
      rwa [List.append_nil, List.singleton_append] at hform
    · exact isJsonUnsigned_mantissa hdigit hne (by simp) (by simp [exponentPart, hexp])

theorem isJsonUnsigned_natText (n : ℕ) : isJsonUnsigned (natText n).toList = true := by
  unfold natText
  split
  · have hform : isJsonUnsigned (Nat.toDigits 10 n ++ []) = true :=
      isJsonUnsigned_whole (toDigits_isDigit n) (isWholePart_toDigits n) (by simp) rfl
    rwa [String.toList_ofList, ← List.append_nil (Nat.toDigits 10 n)]
  · rename_i hn
    rw [String.toList_ofList]
    have hexp : ∀ k : ℕ, digits (Nat.toDigits 10 k) = some k := digits_toDigits
    have hsig : ((Nat.toDigits 10 n).reverse.dropWhile (· == '0')).reverse ≠ [] := by
      obtain ⟨z, hz⟩ := digits_split (Nat.toDigits 10 n)
      intro hnil
      obtain ⟨d, ds, hds, hd⟩ := toDigits_head (n := n) (by omega)
      rw [hnil, List.nil_append, hds] at hz
      exact hd (List.eq_of_mem_replicate (hz ▸ List.mem_cons_self))
    exact isJsonUnsigned_mantissa (significant_isDigit n) hsig (by simp)
      (by simp [exponentPart, hexp])

/-- A fraction has digits after the point. -/
theorem decimalPlaces_pos {q : ℚ} (h : IsDecimal q) (hden : q.den ≠ 1) : 0 < decimalPlaces q := by
  rcases Nat.eq_zero_or_pos (decimalPlaces q) with hzero | hpos
  · have hdvd := den_dvd_decimalPlaces h
    rw [hzero, pow_zero] at hdvd
    exact absurd (Nat.dvd_one.mp hdvd) hden
  · exact hpos

theorem isJsonUnsigned_decimalText {q : ℚ} (h : IsDecimal q) :
    isJsonUnsigned (decimalText q).toList = true := by
  unfold decimalText
  split
  · exact isJsonUnsigned_natText _
  · rename_i hden
    have hplaces := decimalPlaces_pos h hden
    have hpos : 0 < (q * 10 ^ decimalPlaces q).num.toNat := by
      rcases Nat.eq_zero_or_pos (q * 10 ^ decimalPlaces q).num.toNat with hzero | hpos
      · have hvalue := eq_num_div_pow h
        rw [hzero, Nat.cast_zero, zero_div] at hvalue
        rw [hvalue] at hden
        exact absurd rfl hden
      · exact hpos
    rw [String.toList_ofList]
    exact isJsonUnsigned_fractionText hpos hplaces

/-- Every printed decimal is a number of JSON. -/
theorem isJsonNumber_numberText {q : ℚ} (h : IsDecimal |q|) :
    isJsonNumber (numberText q).toList = true := by
  unfold numberText
  split
  · rename_i hneg
    rw [abs_of_neg hneg] at h
    rw [String.toList_append]
    exact isJsonUnsigned_decimalText h
  · rename_i hpos
    rw [abs_of_nonneg (not_lt.mp hpos)] at h
    obtain ⟨c, cs, hcons, hc⟩ := decimalText_head q
    have hform := isJsonUnsigned_decimalText h
    rw [hcons] at hform ⊢
    unfold isJsonNumber
    split
    · rename_i heq
      cases heq
      exact absurd hc (by decide)
    · exact hform

/-! ## Reading a printed number -/

/-- Text of the characters of numbers that starts with a digit has no sign and no radix. -/
theorem ofText_eq_unsigned {text : String} {c : Char} {cs : List Char}
    (htext : text.toList = c :: cs) (hc : c.isDigit = true)
    (hchars : ∀ d ∈ c :: cs, isNumeral d = true) : ofText text = unsigned (c :: cs) := by
  rw [ofText, htext, trim_eq_self fun d hd => (isNumeral_plain (hchars d hd)).1,
    ofStripped_digit hc fun d hd =>
      (isNumeral_plain (hchars d (List.mem_cons_of_mem c (List.mem_of_mem_head? hd)))).2]

/-- `Number(String(q))` is `q`, whatever its sign is. -/
theorem ofText_numberText_abs {q : ℚ} (h : IsDecimal |q|) : ofText (numberText q) = .fin q := by
  by_cases hneg : q < 0
  · rw [abs_of_neg hneg] at h
    have hread := ofText_numberText h
    rw [numberText, if_neg (not_lt.mpr h.nonneg)] at hread
    obtain ⟨c, cs, hcons, hc⟩ := decimalText_head (-q)
    have hchars : ∀ d ∈ c :: cs, isNumeral d = true := by
      intro d hd
      have hnumeral := isNumeral_numberText (-q) d
      rw [numberText, if_neg (not_lt.mpr h.nonneg), hcons] at hnumeral
      exact hnumeral hd
    have hsigned : (numberText q).toList = '-' :: c :: cs := by
      rw [numberText, if_pos hneg, String.toList_append, hcons]
      rfl
    have hplain : ∀ d ∈ '-' :: c :: cs, isStrWhiteSpace d = false := by
      intro d hd
      rcases List.mem_cons.mp hd with rfl | hd
      · decide
      · exact (isNumeral_plain (hchars d hd)).1
    rw [ofText_eq_unsigned hcons hc hchars] at hread
    rw [ofText, hsigned, trim_eq_self hplain]
    change (unsigned (c :: cs)).neg = .fin q
    rw [hread, neg, neg_neg]
  · rw [abs_of_nonneg (not_lt.mp hneg)] at h
    exact ofText_numberText h

end SwitchService.Foundation.Number
