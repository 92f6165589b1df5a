import SwitchService.Foundation.Double
import SwitchService.Foundation.JsonNumber
import SwitchService.Foundation.Utf16
import SwitchService.Wire.JsonText

set_option autoImplicit false

/-!
# Wire: reading the text of a JSON value

`JSON.parse`.  White space may stand between tokens, a string may use any escape, a number
follows the grammar of JSON and is read as the double nearest to it, and of the fields of one
name the last one counts.

`parse_stringify` is the round trip: every value whose numbers have a finite decimal form
and whose objects name each field once is read back from its text, each number as its double.
-/

namespace SwitchService.Wire

open SwitchService.Foundation SwitchService.Consumer

/-! ## Strings -/

/-- Four hexadecimal digits. -/
def readHex4 : List Char → Option (ℕ × List Char)
  | a :: b :: c :: d :: rest =>
      if [a, b, c, d].all (fun digit => decide (Number.radixDigit digit < 16)) then
        some ([a, b, c, d].foldl (fun n digit => 16 * n + Number.radixDigit digit) 0, rest)
      else none
  | _ => none

/-- The unit that a letter after a backslash stands for. -/
def escapeUnit (c : Char) : Option ℕ :=
  if c = '"' ∨ c = '\\' ∨ c = '/' then some c.toNat
  else if c = 'b' then some 8
  else if c = 'f' then some 12
  else if c = 'n' then some 10
  else if c = 'r' then some 13
  else if c = 't' then some 9
  else none

/-- One character or escape inside a string. -/
def readUnits : List Char → Option (List ℕ × List Char)
  | '\\' :: 'u' :: rest => (readHex4 rest).map fun read => ([read.1], read.2)
  | '\\' :: c :: rest => (escapeUnit c).map fun u => ([u], rest)
  | c :: rest => if c = '\\' ∨ c.toNat < 0x20 then none else some (Utf16.unitsOf c, rest)
  | [] => none

/-- The units of a string up to its closing mark. -/
def readString : ℕ → List Char → Option (List ℕ × List Char)
  | 0, _ => none
  | _ + 1, '"' :: rest => some ([], rest)
  | fuel + 1, cs =>
      match readUnits cs with
      | none => none
      | some (us, rest) => (readString fuel rest).map fun read => (us ++ read.1, read.2)

/-- The text of some units. -/
def textOf (us : List ℕ) : String := String.ofList (Utf16.decode us)

/-! ## Values -/

/-- White space between tokens. -/
def skip (cs : List Char) : List Char := cs.dropWhile [' ', '\t', '\n', '\r'].contains

/-- A character that a number may have. -/
def isNumberChar (c : Char) : Bool := Number.isNumeral c || c == 'E'

/-- A number, as its double, and the rest. -/
def readNumber (cs : List Char) : Option (Json × List Char) :=
  if Number.isJsonNumber (cs.takeWhile isNumberChar) then
    some (.num (Number.ofText (String.ofList (cs.takeWhile isNumberChar))).double,
      cs.dropWhile isNumberChar)
  else none

/-- A field of an object; one of the same name is replaced. -/
def setField (fields : List (String × Json)) (field : String × Json) : List (String × Json) :=
  if fields.any (·.1 = field.1) then
    fields.map fun other => if other.1 = field.1 then field else other
  else fields ++ [field]

/-- The object of the fields that were read. -/
def objectOf (fields : List (String × Json)) : Json := .obj (fields.foldl setField [])

/-- The name of a field and its colon. -/
def readName (cs : List Char) : Option (String × List Char) :=
  match skip cs with
  | '"' :: rest =>
      match readString (rest.length + 1) rest with
      | none => none
      | some (us, rest) =>
          match skip rest with
          | ':' :: rest => some (textOf us, rest)
          | _ => none
  | _ => none

mutual

/-- A value and the rest. -/
def readValue : ℕ → List Char → Option (Json × List Char)
  | 0, _ => none
  | fuel + 1, cs =>
      match skip cs with
      | '"' :: rest => (readString (rest.length + 1) rest).map fun read =>
          (.str (textOf read.1), read.2)
      | '[' :: rest =>
          match skip rest with
          | ']' :: rest => some (.arr [], rest)
          | rest => (readItems fuel rest).map fun read => (.arr read.1, read.2)
      | '\x7b' :: rest =>
          match skip rest with
          | '\x7d' :: rest => some (.obj [], rest)
          | rest => (readFields fuel rest).map fun read => (objectOf read.1, read.2)
      | 't' :: 'r' :: 'u' :: 'e' :: rest => some (.bool true, rest)
      | 'f' :: 'a' :: 'l' :: 's' :: 'e' :: rest => some (.bool false, rest)
      | 'n' :: 'u' :: 'l' :: 'l' :: rest => some (.null, rest)
      | cs => readNumber cs

/-- The items of an array, at least one, and its closing bracket. -/
def readItems : ℕ → List Char → Option (List Json × List Char)
  | 0, _ => none
  | fuel + 1, cs =>
      match readValue fuel cs with
      | none => none
      | some (item, rest) =>
          match skip rest with
          | ']' :: rest => some ([item], rest)
          | ',' :: rest => (readItems fuel rest).map fun read => (item :: read.1, read.2)
          | _ => none

/-- The fields of an object, at least one, and its closing brace. -/
def readFields : ℕ → List Char → Option (List (String × Json) × List Char)
  | 0, _ => none
  | fuel + 1, cs =>
      match readName cs with
      | none => none
      | some (name, rest) =>
          match readValue fuel rest with
          | none => none
          | some (value, rest) =>
              match skip rest with
              | '\x7d' :: rest => some ([(name, value)], rest)
              | ',' :: rest =>
                  (readFields fuel rest).map fun read => ((name, value) :: read.1, read.2)
              | _ => none

end

/-- `JSON.parse`; `none` where it throws. -/
def parse (text : String) : Option Json :=
  match readValue (2 * text.toList.length + 1) text.toList with
  | some (value, rest) => if skip rest = [] then some value else none
  | none => none

/-! ## Reading a printed string -/

theorem readUnits_control {n : ℕ} (hn : n < 0x20) (rest : List Char) :
    readUnits (hexEscape n ++ rest) = some ([n], rest) := by
  have hvalue : ∀ n < 0x20, ['0', '0', Nat.digitChar (n / 16), Nat.digitChar (n % 16)].foldl
      (fun n digit => 16 * n + Number.radixDigit digit) 0 = n ∧
      ['0', '0', Nat.digitChar (n / 16), Nat.digitChar (n % 16)].all
        (fun digit => decide (Number.radixDigit digit < 16)) = true := by decide
  obtain ⟨hfold, hall⟩ := hvalue n hn
  simp only [hexEscape, List.cons_append, List.nil_append, readUnits, readHex4]
  rw [if_pos hall, hfold]
  rfl

/-- A printed character is read as its units. -/
theorem readUnits_quoteChar (c : Char) (rest : List Char) :
    readUnits (quoteChar c ++ rest) = some (Utf16.unitsOf c, rest) := by
  unfold quoteChar
  split_ifs with hquote hslash hb hf hn hr ht hcontrol
  · rw [hquote]; rfl
  · rw [hslash]; rfl
  · rw [hb]; rfl
  · rw [hf]; rfl
  · rw [hn]; rfl
  · rw [hr]; rfl
  · rw [ht]; rfl
  · rw [readUnits_control hcontrol, Utf16.unitsOf, if_pos (by omega)]
  · have hplain : readUnits (c :: rest) =
        if c = '\\' ∨ c.toNat < 0x20 then none else some (Utf16.unitsOf c, rest) := by
      unfold readUnits
      split
      · rename_i heq
        exact absurd (List.cons.inj heq).1 hslash
      · rename_i heq
        exact absurd (List.cons.inj heq).1 hslash
      · rename_i heq
        obtain ⟨rfl, rfl⟩ := List.cons.inj heq
        rfl
      · rename_i heq
        cases heq
    rw [List.singleton_append, hplain, if_neg (not_or.mpr ⟨hslash, hcontrol⟩)]

/-- A printed character does not start with the mark that closes a string. -/
theorem quoteChar_head (c : Char) : ∃ d ds, quoteChar c = d :: ds ∧ d ≠ '"' := by
  unfold quoteChar
  split_ifs with hquote
  all_goals first
    | exact ⟨_, _, rfl, by decide⟩
    | exact ⟨_, _, rfl, hquote⟩

theorem readString_quoted {fuel : ℕ} (cs rest : List Char) (hfuel : cs.length < fuel) :
    readString fuel (cs.flatMap quoteChar ++ '"' :: rest) = some (Utf16.units cs, rest) := by
  induction cs generalizing fuel with
  | nil =>
      obtain ⟨fuel, rfl⟩ := Nat.exists_eq_succ_of_ne_zero (Nat.ne_of_gt hfuel)
      rfl
  | cons c cs ih =>
      obtain ⟨fuel, rfl⟩ := Nat.exists_eq_succ_of_ne_zero (Nat.ne_zero_of_lt hfuel)
      have hone := readUnits_quoteChar c (cs.flatMap quoteChar ++ '"' :: rest)
      have hrest : readString fuel (cs.flatMap quoteChar ++ '"' :: rest) = _ :=
        ih (by simpa using hfuel)
      obtain ⟨d, ds, hcons, hd⟩ := quoteChar_head c
      rw [List.flatMap_cons, List.append_assoc]
      rw [hcons, List.cons_append] at hone ⊢
      rw [readString]
      · rw [hone]
        dsimp only
        rw [hrest]
        rfl
      · intro rest heq
        exact hd (List.cons.inj heq).1

theorem length_le_flatMap_quoteChar (cs : List Char) :
    cs.length ≤ (cs.flatMap quoteChar).length := by
  induction cs with
  | nil => exact Nat.le_refl 0
  | cons c cs ih =>
      obtain ⟨d, ds, hcons, _⟩ := quoteChar_head c
      rw [List.flatMap_cons, hcons]
      simp only [List.length_cons, List.length_append]
      omega

theorem textOf_units (s : String) : textOf (Utf16.units s.toList) = s := by
  rw [textOf, Utf16.decode_units, String.ofList_toList]

/-- What follows the opening mark of a printed string. -/
theorem readString_text (s : String) (rest : List Char) :
    (readString ((s.toList.flatMap quoteChar ++ '"' :: rest).length + 1)
      (s.toList.flatMap quoteChar ++ '"' :: rest)) = some (Utf16.units s.toList, rest) := by
  refine readString_quoted _ _ ?_
  have hlength := length_le_flatMap_quoteChar s.toList
  rw [List.length_append]
  omega

/-! ## Reading a printed value -/

theorem skip_of_head {c : Char} {cs : List Char}
    (h : [' ', '\t', '\n', '\r'].contains c = false) : skip (c :: cs) = c :: cs := by
  simp only [skip, List.dropWhile_cons, h]
  rfl

theorem quote_append (s : String) (rest : List Char) :
    quote s ++ rest = '"' :: (s.toList.flatMap quoteChar ++ '"' :: rest) := by
  simp [quote]

theorem readName_quote (name : String) (rest : List Char) :
    readName (quote name ++ ':' :: rest) = some (name, rest) := by
  rw [quote_append, readName, skip_of_head (by decide)]
  simp only [readString_text, textOf_units]
  rw [skip_of_head (by decide)]
  rfl

/-- What follows a value: nothing that could be part of a number. -/
def Ends (rest : List Char) : Prop := ∀ c ∈ rest.head?, isNumberChar c = false

theorem readNumber_numberText {q : ℚ} (h : Number.IsDecimal |q|) {rest : List Char}
    (hrest : Ends rest) :
    readNumber ((Number.numberText q).toList ++ rest) =
      some (.num (Number.toDouble q), rest) := by
  have hchars : ∀ c ∈ (Number.numberText q).toList, isNumberChar c = true := by
    intro c hc
    rw [isNumberChar, Number.isNumeral_numberText q c hc]
    rfl
  have hsplit : ((Number.numberText q).toList ++ rest).takeWhile isNumberChar =
      (Number.numberText q).toList ∧
      ((Number.numberText q).toList ++ rest).dropWhile isNumberChar = rest := by
    rw [List.takeWhile_append_of_pos hchars, List.dropWhile_append_of_pos hchars]
    cases rest with
    | nil => simp
    | cons c rest => simp [hrest c rfl]
  rw [readNumber, hsplit.1, hsplit.2, if_pos (Number.isJsonNumber_numberText h),
    String.ofList_toList, Number.ofText_numberText_abs h, Number.double]

mutual

/-- A value that `JSON.stringify` prints without loss: its numbers are finite decimals, and no
object has two fields of one name. -/
def Faithful : Json → Prop
  | .null | .bool _ | .str _ => True
  | .num (.fin q) => Number.IsDecimal |q|
  | .num _ => False
  | .arr items => FaithfulItems items
  | .obj fields => (fields.map (·.1)).Nodup ∧ FaithfulFields fields

/-- Every item is. -/
def FaithfulItems : List Json → Prop
  | [] => True
  | item :: items => Faithful item ∧ FaithfulItems items

/-- The value of every field is. -/
def FaithfulFields : List (String × Json) → Prop
  | [] => True
  | field :: fields => FaithfulField field ∧ FaithfulFields fields

/-- The value of the field is. -/
def FaithfulField : String × Json → Prop
  | (_, value) => Faithful value

end

mutual

/-- The value with the doubles of its numbers. -/
def doubled : Json → Json
  | .num value => .num value.double
  | .arr items => .arr (doubledItems items)
  | .obj fields => .obj (doubledFields fields)
  | .null => .null
  | .bool value => .bool value
  | .str text => .str text

/-- The items with their doubles. -/
def doubledItems : List Json → List Json
  | [] => []
  | item :: items => doubled item :: doubledItems items

/-- The fields with their doubles. -/
def doubledFields : List (String × Json) → List (String × Json)
  | [] => []
  | field :: fields => doubledField field :: doubledFields fields

/-- The field with the doubles of its value. -/
def doubledField : String × Json → String × Json
  | (name, value) => (name, doubled value)

end

theorem doubledItems_eq (items : List Json) : doubledItems items = items.map doubled := by
  induction items with
  | nil => rfl
  | cons item items ih => rw [doubledItems, ih, List.map_cons]

/-- The names of the fields stay. -/
theorem names_doubledFields (fields : List (String × Json)) :
    (doubledFields fields).map (·.1) = fields.map (·.1) := by
  induction fields with
  | nil => rfl
  | cons field fields ih =>
      rw [doubledFields, List.map_cons, List.map_cons, ih]
      obtain ⟨name, value⟩ := field
      rfl

/-- The first character of a printed value. -/
def StartsValue (c : Char) : Prop :=
  [' ', '\t', '\n', '\r'].contains c = false ∧ c ≠ ']' ∧ c ≠ '\x7d'

instance (c : Char) : Decidable (StartsValue c) := inferInstanceAs (Decidable (_ ∧ _))

theorem startsValue_of_digit {c : Char} (h : c.isDigit = true) : StartsValue c := by
  have hne : ∀ d : Char, d.isDigit = false → c ≠ d := by
    rintro d hd rfl
    rw [h] at hd
    cases hd
  refine ⟨?_, hne _ (by decide), hne _ (by decide)⟩
  simp [hne ' ' (by decide), hne '\t' (by decide), hne '\n' (by decide), hne '\r' (by decide)]

/-- A printed number starts with a digit or a minus sign. -/
theorem numberText_head (q : ℚ) :
    ∃ c cs, (Number.numberText q).toList = c :: cs ∧ (c.isDigit = true ∨ c = '-') := by
  unfold Number.numberText
  split
  · rw [String.toList_append]
    exact ⟨'-', _, rfl, .inr rfl⟩
  · obtain ⟨c, cs, hcons, hc⟩ := Number.decimalText_head q
    exact ⟨c, cs, hcons, .inl hc⟩

theorem stringifyChars_head (value : Json) :
    ∃ c cs, stringifyChars value = c :: cs ∧ StartsValue c := by
  cases value with
  | null =>
      rw [stringifyChars]
      exact ⟨_, _, rfl, by decide⟩
  | bool value =>
      cases value <;> rw [stringifyChars] <;> exact ⟨_, _, rfl, by decide⟩
  | num value =>
      cases value with
      | fin q =>
          obtain ⟨c, cs, hcons, hc⟩ := numberText_head q
          rw [stringifyChars]
          refine ⟨c, cs, hcons, ?_⟩
          rcases hc with hc | rfl
          · exact startsValue_of_digit hc
          · decide
      | nan | negInf | posInf =>
          rw [stringifyChars]
          · exact ⟨_, _, rfl, by decide⟩
          · simp
  | str _ | arr _ | obj _ =>
      rw [stringifyChars]
      exact ⟨_, _, rfl, by decide⟩

/-- A number is read where the text starts like one. -/
theorem readValue_number {fuel : ℕ} {c : Char} {cs : List Char}
    (hc : c.isDigit = true ∨ c = '-') :
    readValue (fuel + 1) (c :: cs) = readNumber (c :: cs) := by
  have hne : ∀ d : Char, d.isDigit = false ∧ d ≠ '-' → c ≠ d := by
    rintro d ⟨hd, hminus⟩ rfl
    rcases hc with hc | hc
    · rw [hc] at hd
      cases hd
    · exact hminus hc
  have hskip : skip (c :: cs) = c :: cs := by
    refine skip_of_head ?_
    simp [hne ' ' (by decide), hne '\t' (by decide), hne '\n' (by decide), hne '\r' (by decide)]
  rw [readValue, hskip]
  split
  all_goals first
    | rfl
    | (rename_i heq; exact absurd (List.cons.inj heq).1 (hne _ (by decide)))

theorem ends_cons {c : Char} (rest : List Char) (h : isNumberChar c = false) :
    Ends (c :: rest) := by
  intro d hd
  rw [← Option.some.inj hd]
  exact h

theorem stringifyItems_head (item : Json) (items : List Json) :
    ∃ c cs, stringifyItems (item :: items) = c :: cs ∧ StartsValue c := by
  obtain ⟨c, cs, hcons, hc⟩ := stringifyChars_head item
  cases items with
  | nil =>
      rw [stringifyItems, hcons]
      exact ⟨c, _, rfl, hc⟩
  | cons second items =>
      rw [stringifyItems, hcons]
      · exact ⟨c, _, rfl, hc⟩
      · simp

theorem stringifyFields_head (field : String × Json) (fields : List (String × Json)) :
    ∃ cs, stringifyFields (field :: fields) = '"' :: cs := by
  obtain ⟨name, value⟩ := field
  cases fields with
  | nil =>
      rw [stringifyFields, stringifyField, quote]
      exact ⟨_, rfl⟩
  | cons second fields =>
      rw [stringifyFields, stringifyField, quote]
      · exact ⟨_, rfl⟩
      · simp

/-- Fields of distinct names are kept as they are. -/
theorem foldl_setField (fields acc : List (String × Json))
    (h : ((acc ++ fields).map (·.1)).Nodup) : fields.foldl setField acc = acc ++ fields := by
  induction fields generalizing acc with
  | nil => simp
  | cons field fields ih =>
      have hnew : acc.any (·.1 = field.1) = false := by
        rw [List.map_append, List.nodup_append] at h
        rw [List.any_eq_false]
        intro other hother heq
        exact h.2.2 other.1 (List.mem_map_of_mem hother) field.1 List.mem_cons_self
          (by simpa using heq)
      rw [List.foldl_cons, setField, hnew, if_neg Bool.false_ne_true, ih]
      · simp
      · simpa using h

theorem objectOf_nodup {fields : List (String × Json)} (h : (fields.map (·.1)).Nodup) :
    objectOf fields = .obj fields := by
  rw [objectOf, foldl_setField fields [] h, List.nil_append]

/-- The text of a value is not empty, so there is fuel for it. -/
theorem exists_fuel (value : Json) {fuel : ℕ} (h : 2 * (stringifyChars value).length ≤ fuel) :
    ∃ n, fuel = n + 1 := by
  obtain ⟨c, cs, hcons, _⟩ := stringifyChars_head value
  rw [hcons, List.length_cons] at h
  exact ⟨fuel - 1, by omega⟩

mutual

/-- A printed value is read back, whatever follows it; the fuel is bounded by its text. -/
theorem readValue_stringify : ∀ value : Json, Faithful value → ∀ {fuel : ℕ} {rest : List Char},
    2 * (stringifyChars value).length ≤ fuel → Ends rest →
      readValue fuel (stringifyChars value ++ rest) = some (doubled value, rest)
  | .null, _, _, _, hfuel, _ => by
      obtain ⟨fuel, rfl⟩ := exists_fuel _ hfuel
      rw [stringifyChars]
      rfl
  | .bool true, _, _, _, hfuel, _ => by
      obtain ⟨fuel, rfl⟩ := exists_fuel _ hfuel
      rw [stringifyChars]
      rfl
  | .bool false, _, _, _, hfuel, _ => by
      obtain ⟨fuel, rfl⟩ := exists_fuel _ hfuel
      rw [stringifyChars]
      rfl
  | .num (.fin q), hfaithful, _, _, hfuel, hrest => by
      obtain ⟨fuel, rfl⟩ := exists_fuel _ hfuel
      rw [Faithful] at hfaithful
      obtain ⟨c, cs, hcons, hc⟩ := numberText_head q
      have hread := readNumber_numberText hfaithful hrest
      rw [hcons] at hread
      rw [stringifyChars, hcons, List.cons_append, readValue_number hc]
      exact hread
  | .num .nan, hfaithful, _, _, _, _ | .num .posInf, hfaithful, _, _, _, _
  | .num .negInf, hfaithful, _, _, _, _ => by
      rw [Faithful] at hfaithful
      · exact hfaithful.elim
      · simp
  | .str s, _, _, _, hfuel, _ => by
      obtain ⟨fuel, rfl⟩ := exists_fuel _ hfuel
      rw [stringifyChars, quote_append, readValue, skip_of_head (by decide)]
      simp only [readString_text, Option.map_some, textOf_units, doubled]
  | .arr [], _, _, _, hfuel, _ => by
      obtain ⟨fuel, rfl⟩ := exists_fuel _ hfuel
      rw [stringifyChars, stringifyItems]
      rfl
  | .arr (item :: items), hfaithful, _, rest, hfuel, _ => by
      obtain ⟨fuel, rfl⟩ := exists_fuel _ hfuel
      rw [Faithful] at hfaithful
      rw [stringifyChars, List.length_cons] at hfuel
      have hread : readItems fuel (stringifyItems (item :: items) ++ rest) = _ :=
        readItems_stringify (item :: items) (List.cons_ne_nil _ _) hfaithful (by omega)
      obtain ⟨c, cs, hcons, hspace, hbracket, _⟩ := stringifyItems_head item items
      rw [hcons, List.cons_append] at hread
      rw [stringifyChars, hcons, List.cons_append, readValue, skip_of_head (by decide)]
      simp only [List.cons_append, skip_of_head hspace]
      split
      · rename_i heq
        exact absurd (List.cons.inj heq).1 hbracket
      · rw [hread]
        rfl
  | .obj [], _, _, _, hfuel, _ => by
      obtain ⟨fuel, rfl⟩ := exists_fuel _ hfuel
      rw [stringifyChars, stringifyFields]
      rfl
  | .obj (field :: fields), hfaithful, _, rest, hfuel, _ => by
      obtain ⟨fuel, rfl⟩ := exists_fuel _ hfuel
      rw [Faithful] at hfaithful
      rw [stringifyChars, List.length_cons] at hfuel
      have hread : readFields fuel (stringifyFields (field :: fields) ++ rest) = _ :=
        readFields_stringify (field :: fields) (List.cons_ne_nil _ _) hfaithful.2 (by omega)
      obtain ⟨cs, hcons⟩ := stringifyFields_head field fields
      rw [hcons, List.cons_append] at hread
      rw [stringifyChars, hcons, List.cons_append, readValue, skip_of_head (by decide)]
      simp only [List.cons_append]
      rw [skip_of_head (by decide)]
      change (readFields fuel ('"' :: (cs ++ rest))).map _ = _
      have hnames : ((doubledFields (field :: fields)).map (·.1)).Nodup := by
        rw [names_doubledFields]
        exact hfaithful.1
      rw [hread, Option.map_some, objectOf_nodup hnames, doubled]

theorem readItems_stringify : ∀ items : List Json, items ≠ [] → FaithfulItems items →
    ∀ {fuel : ℕ} {rest : List Char}, 2 * (stringifyItems items).length ≤ fuel →
      readItems fuel (stringifyItems items ++ rest) = some (doubledItems items, rest)
  | [], hne, _, _, _, _ => absurd rfl hne
  | [item], _, hfaithful, fuel, rest, hfuel => by
      rw [stringifyItems, List.length_append, List.length_singleton] at hfuel
      obtain ⟨fuel, rfl⟩ : ∃ n, fuel = n + 1 := ⟨fuel - 1, by omega⟩
      have hread : readValue fuel (stringifyChars item ++ ']' :: rest) = _ :=
        readValue_stringify item hfaithful.1 (by omega) (ends_cons rest (by decide))
      rw [stringifyItems, List.append_assoc, List.singleton_append, readItems, hread]
      dsimp only
      rw [skip_of_head (by decide)]
      rfl
  | item :: second :: items, _, hfaithful, fuel, rest, hfuel => by
      rw [stringifyItems, List.length_append, List.length_cons] at hfuel
      · obtain ⟨fuel, rfl⟩ : ∃ n, fuel = n + 1 := ⟨fuel - 1, by omega⟩
        have hread : readValue fuel
            (stringifyChars item ++ ',' :: (stringifyItems (second :: items) ++ rest)) = _ :=
          readValue_stringify item hfaithful.1 (by omega) (ends_cons _ (by decide))
        have hmore : readItems fuel (stringifyItems (second :: items) ++ rest) = _ :=
          readItems_stringify (second :: items) (List.cons_ne_nil _ _) hfaithful.2 (by omega)
        rw [stringifyItems, List.append_assoc, List.cons_append, readItems, hread]
        · dsimp only
          rw [skip_of_head (by decide)]
          change (readItems fuel (stringifyItems (second :: items) ++ rest)).map _ = _
          rw [hmore]
          rfl
        · simp
      · simp

theorem readFields_stringify : ∀ fields : List (String × Json), fields ≠ [] →
    FaithfulFields fields → ∀ {fuel : ℕ} {rest : List Char},
      2 * (stringifyFields fields).length ≤ fuel →
        readFields fuel (stringifyFields fields ++ rest) = some (doubledFields fields, rest)
  | [], hne, _, _, _, _ => absurd rfl hne
  | [(name, value)], _, hfaithful, fuel, rest, hfuel => by
      rw [stringifyFields, stringifyField] at hfuel
      simp only [List.length_append, List.length_cons] at hfuel
      obtain ⟨fuel, rfl⟩ : ∃ n, fuel = n + 1 := ⟨fuel - 1, by omega⟩
      have hread : readValue fuel (stringifyChars value ++ '\x7d' :: rest) = _ :=
        readValue_stringify value hfaithful.1 (by omega) (ends_cons rest (by decide))
      rw [stringifyFields, stringifyField]
      simp only [List.append_assoc, List.cons_append, List.nil_append]
      rw [readFields, readName_quote]
      dsimp only
      rw [hread]
      dsimp only
      rw [skip_of_head (by decide)]
      rfl
  | (name, value) :: second :: fields, _, hfaithful, fuel, rest, hfuel => by
      rw [stringifyFields, stringifyField] at hfuel
      · simp only [List.length_append, List.length_cons] at hfuel
        obtain ⟨fuel, rfl⟩ : ∃ n, fuel = n + 1 := ⟨fuel - 1, by omega⟩
        have hread : readValue fuel
            (stringifyChars value ++ ',' :: (stringifyFields (second :: fields) ++ rest)) = _ :=
          readValue_stringify value hfaithful.1 (by omega) (ends_cons _ (by decide))
        have hmore : readFields fuel (stringifyFields (second :: fields) ++ rest) = _ :=
          readFields_stringify (second :: fields) (List.cons_ne_nil _ _) hfaithful.2 (by omega)
        rw [stringifyFields, stringifyField]
        · simp only [List.append_assoc, List.cons_append]
          rw [readFields, readName_quote]
          dsimp only
          rw [hread]
          dsimp only
          rw [skip_of_head (by decide)]
          change (readFields fuel (stringifyFields (second :: fields) ++ rest)).map _ = _
          rw [hmore]
          rfl
        · simp
      · simp

end

/-- Every faithful value is read back from its text, with the doubles of its numbers. -/
theorem parse_stringify {value : Json} (h : Faithful value) :
    parse (stringify value) = some (doubled value) := by
  have hread : readValue (2 * (stringifyChars value).length + 1)
      (stringifyChars value ++ []) = _ :=
    readValue_stringify value h (by omega) fun c hc => by cases hc
  rw [List.append_nil] at hread
  rw [parse, stringify, String.toList_ofList, hread]
  rfl

end SwitchService.Wire
