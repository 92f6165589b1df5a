import SwitchService.Consumer.OutcomeEvent
import SwitchService.Foundation.EventStream
import SwitchService.Foundation.NumberText

set_option autoImplicit false

/-!
# Wire: the text of a JSON value

`JSON.stringify`.  A string is printed with its quotation marks, backslashes and control
characters escaped and every other character as it is; a number as `String` prints it, and
`null` where it is not finite.  So a printed value is one line, whatever its strings hold.
-/

namespace SwitchService.Wire

open SwitchService.Foundation SwitchService.Consumer

/-! ## Printing -/

/-- The escape of a control character that has no letter. -/
def hexEscape (n : ℕ) : List Char :=
  ['\\', 'u', '0', '0', Nat.digitChar (n / 16), Nat.digitChar (n % 16)]

/-- A character inside a string. -/
def quoteChar (c : Char) : List Char :=
  if c = '"' then ['\\', '"']
  else if c = '\\' then ['\\', '\\']
  else if c = '\x08' then ['\\', 'b']
  else if c = '\x0c' then ['\\', 'f']
  else if c = '\n' then ['\\', 'n']
  else if c = '\r' then ['\\', 'r']
  else if c = '\t' then ['\\', 't']
  else if c.toNat < 0x20 then hexEscape c.toNat
  else [c]

/-- A string between its marks. -/
def quote (s : String) : List Char := '"' :: (s.toList.flatMap quoteChar ++ ['"'])

mutual

/-- The characters of a value; a number that is not finite prints as `null`. -/
def stringifyChars : Json → List Char
  | .null => "null".toList
  | .bool true => "true".toList
  | .bool false => "false".toList
  | .num (.fin q) => (Number.numberText q).toList
  | .num _ => "null".toList
  | .str s => quote s
  | .arr items => '[' :: stringifyItems items
  | .obj fields => '{' :: stringifyFields fields

/-- The items of an array and its closing bracket. -/
def stringifyItems : List Json → List Char
  | [] => [']']
  | [item] => stringifyChars item ++ [']']
  | item :: items => stringifyChars item ++ ',' :: stringifyItems items

/-- The fields of an object and its closing brace. -/
def stringifyFields : List (String × Json) → List Char
  | [] => ['}']
  | [field] => stringifyField field ++ ['}']
  | field :: fields => stringifyField field ++ ',' :: stringifyFields fields

/-- The name, a colon and the value. -/
def stringifyField : String × Json → List Char
  | (name, value) => quote name ++ ':' :: stringifyChars value

end

/-- `JSON.stringify`. -/
def stringify (value : Json) : String := String.ofList (stringifyChars value)

/-! ## The printed text is one line -/

theorem unbroken_quoteChar (c : Char) : EventStream.Unbroken (quoteChar c) := by
  unfold quoteChar
  split_ifs with hquote hslash hb hf hn hr ht hcontrol
  all_goals try decide
  · -- The digits of a control character's number.
    have hdigit : ∀ n < 16, Nat.digitChar n ≠ '\n' ∧ Nat.digitChar n ≠ '\r' := by decide
    unfold hexEscape
    have hprefix : EventStream.Unbroken ['\\', 'u', '0', '0'] := by decide
    exact hprefix.append (.cons (hdigit _ (by omega)) (.cons (hdigit _ (by omega)) (by decide)))
  · exact .cons ⟨hn, hr⟩ (by decide)

theorem unbroken_quote (s : String) : EventStream.Unbroken (quote s) := by
  refine .cons (by decide) (.append (fun d hd => ?_) (by decide))
  obtain ⟨c, _, hc⟩ := List.mem_flatMap.mp hd
  exact unbroken_quoteChar c d hc

theorem unbroken_numberText (q : ℚ) : EventStream.Unbroken (Number.numberText q).toList := by
  intro d hd
  have hnumeral := Number.isNumeral_numberText q d hd
  constructor
  · rintro rfl
    exact absurd hnumeral (by decide)
  · rintro rfl
    exact absurd hnumeral (by decide)

mutual

theorem unbroken_stringify : ∀ value : Json, EventStream.Unbroken (stringifyChars value)
  | .null => by
      rw [stringifyChars]
      decide
  | .bool true => by
      rw [stringifyChars]
      decide
  | .bool false => by
      rw [stringifyChars]
      decide
  | .num (.fin q) => by
      rw [stringifyChars]
      exact unbroken_numberText q
  | .num .nan | .num .posInf | .num .negInf => by
      rw [stringifyChars]
      · decide
      · simp
  | .str s => by
      rw [stringifyChars]
      exact unbroken_quote s
  | .arr items => by
      rw [stringifyChars]
      exact .cons (by decide) (unbroken_items items)
  | .obj fields => by
      rw [stringifyChars]
      exact .cons (by decide) (unbroken_fields fields)

theorem unbroken_items : ∀ items : List Json, EventStream.Unbroken (stringifyItems items)
  | [] => by
      rw [stringifyItems]
      decide
  | [item] => by
      rw [stringifyItems]
      exact .append (unbroken_stringify item) (by decide)
  | item :: second :: items => by
      rw [stringifyItems]
      · exact .append (unbroken_stringify item)
          (.cons (by decide) (unbroken_items (second :: items)))
      · simp

theorem unbroken_fields : ∀ fields : List (String × Json),
    EventStream.Unbroken (stringifyFields fields)
  | [] => by
      rw [stringifyFields]
      decide
  | [field] => by
      rw [stringifyFields]
      exact .append (unbroken_field field) (by decide)
  | field :: second :: fields => by
      rw [stringifyFields]
      · exact .append (unbroken_field field)
          (.cons (by decide) (unbroken_fields (second :: fields)))
      · simp

theorem unbroken_field : ∀ field : String × Json,
    EventStream.Unbroken (stringifyField field)
  | (name, value) => by
      rw [stringifyField]
      exact .append (unbroken_quote name)
        (.cons (by decide) (unbroken_stringify value))

end

/-- A printed value ends no line, whatever its strings hold. -/
theorem oneLine_stringify (value : Json) : EventStream.OneLine (stringify value) := by
  unfold EventStream.OneLine stringify
  rw [String.toList_ofList]
  exact unbroken_stringify value

example : stringify (.obj [("a\n", .arr [.num (.fin (-1 / 2)), .bool true]), ("b", .null)]) =
    "\x7b\"a\\n\":[-0.5,true],\"b\":null\x7d" := by decide +kernel

end SwitchService.Wire
