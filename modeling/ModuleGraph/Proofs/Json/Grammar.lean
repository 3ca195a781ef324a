import Mathlib.Data.List.Basic
import ModuleGraph.Json

/-!
# The grammar of JSON

How a value may be spelled: with white space wherever it is allowed, and in strings with the short
escapes and those of four hexadecimal digits, two of which stand for one character that four digits
cannot name. Numbers and truth values are left out, as they are in `Json`.

The indented form of a value is one of its spellings (`Json.spells_pretty`), and what is written of
it is that value and nothing else (`Json.isText_text`).
-/

namespace ModuleGraph.Json

/-! ## White space -/

/-- The characters that may stand around values, brackets, colons and commas. -/
def isSpace (c : Char) : Bool :=
  c = ' ' || c = '\n' || c = '\r' || c = '\t'

/-- A text of white space only. -/
def Blank (text : List Char) : Prop :=
  ∀ c ∈ text, isSpace c = true

theorem blank_nil : Blank [] := by
  intro c listed
  cases listed

theorem blank_singleton : Blank [' '] := by
  intro c listed
  rw [List.mem_singleton.mp listed]
  rfl

theorem blank_newline (depth : Nat) : Blank (newline depth) := by
  intro c listed
  rcases List.mem_cons.mp listed with rfl | blank
  · rfl
  · rw [List.eq_of_mem_replicate blank]
    rfl

/-! ## Characters in strings -/

/-- The value of a hexadecimal digit. -/
def hexValue? (c : Char) : Option Nat :=
  if '0' ≤ c ∧ c ≤ '9' then some (c.toNat - 48)
  else if 'a' ≤ c ∧ c ≤ 'f' then some (c.toNat - 87)
  else if 'A' ≤ c ∧ c ≤ 'F' then some (c.toNat - 55)
  else none

/-- The number that four hexadecimal digits stand for. -/
def unit? (first second third fourth : Char) : Option Nat := do
  let first ← hexValue? first
  let second ← hexValue? second
  let third ← hexValue? third
  let fourth ← hexValue? fourth
  some (first * 4096 + second * 256 + third * 16 + fourth)

/-- What a letter behind a backslash stands for. -/
def shortEscape? : Char → Option Char
  | '"' => some '"'
  | '\\' => some '\\'
  | '/' => some '/'
  | 'b' => some '\x08'
  | 'f' => some '\x0c'
  | 'n' => some '\n'
  | 'r' => some '\r'
  | 't' => some '\t'
  | _ => none

/-- How a character may be spelled in a string. -/
inductive SpellsChar : Char → List Char → Prop
  | plain {c : Char} (not_quote : c ≠ '"') (not_backslash : c ≠ '\\') (printable : 32 ≤ c.toNat) :
      SpellsChar c [c]
  | short {c letter : Char} (stands : shortEscape? letter = some c) : SpellsChar c ['\\', letter]
  | unit {c d₁ d₂ d₃ d₄ : Char} (stands : unit? d₁ d₂ d₃ d₄ = some c.toNat) :
      SpellsChar c ['\\', 'u', d₁, d₂, d₃, d₄]
  | pair {c d₁ d₂ d₃ d₄ e₁ e₂ e₃ e₄ : Char} {high low : Nat} (in_high : high < 0x400)
      (in_low : low < 0x400) (first : unit? d₁ d₂ d₃ d₄ = some (0xD800 + high))
      (second : unit? e₁ e₂ e₃ e₄ = some (0xDC00 + low))
      (stands : c.toNat = 0x10000 + high * 0x400 + low) :
      SpellsChar c ['\\', 'u', d₁, d₂, d₃, d₄, '\\', 'u', e₁, e₂, e₃, e₄]

theorem hexValue?_hexDigit {n : Nat} (small : n < 16) : hexValue? (hexDigit n) = some n := by
  revert n
  decide

/-- A character stands in the indented form as the grammar has it. -/
theorem spellsChar_escaped (c : Char) : SpellsChar c (escaped c) := by
  -- The letters that have an escape of their own, then the rest of the control characters.
  unfold escaped
  split_ifs with quote backslash newline carriage tab backspace feed control
  · exact .short (congrArg some quote.symm)
  · exact .short (congrArg some backslash.symm)
  · exact .short (congrArg some newline.symm)
  · exact .short (congrArg some carriage.symm)
  · exact .short (congrArg some tab.symm)
  · exact .short (congrArg some backspace.symm)
  · exact .short (congrArg some feed.symm)
  · refine .unit ?_
    have upper := hexValue?_hexDigit (n := c.toNat / 16) (by omega)
    have lower := hexValue?_hexDigit (n := c.toNat % 16) (by omega)
    have zero : hexValue? '0' = some 0 := rfl
    simp only [unit?, upper, lower, zero, Option.bind_eq_bind, Option.bind_some, Option.some.injEq]
    omega
  · exact .plain quote backslash (Nat.le_of_not_lt control)

/-! ## Strings -/

/-- Characters one after the other, each as it may be spelled. -/
inductive SpellsChars : List Char → List Char → Prop
  | nil : SpellsChars [] []
  | cons {c : Char} {chars spelled following : List Char} (first : SpellsChar c spelled)
      (rest : SpellsChars chars following) : SpellsChars (c :: chars) (spelled ++ following)

/-- A string between quotes. -/
inductive SpellsString : String → List Char → Prop
  | quotes {text : String} {spelled : List Char} (inner : SpellsChars text.toList spelled) :
      SpellsString text ('"' :: spelled ++ ['"'])

theorem spellsString_quoted (text : String) : SpellsString text (quoted text) := by
  refine .quotes ?_
  induction text.toList with
  | nil => exact .nil
  | cons c chars ih =>
      rw [List.flatMap_cons]
      exact .cons (spellsChar_escaped c) ih

/-! ## Lists between brackets -/

section Lists

variable {α : Type} (spells : α → List Char → Prop)

/-- Values with a comma between each two, and white space around each of them. -/
inductive Listed : List α → List Char → Prop
  | last {value : α} {before text after : List Char} (blank_before : Blank before)
      (spelled : spells value text) (blank_after : Blank after) :
      Listed [value] (before ++ (text ++ after))
  | more {value : α} {values : List α} {before text after following : List Char}
      (blank_before : Blank before) (spelled : spells value text) (blank_after : Blank after)
      (rest : Listed values following) :
      Listed (value :: values) (before ++ (text ++ (after ++ ',' :: following)))

/-- Values between brackets. -/
inductive Enclosed (opening closing : Char) : List α → List Char → Prop
  | empty {blanks : List Char} (blank : Blank blanks) :
      Enclosed opening closing [] (opening :: (blanks ++ [closing]))
  | items {values : List α} {text : List Char} (listed : Listed spells values text) :
      Enclosed opening closing values (opening :: (text ++ [closing]))

/-- A name and a value with a colon between them. -/
inductive SpellsField : String × α → List Char → Prop
  | colon {key : String} {value : α} {name before after text : List Char}
      (named : SpellsString key name) (blank_before : Blank before) (blank_after : Blank after)
      (spelled : spells value text) :
      SpellsField (key, value) (name ++ (before ++ ':' :: (after ++ text)))

end Lists

/-! ## Values -/

/-- How a value may be spelled. -/
inductive Spells : Json → List Char → Prop
  | null : Spells .null ['n', 'u', 'l', 'l']
  | string {text : String} {spelled : List Char} (quoted : SpellsString text spelled) :
      Spells (.string text) spelled
  | array {items : List Json} {spelled : List Char}
      (enclosed : Enclosed Spells '[' ']' items spelled) : Spells (.array items) spelled
  | object {fields : List (String × Json)} {spelled : List Char}
      (enclosed : Enclosed (SpellsField Spells) '\x7b' '\x7d' fields spelled) :
      Spells (.object fields) spelled

/-- A text that is one value, with nothing around it but white space. -/
def IsText (json : Json) (text : String) : Prop :=
  ∃ before spelled after, Blank before ∧ Spells json spelled ∧ Blank after ∧
    text.toList = before ++ (spelled ++ after)

/-- What holds of a value because it holds of its items or of the values of its fields. -/
theorem induction_on_parts {motive : Json → Prop} (null : motive .null)
    (string : ∀ text, motive (.string text))
    (array : ∀ items, (∀ item ∈ items, motive item) → motive (.array items))
    (object : ∀ fields, (∀ field ∈ fields, motive field.2) → motive (.object fields))
    (json : Json) : motive json := by
  refine @Json.rec motive (fun items => ∀ item ∈ items, motive item)
    (fun fields => ∀ field ∈ fields, motive field.2) (fun field => motive field.2)
    null string array object ?_ ?_ ?_ ?_ ?_ json
  · simp
  · intro item items holds ih
    exact List.forall_mem_cons.mpr ⟨holds, ih⟩
  · simp
  · intro field fields holds ih
    exact List.forall_mem_cons.mpr ⟨holds, ih⟩
  · intro key value holds
    exact holds

/-! ## The indented form -/

theorem prettyItems_eq_map (depth : Nat) (items : List Json) :
    prettyItems depth items = items.map (pretty depth) := by
  induction items with
  | nil => rfl
  | cons item items ih => rw [prettyItems, ih, List.map_cons]

/-- A field as it stands in the indented form. -/
def prettyField (depth : Nat) (field : String × Json) : List Char :=
  quoted field.1 ++ [':', ' '] ++ field.2.pretty depth

theorem prettyFields_eq_map (depth : Nat) (fields : List (String × Json)) :
    prettyFields depth fields = fields.map (prettyField depth) := by
  induction fields with
  | nil => rfl
  | cons field fields ih => rw [prettyFields, ih, List.map_cons, prettyField]

theorem listed_of_spells {α : Type} {spells : α → List Char → Prop} {write : α → List Char}
    {blanks after : List Char} (blank : Blank blanks) (blank_after : Blank after) (value : α)
    (values : List α) (spelled : ∀ each ∈ value :: values, spells each (write each)) :
    Listed spells (value :: values)
      ([','].intercalate ((value :: values).map fun each => blanks ++ write each) ++ after) := by
  induction values generalizing value with
  | nil =>
      have whole := Listed.last blank (spelled value (List.mem_singleton_self value)) blank_after
      simpa [List.intercalate] using whole
  | cons second values ih =>
      obtain ⟨first, rest⟩ := List.forall_mem_cons.mp spelled
      have whole := Listed.more blank first blank_nil (ih second rest)
      simpa [List.intercalate] using whole

/-- What is written between brackets spells the list of what each line of it spells. -/
theorem enclosed_of_spells {α : Type} {spells : α → List Char → Prop} {write : α → List Char}
    (opening closing : Char) (depth : Nat) (values : List α)
    (spelled : ∀ value ∈ values, spells value (write value)) :
    Enclosed spells opening closing values (enclosed opening closing depth (values.map write)) := by
  cases values with
  | nil => exact .empty blank_nil
  | cons value values =>
      have listed := listed_of_spells (blank_newline (depth + 1)) (blank_newline depth) value values
        spelled
      have whole : Enclosed spells opening closing _ _ := .items listed
      simpa [enclosed, Function.comp_def] using whole

theorem spells_pretty (json : Json) : ∀ depth, Spells json (json.pretty depth) := by
  induction json using induction_on_parts with
  | null => exact fun _ => .null
  | string text => exact fun _ => .string (spellsString_quoted text)
  | array items ih =>
      intro depth
      rw [pretty, prettyItems_eq_map]
      refine .array (enclosed_of_spells _ _ depth items ?_)
      intro item listed
      exact ih item listed (depth + 1)
  | object fields ih =>
      intro depth
      rw [pretty, prettyFields_eq_map]
      refine .object (enclosed_of_spells _ _ depth fields ?_)
      rintro ⟨key, value⟩ listed
      have whole := SpellsField.colon (spellsString_quoted key) blank_nil blank_singleton
        (ih _ listed (depth + 1))
      simpa [prettyField] using whole

/-- What is written of a value is a text of it. -/
theorem isText_text (json : Json) : IsText json (json.text ++ "\n") := by
  refine ⟨[], json.pretty 0, newline 0, blank_nil, spells_pretty json 0, blank_newline 0, ?_⟩
  simp [text, newline]

end ModuleGraph.Json
