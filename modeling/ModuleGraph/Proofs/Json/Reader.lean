import Mathlib.Data.List.TakeWhile
import ModuleGraph.Proofs.Json.Grammar

/-!
# Reading JSON

A reader goes through a text once and takes a value from its beginning. The number of its steps is
bounded, and a text needs no more steps than it has letters: whatever the grammar has as a text of
a value is read as that value (`Json.read?_of_isText`). So no text is a text of two values
(`Json.IsText.unique`).
-/

namespace ModuleGraph.Json

/-- Takes something from the beginning of a text and says what is left of the text. -/
abbrev Reader (α : Type) := List Char → Option (α × List Char)

/-- A text without the white space at its beginning. -/
def skip (text : List Char) : List Char :=
  text.dropWhile isSpace

/-! ## Readers -/

/-- Reads the second half of a pair. -/
def readLow? (high : Nat) : Reader Char
  | '\\' :: 'u' :: d₁ :: d₂ :: d₃ :: d₄ :: rest =>
    match unit? d₁ d₂ d₃ d₄ with
    | some low =>
      if high < 0xDC00 ∧ 0xDC00 ≤ low ∧ low < 0xE000 then
        some (Char.ofNat (0x10000 + (high - 0xD800) * 0x400 + (low - 0xDC00)), rest)
      else none
    | none => none
  | _ => none

/-- Reads the digits of a character, and its second half where they are the first. -/
def readUnit? : Reader Char
  | d₁ :: d₂ :: d₃ :: d₄ :: rest =>
    match unit? d₁ d₂ d₃ d₄ with
    | some unit => if unit.isValidChar then some (Char.ofNat unit, rest) else readLow? unit rest
    | none => none
  | _ => none

/-- Reads a character of a string. -/
def readChar? : Reader Char
  | '\\' :: 'u' :: rest => readUnit? rest
  | '\\' :: letter :: rest => (shortEscape? letter).map fun c => (c, rest)
  | c :: rest => if c = '"' ∨ c = '\\' ∨ c.toNat < 32 then none else some (c, rest)
  | [] => none

/-- Reads characters up to a quote. -/
def readChars? : Nat → Reader (List Char)
  | 0, _ => none
  | _ + 1, '"' :: rest => some ([], rest)
  | n + 1, text =>
    match readChar? text with
    | some (c, rest) => (readChars? n rest).map fun (chars, rest) => (c :: chars, rest)
    | none => none

/-- Reads a string between quotes. -/
def readString? (n : Nat) : Reader String
  | '"' :: rest => (readChars? n rest).map fun (chars, rest) => (String.ofList chars, rest)
  | _ => none

section Lists

variable {α : Type}

/-- Reads one value after the other, with a comma between each two, up to a closing bracket. -/
def readFollowing? (read : Reader α) (closing : Char) : Nat → Reader (List α)
  | 0, _ => none
  | n + 1, text =>
    match read (skip text) with
    | some (value, rest) =>
      match skip rest with
      | ',' :: rest =>
        (readFollowing? read closing n rest).map fun (values, rest) => (value :: values, rest)
      | c :: rest => if c = closing then some ([value], rest) else none
      | [] => none
    | none => none

/-- Reads what stands behind an opening bracket. -/
def readEnclosed? (read : Reader α) (closing : Char) (n : Nat) : Reader (List α) := fun text =>
  match skip text with
  | c :: rest => if c = closing then some ([], rest) else readFollowing? read closing n text
  | [] => none

/-- Reads a name and a value with a colon between them. -/
def readField? (readName : Reader String) (read : Reader α) : Reader (String × α) := fun text =>
  match readName text with
  | some (key, rest) =>
    match skip rest with
    | ':' :: rest => (read (skip rest)).map fun (value, rest) => ((key, value), rest)
    | _ => none
  | none => none

end Lists

/-- Reads a value. -/
def readValue? : Nat → Reader Json
  | 0, _ => none
  | _ + 1, 'n' :: 'u' :: 'l' :: 'l' :: rest => some (.null, rest)
  | n + 1, '[' :: rest =>
    (readEnclosed? (readValue? n) ']' n rest).map fun (items, rest) => (.array items, rest)
  | n + 1, '\x7b' :: rest =>
    (readEnclosed? (readField? (readString? n) (readValue? n)) '\x7d' n rest).map
      fun (fields, rest) => (.object fields, rest)
  | n + 1, text => (readString? n text).map fun (text, rest) => (.string text, rest)

/-- The value that a text is. -/
def read? (text : String) : Option Json :=
  match readValue? (text.toList.length + 1) (skip text.toList) with
  | some (json, rest) => if skip rest = [] then some json else none
  | none => none

/-! ## White space -/

section Skip

variable {blanks text rest : List Char} {c : Char}

theorem Blank.skip_append (blank : Blank blanks) : skip (blanks ++ rest) = skip rest :=
  List.dropWhile_append_of_pos blank

theorem Blank.skip_eq (blank : Blank blanks) : skip blanks = [] :=
  List.dropWhile_eq_nil_iff.mpr blank

theorem skip_cons (solid : isSpace c = false) : skip (c :: rest) = c :: rest :=
  List.dropWhile_cons_of_neg (Bool.eq_false_iff.mp solid)

/-- The brackets that end arrays and objects. -/
def IsClosing (c : Char) : Prop :=
  c = ']' ∨ c = '\x7d'

theorem IsClosing.isSpace_eq (h : IsClosing c) : isSpace c = false := by
  rcases h with rfl | rfl <;> rfl

theorem IsClosing.ne_comma (h : IsClosing c) : c ≠ ',' := by
  rcases h with rfl | rfl <;> decide

/-- A text that begins as a value or a field does. -/
def Opens (text : List Char) : Prop :=
  ∃ first others, text = first :: others ∧ isSpace first = false ∧ ¬ IsClosing first

theorem Opens.append (opens : Opens text) (rest : List Char) : Opens (text ++ rest) := by
  obtain ⟨first, others, rfl, begins⟩ := opens
  exact ⟨first, others ++ rest, rfl, begins⟩

theorem Opens.skip_append (opens : Opens text) : skip (text ++ rest) = text ++ rest := by
  obtain ⟨first, others, rfl, solid, -⟩ := opens
  exact skip_cons solid

/-- Behind its white space such a text begins in the same way. -/
theorem Opens.skip_padded (opens : Opens text) (blank : Blank blanks) (rest : List Char) :
    Opens (skip (blanks ++ (text ++ rest))) := by
  rw [blank.skip_append, opens.skip_append]
  exact opens.append rest

end Skip

/-! ## Strings -/

section Strings

variable {c : Char} {chars spelled : List Char} {text : String} {n : Nat}

theorem readChar?_of_spells (h : SpellsChar c spelled) (rest : List Char) :
    readChar? (spelled ++ rest) = some (c, rest) := by
  cases h with
  | plain not_quote not_backslash printable =>
      simp [readChar?, not_quote, not_backslash, printable]
  | @short letter stands =>
      have not_u : letter ≠ 'u' := by
        rintro rfl
        cases stands
      rw [List.cons_append, List.cons_append, List.nil_append, Json.readChar?, stands]
      · rfl
      · exact not_u
  | unit stands =>
      have valid : c.toNat.isValidChar := c.valid
      simp [readChar?, readUnit?, stands, valid]
  | @pair _ _ _ _ _ _ _ _ high low in_high in_low first second stands =>
      -- The first half is no character by itself, so the reader goes on to the second.
      have half : ¬ (0xD800 + high).isValidChar := by
        unfold Nat.isValidChar
        omega
      have known : Char.ofNat (0x10000 + high * 0x400 + low) = c := by
        rw [← stands, Char.ofNat_toNat]
      simp [readChar?, readUnit?, readLow?, first, second, half, known]
      omega

theorem SpellsChar.head_ne_quote (h : SpellsChar c spelled) : ∃ first others,
    spelled = first :: others ∧ first ≠ '"' := by
  cases h with
  | plain not_quote => exact ⟨_, _, rfl, not_quote⟩
  | short => exact ⟨_, _, rfl, by decide⟩
  | unit => exact ⟨_, _, rfl, by decide⟩
  | pair => exact ⟨_, _, rfl, by decide⟩

theorem readChars?_of_spells (h : SpellsChars chars spelled) (short : spelled.length < n)
    (rest : List Char) :
    readChars? n (spelled ++ '"' :: rest) = some (chars, rest) := by
  induction h generalizing n with
  | nil =>
      obtain ⟨n, rfl⟩ := Nat.exists_eq_add_one_of_ne_zero (Nat.ne_zero_of_lt short)
      rfl
  | @cons c chars spelled following first others ih =>
      obtain ⟨n, rfl⟩ := Nat.exists_eq_add_one_of_ne_zero (Nat.ne_zero_of_lt short)
      obtain ⟨head, tail, rfl, not_quote⟩ := first.head_ne_quote
      have short' : following.length < n := by
        simp at short
        omega
      have one := readChar?_of_spells first (following ++ '"' :: rest)
      rw [List.cons_append] at one
      simp [readChars?, not_quote, one, ih short']

theorem SpellsString.exists_eq_cons (h : SpellsString text spelled) :
    ∃ inner, spelled = '"' :: inner := by
  cases h
  exact ⟨_, rfl⟩

theorem readString?_of_spells (h : SpellsString text spelled) (short : spelled.length < n + 1)
    (rest : List Char) :
    readString? n (spelled ++ rest) = some (text, rest) := by
  cases h with
  | quotes inner =>
      have whole := readChars?_of_spells inner (n := n) (by simp at short; omega) rest
      simp [readString?, whole]

end Strings

/-! ## Lists between brackets -/

/-- What a reader does with a value: it reads each spelling that is short enough, whatever stands
behind it. -/
def Reads {α : Type} (spells : α → List Char → Prop) (read : Reader α) (bound : Nat) (value : α) :
    Prop :=
  ∀ text, spells value text → text.length < bound →
    ∀ rest, read (text ++ rest) = some (value, rest)

section Lists

variable {α : Type} {spells : α → List Char → Prop} {read : Reader α} {bound n : Nat} {value : α}
variable {values : List α} {before text after rest : List Char} {opening closing : Char}

theorem SpellsString.opens {name : String} (h : SpellsString name text) : Opens text := by
  obtain ⟨spelled, rfl⟩ := h.exists_eq_cons
  exact ⟨'"', spelled, rfl, rfl, by simp [IsClosing]⟩

theorem SpellsField.opens {field : String × α} (h : SpellsField spells field text) :
    Opens text := by
  cases h with
  | colon named =>
      obtain ⟨first, others, rfl, solid⟩ := named.opens
      exact ⟨first, _, rfl, solid⟩

theorem readFollowing?_closing (value_read : read (skip text) = some (value, after))
    (closed : skip after = closing :: rest) (no_comma : closing ≠ ',') :
    readFollowing? read closing (n + 1) text = some ([value], rest) := by
  simp only [readFollowing?, value_read, closed, if_pos]

theorem readFollowing?_comma (value_read : read (skip text) = some (value, after))
    (comma : skip after = ',' :: rest) :
    readFollowing? read closing (n + 1) text =
      (readFollowing? read closing n rest).map fun (values, rest) => (value :: values, rest) := by
  simp only [readFollowing?, value_read, comma]

variable (begins : ∀ {value text}, spells value text → Opens text)
include begins

theorem Reads.field {key : String} (reads : Reads spells read bound value) :
    Reads (SpellsField spells) (readField? (readString? bound) read) bound (key, value) := by
  intro text h short rest
  cases h with
  | @colon _ _ name before after text named blank_before blank_after spelled =>
      simp only [List.length_append, List.length_cons] at short
      have name_read := readString?_of_spells named (n := bound) (by omega)
        (before ++ ':' :: (after ++ (text ++ rest)))
      have value_read := reads text spelled (by omega) rest
      have colon : isSpace ':' = false := rfl
      simp [readField?, name_read, blank_before.skip_append, skip_cons colon,
        blank_after.skip_append, (begins spelled).skip_append, value_read]

/-- A spelling is read behind white space too. -/
theorem Reads.padded (reads : Reads spells read bound value) (blank : Blank before)
    (spelled : spells value text) (short : text.length < bound) (rest : List Char) :
    read (skip (before ++ (text ++ rest))) = some (value, rest) := by
  rw [blank.skip_append, (begins spelled).skip_append, reads text spelled short rest]

/-- Behind its white space a list starts as its first value does. -/
theorem Listed.opens (h : Listed spells values text) (rest : List Char) :
    Opens (skip (text ++ rest)) := by
  cases h with
  | last blank_before spelled =>
      rw [List.append_assoc, List.append_assoc]
      exact (begins spelled).skip_padded blank_before _
  | more blank_before spelled =>
      rw [List.append_assoc, List.append_assoc]
      exact (begins spelled).skip_padded blank_before _

theorem readFollowing?_of_listed (h : Listed spells values text)
    (reads : ∀ value ∈ values, Reads spells read bound value)
    (closes : IsClosing closing) (short : text.length < bound) (enough : text.length < n)
    (rest : List Char) :
    readFollowing? read closing n (text ++ closing :: rest) = some (values, rest) := by
  induction h generalizing n with
  | @last value before text after blank_before spelled blank_after =>
      obtain ⟨n, rfl⟩ := Nat.exists_eq_add_one_of_ne_zero (Nat.ne_zero_of_lt enough)
      simp only [List.length_append] at short
      have value_read := (reads value (List.mem_singleton_self value)).padded begins blank_before
        spelled (by omega) (after ++ closing :: rest)
      have closed : skip (after ++ closing :: rest) = closing :: rest := by
        rw [blank_after.skip_append, skip_cons closes.isSpace_eq]
      rw [List.append_assoc, List.append_assoc]
      exact readFollowing?_closing value_read closed closes.ne_comma
  | @more value values before text after following blank_before spelled blank_after others ih =>
      obtain ⟨n, rfl⟩ := Nat.exists_eq_add_one_of_ne_zero (Nat.ne_zero_of_lt enough)
      simp only [List.length_append, List.length_cons] at short enough
      obtain ⟨reads_first, reads_others⟩ := List.forall_mem_cons.mp reads
      have value_read := reads_first.padded begins blank_before spelled (by omega)
        (after ++ ',' :: (following ++ closing :: rest))
      have comma : skip (after ++ ',' :: (following ++ closing :: rest)) =
          ',' :: (following ++ closing :: rest) := by
        rw [blank_after.skip_append, skip_cons rfl]
      simp only [List.append_assoc, List.cons_append]
      rw [readFollowing?_comma value_read comma, ih reads_others (by omega) (by omega)]
      rfl

/-- What is read behind an opening bracket, with as many steps as the text has letters. -/
theorem readEnclosed?_of_enclosed (h : Enclosed spells opening closing values text)
    (reads : ∀ value ∈ values, Reads spells read bound value)
    (closes : IsClosing closing) (short : text.length < bound + 1) (rest : List Char) :
    ∃ inner, text = opening :: inner ∧
      readEnclosed? read closing bound (inner ++ rest) = some (values, rest) := by
  cases h with
  | @empty blanks blank =>
      refine ⟨blanks ++ [closing], rfl, ?_⟩
      simp [readEnclosed?, blank.skip_append, skip_cons closes.isSpace_eq]
  | @items _ inner listed =>
      simp only [List.length_append, List.length_cons, List.length_nil] at short
      obtain ⟨first, others, starts, -, open_first⟩ := listed.opens begins (closing :: rest)
      have not_closed : first ≠ closing := fun same => open_first (same ▸ closes)
      have within : inner.length < bound := by omega
      have whole := readFollowing?_of_listed begins listed reads closes within within rest
      refine ⟨inner ++ [closing], rfl, ?_⟩
      rw [List.append_assoc, List.singleton_append]
      simp only [readEnclosed?, starts, not_closed, if_false, whole]

end Lists

/-! ## Values -/

section Values

variable {json : Json} {text : List Char}

theorem Spells.opens (h : Spells json text) : Opens text := by
  cases h with
  | null => exact ⟨_, _, rfl, rfl, by simp [IsClosing]⟩
  | string quoted => exact quoted.opens
  | array enclosed => cases enclosed <;> exact ⟨_, _, rfl, rfl, by simp [IsClosing]⟩
  | object enclosed => cases enclosed <;> exact ⟨_, _, rfl, rfl, by simp [IsClosing]⟩

/-- Every spelling of a value is read as it. -/
theorem readValue?_reads (json : Json) (n : Nat) : Reads Spells (readValue? n) n json := by
  -- A step is spent on the first letter, and what a value is made of is shorter by at least that.
  induction json using induction_on_parts generalizing n with
  | null =>
      intro text h short rest
      obtain ⟨n, rfl⟩ := Nat.exists_eq_add_one_of_ne_zero (Nat.ne_zero_of_lt short)
      cases h
      rfl
  | string text =>
      intro spelled h short rest
      obtain ⟨n, rfl⟩ := Nat.exists_eq_add_one_of_ne_zero (Nat.ne_zero_of_lt short)
      cases h with
      | string quoted =>
          have whole := readString?_of_spells quoted short rest
          obtain ⟨spelled, rfl⟩ := quoted.exists_eq_cons
          rw [List.cons_append] at whole ⊢
          simp [readValue?, whole]
  | array items ih =>
      intro text h short rest
      obtain ⟨n, rfl⟩ := Nat.exists_eq_add_one_of_ne_zero (Nat.ne_zero_of_lt short)
      cases h with
      | array enclosed =>
          have reads : ∀ item ∈ items, Reads Spells (readValue? n) n item :=
            fun item listed => ih item listed n
          obtain ⟨inner, rfl, whole⟩ :=
            readEnclosed?_of_enclosed Spells.opens enclosed reads (.inl rfl) short rest
          rw [List.cons_append, readValue?, whole]
          rfl
  | object fields ih =>
      intro text h short rest
      obtain ⟨n, rfl⟩ := Nat.exists_eq_add_one_of_ne_zero (Nat.ne_zero_of_lt short)
      cases h with
      | object enclosed =>
          have reads : ∀ field ∈ fields, Reads (SpellsField Spells)
              (readField? (readString? n) (readValue? n)) n field :=
            fun field listed => (ih field listed n).field Spells.opens
          obtain ⟨inner, rfl, whole⟩ :=
            readEnclosed?_of_enclosed SpellsField.opens enclosed reads (.inr rfl) short rest
          rw [List.cons_append, readValue?, whole]
          rfl

/-- A text of a value is read as that value. -/
theorem read?_of_isText {text : String} (h : IsText json text) : read? text = some json := by
  obtain ⟨before, spelled, after, blank_before, spells, blank_after, whole⟩ := h
  have short : spelled.length < text.toList.length + 1 := by
    simp only [whole, List.length_append]
    omega
  have value_read := (readValue?_reads json _).padded Spells.opens blank_before spells short after
  rw [← whole] at value_read
  simp only [read?, value_read, blank_after.skip_eq, if_pos]

example : read? " [null, \"\\ud83d\\ude00\"]" = some (.array [.null, .string "😀"]) := by
  rfl

/-- No text is a text of two values. -/
theorem IsText.unique {other : Json} {text : String} (h : IsText json text)
    (h_other : IsText other text) : json = other :=
  Option.some.inj ((read?_of_isText h).symm.trans (read?_of_isText h_other))

end Values

end ModuleGraph.Json
