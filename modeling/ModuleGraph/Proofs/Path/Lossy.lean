import Mathlib.Tactic.SplitIfs
import ModuleGraph.Path.Bytes

/-!
# Texts read back from their bytes

The bytes of a character are read as the character, whatever comes behind them
(`Utf8.charactersFrom_encodeChar`). So a text is read back from its bytes as it was
(`Utf8.lossy_encode`), and no two texts have the same bytes. The byte of a slash is in no other
character.
-/

namespace ModuleGraph.Utf8

variable {byte : UInt8} {beginning : Beginning} {rest : List UInt8}

/-! ## One byte -/

theorem charactersFrom_ascii (small : byte.toNat < 0x80) :
    charactersFrom none (byte :: rest) = Char.ofNat byte.toNat :: charactersFrom none rest := by
  rw [charactersFrom, first, if_pos small]
  rfl

theorem charactersFrom_ofByte? (h : Beginning.ofByte? byte = some beginning) :
    charactersFrom none (byte :: rest) = charactersFrom (some beginning) rest := by
  have large : ¬ byte.toNat < 0x80 := by
    intro small
    rw [Beginning.ofByte?, if_pos (by omega)] at h
    cases h
  rw [charactersFrom, first, if_neg large, h]
  rfl

/-- A byte within the bounds that is not the last one makes the beginning longer. -/
theorem charactersFrom_next (least : beginning.least ≤ byte.toNat)
    (greatest : byte.toNat ≤ beginning.greatest) (more : beginning.missing ≠ 1) :
    charactersFrom (some beginning) (byte :: rest) =
      charactersFrom (some
        { number := 64 * beginning.number + byte.toNat % 64
          missing := beginning.missing - 1 }) rest := by
  simp [charactersFrom, Beginning.next, least, greatest, more]

theorem charactersFrom_last (least : beginning.least ≤ byte.toNat)
    (greatest : byte.toNat ≤ beginning.greatest) (last : beginning.missing = 1) :
    charactersFrom (some beginning) (byte :: rest) =
      Char.ofNat (64 * beginning.number + byte.toNat % 64) :: charactersFrom none rest := by
  simp [charactersFrom, Beginning.next, least, greatest, last]

/-! ## One character -/

/-- A byte that can be the last one of a character. -/
def Continues (byte : UInt8) : Prop :=
  0x80 ≤ byte.toNat ∧ byte.toNat ≤ 0xBF

variable {second third fourth : UInt8}

theorem charactersFrom_two (least : 0xC2 ≤ byte.toNat) (greatest : byte.toNat < 0xE0)
    (last : Continues second) :
    charactersFrom none (byte :: second :: rest) =
      Char.ofNat (64 * (byte.toNat % 32) + second.toNat % 64) :: charactersFrom none rest := by
  have begun : Beginning.ofByte? byte = some { number := byte.toNat % 32, missing := 1 } := by
    simp only [Beginning.ofByte?]
    rw [if_neg (by omega), if_pos greatest]
  rw [charactersFrom_ofByte? begun, charactersFrom_last last.1 last.2 rfl]

theorem charactersFrom_three (least : 0xE0 ≤ byte.toNat) (greatest : byte.toNat < 0xF0)
    (continued : Continues second) (not_shorter : byte.toNat = 0xE0 → 0xA0 ≤ second.toNat)
    (not_surrogate : byte.toNat = 0xED → second.toNat ≤ 0x9F) (last : Continues third) :
    charactersFrom none (byte :: second :: third :: rest) =
      Char.ofNat (64 * (64 * (byte.toNat % 16) + second.toNat % 64) + third.toNat % 64) ::
        charactersFrom none rest := by
  have begun : Beginning.ofByte? byte = some
      { number := byte.toNat % 16
        missing := 2
        least := if byte.toNat = 0xE0 then 0xA0 else 0x80
        greatest := if byte.toNat = 0xED then 0x9F else 0xBF } := by
    simp only [Beginning.ofByte?]
    rw [if_neg (by omega), if_neg (by omega), if_pos greatest]
  have bounds : (if byte.toNat = 0xE0 then 0xA0 else 0x80) ≤ second.toNat ∧
      second.toNat ≤ if byte.toNat = 0xED then 0x9F else 0xBF := by
    obtain ⟨_, _⟩ := continued
    split_ifs <;> omega
  rw [charactersFrom_ofByte? begun, charactersFrom_next bounds.1 bounds.2 (by decide : 2 ≠ 1),
    charactersFrom_last last.1 last.2 rfl]

theorem charactersFrom_four (least : 0xF0 ≤ byte.toNat) (greatest : byte.toNat < 0xF5)
    (continued : Continues second) (not_shorter : byte.toNat = 0xF0 → 0x90 ≤ second.toNat)
    (not_beyond : byte.toNat = 0xF4 → second.toNat ≤ 0x8F) (continued' : Continues third)
    (last : Continues fourth) :
    charactersFrom none (byte :: second :: third :: fourth :: rest) =
      Char.ofNat (64 * (64 * (64 * (byte.toNat % 8) + second.toNat % 64) + third.toNat % 64) +
        fourth.toNat % 64) :: charactersFrom none rest := by
  have begun : Beginning.ofByte? byte = some
      { number := byte.toNat % 8
        missing := 3
        least := if byte.toNat = 0xF0 then 0x90 else 0x80
        greatest := if byte.toNat = 0xF4 then 0x8F else 0xBF } := by
    simp only [Beginning.ofByte?]
    rw [if_neg (by omega), if_neg (by omega), if_neg (by omega), if_pos greatest]
  have bounds : (if byte.toNat = 0xF0 then 0x90 else 0x80) ≤ second.toNat ∧
      second.toNat ≤ if byte.toNat = 0xF4 then 0x8F else 0xBF := by
    obtain ⟨_, _⟩ := continued
    split_ifs <;> omega
  rw [charactersFrom_ofByte? begun, charactersFrom_next bounds.1 bounds.2 (by decide : 3 ≠ 1),
    charactersFrom_next continued'.1 continued'.2 (by decide : 2 ≠ 1),
    charactersFrom_last last.1 last.2 rfl]

/-- The bytes of a character are read as that character. -/
theorem charactersFrom_encodeChar (c : Char) (rest : List UInt8) :
    charactersFrom none (String.utf8EncodeChar c ++ rest) = c :: charactersFrom none rest := by
  have valid : c.toNat < 0xD800 ∨ (0xDFFF < c.toNat ∧ c.toNat < 0x110000) := c.valid
  have same {number : Nat} (h : number = c.toNat) : Char.ofNat number = c := by
    rw [h, Char.ofNat_toNat]
  have value_eq : c.val.toNat = c.toNat := rfl
  -- One case for each number of bytes. That no bound is broken is a matter of arithmetic.
  fun_cases String.utf8EncodeChar c with
  | case1 value small =>
    simp only [value, value_eq] at small ⊢
    rw [List.singleton_append, charactersFrom_ascii, same] <;>
      simp only [UInt8.toNat_ofNat'] <;> omega
  | case2 value large small =>
    simp only [value, value_eq] at large small ⊢
    rw [List.cons_append, List.singleton_append, charactersFrom_two, same] <;>
      simp only [Continues, UInt8.toNat_ofNat'] <;> omega
  | case3 value _ large small =>
    simp only [value, value_eq] at large small ⊢
    rw [List.cons_append, List.cons_append, List.singleton_append, charactersFrom_three, same] <;>
      simp only [Continues, UInt8.toNat_ofNat'] <;> omega
  | case4 value _ _ large =>
    simp only [value, value_eq] at large ⊢
    rw [List.cons_append, List.cons_append, List.cons_append, List.singleton_append,
      charactersFrom_four, same] <;>
      simp only [Continues, UInt8.toNat_ofNat'] <;> omega

/-- A byte of a character is the number of the character, or is in the upper half. -/
theorem mem_encodeChar {c : Char} (h : byte ∈ String.utf8EncodeChar c) :
    byte.toNat = c.toNat ∨ 0x80 ≤ byte.toNat := by
  have value_eq : c.val.toNat = c.toNat := rfl
  revert h
  fun_cases String.utf8EncodeChar c with
  | case1 value small =>
    intro h
    simp only [value, value_eq, List.mem_singleton] at small h
    left
    rw [h, UInt8.toNat_ofNat']
    omega
  | case2 value _ _ | case3 value _ _ _ | case4 value _ _ _ =>
    intro h
    right
    simp only [List.mem_cons, List.not_mem_nil, or_false] at h
    rcases h with rfl | rfl | rfl | rfl <;> simp only [UInt8.toNat_ofNat'] <;> omega

/-! ## Texts -/

/-- A text is read back from its bytes. -/
theorem lossy_encode (text : String) : lossy (encode text) = text := by
  have letters (all : List Char) :
      charactersFrom none (all.flatMap String.utf8EncodeChar) = all := by
    induction all with
    | nil => rfl
    | cons c rest ih => rw [List.flatMap_cons, charactersFrom_encodeChar, ih]
  rw [lossy, encode, letters, String.ofList_toList]

theorem encode_injective : Function.Injective encode :=
  Function.LeftInverse.injective lossy_encode

end ModuleGraph.Utf8
