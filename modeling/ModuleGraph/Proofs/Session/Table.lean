import Mathlib.Data.List.Nodup

/-!
# Memories as tables

A memory is a list of keys with values, of which the first for a key counts. There are two ways to
add to one. Alone with it, one looks a key up and adds an answer if there is none yet (`memoised`).
Among others one cannot be sure of that any more, and puts an entry in the place of what may be
there (`inserted`). Where a key is unknown this makes no difference.

Either way no key is there twice.
-/

namespace ModuleGraph

variable {κ α ε : Type} [BEq κ]

/-- What a memory says, or else an answer. -/
def recalled (memory : List (κ × α)) (key : κ) (answer : Except ε α) : Except ε α :=
  match memory.lookup key with
  | some value => .ok value
  | none => answer

/-- A memory after a question: an answer is put into it unless one is there already. -/
def memoised (memory : List (κ × α)) (key : κ) (answer : Except ε α) : List (κ × α) :=
  match memory.lookup key, answer with
  | none, .ok value => (key, value) :: memory
  | _, _ => memory

/-- A memory with an entry, in place of any that it has under that key. -/
def inserted (memory : List (κ × α)) (key : κ) (value : α) : List (κ × α) :=
  (key, value) :: memory.filter (·.1 != key)

variable {memory : List (κ × α)} {key : κ} {value : α} {answer : Except ε α}

theorem recalled_of_some (h : memory.lookup key = some value) :
    recalled memory key answer = .ok value := by
  simp only [recalled, h]

theorem recalled_of_none (h : memory.lookup key = none) :
    recalled memory key answer = answer := by
  simp only [recalled, h]

theorem memoised_of_some (h : memory.lookup key = some value) :
    memoised memory key answer = memory := by
  simp only [memoised, h]

theorem memoised_of_none (h : memory.lookup key = none) :
    memoised memory key answer =
      match answer with
      | .ok value => (key, value) :: memory
      | .error _ => memory := by
  simp only [memoised, h]
  cases answer <;> rfl

variable [LawfulBEq κ]

theorem inserted_of_none (h : memory.lookup key = none) :
    inserted memory key value = (key, value) :: memory := by
  rw [inserted, List.filter_eq_self.mpr]
  intro entry present
  rw [bne_comm]
  exact List.lookup_eq_none_iff.mp h entry present

/-! ## What is found -/

/-- What is in a memory stays there, and only the question that was asked can be answered anew. -/
theorem lookup_memoised (other : κ) : (memoised memory key answer).lookup other =
    (memory.lookup other).or (if key == other then answer.toOption else none) := by
  by_cases same : key = other
  · subst same
    rw [if_pos BEq.rfl]
    cases known : memory.lookup key with
    | some value => rw [memoised_of_some known, known, Option.some_or]
    | none =>
        rw [memoised_of_none known, Option.none_or]
        cases answer with
        | error failure => exact known
        | ok value => exact List.lookup_cons_self
  · rw [if_neg (by simpa using same), Option.or_none]
    cases known : memory.lookup key with
    | some value => rw [memoised_of_some known]
    | none =>
        rw [memoised_of_none known]
        cases answer with
        | error failure => rfl
        | ok value =>
            dsimp only
            rw [List.lookup_cons, beq_eq_false_iff_ne.mpr (Ne.symm same)]

theorem lookup_filter_of_ne {other : κ} (h : other ≠ key) :
    (memory.filter (·.1 != key)).lookup other = memory.lookup other := by
  induction memory with
  | nil => rfl
  | cons entry rest ih =>
      rw [List.filter_cons]
      split
      · rw [List.lookup_cons, List.lookup_cons, ih]
      · next dropped =>
        have apart : other ≠ entry.1 := by
          rintro rfl
          exact dropped (bne_iff_ne.mpr h)
        rw [List.lookup_cons, beq_eq_false_iff_ne.mpr apart, ih]

theorem lookup_inserted (other : κ) : (inserted memory key value).lookup other =
    if other == key then some value else memory.lookup other := by
  rw [inserted, List.lookup_cons]
  by_cases same : other = key
  · simp [same]
  · rw [lookup_filter_of_ne same, beq_eq_false_iff_ne.mpr same]
    rfl

/-! ## Keys -/

/-- A key is in a memory exactly if it is answered. -/
theorem mem_keys_iff : key ∈ memory.map (·.1) ↔ (memory.lookup key).isSome := by
  rw [← Option.ne_none_iff_isSome, Ne, List.lookup_eq_none_iff]
  grind

theorem mem_keys_inserted {other : κ} : other ∈ (inserted memory key value).map (·.1) ↔
    other ∈ memory.map (·.1) ∨ other = key := by
  rw [mem_keys_iff, mem_keys_iff, lookup_inserted]
  by_cases same : other = key <;> simp [same]

theorem nodup_memoised (nodup : (memory.map (·.1)).Nodup) :
    ((memoised memory key answer).map (·.1)).Nodup := by
  cases known : memory.lookup key with
  | some value => rwa [memoised_of_some known]
  | none =>
      rw [memoised_of_none known]
      cases answer with
      | error failure => exact nodup
      | ok value =>
          refine List.nodup_cons.mpr ⟨?_, nodup⟩
          rw [mem_keys_iff, known]
          exact Bool.false_ne_true

theorem nodup_inserted (nodup : (memory.map (·.1)).Nodup) :
    ((inserted memory key value).map (·.1)).Nodup := by
  refine List.nodup_cons.mpr ⟨?_, nodup.sublist (List.filter_sublist.map _)⟩
  simp

end ModuleGraph
