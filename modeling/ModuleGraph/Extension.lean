import ModuleGraph.Text.Blank

/-!
# File extensions

A specifier such as `./a` may stand for `./a.ts` or `./a.js`. The extensions to try are an ordered
list, and users write it loosely: with or without the leading dot, with blanks around a comma, with
repetitions. `Extension.normalise` brings every such list to one form, and `Extension.warnings`
names the entries that are no extension of a JavaScript or TypeScript file.

Nothing here forbids an unusual extension: a list may ask for `.vue` or for the empty extension,
and the warning is the only consequence.
-/

namespace ModuleGraph

namespace Extension

/-- The extensions of JavaScript and TypeScript files, without their dot. -/
def known : List String :=
  ["ts", "tsx", "mts", "cts", "js", "jsx", "mjs", "cjs"]

/-- The list that stands in for an empty one. -/
def default : List String :=
  [".js"]

/-- An extension without blanks around it and with its leading dot. The empty extension stays
empty, since it asks for the specifier as it is written. -/
def dotted (text : List Char) : List Char :=
  match Text.trim text with
  | [] => []
  | '.' :: rest => '.' :: rest
  | c :: rest => '.' :: c :: rest

/-- `Extension.dotted` on strings. -/
def normal (text : String) : String :=
  String.ofList (dotted text.toList)

/-- Each element once, at the place where it comes first. -/
def firstOccurrences [DecidableEq α] : List α → List α
  | [] => []
  | x :: xs => x :: (firstOccurrences xs).filter (fun y => decide (y ≠ x))

/-- Nothing is lost, and nothing is added. -/
theorem mem_firstOccurrences [DecidableEq α] {x : α} {xs : List α} :
    x ∈ firstOccurrences xs ↔ x ∈ xs := by
  induction xs with
  | nil => exact Iff.rfl
  | cons y ys ih =>
    rw [firstOccurrences, List.mem_cons, List.mem_cons, List.mem_filter, ih, decide_eq_true_eq]
    by_cases h : x = y
    · exact iff_of_true (Or.inl h) (Or.inl h)
    · exact or_congr_right (and_iff_left h)

/-- No element stays twice. -/
theorem nodup_firstOccurrences [DecidableEq α] (xs : List α) : (firstOccurrences xs).Nodup := by
  induction xs with
  | nil => exact List.nodup_nil
  | cons y ys ih =>
    rw [firstOccurrences, List.nodup_cons, List.mem_filter, decide_eq_true_eq]
    exact ⟨fun h => h.2 rfl, ih.filter _⟩

/-- What is put behind a list changes nothing about what stands there, and adds what is new, in its
order. -/
theorem firstOccurrences_append [DecidableEq α] (xs ys : List α) :
    firstOccurrences (xs ++ ys) =
      firstOccurrences xs ++ (firstOccurrences ys).filter (fun y => decide (y ∉ xs)) := by
  induction xs with
  | nil => exact (List.filter_eq_self.mpr fun y _ => decide_eq_true List.not_mem_nil).symm
  | cons x xs ih =>
    have both : ((firstOccurrences ys).filter fun y => decide (y ∉ xs)).filter
        (fun y => decide (y ≠ x)) =
        (firstOccurrences ys).filter fun y => decide (y ∉ x :: xs) := by
      rw [List.filter_filter]
      congr 1
      funext y
      simp [List.mem_cons, not_or]
    rw [List.cons_append, firstOccurrences, ih, List.filter_append, both,
      firstOccurrences, List.cons_append]

/-- The normal form of an extension list: every entry dotted, no entry twice, and never empty. -/
def normalise (texts : List String) : List String :=
  match firstOccurrences (texts.map normal) with
  | [] => default
  | kept => kept

/-- Whether a dotted extension belongs to a JavaScript or TypeScript file. -/
def isKnown (extension : String) : Bool :=
  known.contains (String.ofList (extension.toList.drop 1))

/-- The warning for one entry of an extension list, if it deserves one. -/
def warning? (text : String) : Option String :=
  let extension := normal text
  if extension.isEmpty || isKnown extension then none
  else some ("Extension '" ++ extension ++ "' is not a JavaScript/TypeScript extension")

/-- The warnings for an extension list, one for each offending entry, repetitions included. -/
def warnings (texts : List String) : List String :=
  texts.filterMap warning?

end Extension

end ModuleGraph
