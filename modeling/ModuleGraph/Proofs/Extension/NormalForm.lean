import Mathlib.Data.List.Basic
import Mathlib.Data.List.DropRight
import Mathlib.Data.List.Forall2
import Mathlib.Data.List.Nodup
import ModuleGraph.Config.Basic

/-!
# The normal form of a list of extensions

A list of extensions is brought to its normal form twice on its way from a user to a resolver: once
for the options of a run, and once more where the resolver starts. The second time changes nothing
(`Extension.normalise_normalise`), so what a resolver tries is what the options say. It does repeat
complaints, but each of them only once (`Extension.warnings_normalise`).

That rests on single extensions. A normal one has no white space at its ends and is empty or begins
with a dot, and such an extension is its own normal form (`Extension.IsNormal.normal_eq`).
-/

namespace ModuleGraph

namespace Text

/-! ## Trimming -/

/-- A text without white space at its beginning and at its end. -/
structure IsTrimmed (text : List Char) : Prop where
  head : ∀ c ∈ text.head?, isBlank c = false
  last : ∀ c ∈ text.getLast?, isBlank c = false

/-- What is left of a text without the white space at its beginning and at its end. -/
structure TrimsTo (text trimmed : List Char) : Prop where
  isTrimmed : IsTrimmed trimmed
  around : ∃ before after, text = before ++ trimmed ++ after ∧
    (∀ c ∈ before, isBlank c = true) ∧ ∀ c ∈ after, isBlank c = true

theorem trim_eq_rdropWhile (text : List Char) :
    trim text = (text.dropWhile isBlank).rdropWhile isBlank := rfl

theorem isTrimmed_trim (text : List Char) : IsTrimmed (trim text) := by
  rw [trim_eq_rdropWhile]
  constructor
  · intro c first
    -- Cutting at the end leaves the first character, and that was not white space.
    obtain ⟨cut, whole⟩ := List.rdropWhile_prefix isBlank (l := text.dropWhile isBlank)
    have first' : (text.dropWhile isBlank).head? = some c := by
      rw [← whole, List.head?_append, first]
      rfl
    have kept := List.head?_dropWhile_not isBlank text
    rwa [first'] at kept
  · intro c last
    obtain ⟨some_letter, rfl⟩ := List.mem_getLast?_eq_getLast last
    exact Bool.eq_false_iff.mpr (List.rdropWhile_last_not isBlank _ some_letter)

theorem trimsTo_trim (text : List Char) : TrimsTo text (trim text) := by
  refine ⟨isTrimmed_trim text, text.takeWhile isBlank,
    (text.dropWhile isBlank).rtakeWhile isBlank, ?_, ?_, ?_⟩
  · rw [trim_eq_rdropWhile, List.append_assoc, List.rdropWhile_append_rtakeWhile,
      List.takeWhile_append_dropWhile]
  · intro c listed
    exact List.mem_takeWhile_imp listed
  · intro c listed
    exact List.mem_rtakeWhile_imp listed

/-- A trimmed text has nothing to be cut from it. -/
theorem IsTrimmed.trim_eq {text : List Char} (h : IsTrimmed text) : trim text = text := by
  have head_kept : text.dropWhile isBlank = text := by
    rw [List.dropWhile_eq_self_iff]
    intro some_letter
    rw [h.head _ (by simp [List.head?_eq_getElem?, some_letter])]
    exact Bool.false_ne_true
  rw [trim_eq_rdropWhile, head_kept, List.rdropWhile_eq_self_iff]
  intro some_letter
  rw [h.last _ (List.getLast?_eq_some_getLast some_letter)]
  exact Bool.false_ne_true

/-! ## Counting bytes -/

/-- What stands behind the first bytes of a text, in UTF-8, given their number. There is no such
thing if the text has fewer, or if the cut would be within a character. -/
def behindBytes? : Nat → List Char → Option (List Char)
  | 0, text => some text
  | _ + 1, [] => none
  | n + 1, c :: rest => if c.utf8Size ≤ n + 1 then behindBytes? (n + 1 - c.utf8Size) rest else none

end Text

namespace Extension

variable {text extension : String} {texts : List String}

/-! ## One extension -/

/-- An extension in normal form. -/
structure IsNormal (extension : String) : Prop where
  empty_or_dot : extension = "" ∨ extension.toList.head? = some '.'
  isTrimmed : Text.IsTrimmed extension.toList

/-- The normal form of an entry: what is left of it when it is trimmed, with a dot before it unless
it is empty or has one. -/
def IsNormalFormOf (text extension : String) : Prop :=
  ∃ trimmed, Text.TrimsTo text.toList trimmed ∧
    extension.toList =
      if trimmed = [] ∨ trimmed.head? = some '.' then trimmed else '.' :: trimmed

theorem dotted_eq (text : List Char) :
    dotted text = if Text.trim text = [] ∨ (Text.trim text).head? = some '.' then Text.trim text
      else '.' :: Text.trim text := by
  unfold dotted
  cases Text.trim text with
  | nil => rfl
  | cons c rest =>
      by_cases dot : c = '.'
      · subst dot
        rfl
      · simp [dot]

theorem isNormalFormOf_normal (text : String) : IsNormalFormOf text (normal text) :=
  ⟨Text.trim text.toList, Text.trimsTo_trim text.toList, by
    rw [normal, String.toList_ofList, dotted_eq]⟩

theorem IsNormalFormOf.isNormal (h : IsNormalFormOf text extension) : IsNormal extension := by
  obtain ⟨trimmed, trims, written⟩ := h
  split at written
  · next kept =>
    constructor
    · rw [← String.toList_eq_nil_iff, written]
      exact kept
    · rw [written]
      exact trims.isTrimmed
  · next undotted =>
    have some_letter : trimmed ≠ [] := fun empty => undotted (.inl empty)
    refine ⟨.inr (by rw [written]; rfl), ?_, ?_⟩
    · rw [written]
      rintro c ⟨⟩
      decide
    · rw [written, List.getLast?_cons_of_ne_nil some_letter]
      exact trims.isTrimmed.last

theorem isNormal_normal (text : String) : IsNormal (normal text) :=
  (isNormalFormOf_normal text).isNormal

/-- A normal extension is its own normal form. -/
theorem IsNormal.normal_eq (h : IsNormal extension) : normal extension = extension := by
  have kept : extension.toList = [] ∨ extension.toList.head? = some '.' := by
    rw [String.toList_eq_nil_iff]
    exact h.empty_or_dot
  rw [normal, dotted_eq, h.isTrimmed.trim_eq, if_pos kept, String.ofList_toList]

/-! ## First occurrences -/

section FirstOccurrences

variable {α β : Type} [DecidableEq α] [DecidableEq β]

theorem firstOccurrences_filter (p : α → Bool) (xs : List α) :
    firstOccurrences (xs.filter p) = (firstOccurrences xs).filter p := by
  induction xs with
  | nil => rfl
  | cons x xs ih =>
      by_cases kept : p x = true
      · rw [List.filter_cons_of_pos kept, firstOccurrences, firstOccurrences,
          List.filter_cons_of_pos kept, ih, List.filter_comm]
      · have absent : ∀ y ∈ (firstOccurrences xs).filter p, decide (y ≠ x) = true := by
          intro y listed
          rw [decide_eq_true_eq]
          rintro rfl
          exact kept (List.mem_filter.mp listed).2
        rw [List.filter_cons_of_neg kept, firstOccurrences, List.filter_cons_of_neg kept, ih,
          List.filter_comm, List.filter_eq_self.mpr absent]

/-- First occurrences are what is left when every later occurrence is erased. -/
theorem firstOccurrences_eq_eraseDups (xs : List α) : firstOccurrences xs = xs.eraseDups := by
  match xs with
  | [] => rfl
  | x :: xs =>
    rw [List.eraseDups_cons, ← firstOccurrences_eq_eraseDups (xs.filter fun y => !y == x),
      firstOccurrences_filter, firstOccurrences]
    congr 2
    funext y
    by_cases same : y = x
    · simp [same]
    · simp [same]
termination_by xs.length
decreasing_by exact Nat.lt_succ_of_le (List.length_filter_le _ _)

theorem firstOccurrences_of_nodup {xs : List α} (h : xs.Nodup) : firstOccurrences xs = xs := by
  induction xs with
  | nil => rfl
  | cons x xs ih =>
      obtain ⟨fresh, nodup⟩ := List.nodup_cons.mp h
      rw [firstOccurrences, ih nodup, List.filter_eq_self.mpr]
      intro y listed
      rw [decide_eq_true_eq]
      rintro rfl
      exact fresh listed

theorem firstOccurrences_map {f : α → β} (injective : ∀ x y, f x = f y → x = y) (xs : List α) :
    firstOccurrences (xs.map f) = (firstOccurrences xs).map f := by
  induction xs with
  | nil => rfl
  | cons x xs ih =>
      rw [List.map_cons, firstOccurrences, ih, firstOccurrences, List.map_cons, List.filter_map]
      congr 3
      funext y
      exact decide_eq_decide.mpr (not_congr ⟨injective y x, fun same => same ▸ rfl⟩)

end FirstOccurrences

/-! ## Lists of extensions -/

theorem normalise_of_ne_nil (some_text : texts ≠ []) :
    normalise texts = firstOccurrences (texts.map normal) := by
  obtain ⟨text, rest, rfl⟩ := List.exists_cons_of_ne_nil some_text
  rw [normalise, List.map_cons, firstOccurrences]

theorem normalise_ne_nil (texts : List String) : normalise texts ≠ [] := by
  rw [normalise]
  split
  · exact List.cons_ne_nil _ _
  · next some_extension => exact some_extension

theorem nodup_normalise (texts : List String) : (normalise texts).Nodup := by
  rw [normalise]
  split
  · decide
  · exact nodup_firstOccurrences _

theorem isNormal_of_mem_normalise (h : extension ∈ normalise texts) : IsNormal extension := by
  by_cases none : texts = []
  · subst none
    have default_normal : IsNormal (normal ".js") := isNormal_normal ".js"
    rwa [List.mem_singleton.mp h]
  · rw [normalise_of_ne_nil none, mem_firstOccurrences] at h
    obtain ⟨text, _, rfl⟩ := List.mem_map.mp h
    exact isNormal_normal text

theorem map_normal_normalise (texts : List String) :
    (normalise texts).map normal = normalise texts := by
  have kept : ∀ extension ∈ normalise texts, normal extension = id extension :=
    fun extension listed => (isNormal_of_mem_normalise listed).normal_eq
  rw [List.map_congr_left kept, List.map_id]

/-- The normal form of a list is its own normal form. -/
theorem normalise_normalise (texts : List String) :
    normalise (normalise texts) = normalise texts := by
  rw [normalise_of_ne_nil (normalise_ne_nil texts), map_normal_normalise,
    firstOccurrences_of_nodup (nodup_normalise texts)]

/-! ## Complaints -/

/-- An extension that JavaScript or TypeScript files have. -/
def IsUsual (extension : String) : Prop :=
  ∃ name ∈ known, extension = "." ++ name

instance (extension : String) : Decidable (IsUsual extension) :=
  inferInstanceAs (Decidable (∃ name ∈ known, extension = "." ++ name))

/-- What is said about an extension that is not usual. -/
def complaint (extension : String) : String :=
  "Extension '" ++ extension ++ "' is not a JavaScript/TypeScript extension"

theorem complaint_injective {one other : String} (same : complaint one = complaint other) :
    one = other := by
  rw [complaint, complaint, String.append_left_inj, String.append_right_inj] at same
  exact same

/-- Behind the first byte of a normal extension there is its name, if it is not empty. -/
theorem IsNormal.exists_behind (h : IsNormal extension) (some_letter : extension ≠ "") :
    ∃ name, Text.behindBytes? 1 extension.toList = some name.toList ∧ extension = "." ++ name := by
  have dot := h.empty_or_dot.resolve_left some_letter
  obtain ⟨name, letters⟩ := List.head?_eq_some_iff.mp dot
  refine ⟨String.ofList name, ?_, ?_⟩
  · rw [letters, String.toList_ofList, Text.behindBytes?, if_pos (by decide)]
    exact Text.behindBytes?.eq_1 name
  · apply String.toList_inj.mp
    rw [letters]
    simp

theorem isKnown_iff {name : String} : isKnown ("." ++ name) = true ↔ name ∈ known := by
  simp [isKnown]

theorem isUsual_iff {name : String} : IsUsual ("." ++ name) ↔ name ∈ known := by
  constructor
  · rintro ⟨other, listed, same⟩
    rwa [(String.append_right_inj ".").mp same]
  · intro listed
    exact ⟨name, listed, rfl⟩

theorem warning?_eq (text : String) :
    warning? text =
      if normal text ≠ "" ∧ ¬ IsUsual (normal text) then some (complaint (normal text))
      else none := by
  by_cases empty : normal text = ""
  · simp [warning?, empty]
  · obtain ⟨name, _, same⟩ := (isNormal_normal text).exists_behind empty
    have usual_iff : isKnown (normal text) = true ↔ IsUsual (normal text) := by
      rw [same, isKnown_iff, isUsual_iff]
    by_cases usual : IsUsual (normal text)
    · simp [warning?, usual, usual_iff.mpr usual]
    · have unknown : isKnown (normal text) = false :=
        Bool.eq_false_iff.mpr fun is_known => usual (usual_iff.mp is_known)
      simp [warning?, complaint, usual, unknown, empty]

/-- The complaints about a list are about its entries in turn. -/
theorem warnings_eq (texts : List String) :
    warnings texts =
      ((texts.map normal).filter fun extension => extension ≠ "" ∧ ¬ IsUsual extension).map
        complaint := by
  induction texts with
  | nil => rfl
  | cons text rest ih =>
      rw [warnings] at ih ⊢
      by_cases unusual : normal text ≠ "" ∧ ¬ IsUsual (normal text)
      · have said : warning? text = some (complaint (normal text)) := by
          rw [warning?_eq, if_pos unusual]
        rw [List.filterMap_cons_some said, ih, List.map_cons,
          List.filter_cons_of_pos (by simpa using unusual), List.map_cons]
      · have nothing : warning? text = none := by
          rw [warning?_eq, if_neg unusual]
        rw [List.filterMap_cons_none nothing, ih, List.map_cons,
          List.filter_cons_of_neg (by simpa using unusual)]

/-- What is said about the normal form of a list was said about the list, and is not repeated. -/
theorem warnings_normalise (texts : List String) :
    warnings (normalise texts) = (warnings texts).eraseDups := by
  by_cases none : texts = []
  · subst none
    decide
  · rw [warnings_eq, warnings_eq, map_normal_normalise, normalise_of_ne_nil none,
      ← firstOccurrences_filter, ← firstOccurrences_eq_eraseDups,
      firstOccurrences_map fun _ _ => complaint_injective]

/-- A list in which nothing more can be normalised. -/
structure IsNormalList (extensions : List String) : Prop where
  ne_nil : extensions ≠ []
  nodup : extensions.Nodup
  isNormal : ∀ extension ∈ extensions, IsNormal extension

theorem isNormalList_normalise (texts : List String) : IsNormalList (normalise texts) where
  ne_nil := normalise_ne_nil texts
  nodup := nodup_normalise texts
  isNormal _ listed := isNormal_of_mem_normalise listed

/-- The normal form of a list has no repetitions and at least one extension, and its extensions are
normal. If the list is not empty, they are the normal forms of its entries, each at the place where
it comes first. Behind the first byte of a normal form, unless it is empty, there is the name that
is looked up among those of JavaScript and TypeScript files, and whatever has another name is
complained about, each time it comes.

To normalise again changes nothing, so a resolver tries the very extensions that the options name.
It complains again, but about each extension at most once. -/
theorem normalise_normal_form (texts : List String) :
    ∃ forms, List.Forall₂ IsNormalFormOf texts forms ∧
      IsNormalList (normalise texts) ∧
      (texts ≠ [] → normalise texts = forms.eraseDups) ∧
      (∀ form ∈ forms, form ≠ "" → ∃ name, Text.behindBytes? 1 form.toList = some name.toList ∧
        (isKnown form = true ↔ name ∈ known)) ∧
      normalise (normalise texts) = normalise texts ∧
      (∀ config : Config, config.extensions = texts →
        config.options.extensions = normalise texts ∧
          (Session.fresh config.options).resolver.extensions = config.options.extensions) ∧
      warnings texts = (forms.filter fun form => form ≠ "" ∧ ¬ IsUsual form).map complaint ∧
      warnings (normalise texts) = (warnings texts).eraseDups ∧
      ∀ extension, (warnings (normalise texts)).count (complaint extension) ≤ 1 := by
  refine ⟨texts.map normal, ?_, isNormalList_normalise texts, ?_, ?_, normalise_normalise texts, ?_,
    warnings_eq texts, warnings_normalise texts, ?_⟩
  · rw [List.forall₂_map_right_iff, List.forall₂_same]
    exact fun text _ => isNormalFormOf_normal text
  · intro some_text
    rw [normalise_of_ne_nil some_text, firstOccurrences_eq_eraseDups]
  · intro form listed some_letter
    obtain ⟨text, _, rfl⟩ := List.mem_map.mp listed
    obtain ⟨name, behind, same⟩ := (isNormal_normal text).exists_behind some_letter
    exact ⟨name, behind, same ▸ isKnown_iff⟩
  · rintro config rfl
    exact ⟨rfl, normalise_normalise config.extensions⟩
  · intro extension
    rw [warnings_normalise, ← firstOccurrences_eq_eraseDups]
    exact List.nodup_iff_count_le_one.mp (nodup_firstOccurrences _) (complaint extension)

example : normalise [" ts", ".vue\t", "", ".ts", "vue"] = [".ts", ".vue", ""] := by
  decide +kernel

end Extension

end ModuleGraph
