import Mathlib.Data.List.Infix
import ModuleGraph.Path.Relative
import ModuleGraph.Proofs.Path.Cleaning

/-!
# Paths as they are shown

A path is shown by what leads down to it from the root directory, if anything does, and as it is
written otherwise (`Path.display_of_leadsDown`, `Path.display_of_not_leadsDown`). Of clean paths no
two are shown alike: read from the root directory, what is shown is the path again
(`Location.Proper.steps_join_display`).

That is so because paths are texts here. Two paths of bytes that are no texts can be printed alike
(`BytePath.display`).
-/

namespace ModuleGraph

namespace Path

variable {root path : String} {base target rest : List Component}

/-! ## Without the common beginning -/

theorem withoutCommon_append {α : Type} [DecidableEq α] (base rest : List α) :
    withoutCommon base (base ++ rest) = ([], rest) := by
  induction base with
  | nil => cases rest <;> rfl
  | cons first base ih => rw [List.cons_append, withoutCommon, if_pos rfl, ih]

/-- What two lists have in common is a beginning of both. -/
theorem exists_withoutCommon {α : Type} [DecidableEq α] (base target : List α) :
    ∃ common, base = common ++ (withoutCommon base target).1 ∧
      target = common ++ (withoutCommon base target).2 := by
  fun_induction withoutCommon base target with
  | case1 xs first ys ih =>
      obtain ⟨common, in_base, in_target⟩ := ih
      exact ⟨first :: common, congrArg _ in_base, congrArg _ in_target⟩
  | case2 => exact ⟨[], rfl, rfl⟩
  | case3 => exact ⟨[], rfl, rfl⟩

/-- What is behind a base leads there from the base. Where the base is nothing there may be nothing
behind it. -/
theorem steps?_append (h : base = [] → rest = []) : steps? base (base ++ rest) = some rest := by
  rw [steps?, withoutCommon_append]
  cases rest with
  | nil => rfl
  | cons first rest =>
      have some_base : 0 ≠ base.length :=
        (List.length_pos_iff.mpr fun none => List.cons_ne_nil _ _ (h none)).ne
      simp [some_base]

/-- Steps that do not begin upwards lead to what is behind the base. -/
theorem eq_append_of_steps? (h : steps? base target = some rest)
    (down : rest.head? ≠ some .parent) : target = base ++ rest ∧ (base = [] → target = []) := by
  obtain ⟨common, in_base, in_target⟩ := exists_withoutCommon base target
  rw [steps?] at h
  generalize withoutCommon base target = left at h in_base in_target
  obtain ⟨up, behind⟩ := left
  dsimp only at h in_base in_target
  split at h
  · next both =>
    cases h
    simp only [Bool.and_eq_true, List.isEmpty_iff] at both
    rw [both.1] at in_base
    rw [both.2] at in_target
    rw [in_base, in_target]
    simp
  · split at h
    · cases h
    · next not_both some_common =>
      cases h
      cases up with
      | cons first up => exact absurd rfl down
      | nil =>
          rw [List.append_nil] at in_base
          refine ⟨by rw [in_base]; exact in_target, fun none => ?_⟩
          exact absurd (by rw [none]) some_common

/-! ## What is shown -/

/-- Components lead down to a path from the root directory, if they are what is left of it behind
those of the root directory. They do not begin upwards, and nothing leads down from a root
directory without components, other than to a path without any. -/
structure LeadsDown (root path : String) (rest : List Component) : Prop where
  behind : components path = components root ++ rest
  of_nothing : components root = [] → components path = []
  down : rest.head? ≠ some .parent

/-- The text of components that lead down, with a slash between each two of them, and a dot for
none. -/
def textDown (rest : List Component) : String :=
  if rest = [] then "." else String.intercalate "/" (rest.map Component.text)

/-- No component but the first is the root. -/
theorem root_not_mem_of_components {first : Component} {others : List Component}
    (h : components path = first :: others) : .root ∉ others := by
  have steps_no_root : .root ∉ steps path := by
    intro listed
    rcases mem_steps_cases listed with up | ⟨_, _, name⟩
    · cases up
    · cases name
  intro listed
  apply steps_no_root
  cases absolute : isAbsolute path with
  | true =>
      rw [components_of_absolute absolute] at h
      exact (List.cons.inj h).2 ▸ listed
  | false =>
      rcases components_of_relative absolute with same | same
      · rw [← same, h]
        exact List.mem_cons_of_mem _ listed
      · rw [same] at h
        exact (List.cons.inj h).2 ▸ listed

theorem LeadsDown.root_not_mem (h : LeadsDown root path rest) : .root ∉ rest := by
  intro listed
  cases whole : components root with
  | nil =>
      have nothing := h.behind
      rw [h.of_nothing whole, whole, List.nil_append] at nothing
      rw [← nothing] at listed
      cases listed
  | cons first others =>
      have behind := h.behind
      rw [whole, List.cons_append] at behind
      exact root_not_mem_of_components behind (List.mem_append_right _ listed)

/-- A path to which components lead down is shown by them. -/
theorem display_of_leadsDown (h : LeadsDown root path rest) :
    display (some root) path = textDown rest := by
  have nothing : components root = [] → rest = [] := by
    intro none
    have behind := h.behind
    rw [h.of_nothing none, none, List.nil_append] at behind
    exact behind.symm
  have steps : steps? (components root) (components path) = some rest := by
    rw [h.behind, steps?_append nothing]
  have down := h.down
  have no_root := h.root_not_mem
  rw [display]
  rw [steps]
  rcases rest with _ | ⟨_ | _ | _ | name, rest⟩
  · rfl
  · exact absurd List.mem_cons_self no_root
  · rfl
  · exact absurd rfl down
  · rfl

/-- Any other path is shown as it is written. -/
theorem display_of_not_leadsDown (h : ∀ rest, ¬ LeadsDown root path rest) :
    display (some root) path = path := by
  have not_shown {rest : List Component} (down : rest.head? ≠ some .parent) :
      steps? (components root) (components path) ≠ some rest := by
    intro steps
    obtain ⟨behind, of_nothing⟩ := eq_append_of_steps? steps down
    exact h rest ⟨behind, of_nothing, down⟩
  rw [display]
  split
  · rfl
  · next steps => exact absurd steps (not_shown (by decide))
  · rfl
  · next steps not_nil not_parent found =>
    refine absurd found (not_shown fun up => ?_)
    obtain ⟨others, same⟩ := List.head?_eq_some_iff.mp up
    exact not_parent others same

/-! ## Clean paths -/

/-- A clean path is the text of a location. -/
theorem IsClean.exists_location (h : IsClean path) :
    ∃ location : Location, location.Proper ∧ location.text = path := by
  obtain ⟨absolute, rfl | names_only⟩ := h
  · exact ⟨.root, Location.proper_root, by decide +kernel⟩
  · obtain ⟨letters, same⟩ := List.head?_eq_some_iff.mp (eq_of_beq absolute)
    have pieces_eq : pieces path.toList = [] :: pieces letters := by
      rw [same]
      exact List.splitOn_cons_eq_if_modifyHead .. |>.trans (if_pos BEq.rfl)
    rw [pieces_eq, List.tail_cons] at names_only
    refine ⟨⟨(pieces letters).map String.ofList⟩, ?_, ?_⟩
    · intro name listed
      obtain ⟨piece, present, rfl⟩ := List.mem_map.mp listed
      obtain ⟨ne_empty, ne_here, ne_parent⟩ := names_only piece present
      exact Location.isName_ofList ne_empty ne_here ne_parent (not_mem_of_mem_pieces present)
    · have back : String.toList ∘ String.ofList = id := funext fun _ => String.toList_ofList
      apply String.toList_inj.mp
      rw [Location.toList_text, List.map_map, back, List.map_id, same, pieces,
        List.intercalate_splitOn]

/-- A path is the root directory, or written behind it and a slash. -/
def IsWithin (root path : String) : Prop :=
  path = root ∨ root = "/" ∨ (root ++ "/").toList <+: path.toList

instance (root path : String) : Decidable (IsWithin root path) :=
  inferInstanceAs (Decidable (_ ∨ _ ∨ _))

end Path

namespace Location

variable {root location : Location} {names : List String}

/-- What is below a root directory is written behind it. -/
theorem isWithin_text (root : Location) (names : List String) :
    Path.IsWithin root.text (Location.mk (root.names ++ names)).text := by
  obtain ⟨before⟩ := root
  by_cases some_before : before = []
  · right
    left
    rw [some_before]
    decide +kernel
  · by_cases some_behind : names = []
    · left
      rw [some_behind, List.append_nil]
    · right
      right
      rw [text_append some_before some_behind]
      exact ⟨("/".intercalate names).toList, String.toList_append.symm⟩

/-- What leads down from a location to another one are names. -/
theorem Proper.leadsDown_text_iff (proper_root : root.Proper) (proper : location.Proper)
    {rest : List Path.Component} : Path.LeadsDown root.text location.text rest ↔
      ∃ names, location.names = root.names ++ names ∧ rest = names.map .name := by
  constructor
  · intro h
    have behind := h.behind
    rw [proper.components_text, proper_root.components_text, List.cons_append] at behind
    obtain ⟨before, names, whole, same, rfl⟩ :=
      List.map_eq_append_iff.mp (List.cons.inj behind).2
    have same_names : before = root.names :=
      (List.map_inj_right fun _ _ => Path.Component.name.inj).mp same
    exact ⟨names, same_names ▸ whole, rfl⟩
  · rintro ⟨names, whole, rfl⟩
    refine ⟨?_, ?_, ?_⟩
    · rw [proper.components_text, proper_root.components_text, whole, List.map_append]
      rfl
    · rw [proper_root.components_text]
      exact fun none => absurd none (List.cons_ne_nil _ _)
    · cases names with
      | nil => exact nofun
      | cons name names => exact fun up => Path.Component.noConfusion (Option.some.inj up)

/-- A location below the root directory is shown by the names that lead there, and any other by its
text. -/
theorem Proper.display_text_cases (proper_root : root.Proper) (proper : location.Proper) :
    (∃ names, location.names = root.names ++ names ∧
      Path.display (some root.text) location.text =
        if names = [] then "." else "/".intercalate names) ∨
    Path.display (some root.text) location.text = location.text := by
  by_cases below : ∃ names, location.names = root.names ++ names
  · obtain ⟨names, whole⟩ := below
    left
    refine ⟨names, whole, ?_⟩
    have down := (proper_root.leadsDown_text_iff proper).mpr ⟨names, whole, rfl⟩
    have texts : (names.map Path.Component.name).map Path.Component.text = names := by
      rw [List.map_map]
      exact (List.map_congr_left fun _ _ => rfl).trans (List.map_id _)
    rw [Path.display_of_leadsDown down, Path.textDown, texts]
    simp only [List.map_eq_nil_iff]
  · right
    apply Path.display_of_not_leadsDown
    intro rest down
    obtain ⟨names, whole, _⟩ := (proper_root.leadsDown_text_iff proper).mp down
    exact below ⟨names, whole⟩

/-- What is shown, read from the root directory, goes where the path goes. -/
theorem Proper.steps_join_display (proper_root : root.Proper) (proper : location.Proper) :
    Path.steps (Path.join root.text (Path.display (some root.text) location.text)) =
      location.names.map .name := by
  rcases proper_root.display_text_cases proper with ⟨names, whole, shown⟩ | shown
  · rw [shown, whole, List.map_append]
    split
    · next none =>
      rw [proper_root.steps_join (by decide), none]
      rfl
    · next some_name =>
      have proper_names : (Location.mk names).Proper :=
        fun name listed => proper name (whole ▸ List.mem_append_right _ listed)
      have steps : Path.steps ("/".intercalate names) = names.map .name := by
        have behind_slash := Path.steps_append_slash "" ("/".intercalate names)
        rw [← proper_names.steps_text, text]
        exact behind_slash.symm
      rw [proper_root.steps_join (Disk.relative_intercalate proper_names some_name).1, steps]
  · rw [shown, Path.join, if_pos location.isAbsolute_text, proper.steps_text]

end Location

namespace Path

/-- A path is shown relative to a root directory exactly if the components of the root directory,
unless there are none, are the first of its own, and the others do not begin upwards, or if neither
has any. Then it is shown by these others. Otherwise it is shown as it is written.

If the root directory and the path are clean, what is shown is, read from the root directory, the
path itself. It is the path as it is written unless that is the root directory or begins with the
root directory and a slash, and no other clean path is shown in the same way. -/
theorem display_faithful (root : String) :
    (∀ path rest, LeadsDown root path rest → display (some root) path = textDown rest) ∧
    (∀ path, (∀ rest, ¬ LeadsDown root path rest) → display (some root) path = path) ∧
    (IsClean root → ∀ path, IsClean path →
      components (join root (display (some root) path)) = components path ∧
      clean (join root (display (some root) path)) = path ∧
      (¬ IsWithin root path → display (some root) path = path) ∧
      ∀ other, IsClean other → display (some root) path = display (some root) other →
        path = other) := by
  refine ⟨fun path rest => display_of_leadsDown, fun path => display_of_not_leadsDown, ?_⟩
  intro clean_root path clean_path
  obtain ⟨directory, proper_root, rfl⟩ := clean_root.exists_location
  have clean_join {path : String} (clean_path : IsClean path) :
      clean (join directory.text (display (some directory.text) path)) = path := by
    obtain ⟨location, proper, rfl⟩ := clean_path.exists_location
    rw [Location.clean_of_absolute (directory.isAbsolute_join _),
      proper_root.steps_join_display proper, Location.foldl_follow_names]
    rfl
  refine ⟨?_, clean_join clean_path, ?_, ?_⟩
  · obtain ⟨location, proper, rfl⟩ := clean_path.exists_location
    rw [components_of_absolute (directory.isAbsolute_join _),
      proper_root.steps_join_display proper, proper.components_text]
  · intro outside
    obtain ⟨location, proper, rfl⟩ := clean_path.exists_location
    rcases proper_root.display_text_cases proper with ⟨names, whole, _⟩ | shown
    · obtain ⟨_⟩ := location
      cases whole
      exact absurd (directory.isWithin_text names) outside
    · exact shown
  · intro other clean_other alike
    rw [← clean_join clean_path, ← clean_join clean_other, alike]

-- A directory whose name begins like that of the root directory is not below it.
example : display (some "/project/app") "/project/application/x.js" =
    "/project/application/x.js" := by
  decide +kernel

end Path

end ModuleGraph
