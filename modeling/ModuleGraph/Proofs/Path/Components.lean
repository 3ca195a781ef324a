import Mathlib.Data.List.Basic
import Mathlib.Data.List.TakeWhile
import ModuleGraph.Proofs.Disk.Lookup

/-!
# The components of a location's text

The text of a proper location is an absolute path whose components are the root and the names of
the location (`Location.Proper.components_text`). The path that contains it, which is found by its
text alone, is the text of the directory around the location.
-/

namespace ModuleGraph

namespace Path

/-- Pieces none of which stands for nothing end with no such piece. -/
theorem withoutTrailingVoid_eq_self {parts : List (List Char)}
    (h : ∀ piece ∈ parts, isVoid piece = false) : withoutTrailingVoid parts = parts := by
  have kept : parts.reverse.dropWhile isVoid = parts.reverse := by
    rw [List.dropWhile_eq_self_iff]
    intro some_piece
    rw [h _ (List.mem_reverse.mp (List.getElem_mem some_piece))]
    exact Bool.false_ne_true
  rw [withoutTrailingVoid, kept, List.reverse_reverse]

end Path

namespace Location

variable {location directory : Location}

/-- The text of a location below a directory other than the root of the disk. -/
theorem text_append {before behind : List String} (some_before : before ≠ [])
    (some_behind : behind ≠ []) :
    (Location.mk (before ++ behind)).text =
      (Location.mk before).text ++ "/" ++ "/".intercalate behind := by
  have letters (before : List (List Char)) {behind : List (List Char)} (some_before : before ≠ [])
      (some_behind : behind ≠ []) : ['/'].intercalate (before ++ behind) =
        ['/'].intercalate before ++ '/' :: ['/'].intercalate behind := by
    induction before with
    | nil => exact absurd rfl some_before
    | cons first rest ih =>
        cases rest with
        | nil => simp [List.intercalate_cons_of_ne_nil some_behind]
        | cons second rest =>
            rw [List.cons_append, List.cons_append, List.intercalate_cons_cons,
              List.intercalate_cons_cons, ← List.cons_append, ih (List.cons_ne_nil _ _)]
            simp
  apply String.toList_inj.mp
  rw [toList_text]
  simp [toList_text, String.toList_intercalate, letters, some_before, some_behind]

/-- The last character of a location's text is that of its last name. -/
theorem getLast?_text_child (directory : Location) {name : String} (isName : IsName name) :
    (directory.child name).text.toList.getLast? = name.toList.getLast? := by
  have some_letter : name.toList ≠ [] :=
    fun same => isName.ne_empty (String.toList_eq_nil_iff.mp same)
  by_cases is_root : directory.names = []
  · simp [toList_text, child, is_root, List.getLast?_cons_of_ne_nil some_letter]
  · rw [child, text_append is_root (List.cons_ne_nil name []), String.toList_append,
      List.getLast?_append_of_ne_nil]
    · simp
    · simpa using some_letter

/-- A name written behind the text of a location is read as a name in the location. -/
theorem Proper.join_text (h : directory.Proper) {name : String} (isName : IsName name) :
    Path.join directory.text name = (directory.child name).text := by
  by_cases is_root : directory = .root
  · subst is_root
    rw [Path.join, isName.isAbsolute_eq, if_neg Bool.false_ne_true, if_pos (by decide +kernel)]
    simp [text, Location.child, root]
  · obtain ⟨last, same⟩ := exists_eq_child is_root
    have last_isName : IsName last := h last (by rw [same, names_child]; simp)
    have no_slash : directory.text.toList.getLast? ≠ some '/' := by
      rw [same, getLast?_text_child _ last_isName]
      exact fun slash => last_isName.no_slash (List.mem_of_getLast? slash)
    have written : directory.text.isEmpty = false := by
      simp [text]
    have some_name : directory.names ≠ [] := fun none => is_root (congrArg mk none)
    rw [Path.join, isName.isAbsolute_eq, if_neg Bool.false_ne_true, written, Bool.false_or,
      if_neg (by simpa using no_slash), Location.child,
      text_append some_name (List.cons_ne_nil name [])]
    simp

/-- The piece that a name is stands for the name. -/
theorem IsName.componentOf?_eq {name : String} (h : IsName name) :
    Path.componentOf? name.toList = some (.name name) := by
  have ne_empty : name.toList ≠ [] := fun same => h.ne_empty (String.toList_eq_nil_iff.mp same)
  have ne_here : name.toList ≠ ['.'] := fun same => h.ne_here (String.toList_inj.mp same)
  have ne_parent : name.toList ≠ ['.', '.'] := fun same => h.ne_parent (String.toList_inj.mp same)
  simp [Path.componentOf?, ne_empty, ne_here, ne_parent]

/-- The pieces of the text of a name in a directory. -/
theorem Proper.pieces_text_child {name : String} (h : (directory.child name).Proper) :
    Path.pieces (directory.child name).text.toList =
      [] :: (directory.child name).names.map String.toList := by
  rw [pieces_toList_text, h.pieces_text (by simp [names_child])]

/-- The components of a location's text are the root and its names. -/
theorem Proper.components_text (h : location.Proper) :
    Path.components location.text = .root :: location.names.map .name := by
  have absolute := isAbsolute_text location
  by_cases is_root : location = .root
  · subst is_root
    decide +kernel
  · obtain ⟨name, same⟩ := exists_eq_child is_root
    have pieces := (same ▸ h).pieces_text_child
    rw [← same] at pieces
    have named : (location.names.map String.toList).filterMap Path.componentOf? =
        location.names.map .name := by
      rw [List.filterMap_map, ← List.filterMap_eq_map]
      exact List.filterMap_congr fun name listed => (h name listed).componentOf?_eq
    rw [Path.components, pieces, absolute, if_pos rfl]
    simp [named, Path.componentOf?]

/-- The path that contains a location's text is that of the directory around it. -/
theorem Proper.parent?_text_child {name : String} (h : (directory.child name).Proper) :
    Path.parent? (directory.child name).text = some directory.text := by
  have no_void {names : List String} (proper : ∀ name ∈ names, IsName name) :
      Path.withoutTrailingVoid (names.map String.toList) = names.map String.toList := by
    apply Path.withoutTrailingVoid_eq_self
    intro piece listed
    obtain ⟨name, named, rfl⟩ := List.mem_map.mp listed
    simp [Path.isVoid, (proper name named).componentOf?_eq]
  have proper_directory : ∀ name ∈ directory.names, IsName name :=
    fun name listed => h name (List.mem_append_left _ listed)
  have last : (Path.components (directory.child name).text).getLast? = some (.name name) := by
    rw [h.components_text, names_child, List.map_append, ← List.cons_append]
    exact List.getLast?_concat
  rw [Path.parent?, last]
  simp only [isAbsolute_text, if_true, h.pieces_text_child, List.drop_one, List.tail_cons,
    no_void h]
  rw [names_child, List.map_append, List.map_singleton, List.dropLast_concat,
    no_void proper_directory]
  congr 1
  apply String.toList_inj.mp
  simp [Path.ofPieces, toList_text]

theorem parent?_text_root : Path.parent? root.text = none := by
  decide +kernel

/-- The directory of a file is found from the text of the file. -/
theorem Proper.getD_parent?_text (h : location.Proper) :
    (Path.parent? location.text).getD location.text = location.parent.text := by
  by_cases is_root : location = .root
  · subst is_root
    rw [parent?_text_root]
    rfl
  · obtain ⟨name, same⟩ := exists_eq_child is_root
    have contained := (same ▸ h).parent?_text_child
    rw [← same] at contained
    rw [contained]
    rfl

end Location

end ModuleGraph
