import ModuleGraph.Proofs.Path.Components

/-!
# Cleaning paths by their text

A path is cleaned by its text alone (`Path.clean`): dots are left out, and two dots take away the
name before them, whatever is on the disk. Following a path from a location does the same: it leads
to the location whose text is the cleaned path (`Location.Proper.text_along`). So what is made of a
path can be told from its steps, the names and the double dots in it (`Path.steps`), and these are
the same for many spellings.
-/

namespace ModuleGraph

namespace Path

/-! ## Cleaning -/

/-- A component behind components that are clean, of which the last comes first. At the root there
is nothing to go up to, and where a relative path goes up from its beginning it keeps the dots. -/
def Component.behind : List Component → Component → List Component
  | cleaned, .here => cleaned
  | .root :: before, .parent => .root :: before
  | .name _ :: before, .parent => before
  | cleaned, component => component :: cleaned

/-- A path without dots and without repeated slashes, as far as that can be had from its text. -/
def clean (path : String) : String :=
  match (components path).foldl Component.behind [] with
  | [] => "."
  | cleaned => ofComponents cleaned.reverse

/-- An absolute path without dots, repeated slashes, and slashes at its end: only names are behind
its first slash, unless it is that slash. -/
def IsClean (path : String) : Prop :=
  isAbsolute path = true ∧ (path = "/" ∨ ∀ piece ∈ (pieces path.toList).tail,
    piece ≠ [] ∧ piece ≠ ['.'] ∧ piece ≠ ['.', '.'])

instance (path : String) : Decidable (IsClean path) :=
  inferInstanceAs (Decidable (_ ∧ (_ ∨ ∀ piece ∈ (pieces path.toList).tail, _)))

/-! ## Steps -/

/-- The names and the double dots in a path. -/
def steps (path : String) : List Component :=
  (pieces path.toList).filterMap componentOf?

theorem pieces_append_slash (before after : List Char) :
    pieces (before ++ '/' :: after) = pieces before ++ pieces after :=
  List.splitOnP_append_cons before after BEq.rfl

theorem steps_append_slash (before after : String) :
    steps (before ++ "/" ++ after) = steps before ++ steps after := by
  have letters : (before ++ "/" ++ after).toList = before.toList ++ '/' :: after.toList := by
    simp
  rw [steps, letters, pieces_append_slash, List.filterMap_append]
  rfl

theorem steps_append_of_slash_last {before : String} (h : before.toList.getLast? = some '/')
    (after : String) : steps (before ++ after) = steps before ++ steps after := by
  obtain ⟨letters, ends⟩ := List.getLast?_eq_some_iff.mp h
  have slash_last : before = String.ofList letters ++ "/" := by
    apply String.toList_inj.mp
    simpa using ends
  have alone : steps (String.ofList letters ++ "/") = steps (String.ofList letters) := by
    have cut := steps_append_slash (String.ofList letters) ""
    rwa [String.append_empty, show steps "" = [] from rfl, List.append_nil] at cut
  rw [slash_last, steps_append_slash, alone]

/-- A step goes up, or into a name that something can have. -/
theorem mem_steps_cases {path : String} {component : Component} (h : component ∈ steps path) :
    component = .parent ∨ ∃ name, Location.IsName name ∧ component = .name name := by
  obtain ⟨piece, listed, stands⟩ := List.mem_filterMap.mp h
  unfold componentOf? at stands
  split at stands
  · cases stands
  · next not_void =>
    split at stands
    · exact .inl (Option.some.inj stands).symm
    · next not_parent =>
      simp only [Bool.or_eq_true, decide_eq_true_eq, not_or] at not_void
      exact .inr ⟨String.ofList piece, Location.isName_ofList not_void.1 not_void.2 not_parent
        (not_mem_of_mem_pieces listed), (Option.some.inj stands).symm⟩

theorem components_of_absolute {path : String} (h : isAbsolute path = true) :
    components path = .root :: steps path := by
  rw [components, if_pos h]
  rfl

/-- The components of a relative path are its steps, behind a dot if it begins with one. -/
theorem components_of_relative {path : String} (h : isAbsolute path = false) :
    components path = steps path ∨ components path = .here :: steps path := by
  rw [components, h]
  by_cases dot : (pieces path.toList).head? = some ['.']
  · exact .inr (by simp [dot, steps])
  · exact .inl (by simp [dot, steps])

end Path

namespace Location

variable {directory location : Location}

/-! ## Following steps -/

/-- A relative path is followed by its steps, an absolute one from the root. -/
theorem along_eq (directory : Location) (path : String) :
    directory.along path =
      (Path.steps path).foldl follow (if Path.isAbsolute path then root else directory) := by
  cases absolute : Path.isAbsolute path with
  | true =>
      rw [along, Path.components_of_absolute absolute]
      rfl
  | false =>
      rw [along]
      rcases Path.components_of_relative absolute with same | same
      · rw [same]
        rfl
      · rw [same]
        rfl

theorem foldl_follow_proper {components : List Path.Component}
    (names : ∀ name, .name name ∈ components → IsName name) (h : location.Proper) :
    (components.foldl follow location).Proper := by
  induction components generalizing location with
  | nil => exact h
  | cons component rest ih =>
      rw [List.foldl_cons]
      apply ih fun name listed => names name (List.mem_cons_of_mem _ listed)
      cases component with
      | root => exact proper_root
      | here => exact h
      | parent => exact h.parent
      | name name => exact h.child (names name List.mem_cons_self)

/-- A path leads from a proper location to a proper one, if no link is looked at. -/
theorem Proper.along (h : directory.Proper) (path : String) : (directory.along path).Proper := by
  rw [along_eq]
  apply foldl_follow_proper
  · intro name listed
    rcases Path.mem_steps_cases listed with up | ⟨_, isName, same⟩
    · cases up
    · cases same
      exact isName
  · split
    · exact proper_root
    · exact h

/-! ## Following is cleaning -/

/-- The components of a location's text, the last of them first. -/
def reversed (location : Location) : List Path.Component :=
  (location.names.map .name).reverse ++ [.root]

theorem reversed_child (directory : Location) (name : String) :
    (directory.child name).reversed = .name name :: directory.reversed := by
  simp [reversed, names_child]

theorem match_reversed (location : Location) :
    (match location.reversed with
      | [] => "."
      | cleaned => Path.ofComponents cleaned.reverse) = location.text := by
  have turned : location.reversed.reverse = .root :: location.names.map .name := by
    simp [reversed]
  have named : (location.names.map Path.Component.name).map Path.Component.text =
      location.names := by
    rw [List.map_map]
    exact (List.map_congr_left fun _ _ => rfl).trans (List.map_id _)
  split
  · next empty =>
    rw [empty] at turned
    cases turned
  · rw [turned, Path.ofComponents, named]
    rfl

/-- A component put behind those of a location is followed from it. -/
theorem behind_reversed (location : Location) {component : Path.Component}
    (other : component ≠ .root) :
    Path.Component.behind location.reversed component = (location.follow component).reversed := by
  cases component with
  | root => exact absurd rfl other
  | here => rw [Path.Component.behind]; rfl
  | parent =>
      by_cases is_root : location = .root
      · subst is_root
        rfl
      · obtain ⟨name, same⟩ := exists_eq_child is_root
        have up : location.follow .parent = location.parent := rfl
        rw [up]
        nth_rewrite 1 [same]
        rw [reversed_child]
        rfl
  | name name =>
      have into : location.follow (.name name) = location.child name := rfl
      rw [into, reversed_child]
      cases location.reversed with
      | nil => rfl
      | cons first before => cases first <;> rfl

theorem foldl_behind_reversed (location : Location) {components : List Path.Component}
    (others : ∀ component ∈ components, component ≠ .root) :
    components.foldl Path.Component.behind location.reversed =
      (components.foldl follow location).reversed := by
  induction components generalizing location with
  | nil => rfl
  | cons component rest ih =>
      rw [List.foldl_cons, List.foldl_cons, behind_reversed location (others _ List.mem_cons_self)]
      exact ih _ fun other listed => others other (List.mem_cons_of_mem _ listed)

/-- The cleaned text of an absolute path is that of the location to which it is followed. -/
theorem clean_of_absolute {path : String} (h : Path.isAbsolute path = true) :
    Path.clean path = ((Path.steps path).foldl follow root).text := by
  have others : ∀ component ∈ Path.steps path, component ≠ .root := by
    intro component listed
    rcases Path.mem_steps_cases listed with rfl | ⟨name, _, rfl⟩
    · exact Path.Component.noConfusion
    · exact Path.Component.noConfusion
  have followed : (Path.components path).foldl Path.Component.behind [] =
      ((Path.steps path).foldl follow root).reversed := by
    rw [Path.components_of_absolute h]
    exact foldl_behind_reversed root others
  rw [Path.clean, followed, match_reversed]

/-- The steps of a location's text are its names. -/
theorem Proper.steps_text (h : location.Proper) :
    Path.steps location.text = location.names.map .name := by
  have components := h.components_text
  rw [Path.components_of_absolute location.isAbsolute_text] at components
  exact (List.cons.inj components).2

theorem foldl_follow_names (location : Location) (names : List String) :
    (names.map Path.Component.name).foldl follow location = ⟨location.names ++ names⟩ := by
  induction names generalizing location with
  | nil => simp
  | cons name rest ih =>
      rw [List.map_cons, List.foldl_cons, ih]
      simp [follow, names_child]

/-- A relative path written behind the text of a location goes on with its steps. -/
theorem Proper.steps_join (h : directory.Proper) {path : String}
    (relative : Path.isAbsolute path = false) :
    Path.steps (Path.join directory.text path) =
      directory.names.map .name ++ Path.steps path := by
  have written : directory.text.isEmpty = false := by
    simp [text]
  rw [Path.join, relative, if_neg Bool.false_ne_true, written, Bool.false_or]
  split
  · next slash_last => rw [Path.steps_append_of_slash_last (eq_of_beq slash_last), h.steps_text]
  · rw [Path.steps_append_slash, h.steps_text]

theorem isAbsolute_join (directory : Location) (path : String) :
    Path.isAbsolute (Path.join directory.text path) = true := by
  rw [Path.join]
  split
  · assumption
  · split
    · simp [Path.isAbsolute, toList_text]
    · simp [Path.isAbsolute, toList_text]

/-- Following a path from a location cleans it: the text of where it leads is that of the path read
from the location's text, cleaned. -/
theorem Proper.text_along (h : directory.Proper) (path : String) :
    (directory.along path).text = Path.clean (Path.join directory.text path) := by
  rw [clean_of_absolute (isAbsolute_join directory path), along_eq]
  cases absolute : Path.isAbsolute path with
  | true =>
      rw [Path.join, absolute]
      rfl
  | false =>
      rw [h.steps_join absolute, List.foldl_append, foldl_follow_names]
      rfl

/-! ## Candidates are clean -/

/-- The text of a proper location is a clean path. -/
theorem Proper.isClean (h : location.Proper) : Path.IsClean location.text := by
  refine ⟨location.isAbsolute_text, ?_⟩
  by_cases is_root : location = .root
  · subst is_root
    exact .inl (by decide +kernel)
  · right
    obtain ⟨name, same⟩ := exists_eq_child is_root
    have pieces := (same ▸ h).pieces_text_child
    rw [← same] at pieces
    rw [pieces, List.tail_cons]
    intro piece listed
    obtain ⟨name, named, rfl⟩ := List.mem_map.mp listed
    have isName : IsName name := h name named
    refine ⟨?_, ?_, ?_⟩
    · exact fun same => isName.ne_empty (String.toList_eq_nil_iff.mp same)
    · exact fun same => isName.ne_here (String.toList_inj.mp same)
    · exact fun same => isName.ne_parent (String.toList_inj.mp same)

end Location

end ModuleGraph
