import ModuleGraph.Disk.Basic

/-!
# Names on the way to a location

A lookup goes from name to name, and the names are pieces of paths between slashes: none is empty,
is a dot or two, or has a slash in it (`Location.Proper`). Whatever an absolute path leads to is
such a location, on any disk and through any links. That is one of the properties that every step
of a lookup keeps (`Disk.Kept`); they hold where the lookup ends.

Proper locations can be told apart by their text (`Location.Proper.eq_of_text_eq`).
-/

namespace ModuleGraph

namespace Path

theorem exists_pieces_eq_cons (text : List Char) :
    ∃ first others, pieces text = first :: others :=
  List.exists_cons_of_ne_nil (List.splitOn_ne_nil '/' text)

/-- No piece of a text has a slash in it. -/
theorem not_mem_of_mem_pieces {text piece : List Char} (h : piece ∈ pieces text) : '/' ∉ piece := by
  induction text generalizing piece with
  | nil =>
      rw [List.mem_singleton.mp h]
      exact List.not_mem_nil
  | cons c rest ih =>
      rw [pieces, List.splitOn_cons_eq_if_modifyHead] at h
      split at h
      · rcases List.mem_cons.mp h with rfl | later
        · exact List.not_mem_nil
        · exact ih later
      · next other =>
        obtain ⟨first, others, shape⟩ := exists_pieces_eq_cons rest
        change piece ∈ (pieces rest).modifyHead (c :: ·) at h
        rw [shape, List.modifyHead_cons] at h
        rcases List.mem_cons.mp h with rfl | later
        · intro there
          rcases List.mem_cons.mp there with rfl | within
          · exact other BEq.rfl
          · exact ih (shape ▸ List.mem_cons_self) within
        · exact ih (shape ▸ List.mem_cons_of_mem _ later)

end Path

namespace Location

/-- A text that can be the name of something in a directory. -/
structure IsName (name : String) : Prop where
  ne_empty : name ≠ ""
  ne_here : name ≠ "."
  ne_parent : name ≠ ".."
  no_slash : '/' ∉ name.toList

instance (name : String) : Decidable (IsName name) :=
  decidable_of_iff (name ≠ "" ∧ name ≠ "." ∧ name ≠ ".." ∧ '/' ∉ name.toList)
    ⟨fun ⟨empty, here, parent, slash⟩ => ⟨empty, here, parent, slash⟩,
      fun ⟨empty, here, parent, slash⟩ => ⟨empty, here, parent, slash⟩⟩

/-- A piece of a path is a name, unless it stands for nothing or for the directory around. -/
theorem isName_ofList {piece : List Char} (ne_empty : piece ≠ []) (ne_here : piece ≠ ['.'])
    (ne_parent : piece ≠ ['.', '.']) (no_slash : '/' ∉ piece) : IsName (String.ofList piece) where
  ne_empty same := ne_empty (by simpa using congrArg String.toList same)
  ne_here same := ne_here (by simpa using congrArg String.toList same)
  ne_parent same := ne_parent (by simpa using congrArg String.toList same)
  no_slash := by rwa [String.toList_ofList]

/-- What begins with a name does not begin at the root. -/
theorem IsName.isAbsolute_append {name : String} (h : IsName name) (behind : String) :
    Path.isAbsolute (name ++ behind) = false := by
  cases letters : name.toList with
  | nil => exact absurd (String.toList_eq_nil_iff.mp letters) h.ne_empty
  | cons first rest =>
      have no_slash : first ≠ '/' := by
        rintro rfl
        exact h.no_slash (letters ▸ List.mem_cons_self)
      simp [Path.isAbsolute, letters, no_slash]

theorem IsName.isAbsolute_eq {name : String} (h : IsName name) : Path.isAbsolute name = false := by
  simpa using h.isAbsolute_append ""

/-- A location all of whose names can be names. -/
def Proper (location : Location) : Prop :=
  ∀ name ∈ location.names, IsName name

instance (location : Location) : Decidable location.Proper :=
  inferInstanceAs (Decidable (∀ name ∈ location.names, IsName name))

theorem toList_text (location : Location) :
    location.text.toList = '/' :: ['/'].intercalate (location.names.map String.toList) := by
  simp [text, String.toList_intercalate]

theorem isAbsolute_text (location : Location) : Path.isAbsolute location.text = true := by
  simp [Path.isAbsolute, toList_text]

/-- The first piece of a location's text is what is before the first slash, which is nothing. -/
theorem pieces_toList_text (location : Location) :
    Path.pieces location.text.toList =
      [] :: Path.pieces (['/'].intercalate (location.names.map String.toList)) := by
  rw [toList_text, Path.pieces, List.splitOn_cons_eq_if_modifyHead, if_pos BEq.rfl]
  rfl

theorem proper_root : root.Proper := fun _ present => absurd present List.not_mem_nil

theorem Proper.parent {location : Location} (h : location.Proper) : location.parent.Proper :=
  fun name present => h name ((List.dropLast_subset _) present)

/-- What holds of all names on the way to a directory and of a name holds on the way to that
name. -/
theorem forall_names_child {directory : Location} {name : String} {P : String → Prop}
    (before : ∀ other ∈ directory.names, P other) (last : P name) :
    ∀ other ∈ (directory.child name).names, P other := by
  intro other present
  rcases List.mem_append.mp present with earlier | same
  · exact before other earlier
  · exact List.mem_singleton.mp same ▸ last

theorem Proper.child {location : Location} {name : String} (h : location.Proper)
    (isName : IsName name) : (location.child name).Proper :=
  forall_names_child h isName

/-- The names of a proper location are the pieces of its text behind the first slash. -/
theorem Proper.pieces_text {location : Location} (h : location.Proper)
    (some_name : location.names ≠ []) :
    Path.pieces (['/'].intercalate (location.names.map String.toList)) =
      location.names.map String.toList := by
  apply List.splitOn_intercalate
  · intro piece present
    obtain ⟨name, listed, rfl⟩ := List.mem_map.mp present
    exact (h name listed).no_slash
  · simpa using some_name

/-- Proper locations that are written alike are the same. -/
theorem Proper.eq_of_text_eq {one other : Location} (h : one.Proper) (h' : other.Proper)
    (same : one.text = other.text) : one = other := by
  have same_joined : ['/'].intercalate (one.names.map String.toList) =
      ['/'].intercalate (other.names.map String.toList) := by
    have same_letters := congrArg String.toList same
    rw [toList_text, toList_text] at same_letters
    exact (List.cons.inj same_letters).2
  -- The root is written like no other location, since no name is empty.
  have root_alone {location : Location} (proper : location.Proper)
      (blank : ['/'].intercalate (location.names.map String.toList) = []) :
      location.names = [] := by
    by_cases none : location.names = []
    · exact none
    · have pieces := proper.pieces_text none
      rw [blank] at pieces
      have empty_name : [] ∈ location.names.map String.toList := by
        rw [← pieces]
        exact List.mem_singleton.mpr rfl
      obtain ⟨name, listed, empty⟩ := List.mem_map.mp empty_name
      exact absurd (String.toList_eq_nil_iff.mp empty) (proper name listed).ne_empty
  have same_names : one.names = other.names := by
    by_cases none : one.names = []
    · rw [none] at same_joined ⊢
      exact (root_alone h' same_joined.symm).symm
    · by_cases none' : other.names = []
      · rw [none'] at same_joined
        exact absurd (root_alone h same_joined) none
      · have pieces := h.pieces_text none
        rw [same_joined, h'.pieces_text none'] at pieces
        exact (List.map_inj_right fun _ _ => String.toList_inj.mp).mp pieces.symm
  exact congrArg Location.mk same_names

end Location

namespace Disk

variable {disk : Disk}

theorem not_mem_of_mem_piecesOf {path piece : String} (h : piece ∈ piecesOf path) :
    '/' ∉ piece.toList := by
  obtain ⟨letters, listed, rfl⟩ := List.mem_map.mp h
  rw [String.toList_ofList]
  exact Path.not_mem_of_mem_pieces listed

/-- A property of the locations that lookups come through, and one of those at which they end: each
step of a lookup, other than through a link, keeps them. -/
structure Kept (disk : Disk) (manner : Manner) (Through Ends : Location → Prop) : Prop where
  root : Through .root
  parent : ∀ {here : Location}, Through here → Through here.parent
  directory : ∀ {here : Location} {name : String}, Through here → Location.IsName name →
    disk.probe manner here name = .ok .directory → Through (here.child name)
  file : ∀ {here : Location} {name : String} {content : Content}, Through here →
    Location.IsName name → disk.probe manner here name = .ok (.file content) →
      Ends (here.child name)
  ends : ∀ {here : Location}, Through here → Ends here

namespace Kept

variable {manner : Manner} {Through Ends : Location → Prop}

/-- Following pieces keeps what is kept, if going through a link does. -/
theorem descend (kept : disk.Kept manner Through Ends)
    {throughLink : Location → String → List String → Except Cause Location}
    (through : ∀ here target rest location, Through here → (∀ piece ∈ rest, '/' ∉ piece.toList) →
      throughLink here target rest = .ok location → Ends location)
    {here location : Location} {pieces : List String} (start : Through here)
    (no_slash : ∀ piece ∈ pieces, '/' ∉ piece.toList)
    (h : disk.descend manner throughLink here pieces = .ok location) : Ends location := by
  induction pieces generalizing here with
  | nil =>
      cases h
      exact kept.ends start
  | cons piece rest ih =>
      have rest_no_slash : ∀ piece ∈ rest, '/' ∉ piece.toList :=
        fun other present => no_slash other (List.mem_cons_of_mem _ present)
      rw [Disk.descend] at h
      split at h
      · exact ih start rest_no_slash h
      · next not_void =>
        split at h
        · exact ih (kept.parent start) rest_no_slash h
        · next not_parent =>
          have isName : Location.IsName piece :=
            { ne_empty := fun same => not_void (by simp [same])
              ne_here := fun same => not_void (by simp [same])
              ne_parent := not_parent
              no_slash := no_slash piece List.mem_cons_self }
          split at h
          · cases h
          · next probed => exact ih (kept.directory start isName probed) rest_no_slash h
          · next probed =>
            split at h
            · cases h
              exact kept.file start isName probed
            · cases h
          · exact through _ _ _ _ start rest_no_slash h

/-- Links start over from the root or go on from where they stand. -/
theorem descendThrough (kept : disk.Kept manner Through Ends) {links : Nat}
    {here location : Location}
    {pieces : List String} (start : Through here) (no_slash : ∀ piece ∈ pieces, '/' ∉ piece.toList)
    (h : disk.descendThrough manner links here pieces = .ok location) : Ends location := by
  induction links generalizing here location pieces with
  | zero =>
      refine kept.descend ?_ start no_slash h
      intro here target rest location _ _ h
      cases h
  | succ links ih =>
      refine kept.descend ?_ start no_slash h
      intro here target rest location start rest_no_slash h
      have restart : Through (startOf target here) := by
        rw [startOf]
        split
        · exact kept.root
        · exact start
      have all_no_slash : ∀ piece ∈ piecesOf target ++ rest, '/' ∉ piece.toList := by
        intro piece present
        rcases List.mem_append.mp present with before | after
        · exact not_mem_of_mem_piecesOf before
        · exact rest_no_slash piece after
      exact ih restart all_no_slash h

/-- What is kept by lookups holds where a path leads, if the path is absolute or it holds of the
working directory. -/
theorem locate (kept : disk.Kept manner Through Ends) {path : String} {location : Location}
    (start : Path.isAbsolute path = true ∨ ∀ directory ∈ disk.workingDirectory, Through directory)
    (h : disk.locate manner path = .ok location) : Ends location := by
  rw [Disk.locate] at h
  split at h
  · next here started =>
    refine kept.descendThrough ?_ (fun _ => not_mem_of_mem_piecesOf) h
    rw [Disk.start] at started
    split at started
    · cases started
    · split at started
      · cases started
      · split at started
        · cases started
          exact kept.root
        · next relative =>
          split at started
          · next is_directory =>
            cases started
            exact start.resolve_left relative here is_directory
          · cases started
  · cases h

end Kept

theorem kept_proper (disk : Disk) (manner : Manner) :
    disk.Kept manner Location.Proper Location.Proper where
  root := Location.proper_root
  parent := Location.Proper.parent
  directory proper isName _ := proper.child isName
  file proper isName _ := proper.child isName
  ends := id

/-- A path leads to a proper location if it is absolute or starts from one. -/
theorem canonicalize_proper {path : String} {location : Location}
    (proper : Path.isAbsolute path = true ∨ ∀ directory ∈ disk.workingDirectory, directory.Proper)
    (h : disk.canonicalize path = .ok location) : location.Proper :=
  (disk.kept_proper .spelled).locate proper h

end Disk

end ModuleGraph
