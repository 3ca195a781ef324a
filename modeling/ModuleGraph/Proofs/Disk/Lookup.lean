import Mathlib.Data.List.Induction
import ModuleGraph.Proofs.Disk.Names

/-!
# Where lookups end

A lookup goes from directory to directory and ends at a directory or a file. So no link is on the
way to the location that a path leads to: the location stands (`Disk.canonicalize_stands`).

What stands can only be found again by its text. `Disk.Stands.locate_text`: the text leads there,
unless a file system cannot be asked about it, which is so for no location that a lookup on a
well-formed disk has found (`Disk.canonicalize_canonicalize`).
-/

namespace ModuleGraph

namespace Location

/-- A location that is short enough for a file system to be asked about it. -/
structure Fits (location : Location) : Prop where
  text : location.text.utf8ByteSize ≤ Disk.pathLimit
  names : ∀ name ∈ location.names, name.utf8ByteSize ≤ Disk.nameLimit

instance (location : Location) : Decidable location.Fits :=
  decidable_of_iff (location.text.utf8ByteSize ≤ Disk.pathLimit ∧
      ∀ name ∈ location.names, name.utf8ByteSize ≤ Disk.nameLimit)
    ⟨fun ⟨text, names⟩ => ⟨text, names⟩, fun ⟨text, names⟩ => ⟨text, names⟩⟩

/-- A location without the character that no path may have. -/
def NulFree (location : Location) : Prop :=
  ∀ name ∈ location.names, '\x00' ∉ name.toList

instance (location : Location) : Decidable location.NulFree :=
  inferInstanceAs (Decidable (∀ name ∈ location.names, '\x00' ∉ name.toList))

theorem names_child (directory : Location) (name : String) :
    (directory.child name).names = directory.names ++ [name] := rfl

@[simp]
theorem parent_child (directory : Location) (name : String) :
    (directory.child name).parent = directory := by
  simp [child, parent]

/-- A location other than the root is a name in the directory around it. -/
theorem exists_eq_child {location : Location} (other : location ≠ .root) :
    ∃ name, location = location.parent.child name := by
  obtain ⟨names⟩ := location
  have some_name : names ≠ [] := fun none => other (congrArg mk none)
  exact ⟨names.getLast some_name, congrArg mk (List.dropLast_concat_getLast some_name).symm⟩

/-- The characters of a location's text, other than slashes, are those of its names. -/
theorem mem_toList_text {location : Location} {c : Char} (other : c ≠ '/') :
    c ∈ location.text.toList ↔ ∃ name ∈ location.names, c ∈ name.toList := by
  obtain ⟨names⟩ := location
  rw [toList_text, List.mem_cons, or_iff_right other]
  induction names with
  | nil => simp
  | cons first rest ih =>
      cases rest with
      | nil => simp
      | cons second rest =>
          simp only [List.map_cons, List.intercalate_cons_cons, List.mem_append,
            List.mem_singleton, other, or_false] at ih ⊢
          rw [ih]
          simp

theorem nulFree_iff {location : Location} :
    location.NulFree ↔ '\x00' ∉ location.text.toList := by
  rw [mem_toList_text (by decide)]
  simp [NulFree]

theorem nulFree_root : root.NulFree := fun _ present => absurd present List.not_mem_nil

/-- The text of a name in a directory is not shorter than that of the directory. -/
theorem utf8ByteSize_text_le_child (directory : Location) (name : String) :
    directory.text.utf8ByteSize ≤ (directory.child name).text.utf8ByteSize := by
  rw [text, text, names_child]
  by_cases is_root : directory.names = []
  · simp [is_root]
  · rw [String.intercalate_append_of_ne_nil is_root (List.cons_ne_nil _ _)]
    simp only [String.utf8ByteSize_append]
    omega

theorem fits_root : root.Fits :=
  ⟨by decide +kernel, fun _ present => absurd present List.not_mem_nil⟩

theorem Fits.parent {location : Location} (h : location.Fits) : location.parent.Fits := by
  by_cases is_root : location = .root
  · subst is_root
    exact h
  · obtain ⟨name, same⟩ := exists_eq_child is_root
    refine ⟨?_, fun other present => h.names other (List.dropLast_subset _ present)⟩
    have longer := utf8ByteSize_text_le_child location.parent name
    rw [← same] at longer
    exact Nat.le_trans longer h.text

end Location

namespace Disk

variable {disk : Disk} {manner : Manner} {location here : Location} {name : String} {entry : Entry}

/-- What a file system replies is what stands there. -/
theorem entry?_of_probe (h : disk.probe manner here name = .ok entry) :
    disk.entry? (here.child name) = some entry := by
  rw [probe] at h
  split at h
  · cases h
  · split at h
    · cases h
    · split at h
      · next there =>
        cases h
        exact there
      · cases h

/-- A file system is not asked about a name that is too long. -/
theorem name_le_of_probe (h : disk.probe manner here name = .ok entry) :
    name.utf8ByteSize ≤ nameLimit := by
  rw [probe] at h
  split at h
  · cases h
  · next short => exact Nat.not_lt.mp short

theorem fits_of_probe (around : here.Fits) (h : disk.probe .spelled here name = .ok entry) :
    (here.child name).Fits where
  text := by
    rw [probe] at h
    split at h
    · cases h
    · split at h
      · cases h
      · next short => exact Nat.not_lt.mp fun long => short ⟨rfl, long⟩
  names := Location.forall_names_child around.names (name_le_of_probe h)

/-- A file system replies what stands somewhere, unless the question is too long. -/
theorem probe_of_entry? (h : disk.entry? (here.child name) = some entry) :
    disk.probe manner here name = .ok entry ∨
      ¬ (here.child name).Fits ∧ disk.probe manner here name = .error .nameTooLong := by
  rw [probe, h]
  split
  · next long =>
    refine Or.inr ⟨fun fits => ?_, rfl⟩
    exact absurd (fits.names name (by simp [Location.names_child])) (Nat.not_le.mpr long)
  · split
    · next long => exact Or.inr ⟨fun fits => absurd fits.text (Nat.not_le.mpr long.2), rfl⟩
    · exact Or.inl rfl

/-- A directory to which its names lead, none of them a link. -/
inductive Directory (disk : Disk) : Location → Prop
  | root : Directory disk .root
  | child {directory : Location} {name : String} (around : Directory disk directory)
      (isName : Location.IsName name)
      (there : disk.entry? (directory.child name) = some .directory) :
      Directory disk (directory.child name)

/-- A directory or a file to which its names lead, none of them a link. -/
inductive Stands (disk : Disk) : Location → Prop
  | directory {location : Location} (h : disk.Directory location) : Stands disk location
  | file {directory : Location} {name : String} {content : Content}
      (around : disk.Directory directory) (isName : Location.IsName name)
      (there : disk.entry? (directory.child name) = some (.file content)) :
      Stands disk (directory.child name)

theorem Directory.parent (h : disk.Directory location) : disk.Directory location.parent := by
  cases h with
  | root => exact .root
  | child around isName there => rwa [Location.parent_child]

theorem Directory.proper (h : disk.Directory location) : location.Proper := by
  induction h with
  | root => exact Location.proper_root
  | child around isName there ih => exact ih.child isName

theorem Stands.proper (h : disk.Stands location) : location.Proper := by
  cases h with
  | directory h => exact h.proper
  | file around isName there => exact around.proper.child isName

theorem Directory.entry? (h : disk.Directory location) :
    disk.entry? location = some .directory := by
  cases h with
  | root => rfl
  | child around isName there => exact there

theorem Stands.exists_entry? (h : disk.Stands location) :
    ∃ entry, disk.entry? location = some entry := by
  cases h with
  | directory h => exact ⟨_, h.entry?⟩
  | file _ _ there => exact ⟨_, there⟩

/-! ## Lookups end at what stands -/

theorem kept_stands (disk : Disk) (manner : Manner) :
    disk.Kept manner disk.Directory disk.Stands where
  root := .root
  parent := Directory.parent
  directory around isName probed := around.child isName (entry?_of_probe probed)
  file around isName probed := .file around isName (entry?_of_probe probed)
  ends := .directory

theorem kept_fits (disk : Disk) : disk.Kept .spelled Location.Fits Location.Fits where
  root := Location.fits_root
  parent := Location.Fits.parent
  directory around _ probed := fits_of_probe around probed
  file around _ probed := fits_of_probe around probed
  ends := id

theorem kept_names_le (disk : Disk) (manner : Manner) :
    disk.Kept manner (fun location => ∀ name ∈ location.names, name.utf8ByteSize ≤ nameLimit)
      fun location => ∀ name ∈ location.names, name.utf8ByteSize ≤ nameLimit where
  root := Location.fits_root.names
  parent short name present := short name (List.dropLast_subset _ present)
  directory around _ probed := Location.forall_names_child around (name_le_of_probe probed)
  file around _ probed := Location.forall_names_child around (name_le_of_probe probed)
  ends := id

/-- No link is on the way to the location that a path leads to. -/
theorem canonicalize_stands {path : String}
    (start : Path.isAbsolute path = true ∨ ∀ directory ∈ disk.workingDirectory,
      disk.Directory directory)
    (h : disk.canonicalize path = .ok location) : disk.Stands location :=
  (disk.kept_stands .spelled).locate start h

/-! ## Two manners of looking up -/

theorem probe_spelled (disk : Disk) (here : Location) (name : String) :
    disk.probe .spelled here name = disk.probe .stepwise here name ∨
      disk.probe .spelled here name = .error .nameTooLong := by
  by_cases long : (here.child name).text.utf8ByteSize > pathLimit
  · right
    simp [probe, long]
  · left
    simp [probe, long]

/-- A descent that spells out locations comes to what one in steps comes to, unless a location is
too long, if links do so. -/
theorem descend_spelled {spelled stepwise : Location → String → List String → Except Cause Location}
    (through : ∀ here target rest, spelled here target rest = stepwise here target rest ∨
      spelled here target rest = .error .nameTooLong) (here : Location) (pieces : List String) :
    disk.descend .spelled spelled here pieces = disk.descend .stepwise stepwise here pieces ∨
      disk.descend .spelled spelled here pieces = .error .nameTooLong := by
  induction pieces generalizing here with
  | nil => exact .inl rfl
  | cons piece rest ih =>
      rw [descend, descend]
      split
      · exact ih here
      · split
        · exact ih here.parent
        · rcases disk.probe_spelled here piece with same | long
          · rw [same]
            rcases disk.probe .stepwise here piece with cause | _ | _ | target
            · exact .inl rfl
            · exact ih (here.child piece)
            · exact .inl rfl
            · exact through here target rest
          · rw [long]
            exact .inr rfl

theorem descendThrough_spelled (links : Nat) (here : Location) (pieces : List String) :
    disk.descendThrough .spelled links here pieces =
        disk.descendThrough .stepwise links here pieces ∨
      disk.descendThrough .spelled links here pieces = .error .nameTooLong := by
  induction links generalizing here pieces with
  | zero => exact descend_spelled (fun _ _ _ => .inl rfl) here pieces
  | succ links ih =>
      apply descend_spelled
      intro here target rest
      exact ih (startOf target here) (piecesOf target ++ rest)

/-- Asking for the location of a path comes to what the path leads to, unless a location on the way
is too long to be spelled out. -/
theorem canonicalize_eq_locate (disk : Disk) (path : String) :
    disk.canonicalize path = disk.locate .stepwise path ∨
      disk.canonicalize path = .error .nameTooLong := by
  rw [canonicalize, locate, locate]
  cases disk.start path with
  | error cause => exact .inl rfl
  | ok here => exact descendThrough_spelled linkLimit here (piecesOf path)

/-! ## What stands is found again -/

section Descent

variable {throughLink : Location → String → List String → Except Cause Location}

theorem descend_void (here : Location) (rest : List String) :
    disk.descend manner throughLink here ("" :: rest) =
      disk.descend manner throughLink here rest := by
  rw [descend]
  rfl

theorem descend_name (isName : Location.IsName name) (here : Location) (rest : List String) :
    disk.descend manner throughLink here (name :: rest) =
      match disk.probe manner here name with
      | .error cause => .error cause
      | .ok .directory => disk.descend manner throughLink (here.child name) rest
      | .ok (.file _) => if rest = [] then .ok (here.child name) else .error .notDirectory
      | .ok (.link target) => throughLink here target rest := by
  have not_void : ¬ (name = "" || name = ".") = true := by
    simp [isName.ne_empty, isName.ne_here]
  rcases probed : disk.probe manner here name with cause | _ | _ | _
  all_goals rw [descend, if_neg not_void, if_neg isName.ne_parent, probed]

/-- The names of a directory lead there. -/
theorem Directory.descend_names (h : disk.Directory location)
    (throughLink : Location → String → List String → Except Cause Location)
    (rest : List String) :
    disk.descend manner throughLink .root (location.names ++ rest) =
        disk.descend manner throughLink location rest ∨
      ¬ location.Fits ∧
        disk.descend manner throughLink .root (location.names ++ rest) = .error .nameTooLong := by
  induction h generalizing rest with
  | root => exact Or.inl rfl
  | @child directory name around isName there ih =>
      rw [Location.names_child, List.append_assoc, List.singleton_append]
      rcases ih (name :: rest) with same | ⟨long, fails⟩
      · rw [same, descend_name isName]
        rcases probe_of_entry? there with probed | ⟨long, probed⟩
        · rw [probed]
          exact Or.inl rfl
        · rw [probed]
          exact Or.inr ⟨long, rfl⟩
      · refine Or.inr ⟨fun fits => long ?_, fails⟩
        simpa using fits.parent

/-- The names of what stands lead there. -/
theorem Stands.descend_names (h : disk.Stands location)
    (throughLink : Location → String → List String → Except Cause Location) :
    disk.descend manner throughLink .root location.names = .ok location ∨
      ¬ location.Fits ∧
        disk.descend manner throughLink .root location.names = .error .nameTooLong := by
  cases h with
  | directory h => simpa [descend] using h.descend_names throughLink []
  | @file directory name content around isName there =>
      rw [Location.names_child]
      rcases around.descend_names throughLink [name] with same | ⟨long, fails⟩
      · rw [same, descend_name isName]
        rcases probe_of_entry? there with probed | ⟨long, probed⟩
        · rw [probed]
          exact Or.inl rfl
        · rw [probed]
          exact Or.inr ⟨long, rfl⟩
      · refine Or.inr ⟨fun fits => long ?_, fails⟩
        simpa using fits.parent

/-- The pieces of a location's text are its names, behind nothing before the first slash. The root
has nothing behind it either. -/
theorem piecesOf_text (proper : location.Proper) :
    piecesOf location.text = "" :: if location.names = [] then [""] else location.names := by
  rw [piecesOf, Location.pieces_toList_text, List.map_cons]
  congr 1
  split
  · next is_root =>
    rw [is_root]
    rfl
  · next other =>
    rw [proper.pieces_text other, List.map_map]
    exact (List.map_congr_left fun name _ => String.ofList_toList).trans (List.map_id _)

/-- Names with slashes between them are a relative path. -/
theorem relative_intercalate {location : Location} (proper : location.Proper)
    (some_name : location.names ≠ []) :
    Path.isAbsolute ("/".intercalate location.names) = false ∧
      piecesOf ("/".intercalate location.names) = location.names := by
  have letters : ("/".intercalate location.names).toList =
      ['/'].intercalate (location.names.map String.toList) := by
    simp [String.toList_intercalate]
  have pieces := proper.pieces_text some_name
  constructor
  · obtain ⟨first, rest, same⟩ := List.exists_cons_of_ne_nil some_name
    have first_isName : Location.IsName first := proper first (same ▸ List.mem_cons_self)
    cases rest with
    | nil => simpa [same] using first_isName.isAbsolute_eq
    | cons second rest =>
        rw [same, String.intercalate_cons_cons, String.append_assoc]
        exact first_isName.isAbsolute_append _
  · rw [piecesOf, letters, pieces, List.map_map]
    exact (List.map_congr_left fun name _ => String.ofList_toList).trans (List.map_id _)

/-- The pieces of a location's text lead where its names lead. -/
theorem descend_piecesOf_text (proper : location.Proper) (here : Location) :
    disk.descend manner throughLink here (piecesOf location.text) =
      disk.descend manner throughLink here location.names := by
  rw [piecesOf_text proper, descend_void]
  split
  · next is_root =>
    rw [is_root]
    exact descend_void here []
  · rfl

end Descent

theorem start_text (nulFree : location.NulFree) : disk.start location.text = .ok .root := by
  have written : location.text.isEmpty = false := by
    simp [Location.text]
  rw [start, if_neg fun there => Location.nulFree_iff.mp nulFree (List.contains_iff_mem.mp there),
    written, if_neg Bool.false_ne_true, if_pos location.isAbsolute_text]

/-- The text of what stands leads there, unless it cannot be asked about. -/
theorem Stands.locate_text (h : disk.Stands location) (manner : Manner) :
    disk.locate manner location.text = .ok location ∨
      ¬ (location.Fits ∧ location.NulFree) ∧ ∃ cause,
        disk.locate manner location.text = .error cause := by
  by_cases nulFree : location.NulFree
  · rw [locate, start_text nulFree]
    dsimp only
    rw [linkLimit, descendThrough, descend_piecesOf_text h.proper]
    rcases h.descend_names _ with found | ⟨long, fails⟩
    · exact Or.inl found
    · exact Or.inr ⟨fun askable => long askable.1, _, fails⟩
  · have nul : '\x00' ∈ location.text.toList :=
      Classical.byContradiction fun absent => nulFree (Location.nulFree_iff.mpr absent)
    rw [locate, start, if_pos (List.contains_iff_mem.mpr nul)]
    exact Or.inr ⟨fun askable => nulFree askable.2, _, rfl⟩

/-- The text of what stands leads nowhere else. -/
theorem Stands.eq_of_locate_text {found : Location} (h : disk.Stands location)
    (led : disk.locate manner location.text = .ok found) : found = location := by
  rcases h.locate_text manner with same | ⟨_, cause, fails⟩
  · exact Except.ok.inj (led.symm.trans same)
  · cases led.symm.trans fails

/-- The text of what stands leads there exactly if it is short enough to be asked about. -/
theorem Stands.canonicalize_text (h : disk.Stands location) (nulFree : location.NulFree) :
    disk.canonicalize location.text =
      if location.Fits then .ok location else .error .nameTooLong := by
  have followed : disk.canonicalize location.text =
      disk.descendThrough .spelled linkLimit .root location.names := by
    rw [canonicalize, locate, start_text nulFree]
    exact descend_piecesOf_text h.proper .root
  rcases h.descend_names _ with found | ⟨long, fails⟩
  · have led : disk.canonicalize location.text = .ok location := followed.trans found
    rw [led, if_pos (disk.kept_fits.locate (Or.inl location.isAbsolute_text) led)]
  · rw [followed, if_neg long]
    exact fails

/-! ## Well-formed disks -/

/-- A disk on which everything has a name that it can have, and is in a directory that is there. -/
structure WellFormed (disk : Disk) : Prop where
  isName : ∀ location ∈ disk.entries.map (·.1), location.Proper
  nulFree : ∀ location ∈ disk.entries.map (·.1), location.NulFree
  around : ∀ location ∈ disk.entries.map (·.1), disk.entry? location.parent = some .directory
  workingDirectory : ∀ directory ∈ disk.workingDirectory, disk.entry? directory = some .directory

instance (disk : Disk) : Decidable disk.WellFormed :=
  decidable_of_iff ((∀ location ∈ disk.entries.map (·.1), location.Proper) ∧
      (∀ location ∈ disk.entries.map (·.1), location.NulFree) ∧
      (∀ location ∈ disk.entries.map (·.1),
        disk.entry? location.parent = some .directory) ∧
      ∀ directory ∈ disk.workingDirectory, disk.entry? directory = some .directory)
    ⟨fun ⟨isName, nulFree, around, working⟩ => ⟨isName, nulFree, around, working⟩,
      fun ⟨isName, nulFree, around, working⟩ => ⟨isName, nulFree, around, working⟩⟩

/-- Where anything stands but the root, there is an entry of the disk. -/
theorem mem_entries_of_ne_root (h : disk.entry? location = some entry) (other : location ≠ .root) :
    location ∈ disk.entries.map (·.1) := by
  rw [ Disk.entry?, if_neg other] at h
  obtain ⟨before, after, listed, _⟩ := List.lookup_eq_some_iff.mp h
  simp [listed]

namespace WellFormed

/-- On a well-formed disk, names lead to every directory. -/
theorem directory (wellFormed : disk.WellFormed) (h : disk.entry? location = some .directory) :
    disk.Directory location := by
  obtain ⟨names⟩ := location
  induction names using List.reverseRecOn with
  | nil => exact .root
  | append_singleton names name ih =>
      change disk.entry? (Location.child ⟨names⟩ name) = some .directory at h
      have listed := mem_entries_of_ne_root h (by simp [Location.child, Location.root])
      have around := wellFormed.around _ listed
      rw [Location.parent_child] at around
      have isName : Location.IsName name :=
        wellFormed.isName _ listed name (by simp [Location.names_child])
      exact (ih around).child isName h

theorem workingDirectory_directory (wellFormed : disk.WellFormed) :
    ∀ directory ∈ disk.workingDirectory, disk.Directory directory :=
  fun directory is_directory =>
    wellFormed.directory (wellFormed.workingDirectory directory is_directory)

/-- Whatever is there on a well-formed disk can be written. -/
theorem nulFree_of_entry? (wellFormed : disk.WellFormed) (h : disk.entry? location = some entry) :
    location.NulFree := by
  by_cases is_root : location = .root
  · rw [is_root]
    exact Location.nulFree_root
  · exact wellFormed.nulFree _ (mem_entries_of_ne_root h is_root)

theorem nulFree_of_stands (wellFormed : disk.WellFormed) (h : disk.Stands location) :
    location.NulFree := by
  obtain ⟨entry, there⟩ := h.exists_entry?
  exact wellFormed.nulFree_of_entry? there

end WellFormed

/-- On a well-formed disk, what a path leads to is found again by its text. A relative path has to
start from where the file system can be asked about. -/
theorem canonicalize_canonicalize (wellFormed : disk.WellFormed) {path : String}
    (short : Path.isAbsolute path = true ∨ ∀ directory ∈ disk.workingDirectory, directory.Fits)
    (h : disk.canonicalize path = .ok location) :
    disk.canonicalize location.text = .ok location := by
  have stands := canonicalize_stands (Or.inr wellFormed.workingDirectory_directory) h
  have fits : location.Fits := disk.kept_fits.locate short h
  rw [stands.canonicalize_text (wellFormed.nulFree_of_stands stands), if_pos fits]

end Disk

end ModuleGraph
