import ModuleGraph.Proofs.Disk.Identity
import ModuleGraph.Proofs.Disk.Resolution

/-!
# Files that are too deep

A location may be longer than any path that a file system can be asked about. Links lead into such
depths all the same, and a file there is found to be a file. It cannot be located, however
(`Disk.canonicalize_of_long`).

`Disk.shaft` is a disk with such a file, and with paths that lead there. On the disk `Disk.abyss`
the working directory itself is so deep. A path that names it leads there, and its text does not.
-/

namespace ModuleGraph

namespace Location

/-- The text of a name in a directory other than the root is longer by a slash and the name. -/
theorem utf8ByteSize_text_child {directory : Location} (other : directory.names ≠ [])
    (name : String) : (directory.child name).text.utf8ByteSize =
      directory.text.utf8ByteSize + 1 + name.utf8ByteSize := by
  have slash : "/".utf8ByteSize = 1 := rfl
  rw [text, text, names_child, String.intercalate_append_of_ne_nil other (List.cons_ne_nil _ _)]
  simp only [String.utf8ByteSize_append, String.intercalate_singleton, slash]
  omega

end Location

namespace Disk

variable {disk : Disk} {path : String} {location : Location}

/-- What a path leads to cannot be located if its location is too long. -/
theorem canonicalize_of_long (absolute : Path.isAbsolute path = true)
    (led : disk.locate .stepwise path = .ok location)
    (long : pathLimit < location.text.utf8ByteSize) :
    disk.canonicalize path = .error .nameTooLong := by
  rcases disk.canonicalize_eq_locate path with same | fails
  · have fits : location.Fits := disk.kept_fits.locate (.inl absolute) (same.trans led)
    exact absurd fits.text (Nat.not_le.mpr long)
  · exact fails

theorem probe_stepwise {here : Location} {name : String} {entry : Entry}
    (short : name.utf8ByteSize ≤ nameLimit) (there : disk.entry? (here.child name) = some entry) :
    disk.probe .stepwise here name = .ok entry := by
  simp [probe, there, Nat.not_lt.mpr short]

/-- A link is followed wherever it stands. -/
theorem descendThrough_link {here : Location} {name target : String}
    (isName : Location.IsName name) (short : name.utf8ByteSize ≤ nameLimit)
    (there : disk.entry? (here.child name) = some (.link target)) (links : Nat)
    (rest : List String) :
    disk.descendThrough .stepwise (links + 1) here (name :: rest) =
      disk.descendThrough .stepwise links (startOf target here) (piecesOf target ++ rest) := by
  rw [descendThrough, descend_name isName, probe_stepwise short there]

/-- Names of directories are followed one after the other, however long the way is. -/
theorem Directory.descend_stepwise {here : Location} {names : List String}
    (stands : disk.Directory ⟨here.names ++ names⟩)
    (short : ∀ name ∈ names, name.utf8ByteSize ≤ nameLimit)
    (throughLink : Location → String → List String → Except Cause Location) (rest : List String) :
    disk.descend .stepwise throughLink here (names ++ rest) =
      disk.descend .stepwise throughLink ⟨here.names ++ names⟩ rest := by
  induction names generalizing here with
  | nil => rw [List.append_nil, List.nil_append]
  | cons name names ih =>
      have regroup : here.names ++ name :: names = (here.child name).names ++ names := by
        simp [Location.names_child]
      rw [regroup] at stands ⊢
      have inside : disk.Directory (here.child name) := stands.of_prefix (List.prefix_append _ _)
      have isName : Location.IsName name := inside.proper name (by simp [Location.names_child])
      rw [List.cons_append, descend_name isName,
        probe_stepwise (short name List.mem_cons_self) inside.entry?]
      exact ih stands fun other present => short other (List.mem_cons_of_mem _ present)

theorem Directory.descendThrough_stepwise (here : Location) {names : List String}
    (stands : disk.Directory ⟨here.names ++ names⟩)
    (short : ∀ name ∈ names, name.utf8ByteSize ≤ nameLimit) (links : Nat) (rest : List String) :
    disk.descendThrough .stepwise links here (names ++ rest) =
      disk.descendThrough .stepwise links ⟨here.names ++ names⟩ rest := by
  cases links with
  | zero => exact stands.descend_stepwise short _ rest
  | succ links => exact stands.descend_stepwise short _ rest

end Disk

/-! ## A disk with depths -/

/-- A name that is as long as a name may be. -/
def longestName : String :=
  String.ofList (List.replicate Disk.nameLimit 'n')

/-- The directory that so many of these names lead to. -/
def Location.level (depth : Nat) : Location :=
  ⟨List.replicate depth longestName⟩

/-- These directories down to a depth. -/
def Disk.levels : Nat → List (Location × Entry)
  | 0 => []
  | depth + 1 => (.level (depth + 1), .directory) :: levels depth

/-- A disk with a file that is too deep to be located. One link leads halfway down, and there a
second one leads on. -/
def Disk.shaft : Disk where
  entries :=
    ((Location.level 0).child "e.js", .file (.text "require('./m');")) ::
      ((Location.level 0).child "m.js", .file (.text "require('/l/l/x');")) ::
      ((Location.level 0).child "l", .link (Location.level 8).text) ::
      ((Location.level 8).child "l", .link ("/".intercalate (Location.level 8).names)) ::
      ((Location.level 16).child "x.js", .file (.text "")) :: levels 16
  workingDirectory := some .root

/-- A disk with a file at its root, and with a working directory that is too deep to be located by
its text. -/
def Disk.abyss : Disk where
  entries := ((Location.level 0).child "e.js", .file (.text "")) :: levels 16
  workingDirectory := some (.level 16)

theorem utf8ByteSize_longestName : longestName.utf8ByteSize = Disk.nameLimit := by
  have of_length (length : Nat) :
      (String.ofList (List.replicate length 'n')).utf8ByteSize = length := by
    induction length with
    | zero => rfl
    | succ length ih =>
        rw [List.replicate_succ', String.ofList_append, String.utf8ByteSize_append, ih]
        rfl
  rw [longestName, of_length]

theorem not_mem_longestName {c : Char} (other : c ≠ 'n') : c ∉ longestName.toList := by
  rw [longestName, String.toList_ofList]
  intro there
  exact other (List.eq_of_mem_replicate there)

theorem isName_longestName : Location.IsName longestName where
  ne_empty := by decide +kernel
  ne_here := by decide +kernel
  ne_parent := by decide +kernel
  no_slash := not_mem_longestName (by decide)

namespace Location

theorem level_succ (depth : Nat) : level (depth + 1) = (level depth).child longestName :=
  congrArg mk List.replicate_succ'

theorem utf8ByteSize_text_level (depth : Nat) :
    (level (depth + 1)).text.utf8ByteSize = 256 * (depth + 1) := by
  induction depth with
  | zero =>
      have slash : "/".utf8ByteSize = 1 := rfl
      have one : (level 1).text = "/" ++ longestName := rfl
      rw [one, String.utf8ByteSize_append, slash, utf8ByteSize_longestName]
      rfl
  | succ depth ih =>
      have other : (level (depth + 1)).names ≠ [] := List.cons_ne_nil _ _
      rw [level_succ, utf8ByteSize_text_child other, ih, utf8ByteSize_longestName]
      simp only [Disk.nameLimit]
      omega

/-- Names in these directories are told apart by their depth and by the name. -/
theorem level_child_beq {depth depth' : Nat} {name name' : String}
    (other : depth ≠ depth' ∨ name ≠ name') :
    ((level depth).child name == (level depth').child name') = false := by
  apply beq_eq_false_iff_ne.mpr
  intro same
  obtain ⟨before, last⟩ := List.append_inj' (congrArg names same) rfl
  rcases other with other | other
  · exact other (by simpa [level] using congrArg List.length before)
  · exact other (List.singleton_inj.mp last)

end Location

namespace Disk

open Location (level)

theorem lookup_levels {depth deepest : Nat} (h : depth < deepest) :
    (levels deepest).lookup ((level depth).child longestName) = some .directory := by
  induction deepest with
  | zero => exact absurd h (Nat.not_lt_zero depth)
  | succ deepest ih =>
      rw [levels, List.lookup_cons, Location.level_succ]
      by_cases same : depth = deepest
      · subst same
        rw [beq_self_eq_true]
      · rw [Location.level_child_beq (.inl same)]
        exact ih (by omega)

theorem entry?_child (disk : Disk) (directory : Location) (name : String) :
    disk.entry? (directory.child name) = disk.entries.lookup (directory.child name) := by
  rw [ entry?, if_neg (by simp [Location.child, Location.root])]

/-- If each of these directories is there, names lead to all of them. -/
theorem directory_level {disk : Disk} {deepest : Nat}
    (there : ∀ depth < deepest, disk.entry? ((level depth).child longestName) = some .directory)
    {depth : Nat} (h : depth ≤ deepest) : disk.Directory (level depth) := by
  induction depth with
  | zero => exact .root
  | succ depth ih =>
      rw [Location.level_succ]
      exact (ih (Nat.le_of_succ_le h)).child isName_longestName (there depth h)

/-- A location in one of these directories, with a name that it can have. -/
def InLevels (deepest : Nat) (location : Location) : Prop :=
  ∃ depth ≤ deepest, ∃ name, Location.IsName name ∧ '\x00' ∉ name.toList ∧
    location = (level depth).child name

theorem exists_eq_of_mem_levels {location : Location} {deepest : Nat}
    (listed : location ∈ (levels deepest).map (·.1)) :
    ∃ depth < deepest, location = (level depth).child longestName := by
  induction deepest with
  | zero => cases listed
  | succ deepest ih =>
      rcases List.mem_cons.mp listed with rfl | above
      · exact ⟨deepest, Nat.lt_succ_self deepest, Location.level_succ deepest⟩
      · obtain ⟨depth, shallow, same⟩ := ih above
        exact ⟨depth, Nat.lt_succ_of_lt shallow, same⟩

theorem inLevels_of_mem_levels {location : Location} {deepest : Nat}
    (listed : location ∈ (levels deepest).map (·.1)) : InLevels deepest location := by
  obtain ⟨depth, shallow, rfl⟩ := exists_eq_of_mem_levels listed
  exact ⟨depth, Nat.le_of_lt shallow, longestName, isName_longestName,
    not_mem_longestName (by decide), rfl⟩

/-- A disk is well-formed if these directories are there, everything is in one of them, and the
working directory is one of them. -/
theorem wellFormed_of_inLevels {disk : Disk} {deepest : Nat}
    (there : ∀ depth < deepest, disk.entry? ((level depth).child longestName) = some .directory)
    (inside : ∀ location ∈ disk.entries.map (·.1), InLevels deepest location)
    (working : ∀ directory ∈ disk.workingDirectory, ∃ depth ≤ deepest, directory = level depth) :
    disk.WellFormed where
  isName := by
    intro location listed
    obtain ⟨depth, shallow, name, isName, _, rfl⟩ := inside location listed
    exact (directory_level there shallow).proper.child isName
  nulFree := by
    intro location listed
    obtain ⟨depth, _, name, _, nulFree, rfl⟩ := inside location listed
    have before : ∀ other ∈ (level depth).names, '\x00' ∉ other.toList := by
      intro other present
      rw [List.eq_of_mem_replicate present]
      exact not_mem_longestName (by decide)
    exact Location.forall_names_child before nulFree
  around := by
    intro location listed
    obtain ⟨depth, shallow, name, _, _, rfl⟩ := inside location listed
    rw [Location.parent_child]
    exact Directory.entry? (directory_level there shallow)
  workingDirectory := by
    intro directory is_directory
    obtain ⟨depth, shallow, rfl⟩ := working directory is_directory
    exact Directory.entry? (directory_level there shallow)

/-! ## A file that is too deep -/

theorem entry?_shaft_level {depth : Nat} (h : depth < 16) :
    shaft.entry? ((level depth).child longestName) = some .directory := by
  have short : longestName ≠ "e.js" ∧ longestName ≠ "m.js" ∧ longestName ≠ "l" ∧
      longestName ≠ "x.js" := by decide +kernel
  rw [entry?_child, shaft]
  simp only [List.lookup_cons, Location.level_child_beq (.inr short.1),
    Location.level_child_beq (.inr short.2.1), Location.level_child_beq (.inr short.2.2.1),
    Location.level_child_beq (.inr short.2.2.2)]
  exact lookup_levels h

theorem shaft_directory {depth : Nat} (h : depth ≤ 16) : shaft.Directory (level depth) :=
  directory_level (fun _ => entry?_shaft_level) h

theorem shaft_wellFormed : shaft.WellFormed := by
  refine wellFormed_of_inLevels (fun _ => entry?_shaft_level) (fun location listed => ?_)
    (fun directory is_directory => ?_)
  · simp only [shaft, List.map_cons, List.mem_cons] at listed
    rcases listed with rfl | rfl | rfl | rfl | rfl | listed
    · exact ⟨0, by decide, "e.js", by decide, by decide, rfl⟩
    · exact ⟨0, by decide, "m.js", by decide, by decide, rfl⟩
    · exact ⟨0, by decide, "l", by decide, by decide, rfl⟩
    · exact ⟨8, by decide, "l", by decide, by decide, rfl⟩
    · exact ⟨16, by decide, "x.js", by decide, by decide, rfl⟩
    · exact inLevels_of_mem_levels listed
  · cases is_directory
    exact ⟨0, by decide, rfl⟩

theorem entry?_shaft_link : shaft.entry? ((level 0).child "l") =
    some (.link (level 8).text) := rfl

theorem entry?_shaft_far : shaft.entry? ((level 8).child "l") =
    some (.link ("/".intercalate (level 8).names)) := by
  have apart (name : String) : ((level 8).child "l" == (level 0).child name) = false :=
    Location.level_child_beq (.inl (by decide))
  rw [entry?_child, shaft]
  simp only [List.lookup_cons, apart, beq_self_eq_true]

theorem entry?_shaft_file : shaft.entry? ((level 16).child "x.js") =
    some (.file (.text "")) := by
  have apart (name : String) : ((level 16).child "x.js" == (level 0).child name) = false :=
    Location.level_child_beq (.inl (by decide))
  have apart' : ((level 16).child "x.js" == (level 8).child "l") = false :=
    Location.level_child_beq (.inl (by decide))
  rw [entry?_child, shaft]
  simp only [List.lookup_cons, apart, apart', beq_self_eq_true]

/-- The links lead to the file. -/
theorem locate_shaft : shaft.locate .stepwise "/l/l/x.js" = .ok ((level 16).child "x.js") := by
  have halfway : shaft.Directory (level 8) := shaft_directory (by decide)
  have bottom : shaft.Directory (level 16) := shaft_directory (by decide)
  have short : ∀ name ∈ (level 8).names, name.utf8ByteSize ≤ nameLimit := by
    intro name present
    rw [List.eq_of_mem_replicate present]
    exact Nat.le_of_eq utf8ByteSize_longestName
  have some_name : (level 8).names ≠ [] := List.cons_ne_nil _ _
  obtain ⟨relative, pieces⟩ := relative_intercalate halfway.proper some_name
  have started : shaft.start "/l/l/x.js" = .ok .root := by decide +kernel
  have cut : piecesOf "/l/l/x.js" = ["", "l", "l", "x.js"] := by decide +kernel
  calc
    shaft.locate .stepwise "/l/l/x.js" =
        shaft.descendThrough .stepwise 40 (level 0) ["l", "l", "x.js"] := by
      rw [locate, started, cut]
      exact descend_void _ _
    _ = shaft.descendThrough .stepwise 39 .root ((level 8).names ++ ["l", "x.js"]) := by
      rw [descendThrough_link (by decide) (by decide) entry?_shaft_link, startOf,
        if_pos (level 8).isAbsolute_text, piecesOf_text halfway.proper, if_neg some_name]
      exact descend_void _ _
    _ = shaft.descendThrough .stepwise 39 (level 8) ["l", "x.js"] :=
      halfway.descendThrough_stepwise .root short 39 ["l", "x.js"]
    _ = shaft.descendThrough .stepwise 38 (level 8) ((level 8).names ++ ["x.js"]) := by
      rw [descendThrough_link (by decide) (by decide) entry?_shaft_far, startOf, relative, pieces]
      rfl
    _ = shaft.descendThrough .stepwise 38 (level 16) ["x.js"] :=
      bottom.descendThrough_stepwise (level 8) short 38 ["x.js"]
    _ = .ok ((level 16).child "x.js") := by
      rw [descendThrough, descend_name (by decide),
        probe_stepwise (by decide) entry?_shaft_file]
      rfl

/-- The file is one, and cannot be located. -/
theorem shaft_too_deep : shaft.isFile "/l/l/x.js" = true ∧
    shaft.canonicalize "/l/l/x.js" = .error .nameTooLong := by
  have long : pathLimit < ((level 16).child "x.js").text.utf8ByteSize := by
    have deep : (level 16).text.utf8ByteSize = 4096 := Location.utf8ByteSize_text_level 15
    have longer := Location.utf8ByteSize_text_le_child (level 16) "x.js"
    simp only [pathLimit]
    omega
  constructor
  · exact isFile_iff.mpr ⟨by decide, _, _, locate_shaft, entry?_shaft_file⟩
  · exact canonicalize_of_long rfl locate_shaft long

/-- A specifier for it fails, however it is spelled. -/
theorem resolve_shaft {extensions : List String} {file : Location} {specifier : String}
    (tried : Resolver.candidates extensions file.parent specifier = [⟨["l", "l", "x.js"]⟩]) :
    shaft.access.resolve extensions file specifier =
      .error (.unreadable "/l/l/x.js" .nameTooLong) := by
  obtain ⟨isFile, deep⟩ := shaft_too_deep
  have written : Location.text ⟨["l", "l", "x.js"]⟩ = "/l/l/x.js" := by decide +kernel
  apply resolve_eq_error_iff.mpr
  simp [obstacle?, tried, written, isFile, deep]

/-! ## A working directory that is too deep -/

theorem abyss_wellFormed : abyss.WellFormed := by
  have there (depth : Nat) (h : depth < 16) :
      abyss.entry? ((level depth).child longestName) = some .directory := by
    have other : longestName ≠ "e.js" := by decide +kernel
    rw [entry?_child, abyss]
    simp only [List.lookup_cons, Location.level_child_beq (.inr other)]
    exact lookup_levels h
  refine wellFormed_of_inLevels there (fun location listed => ?_) (fun directory is_directory => ?_)
  · rcases List.mem_cons.mp listed with rfl | listed
    · exact ⟨0, by decide, "e.js", by decide, by decide, rfl⟩
    · exact inLevels_of_mem_levels listed
  · cases is_directory
    exact ⟨16, by decide, rfl⟩

/-- There are no other names on that disk. -/
theorem entry?_abyss_child (directory : Location) {name : String} (other : name ≠ "e.js")
    (other' : name ≠ longestName) : abyss.entry? (directory.child name) = none := by
  have apart {directory' : Location} {name' : String} (different : name ≠ name') :
      directory.child name ≠ directory'.child name' := by
    intro same
    obtain ⟨_, last⟩ := List.append_inj' (congrArg Location.names same) rfl
    exact different (List.singleton_inj.mp last)
  rw [entry?_child, List.lookup_eq_none_iff]
  rintro ⟨location, entry⟩ listed
  apply bne_iff_ne.mpr
  rcases List.mem_cons.mp listed with first | deeper
  · cases first
    exact apart other
  · obtain ⟨depth, _, rfl⟩ := exists_eq_of_mem_levels (List.mem_map_of_mem deeper)
    exact apart other'

theorem not_fits_level : ¬ (level 16).Fits := by
  intro fits
  have deep : (level 16).text.utf8ByteSize = 4096 := Location.utf8ByteSize_text_level 15
  have short := fits.text
  simp only [pathLimit] at short
  omega

/-- The working directory can be located where it is named as such, and not by its text. -/
theorem abyss_too_deep : abyss.canonicalize "." = .ok (level 16) ∧
    abyss.canonicalize (level 16).text = .error .nameTooLong := by
  have stands : abyss.Stands (level 16) :=
    .directory (abyss_wellFormed.workingDirectory_directory _ rfl)
  constructor
  · rfl
  · rw [stands.canonicalize_text (abyss_wellFormed.nulFree_of_stands stands),
      if_neg not_fits_level]

end Disk

end ModuleGraph
