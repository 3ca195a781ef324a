import ModuleGraph.Proofs.Disk.Resolution
import ModuleGraph.Proofs.Walk.Agreement

/-!
# Other contents

Giving files other contents (`Disk.rewrite`) changes nothing about where anything is. Every path
leads where it led, whatever was a file is one, and specifiers lead to the same files. All that can
change is what is read, and that only where the file that is read was given other contents
(`Disk.readText_rewrite`).
-/

namespace ModuleGraph

/-- What stands somewhere once it has been given other contents, if it is a file. -/
def Entry.rewrite (bytes : Option ByteArray) : Entry → Entry
  | .file content => .file (bytes.elim content Content.ofBytes)
  | .directory => .directory
  | .link target => .link target

/-- Where specifiers lead is a matter of which paths lead to files, and to which. -/
theorem Access.resolve_congr {one other : Access Id}
    (canonicalize : ∀ path, one.canonicalize path = other.canonicalize path)
    (isFile : ∀ path, one.isFile path = other.isFile path) (extensions : List String)
    (file : Location) (specifier : String) :
    one.resolve extensions file specifier = other.resolve extensions file specifier := by
  have first (candidates : List Location) :
      (Resolver.firstFile one candidates : Option Location) =
        Resolver.firstFile other candidates := by
    induction candidates with
    | nil => rfl
    | cons candidate rest ih =>
        simp only [Resolver.firstFile, bind, isFile]
        rw [ih]
  rw [resolve, resolve, first]
  simp only [canonicalize]

namespace Disk

/-- The disk with other contents in some of its files. -/
def rewrite (disk : Disk) (contents : Location → Option ByteArray) : Disk where
  entries := disk.entries.map fun (location, entry) =>
    (location, entry.rewrite (contents location))
  workingDirectory := disk.workingDirectory

variable (disk : Disk) (contents : Location → Option ByteArray)

/-- At every location there stands what stood there, with the contents that it was given. -/
theorem entry?_rewrite (location : Location) :
    Disk.entry? (disk.rewrite contents) location =
      ( disk.entry? location).map (Entry.rewrite (contents location)) := by
  have looked (entries : List (Location × Entry)) :
      (entries.map fun (other, entry) => (other, entry.rewrite (contents other))).lookup location =
        (entries.lookup location).map (Entry.rewrite (contents location)) := by
    induction entries with
    | nil => rfl
    | cons first rest ih =>
        rw [List.map_cons, List.lookup_cons, List.lookup_cons, ih]
        by_cases same : location = first.1
        · simp [same]
        · simp [beq_eq_false_iff_ne.mpr same]
  rw [ entry?, entry?]
  split
  · rfl
  · exact looked disk.entries

theorem probe_rewrite (manner : Manner) (directory : Location) (name : String) :
    (disk.rewrite contents).probe manner directory name =
      (disk.probe manner directory name).map (Entry.rewrite (contents (directory.child name))) := by
  simp only [probe, entry?_rewrite]
  split
  · rfl
  · split
    · rfl
    · cases disk.entry? (directory.child name) <;> rfl

/-! ## Everything is where it was -/

theorem locations_rewrite :
    (disk.rewrite contents).entries.map (·.1) = disk.entries.map (·.1) := by
  rw [rewrite, List.map_map]
  rfl

theorem size_rewrite : (disk.rewrite contents).access.size.run = disk.access.size.run := by
  simp [access, rewrite]

theorem descend_rewrite (manner : Manner)
    (throughLink : Location → String → List String → Except Cause Location)
    (here : Location) (pieces : List String) :
    (disk.rewrite contents).descend manner throughLink here pieces =
      disk.descend manner throughLink here pieces := by
  induction pieces generalizing here with
  | nil => rfl
  | cons piece rest ih =>
      rw [descend, descend, ih, ih, probe_rewrite]
      rcases disk.probe manner here piece with cause | _ | _ | _
      · rfl
      · simp only [Except.map, Entry.rewrite, ih]
      · rfl
      · rfl

theorem descendThrough_rewrite (manner : Manner) (links : Nat) :
    (disk.rewrite contents).descendThrough manner links = disk.descendThrough manner links := by
  induction links with
  | zero =>
      funext here pieces
      exact descend_rewrite disk contents manner _ here pieces
  | succ links ih =>
      funext here pieces
      rw [descendThrough, descendThrough, ih]
      exact descend_rewrite disk contents manner _ here pieces

theorem locate_rewrite (manner : Manner) (path : String) :
    (disk.rewrite contents).locate manner path = disk.locate manner path := by
  rw [locate, locate, descendThrough_rewrite]
  rfl

theorem canonicalize_rewrite (path : String) :
    (disk.rewrite contents).canonicalize path = disk.canonicalize path :=
  locate_rewrite disk contents .spelled path

theorem isFile_rewrite (path : String) :
    (disk.rewrite contents).isFile path = disk.isFile path := by
  rw [Bool.eq_iff_iff, isFile_iff, isFile_iff]
  simp only [locate_rewrite, entry?_rewrite]
  refine and_congr_right fun _ => exists_congr fun location => ?_
  constructor
  · rintro ⟨content, led, there⟩
    obtain ⟨entry, there, rewritten⟩ := Option.map_eq_some_iff.mp there
    cases entry with
    | directory => cases rewritten
    | file content => exact ⟨content, led, there⟩
    | link target => cases rewritten
  · rintro ⟨content, led, there⟩
    exact ⟨_, led, by rw [there]; rfl⟩

theorem resolve_rewrite (extensions : List String) (file : Location) (specifier : String) :
    (disk.rewrite contents).access.resolve extensions file specifier =
      disk.access.resolve extensions file specifier :=
  Access.resolve_congr (canonicalize_rewrite disk contents) (isFile_rewrite disk contents)
    extensions file specifier

/-! ## Only what was rewritten reads differently -/

variable {disk contents}

/-- What stands reads as before if it was not given other contents. -/
theorem readText_rewrite {file : Location} (stands : disk.Stands file)
    (kept : contents file = none) :
    (disk.rewrite contents).readText file.text = disk.readText file.text := by
  rw [readText, readText, find, find, locate_rewrite]
  by_cases long : file.text.utf8ByteSize > pathLimit
  · rw [if_pos long, if_pos long]
  · rw [if_neg long, if_neg long]
    cases led : disk.locate .stepwise file.text with
    | error cause => rfl
    | ok location =>
        obtain rfl := stands.eq_of_locate_text led
        simp only [entry?_rewrite, kept]
        rcases disk.entry? location with _ | _ | _ | _ <;> rfl

variable {options : Options}

/-- What stands is answered for as before if it was not given other contents. -/
theorem agreeOn_rewrite [Source.Parser] {file : Location} (stands : disk.Stands file)
    (kept : contents file = none) :
    (disk.access.answers options).AgreeOn
      ((disk.rewrite contents).access.answers options) file := by
  have imports : ((disk.rewrite contents).access.answers options).imports file =
      (disk.access.answers options).imports file := by
    have read : (disk.rewrite contents).access.readText file.text =
        disk.access.readText file.text := readText_rewrite stands kept
    simp only [Access.answers, Access.requests, read]
  have target : ((disk.rewrite contents).access.answers options).target =
      (disk.access.answers options).target := by
    funext file specifier
    exact resolve_rewrite disk contents _ file specifier
  constructor
  · rw [Answers.targets, Answers.targets, imports]
    simp only [Answers.resolved, target]
  · rw [Answers.failures, Answers.failures, imports]
    simp only [Answers.unresolved, target]

end Disk

end ModuleGraph
