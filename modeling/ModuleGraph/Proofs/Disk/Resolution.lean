import ModuleGraph.Proofs.Disk.Lookup
import ModuleGraph.Proofs.Session.Standing
import ModuleGraph.Proofs.Walk.Expansion

/-!
# What resolution finds on a disk

A specifier that leads anywhere leads to a file of the disk, so there are no more targets than
there are entries. A walk on a disk therefore has entrances enough.
-/

namespace ModuleGraph

/-- The first file among candidates is the first of which it is said that it is one. -/
theorem Resolver.firstFile_eq_find? (access : Access Id) (candidates : List Location) :
    (firstFile access candidates : Option Location) =
      candidates.find? fun candidate => access.isFile candidate.text := by
  induction candidates with
  | nil => rfl
  | cons first rest ih =>
      rw [List.find?_cons, ← ih]
      simp only [firstFile, bind]
      cases access.isFile first.text <;> rfl

/-- The first file among candidates is one of them, and it is a file. -/
theorem Resolver.isFile_of_firstFile {access : Access Id} {candidates : List Location}
    {candidate : Location} (h : firstFile access candidates = some candidate) :
    candidate ∈ candidates ∧ access.isFile candidate.text = true := by
  have first := (firstFile_eq_find? access candidates).symm.trans h
  exact ⟨List.mem_of_find?_eq_some first, by simpa using List.find?_some first⟩

/-- A specifier leads to the location of the first candidate that is a file. -/
theorem Access.resolve_eq_ok_iff {access : Access Id} {extensions : List String}
    {file found : Location} {specifier : String} :
    access.resolve extensions file specifier = .ok found ↔
      ∃ candidate,
        (Resolver.firstFile access (Resolver.candidates extensions file.parent specifier) :
          Option Location) = some candidate ∧
        (access.canonicalize candidate.text : Except Cause Location) = .ok found := by
  rw [resolve]
  cases (Resolver.firstFile access (Resolver.candidates extensions file.parent specifier) :
      Option Location) with
  | none =>
      constructor
      · intro led
        cases led
      · rintro ⟨_, absent, _⟩
        cases absent
  | some candidate =>
      constructor
      · intro h
        refine ⟨candidate, rfl, ?_⟩
        dsimp only at h
        cases led : access.canonicalize candidate.text with
        | error cause => rw [led] at h; cases h
        | ok location => rw [led] at h; cases h; rfl
      · rintro ⟨_, same, led⟩
        cases same
        dsimp only
        rw [led]

namespace Disk

/-- A path leads to a file exactly if it is not too long and there is a file where it leads. -/
theorem isFile_iff {disk : Disk} {path : String} :
    disk.isFile path = true ↔ path.utf8ByteSize ≤ pathLimit ∧
      ∃ location content, disk.locate .stepwise path = .ok location ∧
        disk.entry? location = some (.file content) := by
  rw [isFile, find]
  by_cases long : path.utf8ByteSize > pathLimit
  · simp [long, Nat.not_le.mpr long]
  · rw [if_neg long, and_iff_right (Nat.not_lt.mp long)]
    cases led : disk.locate .stepwise path with
    | error cause => simp
    | ok location =>
        cases there : disk.entry? location with
        | none => simp [there]
        | some entry => cases entry <;> simp [there]

/-- A path that leads to a file is located there, or a location on the way is too long. -/
theorem canonicalize_of_isFile {disk : Disk} {path : String} (h : disk.isFile path = true) :
    (∃ location content, disk.canonicalize path = .ok location ∧
        disk.entry? location = some (.file content)) ∨
      disk.canonicalize path = .error .nameTooLong := by
  obtain ⟨_, location, content, led, there⟩ := isFile_iff.mp h
  rcases disk.canonicalize_eq_locate path with same | long
  · exact .inl ⟨location, content, same.trans led, there⟩
  · exact .inr long

/-- Where a file stands whose text leads to a file, it is located by its text. -/
theorem Stands.canonicalize_of_isFile {disk : Disk} {location : Location}
    (h : disk.Stands location) (isFile : disk.isFile location.text = true) :
    disk.canonicalize location.text = .ok location := by
  obtain ⟨short, found, _, led, _⟩ := isFile_iff.mp isFile
  obtain rfl := h.eq_of_locate_text led
  have names := (disk.kept_names_le .stepwise).locate (.inl found.isAbsolute_text) led
  have nulFree : found.NulFree := by
    apply Location.nulFree_iff.mpr
    intro nul
    rw [locate, start, if_pos (List.contains_iff_mem.mpr nul)] at led
    cases led
  rcases h.locate_text .spelled with located | ⟨unaskable, _⟩
  · exact located
  · exact absurd ⟨⟨short, names⟩, nulFree⟩ unaskable

/-- A location other than the root at which anything stands is one of the disk's. -/
theorem mem_entries_of_entry? {disk : Disk} {location : Location} {entry : Entry}
    (h : disk.entry? location = some entry) (other : entry ≠ .directory) :
    location ∈ disk.entries.map (·.1) := by
  refine mem_entries_of_ne_root h ?_
  rintro rfl
  cases h
  exact other rfl

/-- Where a specifier leads there is a file. -/
theorem entry?_of_resolve {disk : Disk} {extensions : List String} {file found : Location}
    {specifier : String} (h : disk.access.resolve extensions file specifier = .ok found) :
    ∃ content, disk.entry? found = some (.file content) := by
  obtain ⟨candidate, first, led⟩ := Access.resolve_eq_ok_iff.mp h
  obtain ⟨_, isFile⟩ := Resolver.isFile_of_firstFile first
  rcases canonicalize_of_isFile isFile with ⟨location, content, led', there⟩ | long
  · cases led.symm.trans led'
    exact ⟨content, there⟩
  · cases led.symm.trans long

/-- Names lead to where a specifier leads, without a link among them. -/
theorem stands_of_resolve {disk : Disk} {extensions : List String} {file found : Location}
    {specifier : String} (h : disk.access.resolve extensions file specifier = .ok found) :
    disk.Stands found := by
  obtain ⟨candidate, _, led⟩ := Access.resolve_eq_ok_iff.mp h
  exact canonicalize_stands (Or.inl candidate.isAbsolute_text) led

/-- Where a specifier leads is a proper location. -/
theorem proper_of_resolve {disk : Disk} {extensions : List String} {file found : Location}
    {specifier : String} (h : disk.access.resolve extensions file specifier = .ok found) :
    found.Proper :=
  (stands_of_resolve h).proper

/-- What keeps a specifier in a file from leading anywhere, if anything does: none of its
candidates is a file, or the first that is one cannot be located, since it is too deep. -/
def obstacle? (disk : Disk) (extensions : List String) (file : Location) (specifier : String) :
    Option Failure :=
  let candidates := Resolver.candidates extensions file.parent specifier
  match candidates.find? fun candidate => disk.isFile candidate.text with
  | none => some (.unresolved specifier file.text candidates)
  | some candidate =>
    if disk.canonicalize candidate.text = .error .nameTooLong then
      some (.unreadable candidate.text .nameTooLong)
    else none

/-- Whether a specifier in a file leads anywhere. -/
def resolves (disk : Disk) (extensions : List String) (file : Location) (specifier : String) :
    Bool :=
  (disk.obstacle? extensions file specifier).isNone

/-- What keeps a specifier from leading anywhere is that it is unresolved, or that the first of its
candidates that is a file is too deep. -/
theorem obstacle?_cases {disk : Disk} {extensions : List String} {file : Location}
    {specifier : String} {failure : Failure}
    (h : disk.obstacle? extensions file specifier = some failure) :
    (∀ candidate ∈ Resolver.candidates extensions file.parent specifier,
        disk.isFile candidate.text = false) ∧
      failure = .unresolved specifier file.text
        (Resolver.candidates extensions file.parent specifier) ∨
    ∃ candidate ∈ Resolver.candidates extensions file.parent specifier,
      disk.isFile candidate.text = true ∧
      disk.canonicalize candidate.text = .error .nameTooLong ∧
      failure = .unreadable candidate.text .nameTooLong := by
  unfold obstacle? at h
  dsimp only at h
  split at h
  · next none_found =>
    cases h
    exact .inl ⟨by simpa using none_found, rfl⟩
  · next candidate first =>
    split at h
    · next deep =>
      cases h
      have isFile : disk.isFile candidate.text = true := by
        simpa using List.find?_some first
      exact .inr ⟨candidate, List.mem_of_find?_eq_some first, isFile, deep, rfl⟩
    · cases h

/-- A specifier leads where the first of its candidates is that the disk says is a file. -/
theorem resolve_eq (disk : Disk) (extensions : List String) (file : Location) (specifier : String) :
    disk.access.resolve extensions file specifier =
      match (Resolver.candidates extensions file.parent specifier).find? fun candidate =>
          disk.isFile candidate.text with
      | none => .error (.unresolved specifier file.text
          (Resolver.candidates extensions file.parent specifier))
      | some candidate =>
        (disk.canonicalize candidate.text).mapError (.unreadable candidate.text) := by
  have asked (path : String) :
      (disk.access.canonicalize path : Except Cause Location) = disk.canonicalize path := rfl
  have first : (Resolver.firstFile disk.access
        (Resolver.candidates extensions file.parent specifier) : Option Location) =
      (Resolver.candidates extensions file.parent specifier).find?
        fun candidate => disk.isFile candidate.text := Resolver.firstFile_eq_find? _ _
  rw [Access.resolve, first]
  cases (Resolver.candidates extensions file.parent specifier).find?
      fun candidate => disk.isFile candidate.text with
  | none => rfl
  | some candidate =>
      simp only [asked]
      cases disk.canonicalize candidate.text with
      | error cause => rfl
      | ok found => rfl

/-- A specifier fails to lead anywhere exactly for what the disk says keeps it from that. -/
theorem resolve_eq_error_iff {disk : Disk} {extensions : List String} {file : Location}
    {specifier : String} {failure : Failure} :
    disk.access.resolve extensions file specifier = .error failure ↔
      disk.obstacle? extensions file specifier = some failure := by
  rw [resolve_eq, obstacle?]
  cases first : (Resolver.candidates extensions file.parent specifier).find?
      fun candidate => disk.isFile candidate.text with
  | none => simp
  | some candidate =>
      have isFile : disk.isFile candidate.text = true := by
        simpa using List.find?_some first
      rcases canonicalize_of_isFile isFile with ⟨location, _, led, _⟩ | long
      · simp [led, Except.mapError]
      · simp [long, Except.mapError]

/-- There are no more targets than there are entries on a disk. -/
theorem mem_entries_of_mem_targets [Source.Parser] {disk : Disk} {options : Options}
    (file : Location) :
    ∀ target ∈ (disk.access.answers options).targets file,
      target ∈ disk.entries.map (·.1) := by
  intro target present
  obtain ⟨request, led⟩ := Answers.exists_target_of_mem_targets _ present
  obtain ⟨content, there⟩ := entry?_of_resolve led
  exact mem_entries_of_entry? there Entry.noConfusion

/-- A disk is of a size that is enough for its entries. -/
theorem length_entries_le_size (disk : Disk) :
    (disk.entries.map (·.1)).length ≤ disk.access.size.run := by
  rw [List.length_map]
  exact Nat.le_succ _

end Disk

end ModuleGraph
