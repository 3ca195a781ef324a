import ModuleGraph.Proofs.Disk.Lookup
import ModuleGraph.Resolver

/-!
# What a path names

Where a path leads is told here by rules, one for each kind of piece (`Disk.Leads`): links are
followed as often as it takes, nothing is ever too long, and a link that leads back to itself leads
nowhere. There is at most one place to which a path leads (`Disk.Leads.unique`).

Without hard links everything on a disk is a thing of its own, and so things can be numbered
(`Disk.number?`). A path names the thing with the number of the place to which it leads, and two
paths name the same file if they name the thing with the same number (`Disk.SameFile`). A lookup
comes to the place to which its path leads (`Disk.leads_of_locate`), so which thing a path
names can be told from where the lookup ends (`Disk.names_iff_of_canonicalize`).
-/

namespace ModuleGraph

theorem Location.IsName.not_mem {name : String} (h : IsName name) : name ∉ ["", ".", ".."] := by
  simp [h.ne_empty, h.ne_here, h.ne_parent]

namespace Disk

/-! ## Places to which paths lead -/

/-- Pieces of a path lead from one location to another one. -/
inductive Leads (disk : Disk) : Location → List String → Location → Prop
  | here {here : Location} : Leads disk here [] here
  | void {here location : Location} {piece : String} {rest : List String}
      (stays : piece = "" ∨ piece = ".") (onward : Leads disk here rest location) :
      Leads disk here (piece :: rest) location
  | up {here location : Location} {rest : List String}
      (onward : Leads disk here.parent rest location) : Leads disk here (".." :: rest) location
  | into {here location : Location} {name : String} {rest : List String}
      (isName : name ∉ ["", ".", ".."])
      (there : disk.entry? (here.child name) = some .directory)
      (onward : Leads disk (here.child name) rest location) :
      Leads disk here (name :: rest) location
  /-- Behind a file there can be nothing left, not even a slash. -/
  | file {here : Location} {name : String} {content : Content} (isName : name ∉ ["", ".", ".."])
      (there : disk.entry? (here.child name) = some (.file content)) :
      Leads disk here [name] (here.child name)
  /-- The pieces of a link's target stand for its name. They are read where the link is, or from
  the root. -/
  | through {here location : Location} {name target : String} {rest : List String}
      (isName : name ∉ ["", ".", ".."])
      (there : disk.entry? (here.child name) = some (.link target))
      (onward : Leads disk (startOf target here) (piecesOf target ++ rest) location) :
      Leads disk here (name :: rest) location

variable {disk : Disk} {here location : Location} {pieces : List String} {path : String}

/-- A piece at which nothing changes is no name. -/
theorem not_stays {name : String} (isName : name ∉ ["", ".", ".."]) :
    ¬ (name = "" ∨ name = ".") := by
  rintro (rfl | rfl)
  · exact isName (by simp)
  · exact isName (by simp)

/-- What stands at a name decides on the way, so pieces lead to one location at most. -/
theorem Leads.unique {other : Location} (h : disk.Leads here pieces location)
    (h' : disk.Leads here pieces other) : location = other := by
  induction h with
  | here =>
      cases h'
      rfl
  | void stays onward ih =>
      cases h' with
      | void _ onward' => exact ih onward'
      | up _ => simp at stays
      | into isName _ _ | file isName _ | through isName _ _ =>
          exact absurd stays (not_stays isName)
  | up onward ih =>
      cases h' with
      | void stays _ => simp at stays
      | up onward' => exact ih onward'
      | into isName _ _ | file isName _ | through isName _ _ => simp at isName
  | into isName there onward ih =>
      cases h' with
      | void stays _ => exact absurd stays (not_stays isName)
      | up _ => simp at isName
      | into _ _ onward' => exact ih onward'
      | file _ there' | through _ there' _ => cases there.symm.trans there'
  | file isName there =>
      cases h' with
      | void stays _ => exact absurd stays (not_stays isName)
      | up _ => simp at isName
      | into _ there' _ | through _ there' _ => cases there.symm.trans there'
      | file _ _ => rfl
  | through isName there onward ih =>
      cases h' with
      | void stays _ => exact absurd stays (not_stays isName)
      | up _ => simp at isName
      | into _ there' _ | file _ there' => cases there.symm.trans there'
      | through _ there' onward' =>
          cases there.symm.trans there'
          exact ih onward'

/-! ## Lookups come to these places -/

/-- Pieces that are followed lead to where they are followed to, if links do. -/
theorem leads_of_descend {manner : Manner}
    {throughLink : Location → String → List String → Except Cause Location}
    (through : ∀ here target rest location, throughLink here target rest = .ok location →
      disk.Leads (startOf target here) (piecesOf target ++ rest) location)
    (h : disk.descend manner throughLink here pieces = .ok location) :
    disk.Leads here pieces location := by
  induction pieces generalizing here with
  | nil =>
      cases h
      exact .here
  | cons piece rest ih =>
      rw [descend] at h
      split at h
      · next void => exact .void (by simpa using void) (ih h)
      · next not_void =>
        split at h
        · next parent =>
          subst parent
          exact .up (ih h)
        · next not_parent =>
          have isName : piece ∉ ["", ".", ".."] := by
            simpa [not_parent] using not_void
          split at h
          · cases h
          · next probed => exact .into isName (entry?_of_probe probed) (ih h)
          · next probed =>
            split at h
            · next last =>
              subst last
              cases h
              exact .file isName (entry?_of_probe probed)
            · cases h
          · next probed =>
            exact .through isName (entry?_of_probe probed) (through _ _ _ _ h)

theorem leads_of_descendThrough {manner : Manner} {links : Nat}
    (h : disk.descendThrough manner links here pieces = .ok location) :
    disk.Leads here pieces location := by
  -- Where no link may be followed any more there is no result, so the number of links is no matter.
  induction links generalizing here location pieces with
  | zero =>
      refine leads_of_descend ?_ h
      intro here target rest location h
      cases h
  | succ links ih =>
      refine leads_of_descend ?_ h
      intro here target rest location h
      exact ih h

/-- A lookup ends where its path leads. -/
theorem leads_of_locate {manner : Manner} (h : disk.locate manner path = .ok location) :
    ∃ here, disk.start path = .ok here ∧ disk.Leads here (piecesOf path) location := by
  rw [locate] at h
  split at h
  · next here started => exact ⟨here, started, leads_of_descendThrough h⟩
  · cases h

/-! ## The way to what stands -/

/-- The names of a directory lead there. -/
theorem Directory.leads_names (h : disk.Directory here) {rest : List String}
    (onward : disk.Leads here rest location) :
    disk.Leads .root (here.names ++ rest) location := by
  induction h generalizing rest with
  | root => exact onward
  | child around isName there ih =>
      rw [Location.names_child, List.append_assoc, List.singleton_append]
      exact ih (.into isName.not_mem there onward)

/-- The names of what stands lead there. -/
theorem Stands.leads_names (h : disk.Stands location) :
    disk.Leads .root location.names location := by
  cases h with
  | directory h => simpa using h.leads_names .here
  | file around isName there => exact around.leads_names (.file isName.not_mem there)

/-- The text of what stands leads there. -/
theorem Stands.leads_text (h : disk.Stands location) :
    disk.Leads .root (piecesOf location.text) location := by
  have onward := h.leads_names
  rw [piecesOf_text h.proper]
  refine .void (Or.inl rfl) ?_
  split
  · next is_root =>
    rw [is_root] at onward
    exact .void (Or.inl rfl) onward
  · exact onward

/-! ## Files -/

/-- The number of what stands at a location: the root is numbered 0, and everything else as it is
listed. Without hard links nothing stands at two locations. -/
def number? (disk : Disk) (location : Location) : Option Nat :=
  if location = .root then some 0
  else ((disk.entries.map (·.1)).idxOf? location).map (· + 1)

/-- Whatever stands anywhere has a number. -/
theorem exists_number? {entry : Entry} (h : disk.entry? location = some entry) :
    ∃ number, disk.number? location = some number := by
  rw [number?]
  split
  · exact ⟨0, rfl⟩
  · next other =>
    have listed := mem_entries_of_ne_root h other
    cases searched : (disk.entries.map (·.1)).idxOf? location with
    | none => exact absurd listed (List.idxOf?_eq_none_iff.mp searched)
    | some position => exact ⟨position + 1, rfl⟩

/-- What has a number stands at one location only. -/
theorem eq_of_number? {one other : Location} {number : Nat} (h : disk.number? one = some number)
    (h' : disk.number? other = some number) : one = other := by
  rw [number?] at h h'
  split at h
  · next one_root =>
    split at h'
    · next other_root => exact one_root.trans other_root.symm
    · cases h
      obtain ⟨position, _, same⟩ := Option.map_eq_some_iff.mp h'
      cases same
  · obtain ⟨position, searched, rfl⟩ := Option.map_eq_some_iff.mp h
    split at h'
    · cases h'
    · obtain ⟨position', searched', same⟩ := Option.map_eq_some_iff.mp h'
      cases same
      obtain ⟨_, stands, _⟩ := List.idxOf?_eq_some_iff.mp searched
      obtain ⟨_, stands', _⟩ := List.idxOf?_eq_some_iff.mp searched'
      exact stands.symm.trans stands'

/-- A path names the thing with a number: it leads to where that stands. -/
def Names (disk : Disk) (path : String) (number : Nat) : Prop :=
  ∃ here location, disk.start path = .ok here ∧ disk.Leads here (piecesOf path) location ∧
    disk.number? location = some number

/-- Two paths name the same file, be it a directory. -/
def SameFile (disk : Disk) (one other : String) : Prop :=
  ∃ number, disk.Names one number ∧ disk.Names other number

/-- What a path names can be told from where it leads. -/
theorem names_iff_of_leads {number : Nat} (started : disk.start path = .ok here)
    (leads : disk.Leads here (piecesOf path) location) :
    disk.Names path number ↔ disk.number? location = some number := by
  constructor
  · rintro ⟨here', location', started', leads', numbered⟩
    cases started.symm.trans started'
    rwa [leads.unique leads']
  · intro numbered
    exact ⟨here, location, started, leads, numbered⟩

theorem names_iff_of_canonicalize {number : Nat} (h : disk.canonicalize path = .ok location) :
    disk.Names path number ↔ disk.number? location = some number := by
  obtain ⟨here, started, leads⟩ := leads_of_locate h
  exact names_iff_of_leads started leads

theorem Stands.names_text_iff {number : Nat} (h : disk.Stands location)
    (nulFree : location.NulFree) :
    disk.Names location.text number ↔ disk.number? location = some number :=
  names_iff_of_leads (start_text nulFree) h.leads_text

/-- Where a path leads, the text of the location names what the path names. -/
theorem sameFile_text (stands : disk.Stands location) (nulFree : location.NulFree)
    (h : disk.canonicalize path = .ok location) : disk.SameFile path location.text := by
  obtain ⟨entry, there⟩ := stands.exists_entry?
  obtain ⟨number, numbered⟩ := exists_number? there
  exact ⟨number, (names_iff_of_canonicalize h).mpr numbered,
    (stands.names_text_iff nulFree).mpr numbered⟩

/-- The texts of two locations at which something stands name the same file exactly if the
locations are the same. -/
theorem Stands.sameFile_iff {other : Location} (h : disk.Stands location)
    (nulFree : location.NulFree) (h' : disk.Stands other) (nulFree' : other.NulFree) :
    location = other ↔ disk.SameFile location.text other.text := by
  constructor
  · rintro rfl
    obtain ⟨entry, there⟩ := h.exists_entry?
    obtain ⟨number, numbered⟩ := exists_number? there
    have names := (h.names_text_iff nulFree).mpr numbered
    exact ⟨number, names, names⟩
  · rintro ⟨number, names, names'⟩
    exact eq_of_number? ((h.names_text_iff nulFree).mp names)
      ((h'.names_text_iff nulFree').mp names')

/-! ## Locations without links -/

/-- A location that is written as an absolute path without a link in it. -/
structure Unlinked (disk : Disk) (location : Location) : Prop where
  proper : location.Proper
  absolute : Path.isAbsolute location.text = true
  no_link : ∀ around, location.isWithin around = true →
    ∀ target, disk.entry? around ≠ some (.link target)

theorem Directory.of_prefix {around : Location} (h : disk.Directory location)
    (before : around.names <+: location.names) : disk.Directory around := by
  induction h with
  | root =>
      have is_root : around = .root := congrArg Location.mk (List.prefix_nil.mp before)
      rw [is_root]
      exact .root
  | @child directory name inside isName there ih =>
      rcases List.prefix_concat_iff.mp before with all | earlier
      · have same : around = directory.child name := congrArg Location.mk all
        rw [same]
        exact inside.child isName there
      · exact ih earlier

/-- Whatever stands lies in directories only. -/
theorem Stands.of_prefix {around : Location} (h : disk.Stands location)
    (before : around.names <+: location.names) : disk.Stands around := by
  cases h with
  | directory h => exact .directory (h.of_prefix before)
  | @file directory name content inside isName there =>
      rcases List.prefix_concat_iff.mp before with all | earlier
      · have same : around = directory.child name := congrArg Location.mk all
        rw [same]
        exact .file inside isName there
      · exact .directory (inside.of_prefix earlier)

theorem Stands.entry?_ne_link (h : disk.Stands location) (target : String) :
    disk.entry? location ≠ some (.link target) := by
  intro linked
  cases h with
  | directory h => cases linked.symm.trans h.entry?
  | file _ _ there => cases linked.symm.trans there

theorem Stands.unlinked (h : disk.Stands location) : disk.Unlinked location where
  proper := h.proper
  absolute := location.isAbsolute_text
  no_link _ within := (h.of_prefix (List.isPrefixOf_iff_prefix.mp within)).entry?_ne_link

end Disk

end ModuleGraph
