import ModuleGraph.Proofs.Disk.Resolution

/-!
# What is wrong with a file

Whether a file can be expanded in full is a matter of the disk. It must be possible to read it, its
text must be well formed, and each of its requests must lead to a file.
`Disk.flaws` lists all that is wrong with a file, in the words of the disk, and
`Disk.failures_answers` says that a walk that is answered by the disk meets exactly that.

A path is refused (`Disk.Refuses`) if it leads nowhere or to a file with which anything is wrong.
-/

namespace ModuleGraph

variable [Source.Parser]

namespace Disk

/-- All that keeps a file from being expanded in full: that it cannot be read, or that its text is
not well formed, or each of its requests that leads nowhere, in the order of the text and as often
as it is made. -/
def flaws (disk : Disk) (options : Options) (file : Location) : List Failure :=
  match disk.readText file.text with
  | .error cause => [.unreadable file.text cause]
  | .ok text =>
    match Source.Parser.requests options.dynamicImports file.text text with
    | .error complaint => [.malformed file.text complaint]
    | .ok specifiers =>
      specifiers.filterMap fun specifier =>
        disk.obstacle? (Extension.normalise options.extensions) file specifier.request

/-- A path from which no graph can be built, however failures are dealt with, and why: it leads
nowhere, or something is wrong with the very file that it leads to. -/
inductive Refuses (disk : Disk) (options : Options) (path : String) : Failure → Prop
  | astray {cause : Cause} (leads : disk.canonicalize path = .error cause) :
      Refuses disk options path (.unreadable path cause)
  | flawed {entry : Location} {failure : Failure} (leads : disk.canonicalize path = .ok entry)
      (wrong : failure ∈ disk.flaws options entry) : Refuses disk options path failure

variable {disk : Disk} {options : Options} {file : Location}

theorem requests_of_unreadable (dynamic : Bool) {cause : Cause}
    (read : disk.readText file.text = .error cause) :
    disk.access.requests dynamic file = .error (.unreadable file.text cause) := by
  have asked : disk.access.readText file.text = (.error cause : Except Cause String) := read
  rw [Access.requests, asked]

theorem requests_of_malformed {dynamic : Bool} {text complaint : String}
    (read : disk.readText file.text = .ok text)
    (found : Source.Parser.requests dynamic file.text text = .error complaint) :
    disk.access.requests dynamic file = .error (.malformed file.text complaint) := by
  have asked : disk.access.readText file.text = (.ok text : Except Cause String) := read
  rw [Access.requests, asked]
  exact congrArg (Except.mapError (Failure.malformed file.text)) found

theorem requests_of_wellFormed {dynamic : Bool} {text : String} {specifiers : List Specifier}
    (read : disk.readText file.text = .ok text)
    (found : Source.Parser.requests dynamic file.text text = .ok specifiers) :
    disk.access.requests dynamic file = .ok specifiers := by
  have asked : disk.access.readText file.text = (.ok text : Except Cause String) := read
  rw [Access.requests, asked]
  exact congrArg (Except.mapError (Failure.malformed file.text)) found

/-- Requests that lead nowhere are flaws of their file. -/
theorem unresolved_answers (specifiers : List Specifier) :
    (disk.access.answers options).unresolved file specifiers =
      specifiers.filterMap fun specifier =>
        disk.obstacle? (Extension.normalise options.extensions) file specifier.request := by
  induction specifiers with
  | nil => rfl
  | cons specifier rest ih =>
      rw [List.filterMap_cons, ← ih]
      cases met : disk.obstacle? (Extension.normalise options.extensions) file
          specifier.request with
      | some failure =>
          have led : ((disk.access.answers options).target file specifier.request :
              Except Failure Location) = .error failure := resolve_eq_error_iff.mpr met
          exact Answers.unresolved_cons_of_error _ rest led
      | none =>
          cases led : ((disk.access.answers options).target file specifier.request :
              Except Failure Location) with
          | ok target => exact Answers.unresolved_cons_of_ok _ rest led
          | error failure => cases met.symm.trans (resolve_eq_error_iff.mp led)

/-- What a walk that is answered by the disk meets in a file is what is wrong with it. -/
theorem failures_answers :
    (disk.access.answers options).failures file = disk.flaws options file := by
  cases read : disk.readText file.text with
  | error cause =>
      have asked := requests_of_unreadable options.dynamicImports read
      rw [Answers.failures_of_error _ asked, flaws, read]
  | ok text =>
      cases found : Source.Parser.requests options.dynamicImports file.text text with
      | error complaint =>
          have asked := requests_of_malformed read found
          rw [Answers.failures_of_error _ asked, flaws, read]
          simp only [found]
      | ok specifiers =>
          have asked := requests_of_wellFormed read found
          rw [Answers.failures_of_ok _ asked, unresolved_answers, flaws, read]
          simp only [found]

/-- A flaw of a file that is an unresolved request is about that file. -/
theorem file_of_mem_flaws {failure : Failure} (h : failure ∈ disk.flaws options file)
    (unresolved : failure.kind = "UnresolvedModuleError") : failure.file = file.text := by
  rw [flaws] at h
  split at h
  · rw [List.mem_singleton.mp h]
    rfl
  · split at h
    · rw [List.mem_singleton.mp h]
      rfl
    · obtain ⟨specifier, _, met⟩ := List.mem_filterMap.mp h
      rcases obstacle?_cases met with ⟨_, rfl⟩ | ⟨candidate, _, _, _, rfl⟩
      · rfl
      · exact absurd unresolved (by simp [Failure.kind])

/-- Each request of a file either leads somewhere or is a flaw. -/
theorem length_targets_add_length_flaws {specifiers : List Specifier}
    (h : disk.access.requests options.dynamicImports file = .ok specifiers) :
    ((disk.access.answers options).targets file).length + (disk.flaws options file).length =
      specifiers.length := by
  rw [← failures_answers, Answers.targets_of_ok _ h, Answers.failures_of_ok _ h]
  exact Answers.length_resolved_add_length_unresolved _ file specifiers

end Disk

end ModuleGraph
