import ModuleGraph.Proofs.Build.Graphs
import ModuleGraph.Proofs.Crew.Program

/-!
# What a program comes to among others

While others use the same session, what an operation replies is not determined: something that was
not known a moment ago may be known now. But as long as the session is truthful, that is, knows
nothing but what the disk gives, few replies are possible (`Operation.Admits`), and as long as only
what the disk gives is put into it, it stays truthful (`Session.Truthful.run`).

`Program.Settles` says of a program what it comes to, whichever of the possible replies it gets: a
value, and the files that are known to the session when it is done. `Program.settles_build`: a
build comes to what it comes to in a fresh session, and then the session knows the requests of all
files that the fresh build asks for, other than those that cannot be read.
-/

namespace ModuleGraph

variable [Source.Parser]

/-- Whether the requests of a file can be had. -/
def Disk.reads (disk : Disk) (options : Options) (file : Location) : Bool :=
  (disk.access.requests options.dynamicImports file).isOk

theorem Disk.filter_reads_of_ok {disk : Disk} {options : Options} {file : Location}
    {specifiers : List Specifier}
    (h : disk.access.requests options.dynamicImports file = .ok specifiers) :
    [file].filter (disk.reads options) = [file] := by
  simp [reads, h, Except.isOk, Except.toBool]

theorem Disk.filter_reads_of_error {disk : Disk} {options : Options} {file : Location}
    {failure : Failure}
    (h : disk.access.requests options.dynamicImports file = .error failure) :
    [file].filter (disk.reads options) = [] := by
  simp [reads, h, Except.isOk, Except.toBool]

/-- What a session knows is what the disk gives. -/
structure Session.Truthful (disk : Disk) (options : Options) (session : Session) : Prop where
  readings : ∀ file specifiers, session.extractor.known.lookup file = some specifiers →
    disk.access.requests options.dynamicImports file = .ok specifiers
  resolutions : ∀ file specifier found,
    session.resolver.known.lookup (file.parent, specifier) = some found →
      disk.access.resolve (Extension.normalise options.extensions) file specifier = .ok found
  distinct : (session.extractor.known.map (·.1)).Nodup

namespace Operation

variable (disk : Disk) (options : Options)

/-- What is put into a memory is what the disk gives. -/
def Honest : Operation → Prop
  | keepImports file specifiers =>
    disk.access.requests options.dynamicImports file = .ok specifiers
  | keepTarget directory specifier found => ∀ file : Location, file.parent = directory →
    disk.access.resolve (Extension.normalise options.extensions) file specifier = .ok found
  | _ => True

/-- What an operation may reply where the session is truthful. -/
def Admits : (operation : Operation) → operation.Reply → Prop
  | canonicalize path, reply => reply = disk.access.canonicalize path
  | isFile path, reply => reply = disk.access.isFile path
  | leadsSomewhere path, reply => reply = disk.access.leadsSomewhere path
  | readText path, reply => reply = disk.access.readText path
  | workingDirectory, reply => reply = disk.access.workingDirectory
  | bound, (reply : Nat) => disk.entries.length ≤ reply
  | recallImports file, reply => ∀ specifiers, reply = some specifiers →
    disk.access.requests options.dynamicImports file = .ok specifiers
  | keepImports _ _, _ => True
  | recallTarget directory specifier, reply => ∀ found, reply = some found →
    ∀ file : Location, file.parent = directory →
      disk.access.resolve (Extension.normalise options.extensions) file specifier = .ok found
  | keepTarget _ _ _, _ => True

/-- The file whose requests are known to be in the session once an operation has given a reply. -/
def noted : (operation : Operation) → operation.Reply → List Location
  | recallImports file, some _ => [file]
  | keepImports file _, _ => [file]
  | _, _ => []

end Operation

variable {disk : Disk} {options : Options}

namespace Session.Truthful

variable {session : Session}

/-- A truthful session stays so when it is given the requests of a file as they are. -/
theorem keepImports (h : session.Truthful disk options) {file : Location}
    {specifiers : List Specifier}
    (read : disk.access.requests options.dynamicImports file = .ok specifiers) :
    ((Operation.keepImports file specifiers).run disk session).2.Truthful disk options := by
  refine { h with readings := ?_, distinct := nodup_inserted h.distinct }
  intro other specifiers' known
  simp only [Operation.run, lookup_inserted] at known
  split at known
  · next same =>
    cases eq_of_beq same
    cases known
    exact read
  · exact h.readings other specifiers' known

/-- A truthful session stays so when it is told where a specifier leads. -/
theorem keepTarget (h : session.Truthful disk options) {directory found : Location}
    {specifier : String}
    (led : ∀ file : Location, file.parent = directory →
      disk.access.resolve (Extension.normalise options.extensions) file specifier = .ok found) :
    ((Operation.keepTarget directory specifier found).run disk session).2.Truthful
      disk options := by
  refine { h with resolutions := ?_ }
  intro file specifier' found' known
  simp only [Operation.run, lookup_inserted] at known
  split at known
  · next same =>
    obtain ⟨same_directory, rfl⟩ := Prod.mk.inj (eq_of_beq same)
    cases known
    exact led file same_directory
  · exact h.resolutions file specifier' found' known

/-- An honest operation on a truthful session gives one of the possible replies, the session stays
truthful, and it knows the requests of no other files than before, but for those that are noted. -/
theorem run (h : session.Truthful disk options) {operation : Operation}
    (honest : operation.Honest disk options) :
    operation.Admits disk options (operation.run disk session).1 ∧
      (operation.run disk session).2.Truthful disk options ∧
      ∀ file, file ∈ (operation.run disk session).2.extractor.known.map (·.1) ↔
        file ∈ session.extractor.known.map (·.1) ∨
          file ∈ operation.noted (operation.run disk session).1 := by
  -- Most operations say nothing of the files whose requests are known, and make no file known.
  have nothing_noted (file : Location) : file ∈ session.extractor.known.map (·.1) ↔
      file ∈ session.extractor.known.map (·.1) ∨ file ∈ ([] : List Location) :=
    ⟨Or.inl, fun present => present.resolve_right List.not_mem_nil⟩
  cases operation with
  | bound => exact ⟨Nat.le_trans (Nat.le_succ _) (Nat.le_add_right _ _), h, nothing_noted⟩
  | recallImports file =>
      refine ⟨h.readings file, h, fun other => ?_⟩
      simp only [Operation.run]
      cases known : session.extractor.known.lookup file with
      | none => exact nothing_noted other
      | some specifiers =>
          have present : file ∈ session.extractor.known.map (·.1) := by
            rw [mem_keys_iff, known]
            rfl
          constructor
          · exact Or.inl
          · rintro (there | noted)
            · exact there
            · exact List.mem_singleton.mp noted ▸ present
  | recallTarget directory specifier =>
      refine ⟨fun found known file same => ?_, h, nothing_noted⟩
      subst same
      exact h.resolutions file specifier found known
  | keepImports file specifiers =>
      refine ⟨trivial, h.keepImports honest, fun other => ?_⟩
      rw [Operation.noted, List.mem_singleton]
      exact mem_keys_inserted
  | keepTarget directory specifier found => exact ⟨trivial, h.keepTarget honest, nothing_noted⟩
  | _ => exact ⟨rfl, h, nothing_noted⟩

end Session.Truthful

namespace Program

/-- A program comes to a value, and the session comes to know some files, in this order, whichever
of the possible replies it gets. -/
def Settles (disk : Disk) (options : Options) {α : Type} : Program α → List Location → α → Prop
  | done value, files, a => files = [] ∧ value = a
  | perform operation next, files, a => operation.Honest disk options ∧
    ∀ reply, operation.Admits disk options reply →
      ∃ rest, files = operation.noted reply ++ rest ∧ (next reply).Settles disk options rest a

variable {α β : Type}

theorem settles_pure (a : α) : (pure a : Program α).Settles disk options [] a :=
  ⟨rfl, rfl⟩

theorem settles_bind {x : Program α} {f : α → Program β} {files files' : List Location} {a : α}
    {b : β} (first : x.Settles disk options files a) (next : (f a).Settles disk options files' b) :
    (x >>= f).Settles disk options (files ++ files') b := by
  induction x generalizing files with
  | done value =>
      obtain ⟨rfl, rfl⟩ := first
      exact next
  | perform operation following ih =>
      obtain ⟨honest, settles⟩ := first
      refine ⟨honest, fun reply admitted => ?_⟩
      obtain ⟨rest, rfl, settled⟩ := settles reply admitted
      exact ⟨rest ++ files', List.append_assoc .., ih reply settled⟩

/-- Where a program leaves nothing known, it is the next one that does. -/
theorem settles_after {x : Program α} {f : α → Program β} {files : List Location} {a : α} {b : β}
    (first : x.Settles disk options [] a) (next : (f a).Settles disk options files b) :
    (x >>= f).Settles disk options files b :=
  settles_bind first next

/-- What is made of the value of a program leaves nothing known. -/
theorem settles_map {x : Program α} {files : List Location} {a : α} (f : α → β)
    (h : x.Settles disk options files a) :
    (x >>= fun a => pure (f a)).Settles disk options files (f a) := by
  have settled : (x >>= fun a => pure (f a)).Settles disk options (files ++ []) (f a) :=
    settles_bind h (settles_pure (f a))
  rwa [List.append_nil] at settled

/-- A program that begins with an honest operation settles if it does so after each possible
reply. -/
theorem settles_ask {operation : Operation} {f : operation.Reply → Program α}
    {files : List Location} {a : α} (honest : operation.Honest disk options)
    (next : ∀ reply, operation.Admits disk options reply →
      ∃ rest, files = operation.noted reply ++ rest ∧ (f reply).Settles disk options rest a) :
    (ask operation >>= f).Settles disk options files a :=
  ⟨honest, next⟩

/-! ## Questions -/

theorem settles_canonicalize (path : String) :
    (access.canonicalize path).Settles disk options [] (disk.access.canonicalize path) :=
  ⟨trivial, fun _ admitted => ⟨[], rfl, rfl, admitted⟩⟩

theorem settles_isFile (path : String) :
    (access.isFile path).Settles disk options [] (disk.access.isFile path) :=
  ⟨trivial, fun _ admitted => ⟨[], rfl, rfl, admitted⟩⟩

theorem settles_readText (path : String) :
    (access.readText path).Settles disk options [] (disk.access.readText path) :=
  ⟨trivial, fun _ admitted => ⟨[], rfl, rfl, admitted⟩⟩

/-- The first file among candidates is the same for all. -/
theorem settles_firstFile (tried : List Location) :
    (Resolver.firstFile access tried).Settles disk options []
      (Resolver.firstFile disk.access tried) := by
  induction tried with
  | nil => exact settles_pure none
  | cons candidate rest ih =>
      rw [Resolver.firstFile]
      refine settles_after (settles_isFile candidate.text) ?_
      rw [Resolver.firstFile]
      simp only [Bind.bind]
      cases disk.access.isFile candidate.text with
      | true => exact settles_pure (some candidate)
      | false => exact ih

/-- The requests of a file are those that the disk gives, and they are known afterwards if they can
be had. -/
theorem settles_imports (file : Location) :
    ((answers options).imports file).Settles disk options ([file].filter (disk.reads options))
      (disk.access.requests options.dynamicImports file) := by
  refine settles_ask trivial fun reply admitted => ?_
  cases reply with
  | some specifiers =>
      have read := admitted specifiers rfl
      exact ⟨[], Disk.filter_reads_of_ok read, rfl, read.symm⟩
  | none =>
      refine ⟨[file].filter (disk.reads options), rfl,
        settles_after (settles_readText file.text) ?_⟩
      cases found : (disk.access.readText file.text : Except Cause String) with
      | error cause =>
          have read : disk.access.requests options.dynamicImports file =
              .error (.unreadable file.text cause) := by rw [Access.requests, found]
          rw [read, Disk.filter_reads_of_error read]
          exact settles_pure _
      | ok text =>
          have read : disk.access.requests options.dynamicImports file =
              Extractor.extract options.dynamicImports file.text text := by
            rw [Access.requests, found]
          cases extracted : Extractor.extract options.dynamicImports file.text text with
          | error failure =>
              rw [extracted] at read
              rw [read, Disk.filter_reads_of_error read]
              dsimp only
              rw [extracted]
              exact settles_pure _
          | ok specifiers =>
              rw [extracted] at read
              rw [read, Disk.filter_reads_of_ok read]
              dsimp only
              rw [extracted]
              exact ⟨read, fun _ _ => ⟨[], rfl, rfl, rfl⟩⟩

/-- A specifier leads where the disk says. -/
theorem settles_target (file : Location) (specifier : String) :
    ((answers options).target file specifier).Settles disk options []
      (disk.access.resolve (Extension.normalise options.extensions) file specifier) := by
  refine settles_ask trivial fun reply admitted => ⟨[], by cases reply <;> rfl, ?_⟩
  cases reply with
  | some found =>
      have led := admitted found rfl file rfl
      exact ⟨rfl, led.symm⟩
  | none =>
      refine settles_after (settles_firstFile _) ?_
      cases first : (Resolver.firstFile disk.access (Resolver.candidates
          (Extension.normalise options.extensions) file.parent specifier) : Option Location) with
      | none =>
          rw [Access.resolve, first]
          exact settles_pure _
      | some candidate =>
          refine settles_after (settles_canonicalize candidate.text) ?_
          cases led : (disk.access.canonicalize candidate.text : Except Cause Location) with
          | error cause =>
              simp only [Access.resolve, first, led]
              exact settles_pure _
          | ok found =>
              have resolved : disk.access.resolve (Extension.normalise options.extensions) file
                  specifier = .ok found := Access.resolve_eq_ok_iff.mpr ⟨candidate, first, led⟩
              rw [resolved]
              refine ⟨fun other same => ?_, fun _ _ => ⟨[], rfl, rfl, rfl⟩⟩
              exact Resolver.resolve_ok_of_parent_eq disk.access same resolved

/-! ## Builds -/

/-- Programs, compared with computations that list the files whose requests they ask for: those
that can be read are known afterwards. -/
def settling (disk : Disk) (options : Options) :
    Correspondence Program (StateT (List Location) Id) where
  holds x y := ∀ log, ∃ new, (y log).2 = log ++ new ∧
    x.Settles disk options (new.filter (disk.reads options)) (y log).1
  holds_pure value log := ⟨[], (List.append_nil log).symm, settles_pure value⟩
  holds_bind := by
    intro _ _ x y f g first next log
    obtain ⟨new, listed, settles⟩ := first log
    obtain ⟨new', listed', settles'⟩ := next (y log).1 (y log).2
    refine ⟨new ++ new', ?_, ?_⟩
    · rw [← List.append_assoc, ← listed]
      exact listed'
    · rw [List.filter_append]
      exact settles_bind settles settles'

/-- A walk comes to what it comes to with the answers of the disk. -/
theorem settles_whole (disk : Disk) (options : Options) (policy : Policy) (size : Nat)
    (file : Location) :
    (Walk.whole (answers options) policy size file).Settles disk options
      ((Walk.whole (disk.access.answers options).logging policy size file []).2.filter
        (disk.reads options))
      (Walk.whole (disk.access.answers options) policy size file) := by
  have walks : (settling disk options).holds (Walk.whole (answers options) policy size file)
      (Walk.whole (disk.access.answers options).logging policy size file) := by
    refine Walk.whole_corresponds _ ?_ ?_ policy size file
    · exact fun file log => ⟨[file], rfl, settles_imports file⟩
    · exact fun file specifier log =>
        ⟨[], (List.append_nil log).symm, settles_target file specifier⟩
  obtain ⟨new, listed, settles⟩ := walks []
  rw [listed, ← Walk.whole_logging_fst]
  exact settles

/-- A build comes to what it comes to in a fresh session, and all files that are expanded in that
session and can be read are known afterwards. -/
theorem settles_build (path : String) :
    (build options path).Settles disk options
      ((options.expansions disk.access path).filter (disk.reads options))
      (options.build disk.access path) := by
  refine settles_after (settles_canonicalize path) ?_
  cases leads : (disk.access.canonicalize path : Except Cause Location) with
  | error cause =>
      rw [Options.build_of_error disk.access leads, Options.expansions, Session.expansions, leads]
      exact settles_pure _
  | ok file =>
      rw [Options.build_of_ok disk.access leads, Options.expansions,
        Session.expansions_of_ok leads, Session.standing_fresh]
      refine settles_ask trivial fun (size : Nat) enough => ⟨_, rfl, ?_⟩
      have within_length : (disk.entries.map (·.1)).length ≤ size := by
        rw [List.length_map]
        exact enough
      have bounded (file : Location) : ∀ target ∈ (disk.access.answers options).targets file,
          target ∈ disk.entries.map (·.1) := Disk.mem_entries_of_mem_targets file
      have same := Walk.whole_logging_of_le bounded disk.length_entries_le_size within_length
        options.policy file
      have walks := settles_whole disk options options.policy size file
      rw [← Walk.whole_logging_fst, ← same, Walk.whole_logging_fst] at walks
      exact settles_map Build.ofWalk walks

end Program

end ModuleGraph
