import ModuleGraph.Disk.Change
import ModuleGraph.Proofs.Build.Policies
import ModuleGraph.Proofs.Session.Memory

/-!
# Sessions on a disk that changes

A session may go on for long, and the disk need not stay as it is. Here builds and changes of the
disk follow one another in any order. A `Course` is how far things have come: the disk as it is
now, the session, and every question that was asked, with the disk on which it was.

`Course.keeps_to_first_successes` says what a session pins and what it does not. A build goes from
where its path leads now. A file has the requests that were found in it the first time that this
was possible, and as long as it was not, those that are in it now; it is the same with where
specifiers lead. A build that fails makes no difference to this. And as long as the disk does not
change, none of it shows.
-/

namespace ModuleGraph

/-- What may happen while a session goes on. -/
inductive Event where
  /-- The disk is changed, in whatever way. -/
  | change (edit : Disk → Disk)
  /-- A graph is built from a path. -/
  | build (path : String)

/-- The disk after an event. -/
def Event.edited (disk : Disk) : Event → Disk
  | change edit => edit disk
  | build _ => disk

/-- How far things have come: the disk as it is now, the session, and what was asked so far. -/
structure Course where
  disk : Disk
  session : Session
  asked : Asked

/-- A build with the answers of the first success, or else of the disk, that may enter so many
files. -/
def Asked.build [Source.Parser] (options : Options) (asked : Asked) (disk : Disk) (size : Nat)
    (path : String) : Build :=
  match disk.canonicalize path with
  | .error cause => ⟨.error (.unreadable path cause), []⟩
  | .ok file => .ofWalk (Walk.whole (asked.answers options disk) options.policy size file)

namespace Course

variable [Source.Parser]

/-- How far things have come after one more event. -/
def after (course : Course) : Event → Course
  | .change edit => { course with disk := edit course.disk }
  | .build path =>
    { course with
      session := (course.session.build course.disk.access path).2
      asked := course.asked ++
        (course.session.questions course.disk.access path).map (course.disk, ·) }

/-- How far things have come after some events. -/
def follow (course : Course) (events : List Event) : Course :=
  events.foldl after course

/-- How things start. -/
def start (options : Options) (disk : Disk) : Course :=
  ⟨disk, .fresh options, []⟩

/-- What a build from a path gives at this point. -/
def build (course : Course) (path : String) : Build :=
  (course.session.build course.disk.access path).1

variable {options : Options} {course : Course}

/-! ## What every event keeps -/

theorem remembers_after (h : course.session.Remembers options course.asked) (event : Event) :
    (course.after event).session.Remembers options (course.after event).asked := by
  cases event with
  | change edit => exact h
  | build path => exact h.build course.disk path

theorem remembers_follow (h : course.session.Remembers options course.asked)
    (events : List Event) :
    (course.follow events).session.Remembers options (course.follow events).asked := by
  induction events generalizing course with
  | nil => exact h
  | cons event rest ih => exact ih (remembers_after h event)

/-- What was asked stays on the list. -/
theorem asked_prefix_follow (course : Course) (events : List Event) :
    course.asked <+: (course.follow events).asked := by
  induction events generalizing course with
  | nil => exact List.prefix_rfl
  | cons event rest ih =>
      refine List.IsPrefix.trans ?_ (ih (course.after event))
      cases event with
      | change edit => exact List.prefix_rfl
      | build path => exact List.prefix_append _ _

/-- While no event changes the disk, all that is asked is asked on that disk. -/
theorem follow_unchanged (course : Course) (events : List Event)
    (unchanged : ∀ event ∈ events, event.edited course.disk = course.disk)
    (h : ∀ question ∈ course.asked, question.1 = course.disk) :
    (course.follow events).disk = course.disk ∧
      ∀ question ∈ (course.follow events).asked, question.1 = course.disk := by
  induction events generalizing course with
  | nil => exact ⟨rfl, h⟩
  | cons event rest ih =>
      obtain ⟨unchanged_first, unchanged_rest⟩ := List.forall_mem_cons.mp unchanged
      have same : (course.after event).disk = course.disk := by
        cases event with
        | change edit => exact unchanged_first
        | build path => rfl
      have on_disk : ∀ question ∈ (course.after event).asked, question.1 = course.disk := by
        cases event with
        | change edit => exact h
        | build path =>
            intro question present
            rcases List.mem_append.mp present with before | new
            · exact h question before
            · obtain ⟨_, _, rfl⟩ := List.mem_map.mp new
              rfl
      rw [← same] at unchanged_rest on_disk ⊢
      exact ih (course.after event) unchanged_rest on_disk

end Course

namespace Asked

variable {options : Options} {asked : Asked} {disk : Disk}

theorem readingOn_eq_some_iff [Source.Parser] {file : Location} {question : Disk × Question}
    {specifiers : List Specifier} : readingOn options file question = some specifiers ↔
      ∃ disk, question = (disk, .imports file) ∧
        disk.access.requests options.dynamicImports file = .ok specifiers := by
  obtain ⟨disk, ⟨other⟩ | ⟨other, specifier⟩⟩ := question
  · rw [readingOn]
    by_cases same : other = file
    · subst same
      rw [if_pos BEq.rfl]
      cases read : disk.access.requests options.dynamicImports other <;>
        simp [read, Except.toOption]
    · simp [same]
  · simp [readingOn]

theorem resolutionOn_eq_some_iff {directory found : Location} {specifier : String}
    {question : Disk × Question} :
    resolutionOn options directory specifier question = some found ↔
      ∃ disk file, question = (disk, .target file specifier) ∧ file.parent = directory ∧
        disk.access.resolve (Extension.normalise options.extensions) file specifier =
          .ok found := by
  obtain ⟨disk, ⟨other⟩ | ⟨other, specifier'⟩⟩ := question
  · simp [resolutionOn]
  · rw [resolutionOn]
    by_cases same : (other.parent, specifier') = (directory, specifier)
    · obtain ⟨rfl, rfl⟩ := Prod.mk.inj same
      rw [if_pos BEq.rfl]
      cases led : disk.access.resolve (Extension.normalise options.extensions) other specifier' <;>
        simp [led, Except.toOption]
    · rw [if_neg (by simpa using same)]
      grind

/-- A file has not been read yet exactly if it could not be whenever that was tried. -/
theorem reading?_eq_none_iff [Source.Parser] {file : Location} :
    asked.reading? options file = none ↔ ∀ disk, (disk, .imports file) ∈ asked →
      ∃ failure, disk.access.requests options.dynamicImports file = .error failure := by
  rw [reading?, List.findSome?_eq_none_iff]
  constructor
  · intro none disk present
    cases read : disk.access.requests options.dynamicImports file with
    | error failure => exact ⟨failure, rfl⟩
    | ok specifiers =>
        have found := readingOn_eq_some_iff.mpr ⟨disk, rfl, read⟩
        cases (none _ present).symm.trans found
  · intro failed question present
    refine Option.eq_none_iff_forall_ne_some.mpr fun specifiers found => ?_
    obtain ⟨disk, rfl, read⟩ := readingOn_eq_some_iff.mp found
    obtain ⟨failure, read'⟩ := failed disk present
    cases read.symm.trans read'

/-- A specifier has not led anywhere yet from a directory exactly if it did not whenever that was
tried. -/
theorem resolution?_eq_none_iff {directory : Location} {specifier : String} :
    asked.resolution? options directory specifier = none ↔
      ∀ disk file, (disk, .target file specifier) ∈ asked → file.parent = directory →
        ∃ failure, disk.access.resolve (Extension.normalise options.extensions) file specifier =
          .error failure := by
  rw [resolution?, List.findSome?_eq_none_iff]
  constructor
  · intro none disk file present same
    cases led : disk.access.resolve (Extension.normalise options.extensions) file specifier with
    | error failure => exact ⟨failure, rfl⟩
    | ok found =>
        have found := resolutionOn_eq_some_iff.mpr ⟨disk, file, rfl, same, led⟩
        cases (none _ present).symm.trans found
  · intro failed question present
    refine Option.eq_none_iff_forall_ne_some.mpr fun found leads => ?_
    obtain ⟨disk, file, rfl, same, led⟩ := resolutionOn_eq_some_iff.mp leads
    obtain ⟨failure, led'⟩ := failed disk file present same
    cases led.symm.trans led'

/-- Questions that were all asked on the disk as it is have no other answers than the disk
gives. -/
theorem answers_of_unchanged [Source.Parser] (h : ∀ question ∈ asked, question.1 = disk) :
    asked.answers options disk = disk.access.answers options := by
  rw [answers, Access.answers]
  congr 1
  · funext file
    cases found : asked.reading? options file with
    | none => rfl
    | some specifiers =>
        obtain ⟨question, present, reads⟩ := List.exists_of_findSome?_eq_some found
        obtain ⟨disk', rfl, read⟩ := readingOn_eq_some_iff.mp reads
        cases h _ present
        exact read.symm
  · funext file specifier
    cases found : asked.resolution? options file.parent specifier with
    | none => rfl
    | some target =>
        obtain ⟨question, present, leads⟩ := List.exists_of_findSome?_eq_some found
        obtain ⟨disk', other, rfl, same, led⟩ := resolutionOn_eq_some_iff.mp leads
        cases h _ present
        exact (Resolver.resolve_ok_of_parent_eq _ same.symm led).symm

end Asked

namespace Course

section

variable [Source.Parser] {options : Options} {course : Course}

/-- What a session keeps to at some point of its course. -/
structure Keeps (options : Options) (course : Course) : Prop where
  /-- A build goes from where its path leads now, with the answers of the first success, or else of
  the disk as it is now. -/
  builds : ∀ path, ∃ least, ∀ size ≥ least,
    course.build path = course.asked.build options course.disk size path
  /-- What is remembered of a file is what was found when it could first be read. -/
  readings : ∀ file,
    course.session.extractor.known.lookup file = course.asked.reading? options file
  /-- What is remembered of a specifier in a directory is where it led the first time that it led
  anywhere. -/
  resolutions : ∀ directory specifier,
    course.session.resolver.known.lookup (directory, specifier) =
      course.asked.resolution? options directory specifier
  /-- Of a file that could never be read nothing is remembered. -/
  unread : ∀ file, course.session.extractor.known.lookup file = none ↔
    ∀ disk, (disk, .imports file) ∈ course.asked →
      ∃ failure, disk.access.requests options.dynamicImports file = .error failure
  /-- Of a specifier that has never led anywhere from a directory nothing is remembered. -/
  unresolved : ∀ directory specifier,
    course.session.resolver.known.lookup (directory, specifier) = none ↔
      ∀ disk file, (disk, .target file specifier) ∈ course.asked → file.parent = directory →
        ∃ failure, disk.access.resolve (Extension.normalise options.extensions) file specifier =
          .error failure

/-- Nothing that a session has found by some point of its course is changed or lost at a later
one. -/
structure Lasts (course later : Course) : Prop where
  readings : ∀ file specifiers, course.session.extractor.known.lookup file = some specifiers →
    later.session.extractor.known.lookup file = some specifiers
  resolutions : ∀ key found, course.session.resolver.known.lookup key = some found →
    later.session.resolver.known.lookup key = some found
  filesParsed : course.session.filesParsed ≤ later.session.filesParsed

theorem keeps_of_remembers (h : course.session.Remembers options course.asked) :
    course.Keeps options where
  builds path := ⟨_, fun _ enough => h.build_eq course.disk path enough⟩
  readings := h.readings
  resolutions := h.resolutions
  unread file := by rw [h.readings, Asked.reading?_eq_none_iff]
  unresolved directory specifier := by rw [h.resolutions, Asked.resolution?_eq_none_iff]

theorem lasts_follow (h : course.session.Remembers options course.asked) (events : List Event) :
    course.Lasts (course.follow events) := by
  have later := remembers_follow h events
  obtain ⟨more, asked_more⟩ := asked_prefix_follow course events
  rw [← asked_more] at later
  exact
    { readings := by
        intro file specifiers known
        rw [h.readings] at known
        rw [later.readings, Asked.reading?, List.findSome?_append]
        exact Option.or_eq_some_iff.mpr (Or.inl known)
      resolutions := by
        rintro ⟨directory, specifier⟩ found known
        rw [h.resolutions] at known
        rw [later.resolutions, Asked.resolution?, List.findSome?_append]
        exact Option.or_eq_some_iff.mpr (Or.inl known)
      filesParsed := h.filesParsed_le later }

/-- While the disk is as it was at the start, a build in the session is a build in a fresh one. -/
theorem build_of_unchanged (h : course.session.Remembers options course.asked)
    (unchanged : ∀ question ∈ course.asked, question.1 = course.disk) (path : String) :
    course.build path = options.build course.disk.access path := by
  have fresh := (Session.remembers_fresh options).build_eq course.disk path
    (Nat.add_le_add_left (Nat.zero_le course.session.resolver.known.length) _)
  rw [Asked.answers_of_unchanged (List.forall_mem_nil _)] at fresh
  rw [build, h.build_eq course.disk path (Nat.le_refl _), Asked.answers_of_unchanged unchanged]
  exact fresh.symm

/-- At any point of its course a session keeps to what it found first, and to nothing else. What it
has found lasts, whatever happens next. As long as nothing changes the disk, its builds are builds
in a fresh session. -/
theorem keeps_to_first_successes (options : Options) (disk : Disk) (events : List Event) :
    ((start options disk).follow events).Keeps options ∧
    (∀ more, ((start options disk).follow events).Lasts
      ((start options disk).follow (events ++ more))) ∧
    ((∀ event ∈ events, event.edited disk = disk) → ∀ path,
      ((start options disk).follow events).build path = options.build disk.access path) := by
  have remembers : ((start options disk).follow events).session.Remembers options
      ((start options disk).follow events).asked :=
    remembers_follow (Session.remembers_fresh options) events
  refine ⟨keeps_of_remembers remembers, fun more => ?_, fun unchanged path => ?_⟩
  · have continued : (start options disk).follow (events ++ more) =
        ((start options disk).follow events).follow more := List.foldl_append
    rw [continued]
    exact lasts_follow remembers more
  · obtain ⟨same, on_disk⟩ :=
      follow_unchanged (start options disk) events unchanged (List.forall_mem_nil _)
    have like_fresh := build_of_unchanged remembers (same.symm ▸ on_disk) path
    rw [same] at like_fresh
    exact like_fresh

end

/-- A file as it is written on a disk, if it can be. -/
def write (path text : String) : Event :=
  .change fun disk => (disk.write path (.text text)).toOption.getD disk

-- The first build gives up because of `/gone.js`. The second one sees that file, and that `/b.js`
-- is well formed by now, but not that `/e.js` asks for nothing any more.
example :
    (((start .standard .gaps).follow [.build "/e.js", write "/gone.js" "", write "/b.js" "",
      write "/e.js" ""]).build "/e.js").result =
      .ok
        { graph := ⟨[(⟨["e.js"]⟩, [⟨["a.js"]⟩, ⟨["b.js"]⟩]),
            (⟨["a.js"]⟩, [⟨["gone.js"]⟩, ⟨["e.js"]⟩]), (⟨["b.js"]⟩, []), (⟨["gone.js"]⟩, [])]⟩
          cycles := [⟨[⟨["e.js"]⟩, ⟨["a.js"]⟩, ⟨["e.js"]⟩]⟩]
          failures := [] } := by
  decide +kernel

end Course

end ModuleGraph
