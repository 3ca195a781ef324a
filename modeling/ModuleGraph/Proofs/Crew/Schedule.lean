import Mathlib.Data.List.Dedup
import ModuleGraph.Proofs.Crew.Settling
import ModuleGraph.Run

/-!
# Several builds at a time

A crew is a session and the workers that share it, one for each path that a run was given. A
schedule says whose turn it is; in a turn a worker carries out one operation. When all workers are
done, the crew has come to the results of a run.

`Crew.follow_independent` says that these results do not depend on the schedule. They are those of
builds in sessions of their own, and each file that any of these can read is counted once. Every
schedule can be completed, and building one after the other gives the same.
-/

namespace ModuleGraph

/-- One that builds a graph: the path that was given, and what is still to be done. -/
structure Worker where
  entry : String
  program : Program Build

/-- Those that build graphs in one session at the same time. -/
structure Crew where
  session : Session
  workers : List Worker

namespace Worker

/-- A worker that has done nothing yet. -/
def start [Source.Parser] (options : Options) (entry : String) : Worker :=
  ⟨entry, .build options entry⟩

/-- The result, if the worker is done. -/
def result? (worker : Worker) : Option EntryResult :=
  worker.program.result?.map fun build => ⟨worker.entry, build.result⟩

/-- Carries out the next operation of a worker, if there is one. -/
def step (disk : Disk) (session : Session) : Worker → Worker × Session
  | ⟨entry, .done build⟩ => (⟨entry, .done build⟩, session)
  | ⟨entry, .perform operation next⟩ =>
    let (reply, session) := operation.run disk session
    (⟨entry, next reply⟩, session)

/-- Carries out the next operation of one of several workers, if there are so many. -/
def stepAt (disk : Disk) (session : Session) : Nat → List Worker → List Worker × Session
  | _, [] => ([], session)
  | 0, worker :: rest =>
    let (worker, session) := worker.step disk session
    (worker :: rest, session)
  | turn + 1, worker :: rest =>
    let (rest, session) := stepAt disk session turn rest
    (worker :: rest, session)

theorem stepAt_nil (disk : Disk) (session : Session) (turn : Nat) :
    stepAt disk session turn [] = ([], session) := by
  cases turn <;> rfl

end Worker

namespace Crew

/-- A crew that has done nothing yet. -/
def start [Source.Parser] (options : Options) (entries : List String) : Crew :=
  ⟨.fresh options, entries.map (Worker.start options)⟩

/-- The crew after the turn of one of its workers. -/
def turn (disk : Disk) (crew : Crew) (turn : Nat) : Crew :=
  let (workers, session) := Worker.stepAt disk crew.session turn crew.workers
  ⟨session, workers⟩

/-- The crew after some turns. -/
def follow (disk : Disk) (crew : Crew) (schedule : List Nat) : Crew :=
  schedule.foldl (turn disk) crew

/-- The results of a run, if all workers are done. -/
def run? (crew : Crew) : Option Run :=
  (crew.workers.mapM Worker.result?).map fun results => ⟨results, crew.session.filesParsed⟩

end Crew

namespace Options

variable [Source.Parser]

/-- The files that can be read of those that builds from some paths expand, each in a fresh
session. -/
def readable (disk : Disk) (options : Options) (entries : List String) : List Location :=
  entries.flatMap fun entry => (options.expansions disk.access entry).filter (disk.reads options)

/-- The results of builds from some paths, each in a fresh session, with the number of files that
can be read of those that they expand. -/
def runSeparately (disk : Disk) (options : Options) (entries : List String) : Run where
  entries := entries.map fun entry => ⟨entry, (options.build disk.access entry : Build).result⟩
  filesAnalyzed := (options.readable disk entries).dedup.length

end Options

variable {disk : Disk} {options : Options}

/-! ## What every turn keeps -/

section

variable [Source.Parser]

/-- Workers that come to what they would come to in sessions of their own, with the files that will
be known for what they still have to do. -/
inductive Owing (disk : Disk) (options : Options) : List Worker → List Location → Prop
  | nil : Owing disk options [] []
  | cons {worker : Worker} {files : List Location} {rest : List Worker} {others : List Location}
      (settles : worker.program.Settles disk options files
        (options.build disk.access worker.entry))
      (after : Owing disk options rest others) :
      Owing disk options (worker :: rest) (files ++ others)

theorem owing_start (disk : Disk) (options : Options) (entries : List String) :
    Owing disk options (entries.map (Worker.start options)) (options.readable disk entries) := by
  induction entries with
  | nil => exact .nil
  | cons entry rest ih => exact .cons (Program.settles_build entry) ih

/-- Workers that are done owe nothing, and have come to what builds in fresh sessions come to. -/
theorem Owing.of_results {workers : List Worker} {owed : List Location}
    {results : List EntryResult} (h : Owing disk options workers owed)
    (completed : workers.mapM Worker.result? = some results) :
    owed = [] ∧ results = (workers.map (·.entry)).map fun entry =>
      ⟨entry, (options.build disk.access entry : Build).result⟩ := by
  induction h generalizing results with
  | nil =>
      rw [List.mapM_nil] at completed
      cases completed
      exact ⟨rfl, rfl⟩
  | @cons worker files rest others settles after ih =>
      rw [List.mapM_cons] at completed
      obtain ⟨result, is_result, completed⟩ := Option.bind_eq_some_iff.mp completed
      obtain ⟨results, are_results, completed⟩ := Option.bind_eq_some_iff.mp completed
      cases completed
      obtain ⟨rfl, rfl⟩ := ih are_results
      obtain ⟨entry, program⟩ := worker
      cases program with
      | perform operation next => cases is_result
      | done build =>
          cases is_result
          obtain ⟨rfl, same⟩ := settles
          refine ⟨rfl, ?_⟩
          dsimp only
          rw [same]
          rfl

/-- The session of a crew after a worker's step is truthful, and what comes to be known by it is
owed no more. -/
theorem Worker.step_settles {session : Session} (h : session.Truthful disk options)
    {worker : Worker} {files : List Location} {build : Build}
    (settles : worker.program.Settles disk options files build) :
    (worker.step disk session).1.entry = worker.entry ∧
    (worker.step disk session).2.Truthful disk options ∧
    ∃ rest, (worker.step disk session).1.program.Settles disk options rest build ∧
      ∀ file, (file ∈ (worker.step disk session).2.extractor.known.map (·.1) ∨ file ∈ rest) ↔
        file ∈ session.extractor.known.map (·.1) ∨ file ∈ files := by
  obtain ⟨entry, program⟩ := worker
  cases program with
  | done value => exact ⟨rfl, h, files, settles, fun _ => Iff.rfl⟩
  | perform operation next =>
      obtain ⟨honest, settles⟩ := settles
      obtain ⟨admitted, truthful, known⟩ := h.run honest
      obtain ⟨rest, rfl, settled⟩ := settles _ admitted
      refine ⟨rfl, truthful, rest, settled, fun file => ?_⟩
      rw [List.mem_append, ← or_assoc, ← known]
      rfl

/-- After the step of one of several workers the session is truthful, and what comes to be known by
it is owed no more. -/
theorem Owing.step {session : Session} (h : session.Truthful disk options) {workers : List Worker}
    {owed : List Location} (owing : Owing disk options workers owed) (turn : Nat) :
    (Worker.stepAt disk session turn workers).1.map (·.entry) = workers.map (·.entry) ∧
    (Worker.stepAt disk session turn workers).2.Truthful disk options ∧
    ∃ rest, Owing disk options (Worker.stepAt disk session turn workers).1 rest ∧
      ∀ file, (file ∈ (Worker.stepAt disk session turn workers).2.extractor.known.map (·.1) ∨
          file ∈ rest) ↔
        file ∈ session.extractor.known.map (·.1) ∨ file ∈ owed := by
  induction owing generalizing turn with
  | nil =>
      rw [Worker.stepAt_nil]
      exact ⟨rfl, h, [], .nil, fun _ => Iff.rfl⟩
  | @cons worker files rest others settles after ih =>
      cases turn with
      | zero =>
          obtain ⟨same, truthful, files', settled, known⟩ := Worker.step_settles h settles
          rw [← same] at settled
          refine ⟨congrArg (· :: _) same, truthful, files' ++ others, .cons settled after, ?_⟩
          intro file
          rw [List.mem_append, ← or_assoc, List.mem_append, ← or_assoc]
          exact or_congr_left (known file)
      | succ turn =>
          obtain ⟨same, truthful, others', owing', known⟩ := ih turn
          refine ⟨congrArg (_ :: ·) same, truthful, files ++ others', .cons settles owing', ?_⟩
          intro file
          rw [List.mem_append, List.mem_append]
          exact or_left_comm.trans ((or_congr_right (known file)).trans or_left_comm)

namespace Crew

/-- A crew that comes to the results of builds in fresh sessions, with the files that will be known
for what is still to be done. -/
structure Sound (disk : Disk) (options : Options) (entries : List String) (owed : List Location)
    (crew : Crew) : Prop where
  given : crew.workers.map (·.entry) = entries
  truthful : crew.session.Truthful disk options
  owing : Owing disk options crew.workers owed
  /-- What is known or will be is what can be read of all that the builds expand. -/
  known : ∀ file, (file ∈ crew.session.extractor.known.map (·.1) ∨ file ∈ owed) ↔
    file ∈ options.readable disk entries

variable {entries : List String} {owed : List Location} {crew : Crew}

theorem sound_start (disk : Disk) (options : Options) (entries : List String) :
    (start options entries).Sound disk options entries (options.readable disk entries) where
  given := by
    rw [start, List.map_map]
    exact List.map_id entries
  truthful :=
    { readings := by
        intro file specifiers known
        cases known
      resolutions := by
        intro file specifier found known
        cases known
      distinct := List.nodup_nil }
  owing := owing_start disk options entries
  known _ := ⟨fun h => h.resolve_left List.not_mem_nil, Or.inr⟩

theorem Sound.turn (h : crew.Sound disk options entries owed) (turn : Nat) :
    ∃ rest, (crew.turn disk turn).Sound disk options entries rest := by
  obtain ⟨same, truthful, rest, owing, known⟩ := h.owing.step h.truthful turn
  exact ⟨rest,
    { given := same.trans h.given
      truthful := truthful
      owing := owing
      known := fun file => (known file).trans (h.known file) }⟩

theorem Sound.follow (h : crew.Sound disk options entries owed) (schedule : List Nat) :
    ∃ rest, (crew.follow disk schedule).Sound disk options entries rest := by
  induction schedule generalizing crew owed with
  | nil => exact ⟨owed, h⟩
  | cons turn schedule ih =>
      obtain ⟨rest, sound⟩ := h.turn turn
      exact ih sound

/-- A sound crew that is done has come to the results of builds in fresh sessions. -/
theorem Sound.run_eq {run : Run} (h : crew.Sound disk options entries owed)
    (completed : crew.run? = some run) : run = options.runSeparately disk entries := by
  obtain ⟨results, are_results, rfl⟩ := Option.map_eq_some_iff.mp completed
  obtain ⟨rfl, rfl⟩ := h.owing.of_results are_results
  have counted : (crew.session.extractor.known.map (·.1)).Perm
      (options.readable disk entries).dedup := by
    refine (List.perm_ext_iff_of_nodup h.truthful.distinct (List.nodup_dedup _)).mpr fun file => ?_
    rw [List.mem_dedup, ← h.known file]
    exact ⟨Or.inl, fun present => present.resolve_right List.not_mem_nil⟩
  rw [Options.runSeparately, h.given, ← counted.length_eq, List.length_map]
  rfl

end Crew

end

/-! ## One after the other -/

/-- Carries out all that some workers have to do, one worker after the other. -/
def Worker.runAll (disk : Disk) : List Worker → Session → List Worker × Session
  | [], session => ([], session)
  | worker :: rest, session =>
    let (build, session) := worker.program.run disk session
    let (rest, session) := runAll disk rest session
    (⟨worker.entry, .done build⟩ :: rest, session)

/-- After that all workers are done. -/
theorem Worker.exists_results (disk : Disk) (workers : List Worker) (session : Session) :
    ∃ results, (runAll disk workers session).1.mapM result? = some results := by
  induction workers generalizing session with
  | nil => exact ⟨[], rfl⟩
  | cons worker rest ih =>
      obtain ⟨results, are_results⟩ := ih (worker.program.run disk session).2
      refine ⟨⟨worker.entry, (worker.program.run disk session).1.result⟩ :: results, ?_⟩
      rw [runAll, List.mapM_cons, are_results]
      rfl

/-- Workers that build one after the other do what a session does that builds graphs in this
way. -/
theorem Worker.runAll_start [Source.Parser] (disk : Disk) {session : Session}
    (opened : session.OpenedWith options) (entries : List String) :
    (runAll disk (entries.map (start options)) session).1.mapM result? =
        some (session.buildAll disk.access entries : List EntryResult × List String × Session).1 ∧
      (runAll disk (entries.map (start options)) session).2 =
        (session.buildAll disk.access entries : List EntryResult × List String × Session).2.2 := by
  induction entries generalizing session with
  | nil => exact ⟨rfl, rfl⟩
  | cons entry rest ih =>
      obtain ⟨same, opened'⟩ := Program.alone_build disk entry session opened
      obtain ⟨results, left⟩ := ih opened'
      dsimp only at results left
      rw [List.map_cons, runAll, Session.buildAll]
      simp only [start, same, bind, List.mapM_cons]
      rw [results]
      exact ⟨rfl, left⟩

namespace Crew

theorem follow_append (disk : Disk) (crew : Crew) (schedule more : List Nat) :
    crew.follow disk (schedule ++ more) = (crew.follow disk schedule).follow disk more :=
  List.foldl_append

/-- The other workers go on as if the first one was not there. -/
theorem follow_others (disk : Disk) (session : Session) (worker : Worker) (others : List Worker)
    (schedule : List Nat) :
    (⟨session, worker :: others⟩ : Crew).follow disk (schedule.map (· + 1)) =
      ⟨((⟨session, others⟩ : Crew).follow disk schedule).session,
        worker :: ((⟨session, others⟩ : Crew).follow disk schedule).workers⟩ := by
  induction schedule generalizing session others with
  | nil => rfl
  | cons turn schedule ih => exact ih _ _

/-- After enough turns in a row the first worker is done. -/
theorem exists_turns (disk : Disk) (session : Session) (entry : String) (program : Program Build)
    (others : List Worker) :
    ∃ schedule, (⟨session, ⟨entry, program⟩ :: others⟩ : Crew).follow disk schedule =
      ⟨(program.run disk session).2, ⟨entry, .done (program.run disk session).1⟩ :: others⟩ := by
  induction program generalizing session with
  | done build => exact ⟨[], rfl⟩
  | perform operation next ih =>
      obtain ⟨schedule, followed⟩ :=
        ih (operation.run disk session).1 (operation.run disk session).2
      exact ⟨0 :: schedule, followed⟩

/-- There is a schedule by which one worker is done after the other. -/
theorem exists_schedule (disk : Disk) (crew : Crew) : ∃ schedule, crew.follow disk schedule =
    ⟨(Worker.runAll disk crew.workers crew.session).2,
      (Worker.runAll disk crew.workers crew.session).1⟩ := by
  obtain ⟨session, workers⟩ := crew
  induction workers generalizing session with
  | nil => exact ⟨[], rfl⟩
  | cons worker rest ih =>
      obtain ⟨turns, done⟩ := exists_turns disk session worker.entry worker.program rest
      obtain ⟨schedule, followed⟩ := ih (worker.program.run disk session).2
      refine ⟨turns ++ schedule.map (· + 1), ?_⟩
      rw [follow_append, done, follow_others, followed]
      rfl

/-- Any crew can go on until all of its workers are done. -/
theorem exists_completion (disk : Disk) (crew : Crew) :
    ∃ schedule run, (crew.follow disk schedule).run? = some run := by
  obtain ⟨schedule, followed⟩ := exists_schedule disk crew
  obtain ⟨results, are_results⟩ := Worker.exists_results disk crew.workers crew.session
  refine ⟨schedule, ⟨results, (Worker.runAll disk crew.workers crew.session).2.filesParsed⟩, ?_⟩
  rw [followed, run?, are_results]
  rfl

/-- By one schedule a crew comes to what a session comes to that builds one after the other. -/
theorem exists_completion_buildAll [Source.Parser] {entries : List String}
    {results : List EntryResult} {said : List String} {session : Session}
    (h : (Session.fresh options).buildAll disk.access entries = (results, said, session)) :
    ∃ schedule, ((start options entries).follow disk schedule).run? =
      some ⟨results, session.filesParsed⟩ := by
  obtain ⟨schedule, followed⟩ := exists_schedule disk (start options entries)
  have same := Worker.runAll_start disk (Session.openedWith_fresh options) entries
  rw [h] at same
  obtain ⟨are_results, left⟩ := same
  refine ⟨schedule, ?_⟩
  rw [followed, run?, start, are_results, left]
  rfl

/-- What becomes of several builds at a time does not depend on whose turn it is when. By any
schedule by which all are done, the results are those of builds in sessions of their own, in the
order in which the paths were given, and each file that any of these can read is counted once. Any
schedule goes on to one by which all are done. A session that builds one after the other has the
same results and counts the same files. -/
theorem follow_independent [Source.Parser] (disk : Disk) (options : Options)
    (entries : List String) :
    (∀ schedule run, ((start options entries).follow disk schedule).run? = some run →
      run = options.runSeparately disk entries) ∧
    (∀ schedule, ∃ more, ((start options entries).follow disk (schedule ++ more)).run? =
      some (options.runSeparately disk entries)) ∧
    ∃ said session, (Session.fresh options).buildAll disk.access entries =
        ((options.runSeparately disk entries).entries, said, session) ∧
      session.filesParsed = (options.runSeparately disk entries).filesAnalyzed := by
  have independent (schedule : List Nat) (run : Run)
      (completed : ((start options entries).follow disk schedule).run? = some run) :
      run = options.runSeparately disk entries := by
    obtain ⟨rest, sound⟩ := (sound_start disk options entries).follow schedule
    exact sound.run_eq completed
  refine ⟨independent, fun schedule => ?_, ?_⟩
  · obtain ⟨more, run, completed⟩ :=
      exists_completion disk ((start options entries).follow disk schedule)
    rw [← follow_append] at completed
    exact ⟨more, completed.trans (congrArg some (independent _ _ completed))⟩
  · obtain ⟨results, said, session, built⟩ : ∃ results said session,
        (Session.fresh options).buildAll disk.access entries = (results, said, session) :=
      ⟨_, _, _, rfl⟩
    obtain ⟨schedule, completed⟩ := exists_completion_buildAll built
    have same := independent _ _ completed
    refine ⟨said, session, ?_, congrArg Run.filesAnalyzed same⟩
    rw [built, ← same]

-- Two workers that start from the same file take turns, so both find that nothing is known of it,
-- and read it. The third has a path that leads nowhere.
example :
    (((start .standard ["/e.js", "/e.js", "/gone.js"]).follow Disk.ring
      (List.replicate 30 [0, 1, 2]).flatten).run?.map fun run =>
        (run.filesAnalyzed, run.entries.map (·.outcome.isOk))) =
      some (2, [true, true, false]) := by
  decide +kernel

end Crew

end ModuleGraph
