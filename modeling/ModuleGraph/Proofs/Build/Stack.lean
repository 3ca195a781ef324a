import ModuleGraph.Proofs.Build.Turns
import ModuleGraph.Proofs.Walk.Stack

/-!
# The stack of a build is its path

Before every turn of a build, its stack is the path from the file that it has started from to the
one that was expanded last, and what is marked and what is registered is in agreement with that.
`Session.build_stack_is_path` says so of every build in any session, whatever the session
remembers, whatever it does about failures, and whether or not the build will succeed in the end.

The walks in question are those of `Session.BeforeTurn`. It follows the operations of a build one
by one, with what the session remembers in between. That nothing is left out is seen from
`Session.EndsIn`, which says of each way in which these turns can end what becomes of the build.
-/

namespace ModuleGraph

namespace Session

section

variable [Source.Parser] {disk : Disk} {session : Session} {path : String} {entry : Location}
  {walk : Walk}

/-- A walk as it is before a turn of a build in a session, and what the session is by then. -/
inductive BeforeTurn (disk : Disk) (session : Session) (path : String) : Walk → Session → Prop
  /-- Before the first turn, the file to which the path leads has been entered. -/
  | first {entry : Location} {walk : Walk} {now : Session}
      (leads : disk.canonicalize path = .ok entry)
      (entered : (Walk.start entry).enter (answers disk.access) true entry session =
        (.ok walk, now)) : BeforeTurn disk session path walk now
  /-- Some turns ask nothing. -/
  | moved {walk later : Walk} {now : Session} (before : BeforeTurn disk session path walk now)
      (turned : walk.turn = .moved later) : BeforeTurn disk session path later now
  /-- In the others, one more file is entered. -/
  | entered {walk looked later : Walk} {now afterwards : Session} {file : Location}
      (before : BeforeTurn disk session path walk now) (turned : walk.turn = .unseen file looked)
      (entered : looked.enter (answers disk.access) (session.policy = .abort) file now =
        (.ok later, afterwards)) : BeforeTurn disk session path later afterwards

/-- A file is entered in a session as it is with the standing answers, and these stand. -/
theorem enter_eq_standing {given : Answers Id} {now : Session}
    (stands : now.standing disk.access = given) (strict : Bool) (file : Location) (walk : Walk) :
    (walk.enter (answers disk.access) strict file now).1 = walk.enter given strict file ∧
      (walk.enter (answers disk.access) strict file now).2.standing disk.access = given :=
  Walk.enter_corresponds (keeping disk.access given) (keeping_imports disk.access given)
    (keeping_target disk.access given) strict file walk now stands

theorem enter_start_eq_standing (disk : Disk) (session : Session) (entry : Location) :
    ((Walk.start entry).enter (answers disk.access) true entry session).1 =
        (Walk.start entry).enter (session.standing disk.access) true entry ∧
      ((Walk.start entry).enter (answers disk.access) true entry session).2.standing disk.access =
        session.standing disk.access :=
  enter_eq_standing rfl true entry (.start entry)

/-- Whatever comes before a turn is a walk that has taken some steps with the standing answers. -/
theorem BeforeTurn.steps {now : Session} (h : session.BeforeTurn disk path walk now) :
    ∃ entry, disk.canonicalize path = .ok entry ∧
      (session.standing disk.access).failures entry = [] ∧
      now.standing disk.access = session.standing disk.access ∧
      Walk.Steps (session.standing disk.access) (session.policy = .abort)
        (.first (session.standing disk.access) entry) walk := by
  induction h with
  | @first entry walk now leads entered =>
      obtain ⟨result, stands⟩ := enter_start_eq_standing disk session entry
      rw [entered] at result stands
      obtain ⟨allowed, rfl⟩ := Walk.enter_eq_ok_iff.mp result.symm
      exact ⟨entry, leads, allowed rfl, stands, .refl⟩
  | moved _ turned ih =>
      obtain ⟨entry, leads, none, stands, steps⟩ := ih
      exact ⟨entry, leads, none, stands, steps.tail (Walk.step_of_turn_moved _ _ turned).1⟩
  | @entered walk looked later now afterwards file _ turned entered ih =>
      obtain ⟨entry, leads, none, stands, steps⟩ := ih
      obtain ⟨result, stands'⟩ := enter_eq_standing stands (session.policy = .abort) file looked
      rw [entered] at result stands'
      obtain ⟨allowed, rfl⟩ := Walk.enter_eq_ok_iff.mp result.symm
      obtain ⟨record, marks, frame, below, rfl, next, unseen, rfl⟩ := Walk.of_turn_unseen turned
      exact ⟨entry, leads, none, stands', steps.tail (.enter next unseen allowed)⟩

/-- So the answers by which one more file is entered are the standing ones. -/
theorem BeforeTurn.enter_eq {now : Session} (h : session.BeforeTurn disk path walk now)
    (strict : Bool) (file : Location) (looked : Walk) :
    (looked.enter (answers disk.access) strict file now).1 =
      looked.enter (session.standing disk.access) strict file := by
  obtain ⟨_, _, _, stands, _⟩ := h.steps
  exact (enter_eq_standing stands strict file looked).1

/-- A build takes all steps that can be taken with the standing answers. -/
theorem exists_beforeTurn (leads : disk.canonicalize path = .ok entry)
    (none : (session.standing disk.access).failures entry = [])
    (steps : Walk.Steps (session.standing disk.access) (session.policy = .abort)
      (.first (session.standing disk.access) entry) walk) :
    ∃ now, session.BeforeTurn disk path walk now := by
  induction steps with
  | refl =>
      obtain ⟨result, _⟩ := enter_start_eq_standing disk session entry
      rw [Walk.enter_eq_ok _ _ fun _ => none] at result
      exact ⟨_, .first leads (Prod.ext result rfl)⟩
  | tail _ step ih =>
      obtain ⟨now, before⟩ := ih
      cases step with
      | finish done => exact ⟨now, .moved before (Walk.turn_of_done done)⟩
      | look next seen => exact ⟨now, .moved before (Walk.turn_of_seen next seen)⟩
      | @enter record marks frame below target next unseen allowed =>
          have result := before.enter_eq (session.policy = .abort) target
            ⟨record, marks, frame.advance :: below⟩
          rw [Walk.enter_eq_ok _ _ allowed] at result
          exact ⟨_, .entered before (Walk.turn_of_unseen next unseen) (Prod.ext result rfl)⟩

/-- How a build in a session ends, and what becomes of it. -/
inductive EndsIn (disk : Disk) (session : Session) (path : String) : Except Failure Outcome → Prop
  /-- The path leads nowhere. -/
  | astray {cause : Cause} (leads : disk.canonicalize path = .error cause) :
      EndsIn disk session path (.error (.unreadable path cause))
  /-- The first file is not entered. -/
  | refused {entry : Location} {abandoned : Abandoned} {later : Session}
      (leads : disk.canonicalize path = .ok entry)
      (refused : (Walk.start entry).enter (answers disk.access) true entry session =
        (.error abandoned, later)) : EndsIn disk session path (.error abandoned.failure)
  /-- There are no turns left. -/
  | ended {walk : Walk} {now : Session} (before : BeforeTurn disk session path walk now)
      (turned : walk.turn = .ended) : EndsIn disk session path (.ok walk.record.outcome)
  /-- In some turn, one more file is not entered. -/
  | abandoned {walk looked : Walk} {now later : Session} {file : Location} {abandoned : Abandoned}
      (before : BeforeTurn disk session path walk now) (turned : walk.turn = .unseen file looked)
      (refused : looked.enter (answers disk.access) (session.policy = .abort) file now =
        (.error abandoned, later)) : EndsIn disk session path (.error abandoned.failure)

/-- The walk of a build fails at once or goes on to where it halts. -/
theorem whole_standing_halts (disk : Disk) (session : Session) (entry : Location) :
    let walked := Walk.whole (session.standing disk.access) session.policy
      (disk.access.size.run + session.resolver.known.length) entry
    (∃ failure others, (session.standing disk.access).failures entry = failure :: others ∧
      walked = Except.error ⟨failure, []⟩) ∨
    ((session.standing disk.access).failures entry = [] ∧
      ∃ last, Walk.Steps (session.standing disk.access) (session.policy = .abort)
          (.first (session.standing disk.access) entry) last ∧
        Walk.Halts (session.standing disk.access) (session.policy = .abort) last walked) := by
  have bounded (file : Location) : ∀ target ∈ (session.standing disk.access).targets file,
      target ∈ disk.entries.map (·.1) ++ session.resolver.known.map (·.2) :=
    fun _ => mem_of_mem_targets
  exact Walk.whole_halts bounded (length_known_le_size disk session) session.policy entry

/-- A build becomes what becomes of its walk where that halts. -/
theorem result_of_halts {now : Session} {walked : Except Abandoned Walk}
    (before : session.BeforeTurn disk path walk now)
    (halts : Walk.Halts (session.standing disk.access) (session.policy = .abort) walk walked) :
    (session.build disk.access path : Build × Session).1.result = (Build.ofWalk walked).result := by
  obtain ⟨entry, leads, none, _, steps⟩ := before.steps
  rw [build_of_ok disk.access leads]
  rcases whole_standing_halts disk session entry with
    ⟨failure, others, listed, _⟩ | ⟨_, last, steps', halts'⟩
  · rw [none] at listed
    cases listed
  · obtain ⟨_, same⟩ := steps.halts_unique steps' halts halts'
    rw [← same]

/-- A build from a file that is not entered fails with what keeps it from that. -/
theorem result_of_refused {abandoned : Abandoned} {later : Session}
    (leads : disk.canonicalize path = .ok entry)
    (refused : (Walk.start entry).enter (answers disk.access) true entry session =
      (.error abandoned, later)) :
    (session.build disk.access path : Build × Session).1.result = .error abandoned.failure := by
  obtain ⟨result, _⟩ := enter_start_eq_standing disk session entry
  rw [refused] at result
  obtain ⟨_, failure, others, listed, rfl⟩ := Walk.enter_eq_error_iff.mp result.symm
  rw [build_of_ok disk.access leads]
  rcases whole_standing_halts disk session entry with
    ⟨failure', others', listed', walked⟩ | ⟨none, _⟩
  · cases listed.symm.trans listed'
    rw [walked]
    rfl
  · rw [none] at listed
    cases listed

/-- What becomes of a build is told by how it ends. -/
theorem EndsIn.result_eq {result : Except Failure Outcome} (h : session.EndsIn disk path result) :
    (session.build disk.access path : Build × Session).1.result = result := by
  cases h with
  | astray leads => rw [build_of_error disk.access leads]
  | refused leads refused => exact result_of_refused leads refused
  | ended before turned =>
      exact result_of_halts before (Walk.halts_of_ended (Walk.stack_eq_nil_of_turn_ended turned))
  | @abandoned walk looked now later file abandoned before turned refused =>
      have result := before.enter_eq (session.policy = .abort) file looked
      rw [refused] at result
      obtain ⟨strictly, failure, others, listed, rfl⟩ := Walk.enter_eq_error_iff.mp result.symm
      obtain ⟨record, marks, frame, below, rfl, next, unseen, rfl⟩ := Walk.of_turn_unseen turned
      exact result_of_halts before (.abandoned next unseen strictly listed)

/-- Every build ends in one of these ways. -/
theorem endsIn_result (disk : Disk) (session : Session) (path : String) :
    session.EndsIn disk path (session.build disk.access path : Build × Session).1.result := by
  cases leads : disk.canonicalize path with
  | error cause =>
      rw [build_of_error disk.access leads]
      exact .astray leads
  | ok entry =>
      rcases whole_standing_halts disk session entry with
        ⟨failure, others, listed, _⟩ | ⟨none, last, steps, halts⟩
      · obtain ⟨result, _⟩ := enter_start_eq_standing disk session entry
        rw [Walk.enter_eq_error _ _ listed] at result
        obtain ⟨later, refused⟩ : ∃ later, (Walk.start entry).enter (answers disk.access) true entry
            session = (.error ⟨failure, (Walk.start entry).record.findings⟩, later) :=
          ⟨_, Prod.ext result rfl⟩
        rw [result_of_refused leads refused]
        exact .refused leads refused
      · obtain ⟨now, before⟩ := exists_beforeTurn leads none steps
        rw [result_of_halts before halts]
        generalize Walk.whole (session.standing disk.access) _ _ entry = walked at halts
        cases halts with
        | ended => exact .ended before rfl
        | @abandoned record marks frame below target failure others next unseen strictly listed =>
            have result := before.enter_eq (session.policy = .abort) target
              ⟨record, marks, frame.advance :: below⟩
            rw [Walk.enter_eq_error_iff.mpr ⟨strictly, _, _, listed, rfl⟩] at result
            exact .abandoned before (Walk.turn_of_unseen next unseen) (Prod.ext result rfl)

/-- Before every turn of a build, the stack is the path from where its path leads, and marks and
graph agree with it. So there is a target at the cursor of the topmost frame if the cursor is not
at the end. If this target is on the path, it is found there, and its cycle is on record after the
turn. These are all turns that there are: what becomes of the build is told by the last of them. -/
theorem build_stack_is_path (disk : Disk) (session : Session) (path : String) :
    (∀ walk now, session.BeforeTurn disk path walk now →
      ∃ entry, disk.canonicalize path = .ok entry ∧ walk.StackIsPath entry ∧
        ∀ frame below, walk.stack = frame :: below →
          (frame.next ≠ frame.targets.length →
            ∃ target, frame.targets[frame.next]? = some target) ∧
          ∀ target, frame.targets[frame.next]? = some target →
            walk.mark? target = some .onPath → ∃ later, walk.turn = .moved later ∧
              ⟨walk.path.reverse.dropWhile (· ≠ target) ++ [target]⟩ ∈ later.record.cycles) ∧
    ∀ result, (session.build disk.access path : Build × Session).1.result = result ↔
      session.EndsIn disk path result := by
  refine ⟨fun walk now before => ?_, fun result => ⟨?_, EndsIn.result_eq⟩⟩
  · obtain ⟨entry, leads, _, _, steps⟩ := before.steps
    have stack_is_path := steps.coherent.stackIsPath
    refine ⟨entry, leads, stack_is_path, fun frame below top => ⟨?_, ?_⟩⟩
    · exact stack_is_path.exists_next top
    · intro target next marked
      exact stack_is_path.turn_onPath top next marked
  · rintro rfl
    exact endsIn_result disk session path

end

/-- A walk through the ring that has entered both files and has looked at nothing in the second. -/
def ringWalk : Walk where
  record := ⟨Disk.ringOutcome.graph, []⟩
  marks := [(⟨["a.js"]⟩, .onPath), (⟨["e.js"]⟩, .onPath)]
  stack := [⟨⟨["a.js"]⟩, [⟨["e.js"]⟩, ⟨["a.js"]⟩], 0⟩, ⟨⟨["e.js"]⟩, [⟨["a.js"]⟩, ⟨["a.js"]⟩], 1⟩]

theorem build_stack_is_path_ring :
    ∃ now, (fresh .standard).BeforeTurn Disk.ring "/e.js" ringWalk now ∧
      ringWalk.StackIsPath ⟨["e.js"]⟩ ∧ ∃ later, ringWalk.turn = .moved later ∧
        ⟨[⟨["e.js"]⟩, ⟨["a.js"]⟩, ⟨["e.js"]⟩]⟩ ∈ later.record.cycles := by
  have leads : Disk.ring.canonicalize "/e.js" = .ok ⟨["e.js"]⟩ := by decide +kernel
  obtain ⟨now, before⟩ : ∃ now, (fresh .standard).BeforeTurn Disk.ring "/e.js" ringWalk now := by
    refine exists_beforeTurn leads (by decide +kernel) (.tail .refl ?_)
    let record : Record := ⟨⟨[(⟨["e.js"]⟩, [⟨["a.js"]⟩, ⟨["a.js"]⟩]), (⟨["a.js"]⟩, [])]⟩, []⟩
    let frame : Frame := ⟨⟨["e.js"]⟩, [⟨["a.js"]⟩, ⟨["a.js"]⟩], 0⟩
    have first : Walk.first ((fresh .standard).standing Disk.ring.access) ⟨["e.js"]⟩ =
        ⟨record, [(⟨["e.js"]⟩, .onPath)], [frame]⟩ := by decide +kernel
    have entered : Walk.entering ((fresh .standard).standing Disk.ring.access)
        ⟨record, [(⟨["e.js"]⟩, .onPath)], [frame.advance]⟩ ⟨["a.js"]⟩ = ringWalk := by
      decide +kernel
    rw [first, ← entered]
    exact .enter rfl (by decide) fun _ => by decide +kernel
  obtain ⟨entry, leads', stack_is_path, turns⟩ :=
    (build_stack_is_path Disk.ring (fresh .standard) "/e.js").1 ringWalk now before
  cases leads.symm.trans leads'
  obtain ⟨later, turned, noted⟩ := (turns _ _ rfl).2 ⟨["e.js"]⟩ rfl (by decide)
  have chain : ringWalk.path.reverse.dropWhile (· ≠ ⟨["e.js"]⟩) ++ [⟨["e.js"]⟩] =
      [⟨["e.js"]⟩, ⟨["a.js"]⟩, ⟨["e.js"]⟩] := by decide
  rw [chain] at noted
  exact ⟨now, before, stack_is_path, later, turned, noted⟩

end Session

end ModuleGraph
