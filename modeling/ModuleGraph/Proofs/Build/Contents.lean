import ModuleGraph.Proofs.Build.Graphs
import ModuleGraph.Proofs.Disk.Contents

/-!
# Only the files of the graph matter

A walk asks a file for its requests when it enters the file, and looks into no other file. So two
disks on which everything is in the same place give the same walk if they agree on the files that
are entered (`Walk.whole_congr`), and a build does not depend on what is in the files outside its
graph (`Options.build_rewrite`).
-/

namespace ModuleGraph

/-! ## Files that a walk comes to -/

namespace Disk

variable [Source.Parser] {disk : Disk} {options : Options} {entry file : Location}

/-- What a file depends on is where names lead, without a link among them. -/
theorem stands_of_dependsOn (h : (disk.access.answers options).DependsOn entry file) :
    disk.Stands file := by
  obtain ⟨request, led⟩ := Answers.exists_target_of_mem_targets _ h
  exact stands_of_resolve led

theorem stands_of_reached (stands : disk.Stands entry)
    (h : Relation.ReflTransGen (disk.access.answers options).DependsOn entry file) :
    disk.Stands file := by
  rcases h.cases_tail with rfl | ⟨source, _, depends⟩
  · exact stands
  · exact stands_of_dependsOn depends

end Disk

/-- The disk with two files that ask for one another, and a third that asks for one of them. -/
def Disk.beside : Disk where
  entries := (⟨["b.js"]⟩, .file (.text "require('./e');")) :: Disk.ring.entries
  workingDirectory := some .root

/-- Bytes for the third file that are no text. -/
def Disk.scrambled (location : Location) : Option ByteArray :=
  if location = ⟨["b.js"]⟩ then some ⟨#[0xff]⟩ else none

namespace Options

variable {disk : Disk} {options : Options} {path : String} {outcome : Outcome}
  {contents : Location → Option ByteArray}

/-- A build that succeeds does not depend on what is in the files outside its graph: with any other
contents there, text or not, well formed or not, it comes to the same and notes the same meanwhile.
A relative path has to start from a directory, with no link on the way to it, as the working
directory of a well-formed disk is (`Disk.WellFormed.workingDirectory_directory`). -/
theorem build_rewrite [Source.Parser]
    (start : Path.isAbsolute path = true ∨ ∀ directory ∈ disk.workingDirectory,
      disk.Directory directory)
    (h : (options.build disk.access path : Build).result = .ok outcome)
    (outside : ∀ file ∈ outcome.graph.files, contents file = none) :
    (options.build (disk.rewrite contents).access path : Build) =
      options.build disk.access path := by
  cases leads : disk.canonicalize path with
  | error cause =>
      rw [build_of_error disk.access leads] at h
      cases h
  | ok entry =>
      have leads' : (disk.rewrite contents).canonicalize path = .ok entry :=
        (Disk.canonicalize_rewrite disk contents path).trans leads
      rw [build_of_ok disk.access leads] at h
      rw [build_of_ok disk.access leads, build_of_ok (disk.rewrite contents).access leads']
      cases walked : (Walk.whole (disk.access.answers options) options.policy disk.access.size.run
          entry : Except Abandoned Walk) with
      | error abandoned =>
          rw [walked] at h
          cases h
      | ok walk =>
          rw [walked] at h
          obtain rfl : walk.record.outcome = outcome := Except.ok.inj h
          obtain ⟨_, steps, ended⟩ := Walk.whole_ok Disk.mem_entries_of_mem_targets
            disk.length_entries_le_size walked
          have stands := Disk.canonicalize_stands start leads
          have agree : ∀ file ∈ walk.record.graph.files, (disk.access.answers options).AgreeOn
              ((disk.rewrite contents).access.answers options) file := by
            intro file present
            have reached := ((steps.exact ended).mem_iff file).mp present
            exact Disk.agreeOn_rewrite (Disk.stands_of_reached stands reached)
              (outside file present)
          have bounded (file : Location) :
              ∀ target ∈ ((disk.rewrite contents).access.answers options).targets file,
                target ∈ disk.entries.map (·.1) := by
            rw [← disk.locations_rewrite contents]
            exact Disk.mem_entries_of_mem_targets file
          have same := Walk.whole_congr Disk.mem_entries_of_mem_targets bounded
            disk.length_entries_le_size walked agree
          rw [← same, Disk.size_rewrite]

theorem build_rewrite_beside :
    (standard.build Disk.beside.access "/e.js" : Build).result = .ok Disk.ringOutcome ∧
      Disk.beside.readText "/b.js" = .ok "require('./e');" ∧
      (Disk.beside.rewrite Disk.scrambled).readText "/b.js" = .error .notText ∧
      (standard.build (Disk.beside.rewrite Disk.scrambled).access "/e.js" : Build).result =
        .ok Disk.ringOutcome := by
  have built : (standard.build Disk.beside.access "/e.js" : Build).result =
      .ok Disk.ringOutcome := by decide +kernel
  have outside : ∀ file ∈ Disk.ringOutcome.graph.files, Disk.scrambled file = none := by
    decide +kernel
  refine ⟨built, by decide +kernel, by decide +kernel, ?_⟩
  rw [build_rewrite (Or.inl (by decide +kernel)) built outside, built]

end Options

end ModuleGraph
