import ModuleGraph.Proofs.Build.Graphs
import ModuleGraph.Proofs.Disk.Flaws
import ModuleGraph.Proofs.Walk.Agreement

/-!
# More extensions to fall back on

Extensions are tried in order, so more of them at the end of a list matter to a specifier only if
it leads nowhere without them. In a graph without failures no specifier does. So a build that
succeeds without failures is not changed by them at all (`Options.build_withFallback`).

The lists are given as users write them. That the normal form of the longer one begins with that of
the shorter is due to the rule that of equal extensions the first is kept, and to the default,
which stands in for an empty list only.
-/

namespace ModuleGraph

/-- The normal form of a list that is not empty is a beginning of that of any longer one. -/
theorem Extension.exists_normalise_append {texts : List String} (some_text : texts ≠ [])
    (others : List String) : ∃ more, normalise (texts ++ others) = normalise texts ++ more := by
  obtain ⟨text, rest, rfl⟩ := List.exists_cons_of_ne_nil some_text
  rw [normalise, normalise, List.map_append, firstOccurrences_append, List.map_cons,
    firstOccurrences]
  exact ⟨_, rfl⟩

/-- A file that was found first is still found first if there is more to try behind it. -/
theorem Resolver.firstFile_append {access : Access Id} {candidates : List Location}
    {candidate : Location} (h : firstFile access candidates = some candidate)
    (others : List Location) : firstFile access (candidates ++ others) = some candidate := by
  induction candidates with
  | nil => cases h
  | cons first rest ih =>
      simp only [firstFile, bind, List.cons_append] at h ⊢
      by_cases there : access.isFile first.text = true
      · rwa [if_pos there] at h ⊢
      · rw [if_neg there] at h ⊢
        exact ih h

/-- A specifier that leads somewhere still leads there if there are more extensions to try. -/
theorem Access.resolve_append {access : Access Id} {extensions : List String}
    {file found : Location} {specifier : String}
    (h : access.resolve extensions file specifier = .ok found) (others : List String) :
    access.resolve (extensions ++ others) file specifier = .ok found := by
  obtain ⟨candidate, first, led⟩ := resolve_eq_ok_iff.mp h
  refine resolve_eq_ok_iff.mpr ⟨candidate, ?_, led⟩
  rw [Resolver.candidates, List.map_append]
  exact Resolver.firstFile_append first _

namespace Answers

variable {answers others : Answers Id} {file : Location}

/-- Where all requests lead somewhere, answers that keep them there lead to the same targets. -/
theorem resolved_eq_of_unresolved {specifiers : List Specifier}
    (keep : ∀ request found, answers.target file request = Except.ok found →
      others.target file request = Except.ok found)
    (none : answers.unresolved file specifiers = []) :
    others.resolved file specifiers = answers.resolved file specifiers ∧
      others.unresolved file specifiers = [] := by
  induction specifiers with
  | nil => exact ⟨rfl, rfl⟩
  | cons specifier rest ih =>
      cases led : (answers.target file specifier.request : Except Failure Location) with
      | error failure =>
          rw [unresolved_cons_of_error answers rest led] at none
          cases none
      | ok found =>
          have led' := keep _ _ led
          rw [unresolved_cons_of_ok answers rest led] at none
          obtain ⟨same, none'⟩ := ih none
          rw [resolved_cons_of_ok others rest led', resolved_cons_of_ok answers rest led, same,
            unresolved_cons_of_ok others rest led', none']
          exact ⟨rfl, rfl⟩

/-- A file that can be expanded in full is answered for alike by answers that keep its requests and
where they lead. -/
theorem agreeOn_of_failures (imports : others.imports file = answers.imports file)
    (keep : ∀ request found, answers.target file request = Except.ok found →
      others.target file request = Except.ok found)
    (none : answers.failures file = []) : answers.AgreeOn others file := by
  cases read : (answers.imports file : Except Failure (List Specifier)) with
  | error failure =>
      rw [failures_of_error answers read] at none
      cases none
  | ok specifiers =>
      rw [failures_of_ok answers read] at none
      obtain ⟨same, none'⟩ := resolved_eq_of_unresolved keep none
      have read' := imports.trans read
      constructor
      · rw [targets_of_ok others read', targets_of_ok answers read, same]
      · rw [failures_of_ok others read', failures_of_ok answers read, none, none']

end Answers

/-- A disk with one module in two languages, one of them listed first. -/
def Disk.twins : Disk where
  entries :=
    [(⟨["e.js"]⟩, .file (.text "require('./x');")), (⟨["x.js"]⟩, .file (.text "require('./e');")),
      (⟨["x.ts"]⟩, .file (.text "")), (⟨["x"]⟩, .file (.text ""))]
  workingDirectory := some .root

/-- What a build finds on that disk with the first language only. -/
def Disk.twinsOutcome : Outcome where
  graph := ⟨[(⟨["e.js"]⟩, [⟨["x.js"]⟩]), (⟨["x.js"]⟩, [⟨["e.js"]⟩])]⟩
  cycles := [⟨[⟨["e.js"]⟩, ⟨["x.js"]⟩, ⟨["e.js"]⟩]⟩]
  failures := []

namespace Options

/-- The same options with more extensions to try behind the others. -/
def withFallback (options : Options) (more : List String) : Options :=
  { options with extensions := options.extensions ++ more }

variable {disk : Disk} {options : Options} {path : String} {outcome : Outcome}

/-- A file with which nothing is wrong is answered for as before if there are more extensions. -/
theorem agreeOn_withFallback [Source.Parser] (some_extension : options.extensions ≠ [])
    (more : List String) {file : Location}
    (none : (disk.access.answers options).failures file = []) :
    (disk.access.answers options).AgreeOn
      (disk.access.answers (options.withFallback more)) file := by
  obtain ⟨others, normal⟩ := Extension.exists_normalise_append some_extension more
  refine Answers.agreeOn_of_failures rfl (fun request found led => ?_) none
  have led' := Access.resolve_append led others
  rwa [← normal] at led'

/-- A build that succeeds without failures comes to the same, and notes the same meanwhile, if
there are more extensions to try behind those that it was given. -/
theorem build_withFallback [Source.Parser] (some_extension : options.extensions ≠ [])
    (more : List String)
    (h : (options.build disk.access path : Build).result = .ok outcome)
    (none : outcome.failures = []) :
    ((options.withFallback more).build disk.access path : Build) =
      options.build disk.access path := by
  obtain ⟨entry, walk, leads, walked, rfl⟩ := exists_whole_of_build h
  obtain ⟨_, steps, ended⟩ := Walk.whole_ok Disk.mem_entries_of_mem_targets
    disk.length_entries_le_size walked
  have noted : walk.entered.reverse.flatMap (disk.access.answers options).failures = [] :=
    (Walk.Steps.failures_eq steps).symm.trans none
  have agree : ∀ file ∈ walk.record.graph.files, (disk.access.answers options).AgreeOn
      (disk.access.answers (options.withFallback more)) file := by
    intro file present
    have entered := (Walk.Steps.mem_files_iff steps ended file).mp present
    exact agreeOn_withFallback some_extension more
      (List.flatMap_eq_nil_iff.mp noted file (List.mem_reverse.mpr entered))
  have same := Walk.whole_congr Disk.mem_entries_of_mem_targets Disk.mem_entries_of_mem_targets
    disk.length_entries_le_size walked agree
  rw [build_of_ok disk.access leads, build_of_ok disk.access leads, walked]
  exact congrArg Build.ofWalk same

theorem build_withFallback_twins :
    ((⟨["js"], false, .record⟩ : Options).build Disk.twins.access "/e.js" : Build).result =
        .ok Disk.twinsOutcome ∧
      ((⟨["js"] ++ [" .js", ".ts", ""], false, .record⟩ : Options).build Disk.twins.access "/e.js" :
        Build).result = .ok Disk.twinsOutcome := by
  have built : ((⟨["js"], false, .record⟩ : Options).build Disk.twins.access "/e.js" :
      Build).result = .ok Disk.twinsOutcome := by decide +kernel
  have same := build_withFallback (List.cons_ne_nil _ _) [" .js", ".ts", ""] built rfl
  exact ⟨built, (congrArg Build.result same).trans built⟩

end Options

end ModuleGraph
