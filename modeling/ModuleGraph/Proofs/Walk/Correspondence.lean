import ModuleGraph.Walk

/-!
# Walks do not look at how they are answered

A walk asks, and goes on with whatever it is told. So if two ways to give answers correspond, the
walks that are answered in these ways correspond as well, whatever it is that the answers do
besides: remember, count, or wait for one another.

A `Correspondence` compares computations of two kinds and is kept when computations are composed.
`Walk.whole_corresponds` is the statement for whole walks; it needs nothing but that each single
question is answered in corresponding ways.
-/

namespace ModuleGraph

/-- A comparison of computations of two kinds that is kept when they are composed. -/
structure Correspondence (m n : Type → Type) [Monad m] [Monad n] where
  holds : ∀ {α : Type}, m α → n α → Prop
  holds_pure : ∀ {α : Type} (a : α), holds (pure a) (pure a)
  holds_bind : ∀ {α β : Type} {x : m α} {y : n α} {f : α → m β} {g : α → n β},
    holds x y → (∀ a, holds (f a) (g a)) → holds (x >>= f) (y >>= g)

namespace Walk

variable {m n : Type → Type} [Monad m] [Monad n] {answers : Answers m} {others : Answers n}
  (agree : Correspondence m n)

theorem follow_corresponds
    (targets : ∀ file request, agree.holds (answers.target file request)
      (others.target file request))
    (strict : Bool) (file : Location) (specifiers : List Specifier) (record : Record) :
    agree.holds (follow answers strict file specifiers record)
      (follow others strict file specifiers record) := by
  induction specifiers generalizing record with
  | nil => exact agree.holds_pure _
  | cons specifier rest ih =>
      rw [follow, follow]
      apply agree.holds_bind (targets file specifier.request)
      intro answer
      cases answer with
      | ok target =>
          apply agree.holds_bind (ih _)
          intro followed
          cases followed <;> exact agree.holds_pure _
      | error failure =>
          cases strict with
          | false => exact ih _
          | true => exact agree.holds_pure _

theorem enter_corresponds
    (imports : ∀ file, agree.holds (answers.imports file) (others.imports file))
    (targets : ∀ file request, agree.holds (answers.target file request)
      (others.target file request))
    (strict : Bool) (file : Location) (walk : Walk) :
    agree.holds (walk.enter answers strict file) (walk.enter others strict file) := by
  rw [enter, enter, expand, expand]
  refine agree.holds_bind (agree.holds_bind (imports file) fun answer => ?_) fun expanded => ?_
  · cases answer with
    | ok specifiers => exact follow_corresponds agree targets strict file specifiers walk.record
    | error failure => cases strict <;> exact agree.holds_pure _
  · cases expanded <;> exact agree.holds_pure _

theorem explore_corresponds
    (imports : ∀ file, agree.holds (answers.imports file) (others.imports file))
    (targets : ∀ file request, agree.holds (answers.target file request)
      (others.target file request))
    (strict : Bool) (entrances : Nat) (walk : Walk) :
    agree.holds (explore answers strict entrances walk)
      (explore others strict entrances walk) := by
  induction entrances generalizing walk with
  | zero => exact agree.holds_pure _
  | succ entrances ih =>
      rw [explore, explore]
      obtain ⟨settled, next⟩ := walk.settled
      cases next with
      | none => exact agree.holds_pure _
      | some file =>
          refine agree.holds_bind (enter_corresponds agree imports targets strict file settled)
            fun entered => ?_
          cases entered with
          | error abandoned => exact agree.holds_pure _
          | ok walk => exact ih walk

/-- Where all questions are answered in corresponding ways, so are whole walks. -/
theorem whole_corresponds
    (imports : ∀ file, agree.holds (answers.imports file) (others.imports file))
    (targets : ∀ file request, agree.holds (answers.target file request)
      (others.target file request))
    (policy : Policy) (size : Nat) (file : Location) :
    agree.holds (whole answers policy size file) (whole others policy size file) := by
  rw [whole, whole]
  apply agree.holds_bind (enter_corresponds agree imports targets true file _)
  intro entered
  cases entered with
  | error abandoned => exact agree.holds_pure _
  | ok walk => exact explore_corresponds agree imports targets _ size walk

end Walk

end ModuleGraph
