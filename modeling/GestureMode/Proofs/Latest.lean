/-!
# The latest operation

A system takes operations one after the other.  Some of them decide what is seen of the
system, and whether an operation is one of these may depend on the state that it meets; the
others leave what is seen alone.  What is seen after a history is then what the latest
operation that decides it made of it.
-/

set_option autoImplicit false

namespace GestureMode

/-- What is seen of a system has the value that an operation gives it when the operation
decides it, and stays as it was otherwise. -/
structure Decides {σ ω β : Type} (step : σ → ω → σ) (view : σ → β) (decides : σ → ω → Prop)
    (value : σ → ω → β) : Prop where
  decided : ∀ (state : σ) (operation : ω), decides state operation →
    view (step state operation) = value state operation
  kept : ∀ (state : σ) (operation : ω), ¬ decides state operation →
    view (step state operation) = view state

def Undecided {σ ω : Type} (step : σ → ω → σ) (decides : σ → ω → Prop) (state : σ)
    (history : List ω) : Prop :=
  ∀ (before after : List ω) (operation : ω), history = before ++ operation :: after →
    ¬ decides (before.foldl step state) operation

namespace Undecided

variable {σ ω : Type} {step : σ → ω → σ} {decides : σ → ω → Prop}

theorem nil (state : σ) : Undecided step decides state [] := by
  intro before after operation split
  cases before <;> cases split

theorem cons_iff (state : σ) (operation : ω) (rest : List ω) :
    Undecided step decides state (operation :: rest) ↔
      ¬ decides state operation ∧ Undecided step decides (step state operation) rest := by
  constructor
  · intro undecided
    refine ⟨undecided [] rest operation rfl, ?_⟩
    intro before after later split
    exact undecided (operation :: before) after later (by rw [split]; rfl)
  · rintro ⟨head, tail⟩ before after later split
    cases before with
    | nil =>
      injection split with same
      subst same
      exact head
    | cons first before =>
      injection split with same rest
      subst same
      exact tail before after later rest

theorem of_forall (state : σ) (history : List ω)
    (never : ∀ operation ∈ history, ∀ met : σ, ¬ decides met operation) :
    Undecided step decides state history := by
  intro before after operation split
  apply never operation
  rw [split]
  exact List.mem_append_right before List.mem_cons_self

theorem forall_mem {marked : ω → Prop} {state : σ} {history : List ω}
    (undecided : Undecided step (fun _ operation => marked operation) state history) :
    ∀ operation ∈ history, ¬ marked operation := by
  intro operation member
  obtain ⟨before, after, split⟩ := List.append_of_mem member
  exact undecided before after operation split

theorem or_exists_latest (step : σ → ω → σ) (decides : σ → ω → Prop) (state : σ)
    (history : List ω) :
    Undecided step decides state history ∨
      ∃ (before after : List ω) (operation : ω), history = before ++ operation :: after ∧
        decides (before.foldl step state) operation ∧
          Undecided step decides (step (before.foldl step state) operation) after := by
  induction history generalizing state with
  | nil => exact .inl (nil state)
  | cons operation rest ih =>
    rcases ih (step state operation) with tail | ⟨before, after, later, split, deciding, latest⟩
    · by_cases head : decides state operation
      · exact .inr ⟨[], rest, operation, rfl, head, tail⟩
      · exact .inl ((cons_iff state operation rest).mpr ⟨head, tail⟩)
    · refine .inr ⟨operation :: before, after, later, ?_, deciding, latest⟩
      rw [split]
      rfl

end Undecided

namespace Decides

variable {σ ω β : Type} {step : σ → ω → σ} {view : σ → β} {decides : σ → ω → Prop}
  {value : σ → ω → β}

theorem view_of_undecided (law : Decides step view decides value) (state : σ) (history : List ω)
    (undecided : Undecided step decides state history) :
    view (history.foldl step state) = view state := by
  induction history generalizing state with
  | nil => rfl
  | cons operation rest ih =>
    obtain ⟨head, tail⟩ := (Undecided.cons_iff state operation rest).mp undecided
    exact (ih (step state operation) tail).trans (law.kept state operation head)

/-- The latest operation that decides gives the value. -/
theorem view_of_latest (law : Decides step view decides value) (state : σ)
    (before after : List ω) (operation : ω) (deciding : decides (before.foldl step state) operation)
    (latest : Undecided step decides (step (before.foldl step state) operation) after) :
    view ((before ++ operation :: after).foldl step state) =
      value (before.foldl step state) operation := by
  rw [List.foldl_append]
  exact (law.view_of_undecided _ after latest).trans (law.decided _ operation deciding)

end Decides

end GestureMode
