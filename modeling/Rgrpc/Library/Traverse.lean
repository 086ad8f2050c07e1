/-
This file gives the two facts about a traversal that may fail: it succeeds
exactly when it succeeds on every element, and its result is then the list of
the results, in order.
-/

import Mathlib.Data.List.Forall2
import Mathlib.Tactic.Common

namespace Rgrpc.Library

section Traverse

variable {Element Result Error : Type} {convert : Element → Except Error Result}

theorem mapM_cons_ok {first : Element} {rest : List Element} {result : Result}
    {results : List Result} (head : convert first = .ok result)
    (tail : rest.mapM convert = .ok results) :
    (first :: rest).mapM convert = .ok (result :: results) := by
  rw [List.mapM_cons, head, tail]
  rfl

theorem mapM_cons_error {first : Element} {rest : List Element} {error : Error}
    (fails : convert first = .error error ∨
      ∃ result, convert first = .ok result ∧ rest.mapM convert = .error error) :
    (first :: rest).mapM convert = .error error := by
  rw [List.mapM_cons]
  rcases fails with head | ⟨result, head, tail⟩
  · rw [head]
    rfl
  · rw [head, tail]
    rfl

/-- A traversal that fails on none of its elements succeeds, element by element. -/
theorem mapM_ok_of_forall {elements : List Element}
    (succeeds : ∀ element ∈ elements, ∃ result, convert element = .ok result) :
    ∃ results, elements.mapM convert = .ok results ∧
      List.Forall₂ (fun element result => convert element = .ok result) elements results := by
  induction elements with
  | nil => exact ⟨[], rfl, .nil⟩
  | cons first rest inductionHypothesis =>
    obtain ⟨result, head⟩ := succeeds first List.mem_cons_self
    obtain ⟨results, tail, each⟩ := inductionHypothesis fun element member =>
      succeeds element (List.mem_cons_of_mem first member)
    exact ⟨result :: results, mapM_cons_ok head tail, .cons head each⟩

/-- A traversal that fails on one of its elements fails. -/
theorem mapM_error_of_mem {elements : List Element} {element : Element}
    (member : element ∈ elements) (fails : ∀ result, convert element ≠ .ok result) :
    ∃ error, elements.mapM convert = .error error := by
  induction elements with
  | nil => exact absurd member List.not_mem_nil
  | cons first rest inductionHypothesis =>
    cases head : convert first with
    | error error => exact ⟨error, mapM_cons_error (Or.inl head)⟩
    | ok result =>
      have inRest : element ∈ rest := by
        rcases List.mem_cons.mp member with rfl | inRest
        · exact absurd head (fails result)
        · exact inRest
      obtain ⟨error, tail⟩ := inductionHypothesis inRest
      exact ⟨error, mapM_cons_error (Or.inr ⟨result, head, tail⟩)⟩

/-- The results of a traversal that succeeds are those of its elements, in order. -/
theorem forall₂_of_mapM_ok {elements : List Element} {results : List Result}
    (succeeds : elements.mapM convert = .ok results) :
    List.Forall₂ (fun element result => convert element = .ok result) elements results := by
  have each : ∀ element ∈ elements, ∃ result, convert element = .ok result := by
    intro element member
    by_contra fails
    obtain ⟨error, failed⟩ := mapM_error_of_mem member (not_exists.mp fails)
    exact absurd (succeeds.symm.trans failed) (by simp)
  obtain ⟨found, same, whole⟩ := mapM_ok_of_forall each
  rw [Except.ok.inj (same.symm.trans succeeds)] at whole
  exact whole

end Traverse

end Rgrpc.Library
