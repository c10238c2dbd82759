/-
# NandMachine.Proofs.Traversal -- going through data where nothing is refused

A list or a vector is gone through in a monad whose operations may refuse a member.  Where none is
refused, each member that comes out is known, and so is the whole.
-/
namespace NandMachine.Traversal

set_option autoImplicit false

variable {m : Type → Type} [Monad m] [LawfulMonad m]

/-- A list of which each member passes is mapped. -/
theorem mapM_eq_pure {α β : Type} {f : α → m β} {g : α → β} {xs : List α}
    (each : ∀ x ∈ xs, f x = pure (g x)) : xs.mapM f = pure (xs.map g) := by
  induction xs with
  | nil => rfl
  | cons x xs rest =>
    rw [List.mapM_cons, each x List.mem_cons_self, pure_bind,
      rest fun y member => each y (List.mem_cons_of_mem _ member), pure_bind, List.map_cons]

/-- A vector is obtained when each of its parts is. -/
theorem ofFnM_eq_pure {α : Type} {n : Nat} {f : Fin n → m α} {parts : Vector α n}
    (each : ∀ i : Fin n, f i = pure parts[i]) : Vector.ofFnM f = pure parts := by
  have obtained : f = fun i => pure parts[i] := funext each
  have whole : Vector.ofFn (fun i : Fin n => parts[i]) = parts := by
    apply Vector.ext
    intro i h
    simp
  rw [obtained, Vector.ofFnM_pure, whole]

end NandMachine.Traversal
