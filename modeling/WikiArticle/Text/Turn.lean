/-! Loops as functions. One turn of a loop either goes on from another state or stops with an answer; a
    loop of which every turn makes the state smaller runs to its answer from any state. -/

namespace WikiArticle

/-- What one turn of a loop does. -/
inductive Turn (σ α : Type) where
  /-- The loop goes on from `s`. -/
  | next (s : σ)
  /-- The loop stops with the answer `a`. -/
  | done (a : α)
  deriving DecidableEq, Repr

namespace Turn

variable {σ α : Type}

/-- The answer of the loop that starts in `s`, where `size` falls in every turn that goes on. -/
@[specialize]
def run (turn : σ → Turn σ α) (size : σ → Nat) (falls : ∀ s t, turn s = .next t → size t < size s) (s : σ) : α :=
  match h : turn s with
  | .next t =>
    have : size t < size s := falls s t h
    run turn size falls t
  | .done a => a
termination_by size s

variable {turn : σ → Turn σ α} {size : σ → Nat} {falls : ∀ s t, turn s = .next t → size t < size s}

theorem run_of_next {s t : σ} (h : turn s = .next t) : run turn size falls s = run turn size falls t := by
  rw [run.eq_1 turn size falls s]
  split
  · rename_i u hu
    rw [h] at hu
    cases hu
    rfl
  · rename_i a ha
    rw [h] at ha
    cases ha

theorem run_of_done {s : σ} {a : α} (h : turn s = .done a) : run turn size falls s = a := by
  rw [run.eq_1 turn size falls s]
  split
  · rename_i u hu
    rw [h] at hu
    cases hu
  · rename_i b hb
    rw [h] at hb
    cases hb
    rfl

/-- What every turn keeps, and every answer given in such a state satisfies, holds of the loop's answer. -/
theorem run_induct (inv : σ → Prop) (post : α → Prop) (keeps : ∀ s t, inv s → turn s = .next t → inv t)
    (ends : ∀ s a, inv s → turn s = .done a → post a) {s : σ} (hs : inv s) : post (run turn size falls s) := by
  induction hn : size s using Nat.strongRecOn generalizing s with
  | _ n ih =>
    subst hn
    cases h : turn s with
    | next t => rw [run_of_next h]; exact ih _ (falls s t h) (keeps s t hs h) rfl
    | done a => rw [run_of_done h]; exact ends s a hs h

end Turn
end WikiArticle
