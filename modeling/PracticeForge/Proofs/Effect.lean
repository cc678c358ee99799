import Mathlib
import PracticeForge.Failure

/-!
# Proofs/Effect — running a computation one step at a time

An `Effect` acts on a state and may stop with a failure that keeps the state reached so far.
Proofs about the services open a `do` block with `run'_bind`, which runs the first computation
and either goes on from the state it left or stops with its failure there; the `@[simp]` lemmas
run the primitive steps (`pure`, `throw`, `modify`, a lifted result) directly.  `run'_tryCatch`
says a handler sees the state the failed computation left, which is what makes a failed write
that was already half done visible to the proofs about storage.
-/

namespace PracticeForge

namespace Effect

variable {σ α β : Type}

/-- **Running a bind**: the first computation runs; its value goes on from the state it left,
its failure stops the run there. -/
theorem run'_bind (x : Effect σ α) (f : α → Effect σ β) (w : σ) :
    (x >>= f).run' w = match x.run' w with
      | (.ok a, w₁) => (f a).run' w₁
      | (.error e, w₁) => (.error e, w₁) := by
  simp only [Effect.run', bind, ExceptT.bind, ExceptT.mk, ExceptT.run, StateT.run, StateT.bind]
  rcases x w with ⟨r, w₁⟩
  cases r <;> rfl

@[simp] theorem run'_pure (a : α) (w : σ) : (pure a : Effect σ α).run' w = (.ok a, w) := rfl

@[simp] theorem run'_throw (e : Failure) (w : σ) : (throw e : Effect σ α).run' w = (.error e, w) :=
  rfl

@[simp] theorem run'_modify (f : σ → σ) (w : σ) :
    (modify f : Effect σ PUnit).run' w = (.ok ⟨⟩, f w) := rfl

@[simp] theorem run'_get (w : σ) : (get : Effect σ σ).run' w = (.ok w, w) := rfl

@[simp] theorem run'_set (w' w : σ) : (set w' : Effect σ PUnit).run' w = (.ok ⟨⟩, w') := rfl

@[simp] theorem run'_ofExcept (r : Except Failure α) (w : σ) : (ofExcept r).run' w = (r, w) := rfl

@[simp] theorem run'_lift (m : StateM σ α) (w : σ) :
    Effect.run' (ExceptT.lift m : Effect σ α) w = (.ok (m.run w).1, (m.run w).2) := rfl

@[simp] theorem run'_modifyGet (f : σ → α × σ) (w : σ) :
    Effect.run' (ExceptT.lift (modifyGet f) : Effect σ α) w = (.ok (f w).1, (f w).2) := rfl

/-- **A bind that succeeds** ran its first computation to a value, and went on from there to
the same success. -/
theorem run'_bind_eq_ok {x : Effect σ α} {f : α → Effect σ β} {w w' : σ} {b : β}
    (h : (x >>= f).run' w = (.ok b, w')) :
    ∃ a w₁, x.run' w = (.ok a, w₁) ∧ (f a).run' w₁ = (.ok b, w') := by
  rw [run'_bind] at h
  rcases hx : x.run' w with ⟨r, w₁⟩
  rw [hx] at h
  cases r with
  | ok a => exact ⟨a, w₁, rfl, h⟩
  | error e => cases h

/-- A bind whose first computation succeeds goes on from its value and the state it left. -/
theorem run'_bind_of_ok {x : Effect σ α} {f : α → Effect σ β} {w w₁ : σ} {a : α}
    (h : x.run' w = (.ok a, w₁)) : (x >>= f).run' w = (f a).run' w₁ := by
  rw [run'_bind, h]

/-- A computation whose every continuation fails does not succeed, whatever ran first. -/
theorem run'_bind_ne_ok {x : Effect σ α} {f : α → Effect σ β} {b : β}
    (hf : ∀ a w₁ w₂, (f a).run' w₁ ≠ (.ok b, w₂)) (w w' : σ) : (x >>= f).run' w ≠ (.ok b, w') := by
  intro h
  obtain ⟨a, w₁, -, hfa⟩ := run'_bind_eq_ok h
  exact hf a w₁ w' hfa

theorem run'_throw_ne_ok (e : Failure) (b : α) (w w' : σ) :
    (throw e : Effect σ α).run' w ≠ (.ok b, w') := by
  simp

/-- **Running a handler**: a failure is handled from the state it left. -/
theorem run'_tryCatch (x : Effect σ α) (h : Failure → Effect σ α) (w : σ) :
    (tryCatch x h).run' w = match x.run' w with
      | (.ok a, w₁) => (.ok a, w₁)
      | (.error e, w₁) => (h e).run' w₁ := by
  simp only [Effect.run', tryCatch, tryCatchThe, MonadExceptOf.tryCatch, ExceptT.tryCatch,
    ExceptT.mk, ExceptT.run, StateT.run, bind, StateT.bind]
  rcases x w with ⟨r, w₁⟩
  cases r <;> rfl

/-- A computation that succeeds is not handled. -/
theorem run'_tryCatch_of_ok {x : Effect σ α} {h : Failure → Effect σ α} {w w₁ : σ} {a : α}
    (hx : x.run' w = (.ok a, w₁)) : (tryCatch x h).run' w = (.ok a, w₁) := by
  rw [run'_tryCatch, hx]

/-- A handled computation that succeeds, under a handler that never does, succeeded itself. -/
theorem run'_tryCatch_eq_ok {x : Effect σ α} {h : Failure → Effect σ α} {w w' : σ} {a : α}
    (hh : ∀ e w₁ w₂, (h e).run' w₁ ≠ (.ok a, w₂)) (hx : (tryCatch x h).run' w = (.ok a, w')) :
    x.run' w = (.ok a, w') := by
  rw [run'_tryCatch] at hx
  rcases hr : x.run' w with ⟨r, w₁⟩
  rw [hr] at hx
  cases r with
  | ok a' => exact hx
  | error e => exact absurd hx (hh e w₁ w')

end Effect

end PracticeForge
