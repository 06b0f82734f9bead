import TwoGather.Lib.Program

/-!
# Programs on a part of the state

`p.zoom get put` runs a program for a part of a larger state on that state; the rest of
the state stays as it is. A client that talks to a shared store and keeps a state of its
own runs its requests to the store this way.
-/

namespace Requests

namespace Program

variable {σ τ ε α β : Type} (get : τ → σ) (put : τ → σ → τ)

/-- Run a program on the part of the state that `get` reads and `put` replaces. -/
def zoom : Program σ ε α → Program τ ε α
  | .done outcome => .done outcome
  | .step act next => .step (fun t => put t (act (get t))) fun t => (next (get t)).zoom

variable {get put}

/-- The requests of a zoomed program are those of the program, on the part. -/
theorem Makes.zoom {A : (σ → σ) → Prop} {B : (τ → τ) → Prop}
    (each : ∀ act, A act → B fun t => put t (act (get t))) {p : Program σ ε α} (makes : p.Makes A) :
    (p.zoom get put).Makes B := by
  induction p with
  | done outcome => trivial
  | step act next ih => exact ⟨each act makes.1, fun t => ih (get t) (makes.2 (get t))⟩

end Program

end Requests
