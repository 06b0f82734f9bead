import TwoGather.Lib.Program

/-!
# Requests that fail

A request that fails raises an error and leaves the store alone. `attempt` puts such a
failure in front of one request, so that a program with an `attempt` at each of its
requests is that program with a failure at any point; without failures it is the program
itself (`attempt_false`).

A request that is not awaited fails unnoticed (`unawaited`): the program goes on. A
transaction makes all its writes or, where its body raises an error, none (`transaction`).
-/

namespace Requests

namespace Program

variable {σ ε α : Type}

/-- The request, or its failure. -/
def attempt (fails : Bool) (e : ε) (p : Program σ ε α) : Program σ ε α :=
  if fails then throw e else p

/-- The request, whose outcome nobody waits for. -/
def unawaited (p : Program σ ε Unit) : Program σ ε Unit :=
  tryCatch p fun _ => pure ()

/-- A request that is not awaited makes what it makes. -/
theorem Makes.unawaited {A : (σ → σ) → Prop} {p : Program σ ε Unit} (makes : p.Makes A) :
    (unawaited p).Makes A :=
  .tryCatch makes fun _ => .pure ()

/-- A transaction: its body reads the state and gives the state that it commits, or an error. -/
def transaction (body : σ → Except ε σ) : Program σ ε Unit :=
  .step (fun s => match body s with | .ok t => t | .error _ => s)
    fun s => match body s with | .ok _ => pure () | .error e => throw e

@[simp] theorem attempt_false (e : ε) (p : Program σ ε α) : attempt false e p = p := rfl

@[simp] theorem attempt_true (e : ε) (p : Program σ ε α) : attempt true e p = throw e := rfl

theorem exec_attempt (fails : Bool) (e : ε) (p : Program σ ε α) (s : σ) :
    (attempt fails e p).exec s = if fails then (.error e, s) else p.exec s :=
  exec_ite _ _ _ s

/-- Whatever its outcome is, the program goes on from the store it leaves. -/
theorem exec_unawaited (p : Program σ ε Unit) (s : σ) :
    (unawaited p).exec s = (.ok (), (p.exec s).2) := by
  unfold unawaited
  rw [exec_tryCatch]
  rcases p.exec s with ⟨outcome, t⟩
  cases outcome with
  | ok _ => rfl
  | error _ => rfl

theorem exec_transaction (body : σ → Except ε σ) (s : σ) :
    (transaction body).exec s =
      match body s with
      | .ok t => (.ok (), t)
      | .error e => (.error e, s) := by
  unfold transaction
  rw [exec_step]
  cases body s with
  | ok t => rfl
  | error e => rfl

/-- A handler that ends well leaves what the body leaves, or what it makes of that. -/
theorem exec_handled (p : Program σ ε α) (handler : ε → Program σ ε α) (s : σ) :
    ((tryCatch p handler).exec s).2 =
      match (p.exec s).1 with
      | .ok _ => (p.exec s).2
      | .error e => ((handler e).exec (p.exec s).2).2 := by
  rw [exec_tryCatch]
  rcases p.exec s with ⟨outcome, t⟩
  cases outcome with
  | ok _ => rfl
  | error _ => rfl

end Program

end Requests
