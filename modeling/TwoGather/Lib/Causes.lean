import TwoGather.Lib.Pool

/-!
# Who has changed what

A language of effects names what a request may do to the store: `does e s t` says that the
effect `e` turns `s` into `t`. `Acts does W act` says that the request `act` has one of the
effects in `W`, which may depend on the store it finds. So a table of the effects that each
client may have is a statement about its requests (`Program.Makes`), and it answers two
questions about a pool of clients:

* `play_effects`: what all effects in the tables do, a whole schedule does;
* `exists_cause`: what holds after a schedule and did not before was brought about by one
  effect of one client.
-/

namespace Requests

variable {σ ω ε α ι : Type}

/-- From whatever store, the request has one of the effects in `W`. -/
def Acts (does : ω → σ → σ → Prop) (W : ω → Prop) (act : σ → σ) : Prop :=
  ∀ s, ∃ e, W e ∧ does e s (act s)

section Acts

variable {does : ω → σ → σ → Prop} {W : ω → Prop} {act : σ → σ}

theorem Acts.intro {e : ω} (may : W e) (effect : ∀ s, does e s (act s)) : Acts does W act :=
  fun s => ⟨e, may, effect s⟩

theorem Acts.mono {V : ω → Prop} (weaker : ∀ e, W e → V e) (acts : Acts does W act) :
    Acts does V act := by
  intro s
  rcases acts s with ⟨e, may, effect⟩
  exact ⟨e, weaker e may, effect⟩

end Acts

namespace Pool

variable [DecidableEq ι] {does : ω → σ → σ → Prop} {W : ι → ω → Prop} {pool : Pool ι σ ε α}

/-- What every effect of the clients in the schedule does, the whole schedule does. -/
theorem play_effects {R : σ → σ → Prop} (refl : ∀ s, R s s)
    (trans : ∀ {s t u}, R s t → R t u → R s u)
    (makes : ∀ i, (pool.thread i).Makes (Acts does (W i))) {schedule : List ι}
    (effects : ∀ i ∈ schedule, ∀ e s t, W i e → does e s t → R s t) :
    R pool.store (pool.play schedule).store := by
  induction schedule generalizing pool with
  | nil => exact refl _
  | cons i schedule ih =>
      have later := fun j listed => effects j (List.mem_cons_of_mem i listed)
      rw [play_cons]
      cases left : pool.thread i with
      | done outcome =>
          rw [move_done left]
          exact ih makes later
      | step act next =>
          have request := makes i
          rw [left] at request
          rcases request.1 pool.store with ⟨e, may, effect⟩
          have first : R pool.store (pool.move i).store := by
            rw [store_move left]
            exact effects i List.mem_cons_self e _ _ may effect
          exact trans first (ih (fun j => makes_move (makes j) i) later)

/-- What has come to hold was brought about by an effect of a client in the schedule. -/
theorem exists_cause {P : σ → Prop} {schedule : List ι}
    (makes : ∀ i, (pool.thread i).Makes (Acts does (W i))) (before : ¬ P pool.store)
    (after : P (pool.play schedule).store) :
    ∃ i ∈ schedule, ∃ e s t, W i e ∧ does e s t ∧ ¬ P s ∧ P t := by
  induction schedule generalizing pool with
  | nil => exact absurd after before
  | cons i schedule ih =>
      rw [play_cons] at after
      by_cases now : P (pool.move i).store
      · cases left : pool.thread i with
        | done outcome =>
            rw [move_done left] at now
            exact absurd now before
        | step act next =>
            have request := makes i
            rw [left] at request
            rcases request.1 pool.store with ⟨e, may, effect⟩
            rw [store_move left] at now
            exact ⟨i, List.mem_cons_self, e, _, _, may, effect, before, now⟩
      · rcases ih (fun j => makes_move (makes j) i) now after with ⟨j, listed, cause⟩
        exact ⟨j, List.mem_cons_of_mem i listed, cause⟩

end Pool

end Requests
