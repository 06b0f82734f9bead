import Mathlib.Logic.Function.Basic
import TwoGather.Lib.Program

/-!
# Interleaved programs

A pool holds a store and, for every client, what is left of its program. `move i`
makes the next request of client `i`; a client that has finished no longer moves.
`play` makes the moves of a schedule, so a property of all schedules is a property
of all interleavings.

Three rules are used on pools:

* `play_invariant`: what every move preserves holds after every schedule;
* `play_keeps`: what every request of every client does, a whole schedule does;
* `play_alone`: when all clients but one have finished, a schedule runs that client
  as if it were alone.
-/

namespace Requests

/-- The store and what is left of each client's program. -/
structure Pool (ι σ ε α : Type) where
  store : σ
  thread : ι → Program σ ε α

namespace Pool

variable {ι σ ε α : Type} [DecidableEq ι]

/-- The next request of client `i`. -/
def move (pool : Pool ι σ ε α) (i : ι) : Pool ι σ ε α :=
  match pool.thread i with
  | .done _ => pool
  | .step act next =>
      { store := act pool.store
        thread := Function.update pool.thread i (next pool.store) }

/-- The moves of a schedule, in order. -/
def play (pool : Pool ι σ ε α) (schedule : List ι) : Pool ι σ ε α :=
  schedule.foldl move pool

/-- Client `i` has finished with this outcome. -/
def Finished (pool : Pool ι σ ε α) (i : ι) (outcome : Except ε α) : Prop :=
  pool.thread i = .done outcome

@[simp] theorem play_nil (pool : Pool ι σ ε α) : pool.play [] = pool := rfl

@[simp] theorem play_cons (pool : Pool ι σ ε α) (i : ι) (schedule : List ι) :
    pool.play (i :: schedule) = (pool.move i).play schedule := rfl

theorem play_append (pool : Pool ι σ ε α) (first second : List ι) :
    pool.play (first ++ second) = (pool.play first).play second :=
  List.foldl_append

theorem move_done {pool : Pool ι σ ε α} {i : ι} {outcome : Except ε α}
    (finished : pool.Finished i outcome) : pool.move i = pool := by
  unfold move
  rw [finished]

theorem move_step {pool : Pool ι σ ε α} {i : ι} {act : σ → σ} {next : σ → Program σ ε α}
    (request : pool.thread i = .step act next) :
    pool.move i =
      { store := act pool.store
        thread := Function.update pool.thread i (next pool.store) } := by
  unfold move
  rw [request]

theorem store_move {pool : Pool ι σ ε α} {i : ι} {act : σ → σ} {next : σ → Program σ ε α}
    (request : pool.thread i = .step act next) : (pool.move i).store = act pool.store := by
  rw [move_step request]

theorem thread_move_self {pool : Pool ι σ ε α} {i : ι} {act : σ → σ}
    {next : σ → Program σ ε α} (request : pool.thread i = .step act next) :
    (pool.move i).thread i = next pool.store := by
  rw [move_step request]
  exact Function.update_self ..

/-- A client's program changes by its own moves only. -/
theorem thread_move_of_ne (pool : Pool ι σ ε α) {i j : ι} (other : j ≠ i) :
    (pool.move i).thread j = pool.thread j := by
  unfold move
  split
  · rfl
  · exact Function.update_of_ne other ..

theorem thread_play_of_not_mem (pool : Pool ι σ ε α) {i : ι} {schedule : List ι}
    (absent : i ∉ schedule) : (pool.play schedule).thread i = pool.thread i := by
  induction schedule generalizing pool with
  | nil => rfl
  | cons j schedule ih =>
      rw [List.mem_cons, not_or] at absent
      rw [play_cons, ih (pool.move j) absent.2]
      exact thread_move_of_ne pool absent.1

theorem Finished.move {pool : Pool ι σ ε α} {i : ι} {outcome : Except ε α}
    (finished : pool.Finished i outcome) (j : ι) : (pool.move j).Finished i outcome := by
  by_cases same : i = j
  · subst same
    rw [move_done finished]
    exact finished
  · exact (thread_move_of_ne pool same).trans finished

theorem Finished.play {pool : Pool ι σ ε α} {i : ι} {outcome : Except ε α}
    (finished : pool.Finished i outcome) (schedule : List ι) :
    (pool.play schedule).Finished i outcome := by
  induction schedule generalizing pool with
  | nil => exact finished
  | cons j schedule ih => exact ih (finished.move j)

/-- What every move preserves holds after every schedule. -/
theorem play_invariant {P : Pool ι σ ε α → Prop} (move : ∀ pool i, P pool → P (pool.move i))
    {pool : Pool ι σ ε α} (start : P pool) (schedule : List ι) : P (pool.play schedule) := by
  induction schedule generalizing pool with
  | nil => exact start
  | cons i schedule ih => exact ih (move pool i start)

/-- What every request of every client does to the store, a whole schedule does. -/
theorem play_keeps {R : σ → σ → Prop} (refl : ∀ s, R s s)
    (trans : ∀ {s t u}, R s t → R t u → R s u) {pool : Pool ι σ ε α}
    (keeps : ∀ i, (pool.thread i).Keeps R) (schedule : List ι) :
    R pool.store (pool.play schedule).store := by
  induction schedule generalizing pool with
  | nil => exact refl _
  | cons i schedule ih =>
      rw [play_cons]
      cases left : pool.thread i with
      | done outcome =>
          rw [move_done left]
          exact ih keeps
      | step act next =>
          have request := keeps i
          rw [left] at request
          have first : R pool.store (pool.move i).store := by
            rw [store_move left]
            exact (request pool.store).1
          have rest : ∀ j, ((pool.move i).thread j).Keeps R := by
            intro j
            by_cases same : j = i
            · subst same
              rw [thread_move_self left]
              exact (request pool.store).2
            · rw [thread_move_of_ne pool same]
              exact keeps j
          exact trans first (ih rest)

/-- Whatever a client's program has left, its requests are of the kind they were. -/
theorem makes_move {A : (σ → σ) → Prop} {pool : Pool ι σ ε α} {i : ι}
    (makes : (pool.thread i).Makes A) (j : ι) : ((pool.move j).thread i).Makes A := by
  by_cases same : i = j
  · subst same
    cases left : pool.thread i with
    | done outcome =>
        rw [move_done left, left]
        trivial
    | step act next =>
        rw [left] at makes
        rw [thread_move_self left]
        exact makes.2 pool.store
  · rw [thread_move_of_ne pool same]
    exact makes

theorem makes_play {A : (σ → σ) → Prop} {pool : Pool ι σ ε α} {i : ι}
    (makes : (pool.thread i).Makes A) (schedule : List ι) :
    ((pool.play schedule).thread i).Makes A := by
  induction schedule generalizing pool with
  | nil => exact makes
  | cons j schedule ih => exact ih (makes_move makes j)

theorem settled_move {A : (σ → σ) → Prop} {R : σ → σ → Prop} {pool : Pool ι σ ε α} {i : ι}
    (settled : (pool.thread i).Settled A R) (j : ι) :
    ((pool.move j).thread i).Settled A R := by
  by_cases same : i = j
  · subst same
    cases left : pool.thread i with
    | done outcome =>
        rw [move_done left, left]
        trivial
    | step act next =>
        rw [left] at settled
        rw [thread_move_self left]
        exact settled.2 pool.store
  · rw [thread_move_of_ne pool same]
    exact settled

/-- When all clients but `i` have finished and the schedule brings `i` to its end, the
pool ends as if the program of `i` had run alone. -/
theorem play_alone {pool : Pool ι σ ε α} {i : ι} {schedule : List ι} {outcome : Except ε α}
    (others : ∀ j, j ≠ i → ∃ o, pool.Finished j o)
    (finished : (pool.play schedule).Finished i outcome) :
    (pool.thread i).exec pool.store = (outcome, (pool.play schedule).store) := by
  induction schedule generalizing pool with
  | nil =>
      have ended : pool.thread i = .done outcome := finished
      rw [ended]
      rfl
  | cons j schedule ih =>
      rw [play_cons] at finished ⊢
      by_cases same : j = i
      · subst same
        cases left : pool.thread j with
        | done o =>
            rw [move_done left] at finished ⊢
            rw [← left]
            exact ih others finished
        | step act next =>
            have rest : ∀ k, k ≠ j → ∃ o, (pool.move j).Finished k o := fun k other =>
              (others k other).imp fun _ ended => ended.move j
            have run := ih rest finished
            rw [move_step left] at run ⊢
            simpa using run
      · obtain ⟨o, ended⟩ := others j same
        rw [move_done ended] at finished ⊢
        exact ih others finished

end Pool

end Requests
