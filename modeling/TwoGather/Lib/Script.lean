import TwoGather.Lib.Pool

/-!
# Programs that follow a script

Under a condition on the stores that all clients keep, a program may have no choice left: its
reads yield what they must, nothing fails, and its requests come one after the other in a fixed
order. `p.Script I rest kinds` says so: from stores in `I`, the program makes one request of each
of the kinds, in this order, and ends only after that, with requests of the kind `rest`.

The number of requests a client of a pool has made then tells where it stands in its script
(`script_move`).
-/

namespace Requests

namespace Program

variable {σ ε α β : Type} {I : σ → Prop} {A rest : (σ → σ) → Prop}
  {kinds : List ((σ → σ) → Prop)}

/-- One request of each of the kinds in order, and then requests of the kind `rest`. -/
def Script (I : σ → Prop) (rest : (σ → σ) → Prop) : List ((σ → σ) → Prop) → Program σ ε α → Prop
  | [], p => p.Within I rest
  | _ :: _, .done _ => False
  | A :: kinds, .step act next => ∀ s, I s → A act ∧ (next s).Script I rest kinds

/-- The first request of a script is a read. -/
theorem Script.read_bind {f : σ → β} {k : β → Program σ ε α} (reads : A id)
    (later : ∀ s, I s → (k (f s)).Script I rest kinds) :
    ((read f : Program σ ε β) >>= k).Script I rest (A :: kinds) :=
  fun s holds => ⟨reads, later s holds⟩

/-- The first request of a script yields a value. -/
theorem Script.step_bind {act : σ → σ} {next : σ → Program σ ε β} {b : β}
    {k : β → Program σ ε α} (first : A act) (yields : ∀ s, I s → next s = pure b)
    (later : (k b).Script I rest kinds) : (step act next >>= k).Script I rest (A :: kinds) := by
  intro s holds
  refine ⟨first, ?_⟩
  change (next s >>= k).Script I rest kinds
  rw [yields s holds]
  exact later

/-- What follows a script makes requests of the kind that ends it. -/
theorem Script.bind {p : Program σ ε β} {k : β → Program σ ε α} (first : p.Script I rest kinds)
    (later : ∀ b, (k b).Within I rest) : (p >>= k).Script I rest kinds := by
  induction kinds generalizing p with
  | nil => exact Within.bind first later
  | cons A kinds ih =>
      cases p with
      | done outcome => cases first
      | step act next => exact fun s holds => ⟨(first s holds).1, ih (first s holds).2⟩

theorem Within.tryCatch {p : Program σ ε α} {handler : ε → Program σ ε α}
    (first : p.Within I A) (caught : ∀ e, (handler e).Within I A) :
    (MonadExcept.tryCatch p handler).Within I A := by
  change (p.handle handler).Within I A
  induction p with
  | done outcome =>
      cases outcome with
      | ok a => trivial
      | error e => exact caught e
  | step act next ih => exact fun s holds => ⟨(first s holds).1, ih s (first s holds).2⟩

/-- An error comes after the script only. -/
theorem Script.tryCatch {p : Program σ ε α} {handler : ε → Program σ ε α}
    (first : p.Script I rest kinds) (caught : ∀ e, (handler e).Within I rest) :
    (MonadExcept.tryCatch p handler).Script I rest kinds := by
  induction kinds generalizing p with
  | nil => exact Within.tryCatch first caught
  | cons A kinds ih =>
      cases p with
      | done outcome => cases first
      | step act next => exact fun s holds => ⟨(first s holds).1, ih (first s holds).2⟩

theorem Within.mono {B : (σ → σ) → Prop} (weaker : ∀ act, A act → B act) {p : Program σ ε α}
    (within : p.Within I A) : p.Within I B := by
  induction p with
  | done outcome => trivial
  | step act next ih =>
      exact fun s holds => ⟨weaker act (within s holds).1, ih s (within s holds).2⟩

/-- The requests of a script are all of one kind. -/
theorem Script.within {B : (σ → σ) → Prop} (each : ∀ A ∈ kinds, ∀ act, A act → B act)
    (last : ∀ act, rest act → B act) {p : Program σ ε α} (script : p.Script I rest kinds) :
    p.Within I B := by
  induction kinds generalizing p with
  | nil => exact Within.mono last script
  | cons A kinds ih =>
      cases p with
      | done outcome => trivial
      | step act next =>
          intro s holds
          refine ⟨each A List.mem_cons_self act (script s holds).1, ?_⟩
          exact ih (fun B listed => each B (List.mem_cons_of_mem A listed)) (script s holds).2

/-- A program whose script begins with a request is not at its end. -/
theorem Script.ne_done {p : Program σ ε α} (script : p.Script I rest (A :: kinds))
    (outcome : Except ε α) : p ≠ .done outcome := by
  intro ended
  rw [ended] at script
  cases script

section Drop

variable {κ : Type} (kind : κ) (n : Nat) (tail : List κ)

/-- What is left of a script that begins with `n` requests of one kind. -/
theorem drop_replicate_of_lt {k : Nat} (before : k < n) :
    (List.replicate n kind ++ tail).drop k =
      kind :: (List.replicate n kind ++ tail).drop (k + 1) := by
  have here : k < (List.replicate n kind ++ tail).length := by
    rw [List.length_append, List.length_replicate]
    omega
  have first : k < (List.replicate n kind).length := by
    rwa [List.length_replicate]
  rw [List.drop_eq_getElem_cons here, List.getElem_append_left first, List.getElem_replicate]

theorem drop_replicate_add (k : Nat) :
    (List.replicate n kind ++ tail).drop (n + k) = tail.drop k := by
  rw [List.drop_append, List.length_replicate, List.drop_of_length_le, List.nil_append,
    Nat.add_sub_cancel_left]
  rw [List.length_replicate]
  omega

end Drop

end Program

namespace Pool

variable {ι σ ε α : Type} [DecidableEq ι] {I : σ → Prop} {A rest : (σ → σ) → Prop}
  {kinds : List ((σ → σ) → Prop)} {pool : Pool ι σ ε α} {i : ι}

/-- The next request of a client that follows a script. -/
theorem script_move (script : (pool.thread i).Script I rest (A :: kinds)) (holds : I pool.store) :
    ∃ act, A act ∧ (pool.move i).store = act pool.store ∧
      ((pool.move i).thread i).Script I rest kinds := by
  cases left : pool.thread i with
  | done outcome => exact absurd left (script.ne_done outcome)
  | step act next =>
      rw [left] at script
      rcases script pool.store holds with ⟨kind, later⟩
      refine ⟨act, kind, store_move left, ?_⟩
      rw [thread_move_self left]
      exact later

/-- The next request of a client that makes requests of one kind; at its end it makes none. -/
theorem within_move (none : A id) (within : (pool.thread i).Within I A) (holds : I pool.store) :
    ∃ act, A act ∧ (pool.move i).store = act pool.store ∧
      ((pool.move i).thread i).Within I A := by
  cases left : pool.thread i with
  | done outcome =>
      rw [move_done left, left]
      exact ⟨id, none, rfl, trivial⟩
  | step act next =>
      rw [left] at within
      rcases within pool.store holds with ⟨kind, later⟩
      refine ⟨act, kind, store_move left, ?_⟩
      rw [thread_move_self left]
      exact later

/-- A client goes on to the next request of its script, and at its end makes requests of the kind
that ends it. -/
theorem script_drop_move (none : rest id) {k : Nat}
    (script : (pool.thread i).Script I rest (kinds.drop k)) (holds : I pool.store) :
    ∃ act, ((kinds.drop k).head?.getD rest) act ∧ (pool.move i).store = act pool.store ∧
      ((pool.move i).thread i).Script I rest (kinds.drop (k + 1)) := by
  rw [← List.tail_drop]
  cases left : kinds.drop k with
  | nil =>
      rw [left] at script
      exact within_move none script holds
  | cons A kinds =>
      rw [left] at script
      exact script_move script holds

end Pool

end Requests
