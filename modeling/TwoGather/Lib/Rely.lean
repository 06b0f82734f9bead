import TwoGather.Lib.Pool

/-!
# What a client relies on and what it guarantees

A client of a pool knows the store only up to what the others may do to it. `p.Under R G s`
says that, as long as the others change the store by `R` only, every request that `p` makes
from `s` on is one of `G`, which may depend on the store it finds.

`under_play` is the rule for pools: if every client guarantees what the others rely on, then
every client keeps doing so, whatever the schedule.
-/

namespace Requests

namespace Program

variable {σ ε α β : Type} {R : σ → σ → Prop} {G : σ → (σ → σ) → Prop}

/-- As long as the others change the store by `R`, the requests from `s` on are of `G`. -/
def Under (R : σ → σ → Prop) (G : σ → (σ → σ) → Prop) : Program σ ε α → σ → Prop
  | .done _, _ => True
  | .step act next, s => ∀ t, R s t → G t act ∧ (next t).Under R G (act t)

/-- What a client does, it also does when the others have moved. -/
theorem Under.after (trans : ∀ {s t u}, R s t → R t u → R s u) {p : Program σ ε α} {s t : σ}
    (under : p.Under R G s) (changed : R s t) : p.Under R G t := by
  cases p with
  | done outcome => trivial
  | step act next => exact fun u later => under u (trans changed later)

/-- Requests that are of `G` wherever they are made. -/
theorem Under.of_makes {A : (σ → σ) → Prop} (guaranteed : ∀ s act, A act → G s act)
    {p : Program σ ε α} (makes : p.Makes A) (s : σ) : p.Under R G s := by
  induction p generalizing s with
  | done outcome => trivial
  | step act next ih =>
      intro t _
      exact ⟨guaranteed t act makes.1, ih t (makes.2 t) (act t)⟩

/-- A client that goes on in the same way, whatever the first part yields. -/
theorem Under.bind {p : Program σ ε α} {k : α → Program σ ε β} {s : σ} (first : p.Under R G s)
    (rest : ∀ a t, (k a).Under R G t) : (p >>= k).Under R G s := by
  change (p.bind k).Under R G s
  induction p generalizing s with
  | done outcome =>
      cases outcome with
      | ok a => exact rest a s
      | error e => trivial
  | step act next ih =>
      intro t changed
      exact ⟨(first t changed).1, ih t (first t changed).2⟩

/-- A client that handles the errors of its first part. -/
theorem Under.tryCatch {p : Program σ ε α} {handler : ε → Program σ ε α} {s : σ}
    (first : p.Under R G s) (rest : ∀ e t, (handler e).Under R G t) :
    (tryCatch p handler).Under R G s := by
  change (p.handle handler).Under R G s
  induction p generalizing s with
  | done outcome =>
      cases outcome with
      | ok a => trivial
      | error e => exact rest e s
  | step act next ih =>
      intro t changed
      exact ⟨(first t changed).1, ih t (first t changed).2⟩

/-- What is known at the start, and stays true while everybody changes the store by `R`, is
known to what follows. -/
theorem Under.bind_known {K : σ → Prop} (stable : ∀ s t, K s → R s t → K t)
    (keeps : ∀ s act, G s act → R s (act s)) {p : Program σ ε α} {k : α → Program σ ε β} {s : σ}
    (first : p.Under R G s) (known : K s) (rest : ∀ a t, K t → (k a).Under R G t) :
    (p >>= k).Under R G s := by
  change (p.bind k).Under R G s
  induction p generalizing s with
  | done outcome =>
      cases outcome with
      | ok a => exact rest a s known
      | error e => trivial
  | step act next ih =>
      intro t changed
      have now := first t changed
      exact ⟨now.1, ih t now.2 (stable t _ (stable s t known changed) (keeps t act now.1))⟩

/-- Each element of a loop finds what is known. -/
theorem Under.forEach_known {K : σ → Prop} (stable : ∀ s t, K s → R s t → K t)
    (keeps : ∀ s act, G s act → R s (act s)) {body : α → Program σ ε Unit} {xs : List α} {s : σ}
    (known : K s) (each : ∀ x ∈ xs, ∀ t, K t → (body x).Under R G t) :
    (Program.forEach xs body).Under R G s := by
  induction xs generalizing s with
  | nil => trivial
  | cons x xs ih =>
      apply Under.bind_known stable keeps (each x List.mem_cons_self s known) known
      intro _ t later
      exact ih later fun y listed => each y (List.mem_cons_of_mem x listed)

end Program

namespace Pool

variable {ι σ ε α : Type} [DecidableEq ι] {R : σ → σ → Prop} {G : σ → (σ → σ) → Prop}

/-- The clients in `P` move only, and guarantee to each other what they rely on. -/
theorem under_play (trans : ∀ {s t u}, R s t → R t u → R s u)
    (keeps : ∀ s act, G s act → R s (act s)) (refl : ∀ s, R s s) {P : ι → Prop}
    {pool : Pool ι σ ε α} (under : ∀ i, P i → (pool.thread i).Under R G pool.store)
    {schedule : List ι} (moves : ∀ i ∈ schedule, P i) :
    R pool.store (pool.play schedule).store ∧
      ∀ i, P i → ((pool.play schedule).thread i).Under R G (pool.play schedule).store := by
  induction schedule generalizing pool with
  | nil => exact ⟨refl _, under⟩
  | cons i schedule ih =>
      have later : ∀ j ∈ schedule, P j := fun j listed => moves j (List.mem_cons_of_mem i listed)
      have own := under i (moves i List.mem_cons_self)
      rw [play_cons]
      cases left : pool.thread i with
      | done outcome =>
          rw [move_done left]
          exact ih under later
      | step act next =>
          rw [left] at own
          rcases own pool.store (refl _) with ⟨guaranteed, rest⟩
          have changed : R pool.store (pool.move i).store := by
            rw [store_move left]
            exact keeps _ _ guaranteed
          have still : ∀ j, P j → ((pool.move i).thread j).Under R G (pool.move i).store := by
            intro j member
            by_cases same : j = i
            · subst same
              rw [thread_move_self left, store_move left]
              exact rest
            · rw [thread_move_of_ne pool same]
              exact Program.Under.after (R := R) trans (under j member) changed
          rcases ih still later with ⟨whole, all⟩
          exact ⟨trans changed whole, all⟩

end Pool

end Requests
