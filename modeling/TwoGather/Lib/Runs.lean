import Mathlib.Data.List.Infix

/-!
# Runs of a step function

`run step s calls` makes the calls one after the other. A property of a whole run
is a property of every store it passes through (`Reached`); a condition on the
calls is a condition on each call in the store it finds (`Along`).

`all_reached_iff_along` is the rule the exact results use: if from a good store a
call leads to a good store exactly under `C`, then all stores of a run are good
exactly when every call of the run meets `C`.
-/

namespace Requests

variable {σ γ : Type} {step : σ → γ → σ}

/-- The store after the calls, made in order. -/
def run (step : σ → γ → σ) (s : σ) (calls : List γ) : σ :=
  calls.foldl step s

/-- `t` is passed through when the calls are made in order from `s`. -/
def Reached (step : σ → γ → σ) (s : σ) (calls : List γ) (t : σ) : Prop :=
  ∃ made, made <+: calls ∧ t = run step s made

/-- Every call of the run meets `C` in the store it finds. -/
def Along (step : σ → γ → σ) (C : σ → γ → Prop) : σ → List γ → Prop
  | _, [] => True
  | s, call :: calls => C s call ∧ Along step C (step s call) calls

instance Along.decidable {C : σ → γ → Prop} [∀ s c, Decidable (C s c)] :
    (s : σ) → (calls : List γ) → Decidable (Along step C s calls)
  | _, [] => .isTrue trivial
  | s, call :: calls =>
      have := Along.decidable (C := C) (step s call) calls
      inferInstanceAs (Decidable (C s call ∧ Along step C (step s call) calls))

@[simp] theorem run_nil (s : σ) : run step s [] = s := rfl

@[simp] theorem run_cons (s : σ) (call : γ) (calls : List γ) :
    run step s (call :: calls) = run step (step s call) calls := rfl

theorem run_append (s : σ) (before rest : List γ) :
    run step s (before ++ rest) = run step (run step s before) rest :=
  List.foldl_append

theorem Reached.start (s : σ) (calls : List γ) : Reached step s calls s :=
  ⟨[], List.nil_prefix, rfl⟩

theorem Reached.run (s : σ) (calls : List γ) : Reached step s calls (run step s calls) :=
  ⟨calls, List.prefix_rfl, rfl⟩

theorem reached_nil {s t : σ} : Reached step s [] t ↔ t = s := by
  constructor
  · intro both
    rcases both with ⟨made, isPrefix, rfl⟩
    rw [List.prefix_nil.mp isPrefix, run_nil]
  · intro eq
    subst eq
    exact .start t []

/-- A store of a longer run is its start, or is reached after the first call. -/
theorem reached_cons {s t : σ} {call : γ} {calls : List γ} :
    Reached step s (call :: calls) t ↔ t = s ∨ Reached step (step s call) calls t := by
  constructor
  · intro both
    rcases both with ⟨made, isPrefix, rfl⟩
    cases made with
    | nil => exact .inl rfl
    | cons first rest =>
        obtain ⟨rfl, shorter⟩ := List.cons_prefix_cons.mp isPrefix
        exact .inr ⟨rest, shorter, rfl⟩
  · intro either
    rcases either with rfl | ⟨made, isPrefix, rfl⟩
    · exact .start t _
    · exact ⟨call :: made, List.cons_prefix_cons.mpr ⟨rfl, isPrefix⟩, rfl⟩

theorem Along.mono {C D : σ → γ → Prop} (weaker : ∀ s c, C s c → D s c) {s : σ} {calls : List γ}
    (along : Along step C s calls) : Along step D s calls := by
  induction calls generalizing s with
  | nil => trivial
  | cons call calls ih => exact ⟨weaker s call along.1, ih along.2⟩

theorem Along.trivial (s : σ) (calls : List γ) : Along step (fun _ _ => True) s calls := by
  induction calls generalizing s with
  | nil => exact True.intro
  | cons call calls ih => exact ⟨True.intro, ih (step s call)⟩

theorem Along.and_iff {C D : σ → γ → Prop} {s : σ} {calls : List γ} :
    Along step (fun s c => C s c ∧ D s c) s calls ↔ Along step C s calls ∧ Along step D s calls := by
  induction calls generalizing s with
  | nil => simp [Along]
  | cons call calls ih =>
      simp only [Along, ih]
      exact and_and_and_comm

theorem Along.of_forall {C : γ → Prop} {s : σ} {calls : List γ} (all : ∀ call ∈ calls, C call) :
    Along step (fun _ => C) s calls := by
  induction calls generalizing s with
  | nil => trivial
  | cons call calls ih =>
      rw [List.forall_mem_cons] at all
      exact ⟨all.1, ih all.2⟩

/-- A condition on a run in two parts. -/
theorem along_append {C : σ → γ → Prop} {s : σ} {before rest : List γ} :
    Along step C s (before ++ rest) ↔
      Along step C s before ∧ Along step C (run step s before) rest := by
  induction before generalizing s with
  | nil => simp [Along]
  | cons call before ih =>
      rw [List.cons_append, Along, Along, ih, run_cons, and_assoc]

/-- The invariant rule for the calls: where the invariant holds, every valid call is sound and
preserves it. -/
theorem along_of_invariant {P : σ → Prop} {V Q : σ → γ → Prop}
    (preserve : ∀ s c, P s → V s c → P (step s c)) (sound : ∀ s c, P s → V s c → Q s c)
    {s : σ} {calls : List γ} (start : P s) (valid : Along step V s calls) :
    Along step Q s calls := by
  induction calls generalizing s with
  | nil => exact True.intro
  | cons call calls ih =>
      exact ⟨sound s call start valid.1, ih (preserve s call start valid.1) valid.2⟩

/-- All stores of a run are good exactly when its start is and every call leads to a good one. -/
theorem all_reached_iff {P : σ → Prop} {s : σ} {calls : List γ} :
    (∀ t, Reached step s calls t → P t) ↔ P s ∧ Along step (fun s c => P (step s c)) s calls := by
  induction calls generalizing s with
  | nil => simp [Along, reached_nil]
  | cons call calls ih =>
      simp only [reached_cons, or_imp, forall_and, forall_eq, Along]
      rw [ih]

/-- If a call is sound exactly under `C` wherever the invariant `P` holds, and sound calls
keep `P`, then all calls of a run are sound exactly when they all meet `C`. -/
theorem along_iff_along {P : σ → Prop} {Q C : σ → γ → Prop}
    (preserve : ∀ s c, P s → Q s c → P (step s c)) (exact : ∀ s c, P s → (Q s c ↔ C s c))
    {s : σ} {calls : List γ} (start : P s) :
    Along step Q s calls ↔ Along step C s calls := by
  induction calls generalizing s with
  | nil => rfl
  | cons call calls ih =>
      rw [Along, Along, ← exact s call start]
      exact and_congr_right fun sound => ih (preserve s call start sound)

/-- If from a good store a call leads to a good one exactly under `C`, and no call leads from a
bad store to a good one, then a run ends well exactly when all its calls meet `C`. -/
theorem run_iff_along {I P : σ → Prop} {V C : σ → γ → Prop}
    (preserve : ∀ s c, I s → V s c → I (step s c))
    (exact : ∀ s c, I s → V s c → P s → (P (step s c) ↔ C s c))
    (final : ∀ s c, I s → V s c → ¬ P s → ¬ P (step s c)) {s : σ} {calls : List γ}
    (holds : I s) (start : P s) (valid : Along step V s calls) :
    P (run step s calls) ↔ Along step C s calls := by
  have bad : ∀ calls s, I s → ¬ P s → Along step V s calls → ¬ P (run step s calls) := by
    intro calls
    induction calls with
    | nil => exact fun _ _ broken _ => broken
    | cons call calls ih =>
        intro s holds broken valid
        exact ih _ (preserve s call holds valid.1) (final s call holds valid.1 broken) valid.2
  induction calls generalizing s with
  | nil => exact iff_of_true start True.intro
  | cons call calls ih =>
      have first := exact s call holds valid.1 start
      have kept := preserve s call holds valid.1
      rw [run_cons, Along, ← first]
      by_cases good : P (step s call)
      · exact (ih kept good valid.2).trans (and_iff_right good).symm
      · exact iff_of_false (bad calls _ kept good valid.2) fun both => good both.1

/-- The invariant rule: what every valid call preserves holds in every store of the run. -/
theorem all_reached {P : σ → Prop} {V : σ → γ → Prop}
    (preserve : ∀ s c, P s → V s c → P (step s c)) {s : σ} {calls : List γ}
    (start : P s) (valid : Along step V s calls) :
    ∀ t, Reached step s calls t → P t := by
  induction calls generalizing s with
  | nil =>
      intro t reached
      rw [reached_nil.mp reached]
      exact start
  | cons call calls ih =>
      intro t reached
      rcases reached_cons.mp reached with rfl | later
      · exact start
      · exact ih (preserve s call start valid.1) valid.2 t later

/-- If a valid call leads from a good store to a good store exactly under `C`, then
the stores of a valid run are all good exactly when every call meets `C`. -/
theorem all_reached_iff_along {P : σ → Prop} {V C : σ → γ → Prop}
    (exact : ∀ s c, P s → V s c → (P (step s c) ↔ C s c)) {s : σ} {calls : List γ}
    (start : P s) (valid : Along step V s calls) :
    (∀ t, Reached step s calls t → P t) ↔ Along step C s calls := by
  induction calls generalizing s with
  | nil =>
      refine ⟨fun _ => trivial, fun _ t reached => ?_⟩
      rw [reached_nil.mp reached]
      exact start
  | cons call calls ih =>
      have first := exact s call start valid.1
      constructor
      · intro all
        have good : P (step s call) := all _ (reached_cons.mpr (.inr (.start _ _)))
        refine ⟨first.mp good, (ih good valid.2).mp fun t later => ?_⟩
        exact all t (reached_cons.mpr (.inr later))
      · intro both t reached
        rcases both with ⟨meets, rest⟩
        have good := first.mpr meets
        rcases reached_cons.mp reached with rfl | later
        · exact start
        · exact (ih good valid.2).mpr rest t later

end Requests
