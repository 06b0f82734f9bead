import Mathlib.Data.Fintype.Basic
import Mathlib.Data.Finset.Card
import TwoGather.Lib.Pool
import TwoGather.Lib.Runs

/-!
# Clients that go through stages

Where each client of a pool is always at one of a few stages of its program, a pool is a
machine: the store and the stage of every client. `Stages` says what the request of a stage
does and which stage comes next, and `Stages.Runs` that a program for each stage really is
that machine; then a pool of these programs goes through the stores of the machine
(`Follows.play`).

`Staged.clients` are the clients at certain stages. A move changes the stage of one client, so
it adds one client to them or takes one away (`card_enter`, `card_leave`).
-/

namespace Requests

/-- What the request of a stage does, and the stage after it. -/
structure Stages (σ κ : Type) where
  act : κ → σ → σ
  next : κ → σ → κ

/-- The store and the stage of every client. -/
structure Staged (ι σ κ : Type) where
  store : σ
  stage : ι → κ

namespace Stages

variable {ι σ κ ε α : Type} [DecidableEq ι] (m : Stages σ κ)

/-- The next request of client `i`. -/
def move (t : Staged ι σ κ) (i : ι) : Staged ι σ κ where
  store := m.act (t.stage i) t.store
  stage := Function.update t.stage i (m.next (t.stage i) t.store)

/-- A client at the stage `c` makes the request of `c`, and goes on at the next stage; once it
has finished, the stage stays. Both need to hold in stores in `V` only. -/
def Runs (V : σ → Prop) (program : κ → Program σ ε α) (c : κ) : Prop :=
  match program c with
  | .done _ => ∀ s, m.act c s = s ∧ m.next c s = c
  | .step act rest => act = m.act c ∧ ∀ s, V s → rest s = program (m.next c s)

theorem Runs.mono {m : Stages σ κ} {V W : σ → Prop} (fewer : ∀ s, W s → V s)
    {program : κ → Program σ ε α} {c : κ} (runs : m.Runs V program c) : m.Runs W program c := by
  unfold Runs at runs ⊢
  split
  case _ outcome left =>
    rw [left] at runs
    exact runs
  case _ act rest left =>
    rw [left] at runs
    exact ⟨runs.1, fun s valid => runs.2 s (fewer s valid)⟩

/-- The pool is at the store and the stages of the machine. -/
structure Follows (V : σ → Prop) (program : ι → κ → Program σ ε α) (pool : Pool ι σ ε α)
    (t : Staged ι σ κ) : Prop where
  store : pool.store = t.store
  thread : ∀ i, pool.thread i = program i (t.stage i)
  valid : V t.store

variable {m} {V : σ → Prop} {program : ι → κ → Program σ ε α} {pool : Pool ι σ ε α}
  {t : Staged ι σ κ}

theorem Follows.move (runs : ∀ i c, m.Runs V (program i) c)
    (keeps : ∀ c s, V s → V (m.act c s)) (follows : Follows V program pool t) (i : ι) :
    Follows V program (pool.move i) (m.move t i) := by
  have request := runs i (t.stage i)
  have thread := follows.thread i
  unfold Runs at request
  cases left : program i (t.stage i) with
  | done outcome =>
      rw [left] at request thread
      have stays : m.move t i = t := by
        unfold Stages.move
        rw [(request t.store).1, (request t.store).2, Function.update_eq_self]
      rw [Pool.move_done thread, stays]
      exact follows
  | step act rest =>
      rw [left] at request thread
      obtain ⟨rfl, later⟩ := request
      rw [Pool.move_step thread, follows.store]
      refine ⟨rfl, fun j => ?_, keeps _ _ follows.valid⟩
      by_cases same : j = i
      · subst same
        change Function.update pool.thread j _ j = program j (Function.update t.stage j _ j)
        rw [Function.update_self, Function.update_self]
        exact later t.store follows.valid
      · change Function.update pool.thread i _ j = program j (Function.update t.stage i _ j)
        rw [Function.update_of_ne same, Function.update_of_ne same]
        exact follows.thread j

/-- A pool of programs that run in stages goes through the stores of the machine. -/
theorem Follows.play (runs : ∀ i c, m.Runs V (program i) c)
    (keeps : ∀ c s, V s → V (m.act c s)) (follows : Follows V program pool t)
    (schedule : List ι) :
    Follows V program (pool.play schedule) (run m.move t schedule) := by
  induction schedule generalizing pool t with
  | nil => exact follows
  | cons i schedule ih => exact ih (follows.move runs keeps i)

end Stages

/-! ## Counting the clients at a stage -/

namespace Staged

variable {ι κ : Type} [Fintype ι] (P : κ → Prop) [DecidablePred P]

/-- The clients at a stage in `P`. -/
def clients (stage : ι → κ) : Finset ι :=
  Finset.univ.filter fun i => P (stage i)

variable {P} {stage : ι → κ} {i : ι} {c : κ}

theorem mem_clients : i ∈ clients P stage ↔ P (stage i) :=
  Finset.mem_filter_univ i

variable [DecidableEq ι]

theorem clients_stay (same : P c ↔ P (stage i)) :
    clients P (Function.update stage i c) = clients P stage := by
  ext j
  rw [mem_clients, mem_clients]
  by_cases eq : j = i
  · subst eq
    rw [Function.update_self, same]
  · rw [Function.update_of_ne eq]

theorem card_enter (before : ¬ P (stage i)) (after : P c) :
    (clients P (Function.update stage i c)).card = (clients P stage).card + 1 := by
  have inserted : clients P (Function.update stage i c) = insert i (clients P stage) := by
    ext j
    rw [Finset.mem_insert, mem_clients, mem_clients]
    by_cases eq : j = i
    · subst eq
      rw [Function.update_self]
      exact iff_of_true after (.inl rfl)
    · rw [Function.update_of_ne eq, or_iff_right eq]
  rw [inserted, Finset.card_insert_of_notMem (mem_clients.not.mpr before)]

theorem card_leave (before : P (stage i)) (after : ¬ P c) :
    (clients P (Function.update stage i c)).card + 1 = (clients P stage).card := by
  have back : Function.update (Function.update stage i c) i (stage i) = stage := by
    rw [Function.update_idem, Function.update_eq_self]
  have absent : ¬ P (Function.update stage i c i) := by
    rw [Function.update_self]
    exact after
  have entered := card_enter absent before
  rw [back] at entered
  exact entered.symm

end Staged

end Requests
