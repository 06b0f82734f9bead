import Mathlib.Data.List.Basic

/-!
# Programs as sequences of atomic requests to one store

A client of a shared store runs as a sequence of atomic requests, each of which
may read the store and may replace it. `Program σ ε α` is that sequence as a
tree: `done` is a finished run with its outcome, and `step act next` is one
request, which turns the store `s` into `act s` and goes on as `next s`.

The same tree has three readings:

* `Program.exec` runs it alone to its end;
* `Program.advance n` runs its first `n` requests only, so a run that an outside
  event cuts off at any point is one of these, and `Program.Visits` is the set of
  stores they leave;
* `TwoGather/Lib/Pool.lean` runs several of them in any interleaving.

Nothing here mentions a particular store.
-/

namespace Requests

/-- A sequence of atomic requests to a store `σ`, with outcome `Except ε α`. -/
inductive Program (σ ε α : Type) : Type
  | done (outcome : Except ε α)
  | step (act : σ → σ) (next : σ → Program σ ε α)

namespace Program

variable {σ ε α β : Type}

/-- Go on with `k` after a successful outcome; an error ends the whole sequence. -/
def bind : Program σ ε α → (α → Program σ ε β) → Program σ ε β
  | .done (.ok a), k => k a
  | .done (.error e), _ => .done (.error e)
  | .step act next, k => .step act fun s => (next s).bind k

/-- Run `handler` from the point where `p` raises an error. -/
def handle : Program σ ε α → (ε → Program σ ε α) → Program σ ε α
  | .done (.ok a), _ => .done (.ok a)
  | .done (.error e), handler => handler e
  | .step act next, handler => .step act fun s => (next s).handle handler

instance : Monad (Program σ ε) where
  pure a := .done (.ok a)
  bind := bind

instance : MonadExcept ε (Program σ ε) where
  throw e := .done (.error e)
  tryCatch := handle

/-- One request that only reads. -/
def read (f : σ → α) : Program σ ε α :=
  .step id fun s => .done (.ok (f s))

theorem pure_bind (a : α) (k : α → Program σ ε β) : (pure a >>= k) = k a := rfl

theorem done_bind (a : α) (k : α → Program σ ε β) : (.done (.ok a) >>= k) = k a := rfl

theorem step_bind (act : σ → σ) (next : σ → Program σ ε α) (k : α → Program σ ε β) :
    (.step act next >>= k) = .step act fun s => next s >>= k := rfl

/-- Three parts of a program may be grouped as one likes. -/
theorem bind_assoc {γ : Type} (p : Program σ ε α) (k : α → Program σ ε β)
    (l : β → Program σ ε γ) : (p >>= k >>= l) = p >>= fun a => k a >>= l := by
  change (p.bind k).bind l = p.bind fun a => (k a).bind l
  induction p with
  | done outcome =>
      cases outcome with
      | ok a => rfl
      | error e => rfl
  | step act next ih =>
      have rest : (fun s => ((next s).bind k).bind l) =
          fun s => (next s).bind fun a => (k a).bind l := funext ih
      exact congrArg (step act) rest

/-! ## Running alone to the end -/

/-- The outcome of `p` and the store it leaves when nothing else runs. -/
def exec : Program σ ε α → σ → Except ε α × σ
  | .done outcome, s => (outcome, s)
  | .step act next, s => (next s).exec (act s)

@[simp] theorem exec_pure (a : α) (s : σ) :
    (pure a : Program σ ε α).exec s = (.ok a, s) := rfl

@[simp] theorem exec_throw (e : ε) (s : σ) :
    (throw e : Program σ ε α).exec s = (.error e, s) := rfl

@[simp] theorem exec_step (act : σ → σ) (next : σ → Program σ ε α) (s : σ) :
    (Program.step act next).exec s = (next s).exec (act s) := rfl

@[simp] theorem exec_read (f : σ → α) (s : σ) :
    (read f : Program σ ε α).exec s = (.ok (f s), s) := rfl

@[simp] theorem exec_bind (p : Program σ ε α) (k : α → Program σ ε β) (s : σ) :
    (p >>= k).exec s =
      match p.exec s with
      | (.ok a, t) => (k a).exec t
      | (.error e, t) => (.error e, t) := by
  change (p.bind k).exec s = _
  induction p generalizing s with
  | done outcome =>
      cases outcome with
      | ok a => rfl
      | error e => rfl
  | step act next ih => exact ih s (act s)

@[simp] theorem exec_tryCatch (p : Program σ ε α) (handler : ε → Program σ ε α) (s : σ) :
    (tryCatch p handler).exec s =
      match p.exec s with
      | (.ok a, t) => (.ok a, t)
      | (.error e, t) => (handler e).exec t := by
  change (p.handle handler).exec s = _
  induction p generalizing s with
  | done outcome =>
      cases outcome with
      | ok a => rfl
      | error e => rfl
  | step act next ih => exact ih s (act s)

/-- What is caught and yields a value leaves the store as it was left. -/
theorem exec_caught (p : Program σ ε α) (a : α) (s : σ) :
    ((tryCatch p fun _ => pure a).exec s).2 = (p.exec s).2 := by
  rw [exec_tryCatch]
  rcases p.exec s with ⟨outcome, t⟩
  cases outcome with
  | ok _ => rfl
  | error _ => rfl

/-- Whether the outcome is used makes no difference to the store. -/
theorem exec_discard (p : Program σ ε α) (b : β) (s : σ) :
    ((p >>= fun _ => pure b).exec s).2 = (p.exec s).2 := by
  rw [exec_bind]
  rcases p.exec s with ⟨outcome, t⟩
  cases outcome with
  | ok _ => rfl
  | error _ => rfl

theorem exec_ite (c : Prop) [Decidable c] (p q : Program σ ε α) (s : σ) :
    (if c then p else q).exec s = if c then p.exec s else q.exec s := by
  split <;> rfl

/-- A sequence that ends well went through a good end of its first part. -/
theorem exec_bind_ok {p : Program σ ε α} {k : α → Program σ ε β} {s u : σ} {b : β}
    (run : (p >>= k).exec s = (.ok b, u)) :
    ∃ a t, p.exec s = (.ok a, t) ∧ (k a).exec t = (.ok b, u) := by
  rw [exec_bind] at run
  rcases first : p.exec s with ⟨outcome, t⟩
  rw [first] at run
  cases outcome with
  | ok a => exact ⟨a, t, rfl, run⟩
  | error e => cases run

/-- The store a whole sequence leaves is left by its first part or by what follows it. -/
theorem exec_bind_store (p : Program σ ε α) (k : α → Program σ ε β) (s : σ) :
    ((p >>= k).exec s).2 = (p.exec s).2 ∨
      ∃ a t, p.exec s = (.ok a, t) ∧ ((p >>= k).exec s).2 = ((k a).exec t).2 := by
  rw [exec_bind]
  rcases p.exec s with ⟨outcome, t⟩
  cases outcome with
  | ok a => exact .inr ⟨a, t, rfl, rfl⟩
  | error e => exact .inl rfl

/-- `for (const x of xs)`: the body for each element in order, up to the first error. -/
def forEach : List α → (α → Program σ ε Unit) → Program σ ε Unit
  | [], _ => pure ()
  | x :: xs, body => do
      body x
      forEach xs body

/-- The rule for a loop that ends well: what holds of no element at the start, and of one
element more after each good run of the body, holds of all of them at the end. -/
theorem exec_forEach_ok {P : List α → σ → Prop} {body : α → Program σ ε Unit} {xs : List α}
    {s t : σ} (start : P [] s)
    (each : ∀ past x s t, P past s → (body x).exec s = (.ok (), t) → P (past ++ [x]) t)
    (run : (forEach xs body).exec s = (.ok (), t)) : P xs t := by
  have general : ∀ (todo past : List α) (s : σ), P past s →
      (forEach todo body).exec s = (.ok (), t) → P (past ++ todo) t := by
    intro todo
    induction todo with
    | nil =>
        intro past s holds ends
        cases ends
        rwa [List.append_nil]
    | cons x todo ih =>
        intro past s holds ends
        rcases exec_bind_ok ends with ⟨_, u, first, rest⟩
        have later := ih (past ++ [x]) u (each past x s u holds first) rest
        rwa [List.append_assoc] at later
  exact general xs [] s start run

/-! ## Runs that are cut off -/

/-- What is left of `p`, and the store, after its first `n` requests. -/
def advance : Nat → Program σ ε α → σ → Program σ ε α × σ
  | 0, p, s => (p, s)
  | _ + 1, .done outcome, s => (.done outcome, s)
  | n + 1, .step act next, s => advance n (next s) (act s)

/-- `p.Visits s t`: some run of `p` from `s`, finished or cut off, leaves `t`. -/
inductive Visits : Program σ ε α → σ → σ → Prop
  | start {p : Program σ ε α} {s : σ} : Visits p s s
  | later {act : σ → σ} {next : σ → Program σ ε α} {s t : σ} :
      Visits (next s) (act s) t → Visits (.step act next) s t

/-- What a program leaves after some requests is visited. -/
theorem Visits.advance (n : Nat) (p : Program σ ε α) (s : σ) :
    p.Visits s (Program.advance n p s).2 := by
  induction n generalizing p s with
  | zero => exact .start
  | succ n ih =>
      cases p with
      | done outcome => exact .start
      | step act next => exact .later (ih (next s) (act s))

/-- The store at the end is visited. -/
theorem Visits.exec (p : Program σ ε α) (s : σ) : p.Visits s (p.exec s).2 := by
  induction p generalizing s with
  | done outcome => exact .start
  | step act next ih => exact .later (ih s (act s))

/-- A read visits no other store. -/
theorem Visits.of_read {f : σ → α} {s t : σ} (visit : (read f : Program σ ε α).Visits s t) :
    t = s := by
  cases visit with
  | start => rfl
  | later rest =>
      cases rest
      rfl

/-- A run of a sequence is cut off in its first part, or in what follows it. -/
theorem Visits.of_bind {p : Program σ ε α} {k : α → Program σ ε β} {s t : σ}
    (visit : (p >>= k).Visits s t) :
    p.Visits s t ∨ ∃ a u, p.exec s = (.ok a, u) ∧ (k a).Visits u t := by
  change (p.bind k).Visits s t at visit
  induction p generalizing s with
  | done outcome =>
      cases outcome with
      | ok a => exact .inr ⟨a, s, rfl, visit⟩
      | error e =>
          cases visit
          exact .inl .start
  | step act next ih =>
      cases visit with
      | start => exact .inl .start
      | later rest =>
          rcases ih s rest with before | ⟨a, u, run, after⟩
          · exact .inl (.later before)
          · exact .inr ⟨a, u, run, after⟩

/-- The rule for a loop that may be cut off: `I` holds between two runs of the body, with the
elements still to come, and `P` holds all the time. -/
theorem Visits.of_forEach {I : List α → σ → Prop} {P : σ → Prop}
    {body : α → Program σ ε Unit} (between : ∀ todo s, I todo s → P s)
    (each : ∀ x todo s, I (x :: todo) s → (∀ t, (body x).Visits s t → P t) ∧
      ∀ t, (body x).exec s = (.ok (), t) → I todo t)
    {xs : List α} {s t : σ} (start : I xs s) (visit : (forEach xs body).Visits s t) : P t := by
  induction xs generalizing s with
  | nil =>
      cases visit
      exact between [] _ start
  | cons x xs ih =>
      rcases Visits.of_bind visit with inside | ⟨_, u, run, after⟩
      · exact (each x xs s start).1 t inside
      · exact ih ((each x xs s start).2 u run) after

/-! ## What every request of a program does

`Keeps R p` says that each single request of `p`, from whatever store it finds,
relates that store to the next one by `R`. It does not depend on how the program
is run, so it carries over to whole runs, cut-off runs and interleavings. -/

/-- Every request of the program relates the store before it to the one after it by `R`. -/
def Keeps (R : σ → σ → Prop) : Program σ ε α → Prop
  | .done _ => True
  | .step act next => ∀ s, R s (act s) ∧ (next s).Keeps R

theorem Keeps.pure {R : σ → σ → Prop} (a : α) : (pure a : Program σ ε α).Keeps R := trivial

theorem Keeps.throw {R : σ → σ → Prop} (e : ε) : (throw e : Program σ ε α).Keeps R := trivial

theorem Keeps.read {R : σ → σ → Prop} (refl : ∀ s, R s s) (f : σ → α) :
    (read f : Program σ ε α).Keeps R :=
  fun s => ⟨refl s, trivial⟩

/-- A relation that both parts keep is kept by the whole. -/
theorem Keeps.bind {R : σ → σ → Prop} {p : Program σ ε α} {k : α → Program σ ε β}
    (first : p.Keeps R) (rest : ∀ a, (k a).Keeps R) : (p >>= k).Keeps R := by
  change (p.bind k).Keeps R
  induction p with
  | done outcome =>
      cases outcome with
      | ok a => exact rest a
      | error e => trivial
  | step act next ih => exact fun s => ⟨(first s).1, ih s (first s).2⟩

/-- A loop keeps what each round keeps. -/
theorem Keeps.forEach {R : σ → σ → Prop} {body : α → Program σ ε Unit} {xs : List α}
    (each : ∀ x ∈ xs, (body x).Keeps R) : (Program.forEach xs body).Keeps R := by
  induction xs with
  | nil => exact .pure ()
  | cons x xs ih =>
      refine .bind (each x List.mem_cons_self) fun _ => ih fun y member => ?_
      exact each y (List.mem_cons_of_mem x member)

/-- A program that keeps a relation keeps a weaker one. -/
theorem Keeps.mono {R Q : σ → σ → Prop} (weaker : ∀ s t, R s t → Q s t) {p : Program σ ε α}
    (keeps : p.Keeps R) : p.Keeps Q := by
  induction p with
  | done outcome => trivial
  | step act next ih => exact fun s => ⟨weaker s (act s) (keeps s).1, ih s (keeps s).2⟩

/-- What every request keeps holds of all stores on the way. -/
theorem Keeps.visits {R : σ → σ → Prop} (refl : ∀ s, R s s)
    (trans : ∀ {s t u}, R s t → R t u → R s u) {p : Program σ ε α} (keeps : p.Keeps R)
    {s t : σ} (visit : p.Visits s t) : R s t := by
  induction visit with
  | start => exact refl _
  | later _ ih => exact trans (keeps _).1 (ih (keeps _).2)

/-- What every request keeps holds of the store at the end. -/
theorem Keeps.exec {R : σ → σ → Prop} (refl : ∀ s, R s s)
    (trans : ∀ {s t u}, R s t → R t u → R s u) {p : Program σ ε α} (keeps : p.Keeps R)
    (s : σ) : R s (p.exec s).2 :=
  keeps.visits refl trans (.exec p s)

/-! ## The kinds of requests of a program

`Makes A p` says that each single request of `p` is of the kind `A`, whatever was read
before. It says more than `Keeps`: what a request does, and not only in the store it finds. -/

/-- Every request of the program is of the kind `A`. -/
def Makes (A : (σ → σ) → Prop) : Program σ ε α → Prop
  | .done _ => True
  | .step act next => A act ∧ ∀ s, (next s).Makes A

section Makes

variable {A : (σ → σ) → Prop}

theorem Makes.pure (a : α) : (pure a : Program σ ε α).Makes A := trivial

theorem Makes.throw (e : ε) : (throw e : Program σ ε α).Makes A := trivial

theorem Makes.step {act : σ → σ} {next : σ → Program σ ε α} (first : A act)
    (rest : ∀ s, (next s).Makes A) : (Program.step act next).Makes A :=
  ⟨first, rest⟩

theorem Makes.read (reads : A id) (f : σ → α) : (read f : Program σ ε α).Makes A :=
  ⟨reads, fun _ => trivial⟩

/-- The requests of a sequence are those of its parts. -/
theorem Makes.bind {p : Program σ ε α} {k : α → Program σ ε β} (first : p.Makes A)
    (rest : ∀ a, (k a).Makes A) : (p >>= k).Makes A := by
  change (p.bind k).Makes A
  induction p with
  | done outcome =>
      cases outcome with
      | ok a => exact rest a
      | error e => trivial
  | step act next ih => exact ⟨first.1, fun s => ih s (first.2 s)⟩

/-- The requests of a loop are those of its rounds. -/
theorem Makes.forEach {body : α → Program σ ε Unit} {xs : List α}
    (each : ∀ x ∈ xs, (body x).Makes A) : (Program.forEach xs body).Makes A := by
  induction xs with
  | nil => exact .pure ()
  | cons x xs ih =>
      apply Makes.bind (each x List.mem_cons_self)
      intro _
      apply ih
      intro y listed
      exact each y (List.mem_cons_of_mem x listed)

/-- The requests of a handler may come in addition. -/
theorem Makes.tryCatch {p : Program σ ε α} {handler : ε → Program σ ε α} (first : p.Makes A)
    (rest : ∀ e, (handler e).Makes A) : (MonadExcept.tryCatch p handler).Makes A := by
  change (p.handle handler).Makes A
  induction p with
  | done outcome =>
      cases outcome with
      | ok a => trivial
      | error e => exact rest e
  | step act next ih => exact ⟨first.1, fun s => ih s (first.2 s)⟩

/-- More requests may be allowed than a program makes. -/
theorem Makes.mono {B : (σ → σ) → Prop} (weaker : ∀ act, A act → B act) {p : Program σ ε α}
    (makes : p.Makes A) : p.Makes B := by
  induction p with
  | done outcome => trivial
  | step act next ih => exact ⟨weaker act makes.1, fun s => ih s (makes.2 s)⟩

/-- Requests of a kind that always does `R`. -/
theorem Makes.keeps {R : σ → σ → Prop} (does : ∀ act, A act → ∀ s, R s (act s))
    {p : Program σ ε α} (makes : p.Makes A) : p.Keeps R := by
  induction p with
  | done outcome => trivial
  | step act next ih => exact fun s => ⟨does act makes.1 s, ih s (makes.2 s)⟩

end Makes

/-! ## What a program yields -/

/-- Whatever it reads, the program yields values in `P` only. -/
def Yields (P : α → Prop) : Program σ ε α → Prop
  | .done (.ok a) => P a
  | .done (.error _) => True
  | .step _ next => ∀ s, (next s).Yields P

section Yields

variable {P : α → Prop} {Q : β → Prop} {A : (σ → σ) → Prop}

/-- What the first part yields is what the second one is given. -/
theorem Yields.bind {p : Program σ ε α} {k : α → Program σ ε β} (first : p.Yields P)
    (rest : ∀ a, P a → (k a).Yields Q) : (p >>= k).Yields Q := by
  change (p.bind k).Yields Q
  induction p with
  | done outcome =>
      cases outcome with
      | ok a => exact rest a first
      | error e => trivial
  | step act next ih => exact fun s => ih s (first s)

/-- Nothing is known of what a read yields. -/
theorem Yields.read_bind {f : σ → α} {k : α → Program σ ε β} (rest : ∀ a, (k a).Yields Q) :
    ((read f : Program σ ε α) >>= k).Yields Q :=
  fun s => rest (f s)

/-- What follows need only deal with what the first part yields. -/
theorem Makes.bind_of_yields {p : Program σ ε α} {k : α → Program σ ε β} (first : p.Makes A)
    (yields : p.Yields P) (rest : ∀ a, P a → (k a).Makes A) : (p >>= k).Makes A := by
  change (p.bind k).Makes A
  induction p with
  | done outcome =>
      cases outcome with
      | ok a => exact rest a yields
      | error e => trivial
  | step act next ih => exact ⟨first.1, fun s => ih s (first.2 s) (yields s)⟩

end Yields

/-! ## Requests that a program will make

`Must A p` says that `p` does not end well before it has made a request of the kind `A`,
whatever it reads. -/

/-- A request of the kind `A` comes before every good end of the program. -/
def Must (A : (σ → σ) → Prop) : Program σ ε α → Prop
  | .done (.ok _) => False
  | .done (.error _) => True
  | .step act next => A act ∨ ∀ s, (next s).Must A

section Must

variable {A : (σ → σ) → Prop}

/-- A request that the first part must make is made. -/
theorem Must.bind_left {p : Program σ ε α} (must : p.Must A) (k : α → Program σ ε β) :
    (p >>= k).Must A := by
  change (p.bind k).Must A
  induction p with
  | done outcome =>
      cases outcome with
      | ok a => cases must
      | error e => trivial
  | step act next ih =>
      rcases must with now | later
      · exact .inl now
      · exact .inr fun s => ih s (later s)

/-- A request that the second part must make is made, or there was an error. -/
theorem Must.bind_right (p : Program σ ε α) {k : α → Program σ ε β}
    (must : ∀ a, (k a).Must A) : (p >>= k).Must A := by
  change (p.bind k).Must A
  induction p with
  | done outcome =>
      cases outcome with
      | ok a => exact must a
      | error e => trivial
  | step act next ih => exact .inr ih

/-- A request that one round must make is made, if no round before it fails. -/
theorem Must.forEach {body : α → Program σ ε Unit} {x : α} {xs : List α} (listed : x ∈ xs)
    (must : (body x).Must A) : (Program.forEach xs body).Must A := by
  induction xs with
  | nil => cases listed
  | cons y xs ih =>
      rcases List.mem_cons.mp listed with rfl | later
      · exact must.bind_left _
      · exact .bind_right _ fun _ => ih later

end Must

/-- At every point it is settled whether a request of the kind `A` will come, or all requests
that are left keep `R`. -/
def Settled (A : (σ → σ) → Prop) (R : σ → σ → Prop) : Program σ ε α → Prop
  | .done _ => True
  | .step act next =>
      ((step act next).Must A ∨ (step act next).Keeps R) ∧ ∀ s, (next s).Settled A R

section Settled

variable {A : (σ → σ) → Prop} {R : σ → σ → Prop}

/-- Either the request is still to be made, or it makes no difference any more. -/
theorem Settled.now {p : Program σ ε α} (settled : p.Settled A R) : p.Must A ∨ p.Keeps R := by
  cases p with
  | done outcome => exact .inr trivial
  | step act next => exact settled.1

/-- A program that keeps the relation has nothing to settle. -/
theorem Settled.of_keeps {p : Program σ ε α} (keeps : p.Keeps R) : p.Settled A R := by
  induction p with
  | done outcome => trivial
  | step act next ih => exact ⟨.inr keeps, fun s => ih s (keeps s).2⟩

/-- What comes next is settled before it begins. -/
theorem Settled.bind {p : Program σ ε α} {k : α → Program σ ε β} (first : p.Settled A R)
    (rest : (∀ a, (k a).Must A) ∨ ∀ a, (k a).Keeps R) (later : ∀ a, (k a).Settled A R) :
    (p >>= k).Settled A R := by
  have whole : ∀ p : Program σ ε α, p.Must A ∨ p.Keeps R →
      (p >>= k).Must A ∨ (p >>= k).Keeps R := by
    intro p now
    rcases rest with must | keeps
    · exact .inl (.bind_right p must)
    · rcases now with mustFirst | keepsFirst
      · exact .inl (mustFirst.bind_left k)
      · exact .inr (keepsFirst.bind keeps)
  change (p.bind k).Settled A R
  induction p with
  | done outcome =>
      cases outcome with
      | ok a => exact later a
      | error e => trivial
  | step act next ih => exact ⟨whole (step act next) first.1, fun s => ih s (first.2 s)⟩

/-- What comes next does not depend on what the first part yields. -/
theorem Settled.seq {p : Program σ ε α} {q : Program σ ε β} (first : p.Settled A R)
    (later : q.Settled A R) : (p >>= fun _ => q).Settled A R := by
  refine .bind first ?_ fun _ => later
  rcases later.now with must | keeps
  · exact .inl fun _ => must
  · exact .inr fun _ => keeps

/-- A loop whose rounds are settled, one after the other. -/
theorem Settled.forEach {body : α → Program σ ε Unit} {xs : List α}
    (each : ∀ x ∈ xs, (body x).Settled A R) : (Program.forEach xs body).Settled A R := by
  induction xs with
  | nil => trivial
  | cons x xs ih =>
      apply Settled.seq (each x List.mem_cons_self)
      apply ih
      intro y listed
      exact each y (List.mem_cons_of_mem x listed)

end Settled

/-! ## Kinds of requests under a condition

`Within I A p` is `Makes A p` for runs in which every request finds a store in `I`.
`AtMostOnce A B p` is `Makes B p` up to one request of the kind `A`. -/

/-- As long as the stores are in `I`, every request is of the kind `A`. -/
def Within (I : σ → Prop) (A : (σ → σ) → Prop) : Program σ ε α → Prop
  | .done _ => True
  | .step act next => ∀ s, I s → A act ∧ (next s).Within I A

/-- One request at most is of the kind `A`, the others are of the kind `B`. -/
def AtMostOnce (A B : (σ → σ) → Prop) : Program σ ε α → Prop
  | .done _ => True
  | .step act next => (A act ∧ ∀ s, (next s).Makes B) ∨ (B act ∧ ∀ s, (next s).AtMostOnce A B)

section Within

variable {I : σ → Prop} {A B : (σ → σ) → Prop}

/-- What a program does in all stores it does in those of `I`. -/
theorem Makes.within {p : Program σ ε α} (makes : p.Makes A) : p.Within I A := by
  induction p with
  | done outcome => trivial
  | step act next ih => exact fun s _ => ⟨makes.1, ih s (makes.2 s)⟩

/-- A read yields what the stores in `I` can yield. -/
theorem Within.read_bind (reads : A id) {f : σ → α} {k : α → Program σ ε β}
    (rest : ∀ s, I s → (k (f s)).Within I A) :
    ((Program.read f : Program σ ε α) >>= k).Within I A :=
  fun s holds => ⟨reads, rest s holds⟩

/-- A sequence stays within what its parts do. -/
theorem Within.bind {p : Program σ ε α} {k : α → Program σ ε β} (first : p.Within I A)
    (rest : ∀ a, (k a).Within I A) : (p >>= k).Within I A := by
  change (p.bind k).Within I A
  induction p with
  | done outcome =>
      cases outcome with
      | ok a => exact rest a
      | error e => trivial
  | step act next ih => exact fun s holds => ⟨(first s holds).1, ih s (first s holds).2⟩

/-- A program that never makes the request makes it at most once. -/
theorem AtMostOnce.of_makes {p : Program σ ε α} (makes : p.Makes B) : p.AtMostOnce A B := by
  induction p with
  | done outcome => trivial
  | step act next ih => exact .inr ⟨makes.1, fun s => ih s (makes.2 s)⟩

/-- The one request is made in the first part. -/
theorem AtMostOnce.bind_left {p : Program σ ε α} {k : α → Program σ ε β}
    (first : p.AtMostOnce A B) (rest : ∀ a, (k a).Makes B) : (p >>= k).AtMostOnce A B := by
  change (p.bind k).AtMostOnce A B
  induction p with
  | done outcome =>
      cases outcome with
      | ok a => exact .of_makes (rest a)
      | error e => trivial
  | step act next ih =>
      rcases first with ⟨one, later⟩ | ⟨other, later⟩
      · exact .inl ⟨one, fun s => (later s).bind rest⟩
      · exact .inr ⟨other, fun s => ih s (later s)⟩

/-- The one request is made in the second part. -/
theorem AtMostOnce.bind_right {p : Program σ ε α} {k : α → Program σ ε β}
    (first : p.Makes B) (rest : ∀ a, (k a).AtMostOnce A B) : (p >>= k).AtMostOnce A B := by
  change (p.bind k).AtMostOnce A B
  induction p with
  | done outcome =>
      cases outcome with
      | ok a => exact rest a
      | error e => trivial
  | step act next ih => exact .inr ⟨first.1, fun s => ih s (first.2 s)⟩

end Within

/-! ## Programs that do not see a part of the store

`Blind P h p` says that from stores in `P`, which every request keeps, the program does the
same on `h s` as on `s`. With `h` the removal of something, a run leaves it alone and does
nothing because of it. -/

/-- Every request from a store in `P` stays in `P`, and commutes with `h`. -/
def Blind (P : σ → Prop) (h : σ → σ) : Program σ ε α → Prop
  | .done _ => True
  | .step act next => ∀ s, P s →
      (P (act s) ∧ act (h s) = h (act s) ∧ next (h s) = next s) ∧ (next s).Blind P h

section Blind

variable {P : σ → Prop} {h : σ → σ}

theorem Blind.pure (a : α) : (pure a : Program σ ε α).Blind P h := trivial

theorem Blind.throw (e : ε) : (throw e : Program σ ε α).Blind P h := trivial

theorem Blind.read {f : σ → α} (same : ∀ s, P s → f (h s) = f s) :
    (read f : Program σ ε α).Blind P h := by
  intro s holds
  refine ⟨⟨holds, rfl, ?_⟩, trivial⟩
  dsimp only
  rw [same s holds]

/-- A sequence of parts that do not see the difference does not see it. -/
theorem Blind.bind {p : Program σ ε α} {k : α → Program σ ε β} (first : p.Blind P h)
    (rest : ∀ a, (k a).Blind P h) : (p >>= k).Blind P h := by
  change (p.bind k).Blind P h
  induction p with
  | done outcome =>
      cases outcome with
      | ok a => exact rest a
      | error e => trivial
  | step act next ih =>
      intro s holds
      rcases first s holds with ⟨⟨stays, commutes, same⟩, blind⟩
      refine ⟨⟨stays, commutes, ?_⟩, ih s blind⟩
      dsimp only
      rw [same]

/-- Nor does a loop of such rounds. -/
theorem Blind.forEach {body : α → Program σ ε Unit} {xs : List α}
    (each : ∀ x ∈ xs, (body x).Blind P h) : (Program.forEach xs body).Blind P h := by
  induction xs with
  | nil => exact .pure ()
  | cons x xs ih =>
      apply Blind.bind (each x List.mem_cons_self)
      intro _
      apply ih
      intro y listed
      exact each y (List.mem_cons_of_mem x listed)

/-- A run, finished or cut off, stays in `P` and commutes with `h`. -/
theorem Blind.advance {p : Program σ ε α} (blind : p.Blind P h) {s : σ} (holds : P s) (n : Nat) :
    P (Program.advance n p s).2 ∧
      (Program.advance n p (h s)).2 = h (Program.advance n p s).2 := by
  induction n generalizing p s with
  | zero => exact ⟨holds, rfl⟩
  | succ n ih =>
      cases p with
      | done outcome => exact ⟨holds, rfl⟩
      | step act next =>
          rcases blind s holds with ⟨⟨stays, commutes, same⟩, later⟩
          simp only [Program.advance]
          rw [commutes, same]
          exact ih later stays

end Blind

end Program

end Requests
