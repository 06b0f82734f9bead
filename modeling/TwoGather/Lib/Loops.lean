import Mathlib.Logic.Basic

/-!
# While loops

`whileLoop cond body fuel s` is `while (cond) body` from the state `s`, for at most `fuel`
rounds. It is `none` if a round fails, or if there is not enough fuel.

`whileLoop_terminates` is the rule for an invariant and a variant: a loop whose rounds keep
the one and decrease the other returns. `whileLoop_goOn` cuts a loop where another one, with
a condition that ends it earlier, stops.
-/

namespace Loops

variable {σ : Type} {cond : σ → Bool} {body : σ → Option σ} {s t u : σ} {fuel : Nat}

def whileLoop (cond : σ → Bool) (body : σ → Option σ) : Nat → σ → Option σ
  | 0, s => if cond s then none else some s
  | fuel + 1, s => if cond s then (body s).bind (whileLoop cond body fuel) else some s

theorem whileLoop_of_not (stop : cond s = false) (fuel : Nat) :
    whileLoop cond body fuel s = some s := by
  cases fuel with
  | zero => exact if_neg (ne_true_of_eq_false stop)
  | succ fuel => exact if_neg (ne_true_of_eq_false stop)

theorem whileLoop_round (goesOn : cond s = true) (made : body s = some t) (fuel : Nat) :
    whileLoop cond body (fuel + 1) s = whileLoop cond body fuel t := by
  rw [whileLoop, if_pos goesOn, made, Option.bind_some]

/-- A loop that returns has made a round, or stands where it began. -/
theorem whileLoop_eq_some (returns : whileLoop cond body fuel s = some t) :
    (cond s = false ∧ t = s) ∨
      ∃ fuel' next, fuel = fuel' + 1 ∧ cond s = true ∧ body s = some next ∧
        whileLoop cond body fuel' next = some t := by
  cases goesOn : cond s with
  | false =>
      rw [whileLoop_of_not goesOn] at returns
      exact .inl ⟨rfl, (Option.some.inj returns).symm⟩
  | true =>
      cases fuel with
      | zero =>
          rw [whileLoop, if_pos goesOn] at returns
          cases returns
      | succ fuel =>
          rw [whileLoop, if_pos goesOn] at returns
          obtain ⟨next, made, rest⟩ := Option.bind_eq_some_iff.mp returns
          exact .inr ⟨fuel, next, rfl, rfl, made, rest⟩

/-- The invariant holds at the end, and the loop comes to its end. -/
theorem whileLoop_terminates (cond : σ → Bool) (body : σ → Option σ) (inv : σ → Prop)
    (variant : σ → Nat)
    (round : ∀ s, inv s → cond s = true → ∃ t, body s = some t ∧ inv t ∧ variant t < variant s)
    {fuel : Nat} (start : inv s) (enough : variant s ≤ fuel) :
    ∃ t, whileLoop cond body fuel s = some t ∧ inv t ∧ cond t = false := by
  induction fuel generalizing s with
  | zero =>
      cases goesOn : cond s with
      | false => exact ⟨s, whileLoop_of_not goesOn 0, start, goesOn⟩
      | true =>
          obtain ⟨t, -, -, less⟩ := round s start goesOn
          omega
  | succ fuel ih =>
      cases goesOn : cond s with
      | false => exact ⟨s, whileLoop_of_not goesOn _, start, goesOn⟩
      | true =>
          obtain ⟨next, made, kept, less⟩ := round s start goesOn
          obtain ⟨t, returns, rest⟩ := ih kept (by omega)
          exact ⟨t, (whileLoop_round goesOn made fuel).trans returns, rest⟩

/-- More fuel changes nothing. -/
theorem whileLoop_mono {fuel' : Nat} (more : fuel ≤ fuel')
    (returns : whileLoop cond body fuel s = some t) : whileLoop cond body fuel' s = some t := by
  induction fuel generalizing s fuel' with
  | zero =>
      obtain ⟨stop, rfl⟩ | ⟨fuel, next, eq, -⟩ := whileLoop_eq_some returns
      · exact whileLoop_of_not stop fuel'
      · omega
  | succ fuel ih =>
      obtain ⟨stop, rfl⟩ | ⟨left, next, eq, goesOn, made, rest⟩ := whileLoop_eq_some returns
      · exact whileLoop_of_not stop fuel'
      · obtain rfl : left = fuel := by omega
        obtain ⟨more', rfl⟩ : ∃ more', fuel' = more' + 1 := ⟨fuel' - 1, by omega⟩
        rw [whileLoop_round goesOn made]
        exact ih (by omega) rest

/-- Where a loop stops, one that stops later goes on. -/
theorem whileLoop_goOn {cond' : σ → Bool} {fuel' : Nat}
    (later : ∀ s, cond s = true → cond' s = true)
    (first : whileLoop cond body fuel s = some t) (rest : whileLoop cond' body fuel' t = some u) :
    whileLoop cond' body (fuel + fuel') s = some u := by
  induction fuel generalizing s with
  | zero =>
      obtain ⟨-, rfl⟩ | ⟨fuel, next, eq, -⟩ := whileLoop_eq_some first
      · rwa [Nat.zero_add]
      · omega
  | succ fuel ih =>
      obtain ⟨-, rfl⟩ | ⟨left, next, eq, goesOn, made, returns⟩ := whileLoop_eq_some first
      · exact whileLoop_mono (by omega) rest
      · obtain rfl : left = fuel := by omega
        rw [Nat.succ_add, whileLoop_round (later s goesOn) made]
        exact ih returns

end Loops
