import Mathlib.Logic.Relation

/-!
# Vouching

Members of a group vouch for new ones, and a log keeps who vouched for whom in the
order in which it happened. From a member one can go to the first one who vouched for
it, and on from there. A member is rooted when this way ends at a seed.

A log only grows, and what has been rooted stays rooted (`Rooted.append`); a new
member is rooted when its first sponsor is (`Rooted.vouch`).
-/

namespace Vouching

/-- One entry of the log; `approved` tells whether the sponsor was approved itself. -/
structure Vouch (α : Type) where
  sponsor : α
  member : α
  approved : Bool
  deriving DecidableEq

variable {α : Type} [DecidableEq α] {log : List (Vouch α)} {seeds : α → Prop} {u x : α}

/-- The first one who vouched for `u`. -/
def firstSponsor (log : List (Vouch α)) (u : α) : Option α :=
  (log.find? fun e => e.member = u).map Vouch.sponsor

/-- Going from sponsor to sponsor leads from `u` to a seed. -/
def Rooted (seeds : α → Prop) (log : List (Vouch α)) (u : α) : Prop :=
  ∃ root, Relation.ReflTransGen (fun v x => firstSponsor log v = some x) u root ∧ seeds root

theorem firstSponsor_eq_none : firstSponsor log u = none ↔ ∀ e ∈ log, e.member ≠ u := by
  simp [firstSponsor]

/-- A first sponsor is the sponsor of an entry of the log. -/
theorem mem_of_firstSponsor (first : firstSponsor log u = some x) :
    ∃ e ∈ log, e.member = u ∧ e.sponsor = x := by
  unfold firstSponsor at first
  rcases Option.map_eq_some_iff.mp first with ⟨e, found, sponsor⟩
  exact ⟨e, List.mem_of_find?_eq_some found, by simpa using List.find?_some found, sponsor⟩

theorem firstSponsor_append_of_some (first : firstSponsor log u = some x)
    (later : List (Vouch α)) : firstSponsor (log ++ later) u = some x := by
  unfold firstSponsor at first ⊢
  rcases Option.map_eq_some_iff.mp first with ⟨e, found, sponsor⟩
  rw [List.find?_append, found]
  exact congrArg some sponsor

theorem firstSponsor_append_of_none (none : firstSponsor log u = none) (approved : Bool) :
    firstSponsor (log ++ [{ sponsor := x, member := u, approved }]) u = some x := by
  unfold firstSponsor at none ⊢
  rw [List.find?_append, Option.map_eq_none_iff.mp none]
  simp

/-- Later entries leave the ways to the seeds as they are. -/
theorem Rooted.append (rooted : Rooted seeds log u) (later : List (Vouch α)) :
    Rooted seeds (log ++ later) u := by
  rcases rooted with ⟨root, way, seed⟩
  have way' := Relation.ReflTransGen.mono
    (fun _ _ first => firstSponsor_append_of_some first later) _ _ way
  exact ⟨root, way', seed⟩

/-- A new member is rooted through the one who vouches for it. -/
theorem Rooted.vouch (rooted : Rooted seeds log x) (new : firstSponsor log u = none)
    (approved : Bool) :
    Rooted seeds (log ++ [{ sponsor := x, member := u, approved }]) u := by
  rcases rooted.append [{ sponsor := x, member := u, approved }] with ⟨root, way, seed⟩
  exact ⟨root, .head (firstSponsor_append_of_none new approved) way, seed⟩

/-- A rooted member is a seed or has a sponsor. -/
theorem Rooted.seed_or_sponsored (rooted : Rooted seeds log u) :
    seeds u ∨ ∃ e ∈ log, e.member = u := by
  rcases rooted with ⟨root, way, seed⟩
  rcases Relation.ReflTransGen.cases_head way with same | ⟨x, first, -⟩
  · exact .inl (same ▸ seed)
  · rcases mem_of_firstSponsor first with ⟨e, member, entry, -⟩
    exact .inr ⟨e, member, entry⟩

end Vouching
