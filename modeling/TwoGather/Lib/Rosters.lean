import Mathlib.Tactic.ByContra

/-!
# Rosters kept twice

Groups list their members, and each member has one field for its group. The two sides
of such a roster agree when the field of a member names exactly the live group that
lists it. An operation writes both sides: it gives some members a new field (`assign`)
and one group a new list (`relist`), or clears the fields of some members and drops a
group (`drop`). It is judged by what it does to the members it touches: none of them
may be listed by another live group, and the new list may differ from the old one for
these members only.

Groups that are known but no longer live may be named by a field, unknown ones may not.
-/

namespace Rosters

/-- Members with the one group each of them names, and groups with the members they list. -/
structure Roster (μ γ : Type) where
  member : μ → Prop
  group : μ → Option γ
  known : γ → Prop
  live : γ → Prop
  lists : γ → μ → Prop

namespace Roster

variable {μ γ : Type} {r : Roster μ γ} {touched new : μ → Prop} {o : Option γ} {g : γ}

/-- A member names exactly the live group that lists it, and no unknown group. -/
structure Agree (r : Roster μ γ) : Prop where
  names : ∀ u, r.member u → ∀ g, r.live g → (r.group u = some g ↔ r.lists g u)
  known : ∀ u, r.member u → ∀ g, r.group u = some g → r.known g

/-- In an agreeing roster nobody is listed by two live groups. -/
theorem Agree.unique (agree : r.Agree) {u : μ} (member : r.member u) {g g' : γ}
    (live : r.live g) (live' : r.live g') (lists : r.lists g u) (lists' : r.lists g' u) :
    g = g' := by
  have named := (agree.names u member g live).mpr lists
  have named' := (agree.names u member g' live').mpr lists'
  exact Option.some.inj (named.symm.trans named')

/-- No live group other than `g` lists `u`. -/
def Only (r : Roster μ γ) (g : γ) (u : μ) : Prop :=
  ∀ g', r.live g' → g' ≠ g → ¬ r.lists g' u

open Classical in
/-- Give the touched members the field `o`. -/
noncomputable def assign (r : Roster μ γ) (touched : μ → Prop) (o : Option γ) : Roster μ γ :=
  { r with group := fun u => if touched u then o else r.group u }

open Classical in
/-- Give the group `g` the list `new`. -/
noncomputable def relist (r : Roster μ γ) (g : γ) (new : μ → Prop) : Roster μ γ :=
  { r with lists := fun g' => if g' = g then new else r.lists g' }

/-- Drop the group `g`. -/
def drop (r : Roster μ γ) (g : γ) : Roster μ γ :=
  { r with
    known := fun g' => g' ≠ g ∧ r.known g'
    live := fun g' => g' ≠ g ∧ r.live g'
    lists := fun g' u => g' ≠ g ∧ r.lists g' u }

theorem assign_nobody (untouched : ∀ u, ¬ touched u) : r.assign touched o = r := by
  unfold assign
  simp only [untouched, ↓reduceIte]

theorem assign_assign (touched' : μ → Prop) :
    (r.assign touched o).assign touched' o = r.assign (fun u => touched u ∨ touched' u) o := by
  unfold assign
  congr 1
  funext u
  by_cases later : touched' u
  · simp only [later, or_true, ↓reduceIte]
  · rw [if_neg later]
    by_cases now : touched u
    · simp only [now, true_or, ↓reduceIte]
    · simp only [now, later, or_self, ↓reduceIte]

theorem assign_relist : (r.relist g new).assign touched o = (r.assign touched o).relist g new :=
  rfl

theorem relist_relist (new' : μ → Prop) : (r.relist g new).relist g new' = r.relist g new' := by
  unfold relist
  congr 1
  funext g'
  by_cases same : g' = g
  · simp only [same, ↓reduceIte]
  · simp only [same, ↓reduceIte]

/-- Where both sides agreed, they agree after an assignment exactly when no touched member
is listed by another live group, and, if the group is live, its new list has the touched
members that are given it and the others that it had. -/
theorem agree_assign_relist_iff (agree : r.Agree) (known : r.known g)
    (own : ∀ g', o = some g' → g' = g) :
    ((r.assign touched o).relist g new).Agree ↔
      (∀ u, r.member u → touched u → r.Only g u) ∧
        (r.live g → ∀ u, r.member u →
          (touched u → (o = some g ↔ new u)) ∧ (¬ touched u → (r.lists g u ↔ new u))) := by
  constructor
  · intro after
    refine ⟨fun u member touch g' live differ lists => ?_, fun live u member =>
      ⟨fun touch => ?_, fun untouched => ?_⟩⟩
    · have names := after.names u member g' live
      simp only [assign, relist, touch, differ, ↓reduceIte] at names
      exact differ (own g' (names.mpr lists))
    · have names := after.names u member g live
      simpa only [assign, relist, touch, ↓reduceIte] using names
    · have names := after.names u member g live
      simp only [assign, relist, untouched, ↓reduceIte] at names
      exact (agree.names u member g live).symm.trans names
  · intro exact
    rcases exact with ⟨only, list⟩
    constructor
    · intro u member g' live
      by_cases touch : touched u
      · by_cases same : g' = g
        · subst same
          simp only [assign, relist, touch, ↓reduceIte]
          exact (list live u member).1 touch
        · simp only [assign, relist, touch, same, ↓reduceIte]
          constructor
          · intro given
            exact absurd (own g' given) same
          · intro lists
            exact absurd lists (only u member touch g' live same)
      · by_cases same : g' = g
        · subst same
          simp only [assign, relist, touch, ↓reduceIte]
          exact (agree.names u member g' live).trans ((list live u member).2 touch)
        · simp only [assign, relist, touch, same, ↓reduceIte]
          exact agree.names u member g' live
    · intro u member g' named
      by_cases touch : touched u
      · simp only [assign, relist, touch, ↓reduceIte] at named
        rw [own g' named]
        exact known
      · simp only [assign, relist, touch, ↓reduceIte] at named
        exact agree.known u member g' named

/-- Where both sides agreed, they agree with a new list of one group exactly when the group
is not live or the list has the same members. -/
theorem agree_relist_iff (agree : r.Agree) (known : r.known g) :
    (r.relist g new).Agree ↔ (r.live g → ∀ u, r.member u → (r.lists g u ↔ new u)) := by
  have nobody : r.assign (fun _ => False) none = r := assign_nobody fun _ => id
  have exact :
      ((r.assign (fun _ => False) none).relist g new).Agree ↔ _ :=
    agree_assign_relist_iff agree known fun _ given => by cases given
  rw [nobody] at exact
  rw [exact]
  simp

/-- Where both sides agreed, they agree after a group is dropped exactly when no touched
member is listed by another live group, and every member that names the group is touched. -/
theorem agree_assign_drop_iff (agree : r.Agree) :
    ((r.assign touched none).drop g).Agree ↔
      (∀ u, r.member u → touched u → r.Only g u) ∧
        ∀ u, r.member u → r.group u = some g → touched u := by
  constructor
  · intro after
    refine ⟨fun u member touch g' live differ lists => ?_, fun u member named => ?_⟩
    · have names := after.names u member g' ⟨differ, live⟩
      simp only [assign, drop, touch, ↓reduceIte] at names
      cases names.mpr ⟨differ, lists⟩
    · by_contra untouched
      have known := after.known u member g
      simp only [assign, drop, untouched, ↓reduceIte] at known
      exact (known named).1 rfl
  · intro exact
    rcases exact with ⟨only, all⟩
    constructor
    · intro u member g' kept
      rcases kept with ⟨differ, live⟩
      by_cases touch : touched u
      · simp only [assign, drop, touch, ↓reduceIte]
        constructor
        · intro given
          cases given
        · intro lists
          exact absurd lists.2 (only u member touch g' live differ)
      · simp only [assign, drop, touch, ↓reduceIte]
        rw [and_iff_right differ]
        exact agree.names u member g' live
    · intro u member g' named
      by_cases touch : touched u
      · simp only [assign, drop, touch, ↓reduceIte] at named
        cases named
      · simp only [assign, drop, touch, ↓reduceIte] at named
        refine ⟨fun same => touch (all u member (same ▸ named)), ?_⟩
        exact agree.known u member g' named

end Roster

end Rosters
