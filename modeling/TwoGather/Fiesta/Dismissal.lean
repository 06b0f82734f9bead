import TwoGather.Fiesta.Visibility
import TwoGather.Lib.Runs

/-!
# Dismissed fiestas

A swipe to the left notes the fiesta in the field `dismissed-fiesta` of the user. The list
of fiestas looks into `fiestaDismissed`, which nothing writes, so the note has no effect:
the fiesta is left out of a later list exactly when something else keeps it out
(`dismissed_stays_away_iff`). The nightly `clearDismissed` is not to blame, as it empties
the list of dismissed friends only (`clearDismissed_keeps`).
-/

namespace TwoGather

open Docs Requests

/-! ## `FiestaController.dismissFiesta` -/

def User.dismissFiesta (u : User) (fiestaId : FiestaId) : User :=
  { u with dismissedFiesta := u.dismissedFiesta.union fiestaId }

def FiestaController.dismissFiesta (userId : UserId) (fiestaId : FiestaId) : Firestore Unit :=
  updateUser userId (·.dismissFiesta fiestaId)

/-! ## `clear_dismissed.ts` -/

def User.clearDismissed (u : User) : User :=
  { u with friendsDismissed := .value [] }

/-- `data.email` holds: it is there and not empty. -/
def User.hasEmail (u : User) : Prop :=
  ∃ email ∈ u.email.get?, email ≠ ""

instance (u : User) : Decidable u.hasEmail :=
  inferInstanceAs (Decidable (∃ email ∈ u.email.get?, _))

def clearDismissed : Firestore Unit :=
  tryCatch
    (do
      let users ← Program.read fun s : Store => s.users.docs
      Program.forEach users fun user =>
        if user.2.hasEmail then updateUser user.1 (·.clearDismissed) else pure ())
    fun _ => pure ()

/-- Two databases that differ in the dismissed friends at most. -/
structure Store.SameButDismissed (s t : Store) : Prop where
  users : ∀ u, (t.user u).map (·.clearDismissed) = (s.user u).map (·.clearDismissed)
  rest : t = { s with users := t.users }

section Clear

theorem Store.SameButDismissed.refl (s : Store) : s.SameButDismissed s := ⟨fun _ => rfl, rfl⟩

theorem Store.SameButDismissed.trans {s t r : Store} (first : s.SameButDismissed t)
    (second : t.SameButDismissed r) : s.SameButDismissed r := by
  refine ⟨fun u => (second.users u).trans (first.users u), ?_⟩
  rw [second.rest, first.rest]

theorem sameButDismissed_updateUser (s : Store) (u : UserId) :
    s.SameButDismissed (s.updateUser u (·.clearDismissed)) := by
  refine ⟨fun v => ?_, rfl⟩
  rw [Store.user_updateUser]
  split
  · rw [Option.map_map]
    rfl
  · rfl

/-- The job changes nothing else. -/
theorem clearDismissed_keeps (s : Store) : s.SameButDismissed (clearDismissed.exec s).2 := by
  have makes : clearDismissed.Makes fun act => ∀ t : Store, t.SameButDismissed (act t) := by
    apply Program.Makes.tryCatch _ fun _ => .pure ()
    apply Program.Makes.bind (.read .refl _)
    intro users
    apply Program.Makes.forEach
    intro user _
    split
    case isTrue =>
      apply Program.Makes.step fun t => sameButDismissed_updateUser t user.1
      intro t
      split
      · exact .pure ()
      · exact .throw _
    case isFalse => exact .pure ()
  exact (makes.keeps fun _ same => same).exec .refl .trans s

/-- So what a user has dismissed stays noted. -/
theorem clearDismissed_dismissed {s : Store} {u : UserId} {data : User}
    (found : s.user u = some data) :
    ∃ after, (clearDismissed.exec s).2.user u = some after ∧
      after.dismissedFiesta = data.dismissedFiesta := by
  have same := (clearDismissed_keeps s).users u
  rw [found, Option.map_some, Option.map_eq_some_iff] at same
  obtain ⟨after, foundAfter, cleared⟩ := same
  have field : after.clearDismissed.dismissedFiesta = data.clearDismissed.dismissedFiesta := by
    rw [cleared]
  exact ⟨after, foundAfter, field⟩

end Clear

/-! ## Later lists -/

/-- What happens after the dismissal: any operation, or a list for the user. -/
inductive LaterAct
  | operation (p : Firestore Unit)
  | list (metadata : Option CardMetadata)

namespace LaterAct

variable (distance : GeoPoint → GeoPoint → Rat) (u : UserId)

/-- The store after it. -/
def step (s : Store) : LaterAct → Store
  | .operation p => (p.exec s).2
  | .list metadata => ((FiestaService.getFiestaList distance (some u) metadata).exec s).2

/-- The fiesta is not in the list, if it is one. -/
def LeavesOut (f : FiestaId) (s : Store) : LaterAct → Prop
  | .operation _ => True
  | .list metadata => ∀ fiesta, ¬ s.returns distance u metadata (f, fiesta)

/-- Something else keeps the fiesta out of the list: there is none, or the fiesta is not open to
the user, or it has an entry whose second person hides it. -/
def KeptOut (u : UserId) (f : FiestaId) (s : Store) : LaterAct → Prop
  | .operation _ => True
  | .list metadata =>
      metadata.bind CardMetadata.location ≠ some .map →
        ∀ data ∈ s.user u, ∀ fiesta ∈ s.fiesta f,
          s.OpenTo u data f fiesta → fiesta.DuoHides u data

end LaterAct

section Runs

variable {distance : GeoPoint → GeoPoint → Rat} {u : UserId} {f : FiestaId} {s : Store}

theorem LaterAct.leavesOut_iff {act : LaterAct} :
    act.LeavesOut distance u f s ↔ act.KeptOut u f s := by
  cases act with
  | operation p => exact .rfl
  | list metadata =>
      simp only [LaterAct.LeavesOut, LaterAct.KeptOut, returns_iff, shows_iff]
      constructor
      · intro never readable data user fiesta found isOpen
        by_contra shown
        exact never fiesta ⟨readable, data, user, found, isOpen, shown⟩
      · intro kept fiesta listed
        obtain ⟨readable, data, user, found, isOpen, shown⟩ := listed
        exact shown (kept readable data user fiesta found isOpen)

/-- **After a dismissal the fiesta is in no later list exactly when something else keeps it out
of each of them.** -/
theorem dismissed_stays_away_iff (distance : GeoPoint → GeoPoint → Rat) (s : Store) (u : UserId)
    (f : FiestaId) (acts : List LaterAct) :
    let dismissed := ((FiestaController.dismissFiesta u f).exec s).2
    Along (LaterAct.step distance u) (fun t act => act.LeavesOut distance u f t) dismissed acts ↔
      Along (LaterAct.step distance u) (fun t act => act.KeptOut u f t) dismissed acts := by
  intro dismissed
  constructor
  · exact fun along => along.mono fun _ _ => LaterAct.leavesOut_iff.mp
  · exact fun along => along.mono fun _ _ => LaterAct.leavesOut_iff.mpr

end Runs

/-! ## A fiesta that comes back -/

/-- A host with a fiesta that is not over, and a friend. -/
def openFiesta : Store :=
  { Store.ofUsers ⟨[("h", { friends := .value [⟨.fiestar, "v"⟩] }),
      ("v", { profilImages := .value [] })], by decide⟩ with
    fiestas := ⟨[("f",
      { title := .value "f"
        host := { id := "h" }
        hostRef := "h"
        endAt := { micros := 1, early := by omega, late := by omega }
        isEnd := .value false
        visibleAfter := .undefined
        participants := [] })], by decide⟩ }

/-- The friend dismisses the fiesta, and finds it in the next list. -/
theorem dismissed_comesBack :
    let dismissed := ((FiestaController.dismissFiesta "v" "f").exec openFiesta).2
    (∃ data ∈ dismissed.user "v", "f" ∈ data.dismissedFiesta.elems) ∧
      ¬ Along (LaterAct.step (fun _ _ => 0) "v")
        (fun t act => act.LeavesOut (fun _ _ => 0) "v" "f" t) dismissed [.list none] := by
  refine ⟨by decide, fun along => ?_⟩
  have kept := LaterAct.leavesOut_iff.mp along.1 (by decide)
  exact absurd (kept _ rfl _ rfl (by decide)) (by decide)

end TwoGather
