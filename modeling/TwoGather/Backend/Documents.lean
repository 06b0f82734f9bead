import TwoGather.Backend.Writers

/-!
# How a document comes to be what it is

When a document fulfils a condition after a schedule and did not before, some request of a call
in the schedule turned it: it wrote to the document, or created it. `user_cause`, `fiesta_cause`
and `notification_cause` give that request, with the calls that may have made it.
-/

namespace TwoGather

open Docs Requests

/-! ## One request -/

section Turns

variable {c : Call} {e : Effect} {s t : Store} {u : UserId} {f : FiestaId}

/-- Some write of the call makes a document of the user fulfil the condition. -/
def Call.TurnsUser (c : Call) (u : UserId) (Q : User → Prop) : Prop :=
  ∃ w : UserWrite, w.By u c ∧ ∃ data, ¬ Q data ∧ Q (w.write data)

/-- The same for a fiesta. -/
def Call.TurnsFiesta (c : Call) (f : FiestaId) (Q : Fiesta → Prop) : Prop :=
  ∃ w : FiestaWrite, w.By f c ∧ ∃ data, ¬ Q data ∧ Q (w.write data)

/-- The call creates such a fiesta. -/
def Call.CreatesFiesta (c : Call) (f : FiestaId) (Q : Fiesta → Prop) : Prop :=
  ∃ uid form, c = .app (.createNewFiesta uid f form) ∧ Q form.fiesta

/-- The same for a notification. -/
def Call.TurnsNotification (c : Call) (u : UserId) (k : Nat) (Q : Notification → Prop) : Prop :=
  ∃ m : Mark, (Effect.mark u k m).By c ∧ ∃ n, ¬ Q n ∧ Q (m.write n)

/-- The call sends such a notification. -/
def Call.Notifies (c : Call) (u : UserId) (Q : Notification → Prop) : Prop :=
  ∃ n : Notification, n.IsNew ∧ c.Tells u n.news ∧ Q n

/-- An update turns the document that it reaches. -/
theorem turned_by_update {Q : User → Prop} {v : UserId} {w : UserWrite} {data : User}
    (writes : w.By v c) (before : ∀ data, s.user u = some data → ¬ Q data)
    (found : (s.updateUser v w.write).user u = some data) (holds : Q data) : c.TurnsUser u Q := by
  rw [Store.user_updateUser] at found
  split at found
  case isTrue same =>
    rcases Option.map_eq_some_iff.mp found with ⟨old, was, rfl⟩
    subst same
    exact ⟨w, writes, old, before old was, holds⟩
  case isFalse => exact absurd holds (before data found)

theorem turnsUser_of_does {Q : User → Prop} {data : User} (writes : e.By c) (does : e.Does s t)
    (before : ∀ data, s.user u = some data → ¬ Q data) (found : t.user u = some data)
    (holds : Q data) : c.TurnsUser u Q ∨ c = .app (.signUp u) ∧ Q newUser := by
  rcases e.users_of_does does with
    same | ⟨v, w, rfl, rfl⟩ | ⟨v, w, rfl, rfl⟩ | ⟨v, new, rfl, rfl⟩ | ⟨v, rfl, rfl⟩
  · rw [Store.user_of_users same] at found
    exact absurd holds (before data found)
  · exact .inl (turned_by_update writes before found holds)
  · have first : (UserWrite.accept w).By v c := writes v w (.inl ⟨rfl, rfl⟩)
    have second : (UserWrite.accept v).By w c := writes w v (.inr ⟨rfl, rfl⟩)
    by_cases between : ∀ data, (s.updateUser v (·.accept w)).user u = some data → ¬ Q data
    · exact .inl (turned_by_update second between found holds)
    · push Not at between
      rcases between with ⟨half, there, already⟩
      exact .inl (turned_by_update first before there already)
  · rcases writes with ⟨rfl, call⟩
    have created : (if u = v then some newUser else s.user u) = some data :=
      (Collection.get?_set s.users v u newUser).symm.trans found
    split at created
    case isTrue same =>
      cases created
      subst same
      exact .inr ⟨call, holds⟩
    case isFalse => exact absurd holds (before data created)
  · have left : (if u = v then none else s.user u) = some data :=
      (Collection.get?_delete s.users v u).symm.trans found
    split at left
    case isTrue => cases left
    case isFalse => exact absurd holds (before data left)

theorem turnsFiesta_of_does {Q : Fiesta → Prop} {data : Fiesta} (writes : e.By c)
    (does : e.Does s t) (before : ∀ data, s.fiesta f = some data → ¬ Q data)
    (found : t.fiesta f = some data) (holds : Q data) :
    c.TurnsFiesta f Q ∨ c.CreatesFiesta f Q := by
  rcases e.fiestas_of_does does with
    same | ⟨g, new, rfl, rfl⟩ | ⟨g, w, rfl, rfl⟩ | ⟨g, rfl, rfl⟩
  · rw [Store.fiesta_of_fiestas same] at found
    exact absurd holds (before data found)
  · rw [Store.fiesta_createFiesta] at found
    split at found
    case isTrue same =>
      subst same
      rcases writes with ⟨uid, form, rfl, call⟩
      cases there : s.fiesta f with
      | some old =>
          rw [there] at found
          cases found
          exact absurd holds (before old there)
      | none =>
          rw [there] at found
          cases found
          exact .inr ⟨uid, form, call, holds⟩
    case isFalse => exact absurd holds (before data found)
  · rw [Store.fiesta_updateFiesta] at found
    split at found
    case isTrue same =>
      rcases Option.map_eq_some_iff.mp found with ⟨old, was, rfl⟩
      subst same
      exact .inl ⟨w, writes, old, before old was, holds⟩
    case isFalse => exact absurd holds (before data found)
  · rw [Store.fiesta_deleteFiesta] at found
    split at found
    case isTrue => cases found
    case isFalse => exact absurd holds (before data found)

theorem turnsNotification_of_does {Q : Notification → Prop} {k : Nat} {n : Notification}
    (writes : e.By c) (does : e.Does s t)
    (before : ∀ n, (s.notifications u).get? k = some n → ¬ Q n)
    (found : (t.notifications u).get? k = some n) (holds : Q n) :
    c.TurnsNotification u k Q ∨ c.Notifies u Q := by
  rcases e.notifications_of_does does with same | ⟨v, new, rfl, rfl⟩ | ⟨v, j, m, rfl, rfl⟩
  · rw [same] at found
    exact absurd holds (before n found)
  · rw [Store.notifications_addNotification] at found
    split at found
    case isTrue same =>
      subst same
      rw [AutoCollection.get?_add] at found
      split at found
      case isTrue =>
        cases found
        exact .inr ⟨n, writes.1, writes.2, holds⟩
      case isFalse => exact absurd holds (before n found)
    case isFalse => exact absurd holds (before n found)
  · rw [notifications_updateNotification] at found
    split at found
    case isTrue same =>
      subst same
      rw [AutoCollection.get?_update] at found
      split at found
      case isTrue here =>
        subst here
        rcases Option.map_eq_some_iff.mp found with ⟨old, was, rfl⟩
        exact .inl ⟨m, writes, old, before old was, holds⟩
      case isFalse => exact absurd holds (before n found)
    case isFalse => exact absurd holds (before n found)

end Turns

/-! ## The cause -/

section Causes

variable {ι : Type} [DecidableEq ι] {s : Store} {calls : ι → Call} {schedule : List ι}

/-- The store after the schedule. -/
abbrev Store.after (s : Store) (calls : ι → Call) (schedule : List ι) : Store :=
  ((s.serve calls).play schedule).store

theorem user_cause {Q : User → Prop} {u : UserId} {data : User}
    (before : ∀ data, s.user u = some data → ¬ Q data)
    (found : (s.after calls schedule).user u = some data) (holds : Q data) :
    ∃ i ∈ schedule, (calls i).TurnsUser u Q ∨ calls i = .app (.signUp u) ∧ Q newUser := by
  have idle (s t : Store) (still : s.Idle t) : t.user u = s.user u :=
    Store.user_of_users still.sameShown.users u
  rcases doc_cause (·.user u) idle before found holds with
    ⟨i, listed, e, s', t', may, does, was, data, now, holds⟩
  exact ⟨i, listed, turnsUser_of_does (by_of_may may) does was now holds⟩

theorem fiesta_cause {Q : Fiesta → Prop} {f : FiestaId} {data : Fiesta}
    (before : ∀ data, s.fiesta f = some data → ¬ Q data)
    (found : (s.after calls schedule).fiesta f = some data) (holds : Q data) :
    ∃ i ∈ schedule, (calls i).TurnsFiesta f Q ∨ (calls i).CreatesFiesta f Q := by
  have idle (s t : Store) (still : s.Idle t) : t.fiesta f = s.fiesta f :=
    Store.fiesta_of_fiestas still.sameShown.fiestas f
  rcases doc_cause (·.fiesta f) idle before found holds with
    ⟨i, listed, e, s', t', may, does, was, data, now, holds⟩
  exact ⟨i, listed, turnsFiesta_of_does (by_of_may may) does was now holds⟩

theorem notification_cause {Q : Notification → Prop} {u : UserId} {k : Nat} {n : Notification}
    (before : ∀ n, (s.notifications u).get? k = some n → ¬ Q n)
    (found : ((s.after calls schedule).notifications u).get? k = some n) (holds : Q n) :
    ∃ i ∈ schedule, (calls i).TurnsNotification u k Q ∨ (calls i).Notifies u Q := by
  have idle (s t : Store) (still : s.Idle t) :
      (t.notifications u).get? k = (s.notifications u).get? k := by
    rw [still.sameShown.notifications]
  rcases doc_cause (fun s => (s.notifications u).get? k) idle before found holds with
    ⟨i, listed, e, s', t', may, does, was, n, now, holds⟩
  exact ⟨i, listed, turnsNotification_of_does (by_of_may may) does was now holds⟩

end Causes

end TwoGather
