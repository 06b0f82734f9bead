import TwoGather.Lib.Runs
import TwoGather.Session.Providers

/-!
# One user after another

The function that logs a user out clears the three providers, and signs out some time later.
What was started before is not called off: a list that is computed for the one who has left may
arrive in the providers of the next one, and a second `init` loses the subscriptions of the
first, so that `clear` does not cancel them.

So the data of those who have left stays out exactly when none of it arrives late
(`sessions_apart_iff`). Subscriptions that deliver late come from two calls of `init` without a
`clear` between them, or from one made for somebody who has left: without such calls only the
results of loading steps can be late (`orderly_apart_iff`).
-/

namespace TwoGather

open Docs Requests

/-! ## The session -/

/-- The providers, the loading steps that wait for their results, and who is signed in.
`departed` has those who have logged out and not signed in again. -/
structure Session where
  currentUser : Option UserId := none
  departed : List UserId := []
  userSwipe : UserSwipeProvider := {}
  fiestaSwipe : FiestaSwipeProvider := {}
  userFiesta : UserFiestaProvider := {}
  userLists : List UserId := []
  fiestaLists : List (Option UserId) := []

/-- What happens in the app. The results of the `i`-th loading step that waits, a snapshot or an
error of the `k`-th subscription may come at any time. -/
inductive SessionEvent
  | signIn (u : UserId)
  | signOut
  | logout
  | getUsersList
  | usersResult (i : Nat) (result : Option (List String))
  | getFiestaList
  | fiestasResult (i : Nat) (result : Option (List String))
  | init (userId : UserId)
  | snapshot (k : Nat) (docs : List String)
  | streamError (k : Nat)
  | nextCard (id : String)
  | showPreviousCard
  | nextImage
  | previousImage
  | clearUsers
  | initializeEmpty
  | nextFiesta (id : String)
  | showPreviousFiesta
  | nextFiestaImage
  | previousFiestaImage
  | clearFiestas

namespace Session

/-- The part of `logoutFunction` before its first await. -/
def clear (s : Session) : Session :=
  { s with
    departed := s.currentUser.toList ++ s.departed
    userSwipe := s.userSwipe.clear
    fiestaSwipe := s.fiestaSwipe.clear
    userFiesta := s.userFiesta.clear }

def getUsersList (s : Session) : Session :=
  { s with
    userSwipe := (s.userSwipe.getUsersList s.currentUser).1
    userLists := s.userLists ++ (s.userSwipe.getUsersList s.currentUser).2.toList }

def onUserDeck (s : Session) (f : SwipeDeck → SwipeDeck) : Session :=
  { s with userSwipe := { s.userSwipe with deck := f s.userSwipe.deck } }

def onFiestaDeck (s : Session) (f : SwipeDeck → SwipeDeck) : Session :=
  { s with fiestaSwipe := { s.fiestaSwipe with deck := f s.fiestaSwipe.deck } }

def step (s : Session) : SessionEvent → Session
  | .signIn u => { s with currentUser := some u, departed := s.departed.filter (· ≠ u) }
  | .signOut => { s with currentUser := none }
  | .logout => s.clear
  | .getUsersList => s.getUsersList
  | .usersResult i result =>
      match s.userLists[i]? with
      | none => s
      | some u =>
          { s with userSwipe := s.userSwipe.goOn u result, userLists := s.userLists.eraseIdx i }
  | .getFiestaList =>
      { s with
        fiestaSwipe := s.fiestaSwipe.getFiestaList
        fiestaLists := s.fiestaLists ++ [s.currentUser] }
  | .fiestasResult i result =>
      match s.fiestaLists[i]? with
      | none => s
      | some o =>
          { s with
            fiestaSwipe := s.fiestaSwipe.goOn o result
            fiestaLists := s.fiestaLists.eraseIdx i }
  | .init userId => { s with userFiesta := s.userFiesta.init userId }
  | .snapshot k docs => { s with userFiesta := s.userFiesta.deliver k docs }
  | .streamError k => { s with userFiesta := s.userFiesta.onError k }
  | .nextCard id => s.onUserDeck (·.next id)
  | .showPreviousCard => s.onUserDeck (·.showPreviousCard)
  | .nextImage => s.onUserDeck (·.nextImage)
  | .previousImage => s.onUserDeck (·.previousImage)
  | .clearUsers => { s with userSwipe := s.userSwipe.clear }
  | .initializeEmpty =>
      { s with
        userSwipe := s.userSwipe.initializeEmpty
        fiestaSwipe := s.fiestaSwipe.initializeEmpty }
  | .nextFiesta id => s.onFiestaDeck (·.next id)
  | .showPreviousFiesta => s.onFiestaDeck (·.showPreviousCard)
  | .nextFiestaImage => s.onFiestaDeck (·.nextImage)
  | .previousFiestaImage => s.onFiestaDeck (·.previousImage)
  | .clearFiestas => { s with fiestaSwipe := s.fiestaSwipe.clear }

/-- One of the providers holds something of the user. -/
def Holds (s : Session) (u : UserId) : Prop :=
  s.userSwipe.deck.Holds u ∨ s.fiestaSwipe.deck.Holds u ∨ s.userFiesta.Holds u

instance (s : Session) (u : UserId) : Decidable (s.Holds u) :=
  inferInstanceAs (Decidable (_ ∨ _ ∨ _))

/-- Nothing is held of those who have left. -/
def KeepsApart (s : Session) : Prop :=
  ∀ u ∈ s.departed, ¬ s.Holds u

instance (s : Session) : Decidable s.KeepsApart :=
  inferInstanceAs (Decidable (∀ u ∈ s.departed, _))

/-- The user for whom data arrives: the result of a loading step with something in it, or a snapshot
of a subscription that is not cancelled. -/
def arrivalFor (s : Session) : SessionEvent → Option UserId
  | .usersResult i result => if result.getD [] = [] then none else s.userLists[i]?
  | .fiestasResult i result => if result.getD [] = [] then none else s.fiestaLists[i]?.join
  | .snapshot k _ => (s.userFiesta.live? k).map (·.owner)
  | _ => none

/-- The data that arrives is of nobody who has left. -/
def InTime (s : Session) (e : SessionEvent) : Prop :=
  ∀ u ∈ s.arrivalFor e, u ∉ s.departed

instance (s : Session) (e : SessionEvent) : Decidable (s.InTime e) :=
  inferInstanceAs (Decidable (∀ u ∈ s.arrivalFor e, _))

end Session

/-! ## One event -/

section Step

variable {s : Session} {u : UserId} {e : SessionEvent}

theorem Session.clear_holds : ¬ s.clear.Holds u := by
  intro holds
  rcases holds with users | fiestas | lists
  · exact UserSwipeProvider.clear_holds users
  · exact FiestaSwipeProvider.clear_holds s.fiestaSwipe fiestas
  · exact UserFiestaProvider.clear_holds lists

/-- The result of a loading step for cards. -/
theorem FiestaSwipeProvider.goOn_holds {p : FiestaSwipeProvider} {o : Option UserId}
    {result : Option (List String)} (holds : (p.goOn o result).deck.Holds u) :
    p.deck.Holds u ∨ result.getD [] ≠ [] ∧ o = some u := by
  cases o with
  | none => exact .inl (holds.of_subset (by simp [goOn]))
  | some uid =>
      have loaded : (p.deck.load uid result).Holds u := holds
      exact (SwipeDeck.load_holds loaded).imp_right fun both => ⟨both.1, congrArg some both.2⟩

/-- A change of one deck, which brings nothing. -/
theorem Session.onUserDeck_holds {f : SwipeDeck → SwipeDeck} (deck : ∀ d, (f d).Holds u → d.Holds u)
    (holds : (s.onUserDeck f).Holds u) : s.Holds u :=
  holds.imp_left (deck s.userSwipe.deck)

theorem Session.onFiestaDeck_holds {f : SwipeDeck → SwipeDeck}
    (deck : ∀ d, (f d).Holds u → d.Holds u) (holds : (s.onFiestaDeck f).Holds u) : s.Holds u :=
  holds.imp_right fun rest => rest.imp_left (deck s.fiestaSwipe.deck)

/-- The result of a loading step for users. -/
theorem Session.usersResult_holds {i : Nat} {result : Option (List String)}
    (holds : (s.step (.usersResult i result)).Holds u) :
    s.Holds u ∨ s.arrivalFor (.usersResult i result) = some u := by
  simp only [step, arrivalFor] at holds ⊢
  cases waits : s.userLists[i]? with
  | none =>
      rw [waits] at holds
      exact .inl holds
  | some owner =>
      rw [waits] at holds
      rcases holds with users | rest
      · have loaded : (s.userSwipe.deck.load owner result).Holds u := users
        rcases SwipeDeck.load_holds loaded with held | ⟨cards, rfl⟩
        · exact .inl (.inl held)
        · exact .inr (if_neg cards)
      · exact .inl (.inr rest)

/-- The result of a loading step for fiestas. -/
theorem Session.fiestasResult_holds {i : Nat} {result : Option (List String)}
    (holds : (s.step (.fiestasResult i result)).Holds u) :
    s.Holds u ∨ s.arrivalFor (.fiestasResult i result) = some u := by
  simp only [step, arrivalFor] at holds ⊢
  cases waits : s.fiestaLists[i]? with
  | none =>
      rw [waits] at holds
      exact .inl holds
  | some o =>
      rw [waits] at holds
      rcases holds with users | fiestas | lists
      · exact .inl (.inl users)
      · rcases FiestaSwipeProvider.goOn_holds fiestas with held | ⟨cards, rfl⟩
        · exact .inl (.inr (.inl held))
        · exact .inr (if_neg cards)
      · exact .inl (.inr (.inr lists))

theorem Session.snapshot_holds {k : Nat} {docs : List String}
    (holds : (s.step (.snapshot k docs)).Holds u) :
    s.Holds u ∨ s.arrivalFor (.snapshot k docs) = some u := by
  simp only [step, arrivalFor, UserFiestaProvider.deliver] at holds ⊢
  cases live : s.userFiesta.live? k with
  | none =>
      rw [live] at holds
      exact .inl holds
  | some sub =>
      rw [live] at holds
      rcases holds with users | fiestas | lists
      · exact .inl (.inl users)
      · exact .inl (.inr (.inl fiestas))
      · exact (UserFiestaProvider.assign_holds lists).imp_left fun held => .inr (.inr held)

/-- An error of a stream brings nothing. -/
theorem Session.streamError_holds {k : Nat} (holds : (s.step (.streamError k)).Holds u) :
    s.Holds u := by
  simp only [step, UserFiestaProvider.onError] at holds
  split at holds
  case h_1 sub live =>
    rcases holds with users | fiestas | lists
    · exact .inl users
    · exact .inr (.inl fiestas)
    · exact (UserFiestaProvider.assign_holds lists).elim (fun held => .inr (.inr held))
        fun source => nomatch source
  case h_2 => exact holds

/-- The only way into the providers is an arrival. -/
theorem Session.step_holds (holds : (s.step e).Holds u) :
    s.Holds u ∨ s.arrivalFor e = some u := by
  cases e with
  | signIn v => exact .inl holds
  | signOut => exact .inl holds
  | logout => exact absurd holds clear_holds
  | getUsersList => exact .inl (holds.imp_left UserSwipeProvider.getUsersList_holds)
  | usersResult i result => exact usersResult_holds holds
  | getFiestaList =>
      rcases holds with users | fiestas | lists
      · exact .inl (.inl users)
      · exact .inl (.inr (.inl (SwipeDeck.holds_of_same rfl rfl fiestas)))
      · exact .inl (.inr (.inr lists))
  | fiestasResult i result => exact fiestasResult_holds holds
  | init userId => exact .inl holds
  | snapshot k docs => exact snapshot_holds holds
  | streamError k => exact .inl (streamError_holds holds)
  | nextCard id => exact .inl (onUserDeck_holds (fun _ => SwipeDeck.next_holds id) holds)
  | showPreviousCard =>
      exact .inl (onUserDeck_holds (fun _ => SwipeDeck.showPreviousCard_holds) holds)
  | nextImage => exact .inl (onUserDeck_holds (fun _ => SwipeDeck.holds_of_same rfl rfl) holds)
  | previousImage => exact .inl (onUserDeck_holds (fun _ => SwipeDeck.holds_of_same rfl rfl) holds)
  | clearUsers =>
      exact .inl (holds.imp_left fun users => absurd users UserSwipeProvider.clear_holds)
  | initializeEmpty =>
      rcases holds with ⟨_, listed, _⟩ | ⟨_, listed, _⟩ | lists
      · cases listed
      · cases listed
      · exact .inl (.inr (.inr lists))
  | nextFiesta id => exact .inl (onFiestaDeck_holds (fun _ => SwipeDeck.next_holds id) holds)
  | showPreviousFiesta =>
      exact .inl (onFiestaDeck_holds (fun _ => SwipeDeck.showPreviousCard_holds) holds)
  | nextFiestaImage =>
      exact .inl (onFiestaDeck_holds (fun _ => SwipeDeck.holds_of_same rfl rfl) holds)
  | previousFiestaImage =>
      exact .inl (onFiestaDeck_holds (fun _ => SwipeDeck.holds_of_same rfl rfl) holds)
  | clearFiestas =>
      exact .inl (holds.imp_right fun rest =>
        rest.imp_left fun fiestas => absurd fiestas (FiestaSwipeProvider.clear_holds s.fiestaSwipe))

/-- What arrives is there. -/
theorem Session.arrival_holds (arrival : s.arrivalFor e = some u) : (s.step e).Holds u := by
  cases e with
  | usersResult i result =>
      simp only [arrivalFor] at arrival
      split at arrival
      case isTrue => cases arrival
      case isFalse cards =>
        simp only [step, arrival]
        exact .inl (SwipeDeck.load_brings cards)
  | fiestasResult i result =>
      simp only [arrivalFor] at arrival
      split at arrival
      case isTrue => cases arrival
      case isFalse cards =>
        rw [Option.join_eq_some_iff] at arrival
        simp only [step, arrival]
        exact .inr (.inl (SwipeDeck.load_brings cards))
  | snapshot k docs =>
      obtain ⟨sub, live, owner⟩ := Option.map_eq_some_iff.mp arrival
      simp only [step, UserFiestaProvider.deliver, live]
      exact .inr (.inr (UserFiestaProvider.assign_brings (congrArg some owner)))
  | _ => cases arrival

/-- Only a `logout` lets somebody leave, and it leaves nothing behind. -/
theorem Session.step_departed (left : u ∈ (s.step e).departed) :
    u ∈ s.departed ∨ ¬ (s.step e).Holds u := by
  cases e with
  | signIn v => exact .inl (List.mem_of_mem_filter left)
  | logout => exact .inr clear_holds
  | usersResult i result =>
      simp only [step] at left
      split at left
      · exact .inl left
      · exact .inl left
  | fiestasResult i result =>
      simp only [step] at left
      split at left
      · exact .inl left
      · exact .inl left
  | _ => exact .inl left

/-- Nobody comes back through an arrival. -/
theorem Session.arrival_departed (arrival : s.arrivalFor e = some u) :
    (s.step e).departed = s.departed := by
  cases e with
  | usersResult i result =>
      simp only [step]
      split
      · rfl
      · rfl
  | fiestasResult i result =>
      simp only [step]
      split
      · rfl
      · rfl
  | snapshot k docs => rfl
  | _ => cases arrival

theorem Session.step_keepsApart_iff (apart : s.KeepsApart) :
    (s.step e).KeepsApart ↔ s.InTime e := by
  constructor
  · intro after v arrival left
    have still : v ∈ (s.step e).departed := by rwa [arrival_departed arrival]
    exact after v still (arrival_holds arrival)
  · intro inTime v left holds
    rcases step_departed left with before | empty
    · rcases step_holds holds with held | arrival
      · exact apart v before held
      · exact inTime v arrival before
    · exact empty holds

/-- **Nothing of those who have left is in the providers, at any time after the app has started,
exactly when nothing of theirs arrives late.** -/
theorem sessions_apart_iff (events : List SessionEvent) :
    (∀ t, Reached Session.step {} events t → t.KeepsApart) ↔
      Along Session.step (fun t e => t.InTime e) {} events :=
  all_reached_iff_along (P := Session.KeepsApart) (V := fun _ _ => True)
    (fun _ _ apart _ => Session.step_keepsApart_iff apart) (by decide) (.trivial _ events)

end Step

/-! ## A cleared provider is not listening, if `init` was called once -/

section Orderly

variable {s : Session} {e : SessionEvent} {k : Nat} {sub : FiestaSubscription}

/-- An `init` finds the subscriptions of its fields cancelled, and is for nobody who has left. -/
def Session.Orderly (s : Session) : SessionEvent → Prop
  | .init u =>
      (∀ k ∈ s.userFiesta.createdFiestaSubscription, s.userFiesta.live? k = none) ∧
        (∀ k ∈ s.userFiesta.streamSubscriptionParticipated, s.userFiesta.live? k = none) ∧
          u ∉ s.departed
  | _ => True

/-- Of the events only results are asked to be in time. -/
def Session.ResultsInTime (s : Session) (e : SessionEvent) : Prop :=
  (∃ k docs, e = .snapshot k docs) ∨ s.InTime e

/-- Who listens is in a field, for somebody who has not left. -/
def Session.Tracked (s : Session) : Prop :=
  ∀ k sub, s.userFiesta.live? k = some sub →
    (s.userFiesta.createdFiestaSubscription = some k ∨
      s.userFiesta.streamSubscriptionParticipated = some k) ∧ sub.owner ∉ s.departed

theorem live?_iff {p : UserFiestaProvider} :
    p.live? k = some sub ↔ p.subscriptions[k]? = some sub ∧ sub.live = true := by
  simp [UserFiestaProvider.live?, Option.filter_eq_some_iff]

/-- Who still listens after a cancellation did before, and is another one. -/
theorem live_of_cancel {subs : List FiestaSubscription} {o : Option Nat}
    (found : (UserFiestaProvider.cancel subs o)[k]? = some sub) (live : sub.live = true) :
    o ≠ some k ∧ subs[k]? = some sub := by
  cases o with
  | none => exact ⟨nofun, found⟩
  | some j =>
      rw [UserFiestaProvider.cancel, List.getElem?_modify] at found
      obtain ⟨was, there, cancelled⟩ := Option.map_eq_some_iff.mp found
      split at cancelled
      case isTrue =>
        rw [← cancelled] at live
        cases live
      case isFalse other =>
        rw [← cancelled]
        exact ⟨fun same => other (Option.some.inj same), there⟩

/-- After a `clear` nobody listens. -/
theorem Session.Tracked.clear (tracked : s.Tracked) : s.userFiesta.clear.live? k = none := by
  cases listens : s.userFiesta.clear.live? k with
  | none => rfl
  | some sub =>
      obtain ⟨found, live⟩ := live?_iff.mp listens
      obtain ⟨notParticipated, found⟩ := live_of_cancel found live
      obtain ⟨notCreated, found⟩ := live_of_cancel found live
      rcases (tracked k sub (live?_iff.mpr ⟨found, live⟩)).1 with created | participated
      · exact absurd created notCreated
      · exact absurd participated notParticipated

/-- The new ones are in the fields, and no other listens. -/
theorem Session.Tracked.init (tracked : s.Tracked) {u : UserId} (orderly : s.Orderly (.init u)) :
    (s.step (.init u)).Tracked := by
  obtain ⟨created, participated, stays⟩ := orderly
  intro k sub listens
  obtain ⟨found, live⟩ := live?_iff.mp listens
  rcases Nat.lt_or_ge k s.userFiesta.subscriptions.length with old | new
  · -- an older one would be in a field
    have before : s.userFiesta.live? k = some sub := by
      refine live?_iff.mpr ⟨?_, live⟩
      rwa [← List.getElem?_append_left old]
    rcases (tracked k sub before).1 with field | field
    · rw [created k field] at before
      cases before
    · rw [participated k field] at before
      cases before
  · obtain ⟨j, rfl⟩ := Nat.exists_eq_add_of_le new
    have there : (s.userFiesta.subscriptions ++
        [FiestaSubscription.mk u .created true, .mk u .participated true])[
          s.userFiesta.subscriptions.length + j]? = some sub := found
    rw [List.getElem?_append_right (Nat.le_add_right _ _), Nat.add_sub_cancel_left] at there
    match j, there with
    | 0, rfl => exact ⟨.inl rfl, stays⟩
    | 1, rfl => exact ⟨.inr rfl, stays⟩

/-- What changes neither the subscriptions nor their fields, and lets nobody leave. -/
theorem Session.Tracked.same {t : Session} (tracked : s.Tracked)
    (subscriptions : t.userFiesta.subscriptions = s.userFiesta.subscriptions)
    (created : t.userFiesta.createdFiestaSubscription = s.userFiesta.createdFiestaSubscription)
    (participated : t.userFiesta.streamSubscriptionParticipated =
      s.userFiesta.streamSubscriptionParticipated)
    (departed : t.departed ⊆ s.departed) : t.Tracked := by
  intro k sub listens
  have before : s.userFiesta.live? k = some sub := by
    rw [live?_iff] at listens ⊢
    rwa [← subscriptions]
  obtain ⟨field, stays⟩ := tracked k sub before
  rw [created, participated]
  exact ⟨field, fun left => stays (departed left)⟩

theorem Session.Tracked.assign (tracked : s.Tracked) (list : FiestaList)
    (collection : FiestaCollection) :
    Session.Tracked { s with userFiesta := s.userFiesta.assign list collection } := by
  cases collection with
  | created => exact tracked
  | participated => exact tracked

theorem Session.Tracked.step (tracked : s.Tracked) (orderly : s.Orderly e) :
    (s.step e).Tracked := by
  cases e with
  | init u => exact tracked.init orderly
  | logout =>
      intro k sub listens
      rw [show (s.step .logout).userFiesta.live? k = none from tracked.clear] at listens
      cases listens
  | signIn u => exact tracked.same rfl rfl rfl (List.filter_subset_self _)
  | usersResult i result =>
      simp only [Session.step]
      split
      · exact tracked
      · exact tracked
  | fiestasResult i result =>
      simp only [Session.step]
      split
      · exact tracked
      · exact tracked
  | snapshot k docs =>
      simp only [Session.step, UserFiestaProvider.deliver]
      split
      · exact tracked.assign _ _
      · exact tracked
  | streamError k =>
      simp only [Session.step, UserFiestaProvider.onError]
      split
      · exact tracked.assign _ _
      · exact tracked
  | _ => exact tracked

/-- Without a second `init`, and without one for somebody who has left, only the result of a loading
step can bring data late. -/
theorem orderly_apart_iff {events : List SessionEvent}
    (orderly : Along Session.step (fun t e => t.Orderly e) {} events) :
    (∀ t, Reached Session.step {} events t → t.KeepsApart ∧ t.Tracked) ↔
      Along Session.step (fun t e => t.ResultsInTime e) {} events := by
  have start : Session.KeepsApart {} ∧ Session.Tracked {} := by
    refine ⟨by decide, fun k sub listens => ?_⟩
    simp [UserFiestaProvider.live?] at listens
  refine all_reached_iff_along (P := fun t : Session => t.KeepsApart ∧ t.Tracked) ?_ start orderly
  intro t e both orderly
  obtain ⟨apart, tracked⟩ := both
  rw [and_iff_left (tracked.step orderly), Session.step_keepsApart_iff apart]
  constructor
  · exact .inr
  · intro results
    rcases results with ⟨k, docs, rfl⟩ | inTime
    · intro u arrival
      obtain ⟨sub, live, rfl⟩ := Option.map_eq_some_iff.mp arrival
      exact (tracked k sub live).2
    · exact inTime

end Orderly

/-! ## A late list, and a second `init` -/

/-- The list for `a` comes when `b` has signed in. -/
def lateList : List SessionEvent :=
  [.signIn "a", .getUsersList, .logout, .signOut, .signIn "b", .usersResult 0 (some ["c"])]

/-- `init` runs twice for `a`, and the first subscription goes on in the session of `b`. -/
def secondInit : List SessionEvent :=
  [.signIn "a", .init "a", .init "a", .logout, .signOut, .signIn "b", .snapshot 0 ["f"]]

theorem lateList_notApart :
    ¬ (∀ t, Reached Session.step {} lateList t → t.KeepsApart) ∧
      ¬ ∀ t, Reached Session.step {} secondInit t → t.KeepsApart := by
  constructor
  · exact fun all => absurd (all _ (.run _ _)) (by decide)
  · exact fun all => absurd (all _ (.run _ _)) (by decide)

/-- With one `init`, whatever reaches the cancelled subscriptions is dropped. -/
example : Along Session.step (fun t e => t.InTime e) {}
    [.signIn "a", .init "a", .getFiestaList, .fiestasResult 0 (some ["f"]), .logout, .signOut,
      .signIn "b", .snapshot 0 ["f"], .snapshot 1 ["f"], .init "b", .snapshot 2 ["g"]] := by
  decide

end TwoGather
