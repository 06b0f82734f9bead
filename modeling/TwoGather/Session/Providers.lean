import TwoGather.Documents

/-!
# The providers of a session

`user_swipe_provider.dart`, `fiesta_swipe_provider.dart` and `user_fiesta_provider.dart`: what
the app holds of the cards to swipe and of the user's own fiestas. The two swipe providers load a
list once; a loading step is cut at its one await, so that its result may arrive later. The
third one listens.

Every card carries the user for whom its list was computed, and every list of fiestas the user
for whom its subscription was opened. The app does not have this; nothing is decided by it.
-/

namespace TwoGather

open Docs

/-! ## Cards to swipe -/

/-- A card of a list that was computed for `owner`. -/
structure SwipeCard where
  owner : UserId
  id : String
  deriving DecidableEq

/-- The cards of a swipe provider, the one swiped last, and the image shown. -/
structure SwipeDeck where
  cards : Option (List SwipeCard) := none
  previous : Option SwipeCard := none
  actualImage : Int := 0
  deriving DecidableEq

namespace SwipeDeck

/-- `nextCard` and `nextFiesta`. Without such a card `firstWhere` throws. -/
def next (d : SwipeDeck) (id : String) : SwipeDeck :=
  match d.cards with
  | none => { d with previous := none, actualImage := 0 }
  | some cards =>
      match cards.find? (·.id = id) with
      | none => { d with actualImage := 0 }
      | some card =>
          { cards := some (cards.filter (·.id ≠ id)), previous := some card, actualImage := 0 }

def showPreviousCard (d : SwipeDeck) : SwipeDeck :=
  match d.previous with
  | none => d
  | some card => { cards := d.cards.map (card :: ·), previous := none, actualImage := 0 }

def nextImage (d : SwipeDeck) : SwipeDeck :=
  { d with actualImage := d.actualImage + 1 }

def previousImage (d : SwipeDeck) : SwipeDeck :=
  { d with actualImage := d.actualImage - 1 }

/-- What a loading step for `owner` puts in place of the cards; an error leaves none. -/
def load (d : SwipeDeck) (owner : UserId) : Option (List String) → SwipeDeck
  | some ids => { d with cards := some (ids.map fun id => { owner, id }) }
  | none => { d with cards := some [] }

end SwipeDeck

/-- `users`, `previousUsers` and `actualImage`. -/
structure UserSwipeProvider where
  deck : SwipeDeck := {}
  deriving DecidableEq

namespace UserSwipeProvider

/-- `getUsersList` up to its await, and the user for whom it goes on. The user is compared with
the one that signed in a second time before the call, with nothing in between. -/
def getUsersList (p : UserSwipeProvider) (currentUser : Option UserId) :
    UserSwipeProvider × Option UserId :=
  match currentUser with
  | none => ({ deck := { p.deck with cards := some [], actualImage := 0 } }, none)
  | some initialUserId =>
      if currentUser ≠ some initialUserId then
        ({ deck := { p.deck with cards := some [], actualImage := 0 } }, none)
      else ({ deck := { p.deck with actualImage := 0 } }, some initialUserId)

/-- `getUsersList` after its await. -/
def goOn (p : UserSwipeProvider) (initialUserId : UserId) (result : Option (List String)) :
    UserSwipeProvider where
  deck := p.deck.load initialUserId result

/-- `users?.clear()`. -/
def clear (p : UserSwipeProvider) : UserSwipeProvider where
  deck := { cards := p.deck.cards.map fun _ => [], previous := none, actualImage := 0 }

def initializeEmpty (_ : UserSwipeProvider) : UserSwipeProvider where
  deck := { cards := some [], previous := none, actualImage := 0 }

end UserSwipeProvider

/-- `fiestas`, `previousFiesta`, `actualImage` and `isLoading`. -/
structure FiestaSwipeProvider where
  deck : SwipeDeck := {}
  isLoading : Bool := false
  deriving DecidableEq

namespace FiestaSwipeProvider

/-- `getFiestaList` up to its await. The service takes the user who is signed in; without one its
call fails. -/
def getFiestaList (p : FiestaSwipeProvider) : FiestaSwipeProvider where
  deck := { p.deck with actualImage := 0 }
  isLoading := true

/-- `getFiestaList` after its await. -/
def goOn (p : FiestaSwipeProvider) (currentUser : Option UserId) (result : Option (List String)) :
    FiestaSwipeProvider where
  deck :=
    match currentUser with
    | some uid => p.deck.load uid result
    | none => { p.deck with cards := some [] }
  isLoading := false

def clear (_ : FiestaSwipeProvider) : FiestaSwipeProvider where

def initializeEmpty (_ : FiestaSwipeProvider) : FiestaSwipeProvider where

end FiestaSwipeProvider

/-! ## The user's own fiestas -/

/-- The two collections that `UserFiestaProvider` listens to. -/
inductive FiestaCollection
  | created
  | participated
  deriving DecidableEq

/-- A subscription that was opened for `owner`. -/
structure FiestaSubscription where
  owner : UserId
  collection : FiestaCollection
  live : Bool := true
  deriving DecidableEq

/-- A list of fiestas; that of an error comes from no subscription. -/
structure FiestaList where
  source : Option UserId
  docs : List String
  deriving DecidableEq

/-- The fields of the provider, and every subscription that it has opened so far. -/
structure UserFiestaProvider where
  createdFiesta : Option FiestaList := none
  userFiestaParticipatedList : Option FiestaList := none
  createdFiestaSubscription : Option Nat := none
  streamSubscriptionParticipated : Option Nat := none
  subscriptions : List FiestaSubscription := []
  deriving DecidableEq

namespace UserFiestaProvider

/-- `init`: what the fields hold is overwritten, and not cancelled. -/
def init (p : UserFiestaProvider) (userId : UserId) : UserFiestaProvider :=
  { p with
    createdFiestaSubscription := some p.subscriptions.length
    streamSubscriptionParticipated := some (p.subscriptions.length + 1)
    subscriptions := p.subscriptions ++
      [{ owner := userId, collection := .created },
        { owner := userId, collection := .participated }] }

/-- `subscription?.cancel()`. -/
def cancel (subscriptions : List FiestaSubscription) : Option Nat → List FiestaSubscription
  | some k => subscriptions.modify k ({ · with live := false })
  | none => subscriptions

def clear (p : UserFiestaProvider) : UserFiestaProvider :=
  { p with
    createdFiesta := none
    userFiestaParticipatedList := none
    subscriptions :=
      cancel (cancel p.subscriptions p.createdFiestaSubscription) p.streamSubscriptionParticipated }

/-- The subscription, if it is not cancelled. -/
def live? (p : UserFiestaProvider) (k : Nat) : Option FiestaSubscription :=
  p.subscriptions[k]?.filter (·.live)

def assign (p : UserFiestaProvider) (list : FiestaList) : FiestaCollection → UserFiestaProvider
  | .created => { p with createdFiesta := some list }
  | .participated => { p with userFiestaParticipatedList := some list }

/-- A snapshot reaches the `k`-th subscription. -/
def deliver (p : UserFiestaProvider) (k : Nat) (docs : List String) : UserFiestaProvider :=
  match p.live? k with
  | some sub => p.assign { source := some sub.owner, docs } sub.collection
  | none => p

/-- An error reaches it. -/
def onError (p : UserFiestaProvider) (k : Nat) : UserFiestaProvider :=
  match p.live? k with
  | some sub => p.assign { source := none, docs := [] } sub.collection
  | none => p

end UserFiestaProvider

/-! ## Whose data a provider holds -/

/-- A card of the user is among those of the deck, or was swiped last. -/
def SwipeDeck.Holds (d : SwipeDeck) (u : UserId) : Prop :=
  ∃ card ∈ d.cards.getD [] ++ d.previous.toList, card.owner = u

instance (d : SwipeDeck) (u : UserId) : Decidable (d.Holds u) :=
  inferInstanceAs (Decidable (∃ card ∈ _, _))

/-- One of the lists comes from a subscription of the user. -/
def UserFiestaProvider.Holds (p : UserFiestaProvider) (u : UserId) : Prop :=
  ∃ list ∈ p.createdFiesta.toList ++ p.userFiestaParticipatedList.toList, list.source = some u

instance (p : UserFiestaProvider) (u : UserId) : Decidable (p.Holds u) :=
  inferInstanceAs (Decidable (∃ list ∈ _, _))

section Decks

variable {d : SwipeDeck} {u owner : UserId} {ids : List String}

/-- What a card that a deck holds is among. -/
theorem SwipeDeck.Holds.of_subset {d' : SwipeDeck}
    (subset : d'.cards.getD [] ++ d'.previous.toList ⊆ d.cards.getD [] ++ d.previous.toList)
    (holds : d'.Holds u) : d.Holds u := by
  obtain ⟨card, listed, mine⟩ := holds
  exact ⟨card, subset listed, mine⟩

theorem SwipeDeck.next_holds (id : String) (holds : (d.next id).Holds u) : d.Holds u := by
  unfold next at holds
  split at holds
  case h_1 none =>
    apply holds.of_subset
    simp [none]
  case h_2 cards found =>
    split at holds
    case h_1 => exact holds
    case h_2 card first =>
      apply holds.of_subset
      intro c listed
      simp only [Option.getD_some, Option.toList_some, List.mem_append, List.mem_filter,
        List.mem_singleton] at listed
      rcases listed with kept | rfl
      · simp [found, kept.1]
      · simp [found, List.mem_of_find?_eq_some first]

theorem SwipeDeck.showPreviousCard_holds (holds : d.showPreviousCard.Holds u) : d.Holds u := by
  unfold showPreviousCard at holds
  split at holds
  case h_1 => exact holds
  case h_2 card last =>
    apply holds.of_subset
    intro c listed
    cases found : d.cards with
    | none => simp [found] at listed
    | some cards =>
        simp only [found, Option.map_some, Option.getD_some, Option.toList_none, List.append_nil,
          List.mem_cons] at listed
        rcases listed with rfl | kept
        · simp [last]
        · simp [kept]

/-- A result brings the cards of its owner only. -/
theorem SwipeDeck.load_holds {result : Option (List String)}
    (holds : (d.load owner result).Holds u) : d.Holds u ∨ result.getD [] ≠ [] ∧ owner = u := by
  obtain ⟨card, listed, mine⟩ := holds
  cases result with
  | none => exact .inl ⟨card, List.mem_append_right _ listed, mine⟩
  | some ids =>
      simp only [load, Option.getD_some, List.mem_append, List.mem_map] at listed
      rcases listed with ⟨id, member, rfl⟩ | last
      · exact .inr ⟨List.ne_nil_of_mem member, mine⟩
      · exact .inl ⟨card, List.mem_append_right _ last, mine⟩

/-- One that is not empty brings some. -/
theorem SwipeDeck.load_brings {result : Option (List String)} (cards : result.getD [] ≠ []) :
    (d.load owner result).Holds owner := by
  obtain ⟨id, member⟩ := List.exists_mem_of_ne_nil _ cards
  cases result with
  | none => cases member
  | some ids =>
      exact ⟨⟨owner, id⟩, List.mem_append_left _ (List.mem_map_of_mem member), rfl⟩

theorem SwipeDeck.holds_of_same {d' : SwipeDeck} (cards : d'.cards = d.cards)
    (previous : d'.previous = d.previous) (holds : d'.Holds u) : d.Holds u := by
  unfold Holds at holds
  rwa [cards, previous] at holds

theorem UserSwipeProvider.clear_holds {p : UserSwipeProvider} : ¬ p.clear.deck.Holds u := by
  intro holds
  obtain ⟨card, listed, -⟩ := holds
  cases cards : p.deck.cards with
  | none => simp [clear, cards] at listed
  | some _ => simp [clear, cards] at listed

theorem FiestaSwipeProvider.clear_holds (p : FiestaSwipeProvider) : ¬ p.clear.deck.Holds u := by
  intro holds
  obtain ⟨card, listed, -⟩ := holds
  cases listed

/-- Until its await, a loading step at most empties the deck. -/
theorem UserSwipeProvider.getUsersList_holds {p : UserSwipeProvider} {currentUser : Option UserId}
    (holds : (p.getUsersList currentUser).1.deck.Holds u) : p.deck.Holds u := by
  unfold getUsersList at holds
  cases currentUser with
  | none =>
      apply holds.of_subset
      simp
  | some initialUserId =>
      dsimp only at holds
      rw [if_neg (not_not.mpr rfl)] at holds
      exact SwipeDeck.holds_of_same rfl rfl holds

end Decks

section Fiestas

variable {p : UserFiestaProvider} {u : UserId}

theorem UserFiestaProvider.assign_holds {list : FiestaList} {collection : FiestaCollection}
    (holds : (p.assign list collection).Holds u) : p.Holds u ∨ list.source = some u := by
  obtain ⟨other, listed, mine⟩ := holds
  cases collection with
  | created =>
      simp only [assign, Option.toList_some, List.singleton_append, List.mem_cons] at listed
      rcases listed with rfl | kept
      · exact .inr mine
      · exact .inl ⟨other, List.mem_append_right _ kept, mine⟩
  | participated =>
      simp only [assign, Option.toList_some, List.mem_append, List.mem_singleton] at listed
      rcases listed with kept | rfl
      · exact .inl ⟨other, List.mem_append_left _ kept, mine⟩
      · exact .inr mine

theorem UserFiestaProvider.assign_brings {list : FiestaList} {collection : FiestaCollection}
    (source : list.source = some u) : (p.assign list collection).Holds u := by
  refine ⟨list, ?_, source⟩
  cases collection with
  | created => simp [assign]
  | participated => simp [assign]

/-- A cleared provider holds nothing. -/
theorem UserFiestaProvider.clear_holds : ¬ p.clear.Holds u := by
  simp [clear, Holds]

end Fiestas

end TwoGather
