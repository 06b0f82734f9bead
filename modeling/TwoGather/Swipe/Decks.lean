import TwoGather.Lib.Runs
import TwoGather.Session.Providers

/-!
# Swiping and undoing

The two swipe providers keep the card that was swiped last beside the deck, and
`showPreviousCard` puts it back on top. A loading step replaces the deck and leaves that card
as it is, so a card that comes back in a newer list can be put on top of itself:
`decks_right_iff` says that this is all that goes wrong.
-/

namespace TwoGather

open Requests

namespace SwipeDeck

/-- The ids of the cards, the top one first. -/
def ids (d : SwipeDeck) : List String :=
  (d.cards.getD []).map (·.id)

/-- `nextCard` and `nextFiesta` fail: there is a list, without such a card. -/
def Fails (d : SwipeDeck) (id : String) : Prop :=
  ∃ cards, d.cards = some cards ∧ cards.find? (·.id = id) = none

/-- No two cards have the same id, no card that is shown makes the swipe fail, and an undo right
after the swipe of the top card brings the deck back. -/
structure Right (d : SwipeDeck) : Prop where
  distinct : d.ids.Nodup
  swipes : ∀ card ∈ d.cards.getD [], ¬ d.Fails card.id
  undoes : ∀ top rest, d.cards = some (top :: rest) →
    (d.next top.id).showPreviousCard.cards = some (top :: rest)

/-- The card that was swiped last is not in the deck again. -/
def MayUndo (d : SwipeDeck) : Prop :=
  ∀ card ∈ d.previous, card.id ∉ d.ids

instance (d : SwipeDeck) : Decidable d.MayUndo :=
  inferInstanceAs (Decidable (∀ card ∈ d.previous, _))

variable {d : SwipeDeck}

/-- A card of the deck is found. -/
theorem not_fails {card : SwipeCard} (listed : card ∈ d.cards.getD []) : ¬ d.Fails card.id := by
  rintro ⟨cards, found, none⟩
  rw [found] at listed
  exact List.find?_eq_none.mp none card listed (decide_eq_true rfl)

/-- The swipe of the top card leaves the others, if no other one has its id. -/
theorem next_top {top : SwipeCard} {rest : List SwipeCard} (cards : d.cards = some (top :: rest))
    (distinct : d.ids.Nodup) :
    d.next top.id = { cards := some rest, previous := some top, actualImage := 0 } := by
  have others : ∀ card ∈ rest, card.id ≠ top.id := by
    rw [ids, cards, Option.getD_some, List.map_cons, List.nodup_cons] at distinct
    exact fun card listed same => distinct.1 (same ▸ List.mem_map_of_mem listed)
  have left : (top :: rest).filter (fun card => card.id ≠ top.id) = rest := by
    rw [List.filter_cons_of_neg (by simp)]
    exact List.filter_eq_self.mpr fun card listed => decide_eq_true (others card listed)
  have found : (top :: rest).find? (fun card => card.id = top.id) = some top :=
    List.find?_cons_of_pos (decide_eq_true rfl)
  unfold next
  simp only [cards, found, left]

/-- Without equal ids, everything is right. -/
theorem right_iff : d.Right ↔ d.ids.Nodup := by
  refine ⟨Right.distinct, fun distinct => ⟨distinct, fun card => not_fails, ?_⟩⟩
  intro top rest cards
  rw [next_top cards distinct]
  rfl

theorem ids_next (id : String) : (d.next id).ids.Sublist d.ids := by
  unfold next
  split
  case h_1 none => rw [ids, ids, none]
  case h_2 cards found =>
      split
      case h_1 => exact List.Sublist.refl _
      case h_2 card first =>
          rw [ids, ids, found]
          exact List.filter_sublist.map _

/-- An undo keeps the ids apart exactly when the card is not in the deck again. -/
theorem nodup_showPreviousCard (distinct : d.ids.Nodup) :
    d.showPreviousCard.ids.Nodup ↔ d.MayUndo := by
  unfold showPreviousCard MayUndo
  cases last : d.previous with
  | none => exact iff_of_true distinct nofun
  | some card =>
      have one : (∀ c ∈ some card, c.id ∉ d.ids) ↔ card.id ∉ d.ids := by simp
      rw [one]
      unfold ids at distinct ⊢
      cases cards : d.cards with
      | none => simp
      | some cards =>
          rw [cards] at distinct
          exact List.nodup_cons.trans (and_iff_left distinct)

end SwipeDeck

/-! ## Runs of the two providers -/

/-- What happens to a deck: a loading step begins, or ends with the given cards; the top card is
swiped; and the other calls. -/
inductive DeckCall
  | getList (userId : UserId)
  | loaded (userId : UserId) (ids : List String)
  | nextTop
  | showPreviousCard
  | clear
  | initializeEmpty
  deriving DecidableEq

namespace DeckCall

/-- A result has no id twice. -/
def Valid : DeckCall → Prop
  | .loaded _ ids => ids.Nodup
  | _ => True

/-- No card is put back that is in the deck again. -/
def UndoesOnce (d : SwipeDeck) : DeckCall → Prop
  | .showPreviousCard => d.MayUndo
  | _ => True

instance : (call : DeckCall) → Decidable call.Valid
  | .loaded _ ids => inferInstanceAs (Decidable ids.Nodup)
  | .getList _ | .nextTop | .showPreviousCard | .clear | .initializeEmpty => .isTrue trivial

instance (d : SwipeDeck) : (call : DeckCall) → Decidable (call.UndoesOnce d)
  | .showPreviousCard => inferInstanceAs (Decidable d.MayUndo)
  | .getList _ | .loaded _ _ | .nextTop | .clear | .initializeEmpty => .isTrue trivial

/-- The swipe of the card on top, if there is one. -/
def swipeTop (d : SwipeDeck) : SwipeDeck :=
  match d.cards with
  | some (top :: _) => d.next top.id
  | _ => d

/-- What a call does to a deck, where `clear` and `initializeEmpty` leave those given. -/
def onDeck (cleared empty : SwipeDeck) (d : SwipeDeck) : DeckCall → SwipeDeck
  | .getList _ => { d with actualImage := 0 }
  | .loaded userId ids => d.load userId (some ids)
  | .nextTop => swipeTop d
  | .showPreviousCard => d.showPreviousCard
  | .clear => cleared
  | .initializeEmpty => empty

def users (p : UserSwipeProvider) : DeckCall → UserSwipeProvider
  | .getList userId => (p.getUsersList (some userId)).1
  | .loaded userId ids => p.goOn userId (some ids)
  | .nextTop => { deck := swipeTop p.deck }
  | .showPreviousCard => { deck := p.deck.showPreviousCard }
  | .clear => p.clear
  | .initializeEmpty => p.initializeEmpty

def fiestas (p : FiestaSwipeProvider) : DeckCall → FiestaSwipeProvider
  | .getList _ => p.getFiestaList
  | .loaded userId ids => p.goOn (some userId) (some ids)
  | .nextTop => { p with deck := swipeTop p.deck }
  | .showPreviousCard => { p with deck := p.deck.showPreviousCard }
  | .clear => p.clear
  | .initializeEmpty => p.initializeEmpty

section Steps

variable {d : SwipeDeck} {call : DeckCall}

/-- A call keeps the ids apart exactly when it puts back no card that is in the deck. -/
theorem nodup_onDeck {cleared empty : SwipeDeck} (noneCleared : cleared.ids = [])
    (noneEmpty : empty.ids = []) (distinct : d.ids.Nodup) (valid : call.Valid) :
    (call.onDeck cleared empty d).ids.Nodup ↔ call.UndoesOnce d := by
  cases call with
  | getList userId => exact iff_of_true distinct trivial
  | loaded userId ids =>
      refine iff_of_true ?_ trivial
      have same : (d.load userId (some ids)).ids = ids :=
        List.map_map.trans (List.map_id' ids)
      rw [onDeck, same]
      exact valid
  | nextTop =>
      refine iff_of_true ?_ trivial
      rw [onDeck, swipeTop]
      split
      · exact distinct.sublist (SwipeDeck.ids_next _)
      · exact distinct
  | showPreviousCard => exact SwipeDeck.nodup_showPreviousCard distinct
  | clear => exact iff_of_true (by rw [onDeck, noneCleared]; exact .nil) trivial
  | initializeEmpty => exact iff_of_true (by rw [onDeck, noneEmpty]; exact .nil) trivial

theorem users_right {p : UserSwipeProvider} (right : p.deck.Right) (valid : call.Valid) :
    (call.users p).deck.Right ↔ call.UndoesOnce p.deck := by
  have deck : (call.users p).deck =
      call.onDeck p.clear.deck p.initializeEmpty.deck p.deck := by
    cases call with
    | getList userId => simp [users, UserSwipeProvider.getUsersList, onDeck]
    | _ => rfl
  have cleared : p.clear.deck.ids = [] := by
    unfold UserSwipeProvider.clear SwipeDeck.ids
    cases p.deck.cards with
    | none => rfl
    | some cards => rfl
  rw [deck, SwipeDeck.right_iff]
  exact nodup_onDeck cleared rfl right.distinct valid

theorem fiestas_right {p : FiestaSwipeProvider} (right : p.deck.Right) (valid : call.Valid) :
    (call.fiestas p).deck.Right ↔ call.UndoesOnce p.deck := by
  have deck : (call.fiestas p).deck =
      call.onDeck p.clear.deck p.initializeEmpty.deck p.deck := by
    cases call with
    | _ => rfl
  rw [deck, SwipeDeck.right_iff]
  exact nodup_onDeck rfl rfl right.distinct valid

end Steps

end DeckCall

/-- **In a run of loading steps without equal ids, swipes, undos and the other calls, the deck of
either provider is right in every state if and only if `showPreviousCard` is never called
while the card that was swiped last is in the deck again.** -/
theorem decks_right_iff (calls : List DeckCall) (valid : ∀ call ∈ calls, call.Valid) :
    ((∀ p, Reached DeckCall.users {} calls p → p.deck.Right) ↔
        Along DeckCall.users (fun p call => call.UndoesOnce p.deck) {} calls) ∧
      ((∀ p, Reached DeckCall.fiestas {} calls p → p.deck.Right) ↔
        Along DeckCall.fiestas (fun p call => call.UndoesOnce p.deck) {} calls) := by
  have start : SwipeDeck.Right {} := SwipeDeck.right_iff.mpr .nil
  constructor
  · exact all_reached_iff_along (P := fun p : UserSwipeProvider => p.deck.Right)
      (V := fun _ => DeckCall.Valid)
      (fun p call right valid => DeckCall.users_right right valid) start (.of_forall valid)
  · exact all_reached_iff_along (P := fun p : FiestaSwipeProvider => p.deck.Right)
      (V := fun _ => DeckCall.Valid)
      (fun p call right valid => DeckCall.fiestas_right right valid) start (.of_forall valid)

/-! ## A card that comes back -/

/-- A card is swiped, comes back in a newer list, and is put on top of itself. -/
def reloadThenUndo : List DeckCall :=
  [.loaded "u" ["a", "b"], .nextTop, .loaded "u" ["a", "b"], .showPreviousCard]

theorem card_twice :
    (∀ call ∈ reloadThenUndo, call.Valid) ∧
      (run DeckCall.users {} reloadThenUndo).deck.ids = ["a", "a", "b"] ∧
      (¬ ∀ p, Reached DeckCall.users {} reloadThenUndo p → p.deck.Right) ∧
      ¬ ∀ p, Reached DeckCall.fiestas {} reloadThenUndo p → p.deck.Right := by
  have twice : ¬ (["a", "a", "b"] : List String).Nodup := by decide
  refine ⟨by decide, rfl, fun all => ?_, fun all => ?_⟩
  · exact twice (all _ (.run _ _)).distinct
  · exact twice (all _ (.run _ _)).distinct

/-- An undo before the newer list is right. -/
theorem undo_before_reload :
    (run DeckCall.users {}
      [.loaded "u" ["a", "b"], .nextTop, .showPreviousCard, .loaded "u" ["a", "b"]]).deck.Right :=
  (decks_right_iff _ (by decide)).1.mpr (by decide) _ (.run _ _)

end TwoGather
