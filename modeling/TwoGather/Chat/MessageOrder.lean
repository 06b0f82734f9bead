import TwoGather.Chat.Messages
import TwoGather.Lib.Comparators

/-!
# The order of the messages

`getMessages` sorts what the map holds by a function of two messages. One that the server has not
acknowledged has no `timeStamp` yet and is to come first. But of two such messages each comes
before the other, and each before itself, so what the sort is given is no comparator as soon as
there is one (`ordersMessages_iff`), although its sign says what is meant
(`compareMessages_nonpos_iff`).
-/

namespace TwoGather

open Comparators

/-- `date.compareTo(other)`. -/
def Timestamp.compareTo (t other : Timestamp) : Int :=
  (t.micros - other.micros).sign

/-- What `getMessages` sorts with. -/
def compareMessages (a b : MessageModel) : Int :=
  match a.timeStamp with
  | none => -1
  | some timeStamp =>
      match b.timeStamp with
      | none => 1
      | some timeStamp' => timeStamp'.compareTo timeStamp

namespace SalonMessagesNotifier

/-- `myUid` has not deleted the message. -/
def notDeleted (myUid : Option UserId) (element : MessageModel) : Bool :=
  !((element.userDeleteMessage.map fun users => (users.map some).contains myUid).getD false)

/-- The messages that `getMessages` sorts. `startOf1970` is `DateTime(1970)`, which is local. -/
def toShow (n : SalonMessagesNotifier) (myUid : Option UserId) (startOf1970 : Timestamp)
    (lastDateDelete : Option Timestamp) : List MessageModel :=
  (n.mapMessageToShow.docs.map Prod.snd).filter fun element =>
    notDeleted myUid element &&
      element.createdAt.compareTo (lastDateDelete.getD startOf1970) > 0

/-- `getMessages`, by a sort of the standard library. -/
def getMessages (sort : (MessageModel → MessageModel → Int) → List MessageModel → List MessageModel)
    (n : SalonMessagesNotifier) (myUid : Option UserId) (startOf1970 : Timestamp)
    (lastDateDelete : Option Timestamp) : List MessageModel :=
  sort compareMessages (n.toShow myUid startOf1970 lastDateDelete)

end SalonMessagesNotifier

/-! ## The order meant -/

/-- Messages without `timeStamp` come first, the others by decreasing `timeStamp`: behind one that
has it, `b` has it too and is not later. -/
def InOrder (a b : MessageModel) : Prop :=
  ∀ timeStamp, a.timeStamp = some timeStamp →
    ∃ timeStamp', b.timeStamp = some timeStamp' ∧ timeStamp'.micros ≤ timeStamp.micros

/-- What a set of messages is to be sorted by: a comparator, with which every phone that shows
them has them in order, whatever the order of its map. -/
structure OrdersMessages (messages : List MessageModel) : Prop where
  consistent : Consistent compareMessages messages
  inOrder : ∀ sort, IsSort sort → ∀ n myUid startOf1970 lastDateDelete,
    (SalonMessagesNotifier.toShow n myUid startOf1970 lastDateDelete).Perm messages →
      (n.getMessages sort myUid startOf1970 lastDateDelete).Pairwise InOrder
  tied : ∀ sort, IsSort sort → ∀ n n' myUid startOf1970 lastDateDelete,
    (SalonMessagesNotifier.toShow n myUid startOf1970 lastDateDelete).Perm messages →
    (SalonMessagesNotifier.toShow n' myUid startOf1970 lastDateDelete).Perm messages →
      List.Forall₂ (fun a b => a.timeStamp = b.timeStamp)
        (n.getMessages sort myUid startOf1970 lastDateDelete)
        (n'.getMessages sort myUid startOf1970 lastDateDelete)

section Compare

variable {a b c : MessageModel} {messages : List MessageModel}

theorem Timestamp.compareTo_nonpos_iff (t other : Timestamp) :
    t.compareTo other ≤ 0 ↔ t.micros ≤ other.micros := by
  unfold Timestamp.compareTo
  rw [Int.sign_nonpos_iff]
  omega

theorem Timestamp.compareTo_eq_zero_iff (t other : Timestamp) :
    t.compareTo other = 0 ↔ t = other := by
  unfold Timestamp.compareTo
  rw [Int.sign_eq_zero_iff_zero, Timestamp.mk.injEq]
  omega

theorem Timestamp.sign_compareTo (t other : Timestamp) :
    (t.compareTo other).sign = -(other.compareTo t).sign := by
  unfold Timestamp.compareTo
  rw [Int.sign_sign, Int.sign_sign, ← Int.sign_neg, Int.neg_sub]

/-- The sign of the comparison says that a message comes before or with another. -/
theorem compareMessages_nonpos_iff : compareMessages a b ≤ 0 ↔ InOrder a b := by
  unfold compareMessages InOrder
  cases a.timeStamp with
  | none => exact iff_of_true (show (-1 : Int) ≤ 0 by decide) (by rintro _ ⟨⟩)
  | some timeStamp =>
      cases b.timeStamp with
      | none =>
          refine iff_of_false (Int.not_le.mpr Int.one_pos) fun order => ?_
          obtain ⟨_, ⟨⟩, _⟩ := order timeStamp rfl
      | some timeStamp' =>
          dsimp only
          rw [Timestamp.compareTo_nonpos_iff]
          refine ⟨?_, fun order => ?_⟩
          · rintro le _ ⟨⟩
            exact ⟨timeStamp', rfl, le⟩
          · obtain ⟨_, ⟨⟩, le⟩ := order timeStamp rfl
            exact le

theorem InOrder.trans (first : InOrder a b) (second : InOrder b c) : InOrder a c := by
  intro timeStamp own
  obtain ⟨timeStamp', next, le⟩ := first timeStamp own
  obtain ⟨timeStamp'', last, le'⟩ := second timeStamp' next
  exact ⟨timeStamp'', last, le'.trans le⟩

/-- A message that is not acknowledged comes before itself. -/
theorem compareMessages_self (none : a.timeStamp = none) : compareMessages a a = -1 := by
  rw [compareMessages, none]

theorem consistent_compareMessages (acknowledged : ∀ m ∈ messages, m.timeStamp.isSome) :
    Consistent compareMessages messages where
  reflexive a listed := by
    obtain ⟨timeStamp, own⟩ := Option.isSome_iff_exists.mp (acknowledged a listed)
    rw [compareMessages, own]
    exact (Timestamp.compareTo_eq_zero_iff ..).mpr rfl
  antisymmetric a listedA b listedB := by
    obtain ⟨timeStamp, own⟩ := Option.isSome_iff_exists.mp (acknowledged a listedA)
    obtain ⟨timeStamp', own'⟩ := Option.isSome_iff_exists.mp (acknowledged b listedB)
    rw [compareMessages, compareMessages, own, own']
    exact Timestamp.sign_compareTo ..
  transitive a _ b _ c _ first second := by
    rw [compareMessages_nonpos_iff] at first second ⊢
    exact first.trans second

/-- Messages of equal rank have the same `timeStamp`, or neither has one. -/
theorem timeStamp_eq_of_tie (tie : compareMessages a b = 0) : a.timeStamp = b.timeStamp := by
  unfold compareMessages at tie
  cases own : a.timeStamp with
  | none =>
      rw [own] at tie
      cases tie
  | some timeStamp =>
      rw [own] at tie
      cases own' : b.timeStamp with
      | none =>
          rw [own'] at tie
          cases tie
      | some timeStamp' =>
          rw [own'] at tie
          rw [(Timestamp.compareTo_eq_zero_iff ..).mp tie]

end Compare

/-- The function orders a set of messages just where all of them have a `timeStamp`. -/
theorem ordersMessages_iff (messages : List MessageModel) :
    OrdersMessages messages ↔ ∀ m ∈ messages, m.timeStamp.isSome := by
  refine ⟨fun orders m listed => ?_, fun acknowledged => ?_⟩
  · rw [← Option.ne_none_iff_isSome]
    intro none
    have same := orders.consistent.reflexive m listed
    rw [compareMessages_self none] at same
    cases same
  have consistent := consistent_compareMessages acknowledged
  refine ⟨consistent, fun sort sorts n myUid startOf1970 lastDateDelete shown => ?_,
    fun sort sorts n n' myUid startOf1970 lastDateDelete shown shown' => ?_⟩
  · exact (sorts.ordered _ _ (consistent.of_perm shown)).imp compareMessages_nonpos_iff.mp
  · have tied := sorts.tied (consistent.of_perm shown) (shown'.trans shown.symm)
    exact tied.imp fun _ _ => timeStamp_eq_of_tie

/-- Two messages that were just sent. -/
def justSent : List MessageModel :=
  [ { id := some "m2", sender := "bob", type := .textMessage,
      createdAt := ⟨1720000060000000, by omega, by omega⟩ },
    { id := some "m1", sender := "bob", type := .textMessage,
      createdAt := ⟨1720000000000000, by omega, by omega⟩ }]

/-- Of two messages without `timeStamp`, each is to come before the other, and before itself. -/
theorem justSent_inconsistent :
    (∀ a ∈ justSent, ∀ b ∈ justSent, compareMessages a b = -1) ∧ ¬ OrdersMessages justSent := by
  have before : ∀ a ∈ justSent, ∀ b ∈ justSent, compareMessages a b = -1 := by decide
  refine ⟨before, fun orders => ?_⟩
  have same := orders.consistent.reflexive _ List.mem_cons_self
  rw [before _ List.mem_cons_self _ List.mem_cons_self] at same
  cases same

end TwoGather
