import TwoGather.Backend.Friendships
import TwoGather.Backend.Notes

/-!
# The buttons of the notifications

The card of a notification (`NotificationBuilder.buildNotification`) has a button or two, which
take the ids for their handlers from the notification. What a button of a new notification
answers was asked by a call of the schedule, of this user (`button_answers`). So, as long as
friend requests are accepted on these cards only, nobody comes into the friends of another one
without a request between the two (`friendship_asked`).
-/

namespace TwoGather

open Docs Requests

/-! ## Buttons -/

/-- The call that a button of the card makes for the user `me`: with `accepted`, the one on the
right. Without an id that its handler needs, the tap fails. The two cards with one button do
more after this call; a notification of these two types always has its map of metadata. -/
def Notification.button (me : UserId) (id : Nat) (accepted : Bool) (data : Notification) :
    Option AppCall :=
  match data.notificationType with
  | .message => none
  | .friendRequest => some (.handleFriendRequest me data.notificationUser.id id accepted)
  | .duoRequest => some (.handleDuoRequest me data.notificationUser.id (some id) accepted)
  | .fiestaConfirmation => do
      let duoId ← data.metadata.duoId.get?
      let fiestaId ← data.metadata.fiestaId.get?
      some (.handleFiestaRequest duoId me fiestaId id accepted)
  | .handleFiestaConfirmation =>
      if accepted then some (.setNotificationAsComplete me id) else none
  | .noteFiesta => if accepted then some (.setNotificationAsComplete me id) else none
  | .sponsorshipRequest => do
      let sponsorshipId ← data.metadata.sponsorshipId.get?
      some (.handleSponsorshipRequest me sponsorshipId id accepted)

/-- The types of the notifications that ask for a yes or a no. -/
def NotificationType.IsRequest : NotificationType → Prop
  | .friendRequest | .duoRequest | .fiestaConfirmation | .sponsorshipRequest => True
  | _ => False

/-- The handler answers what the call has asked of the user. -/
inductive Answered (u : UserId) (id : Nat) (accepted : Bool) : Call → AppCall → Prop
  | friend (v : UserId) :
    Answered u id accepted (.app (.addFriend v u)) (.handleFriendRequest u v id accepted)
  | duo (v : UserId) :
    Answered u id accepted (.callable (.requestNewLockDuo v u))
      (.handleDuoRequest u v (some id) accepted)
  | duoInSalon (v : UserId) (salonId : Option SalonId) :
    Answered u id accepted (.app (.requestNewLockDuo v u salonId))
      (.handleDuoRequest u v (some id) accepted)
  | fiesta (v : UserId) (f : FiestaId) :
    Answered u id accepted (.callable (.requestADuoToGoFiesta v f (some u)))
      (.handleFiestaRequest v u f id accepted)
  | fiestaWithSearch (v : UserId) (f : FiestaId) :
    Answered u id accepted (.app (.acceptFiesta v f (some u) true))
      (.handleFiestaRequest v u f id accepted)
  | sponsorship (r : Nat) (snap : Option Sponsorship) :
    Answered u id accepted (.triggered (.onSponsorshipCreated u r snap))
      (.handleSponsorshipRequest u r id accepted)

section Buttons

variable {u : UserId} {id : Nat} {accepted : Bool} {data : Notification} {c : Call}

/-- The buttons look at the news of the notification only. -/
theorem button_of_news {other : Notification} (same : data.news = other.news) :
    data.button u id accepted = other.button u id accepted := by
  have type : data.notificationType = other.notificationType :=
    congrArg News.notificationType same
  have sender : data.notificationUser.id = other.notificationUser.id := congrArg News.sender same
  have metadata : data.metadata = other.metadata := congrArg News.metadata same
  unfold Notification.button
  rw [type, sender, metadata]

/-- The buttons of a request that a call has told answer this call. -/
theorem answered_of_tells (tells : c.Tells u data.news)
    (request : data.notificationType.IsRequest) :
    ∃ answer, data.button u id accepted = some answer ∧ Answered u id accepted c answer := by
  unfold Call.Tells at tells
  unfold Notification.button
  have type : data.news.notificationType = data.notificationType := rfl
  rw [type] at tells
  cases kind : data.notificationType with
  | friendRequest =>
      rw [kind] at tells
      rcases tells with ⟨-, rfl⟩
      exact ⟨_, rfl, .friend _⟩
  | duoRequest =>
      rw [kind] at tells
      rcases tells with ⟨-, rfl | ⟨salonId, rfl⟩⟩
      · exact ⟨_, rfl, .duo _⟩
      · exact ⟨_, rfl, .duoInSalon _ salonId⟩
  | fiestaConfirmation =>
      rw [kind] at tells
      rcases tells with ⟨f, same, asked⟩
      have metadata : data.metadata =
          { duoId := .value data.notificationUser.id, fiestaId := .value f } :=
        congrArg News.metadata same
      rw [metadata]
      rcases asked with rfl | rfl
      · exact ⟨_, rfl, .fiesta _ f⟩
      · exact ⟨_, rfl, .fiestaWithSearch _ f⟩
  | sponsorshipRequest =>
      rw [kind] at tells
      rcases tells with ⟨r, request, snap, same, rfl⟩
      have metadata : data.metadata = (News.sponsorship r request).metadata :=
        congrArg News.metadata same
      rw [metadata]
      exact ⟨_, rfl, .sponsorship r snap⟩
  | message =>
      rw [kind] at request
      cases request
  | handleFiestaConfirmation =>
      rw [kind] at request
      cases request
  | noteFiesta =>
      rw [kind] at request
      cases request

/-- Only a friend request of the user `v` has a button that accepts one. -/
theorem news_of_button {v : UserId}
    (button : data.button u id accepted = some (.handleFriendRequest u v id accepted)) :
    data.notificationType = .friendRequest ∧ data.notificationUser.id = v := by
  unfold Notification.button at button
  split at button
  case h_2 kind =>
    cases button
    exact ⟨kind, rfl⟩
  case h_4 =>
    cases duoId : data.metadata.duoId.get? with
    | none =>
        rw [duoId] at button
        cases button
    | some _ =>
        cases fiestaId : data.metadata.fiestaId.get? with
        | none =>
            rw [duoId, fiestaId] at button
            cases button
        | some _ =>
            rw [duoId, fiestaId] at button
            cases button
  case h_7 =>
    cases sponsorshipId : data.metadata.sponsorshipId.get? with
    | none =>
        rw [sponsorshipId] at button
        cases button
    | some _ =>
        rw [sponsorshipId] at button
        cases button
  all_goals
    first
    | cases button
    | split at button <;> cases button

end Buttons

/-! ## Who has asked -/

section Asked

variable {ι : Type} [DecidableEq ι] {s : Store} {calls : ι → Call} {schedule : List ι}
  {u v : UserId} {k : Nat} {n : Notification}

/-- The buttons of a new request answer a call of the schedule. -/
theorem button_answers (before : (s.notifications u).get? k = none)
    (found : ((s.after calls schedule).notifications u).get? k = some n)
    (request : n.notificationType.IsRequest) (accepted : Bool) :
    ∃ i ∈ schedule, ∃ answer, n.button u k accepted = some answer ∧
      Answered u k accepted (calls i) answer := by
  rcases tells_cause before found with ⟨i, listed, tells⟩
  exact ⟨i, listed, answered_of_tells tells request⟩

/-- A notification has the same news from then on. -/
theorem news_after (found : (s.notifications u).get? k = some n) {n' : Notification}
    (found' : ((s.after calls schedule).notifications u).get? k = some n') : n'.news = n.news := by
  have grow : s.NotesGrow (s.after calls schedule) := notesGrow_after
  rcases grow u k n found with ⟨later, there, grows⟩
  cases there.symm.trans found'
  have same : n'.content.news = n.content.news := congrArg Notification.news grows.content
  exact same

/-- Friend requests are accepted on the cards only. The card is there in the end too, as no
notification goes away. -/
structure OnCards (s : Store) (calls : ι → Call) (schedule : List ι) : Prop where
  noOther : ∀ i ∈ schedule, ∀ a b, calls i ≠ .callable (.confirmFriendRequest a b true)
  card : ∀ i ∈ schedule, ∀ a b k, calls i = .app (.handleFriendRequest a b k true) →
    ∃ n, ((s.after calls schedule).notifications a).get? k = some n ∧
      n.button a k true = some (.handleFriendRequest a b k true)

/-- There is a request between the two among the notifications of one of them. -/
def Store.HasRequest (s : Store) (u v : UserId) : Prop :=
  ∃ a b k n, AreTwo a b u v ∧ (s.notifications a).get? k = some n ∧
    n.button a k true = some (.handleFriendRequest a b k true)

/-- An accepted request was sent in the schedule, or was there at the start. -/
theorem asked_of_card {a b : UserId} (between : AreTwo a b u v)
    (found : ((s.after calls schedule).notifications a).get? k = some n)
    (button : n.button a k true = some (.handleFriendRequest a b k true)) :
    (∃ i ∈ schedule, (calls i).Asks u v ∨ (calls i).Asks v u) ∨ s.HasRequest u v := by
  cases old : (s.notifications a).get? k with
  | some n₀ =>
      refine .inr ⟨a, b, k, n₀, between, old, ?_⟩
      rw [← button_of_news (news_after old found), button]
  | none =>
      rcases news_of_button button with ⟨type, rfl⟩
      rcases tells_cause old found with ⟨i, listed, tells⟩
      have kind : n.news.notificationType = .friendRequest := type
      unfold Call.Tells at tells
      rw [kind] at tells
      refine .inl ⟨i, listed, ?_⟩
      rw [tells.2]
      rcases between with ⟨rfl, rfl⟩ | ⟨rfl, rfl⟩
      · exact .inr ⟨rfl, rfl⟩
      · exact .inl ⟨rfl, rfl⟩

/-- A call that makes friends asks one of the two, or answers a request. -/
theorem Call.befriends_cases {c : Call} (befriends : c.Befriends u v) :
    (c.Asks u v ∨ c.Asks v u) ∨ (∃ a b, c = .callable (.confirmFriendRequest a b true)) ∨
      ∃ a b k, AreTwo a b u v ∧ c = .app (.handleFriendRequest a b k true) := by
  unfold Call.Befriends at befriends
  split at befriends
  case h_1 a b => exact .inl befriends
  case h_2 a b accepted =>
    rcases befriends with ⟨rfl, -⟩
    exact .inr (.inl ⟨a, b, rfl⟩)
  case h_3 a b => exact .inl befriends
  case h_4 a b => exact .inl befriends
  case h_5 a b k accepted =>
    rcases befriends with ⟨rfl, between⟩
    exact .inr (.inr ⟨a, b, k, between, rfl⟩)
  case h_6 => cases befriends

/-- **Nobody comes into the friends of another one without a request between the two.** -/
theorem friendship_asked (cards : OnCards s calls schedule) {data : User}
    (before : ∀ data, s.user u = some data → ¬ data.Knows v)
    (found : (s.after calls schedule).user u = some data) (knows : data.Knows v) :
    (∃ i ∈ schedule, (calls i).Asks u v ∨ (calls i).Asks v u) ∨ s.HasRequest u v ∨
      ∃ i ∈ schedule, (calls i).Stores u fun friends => ∃ e ∈ friends, e.user = v := by
  rcases knows_cause before found knows with ⟨i, listed, befriends | stores⟩
  · rcases Call.befriends_cases befriends with asks | ⟨a, b, call⟩ | ⟨a, b, k, between, call⟩
    · exact .inl ⟨i, listed, asks⟩
    · exact absurd call (cards.noOther i listed a b)
    · rcases cards.card i listed a b k call with ⟨n, there, button⟩
      exact (asked_of_card between there button).imp_right .inl
  · exact .inr (.inr ⟨i, listed, stores⟩)

/-- `b` asks `a`, who accepts on the card. -/
def askAndAccept (asks : Bool) : Call :=
  if asks then .app (.addFriend "b" "a") else .app (.handleFriendRequest "a" "b" 0 true)

/-- Two users who have done nothing yet. -/
def twoStrangers : Store :=
  .ofUsers ⟨[("a", {}), ("b", {})],
    List.nodup_cons.mpr ⟨List.mem_singleton.not.mpr (by decide), List.nodup_singleton "b"⟩⟩

/-- The button on the left of the card of `a`, after the request. -/
theorem askAndAccept_answered :
    ∃ i ∈ [true, true, true, true], ∃ answer,
      (friendRequestNotification "b" (some { friendsRequest := .value ["a"] }) .epoch).button "a" 0
          false = some answer ∧
        Answered "a" 0 false (askAndAccept i) answer :=
  button_answers (s := twoStrangers)
    (n := friendRequestNotification "b" (some { friendsRequest := .value ["a"] }) .epoch)
    rfl rfl trivial false

/-- The request is sent and read, and accepted on its card. -/
theorem askAndAccept_asked :
    (∃ i ∈ [true, true, true, true, false, false],
        (askAndAccept i).Asks "a" "b" ∨ (askAndAccept i).Asks "b" "a") ∨
      twoStrangers.HasRequest "a" "b" ∨
        ∃ i ∈ [true, true, true, true, false, false],
          (askAndAccept i).Stores "a" fun friends => ∃ e ∈ friends, e.user = "b" := by
  have cards : OnCards twoStrangers askAndAccept [true, true, true, true, false, false] := by
    refine ⟨?_, ?_⟩
    · intro asks _ a b
      cases asks with
      | true => rintro ⟨⟩
      | false => rintro ⟨⟩
    · intro asks _ a b k call
      cases asks with
      | true => cases call
      | false =>
          cases call
          exact ⟨_, rfl, rfl⟩
  have friends : (twoStrangers.after askAndAccept [true, true, true, true, false, false]).user "a" =
      some { friends := .value [{ type := .connexion, user := "b" }]
             friendsRequest := .value [] } := rfl
  refine friendship_asked cards ?_ friends (by decide)
  intro data found
  cases found
  decide

end Asked

end TwoGather
