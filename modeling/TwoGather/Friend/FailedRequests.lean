import TwoGather.Friend.CloudFunctions
import TwoGather.Friend.CrossingRequests

/-!
# Friend requests with an operation that fails

`addFriend` leaves a request, reads both documents, and then answers the request of the
friend on both sides or leaves a notification. Where something fails, its handler takes
the request back, whatever was done before.

That restores the lists if nothing but the request of this call was written. A request
from an earlier call is lost (`early_iff`), and a friendship that was given to the friend
before its second half failed stays with the friend alone (`late_iff`).
-/

namespace TwoGather

open Docs Requests

/-! ## `addFriend` with failures -/

/-- The operations of `addFriend`: the request, the two reads, the two updates that answer the
friend, and the notification. -/
inductive AddFriendOp
  | request
  | readUser
  | readFriend
  | befriendFriend
  | befriendUser
  | notify
  deriving DecidableEq

/-- The body of `addFriend`, whose operations may fail. -/
def addFriendBody (fails : AddFriendOp → Bool) (userId friendId : UserId) : Firestore Unit := do
  attempt (fails .request) (updateUser userId (·.request friendId))
  let userData ← attempt (fails .readUser) (getUser userId)
  let friendData ← attempt (fails .readFriend) (getUser friendId)
  if userId ∈ (optional User.friendsRequest friendData).elems then
    attempt (fails .befriendFriend) (updateUser friendId (·.befriend userId))
    attempt (fails .befriendUser) (updateUser userId (·.befriend friendId))
  else
    attempt (fails .notify)
      (addNotification friendId (friendRequestNotification userId userData))

/-- `addFriend` whose operations may fail; those of its handler do not. -/
def addFriendWith (fails : AddFriendOp → Bool) (userId friendId : UserId) : Firestore Unit :=
  tryCatch (addFriendBody fails userId friendId) fun _ => updateUser userId (·.unrequest friendId)

theorem addFriendWith_none (u v : UserId) : addFriendWith (fun _ => false) u v = addFriend u v := by
  unfold addFriendWith addFriendBody addFriend answerOrNotify
  rfl

/-! ## What is left in each case -/

section Outcomes

variable {s : Store} {u v : UserId} {fails : AddFriendOp → Bool}

/-- The store after the first operation. -/
def Store.asked (s : Store) (u v : UserId) : Store :=
  s.updateUser u (·.request v)

/-- The first operation that fails comes before every write but that of the request. -/
def Store.FailsEarly (s : Store) (fails : AddFriendOp → Bool) (u v : UserId) : Prop :=
  fails .request ∨ fails .readUser ∨ fails .readFriend ∨
    if u ∈ s.requestsOf v then fails .befriendFriend else fails .notify

theorem requestsOf_asked (distinct : u ≠ v) : (s.asked u v).requestsOf v = s.requestsOf v := by
  unfold Store.asked Store.requestsOf
  rw [Store.user_updateUser, if_neg distinct.symm]

theorem isSome_of_request (request : u ∈ s.requestsOf v) : (s.user v).isSome := by
  unfold Store.requestsOf at request
  cases found : s.user v with
  | none =>
      rw [found] at request
      cases request
  | some data => rfl

/-- The body after its first operation. -/
theorem addFriendBody_exec (user : (s.user u).isSome) (sent : fails .request = false)
    (mine : fails .readUser = false) (theirs : fails .readFriend = false) (distinct : u ≠ v) :
    (addFriendBody fails u v).exec s =
      if u ∈ s.requestsOf v then
        (do attempt (fails .befriendFriend) (updateUser v (·.befriend u))
            attempt (fails .befriendUser) (updateUser u (·.befriend v))
            : Firestore Unit).exec (s.asked u v)
      else
        (attempt (fails .notify)
          (addNotification v (friendRequestNotification u ((s.asked u v).user u)))).exec
            (s.asked u v) := by
  unfold addFriendBody
  simp only [sent, mine, theirs, Program.attempt_false, Program.exec_bind, exec_updateUser, user,
    if_true, exec_getUser, Program.exec_ite]
  rw [← requestsOf_asked (s := s) distinct]
  rfl

/-- The body raises its error before it has written more than the request. -/
theorem addFriendBody_early (distinct : u ≠ v) (user : (s.user u).isSome)
    (early : s.FailsEarly fails u v) :
    (addFriendBody fails u v).exec s =
      (.error .unavailable, if fails .request then s else s.asked u v) := by
  cases sent : fails .request with
  | true =>
      unfold addFriendBody
      simp only [sent, Program.attempt_true, Program.exec_bind, Program.exec_throw, if_true]
  | false =>
      cases mine : fails .readUser with
      | true =>
          unfold addFriendBody
          simp only [sent, mine, Program.attempt_false, Program.attempt_true, Program.exec_bind,
            exec_updateUser, user, if_true, Program.exec_throw]
          rfl
      | false =>
          cases theirs : fails .readFriend with
          | true =>
              unfold addFriendBody
              simp only [sent, mine, theirs, Program.attempt_false, Program.attempt_true,
                Program.exec_bind, exec_updateUser, user, if_true, exec_getUser,
                Program.exec_throw]
              rfl
          | false =>
              simp only [Store.FailsEarly, sent, mine, theirs, Bool.false_eq_true, false_or] at early
              rw [addFriendBody_exec user sent mine theirs distinct]
              split
              case isTrue request =>
                rw [if_pos request] at early
                simp only [early, Program.attempt_true, Program.exec_bind, Program.exec_throw]
                rfl
              case isFalse noRequest =>
                rw [if_neg noRequest] at early
                simp only [early, Program.attempt_true, Program.exec_throw]
                rfl

/-- Nothing failed early. -/
theorem not_failsEarly (notEarly : ¬ s.FailsEarly fails u v) :
    (fails .request = false ∧ fails .readUser = false ∧ fails .readFriend = false) ∧
      if u ∈ s.requestsOf v then fails .befriendFriend = false else fails .notify = false := by
  unfold Store.FailsEarly at notEarly
  simp only [not_or, Bool.not_eq_true] at notEarly
  obtain ⟨sent, mine, theirs, last⟩ := notEarly
  refine ⟨⟨sent, mine, theirs⟩, ?_⟩
  split
  case isTrue request => simpa only [request, if_true, Bool.not_eq_true] using last
  case isFalse noRequest => simpa only [noRequest, if_false, Bool.not_eq_true] using last

/-- The handler after an early failure takes the request of `u` out. -/
theorem addFriendWith_early (distinct : u ≠ v) (user : (s.user u).isSome)
    (early : s.FailsEarly fails u v) :
    ((addFriendWith fails u v).exec s).2.friendsOf = s.friendsOf ∧
      ((addFriendWith fails u v).exec s).2.requestsOf =
        Function.update s.requestsOf u (arrayRemove (s.requestsOf u) v) := by
  unfold addFriendWith
  rw [Program.exec_handled, addFriendBody_early distinct user early, exec_updateUser]
  dsimp only
  cases fails .request with
  | true => exact ⟨friendsOf_unrequest, requestsOf_unrequest user⟩
  | false =>
      have user' : ((s.asked u v).user u).isSome := by rwa [Store.asked, Store.isSome_updateUser]
      refine ⟨friendsOf_unrequest.trans friendsOf_request, ?_⟩
      refine (requestsOf_unrequest user').trans ?_
      rw [Store.asked, requestsOf_request user, Function.update_self, Function.update_idem,
        arrayRemove_arrayUnion]

/-- The handler after the friend was given the friendship. -/
theorem addFriendWith_late (distinct : u ≠ v) (user : (s.user u).isSome)
    (notEarly : ¬ s.FailsEarly fails u v) (request : u ∈ s.requestsOf v)
    (late : fails .befriendUser = true) :
    ((addFriendWith fails u v).exec s).2.friendsOf =
        Function.update s.friendsOf v (arrayUnion (s.friendsOf v) (connexion u)) ∧
      ((addFriendWith fails u v).exec s).2.requestsOf =
        Function.update (Function.update s.requestsOf u (arrayRemove (s.requestsOf u) v)) v
          (arrayRemove (s.requestsOf v) u) := by
  obtain ⟨⟨sent, mine, theirs⟩, last⟩ := not_failsEarly notEarly
  rw [if_pos request] at last
  have friend : ((s.asked u v).user v).isSome := by
    rw [Store.asked, Store.isSome_updateUser]
    exact isSome_of_request request
  have user' : ((s.asked u v).user u).isSome := by rwa [Store.asked, Store.isSome_updateUser]
  unfold addFriendWith
  rw [Program.exec_handled, addFriendBody_exec user sent mine theirs distinct, if_pos request]
  simp only [last, late, Program.attempt_false, Program.attempt_true, Program.exec_bind,
    exec_updateUser, friend, if_true, Program.exec_throw]
  refine ⟨?_, ?_⟩
  · rw [friendsOf_unrequest, friendsOf_befriend friend, Store.asked, friendsOf_request]
  · rw [requestsOf_unrequest (by rwa [Store.isSome_updateUser]), requestsOf_befriend friend,
      Function.update_of_ne distinct, requestsOf_asked distinct, Store.asked,
      requestsOf_request user, Function.update_self, arrayRemove_arrayUnion,
      Function.update_comm distinct, Function.update_idem, Function.update_comm distinct.symm]

/-- Nothing fails, and the two become friends. -/
theorem addFriendWith_answers (distinct : u ≠ v) (user : (s.user u).isSome)
    (notEarly : ¬ s.FailsEarly fails u v) (request : u ∈ s.requestsOf v)
    (works : fails .befriendUser = false) :
    Befriended ((addFriendWith fails u v).exec s).2 u v := by
  obtain ⟨⟨sent, mine, theirs⟩, last⟩ := not_failsEarly notEarly
  rw [if_pos request] at last
  have friend : ((s.asked u v).user v).isSome := by
    rw [Store.asked, Store.isSome_updateUser]
    exact isSome_of_request request
  have user' : ((s.asked u v).user u).isSome := by rwa [Store.asked, Store.isSome_updateUser]
  have user'' : (((s.asked u v).updateUser v (·.befriend u)).user u).isSome := by
    rwa [Store.isSome_updateUser]
  unfold addFriendWith
  rw [Program.exec_handled, addFriendBody_exec user sent mine theirs distinct, if_pos request]
  simp only [last, works, Program.attempt_false, Program.exec_bind, exec_updateUser, friend,
    user'', if_true]
  have friends := friendsOf_befriend (v := v) user''
  have requests := requestsOf_befriend (v := v) user''
  rw [friendsOf_befriend friend] at friends
  rw [requestsOf_befriend friend] at requests
  refine ⟨⟨connexion v, ?_, rfl⟩, ⟨connexion u, ?_, rfl⟩, ?_, ?_⟩
  · rw [friends, Function.update_self]
    simp
  · rw [friends, Function.update_of_ne distinct.symm, Function.update_self]
    simp
  · rw [requests, Function.update_self]
    simp
  · rw [requests, Function.update_of_ne distinct.symm, Function.update_self]
    simp

/-- Nothing fails, and the friend is told. -/
theorem addFriendWith_notifies (distinct : u ≠ v) (user : (s.user u).isSome)
    (notEarly : ¬ s.FailsEarly fails u v) (noRequest : u ∉ s.requestsOf v) :
    ((addFriendWith fails u v).exec s).2 =
      (s.asked u v).addNotification v
        (friendRequestNotification u ((s.asked u v).user u) s.clock) := by
  obtain ⟨⟨sent, mine, theirs⟩, last⟩ := not_failsEarly notEarly
  rw [if_neg noRequest] at last
  unfold addFriendWith
  rw [Program.exec_handled, addFriendBody_exec user sent mine theirs distinct, if_neg noRequest]
  simp only [last, Program.attempt_false, exec_addNotification]
  rfl

end Outcomes

/-! ## All or nothing -/

/-- `u` has an entry for `v`. -/
def Store.HasFriend (s : Store) (u v : UserId) : Prop :=
  ∃ e ∈ s.friendsOf u, e.user = v

instance (s : Store) (u v : UserId) : Decidable (s.HasFriend u v) :=
  inferInstanceAs (Decidable (∃ e ∈ _, _))

/-- The lists of the two users are as they were. -/
structure Restored (s t : Store) (u v : UserId) : Prop where
  friends : t.friendsOf u = s.friendsOf u
  friendsBack : t.friendsOf v = s.friendsOf v
  requests : t.requestsOf u = s.requestsOf u
  requestsBack : t.requestsOf v = s.requestsOf v

/-- The request of `u` is pending, and `v` has its notification. -/
structure RequestSent (t : Store) (u v : UserId) : Prop where
  request : v ∈ t.requestsOf u
  notification : ∃ doc ∈ (t.notifications v).docs,
    doc.2.notificationType = .friendRequest ∧ doc.2.notificationUser.id = u

/-- What a call of `addFriend` may leave. -/
def AllOrNothing (s t : Store) (u v : UserId) : Prop :=
  Restored s t u v ∨ Befriended t u v ∨ RequestSent t u v

/-- No older request of `u` is lost to an early failure, unless the two are friends already, and
no half of a friendship to a late one. -/
def Store.SurvivesFailure (s : Store) (fails : AddFriendOp → Bool) (u v : UserId) : Prop :=
  (s.FailsEarly fails u v →
    v ∉ s.requestsOf u ∨ (s.HasFriend u v ∧ s.HasFriend v u) ∧ u ∉ s.requestsOf v) ∧
  (¬ s.FailsEarly fails u v → u ∈ s.requestsOf v → fails .befriendUser → s.HasFriend u v)

section Exact

variable {s t : Store} {u v : UserId} {fails : AddFriendOp → Bool}

/-- What is left of an early failure: at most an older request is missing. -/
theorem early_iff (distinct : u ≠ v) (friends : t.friendsOf = s.friendsOf)
    (requests : t.requestsOf = Function.update s.requestsOf u (arrayRemove (s.requestsOf u) v)) :
    AllOrNothing s t u v ↔
      v ∉ s.requestsOf u ∨ (s.HasFriend u v ∧ s.HasFriend v u) ∧ u ∉ s.requestsOf v := by
  have mine : t.requestsOf u = arrayRemove (s.requestsOf u) v := by
    rw [requests, Function.update_self]
  have yours : t.requestsOf v = s.requestsOf v := by
    rw [requests, Function.update_of_ne distinct.symm]
  have taken : v ∉ t.requestsOf u := by simp [mine]
  constructor
  · intro outcome
    rcases outcome with restored | befriended | sent
    · exact .inl (arrayRemove_eq_self.mp (mine.symm.trans restored.requests))
    · refine .inr ⟨⟨?_, ?_⟩, yours ▸ befriended.noRequestBack⟩
      · rw [Store.HasFriend, ← friends]
        exact befriended.entry
      · rw [Store.HasFriend, ← friends]
        exact befriended.entryBack
    · exact absurd sent.request taken
  · intro either
    rcases either with none | ⟨⟨entry, entryBack⟩, noRequest⟩
    · left
      exact {
        friends := by rw [friends]
        friendsBack := by rw [friends]
        requests := mine.trans (arrayRemove_eq_self.mpr none)
        requestsBack := yours }
    · right
      left
      exact {
        entry := friends ▸ entry
        entryBack := friends ▸ entryBack
        noRequest := taken
        noRequestBack := yours ▸ noRequest }

/-- What is left of a late failure: the friend has its half of the friendship. -/
theorem late_iff (distinct : u ≠ v) (request : u ∈ s.requestsOf v)
    (friends : t.friendsOf =
      Function.update s.friendsOf v (arrayUnion (s.friendsOf v) (connexion u)))
    (requests : t.requestsOf =
      Function.update (Function.update s.requestsOf u (arrayRemove (s.requestsOf u) v)) v
        (arrayRemove (s.requestsOf v) u)) :
    AllOrNothing s t u v ↔ s.HasFriend u v := by
  have mine : t.friendsOf u = s.friendsOf u := by
    rw [friends, Function.update_of_ne distinct]
  have yours : connexion u ∈ t.friendsOf v := by
    rw [friends, Function.update_self]
    simp
  have taken : v ∉ t.requestsOf u := by
    rw [requests, Function.update_of_ne distinct, Function.update_self]
    simp
  have answered : u ∉ t.requestsOf v := by
    rw [requests, Function.update_self]
    simp
  constructor
  · intro outcome
    rcases outcome with restored | befriended | sent
    · exact absurd (restored.requestsBack ▸ request) answered
    · obtain ⟨e, member, entry⟩ := befriended.entry
      exact ⟨e, mine ▸ member, entry⟩
    · exact absurd sent.request taken
  · intro half
    obtain ⟨e, member, entry⟩ := half
    exact .inr (.inl ⟨⟨e, mine ▸ member, entry⟩, ⟨connexion u, yours, rfl⟩, taken, answered⟩)

/-- **Whichever operations fail, `addFriend` leaves all or nothing exactly when an early
failure has no older request to take back and a late one finds the other half of the
friendship in place.** -/
theorem addFriend_allOrNothing_iff (distinct : u ≠ v) (user : (s.user u).isSome) :
    AllOrNothing s ((addFriendWith fails u v).exec s).2 u v ↔ s.SurvivesFailure fails u v := by
  unfold Store.SurvivesFailure
  by_cases early : s.FailsEarly fails u v
  · obtain ⟨friends, requests⟩ := addFriendWith_early distinct user early
    simp only [early, true_imp_iff, not_true_eq_false, false_imp_iff, and_true]
    exact early_iff distinct friends requests
  · simp only [early, false_imp_iff, not_false_eq_true, true_imp_iff, true_and]
    by_cases request : u ∈ s.requestsOf v
    · simp only [request, true_imp_iff]
      cases last : fails .befriendUser with
      | true =>
          obtain ⟨friends, requests⟩ := addFriendWith_late distinct user early request last
          simp only [true_imp_iff]
          exact late_iff distinct request friends requests
      | false =>
          have befriended := addFriendWith_answers distinct user early request last
          simp only [Bool.false_eq_true, false_imp_iff, iff_true]
          exact .inr (.inl befriended)
    · simp only [request, false_imp_iff, iff_true]
      right
      right
      rw [addFriendWith_notifies distinct user early request]
      refine ⟨?_, ?_⟩
      · change v ∈ (s.updateUser u (·.request v)).requestsOf u
        rw [requestsOf_request user, Function.update_self]
        simp
      · rw [Store.notifications_addNotification, if_pos rfl, AutoCollection.docs_add]
        exact ⟨_, List.mem_append_right _ (List.mem_singleton_self _), rfl, rfl⟩

end Exact

/-- `b` has asked `a`, `a` answers, and the second update fails: `b` has a friend who has none. -/
theorem halfFriendship_left :
    ¬ AllOrNothing askedByB
      ((addFriendWith (fun op => op = .befriendUser) "a" "b").exec askedByB).2 "a" "b" := by
  intro outcome
  rcases outcome with restored | befriended | sent
  · have friends := restored.friendsBack
    revert friends
    decide
  · have entry := befriended.entry
    revert entry
    decide
  · have request := sent.request
    revert request
    decide

/-- The notification fails, and `a` had not asked before. -/
theorem firstRequest_takenBack :
    AllOrNothing newcomers
      ((addFriendWith (fun op => op = .notify) "a" "b").exec newcomers).2 "a" "b" :=
  (addFriend_allOrNothing_iff (by decide) (by decide)).mpr
    ⟨fun _ => .inl (by decide), fun _ request => absurd request (by decide)⟩

end TwoGather
