import TwoGather.Friend.CrossingSwipes

/-!
# The cloud functions next to the app

`add_friend_with_swipe.ts` does what the swipe of the app does, request by request, but
looks for the pending request in the document of the user who swipes, where the app looks
in the document of the friend. The two leave the same lists exactly when both documents
answer alike (`swipes_agree_iff`).

`delete_friend.ts` compares references as objects, so it returns `true` without a write,
and deletes a friendship exactly when there is none (`deleteFriend_deletes_iff`).
-/

namespace TwoGather

open Docs Requests Adjacency

/-! ## `add_friend_with_swipe.ts` -/

def Functions.addFriendWithSwipe (userId friendId : UserId) : Firestore Bool := do
  -- `friendData` is read from the document of the user
  let friendData ← getUser userId
  if userId ∈ (optional User.friendsRequest friendData).elems then
    updateUser friendId (·.unrequest userId)
    updateUser userId (·.unrequest friendId)
    updateUser friendId (·.addConnexion userId)
    updateUser userId (·.addConnexion friendId)
  else
    updateUser userId (·.request friendId)
  return true

section Swipes

variable {s : Store} {u v : UserId}

/-- The cloud function in one step: a match is that of the app with the users exchanged. -/
theorem Functions.addFriendWithSwipe_store (user : (s.user u).isSome) (friend : (s.user v).isSome) :
    ((Functions.addFriendWithSwipe u v).exec s).2 =
      if u ∈ s.requestsOf u then s.matchSwipe v u else s.updateUser u (·.request v) := by
  unfold Functions.addFriendWithSwipe
  rw [Program.exec_bind, exec_getUser]
  change (Program.exec (if u ∈ s.requestsOf u then _ else _) s).2 = _
  split
  case isTrue =>
    simp only [Program.exec_bind, exec_updateUser, Store.isSome_updateUser, user, friend,
      ↓reduceIte, Program.exec_pure]
    rfl
  case isFalse =>
    simp only [Program.exec_bind, exec_updateUser, user, ↓reduceIte, Program.exec_pure]

/-- `FiestarUserModel.fromJson` accepts the document of the user. -/
def Store.Readable (s : Store) (u : UserId) : Prop :=
  (s.user u).any (·.wellTyped) = true

instance (s : Store) (u : UserId) : Decidable (s.Readable u) :=
  inferInstanceAs (Decidable (_ = _))

/-- The swipe of the app in one step; it fails on a friend that it cannot read. -/
theorem addFriendWithSwipe_store (user : (s.user u).isSome) (friend : (s.user v).isSome) :
    ((TwoGather.addFriendWithSwipe u v).exec s).2 =
      if s.Readable v then
        if u ∈ s.requestsOf v then s.matchSwipe u v else s.updateUser u (·.request v)
      else s := by
  obtain ⟨data, found⟩ := Option.isSome_iff_exists.mp friend
  have readable : s.Readable v ↔ data.wellTyped := by
    rw [Store.Readable, found]
    rfl
  have asked : s.requestsOf v = data.friendsRequest.elems := by
    rw [Store.requestsOf, found]
    rfl
  rw [addFriendWithSwipe_eq, Program.exec_step, id, found, swipeAfterRead, Program.exec_ite, asked]
  simp only [readable]
  split
  case isTrue =>
    split
    case isTrue request =>
      rw [decide_eq_true request, answerSwipe_match user friend]
      rfl
    case isFalse noRequest => rw [decide_eq_false noRequest, answerSwipe_request user]
  case isFalse => rfl

end Swipes

/-! ## Two stores with the same lists -/

/-- The user has the same friends and the same requests in both, as sets. -/
structure SameLists (s t : Store) (w : UserId) : Prop where
  friends : ∀ e, e ∈ s.friendsOf w ↔ e ∈ t.friendsOf w
  requests : ∀ x, x ∈ s.requestsOf w ↔ x ∈ t.requestsOf w

namespace SameLists

variable {s t : Store} {u v w : UserId}

theorem of_eq (friends : s.friendsOf = t.friendsOf) (requests : s.requestsOf = t.requestsOf) :
    SameLists s t w where
  friends e := by rw [friends]
  requests x := by rw [requests]

theorem symm (same : SameLists s t w) : SameLists t s w where
  friends e := (same.friends e).symm
  requests x := (same.requests x).symm

/-- The two ways to write a match. -/
theorem matchSwipe (distinct : u ≠ v) (user : (s.user u).isSome) (friend : (s.user v).isSome) :
    SameLists (s.matchSwipe u v) (s.matchSwipe v u) w := by
  refine .of_eq ?_ ?_
  · rw [friendsOf_matchSwipe distinct user friend,
      friendsOf_matchSwipe distinct.symm friend user, link_comm distinct]
  · rw [requestsOf_matchSwipe distinct user friend,
      requestsOf_matchSwipe distinct.symm friend user, Function.update_comm distinct]

/-- After a match the user has no request for the other, after a request one. -/
theorem not_match_request (user : (s.user u).isSome)
    (matched : Befriended t u v) : ¬ SameLists t (s.updateUser u (·.request v)) u := by
  intro same
  refine matched.noRequest ((same.requests v).mpr ?_)
  rw [requestsOf_request user, Function.update_self]
  simp

/-- A request changes nothing exactly when it is there. -/
theorem request_iff (user : (s.user u).isSome) :
    SameLists s (s.updateUser u (·.request v)) u ∧ SameLists s (s.updateUser u (·.request v)) v ↔
      v ∈ s.requestsOf u := by
  have requests := requestsOf_request (v := v) user
  constructor
  · intro same
    refine (same.1.requests v).mpr ?_
    rw [requests, Function.update_self]
    simp
  · intro there
    have kept : (s.updateUser u (·.request v)).requestsOf = s.requestsOf := by
      rw [requests, arrayUnion, if_pos there, Function.update_eq_self]
    exact ⟨.of_eq friendsOf_request.symm kept.symm, .of_eq friendsOf_request.symm kept.symm⟩

/-- A match changes nothing exactly when its friendship is there and no request. -/
theorem match_iff (distinct : u ≠ v) (user : (s.user u).isSome) (friend : (s.user v).isSome) :
    SameLists s (s.matchSwipe u v) u ∧ SameLists s (s.matchSwipe u v) v ↔
      (connexion v ∈ s.friendsOf u ∧ connexion u ∈ s.friendsOf v) ∧
        v ∉ s.requestsOf u ∧ u ∉ s.requestsOf v := by
  have friends := friendsOf_matchSwipe distinct user friend
  have requests := requestsOf_matchSwipe distinct user friend
  have mine : (s.matchSwipe u v).friendsOf u = arrayUnion (s.friendsOf u) (connexion v) := by
    rw [friends, link_apply distinct, if_pos rfl]
  have yours : (s.matchSwipe u v).friendsOf v = arrayUnion (s.friendsOf v) (connexion u) := by
    rw [friends, link_apply distinct, if_neg distinct.symm, if_pos rfl]
  have myRequests : (s.matchSwipe u v).requestsOf u = arrayRemove (s.requestsOf u) v := by
    rw [requests, Function.update_of_ne distinct, Function.update_self]
  have yourRequests : (s.matchSwipe u v).requestsOf v = arrayRemove (s.requestsOf v) u := by
    rw [requests, Function.update_self]
  constructor
  · intro same
    obtain ⟨sameU, sameV⟩ := same
    refine ⟨⟨(sameU.friends _).mpr ?_, (sameV.friends _).mpr ?_⟩, fun there => ?_, fun there => ?_⟩
    · rw [mine]
      simp
    · rw [yours]
      simp
    · have left := (sameU.requests v).mp there
      simp [myRequests] at left
    · have left := (sameV.requests u).mp there
      simp [yourRequests] at left
  · intro settled
    obtain ⟨⟨entry, entryBack⟩, noRequest, noRequestBack⟩ := settled
    refine ⟨⟨fun e => ?_, fun x => ?_⟩, fun e => ?_, fun x => ?_⟩
    · rw [mine, arrayUnion, if_pos entry]
    · rw [myRequests, mem_arrayRemove, and_iff_left_of_imp]
      intro there same
      exact noRequest (same ▸ there)
    · rw [yours, arrayUnion, if_pos entryBack]
    · rw [yourRequests, mem_arrayRemove, and_iff_left_of_imp]
      intro there same
      exact noRequestBack (same ▸ there)

end SameLists

/-! ## When the two swipes agree -/

/-- The document of the friend and that of the user give the same answer to the question
whether the user was asked for. Where the app cannot read the friend, it writes nothing, and
the cloud function must find what it writes. -/
def Store.SwipesAgree (s : Store) (u v : UserId) : Prop :=
  if s.Readable v then u ∈ s.requestsOf v ↔ u ∈ s.requestsOf u
  else if u ∈ s.requestsOf u then
    (connexion v ∈ s.friendsOf u ∧ connexion u ∈ s.friendsOf v) ∧
      v ∉ s.requestsOf u ∧ u ∉ s.requestsOf v
  else v ∈ s.requestsOf u

/-- **The cloud function and the app leave the same friends and requests with both users
exactly when the document of the user says what that of the friend says.** -/
theorem swipes_agree_iff {s : Store} {u v : UserId} (distinct : u ≠ v) (user : (s.user u).isSome)
    (friend : (s.user v).isSome) :
    (∀ w, w = u ∨ w = v →
      SameLists ((TwoGather.addFriendWithSwipe u v).exec s).2
        ((Functions.addFriendWithSwipe u v).exec s).2 w) ↔ s.SwipesAgree u v := by
  rw [addFriendWithSwipe_store user friend, Functions.addFriendWithSwipe_store user friend]
  simp only [forall_eq_or_imp, forall_eq]
  unfold Store.SwipesAgree
  have meet := befriended_matchSwipe distinct user friend
  have meetBack := (befriended_matchSwipe distinct.symm friend user).symm
  split
  case isTrue =>
    by_cases app : u ∈ s.requestsOf v
    · by_cases cloud : u ∈ s.requestsOf u
      · simp only [app, cloud, if_true, iff_true]
        exact ⟨.matchSwipe distinct user friend, .matchSwipe distinct user friend⟩
      · simp only [app, cloud, if_true, if_false, iff_false, not_true_eq_false]
        exact fun same => SameLists.not_match_request user meet same.1
    · by_cases cloud : u ∈ s.requestsOf u
      · simp only [app, cloud, if_true, if_false, iff_true, iff_false]
        exact fun same => SameLists.not_match_request user meetBack same.1.symm
      · simp only [app, cloud, if_false, iff_self, iff_true]
        exact ⟨.of_eq rfl rfl, .of_eq rfl rfl⟩
  case isFalse =>
    split
    case isTrue =>
      rw [and_comm, SameLists.match_iff distinct.symm friend user]
      tauto
    case isFalse => exact SameLists.request_iff user

/-- `b` has a request for `a`, and nobody one for `b`. -/
def askedByB : Store :=
  .ofUsers ⟨[("a", {}), ("b", { friendsRequest := .value ["a"] })], by decide⟩

/-- `a` swipes `b`: the app makes them friends, the cloud function leaves a second request. -/
theorem askedByB_disagree :
    ¬ ∀ w, w = "a" ∨ w = "b" →
      SameLists ((TwoGather.addFriendWithSwipe "a" "b").exec askedByB).2
        ((Functions.addFriendWithSwipe "a" "b").exec askedByB).2 w := by
  intro same
  have requests := (same "a" (.inl rfl)).requests "b"
  revert requests
  decide

/-- `b` swipes back: the document of `b` itself has no request for `b`, nor has that of `a`. -/
theorem askedByB_agree :
    ((TwoGather.addFriendWithSwipe "b" "a").exec askedByB).2.requestsOf "b" = ["a"] ∧
      ∀ w, w = "b" ∨ w = "a" →
        SameLists ((TwoGather.addFriendWithSwipe "b" "a").exec askedByB).2
          ((Functions.addFriendWithSwipe "b" "a").exec askedByB).2 w :=
  ⟨by decide,
    (swipes_agree_iff (by decide) (by decide) (by decide)).mpr (by unfold Store.SwipesAgree; decide)⟩

/-! ## `delete_friend.ts` -/

/-- No entry of the list is for the user. -/
def NoEntryFor (friends : List Friend) (w : UserId) : Prop :=
  ∀ e ∈ friends, e.user ≠ w

/-- What is left of a list without its entries for the user. -/
def entriesForOthers (friends : List Friend) (w : UserId) : List Friend :=
  friends.filter (·.user ≠ w)

/-- The friendship of the two is gone, and the rest of both lists is as it was. -/
structure Deleted (s t : Store) (u v : UserId) : Prop where
  gone : NoEntryFor (t.friendsOf u) v
  goneBack : NoEntryFor (t.friendsOf v) u
  others : entriesForOthers (t.friendsOf u) v = entriesForOthers (s.friendsOf u) v
  othersBack : entriesForOthers (t.friendsOf v) u = entriesForOthers (s.friendsOf v) u

/-- **`deleteFriend` returns `true`, and the friendship is deleted exactly when neither list
had an entry for the other.** -/
theorem deleteFriend_deletes_iff (s : Store) (u v : UserId) :
    ((deleteFriend u v).exec s).1 = .ok true ∧
      (Deleted s ((deleteFriend u v).exec s).2 u v ↔
        NoEntryFor (s.friendsOf u) v ∧ NoEntryFor (s.friendsOf v) u) := by
  rw [deleteFriend_exec]
  refine ⟨rfl, fun deleted => ⟨deleted.gone, deleted.goneBack⟩, fun none => ?_⟩
  exact ⟨none.1, none.2, rfl, rfl⟩

/-- Two friends. -/
def pairOfFriends : Store :=
  .ofUsers ⟨[("a", { friends := .value [connexion "b"] }),
    ("b", { friends := .value [connexion "a"] })], by decide⟩

theorem pairOfFriends_notDeleted :
    ((deleteFriend "a" "b").exec pairOfFriends).1 = .ok true ∧
      ¬ Deleted pairOfFriends ((deleteFriend "a" "b").exec pairOfFriends).2 "a" "b" := by
  refine ⟨rfl, fun deleted => ?_⟩
  exact deleted.gone (connexion "b") (by decide) rfl

end TwoGather
