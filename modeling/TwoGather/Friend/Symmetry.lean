import TwoGather.Friend.Controller
import TwoGather.Lib.Adjacency
import TwoGather.Lib.Runs

/-!
# Friendships over whole runs

The `friends` arrays are the adjacency lists of a graph. From empty arrays on, every
call either leaves them alone or links its two users, so that every store of a run
represents a graph (`run_lists`): friendship is symmetric and has one entry on each
side (`friendship_symmetric`).

Two of the calls never change anything on such stores. `deleteFriend` compares
references by object identity and finds none; `addToFirstCircle` promotes entries of
type `fiestar` only, and no call of these creates one.
-/

namespace TwoGather

open Docs Requests Adjacency

/-! ## What each function does to the `friends` arrays -/

/-- The entry that every function creates. -/
def connexion (v : UserId) : Friend where
  type := .connexion
  user := v

theorem connexion_inverse : Function.LeftInverse Friend.user connexion := fun _ => rfl

section Effects

variable {s : Store} {u v : UserId}

/-- An update that leaves the field `friends` alone. -/
theorem friendsOf_updateUser_of_eq {g : User → User} (same : ∀ d, (g d).friends = d.friends) :
    (s.updateUser u g).friendsOf = s.friendsOf := by
  funext w
  unfold Store.friendsOf
  rw [Store.user_updateUser]
  split
  · cases s.user w with
    | none => rfl
    | some d => simp [optional, same]
  · rfl

@[simp] theorem friendsOf_request :
    (s.updateUser u (·.request v)).friendsOf = s.friendsOf :=
  friendsOf_updateUser_of_eq fun _ => rfl

@[simp] theorem friendsOf_unrequest :
    (s.updateUser u (·.unrequest v)).friendsOf = s.friendsOf :=
  friendsOf_updateUser_of_eq fun _ => rfl

@[simp] theorem friendsOf_addNotification (n : Notification) :
    (s.addNotification u n).friendsOf = s.friendsOf := rfl

@[simp] theorem friendsOf_updateNotification (k : Nat) (g : Notification → Notification) :
    (s.updateNotification u k g).friendsOf = s.friendsOf := rfl

/-- An update on each side links the two users. -/
theorem friendsOf_link (distinct : u ≠ v) (user : (s.user u).isSome) (friend : (s.user v).isSome)
    {g h : User → User} (addsV : ∀ d, (g d).friends = d.friends.union (connexion v))
    (addsU : ∀ d, (h d).friends = d.friends.union (connexion u)) :
    ((s.updateUser u g).updateUser v h).friendsOf = link connexion s.friendsOf u v := by
  have friend' : ((s.updateUser u g).user v).isSome := by rwa [Store.isSome_updateUser]
  rw [Store.friendsOf_updateUser friend' (arrayUnion · (connexion u)) fun d => by rw [addsU]; rfl,
    Store.friendsOf_updateUser user (arrayUnion · (connexion v)) fun d => by rw [addsV]; rfl,
    Function.update_of_ne distinct.symm]
  rfl

/-- `addFriendWithSwipe` links the two users or leaves all `friends` arrays alone. -/
theorem addFriendWithSwipe_friendsOf (distinct : u ≠ v) (user : (s.user u).isSome)
    (friend : (s.user v).isSome) :
    ((addFriendWithSwipe u v).exec s).2.friendsOf = s.friendsOf ∨
      ((addFriendWithSwipe u v).exec s).2.friendsOf = link connexion s.friendsOf u v := by
  obtain ⟨data, found⟩ := Option.isSome_iff_exists.mp friend
  rw [addFriendWithSwipe_eq, Program.exec_step, id, found, swipeAfterRead]
  split
  case isTrue =>
    cases decide (u ∈ data.friendsRequest.elems) with
    | true =>
        right
        rw [answerSwipe_match user friend]
        rw [friendsOf_link distinct (by simpa [distinct] using user)
          (by simpa [distinct.symm] using friend) (fun _ => rfl) fun _ => rfl]
        simp only [friendsOf_unrequest]
    | false =>
        left
        rw [answerSwipe_request user]
        exact friendsOf_request
  case isFalse => exact .inl rfl

theorem answerOrNotify_friendsOf (distinct : u ≠ v) (user : (s.user u).isSome)
    (friend : (s.user v).isSome) (userData friendData : Option User) :
    ∃ t, (answerOrNotify u v userData friendData).exec s = (.ok (), t) ∧
      (t.friendsOf = s.friendsOf ∨ t.friendsOf = link connexion s.friendsOf u v) := by
  unfold answerOrNotify
  split
  · simp only [Program.exec_bind, exec_updateUser, Store.isSome_updateUser, user, friend,
      ↓reduceIte]
    refine ⟨_, rfl, .inr ?_⟩
    rw [friendsOf_link distinct.symm friend user (fun _ => rfl) fun _ => rfl, link_comm distinct]
  · exact ⟨_, rfl, .inl rfl⟩

theorem addFriend_friendsOf (distinct : u ≠ v) (user : (s.user u).isSome)
    (friend : (s.user v).isSome) :
    ((addFriend u v).exec s).2.friendsOf = s.friendsOf ∨
      ((addFriend u v).exec s).2.friendsOf = link connexion s.friendsOf u v := by
  let asked := s.updateUser u (·.request v)
  have user' : (asked.user u).isSome := by rwa [Store.isSome_updateUser]
  have friend' : (asked.user v).isSome := by rwa [Store.isSome_updateUser]
  obtain ⟨t, run, effect⟩ :=
    answerOrNotify_friendsOf distinct user' friend' (asked.user u) (asked.user v)
  have store : ((addFriend u v).exec s).2 = t := by
    unfold addFriend
    simp only [Program.exec_tryCatch, Program.exec_bind, exec_updateUser, user, ↓reduceIte,
      exec_getUser]
    rw [run]
  rw [store]
  simpa only [asked, friendsOf_request] using effect

theorem confirmFriendRequest_friendsOf (distinct : u ≠ v) (user : (s.user u).isSome)
    (friend : (s.user v).isSome) (accepted : Bool) :
    ((confirmFriendRequest u v accepted).exec s).2.friendsOf = s.friendsOf ∨
      ((confirmFriendRequest u v accepted).exec s).2.friendsOf =
        link connexion s.friendsOf u v := by
  unfold confirmFriendRequest
  cases accepted with
  | false => exact .inl rfl
  | true =>
      right
      simp only [↓reduceIte, Program.exec_bind, exec_updateUser, Store.isSome_updateUser, user,
        friend, Program.exec_pure]
      rw [friendsOf_link distinct.symm friend user (fun _ => rfl) fun _ => rfl,
        link_comm distinct]

/-- Where an entry for the user is there, it is the one that would be added. -/
theorem friendsOf_accept (exist : (s.user u).isSome)
    (known : ∀ e ∈ s.friendsOf u, e.user = v → e = connexion v) :
    (s.updateUser u (·.accept v)).friendsOf =
      Function.update s.friendsOf u (arrayUnion (s.friendsOf u) (connexion v)) := by
  let guarded (xs : List Friend) : List Friend :=
    if ∃ e ∈ xs, e.user = v then xs else arrayUnion xs (connexion v)
  have effect : ∀ d : User, (d.accept v).friends.elems = guarded d.friends.elems := by
    intro d
    unfold User.accept
    simp only [guarded]
    split <;> rfl
  have same : guarded (s.friendsOf u) = arrayUnion (s.friendsOf u) (connexion v) := by
    simp only [guarded]
    split
    case isTrue present =>
      obtain ⟨e, member, entry⟩ := present
      rw [known e member entry] at member
      exact (if_pos member).symm
    case isFalse => rfl
  rw [Store.friendsOf_updateUser exist guarded effect, same]

/-- The transaction links the two users of a store whose entries are all connexions. -/
theorem acceptTransaction_friendsOf {G : SimpleGraph UserId} (distinct : u ≠ v)
    (user : (s.user u).isSome) (friend : (s.user v).isSome)
    (lists : Lists connexion s.friendsOf G) :
    ((acceptTransaction u v).exec s).2.friendsOf = link connexion s.friendsOf u v := by
  have known : ∀ w x, ∀ e ∈ s.friendsOf w, e.user = x → e = connexion x := by
    intro w x e member entry
    rw [← entry]
    exact (lists.entry_of_mem connexion_inverse member).2
  have first := friendsOf_accept user (known u v)
  have kept : (s.updateUser u (·.accept v)).friendsOf v = s.friendsOf v := by
    rw [first, Function.update_of_ne distinct.symm]
  have second := friendsOf_accept (s := s.updateUser u (·.accept v)) (v := u)
    (by rwa [Store.isSome_updateUser]) (by rw [kept]; exact known v u)
  have exist : (s.user u).isSome ∧ (s.user v).isSome := ⟨user, friend⟩
  have store : ((acceptTransaction u v).exec s).2 =
      (s.updateUser u (·.accept v)).updateUser v (·.accept u) := by
    unfold acceptTransaction
    rw [Program.exec_step, if_pos exist, if_pos exist]
    rfl
  rw [store, second, kept, first]
  rfl

theorem handleFriendRequest_friendsOf {G : SimpleGraph UserId} (distinct : u ≠ v)
    (user : (s.user u).isSome) (friend : (s.user v).isSome)
    (lists : Lists connexion s.friendsOf G) (notifId : Nat) (accepted : Bool) :
    ((handleFriendRequest u v notifId accepted).exec s).2.friendsOf = s.friendsOf ∨
      ((handleFriendRequest u v notifId accepted).exec s).2.friendsOf =
        link connexion s.friendsOf u v := by
  unfold handleFriendRequest
  rw [Program.exec_bind, exec_setNotificationAsComplete]
  cases accepted with
  | false =>
      left
      simp
  | true =>
      right
      exact acceptTransaction_friendsOf
        (s := s.updateNotification u notifId ({ · with isComplete := true })) distinct user friend
        lists

theorem addToFirstCircle_friendsOf {G : SimpleGraph UserId} (user : (s.user u).isSome)
    (lists : Lists connexion s.friendsOf G) (ids : List UserId) :
    ((addToFirstCircle u (s.friendsOf u) ids).exec s).2.friendsOf = s.friendsOf := by
  have unchanged : (s.friendsOf u).map (·.promote ids) = s.friendsOf u := by
    conv => rhs; rw [← List.map_id (s.friendsOf u)]
    refine List.map_congr_left fun e member => ?_
    rw [(lists.entry_of_mem connexion_inverse member).2]
    rfl
  unfold addToFirstCircle
  rw [exec_updateUser]
  rw [Store.friendsOf_updateUser user (fun _ => (s.friendsOf u).map (·.promote ids)) fun _ => rfl,
    unchanged, Function.update_eq_self]

theorem removeEntriesFor_exec (userFriends : List Friend) :
    (removeEntriesFor u v userFriends).exec s = (.ok (), s) := by
  unfold removeEntriesFor
  induction userFriends with
  | nil => rfl
  | cons e rest ih =>
      simp only [Program.forEach, sameObject, Bool.false_eq_true, ↓reduceIte, Program.exec_bind,
        Program.exec_pure] at ih ⊢
      exact ih

/-- `deleteFriend` changes nothing. -/
theorem deleteFriend_exec : (deleteFriend u v).exec s = (.ok true, s) := by
  unfold deleteFriend
  simp only [Program.exec_bind, exec_getUser, removeEntriesFor_exec, Program.exec_pure]

end Effects

/-! ## Runs of calls -/

/-- A call of one of the functions. -/
inductive FriendCall
  | addFriend (userId friendId : UserId)
  | addFriendWithSwipe (userId friendId : UserId)
  | confirmFriendRequest (userId friendId : UserId) (accepted : Bool)
  | handleFriendRequest (userId friendId : UserId) (notifId : Nat) (accepted : Bool)
  | addToFirstCircle (userId : UserId) (ids : List UserId)
  | deleteFriend (userId friendId : UserId)

namespace FriendCall

/-- The store after the call. `addToFirstCircle` is given the caller's current list. -/
def step (s : Store) : FriendCall → Store
  | .addFriend u v => ((TwoGather.addFriend u v).exec s).2
  | .addFriendWithSwipe u v => ((TwoGather.addFriendWithSwipe u v).exec s).2
  | .confirmFriendRequest u v accepted =>
      ((TwoGather.confirmFriendRequest u v accepted).exec s).2
  | .handleFriendRequest u v notifId accepted =>
      ((TwoGather.handleFriendRequest u v notifId accepted).exec s).2
  | .addToFirstCircle u ids => ((TwoGather.addToFirstCircle u (s.friendsOf u) ids).exec s).2
  | .deleteFriend u v => ((TwoGather.deleteFriend u v).exec s).2

/-- The call is about existing, distinct users. -/
def Valid (s : Store) : FriendCall → Prop
  | .addFriend u v => u ≠ v ∧ (s.user u).isSome ∧ (s.user v).isSome
  | .addFriendWithSwipe u v => u ≠ v ∧ (s.user u).isSome ∧ (s.user v).isSome
  | .confirmFriendRequest u v _ => u ≠ v ∧ (s.user u).isSome ∧ (s.user v).isSome
  | .handleFriendRequest u v _ _ => u ≠ v ∧ (s.user u).isSome ∧ (s.user v).isSome
  | .addToFirstCircle u _ => (s.user u).isSome
  | .deleteFriend u v => u ≠ v ∧ (s.user u).isSome ∧ (s.user v).isSome

instance (s : Store) : (call : FriendCall) → Decidable (call.Valid s)
  | .addFriend u v | .addFriendWithSwipe u v | .confirmFriendRequest u v _
  | .handleFriendRequest u v _ _ | .deleteFriend u v =>
      inferInstanceAs (Decidable (u ≠ v ∧ (s.user u).isSome ∧ (s.user v).isSome))
  | .addToFirstCircle u _ => inferInstanceAs (Decidable ((s.user u).isSome))

/-- A call keeps the graph or adds the edge between its two users. -/
theorem step_lists {s : Store} {call : FriendCall} (valid : call.Valid s) {G : SimpleGraph UserId}
    (lists : Lists connexion s.friendsOf G) :
    ∃ H, G ≤ H ∧ Lists connexion (call.step s).friendsOf H := by
  have linked : ∀ {t : Store} {u v : UserId}, u ≠ v →
      t.friendsOf = s.friendsOf ∨ t.friendsOf = link connexion s.friendsOf u v →
        ∃ H, G ≤ H ∧ Lists connexion t.friendsOf H := by
    intro t u v distinct either
    rcases either with same | added
    · exact ⟨G, le_rfl, same ▸ lists⟩
    · exact ⟨G ⊔ SimpleGraph.edge u v, le_sup_left, added ▸ lists.link distinct⟩
  cases call with
  | addFriend u v =>
      obtain ⟨distinct, user, friend⟩ := valid
      exact linked distinct (addFriend_friendsOf distinct user friend)
  | addFriendWithSwipe u v =>
      obtain ⟨distinct, user, friend⟩ := valid
      exact linked distinct (addFriendWithSwipe_friendsOf distinct user friend)
  | confirmFriendRequest u v accepted =>
      obtain ⟨distinct, user, friend⟩ := valid
      exact linked distinct (confirmFriendRequest_friendsOf distinct user friend accepted)
  | handleFriendRequest u v notifId accepted =>
      obtain ⟨distinct, user, friend⟩ := valid
      exact linked distinct
        (handleFriendRequest_friendsOf distinct user friend lists notifId accepted)
  | addToFirstCircle u ids =>
      have user : (s.user u).isSome := valid
      exact ⟨G, le_rfl, addToFirstCircle_friendsOf user lists ids ▸ lists⟩
  | deleteFriend u v =>
      refine ⟨G, le_rfl, ?_⟩
      simp only [step, deleteFriend_exec]
      exact lists

end FriendCall

/-- Every store of a run from empty arrays represents a graph of friendships. -/
theorem reached_lists {s : Store} {calls : List FriendCall} (empty : ∀ u, s.friendsOf u = [])
    (valid : Along FriendCall.step FriendCall.Valid s calls) :
    ∀ t, Reached FriendCall.step s calls t → ∃ G, Lists connexion t.friendsOf G :=
  all_reached (P := fun t => ∃ G, Lists connexion t.friendsOf G)
    (fun _ _ ⟨_, lists⟩ ready =>
      let ⟨H, _, lists'⟩ := FriendCall.step_lists ready lists
      ⟨H, lists'⟩)
    ⟨⊥, .empty empty⟩ valid

/-- **In every store of a run from empty arrays, a user is in the list of another exactly
when the other is in its own, and no list has two entries for one user.** -/
theorem friendship_symmetric {s : Store} {calls : List FriendCall}
    (empty : ∀ u, s.friendsOf u = [])
    (valid : Along FriendCall.step FriendCall.Valid s calls) :
    ∀ t, Reached FriendCall.step s calls t →
      (∀ u v, (∃ e ∈ t.friendsOf u, e.user = v) ↔ ∃ e ∈ t.friendsOf v, e.user = u) ∧
        ∀ u, ((t.friendsOf u).map Friend.user).Nodup := by
  intro t reached
  obtain ⟨G, lists⟩ := reached_lists empty valid t reached
  exact ⟨lists.symmetric connexion_inverse, lists.single connexion_inverse⟩

/-- Three users without friends. -/
def newcomers : Store := .ofUsers ⟨[("a", {}), ("b", {}), ("c", {})], by decide⟩

theorem newcomers_friendsOf (u : UserId) : newcomers.friendsOf u = [] := by
  unfold Store.friendsOf
  cases found : newcomers.user u with
  | none => rfl
  | some data =>
      have fresh : ∀ u data, newcomers.user u = some data → data.friends = .undefined :=
        Store.forall_user.mpr (by decide)
      simp [optional, fresh u data found]

/-- Crossing requests, a swipe that finds a request, and an accepted request. -/
def meetings : List FriendCall :=
  [.addFriend "a" "b", .addFriendWithSwipe "b" "a", .addFriend "c" "a",
    .handleFriendRequest "a" "c" 0 true, .addToFirstCircle "a" ["b"], .deleteFriend "a" "b"]

theorem meetings_symmetric :
    (run FriendCall.step newcomers meetings).friendsOf "a" = [connexion "b", connexion "c"] ∧
      ∀ t, Reached FriendCall.step newcomers meetings t →
        (∀ u v, (∃ e ∈ t.friendsOf u, e.user = v) ↔ ∃ e ∈ t.friendsOf v, e.user = u) ∧
          ∀ u, ((t.friendsOf u).map Friend.user).Nodup :=
  ⟨by decide, friendship_symmetric newcomers_friendsOf (by decide)⟩

end TwoGather
