import TwoGather.Friend.Symmetry

/-!
# Accepting a friend request, whatever the documents hold

The documents of `users` have no schema: `friends` may hold anything, and so may the
array. This module models `handleFriendRequest` on such documents, with the casts of its
transaction and the comparison that it makes of each element, which may throw.

Accepting a request is safe on all of them (`handleFriendRequest_safe`). Where every element
is an entry of the app, the transaction is the one of `TwoGather/Friend/Controller.lean`
(`acceptTransaction_simulates`).
-/

namespace TwoGather

open Docs Requests

/-! ## Documents without a schema -/

/-- A field that should hold an array. -/
inductive ArrayField (α : Type)
  | missing
  | null
  | array (xs : List α)
  | other (value : String)
  deriving DecidableEq

namespace ArrayField

variable {α : Type}

/-- `(field as List<dynamic>?) ?? []`. -/
def asList : ArrayField α → Except Err (List α)
  | .array xs => pure xs
  | .other _ => throw .typeError
  | _ => pure []

/-- The elements that an array write finds: a field that is no array is overwritten. -/
def elems : ArrayField α → List α
  | .array xs => xs
  | _ => []

def ofStored : Stored (List α) → ArrayField α
  | .undefined => .missing
  | .null => .null
  | .value xs => .array xs

theorem elems_of_asList {f : ArrayField α} {xs : List α} (cast : f.asList = .ok xs) :
    f.elems = xs := by
  cases f with
  | missing => exact Except.ok.inj cast
  | null => exact Except.ok.inj cast
  | array ys => exact Except.ok.inj cast
  | other value => cases cast

@[simp] theorem asList_ofStored (f : Stored (List α)) : (ofStored f).asList = .ok f.elems := by
  cases f with
  | undefined => rfl
  | null => rfl
  | value xs => rfl

variable [DecidableEq α]

/-- `FieldValue.arrayUnion(x)`. -/
def union (f : ArrayField α) (x : α) : ArrayField α :=
  .array (arrayUnion f.elems x)

/-- `FieldValue.arrayRemove(x)`. -/
def remove (f : ArrayField α) (x : α) : ArrayField α :=
  .array (arrayRemove f.elems x)

@[simp] theorem elems_union (f : ArrayField α) (x : α) :
    (f.union x).elems = arrayUnion f.elems x := rfl

@[simp] theorem elems_remove (f : ArrayField α) (x : α) :
    (f.remove x).elems = arrayRemove f.elems x := rfl

/-- Taking an element out a second time changes nothing. -/
@[simp] theorem remove_remove (f : ArrayField α) (x : α) : (f.remove x).remove x = f.remove x := by
  unfold remove
  rw [elems, arrayRemove_eq_self.mpr (by simp)]

theorem remove_ofStored (f : Stored (List α)) (x : α) :
    (ofStored f).remove x = ofStored (f.remove x) := by
  cases f with
  | undefined => rfl
  | null => rfl
  | value xs => rfl

end ArrayField

/-- An element of a `friends` array: an entry, a map with no reference under `user`, or no
map at all. -/
inductive FriendValue
  | entry (e : Friend)
  | map (value : String)
  | scalar (value : String)
  deriving DecidableEq

namespace FriendValue

/-- `e is Map && (e['user'] as DocumentReference).id == friendId`. -/
def compare (friendId : UserId) : FriendValue → Except Err Bool
  | .entry e => pure (e.user = friendId)
  | .map _ => throw .typeError
  | .scalar _ => pure false

/-- The comparison in its `try`. -/
def isFriend (friendId : UserId) (x : FriendValue) : Bool :=
  match x.compare friendId with
  | .ok answer => answer
  | .error _ => false

theorem isFriend_iff {friendId : UserId} {x : FriendValue} :
    x.isFriend friendId ↔ ∃ e, x = .entry e ∧ e.user = friendId := by
  cases x with
  | entry e => simp [isFriend, compare, pure, Except.pure]
  | map value => simp [isFriend, compare, throw, throwThe, MonadExceptOf.throw]
  | scalar value => simp [isFriend, compare, pure, Except.pure]

end FriendValue

/-- A document of `users` as the transaction finds it. -/
structure UserDocument where
  friends : ArrayField FriendValue := .missing
  friendsRequest : ArrayField UserId := .missing
  deriving DecidableEq

/-- The documents of `users` and their notifications. -/
structure Accounts where
  users : Collection UserId UserDocument
  notifications : UserId → AutoCollection Notification

/-! ## `notification_controller.dart` -/

/-- Whether the friends of a snapshot have an entry for the user; the data of a missing document
is an empty map. -/
def alreadyFriends (snap : Option UserDocument) (friendId : UserId) : Except Err Bool := do
  let friends ← (snap.getD {}).friends.asList
  return friends.any (·.isFriend friendId)

/-- The map given to `tx.update`; `friends` is in it unless the entry is there already. -/
def UserDocument.acceptUpdate (d : UserDocument) (friendId : UserId) (already : Bool) :
    UserDocument where
  friends := if already then d.friends else d.friends.union (.entry (connexion friendId))
  friendsRequest := d.friendsRequest.remove friendId

/-- The store after the two `tx.update`. -/
def Accounts.acceptUpdates (s : Accounts) (userId friendId : UserId)
    (alreadyForUser alreadyForFriend : Bool) : Accounts :=
  { s with
    users := (s.users.update userId (·.acceptUpdate friendId alreadyForUser)).update friendId
      (·.acceptUpdate userId alreadyForFriend) }

/-- The body of the transaction, and its commit: the service checks that the documents of its
updates exist, and may refuse for reasons of its own. -/
def Accounts.acceptRequest (commits : Bool) (userId friendId : UserId) (s : Accounts) :
    Except Err Accounts := do
  let alreadyForUser ← alreadyFriends (s.users.get? userId) friendId
  let alreadyForFriend ← alreadyFriends (s.users.get? friendId) userId
  if (s.users.get? userId).isSome ∧ (s.users.get? friendId).isSome then
    if commits then return s.acceptUpdates userId friendId alreadyForUser alreadyForFriend
    else throw .unavailable
  else throw .notFound

def Notification.complete (n : Notification) : Notification :=
  { n with isComplete := true }

def Accounts.setComplete (s : Accounts) (u : UserId) (k : Nat) : Accounts :=
  { s with
    notifications := Function.update s.notifications u
      ((s.notifications u).update k Notification.complete) }

/-- `users.doc(friendId).update({"friendsRequest": FieldValue.arrayRemove([userId])})`. -/
def Accounts.unrequest (userId friendId : UserId) : Program Accounts Err Unit :=
  .step
    (fun s =>
      { s with
        users := s.users.update friendId fun d =>
          { d with friendsRequest := d.friendsRequest.remove userId } })
    fun s => if (s.users.get? friendId).isSome then pure () else throw .notFound

/-- An error of `setNotificationAsComplete` is caught there. -/
def NotificationController.handleFriendRequest (commits : Bool) (userId friendId : UserId)
    (notifId : Nat) (accepted : Bool) : Program Accounts Err Unit := do
  Program.step (·.setComplete userId notifId) fun _ => pure ()
  if accepted then
    Program.transaction (Accounts.acceptRequest commits userId friendId)
  else
    Accounts.unrequest userId friendId

/-! ## What a commit does to each document -/

/-- The document has an entry for the user, of any type. -/
def UserDocument.HasEntryFor (d : UserDocument) (w : UserId) : Prop :=
  ∃ x ∈ d.friends.elems, x.isFriend w

instance (d : UserDocument) (w : UserId) : Decidable (d.HasEntryFor w) :=
  inferInstanceAs (Decidable (∃ x ∈ _, _))

/-- How the document `d` becomes `d'` when `w` is accepted. -/
structure AcceptedSide (d d' : UserDocument) (w : UserId) : Prop where
  entry : d'.HasEntryFor w
  kept : d.HasEntryFor w → d'.friends = d.friends
  appended : ¬ d.HasEntryFor w → d'.friends = .array (d.friends.elems ++ [.entry (connexion w)])
  noRequest : w ∉ d'.friendsRequest.elems
  requests : d'.friendsRequest.elems = d.friendsRequest.elems.filter (· ≠ w)

section Documents

variable {d : UserDocument} {w : UserId} {already : Bool}

theorem alreadyFriends_ok {snap : Option UserDocument}
    (cast : alreadyFriends snap w = .ok already) : already ↔ (snap.getD {}).HasEntryFor w := by
  unfold alreadyFriends at cast
  cases list : (snap.getD {}).friends.asList with
  | error e =>
      rw [list] at cast
      cases cast
  | ok friends =>
      rw [list] at cast
      cases cast
      rw [UserDocument.HasEntryFor, ArrayField.elems_of_asList list, List.any_eq_true]

theorem UserDocument.hasEntryFor_acceptUpdate (found : already ↔ d.HasEntryFor w) :
    (d.acceptUpdate w already).HasEntryFor w := by
  unfold UserDocument.acceptUpdate UserDocument.HasEntryFor
  cases already with
  | true => exact found.mp rfl
  | false =>
      refine ⟨.entry (connexion w), ?_, FriendValue.isFriend_iff.mpr ⟨_, rfl, rfl⟩⟩
      simp

theorem UserDocument.acceptedSide (found : already ↔ d.HasEntryFor w) :
    AcceptedSide d (d.acceptUpdate w already) w where
  entry := UserDocument.hasEntryFor_acceptUpdate found
  kept has := by
    rw [UserDocument.acceptUpdate, if_pos (found.mpr has)]
  appended none := by
    have absent : .entry (connexion w) ∉ d.friends.elems := by
      intro member
      exact none ⟨_, member, FriendValue.isFriend_iff.mpr ⟨_, rfl, rfl⟩⟩
    rw [UserDocument.acceptUpdate, if_neg (mt found.mp none), ArrayField.union, arrayUnion,
      if_neg absent]
  noRequest := by simp [UserDocument.acceptUpdate]
  requests := rfl

/-- Accepting again changes nothing. -/
theorem UserDocument.acceptUpdate_again :
    (d.acceptUpdate w already).acceptUpdate w true = d.acceptUpdate w already := by
  unfold UserDocument.acceptUpdate
  simp

end Documents

/-! ## What a commit does to the store -/

/-- The request of `friendId` is accepted by `userId`. -/
structure RequestAccepted (s t : Accounts) (userId friendId : UserId) : Prop where
  user : ∃ d d', s.users.get? userId = some d ∧ t.users.get? userId = some d' ∧
    AcceptedSide d d' friendId
  friend : ∃ d d', s.users.get? friendId = some d ∧ t.users.get? friendId = some d' ∧
    AcceptedSide d d' userId
  others : ∀ w, w ≠ userId → w ≠ friendId → t.users.get? w = s.users.get? w

section Store

variable {s t : Accounts} {u v : UserId} {commits : Bool}

theorem Accounts.acceptRequest_ok (run : s.acceptRequest commits u v = .ok t) :
    ∃ alreadyForUser alreadyForFriend d e, s.users.get? u = some d ∧ s.users.get? v = some e ∧
      alreadyFriends (some d) v = .ok alreadyForUser ∧
      alreadyFriends (some e) u = .ok alreadyForFriend ∧
      t = s.acceptUpdates u v alreadyForUser alreadyForFriend := by
  unfold Accounts.acceptRequest at run
  cases first : alreadyFriends (s.users.get? u) v with
  | error e =>
      rw [first] at run
      cases run
  | ok alreadyForUser =>
      cases second : alreadyFriends (s.users.get? v) u with
      | error e =>
          rw [first, second] at run
          cases run
      | ok alreadyForFriend =>
          rw [first, second] at run
          simp only [bind, Except.bind] at run
          split at run
          case isTrue exist =>
            split at run
            case isTrue =>
              obtain ⟨d, user⟩ := Option.isSome_iff_exists.mp exist.1
              obtain ⟨e, friend⟩ := Option.isSome_iff_exists.mp exist.2
              cases run
              exact ⟨alreadyForUser, alreadyForFriend, d, e, user, friend, user ▸ first,
                friend ▸ second, rfl⟩
            case isFalse => cases run
          case isFalse => cases run

theorem Accounts.requestAccepted (distinct : u ≠ v) (run : s.acceptRequest commits u v = .ok t) :
    RequestAccepted s t u v := by
  obtain ⟨alreadyForUser, alreadyForFriend, d, e, user, friend, mine, theirs, rfl⟩ :=
    Accounts.acceptRequest_ok run
  refine ⟨⟨d, _, user, ?_, UserDocument.acceptedSide (alreadyFriends_ok mine)⟩,
    ⟨e, _, friend, ?_, UserDocument.acceptedSide (alreadyFriends_ok theirs)⟩,
    fun w other otherFriend => ?_⟩
  · simp [Accounts.acceptUpdates, distinct, user]
  · simp [Accounts.acceptUpdates, distinct.symm, friend]
  · simp [Accounts.acceptUpdates, other, otherFriend]

/-- On documents that have both entries and none of the requests the transaction writes
nothing new. -/
theorem Accounts.acceptRequest_again (distinct : u ≠ v) {alreadyForUser alreadyForFriend : Bool}
    {d e : UserDocument} (user : s.users.get? u = some d) (friend : s.users.get? v = some e)
    (mine : alreadyForUser ↔ d.HasEntryFor v) (theirs : alreadyForFriend ↔ e.HasEntryFor u)
    {again : Bool} {t' : Accounts}
    (run : (s.acceptUpdates u v alreadyForUser alreadyForFriend).acceptRequest again u v = .ok t') :
    t' = s.acceptUpdates u v alreadyForUser alreadyForFriend := by
  have user' : (s.acceptUpdates u v alreadyForUser alreadyForFriend).users.get? u =
      some (d.acceptUpdate v alreadyForUser) := by
    simp [Accounts.acceptUpdates, distinct, user]
  have friend' : (s.acceptUpdates u v alreadyForUser alreadyForFriend).users.get? v =
      some (e.acceptUpdate u alreadyForFriend) := by
    simp [Accounts.acceptUpdates, distinct.symm, friend]
  obtain ⟨forUser, forFriend, d', e', foundUser, foundFriend, first, second, rfl⟩ :=
    Accounts.acceptRequest_ok run
  obtain rfl := Option.some.inj (user'.symm.trans foundUser)
  obtain rfl := Option.some.inj (friend'.symm.trans foundFriend)
  obtain rfl : forUser = true :=
    (alreadyFriends_ok first).mpr (UserDocument.hasEntryFor_acceptUpdate mine)
  obtain rfl : forFriend = true :=
    (alreadyFriends_ok second).mpr (UserDocument.hasEntryFor_acceptUpdate theirs)
  generalize s.acceptUpdates u v alreadyForUser alreadyForFriend = after at user' friend' ⊢
  have same : after.users.update u (·.acceptUpdate v true) = after.users := by
    apply Collection.update_of_fixed
    intro x found
    obtain rfl := Option.some.inj (user'.symm.trans found)
    exact UserDocument.acceptUpdate_again
  have sameBack : after.users.update v (·.acceptUpdate u true) = after.users := by
    apply Collection.update_of_fixed
    intro x found
    obtain rfl := Option.some.inj (friend'.symm.trans found)
    exact UserDocument.acceptUpdate_again
  unfold Accounts.acceptUpdates
  rw [same, sameBack]

/-- Marking the notification a second time changes nothing. -/
theorem Accounts.setComplete_again (k : Nat) :
    (s.setComplete u k).setComplete u k = s.setComplete u k := by
  have same : ((s.notifications u).update k Notification.complete).update k
      Notification.complete = (s.notifications u).update k Notification.complete := by
    apply AutoCollection.update_of_fixed
    intro n found
    rw [AutoCollection.get?_update, if_pos rfl, Option.mem_def, Option.map_eq_some_iff] at found
    obtain ⟨before, _, rfl⟩ := found
    rfl
  simp only [Accounts.setComplete, Function.update_self, same, Function.update_idem]

end Store

/-! ## The whole call -/

section Call

variable {s : Accounts} {u v : UserId} {k : Nat} {commits : Bool}

theorem handleFriendRequest_exec :
    (NotificationController.handleFriendRequest commits u v k true).exec s =
      match (s.setComplete u k).acceptRequest commits u v with
      | .ok t => (.ok (), t)
      | .error e => (.error e, s.setComplete u k) := by
  change (Program.transaction (Accounts.acceptRequest commits u v)).exec (s.setComplete u k) = _
  rw [Program.exec_transaction]
  cases (s.setComplete u k).acceptRequest commits u v with
  | ok t => rfl
  | error e => rfl

/-- **Accepting a friend request is safe in every state**: with both documents there, a commit
makes the friendship on both sides and takes out both requests, keeps what was there, and makes
a second call change nothing; with one of the documents missing, none changes. -/
theorem handleFriendRequest_safe (distinct : u ≠ v) :
    ((s.users.get? u).isSome → (s.users.get? v).isSome →
      ((NotificationController.handleFriendRequest commits u v k true).exec s).1 = .ok () →
        RequestAccepted s
            ((NotificationController.handleFriendRequest commits u v k true).exec s).2 u v ∧
          ∀ again, ((NotificationController.handleFriendRequest again u v k true).exec
            ((NotificationController.handleFriendRequest commits u v k true).exec s).2).2 =
              ((NotificationController.handleFriendRequest commits u v k true).exec s).2) ∧
    (s.users.get? u = none ∨ s.users.get? v = none →
      ((NotificationController.handleFriendRequest commits u v k true).exec s).2.users =
        s.users) := by
  rw [handleFriendRequest_exec]
  cases run : (s.setComplete u k).acceptRequest commits u v with
  | error e => exact ⟨fun _ _ done => (by cases done), fun _ => rfl⟩
  | ok t =>
      obtain ⟨forUser, forFriend, d, e, user, friend, mine, theirs, eq⟩ :=
        Accounts.acceptRequest_ok run
      refine ⟨fun _ _ _ => ⟨?_, fun again => ?_⟩, fun missing => ?_⟩
      · have accepted := Accounts.requestAccepted distinct run
        exact ⟨accepted.user, accepted.friend, accepted.others⟩
      · have marked : t.setComplete u k = t := by
          subst eq
          exact congrArg (fun m : Accounts => m.acceptUpdates u v forUser forFriend)
            (Accounts.setComplete_again k)
        rw [handleFriendRequest_exec, marked]
        cases second : t.acceptRequest again u v with
        | error e => rfl
        | ok t' =>
            subst eq
            exact Accounts.acceptRequest_again distinct user friend (alreadyFriends_ok mine)
              (alreadyFriends_ok theirs) second
      · rcases missing with none | none
        · cases none.symm.trans user
        · cases none.symm.trans friend

end Call

/-- `a` has a request of `b`, an entry for `b` of an older type among elements that are no entries,
and `b` has nothing. -/
def strangeLists : Accounts where
  users := ⟨[("a", { friends := .array [.map "m", .entry ⟨.fiestar, "b"⟩, .scalar "x"] }),
    ("b", { friendsRequest := .array ["c", "a", "d"] })], by decide⟩
  notifications _ := .empty

theorem strangeLists_accepted :
    RequestAccepted strangeLists
        ((NotificationController.handleFriendRequest true "a" "b" 0 true).exec strangeLists).2
        "a" "b" ∧
      ∀ again, ((NotificationController.handleFriendRequest again "a" "b" 0 true).exec
        ((NotificationController.handleFriendRequest true "a" "b" 0 true).exec strangeLists).2).2 =
          ((NotificationController.handleFriendRequest true "a" "b" 0 true).exec strangeLists).2 :=
  (handleFriendRequest_safe (by decide)).1 rfl rfl rfl

/-! ## Where every element is an entry -/

/-- The array of the entries of the app. -/
def ArrayField.ofEntries (friends : Stored (List Friend)) : ArrayField FriendValue :=
  match friends with
  | .undefined => .missing
  | .null => .null
  | .value entries => .array (entries.map .entry)

/-- The document of a user whose friends are all entries. -/
def User.document (d : User) : UserDocument where
  friends := .ofEntries d.friends
  friendsRequest := .ofStored d.friendsRequest

/-- The accounts are those of the store. -/
def Represents (a : Accounts) (s : Store) : Prop :=
  ∀ w, a.users.get? w = (s.user w).map User.document

section Simulation

variable {a : Accounts} {s : Store} {u v w : UserId} {d : User}

theorem asList_ofEntries (friends : Stored (List Friend)) :
    (ArrayField.ofEntries friends).asList = .ok (friends.elems.map .entry) := by
  cases friends with
  | undefined => rfl
  | null => rfl
  | value entries => rfl

theorem union_ofEntries (friends : Stored (List Friend)) (e : Friend) :
    (ArrayField.ofEntries friends).union (.entry e) = ArrayField.ofEntries (friends.union e) := by
  have elems : (ArrayField.ofEntries friends).elems = friends.elems.map .entry :=
    ArrayField.elems_of_asList (asList_ofEntries friends)
  have listed : FriendValue.entry e ∈ friends.elems.map .entry ↔ e ∈ friends.elems := by simp
  unfold ArrayField.union
  rw [elems, Stored.union, ArrayField.ofEntries, arrayUnion, arrayUnion]
  simp only [listed]
  split
  · rfl
  · simp

/-- The transaction finds the entry that `User.accept` finds. -/
theorem alreadyFriends_document (o : Option User) :
    alreadyFriends (o.map User.document) w =
      .ok (decide (∃ e ∈ (optional User.friends o).elems, e.user = w)) := by
  have any : ∀ entries : List Friend,
      (entries.map FriendValue.entry).any (·.isFriend w) = decide (∃ e ∈ entries, e.user = w) := by
    intro entries
    rw [Bool.eq_iff_iff, List.any_eq_true, decide_eq_true_iff]
    simp [FriendValue.isFriend_iff]
  unfold alreadyFriends
  cases o with
  | none => rfl
  | some d =>
      change (ArrayField.ofEntries d.friends).asList.bind _ = _
      rw [asList_ofEntries]
      exact congrArg Except.ok (any d.friends.elems)

theorem acceptUpdate_document :
    d.document.acceptUpdate w (decide (∃ e ∈ d.friends.elems, e.user = w)) =
      (d.accept w).document := by
  unfold User.accept UserDocument.acceptUpdate
  split
  case isTrue present =>
    simp only [decide_eq_true_eq] at present
    rw [if_pos present]
    simp only [User.document, User.unrequest, ArrayField.remove_ofStored]
  case isFalse absent =>
    simp only [decide_eq_true_eq] at absent
    rw [if_neg absent]
    simp only [User.document, User.befriend, User.addConnexion, User.unrequest,
      ArrayField.remove_ofStored, union_ofEntries]
    rfl

/-- **On the documents of the app the transaction is that of the coarser model**: it ends alike,
and leaves documents that are alike. -/
theorem acceptTransaction_simulates (distinct : u ≠ v) (represents : Represents a s) :
    ((Program.transaction (Accounts.acceptRequest true u v)).exec a).1 =
        ((acceptTransaction u v).exec s).1 ∧
      Represents ((Program.transaction (Accounts.acceptRequest true u v)).exec a).2
        ((acceptTransaction u v).exec s).2 := by
  have exist : ∀ w, (a.users.get? w).isSome = (s.user w).isSome := by
    intro w
    rw [represents w, Option.isSome_map]
  have body : Accounts.acceptRequest true u v a =
      if (s.user u).isSome ∧ (s.user v).isSome then
        .ok (a.acceptUpdates u v (decide (∃ e ∈ s.friendsOf u, e.user = v))
          (decide (∃ e ∈ s.friendsOf v, e.user = u)))
      else .error .notFound := by
    unfold Accounts.acceptRequest
    rw [represents u, represents v, alreadyFriends_document, alreadyFriends_document,
      Option.isSome_map, Option.isSome_map]
    rfl
  unfold acceptTransaction
  rw [Program.exec_transaction, Program.exec_step, Program.exec_ite, body]
  by_cases both : (s.user u).isSome ∧ (s.user v).isSome
  · simp only [both, and_self, if_true]
    refine ⟨rfl, fun w => ?_⟩
    simp only [Program.exec_pure, Accounts.acceptUpdates, Collection.get?_update,
      Store.user_updateUser]
    obtain ⟨du, user⟩ := Option.isSome_iff_exists.mp both.1
    obtain ⟨dv, friend⟩ := Option.isSome_iff_exists.mp both.2
    have mine : s.friendsOf u = du.friends.elems := by
      rw [Store.friendsOf, user]
      rfl
    have theirs : s.friendsOf v = dv.friends.elems := by
      rw [Store.friendsOf, friend]
      rfl
    by_cases first : w = u
    · subst first
      simp only [if_neg distinct, if_pos, represents w, user, Option.map_some]
      rw [mine, acceptUpdate_document]
    · by_cases second : w = v
      · subst second
        simp only [if_neg distinct.symm, if_pos, represents w, friend, Option.map_some]
        rw [theirs, acceptUpdate_document]
      · simp only [if_neg first, if_neg second, represents w]
  · simp only [both, if_false]
    exact ⟨rfl, represents⟩

end Simulation

end TwoGather
