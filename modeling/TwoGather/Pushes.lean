import TwoGather.Fiesta.Deletion
import TwoGather.Fiesta.EndJob
import TwoGather.Lib.TwoRuns
import TwoGather.LockDuo.Controller
import TwoGather.Sponsorship.Controller

/-!
# What push notifications change in the database

A push has no effect on the database of its own. But a push that throws ends the function that
sends it, and what stood behind it is not written. So two runs that differ only in the tokens of
the users and in the pushes that throw may leave different stores.

`independent_iff`: for each function that sends pushes, exactly when they do not. The functions
that make all their writes first, or never come to a push, never depend on them.
-/

namespace TwoGather

open Docs Requests Program

/-! ## Stores without their tokens -/

/-- Every user has this token, and all pushes resolve, or all throw. -/
def Store.withTokens (s : Store) (token : Stored String) (answer : Bool) : Store :=
  { s with
    users := s.users.map ({ · with fcmToken := token })
    push := fun _ => answer
    pushOne := fun _ => answer }

/-- The store without its tokens. -/
def Store.hide (s : Store) : Store :=
  s.withTokens .undefined true

/-- A user without its token. -/
def User.hide (u : User) : User :=
  { u with fcmToken := .undefined }

/-- The token does not matter for the fiesta of a user. -/
theorem hide_setFiesta (u : User) (f : Stored FiestaId) :
    (u.setFiesta f).hide = u.hide.setFiesta f := rfl

/-- Every user has a token, and every push throws, as when the service cannot be reached. -/
def Store.refuse (s : Store) : Store :=
  s.withTokens (.value "token") false

/-- The stores differ in the tokens and in the pushes that throw only. -/
def Store.SameButTokens (s t : Store) : Prop :=
  s.hide = t.hide

section Hide

variable {s t : Store}

/-- To differ in the tokens and in the pushes only is an equivalence. -/
theorem Store.SameButTokens.equivalence : Equivalence Store.SameButTokens where
  refl _ := rfl
  symm := Eq.symm
  trans := Eq.trans

/-- Other tokens and answers make no other difference. -/
theorem sameButTokens_withTokens (s : Store) (token : Stored String) (answer : Bool) :
    s.SameButTokens (s.withTokens token answer) := by
  unfold Store.SameButTokens Store.hide Store.withTokens
  simp only [Collection.map_map]

theorem user_withTokens (s : Store) (token : Stored String) (answer : Bool) (u : UserId) :
    (s.withTokens token answer).user u = (s.user u).map ({ · with fcmToken := token }) :=
  Collection.get?_map s.users _ u

theorem user_hide (s : Store) (u : UserId) : s.hide.user u = (s.user u).map User.hide :=
  user_withTokens ..

/-- When the service cannot be reached, no push resolves. -/
theorem not_passes_refuse : ¬ s.refuse.PassesUnlessNull (.value "token") := by
  intro passes
  cases passes ⟨by simp, by simp⟩

theorem Store.SameButTokens.hidden (same : s.SameButTokens t) : s.hide = t.hide := same

/-- What is not read from the tokens is the same. -/
theorem Store.SameButTokens.congr {α : Type} {g : Store → α} (blind : ∀ s, g s.hide = g s)
    (same : s.SameButTokens t) : g s = g t := by
  rw [← blind s, same.hidden, blind t]

/-- The users are the same but for their tokens. -/
theorem Store.SameButTokens.user (same : s.SameButTokens t) (u : UserId) :
    (s.user u).map User.hide = (t.user u).map User.hide := by
  have hidden := congrArg (fun s : Store => s.user u) same.hidden
  simp only [Store.hide, user_withTokens] at hidden
  exact hidden

theorem Store.SameButTokens.fiesta (same : s.SameButTokens t) (f : FiestaId) :
    s.fiesta f = t.fiesta f :=
  same.congr (g := fun s => s.fiesta f) fun _ => rfl

theorem Store.SameButTokens.notifications (same : s.SameButTokens t) (u : UserId) :
    s.notifications u = t.notifications u :=
  same.congr (g := fun s => s.notifications u) fun _ => rfl

theorem Store.SameButTokens.clock (same : s.SameButTokens t) : s.clock = t.clock :=
  same.congr fun _ => rfl

/-- The same users exist. -/
theorem Store.SameButTokens.isSome_user (same : s.SameButTokens t) (u : UserId) :
    (s.user u).isSome = (t.user u).isSome := by
  have exist := congrArg Option.isSome (same.user u)
  rwa [Option.isSome_map, Option.isSome_map] at exist

/-! ### Writes -/

/-- A write that does not touch the tokens. -/
theorem Store.SameButTokens.write {g : Store → Store} (comm : ∀ s, (g s).hide = g s.hide)
    (same : s.SameButTokens t) : (g s).SameButTokens (g t) := by
  unfold Store.SameButTokens
  rw [comm, comm, same.hidden]

/-- An update that does not touch the token keeps two stores alike. -/
theorem Store.SameButTokens.updateUser (same : s.SameButTokens t) (u : UserId)
    {g : User → User} (comm : ∀ d, (g d).hide = g d.hide) :
    (s.updateUser u g).SameButTokens (t.updateUser u g) := by
  apply same.write (g := fun s => s.updateUser u g)
  intro s
  unfold Store.hide Store.withTokens Store.updateUser
  congr 1
  exact Collection.update_map s.users u comm

theorem Store.SameButTokens.updateFiesta (same : s.SameButTokens t) (f : FiestaId)
    (g : Fiesta → Fiesta) : (s.updateFiesta f g).SameButTokens (t.updateFiesta f g) :=
  same.write (g := fun s => s.updateFiesta f g) fun _ => rfl

theorem Store.SameButTokens.addNotification (same : s.SameButTokens t) (u : UserId)
    (n : Notification) : (s.addNotification u n).SameButTokens (t.addNotification u n) :=
  same.write (g := fun s => s.addNotification u n) fun _ => rfl

theorem Store.SameButTokens.deleteFiesta (same : s.SameButTokens t) (f : FiestaId) :
    (s.deleteFiesta f).SameButTokens (t.deleteFiesta f) :=
  same.write (g := fun s => s.deleteFiesta f) fun _ => rfl

theorem Store.SameButTokens.deleteHistory (same : s.SameButTokens t) (w : UserId)
    (f : FiestaId) : (s.deleteHistory w f).SameButTokens (t.deleteHistory w f) := by
  apply same.write (g := fun s => s.deleteHistory w f)
  intro s
  have entry : s.hide.historyEntry w f = s.historyEntry w f := rfl
  unfold Store.deleteHistory
  rw [entry]
  cases s.historyEntry w f with
  | none => rfl
  | some key => rfl

theorem Store.SameButTokens.clearUser (same : s.SameButTokens t) (n : Notification)
    (u : UserId) : (s.clearUser n u).SameButTokens (t.clearUser n u) :=
  (same.updateUser u fun d => hide_setFiesta d .null).addNotification u n

/-- To clear the same users keeps two stores alike. -/
theorem Store.SameButTokens.clearUsers (same : s.SameButTokens t) (n : Notification)
    (us : List UserId) : (s.clearUsers n us).SameButTokens (t.clearUsers n us) := by
  induction us generalizing s t with
  | nil => exact same
  | cons u us ih => exact ih (same.clearUser n u)

end Hide

/-! ## Requests side by side -/

section SideBySide

/-- The same document, up to its token. -/
def SameUser (a b : Option User) : Prop := a.map User.hide = b.map User.hide

/-- The two runs read the same user, but for its token. -/
theorem alike_getUser (u : UserId) :
    Alike Store.SameButTokens SameUser (getUser u) (getUser u) :=
  .read fun _ _ same => same.user u

theorem alike_getFiesta (f : FiestaId) :
    Alike Store.SameButTokens Eq (getFiesta f) (getFiesta f) :=
  .read fun _ _ same => same.fiesta f

theorem alike_member {a b : Option User} (same : SameUser a b) :
    Alike Store.SameButTokens (fun a b => a.hide = b.hide) (member a) (member b) := by
  cases a with
  | none =>
      cases b with
      | none => exact .throw _ _
      | some b => cases same
  | some a =>
      cases b with
      | none => cases same
      | some b => exact .pure (Option.some.inj same)

theorem alike_docOf (o : Option UserId) :
    Alike Store.SameButTokens Eq (docOf o) (docOf o) := by
  cases o with
  | none => exact .throw _ _
  | some u => exact .pure rfl

theorem alike_defined {α : Type} {a b : Stored α} (same : a = b) :
    Alike Store.SameButTokens Eq (defined a) (defined b) := by
  subst same
  cases a with
  | undefined => exact .throw _ _
  | null => exact .pure rfl
  | value a => exact .pure rfl

/-- The two runs make the same update, and it fails in both or in neither. -/
theorem alike_updateUser (u : UserId) {g : User → User} (comm : ∀ d, (g d).hide = g d.hide) :
    Alike Store.SameButTokens Eq (updateUser u g) (updateUser u g) := by
  intro s t same
  rw [exec_updateUser, exec_updateUser, same.isSome_user]
  refine ⟨?_, same.updateUser u comm⟩
  split
  · rfl
  · trivial

/-- The update that a fiesta brings to its users is such an update. -/
theorem alike_setFiesta (u : UserId) (f : Stored FiestaId) :
    Alike Store.SameButTokens Eq (updateUser u (·.setFiesta f)) (updateUser u (·.setFiesta f)) :=
  alike_updateUser u fun d => hide_setFiesta d f

theorem alike_updateFiesta (f : FiestaId) (g : Fiesta → Fiesta) :
    Alike Store.SameButTokens Eq (updateFiesta f g) (updateFiesta f g) := by
  intro s t same
  rw [exec_updateFiesta, exec_updateFiesta, same.fiesta]
  refine ⟨?_, same.updateFiesta f g⟩
  split
  · rfl
  · trivial

theorem alike_addNotification (u : UserId) (n : Timestamp → Notification) :
    Alike Store.SameButTokens Eq (addNotification u n) (addNotification u n) := by
  intro s t same
  rw [exec_addNotification, exec_addNotification, same.clock]
  exact ⟨rfl, same.addNotification u _⟩

/-- Users that differ in their tokens have the same other fields. -/
theorem SameUser.optional {a b : Option User} (same : SameUser a b) {α : Type}
    {field : User → Stored α} (blind : ∀ u : User, field u.hide = field u) :
    TwoGather.optional field a = TwoGather.optional field b := by
  have hidden : ∀ a : Option User,
      TwoGather.optional field (a.map User.hide) = TwoGather.optional field a := by
    intro a
    cases a with
    | none => rfl
    | some a => exact blind a
  rw [← hidden a, ← hidden b, same]

end SideBySide

/-! ## Functions that push last, or never -/

section Last

/-- `acceptUserInFiesta` makes all its writes before its pushes. -/
theorem acceptUserInFiesta_endAlike (f : FiestaId) (u : UserId) (o : Option UserId) :
    EndAlike Store.SameButTokens (acceptUserInFiesta f u o) (acceptUserInFiesta f u o) := by
  apply EndAlike.bind (alike_getFiesta f)
  intro _ _ _
  apply EndAlike.bind (alike_updateFiesta f _)
  intro _ _ _
  apply EndAlike.bind (alike_updateFiesta f _)
  intro _ _ _
  apply EndAlike.bind (alike_getUser u)
  intro fUser fUser' _
  apply EndAlike.bind (alike_docOf o)
  intro v _ duo
  subst duo
  apply EndAlike.bind (alike_getUser v)
  intro sUser sUser' _
  apply EndAlike.bind (alike_setFiesta u _)
  intro _ _ _
  apply EndAlike.bind (alike_setFiesta v _)
  intro _ _ _
  -- only pushes are left
  have pushes : ∀ fUser sUser : Option User, (do
      let fUserData ← member fUser
      pushUnlessNull fUserData.fcmToken
      let sUserData ← member sUser
      pushUnlessNull sUserData.fcmToken
      return true : Firestore Bool).Keeps Store.SameButTokens := by
    intro fUser sUser
    have refl := Store.SameButTokens.equivalence.refl
    apply Keeps.bind (keeps_member fUser)
    intro data
    apply Keeps.bind (keeps_pushUnlessNull refl data.fcmToken)
    intro _
    apply Keeps.bind (keeps_member sUser)
    intro data
    apply Keeps.bind (keeps_pushUnlessNull refl data.fcmToken)
    intro _
    exact .pure true
  exact .of_keeps Store.SameButTokens.equivalence (pushes fUser sUser) (pushes fUser' sUser')

/-- `requestNewLockDuo` writes its notification before the push. -/
theorem requestNewLockDuo_endAlike (u v : UserId) :
    EndAlike Store.SameButTokens (requestNewLockDuo u v) (requestNewLockDuo u v) := by
  apply EndAlike.bind (alike_getUser u)
  intro user user' same
  apply EndAlike.bind (alike_getUser v)
  intro friend friend' _
  apply EndAlike.bind (alike_defined (same.optional fun _ => rfl))
  intro firstname _ sameFirst
  subst sameFirst
  apply EndAlike.bind (alike_defined (same.optional fun _ => rfl))
  intro lastname _ sameLast
  subst sameLast
  apply EndAlike.bind (alike_defined (same.optional fun _ => rfl))
  intro pictures _ samePictures
  subst samePictures
  apply EndAlike.bind (alike_addNotification v _)
  intro _ _ _
  -- only the push is left
  have push : ∀ friend : Option User, (do
      let friendData ← member friend
      pushUnlessEmpty friendData.fcmToken
      return true : Firestore Bool).Keeps Store.SameButTokens := by
    intro friend
    apply Keeps.bind (keeps_member friend)
    intro data
    apply Keeps.bind (keeps_pushUnlessEmpty Store.SameButTokens.equivalence.refl data.fcmToken)
    intro _
    exact .pure true
  exact .of_keeps Store.SameButTokens.equivalence (push friend) (push friend')

/-- The work on a participant ends before its pushes. -/
theorem noteMember_alike (id : FiestaId) (data : Fiesta) (e : Participant) :
    Alike Store.SameButTokens Eq (noteMember id data e) (noteMember id data e) := by
  rw [noteMember_eq]
  split
  · apply Alike.bind (alike_getUser e.fiestaRef)
    intro fUser fUser' same
    apply Alike.bind (alike_docOf e.duoRef)
    intro v _ duo
    subst duo
    apply Alike.bind (alike_getUser v)
    intro _ _ _
    apply Alike.bind (alike_member same)
    intro _ _ _
    exact .throw _ _
  · exact .pure rfl

/-- A round of the job never comes to a push. -/
theorem endFiesta_alike (id : FiestaId) (data : Fiesta) :
    Alike Store.SameButTokens Eq (endFiesta id data) (endFiesta id data) := by
  apply Alike.bind (.read (Q := Eq) fun s t same => by rw [same.clock])
  intro now _ clock
  subst clock
  split
  · apply Alike.bind (alike_updateFiesta id _)
    intro _ _ _
    apply Alike.bind (alike_addNotification _ _)
    intro _ _ _
    exact .forEach fun e _ => noteMember_alike id data e
  · exact .pure rfl

/-- So the job leaves the same, whatever the pushes do. -/
theorem checkEndFiesta_endAlike :
    EndAlike Store.SameButTokens checkEndFiesta checkEndFiesta := by
  apply Alike.endAlike
  apply Alike.bind (.read (Q := Eq) fun s t same => by
    rw [same.congr (g := fun s => s.fiestas) fun _ => rfl])
  intro fiestas _ listed
  subst listed
  exact .forEach fun e _ => endFiesta_alike e.1 e.2

end Last

/-! ## A push before the writes -/

section Join

variable {s : Store} {w u : UserId} {f : FiestaId} {o : Option UserId} {status : Status}

/-- A join has nothing to write after its push: its entry is there, and the notification cannot be
written. -/
def Store.JoinIdle (s : Store) (w : UserId) (f : FiestaId) (e : Participant) : Prop :=
  ∀ fiesta ∈ s.fiesta f, ∀ _host ∈ s.user fiesta.host.id,
    e ∈ fiesta.participants ∧ ∀ user ∈ s.user w, user.profilImages = .undefined

/-- Whether a join has nothing to write does not depend on the tokens. -/
theorem Store.JoinIdle.congr {t : Store} {e : Participant} (idle : s.JoinIdle w f e)
    (same : s.SameButTokens t) : t.JoinIdle w f e := by
  intro fiesta found host foundHost
  rw [← same.fiesta] at found
  have exist : (s.user fiesta.host.id).isSome := by
    rw [same.isSome_user]
    exact Option.isSome_of_mem foundHost
  rcases Option.isSome_iff_exists.mp exist with ⟨host', foundHost'⟩
  rcases idle fiesta found host' foundHost' with ⟨listed, pictures⟩
  refine ⟨listed, ?_⟩
  intro user foundUser
  have alike := same.user w
  rw [Option.mem_def.mp foundUser, Option.map_some] at alike
  rcases Option.map_eq_some_iff.mp alike with ⟨user', foundUser', hidden⟩
  have field := congrArg User.profilImages hidden
  exact field.symm.trans (pictures user' foundUser')

/-- To enter who is there already changes nothing. -/
theorem updateFiesta_union_of_mem {e : Participant}
    (listed : ∀ fiesta ∈ s.fiesta f, e ∈ fiesta.participants) :
    s.updateFiesta f (·.union e) = s := by
  have fixed : s.fiestas.update f (·.union e) = s.fiestas := by
    apply Collection.update_of_fixed
    intro fiesta found
    unfold Fiesta.union arrayUnion
    rw [if_pos (listed fiesta found)]
  unfold Store.updateFiesta
  rw [fixed]

/-- What a join writes after its push. -/
def Store.joined (s : Store) (w : UserId) (f : FiestaId) (fiesta : Fiesta) (e : Participant) :
    Store :=
  match s.user w with
  | some user =>
      if user.profilImages.isUndefined then s.updateFiesta f (·.union e)
      else (s.updateFiesta f (·.union e)).addNotification fiesta.host.id
        (joinNotification f e.fiestaRef e.duoRef user user.profilImages s.clock)
  | none => s.updateFiesta f (·.union e)

/-- After a join the fiesta has the entry. -/
theorem fiesta_joined {fiesta : Fiesta} (found : s.fiesta f = some fiesta) (e : Participant) :
    (s.joined w f fiesta e).fiesta f = some (fiesta.union e) := by
  have updated : (s.updateFiesta f (·.union e)).fiesta f = some (fiesta.union e) := by
    rw [Store.fiesta_updateFiesta, if_pos rfl, found]
    rfl
  unfold Store.joined
  split
  · split
    · exact updated
    · exact updated
  · exact updated

/-- A join writes everything or nothing, as the push to the host resolves or throws. -/
theorem exec_joinFiesta {fiesta : Fiesta} (found : s.fiesta f = some fiesta) {host : User}
    (foundHost : s.user fiesta.host.id = some host) :
    ((joinFiesta w f u o status).exec s).2 =
      if s.PassesUnlessNull host.fcmToken then s.joined w f fiesta ⟨u, o, status⟩ else s := by
  unfold joinFiesta Store.joined
  simp only [exec_bind, exec_getFiesta, found, exec_member_some, exec_getUser, foundHost,
    exec_pushUnlessNull, exec_unawaited, exec_updateFiesta]
  by_cases passes : s.PassesUnlessNull host.fcmToken
  · cases foundUser : s.user w with
    | none => simp [passes, found, foundUser]
    | some user =>
        cases refused : user.profilImages.isUndefined with
        | true => simp [passes, found, foundUser, refused, exec_defined]
        | false => simp [passes, found, foundUser, refused, exec_defined]
  · simp [passes]

/-- A join that has nothing to write leaves the store as it is. -/
theorem joinFiesta_idle (idle : s.JoinIdle w f ⟨u, o, status⟩) :
    ((joinFiesta w f u o status).exec s).2 = s := by
  cases found : s.fiesta f with
  | none =>
      unfold joinFiesta
      simp [found]
  | some fiesta =>
      cases foundHost : s.user fiesta.host.id with
      | none =>
          unfold joinFiesta
          simp [found, foundHost]
      | some host =>
          rcases idle fiesta found host foundHost with ⟨listed, pictures⟩
          have same : s.updateFiesta f (·.union ⟨u, o, status⟩) = s := by
            apply updateFiesta_union_of_mem
            intro fiesta' found'
            rw [found] at found'
            cases found'
            exact listed
          have nothing : s.joined w f fiesta ⟨u, o, status⟩ = s := by
            unfold Store.joined
            cases user : s.user w with
            | none => exact same
            | some data =>
                dsimp only
                rw [if_pos, same]
                rw [pictures data user]
                rfl
          rw [exec_joinFiesta found foundHost, nothing, ite_self]

/-- Otherwise a run that stops at the push and one that sends none leave different stores. -/
theorem joinIdle_of_independent
    (independent : ((joinFiesta w f u o status).exec s.hide).2.SameButTokens
      ((joinFiesta w f u o status).exec s.refuse).2) : s.JoinIdle w f ⟨u, o, status⟩ := by
  intro fiesta found host foundHost
  rw [Option.mem_def] at found foundHost
  have foundHost' : s.hide.user fiesta.host.id = some host.hide := by
    rw [user_hide, foundHost, Option.map_some]
  have refused : ((joinFiesta w f u o status).exec s.refuse).2 = s.refuse := by
    have foundHost' : s.refuse.user fiesta.host.id =
        some { host with fcmToken := .value "token" } := by
      rw [Store.refuse, user_withTokens, foundHost, Option.map_some]
    rw [exec_joinFiesta (s := s.refuse) found foundHost', if_neg not_passes_refuse]
  have passes : s.hide.PassesUnlessNull host.hide.fcmToken := fun sent => absurd rfl sent.1
  rw [refused, exec_joinFiesta (s := s.hide) found foundHost', if_pos passes] at independent
  have there : s.hide.fiesta f = some fiesta := found
  have entry : (s.hide.joined w f fiesta ⟨u, o, status⟩).fiesta f =
      some (fiesta.union ⟨u, o, status⟩) := fiesta_joined there ⟨u, o, status⟩
  constructor
  · have fiestas := independent.fiesta f
    have kept : s.refuse.fiesta f = some fiesta := found
    rw [entry, kept, Option.some.injEq] at fiestas
    rw [← fiestas]
    exact mem_arrayUnion.mpr (.inr rfl)
  · intro user foundUser
    have notes := congrArg AutoCollection.next (independent.notifications fiesta.host.id)
    have foundUser' : s.hide.user w = some user.hide := by
      rw [user_hide, Option.mem_def.mp foundUser, Option.map_some]
    unfold Store.joined at notes
    rw [foundUser'] at notes
    dsimp only at notes
    split at notes
    case isTrue undefined => exact Stored.isUndefined_iff.mp undefined
    case isFalse =>
      rw [Store.notifications_addNotification, if_pos rfl] at notes
      have more : (s.notifications fiesta.host.id).next + 1 =
        (s.notifications fiesta.host.id).next := notes
      omega

end Join

/-! ## A push for the first entry of several -/

section Delete

variable {s : Store} {w : UserId} {f : FiestaId} {fiesta : Fiesta} {e : Participant}

/-- Nothing depends on the pushes to the first accepted entry: it sends none, because one of its
persons is missing, or the next entry fails before it writes anything. -/
def Store.DeletionIdle (s : Store) (f : FiestaId) : Prop :=
  ∀ fiesta ∈ s.fiesta f, ∀ e ∈ fiesta.accepted.head?, (s.user e.fiestaRef).isSome →
    (∃ d ∈ e.duoRef, (s.user d).isSome) →
      ∃ e2 ∈ fiesta.accepted.tail.head?, s.user e2.fiestaRef = none

variable (fiesta) in
/-- The work on an entry whose persons both exist, whatever the pushes do. -/
theorem clearParticipant_store (accepted : e.status = .accepted)
    (exist : (s.user e.fiestaRef).isSome) {d : UserId} (duoRef : e.duoRef = some d)
    (existDuo : (s.user d).isSome) :
    ((clearParticipant fiesta e).exec s).2 =
      s.clearUsers (cancelNotification fiesta s.clock) e.persons := by
  rcases Option.isSome_iff_exists.mp exist with ⟨user, found⟩
  have existDuo' : ((s.clearUser (cancelNotification fiesta s.clock) e.fiestaRef).user d).isSome := by
    unfold Store.clearUser
    rw [Store.user_addNotification, Store.isSome_updateUser]
    exact existDuo
  rcases Option.isSome_iff_exists.mp existDuo' with ⟨duo, foundDuo⟩
  have pushes : (do pushUnlessEmpty user.fcmToken; pushUnlessNull duo.fcmToken :
      Firestore Unit).Keeps Same :=
    .bind (keeps_pushUnlessEmpty Same.refl _) fun _ => keeps_pushUnlessNull Same.refl _
  rw [clearParticipant_exec accepted found, duoRef, clearDuo_exec foundDuo, Participant.persons,
    duoRef]
  exact pushes.exec Same.refl (fun first second => second.trans first) _

variable (fiesta) in
/-- The work on an entry whose second person is missing ends when the first is done. -/
theorem clearParticipant_alone (accepted : e.status = .accepted)
    (exist : (s.user e.fiestaRef).isSome)
    (alone : ∀ d ∈ e.duoRef, s.user d = none) :
    ∃ err, (clearParticipant fiesta e).exec s =
      (.error err, s.clearUser (cancelNotification fiesta s.clock) e.fiestaRef) := by
  rcases Option.isSome_iff_exists.mp exist with ⟨user, found⟩
  rw [clearParticipant_exec accepted found]
  cases duoRef : e.duoRef with
  | none => exact ⟨_, rfl⟩
  | some d =>
      have missing : (s.clearUser (cancelNotification fiesta s.clock) e.fiestaRef).user d = none := by
        have none := alone d duoRef
        unfold Store.clearUser
        rw [Store.user_addNotification, Store.user_updateUser, none]
        split <;> rfl
      refine ⟨.notFound, ?_⟩
      unfold clearDuo
      simp [docOf, missing, Store.updateUser_of_none missing]

/-- What the work on the first accepted entry leaves. -/
def Store.firstCleared (s : Store) (n : Notification) (e : Participant) : Store :=
  if (s.user e.fiestaRef).isSome then
    if ∃ d ∈ e.duoRef, (s.user d).isSome then s.clearUsers n e.persons
    else s.clearUser n e.fiestaRef
  else s

variable (fiesta) in
/-- What has been written for a participant when its first push throws. -/
theorem clearParticipant_first (accepted : e.status = .accepted) :
    ((clearParticipant fiesta e).exec s).2 =
      s.firstCleared (cancelNotification fiesta s.clock) e := by
  unfold Store.firstCleared
  split
  case isFalse missing =>
    rw [clearParticipant_missing fiesta accepted (Option.not_isSome_iff_eq_none.mp missing)]
  case isTrue exist =>
    split
    case isFalse alone =>
      have missing : ∀ d ∈ e.duoRef, s.user d = none := by
        intro d duoRef
        apply Option.not_isSome_iff_eq_none.mp
        intro there
        exact alone ⟨d, duoRef, there⟩
      rcases clearParticipant_alone fiesta accepted exist missing with ⟨err, run⟩
      rw [run]
    case isTrue both =>
      rcases both with ⟨d, duoRef, existDuo⟩
      exact clearParticipant_store fiesta accepted exist duoRef existDuo

/-- Users that are missing stay so. -/
theorem user_firstCleared_none (missing : s.user w = none) (n : Notification) (e : Participant) :
    (s.firstCleared n e).user w = none := by
  have cleared : ∀ us, (s.clearUsers n us).user w = none := by
    intro us
    rw [user_clearUsers, missing]
    split <;> rfl
  unfold Store.firstCleared
  split
  · split
    · exact cleared e.persons
    · exact cleared [e.fiestaRef]
  · exact missing

/-- That is the same in both stores. -/
theorem Store.SameButTokens.firstCleared {t : Store} (same : s.SameButTokens t)
    (n : Notification) (e : Participant) :
    (s.firstCleared n e).SameButTokens (t.firstCleared n e) := by
  unfold Store.firstCleared
  simp only [same.isSome_user]
  split
  · split
    · exact same.clearUsers n e.persons
    · exact same.clearUser n e.fiestaRef
  · exact same

/-- What the deletion leaves when it does not depend on its pushes. -/
theorem deleteFiesta_idle (idle : s.DeletionIdle f) (found : s.fiesta f = some fiesta) :
    ((deleteFiesta w f).exec s).2 =
      match fiesta.accepted with
      | [] => (s.deleteHistory w f).deleteFiesta f
      | e :: _ => s.firstCleared (cancelNotification fiesta s.clock) e := by
  have idle := idle fiesta found
  have all : ∀ e ∈ fiesta.accepted, e.status = .accepted := fun _ => mem_accepted
  rw [exec_deleteFiesta found]
  cases entries : fiesta.accepted with
  | nil => rfl
  | cons e es =>
      rw [entries] at idle all
      have accepted := all e List.mem_cons_self
      have left := clearParticipant_first fiesta (s := s) accepted
      unfold forEach
      rw [exec_bind]
      rcases run : (clearParticipant fiesta e).exec s with ⟨outcome, t⟩
      rw [run] at left
      cases outcome with
      | error err => exact left
      | ok _ =>
          rcases clearable_of_ok accepted run with ⟨user, found, d, duoRef, duo, foundDuo, -, -⟩
          have exist : (s.user e.fiestaRef).isSome := Option.isSome_of_mem found
          have existDuo : (s.user d).isSome := Option.isSome_of_mem foundDuo
          rcases idle e rfl exist ⟨d, duoRef, existDuo⟩ with ⟨e2, next, missing⟩
          rw [List.tail_cons] at next
          -- the next entry fails at once
          have second := all e2 (List.mem_cons_of_mem e (List.mem_of_mem_head? next))
          rcases List.head?_eq_some_iff.mp next with ⟨rest, rfl⟩
          have missing' : t.user e2.fiestaRef = none := by
            have here : t = s.firstCleared (cancelNotification fiesta s.clock) e := left
            rw [here]
            exact user_firstCleared_none missing _ e
          have stops := clearParticipant_missing fiesta second missing'
          dsimp only
          unfold forEach
          rw [exec_bind, stops]
          exact left

/-- Whether a deletion has nobody to tell does not depend on the tokens. -/
theorem Store.DeletionIdle.congr {t : Store} (idle : s.DeletionIdle f)
    (same : s.SameButTokens t) : t.DeletionIdle f := by
  unfold Store.DeletionIdle at idle ⊢
  simp only [← same.fiesta, ← same.isSome_user, ← Option.not_isSome_iff_eq_none] at idle ⊢
  exact idle

/-- The deletion from stores that differ in their tokens only. -/
theorem deleteFiesta_sameButTokens {t : Store} (idle : s.DeletionIdle f)
    (same : s.SameButTokens t) :
    ((deleteFiesta w f).exec s).2.SameButTokens ((deleteFiesta w f).exec t).2 := by
  have idle' := idle.congr same
  cases found : s.fiesta f with
  | none =>
      have missing : ∀ t : Store, t.fiesta f = none → ((deleteFiesta w f).exec t).2 = t := by
        intro t none
        unfold deleteFiesta
        simp [none]
      rw [missing s found, missing t (same.fiesta f ▸ found)]
      exact same
  | some fiesta =>
      rw [deleteFiesta_idle idle found, deleteFiesta_idle idle' (same.fiesta f ▸ found),
        same.clock]
      split
      · exact (same.deleteHistory w f).deleteFiesta f
      · exact same.firstCleared _ _

variable (fiesta) in
/-- The first person of an accepted entry is told, whatever becomes of the second. -/
theorem clearParticipant_told (accepted : e.status = .accepted)
    (exist : (s.user e.fiestaRef).isSome) :
    (s.notifications e.fiestaRef).next <
      (((clearParticipant fiesta e).exec s).2.notifications e.fiestaRef).next := by
  by_cases clearable : s.Clearable e
  · rw [clearParticipant_ok accepted clearable, next_clearUsers, Participant.persons,
      List.count_cons_self]
    omega
  · rcases clearParticipant_fails fiesta accepted exist clearable with
      ⟨err, t, run, grown⟩
    rw [run]
    exact grown

variable (fiesta) in
/-- So is the first person of the first of several entries. -/
theorem clearLoop_told (es : List Participant) (accepted : e.status = .accepted)
    (exist : (s.user e.fiestaRef).isSome) :
    (s.notifications e.fiestaRef).next <
      (((forEach (e :: es) (clearParticipant fiesta)).exec s).2.notifications e.fiestaRef).next := by
  have told := clearParticipant_told fiesta accepted exist
  have keeps : (forEach es (clearParticipant fiesta)).Keeps Store.KeepsNotes :=
    .forEach fun _ _ => clearParticipant_keeps Store.KeepsNotes.refl
      (fun _ _ _ => Store.KeepsNotes.refl _) keepsNotes_addNotification
  unfold forEach
  rcases exec_bind_store (clearParticipant fiesta e)
    (fun _ => forEach es (clearParticipant fiesta)) s with left | ⟨_, t, run, left⟩
  · rw [left]
    exact told
  · rw [left]
    rw [run] at told
    have later := keeps.exec Store.KeepsNotes.refl Store.KeepsNotes.trans t e.fiestaRef
    exact Nat.lt_of_lt_of_le told later

/-- A push that throws ends the deletion after its first entry. -/
theorem exec_deleteFiesta_refuse (found : s.fiesta f = some fiesta)
    {es : List Participant} (entries : fiesta.accepted = e :: es) (accepted : e.status = .accepted)
    (exist : (s.user e.fiestaRef).isSome) {d : UserId} (duoRef : e.duoRef = some d)
    (existDuo : (s.user d).isSome) :
    ((deleteFiesta w f).exec s.refuse).2 =
      s.refuse.clearUsers (cancelNotification fiesta s.clock) e.persons := by
  have same : s.SameButTokens s.refuse := sameButTokens_withTokens s (.value "token") false
  rw [same.isSome_user] at exist existDuo
  have unclearable : ¬ s.refuse.Clearable e := by
    intro clearable
    rcases clearable with ⟨user, foundUser, _, _, _, _, passes, _⟩
    have token : user.fcmToken = .value "token" := by
      rw [Store.refuse, user_withTokens, Option.mem_def, Option.map_eq_some_iff] at foundUser
      rcases foundUser with ⟨_, _, rfl⟩
      rfl
    rw [token] at passes
    cases passes ⟨by simp, by simp⟩
  have left := clearParticipant_store fiesta accepted exist duoRef existDuo
  rcases clearParticipant_fails fiesta accepted exist unclearable with
    ⟨err, t, run, -⟩
  rw [run] at left
  rw [exec_deleteFiesta (s := s.refuse) found, entries, forEach, exec_bind, run]
  exact left

/-- Without tokens the deletion goes on with the second entry. -/
theorem exec_deleteFiesta_hide (found : s.fiesta f = some fiesta)
    {es : List Participant} (entries : fiesta.accepted = e :: es) (accepted : e.status = .accepted)
    (exist : (s.user e.fiestaRef).isSome) {d : UserId} (duoRef : e.duoRef = some d)
    (existDuo : (s.user d).isSome) :
    (deleteFiesta w f).exec s.hide =
      match (forEach es (clearParticipant fiesta)).exec
        (s.hide.clearUsers (cancelNotification fiesta s.clock) e.persons) with
      | (.ok _, t) => (.ok (), (t.deleteHistory w f).deleteFiesta f)
      | (.error err, t) => (.error err, t) := by
  have clearable : s.hide.Clearable e := by
    rcases Option.isSome_iff_exists.mp exist with ⟨user, foundUser⟩
    rcases Option.isSome_iff_exists.mp existDuo with ⟨duo, foundDuo⟩
    refine ⟨user.hide, ?_, d, duoRef, duo.hide, ?_, ?_, ?_⟩
    · rw [user_hide, foundUser]
      rfl
    · rw [user_hide, foundDuo]
      rfl
    · exact fun sent => absurd rfl sent.1
    · exact fun sent => absurd rfl sent.1
  rw [exec_deleteFiesta (s := s.hide) found, entries, forEach, exec_bind,
    clearParticipant_ok accepted clearable]
  rfl

/-- If it does, the two leave different stores. -/
theorem deletionIdle_of_independent
    (independent : ((deleteFiesta w f).exec s.hide).2.SameButTokens
      ((deleteFiesta w f).exec s.refuse).2) : s.DeletionIdle f := by
  intro fiesta found e first exist both
  rcases both with ⟨d, duoRef, existDuo⟩
  rcases List.head?_eq_some_iff.mp first with ⟨es, entries⟩
  have all : ∀ e ∈ fiesta.accepted, e.status = .accepted := fun _ => mem_accepted
  rw [entries] at all
  have accepted := all e List.mem_cons_self
  rw [exec_deleteFiesta_refuse found entries accepted exist duoRef existDuo,
    exec_deleteFiesta_hide found entries accepted exist duoRef existDuo] at independent
  rw [entries]
  cases es with
  | nil =>
      -- the fiesta is gone without tokens, and still there after a push that throws
      have there : (s.refuse.clearUsers (cancelNotification fiesta s.clock) e.persons).fiesta f =
          some fiesta := by
        unfold Store.fiesta
        rw [(clearUsers_rest ..).1]
        exact found
      have gone := independent.fiesta f
      rw [there] at gone
      simp [forEach] at gone
  | cons e2 es =>
      refine ⟨e2, rfl, ?_⟩
      by_contra exist2
      -- the second one is told without tokens only
      have there : ((s.hide.clearUsers (cancelNotification fiesta s.clock) e.persons).user
          e2.fiestaRef).isSome := by
        rw [isSome_clearUsers, user_hide, Option.isSome_map]
        exact Option.isSome_iff_ne_none.mpr exist2
      have told := clearLoop_told fiesta es (all e2 (by simp)) there
      have notes := congrArg AutoCollection.next (independent.notifications e2.fiestaRef)
      rw [next_clearUsers] at notes told
      rcases run : (forEach (e2 :: es) (clearParticipant fiesta)).exec
        (s.hide.clearUsers (cancelNotification fiesta s.clock) e.persons) with ⟨outcome, t⟩
      rw [run] at notes told
      have left : (t.notifications e2.fiestaRef).next =
          (s.refuse.notifications e2.fiestaRef).next + e.persons.count e2.fiestaRef := by
        cases outcome with
        | error err => exact notes
        | ok _ =>
            rw [← notes]
            exact (congrArg AutoCollection.next
              (congrFun (deleteHistory_rest t w f).2.1 e2.fiestaRef)).symm
      rw [left] at told
      exact absurd told (Nat.lt_irrefl _)

end Delete

/-! ## A push that the write needs -/

section Sponsorship

variable {s : Store} {u : UserId} {id : Nat} {snap : Option Sponsorship}

/-- The request that the trigger sees. -/
def Store.sponsorshipData (s : Store) (u : UserId) (id : Nat) (snap : Option Sponsorship) :
    Option Sponsorship :=
  snap.or ((s.sponsorship u).get? id)

/-- There is nobody to tell, or nothing to tell. -/
def Store.SponsorIdle (s : Store) (u : UserId) (id : Nat) (snap : Option Sponsorship) : Prop :=
  ∀ _data ∈ s.sponsorshipData u id snap, s.user u = none

/-- Whether there is a sponsor to tell does not depend on the tokens. -/
theorem Store.SponsorIdle.congr {t : Store} (idle : s.SponsorIdle u id snap)
    (same : s.SameButTokens t) : t.SponsorIdle u id snap := by
  have data : s.sponsorshipData u id snap = t.sponsorshipData u id snap :=
    same.congr (g := fun s => s.sponsorshipData u id snap) fun _ => rfl
  unfold Store.SponsorIdle at idle ⊢
  simp only [← data, ← Option.not_isSome_iff_eq_none, ← same.isSome_user] at idle ⊢
  exact idle

/-- The trigger tells the sponsor exactly if it finds the request and all it needs. -/
theorem exec_onSponsorshipCreated :
    (onSponsorshipCreated u id snap).exec s =
      match s.sponsorshipData u id snap with
      | some data => (notifySponsor u id data).exec s
      | none => (.ok (), s) := by
  unfold onSponsorshipCreated Store.sponsorshipData getSponsorship
  cases snap with
  | some data => rfl
  | none =>
      rw [exec_bind, exec_read]
      dsimp only
      rw [Option.none_or]
      cases (s.sponsorship u).get? id with
      | none => rfl
      | some data => rfl

/-- Where there is nobody to tell, the trigger leaves the store as it is. -/
theorem onSponsorshipCreated_idle (idle : s.SponsorIdle u id snap) :
    ((onSponsorshipCreated u id snap).exec s).2 = s := by
  rw [exec_onSponsorshipCreated]
  cases found : s.sponsorshipData u id snap with
  | none => rfl
  | some data =>
      unfold notifySponsor
      simp [idle data found]

/-- Every user has a token, and every push resolves. -/
def Store.accept (s : Store) : Store :=
  s.withTokens (.value "token") true

/-- Otherwise the notification is written with a token only. -/
theorem sponsorIdle_of_independent
    (independent : ((onSponsorshipCreated u id snap).exec s.hide).2.SameButTokens
      ((onSponsorshipCreated u id snap).exec s.accept).2) : s.SponsorIdle u id snap := by
  intro data found
  rw [Option.mem_def] at found
  by_contra exist
  rcases Option.ne_none_iff_exists'.mp exist with ⟨parent, foundParent⟩
  have silent : s.hide.user u = some parent.hide := by rw [user_hide, foundParent, Option.map_some]
  have loud : s.accept.user u = some { parent with fcmToken := .value "token" } := by
    rw [Store.accept, user_withTokens, foundParent, Option.map_some]
  have foundSilent : s.hide.sponsorshipData u id snap = some data := found
  have foundLoud : s.accept.sponsorshipData u id snap = some data := found
  have passes : s.accept.pushOne (.value "token") = true := rfl
  have notes := congrArg AutoCollection.next (independent.notifications u)
  rw [exec_onSponsorshipCreated, exec_onSponsorshipCreated, foundSilent, foundLoud] at notes
  unfold notifySponsor at notes
  simp [silent, loud, User.hide, Stored.isFalsy, passes, AutoCollection.add] at notes
  have more : (s.notifications u).next = (s.notifications u).next + 1 := notes
  omega

end Sponsorship

/-! ## All functions that push -/

/-- A call of a function that sends pushes, with its arguments. -/
inductive PushingOp
  | joinFiesta (userId : UserId) (fiestaId : FiestaId) (fiestaRef : UserId)
      (duoRef : Option UserId) (status : Status)
  | acceptUserInFiesta (fiestaId : FiestaId) (fiestaRef : UserId) (duoRef : Option UserId)
  | requestNewLockDuo (userId friendId : UserId)
  | deleteFiesta (userId : UserId) (fiestaId : FiestaId)
  | checkEndFiesta
  | onSponsorshipCreated (userId : UserId) (sponsorshipId : Nat) (snap : Option Sponsorship)

namespace PushingOp

/-- The store that the call leaves. -/
def final : PushingOp → Store → Store
  | joinFiesta w f u o status, s => ((TwoGather.joinFiesta w f u o status).exec s).2
  | acceptUserInFiesta f u o, s => ((TwoGather.acceptUserInFiesta f u o).exec s).2
  | requestNewLockDuo u v, s => ((TwoGather.requestNewLockDuo u v).exec s).2
  | deleteFiesta w f, s => ((TwoGather.deleteFiesta w f).exec s).2
  | checkEndFiesta, s => (TwoGather.checkEndFiesta.exec s).2
  | onSponsorshipCreated u id snap, s => ((TwoGather.onSponsorshipCreated u id snap).exec s).2

/-- From any two stores that are `s` up to the tokens and the pushes that throw, the call leaves
two stores that are the same up to these. -/
def Independent (op : PushingOp) (s : Store) : Prop :=
  ∀ t t', s.SameButTokens t → s.SameButTokens t' → (op.final t).SameButTokens (op.final t')

/-- The call writes nothing that depends on a push. -/
def Idle : PushingOp → Store → Prop
  | joinFiesta w f u o status, s => s.JoinIdle w f ⟨u, o, status⟩
  | deleteFiesta _ f, s => s.DeletionIdle f
  | onSponsorshipCreated u id snap, s => s.SponsorIdle u id snap
  | _, _ => True

/-- A function that leaves alike stores alike does not depend on its pushes. -/
theorem independent_of_endAlike {op : PushingOp} (s : Store)
    (alike : ∀ s t : Store, s.SameButTokens t → (op.final s).SameButTokens (op.final t)) :
    op.Independent s := by
  intro t t' same same'
  exact alike t t' (Store.SameButTokens.equivalence.trans (Eq.symm same) same')

end PushingOp

/-- **What a function leaves in the store does not depend on pushes exactly when it has nothing to
write after its first push, or behind the check of the token.** -/
theorem independent_iff (op : PushingOp) (s : Store) : op.Independent s ↔ op.Idle s := by
  have silent : s.SameButTokens s.hide := sameButTokens_withTokens s .undefined true
  have refused : s.SameButTokens s.refuse := sameButTokens_withTokens s (.value "token") false
  have accepted : s.SameButTokens s.accept := sameButTokens_withTokens s (.value "token") true
  cases op with
  | joinFiesta w f u o status =>
      constructor
      · intro independent
        exact joinIdle_of_independent (independent _ _ silent refused)
      · intro idle t t' same same'
        have left := joinFiesta_idle (idle.congr same)
        have right := joinFiesta_idle (idle.congr same')
        unfold PushingOp.final
        dsimp only
        rw [left, right]
        exact Store.SameButTokens.equivalence.trans (Eq.symm same) same'
  | acceptUserInFiesta f u o =>
      refine ⟨fun _ => trivial, fun _ => ?_⟩
      exact PushingOp.independent_of_endAlike s (acceptUserInFiesta_endAlike f u o)
  | requestNewLockDuo u v =>
      refine ⟨fun _ => trivial, fun _ => ?_⟩
      exact PushingOp.independent_of_endAlike s (requestNewLockDuo_endAlike u v)
  | deleteFiesta w f =>
      constructor
      · intro independent
        exact deletionIdle_of_independent (independent _ _ silent refused)
      · intro idle t t' same same'
        apply deleteFiesta_sameButTokens (idle.congr same)
        exact Store.SameButTokens.equivalence.trans (Eq.symm same) same'
  | checkEndFiesta =>
      refine ⟨fun _ => trivial, fun _ => ?_⟩
      exact PushingOp.independent_of_endAlike s checkEndFiesta_endAlike
  | onSponsorshipCreated u id snap =>
      constructor
      · intro independent
        exact sponsorIdle_of_independent (independent _ _ silent accepted)
      · intro idle t t' same same'
        have left := onSponsorshipCreated_idle (idle.congr same)
        have right := onSponsorshipCreated_idle (idle.congr same')
        unfold PushingOp.final
        dsimp only
        rw [left, right]
        exact Store.SameButTokens.equivalence.trans (Eq.symm same) same'

/-! ## A host with an empty token -/

/-- `x` asks to join the fiesta of `host`, whose token is this one; the service can be reached. -/
def quietFiesta (token : Stored String) : Store :=
  { Store.ofUsers
      ⟨[("host", { fcmToken := token }), ("x", { profilImages := .value ["x.png"] }), ("y", {})],
        (by decide : ["host", "x", "y"].Nodup)⟩ with
    fiestas :=
      ⟨[("f",
        { title := .value "f"
          host := { id := "host" }
          hostRef := "host"
          endAt := .epoch
          isEnd := .value false
          visibleAfter := .undefined
          participants := [] })], by decide⟩
    push := nonEmptyToken }

/-- Without a token of the host the request is stored; with an empty one it is lost. -/
theorem quietFiesta_lost :
    ¬ (PushingOp.joinFiesta "x" "f" "x" (some "y") .pending).Independent
      (quietFiesta .undefined) := by
  intro independent
  have same := independent (quietFiesta .undefined) (quietFiesta (.value "")) rfl rfl
  have entries := congrArg (Option.map fun fiesta => fiesta.participants.length) (same.fiesta "f")
  revert entries
  decide

end TwoGather
