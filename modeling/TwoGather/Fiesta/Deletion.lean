import TwoGather.Fiesta.Controller

/-!
# Cancelling a fiesta, all or nothing

`deleteFiesta` clears the accepted entries one by one and deletes the fiesta at the end. It
has no transaction, so an entry whose work fails leaves the entries before it cleared and the
fiesta in place. What it has written by then includes a notification, which nothing takes
back; so the only failures that change nothing are those before the first write
(`deleteFiesta_allOrNothing_iff`).
-/

namespace TwoGather

open Docs Requests

/-! ## The work on a list of users -/

/-- The user leaves the fiesta and is told. -/
def Store.clearUser (s : Store) (n : Notification) (u : UserId) : Store :=
  (s.updateUser u (·.setFiesta .null)).addNotification u n

/-- All users of the list, in order. -/
def Store.clearUsers (s : Store) (n : Notification) (us : List UserId) : Store :=
  us.foldl (·.clearUser n) s

section ClearUsers

variable {s : Store} {n : Notification} {us : List UserId}

/-- The users of two lists are cleared one after the other. -/
theorem clearUsers_append (us vs : List UserId) :
    s.clearUsers n (us ++ vs) = (s.clearUsers n us).clearUsers n vs :=
  List.foldl_append ..

/-- The parts of the store that the work leaves alone. -/
theorem clearUsers_rest (s : Store) (n : Notification) (us : List UserId) :
    (s.clearUsers n us).fiestas = s.fiestas ∧
      (s.clearUsers n us).createdFiesta = s.createdFiesta ∧
      (s.clearUsers n us).clock = s.clock ∧ (s.clearUsers n us).push = s.push := by
  induction us generalizing s with
  | nil => exact ⟨rfl, rfl, rfl, rfl⟩
  | cons u us ih => exact ih (s.clearUser n u)

/-- Who is on the list has no fiesta afterwards. -/
theorem user_clearUsers (n : Notification) (us : List UserId) (u : UserId) :
    (s.clearUsers n us).user u =
      if u ∈ us then (s.user u).map (·.setFiesta .null) else s.user u := by
  induction us generalizing s with
  | nil => rfl
  | cons v us ih =>
      have first : (s.clearUser n v).user u =
          if u = v then (s.user u).map (·.setFiesta .null) else s.user u :=
        Store.user_updateUser ..
      have step : s.clearUsers n (v :: us) = (s.clearUser n v).clearUsers n us := rfl
      rw [step, ih, first]
      by_cases same : u = v
      · subst same
        cases s.user u with
        | none => simp
        | some data => simp [User.setFiesta]
      · simp [same]

/-- Everybody gets as many notifications as it has places in the list. -/
theorem notifications_clearUsers (u : UserId) :
    (s.clearUsers n us).notifications u = (·.add n)^[us.count u] (s.notifications u) := by
  induction us generalizing s with
  | nil => rfl
  | cons v us ih =>
      have first : (s.clearUser n v).notifications u =
          if u = v then (s.notifications u).add n else s.notifications u :=
        Store.notifications_addNotification ..
      have step : s.clearUsers n (v :: us) = (s.clearUser n v).clearUsers n us := rfl
      rw [step, ih, first]
      by_cases same : u = v
      · subst same
        rw [if_pos rfl, List.count_cons_self, Function.iterate_succ_apply]
      · rw [if_neg same, List.count_cons_of_ne (Ne.symm same)]

end ClearUsers

/-! ## The work on an entry -/

/-- The persons of an entry. -/
def Participant.persons (e : Participant) : List UserId :=
  e.fiestaRef :: e.duoRef.toList

/-- Both persons of the entry exist, and the pushes to them go through. -/
def Store.Clearable (s : Store) (e : Participant) : Prop :=
  ∃ user ∈ s.user e.fiestaRef, ∃ d ∈ e.duoRef, ∃ duo ∈ s.user d,
    s.PassesUnlessEmpty user.fcmToken ∧ s.PassesUnlessNull duo.fcmToken

instance (s : Store) (e : Participant) : Decidable (s.Clearable e) :=
  inferInstanceAs (Decidable (∃ user ∈ s.user e.fiestaRef, _))

/-- What is left of the work on an entry when its first person is done. -/
def clearDuo (fiestaData : Fiesta) (duoRef : Option UserId) (userData : Option User) :
    Firestore Unit := do
  let duoRef ← docOf duoRef
  let duoData ← getUser duoRef
  updateUser duoRef (·.setFiesta .null)
  addNotification duoRef (cancelNotification fiestaData)
  let userData ← member userData
  pushUnlessEmpty userData.fcmToken
  let duoData ← member duoData
  pushUnlessNull duoData.fcmToken

/-- No notification is gone. -/
def Store.KeepsNotes (s t : Store) : Prop :=
  ∀ u, (s.notifications u).next ≤ (t.notifications u).next

section Entry

variable {s t : Store} {fiesta : Fiesta} {e : Participant}

theorem Store.KeepsNotes.refl (s : Store) : s.KeepsNotes s := fun _ => Nat.le_refl _

theorem Store.KeepsNotes.trans {u : Store} (first : s.KeepsNotes t) (second : t.KeepsNotes u) :
    s.KeepsNotes u := fun v => Nat.le_trans (first v) (second v)

/-- A new notification leaves the old ones. -/
theorem keepsNotes_addNotification (s : Store) (u : UserId) (n : Notification) :
    s.KeepsNotes (s.addNotification u n) := by
  intro v
  rw [Store.notifications_addNotification]
  split
  · exact Nat.le_succ _
  · exact Nat.le_refl _

/-- Once the second person is found, it is done, and only the pushes are left. -/
theorem clearDuo_exec {user duo : User} {d : UserId} (found : s.user d = some duo) :
    (clearDuo fiesta (some d) (some user)).exec s =
      (do pushUnlessEmpty user.fcmToken; pushUnlessNull duo.fcmToken : Firestore Unit).exec
        (s.clearUser (cancelNotification fiesta s.clock) d) := by
  unfold clearDuo Store.clearUser
  simp only [docOf, Program.exec_bind, Program.exec_pure, exec_getUser, found, exec_updateUser,
    Option.isSome_some, ↓reduceIte, exec_addNotification, exec_member_some,
    Store.clock_updateUser]

/-- The duo is cleared and told, if its document is there and the pushes resolve. -/
theorem clearDuo_ok {user duo : User} {d : UserId} (found : s.user d = some duo)
    (passUser : s.PassesUnlessEmpty user.fcmToken) (passDuo : s.PassesUnlessNull duo.fcmToken) :
    (clearDuo fiesta (some d) (some user)).exec s =
      (.ok (), s.clearUser (cancelNotification fiesta s.clock) d) := by
  have passUser' : (s.clearUser (cancelNotification fiesta s.clock) d).PassesUnlessEmpty
    user.fcmToken := passUser
  have passDuo' : (s.clearUser (cancelNotification fiesta s.clock) d).PassesUnlessNull
    duo.fcmToken := passDuo
  rw [clearDuo_exec found]
  simp only [Program.exec_bind, exec_pushUnlessEmpty, exec_pushUnlessNull, passUser', passDuo',
    ↓reduceIte]

/-- When the work on the second person ends well, that person exists and both pushes went
through. -/
theorem clearable_of_clearDuo {duoRef : Option UserId} {userData : Option User}
    (run : (clearDuo fiesta duoRef userData).exec s = (.ok (), t)) :
    ∃ user ∈ userData, ∃ d ∈ duoRef, ∃ duo ∈ s.user d,
      s.PassesUnlessEmpty user.fcmToken ∧ s.PassesUnlessNull duo.fcmToken := by
  rcases Program.exec_bind_ok run with ⟨d, _, second, run⟩
  rcases docOf_ok second with ⟨rfl, rfl⟩
  rcases Program.exec_bind_ok run with ⟨_, _, read, run⟩
  rcases getUser_ok read with ⟨foundDuo, rfl⟩
  rcases Program.exec_bind_ok run with ⟨_, _, update, run⟩
  rcases updateUser_ok update with ⟨-, rfl⟩
  rcases Program.exec_bind_ok run with ⟨_, _, note, run⟩
  rcases addNotification_ok note with rfl
  rcases Program.exec_bind_ok run with ⟨user, _, data, run⟩
  rcases member_ok data with ⟨rfl, rfl⟩
  rcases Program.exec_bind_ok run with ⟨_, _, push, run⟩
  rcases pushUnlessEmpty_passes push with ⟨passUser, rfl⟩
  rcases Program.exec_bind_ok run with ⟨duo, _, data, run⟩
  rcases member_ok data with ⟨rfl, rfl⟩
  rcases pushUnlessNull_passes run with ⟨passDuo, -⟩
  exact ⟨user, rfl, d, rfl, duo, foundDuo, passUser, passDuo⟩

variable (fiesta) in
/-- The end of the work on the second person writes a notification. -/
theorem tellDuo_keeps {R : Store → Store → Prop} (refl : ∀ s, R s s)
    (note : ∀ s u n, R s (s.addNotification u n)) (d : UserId) (userData duoData : Option User) :
    (do
      addNotification d (cancelNotification fiesta)
      let userData ← member userData
      pushUnlessEmpty userData.fcmToken
      let duoData ← member duoData
      pushUnlessNull duoData.fcmToken : Firestore Unit).Keeps R := by
  apply Program.Keeps.bind (keeps_addNotification fun s => note s d _)
  intro _
  apply Program.Keeps.bind (keeps_member userData)
  intro _
  apply Program.Keeps.bind (keeps_pushUnlessEmpty refl _)
  intro _
  apply Program.Keeps.bind (keeps_member duoData)
  intro _
  exact keeps_pushUnlessNull refl _

/-- Users lose their fiesta and get notifications; nothing else is written. -/
theorem clearDuo_keeps {R : Store → Store → Prop} (refl : ∀ s, R s s) {duoRef : Option UserId}
    (field : ∀ s, ∀ u ∈ duoRef, R s (s.updateUser u (·.setFiesta .null)))
    (note : ∀ s u n, R s (s.addNotification u n)) (userData : Option User) :
    (clearDuo fiesta duoRef userData).Keeps R := by
  cases duoRef with
  | none => exact .throw _
  | some d =>
      apply Program.Keeps.bind (.read refl _)
      intro duoData
      apply Program.Keeps.bind (keeps_updateUser fun s => field s d rfl)
      intro _
      exact tellDuo_keeps fiesta refl note d userData duoData

/-- What the loop does for an accepted entry. -/
theorem clearParticipant_of_accepted (accepted : e.status = .accepted) :
    clearParticipant fiesta e = (do
      let userData ← getUser e.fiestaRef
      updateUser e.fiestaRef (·.setFiesta .null)
      addNotification e.fiestaRef (cancelNotification fiesta)
      clearDuo fiesta e.duoRef userData) := by
  unfold clearParticipant
  rw [if_pos accepted]
  rfl

/-- A round keeps what its two kinds of writes keep. -/
theorem clearParticipant_keeps {R : Store → Store → Prop} (refl : ∀ s, R s s)
    (field : ∀ s u, e.Has u → R s (s.updateUser u (·.setFiesta .null)))
    (note : ∀ s u n, R s (s.addNotification u n)) : (clearParticipant fiesta e).Keeps R := by
  by_cases accepted : e.status = .accepted
  · rw [clearParticipant_of_accepted accepted]
    apply Program.Keeps.bind (.read refl _)
    intro userData
    apply Program.Keeps.bind (keeps_updateUser fun s => field s _ (.inl rfl))
    intro _
    apply Program.Keeps.bind (keeps_addNotification fun s => note s _ _)
    intro _
    exact clearDuo_keeps refl (fun s u duo => field s u (.inr duo)) note _
  · unfold clearParticipant
    rw [if_neg accepted]
    exact .pure ()

/-- It does nothing for the others. -/
theorem clearParticipant_of_not (other : e.status ≠ .accepted) :
    clearParticipant fiesta e = pure () := by
  unfold clearParticipant
  rw [if_neg other]

variable (fiesta) in
/-- Nothing is written for an entry whose first person is missing. -/
theorem clearParticipant_missing (accepted : e.status = .accepted)
    (missing : s.user e.fiestaRef = none) :
    (clearParticipant fiesta e).exec s = (.error .notFound, s) := by
  rw [clearParticipant_of_accepted accepted]
  simp [missing, Store.updateUser_of_none missing]

/-- Once the first person is found, it is done, whatever becomes of the second. -/
theorem clearParticipant_exec (accepted : e.status = .accepted) {user : User}
    (found : s.user e.fiestaRef = some user) :
    (clearParticipant fiesta e).exec s =
      (clearDuo fiesta e.duoRef (some user)).exec
        (s.clearUser (cancelNotification fiesta s.clock) e.fiestaRef) := by
  rw [clearParticipant_of_accepted accepted]
  simp [found, Store.clearUser]

/-- The user as the work on the other person finds it: its token is the same. -/
theorem user_clearUser (n : Notification) (u v : UserId) :
    ((s.clearUser n v).user u).map User.fcmToken = (s.user u).map User.fcmToken := by
  have first : (s.clearUser n v).user u =
      if u = v then (s.user u).map (·.setFiesta .null) else s.user u :=
    Store.user_updateUser ..
  rw [first]
  split
  · rw [Option.map_map]
    rfl
  · rfl

/-- A round that can be made clears the persons of its entry. -/
theorem clearParticipant_ok (accepted : e.status = .accepted) (clearable : s.Clearable e) :
    (clearParticipant fiesta e).exec s =
      (.ok (), s.clearUsers (cancelNotification fiesta s.clock) e.persons) := by
  rcases clearable with ⟨user, found, d, duoRef, duo, foundDuo, passUser, passDuo⟩
  rw [Option.mem_def] at found duoRef foundDuo
  have same := user_clearUser (s := s) (cancelNotification fiesta s.clock) d e.fiestaRef
  rw [foundDuo, Option.map_some] at same
  rcases Option.map_eq_some_iff.mp same with ⟨after, foundAfter, token⟩
  rw [clearParticipant_exec accepted found, duoRef, clearDuo_ok foundAfter passUser]
  · simp only [Participant.persons, duoRef, Option.toList_some]
    rfl
  · rw [token]
    exact passDuo

/-- What makes an entry clearable are the tokens of its persons and the push service. -/
theorem Store.Clearable.congr (clearable : s.Clearable e)
    (tokens : ∀ u, (t.user u).map User.fcmToken = (s.user u).map User.fcmToken)
    (push : t.push = s.push) : t.Clearable e := by
  rcases clearable with ⟨user, found, d, duoRef, duo, foundDuo, passUser, passDuo⟩
  have first := tokens e.fiestaRef
  have second := tokens d
  rw [found, Option.map_some] at first
  rw [foundDuo, Option.map_some] at second
  rcases Option.map_eq_some_iff.mp first with ⟨user', found', token⟩
  rcases Option.map_eq_some_iff.mp second with ⟨duo', foundDuo', tokenDuo⟩
  refine ⟨user', found', d, duoRef, duo', foundDuo', ?_, ?_⟩
  · rw [Store.PassesUnlessEmpty, token, push]
    exact passUser
  · rw [Store.PassesUnlessNull, tokenDuo, push]
    exact passDuo

variable (fiesta) in
/-- The work on an entry that cannot be cleared has written a notification when it fails,
unless its first person is missing. -/
theorem clearParticipant_fails (accepted : e.status = .accepted)
    (exist : (s.user e.fiestaRef).isSome) (notClearable : ¬ s.Clearable e) :
    ∃ err t, (clearParticipant fiesta e).exec s = (.error err, t) ∧
      (s.notifications e.fiestaRef).next < (t.notifications e.fiestaRef).next := by
  rcases Option.isSome_iff_exists.mp exist with ⟨user, found⟩
  rw [clearParticipant_exec accepted found]
  have keeps : (clearDuo fiesta e.duoRef (some user)).Keeps Store.KeepsNotes :=
    clearDuo_keeps Store.KeepsNotes.refl (fun _ _ _ _ => Nat.le_refl _)
      keepsNotes_addNotification _
  have grown := keeps.exec Store.KeepsNotes.refl Store.KeepsNotes.trans
    (s.clearUser (cancelNotification fiesta s.clock) e.fiestaRef) e.fiestaRef
  have one : ((s.clearUser (cancelNotification fiesta s.clock) e.fiestaRef).notifications
      e.fiestaRef).next = (s.notifications e.fiestaRef).next + 1 := by
    rw [Store.clearUser, Store.notifications_addNotification, if_pos rfl]
    rfl
  rcases run : (clearDuo fiesta e.duoRef (some user)).exec
    (s.clearUser (cancelNotification fiesta s.clock) e.fiestaRef) with ⟨outcome, t⟩
  rw [run, one] at grown
  cases outcome with
  | error err => exact ⟨err, t, rfl, grown⟩
  | ok _ =>
      rcases clearable_of_clearDuo run with ⟨_, same, d, duoRef, duo, foundDuo, passUser, passDuo⟩
      cases same
      have tokens := user_clearUser (s := s) (cancelNotification fiesta s.clock) d e.fiestaRef
      rw [foundDuo, Option.map_some] at tokens
      rcases Option.map_eq_some_iff.mp tokens.symm with ⟨before, foundBefore, token⟩
      refine absurd ⟨user, found, d, duoRef, before, foundBefore, passUser, ?_⟩ notClearable
      rw [Store.PassesUnlessNull, token]
      exact passDuo

/-- Work that ends well has found both persons and sent its pushes. -/
theorem clearable_of_ok {a : Unit} (accepted : e.status = .accepted)
    (run : (clearParticipant fiesta e).exec s = (.ok a, t)) : s.Clearable e := by
  by_contra unclearable
  cases found : s.user e.fiestaRef with
  | none =>
      rw [clearParticipant_missing fiesta accepted found] at run
      cases run
  | some user =>
      have exist : (s.user e.fiestaRef).isSome := by rw [found]; rfl
      rcases clearParticipant_fails fiesta accepted exist unclearable with
        ⟨err, u, fails, -⟩
      rw [fails] at run
      cases run

end Entry

/-! ## The loop -/

section Loop

variable {s : Store} {fiesta : Fiesta} {es : List Participant}

/-- The entries that are not accepted are passed over. -/
theorem clearLoop_accepted (es : List Participant) :
    (Program.forEach es (clearParticipant fiesta)).exec s =
      (Program.forEach (es.filter (·.status = .accepted)) (clearParticipant fiesta)).exec s := by
  induction es generalizing s with
  | nil => rfl
  | cons e es ih =>
      by_cases accepted : e.status = .accepted
      · rw [List.filter_cons_of_pos (by simpa using accepted), Program.forEach, Program.forEach,
          Program.exec_bind, Program.exec_bind]
        rcases (clearParticipant fiesta e).exec s with ⟨outcome, t⟩
        cases outcome with
        | ok _ => exact ih
        | error err => rfl
      · rw [List.filter_cons_of_neg (by simpa using accepted), ← ih, Program.forEach,
          clearParticipant_of_not accepted]
        rfl

/-- The tokens stay. -/
theorem user_clearUsers_token (n : Notification) (us : List UserId) (u : UserId) :
    ((s.clearUsers n us).user u).map User.fcmToken = (s.user u).map User.fcmToken := by
  rw [user_clearUsers]
  split
  · rw [Option.map_map]
    rfl
  · rfl

/-- So do the documents. -/
theorem isSome_clearUsers (n : Notification) (us : List UserId) (u : UserId) :
    ((s.clearUsers n us).user u).isSome = (s.user u).isSome := by
  have exist := congrArg Option.isSome (user_clearUsers_token (s := s) n us u)
  rwa [Option.isSome_map, Option.isSome_map] at exist

/-- A loop whose rounds can all be made clears the persons of all entries. -/
theorem clearLoop_ok (accepted : ∀ e ∈ es, e.status = .accepted)
    (clearable : ∀ e ∈ es, s.Clearable e) :
    (Program.forEach es (clearParticipant fiesta)).exec s =
      (.ok (), s.clearUsers (cancelNotification fiesta s.clock)
        (es.flatMap Participant.persons)) := by
  induction es generalizing s with
  | nil => rfl
  | cons e es ih =>
      have clock := (clearUsers_rest s (cancelNotification fiesta s.clock) e.persons).2.2.1
      have rest := ih (s := s.clearUsers (cancelNotification fiesta s.clock) e.persons)
        (fun e listed => accepted e (List.mem_cons_of_mem _ listed))
        fun e listed => (clearable e (List.mem_cons_of_mem _ listed)).congr
          (user_clearUsers_token _ _) (clearUsers_rest ..).2.2.2
      rw [clock] at rest
      rw [Program.forEach, Program.exec_bind, clearParticipant_ok
        (accepted e List.mem_cons_self) (clearable e List.mem_cons_self), List.flatMap_cons,
        clearUsers_append]
      exact rest

/-- Each user gets as many notifications as it is on the list. -/
theorem next_clearUsers (n : Notification) (us : List UserId) (u : UserId) :
    ((s.clearUsers n us).notifications u).next = (s.notifications u).next + us.count u := by
  have next : ∀ (k : Nat) (c : AutoCollection Notification),
      ((·.add n)^[k] c).next = c.next + k := by
    intro k
    induction k with
    | zero => exact fun _ => rfl
    | succ k ih =>
        intro c
        rw [Function.iterate_succ_apply, ih]
        simp only [AutoCollection.add]
        omega
  rw [notifications_clearUsers, next]

variable (fiesta) in
/-- A loop that meets an entry that cannot be cleared fails, and has changed nothing only if
the first person of the first entry is missing. -/
theorem clearLoop_fails (accepted : ∀ e ∈ es, e.status = .accepted)
    (unclearable : ∃ e ∈ es, ¬ s.Clearable e) :
    ∃ err t, (Program.forEach es (clearParticipant fiesta)).exec s = (.error err, t) ∧
      ((∃ e ∈ es.head?, s.user e.fiestaRef = none) ∧ t = s ∨
        (∀ e ∈ es.head?, (s.user e.fiestaRef).isSome) ∧
          ∃ u, (s.notifications u).next < (t.notifications u).next) := by
  induction es generalizing s with
  | nil =>
      rcases unclearable with ⟨e, listed, -⟩
      cases listed
  | cons e es ih =>
      have first := accepted e List.mem_cons_self
      simp only [List.head?_cons, Option.mem_def, Option.some.injEq, exists_eq_left', forall_eq']
      unfold Program.forEach
      rw [Program.exec_bind]
      cases found : s.user e.fiestaRef with
      | none =>
          rw [clearParticipant_missing fiesta first found]
          exact ⟨_, s, rfl, .inl ⟨rfl, rfl⟩⟩
      | some user =>
          have exist : (s.user e.fiestaRef).isSome := by simp [found]
          by_cases clearable : s.Clearable e
          · have one := next_clearUsers (s := s) (cancelNotification fiesta s.clock) e.persons
            have later : ∃ e' ∈ es, ¬ (s.clearUsers (cancelNotification fiesta s.clock)
                e.persons).Clearable e' := by
              rcases unclearable with ⟨e', listed, not⟩
              rcases List.mem_cons.mp listed with rfl | listed
              · exact absurd clearable not
              · refine ⟨e', listed, fun after => not ?_⟩
                exact after.congr (fun u => (user_clearUsers_token _ _ u).symm)
                  (clearUsers_rest ..).2.2.2.symm
            rw [clearParticipant_ok first clearable]
            rcases ih (s := s.clearUsers (cancelNotification fiesta s.clock) e.persons)
                (fun e listed => accepted e (List.mem_cons_of_mem _ listed)) later with
              ⟨err, t, run, ⟨-, rfl⟩ | ⟨-, u, grown⟩⟩
            · refine ⟨err, _, run, .inr ⟨rfl, e.fiestaRef, ?_⟩⟩
              rw [one, Participant.persons, List.count_cons_self]
              omega
            · refine ⟨err, t, run, .inr ⟨rfl, u, ?_⟩⟩
              rw [one] at grown
              omega
          · rcases clearParticipant_fails fiesta first exist clearable with ⟨err, t, run, grown⟩
            rw [run]
            exact ⟨err, t, rfl, .inr ⟨rfl, e.fiestaRef, grown⟩⟩

/-- The store has the same fiestas. -/
def Store.SameFiestas (s t : Store) : Prop := t.fiestas = s.fiestas

theorem Store.SameFiestas.refl (s : Store) : s.SameFiestas s := rfl

theorem Store.SameFiestas.trans {t u : Store} (first : s.SameFiestas t)
    (second : t.SameFiestas u) : s.SameFiestas u :=
  Eq.trans second first

variable (fiesta) in
/-- The loop writes users and notifications. -/
theorem clearLoop_sameFiestas (es : List Participant) :
    s.SameFiestas ((Program.forEach es (clearParticipant fiesta)).exec s).2 := by
  have keeps : (Program.forEach es (clearParticipant fiesta)).Keeps Store.SameFiestas :=
    .forEach fun _ _ => clearParticipant_keeps Store.SameFiestas.refl (fun _ _ _ => rfl)
      fun _ _ _ => rfl
  exact keeps.exec Store.SameFiestas.refl Store.SameFiestas.trans s

end Loop

/-! ## All or nothing -/

/-- The accepted entries. -/
def Fiesta.accepted (f : Fiesta) : List Participant :=
  f.participants.filter (·.status = .accepted)

/-- The persons of the accepted entries, each as often as it has a place in one. -/
def Fiesta.acceptedPersons (f : Fiesta) : List UserId :=
  f.accepted.flatMap Participant.persons

/-- The history entry of the host for the fiesta. -/
def Store.historyEntry (s : Store) (userId : UserId) (f : FiestaId) : Option Nat :=
  (((s.createdFiesta userId).docs.filter fun doc => doc.2.fiestaId = f).head?).map Prod.fst

/-- The history entry goes, if there is one. -/
def Store.deleteHistory (s : Store) (userId : UserId) (f : FiestaId) : Store :=
  match s.historyEntry userId f with
  | some key =>
      { s with
        createdFiesta :=
          Function.update s.createdFiesta userId ((s.createdFiesta userId).delete key) }
  | none => s

/-- The fiesta and its history entry are gone, and all persons of the accepted entries that
still exist are out of it and have been told, once for each of their places. -/
structure Store.Cancelled (s : Store) (userId : UserId) (f : FiestaId) (fiesta : Fiesta)
    (t : Store) : Prop where
  gone : t.fiesta f = none
  history : t.createdFiesta userId =
    (s.historyEntry userId f).elim (s.createdFiesta userId) (s.createdFiesta userId).delete
  fields : ∀ u ∈ fiesta.acceptedPersons, ∀ user ∈ s.user u, ∃ after ∈ t.user u,
    after.fiesta = .null
  notes : ∀ u, (s.user u).isSome → t.notifications u =
    (·.add (cancelNotification fiesta s.clock))^[fiesta.acceptedPersons.count u]
      (s.notifications u)

/-- The deletion does all its work, or fails and changes nothing. -/
def Store.AllOrNothing (s : Store) (userId : UserId) (f : FiestaId) : Prop :=
  (∃ fiesta, s.fiesta f = some fiesta ∧
      s.Cancelled userId f fiesta ((TwoGather.deleteFiesta userId f).exec s).2) ∨
    ((∃ err, ((TwoGather.deleteFiesta userId f).exec s).1 = .error err) ∧
      ((TwoGather.deleteFiesta userId f).exec s).2 = s)

section Deletion

variable {s : Store} {f : FiestaId} {w : UserId} {fiesta : Fiesta}

/-- The entry of the fiesta is deleted from the history. -/
theorem exec_deleteFromHistory (s : Store) (w : UserId) (f : FiestaId) :
    (deleteFromHistory w f).exec s = (.ok (), s.deleteHistory w f) := by
  unfold deleteFromHistory createdFiestaQuery Store.deleteHistory Store.historyEntry
  rw [Program.exec_bind, Program.exec_read]
  cases (s.createdFiesta w).docs.filter fun doc => doc.2.fiestaId = f with
  | nil => rfl
  | cons doc docs => rfl

/-- The deletion of a fiesta that exists is the loop over its accepted entries, and then the
two deletions. -/
theorem exec_deleteFiesta (found : s.fiesta f = some fiesta) :
    (deleteFiesta w f).exec s =
      match (Program.forEach fiesta.accepted (clearParticipant fiesta)).exec s with
      | (.ok _, t) => (.ok (), (t.deleteHistory w f).deleteFiesta f)
      | (.error err, t) => (.error err, t) := by
  unfold deleteFiesta Fiesta.accepted
  simp only [Program.exec_bind, exec_getFiesta, found, exec_member_some, ← clearLoop_accepted,
    exec_deleteFromHistory, exec_deleteFiestaDoc]
  rcases (Program.forEach fiesta.participants (clearParticipant fiesta)).exec s with ⟨outcome, t⟩
  cases outcome with
  | ok _ => rfl
  | error err => rfl

theorem mem_accepted {e : Participant} (listed : e ∈ fiesta.accepted) : e.status = .accepted := by
  simpa using (List.mem_filter.mp listed).2

/-- The history is all that a deletion from it writes. -/
theorem deleteHistory_rest (s : Store) (w : UserId) (f : FiestaId) :
    (s.deleteHistory w f).user = s.user ∧
      (s.deleteHistory w f).notifications = s.notifications ∧
      (s.deleteHistory w f).createdFiesta w =
        (s.historyEntry w f).elim (s.createdFiesta w) (s.createdFiesta w).delete := by
  unfold Store.deleteHistory
  cases s.historyEntry w f with
  | none => exact ⟨rfl, rfl, rfl⟩
  | some key => exact ⟨rfl, rfl, Function.update_self ..⟩

/-- The whole work, when every accepted entry can be cleared. -/
theorem deleteFiesta_cancels (found : s.fiesta f = some fiesta)
    (clearable : ∀ e ∈ fiesta.accepted, s.Clearable e) :
    s.Cancelled w f fiesta ((deleteFiesta w f).exec s).2 := by
  rw [exec_deleteFiesta found, clearLoop_ok (fun _ => mem_accepted) clearable]
  have rest := deleteHistory_rest
    (s.clearUsers (cancelNotification fiesta s.clock) fiesta.acceptedPersons) w f
  constructor
  · simp
  · have same : (s.clearUsers (cancelNotification fiesta s.clock)
        fiesta.acceptedPersons).createdFiesta = s.createdFiesta := (clearUsers_rest ..).2.1
    have history := rest.2.2
    unfold Store.historyEntry at history ⊢
    rw [same] at history
    exact history
  · intro u listed user found
    refine ⟨user.setFiesta .null, ?_, rfl⟩
    have cleared := user_clearUsers (s := s) (cancelNotification fiesta s.clock)
      fiesta.acceptedPersons u
    rw [if_pos listed, Option.mem_def.mp found] at cleared
    exact (congrFun rest.1 u).trans cleared
  · intro u _
    exact (congrFun rest.2.1 u).trans (notifications_clearUsers u)

/-- A deletion that meets an entry that cannot be cleared fails with the fiesta in place. It has
changed nothing exactly when the first person of the first accepted entry is missing. -/
theorem deleteFiesta_fails (found : s.fiesta f = some fiesta)
    (unclearable : ∃ e ∈ fiesta.accepted, ¬ s.Clearable e) :
    ∃ err t, (deleteFiesta w f).exec s = (.error err, t) ∧ t.fiesta f = some fiesta ∧
      (t = s ↔ ∃ e ∈ fiesta.accepted.head?, s.user e.fiestaRef = none) := by
  rcases clearLoop_fails fiesta (fun _ => mem_accepted) unclearable with
    ⟨err, t, loop, ends⟩
  have same := clearLoop_sameFiestas fiesta (s := s) fiesta.accepted
  rw [loop] at same
  refine ⟨err, t, ?_, ?_, ?_⟩
  · rw [exec_deleteFiesta found, loop]
  · rw [← found, Store.fiesta, Store.fiesta, same]
  · rcases ends with ⟨missing, unchanged⟩ | ⟨exist, u, grown⟩
    · exact ⟨fun _ => missing, fun _ => unchanged⟩
    · constructor
      · intro unchanged
        rw [unchanged] at grown
        omega
      · intro missing
        rcases missing with ⟨e, first, missing⟩
        have there := exist e first
        rw [missing] at there
        cases there

/-- **`deleteFiesta` is all or nothing exactly when the fiesta is missing, or the first person of
its first accepted entry is, or all accepted entries can be cleared.** -/
theorem deleteFiesta_allOrNothing_iff (s : Store) (w : UserId) (f : FiestaId) :
    s.AllOrNothing w f ↔ ∀ fiesta ∈ s.fiesta f,
      (∃ e ∈ fiesta.accepted.head?, s.user e.fiestaRef = none) ∨
        ∀ e ∈ fiesta.accepted, s.Clearable e := by
  cases found : s.fiesta f with
  | none =>
      have fails : (deleteFiesta w f).exec s = (.error .typeError, s) := by
        unfold deleteFiesta
        simp [found]
      constructor
      · intro _ fiesta there
        cases there
      · intro _
        right
        rw [fails]
        exact ⟨⟨_, rfl⟩, rfl⟩
  | some fiesta =>
      simp only [Option.mem_def, Option.some.injEq, forall_eq']
      by_cases clearable : ∀ e ∈ fiesta.accepted, s.Clearable e
      · refine ⟨fun _ => .inr clearable, fun _ => .inl ?_⟩
        exact ⟨fiesta, found, deleteFiesta_cancels found clearable⟩
      · have unclearable : ∃ e ∈ fiesta.accepted, ¬ s.Clearable e := by
          by_contra none
          exact clearable fun e listed => by_contra fun not => none ⟨e, listed, not⟩
        rcases deleteFiesta_fails (w := w) found unclearable with ⟨err, t, run, still, unchanged⟩
        unfold Store.AllOrNothing
        rw [run]
        simp only [clearable, or_false]
        constructor
        · intro either
          rcases either with ⟨_, _, cancelled⟩ | ⟨-, same⟩
          · rw [cancelled.gone] at still
            cases still
          · exact unchanged.mp same
        · intro missing
          exact .inr ⟨⟨err, rfl⟩, unchanged.mpr missing⟩

end Deletion

/-! ## A participant whose account is gone -/

/-- A fiesta with `a` and `b`. -/
def pairFiesta : Fiesta where
  title := .value "f"
  host := { id := "h" }
  hostRef := "h"
  endAt := .epoch
  isEnd := .value false
  visibleAfter := .undefined
  participants := [⟨"a", some "b", .accepted⟩]

/-- The account of `b` has been deleted. -/
def withoutDuo : Store :=
  { Store.ofUsers ⟨[("h", {}), ("a", { fiesta := .value "f" })], by decide⟩ with
    fiestas := ⟨[("f", pairFiesta)], by decide⟩ }

/-- The deletion fails, and `a` has been told that the fiesta is cancelled. -/
theorem withoutDuo_halfway : ¬ withoutDuo.AllOrNothing "h" "f" := by
  intro either
  rcases either with ⟨_, _, cancelled⟩ | ⟨-, same⟩
  · have gone := cancelled.gone
    revert gone
    decide
  · have told := congrArg (fun t : Store => (t.notifications "a").next) same
    revert told
    decide

/-- Both are there. -/
def withDuo : Store :=
  { Store.ofUsers
      ⟨[("h", {}), ("a", { fiesta := .value "f" }), ("b", { fiesta := .value "f" })],
        by decide⟩ with
    fiestas := ⟨[("f", pairFiesta)], by decide⟩ }

theorem withDuo_cancelled :
    (∀ fiesta ∈ withDuo.fiesta "f", ∀ e ∈ fiesta.accepted, withDuo.Clearable e) ∧
      withDuo.AllOrNothing "h" "f" := by
  have clearable : ∀ fiesta ∈ withDuo.fiesta "f", ∀ e ∈ fiesta.accepted, withDuo.Clearable e := by
    decide
  exact ⟨clearable, (deleteFiesta_allOrNothing_iff withDuo "h" "f").mpr fun fiesta there =>
    .inr (clearable fiesta there)⟩

end TwoGather
