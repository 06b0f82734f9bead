import TwoGather.Fiesta.Controller

/-!
# The job that ends fiestas

`checked_end_fiesta.ts`, which runs every five minutes: every fiesta whose end date has
passed is marked as ended, its host is asked for a note, and then, entry by entry, its
accepted participants.

The work on an entry begins with `friends.contains(..)`, which no JavaScript array has.
So the first accepted entry ends the whole run (`noteMember_eq`), and the participants
are never asked.
-/

namespace TwoGather

open Docs Requests

/-! ## `checked_end_fiesta.ts` -/

/-- `fiesta.where("isEnd", "!=", true)`: a field that is missing or `null` matches no
inequality. -/
def notEndedQuery : Firestore (List (FiestaId × Fiesta)) :=
  .read fun s => s.fiestas.docs.filter fun doc => doc.2.isEnd = .value false

/-- `users.doc(u).collection("participated-fiesta").doc(f).set(..)`. -/
def setParticipatedFiesta (u : UserId) (f : FiestaId) (p : ParticipatedFiesta) :
    Firestore Unit :=
  .step
    (fun s =>
      { s with
        participatedFiesta :=
          Function.update s.participatedFiesta u ((s.participatedFiesta u).set f p) })
    fun _ => pure ()

def Fiesta.markEnded (f : Fiesta) : Fiesta :=
  { f with isEnd := .value true }

/-- The note that is asked from the host or a participant. -/
def noteNotification (id : FiestaId) (data : Fiesta) (message : String)
    (receivedAt : Timestamp) : Notification where
  notificationType := .noteFiesta
  isComplete := false
  isRead := false
  message
  notificationUser := fiestaFamily
  metadata := { fiestaId := .value id, fiestaHostId := .value data.host.id }
  receivedAt

def hostNotification (id : FiestaId) (data : Fiesta) : Timestamp → Notification :=
  noteNotification id data
    ("Tu as organisé la Fiesta \"" ++ template data.title ++ "\", donne ton retour")

def memberNotification (id : FiestaId) (data : Fiesta) : Timestamp → Notification :=
  noteNotification id data
    ("Tu as participé à la Fiesta \"" ++ template data.title ++ "\", qu'en as-tu pensé ?")

/-- `friends.contains(..)`: the method does not exist. -/
def contains (_friends : Stored (List Friend)) (_friend : Friend) : Firestore Bool :=
  throw .typeError

/-- A connexion of `u` becomes a fiestar. -/
def promoteConnexion (u v : UserId) (friends : Stored (List Friend)) : Firestore Unit := do
  if ← contains friends { type := .connexion, user := v } then
    updateUser u fun d =>
      { d with friends := d.friends.remove { type := .connexion, user := v } }
    updateUser u fun d =>
      { d with friends := d.friends.union { type := .fiestar, user := v } }

/-- The body of the loop over the participants. -/
def noteMember (id : FiestaId) (data : Fiesta) (member : Participant) : Firestore Unit := do
  if member.status = .accepted then
    let fUser := member.fiestaRef
    let fUserData ← getUser fUser
    let sUser ← docOf member.duoRef
    let sUserData ← getUser sUser
    let fUserData ← TwoGather.member fUserData
    promoteConnexion fUser sUser fUserData.friends
    let sUserData ← TwoGather.member sUserData
    promoteConnexion sUser fUser sUserData.friends
    updateUser fUser (·.setFiesta .null)
    updateUser sUser (·.setFiesta .null)
    if data.visibleAfter = .value true then
      setParticipatedFiesta fUser id { data, fiestaRef := id, fiestaId := id }
      setParticipatedFiesta sUser id { data, fiestaRef := id, fiestaId := id }
    pushUnlessNull fUserData.fcmToken
    pushUnlessEmpty sUserData.fcmToken
    addNotification fUser (memberNotification id data)
    addNotification sUser (memberNotification id data)

/-- The body of the loop over the fiestas. -/
def endFiesta (id : FiestaId) (data : Fiesta) : Firestore Unit := do
  let now ← newDate
  if data.endAt.toDate.lt now then
    updateFiesta id (·.markEnded)
    addNotification data.hostRef (hostNotification id data)
    Program.forEach data.participants (noteMember id data)

def checkEndFiesta : Firestore Unit := do
  let fiestas ← notEndedQuery
  Program.forEach fiestas fun e => endFiesta e.1 e.2

/-! ## What the job does -/

/-- The end date of the fiesta has passed. -/
def Store.expired (s : Store) (data : Fiesta) : Bool :=
  data.endAt.toDate.lt (some (s.clock.micros / 1000))

/-- The fiesta ended, with its host asked for a note. -/
def Store.endFiesta (s : Store) (id : FiestaId) (data : Fiesta) : Store :=
  (s.updateFiesta id (·.markEnded)).addNotification data.hostRef (hostNotification id data s.clock)

section Spec

variable {s t : Store} {id : FiestaId} {data : Fiesta}

/-- An accepted entry is only read before the missing method is called. -/
theorem noteMember_eq (member : Participant) :
    noteMember id data member =
      if member.status = .accepted then do
        let fUserData ← getUser member.fiestaRef
        let sUser ← docOf member.duoRef
        let _ ← getUser sUser
        let _ ← TwoGather.member fUserData
        throw .typeError
      else pure () :=
  rfl

/-- The loop over participants none of whom is accepted does nothing. -/
theorem noteMembers_exec {members : List Participant}
    (nobody : ∀ e ∈ members, e.status ≠ .accepted) :
    (Program.forEach members (noteMember id data)).exec s = (.ok (), s) := by
  induction members with
  | nil => rfl
  | cons member members ih =>
      unfold Program.forEach
      rw [Program.exec_bind, noteMember_eq, if_neg (nobody member List.mem_cons_self)]
      apply ih
      intro e listed
      exact nobody e (List.mem_cons_of_mem _ listed)

/-- The work on a fiesta that has expired and has no accepted participant. -/
theorem endFiesta_exec (exist : (s.fiesta id).isSome) (expired : s.expired data = true)
    (nobody : ∀ e ∈ data.participants, e.status ≠ .accepted) :
    (endFiesta id data).exec s = (.ok (), s.endFiesta id data) := by
  have due : data.endAt.toDate.lt (some (s.clock.micros / 1000)) := expired
  unfold endFiesta
  simp only [Program.exec_bind, exec_newDate, due, ↓reduceIte, exec_updateFiesta, exist,
    exec_addNotification]
  exact noteMembers_exec nobody

theorem endFiesta_exec_of_not (notOver : s.expired data = false) :
    (endFiesta id data).exec s = (.ok (), s) := by
  have notDue : data.endAt.toDate.lt (some (s.clock.micros / 1000)) = false := notOver
  unfold endFiesta
  simp [notDue]

/-! ### Cut-off runs -/

/-- The store is the same. -/
def Same (s t : Store) : Prop := t = s

theorem Same.refl (s : Store) : Same s s := rfl

theorem noteMember_keeps (member : Participant) : (noteMember id data member).Keeps Same := by
  rw [noteMember_eq]
  split
  · apply Program.Keeps.bind (.read Same.refl _)
    intro fUserData
    apply Program.Keeps.bind
    · cases member.duoRef with
      | none => exact .throw _
      | some v => exact .pure v
    · intro sUser
      apply Program.Keeps.bind (.read Same.refl _)
      intro _
      apply Program.Keeps.bind (keeps_member fUserData)
      intro _
      exact .throw _
  · exact .pure ()

theorem noteMembers_visits {members : List Participant}
    (visit : (Program.forEach members (noteMember id data)).Visits s t) : t = s := by
  have keeps : (Program.forEach members (noteMember id data)).Keeps Same :=
    .forEach fun member _ => noteMember_keeps member
  exact keeps.visits Same.refl (fun first second => second.trans first) visit

/-- The work on one fiesta that ends well has written nothing, or the end and the question
to the host. -/
theorem endFiesta_ok (run : (endFiesta id data).exec s = (.ok (), t)) :
    t = s ∨ t = s.endFiesta id data := by
  rcases Program.exec_bind_ok run with ⟨now, _, clock, run⟩
  cases clock
  split at run
  · rcases Program.exec_bind_ok run with ⟨_, _, update, run⟩
    rcases updateFiesta_ok update with ⟨-, rfl⟩
    rcases Program.exec_bind_ok run with ⟨_, _, note, run⟩
    rcases addNotification_ok note with rfl
    right
    have same := noteMembers_visits (.exec (Program.forEach data.participants (noteMember id data))
      (s.endFiesta id data))
    exact (congrArg Prod.snd run).symm.trans same
  · cases run
    exact .inl rfl

/-- A run of the work on one fiesta, cut off or not, has written nothing, the end of the
fiesta, or the end and the question to its host. -/
theorem endFiesta_visits (visit : (endFiesta id data).Visits s t) :
    t = s ∨ (s.expired data = true ∧
      (t = s.updateFiesta id (·.markEnded) ∨ t = s.endFiesta id data)) := by
  rcases Program.Visits.of_bind visit with reading | ⟨now, u, run, visit⟩
  · exact .inl (Program.Visits.of_read reading)
  · cases run
    split at visit
    case isTrue expired =>
      rcases Program.Visits.of_bind visit with updating | ⟨_, u, run, visit⟩
      · rcases visits_updateFiesta updating with rfl | rfl
        · exact .inl rfl
        · exact .inr ⟨expired, .inl rfl⟩
      · rcases updateFiesta_ok run with ⟨-, rfl⟩
        right
        refine ⟨expired, ?_⟩
        rcases Program.Visits.of_bind visit with adding | ⟨_, u, run, visit⟩
        · exact visits_addNotification adding
        · rcases addNotification_ok run with rfl
          exact .inr (noteMembers_visits visit)
    case isFalse =>
      cases visit
      exact .inl rfl

end Spec

end TwoGather
