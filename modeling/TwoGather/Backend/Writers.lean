import TwoGather.Backend.Table

/-!
# Who writes what

The table of effects read the other way: for every write, the calls that may make it
(`Effect.By`). So each kind of write has a few calls, and mostly names their users.
-/

namespace TwoGather

open Docs Requests

/-! ## Calls about users -/

/-- The two given users are these two, in some order. -/
def AreTwo (userId friendId u v : UserId) : Prop :=
  userId = u ∧ friendId = v ∨ userId = v ∧ friendId = u

namespace Call

/-- The call may leave a request of `u` to `v`. -/
def Asks (u v : UserId) : Call → Prop
  | .callable (.addFriendWithSwipe userId friendId) => userId = u ∧ friendId = v
  | .app (.addFriendWithSwipe userId friendId) => userId = u ∧ friendId = v
  | .app (.addFriend userId friendId) => userId = u ∧ friendId = v
  | _ => False

/-- The call may take back a request of `u` to `v`: a match, a failure, or a refusal. -/
def TakesBack (u v : UserId) : Call → Prop
  | .callable (.addFriendWithSwipe userId friendId) => AreTwo userId friendId u v
  | .app (.addFriendWithSwipe userId friendId) => AreTwo userId friendId u v
  | .app (.addFriend userId friendId) => userId = u ∧ friendId = v
  | .app (.handleFriendRequest userId friendId _ accepted) =>
      accepted = false ∧ friendId = u ∧ userId = v
  | _ => False

/-- The call may make friends of the two. -/
def Befriends (u v : UserId) : Call → Prop
  | .callable (.addFriendWithSwipe userId friendId) => AreTwo userId friendId u v
  | .callable (.confirmFriendRequest userId friendId accepted) =>
      accepted = true ∧ AreTwo userId friendId u v
  | .app (.addFriendWithSwipe userId friendId) => AreTwo userId friendId u v
  | .app (.addFriend userId friendId) => AreTwo userId friendId u v
  | .app (.handleFriendRequest userId friendId _ accepted) =>
      accepted = true ∧ AreTwo userId friendId u v
  | _ => False

/-- The call may lock the two. -/
def Locks (u v : UserId) : Call → Prop
  | .callable (.confirmDuoRequest userId friendId accepted) =>
      accepted = true ∧ AreTwo userId friendId u v
  | .app (.handleDuoRequest userId friendId _ accepted) =>
      accepted = true ∧ AreTwo userId friendId u v
  | _ => False

/-- The call ends a lock of the user. -/
def Unlocks (u : UserId) : Call → Prop
  | .callable (.stopLockDuo userId friendId) => userId = u ∨ friendId = u
  | .app (.stopLockDuo userId friendId _) => userId = u ∨ friendId = u
  | _ => False

/-- The call brings the user into the fiesta. -/
def BringsIn (u : UserId) (f : FiestaId) : Call → Prop
  | .callable (.acceptUserInFiesta fiestaId fiestaRef duoRef) =>
      fiestaId = f ∧ (fiestaRef = u ∨ duoRef = some u)
  | .app (.acceptUserInFiesta fiestaId userRef duoRef) =>
      fiestaId = f ∧ (userRef = u ∨ duoRef = u)
  | _ => False

/-- The call takes the user out of its fiesta, or any guest of a fiesta that it deletes. -/
def TakesOut (u : UserId) : Call → Prop
  | .callable (.deleteFiesta _ _) => True
  | .app (.deleteUserInFiesta _ userRef duoRef) => userRef = u ∨ duoRef = u
  | _ => False

/-- The call credits a report to the user, or it is the job that settles reports. -/
def Credits (u : UserId) : Call → Prop
  | .triggered .clearReportAfterDuration => True
  | .app (.reportUser _ id subId _ _ _) => id = u ∨ subId = some u
  | _ => False

/-- The call counts a fiesta that the user has created. -/
def CountsFiesta (u : UserId) : Call → Prop
  | .callable (.createFiestaPoint userId) => userId = u
  | .app (.createNewFiesta uid _ _) => uid = u
  | _ => False

/-- The call writes this status of the completion of the profile, other than an approval. -/
def SetsStatus (u : UserId) (status : Stored String) : Call → Prop
  | .app (.createSponsorshipDirect uid _) => uid = u ∧ status = .value "error"
  | .app (.refuseUser _ userId _) => userId = u ∧ status = .value "error"
  | .app (.updateStatus uid st) => uid = u ∧ status = st
  | .app (.updateProfile uid page) =>
      uid = u ∧ status ≠ .undefined ∧ status = page.edit.completeProfilStatus
  | _ => False

/-- The call answers this notification, or marks it as answered. -/
def Answers (u : UserId) (k : Nat) : Call → Prop
  | .app (.setNotificationAsComplete userId notifId) => userId = u ∧ notifId = k
  | .app (.handleFriendRequest userId _ notifId _) => userId = u ∧ notifId = k
  | .app (.handleDuoRequest userId _ notifId _) => userId = u ∧ notifId = some k
  | .app (.handleFiestaRequest _ duoId _ notifId _) => duoId = u ∧ notifId = k
  | .app (.handleSponsorshipRequest userId _ notifId _) => userId = u ∧ notifId = k
  | _ => False

/-! ## Calls about salons -/

/-- The call may store this salon: one of two users, under their ids, or one of a fiesta. -/
def StoresSalon (id : SalonId) (data : Salon) : Call → Prop
  | .app (.requestNewLockDuo userId friendId none) =>
      id = userId ++ friendId ∧ data = .ofTwo userId friendId
  | .app (.stopLockDuo userId friendId none) =>
      id = userId ++ friendId ∧ data = .ofTwo userId friendId
  | .app (.handleDuoRequest userId friendId _ _) =>
      id = userId ++ friendId ∧ data = .ofTwo userId friendId
  | .app (.openChat _ me other) => id = other ++ me ∧ data = .ofTwo me other
  | .app (.createNewFiesta uid fiestaId _) => id = fiestaId ∧ data = .ofFiesta uid
  | _ => False

/-- The call leaves a lock demand of the user in the salon. -/
def Demands (u : UserId) (id : SalonId) : Call → Prop
  | .app (.requestNewLockDuo userId friendId salonId) =>
      userId = u ∧ IsSalonOf salonId userId friendId id
  | _ => False

/-- The call ends the lock that the salon shows. -/
def EndsLock (id : SalonId) : Call → Prop
  | .app (.stopLockDuo userId friendId salonId) => IsSalonOf salonId userId friendId id
  | _ => False

/-- The call agrees to a lock in the salon. -/
def Agrees (id : SalonId) : Call → Prop
  | .app (.handleDuoRequest userId friendId _ accepted) =>
      accepted = true ∧ IsSalonOf none userId friendId id
  | _ => False

/-- The call reports the user, or reports it along with another one. -/
def Reports (sender u : UserId) : Call → Prop
  | .app (.reportUser uid id subId _ _ _) => uid = sender ∧ (id = u ∨ subId = some u)
  | _ => False

/-! ## Calls about fiestas -/

/-- The call asks for this entry of the fiesta. -/
def Enters (f : FiestaId) (e : Participant) : Call → Prop
  | .callable (.joinFiesta _ fiestaId fiestaRef duoRef status) =>
      fiestaId = f ∧ e = { fiestaRef, duoRef, status }
  | .app (.acceptFiesta userId fiestaId duo isWithSearch) =>
      isWithSearch = false ∧ fiestaId = f ∧ e =
        { fiestaRef := userId
          duoRef := duo
          status := if duo.isNone then .waiting else .pending }
  | .app (.handleFiestaRequest userId duoId fiestaId _ accepted) =>
      accepted = true ∧ fiestaId = f ∧
        e = { fiestaRef := userId, duoRef := some duoId, status := .pending }
  | _ => False

/-- The call accepts the two persons of an entry. -/
def Accepts (f : FiestaId) (fiestaRef : UserId) (duoRef : Option UserId) : Call → Prop
  | .callable (.acceptUserInFiesta fiestaId ref duo) =>
      fiestaId = f ∧ ref = fiestaRef ∧ duo = duoRef
  | .app (.acceptUserInFiesta fiestaId userRef duo) =>
      fiestaId = f ∧ userRef = fiestaRef ∧ some duo = duoRef
  | _ => False

/-- The call removes a waiting entry of the user, who is given as the duo of another one. -/
def PairsUp (f : FiestaId) (u : UserId) : Call → Prop
  | .app (.acceptFiesta _ fiestaId duo isWithSearch) =>
      isWithSearch = false ∧ fiestaId = f ∧ duo = some u
  | .app (.handleFiestaRequest _ duoId fiestaId _ accepted) =>
      accepted = true ∧ fiestaId = f ∧ duoId = u
  | _ => False

/-- The call removes this entry of the fiesta, and puts no other one in its place unless it
accepts. -/
def Removes (f : FiestaId) (e : Participant) (c : Call) : Prop :=
  e.status = .pending ∧ c.Accepts f e.fiestaRef e.duoRef ∨
    e.status = .waiting ∧ e.duoRef = none ∧ c.PairsUp f e.fiestaRef ∨
      ∃ duo, e.duoRef = some duo ∧
        (e.status = .pending ∧ c = .app (.refuseUserInFiesta f e.fiestaRef duo) ∨
          e.status = .accepted ∧ c = .app (.deleteUserInFiesta f e.fiestaRef duo))

/-! ## Calls that notify -/

/-- The call asks the host of the fiesta for this user. -/
def Joins (fiestaRef : UserId) (f : FiestaId) : Call → Prop
  | .callable (.joinFiesta _ fiestaId ref _ _) => ref = fiestaRef ∧ fiestaId = f
  | .app (.acceptFiesta userId fiestaId _ isWithSearch) =>
      isWithSearch = false ∧ userId = fiestaRef ∧ fiestaId = f
  | .app (.handleFiestaRequest userId _ fiestaId _ accepted) =>
      accepted = true ∧ userId = fiestaRef ∧ fiestaId = f
  | _ => False

/-- The call takes these users out of the salon. -/
def TakesAway (id : SalonId) (users : List UserId) (c : Call) : Prop :=
  c = .app (.removeUsersFromSalon id users) ∨
    ∃ u, users = [u] ∧ c = .app (.leaveSalon id u)

/-- The call hides this message from the user. -/
def Hides (id : SalonId) (k : MessageId) (u : UserId) (c : Call) : Prop :=
  ∃ selected, k ∈ selected ∧ c = .app (.deleteSelectedMessage id selected .onlyMe u)

/-- The call deletes this message. -/
def Deletes (id : SalonId) (k : MessageId) (c : Call) : Prop :=
  ∃ selected u, k ∈ selected ∧ c = .app (.deleteSelectedMessage id selected .all u)

/-- The call notifies the user of this. -/
def Tells (u : UserId) (news : News) (c : Call) : Prop :=
  match news.notificationType with
  | .message =>
      news = .message ∧ ((∃ host f, c = .callable (.deleteFiesta host f)) ∨
        ∃ f a b, (a = u ∨ b = u) ∧ c = .callable (.refuseUserNotify f a b))
  | .friendRequest => news = .friendRequest news.sender ∧ c = .app (.addFriend news.sender u)
  | .duoRequest =>
      news = .duoRequest news.sender ∧ (c = .callable (.requestNewLockDuo news.sender u) ∨
        ∃ salonId, c = .app (.requestNewLockDuo news.sender u salonId))
  | .fiestaConfirmation =>
      ∃ f, news = .fiestaConfirmation news.sender f ∧
        (c = .callable (.requestADuoToGoFiesta news.sender f (some u)) ∨
          c = .app (.acceptFiesta news.sender f (some u) true))
  | .handleFiestaConfirmation => ∃ f, news = .join news.sender f ∧ c.Joins news.sender f
  | .noteFiesta => ∃ f host, news = .note f host ∧ c = .triggered .checkEndFiesta
  | .sponsorshipRequest =>
      ∃ r data snap, news = .sponsorship r data ∧ c = .triggered (.onSponsorshipCreated u r snap)

end Call

/-! ## The writers -/

def UserWrite.By (u : UserId) (c : Call) : UserWrite → Prop
  | .setFiesta .null => c.TakesOut u
  | .setFiesta (.value f) => c.BringsIn u f
  | .setFiesta .undefined => False
  | .requestFiesta f => ∃ duo search, c = .app (.acceptFiesta u f duo search)
  | .dismissFiesta f => c = .app (.dismissFiesta u f)
  | .clearDismissed => c = .triggered .clearDismissed
  | .dismissFriend v => c = .callable (.dismissFriendWithSwipe u v)
  | .block v => c = .app (.bloqueUser u v)
  | .unblock v => c = .app (.unnbloqueUser u v)
  | .request v => c.Asks u v
  | .unrequest v => c.TakesBack u v
  | .addConnexion v => c.Befriends u v
  | .befriend v => c.Befriends u v
  | .accept v => c.Befriends u v
  | .setRequests l => ∃ held v, c = .app (.cancelFriendRequest u held v) ∧ l = held.filter (· ≠ v)
  | .setFriends l => ∃ held ids, c = .app (.addToFirstCircle u held ids) ∧
      l = held.map (·.promote ids)
  | .lock duo => c.Locks u duo.id
  | .unlock => c.Unlocks u
  | .incrementPoint _ => c.Credits u
  | .createFiesta => c.CountsFiesta u
  | .setLevel _ => c.CountsFiesta u
  | .rate _ => ∃ note, c = .app (.noteUser u note)
  | .approve => ∃ uid requestId, c = .app (.acceptUser uid u requestId)
  | .setStatus status => c.SetsStatus u status
  | .setTrustCode code => c = .triggered (.onUserCreated u code)
  | .edit e => ∃ page, e = page.edit ∧ c = .app (.updateProfile u page)

def FiestaWrite.By (f : FiestaId) (c : Call) : FiestaWrite → Prop
  | .union e => c.Enters f e ∨ e.status = .accepted ∧ c.Accepts f e.fiestaRef e.duoRef
  | .remove e => c.Removes f e
  | .markEnded => c = .triggered .checkEndFiesta
  | .rate _ => ∃ note, c = .app (.noteFiesta f note)
  | .save form => ∃ uid, c = .app (.updateFiesta uid f form)

def SalonWrite.By (id : SalonId) (c : Call) : SalonWrite → Prop
  | .setLast m (.drawn _) => c = .app (.send id (.text m))
  | .setLast m (.given k) => c = .app (.send id (.file k m))
  | .demand _ => ∃ u, c.Demands u id
  | .setLock .locked => c.Agrees id
  | .setLock .notYet => c.EndsLock id
  | .setLock .sended => False
  | .join u => c = .app (.becomeMember u id)
  | .addUsers users => c = .app (.addUsersToSalon id users)
  | .removeUsers users => c.TakesAway id users

def MessageWrite.By (id : SalonId) (k : MessageId) (c : Call) : MessageWrite → Prop
  | .accept => c.Agrees id
  | .hideFrom u => c.Hides id k u

def SponsorshipWrite.By (u : UserId) (r : Nat) (c : Call) : SponsorshipWrite → Prop
  | .accept _ => ∃ v, c = .app (.acceptUser u v r)
  | .process accepted _ => ∃ k, c = .app (.handleSponsorshipRequest u r k accepted)

def Elsewhere.By (c : Call) : Elsewhere → Prop
  | .storeSalon id data => c.StoresSalon id data
  | .salon id w => w.By id c
  | .deleteSalon id => c = .app (.deleteSalon id)
  | .message id m =>
      c = .app (.send id (.text m)) ∨ ∃ u createdAt, m = lockDemand u createdAt ∧ c.Demands u id
  | .media id k m => c = .app (.send id (.file k m))
  | .onMessage id k w => w.By id k c
  | .deleteMessage id k => c.Deletes id k
  | .sponsor _ request =>
      request.isAccepted = false ∧
        c = .app (.createSponsorshipDirect request.user.id request.code)
  | .sponsorship u r w => w.By u r c
  | .dismissSponsorship u r => ∃ v, c = .app (.refuseUser u v r)
  | .addCode code => c = .triggered (.onUserCreated code.user code.code)
  | .deleteCode _ => ∃ snap, c = .triggered (.onUserDeleted snap)
  | .addReport report => c.Reports report.sender report.toId
  | .deleteReport _ => c = .triggered .clearReportAfterDuration
  | .addUserReport u report => c.Reports report.sender u
  | .addCreated u data => ∃ form, c = .app (.createNewFiesta u data.fiestaId form)
  | .saveCreated u _ form => ∃ f, c = .app (.updateFiesta u f form)
  | .deleteCreated u _ => ∃ f, c = .callable (.deleteFiesta u f)

def Effect.By (c : Call) : Effect → Prop
  | .nothing => False
  | .elsewhere x => x.By c
  | .user u w => w.By u c
  | .accept u v => ∀ a b, AreTwo u v a b → c.Befriends a b
  | .createUser u data => data = newUser ∧ c = .app (.signUp u)
  | .deleteUser u => c = .callable (.deleteUser u)
  | .createFiesta f data => ∃ uid form, data = form.fiesta ∧ c = .app (.createNewFiesta uid f form)
  | .fiesta f w => w.By f c
  | .deleteFiesta f => ∃ u, c = .callable (.deleteFiesta u f)
  | .notify u n => n.IsNew ∧ c.Tells u n.news
  | .mark u k .complete => c.Answers u k
  | .mark u _ .read => c = .app (.setAllNotificationAsRead u)

/-! ## The table, read the other way -/

section By

variable {c : Call} {e : Effect}

theorem Effect.by_of_tells {u : UserId} {news : News} (told : e.Tells u news)
    (tells : c.Tells u news) : e.By c := by
  cases e with
  | notify v n =>
      rcases told with ⟨rfl, isNew, rfl⟩
      exact ⟨isNew, tells⟩
  | _ => cases told

theorem Effect.by_of_isLock {userId friendId : UserId} (lock : e.IsLock userId friendId)
    (locks : ∀ u v, AreTwo userId friendId u v → c.Locks u v) : e.By c := by
  cases e with
  | user u w =>
      cases w with
      | lock duo =>
          apply locks
          rcases lock with ⟨rfl, rfl⟩ | ⟨rfl, rfl⟩
          · exact .inl ⟨rfl, rfl⟩
          · exact .inr ⟨rfl, rfl⟩
      | _ => cases lock
  | _ => cases lock

theorem Effect.by_of_opens {salonId : Option SalonId} {userId friendId : UserId}
    (opens : e.Opens salonId userId friendId)
    (stores : salonId = none → c.StoresSalon (userId ++ friendId) (.ofTwo userId friendId)) :
    e.By c := by
  rcases opens with ⟨unknown, rfl⟩
  exact stores unknown

theorem Effect.by_of_isDemand {userId : UserId} {id : SalonId} (demand : e.IsDemand userId id)
    (demands : c.Demands userId id) : e.By c := by
  rcases demand with ⟨createdAt, rfl⟩ | ⟨key, rfl⟩
  · exact .inr ⟨userId, createdAt, rfl, demands⟩
  · exact ⟨userId, demands⟩

theorem Effect.by_of_isAgreement {id : SalonId} (agreement : e.IsAgreement id)
    (agrees : c.Agrees id) : e.By c := by
  rcases agreement with rfl | ⟨k, rfl⟩
  · exact agrees
  · exact agrees

theorem by_of_swipe {userId friendId : UserId} (swipe : e ∈ swipeEffects userId friendId)
    (asks : c.Asks userId friendId)
    (takes : ∀ u v, AreTwo userId friendId u v → c.TakesBack u v)
    (befriends : ∀ u v, AreTwo userId friendId u v → c.Befriends u v) : e.By c := by
  unfold swipeEffects at swipe
  simp only [List.mem_cons, List.not_mem_nil, or_false] at swipe
  rcases swipe with rfl | rfl | rfl | rfl | rfl
  · exact takes _ _ (.inl ⟨rfl, rfl⟩)
  · exact takes _ _ (.inr ⟨rfl, rfl⟩)
  · exact befriends _ _ (.inl ⟨rfl, rfl⟩)
  · exact befriends _ _ (.inr ⟨rfl, rfl⟩)
  · exact asks

theorem by_of_accept {f : FiestaId} {fiestaRef : UserId} {duoRef : Option UserId}
    (accept : e ∈ acceptEffects f fiestaRef duoRef) (accepts : c.Accepts f fiestaRef duoRef)
    (brings : ∀ u, fiestaRef = u ∨ duoRef = some u → c.BringsIn u f) : e.By c := by
  unfold acceptEffects at accept
  rcases List.mem_cons.mp accept with rfl | accept
  · exact .inl ⟨rfl, accepts⟩
  · rcases List.mem_cons.mp accept with rfl | accept
    · exact .inr ⟨rfl, accepts⟩
    · rcases List.mem_map.mp accept with ⟨u, guest, rfl⟩
      apply brings u
      rcases List.mem_cons.mp guest with rfl | duo
      · exact .inl rfl
      · exact .inr (Option.mem_toList.mp duo)

/-- The entry of a user who waited goes when it is given as the duo. -/
theorem by_of_waiting {f : FiestaId} {duo : Option UserId} (waiting : e ∈ waitingEffects f duo)
    (pairs : ∀ u, duo = some u → c.PairsUp f u) : e.By c := by
  rcases List.mem_map.mp waiting with ⟨u, given, rfl⟩
  exact .inr (.inl ⟨rfl, rfl, pairs u (Option.mem_toList.mp given)⟩)

theorem Callable.by_of_may {c : Callable} (may : c.may e) : e.By (.callable c) := by
  cases c with
  | addFriendWithSwipe _ _ =>
      exact by_of_swipe may ⟨rfl, rfl⟩ (fun _ _ => id) fun _ _ => id
  | deleteFriend _ _ => cases may
  | dismissFriendWithSwipe _ _ => cases may; exact rfl
  | confirmFriendRequest userId friendId accepted =>
      rcases may with ⟨rfl, may⟩
      rcases List.mem_pair.mp may with rfl | rfl
      · exact ⟨rfl, .inr ⟨rfl, rfl⟩⟩
      · exact ⟨rfl, .inl ⟨rfl, rfl⟩⟩
  | requestNewLockDuo _ _ => exact Effect.by_of_tells may ⟨rfl, .inl rfl⟩
  | confirmDuoRequest _ _ accepted =>
      rcases may with ⟨rfl, lock⟩
      exact Effect.by_of_isLock lock fun _ _ two => ⟨rfl, two⟩
  | stopLockDuo _ _ =>
      rcases List.mem_pair.mp may with rfl | rfl
      · exact .inl rfl
      · exact .inr rfl
  | joinFiesta _ _ _ _ _ =>
      rcases may with rfl | ⟨host, told⟩
      · exact .inl ⟨rfl, rfl⟩
      · exact Effect.by_of_tells told ⟨_, rfl, rfl, rfl⟩
  | deleteFiesta userId _ =>
      rcases may with ⟨u, rfl | told⟩ | rfl | ⟨k, rfl⟩
      · exact trivial
      · exact Effect.by_of_tells told ⟨rfl, .inl ⟨_, _, rfl⟩⟩
      · exact ⟨userId, rfl⟩
      · exact ⟨_, rfl⟩
  | acceptUserInFiesta _ _ _ =>
      exact by_of_accept may ⟨rfl, rfl, rfl⟩ fun u guest => ⟨rfl, guest⟩
  | requestADuoToGoFiesta _ fiestaId _ =>
      rcases may with ⟨duo, rfl, told⟩
      exact Effect.by_of_tells told ⟨fiestaId, rfl, .inl rfl⟩
  | refuseUserNotify fiestaId userId duoRef =>
      rcases may with told | told
      · exact Effect.by_of_tells told ⟨rfl, .inr ⟨fiestaId, userId, duoRef, .inl rfl, rfl⟩⟩
      · exact Effect.by_of_tells told ⟨rfl, .inr ⟨fiestaId, userId, duoRef, .inr rfl, rfl⟩⟩
  | createFiestaPoint _ =>
      rcases may with rfl | ⟨level, rfl⟩
      · exact rfl
      · exact rfl
  | deleteUser _ => cases may; exact rfl

theorem Triggered.by_of_may {c : Triggered} (may : c.may e) : e.By (.triggered c) := by
  cases c with
  | onUserCreated _ _ =>
      rcases may with rfl | rfl
      · exact rfl
      · exact rfl
  | onUserDeleted snap =>
      rcases may with ⟨k, rfl⟩
      exact ⟨snap, rfl⟩
  | onSponsorshipCreated _ sponsorshipId snap =>
      rcases may with ⟨data, told⟩
      exact Effect.by_of_tells told ⟨sponsorshipId, data, snap, rfl, rfl⟩
  | checkEndFiesta =>
      rcases may with ⟨f, rfl | ⟨u, host, told⟩⟩
      · exact rfl
      · exact Effect.by_of_tells told ⟨f, host, rfl, rfl⟩
  | clearReportAfterDuration =>
      rcases may with ⟨u, n, rfl⟩ | ⟨k, rfl⟩
      · exact trivial
      · exact rfl
  | clearDismissed =>
      rcases may with ⟨u, rfl⟩
      exact rfl

theorem AppCall.by_of_may {c : AppCall} (may : c.may e) : e.By (.app c) := by
  cases c with
  | addFriendWithSwipe _ _ =>
      exact by_of_swipe may ⟨rfl, rfl⟩ (fun _ _ => id) fun _ _ => id
  | addFriend _ _ =>
      rcases may with may | told
      · simp only [List.mem_cons, List.not_mem_nil, or_false] at may
        rcases may with rfl | rfl | rfl | rfl
        · exact ⟨rfl, rfl⟩
        · exact ⟨rfl, rfl⟩
        · exact .inr ⟨rfl, rfl⟩
        · exact .inl ⟨rfl, rfl⟩
      · exact Effect.by_of_tells told ⟨rfl, rfl⟩
  | cancelFriendRequest _ held friendId => cases may; exact ⟨held, friendId, rfl, rfl⟩
  | addToFirstCircle _ held ids => cases may; exact ⟨held, ids, rfl, rfl⟩
  | bloqueUser _ _ => cases may; exact rfl
  | unnbloqueUser _ _ => cases may; exact rfl
  | requestNewLockDuo _ _ salonId =>
      rcases may with told | opens | ⟨id, isSalon, demand⟩
      · exact Effect.by_of_tells told ⟨rfl, .inr ⟨salonId, rfl⟩⟩
      · exact Effect.by_of_opens opens fun unknown => by subst unknown; exact ⟨rfl, rfl⟩
      · exact Effect.by_of_isDemand demand ⟨rfl, isSalon⟩
  | stopLockDuo _ _ salonId =>
      rcases may with unlock | opens | ⟨id, isSalon, rfl⟩
      · rcases List.mem_pair.mp unlock with rfl | rfl
        · exact .inl rfl
        · exact .inr rfl
      · exact Effect.by_of_opens opens fun unknown => by subst unknown; exact ⟨rfl, rfl⟩
      · exact isSalon
  | setAllNotificationAsRead _ =>
      rcases may with ⟨k, rfl⟩
      exact rfl
  | setNotificationAsComplete _ _ => cases may; exact ⟨rfl, rfl⟩
  | handleFriendRequest _ _ _ accepted =>
      rcases may with rfl | answer
      · exact ⟨rfl, rfl⟩
      · cases accepted with
        | true => cases answer; exact fun _ _ two => ⟨rfl, two⟩
        | false => cases answer; exact ⟨rfl, rfl, rfl⟩
  | handleDuoRequest _ _ _ _ =>
      rcases may with ⟨k, rfl, rfl⟩ | opens | ⟨rfl, lock | ⟨id, isSalon, agreement⟩⟩
      · exact ⟨rfl, rfl⟩
      · exact Effect.by_of_opens opens fun _ => ⟨rfl, rfl⟩
      · exact Effect.by_of_isLock lock fun _ _ two => ⟨rfl, two⟩
      · exact Effect.by_of_isAgreement agreement ⟨rfl, isSalon⟩
  | handleFiestaRequest _ _ fiestaId _ _ =>
      rcases may with rfl | ⟨rfl, waiting | rfl | ⟨host, told⟩⟩
      · exact ⟨rfl, rfl⟩
      · exact by_of_waiting waiting fun _ given => ⟨rfl, rfl, Option.some.inj given⟩
      · exact .inl ⟨rfl, rfl, rfl⟩
      · exact Effect.by_of_tells told ⟨fiestaId, rfl, rfl, rfl, rfl⟩
  | handleSponsorshipRequest _ _ notifId _ =>
      rcases may with rfl | ⟨processedAt, rfl⟩
      · exact ⟨rfl, rfl⟩
      · exact ⟨notifId, rfl⟩
  | dismissFiesta _ _ => cases may; exact rfl
  | acceptFiesta _ fiestaId duo search =>
      rcases may with rfl | ⟨rfl, u, rfl, told⟩ | ⟨rfl, waiting | rfl | ⟨host, told⟩⟩
      · exact ⟨duo, search, rfl⟩
      · exact Effect.by_of_tells told ⟨fiestaId, rfl, .inr rfl⟩
      · exact by_of_waiting waiting fun _ given => ⟨rfl, rfl, given⟩
      · exact .inl ⟨rfl, rfl, rfl⟩
      · exact Effect.by_of_tells told ⟨fiestaId, rfl, rfl, rfl, rfl⟩
  | refuseUserInFiesta _ _ duoRef =>
      cases may
      exact .inr (.inr ⟨duoRef, rfl, .inl ⟨rfl, rfl⟩⟩)
  | deleteUserInFiesta _ _ duoRef =>
      simp only [AppCall.may, List.mem_cons, List.not_mem_nil, or_false] at may
      rcases may with rfl | rfl | rfl
      · exact .inr (.inr ⟨duoRef, rfl, .inr ⟨rfl, rfl⟩⟩)
      · exact .inl rfl
      · exact .inr rfl
  | acceptUserInFiesta _ _ _ =>
      exact by_of_accept may ⟨rfl, rfl, rfl⟩ fun u guest => ⟨rfl, guest.imp_right Option.some.inj⟩
  | noteUser _ note =>
      rcases may with ⟨r, rfl⟩
      exact ⟨note, rfl⟩
  | noteFiesta _ note =>
      rcases may with ⟨r, rfl⟩
      exact ⟨note, rfl⟩
  | reportUser _ id subId _ _ _ =>
      have reports : ∀ u ∈ id :: subId.toList, id = u ∨ subId = some u := by
        intro u reported
        rcases List.mem_cons.mp reported with rfl | second
        · exact .inl rfl
        · exact .inr (Option.mem_toList.mp second)
      rcases may with ⟨u, reported, rfl | ⟨copy, rfl, rfl⟩⟩ | ⟨stored, rfl, rfl, rfl⟩
      · exact reports u reported
      · exact ⟨rfl, reports u reported⟩
      · exact ⟨rfl, .inl rfl⟩
  | createSponsorshipDirect _ _ =>
      rcases may with rfl | ⟨owner, request, rfl, rfl, fresh, rfl⟩
      · exact ⟨rfl, rfl⟩
      · exact ⟨fresh, rfl⟩
  | acceptUser uid userId requestId =>
      rcases may with rfl | ⟨acceptedAt, rfl⟩
      · exact ⟨uid, requestId, rfl⟩
      · exact ⟨userId, rfl⟩
  | refuseUser _ userId _ =>
      rcases may with rfl | rfl
      · exact ⟨rfl, rfl⟩
      · exact ⟨userId, rfl⟩
  | updateStatus _ _ => cases may; exact ⟨rfl, rfl⟩
  | signUp _ => cases may; exact ⟨rfl, rfl⟩
  | openChat _ _ _ => cases may; exact ⟨rfl, rfl⟩
  | createNewFiesta uid _ form =>
      rcases may with rfl | rfl | (rfl | ⟨level, rfl⟩) | rfl
      · exact ⟨uid, form, rfl, rfl⟩
      · exact ⟨form, rfl⟩
      · exact rfl
      · exact rfl
      · exact ⟨rfl, rfl⟩
  | updateFiesta uid fiestaId _ =>
      rcases may with rfl | ⟨k, rfl⟩
      · exact ⟨uid, rfl⟩
      · exact ⟨fiestaId, rfl⟩
  | updateProfile _ page => cases may; exact ⟨page, rfl, rfl⟩
  | becomeMember _ _ => cases may; exact rfl
  | addUsersToSalon _ _ => cases may; exact rfl
  | removeUsersFromSalon _ _ => cases may; exact .inl rfl
  | leaveSalon _ userId => cases may; exact .inr ⟨userId, rfl, rfl⟩
  | deleteSalon _ => cases may; exact rfl
  | send _ sending =>
      cases sending with
      | text m =>
          rcases may with rfl | ⟨k, rfl⟩
          · exact .inl rfl
          · exact rfl
      | file k m =>
          rcases may with rfl | rfl
          · exact rfl
          · exact rfl
  | deleteSelectedMessage _ selected type u =>
      rcases may with ⟨k, listed, rfl⟩
      cases type with
      | onlyMe => exact ⟨selected, listed, rfl⟩
      | all => exact ⟨selected, u, listed, rfl⟩

/-- Every effect of a call is one whose writers include the call. -/
theorem by_of_may (may : c.may e) : e.By c := by
  cases c with
  | callable c => exact c.by_of_may may
  | triggered c => exact c.by_of_may may
  | app c => exact c.by_of_may may
  | time t => cases may

end By

end TwoGather
