import TwoGather.Backend.Answers
import TwoGather.Lib.Changes
import TwoGather.Provider.Notifications

/-!
# The notifications of a user, from the calls to the page

The functions store notifications, and the provider of the app reads them. What any of them
stores is read back as it was (`ofDoc_fields`), so the provider never gets a document that it
cannot read. Hence its list shows the notifications of the user as of the last snapshot,
whatever calls run and whenever the snapshots come, and what it shows once it shows from then on
(`inbox_life`).
-/

namespace TwoGather

open Docs Dynamic Ranking Replicas Requests Snapshots

/-! ## Stored notifications -/

/-- A field, which reads as `null` if it is missing. -/
def fieldValue {α : Type} (f : α → Value) (field : Stored α) : Value :=
  .optional f field.get?

def NotificationType.name : NotificationType → String
  | .message => "message"
  | .friendRequest => "friendRequest"
  | .duoRequest => "duoRequest"
  | .fiestaConfirmation => "fiestaConfirmation"
  | .handleFiestaConfirmation => "handleFiestaConfirmation"
  | .noteFiesta => "noteFiesta"
  | .sponsorshipRequest => "sponsorshipRequest"

def NotificationUser.fields (user : NotificationUser) : Fields :=
  [("id", .string user.id), ("firstname", fieldValue .string user.firstname),
    ("lastname", fieldValue .string user.lastname),
    ("pictures", fieldValue stringsValue user.pictures)]

section Format

-- the names of the ids that are drawn
variable (docId : Nat → String)

def Metadata.fields (metadata : Metadata) : Fields :=
  [("fiestaId", fieldValue .string metadata.fiestaId),
    ("fiestaHostId", fieldValue .string metadata.fiestaHostId),
    ("duoId", fieldValue .string metadata.duoId), ("code", fieldValue .string metadata.code),
    ("sponsorshipId", fieldValue (fun r => .string (docId r)) metadata.sponsorshipId),
    ("userId", fieldValue .string metadata.userId),
    ("firstname", fieldValue .string metadata.firstname),
    ("lastname", fieldValue .string metadata.lastname)]

/-- The map of metadata; the functions that have nothing to put in it leave it out. -/
def Metadata.map? (metadata : Metadata) : Option Fields :=
  if metadata = {} then none else some (metadata.fields docId)

/-- The document of a notification. -/
def Notification.fields (data : Notification) : Fields :=
  [("notificationType", .string data.notificationType.name), ("isComplete", .bool data.isComplete),
    ("isRead", .bool data.isRead), ("message", .string data.message),
    ("notificationUser", .map data.notificationUser.fields),
    ("metadata", .optional .map (data.metadata.map? docId)),
    ("receivedAt", .timestamp data.receivedAt.micros)]

/-- What the page shows of a notification. -/
def Notification.model (id : String) (data : Notification) : NotificationModel where
  id := some id
  notificationUser := some
    { id := some data.notificationUser.id
      firstname := data.notificationUser.firstname.get?
      lastname := data.notificationUser.lastname.get?
      pictures := data.notificationUser.pictures.get? }
  message := some data.message
  notificationType := some data.notificationType
  receivedAt := some data.receivedAt.micros
  metadata := data.metadata.map? docId
  isComplete := some data.isComplete
  isRead := some data.isRead

theorem fromJson_name (type : NotificationType) :
    NotificationType.fromJson (some type.name) = some type := by
  cases type with
  | _ => rfl

theorem asString_fieldValue (field : Stored String) :
    (fieldValue .string field).asString = some field.get? :=
  Value.asString_optional field.get?

theorem asListOf_fieldValue (field : Stored (List String)) :
    (fieldValue stringsValue field).asListOf Value.string? = some field.get? := by
  unfold fieldValue
  cases field.get? with
  | none => rfl
  | some pictures =>
      refine (Value.asListOf_map (g := Value.string) (h := id) (fun _ => rfl) pictures).trans ?_
      rw [List.map_id]

theorem fromJson_notificationUser (parse : String → Option Int) (user : NotificationUser) :
    AppUserModel.fromJson parse user.fields = some
      { id := some user.id, firstname := user.firstname.get?, lastname := user.lastname.get?
        pictures := user.pictures.get? } := by
  have firstname : user.fields.read "firstname" = fieldValue .string user.firstname := rfl
  have lastname : user.fields.read "lastname" = fieldValue .string user.lastname := rfl
  have pictures : user.fields.read "pictures" = fieldValue stringsValue user.pictures := rfl
  unfold AppUserModel.fromJson
  rw [firstname, lastname, pictures, asString_fieldValue, asString_fieldValue, asListOf_fieldValue]
  rfl

/-- **Whatever notification is stored, the app reads it as it was.** -/
theorem ofDoc_fields (parse : String → Option Int) (id : String) (data : Notification) :
    NotificationModel.ofDoc parse id (data.fields docId) = some (data.model docId id) := by
  have user : (Fields.read (data.fields docId) "notificationUser").asMapOf
      (AppUserModel.fromJson parse) = some (data.model docId id).notificationUser :=
    congrArg (Option.map some) (fromJson_notificationUser parse data.notificationUser)
  have type : (Fields.read (data.fields docId) "notificationType").asString =
      some (some data.notificationType.name) := rfl
  have metadata : (Fields.read (data.fields docId) "metadata").asMapOf some =
      some (data.metadata.map? docId) := by
    have stored : Fields.read (data.fields docId) "metadata" =
        .optional .map (data.metadata.map? docId) := rfl
    rw [stored]
    cases data.metadata.map? docId with
    | none => rfl
    | some _ => rfl
  unfold NotificationModel.ofDoc NotificationModel.fromJson
  rw [user, type, metadata]
  simp only [Option.bind_eq_bind, Option.bind_some, fromJson_name]
  rfl

end Format

/-! ## The page -/

/-- The requests of the calls, and the provider of a user that listens meanwhile. -/
structure InboxScene (ι : Type) where
  pool : Pool ι Store Err Unit
  notifications : List NotificationModel := []
  /-- The notifications as of the last snapshot. -/
  last : AutoCollection Notification := .empty

/-- A call makes its next request, or a snapshot comes. -/
inductive InboxMove (ι : Type)
  | request (i : ι)
  | snapshot

/-- The calls at their start, and the provider after its `init`. -/
def Store.inbox {ι : Type} (s : Store) (calls : ι → Call) : InboxScene ι where
  pool := s.serve calls

namespace InboxScene

section Move

variable {ι : Type} [DecidableEq ι] (parse : String → Option Int)
  (sort : List NotificationModel → List NotificationModel) (docId : Nat → String) (u : UserId)

/-- A snapshot tells what has changed since the last one. -/
def move (scene : InboxScene ι) : InboxMove ι → InboxScene ι
  | .request i => { scene with pool := scene.pool.move i }
  | .snapshot =>
      { scene with
        notifications :=
          NotificationProvider.onSnapshot parse sort scene.notifications
            ((docChanges scene.last.toCollection
              (scene.pool.store.notifications u).toCollection).map
                (renameChange docId (Notification.fields docId)))
        last := scene.pool.store.notifications u }

end Move

/-- The page has one entry for each notification of the last snapshot, the latest first, and
counts those that are unread. -/
structure Shows {ι : Type} (docId : Nat → String) (scene : InboxScene ι) : Prop where
  entries : scene.notifications.Perm
    (scene.last.docs.map fun doc => doc.2.model docId (docId doc.1))
  sorted : scene.notifications.Pairwise fun a b =>
    ∃ first ∈ a.receivedAt, ∃ second ∈ b.receivedAt, second ≤ first
  unread : NotificationProvider.unreadCount { notifications := scene.notifications } =
    scene.last.docs.countP fun doc => !doc.2.isRead

end InboxScene

/-- `m'` is what the page shows of the notification that it has shown as `m`. -/
structure NotificationModel.Grows (m m' : NotificationModel) : Prop where
  content : { m' with isComplete := m.isComplete, isRead := m.isRead } = m
  isComplete : m.isComplete = some true → m'.isComplete = some true
  isRead : m.isRead = some true → m'.isRead = some true

theorem grows_model {docId : Nat → String} {id : String} {data data' : Notification}
    (grows : data.Grows data') :
    NotificationModel.Grows (data.model docId id) (data'.model docId id) where
  content := by
    have same := congrArg (Notification.model docId id) grows.content
    have content (n : Notification) : n.content.model docId id =
        { n.model docId id with isComplete := some false, isRead := some false } := rfl
    rw [content, content] at same
    exact congrArg
      (fun m : NotificationModel =>
        { m with isComplete := some data.isComplete, isRead := some data.isRead }) same
  isComplete complete := congrArg some (grows.isComplete (Option.some.inj complete))
  isRead read := congrArg some (grows.isRead (Option.some.inj read))

/-! ## Runs -/

section Runs

variable {ι : Type} [DecidableEq ι] {calls : ι → Call} {s : Store} {u : UserId}
  {parse : String → Option Int} {sort : List NotificationModel → List NotificationModel}
  {docId : Nat → String} {inj : Function.Injective docId} {scene : InboxScene ι}

/-- Notifications that are in `a` are in `b` too, with their flags as far or further. -/
def NotesIn (a b : AutoCollection Notification) : Prop :=
  ∀ k n, a.get? k = some n → ∃ n', b.get? k = some n' ∧ n.Grows n'

theorem NotesIn.refl (a : AutoCollection Notification) : NotesIn a a :=
  fun _ n found => ⟨n, found, .refl n⟩

theorem NotesIn.trans {a b c : AutoCollection Notification} (first : NotesIn a b)
    (second : NotesIn b c) : NotesIn a c := by
  intro k n found
  rcases first k n found with ⟨n', found', grows⟩
  rcases second k n' found' with ⟨n'', found'', grows'⟩
  exact ⟨n'', found'', grows.trans grows'⟩

/-- The documents of the collection. -/
def storedNotes (docId : Nat → String) (inj : Function.Injective docId)
    (c : Collection Nat Notification) : Collection String Fields :=
  rename docId inj (Notification.fields docId) c

theorem dated_fields (id : String) (data : Notification) :
    Dated parse id (data.fields docId) :=
  ⟨_, ofDoc_fields docId parse id data, rfl⟩

/-- The order of the documents does not matter. -/
theorem follows_of_perm {c d : Collection Nat Notification} {l : List NotificationModel}
    (perm : c.docs.Perm d.docs)
    (follows : NotificationProvider.Follows parse (storedNotes docId inj c) l) :
    NotificationProvider.Follows parse (storedNotes docId inj d) l where
  mirrors := follows.mirrors.trans ((perm.map _).map _)
  dated doc listed := follows.dated doc ((perm.map _).mem_iff.mpr listed)
  sorted := follows.sorted

/-- A snapshot takes the page from the last documents to those that there are now. -/
theorem follows_onSnapshot (sorts : NotificationProvider.SortsDated sort)
    {last now : Collection Nat Notification} {l : List NotificationModel}
    (follows : NotificationProvider.Follows parse (storedNotes docId inj last) l) :
    NotificationProvider.Follows parse (storedNotes docId inj now)
      (NotificationProvider.onSnapshot parse sort l
        ((docChanges last now).map (renameChange docId (Notification.fields docId)))) := by
  have along := along_rename inj (f := Notification.fields docId) (along_docChanges last now)
  refine follows_of_perm (docs_run_docChanges last now) ?_
  unfold storedNotes at follows ⊢
  rw [← run_rename]
  refine NotificationProvider.onSnapshot_follows sorts follows along fun id data told => ?_
  rcases renamed_of_told told with ⟨n, rfl⟩
  exact dated_fields id n

/-- The calls are those of the table, the page follows the last snapshot, and nothing of that
has gone since. -/
structure InboxScene.Sound (calls : ι → Call) (u : UserId) (parse : String → Option Int)
    (docId : Nat → String) (inj : Function.Injective docId) (scene : InboxScene ι) : Prop where
  makes : ∀ i, (scene.pool.thread i).Makes (Effects (calls i).may)
  follows : NotificationProvider.Follows parse (storedNotes docId inj scene.last.toCollection)
    scene.notifications
  kept : NotesIn scene.last (scene.pool.store.notifications u)

theorem sound_inbox : (s.inbox calls).Sound calls u parse docId inj where
  makes := makes_serve s calls
  follows := ⟨.nil, fun _ listed => absurd listed List.not_mem_nil, .nil⟩
  kept _ _ found := by cases found

theorem notesIn_move {pool : Pool ι Store Err Unit}
    (makes : ∀ i, (pool.thread i).Makes (Effects (calls i).may)) (i : ι) :
    NotesIn (pool.store.notifications u) ((pool.move i).store.notifications u) := by
  have grow : pool.store.NotesGrow (pool.play [i]).store := by
    apply Pool.play_effects Store.NotesGrow.refl Store.NotesGrow.trans makes
    intro j _ e a b may does
    rcases may with rfl | _
    · exact notesGrow_of_same does.sameShown.notifications
    · exact notesGrow_of_does does
  exact grow u

theorem sound_move (sorts : NotificationProvider.SortsDated sort)
    (sound : scene.Sound calls u parse docId inj) (m : InboxMove ι) :
    (scene.move parse sort docId u m).Sound calls u parse docId inj := by
  cases m with
  | request i =>
      exact ⟨fun j => Pool.makes_move (sound.makes j) i, sound.follows,
        sound.kept.trans (notesIn_move sound.makes i)⟩
  | snapshot => exact ⟨sound.makes, follows_onSnapshot sorts sound.follows, .refl _⟩

/-- What the last snapshot had, the next one has. -/
theorem notesIn_last (sound : scene.Sound calls u parse docId inj) (m : InboxMove ι) :
    NotesIn scene.last (scene.move parse sort docId u m).last := by
  cases m with
  | request i => exact .refl _
  | snapshot => exact sound.kept

theorem sound_run (sorts : NotificationProvider.SortsDated sort)
    (sound : scene.Sound calls u parse docId inj) (moves : List (InboxMove ι)) :
    (run (InboxScene.move parse sort docId u) scene moves).Sound calls u parse docId inj := by
  induction moves generalizing scene with
  | nil => exact sound
  | cons m moves ih => exact ih (sound_move sorts sound m)

theorem notesIn_run (sorts : NotificationProvider.SortsDated sort)
    (sound : scene.Sound calls u parse docId inj) (moves : List (InboxMove ι)) :
    NotesIn scene.last (run (InboxScene.move parse sort docId u) scene moves).last := by
  induction moves generalizing scene with
  | nil => exact .refl _
  | cons m moves ih => exact (notesIn_last sound m).trans (ih (sound_move sorts sound m))

theorem InboxScene.Sound.entries (sound : scene.Sound calls u parse docId inj) :
    scene.notifications.Perm
      (scene.last.docs.map fun doc => doc.2.model docId (docId doc.1)) := by
  have mirrors : (scene.notifications.map some).Perm
      ((scene.last.docs.map fun doc => (docId doc.1, doc.2.fields docId)).map fun doc =>
        NotificationModel.ofDoc parse doc.1 doc.2) := sound.follows.mirrors
  rw [List.map_map] at mirrors
  have read : ((fun doc : String × Fields => NotificationModel.ofDoc parse doc.1 doc.2) ∘
      fun doc : Nat × Notification => (docId doc.1, doc.2.fields docId)) =
      some ∘ fun doc => doc.2.model docId (docId doc.1) :=
    funext fun doc => ofDoc_fields docId parse (docId doc.1) doc.2
  rw [read, ← List.map_map] at mirrors
  exact (List.map_perm_map_iff (Option.some_injective _)).mp mirrors

theorem InboxScene.Sound.shows (sound : scene.Sound calls u parse docId inj) :
    scene.Shows docId where
  entries := sound.entries
  sorted := sound.follows.sorted
  unread := by
    have follows : NotificationProvider.Follows parse
        (storedNotes docId inj scene.last.toCollection)
        (NotificationProvider.mk scene.notifications none).notifications := sound.follows
    refine follows.unreadCount.trans ?_
    exact List.countP_map

end Runs

/-- **Whatever calls run and whenever the snapshots come, the page shows the notifications of the
last snapshot, and what it shows it shows from then on.** -/
theorem inbox_life {ι : Type} [DecidableEq ι] (s : Store) (calls : ι → Call) (u : UserId)
    (parse : String → Option Int) (sort : List NotificationModel → List NotificationModel)
    (sorts : NotificationProvider.SortsDated sort) (docId : Nat → String)
    (inj : Function.Injective docId) (moves more : List (InboxMove ι)) :
    let scene := run (InboxScene.move parse sort docId u) (s.inbox calls) moves
    scene.Shows docId ∧
      ∀ m ∈ scene.notifications,
        ∃ m' ∈ (run (InboxScene.move parse sort docId u) scene more).notifications, m.Grows m' := by
  intro scene
  have sound : scene.Sound calls u parse docId inj := sound_run sorts sound_inbox moves
  refine ⟨sound.shows, fun m shown => ?_⟩
  have later := sound_run sorts sound more
  rcases List.mem_map.mp (sound.entries.mem_iff.mp shown) with ⟨⟨k, n⟩, listed, rfl⟩
  rcases notesIn_run sorts sound more k n (Collection.mem_docs.mp listed) with
    ⟨n', found, grows⟩
  refine ⟨n'.model docId (docId k), later.entries.mem_iff.mpr ?_, grows_model grows⟩
  exact List.mem_map.mpr ⟨(k, n'), Collection.mem_docs.mpr found, rfl⟩

/-- Names of drawn ids: as many letters as the number. -/
def tally (k : Nat) : String :=
  String.ofList (List.replicate k 'i')

theorem tally_injective : Function.Injective tally := by
  intro j k same
  have letters : List.replicate j 'i' = List.replicate k 'i' := String.ofList_injective same
  have lengths := congrArg List.length letters
  rwa [List.length_replicate, List.length_replicate] at lengths

/-- The page of `a` gets snapshots before and after the request of `b`, and once it is answered. -/
theorem askAndAccept_life :
    let sort (l : List NotificationModel) := l.mergeSort (atLeast fun m => m.receivedAt.getD 0)
    let step := InboxScene.move (fun _ => none) sort tally "a"
    let scene := run step (twoStrangers.inbox askAndAccept)
      [.snapshot, .request true, .request true, .request true, .request true, .snapshot]
    scene.Shows tally ∧
      ∀ m ∈ scene.notifications,
        ∃ m' ∈ (run step scene [.request false, .request false, .snapshot]).notifications,
          m.Grows m' := by
  intro sort
  have sorts : NotificationProvider.SortsDated sort :=
    fun l _ => sorts_mergeSort _ (fun _ => .refl _) l
  exact inbox_life _ _ "a" (fun _ => none) sort sorts tally tally_injective _
    [.request false, .request false, .snapshot]

end TwoGather
