import Mathlib.Data.List.Sort
import TwoGather.Fiesta.FiestaModel
import TwoGather.Lib.Ranking
import TwoGather.Lib.Replicas
import TwoGather.Lib.Runs

/-!
# The list of notifications

`notification_provider.dart`: the provider listens to the notifications of a user and keeps
their models in a list, which it sorts after every change. As long as every document can be
read and has a date, the list has exactly the documents of the collection, the latest first,
from an `init` that subscribes to the next `clear` (`notifications_mirror`).

A callback that throws leaves the rest of its snapshot; then the `Bool` beside the list is
`false`.
-/

namespace TwoGather

open Docs Dynamic Ranking Replicas Requests Snapshots

/-! ## The model -/

def NotificationType.names : List (String × NotificationType) :=
  [("message", .message), ("friendRequest", .friendRequest), ("duoRequest", .duoRequest),
    ("fiestaConfirmation", .fiestaConfirmation),
    ("handleFiestaConfirmation", .handleFiestaConfirmation), ("noteFiesta", .noteFiesta),
    ("sponsorshipRequest", .sponsorshipRequest)]

/-- `NotificationTypeConverter`. -/
def NotificationType.fromJson (json : Option String) : Option NotificationType :=
  json.bind fun name => List.lookup name names

structure NotificationModel where
  id : Option String := none
  notificationUser : Option AppUserModel := none
  message : Option String := none
  notificationType : Option NotificationType := none
  receivedAt : Option Int := none
  metadata : Option Fields := none
  isComplete : Option Bool := none
  isRead : Option Bool := none

namespace NotificationModel

def fromJson (parse : String → Option Int) (json : Fields) : Option NotificationModel := do
  let id ← (json.read "id").asString
  let notificationUser ← (json.read "notificationUser").asMapOf (AppUserModel.fromJson parse)
  let message ← (json.read "message").asString
  let notificationType ← (json.read "notificationType").asString
  let metadata ← (json.read "metadata").asMapOf some
  let isComplete ← (json.read "isComplete").asBool
  let isRead ← (json.read "isRead").asBool
  return { id, notificationUser, message
           notificationType := NotificationType.fromJson notificationType
           receivedAt := TimestampConverter.fromJson parse (json.read "receivedAt")
           metadata, isComplete, isRead }

/-- `NotificationModel.fromJson(e.doc.data()!).copyWith(id: e.doc.id)`. -/
def ofDoc (parse : String → Option Int) (id : String) (data : Fields) : Option NotificationModel :=
  (fromJson parse data).map ({ · with id := some id })

end NotificationModel

/-! ## The provider -/

structure NotificationProvider where
  notifications : List NotificationModel := []
  /-- The user whose collection the subscription listens to. -/
  subscription : Option UserId := none

namespace NotificationProvider

/-- Without `isRead` a notification counts as unread. -/
def unreadCount (p : NotificationProvider) : Nat :=
  p.notifications.countP fun notification =>
    notification.isRead == some false || notification.isRead == none

section Listen

variable (parse : String → Option Int) (sort : List NotificationModel → List NotificationModel)

/-- The sort by descending date; a comparison without a date throws. -/
def sortByDate (notifications : List NotificationModel) : List NotificationModel × Bool :=
  (sort notifications,
    notifications.length < 2 || notifications.all fun notification =>
      notification.receivedAt.isSome)

/-- One turn of the loop over the changes. -/
def onChange (notifications : List NotificationModel) :
    Change String Fields → List NotificationModel × Bool
  | .added id data =>
      match NotificationModel.ofDoc parse id data with
      | none => (notifications, false)
      | some model => sortByDate sort (notifications ++ [model])
  | .modified id data =>
      match notifications.findIdx? fun element => element.id = some id with
      | none => (notifications, true)
      | some index =>
          match NotificationModel.ofDoc parse id data with
          | none => (notifications, false)
          | some model => sortByDate sort (notifications.set index model)
  | .removed id => sortByDate sort (removeWhere NotificationModel.id id notifications)

/-- The callback of the subscription. -/
def onSnapshot : List NotificationModel → List (Change String Fields) → List NotificationModel
  | notifications, [] => notifications
  | notifications, change :: changes =>
      match onChange parse sort notifications change with
      | (notifications, true) => onSnapshot notifications changes
      | (notifications, false) => notifications

end Listen

/-- `init`. -/
def init (p : NotificationProvider) (userId : UserId) : NotificationProvider :=
  if p.subscription.isSome then p else { notifications := [], subscription := some userId }

def clear (_ : NotificationProvider) : NotificationProvider :=
  { notifications := [], subscription := none }

end NotificationProvider

/-! ## Snapshots of a collection -/

/-- The provider, and the documents of the collection as of the last snapshot. -/
structure NotificationScene where
  provider : NotificationProvider := {}
  collection : Collection String Fields := noDocs

inductive NotificationEvent
  | init (userId : UserId)
  | snapshot (changes : List (Change String Fields))
  | clear

/-- A document that can be read as a notification with a date. -/
def Dated (parse : String → Option Int) (id : String) (data : Fields) : Prop :=
  ∃ model, NotificationModel.ofDoc parse id data = some model ∧ model.receivedAt.isSome

/-- The field `isRead` is `true`. -/
def isReadTrue (data : Fields) : Bool :=
  match data.read "isRead" with
  | .bool b => b
  | _ => false

namespace NotificationEvent

variable (parse : String → Option Int) (sort : List NotificationModel → List NotificationModel)

/-- A new subscription starts with an empty collection; its first snapshot adds all documents. -/
def step (s : NotificationScene) : NotificationEvent → NotificationScene
  | .init userId =>
      { provider := s.provider.init userId
        collection := if s.provider.subscription.isSome then s.collection else noDocs }
  | .snapshot changes =>
      match s.provider.subscription with
      | none => s
      | some userId =>
          { provider :=
              { notifications :=
                  NotificationProvider.onSnapshot parse sort s.provider.notifications changes
                subscription := some userId }
            collection := run applied s.collection changes }
  | .clear => { provider := s.provider.clear, collection := noDocs }

/-- The changes of a snapshot are changes of the collection, and its documents have dates. -/
def Valid (s : NotificationScene) : NotificationEvent → Prop
  | .snapshot changes =>
      Along applied Reportable s.collection changes ∧
        ∀ id data, .added id data ∈ changes ∨ .modified id data ∈ changes → Dated parse id data
  | _ => True

end NotificationEvent

/-- The list has one model for each document, with its data and its id, the latest first, and
the count is that of the documents that are not read. -/
structure NotificationScene.Mirrored (parse : String → Option Int) (s : NotificationScene) :
    Prop where
  mirrors : Mirrors (NotificationModel.ofDoc parse) s.collection s.provider.notifications
  sorted : s.provider.notifications.Pairwise fun a b =>
    ∃ first ∈ a.receivedAt, ∃ second ∈ b.receivedAt, second ≤ first
  unread : s.provider.unreadCount = s.collection.docs.countP fun doc => !isReadTrue doc.2

/-! ## One change -/

namespace NotificationProvider

/-- `sort` sorts notifications that have dates by descending date. -/
def SortsDated (sort : List NotificationModel → List NotificationModel) : Prop :=
  ∀ l, (∀ m ∈ l, m.receivedAt.isSome) → Ranks (fun m => m.receivedAt.getD 0) l (sort l)

/-- The list mirrors a collection of documents with dates, the latest first. -/
structure Follows (parse : String → Option Int) (c : Collection String Fields)
    (l : List NotificationModel) : Prop where
  mirrors : Mirrors (NotificationModel.ofDoc parse) c l
  dated : ∀ doc ∈ c.docs, Dated parse doc.1 doc.2
  sorted : l.Pairwise fun a b => ∃ first ∈ a.receivedAt, ∃ second ∈ b.receivedAt, second ≤ first

variable {parse : String → Option Int} {sort : List NotificationModel → List NotificationModel}
  {c : Collection String Fields} {l : List NotificationModel}

theorem keyed_ofDoc : Keyed (NotificationModel.ofDoc parse) NotificationModel.id := by
  intro id data model read
  obtain ⟨_, -, rfl⟩ := Option.map_eq_some_iff.mp read
  rfl

theorem Dated.isSome {id : String} {data : Fields} (dated : Dated parse id data) :
    (NotificationModel.ofDoc parse id data).isSome := by
  obtain ⟨model, read, -⟩ := dated
  exact Option.isSome_of_mem read

/-- The list counts a document as unread unless its field is `true`. -/
theorem unread_ofDoc {id : String} {data : Fields} {model : NotificationModel}
    (read : NotificationModel.ofDoc parse id data = some model) :
    (model.isRead == some false || model.isRead == none) = !isReadTrue data := by
  obtain ⟨fresh, json, rfl⟩ := Option.map_eq_some_iff.mp read
  have cast : (data.read "isRead").asBool = some fresh.isRead := by
    simp only [NotificationModel.fromJson, Option.bind_eq_bind, Option.bind_eq_some_iff,
      Option.pure_def, Option.some.injEq] at json
    obtain ⟨_, -, _, -, _, -, _, -, _, -, _, -, isRead, cast, rfl⟩ := json
    exact cast
  unfold isReadTrue
  rw [Value.asBool_eq_some cast]
  cases fresh.isRead with
  | none => rfl
  | some b =>
      cases b with
      | false => rfl
      | true => rfl

theorem receivedAt_of_mirrors (mirrors : Mirrors (NotificationModel.ofDoc parse) c l)
    (dated : ∀ doc ∈ c.docs, Dated parse doc.1 doc.2) : ∀ m ∈ l, m.receivedAt.isSome := by
  intro m listed
  obtain ⟨id, data, found, read⟩ := mirrors.mem_iff.mp listed
  obtain ⟨model, read', date⟩ := dated (id, data) (Collection.mem_docs.mpr found)
  obtain rfl := Option.some.inj (read.symm.trans read')
  exact date

/-- The sort of a list that mirrors documents with dates. -/
theorem sortByDate_follows (sorts : SortsDated sort)
    (mirrors : Mirrors (NotificationModel.ofDoc parse) c l)
    (dated : ∀ doc ∈ c.docs, Dated parse doc.1 doc.2) :
    ∃ l', sortByDate sort l = (l', true) ∧ Follows parse c l' := by
  have dates := receivedAt_of_mirrors mirrors dated
  have ranks := sorts l dates
  have compares : (l.length < 2 || l.all fun m => m.receivedAt.isSome) = true := by
    rw [List.all_eq_true.mpr dates, Bool.or_true]
  refine ⟨sort l, by rw [sortByDate, compares], mirrors.perm ranks.perm, dated, ?_⟩
  refine ranks.sorted.imp_of_mem fun listed listed' le => ?_
  obtain ⟨first, is⟩ := Option.isSome_iff_exists.mp (dates _ (ranks.perm.mem_iff.mp listed))
  obtain ⟨second, is'⟩ := Option.isSome_iff_exists.mp (dates _ (ranks.perm.mem_iff.mp listed'))
  rw [is, is'] at le
  exact ⟨first, is, second, is', le⟩

theorem dated_set {id : String} {data : Fields} (all : ∀ doc ∈ c.docs, Dated parse doc.1 doc.2)
    (dated : Dated parse id data) : ∀ doc ∈ (c.set id data).docs, Dated parse doc.1 doc.2 := by
  intro doc listed
  rcases List.mem_append.mp listed with kept | new
  · exact all doc (List.mem_filter.mp kept).1
  · obtain rfl := List.mem_singleton.mp new
    exact dated

/-- A change of the collection, whose data have a date, leaves the list following it. -/
theorem onChange_follows (sorts : SortsDated sort) {change : Change String Fields}
    (follows : Follows parse c l) (reportable : Reportable c change)
    (dated : ∀ id data, .added id data = change ∨ .modified id data = change →
      Dated parse id data) :
    ∃ l', onChange parse sort l change = (l', true) ∧ Follows parse (applied c change) l' := by
  obtain ⟨mirrors, all, sorted⟩ := follows
  cases change with
  | added id data =>
      obtain ⟨model, read, -⟩ := dated id data (.inl rfl)
      have appended := mirrors.added reportable read
      simp only [onChange, read]
      exact sortByDate_follows sorts appended (dated_set all (dated id data (.inl rfl)))
  | modified id data =>
      obtain ⟨model, read, -⟩ := dated id data (.inr rfl)
      obtain ⟨old, found⟩ := Option.isSome_iff_exists.mp reportable
      obtain ⟨l', replaced, mirrors'⟩ := mirrors.replace keyed_ofDoc found
        (Dated.isSome (all (id, old) (Collection.mem_docs.mpr found))) read
      obtain ⟨index, place, rfl⟩ := Option.map_eq_some_iff.mp replaced
      simp only [onChange, place, read]
      exact sortByDate_follows sorts mirrors' (dated_set all (dated id data (.inr rfl)))
  | removed id =>
      have mirrors' := mirrors.removed (k := id) keyed_ofDoc fun doc listed =>
        Dated.isSome (all doc listed)
      exact sortByDate_follows sorts mirrors' fun doc listed =>
        all doc (List.mem_filter.mp listed).1

/-- The changes of a snapshot, one after the other. -/
theorem onSnapshot_follows (sorts : SortsDated sort) {changes : List (Change String Fields)}
    (follows : Follows parse c l) (reportable : Along applied Reportable c changes)
    (dated : ∀ id data, .added id data ∈ changes ∨ .modified id data ∈ changes →
      Dated parse id data) :
    Follows parse (run applied c changes) (onSnapshot parse sort l changes) := by
  induction changes generalizing c l with
  | nil => exact follows
  | cons change changes ih =>
      have first : ∀ id data, .added id data = change ∨ .modified id data = change →
          Dated parse id data := by
        rintro id data (rfl | rfl)
        · exact dated id data (.inl List.mem_cons_self)
        · exact dated id data (.inr List.mem_cons_self)
      obtain ⟨l', handled, follows'⟩ := onChange_follows sorts follows reportable.1 first
      simp only [onSnapshot, handled, run_cons]
      exact ih follows' reportable.2 fun id data listed =>
        dated id data (listed.imp (List.mem_cons_of_mem _) (List.mem_cons_of_mem _))

/-- What is unread in the list is unread in the collection. -/
theorem Follows.unreadCount {p : NotificationProvider} (follows : Follows parse c p.notifications) :
    p.unreadCount = c.docs.countP fun doc => !isReadTrue doc.2 := by
  have perm := follows.mirrors.countP_eq fun o => o.any fun notification =>
    notification.isRead == some false || notification.isRead == none
  rw [List.countP_map, List.countP_map] at perm
  unfold NotificationProvider.unreadCount
  refine perm.trans (List.countP_congr fun doc listed => ?_)
  obtain ⟨model, read, -⟩ := follows.dated doc listed
  simp only [Function.comp_apply, read, Option.any_some, unread_ofDoc read]

end NotificationProvider

/-! ## Runs -/

namespace NotificationScene

variable {parse : String → Option Int} {sort : List NotificationModel → List NotificationModel}

/-- While there is a subscription, the list follows the collection. -/
def Subscribed (parse : String → Option Int) (s : NotificationScene) : Prop :=
  s.provider.subscription.isSome →
    NotificationProvider.Follows parse s.collection s.provider.notifications

theorem Subscribed.mirrored {s : NotificationScene} (holds : s.Subscribed parse)
    (subscribed : s.provider.subscription.isSome) : s.Mirrored parse :=
  have follows := holds subscribed
  ⟨follows.mirrors, follows.sorted, follows.unreadCount⟩

/-- A call of `init` while there is a subscription changes nothing. -/
theorem init_subscribed {s : NotificationScene} (subscribed : s.provider.subscription.isSome)
    (userId : UserId) : NotificationEvent.step parse sort s (.init userId) = s := by
  simp only [NotificationEvent.step, NotificationProvider.init, subscribed, ↓reduceIte]

/-- Without one it subscribes to the notifications of the user, and the list starts anew. -/
theorem init_free {s : NotificationScene} (free : s.provider.subscription = none)
    (userId : UserId) : (NotificationEvent.step parse sort s (.init userId)).provider =
      { notifications := [], subscription := some userId } := by
  simp [NotificationEvent.step, NotificationProvider.init, free]

/-- A snapshot leaves the subscription as it is. -/
theorem subscription_snapshot (s : NotificationScene) (changes : List (Change String Fields)) :
    (NotificationEvent.step parse sort s (.snapshot changes)).provider.subscription =
      s.provider.subscription := by
  cases listens : s.provider.subscription with
  | none => simp only [NotificationEvent.step, listens]
  | some userId => simp only [NotificationEvent.step, listens]

theorem Subscribed.step (sorts : NotificationProvider.SortsDated sort) (s : NotificationScene)
    (event : NotificationEvent) (holds : s.Subscribed parse) (valid : event.Valid parse s) :
    (event.step parse sort s).Subscribed parse := by
  cases event with
  | init userId =>
      by_cases subscribed : s.provider.subscription.isSome
      · rwa [init_subscribed subscribed]
      · intro _
        simp only [NotificationEvent.step, NotificationProvider.init, subscribed]
        exact ⟨mirrors_nil, nofun, .nil⟩
  | snapshot changes =>
      cases listens : s.provider.subscription with
      | none => simpa only [NotificationEvent.step, listens] using holds
      | some userId =>
          intro _
          have follows := holds (by rw [listens]; rfl)
          simp only [NotificationEvent.step, listens]
          exact NotificationProvider.onSnapshot_follows sorts follows valid.1 valid.2
  | clear => exact nofun

end NotificationScene

/-- **In every run of snapshots whose documents have dates: `init` subscribes to the user if there
is no subscription, and changes nothing if there is one; snapshots keep the subscription; and
while there is one, the list mirrors the collection after each of them.** -/
theorem notifications_mirror (parse : String → Option Int)
    (sort : List NotificationModel → List NotificationModel)
    (sorts : NotificationProvider.SortsDated sort) (events : List NotificationEvent)
    (valid : Along (NotificationEvent.step parse sort) (fun s event => event.Valid parse s) {}
      events) :
    ∀ s, Reached (NotificationEvent.step parse sort) {} events s →
      (s.provider.subscription = none → ∀ userId,
        (NotificationEvent.step parse sort s (.init userId)).provider =
          { notifications := [], subscription := some userId }) ∧
      (∀ changes, (NotificationEvent.step parse sort s (.snapshot changes)).provider.subscription =
        s.provider.subscription) ∧
      (s.provider.subscription.isSome →
        s.Mirrored parse ∧ ∀ userId, NotificationEvent.step parse sort s (.init userId) = s) := by
  intro s reached
  have start : NotificationScene.Subscribed parse {} := nofun
  have holds := all_reached (fun s event => NotificationScene.Subscribed.step sorts s event) start
    valid s reached
  refine ⟨NotificationScene.init_free, NotificationScene.subscription_snapshot s, ?_⟩
  intro subscribed
  exact ⟨holds.mirrored subscribed, NotificationScene.init_subscribed subscribed⟩

/-- A notification of the given instant, as it is stored. -/
def plainNotification (micros : Int) (isRead : Bool) : Fields :=
  [("receivedAt", .timestamp micros), ("isRead", .bool isRead)]

/-- Two notifications come. -/
def twoNotifications : List NotificationEvent :=
  [.init "u",
    .snapshot [.added "a" (plainNotification 1 false), .added "b" (plainNotification 2 false)]]

/-- The first one is read, and the second goes. -/
def firstRead : List NotificationEvent :=
  [.init "v", .snapshot [.modified "a" (plainNotification 1 true), .removed "b"]]

theorem dated_plainNotification (id : String) (micros : Int) (isRead : Bool) :
    Dated (fun _ => none) id (plainNotification micros isRead) :=
  ⟨{ id := some id, receivedAt := some micros, isRead := some isRead }, rfl, rfl⟩

/-- The latest first, by insertion. -/
def latestFirst (l : List NotificationModel) : List NotificationModel :=
  l.insertionSort fun a b => b.receivedAt.getD 0 ≤ a.receivedAt.getD 0

theorem sortsDated_latestFirst : NotificationProvider.SortsDated latestFirst := by
  intro l _
  refine ⟨List.perm_insertionSort _ l, ?_⟩
  have : Std.Total fun a b : NotificationModel => b.receivedAt.getD 0 ≤ a.receivedAt.getD 0 :=
    ⟨fun a b => le_total ..⟩
  have : IsTrans NotificationModel fun a b => b.receivedAt.getD 0 ≤ a.receivedAt.getD 0 :=
    ⟨fun a b c less less' => less'.trans less⟩
  exact List.pairwise_insertionSort _ l

/-- What the list shows: the identifiers, and whether they are read. -/
def NotificationScene.shown (s : NotificationScene) : List (Option String × Option Bool) :=
  s.provider.notifications.map fun m => (m.id, m.isRead)

theorem twoNotifications_mirrored :
    let step := NotificationEvent.step (fun _ => none) latestFirst
    let two := run step {} twoNotifications
    let one := run step {} (twoNotifications ++ firstRead)
    (two.Mirrored (fun _ => none) ∧ two.provider.subscription = some "u" ∧
      two.shown = [(some "b", some false), (some "a", some false)] ∧ two.provider.unreadCount = 2) ∧
      one.Mirrored (fun _ => none) ∧ one.provider.subscription = some "u" ∧
        one.shown = [(some "a", some true)] ∧ one.provider.unreadCount = 0 := by
  intro step two one
  have mirror := notifications_mirror (fun _ => none) latestFirst sortsDated_latestFirst
    (twoNotifications ++ firstRead) <| by
      refine ⟨trivial, ⟨by decide, ?_⟩, trivial, ⟨by decide, ?_⟩, trivial⟩
      all_goals
        intro id data listed
        simp only [List.mem_cons, List.not_mem_nil, reduceCtorEq, or_false, false_or,
          Change.added.injEq, Change.modified.injEq] at listed
      · rcases listed with ⟨rfl, rfl⟩ | ⟨rfl, rfl⟩
        · exact dated_plainNotification ..
        · exact dated_plainNotification ..
      · obtain ⟨rfl, rfl⟩ := listed
        exact dated_plainNotification ..
  have reached : Reached step {} (twoNotifications ++ firstRead) two :=
    ⟨twoNotifications, List.prefix_append _ _, rfl⟩
  exact ⟨⟨((mirror two reached).2.2 rfl).1, rfl, rfl, rfl⟩,
    ((mirror one (.run _ _)).2.2 rfl).1, rfl, rfl, rfl⟩

end TwoGather
