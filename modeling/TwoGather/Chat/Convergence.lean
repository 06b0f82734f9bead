import TwoGather.Chat.Listeners
import TwoGather.Lib.Runs

/-!
# Whether the shown messages converge

One salon is open. Its documents change in any way, snapshots of the query are delivered, pictures
and videos are sent from this phone, and the listener is replaced by `loadMore` or stopped and
started again. After a delivery the map should have the delivered data of every message of the
window, and no message that was deleted.

It does exactly when no delivered picture or video finds another one in the map that was not sent
from here, and no message was deleted that is in the map but not in the last snapshot
(`converges_iff`).
-/

namespace TwoGather

open Docs Requests Snapshots

/-- The phone, the documents of the salon, the ids under which it ever had one, and the path with
which a picture or video was sent from here. -/
structure ReplicaScene where
  chat : Chat
  docs : Collection String MessageModel
  written : List String
  sentPath : String → Option String

inductive ReplicaMove
  | write (docs : Collection String MessageModel)
  | deliver (k : Nat)
  | send (id : String) (messageModel : MessageModel)
  | loadMore
  | pauseListeners
  | resumeListeners

namespace ReplicaMove

variable (myUid : UserId)

/-- The notifier after a call of it. -/
def withSalon (t : ReplicaScene) (salon : SalonNotifier) : ReplicaScene :=
  { t with chat := { t.chat with salon } }

def step (t : ReplicaScene) : ReplicaMove → ReplicaScene
  | .write docs => { t with docs, written := t.written ++ docs.docs.map (·.1) }
  | .deliver k => { t with chat := t.chat.deliver myUid k t.docs }
  | .send id messageModel =>
      { t with
        chat := (t.chat.addMessage myUid messageModel).1
        sentPath := Function.update t.sentPath id messageModel.temporaryPath }
  | .loadMore => withSalon t t.chat.salon.loadMore
  | .pauseListeners => withSalon t t.chat.salon.pauseListeners
  | .resumeListeners => withSalon t t.chat.salon.resumeListeners

/-- A picture or video is sent under a new id, from `uuid.v4()`. -/
def Valid (t : ReplicaScene) : ReplicaMove → Prop
  | .send id messageModel =>
      messageModel.id = some id ∧ messageModel.isMedia = true ∧ id ∉ t.written ∧
        t.chat.messages.shown id = none
  | _ => True

instance (t : ReplicaScene) : (move : ReplicaMove) → Decidable (move.Valid t)
  | .send .. => inferInstanceAs (Decidable (_ ∧ _ ∧ _ ∧ _))
  | .write _ | .deliver _ | .loadMore | .pauseListeners | .resumeListeners => .isTrue trivial

end ReplicaMove

namespace ReplicaScene

/-- What the map has of a message. -/
def shown (t : ReplicaScene) (id : String) : Option MessageModel :=
  t.chat.messages.shown id

/-- What is shown is the data, perhaps with the path under which it was sent from here. -/
def Shows (sentPath : Option String) (data shown : MessageModel) : Prop :=
  shown = data ∨
    data.isMedia = true ∧ ∃ path, sentPath = some path ∧ shown = data.withPath path

/-- What is to hold after a delivery of the snapshot `window`. -/
structure Converged (t : ReplicaScene) (window : Collection String MessageModel) : Prop where
  latest : ∀ id data, window.get? id = some data →
    ∃ shown, t.shown id = some shown ∧ Shows (t.sentPath id) (.fromDoc id data) shown
  deleted : ∀ id shown, t.shown id = some shown → id ∈ t.written → (t.docs.get? id).isSome

/-- A picture or video finds nothing in the map, or the same data, or a path of its own or with
which it was sent from here. -/
def Mergeable (sentPath : Option String) (data : MessageModel) (shown : Option MessageModel) :
    Prop :=
  data.isMedia = true → ∀ before ∈ shown, (before.temporaryPath = none → before = data) ∧
    ∀ path ∈ before.temporaryPath, data.temporaryPath = some path ∨ sentPath = some path

instance (sentPath : Option String) (data : MessageModel) (shown : Option MessageModel) :
    Decidable (Mergeable sentPath data shown) :=
  inferInstanceAs (Decidable (_ → _))

/-- What a delivery must find: the new and the changed documents can be merged, and no message is
in the map that was deleted and that this subscription has not delivered. -/
def Deliverable (t : ReplicaScene) (limit : Nat) (last : Collection String MessageModel) : Prop :=
  (∀ doc ∈ (TwoGather.latest limit t.docs).docs, last.get? doc.1 ≠ some doc.2 →
    Mergeable (t.sentPath doc.1) (.fromDoc doc.1 doc.2) (t.shown doc.1)) ∧
  ∀ doc ∈ t.chat.messages.mapMessageToShow.docs, last.get? doc.1 = none → doc.1 ∈ t.written →
    (t.docs.get? doc.1).isSome = true

instance (t : ReplicaScene) (limit : Nat) (last : Collection String MessageModel) :
    Decidable (t.Deliverable limit last) :=
  inferInstanceAs (Decidable (_ ∧ _))

end ReplicaScene

namespace ReplicaMove

variable (myUid : UserId)

/-- After the move, if it is a delivery, what is shown has converged. -/
def Converges (t : ReplicaScene) : ReplicaMove → Prop
  | .deliver k => ∀ pair ∈ t.chat.salon.lastSnapshot k,
      (step myUid t (.deliver k)).Converged (latest pair.1 t.docs)
  | _ => True

def Deliverable (t : ReplicaScene) : ReplicaMove → Prop
  | .deliver k => ∀ pair ∈ t.chat.salon.lastSnapshot k, t.Deliverable pair.1 pair.2
  | _ => True

instance (t : ReplicaScene) : (move : ReplicaMove) → Decidable (move.Deliverable t)
  | .deliver k => inferInstanceAs (Decidable (∀ pair ∈ t.chat.salon.lastSnapshot k, _))
  | .write _ | .send .. | .loadMore | .pauseListeners | .resumeListeners => .isTrue trivial

end ReplicaMove

namespace ReplicaScene

variable {t : ReplicaScene} {idSalon : SalonId} {myUid : UserId}

/-- What holds between two moves: the salon is open, only the subscription in the field is not
cancelled, and what it has delivered is shown. -/
structure Invariant (idSalon : SalonId) (t : ReplicaScene) : Prop where
  opened : t.chat.salon.idSalon = some idSalon
  field : ∀ k pair, t.chat.salon.lastSnapshot k = some pair → t.chat.salon.streamSubMessage = some k
  window : ∀ k pair, t.chat.salon.lastSnapshot k = some pair → ∀ id data, pair.2.get? id = some data →
    ∃ shown, t.shown id = some shown ∧ Shows (t.sentPath id) (.fromDoc id data) shown
  written : ∀ id, (t.docs.get? id).isSome → id ∈ t.written

/-- A delivery, to a subscription that is not cancelled. -/
theorem deliver_eq (invariant : Invariant idSalon t) {k limit : Nat}
    {last : Collection String MessageModel}
    (live : t.chat.salon.lastSnapshot k = some (limit, last)) :
    (t.chat.deliver myUid k t.docs).salon = t.chat.salon.delivered k (latest limit t.docs) ∧
      (t.chat.deliver myUid k t.docs).messages =
        (docChanges last (latest limit t.docs)).foldl SalonMessagesNotifier.apply
          t.chat.messages := by
  have opened : ({ t.chat with salon := t.chat.salon.delivered k (latest limit t.docs) } :
      Chat).salon.idSalon = some idSalon := invariant.opened
  unfold Chat.deliver
  rw [live]
  exact Chat.handleChange_of_open opened _

/-- What a change makes of the entry of its message. -/
def effect : Change String MessageModel → Option MessageModel → Option MessageModel
  | .added id data, shown | .modified id data, shown =>
      SalonMessagesNotifier.merged (.fromDoc id data) shown
  | .removed _, _ => none

theorem shown_apply (n : SalonMessagesNotifier) (c : Change String MessageModel) (id : String) :
    (n.apply c).shown id = if c.key = id then effect c (n.shown id) else n.shown id := by
  have put (key : String) (data : MessageModel) : (n.add (.fromDoc key data)).shown id =
      if key = id then SalonMessagesNotifier.merged (.fromDoc key data) (n.shown id)
      else n.shown id := by
    rw [n.shown_add (.fromDoc key data) rfl]
    by_cases same : key = id
    · rw [if_pos same, if_pos same.symm, same]
    · rw [if_neg same, if_neg (Ne.symm same)]
  cases c with
  | added key data => exact put key data
  | modified key data => exact put key data
  | removed key =>
      change (n.mapMessageToShow.delete key).get? id = _
      rw [Collection.get?_delete]
      by_cases same : key = id
      · rw [if_pos same.symm]
        exact (if_pos same).symm
      · rw [if_neg (Ne.symm same)]
        exact (if_neg same).symm

/-- What is shown of a message after a delivery. -/
theorem shown_deliver (invariant : Invariant idSalon t) {k limit : Nat}
    {last : Collection String MessageModel} (live : t.chat.salon.lastSnapshot k = some (limit, last))
    (id : String) :
    (ReplicaMove.step myUid t (.deliver k)).shown id =
      match change id (last.get? id) ((latest limit t.docs).get? id) with
      | none => t.shown id
      | some c => effect c (t.shown id) := by
  unfold shown
  change (t.chat.deliver myUid k t.docs).messages.shown id = _
  rw [(deliver_eq invariant live).2]
  rw [entry_docChanges shown_apply]
  cases change id (last.get? id) ((latest limit t.docs).get? id) with
  | none => rfl
  | some c => rfl

/-- A message that is added is shown as it is exactly when it can be merged. -/
theorem shows_merged_iff {sentPath : Option String} {data : MessageModel}
    {shown : Option MessageModel} :
    (∃ after, SalonMessagesNotifier.merged data shown = some after ∧ Shows sentPath data after) ↔
      Mergeable sentPath data shown := by
  unfold SalonMessagesNotifier.merged Mergeable
  cases media : data.isMedia with
  | false =>
      refine iff_of_true ⟨data, if_neg Bool.false_ne_true, .inl rfl⟩ fun isMedia => ?_
      cases isMedia
  | true =>
      rw [if_pos rfl]
      cases shown with
      | none =>
          refine iff_of_true ⟨data, rfl, .inl rfl⟩ fun _ before here => ?_
          cases here
      | some before =>
          dsimp only
          constructor
          · intro found _ before' here
            obtain rfl := Option.some.inj here
            obtain ⟨after, eq, shows⟩ := found
            cases kept : before.temporaryPath with
            | none =>
                rw [kept] at eq
                obtain rfl := Option.some.inj eq
                refine ⟨fun _ => ?_, fun path here => by cases here⟩
                rcases shows with same | ⟨-, path, -, withPath⟩
                · exact same
                · rw [withPath] at kept
                  cases kept
            | some path =>
                rw [kept] at eq
                obtain rfl := Option.some.inj eq
                refine ⟨fun absent => (by cases absent), fun path' here => ?_⟩
                obtain rfl := Option.some.inj here
                rcases shows with same | ⟨-, sent, sentFrom, withPath⟩
                · exact .inl (congrArg MessageModel.temporaryPath same).symm
                · have paths : some path = some sent :=
                    congrArg MessageModel.temporaryPath withPath
                  exact .inr (sentFrom.trans paths.symm)
          · intro mergeable
            obtain ⟨same, paths⟩ := mergeable rfl before rfl
            cases kept : before.temporaryPath with
            | none => exact ⟨before, rfl, .inl (same kept)⟩
            | some path =>
                refine ⟨data.withPath path, rfl, ?_⟩
                rcases paths path kept with own | sent
                · left
                  unfold MessageModel.withPath
                  rw [← own]
                · exact .inr ⟨media, path, sent, rfl⟩

section Delivery

variable (invariant : Invariant idSalon t) {k limit : Nat}
  {last : Collection String MessageModel} (live : t.chat.salon.lastSnapshot k = some (limit, last))

include invariant live

/-- After the delivery of a window the data of its message is shown, exactly when the message was
delivered before or can be merged. -/
theorem shows_deliver_iff {id : String} {data : MessageModel}
    (inWindow : (latest limit t.docs).get? id = some data) :
    (∃ after, (ReplicaMove.step myUid t (.deliver k)).shown id = some after ∧
        Shows (t.sentPath id) (.fromDoc id data) after) ↔
      (last.get? id ≠ some data →
        Mergeable (t.sentPath id) (.fromDoc id data) (t.shown id)) := by
  have after : (ReplicaMove.step myUid t (.deliver k)).shown id = _ :=
    shown_deliver invariant live id
  rw [inWindow] at after
  cases before : last.get? id with
  | none =>
      rw [before] at after
      rw [after, imp_iff_right (by simp)]
      exact shows_merged_iff
  | some data' =>
      by_cases same : data' = data
      · subst same
        rw [before, change, if_pos rfl] at after
        rw [after]
        exact iff_of_true (invariant.window k _ live id _ before) fun differs => absurd rfl differs
      · rw [before, change, if_neg same] at after
        rw [after, imp_iff_right (by simpa using same)]
        exact shows_merged_iff

variable (myUid) in
/-- A message of the map that the delivery leaves there was not deleted. -/
theorem kept_deliver_iff :
    (∀ id after, (ReplicaMove.step myUid t (.deliver k)).shown id = some after →
        id ∈ t.written → (t.docs.get? id).isSome) ↔
      ∀ id before, t.shown id = some before → last.get? id = none → id ∈ t.written →
        (t.docs.get? id).isSome := by
  have after (id : String) : (ReplicaMove.step myUid t (.deliver k)).shown id = _ :=
    shown_deliver invariant live id
  have found {id : String} {data : MessageModel}
      (inWindow : (latest limit t.docs).get? id = some data) : (t.docs.get? id).isSome := by
    rw [get?_of_latest inWindow]
    rfl
  constructor
  · intro kept id before shown absent written
    cases inWindow : (latest limit t.docs).get? id with
    | some data => exact found inWindow
    | none =>
        refine kept id before ?_ written
        rw [after, absent, inWindow]
        exact shown
  · intro known id message shown written
    cases inWindow : (latest limit t.docs).get? id with
    | some data => exact found inWindow
    | none =>
        cases before : last.get? id with
        | none =>
            rw [after, before, inWindow] at shown
            exact known id message shown before written
        | some data =>
            rw [after, before, inWindow] at shown
            cases shown

end Delivery

/-- A move leads to a converged state exactly when it finds what it must. -/
theorem converges_iff_deliverable (invariant : Invariant idSalon t) (move : ReplicaMove) :
    move.Converges myUid t ↔ move.Deliverable t := by
  cases move with
  | deliver k =>
      refine forall₂_congr fun pair live => ?_
      have kept := kept_deliver_iff myUid invariant live
      constructor
      · intro converged
        constructor
        · intro doc listed
          have inWindow := Collection.mem_docs.mp listed
          exact (shows_deliver_iff invariant live inWindow).mp
            (converged.latest doc.1 doc.2 inWindow)
        · intro doc listed
          exact kept.mp converged.deleted doc.1 doc.2 (Collection.mem_docs.mp listed)
      · intro deliverable
        constructor
        case latest =>
          intro id data inWindow
          apply (shows_deliver_iff invariant live inWindow).mpr
          exact deliverable.1 (id, data) (Collection.mem_docs.mpr inWindow)
        case deleted =>
          apply kept.mpr
          intro id before shown
          exact deliverable.2 (id, before) (Collection.mem_docs.mpr shown)
  | write docs => rfl
  | send id messageModel => rfl
  | loadMore => rfl
  | pauseListeners => rfl
  | resumeListeners => rfl

/-! ### What every move preserves -/

/-- A call that leaves no subscription which has delivered anything. -/
theorem Invariant.call {salon : SalonNotifier} (invariant : Invariant idSalon t)
    (opened : salon.idSalon = some idSalon)
    (fresh : ∀ k pair, salon.lastSnapshot k = some pair →
      salon.streamSubMessage = some k ∧ pair.2.docs = []) :
    Invariant idSalon (ReplicaMove.withSalon t salon) where
  opened := opened
  field k pair live := (fresh k pair live).1
  window k pair live id data found := by
    have listed := Collection.mem_docs.mpr found
    rw [(fresh k pair live).2] at listed
    cases listed
  written := invariant.written

/-- The subscription in the field is the only one that can be cancelled. -/
theorem Invariant.cancelled (invariant : Invariant idSalon t) (k : Nat) :
    (t.chat.salon.cancel t.chat.salon.streamSubMessage).lastSnapshot k = none := by
  unfold SalonNotifier.lastSnapshot
  rw [SalonNotifier.ofLive_cancel]
  split
  case isTrue => rfl
  case isFalse other =>
    cases live : t.chat.salon.lastSnapshot k with
    | none => exact live
    | some pair => exact absurd (invariant.field k pair live) other

theorem Invariant.pauseListeners (invariant : Invariant idSalon t) :
    Invariant idSalon (ReplicaMove.withSalon t t.chat.salon.pauseListeners) := by
  apply invariant.call
  · change (t.chat.salon.cancel _).idSalon = _
    rw [SalonNotifier.idSalon_cancel]
    exact invariant.opened
  · intro k pair live
    have none := invariant.cancelled k
    cases none.symm.trans live

theorem Invariant.listenMessages {n : SalonNotifier} {salonId : Option SalonId}
    (invariant : Invariant idSalon t) (opened : n.idSalon = some idSalon)
    (silent : ∀ k, n.lastSnapshot k = none) :
    Invariant idSalon (ReplicaMove.withSalon t (n.listenMessages salonId)) := by
  refine invariant.call (by exact opened) fun k pair live => ?_
  change (n.listen (.messages n.limit) salonId).ofLive Subscription.snapshot k = _ at live
  rw [SalonNotifier.ofLive_listen] at live
  split at live
  case isTrue here =>
    cases live
    exact ⟨congrArg some here.symm, rfl⟩
  case isFalse =>
    have none := silent k
    cases none.symm.trans live

theorem Invariant.loadMore (invariant : Invariant idSalon t) :
    Invariant idSalon (ReplicaMove.withSalon t t.chat.salon.loadMore) := by
  apply invariant.listenMessages
  · rw [SalonNotifier.idSalon_cancel]
    exact invariant.opened
  · intro k
    have none := invariant.cancelled k
    unfold SalonNotifier.lastSnapshot at none ⊢
    rw [SalonNotifier.ofLive_cancel] at none ⊢
    exact none

theorem Invariant.resumeListeners (invariant : Invariant idSalon t) :
    Invariant idSalon (ReplicaMove.withSalon t t.chat.salon.resumeListeners) := by
  unfold SalonNotifier.resumeListeners
  rw [invariant.opened]
  cases field : t.chat.salon.streamSubMessage with
  | none =>
      apply invariant.listenMessages invariant.opened
      intro k
      cases live : t.chat.salon.lastSnapshot k with
      | none => rfl
      | some pair =>
          have here := invariant.field k pair live
          rw [field] at here
          cases here
  | some k => exact invariant

theorem Invariant.write (invariant : Invariant idSalon t)
    (docs : Collection String MessageModel) :
    Invariant idSalon (ReplicaMove.step myUid t (.write docs)) where
  opened := invariant.opened
  field := invariant.field
  window := invariant.window
  written id found := by
    obtain ⟨data, found⟩ := Option.isSome_iff_exists.mp found
    exact List.mem_append_right _ (List.mem_map.mpr ⟨(id, data), Collection.mem_docs.mpr found, rfl⟩)

theorem Invariant.send {id : String} {messageModel : MessageModel}
    (invariant : Invariant idSalon t) (valid : ReplicaMove.Valid t (.send id messageModel)) :
    Invariant idSalon (ReplicaMove.step myUid t (.send id messageModel)) := by
  obtain ⟨own, -, -, absent⟩ := valid
  have added : _ ∧ (t.chat.addMessage myUid messageModel).1.salon = t.chat.salon ∧ _ :=
    Chat.addMessage_of_open invariant.opened own
  obtain ⟨-, salon, messages⟩ := added
  -- what this subscription has delivered is in the map, so it is not the new message
  have other {k : Nat} {pair : Nat × Collection String MessageModel}
      (live : t.chat.salon.lastSnapshot k = some pair) {j : String} {data : MessageModel}
      (found : pair.2.get? j = some data) : j ≠ id := by
    intro same
    obtain ⟨shown, here, -⟩ := invariant.window k pair live j data found
    rw [same] at here
    cases absent.symm.trans here
  constructor
  case opened =>
    change (t.chat.addMessage myUid messageModel).1.salon.idSalon = _
    rw [salon]
    exact invariant.opened
  case field =>
    change ∀ k pair, (t.chat.addMessage myUid messageModel).1.salon.lastSnapshot k = some pair →
      (t.chat.addMessage myUid messageModel).1.salon.streamSubMessage = some k
    rw [salon]
    exact invariant.field
  case window =>
    intro k pair (live : (t.chat.addMessage myUid messageModel).1.salon.lastSnapshot k = some pair)
      j data found
    rw [salon] at live
    obtain ⟨shown, here, shows⟩ := invariant.window k pair live j data found
    have differs := other live found
    refine ⟨shown, ?_, ?_⟩
    · change (t.chat.addMessage myUid messageModel).1.messages.shown j = some shown
      rw [messages, t.chat.messages.shown_add messageModel own, if_neg differs]
      exact here
    · change Shows (Function.update t.sentPath id _ j) _ _
      rw [Function.update_of_ne differs]
      exact shows
  case written => exact invariant.written

theorem Invariant.deliver {k : Nat} (invariant : Invariant idSalon t)
    (converges : ReplicaMove.Converges myUid t (.deliver k)) :
    Invariant idSalon (ReplicaMove.step myUid t (.deliver k)) := by
  cases live : t.chat.salon.lastSnapshot k with
  | none =>
      have stays : t.chat.deliver myUid k t.docs = t.chat := by
        unfold Chat.deliver
        rw [live]
      change Invariant idSalon { t with chat := t.chat.deliver myUid k t.docs }
      rw [stays]
      exact invariant
  | some pair =>
      have delivered : (t.chat.deliver myUid k t.docs).salon = _ := (deliver_eq invariant live).1
      have after {j : Nat} {pair' : Nat × Collection String MessageModel}
          (live' : (t.chat.deliver myUid k t.docs).salon.lastSnapshot j = some pair') :
          t.chat.salon.streamSubMessage = some j ∧ pair'.2 = latest pair.1 t.docs := by
        rw [delivered, SalonNotifier.lastSnapshot_delivered] at live'
        split at live'
        case isTrue same =>
          rw [same, live] at live'
          cases live'
          exact ⟨same ▸ invariant.field k pair live, rfl⟩
        case isFalse differs =>
          have first := invariant.field k pair live
          have second := invariant.field j pair' live'
          exact absurd (Option.some.inj (second.symm.trans first)) differs
      constructor
      case opened =>
        change (t.chat.deliver myUid k t.docs).salon.idSalon = _
        rw [delivered]
        exact invariant.opened
      case field =>
        intro j pair' live'
        change (t.chat.deliver myUid k t.docs).salon.streamSubMessage = _
        rw [delivered]
        exact (after live').1
      case window =>
        intro j pair' live' id data found
        rw [(after live').2] at found
        exact (converges pair live).latest id data found
      case written => exact invariant.written

/-- Every move that leads to a converged state preserves the invariant. -/
theorem Invariant.step {move : ReplicaMove} (invariant : Invariant idSalon t)
    (valid : move.Valid t) (converges : move.Converges myUid t) :
    Invariant idSalon (move.step myUid t) := by
  cases move with
  | write docs => exact invariant.write docs
  | deliver k => exact invariant.deliver converges
  | send id messageModel => exact invariant.send valid
  | loadMore => exact invariant.loadMore
  | pauseListeners => exact invariant.pauseListeners
  | resumeListeners => exact invariant.resumeListeners

/-- A page has opened the salon: `init` and `initMessages` were called, and `init` went on to its
end. -/
def start (idSalon : SalonId) (docs : Collection String MessageModel) : ReplicaScene where
  chat := { salon := ((({} : SalonNotifier).init idSalon).initMessages idSalon).initListen idSalon }
  docs
  written := docs.docs.map (·.1)
  sentPath _ := none

theorem invariant_start (idSalon : SalonId) (docs : Collection String MessageModel) :
    Invariant idSalon (start idSalon docs) := by
  have fresh : ∀ k pair, (start idSalon docs).chat.salon.lastSnapshot k = some pair →
      k = 0 ∧ pair.2.docs = [] := by
    intro k pair live
    match k, live with
    | 0, live =>
        cases live
        exact ⟨rfl, rfl⟩
    | 1, live => cases live
    | 2, live => cases live
    | k + 3, live => cases live
  constructor
  case opened => rfl
  case field =>
    intro k pair live
    rw [(fresh k pair live).1]
    rfl
  case window =>
    intro k pair live id data found
    have listed := Collection.mem_docs.mpr found
    rw [(fresh k pair live).2] at listed
    cases listed
  case written =>
    intro id found
    obtain ⟨data, found⟩ := Option.isSome_iff_exists.mp found
    exact List.mem_map.mpr ⟨(id, data), Collection.mem_docs.mpr found, rfl⟩

/-- **After every delivery the map has the delivered data of every message of the window, perhaps
with the path under which it was sent from here, and no message that was deleted, exactly when
every delivery finds what it must.** -/
theorem converges_iff (idSalon : SalonId) (docs : Collection String MessageModel)
    {moves : List ReplicaMove}
    (valid : Along (ReplicaMove.step myUid) (fun t move => move.Valid t) (start idSalon docs)
      moves) :
    Along (ReplicaMove.step myUid) (fun t move => move.Converges myUid t) (start idSalon docs)
        moves ↔
      Along (ReplicaMove.step myUid) (fun t move => move.Deliverable t) (start idSalon docs)
        moves := by
  have both : Along (ReplicaMove.step myUid)
        (fun t move => ReplicaMove.Valid t move ∧ move.Converges myUid t) (start idSalon docs)
        moves ↔
      Along (ReplicaMove.step myUid)
        (fun t move => ReplicaMove.Valid t move ∧ move.Deliverable t) (start idSalon docs)
        moves :=
    along_iff_along (P := Invariant idSalon)
      (fun _ _ invariant sound => invariant.step sound.1 sound.2)
      (fun _ move invariant => and_congr_right' (converges_iff_deliverable invariant move))
      (invariant_start idSalon docs)
  rw [Along.and_iff, Along.and_iff, and_iff_right valid, and_iff_right valid] at both
  exact both

end ReplicaScene

/-! ## A picture of another user -/

/-- A picture that `sender` has sent, as `seenBy` have seen it. -/
def picture (sender : UserId) (seenBy : List UserId) : MessageModel where
  sender
  type := .imageMessage
  seenBy := some seenBy
  createdAt := .epoch
  timeStamp := some .epoch

/-- It comes, and then its document says that it was seen. -/
def seenPicture : List ReplicaMove :=
  [.deliver 0, .write ⟨[("p", picture "v" ["u"])], by decide⟩, .deliver 0]

theorem seenPicture_notConverges :
    ¬ Along (ReplicaMove.step "u") (fun t move => move.Converges "u" t)
      (.start "s" ⟨[("p", picture "v" [])], by decide⟩) seenPicture := by
  intro converges
  obtain ⟨shown, here, shows⟩ :=
    (converges.2.2.1 (20, ⟨[("p", picture "v" [])], by decide⟩) (by decide)).latest
      "p" (picture "v" ["u"]) (by decide)
  cases here
  rcases shows with same | ⟨-, path, sent, -⟩
  · exact absurd same (by decide)
  · cases sent

/-- A picture is sent from this phone while nothing is listened to; its document is written and
seen. -/
def sentPicture : List ReplicaMove :=
  [.deliver 0, .pauseListeners,
    .send "q" { picture "u" [] with id := some "q", temporaryPath := some "/q.png" },
    .write ⟨[("q", picture "u" [])], by decide⟩, .resumeListeners, .deliver 3,
    .write ⟨[("q", picture "u" ["v"])], by decide⟩, .deliver 3]

theorem sentPicture_converges :
    Along (ReplicaMove.step "u") (fun t move => move.Converges "u" t)
      (.start "s" ⟨[], List.nodup_nil⟩) sentPicture :=
  (ReplicaScene.converges_iff "s" _ (by decide)).mpr (by decide)

end TwoGather
