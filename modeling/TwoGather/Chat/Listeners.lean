import TwoGather.Chat.Messages

/-!
# The listeners of the chat

`SalonNotifier` holds three subscriptions in fields of its own. A method that listens overwrites
the field; whether it has cancelled what was there before differs from one to the next.

`init` and `removeListnerToSalon` await a cancellation, so they are cut into the parts between
their awaits (`Suspended`): the cancellation itself happens before the method is suspended.
-/

namespace TwoGather

open Docs Snapshots

/-- What a subscription listens to. -/
inductive Watched
  | salon
  | lastDeletedCompos
  | messages (limit : Nat)
  deriving DecidableEq

/-- A subscription that the notifier has created. `doc(null)` is a document with a fresh id, so no
salon. -/
structure Subscription where
  watches : Watched
  salon : Option SalonId
  live : Bool := true
  /-- The last snapshot that was delivered. -/
  last : Collection String MessageModel := ⟨[], List.nodup_nil⟩
  deriving DecidableEq

/-- For a subscription to messages: its limit and what it has delivered. -/
def Subscription.snapshot (sub : Subscription) :
    Option (Nat × Collection String MessageModel) :=
  match sub.watches with
  | .messages limit => some (limit, sub.last)
  | _ => none

/-- The fields of `SalonNotifier`, and every subscription it has created so far. -/
structure SalonNotifier where
  idSalon : Option SalonId := none
  limit : Nat := 20
  streamSubSalon : Option Nat := none
  streamSubscriptionLastDeletedUser : Option Nat := none
  streamSubMessage : Option Nat := none
  subscriptions : AutoCollection Subscription := .empty

/-- A method that is suspended, by what it awaits: in `init` the cancellation of the subscription
to the salon or of the one to `LastDeletedCompos`. -/
inductive Suspended
  | initSalon (idSalon : SalonId)
  | initLastDeleted (idSalon : SalonId)
  | removeListnerToSalon
  deriving DecidableEq

namespace SalonNotifier

/-- What `f` says of a subscription that is not cancelled. -/
def ofLive {γ : Type} (f : Subscription → Option γ) (n : SalonNotifier) (k : Nat) : Option γ :=
  (n.subscriptions.get? k).bind fun sub => if sub.live then f sub else none

def lastSnapshot (n : SalonNotifier) (k : Nat) : Option (Nat × Collection String MessageModel) :=
  n.ofLive Subscription.snapshot k

/-- `subscription?.cancel()`. -/
def cancel (n : SalonNotifier) : Option Nat → SalonNotifier
  | none => n
  | some k => { n with subscriptions := n.subscriptions.update k ({ · with live := false }) }

/-- `init`, up to its first await. -/
def init (n : SalonNotifier) (idSalon : SalonId) : SalonNotifier :=
  { n with limit := 20, idSalon := some idSalon }.cancel n.streamSubSalon

/-- A new subscription, under the next key. -/
def listen (n : SalonNotifier) (watches : Watched) (salon : Option SalonId) : SalonNotifier :=
  { n with
    subscriptions := n.subscriptions.add ⟨watches, salon, true, ⟨[], List.nodup_nil⟩⟩ }

/-- The listeners that `init` sets up in the end. -/
def initListen (n : SalonNotifier) (idSalon : SalonId) : SalonNotifier :=
  { (n.listen .lastDeletedCompos (some idSalon)).listen .salon (some idSalon) with
    streamSubscriptionLastDeletedUser := some n.subscriptions.next
    streamSubSalon := some (n.subscriptions.next + 1) }

/-- `_streamSubMessage = _streamMessage!.listen(_handleChange)`. -/
def listenMessages (n : SalonNotifier) (salonId : Option SalonId) : SalonNotifier :=
  { n.listen (.messages n.limit) salonId with streamSubMessage := some n.subscriptions.next }

def initMessages (n : SalonNotifier) (salonId : SalonId) : SalonNotifier :=
  n.listenMessages (some salonId)

def loadMore (n : SalonNotifier) : SalonNotifier :=
  ({ n with limit := n.limit + 20 }.cancel n.streamSubMessage).listenMessages n.idSalon

def pauseListeners (n : SalonNotifier) : SalonNotifier :=
  { n.cancel n.streamSubMessage with streamSubMessage := none }

def resumeListeners (n : SalonNotifier) : SalonNotifier :=
  match n.idSalon, n.streamSubMessage with
  | some idSalon, none => n.initMessages idSalon
  | _, _ => n

/-- `removeListnerToSalon`, up to its await. -/
def removeListnerToSalon (n : SalonNotifier) : SalonNotifier :=
  n.cancel n.streamSubMessage

def clear (n : SalonNotifier) : SalonNotifier :=
  { ((n.cancel n.streamSubSalon).cancel n.streamSubMessage).cancel
      n.streamSubscriptionLastDeletedUser with
    streamSubSalon := none
    streamSubMessage := none
    streamSubscriptionLastDeletedUser := none
    idSalon := none }

/-- What a suspended method does up to its next await or its end, and where it then is. -/
def goOn (n : SalonNotifier) : Suspended → SalonNotifier × Option Suspended
  | .initSalon idSalon =>
      (n.cancel n.streamSubscriptionLastDeletedUser, some (.initLastDeleted idSalon))
  | .initLastDeleted idSalon => (n.initListen idSalon, none)
  | .removeListnerToSalon => ({ n with streamSubMessage := none }, none)

/-- A snapshot counts as delivered. -/
def delivered (n : SalonNotifier) (k : Nat) (window : Collection String MessageModel) :
    SalonNotifier :=
  { n with subscriptions := n.subscriptions.update k ({ · with last := window }) }

section Live

variable {γ : Type} (f : Subscription → Option γ) (n : SalonNotifier)

@[simp] theorem idSalon_cancel (field : Option Nat) : (n.cancel field).idSalon = n.idSalon := by
  cases field with
  | none => rfl
  | some k => rfl

theorem get?_cancel (field : Option Nat) (k : Nat) :
    (n.cancel field).subscriptions.get? k =
      if field = some k then (n.subscriptions.get? k).map ({ · with live := false })
      else n.subscriptions.get? k := by
  cases field with
  | none => exact (if_neg (by simp)).symm
  | some j =>
      change (n.subscriptions.update j _).get? k = _
      rw [AutoCollection.get?_update]
      by_cases same : k = j
      · rw [if_pos same, if_pos (by rw [same])]
      · rw [if_neg same, if_neg (by simpa using Ne.symm same)]

theorem ofLive_cancel (field : Option Nat) (k : Nat) :
    (n.cancel field).ofLive f k = if field = some k then none else n.ofLive f k := by
  unfold ofLive
  rw [get?_cancel]
  split
  · cases n.subscriptions.get? k with
    | none => rfl
    | some sub => rfl
  · rfl

theorem ofLive_listen (watches : Watched) (salon : Option SalonId) (k : Nat) :
    (n.listen watches salon).ofLive f k =
      if k = n.subscriptions.next then f ⟨watches, salon, true, ⟨[], List.nodup_nil⟩⟩
      else n.ofLive f k := by
  unfold ofLive listen
  rw [AutoCollection.get?_add]
  split
  · rfl
  · rfl

/-- Nothing listens under a key that has not been drawn. -/
theorem ofLive_next : n.ofLive f n.subscriptions.next = none := by
  unfold ofLive
  rw [AutoCollection.get?_next]
  rfl

theorem lastSnapshot_delivered (k : Nat) (window : Collection String MessageModel) (j : Nat) :
    (n.delivered k window).lastSnapshot j =
      if j = k then (n.lastSnapshot j).map (fun pair => (pair.1, window))
      else n.lastSnapshot j := by
  unfold lastSnapshot ofLive delivered
  rw [AutoCollection.get?_update]
  split
  · cases n.subscriptions.get? j with
    | none => rfl
    | some sub =>
        obtain ⟨watches, salon, live, last⟩ := sub
        cases live with
        | false => rfl
        | true =>
            cases watches with
            | messages limit => rfl
            | salon => rfl
            | lastDeletedCompos => rfl
  · rfl

end Live

end SalonNotifier

/-! ## Deliveries -/

/-- The two notifiers of the chat, and the messages whose `seenBy` was updated from here. -/
structure Chat where
  salon : SalonNotifier := {}
  messages : SalonMessagesNotifier := {}
  seenUpdates : List (SalonId × String) := []

namespace Chat

variable (myUid : UserId)

/-- `addMessage`, and whether it returns: a message that is not seen needs `idSalon!`. -/
def addMessage (c : Chat) (messageModel : MessageModel) : Chat × Bool :=
  let added := { c with messages := c.messages.add messageModel }
  if messageModel.isUnseen myUid then
    match c.salon.idSalon, messageModel.id with
    | some idSalon, some id =>
        ({ added with seenUpdates := c.seenUpdates ++ [(idSalon, id)] }, true)
    | _, _ => (added, false)
  else (added, true)

/-- The loop of `_handleChange`. -/
def handleChange (c : Chat) : List (Change String MessageModel) → Chat
  | [] => c
  | .added id data :: changes | .modified id data :: changes =>
      let added := c.addMessage myUid (.fromDoc id data)
      if added.2 then added.1.handleChange changes else added.1
  | .removed id :: changes =>
      { c with messages := c.messages.deleteMessage id }.handleChange changes

/-- A snapshot of the messages of its salon, for a subscription: first it counts as delivered,
then it is handled. -/
def deliver (c : Chat) (k : Nat) (docs : Collection String MessageModel) : Chat :=
  match c.salon.lastSnapshot k with
  | some (limit, last) =>
      { c with salon := c.salon.delivered k (latest limit docs) }.handleChange myUid
        (docChanges last (latest limit docs))
  | none => c

variable {myUid}

/-- While a salon is open, a message with an id does not end the loop. -/
theorem addMessage_of_open {c : Chat} {idSalon : SalonId} (opened : c.salon.idSalon = some idSalon)
    {messageModel : MessageModel} {id : String} (own : messageModel.id = some id) :
    (c.addMessage myUid messageModel).2 = true ∧
      (c.addMessage myUid messageModel).1.salon = c.salon ∧
      (c.addMessage myUid messageModel).1.messages = c.messages.add messageModel := by
  unfold addMessage
  rw [opened, own]
  dsimp only
  split
  · exact ⟨rfl, rfl, rfl⟩
  · exact ⟨rfl, rfl, rfl⟩

variable (myUid) in
@[simp] theorem salon_addMessage (c : Chat) (messageModel : MessageModel) :
    (c.addMessage myUid messageModel).1.salon = c.salon := by
  unfold addMessage
  dsimp only
  split
  · split
    · rfl
    · rfl
  · rfl

variable (myUid) in
/-- The messages do not change the listeners. -/
@[simp] theorem salon_handleChange (c : Chat) (changes : List (Change String MessageModel)) :
    (c.handleChange myUid changes).salon = c.salon := by
  induction changes generalizing c with
  | nil => rfl
  | cons change changes ih =>
      have put (id : String) (data : MessageModel) :
          (if (c.addMessage myUid (.fromDoc id data)).2 then
              (c.addMessage myUid (.fromDoc id data)).1.handleChange myUid changes
            else (c.addMessage myUid (.fromDoc id data)).1).salon = c.salon := by
        split
        · rw [ih, salon_addMessage]
        · exact salon_addMessage ..
      cases change with
      | added id data => exact put id data
      | modified id data => exact put id data
      | removed id => exact ih _

end Chat

/-- What one change does to the map. -/
def SalonMessagesNotifier.apply (n : SalonMessagesNotifier) :
    Change String MessageModel → SalonMessagesNotifier
  | .added id data | .modified id data => n.add (.fromDoc id data)
  | .removed id => n.deleteMessage id

/-- While a salon is open, all changes reach the map. -/
theorem Chat.handleChange_of_open {c : Chat} {idSalon : SalonId}
    (opened : c.salon.idSalon = some idSalon) (changes : List (Change String MessageModel)) :
    (c.handleChange myUid changes).salon = c.salon ∧
      (c.handleChange myUid changes).messages =
        changes.foldl SalonMessagesNotifier.apply c.messages := by
  induction changes generalizing c with
  | nil => exact ⟨rfl, rfl⟩
  | cons change changes ih =>
      have put (id : String) (data : MessageModel) :
          (if (c.addMessage myUid (.fromDoc id data)).2 then
              (c.addMessage myUid (.fromDoc id data)).1.handleChange myUid changes
            else (c.addMessage myUid (.fromDoc id data)).1).salon = c.salon ∧
          (if (c.addMessage myUid (.fromDoc id data)).2 then
              (c.addMessage myUid (.fromDoc id data)).1.handleChange myUid changes
            else (c.addMessage myUid (.fromDoc id data)).1).messages =
            changes.foldl SalonMessagesNotifier.apply (c.messages.add (.fromDoc id data)) := by
        obtain ⟨returns, salon, messages⟩ :=
          addMessage_of_open opened (show (MessageModel.fromDoc id data).id = some id from rfl)
        have rest := ih (salon ▸ opened : (c.addMessage myUid (.fromDoc id data)).1.salon.idSalon = _)
        rw [if_pos returns, rest.1, rest.2, salon, messages]
        exact ⟨rfl, rfl⟩
      cases change with
      | added id data => exact put id data
      | modified id data => exact put id data
      | removed id => exact ih opened

end TwoGather
