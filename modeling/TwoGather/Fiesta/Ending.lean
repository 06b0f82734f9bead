import TwoGather.Fiesta.EndNotes

/-!
# What the end of a fiesta leaves undone

A run of the job should end every fiesta it finds expired and settle it with all its
accepted participants (`Settled`). It settles no participant at all, so a run does so
exactly when no such fiesta has an accepted participant (`settled_iff`).
-/

namespace TwoGather

open Docs Requests

/-! ## A fiesta that is settled -/

/-- The run finds the fiesta with these data, and its end date has passed. -/
structure Store.Due (s : Store) (f : FiestaId) (data : Fiesta) : Prop where
  found : s.fiesta f = some data
  notEnded : data.isEnd = .value false
  expired : s.expired data = true

/-- The two users went together to a fiesta that is due. -/
def Store.WentWith (s : Store) (u v : UserId) : Prop :=
  ∃ f data, s.Due f data ∧ ∃ e ∈ data.participants, e.status = .accepted ∧ e.Has u ∧ e.Has v

/-- The user got a new notification of this kind. -/
def Gets (s t : Store) (u : UserId) (note : Timestamp → Notification) : Prop :=
  ∃ k n, (s.notifications u).get? k = none ∧ (t.notifications u).get? k = some n ∧
    n = note n.receivedAt

/-- What an accepted participant `u` of the entry `e` gets from the end of the fiesta. -/
structure SettledFor (s t : Store) (f : FiestaId) (data : Fiesta) (e : Participant) (u : UserId) :
    Prop where
  left : (t.user u).map User.fiesta = some .null
  promoted : ∀ v, e.Has v → v ≠ u →
    (⟨.connexion, v⟩ : Friend) ∈ (optional User.friends (s.user u)).elems →
      (⟨.connexion, v⟩ : Friend) ∉ (optional User.friends (t.user u)).elems ∧
        (⟨.fiestar, v⟩ : Friend) ∈ (optional User.friends (t.user u)).elems
  others : ∀ x : Friend, ¬ s.WentWith u x.user →
    (x ∈ (optional User.friends (t.user u)).elems ↔
      x ∈ (optional User.friends (s.user u)).elems)
  asked : Gets s t u (memberNotification f data)

/-- From `s` to `t` every fiesta that is due was ended, and settled with every person of an
accepted entry. -/
structure Settled (s t : Store) : Prop where
  ended : ∀ f data, s.Due f data → (t.fiesta f).map Fiesta.isEnd = some (.value true)
  members : ∀ f data, s.Due f data → ∀ e ∈ data.participants, e.status = .accepted →
    ∀ u, e.Has u → SettledFor s t f data e u

/-! ## What a run leaves -/

section Run

variable {s t : Store}

/-- Where only hosts are asked, no participant is. -/
theorem AsksHosts.not_gets (asks : AsksHosts s t) (u : UserId) (f : FiestaId) (data : Fiesta) :
    ¬ Gets s t u (memberNotification f data) := by
  intro gets
  rcases gets with ⟨k, n, before, after, note⟩
  rcases asks u with ⟨new, added, hosts⟩
  have listed := Collection.mem_docs.mpr after
  rw [added] at listed
  rcases List.mem_append.mp listed with old | isNew
  · have found := Collection.mem_docs.mp old
    rw [before] at found
    cases found
  · rcases hosts (k, n) isNew with ⟨f', data', host⟩
    exact memberNotification_ne (note.symm.trans host)

/-- The work on a fiesta without accepted participants ends well, ends the fiesta if it has
expired, and leaves the others alone. -/
theorem endFiesta_nobody {f : FiestaId} {data : Fiesta} (found : s.fiesta f = some data)
    (nobody : s.expired data = true → ∀ e ∈ data.participants, e.status ≠ .accepted) :
    ∃ t, (endFiesta f data).exec s = (.ok (), t) ∧ t.clock = s.clock ∧
      (s.expired data = true → (t.fiesta f).map Fiesta.isEnd = some (.value true)) ∧
      ∀ g, g ≠ f → t.fiesta g = s.fiesta g := by
  cases expired : s.expired data with
  | true =>
      have exist : (s.fiesta f).isSome := by rw [found]; rfl
      refine ⟨s.endFiesta f data, endFiesta_exec exist expired (nobody expired), rfl, ?_, ?_⟩
      · intro _
        simp [Store.endFiesta, found, Fiesta.markEnded]
      · intro g other
        simp [Store.endFiesta, other]
  | false =>
      refine ⟨s, endFiesta_exec_of_not expired, rfl, ?_, fun _ _ => rfl⟩
      intro expired'
      cases expired'

/-- The loop over fiestas without accepted participants ends well, and ends those that have
expired. -/
theorem endFiestas_exec {todo : List (FiestaId × Fiesta)}
    (stored : ∀ doc ∈ todo, s.fiesta doc.1 = some doc.2) (nodup : (todo.map Prod.fst).Nodup)
    (nobody : ∀ doc ∈ todo, s.expired doc.2 = true →
      ∀ e ∈ doc.2.participants, e.status ≠ .accepted) :
    ∃ t, (Program.forEach todo fun e => endFiesta e.1 e.2).exec s = (.ok (), t) ∧
      (∀ doc ∈ todo, s.expired doc.2 = true →
        (t.fiesta doc.1).map Fiesta.isEnd = some (.value true)) ∧
      ∀ f, f ∉ todo.map Prod.fst → t.fiesta f = s.fiesta f := by
  induction todo generalizing s with
  | nil =>
      refine ⟨s, rfl, ?_, fun _ _ => rfl⟩
      intro doc listed
      cases listed
  | cons doc todo ih =>
      rcases List.nodup_cons.mp nodup with ⟨isNew, nodup⟩
      rcases endFiesta_nobody (stored doc List.mem_cons_self)
        (nobody doc List.mem_cons_self) with ⟨u, ends, clock, ended, others⟩
      -- the other fiestas are as before in the store the first one leaves
      have stored' : ∀ next ∈ todo, u.fiesta next.1 = some next.2 := by
        intro next listed
        rw [others next.1 fun same => isNew (List.mem_map.mpr ⟨next, listed, same⟩)]
        exact stored next (List.mem_cons_of_mem _ listed)
      have sameExpired : ∀ data, u.expired data = s.expired data := by
        intro data
        unfold Store.expired
        rw [clock]
      rcases ih stored' nodup (fun next listed expired =>
        nobody next (List.mem_cons_of_mem _ listed) (sameExpired next.2 ▸ expired))
        with ⟨t, rest, endedRest, othersRest⟩
      refine ⟨t, ?_, ?_, ?_⟩
      · unfold Program.forEach
        rw [Program.exec_bind, ends]
        exact rest
      · intro next listed expired
        rcases List.mem_cons.mp listed with rfl | later
        · rw [othersRest next.1 isNew]
          exact ended expired
        · rw [← sameExpired] at expired
          exact endedRest next later expired
      · intro f outside
        rw [List.map_cons, List.mem_cons, not_or] at outside
        rw [othersRest f outside.2, others f outside.1]

end Run

/-- **A run ends and settles every fiesta that is due exactly when none of them has an
accepted participant.** -/
theorem settled_iff (s : Store) :
    Settled s (checkEndFiesta.exec s).2 ↔
      ∀ f data, s.Due f data → ∀ e ∈ data.participants, e.status ≠ .accepted := by
  constructor
  · intro settled f data due e listed accepted
    have asks : AsksHosts s (checkEndFiesta.exec s).2 :=
      checkEndFiesta_keeps.exec AsksHosts.refl AsksHosts.trans s
    have person := settled.members f data due e listed accepted e.fiestaRef (.inl rfl)
    exact asks.not_gets e.fiestaRef f data person.asked
  · intro nobody
    let todo := s.fiestas.docs.filter fun doc => doc.2.isEnd = .value false
    have stored : ∀ doc ∈ todo, s.fiesta doc.1 = some doc.2 := by
      intro doc listed
      exact Collection.mem_docs.mp (List.mem_filter.mp listed).1
    have notEnded : ∀ doc ∈ todo, doc.2.isEnd = .value false := by
      intro doc listed
      exact of_decide_eq_true (List.mem_filter.mp listed).2
    have nodup : (todo.map Prod.fst).Nodup :=
      s.fiestas.nodup.sublist (List.filter_sublist.map _)
    rcases endFiestas_exec stored nodup
      (fun doc listed expired =>
        nobody doc.1 doc.2 ⟨stored doc listed, notEnded doc listed, expired⟩)
      with ⟨t, run, ended, -⟩
    have store : (checkEndFiesta.exec s).2 = t := congrArg Prod.snd run
    rw [store]
    constructor
    · intro f data due
      have listed : (f, data) ∈ todo :=
        List.mem_filter.mpr ⟨Collection.mem_docs.mpr due.found, decide_eq_true due.notEnded⟩
      exact ended (f, data) listed due.expired
    · intro f data due e listed accepted
      exact absurd accepted (nobody f data due e listed)

/-- Every user that a fiesta names exists. -/
def Store.ParticipantsExist (s : Store) : Prop :=
  ∀ doc ∈ s.fiestas.docs, (s.user doc.2.hostRef).isSome ∧
    ∀ e ∈ doc.2.participants, (s.user e.fiestaRef).isSome ∧
      ∀ v ∈ e.duoRef, (s.user v).isSome

instance (s : Store) : Decidable s.ParticipantsExist :=
  inferInstanceAs (Decidable (∀ doc ∈ s.fiestas.docs, _))

/-- The two participants of the first fiesta end the run: they are not asked, and the second
fiesta is not ended. -/
theorem twoOver_not_settled :
    twoOver.ParticipantsExist ∧
      ((checkEndFiesta.exec twoOver).2.fiesta "g").map Fiesta.isEnd = some (.value false) ∧
      ¬ Settled twoOver (checkEndFiesta.exec twoOver).2 := by
  refine ⟨by decide, by decide, ?_⟩
  intro settled
  have due : twoOver.Due "g" (overFiesta []) := ⟨by decide, by decide, by decide⟩
  have ended := settled.ended "g" (overFiesta []) due
  revert ended
  decide

end TwoGather
