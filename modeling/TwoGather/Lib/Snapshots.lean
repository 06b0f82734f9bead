import TwoGather.Lib.Docs

/-!
# Listeners and what they tell

A listener gets snapshots of a collection, each with the changes since the one before. A
client that applies the changes keeps a replica. Each key has at most one change, the one
that its documents in the two snapshots call for (`filter_docChanges`); so where a change
affects the entry of its own key alone, the replica can be followed key by key (`entry_foldl`).
-/

namespace Snapshots

open Docs

variable {κ δ : Type}

/-- A change of one document. -/
inductive Change (κ δ : Type)
  | added (k : κ) (d : δ)
  | modified (k : κ) (d : δ)
  | removed (k : κ)
  deriving DecidableEq

def Change.key : Change κ δ → κ
  | .added k _ | .modified k _ | .removed k => k

variable [DecidableEq κ] [DecidableEq δ]

/-- What changes of a document, if anything. -/
def change (k : κ) : Option δ → Option δ → Option (Change κ δ)
  | none, none => none
  | none, some d => some (.added k d)
  | some _, none => some (.removed k)
  | some e, some d => if e = d then none else some (.modified k d)

/-- The changes from one snapshot to the next: first the removals, then the others in the order
of the new one. -/
def docChanges (old new : Collection κ δ) : List (Change κ δ) :=
  (old.docs.filterMap fun doc =>
      if (new.get? doc.1).isNone then some (.removed doc.1) else none) ++
    new.docs.filterMap fun doc => change doc.1 (old.get? doc.1) (some doc.2)

omit [DecidableEq δ] in
/-- Where each document yields only things under its own key, those under `k` come from the
document under `k`. -/
theorem filter_filterMap {γ : Type} (key : γ → κ) {f : κ × δ → Option γ}
    (own : ∀ doc x, f doc = some x → key x = doc.1) (c : Collection κ δ) (k : κ) :
    (c.docs.filterMap f).filter (key · = k) = ((c.get? k).bind fun d => f (k, d)).toList := by
  obtain ⟨docs, nodup⟩ := c
  simp only [Collection.get?]
  induction docs with
  | nil => rfl
  | cons doc docs ih =>
      rw [List.map_cons, List.nodup_cons] at nodup
      have rest := ih nodup.2
      by_cases same : doc.1 = k
      · have absent : (docs.find? fun doc => doc.1 = k) = none := by
          refine List.find?_eq_none.mpr fun other listed eq => nodup.1 ?_
          exact List.mem_map.mpr ⟨other, listed, (of_decide_eq_true eq).trans same.symm⟩
        rw [absent] at rest
        rw [List.find?_cons, decide_eq_true same]
        obtain ⟨j, d⟩ := doc
        obtain rfl : j = k := same
        cases here : f (j, d) with
        | none =>
            rw [List.filterMap_cons_none here, rest]
            exact congrArg Option.toList here.symm
        | some x =>
            rw [List.filterMap_cons_some here, List.filter_cons, if_pos, rest]
            · exact congrArg Option.toList here.symm
            · exact decide_eq_true (own _ _ here)
      · rw [List.find?_cons, decide_eq_false same]
        cases here : f doc with
        | none =>
            rw [List.filterMap_cons_none here, rest]
        | some x =>
            rw [List.filterMap_cons_some here, List.filter_cons, if_neg, rest]
            simpa [own _ _ here] using same

omit [DecidableEq κ] in
theorem key_change {k : κ} {old new : Option δ} {x : Change κ δ}
    (changed : change k old new = some x) : x.key = k := by
  unfold change at changed
  split at changed
  · cases changed
  · cases changed
    rfl
  · cases changed
    rfl
  · split at changed
    · cases changed
    · cases changed
      rfl

/-- Each key has at most one change, the one from its old to its new document. -/
theorem filter_docChanges (old new : Collection κ δ) (k : κ) :
    (docChanges old new).filter (·.key = k) = (change k (old.get? k) (new.get? k)).toList := by
  unfold docChanges
  rw [List.filter_append, filter_filterMap, filter_filterMap]
  · cases before : old.get? k with
    | none =>
        cases after : new.get? k with
        | none => rfl
        | some d =>
            simp only [Option.bind_none, Option.bind_some, before]
            rfl
    | some e =>
        cases after : new.get? k with
        | none =>
            simp only [Option.bind_none, Option.bind_some, after]
            rfl
        | some d =>
            simp only [Option.bind_some, before, after]
            rfl
  · exact fun doc x changed => key_change changed
  · intro doc x removed
    split at removed
    · cases removed
      rfl
    · cases removed

/-- A document that only the new snapshot has is reported as new. -/
theorem added_mem {old new : Collection κ δ} {k : κ} {d : δ} (before : old.get? k = none)
    (after : new.get? k = some d) : .added k d ∈ docChanges old new := by
  have listed : .added k d ∈ (docChanges old new).filter (·.key = k) := by
    rw [filter_docChanges, before, after]
    exact List.mem_singleton.mpr rfl
  exact (List.mem_filter.mp listed).1

/-- What is reported as new is in the new snapshot. -/
theorem get?_of_added {old new : Collection κ δ} {k : κ} {d : δ}
    (listed : .added k d ∈ docChanges old new) : new.get? k = some d := by
  have kept : .added k d ∈ (docChanges old new).filter (·.key = k) :=
    List.mem_filter.mpr ⟨listed, decide_eq_true rfl⟩
  rw [filter_docChanges, Option.mem_toList] at kept
  unfold change at kept
  split at kept
  · cases kept
  · cases kept
    assumption
  · cases kept
  · split at kept
    · cases kept
    · cases kept

/-! ## Replicas -/

section Replicas

variable {σ η : Type} {entry : σ → κ → Option η} {apply : σ → Change κ δ → σ}
  {effect : Change κ δ → Option η → Option η}

omit [DecidableEq δ] in
/-- The entry of a key after all changes. -/
theorem entry_foldl
    (alone : ∀ s c k, entry (apply s c) k = if c.key = k then effect c (entry s k) else entry s k)
    (changes : List (Change κ δ)) (s : σ) (k : κ) :
    entry (changes.foldl apply s) k =
      (changes.filter (·.key = k)).foldl (fun o c => effect c o) (entry s k) := by
  induction changes generalizing s with
  | nil => rfl
  | cons c changes ih =>
      rw [List.foldl_cons, ih, alone]
      by_cases same : c.key = k
      · rw [if_pos same, List.filter_cons, if_pos (decide_eq_true same), List.foldl_cons]
      · rw [if_neg same, List.filter_cons, if_neg (by simpa using same)]

/-- The entry of a key after the changes from one snapshot to the next. -/
theorem entry_docChanges
    (alone : ∀ s c k, entry (apply s c) k = if c.key = k then effect c (entry s k) else entry s k)
    (old new : Collection κ δ) (s : σ) (k : κ) :
    entry ((docChanges old new).foldl apply s) k =
      match change k (old.get? k) (new.get? k) with
      | none => entry s k
      | some c => effect c (entry s k) := by
  rw [entry_foldl alone, filter_docChanges]
  cases change k (old.get? k) (new.get? k) with
  | none => rfl
  | some c => rfl

end Replicas

end Snapshots
