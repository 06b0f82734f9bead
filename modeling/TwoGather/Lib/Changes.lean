import TwoGather.Lib.Replicas
import TwoGather.Lib.Runs

/-!
# The changes between two snapshots

The changes that a listener hears of lead from the collection of the last snapshot to that of
the next one (`docs_run_docChanges`), and each of them can be reported when its turn comes
(`along_docChanges`). So a client that follows single changes follows the snapshots.

`rename` is a collection under other keys and with other documents, one for one; the changes
are the same there.
-/

namespace Replicas

open Docs Requests Snapshots

variable {κ δ κ' δ' : Type} [DecidableEq κ]

/-! ## One snapshot after the other -/

/-- The document that a change leaves. -/
def leaves : Change κ δ → Option δ
  | .added _ d | .modified _ d => some d
  | .removed _ => none

section Snapshots

theorem get?_applied (c : Collection κ δ) (change : Change κ δ) (k : κ) :
    (applied c change).get? k = if change.key = k then leaves change else c.get? k := by
  have turned (j : κ) (d e : Option δ) : (if k = j then d else e) = if j = k then d else e :=
    ite_congr (propext eq_comm) (fun _ => rfl) fun _ => rfl
  cases change with
  | added j d => exact (Collection.get?_set c j k d).trans (turned j _ _)
  | modified j d => exact (Collection.get?_set c j k d).trans (turned j _ _)
  | removed j => exact (Collection.get?_delete c j k).trans (turned j _ _)

/-- A change under another key does not stand in the way of one. -/
theorem reportable_applied {c : Collection κ δ} {first change : Change κ δ}
    (apart : first.key ≠ change.key) (reportable : Reportable c change) :
    Reportable (applied c first) change := by
  have same : (applied c first).get? change.key = c.get? change.key :=
    (get?_applied c first change.key).trans (if_neg apart)
  cases change with
  | added k d => exact same.trans reportable
  | modified k d => exact (congrArg Option.isSome same).trans reportable
  | removed k => exact (congrArg Option.isSome same).trans reportable

/-- Changes of different documents can be reported one after the other. -/
theorem along_of_distinct {changes : List (Change κ δ)}
    (distinct : (changes.map Change.key).Nodup) {c : Collection κ δ}
    (reportable : ∀ change ∈ changes, Reportable c change) :
    Along applied Reportable c changes := by
  induction changes generalizing c with
  | nil => trivial
  | cons first changes ih =>
      rw [List.map_cons, List.nodup_cons] at distinct
      refine ⟨reportable first List.mem_cons_self, ih distinct.2 fun change listed => ?_⟩
      refine reportable_applied ?_ (reportable change (List.mem_cons_of_mem _ listed))
      exact fun same => distinct.1 (same ▸ List.mem_map_of_mem listed)

variable [DecidableEq δ]

theorem nodup_docChanges (old new : Collection κ δ) :
    ((docChanges old new).map Change.key).Nodup := by
  refine List.nodup_iff_count_le_one.mpr fun k => ?_
  have single : ((docChanges old new).filter (·.key = k)).length ≤ 1 := by
    rw [filter_docChanges]
    cases change k (old.get? k) (new.get? k) with
    | none => exact Nat.zero_le 1
    | some _ => exact Nat.le_refl 1
  rw [List.count, List.countP_map]
  refine le_trans (le_of_eq ?_) single
  rw [← List.countP_eq_length_filter]
  exact List.countP_congr fun change _ => by simp

theorem reportable_docChanges {old new : Collection κ δ} {first : Change κ δ}
    (listed : first ∈ docChanges old new) : Reportable old first := by
  have kept : first ∈ (docChanges old new).filter (·.key = first.key) :=
    List.mem_filter.mpr ⟨listed, decide_eq_true rfl⟩
  rw [filter_docChanges, Option.mem_toList] at kept
  generalize first.key = k at kept
  cases before : old.get? k with
  | none =>
      cases after : new.get? k with
      | none =>
          rw [before, after] at kept
          cases kept
      | some d =>
          rw [before, after] at kept
          cases kept
          exact before
  | some e =>
      have there : (old.get? k).isSome = true := congrArg Option.isSome before
      cases after : new.get? k with
      | none =>
          rw [before, after] at kept
          cases kept
          exact there
      | some d =>
          rw [before, after] at kept
          by_cases same : e = d
          · have none : change k (some e) (some d) = none := if_pos same
            cases none.symm.trans kept
          · have changed : change k (some e) (some d) = some (.modified k d) := if_neg same
            cases changed.symm.trans kept
            exact there

theorem along_docChanges (old new : Collection κ δ) :
    Along applied Reportable old (docChanges old new) :=
  along_of_distinct (nodup_docChanges old new) fun _ listed => reportable_docChanges listed

theorem get?_run_docChanges (old new : Collection κ δ) (k : κ) :
    (run applied old (docChanges old new)).get? k = new.get? k := by
  let effect (change : Change κ δ) (_ : Option δ) : Option δ := leaves change
  have alone (c : Collection κ δ) (change : Change κ δ) (k : κ) : (applied c change).get? k =
      if change.key = k then effect change (c.get? k) else c.get? k := get?_applied c change k
  refine (entry_docChanges alone old new old k).trans ?_
  cases old.get? k with
  | none =>
      cases new.get? k with
      | none => rfl
      | some d => rfl
  | some e =>
      cases new.get? k with
      | none => rfl
      | some d =>
          by_cases same : e = d
          · have none : change k (some e) (some d) = none := if_pos same
            rw [none, same]
          · have changed : change k (some e) (some d) = some (.modified k d) := if_neg same
            rw [changed]
            rfl

/-- After the changes the documents are those of the new snapshot. -/
theorem docs_run_docChanges (old new : Collection κ δ) :
    (run applied old (docChanges old new)).docs.Perm new.docs := by
  refine (List.perm_ext_iff_of_nodup (Collection.nodup _).of_map new.nodup.of_map).mpr ?_
  rintro ⟨k, d⟩
  rw [Collection.mem_docs, Collection.mem_docs, get?_run_docChanges]

end Snapshots

/-! ## The same changes under other names -/

section Rename

variable [DecidableEq κ'] {g : κ → κ'} (inj : Function.Injective g) {f : δ → δ'}

omit [DecidableEq κ] [DecidableEq κ'] in
/-- The collection with the keys and the documents under other names. -/
def rename (g : κ → κ') (inj : Function.Injective g) (f : δ → δ') (c : Collection κ δ) :
    Collection κ' δ' where
  docs := c.docs.map fun doc => (g doc.1, f doc.2)
  nodup := by
    rw [List.map_map]
    have keys : (Prod.fst ∘ fun doc : κ × δ => (g doc.1, f doc.2)) = g ∘ Prod.fst := rfl
    rw [keys, ← List.map_map]
    exact c.nodup.map inj

def renameChange (g : κ → κ') (f : δ → δ') : Change κ δ → Change κ' δ'
  | .added k d => .added (g k) (f d)
  | .modified k d => .modified (g k) (f d)
  | .removed k => .removed (g k)

omit [DecidableEq κ] [DecidableEq κ'] in
/-- A document that is told under other names is one of the old ones. -/
theorem renamed_of_told {changes : List (Change κ δ)} {id : κ'} {data : δ'}
    (told : .added id data ∈ changes.map (renameChange g f) ∨
      .modified id data ∈ changes.map (renameChange g f)) : ∃ d, f d = data := by
  rcases told with listed | listed
  · rcases List.mem_map.mp listed with ⟨change, -, same⟩
    cases change with
    | added k d => exact ⟨d, (Change.added.inj same).2⟩
    | modified k d => cases same
    | removed k => cases same
  · rcases List.mem_map.mp listed with ⟨change, -, same⟩
    cases change with
    | added k d => cases same
    | modified k d => exact ⟨d, (Change.modified.inj same).2⟩
    | removed k => cases same

theorem get?_rename (c : Collection κ δ) (k : κ) :
    (rename g inj f c).get? (g k) = (c.get? k).map f := by
  refine Option.ext fun e => ?_
  rw [Option.map_eq_some_iff]
  refine (Collection.mem_docs.symm.trans List.mem_map).trans ?_
  constructor
  · rintro ⟨⟨j, d⟩, listed, same⟩
    cases inj (congrArg Prod.fst same)
    exact ⟨d, Collection.mem_docs.mp listed, congrArg Prod.snd same⟩
  · rintro ⟨d, found, rfl⟩
    exact ⟨(k, d), Collection.mem_docs.mpr found, rfl⟩

theorem delete_rename (c : Collection κ δ) (k : κ) :
    ((rename g inj f c).delete (g k)).docs =
      (c.delete k).docs.map fun doc => (g doc.1, f doc.2) := by
  refine List.filter_map.trans (congrArg (List.map _) (List.filter_congr fun doc _ => ?_))
  exact decide_eq_decide.mpr inj.ne_iff

theorem docs_applied_rename (c : Collection κ δ) (change : Change κ δ) :
    (applied (rename g inj f c) (renameChange g f change)).docs =
      (applied c change).docs.map fun doc => (g doc.1, f doc.2) := by
  have set (k : κ) (d : δ) : ((rename g inj f c).set (g k) (f d)).docs =
      (c.set k d).docs.map fun doc => (g doc.1, f doc.2) := by
    have renamed : ((rename g inj f c).set (g k) (f d)).docs =
        ((rename g inj f c).delete (g k)).docs ++ [(g k, f d)] := rfl
    have whole : (c.set k d).docs = (c.delete k).docs ++ [(k, d)] := rfl
    rw [renamed, whole, delete_rename, List.map_append, List.map_singleton]
  cases change with
  | added k d => exact set k d
  | modified k d => exact set k d
  | removed k => exact delete_rename inj c k

theorem applied_rename (c : Collection κ δ) (change : Change κ δ) :
    applied (rename g inj f c) (renameChange g f change) = rename g inj f (applied c change) := by
  have docs := docs_applied_rename inj (f := f) c change
  generalize applied (rename g inj f c) (renameChange g f change) = renamed at docs
  rcases renamed with ⟨list, nodup⟩
  cases docs
  rfl

theorem reportable_rename {c : Collection κ δ} {change : Change κ δ}
    (reportable : Reportable c change) :
    Reportable (rename g inj f c) (renameChange g f change) := by
  cases change with
  | added k d => exact (get?_rename inj c k).trans (congrArg (Option.map f) reportable)
  | modified k d =>
      exact (congrArg Option.isSome (get?_rename inj c k)).trans
        (Option.isSome_map.trans reportable)
  | removed k =>
      exact (congrArg Option.isSome (get?_rename inj c k)).trans
        (Option.isSome_map.trans reportable)

theorem run_rename (c : Collection κ δ) (changes : List (Change κ δ)) :
    run applied (rename g inj f c) (changes.map (renameChange g f)) =
      rename g inj f (run applied c changes) := by
  induction changes generalizing c with
  | nil => rfl
  | cons change changes ih => rw [List.map_cons, run_cons, run_cons, applied_rename, ih]

theorem along_rename {c : Collection κ δ} {changes : List (Change κ δ)}
    (along : Along applied Reportable c changes) :
    Along applied Reportable (rename g inj f c) (changes.map (renameChange g f)) := by
  induction changes generalizing c with
  | nil => trivial
  | cons change changes ih =>
      refine ⟨reportable_rename inj along.1, ?_⟩
      rw [applied_rename]
      exact ih along.2

end Rename

end Replicas
