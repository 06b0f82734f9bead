import Mathlib.Data.List.Perm.Basic
import TwoGather.Lib.Snapshots

/-!
# Lists that follow a collection

A client keeps the models of the documents of a collection in a list. It appends the model
of a document that is new, replaces the first entry with the id of one that is modified and
removes the entries with the id of one that is gone. `Mirrors` says that the list has exactly
the models of the documents, in any order; each of the three changes keeps it.

Reading a model may fail, so a model is optional; `Keyed` says that what is read under a key
has this key as its id.
-/

namespace Replicas

open Docs Snapshots

variable {κ δ η : Type} [DecidableEq κ]

/-- The collection without documents. -/
def noDocs : Collection κ δ :=
  ⟨[], List.nodup_nil⟩

/-- The collection after a change. -/
def applied (c : Collection κ δ) : Change κ δ → Collection κ δ
  | .added k d | .modified k d => c.set k d
  | .removed k => c.delete k

/-- The change may be reported of this collection. -/
def Reportable (c : Collection κ δ) : Change κ δ → Prop
  | .added k _ => c.get? k = none
  | .modified k _ | .removed k => (c.get? k).isSome

instance (c : Collection κ δ) : (change : Change κ δ) → Decidable (Reportable c change)
  | .added _ _ => decidable_of_iff _ Option.isNone_iff_eq_none
  | .modified _ _ | .removed _ => inferInstanceAs (Decidable (_ = true))

/-- The list has the models of the documents, one for each. -/
def Mirrors (read : κ → δ → Option η) (c : Collection κ δ) (l : List η) : Prop :=
  (l.map some).Perm (c.docs.map fun doc => read doc.1 doc.2)

/-- What is read under a key has this id. -/
def Keyed (read : κ → δ → Option η) (idOf : η → Option κ) : Prop :=
  ∀ k d x, read k d = some x → idOf x = some k

/-- Replace the first entry with the id `k`, if there is one. -/
def replace? (idOf : η → Option κ) (k : κ) (x : η) (l : List η) : Option (List η) :=
  (l.findIdx? fun y => idOf y = some k).map fun i => l.set i x

/-- Remove the entries with the id `k`. -/
def removeWhere (idOf : η → Option κ) (k : κ) (l : List η) : List η :=
  l.filter fun y => idOf y ≠ some k

/-! ## Documents of a collection -/

section Docs

variable {c : Collection κ δ} {k : κ} {d e : δ}

/-- The document under `k` and the others. -/
theorem docs_perm (found : c.get? k = some d) : c.docs.Perm ((k, d) :: (c.delete k).docs) := by
  have absent : (k, d) ∉ (c.delete k).docs := by
    rw [Collection.mem_docs, Collection.get?_delete, if_pos rfl]
    exact nofun
  refine (List.perm_ext_iff_of_nodup c.nodup.of_map
    (List.nodup_cons.mpr ⟨absent, (c.delete k).nodup.of_map⟩)).mpr fun doc => ?_
  obtain ⟨j, e⟩ := doc
  rw [List.mem_cons, Collection.mem_docs, Collection.mem_docs, Collection.get?_delete,
    Prod.mk.injEq]
  by_cases same : j = k
  · subst same
    simp [found, eq_comm]
  · simp [same]

theorem delete_of_absent (absent : c.get? k = none) : (c.delete k).docs = c.docs := by
  refine List.filter_eq_self.mpr fun doc listed => decide_eq_true fun same => ?_
  have found : c.get? k = some doc.2 := Collection.mem_docs.mp (same ▸ listed)
  rw [absent] at found
  cases found

theorem docs_set_perm (c : Collection κ δ) (k : κ) (d : δ) :
    (c.set k d).docs.Perm ((k, d) :: (c.delete k).docs) :=
  List.perm_append_singleton (k, d) (c.delete k).docs

end Docs

/-! ## The three changes -/

section Mirrors

variable {read : κ → δ → Option η} {idOf : η → Option κ} {c : Collection κ δ} {l : List η} {k : κ}
  {d : δ} {x : η}

omit [DecidableEq κ] in
theorem mirrors_nil : Mirrors read (noDocs : Collection κ δ) [] := List.Perm.nil

omit [DecidableEq κ] in
/-- The order of the list does not matter. -/
theorem Mirrors.perm {l' : List η} (mirrors : Mirrors read c l) (perm : l'.Perm l) :
    Mirrors read c l' :=
  (perm.map some).trans mirrors

theorem Mirrors.added (mirrors : Mirrors read c l) (absent : c.get? k = none)
    (model : read k d = some x) : Mirrors read (c.set k d) (l ++ [x]) := by
  unfold Mirrors Collection.set
  rw [List.map_append, List.map_append, delete_of_absent absent]
  refine mirrors.append ?_
  rw [List.map_singleton, List.map_singleton, model]

theorem Mirrors.removed (keyed : Keyed read idOf) (all : ∀ doc ∈ c.docs, (read doc.1 doc.2).isSome)
    (mirrors : Mirrors read c l) : Mirrors read (c.delete k) (removeWhere idOf k l) := by
  have filtered := mirrors.filter fun o => o.bind idOf ≠ some k
  rw [List.filter_map, List.filter_map] at filtered
  refine filtered.trans (.of_eq ?_)
  congr 1
  refine List.filter_congr fun doc listed => ?_
  obtain ⟨y, model⟩ := Option.isSome_iff_exists.mp (all doc listed)
  simp only [Function.comp_apply, model, Option.bind_some, keyed _ _ _ model, ne_eq,
    Option.some.injEq]

/-- The entry of a document. -/
theorem Mirrors.mem_iff (mirrors : Mirrors read c l) {y : η} :
    y ∈ l ↔ ∃ k d, c.get? k = some d ∧ read k d = some y := by
  have same : some y ∈ l.map some ↔ some y ∈ c.docs.map fun doc => read doc.1 doc.2 :=
    List.Perm.mem_iff mirrors
  simp only [List.mem_map, Option.some.injEq, exists_eq_right, Prod.exists,
    Collection.mem_docs] at same
  exact same

/-- The list has an entry with the id of every document that can be read. -/
theorem Mirrors.replace (keyed : Keyed read idOf) {e : δ} (mirrors : Mirrors read c l)
    (found : c.get? k = some e) (old : (read k e).isSome) (model : read k d = some x) :
    ∃ l', replace? idOf k x l = some l' ∧ Mirrors read (c.set k d) l' := by
  obtain ⟨y, here⟩ := Option.isSome_iff_exists.mp old
  have listed : y ∈ l := mirrors.mem_iff.mpr ⟨k, e, found, here⟩
  cases index : l.findIdx? fun y => idOf y = some k with
  | none =>
      have never := List.findIdx?_eq_none_iff.mp index y listed
      rw [keyed _ _ _ here, decide_eq_false_iff_not] at never
      exact absurd rfl never
  | some i =>
      obtain ⟨inside, id_eq, -⟩ := List.findIdx?_eq_some_iff_getElem.mp index
      have id_eq := of_decide_eq_true id_eq
      -- the entry that is replaced is the one of the document under `k`
      obtain ⟨j, e', found', read'⟩ := mirrors.mem_iff.mp (List.getElem_mem inside)
      obtain rfl : j = k := Option.some.inj ((keyed _ _ _ read').symm.trans id_eq)
      obtain rfl : e = e' := Option.some.inj (found.symm.trans found')
      have front := (List.getElem_cons_eraseIdx_perm inside).map some
      rw [List.map_cons, ← read'] at front
      have rest : ((l.eraseIdx i).map some).Perm
          ((c.delete j).docs.map fun doc => read doc.1 doc.2) :=
        ((front.trans mirrors).trans ((docs_perm found).map _)).cons_inv
      refine ⟨l.set i x, by rw [replace?, index, Option.map_some], ?_⟩
      have replaced := (List.set_perm_cons_eraseIdx inside x).map some
      refine replaced.trans ?_
      refine .trans ?_ ((docs_set_perm c j d).map fun doc => read doc.1 doc.2).symm
      rw [List.map_cons, List.map_cons, model]
      exact rest.cons _

end Mirrors

end Replicas
