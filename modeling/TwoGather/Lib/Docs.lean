import Mathlib.Data.List.Nodup

/-!
# Documents, fields and collections

The data model of a document store, with no particular document in it.

* `Stored α`: what reading a field gives, which may be missing (`undefined`), stored
  as `null`, or a value.
* `arrayUnion`, `arrayRemove`: the two element-wise array writes, which compare
  whole elements.
* `Collection κ δ`: documents under distinct keys, in the order a query returns
  them. `AutoCollection δ` is a collection whose keys the store itself draws, so
  that no key is given twice, not even after its document is deleted.
-/

namespace Docs

/-! ## Fields -/

/-- The content of a field as a client reads it. -/
inductive Stored (α : Type) : Type
  | undefined
  | null
  | value (a : α)
  deriving DecidableEq, Repr

namespace Stored

variable {α : Type}

/-- The value, if there is one. -/
def get? : Stored α → Option α
  | .value a => some a
  | _ => none

def isUndefined : Stored α → Bool
  | .undefined => true
  | _ => false

theorem isUndefined_iff {x : Stored α} : x.isUndefined = true ↔ x = .undefined := by
  cases x with
  | undefined => exact iff_of_true rfl rfl
  | null => exact iff_of_false Bool.false_ne_true (by rintro ⟨⟩)
  | value a => exact iff_of_false Bool.false_ne_true (by rintro ⟨⟩)

/-- A nullable value as a client writes it: an absent one is written as `null`. -/
def ofOption : Option α → Stored α
  | some a => .value a
  | none => .null

/-- A nullable value that is left out of the written map when it is absent. -/
def ofOptional : Option α → Stored α
  | some a => .value a
  | none => .undefined

@[simp] theorem get?_ofOption (o : Option α) : (ofOption o).get? = o := by
  cases o with
  | none => rfl
  | some a => rfl

@[simp] theorem get?_ofOptional (o : Option α) : (ofOptional o).get? = o := by
  cases o with
  | none => rfl
  | some a => rfl

@[simp] theorem get?_undefined : (undefined : Stored α).get? = none := rfl

@[simp] theorem get?_null : (null : Stored α).get? = none := rfl

@[simp] theorem get?_value (a : α) : (value a).get? = some a := rfl

theorem get?_eq_some {f : Stored α} {a : α} : f.get? = some a ↔ f = .value a := by
  cases f with
  | undefined => simp
  | null => simp
  | value b => simp

/-- The elements of an array field; a missing or `null` one has none. -/
def elems : Stored (List α) → List α
  | .value xs => xs
  | _ => []

@[simp] theorem elems_value (xs : List α) : (value xs).elems = xs := rfl

@[simp] theorem elems_undefined : (undefined : Stored (List α)).elems = [] := rfl

@[simp] theorem elems_null : (null : Stored (List α)).elems = [] := rfl

/-- A missing field as a client reads it whose language has `null` only. -/
def orNull : Stored α → Stored α
  | .undefined => .null
  | f => f

end Stored

/-! ## Element-wise array writes -/

section Arrays

variable {α : Type} [DecidableEq α]

/-- Append the element unless an equal one is there. -/
def arrayUnion (xs : List α) (x : α) : List α :=
  if x ∈ xs then xs else xs ++ [x]

/-- Remove every element equal to the given one. -/
def arrayRemove (xs : List α) (x : α) : List α :=
  xs.filter (· ≠ x)

@[simp] theorem mem_arrayUnion {xs : List α} {x y : α} :
    y ∈ arrayUnion xs x ↔ y ∈ xs ∨ y = x := by
  unfold arrayUnion
  split
  case isTrue present =>
    constructor
    · exact .inl
    · intro either
      rcases either with member | rfl
      · exact member
      · exact present
  case isFalse absent => simp

@[simp] theorem mem_arrayRemove {xs : List α} {x y : α} :
    y ∈ arrayRemove xs x ↔ y ∈ xs ∧ y ≠ x := by
  simp [arrayRemove]

/-- The elements of an array after the union with a list. -/
theorem mem_foldl_arrayUnion {xs ys : List α} {y : α} :
    y ∈ ys.foldl arrayUnion xs ↔ y ∈ xs ∨ y ∈ ys := by
  induction ys generalizing xs with
  | nil => simp
  | cons x ys ih => rw [List.foldl_cons, ih, mem_arrayUnion, List.mem_cons, or_assoc]

/-- The elements of an array after the removal of a list. -/
theorem mem_foldl_arrayRemove {xs ys : List α} {y : α} :
    y ∈ ys.foldl arrayRemove xs ↔ y ∈ xs ∧ y ∉ ys := by
  induction ys generalizing xs with
  | nil => simp
  | cons x ys ih => rw [List.foldl_cons, ih, mem_arrayRemove, List.mem_cons, not_or, and_assoc]

/-- `arrayUnion` makes no duplicates. -/
theorem nodup_arrayUnion {xs : List α} (nodup : xs.Nodup) (x : α) : (arrayUnion xs x).Nodup := by
  unfold arrayUnion
  split
  case isTrue => exact nodup
  case isFalse absent => exact List.nodup_append.mpr ⟨nodup, by simp, by simp; grind⟩

/-- `arrayUnion` changes nothing exactly if the element is there. -/
theorem arrayUnion_eq_self {xs : List α} {x : α} : arrayUnion xs x = xs ↔ x ∈ xs := by
  unfold arrayUnion
  split
  case isTrue present => simp [present]
  case isFalse absent => simp [absent]

/-- `arrayRemove` changes nothing exactly if the element is not there. -/
theorem arrayRemove_eq_self {xs : List α} {x : α} : arrayRemove xs x = xs ↔ x ∉ xs := by
  unfold arrayRemove
  rw [List.filter_eq_self]
  constructor
  · intro kept present
    simpa using kept x present
  · intro absent y member
    simpa using fun same : y = x => absent (same ▸ member)

/-- Taking out an element that was just put in. -/
theorem arrayRemove_arrayUnion (xs : List α) (x : α) :
    arrayRemove (arrayUnion xs x) x = arrayRemove xs x := by
  unfold arrayUnion
  split
  · rfl
  · simp [arrayRemove, List.filter_append]

/-- A class that has at most the element itself has exactly it after a union. -/
theorem filter_arrayUnion_eq_singleton {xs : List α} {x : α} {keep : α → Bool}
    (kept : keep x = true) (atMost : xs.filter keep = [] ∨ xs.filter keep = [x]) :
    (arrayUnion xs x).filter keep = [x] := by
  unfold arrayUnion
  split
  case isTrue present =>
    have listed : x ∈ xs.filter keep := List.mem_filter.mpr ⟨present, kept⟩
    rcases atMost with none | one
    · rw [none] at listed
      cases listed
    · exact one
  case isFalse absent =>
    have none : xs.filter keep = [] := by
      refine atMost.resolve_right fun one => absent ?_
      exact (List.mem_filter.mp (one ▸ List.mem_singleton_self x)).1
    rw [List.filter_append, none, List.filter_cons_of_pos kept]
    rfl

/-- `FieldValue.arrayUnion(x)`: a field that is no array is overwritten. -/
def Stored.union (f : Stored (List α)) (x : α) : Stored (List α) :=
  .value (arrayUnion f.elems x)

/-- `FieldValue.arrayRemove(x)`: a field that is no array is overwritten. -/
def Stored.remove (f : Stored (List α)) (x : α) : Stored (List α) :=
  .value (arrayRemove f.elems x)

/-- The same for a field that holds an array. -/
theorem Stored.union_eq_self {f : Stored (List α)} {x : α} : f.union x = f ↔ x ∈ f.elems := by
  cases f with
  | undefined => simp [Stored.union]
  | null => simp [Stored.union]
  | value xs => simp [Stored.union, arrayUnion_eq_self]

@[simp] theorem Stored.elems_union (f : Stored (List α)) (x : α) :
    (f.union x).elems = arrayUnion f.elems x := rfl

@[simp] theorem Stored.elems_remove (f : Stored (List α)) (x : α) :
    (f.remove x).elems = arrayRemove f.elems x := rfl

end Arrays

/-! ## Collections -/

/-- Documents under distinct keys, in the order in which queries return them. -/
structure Collection (κ δ : Type) where
  docs : List (κ × δ)
  nodup : (docs.map Prod.fst).Nodup
  deriving DecidableEq

namespace Collection

variable {κ δ : Type}

/-- The same change in every document. -/
def map (c : Collection κ δ) (f : δ → δ) : Collection κ δ where
  docs := c.docs.map fun doc => (doc.1, f doc.2)
  nodup := by
    rw [List.map_map]
    exact c.nodup

theorem map_map (c : Collection κ δ) (f g : δ → δ) : (c.map f).map g = c.map fun d => g (f d) := by
  unfold map
  congr 1
  exact List.map_map

variable [DecidableEq κ]

/-- The document under `k`, if it exists. -/
def get? (c : Collection κ δ) (k : κ) : Option δ :=
  (c.docs.find? fun doc => doc.1 = k).map Prod.snd

/-- Change the document under `k`; nothing happens if there is none. -/
def update (c : Collection κ δ) (k : κ) (f : δ → δ) : Collection κ δ where
  docs := c.docs.map fun doc => if doc.1 = k then (doc.1, f doc.2) else doc
  nodup := by
    have keys : (Prod.fst ∘ fun doc : κ × δ => if doc.1 = k then (doc.1, f doc.2) else doc) =
        Prod.fst := by
      funext doc
      simp only [Function.comp_apply]
      split <;> rfl
    rw [List.map_map, keys]
    exact c.nodup

/-- Remove the document under `k`. -/
def delete (c : Collection κ δ) (k : κ) : Collection κ δ where
  docs := c.docs.filter fun doc => doc.1 ≠ k
  nodup := c.nodup.sublist (List.filter_sublist.map _)

/-- Put a document under `k`, over the one that may be there. -/
def set (c : Collection κ δ) (k : κ) (d : δ) : Collection κ δ where
  docs := (c.delete k).docs ++ [(k, d)]
  nodup := by
    rw [List.map_append, List.nodup_append]
    refine ⟨(c.delete k).nodup, by simp, ?_⟩
    intro a member b isNew
    obtain ⟨doc, kept, rfl⟩ := List.mem_map.mp member
    rw [List.map_singleton, List.mem_singleton] at isNew
    subst isNew
    simpa [delete] using (List.mem_filter.mp kept).2

/-- A document is listed exactly when it is the one read under its key. -/
theorem mem_docs {c : Collection κ δ} {k : κ} {d : δ} :
    (k, d) ∈ c.docs ↔ c.get? k = some d := by
  obtain ⟨docs, nodup⟩ := c
  simp only [get?]
  induction docs with
  | nil => simp
  | cons doc docs ih =>
      rw [List.map_cons, List.nodup_cons] at nodup
      rw [List.mem_cons, List.find?_cons]
      by_cases same : doc.1 = k
      · have absent : (k, d) ∉ docs := fun member =>
          nodup.1 (same ▸ List.mem_map.mpr ⟨(k, d), member, rfl⟩)
        simp only [absent, or_false, same, decide_true, Option.map_some, Option.some.injEq]
        constructor
        · intro eq
          rw [← eq]
        · intro eq
          subst eq
          rw [← same]
      · have differ : (k, d) ≠ doc := fun eq => same (eq ▸ rfl)
        simp only [differ, false_or, same, decide_false]
        exact ih nodup.2

/-- There is no document under a key exactly if none is listed with it. -/
theorem get?_eq_none {c : Collection κ δ} {k : κ} :
    c.get? k = none ↔ ∀ d, (k, d) ∉ c.docs := by
  rw [Option.eq_none_iff_forall_ne_some]
  exact forall_congr' fun d => not_congr mem_docs.symm

@[simp] theorem get?_update (c : Collection κ δ) (k j : κ) (f : δ → δ) :
    (c.update k f).get? j = if j = k then (c.get? j).map f else c.get? j := by
  obtain ⟨docs, nodup⟩ := c
  simp only [get?, update]
  clear nodup
  induction docs with
  | nil => simp
  | cons doc docs ih =>
      rw [List.map_cons, List.find?_cons, List.find?_cons]
      by_cases same : doc.1 = k
      · by_cases here : k = j
        · simp [same, here]
        · simpa only [same, here, ↓reduceIte, decide_false] using ih
      · by_cases here : doc.1 = j
        · have differ : j ≠ k := here ▸ same
          simp [here, differ]
        · simpa only [same, here, ↓reduceIte, decide_false] using ih

@[simp] theorem get?_delete (c : Collection κ δ) (k j : κ) :
    (c.delete k).get? j = if j = k then none else c.get? j := by
  split
  case isTrue same =>
    subst same
    rw [get?_eq_none]
    intro d member
    simp [delete] at member
  case isFalse differ =>
    refine Option.ext fun d => ?_
    rw [← mem_docs, ← mem_docs]
    simp [delete, differ]

/-- Two updates of one document are one. -/
theorem update_update (c : Collection κ δ) (k : κ) (f g : δ → δ) :
    (c.update k f).update k g = c.update k fun d => g (f d) := by
  unfold update
  congr 1
  rw [List.map_map]
  apply List.map_congr_left
  intro doc _
  simp only [Function.comp_apply]
  split
  case isTrue here => simp [here]
  case isFalse => rfl

/-- An update that leaves the document as it is changes nothing. -/
theorem update_of_fixed {c : Collection κ δ} {k : κ} {f : δ → δ}
    (fixed : ∀ d ∈ c.get? k, f d = d) : c.update k f = c := by
  have same : ∀ doc ∈ c.docs, (if doc.1 = k then (doc.1, f doc.2) else doc) = doc := by
    intro doc listed
    split
    case isTrue here =>
      have found : c.get? k = some doc.2 := mem_docs.mp (here ▸ listed)
      rw [fixed doc.2 found]
    case isFalse => rfl
  unfold update
  congr 1
  exact (List.map_congr_left same).trans (List.map_id' _)

/-- An update changes nothing exactly if it leaves the document as it is. -/
theorem update_eq_self {c : Collection κ δ} {k : κ} {f : δ → δ} :
    c.update k f = c ↔ ∀ d ∈ c.get? k, f d = d := by
  constructor
  · intro same d found
    have updated := get?_update c k k f
    rw [same, if_pos rfl, found, Option.map_some] at updated
    exact (Option.some.inj updated).symm
  · exact update_of_fixed

/-- An update and a removal commute. -/
theorem update_delete (c : Collection κ δ) (k j : κ) (f : δ → δ) :
    (c.delete j).update k f = (c.update k f).delete j := by
  unfold update delete
  congr 1
  rw [List.filter_map]
  congr 1
  apply List.filter_congr
  intro doc _
  simp only [Function.comp_apply]
  split
  · rfl
  · rfl

@[simp] theorem get?_set (c : Collection κ δ) (k j : κ) (d : δ) :
    (c.set k d).get? j = if j = k then some d else c.get? j := by
  refine Option.ext fun e => ?_
  rw [← mem_docs]
  simp only [set, List.mem_append, List.mem_singleton, Prod.mk.injEq]
  rw [mem_docs, get?_delete]
  by_cases same : j = k
  · simp [same, eq_comm]
  · simp [same]

@[simp] theorem get?_map (c : Collection κ δ) (f : δ → δ) (k : κ) :
    (c.map f).get? k = (c.get? k).map f := by
  unfold map get?
  rw [List.find?_map, Option.map_map, Option.map_map]
  rfl

/-- A change in every document and an update commute, if they do on one document. -/
theorem update_map (c : Collection κ δ) (k : κ) {f g : δ → δ} (comm : ∀ d, f (g d) = g (f d)) :
    (c.update k g).map f = (c.map f).update k g := by
  unfold map update
  congr 1
  rw [List.map_map, List.map_map]
  apply List.map_congr_left
  intro doc _
  simp only [Function.comp_apply]
  split
  · rw [comm]
  · rfl

end Collection

/-! ## Collections with drawn keys -/

/-- A collection whose keys are drawn by the store: `next` is above every key ever drawn. -/
structure AutoCollection (δ : Type) extends Collection Nat δ where
  next : Nat
  below : ∀ doc ∈ docs, doc.1 < next
  deriving DecidableEq

namespace AutoCollection

variable {δ : Type}

/-- The empty collection. -/
def empty : AutoCollection δ where
  docs := []
  nodup := List.nodup_nil
  next := 0
  below := by simp

/-- `add`: a new document under a key never drawn before. -/
def add (c : AutoCollection δ) (d : δ) : AutoCollection δ where
  docs := c.docs ++ [(c.next, d)]
  nodup := by
    rw [List.map_append, List.nodup_append]
    refine ⟨c.nodup, by simp, ?_⟩
    intro a member b isNew
    obtain ⟨doc, kept, rfl⟩ := List.mem_map.mp member
    rw [List.map_singleton, List.mem_singleton] at isNew
    subst isNew
    exact Nat.ne_of_lt (c.below doc kept)
  next := c.next + 1
  below := by
    intro doc member
    rcases List.mem_append.mp member with kept | isNew
    · exact Nat.lt_succ_of_lt (c.below doc kept)
    · rw [List.mem_singleton.mp isNew]
      exact Nat.lt_succ_self _

/-- Change the document under `k`; nothing happens if there is none. -/
def update (c : AutoCollection δ) (k : Nat) (f : δ → δ) : AutoCollection δ where
  toCollection := c.toCollection.update k f
  next := c.next
  below := by
    intro doc member
    obtain ⟨old, kept, rfl⟩ := List.mem_map.mp member
    have bound := c.below old kept
    by_cases same : old.1 = k
    · simpa only [same, ↓reduceIte] using bound
    · simpa only [same, ↓reduceIte] using bound

/-- Remove the document under `k`; its key is not drawn again. -/
def delete (c : AutoCollection δ) (k : Nat) : AutoCollection δ where
  toCollection := c.toCollection.delete k
  next := c.next
  below := fun doc member => c.below doc (List.mem_filter.mp member).1

@[simp] theorem docs_empty : (empty : AutoCollection δ).docs = [] := rfl

@[simp] theorem docs_add (c : AutoCollection δ) (d : δ) :
    (c.add d).docs = c.docs ++ [(c.next, d)] := rfl

@[simp] theorem get?_empty (k : Nat) : (empty : AutoCollection δ).get? k = none := rfl

/-- The next key is not in use. -/
theorem get?_next (c : AutoCollection δ) : c.get? c.next = none :=
  Collection.get?_eq_none.mpr fun _ member => Nat.lt_irrefl _ (c.below _ member)

@[simp] theorem get?_add (c : AutoCollection δ) (d : δ) (k : Nat) :
    (c.add d).get? k = if k = c.next then some d else c.get? k := by
  refine Option.ext fun e => ?_
  rw [← Collection.mem_docs, docs_add, List.mem_append, List.mem_singleton, Prod.mk.injEq,
    Collection.mem_docs]
  by_cases same : k = c.next
  · subst same
    simp [get?_next, eq_comm]
  · simp [same]

@[simp] theorem get?_update (c : AutoCollection δ) (k j : Nat) (f : δ → δ) :
    (c.update k f).get? j = if j = k then (c.get? j).map f else c.get? j :=
  Collection.get?_update c.toCollection k j f

/-- An update that leaves the document as it is changes nothing. -/
theorem update_of_fixed {c : AutoCollection δ} {k : Nat} {f : δ → δ}
    (fixed : ∀ d ∈ c.get? k, f d = d) : c.update k f = c := by
  have same : c.toCollection.update k f = c.toCollection := Collection.update_of_fixed fixed
  obtain ⟨collection, next, below⟩ := c
  unfold update
  simp only [same]

@[simp] theorem get?_delete (c : AutoCollection δ) (k j : Nat) :
    (c.delete k).get? j = if j = k then none else c.get? j :=
  Collection.get?_delete c.toCollection k j

@[simp] theorem next_add (c : AutoCollection δ) (d : δ) : (c.add d).next = c.next + 1 := rfl

@[simp] theorem next_update (c : AutoCollection δ) (k : Nat) (f : δ → δ) :
    (c.update k f).next = c.next := rfl

/-- The key of a document has been drawn. -/
theorem lt_next {c : AutoCollection δ} {k : Nat} {d : δ} (found : c.get? k = some d) :
    k < c.next :=
  c.below (k, d) (Collection.mem_docs.mpr found)

/-! ### Families of collections -/

section Family

variable {ι : Type} [DecidableEq ι] (f : ι → AutoCollection δ) (i j : ι) (d : δ)

/-- One more document, in the collection of one user. -/
theorem get?_update_add (k : Nat) :
    (Function.update f i ((f i).add d) j).get? k =
      if j = i ∧ k = (f i).next then some d else (f j).get? k := by
  by_cases same : j = i
  · subst same
    simp
  · simp [same]

/-- The next key of that user is used, and those of the others are not. -/
theorem next_update_add :
    (Function.update f i ((f i).add d) j).next =
      if j = i then (f i).next + 1 else (f j).next := by
  by_cases same : j = i
  · subst same
    simp
  · simp [same]

/-- A document that is there stays what it is when another one is added somewhere. -/
theorem get?_update_add_of_lt {k : Nat} (drawn : k < (f j).next) :
    (Function.update f i ((f i).add d) j).get? k = (f j).get? k := by
  rw [get?_update_add, if_neg]
  intro both
  rcases both with ⟨rfl, rfl⟩
  exact Nat.lt_irrefl _ drawn

/-- The next key never falls. -/
theorem next_le_update_add : (f j).next ≤ (Function.update f i ((f i).add d) j).next := by
  rw [next_update_add]
  split
  case isTrue same =>
    subst same
    exact Nat.le_succ _
  case isFalse => exact Nat.le_refl _

end Family

/-! ### Documents that are closed

A document is open or not, and says something that nothing changes (`same`). -/

section Closes

variable {κ : Type} {same : δ → κ} {isOpen : δ → Bool} {c c' : AutoCollection δ}

/-- No document is new, none says something else, and none is open that was not. -/
structure Closes (same : δ → κ) (isOpen : δ → Bool) (c c' : AutoCollection δ) : Prop where
  next : c'.next = c.next
  docs : ∀ k d', c'.get? k = some d' →
    ∃ d, c.get? k = some d ∧ same d' = same d ∧ (isOpen d' = true → isOpen d = true)

theorem Closes.refl (c : AutoCollection δ) : Closes same isOpen c c where
  next := rfl
  docs _ d found := ⟨d, found, rfl, id⟩

/-- One change after the other. -/
theorem Closes.trans {c'' : AutoCollection δ} (first : Closes same isOpen c c')
    (second : Closes same isOpen c' c'') : Closes same isOpen c c'' where
  next := second.next.trans first.next
  docs k d'' found := by
    rcases second.docs k d'' found with ⟨d', found', same', closes'⟩
    rcases first.docs k d' found' with ⟨d, before, still, closes⟩
    exact ⟨d, before, same'.trans still, fun now => closes (closes' now)⟩

/-- An update that opens nothing and keeps what is compared. -/
theorem Closes.update (c : AutoCollection δ) (k : Nat) {f : δ → δ}
    (kept : ∀ d, same (f d) = same d) (closes : ∀ d, isOpen (f d) = true → isOpen d = true) :
    Closes same isOpen c (c.update k f) where
  next := rfl
  docs j d' found := by
    rw [get?_update] at found
    split at found
    · rcases Option.map_eq_some_iff.mp found with ⟨d, before, rfl⟩
      exact ⟨d, before, kept d, closes d⟩
    · exact ⟨d', found, rfl, id⟩

/-- What is open now was open before. -/
theorem Closes.any (closes : Closes same isOpen c c') {k : Nat}
    (now : (c'.get? k).any isOpen = true) : (c.get? k).any isOpen = true := by
  rcases (Option.any_eq_true _ _).mp now with ⟨d', found, isOpen'⟩
  rcases closes.docs k d' found with ⟨d, before, -, was⟩
  exact (Option.any_eq_true _ _).mpr ⟨d, before, was isOpen'⟩

end Closes

end AutoCollection

end Docs
