import Mathlib.Combinatorics.SimpleGraph.Operations
import TwoGather.Lib.Docs

/-!
# Graphs kept as adjacency lists

Each vertex keeps a list with one entry for each of its neighbours; `entry v` is the
entry for `v` and `target` reads it back. `link` enters two vertices in each other's
list. The lists represent a graph (`Lists`), which makes them symmetric and free of
double entries, and linking two vertices adds one edge.
-/

namespace Adjacency

open Docs

variable {α β : Type} {target : β → α} {entry : α → β} {m : α → List β} {G : SimpleGraph α}

/-- The list of each vertex has one entry for each neighbour and nothing else. -/
structure Lists (entry : α → β) (m : α → List β) (G : SimpleGraph α) : Prop where
  nodup : ∀ u, (m u).Nodup
  mem : ∀ u e, e ∈ m u ↔ ∃ v, G.Adj u v ∧ entry v = e

theorem Lists.empty (none : ∀ u, m u = []) : Lists entry m ⊥ where
  nodup u := by simp [none]
  mem u e := by simp [none]

theorem Lists.entry_of_mem (lists : Lists entry m G) (inverse : Function.LeftInverse target entry)
    {u : α} {e : β} (member : e ∈ m u) : G.Adj u (target e) ∧ e = entry (target e) := by
  obtain ⟨v, adjacent, rfl⟩ := (lists.mem u e).mp member
  rw [inverse v]
  exact ⟨adjacent, rfl⟩

theorem Lists.adj_iff (lists : Lists entry m G) (inverse : Function.LeftInverse target entry)
    {u v : α} : G.Adj u v ↔ ∃ e ∈ m u, target e = v := by
  constructor
  · intro adjacent
    exact ⟨entry v, (lists.mem u _).mpr ⟨v, adjacent, rfl⟩, inverse v⟩
  · intro both
    rcases both with ⟨e, member, rfl⟩
    exact (lists.entry_of_mem inverse member).1

/-- `v` is listed at `u` exactly when `u` is listed at `v`. -/
theorem Lists.symmetric (lists : Lists entry m G) (inverse : Function.LeftInverse target entry)
    (u v : α) : (∃ e ∈ m u, target e = v) ↔ ∃ e ∈ m v, target e = u := by
  rw [← lists.adj_iff inverse, ← lists.adj_iff inverse]
  exact G.adj_comm u v

/-- No list has two entries for one vertex. -/
theorem Lists.single (lists : Lists entry m G) (inverse : Function.LeftInverse target entry)
    (u : α) : ((m u).map target).Nodup := by
  refine (lists.nodup u).map_on fun e left e' right same => ?_
  rw [(lists.entry_of_mem inverse left).2, (lists.entry_of_mem inverse right).2, same]

section Link

variable [DecidableEq α] [DecidableEq β]

/-- Enter `u` and `v` in each other's list. -/
def link (entry : α → β) (m : α → List β) (u v : α) : α → List β :=
  Function.update (Function.update m u (arrayUnion (m u) (entry v))) v
    (arrayUnion (m v) (entry u))

theorem link_apply {u v : α} (distinct : u ≠ v) (w : α) :
    link entry m u v w =
      if w = u then arrayUnion (m u) (entry v)
      else if w = v then arrayUnion (m v) (entry u)
      else m w := by
  unfold link
  by_cases first : w = u
  · subst first
    simp [distinct]
  · by_cases second : w = v
    · simp [second, distinct.symm]
    · simp [second, first]

theorem link_comm {u v : α} (distinct : u ≠ v) : link entry m u v = link entry m v u := by
  unfold link
  rw [Function.update_comm distinct]

/-- Linking two vertices adds the edge between them. -/
theorem Lists.link (lists : Lists entry m G) {u v : α} (distinct : u ≠ v) :
    Lists entry (link entry m u v) (G ⊔ SimpleGraph.edge u v) where
  nodup w := by
    rw [link_apply distinct]
    split
    · exact nodup_arrayUnion (lists.nodup u) _
    · split
      · exact nodup_arrayUnion (lists.nodup v) _
      · exact lists.nodup w
  mem w e := by
    simp only [SimpleGraph.sup_adj, SimpleGraph.edge_adj, or_and_right, exists_or]
    rw [link_apply distinct, ← lists.mem]
    split
    case isTrue same =>
      subst same
      simp only [mem_arrayUnion]
      grind
    case isFalse notFirst =>
      split
      case isTrue same =>
        subst same
        simp only [mem_arrayUnion]
        grind
      case isFalse notSecond => grind

end Link

end Adjacency
