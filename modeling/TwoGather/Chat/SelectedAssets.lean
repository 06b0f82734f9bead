import TwoGather.Lib.Numbered
import TwoGather.Lib.Runs

/-!
# The media picker

`selected_assets.dart`: the media picked for a salon, under the keys that `asMap` gives them,
and the index of the current one. `viewer.dart` shows them in a `PageView` that keeps a page of
its own, and types captions with `modifyCurrentMediaText`.

`removeFromAssets` and `setAssets` leave the index as it is, while the `PageView` goes to its
last page when there are fewer and starts at the first one in a new viewer. So the keys are
always right, and `captions_right_iff` says when the index is.
-/

namespace TwoGather

open Numbered Requests

/-! ## The picked media -/

inductive MediaType
  | image
  | video
  deriving DecidableEq

inductive AssetType
  | other
  | image
  | video
  | audio
  deriving DecidableEq

structure AssetEntity where
  id : String
  type : AssetType
  deriving DecidableEq

structure ItemOfAssets where
  assetEntity : AssetEntity
  messge : Option String := none
  file : Option String := none
  mediaType : MediaType
  deriving DecidableEq

/-- `SelectedAssets`, with the text of its caption field. -/
structure SelectedAssets where
  mapAssets : List (Nat × ItemOfAssets) := []
  index : Nat := 0
  text : String := ""
  deriving DecidableEq

namespace SelectedAssets

def setIndex (a : SelectedAssets) (index : Nat) : SelectedAssets :=
  { a with index, text := ((a.mapAssets.lookup index).bind ItemOfAssets.messge).getD "" }

/-- `mapAssets[index]!.copyWith(..)`, put back under its key. -/
def copyWith (a : SelectedAssets) (index : Nat) (change : ItemOfAssets → ItemOfAssets) :
    Option SelectedAssets :=
  (a.mapAssets.lookup index).map fun item =>
    { a with mapAssets := assign a.mapAssets index (change item) }

def modifyCurrentMediaText (a : SelectedAssets) (val : String) : Option SelectedAssets :=
  a.copyWith a.index ({ · with messge := some val })

def removeFromAssets (a : SelectedAssets) (index : Nat) : SelectedAssets :=
  { a with mapAssets := asMap (values (without a.mapAssets index)) }

def addFileToAssets (a : SelectedAssets) (index : Nat) (file : String) : Option SelectedAssets :=
  a.copyWith index ({ · with file := some file })

/-- An asset that is no image counts as a video. -/
def itemOf (value : AssetEntity) : ItemOfAssets where
  assetEntity := value
  mediaType := if value.type = .image then .image else .video

def setAssets (a : SelectedAssets) (list : Option (List AssetEntity)) : SelectedAssets :=
  { a with mapAssets := (list.map fun list => asMap (list.map itemOf)).getD [] }

/-- The media in the order in which they are shown. -/
def items (a : SelectedAssets) : List ItemOfAssets :=
  values a.mapAssets

end SelectedAssets

/-! ## The viewer -/

/-- The picked media and the page that the `PageView` of the viewer shows. -/
structure MediaViewer where
  assets : SelectedAssets := {}
  page : Nat := 0
  deriving DecidableEq

/-- The calls of the provider. The `PageView` calls `setIndex` with the page it has come to. -/
inductive MediaCall
  | setAssets (list : Option (List AssetEntity))
  | removeFromAssets (index : Nat)
  | setIndex (index : Nat)
  | setPageIndex (index : Nat)
  | addFileToAssets (index : Nat) (file : String)
  | modifyCurrentMediaText (val : String)
  deriving DecidableEq

namespace MediaCall

/-- A call that fails changes nothing. Typing in the caption field comes with its new text. -/
def step (v : MediaViewer) : MediaCall → MediaViewer
  | .setAssets list => { assets := v.assets.setAssets list, page := 0 }
  | .removeFromAssets index =>
      let assets := v.assets.removeFromAssets index
      { assets, page := min v.page (assets.items.length - 1) }
  | .setIndex index | .setPageIndex index => { assets := v.assets.setIndex index, page := index }
  | .addFileToAssets index file =>
      { v with assets := (v.assets.addFileToAssets index file).getD v.assets }
  | .modifyCurrentMediaText val =>
      let assets := { v.assets with text := val }
      { v with assets := (assets.modifyCurrentMediaText val).getD assets }

/-- The viewer shows an item, and the key is that of one. -/
def Valid (v : MediaViewer) : MediaCall → Prop
  | .setAssets _ => True
  | .removeFromAssets index | .setIndex index | .setPageIndex index | .addFileToAssets index _ =>
      index < v.assets.items.length
  | .modifyCurrentMediaText _ => 0 < v.assets.items.length

/-- The call keeps the index on the page: a new viewer finds the index at the first page, and
nothing is removed while the last of several pages is shown. -/
def KeepsIndex (v : MediaViewer) : MediaCall → Prop
  | .setAssets list => list.getD [] = [] ∨ v.assets.index = 0
  | .removeFromAssets _ => v.assets.items.length = 1 ∨ v.page + 1 < v.assets.items.length
  | _ => True

instance (v : MediaViewer) : (call : MediaCall) → Decidable (call.Valid v)
  | .setAssets _ => .isTrue trivial
  | .removeFromAssets _ | .setIndex _ | .setPageIndex _ | .addFileToAssets _ _
  | .modifyCurrentMediaText _ => inferInstanceAs (Decidable (_ < _))

instance (v : MediaViewer) : (call : MediaCall) → Decidable (call.KeepsIndex v)
  | .setAssets _ | .removeFromAssets _ => inferInstanceAs (Decidable (_ ∨ _))
  | .setIndex _ | .setPageIndex _ | .addFileToAssets _ _ | .modifyCurrentMediaText _ =>
      .isTrue trivial

end MediaCall

namespace MediaViewer

/-- The keys are `0..n-1` in the order of the items. -/
def Keyed (v : MediaViewer) : Prop :=
  v.assets.mapAssets.map Prod.fst = List.range v.assets.items.length

/-- While an item is shown, the index names one, and typing a caption changes the one of the
item that is shown and nothing else. -/
def CaptionsRight (v : MediaViewer) : Prop :=
  0 < v.assets.items.length →
    v.assets.index < v.assets.items.length ∧
      ∀ val, ∃ a, v.assets.modifyCurrentMediaText val = some a ∧
        a = { v.assets with mapAssets := a.mapAssets } ∧
          a.items = v.assets.items.modify v.page ({ · with messge := some val })

end MediaViewer

/-! ## What the calls do to the items -/

namespace SelectedAssets

/-- The map is that of its items. -/
def Numbered (a : SelectedAssets) : Prop :=
  a.mapAssets = asMap a.items

variable {a : SelectedAssets} {index : Nat} {change : ItemOfAssets → ItemOfAssets}

/-- Only the item under a key of the map changes, in its place. -/
theorem Numbered.copyWith (numbered : a.Numbered) (inside : index < a.items.length) :
    a.copyWith index change =
      some { a with mapAssets := asMap (a.items.modify index change) } := by
  unfold SelectedAssets.copyWith
  rw [numbered, lookup_asMap, List.getElem?_eq_getElem inside, Option.map_some, assign_asMap,
    List.modify_eq_set_getElem?, List.getElem?_eq_getElem inside]
  rfl

/-- Without such a key nothing changes. -/
theorem Numbered.copyWith_getD (numbered : a.Numbered) :
    (a.copyWith index change).getD a =
      { a with mapAssets := asMap (a.items.modify index change) } := by
  by_cases inside : index < a.items.length
  · rw [numbered.copyWith inside, Option.getD_some]
  · have outside := not_lt.mp inside
    have missing : a.copyWith index change = none := by
      unfold SelectedAssets.copyWith
      rw [numbered, lookup_asMap, List.getElem?_eq_none outside]
      rfl
    rw [missing, List.modify_eq_self outside, ← numbered]
    rfl

/-- A removal keeps the other items and their order. -/
theorem Numbered.items_remove (numbered : a.Numbered) (index : Nat) :
    (a.removeFromAssets index).items = a.items.eraseIdx index := by
  unfold removeFromAssets items
  rw [values_asMap]
  conv_lhs => rw [numbered]
  exact values_without_asMap ..

theorem items_setAssets (a : SelectedAssets) (list : Option (List AssetEntity)) :
    (a.setAssets list).items = (list.getD []).map itemOf := by
  unfold setAssets items
  cases list with
  | none => rfl
  | some list => exact values_asMap _

end SelectedAssets

namespace MediaViewer

/-- The map is that of its items, and the page is that of an item unless there is none. -/
structure Consistent (v : MediaViewer) : Prop where
  numbered : v.assets.Numbered
  page : 0 < v.assets.items.length → v.page < v.assets.items.length

/-- The index is that of the page. -/
def OnPage (v : MediaViewer) : Prop :=
  0 < v.assets.items.length → v.assets.index = v.page

variable {v : MediaViewer} {call : MediaCall}

theorem Consistent.keyed (consistent : v.Consistent) : v.Keyed := by
  unfold Keyed
  rw [consistent.numbered, keys_asMap]

theorem step_addFileToAssets (numbered : v.assets.Numbered) (index : Nat) (file : String) :
    (MediaCall.addFileToAssets index file).step v =
      { v with
        assets :=
          { v.assets with
            mapAssets := asMap (v.assets.items.modify index ({ · with file := some file })) } } :=
  congrArg (fun assets => { v with assets }) numbered.copyWith_getD

theorem step_modifyCurrentMediaText (numbered : v.assets.Numbered) (val : String) :
    (MediaCall.modifyCurrentMediaText val).step v =
      { v with
        assets :=
          { v.assets with
            mapAssets :=
              asMap (v.assets.items.modify v.assets.index ({ · with messge := some val }))
            text := val } } := by
  have typed : SelectedAssets.Numbered { v.assets with text := val } := numbered
  exact congrArg (fun assets => { v with assets }) typed.copyWith_getD

/-- What a change in the place of one item leaves: as many items, the index and the page. -/
theorem Consistent.change (consistent : v.Consistent) {items : List ItemOfAssets} (text : String)
    (length : items.length = v.assets.items.length) :
    let w : MediaViewer := { v with assets := { v.assets with mapAssets := asMap items, text } }
    w.Consistent ∧ (w.OnPage ↔ v.OnPage) := by
  intro w
  have kept : w.assets.items = items := values_asMap items
  refine ⟨⟨congrArg asMap kept.symm, ?_⟩, ?_⟩
  · rw [kept, length]
    exact consistent.page
  · unfold OnPage
    rw [kept, length]

/-- New assets are shown from the first page on. -/
theorem Consistent.setAssets (v : MediaViewer) (list : Option (List AssetEntity)) :
    ((MediaCall.setAssets list).step v).Consistent ∧
      (((MediaCall.setAssets list).step v).OnPage ↔ (MediaCall.setAssets list).KeepsIndex v) := by
  have items := SelectedAssets.items_setAssets v.assets list
  have length : (v.assets.setAssets list).items.length = (list.getD []).length := by
    rw [items, List.length_map]
  refine ⟨⟨?_, ?_⟩, ?_⟩
  · unfold SelectedAssets.Numbered
    rw [show ((MediaCall.setAssets list).step v).assets = v.assets.setAssets list from rfl,
      items]
    cases list with
    | none => rfl
    | some list => rfl
  · exact id
  · unfold OnPage MediaCall.KeepsIndex
    rw [show ((MediaCall.setAssets list).step v).assets = v.assets.setAssets list from rfl,
      length, List.length_pos_iff, ← or_iff_not_imp_left]
    exact Iff.rfl

/-- A removal takes the page back only from the last item. -/
theorem Consistent.remove (consistent : v.Consistent) {index : Nat}
    (valid : (MediaCall.removeFromAssets index).Valid v) :
    ((MediaCall.removeFromAssets index).step v).Consistent ∧
      (v.OnPage → (((MediaCall.removeFromAssets index).step v).OnPage ↔
        (MediaCall.removeFromAssets index).KeepsIndex v)) := by
  have valid : index < v.assets.items.length := valid
  have items := consistent.numbered.items_remove index
  have length : (v.assets.removeFromAssets index).items.length = v.assets.items.length - 1 := by
    rw [items, List.length_eraseIdx_of_lt valid]
  refine ⟨⟨?_, ?_⟩, fun onPage => ?_⟩
  · exact congrArg asMap (values_asMap _).symm
  · intro shown
    change 0 < (v.assets.removeFromAssets index).items.length at shown
    change min v.page ((v.assets.removeFromAssets index).items.length - 1) <
      (v.assets.removeFromAssets index).items.length
    omega
  · have same := onPage (Nat.zero_lt_of_lt valid)
    have inside := consistent.page (Nat.zero_lt_of_lt valid)
    change (0 < (v.assets.removeFromAssets index).items.length →
      v.assets.index = min v.page _) ↔ _ = 1 ∨ v.page + 1 < _
    rw [length, same]
    omega

/-- A call keeps the map in order, and keeps the index on the page exactly when it should. -/
theorem Consistent.step (consistent : v.Consistent) (valid : call.Valid v) :
    (call.step v).Consistent ∧ (v.OnPage → ((call.step v).OnPage ↔ call.KeepsIndex v)) := by
  have numbered := consistent.numbered
  cases call with
  | setAssets list =>
      obtain ⟨consistent', onPage⟩ := Consistent.setAssets v list
      exact ⟨consistent', fun _ => onPage⟩
  | removeFromAssets index => exact consistent.remove valid
  | setIndex index =>
      exact ⟨⟨numbered, fun _ => valid⟩, fun _ => iff_of_true (fun _ => rfl) trivial⟩
  | setPageIndex index =>
      exact ⟨⟨numbered, fun _ => valid⟩, fun _ => iff_of_true (fun _ => rfl) trivial⟩
  | addFileToAssets index file =>
      obtain ⟨consistent', onPage⟩ := consistent.change v.assets.text
        (List.length_modify (fun item => { item with file := some file }) v.assets.items index)
      rw [step_addFileToAssets numbered]
      exact ⟨consistent', fun before => iff_of_true (onPage.mpr before) trivial⟩
  | modifyCurrentMediaText val =>
      obtain ⟨consistent', onPage⟩ := consistent.change val
        (List.length_modify (fun item => { item with messge := some val }) v.assets.items
          v.assets.index)
      rw [step_modifyCurrentMediaText numbered]
      exact ⟨consistent', fun before => iff_of_true (onPage.mpr before) trivial⟩

/-- Captions are right exactly while the index is that of the page. -/
theorem Consistent.captionsRight_iff (consistent : v.Consistent) : v.CaptionsRight ↔ v.OnPage := by
  refine forall_congr' fun shown => ?_
  have page := consistent.page shown
  constructor
  · rintro ⟨inside, right⟩
    by_contra differ
    -- a text that is not the caption under the index
    obtain ⟨val, new⟩ : ∃ val, v.assets.items[v.assets.index].messge ≠ some val := by
      cases caption : v.assets.items[v.assets.index].messge with
      | none => exact ⟨"", nofun⟩
      | some text =>
          refine ⟨text ++ "a", fun same => ?_⟩
          have length := congrArg String.length (Option.some.inj same)
          rw [String.length_append] at length
          exact absurd length (Nat.ne_of_lt (Nat.lt_add_of_pos_right (by decide)))
    obtain ⟨a, typed, -, items⟩ := right val
    rw [SelectedAssets.modifyCurrentMediaText, consistent.numbered.copyWith inside] at typed
    obtain rfl := Option.some.inj typed
    have at_index := congrArg (·[v.assets.index]?) ((values_asMap _).symm.trans items)
    simp only [List.getElem?_modify_eq, List.getElem?_modify_ne _ _ (Ne.symm differ),
      List.getElem?_eq_getElem inside] at at_index
    exact new (congrArg ItemOfAssets.messge (Option.some.inj at_index)).symm
  · intro same
    have inside : v.assets.index < v.assets.items.length := same ▸ page
    refine ⟨inside, fun val => ⟨_, consistent.numbered.copyWith inside, rfl, ?_⟩⟩
    rw [← same]
    exact values_asMap _

end MediaViewer

/-- **In every run of calls from a viewer without items, the keys are `0..n-1` in the order of
the items and a removal keeps the others in place. The index names the item that is shown,
whose caption alone is typed, in every state if and only if no new viewer finds another index
than the first and nothing is removed while the last of several pages is shown.** -/
theorem captions_right_iff (calls : List MediaCall)
    (valid : Along MediaCall.step (fun v call => call.Valid v) {} calls) :
    (∀ v, Reached MediaCall.step {} calls v →
      v.Keyed ∧ ∀ index, (v.assets.removeFromAssets index).items =
        v.assets.items.eraseIdx index) ∧
      ((∀ v, Reached MediaCall.step {} calls v → v.CaptionsRight) ↔
        Along MediaCall.step (fun v call => call.KeepsIndex v) {} calls) := by
  have start : MediaViewer.Consistent {} := ⟨rfl, nofun⟩
  have onPage : MediaViewer.OnPage {} := nofun
  have consistent := all_reached (P := MediaViewer.Consistent)
    (fun v call holds valid => (holds.step valid).1) start valid
  have exact := all_reached_iff_along (P := fun v => MediaViewer.OnPage v ∧ v.Consistent)
    (fun v call both valid =>
      (and_iff_left (both.2.step valid).1).trans ((both.2.step valid).2 both.1))
    ⟨onPage, start⟩ valid
  constructor
  · intro v reached
    exact ⟨(consistent v reached).keyed, (consistent v reached).numbered.items_remove⟩
  · rw [← exact]
    refine forall₂_congr fun v reached => ?_
    rw [(consistent v reached).captionsRight_iff, and_iff_left (consistent v reached)]

/-! ## Two pictures -/

def twoPictures : List AssetEntity :=
  [⟨"a", .image⟩, ⟨"b", .image⟩]

/-- The second of two pictures is shown and removed: the index names nothing any more, and the
first one gets no caption. -/
theorem removed_last_picture :
    let calls := [.setAssets (some twoPictures), .setIndex 1, .removeFromAssets 1]
    let v := run MediaCall.step {} calls
    Along MediaCall.step (fun v call => call.Valid v) {} calls ∧ v.assets.items.length = 1 ∧
      v.assets.index = 1 ∧ v.assets.modifyCurrentMediaText "c" = none ∧
      ¬ ∀ v, Reached MediaCall.step {} calls v → v.CaptionsRight := by
  intro calls v
  refine ⟨by decide, rfl, rfl, rfl, fun all => ?_⟩
  have inside := (all v (.run _ _) Nat.one_pos).1
  exact absurd inside (by decide)

/-- The first one may be removed while it is shown. -/
theorem removed_first_picture :
    (run MediaCall.step {}
      [.setAssets (some twoPictures), .modifyCurrentMediaText "c", .removeFromAssets 0,
        .modifyCurrentMediaText "d"]).CaptionsRight :=
  (captions_right_iff _ (by decide)).2.mpr (by decide) _ (.run _ _)

end TwoGather
