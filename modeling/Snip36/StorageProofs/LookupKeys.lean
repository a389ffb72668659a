import Snip36.StorageProofs.Replay
import Snip36.Support.JsonText

/-!
# Storage proofs — lookup keys

A recorded request is looked up by its method and its normalised parameters, as one text
(`makeLookupKey`).

`makeLookupKey_eq_iff`: two requests have one key exactly when their methods are the same and their
parameters are the same up to the order of the elements of arrays, at any depth (`Reordered`).  The
method may have colons in it.
-/

namespace Snip36.StorageProofs
open Support

/-- A JSON value. -/
abbrev JsonValue := { v : Json // v.IsValue }

/-- `make_lookup_key`. -/
def makeLookupKey (method : String) (params : Json) : String :=
  method ++ ":" ++ (normalizeJson params).compact

/-- The same value, up to the order of the elements of arrays at any depth. -/
inductive Reordered : Json → Json → Prop where
  | refl (v : Json) : Reordered v v
  | perm {vs ws : List Json} (h : vs.Perm ws) : Reordered (.arr vs) (.arr ws)
  | elem (vs ws : List Json) {v w : Json} (h : Reordered v w) :
      Reordered (.arr (vs ++ v :: ws)) (.arr (vs ++ w :: ws))
  | field (fs gs : List (String × Json)) (key : String) {v w : Json} (h : Reordered v w) :
      Reordered (.obj (fs ++ (key, v) :: gs)) (.obj (fs ++ (key, w) :: gs))
  | trans {u v w : Json} (h : Reordered u v) (h' : Reordered v w) : Reordered u w

namespace Reordered

theorem symm {v w : Json} (h : Reordered v w) : Reordered w v := by
  induction h with
  | refl v => exact .refl v
  | perm h => exact .perm h.symm
  | elem vs ws _ ih => exact .elem vs ws ih
  | field fs gs key _ ih => exact .field fs gs key ih
  | trans _ _ ih ih' => exact .trans ih' ih

/-- All elements of an array. -/
theorem arr {vs ws : List Json} (h : List.Forall₂ Reordered vs ws) :
    Reordered (.arr vs) (.arr ws) := by
  have hsuffix : ∀ done : List Json, Reordered (.arr (done ++ vs)) (.arr (done ++ ws)) := by
    induction h with
    | nil => exact fun done => .refl _
    | @cons v w vs ws hvw _ ih =>
        intro done
        have hrest := ih (done ++ [w])
        rw [List.append_assoc, List.append_assoc] at hrest
        exact .trans (.elem done vs hvw) hrest
  exact hsuffix []

/-- All fields of an object. -/
theorem obj {fields : List (String × Json)} {change : Json → Json}
    (h : ∀ f ∈ fields, Reordered f.2 (change f.2)) :
    Reordered (.obj fields) (.obj (fields.map fun f => (f.1, change f.2))) := by
  have hsuffix : ∀ done : List (String × Json),
      Reordered (.obj (done ++ fields))
        (.obj (done ++ fields.map fun f => (f.1, change f.2))) := by
    induction fields with
    | nil => exact fun done => .refl _
    | cons f fields ih =>
        intro done
        have hrest := ih (fun f' hf' => h f' (List.mem_cons_of_mem f hf'))
          (done ++ [(f.1, change f.2)])
        rw [List.append_assoc, List.append_assoc] at hrest
        exact .trans (.field done fields f.1 (h f List.mem_cons_self)) hrest
  exact hsuffix []

end Reordered

theorem normalizeFields_eq (fields : List (String × Json)) :
    normalizeFields fields = fields.map fun f => (f.1, normalizeJson f.2) := by
  induction fields with
  | nil => rfl
  | cons f fields ih => rw [normalizeFields, ih, List.map_cons]

/-- **Normalising only reorders.** -/
theorem reordered_normalizeJson (v : Json) : Reordered v (normalizeJson v) := by
  induction v using Json.induction with
  | null => exact .refl _
  | bool b => exact .refl _
  | num n => exact .refl _
  | float text => exact .refl _
  | str s => exact .refl _
  | arr elems ih =>
      rw [normalizeJson, normalizeElems_eq]
      have hmap : List.Forall₂ Reordered elems (elems.map normalizeJson) :=
        List.forall₂_map_right_iff.mpr (List.forall₂_same.mpr ih)
      exact .trans (.arr hmap) (.perm (List.perm_insertionSort _ _).symm)
  | obj fields ih =>
      rw [normalizeJson, normalizeFields_eq]
      exact .obj ih

theorem Reordered.isValue {v w : Json} (h : Reordered v w) : v.IsValue → w.IsValue := by
  induction h with
  | refl v => exact id
  | perm h => exact fun hv => .arr fun w hw => hv.elem w (h.mem_iff.mpr hw)
  | @elem vs ws v w _ ih =>
      intro hv
      refine .arr fun u hu => ?_
      rcases List.mem_append.mp hu with hu | hu
      · exact hv.elem u (List.mem_append_left _ hu)
      rcases List.mem_cons.mp hu with rfl | hu
      · exact ih (hv.elem v (List.mem_append_right _ List.mem_cons_self))
      · exact hv.elem u (List.mem_append_right _ (List.mem_cons_of_mem _ hu))
  | @field fs gs key v w _ ih =>
      intro hv
      have hkeys : ((fs ++ (key, v) :: gs).map Prod.fst).Pairwise (· < ·) := by
        cases hv with
        | obj hkeys _ => exact hkeys
      refine .obj (by simpa using hkeys) fun f hf => ?_
      rcases List.mem_append.mp hf with hf | hf
      · exact hv.field f (List.mem_append_left _ hf)
      rcases List.mem_cons.mp hf with rfl | hf
      · exact ih (hv.field (key, v) (List.mem_append_right _ List.mem_cons_self))
      · exact hv.field f (List.mem_append_right _ (List.mem_cons_of_mem _ hf))
  | trans _ _ ih ih' => exact ih' ∘ ih

theorem isValue_normalizeJson {v : Json} (h : v.IsValue) : (normalizeJson v).IsValue :=
  (reordered_normalizeJson v).isValue h

/-- The normal form of an array depends on the bag of the normal forms of its elements. -/
theorem normalizeJson_arr_congr {vs ws : List Json} (hvs : ∀ v ∈ vs, v.IsValue)
    (hws : ∀ w ∈ ws, w.IsValue) (h : (vs.map normalizeJson).Perm (ws.map normalizeJson)) :
    normalizeJson (.arr vs) = normalizeJson (.arr ws) := by
  rw [normalizeJson, normalizeJson, normalizeElems_eq, normalizeElems_eq]
  refine congrArg Json.arr (List.Perm.eq_of_pairwise ?_ (pairwise_insertionSort_compact _)
    (pairwise_insertionSort_compact _) ?_)
  · -- elements with one text are one element
    intro v w hv hw hle hge
    obtain ⟨v', hv', rfl⟩ := List.mem_map.mp ((List.mem_insertionSort _).mp hv)
    obtain ⟨w', hw', rfl⟩ := List.mem_map.mp ((List.mem_insertionSort _).mp hw)
    exact compact_injective (isValue_normalizeJson (hvs v' hv'))
      (isValue_normalizeJson (hws w' hw')) (le_antisymm hle hge)
  · calc (vs.map normalizeJson).insertionSort _ |>.Perm (vs.map normalizeJson) :=
          List.perm_insertionSort _ _
      _ |>.Perm (ws.map normalizeJson) := h
      _ |>.Perm ((ws.map normalizeJson).insertionSort _) := (List.perm_insertionSort _ _).symm

/-- **Normalising forgets the order.** -/
theorem Reordered.normalizeJson_eq {v w : Json} (h : Reordered v w) (hv : v.IsValue) :
    normalizeJson v = normalizeJson w := by
  induction h with
  | refl v => rfl
  | perm h =>
      exact normalizeJson_arr_congr hv.elem (fun w hw => hv.elem w (h.mem_iff.mpr hw))
        (h.map normalizeJson)
  | @elem vs ws v w hvw ih =>
      have hsame := ih (hv.elem v (List.mem_append_right _ List.mem_cons_self))
      have hws := ((Reordered.elem vs ws hvw).isValue hv).elem
      refine normalizeJson_arr_congr hv.elem hws ?_
      rw [List.map_append, List.map_append, List.map_cons, List.map_cons, hsame]
  | @field fs gs key v w hvw ih =>
      have hsame := ih (hv.field (key, v) (List.mem_append_right _ List.mem_cons_self))
      rw [normalizeJson, normalizeJson, normalizeFields_eq, normalizeFields_eq, List.map_append,
        List.map_append, List.map_cons, List.map_cons, hsame]
  | trans h _ ih ih' => exact (ih hv).trans (ih' (h.isValue hv))

/-- Values have one normal form exactly when they differ in the order of arrays only. -/
theorem normalizeJson_eq_iff {v w : Json} (hv : v.IsValue) :
    normalizeJson v = normalizeJson w ↔ Reordered v w := by
  constructor
  · intro h
    have hw := (reordered_normalizeJson w).symm
    rw [← h] at hw
    exact (reordered_normalizeJson v).trans hw
  · exact fun h => h.normalizeJson_eq hv

theorem normalizeJson_normalizeJson {v : Json} (hv : v.IsValue) :
    normalizeJson (normalizeJson v) = normalizeJson v :=
  ((reordered_normalizeJson v).normalizeJson_eq hv).symm

theorem makeLookupKey_eq_iff {method method' : String} {params params' : Json}
    (hparams : params.IsValue) (hparams' : params'.IsValue) :
    makeLookupKey method params = makeLookupKey method' params' ↔
      method = method' ∧ Reordered params params' := by
  rw [← normalizeJson_eq_iff hparams]
  constructor
  · exact split_unique (isValue_normalizeJson hparams) (isValue_normalizeJson hparams')
  · rintro ⟨rfl, hsame⟩
    rw [makeLookupKey, makeLookupKey, hsame]

/-- **A lookup key tells a request up to the order of arrays**, and normalising is idempotent and
only reorders. -/
theorem lookupKeys_up_to_order :
    (∀ (method method' : String) (params params' : JsonValue),
      makeLookupKey method params.val = makeLookupKey method' params'.val ↔
        method = method' ∧ Reordered params.val params'.val) ∧
      ∀ value : JsonValue,
        normalizeJson (normalizeJson value.val) = normalizeJson value.val ∧
          Reordered value.val (normalizeJson value.val) := by
  constructor
  · exact fun method method' params params' => makeLookupKey_eq_iff params.property params'.property
  · exact fun value =>
      ⟨normalizeJson_normalizeJson value.property, reordered_normalizeJson value.val⟩

end Snip36.StorageProofs
