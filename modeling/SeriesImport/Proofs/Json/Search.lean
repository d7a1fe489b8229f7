import Mathlib
import SeriesImport.InputFormat
/-!
# The records search is a pre-order search

`findArray` looks for the records of a document with a stack of values still to visit. This
module shows that it finds what the recursive search `firstArray` finds: an object whose member
under the name is an array yields it, and otherwise the first hit among its values in document
order, the member under the name included when it is no array; an array yields the first hit
among its items; anything else yields nothing.

The stack is the frontier of the recursive search: what the search of a stack finds is the first
hit among the values on it, top first (`searchStack_eq_firstInItems`). A document has records
exactly when some object within it holds an array under the name (`HoldsArray`), and the units of
a document are the marker that the array begins and then the array's items.
-/

namespace SeriesImport.Json

/-! ## The recursive search -/

mutual
/-- The first array stored under `key` within a value, in pre-order. -/
def firstArray (key : String) : Value → Option (List Value)
  | .dict ms =>
    match getKey? ms key with
    | some (.list xs) => some xs
    | _ => firstInMembers key ms
  | .list xs => firstInItems key xs
  | _ => none

/-- The first array stored under `key` within items, in order. -/
def firstInItems (key : String) : List Value → Option (List Value)
  | [] => none
  | v :: rest =>
    match firstArray key v with
    | some xs => some xs
    | none => firstInItems key rest

/-- The first array stored under `key` within the values of members, in order. -/
def firstInMembers (key : String) : List (Value × Value) → Option (List Value)
  | [] => none
  | (_, v) :: rest =>
    match firstArray key v with
    | some xs => some xs
    | none => firstInMembers key rest
end

section

variable (key : String)

@[simp] theorem firstInItems_nil : firstInItems key [] = none := by simp [firstInItems]

@[simp] theorem firstInItems_cons (v : Value) (rest : List Value) :
    firstInItems key (v :: rest) = (firstArray key v).or (firstInItems key rest) := by
  rw [firstInItems]
  cases firstArray key v <;> rfl

theorem firstInItems_append (xs ys : List Value) :
    firstInItems key (xs ++ ys) = (firstInItems key xs).or (firstInItems key ys) := by
  induction xs with
  | nil => simp
  | cons x xs ih => simp [ih, Option.or_assoc]

theorem firstInMembers_eq (ms : List (Value × Value)) :
    firstInMembers key ms = firstInItems key (ms.map Prod.snd) := by
  induction ms with
  | nil => simp [firstInMembers]
  | cons m ms ih =>
    obtain ⟨k, v⟩ := m
    rw [firstInMembers, List.map_cons, firstInItems_cons, ← ih]
    cases firstArray key v <;> rfl

theorem firstArray_dict (ms : List (Value × Value)) :
    firstArray key (.dict ms) =
      match getKey? ms key with
      | some (.list xs) => some xs
      | _ => firstInItems key (ms.map Prod.snd) := by
  rw [firstArray, firstInMembers_eq]

theorem firstArray_list (xs : List Value) : firstArray key (.list xs) = firstInItems key xs := by
  rw [firstArray]

/-! ## The stack is the frontier -/

/-- What a search of a stack finds is the first hit among the values on it, the top first. Each
step keeps this: an object or array on top is replaced by its values or items, which come before
the rest of the stack in document order. -/
theorem searchStack_eq_firstInItems (stack : List Value) :
    searchStack key stack = firstInItems key stack := by
  fun_induction searchStack key stack with
  | case1 => rw [firstInItems_nil]
  | case2 ms rest xs hk => rw [firstInItems_cons, firstArray_dict, hk]; rfl
  | case3 ms rest hk ih =>
    simp only [List.map_attach_eq_pmap, List.pmap_eq_map] at ih
    rw [firstInItems_cons, firstArray_dict]
    split
    · next xs hxs => exact absurd hxs (hk xs)
    · rw [ih, firstInItems_append]
  | case4 xs rest ih => rw [ih, firstInItems_cons, firstArray_list, firstInItems_append]
  | case5 v rest hd hl ih =>
    have hnone : firstArray key v = none := by
      cases v with
      | dict ms => exact absurd rfl (hd ms)
      | list xs => exact absurd rfl (hl xs)
      | _ => rfl
    rw [ih, firstInItems_cons, hnone, Option.none_or]

theorem findArray_eq_firstArray (d : Value) : findArray key d = firstArray key d := by
  rw [findArray, searchStack_eq_firstInItems, firstInItems_cons, firstInItems_nil, Option.or_none]

/-! ## When there are records -/

/-- Some object within a value holds an array under `key`. -/
inductive HoldsArray : Value → Prop
  | here {ms : List (Value × Value)} {xs : List Value} (h : getKey? ms key = some (.list xs)) :
      HoldsArray (.dict ms)
  | member {ms : List (Value × Value)} {e : Value × Value} (he : e ∈ ms) (h : HoldsArray e.2) :
      HoldsArray (.dict ms)
  | item {xs : List Value} {v : Value} (hv : v ∈ xs) (h : HoldsArray v) : HoldsArray (.list xs)

theorem firstInItems_isSome_iff (xs : List Value) :
    (firstInItems key xs).isSome ↔ ∃ v ∈ xs, (firstArray key v).isSome := by
  induction xs with
  | nil => simp
  | cons x xs ih => cases h : firstArray key x <;> simp [h, ih]

theorem sizeOf_lt_of_mem_dict {ms : List (Value × Value)} {v : Value} (hv : v ∈ ms.map Prod.snd) :
    sizeOf v < sizeOf (Value.dict ms) := by
  obtain ⟨⟨k, v⟩, he, rfl⟩ := List.mem_map.1 hv
  have := List.sizeOf_lt_of_mem he
  simp only [Prod.mk.sizeOf_spec, Value.dict.sizeOf_spec] at this ⊢
  omega

theorem sizeOf_lt_of_mem_list {xs : List Value} {v : Value} (hv : v ∈ xs) :
    sizeOf v < sizeOf (Value.list xs) := by
  have := List.sizeOf_lt_of_mem hv
  simp only [Value.list.sizeOf_spec]
  omega

theorem holdsArray_of_isSome (d : Value) (h : (firstArray key d).isSome) : HoldsArray key d := by
  induction hn : sizeOf d using Nat.strongRecOn generalizing d with
  | ind n ih =>
    subst hn
    cases d with
    | dict ms =>
      rw [firstArray_dict] at h
      split at h
      · next xs hxs => exact .here hxs
      · obtain ⟨v, hv, hs⟩ := (firstInItems_isSome_iff key _).1 h
        obtain ⟨e, he, rfl⟩ := List.mem_map.1 hv
        exact .member he (ih _ (sizeOf_lt_of_mem_dict hv) e.2 hs rfl)
    | list xs =>
      rw [firstArray_list] at h
      obtain ⟨v, hv, hs⟩ := (firstInItems_isSome_iff key _).1 h
      exact .item hv (ih _ (sizeOf_lt_of_mem_list hv) v hs rfl)
    | _ => simp [firstArray] at h

theorem isSome_of_holdsArray {d : Value} (h : HoldsArray key d) : (firstArray key d).isSome := by
  induction h with
  | here hxs => simp [firstArray_dict, hxs]
  | @member ms e he _ ih =>
    rw [firstArray_dict]
    split
    · rfl
    · exact (firstInItems_isSome_iff key _).2 ⟨e.2, List.mem_map_of_mem he, ih⟩
  | item hv _ ih => rw [firstArray_list]; exact (firstInItems_isSome_iff key _).2 ⟨_, hv, ih⟩

/-- A document has no records exactly when no object within it holds an array under the name. -/
theorem findArray_eq_none_iff (d : Value) : findArray key d = none ↔ ¬ HoldsArray key d := by
  rw [findArray_eq_firstArray, ← Option.not_isSome_iff_eq_none]
  exact not_congr ⟨holdsArray_of_isSome key d, isSome_of_holdsArray key⟩

end

/-! ## The units of a document -/

/-- A document read from a text yields the marker that its records begin and then each record, or,
with no records, the failure that names the key. -/
theorem documentEntries_of_parse {text : String} {d : Value} (h : parse text = .ok d) (key : String) :
    documentEntries text key =
      match firstArray key d with
      | some xs => (.arrayStart key :: xs.map .unit, none)
      | none => ([], some (.parse ("no '" ++ key ++ "' array found in JSON document") none "")) := by
  simp only [documentEntries, records, h, findArray_eq_firstArray]
  cases firstArray key d <;> rfl

/-- The records search of a document is the pre-order search: an object's own array first, then
its values and an array's items in order. It finds nothing exactly when no object in the
document holds an array under the name, and the units of a document text are the marker and
then the items of the array found. -/
theorem records_search_is_preorder (key : String) (d : Value) :
    findArray key d = firstArray key d ∧
      (findArray key d = none ↔ ¬ HoldsArray key d) ∧
      ∀ text xs, parse text = .ok d → firstArray key d = some xs →
        documentEntries text key = (.arrayStart key :: xs.map .unit, none) := by
  refine ⟨findArray_eq_firstArray key d, findArray_eq_none_iff key d, fun text xs hp hx => ?_⟩
  rw [documentEntries_of_parse hp, hx]

/-- The member under the name holds an object, not an array, so the search goes on inside it
and finds the deeper array before the one in the next member. -/
theorem records_search_enters_named_object :
    let text := "\x7b\"series\": \x7b\"x\": [\x7b\"series\": [1]\x7d]\x7d, \"y\": " ++
      "\x7b\"series\": [2]\x7d\x7d"
    let d : Value := .dict [(.str "series", .dict [(.str "x", .list [.dict [(.str "series",
      .list [.int 1])]])]), (.str "y", .dict [(.str "series", .list [.int 2])])]
    parse text = .ok d ∧ firstArray "series" d = some [.int 1] ∧
      documentEntries text "series" = (.arrayStart "series" :: [.unit (.int 1)], none) := by
  intro text d
  have hp : parse text = .ok d := by cbv
  have hf : firstArray "series" d = some [.int 1] := rfl
  exact ⟨hp, hf, (records_search_is_preorder "series" d).2.2 _ _ hp hf⟩

end SeriesImport.Json
