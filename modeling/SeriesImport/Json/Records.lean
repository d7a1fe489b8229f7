import SeriesImport.Json.Read
import SeriesImport.Error
/-!
# Record arrays in documents

A document wraps its records in an envelope; the records are the first array stored under a
given name. The search goes depth first with a stack of values still to visit: an object is asked
for the name before its values are searched, and an array's items are searched in turn, each in
document order.
-/

namespace SeriesImport.Json

-- Sums of naturals start from the core zero, also where Mathlib's is in scope.
attribute [local instance (high + 1)] Zero.ofOfNat0

theorem sizeOf_value_pos (v : Value) : 0 < sizeOf v := by
  apply Nat.pos_of_ne_zero
  cases v <;> simp

theorem sum_sizeOf_le (xs : List Value) : (xs.map sizeOf).sum ≤ sizeOf xs := by
  induction xs with
  | nil => simp
  | cons x xs ih => simp only [List.map_cons, List.sum_cons, List.cons.sizeOf_spec]; omega

theorem sum_sizeOf_snd_le (ms : List (Value × Value)) :
    ((ms.map Prod.snd).map sizeOf).sum ≤ sizeOf ms := by
  induction ms with
  | nil => simp
  | cons m ms ih =>
    obtain ⟨k, v⟩ := m
    simp only [List.map_cons, List.sum_cons, List.cons.sizeOf_spec, Prod.mk.sizeOf_spec]
    omega

/-- The first array stored under `key` within the values on a stack, its top first. The value on
top is taken off: an object whose member under `key` is an array yields that array; otherwise the
object's values go on the stack, the first on top, and so do an array's items; anything else is
dropped. -/
def searchStack (key : String) : List Value → Option (List Value)
  | [] => none
  | .dict ms :: rest =>
    match getKey? ms key with
    | some (.list xs) => some xs
    | _ => searchStack key (ms.map Prod.snd ++ rest)
  | .list xs :: rest => searchStack key (xs ++ rest)
  | _ :: rest => searchStack key rest
-- the total size of the values on the stack falls at every step
termination_by stack => (stack.map sizeOf).sum
decreasing_by
  · have := sum_sizeOf_snd_le ms
    simp only [List.map_append, List.sum_append, List.map_cons, List.sum_cons,
      Value.dict.sizeOf_spec, List.map_attach_eq_pmap, List.pmap_eq_map] at this ⊢
    omega
  · have := sum_sizeOf_le xs
    simp only [List.map_append, List.sum_append, List.map_cons, List.sum_cons,
      Value.list.sizeOf_spec] at this ⊢
    omega
  · simp only [List.map_cons, List.sum_cons]
    have := sizeOf_value_pos ‹Value›
    omega

/-- The first array stored under `key` within a document, searched from the document alone on the
stack. -/
def findArray (key : String) (doc : Value) : Option (List Value) := searchStack key [doc]

/-- The records of a document text: the first array stored under `key`. -/
def records (text : String) (key : String) : Except Error (List Value) :=
  match parse text with
  | .error ⟨.longInteger n, _⟩ => .error (.tooManyDigits n)
  | .error e =>
    .error (.parse ("Invalid JSON: " ++ e.failure.message) (some (lineOf text e.pos)) "")
  | .ok doc =>
    match findArray key doc with
    | some xs => .ok xs
    | none => .error (.parse ("no '" ++ key ++ "' array found in JSON document") none "")

theorem findArray_member (key : String) (ms : List (Value × Value)) (xs : List Value)
    (h : getKey? ms key = some (.list xs)) : findArray key (.dict ms) = some xs := by
  simp [findArray, searchStack, h]

end SeriesImport.Json
