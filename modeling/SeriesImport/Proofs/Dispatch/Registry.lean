import Mathlib
import SeriesImport.Dispatch.Record
/-!
# Which target a request builder is for

The registry of request builders files each builder under a text key: the database and the
retention policy shown as text and joined by a dot. The key does not tell targets apart when a
name holds a dot: database `a.b` with policy `c` and database `a` with policy `b.c` share the key
`a.b.c`. A lookup then hands out the builder made for whichever of them came first, and a column
write for the other is addressed to it.
-/

namespace SeriesImport.Dispatch

def RequestBuilder.target (b : RequestBuilder) : Value × Value := (b.database, b.retentionPolicy)

@[simp] theorem RequestBuilder.target_new (d rp : Value) : (RequestBuilder.new d rp).target = (d, rp) :=
  rfl

namespace BuilderRegistry

/-- The registry after looking up the builders of `ts`, in order, from an empty one. -/
def ofGets (ts : List (Value × Value)) : BuilderRegistry :=
  ts.foldl (fun r t => (r.get t.1 t.2).2) ⟨[]⟩

/-- The target of the builder filed under `k`, if any. -/
def targetOf (r : BuilderRegistry) (k : String) : Option (Value × Value) :=
  (r.builders.find? (·.1 == k)).map (·.2.target)

/-- The first of `ts` whose key is `k`. -/
def firstUnder (ts : List (Value × Value)) (k : String) : Option (Value × Value) :=
  ts.find? fun t => key t.1 t.2 == k

/-- A lookup returns the builder filed under the key of the target asked for, or a new one for
that target when there is none. -/
theorem get_fst_target (r : BuilderRegistry) (d rp : Value) :
    (r.get d rp).1.target = (r.targetOf (key d rp)).getD (d, rp) := by
  cases hf : r.builders.find? (·.1 == key d rp) with
  | none => simp [get, targetOf, hf]
  | some e =>
    obtain ⟨k, b⟩ := e
    simp [get, targetOf, hf]

/-- A lookup files a new builder for the target asked for only when its key has none. -/
theorem targetOf_get (r : BuilderRegistry) (d rp : Value) (k : String) :
    (r.get d rp).2.targetOf k =
      (r.targetOf k).or (if key d rp == k then some (d, rp) else none) := by
  cases hf : r.builders.find? (·.1 == key d rp) with
  | none =>
    by_cases hk : key d rp = k
    · subst hk
      simp [get, targetOf, hf, List.find?_append]
    · simp [get, targetOf, hf, List.find?_append, hk]
  | some e =>
    obtain ⟨k', b⟩ := e
    by_cases hk : key d rp = k
    · subst hk
      simp [get, targetOf, hf]
    · simp [get, targetOf, hf, hk]

theorem targetOf_foldl_get (ts : List (Value × Value)) (r : BuilderRegistry) (k : String) :
    (ts.foldl (fun r t => (r.get t.1 t.2).2) r).targetOf k = (r.targetOf k).or (firstUnder ts k) := by
  induction ts generalizing r with
  | nil => simp [firstUnder]
  | cons t ts ih =>
    rw [List.foldl_cons, ih, targetOf_get, Option.or_assoc]
    congr 1
    by_cases hk : key t.1 t.2 = k <;> simp [firstUnder, hk]

/-- After lookups from an empty registry, each key holds the builder of the first target looked
up under it. -/
theorem targetOf_ofGets (ts : List (Value × Value)) (k : String) :
    (ofGets ts).targetOf k = firstUnder ts k := by
  rw [ofGets, targetOf_foldl_get]
  simp [targetOf]

/-- After lookups from an empty registry, a lookup returns the builder of the first target looked
up under the same key, the target asked for if it is the first. -/
theorem get_ofGets_target (ts : List (Value × Value)) (d rp : Value) :
    ((ofGets ts).get d rp).1.target = (firstUnder ts (key d rp)).getD (d, rp) := by
  rw [get_fst_target, targetOf_ofGets]

/-- After lookups from an empty registry, a lookup returns a builder for the target asked for
exactly when the first target looked up before under the same key, if any, is that target. -/
theorem get_ofGets_target_iff (ts : List (Value × Value)) (d rp : Value) :
    ((ofGets ts).get d rp).1.database = d ∧ ((ofGets ts).get d rp).1.retentionPolicy = rp ↔
      ∀ t ∈ firstUnder ts (key d rp), t = (d, rp) := by
  have h := get_ofGets_target ts d rp
  rw [← Prod.mk.injEq]
  change ((ofGets ts).get d rp).1.target = (d, rp) ↔ _
  rw [h]
  cases firstUnder ts (key d rp) with
  | none => simp
  | some t => simp

/-- Database `a.b` with policy `c` and database `a` with policy `b.c` share a key, so once the
first has a builder, a lookup for the second returns it. -/
theorem get_confuses_dotted_targets :
    key (.str "a.b") (.str "c") = key (.str "a") (.str "b.c") ∧
      ((ofGets [(.str "a.b", .str "c")]).get (.str "a") (.str "b.c")).1.target =
        (.str "a.b", .str "c") :=
  ⟨by decide, rfl⟩

end BuilderRegistry

end SeriesImport.Dispatch
