import SeriesImport.Error
import SeriesImport.Value
/-!
# Points

A point is one record of a series: a measurement, tags and fields keyed by name in the order
the names were first given, and a timestamp. Points come from files, where the measurement is
a text and the timestamp nanoseconds, and from requests, where each may be any value; a point
without timestamp takes the time now. A point always has a measurement that counts as present
and at least one field; `Point.make` refuses the others, the missing measurement first.
-/

namespace SeriesImport

/-- One record of a series. -/
structure Point where
  measurement : Value
  tags : List (Value × Value)
  fields : List (Value × Value)
  timestamp : Value
  deriving Inhabited

/-- Build a point, refusing one without measurement or fields. -/
def Point.make (measurement : Value) (tags fields : List (Value × Value)) (timestamp : Value) :
    Except Error Point :=
  if !measurement.truthy then .error (.parse "measurement is required" none "")
  else if fields.isEmpty then .error (.parse "no fields input" none "")
  else .ok ⟨measurement, tags, fields, timestamp⟩

theorem Point.make_ok {m ts : Value} {t f : List (Value × Value)} {p : Point}
    (h : Point.make m t f ts = .ok p) : p.measurement.truthy = true ∧ p.fields ≠ [] := by
  unfold Point.make at h
  split at h
  · cases h
  · split at h
    · cases h
    · cases h
      constructor
      · simp_all
      · intro hf; simp_all

end SeriesImport
