import SeriesImport.Document.Series
import SeriesImport.Number.Read
/-!
# Importing result documents

A result document holds metrics, each with labels and samples of a time and a value. Every
sample becomes one line under the configured measurement, with a single field: the first
configured field, or `value`. The start of the records array needs a measurement in the
settings and sets the target as for series documents.

The tags of a line are the configured tags, each with the metric's label or empty text, or
else all labels of the metric. A sample's value is written as it stands when it is text, and as
a field value otherwise; its time is read as a double and written in plain positional form. The
head of the lines grows from the measurement of the context as for series documents, in place
when it is a list.
-/

namespace SeriesImport.Document

/-- The step on the start of a result array. -/
def resultStart (c : Context) (s : Settings) : Context × Except Error Action :=
  if !s.measurement.truthy then (c, .error (.header "measurement is required"))
  else
    let names := if s.fields.truthy then s.fields else .list [.str "value"]
    match names.index (.int 0) with
    | .error e => (c, .error e)
    | .ok field =>
      let (c, a) := start c s
      let c := c.resetColumns
      match field.requireKey with
      | .error e => (c, .error e)
      | .ok () => ({ c with fieldMap := [(field, ⟨field, 1⟩)] }, .ok a)

/-- The label of a metric under a name, or the empty text. -/
def labelOf (metric name : Value) : Except Error Value :=
  match metric with
  | .dict ms => do
    name.requireKey
    pure ((entryValue? ms name).getD (.str ""))
  | v => .error (.missingAttribute ("'" ++ v.typeName ++ "' object has no attribute 'get'"))

/-- The double a sample time stands for; a time that does not read is an unreadable unit. -/
def sampleTime (v : Value) : Except Error Float :=
  match v.toFloat with
  | .ok x => .ok x
  | .error (.wrongKind _) | .error (.badValue _) =>
    .error (.parse ("invalid sample timestamp: " ++ v.literal) none "")
  | .error e => .error e

def sampleValue (v : Value) : String :=
  match v with
  | .str t => t
  | v => FieldValue.render (FieldValue.ofValue? v)

/-- The samples of a result record. -/
def samplesOf (ms : List (Value × Value)) : Value :=
  match getKey? ms "values", getKey? ms "value" with
  | some vs, _ => if vs.truthy then vs else .list []
  | none, some v => .list [v]
  | none, none => .list []

/-- The lines of the samples of a record under a head. -/
def sampleLines (ms : List (Value × Value)) (head : Value) (c : Context) : Except Error Action := do
  let some (field, _) := c.fieldMap.head? | throw .exhausted
  let lines ← (← (samplesOf ms).iterate).mapM fun sample =>
    match sample with
    | .list (t :: v :: _) => do
      let value := sampleValue v
      let time ← sampleTime t
      pure (head.display ++ " " ++ field.display ++ "=" ++ value ++ " " ++ plainFloat time)
    | v => throw (.parse ("sample must be a [time, value] pair: " ++ v.literal) none "")
  pure (if lines.isEmpty then .noop else .lines lines)

/-- The step on a result record. -/
def resultStep (record : Value) (c : Context) (s : Settings) :
    Context × Settings × Except Error Action :=
  match record with
  | .dict ms =>
    let metric := memberOr ms "metric" (.dict [])
    let tags : Except Error (List (Value × Value)) :=
      if s.tags.truthy then do
        (← s.tags.iterate).mapM fun name => do pure (name, ← labelOf metric name)
      else itemsOf metric
    match tags with
    | .error e => (c, s, .error e)
    | .ok tags =>
      let (c, s, head) := growShared c s tags
      (c, s, do sampleLines ms (← head) c)
  | v => (c, s, .error (.parse ("result record must be an object, got " ++ v.kindName) none ""))

theorem resultStart_unnamed (c : Context) (s : Settings) (h : s.measurement.truthy = false) :
    (resultStart c s).2 = .error (.header "measurement is required") := by
  simp [resultStart, h]

end SeriesImport.Document
