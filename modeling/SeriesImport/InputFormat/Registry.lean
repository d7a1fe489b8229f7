import SeriesImport.InputFormat
import SeriesImport.Text.Case
import SeriesImport.Value.Access
/-!
# The registry of formats

Formats are found by name. Names are kept and looked up in lower case; registering a name
again replaces its format in place. The registry lists its names sorted. A name given as a
value must be a text, since it is lowered before anything else is done with it.
-/

namespace SeriesImport

/-- Formats by name, in the order the names were first registered. -/
structure Registry where
  entries : List (String × InputFormat)

/-- The registry every import starts from: the four formats under their own names. -/
def Registry.builtin : Registry :=
  ⟨[.lineProtocol, .csv, .series, .result].map fun f => (f.name, f)⟩

/-- Entries with `f` under `key`: in place of the entry with that key, or added last. -/
def putFormat : List (String × InputFormat) → String → InputFormat → List (String × InputFormat)
  | [], key, f => [(key, f)]
  | (k, g) :: rest, key, f => if k == key then (k, f) :: rest else (k, g) :: putFormat rest key f

def lookupFormat : List (String × InputFormat) → String → Option InputFormat
  | [], _ => none
  | (k, g) :: rest, key => if k == key then some g else lookupFormat rest key

def Registry.register (r : Registry) (name : String) (f : InputFormat) : Registry :=
  ⟨putFormat r.entries (Text.lower name) f⟩

def Registry.find (r : Registry) (name : String) : Except Error InputFormat :=
  match lookupFormat r.entries (Text.lower name) with
  | some f => .ok f
  | none => .error (.formatNotFound (Text.lower name) (r.entries.map (·.1)))

def Registry.contains (r : Registry) (name : String) : Bool :=
  (lookupFormat r.entries (Text.lower name)).isSome

def Registry.registerValue (r : Registry) (name : Value) (f : InputFormat) :
    Except Error Registry := do
  pure (r.register (← name.textFor "lower") f)

def Registry.findValue (r : Registry) (name : Value) : Except Error InputFormat := do
  r.find (← name.textFor "lower")

def Registry.containsValue (r : Registry) (name : Value) : Except Error Bool := do
  pure (r.contains (← name.textFor "lower"))

/-- The registered names, sorted. -/
def Registry.names (r : Registry) : List String :=
  (r.entries.map (·.1)).mergeSort fun a b => decide (a ≤ b)

def Registry.empty : Registry := ⟨[]⟩

theorem lookupFormat_putFormat (es : List (String × InputFormat)) (key : String) (f : InputFormat) :
    lookupFormat (putFormat es key f) key = some f := by
  induction es with
  | nil => simp [putFormat, lookupFormat]
  | cons e rest ih =>
    obtain ⟨k, g⟩ := e
    by_cases h : k == key <;> simp_all [putFormat, lookupFormat]

theorem find_register (r : Registry) (name : String) (f : InputFormat) :
    (r.register name f).find name = .ok f := by
  simp [Registry.register, Registry.find, lookupFormat_putFormat]

end SeriesImport
