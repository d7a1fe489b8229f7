import SeriesImport.Number.Layout
import SeriesImport.Text.Literal
import SeriesImport.Time.Calendar
/-!
# Values

The values an import meets: what a document, a configuration file or a request holds, and what
units, contexts and points carry. A value is nothing, a truth value, an integer of any size, a
double, a text, a string of bytes, a date, a moment, a list, a set, or a dictionary whose
entries stay in the order their keys first came.

Values are shown in two ways. The literal form writes `None`, `True`, `False`, numbers, quoted
texts and bytes, lists in brackets, sets and dictionaries in braces, dates and moments as the
calls that make them. The display form is the literal form, except that a text shows as
itself and a date or a moment in its ISO form. Each kind has a name for messages, such as
`NoneType`, `int` or `datetime.date`, and a short name without its module.

Two values are equal when they are the same number, whatever kinds hold it (`1`, `1.0` and
`True` are one number), the same text, bytes, date or instant, lists of equal items in order,
sets of the same members, or dictionaries of the same keys with equal values. A not-a-number
is equal to nothing: each one read is a value of its own. Lists, sets and dictionaries cannot
be keys; a dictionary keeps one entry per key, with the key first given and the value last
given.
-/

namespace SeriesImport

open SeriesImport.Number SeriesImport.Text

-- Naturals are raised to powers with the core instance, also where Mathlib's monoid power is
-- in scope.
attribute [local instance (high + 1)] instPowNat

/-- A moment: a date, a time of day to the microsecond, and an offset from UTC in minutes when
one was given. -/
structure Moment where
  year : Nat
  month : Nat
  day : Nat
  hour : Nat
  minute : Nat
  second : Nat
  micro : Nat
  offset : Option Int
  deriving DecidableEq

/-- A value. -/
inductive Value where
  | null
  | bool (b : Bool)
  | int (i : Int)
  | float (x : Float)
  | str (s : String)
  | bytes (data : List UInt8)
  | date (year month day : Nat)
  | moment (m : Moment)
  | list (items : List Value)
  | set (members : List Value)
  | dict (entries : List (Value × Value))
  deriving Inhabited

/-- Write a number with at least `width` digits. -/
def padded (width n : Nat) : String :=
  let ds := Nat.toDigits 10 n
  String.ofList (List.replicate (width - ds.length) '0' ++ ds)

def dateText (year month day : Nat) : String :=
  padded 4 year ++ "-" ++ padded 2 month ++ "-" ++ padded 2 day

/-- The ISO form of an offset from UTC in minutes. -/
def offsetText (minutes : Int) : String :=
  let sign := if minutes < 0 then "-" else "+"
  let m := minutes.natAbs
  sign ++ padded 2 (m / 60) ++ ":" ++ padded 2 (m % 60)

/-- The ISO form of a moment, date and time separated by a space; microseconds only when there
are some. -/
def Moment.text (m : Moment) : String :=
  dateText m.year m.month m.day ++ " " ++ padded 2 m.hour ++ ":" ++ padded 2 m.minute ++ ":" ++
    padded 2 m.second ++ (if m.micro == 0 then "" else "." ++ padded 6 m.micro) ++
    (match m.offset with | some o => offsetText o | none => "")

/-- The literal of a span of `minutes`, as whole days (rounded down) and the seconds left. -/
def spanLiteral (minutes : Int) : String :=
  let secs := minutes * 60
  let days := secs.fdiv 86400
  let rest := secs - days * 86400
  if secs == 0 then "datetime.timedelta(0)"
  else if days == 0 then "datetime.timedelta(seconds=" ++ toString rest ++ ")"
  else if rest == 0 then "datetime.timedelta(days=" ++ toString days ++ ")"
  else "datetime.timedelta(days=" ++ toString days ++ ", seconds=" ++ toString rest ++ ")"

/-- The literal of a moment: the call that makes it, with the seconds only when they or the
microseconds are not zero, the microseconds only when they are not, and the zone when there is
an offset. -/
def Moment.literal (m : Moment) : String :=
  let time := [m.hour, m.minute] ++
    (if m.micro != 0 then [m.second, m.micro] else if m.second != 0 then [m.second] else [])
  let zone := match m.offset with
    | none => ""
    | some 0 => ", tzinfo=datetime.timezone.utc"
    | some o => ", tzinfo=datetime.timezone(" ++ spanLiteral o ++ ")"
  "datetime.datetime(" ++ ", ".intercalate (([m.year, m.month, m.day] ++ time).map toString) ++
    zone ++ ")"

/-- Microseconds from 1 January 1970 to the moment, on its own clock. -/
def Moment.localMicros (m : Moment) : Int :=
  let days := (Time.Date.mk m.year m.month m.day).days
  (((days * 24 + m.hour) * 60 + m.minute) * 60 + m.second) * 1000000 + m.micro

/-- Whether two moments are equal: the same instant when both have offsets, the same fields
when neither has, and never when only one has. -/
def Moment.same (a b : Moment) : Bool :=
  match a.offset, b.offset with
  | some x, some y => a.localMicros - x * 60000000 == b.localMicros - y * 60000000
  | none, none => a == b
  | _, _ => false

/-- Whether a double is exactly an integer. -/
def floatIsInt (x : Float) (i : Int) : Bool :=
  match Binary.ofFloat x with
  | .finite neg m e =>
    let sameSign := m == 0 || neg == decide (i < 0)
    let magnitude := if e ≥ 0 then m * 2 ^ e.toNat == i.natAbs
      else m == i.natAbs * 2 ^ (-e).toNat
    (m == 0 && i == 0) || (sameSign && magnitude && i != 0)
  | _ => false

namespace Value

/-- The name of a value's kind, as messages about operations on it give it. -/
def typeName : Value → String
  | .null => "NoneType"
  | .bool _ => "bool"
  | .int _ => "int"
  | .float _ => "float"
  | .str _ => "str"
  | .bytes _ => "bytes"
  | .date .. => "datetime.date"
  | .moment _ => "datetime.datetime"
  | .list _ => "list"
  | .set _ => "set"
  | .dict _ => "dict"

/-- The short name of a value's kind, without the module it comes from. -/
def kindName : Value → String
  | .date .. => "date"
  | .moment _ => "datetime"
  | v => v.typeName

mutual
/-- The literal form. -/
def literal : Value → String
  | .null => "None"
  | .bool b => if b then "True" else "False"
  | .int i => toString i
  | .float x => Layout.exact.write x
  | .str s => quoted s
  | .bytes bs => bytesQuoted bs
  | .date y m d => "datetime.date(" ++ toString y ++ ", " ++ toString m ++ ", " ++ toString d ++ ")"
  | .moment m => m.literal
  | .list items => "[" ++ ", ".intercalate (literalItems items) ++ "]"
  | .set members =>
    if members.isEmpty then "set()" else "\x7b" ++ ", ".intercalate (literalItems members) ++ "\x7d"
  | .dict entries => "\x7b" ++ ", ".intercalate (literalEntries entries) ++ "\x7d"

def literalItems : List Value → List String
  | [] => []
  | v :: rest => literal v :: literalItems rest

def literalEntries : List (Value × Value) → List String
  | [] => []
  | (k, v) :: rest => (literal k ++ ": " ++ literal v) :: literalEntries rest
end

/-- The display form: a text shows as itself, a date or a moment in its ISO form, other values
in literal form. -/
def display : Value → String
  | .str s => s
  | .date y m d => dateText y m d
  | .moment m => m.text
  | v => v.literal

/-- Whether a value counts as present: not nothing, false, zero, or empty. -/
def truthy : Value → Bool
  | .null => false
  | .bool b => b
  | .int i => i != 0
  | .float x => !(x == 0)
  | .str s => !s.isEmpty
  | .bytes bs => !bs.isEmpty
  | .date .. | .moment _ => true
  | .list items => !items.isEmpty
  | .set members => !members.isEmpty
  | .dict entries => !entries.isEmpty

def hashable : Value → Bool
  | .list _ | .set _ | .dict _ => false
  | _ => true

/-- The integer a truth value or an integer stands for. -/
def asInt? : Value → Option Int
  | .bool b => some (if b then 1 else 0)
  | .int i => some i
  | _ => none

/-- Whether two values that are not lists, sets or dictionaries are equal. -/
def sameScalar (a b : Value) : Bool :=
  match a, b with
  | .null, .null => true
  | .str s, .str t => s == t
  | .bytes s, .bytes t => s == t
  | .date y m d, .date y' m' d' => y == y' && m == m' && d == d'
  | .moment x, .moment y => x.same y
  | .float x, .float y => x == y
  | .float x, b => match b.asInt? with | some i => floatIsInt x i | none => false
  | a, .float y => match a.asInt? with | some i => floatIsInt y i | none => false
  | a, b => match a.asInt?, b.asInt? with
    | some i, some j => i == j
    | _, _ => false

def isContainer : Value → Bool
  | .list _ | .set _ | .dict _ => true
  | _ => false

mutual
/-- Whether two values are equal. -/
def equals : Value → Value → Bool
  | .list as, .list bs => listEquals as bs
  | .set as, .set bs => as.length == bs.length && as.all fun a => bs.any (sameScalar a)
  | .dict as, .dict bs => as.length == bs.length && entriesWithin as bs
  | a, b => !(isContainer a) && !(isContainer b) && sameScalar a b

def listEquals : List Value → List Value → Bool
  | [], [] => true
  | a :: as, b :: bs => equals a b && listEquals as bs
  | _, _ => false

/-- Whether every entry of the first has its key in the second, with an equal value. -/
def entriesWithin : List (Value × Value) → List (Value × Value) → Bool
  | [], _ => true
  | (k, v) :: rest, bs =>
    (match bs.find? fun e => sameScalar k e.1 with
      | some e => equals v e.2
      | none => false) && entriesWithin rest bs
end

end Value

def entryValue? (entries : List (Value × Value)) (k : Value) : Option Value :=
  (entries.find? fun e => Value.sameScalar e.1 k).map (·.2)

def getKey? (entries : List (Value × Value)) (k : String) : Option Value :=
  entryValue? entries (.str k)

/-- Set a key among entries: an equal key keeps its place and its first form, and takes the
new value. -/
def putEntry (entries : List (Value × Value)) (k v : Value) : List (Value × Value) :=
  if entries.any (fun e => Value.sameScalar e.1 k) then
    entries.map fun e => if Value.sameScalar e.1 k then (e.1, v) else e
  else entries ++ [(k, v)]

def textEntries (members : List (String × Value)) : List (Value × Value) :=
  members.map fun (k, v) => (.str k, v)

theorem sameScalar_str (s : String) : Value.sameScalar (.str s) (.str s) = true := by
  simp [Value.sameScalar]

theorem entryValue?_putEntry_str (entries : List (Value × Value)) (s : String) (v : Value) :
    entryValue? (putEntry entries (.str s) v) (.str s) = some v := by
  unfold putEntry entryValue?
  split
  · next h =>
    obtain ⟨e, he, hk⟩ := List.any_eq_true.1 h
    have hfind : ∀ l : List (Value × Value),
        (∀ x ∈ l, Value.sameScalar x.1 (.str s) = true → x.2 = v) →
        (∃ x ∈ l, Value.sameScalar x.1 (.str s) = true) →
        ((l.find? fun e => Value.sameScalar e.1 (.str s)).map (·.2)) = some v := by
      intro l hall hex
      obtain ⟨x, hx, hxk⟩ := hex
      cases hf : l.find? (fun e => Value.sameScalar e.1 (.str s)) with
      | none =>
        rw [List.find?_eq_none] at hf
        exact absurd hxk (by simpa using hf x hx)
      | some y =>
        have hy := List.mem_of_find?_eq_some hf
        have hyk := List.find?_some hf
        simp [hall y hy (by simpa using hyk)]
    apply hfind
    · intro x hx hxk
      rw [List.mem_map] at hx
      obtain ⟨y, _, rfl⟩ := hx
      by_cases hy : Value.sameScalar y.1 (.str s) = true
      · simp [hy]
      · simp [hy] at hxk
    · refine ⟨(e.1, v), ?_, by simpa using hk⟩
      rw [List.mem_map]
      exact ⟨e, he, by simp [hk]⟩
  · next h =>
    have hnone : (entries.find? fun e => Value.sameScalar e.1 (.str s)) = none := by
      rw [List.find?_eq_none]
      intro x hx hxk
      exact h (List.any_eq_true.2 ⟨x, hx, hxk⟩)
    simp [List.find?_append, hnone, sameScalar_str]

end SeriesImport
