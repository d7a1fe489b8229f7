import SeriesImport.LineProtocol.Table
import SeriesImport.Point
import SeriesImport.Text.Blank
import SeriesImport.Number.Read
import SeriesImport.Value.Arith
/-!
# Reading line protocol

Each character of a line first meets three switches. After a backslash it is taken as it is. A
double quote turns quoting on or off and is dropped; while quoting, commas, spaces and brackets
are plain. Inside a bracketed tag value a comma is plain. Only then does the transition table
decide. Values keep the literal text of the line, without the quotes.

A pending pair of key and value is stored when the machine advances to a key or the timestamp,
and at the end of the line; a pair without key is dropped. A key named twice keeps its first
place and its last value.

The timestamp, when present, is a signed run of ASCII digits, perhaps with one line feed after
it; it is multiplied by the given multiplier, the length of its unit, and more than 4300
digits are refused. A line without one is stamped with the clock. A line without fields is
refused.
-/

namespace SeriesImport.LineProtocol

open SeriesImport.Text

/-- The machine's state while reading one line. Texts being read are kept in reverse. -/
structure Scan where
  state : State := .measurement
  escape : Bool := false
  quote : Bool := false
  bracket : Bool := false
  measurement : List Char := []
  key : List Char := []
  value : List Char := []
  timestamp : List Char := []
  tags : List (Value × Value) := []
  fields : List (Value × Value) := []

/-- Add a character to the part being read. -/
def Scan.append (s : Scan) (c : Char) : Scan :=
  match s.state with
  | .measurement => { s with measurement := c :: s.measurement }
  | .tagKey | .fieldKey => { s with key := c :: s.key }
  | .tagValue | .fieldValue => { s with value := c :: s.value }
  | .timestamp => { s with timestamp := c :: s.timestamp }

/-- Store the pending pair, if it has a key, under tags or fields as the state says. -/
def Scan.commit (s : Scan) : Scan :=
  if s.key.isEmpty then { s with value := [] }
  else
    let k := Value.str (String.ofList s.key.reverse)
    let v := Value.str (String.ofList s.value.reverse)
    let s := match s.state with
      | .tagKey | .tagValue => { s with tags := putEntry s.tags k v }
      | .fieldKey | .fieldValue => { s with fields := putEntry s.fields k v }
      | _ => s
    { s with key := [], value := [] }

/-- The outcome of one character. -/
inductive Step where
  | next (s : Scan)
  | stop (s : Scan)
  | reject (c : Char)

/-- Feed one character. -/
def Scan.feed (s : Scan) (c : Char) : Step :=
  if s.escape then .next ({ s with escape := false }.append c)
  else if c == '\\' then .next { s with escape := true }
  else if c == '"' then .next { s with quote := !s.quote }
  else
    let cls := CharClass.of c
    if s.quote && cls.quotable then .next (s.append c)
    else if s.bracket && cls == .comma && s.state == .tagValue then .next (s.append c)
    else
      let t := Transition.of s.state cls
      match t.effect with
      | .append => .next (s.append c)
      | .advance =>
        let s := match t.next with
          | some .tagValue | some .fieldValue => s
          | _ => s.commit
        .next { s with state := t.next.getD s.state }
      | .ignore => .next s
      | .reject => .reject c
      | .stop => .stop s
      | .openBracket => .next ({ s with bracket := true }.append c)
      | .closeBracket => .next ({ s with bracket := false }.append c)

/-- Feed characters until the line ends or the machine stops; a refused character is
returned. -/
def Scan.run (s : Scan) : List Char → Except Char Scan
  | [] => .ok s
  | c :: rest =>
    match s.feed c with
    | .next s' => s'.run rest
    | .stop s' => .ok s'
    | .reject c => .error c

/-- The value of a timestamp text: a signed run of ASCII digits, perhaps followed by one line
feed; `none` for any other text, and an error for more digits than an integer is read
from. -/
def timestampValue? (cs : List Char) : Except Error (Option Int) :=
  let body := match cs.reverse with
    | '\n' :: r => r.reverse
    | _ => cs
  let (neg, digits) := match body with
    | '-' :: r => (true, r)
    | '+' :: r => (false, r)
    | _ => (false, body)
  if digits.isEmpty || !digits.all (fun c => '0' ≤ c && c ≤ '9') then .ok none
  else if digits.length > Number.intDigitLimit then .error (.tooManyDigits digits.length)
  else
    let n : Nat := digits.foldl (fun a d => a * 10 + (d.toNat - 48)) 0
    .ok (some (if neg then -(n : Int) else n))

/-- The point of a finished scan of `line`. -/
def Scan.finish (s : Scan) (line : String) (multiplier : Value) (now : Int) :
    Except Error Point := do
  let s := s.commit
  let text := s.timestamp.reverse
  let ts ← if text.isEmpty then pure (.int now)
    else match ← timestampValue? text with
      | some n => Value.timesInt n multiplier
      | none => throw (.parse ("invalid timestamp: " ++ quoted (String.ofList text)) none line)
  if s.fields.isEmpty then throw (.parse "no fields input" none line)
  Point.make (.str (String.ofList s.measurement.reverse)) s.tags s.fields ts

/-- Read one line of data, already stripped. -/
def readData (line : String) (multiplier : Value) (now : Int) : Except Error Point :=
  match ({} : Scan).run line.toList with
  | .ok s => s.finish line multiplier now
  | .error c =>
    .error (.parse ("invalid tag value token: '" ++ String.singleton c ++ "'") none line)

/-- Read one line: blank lines and lines starting with `#` give no point. -/
def readLine (line : String) (multiplier : Value) (now : Int) : Except Error (Option Point) :=
  let line := strip line
  match line.toList with
  | [] => .ok none
  | '#' :: _ => .ok none
  | _ => (readData line multiplier now).map some

/-- Read lines numbered from `n`, stopping at the first error. -/
def readLinesFrom (multiplier : Value) (now : Int) (n : Nat) :
    List String → Except Error (List Point)
  | [] => .ok []
  | l :: rest =>
    match readLine l multiplier now with
    | .error e => .error (Error.atLine n (strip l) e)
    | .ok p => (readLinesFrom multiplier now (n + 1) rest).map fun ps => p.toList ++ ps

/-- Read a whole text, split at every line break; the first bad line fails the whole. -/
def readText (text : String) (multiplier : Value) (now : Int) : Except Error (List Point) :=
  readLinesFrom multiplier now 1 (lines text)

theorem readLine_comment (line : String) (rest : List Char) (multiplier : Value) (now : Int)
    (h : (strip line).toList = '#' :: rest) :
    readLine line multiplier now = .ok none := by
  unfold readLine
  simp only [h]

end SeriesImport.LineProtocol
