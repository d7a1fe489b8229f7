import SeriesImport.Value
import SeriesImport.Error
import SeriesImport.Number.Read
import SeriesImport.Number.Finite
import SeriesImport.Text.Case
/-!
# YAML scalars

A scalar's tag says what it stands for. A plain scalar without a tag, and any scalar tagged
with a lone `!`, takes its tag from its text as YAML 1.1 says, looked up by its first character:

* `~`, `null` and the empty text are null;
* `yes`, `no`, `true`, `false`, `on` and `off`, in lower, capitalized or upper case, are truth
  values;
* integers are decimal, binary after `0b`, hex after `0x`, octal after a leading `0`, or
  sexagesimal with colons, with underscores anywhere after the first digit;
* reals need a point, may carry a signed exponent, may be sexagesimal, and include `.inf` and
  `.nan`;
* dates are `yyyy-mm-dd`, and moments add a time of day, a fraction and an offset;
* `<<` is a merge key and `=` a default value.

Every other scalar is text. A text ending in one line feed takes the tag the text before it
would take.

Building the value follows the tag, and fails the way the matching operation fails: an integer
or a real that does not read, an unknown truth value, a date out of range.
-/

namespace SeriesImport.Yaml

open SeriesImport.Text

/-- The full name of a tag of the YAML type repository. -/
def standardTag (name : String) : String := "tag:yaml.org,2002:" ++ name

def isDec (c : Char) : Bool := '0' ≤ c && c ≤ '9'

def isHex (c : Char) : Bool := isDec c || ('a' ≤ c && c ≤ 'f') || ('A' ≤ c && c ≤ 'F')

/-- Split off an optional sign: whether there was one, and what follows. -/
def splitSign (cs : List Char) : Bool × List Char :=
  match cs with
  | '-' :: r => (true, r)
  | '+' :: r => (true, r)
  | _ => (false, cs)

/-- Whether a part after a colon is a sexagesimal digit pair `[0-5]?[0-9]`. -/
def isSixtyPart (cs : List Char) : Bool :=
  match cs with
  | [d] => isDec d
  | [a, b] => '0' ≤ a && a ≤ '5' && isDec b
  | _ => false

def isDecRun (cs : List Char) : Bool := cs.all fun c => isDec c || c == '_'

/-- Whether a text is a signed exponent `[eE][-+][0-9]+`. -/
def isExponent (cs : List Char) : Bool :=
  match cs with
  | e :: s :: ds => (e == 'e' || e == 'E') && (s == '-' || s == '+') && !ds.isEmpty && ds.all isDec
  | _ => false

/-- Whether a text is `[0-9_]*` followed by an optional exponent. -/
def isFractionTail (cs : List Char) : Bool :=
  let rest := cs.dropWhile fun c => isDec c || c == '_'
  rest.isEmpty || isExponent rest

/-- The truth value words. -/
def isBoolText (cs : List Char) : Bool :=
  ["yes", "Yes", "YES", "no", "No", "NO", "true", "True", "TRUE", "false", "False", "FALSE",
    "on", "On", "ON", "off", "Off", "OFF"].contains (String.ofList cs)

def isNullText (cs : List Char) : Bool :=
  ["~", "null", "Null", "NULL", ""].contains (String.ofList cs)

/-- Whether a text is `[1-9][0-9_]*` followed by one or more `:[0-5]?[0-9]`. -/
def isSexagesimalInt (cs : List Char) : Bool :=
  match cs.splitOn ':' with
  | (c :: r) :: parts@(_ :: _) => '1' ≤ c && c ≤ '9' && isDecRun r && parts.all isSixtyPart
  | _ => false

/-- Whether a text is an integer in one of YAML 1.1's forms. -/
def isIntText (cs : List Char) : Bool :=
  match (splitSign cs).2 with
  | '0' :: 'b' :: r => !r.isEmpty && r.all fun c => c == '0' || c == '1' || c == '_'
  | '0' :: 'x' :: r => !r.isEmpty && r.all fun c => isHex c || c == '_'
  | ['0'] => true
  | '0' :: r => r.all fun c => ('0' ≤ c && c ≤ '7') || c == '_'
  | c :: r => '1' ≤ c && c ≤ '9' && (isDecRun r || isSexagesimalInt (c :: r))
  | [] => false

/-- Whether a text is `[0-9][0-9_]*(:[0-5]?[0-9])+\.[0-9_]*`. -/
def isSexagesimalReal (cs : List Char) : Bool :=
  match cs.splitOn ':' with
  | (c :: r) :: parts@(_ :: _) =>
    isDec c && isDecRun r && parts.dropLast.all isSixtyPart &&
      (match parts.getLast? with
        | some last =>
          let whole := last.takeWhile (· != '.')
          isSixtyPart whole && (match last.drop whole.length with
            | '.' :: f => isDecRun f
            | _ => false)
        | none => false)
  | _ => false

/-- Whether a text is a real in one of YAML 1.1's forms. -/
def isFloatText (cs : List Char) : Bool :=
  let (signed, body) := splitSign cs
  let pointed := match body with
    | c :: _ =>
      isDec c && (match body.dropWhile (fun x => isDec x || x == '_') with
        | '.' :: r => isFractionTail r
        | _ => false)
    | [] => false
  let bare := match body with
    | '.' :: d :: r => !signed && isDec d && isFractionTail r
    | _ => false
  let special := [".inf", ".Inf", ".INF"].contains (String.ofList body) ||
    (!signed && [".nan", ".NaN", ".NAN"].contains (String.ofList body))
  pointed || bare || isSexagesimalReal body || special

/-- Take `n` ASCII digits, or fewer down to `least`, as many as there are. -/
def takeDigits (least most : Nat) (cs : List Char) : Option (Nat × List Char) :=
  let ds := (cs.take most).takeWhile isDec
  if ds.length < least then none
  else some (ds.foldl (fun a d => a * 10 + (d.toNat - 48)) 0, cs.drop ds.length)

/-- An offset from UTC as written: `Z`, or a sign, hours and perhaps minutes. -/
inductive Zone where
  | utc
  | offset (neg : Bool) (hours : Nat) (minutes : Nat)

/-- The time of day of a written moment. -/
structure Clock where
  hour : Nat
  minute : Nat
  second : Nat
  /-- The digits after the point. -/
  fraction : List Char
  zone : Option Zone

/-- A written date, with a time of day when one is given. -/
structure Stamp where
  year : Nat
  month : Nat
  day : Nat
  clock : Option Clock

def expectChar (c : Char) (cs : List Char) : Option (List Char) :=
  match cs with
  | d :: r => if c == d then some r else none
  | [] => none

/-- Read an offset: blanks, then `Z` or a sign with one or two digits of hours and perhaps a
colon and two digits of minutes; it must end the text. -/
def readZone (cs : List Char) : Option Zone :=
  match cs.dropWhile (fun c => c == ' ' || c == '\t') with
  | ['Z'] => some .utc
  | s :: r =>
    if s == '+' || s == '-' then do
      let (h, r) ← takeDigits 1 2 r
      match r with
      | [] => some (.offset (s == '-') h 0)
      | _ => do
        let r ← expectChar ':' r
        let (m, r) ← takeDigits 2 2 r
        if r.isEmpty then some (.offset (s == '-') h m) else none
    else none
  | [] => none

/-- Read a time of day after the date: `T`, `t` or blanks, hours, minutes, seconds, perhaps a
fraction, perhaps an offset. -/
def readClock (cs : List Char) : Option Clock := do
  let r ← match cs with
    | c :: r =>
      if c == 'T' || c == 't' then some r
      else if c == ' ' || c == '\t' then some (r.dropWhile fun c => c == ' ' || c == '\t')
      else none
    | [] => none
  let (hour, r) ← takeDigits 1 2 r
  let r ← expectChar ':' r
  let (minute, r) ← takeDigits 2 2 r
  let r ← expectChar ':' r
  let (second, r) ← takeDigits 2 2 r
  let (fraction, r) := match r with
    | '.' :: f => (f.takeWhile isDec, f.dropWhile isDec)
    | _ => ([], r)
  if r.isEmpty then some ⟨hour, minute, second, fraction, none⟩
  else (readZone r).map fun z => ⟨hour, minute, second, fraction, some z⟩

/-- Read a written date: four digits of year, one or two of month and of day, and perhaps a
time of day. -/
def readStamp (cs : List Char) : Option Stamp := do
  let (year, r) ← takeDigits 4 4 cs
  let r ← expectChar '-' r
  let (month, r) ← takeDigits 1 2 r
  let r ← expectChar '-' r
  let (day, r) ← takeDigits 1 2 r
  if r.isEmpty then some ⟨year, month, day, none⟩
  else (readClock r).map fun c => ⟨year, month, day, some c⟩

/-- Whether a text is a date `yyyy-mm-dd` or a moment. -/
def isTimestampText (cs : List Char) : Bool :=
  let plainDate := cs.length == 10 && cs[4]? == some '-' && cs[7]? == some '-' &&
    ((cs.take 4) ++ (cs.drop 5).take 2 ++ cs.drop 8).all isDec
  plainDate || (match readStamp cs with
    | some s => s.clock.isSome
    | none => false)

/-- Whether a pattern matches a text, or the text without one final line feed. -/
def matchesText (p : List Char → Bool) (cs : List Char) : Bool :=
  p cs || (cs.getLast? == some '\n' && p cs.dropLast)

/-- The tag of a scalar: from its text when `implicit`, else text. -/
def resolveScalar (value : String) (implicit : Bool) : String :=
  let cs := value.toList
  if !implicit then standardTag "str"
  else match cs.head? with
    | none => standardTag "null"
    | some c =>
      if "yYnNtTfFoO".contains c && matchesText isBoolText cs then standardTag "bool"
      else if "-+0123456789.".contains c && matchesText isFloatText cs then standardTag "float"
      else if "-+0123456789".contains c && matchesText isIntText cs then standardTag "int"
      else if c == '<' && matchesText (· == ['<', '<']) cs then standardTag "merge"
      else if "~nN".contains c && matchesText isNullText cs then standardTag "null"
      else if isDec c && matchesText isTimestampText cs then standardTag "timestamp"
      else if c == '=' && matchesText (· == ['=']) cs then standardTag "value"
      else standardTag "str"

/-- The failure of reading an integer in a base. -/
def intFailure (base : Nat) (text : String) : Error :=
  if base == 10 then .notInteger text
  else .badValue ("invalid literal for int() with base " ++ toString base ++ ": " ++ quoted text)

/-- Read an integer in a base, failing as integer conversion does. -/
def intIn (base : Nat) (text : String) : Except Error Int :=
  if base == 10 then Number.readInt text
  else match Number.readIntBase? base text with
    | some i => .ok i
    | none => .error (intFailure base text)

/-- Read a real, failing as real conversion does. -/
def floatOfText (text : String) : Except Error Float :=
  match Number.readReal? text with
  | some r => .ok r.toFloat
  | none => .error (.badValue ("could not convert string to float: " ++ quoted text))

/-- The integer a scalar of the integer tag stands for: underscores dropped, a sign, then `0`,
binary after `0b`, hex after `0x`, octal after `0`, sexagesimal with colons, or decimal. -/
def constructInt (value : String) : Except Error Int := do
  let cs := value.toList.filter (· != '_')
  let first ← match cs.head? with
    | some c => pure c
    | none => throw (Error.indexOutOfRange "string")
  let sign : Int := if first == '-' then -1 else 1
  let body := if first == '+' || first == '-' then cs.drop 1 else cs
  let text (l : List Char) := String.ofList l
  if body == ['0'] then return 0
  match body with
  | '0' :: 'b' :: r => return sign * (← intIn 2 (text r))
  | '0' :: 'x' :: r => return sign * (← intIn 16 (text r))
  | '0' :: _ => return sign * (← intIn 8 (text body))
  | _ :: _ =>
    if body.contains ':' then
      let digits ← (body.splitOn ':').mapM fun part => intIn 10 (text part)
      return sign * digits.foldl (fun acc d => acc * 60 + d) 0
    else return sign * (← intIn 10 (text body))
  | [] => throw (Error.indexOutOfRange "string")

/-- The real a scalar of the real tag stands for: underscores dropped and lowercased, a sign,
then `.inf`, `.nan`, sexagesimal with colons summed from the last part, or decimal. -/
def constructFloat (value : String) : Except Error Float := do
  let cs := (lower (String.ofList (value.toList.filter (· != '_')))).toList
  let first ← match cs.head? with
    | some c => pure c
    | none => throw (Error.indexOutOfRange "string")
  let neg := first == '-'
  let body := if first == '+' || first == '-' then cs.drop 1 else cs
  let signed (x : Float) : Float := if neg then -x else x
  if body == ".inf".toList then return Number.infinity neg
  if body == ".nan".toList then return Number.notANumber
  if body.contains ':' then
    let digits ← (body.splitOn ':').mapM fun part => floatOfText (String.ofList part)
    let (sum, _) := digits.reverse.foldl
      (fun (acc : Float × Nat) d => (acc.1 + d * Float.ofNat acc.2, acc.2 * 60)) (0, 1)
    return signed sum
  return signed (← floatOfText (String.ofList body))

/-- Whether a scalar of the real tag reads as `.nan`, in any case and with any sign. All such
scalars of a document stand for one shared not-a-number, while any other reading makes a
not-a-number of its own. -/
def readsSharedNaN (value : String) : Bool :=
  let cs := (lower (String.ofList (value.toList.filter (· != '_')))).toList
  let body := match cs with
    | '+' :: rest | '-' :: rest => rest
    | _ => cs
  body == ".nan".toList

/-- The truth value a scalar of the truth value tag stands for. -/
def constructBool (value : String) : Except Error Bool :=
  let key := lower value
  if key == "yes" || key == "true" || key == "on" then .ok true
  else if key == "no" || key == "false" || key == "off" then .ok false
  else .error (.missingKey (quoted key))

/-- The failure of an offset of a day or more, showing it as days and seconds. -/
def offsetFailure (minutes : Int) : Error :=
  let total := minutes * 60
  let days := total.fdiv 86400
  let seconds := total - days * 86400
  let parts := (if days != 0 then ["days=" ++ toString days] else []) ++
    (if seconds != 0 then ["seconds=" ++ toString seconds] else [])
  let shown := if parts.isEmpty then "0" else ", ".intercalate parts
  .badValue ("offset must be a timedelta strictly between -timedelta(hours=24) and " ++
    "timedelta(hours=24), not datetime.timedelta(" ++ shown ++ ").")

/-- Check that a date exists. -/
def checkDate (year month day : Nat) : Except Error Unit :=
  if year < 1 then .error (.badValue ("year " ++ toString year ++ " is out of range"))
  else if month < 1 || month > 12 then .error (.badValue "month must be in 1..12")
  else if day < 1 || day > Time.monthLength year month then
    .error (.badValue "day is out of range for month")
  else .ok ()

/-- The date or moment a scalar of the timestamp tag stands for. -/
def constructTimestamp (value : String) : Except Error Value := do
  let cs := value.toList
  let stamp? := match readStamp cs with
    | some s => some s
    | none => if cs.getLast? == some '\n' then readStamp cs.dropLast else none
  let some s := stamp?
    | throw (.missingAttribute "'NoneType' object has no attribute 'groupdict'")
  match s.clock with
  | none =>
    checkDate s.year s.month s.day
    return .date s.year s.month s.day
  | some c =>
    let micro := (c.fraction.take 6 ++ List.replicate (6 - c.fraction.length) '0').foldl
      (fun a d => a * 10 + (d.toNat - 48)) 0
    let offset ← match c.zone with
      | none => pure none
      | some .utc => pure (some 0)
      | some (.offset neg h m) =>
        let total : Int := h * 60 + m
        let o := if neg then -total else total
        if o.natAbs ≥ 24 * 60 then throw (offsetFailure o)
        pure (some o)
    checkDate s.year s.month s.day
    if c.hour > 23 then throw (.badValue "hour must be in 0..23")
    if c.minute > 59 then throw (.badValue "minute must be in 0..59")
    if c.second > 59 then throw (.badValue "second must be in 0..59")
    return .moment ⟨s.year, s.month, s.day, c.hour, c.minute, c.second, micro, offset⟩

theorem resolveScalar_empty : resolveScalar "" true = standardTag "null" := rfl

end SeriesImport.Yaml
