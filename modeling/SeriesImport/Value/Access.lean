import SeriesImport.Value
import SeriesImport.Error
import SeriesImport.Number.Finite
/-!
# Using values

The operations an import applies to values whose kind it does not know beforehand, each failing
the way the language of its settings and documents fails on them.

Iterating gives a list's items, a set's members, a dictionary's keys, a text's characters or a
byte string's bytes; other values cannot be iterated. Membership is equality with an item of a
list, a substring of a text (for a text only), or a key of a set or dictionary, which the value
looked for must be able to be. Indexing takes a position in a list, text or byte string,
counted from the end when negative, or a key of a dictionary. Length counts what iteration
gives. Text methods are asked of texts only. Reading an integer takes integers, truth values,
doubles cut toward zero, and texts or bytes holding decimal integers; reading a double takes
numbers, and texts or bytes holding reals. Growing by a text extends a text, and a list by the
text's characters. Joining takes texts only, and the first items of a value show it cut short.
-/

namespace SeriesImport

open SeriesImport.Text

def occursIn (needle : List Char) : List Char → Bool
  | [] => needle.isEmpty
  | c :: rest => needle.isPrefixOf (c :: rest) || occursIn needle rest

/-- The place a position stands for in `n` items, counting from the end when negative. -/
def placeIn (n : Nat) (i : Int) : Option Nat :=
  let j := if i < 0 then i + n else i
  if 0 ≤ j && j < n then some j.toNat else none

/-- Bytes as ASCII characters, with `?` for the others, which no number holds. -/
def asciiChars (bs : List UInt8) : List Char :=
  bs.map fun b => if b.toNat < 128 then Char.ofNat b.toNat else '?'

namespace Value

def requireKey (v : Value) : Except Error Unit :=
  if v.hashable then .ok () else .error (.wrongKind ("unhashable type: '" ++ v.typeName ++ "'"))

def chars (s : String) : List Value := s.toList.map fun c => .str (String.singleton c)

/-- The items a value gives when iterated. -/
def iterate : Value → Except Error (List Value)
  | .list items => .ok items
  | .set members => .ok members
  | .dict entries => .ok (entries.map (·.1))
  | .str s => .ok (chars s)
  | .bytes bs => .ok (bs.map fun b => .int b.toNat)
  | v => .error (.wrongKind ("'" ++ v.typeName ++ "' object is not iterable"))

/-- Whether `x` is in a container. -/
def contains (container x : Value) : Except Error Bool :=
  match container with
  | .list items => .ok (items.any x.equals)
  | .str s =>
    match x with
    | .str t => .ok (occursIn t.toList s.toList)
    | v => .error (.wrongKind
        ("'in <string>' requires string as left operand, not " ++ v.typeName))
  | .set members => do
    requireKey x
    pure (members.any x.equals)
  | .dict entries => do
    requireKey x
    pure (entries.any fun e => x.equals e.1)
  | .bytes bs =>
    match x with
    | .bytes sub => .ok (occursIn (asciiChars sub) (asciiChars bs))
    | v => match v.asInt? with
      | some i =>
        if 0 ≤ i && i < 256 then .ok (bs.any (·.toNat == i.toNat))
        else .error (.badValue "byte must be in range(0, 256)")
      | none => .error (.wrongKind
          ("a bytes-like object is required, not '" ++ v.typeName ++ "'"))
  | v => .error (.wrongKind ("argument of type '" ++ v.typeName ++ "' is not iterable"))

/-- The item of a container at a position or key. -/
def index (container key : Value) : Except Error Value :=
  match container with
  | .list items =>
    match key.asInt? with
    | some i => match placeIn items.length i with
      | some j => .ok (items.getD j .null)
      | none => .error (.indexOutOfRange "list")
    | none => .error (.wrongKind ("list indices must be integers or slices, not " ++ key.typeName))
  | .str s =>
    match key.asInt? with
    | some i => match placeIn s.length i with
      | some j => .ok (.str (String.singleton (s.toList.getD j ' ')))
      | none => .error (.indexOutOfRange "string")
    | none => .error (.wrongKind ("string indices must be integers, not '" ++ key.typeName ++ "'"))
  | .bytes bs =>
    match key.asInt? with
    | some i => match placeIn bs.length i with
      | some j => .ok (.int (bs.getD j 0).toNat)
      | none => .error (.indexOutOfRange "")
    | none => .error (.wrongKind ("byte indices must be integers or slices, not " ++ key.typeName))
  | .dict entries => do
    requireKey key
    match entryValue? entries key with
    | some v => pure v
    | none => throw (.missingKey key.literal)
  | v => .error (.wrongKind ("'" ++ v.typeName ++ "' object is not subscriptable"))

/-- The number of items a value gives when iterated. -/
def length : Value → Except Error Nat
  | .list items => .ok items.length
  | .set members => .ok members.length
  | .dict entries => .ok entries.length
  | .str s => .ok s.length
  | .bytes bs => .ok bs.length
  | v => .error (.wrongKind ("object of type '" ++ v.typeName ++ "' has no len()"))

/-- The text of a value asked for the text method `method`. -/
def textFor (method : String) : Value → Except Error String
  | .str s => .ok s
  | v => .error (.missingAttribute
      ("'" ++ v.typeName ++ "' object has no attribute '" ++ method ++ "'"))

/-- The integer a value reads as. -/
def toInt : Value → Except Error Int
  | .int i => .ok i
  | .bool b => .ok (if b then 1 else 0)
  | .float x => Number.truncate x
  | .str s => Number.readInt s
  | .bytes bs =>
    match Number.readIntAscii (Number.trimAscii (asciiChars bs)) with
    | .value i => .ok i
    | .tooLong n => .error (.tooManyDigits n)
    | .malformed =>
      .error (.badValue ("invalid literal for int() with base 10: " ++ bytesQuoted bs))
  | v => .error (.wrongKind
      ("int() argument must be a string, a bytes-like object or a real number, not '" ++
        v.typeName ++ "'"))

/-- The double a value reads as. -/
def toFloat : Value → Except Error Float
  | .float x => .ok x
  | .int i => match Number.ofInt? i with
    | some x => .ok x
    | none => .error .floatOverflow
  | .bool b => .ok (if b then 1 else 0)
  | .str s => match Number.readReal? s with
    | some r => .ok r.toFloat
    | none => .error (.badValue ("could not convert string to float: " ++ quoted s))
  | .bytes bs => match Number.readRealAscii (Number.trimAscii (asciiChars bs)) with
    | some r => .ok r.toFloat
    | none => .error (.badValue ("could not convert string to float: " ++ bytesQuoted bs))
  | v => .error (.wrongKind
      ("float() argument must be a string or a real number, not '" ++ v.typeName ++ "'"))

/-- A value grown by a text. -/
def appendText (head : Value) (t : String) : Except Error Value :=
  match head with
  | .str h => .ok (.str (h ++ t))
  | .list items => .ok (.list (items ++ chars t))
  | .bytes _ => .error (.wrongKind "can't concat str to bytes")
  | v => .error (.wrongKind
      ("unsupported operand type(s) for +=: '" ++ v.typeName ++ "' and 'str'"))

/-- The texts of items, or the error for the first item that is no text. -/
def textsOf : List (Value × Nat) → Except Error (List String)
  | [] => .ok []
  | (.str s, _) :: rest => do pure (s :: (← textsOf rest))
  | (v, i) :: _ => .error (.wrongKind
      ("sequence item " ++ toString i ++ ": expected str instance, " ++ v.typeName ++ " found"))

/-- The items of a value joined by `sep`; every item must be a text. -/
def joinWith (sep : String) (v : Value) : Except Error String :=
  match v.iterate with
  | .error _ => .error (.wrongKind "can only join an iterable")
  | .ok items => do pure (sep.intercalate (← textsOf items.zipIdx))

/-- The literal of the first `n` items of a value. -/
def headLiteral (n : Nat) : Value → Except Error String
  | .str s => .ok (quoted (String.ofList (s.toList.take n)))
  | .list items => .ok (Value.list (items.take n)).literal
  | .bytes bs => .ok (bytesQuoted (bs.take n))
  | .dict _ => .error (.wrongKind "unhashable type: 'slice'")
  | v => .error (.wrongKind ("'" ++ v.typeName ++ "' object is not subscriptable"))

end Value

theorem iterate_list (items : List Value) : (Value.list items).iterate = .ok items := rfl

end SeriesImport
