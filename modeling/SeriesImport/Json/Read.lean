import SeriesImport.Value
import SeriesImport.Number.Read
/-!
# Reading documents

The reader takes JSON text: objects, arrays, texts in double quotes with backslash escapes,
`true`, `false`, `null`, numbers, and the constants `NaN`, `Infinity` and `-Infinity`. A number
with a fraction or an exponent is a double, rounded to nearest; any other number is an integer
of any size written with at most 4300 digits. An escaped surrogate pair is one character, and
a lone escaped surrogate is kept as its stand-in. Blanks between tokens are space, tab, line
feed and carriage return. An object is a dictionary with text keys, in which a repeated name
takes the later value and keeps its first place.

A failure names its cause and the character position where it was found; the cause's text and
the line of that position (counting from one) are what messages show.
-/

namespace SeriesImport.Json

open SeriesImport.Number

/-- Why a text is not a document. -/
inductive Failure where
  | expectingValue
  | expectingName
  | expectingColon
  | expectingComma
  | unterminatedText
  | controlCharacter
  | badEscape
  | badUnicodeEscape
  | extraData
  | byteOrderMark
  /-- An integer written with more digits than an integer is read from. -/
  | longInteger (digits : Nat)
  deriving Repr, DecidableEq

/-- The text of a cause. -/
def Failure.message : Failure → String
  | .expectingValue => "Expecting value"
  | .expectingName => "Expecting property name enclosed in double quotes"
  | .expectingColon => "Expecting ':' delimiter"
  | .expectingComma => "Expecting ',' delimiter"
  | .unterminatedText => "Unterminated string starting at"
  | .controlCharacter => "Invalid control character at"
  | .badEscape => "Invalid \\escape"
  | .badUnicodeEscape => "Invalid \\uXXXX escape"
  | .extraData => "Extra data"
  | .byteOrderMark => "Unexpected UTF-8 BOM (decode using utf-8-sig)"
  | .longInteger n => "Exceeds the limit (4300 digits) for integer string conversion: value has " ++
    toString n ++ " digits; use sys.set_int_max_str_digits() to increase the limit"

/-- A cause and the character position where it was found. -/
structure ReadError where
  failure : Failure
  pos : Nat
  deriving Repr, DecidableEq

/-- What is left to read, and its position in the whole text. -/
structure Cursor where
  rest : List Char
  pos : Nat

def Cursor.skip (c : Cursor) (n : Nat) : Cursor := ⟨c.rest.drop n, c.pos + n⟩

def isJsonBlank (c : Char) : Bool := c == ' ' || c == '\t' || c == '\n' || c == '\r'

def Cursor.skipBlank (c : Cursor) : Cursor :=
  let n := (c.rest.takeWhile isJsonBlank).length
  c.skip n

/-- Value of a hexadecimal digit. -/
def hexValue? (c : Char) : Option Nat :=
  if '0' ≤ c && c ≤ '9' then some (c.toNat - 48)
  else if 'a' ≤ c && c ≤ 'f' then some (c.toNat - 87)
  else if 'A' ≤ c && c ≤ 'F' then some (c.toNat - 55)
  else none

/-- The value of four hexadecimal digits. -/
def hex4? (cs : List Char) : Option Nat :=
  match cs with
  | [a, b, c, d] => do
    let a ← hexValue? a; let b ← hexValue? b; let c ← hexValue? c; let d ← hexValue? d
    pure (((a * 16 + b) * 16 + c) * 16 + d)
  | _ => none

/-- Read the body of a text after its opening quote at `start`; `acc` holds the characters
read so far, in reverse. -/
def readText (start : Nat) (acc : List Char) : Cursor → Except ReadError (String × Cursor)
  | ⟨[], _⟩ => .error ⟨.unterminatedText, start⟩
  | ⟨'"' :: rest, pos⟩ => .ok (String.ofList acc.reverse, ⟨rest, pos + 1⟩)
  | ⟨'\\' :: e :: more, pos⟩ =>
    match e with
    | 'u' =>
      if more.length ≤ 4 then .error ⟨.badUnicodeEscape, pos + 1⟩
      else match hex4? (more.take 4) with
        | none => .error ⟨.badUnicodeEscape, pos + 1⟩
        | some hi =>
          let after := more.drop 4
          let low? : Option Nat :=
            if 0xD800 ≤ hi && hi < 0xDC00 && after.length > 6 then
              match after with
              | '\\' :: 'u' :: r => hex4? (r.take 4)
              | _ => none
            else none
          match low? with
          | some lo =>
            if 0xDC00 ≤ lo && lo < 0xE000 then
              let code := 0x10000 + (hi - 0xD800) * 0x400 + (lo - 0xDC00)
              readText start (Text.charOfCode code :: acc) ⟨more.drop 10, pos + 12⟩
            else readText start (Text.charOfCode hi :: acc) ⟨after, pos + 6⟩
          | none =>
            if 0xD800 ≤ hi && hi < 0xDC00 && after.length > 6 &&
                (match after with | '\\' :: 'u' :: _ => true | _ => false) then
              .error ⟨.badUnicodeEscape, pos + 7⟩
            else readText start (Text.charOfCode hi :: acc) ⟨after, pos + 6⟩
    | '"' => readText start ('"' :: acc) ⟨more, pos + 2⟩
    | '\\' => readText start ('\\' :: acc) ⟨more, pos + 2⟩
    | '/' => readText start ('/' :: acc) ⟨more, pos + 2⟩
    | 'b' => readText start ('\x08' :: acc) ⟨more, pos + 2⟩
    | 'f' => readText start ('\x0c' :: acc) ⟨more, pos + 2⟩
    | 'n' => readText start ('\n' :: acc) ⟨more, pos + 2⟩
    | 'r' => readText start ('\r' :: acc) ⟨more, pos + 2⟩
    | 't' => readText start ('\t' :: acc) ⟨more, pos + 2⟩
    | _ => .error ⟨.badEscape, pos⟩
  | ⟨['\\'], _⟩ => .error ⟨.unterminatedText, start⟩
  | ⟨ch :: rest, pos⟩ =>
    if ch.toNat < 0x20 then .error ⟨.controlCharacter, pos⟩
    else readText start (ch :: acc) ⟨rest, pos + 1⟩
termination_by c => c.rest.length
decreasing_by all_goals (simp only [List.length_drop, List.length_cons]; omega)

def digitRun (cs : List Char) : List Char := cs.takeWhile fun c => '0' ≤ c && c ≤ '9'

/-- Read a number at the cursor, or `none` if none starts there. An integer of more digits
than `intDigitLimit` fails where it starts. -/
def readNumber (c : Cursor) : Option (Except ReadError (Value × Cursor)) :=
  let (neg, body) := match c.rest with
    | '-' :: r => (true, r)
    | r => (false, r)
  let signLen := if neg then 1 else 0
  let whole : List Char := match body with
    | '0' :: _ => ['0']
    | d :: _ => if '1' ≤ d && d ≤ '9' then digitRun body else []
    | [] => []
  if whole.isEmpty then none
  else
    let afterWhole := body.drop whole.length
    let frac : List Char := match afterWhole with
      | '.' :: r => digitRun r
      | _ => []
    let afterFrac := if frac.isEmpty then afterWhole else afterWhole.drop (frac.length + 1)
    let expo : Option (Bool × List Char × Nat) := match afterFrac with
      | e :: r =>
        if e == 'e' || e == 'E' then
          let (eneg, r', sl) := match r with
            | '-' :: r' => (true, r', 1)
            | '+' :: r' => (false, r', 1)
            | _ => (false, r, 0)
          let ds := digitRun r'
          if ds.isEmpty then none else some (eneg, ds, 1 + sl + ds.length)
        else none
      | [] => none
    let digitsVal (ds : List Char) : Nat := ds.foldl (fun a d => a * 10 + (d.toNat - 48)) 0
    let len := signLen + whole.length + (if frac.isEmpty then 0 else frac.length + 1) +
      (match expo with | some (_, _, n) => n | none => 0)
    let value : Value :=
      if frac.isEmpty && expo.isNone then
        let n := digitsVal whole
        .int (if neg then -(n : Int) else n)
      else
        let mant := digitsVal (whole ++ frac)
        let e : Int := match expo with
          | some (eneg, ds, _) => if eneg then -(digitsVal ds : Int) else digitsVal ds
          | none => 0
        .float (ofDecimal neg mant (e - frac.length))
    if frac.isEmpty && expo.isNone && whole.length > intDigitLimit then
      some (.error ⟨.longInteger whole.length, c.pos⟩)
    else some (.ok (value, c.skip len))

mutual
/-- Read one value at the cursor. `fuel` bounds the depth of the reading. -/
def readValue : Nat → Cursor → Except ReadError (Value × Cursor)
  | 0, c => .error ⟨.expectingValue, c.pos⟩
  | fuel + 1, c =>
    match c.rest with
    | '"' :: _ => (readText c.pos [] (c.skip 1)).map fun (s, c') => (.str s, c')
    | '{' :: _ =>
      let c' := (c.skip 1).skipBlank
      match c'.rest with
      | '}' :: _ => .ok (.dict [], c'.skip 1)
      | _ => readMembers fuel [] c'
    | '[' :: _ =>
      let c' := (c.skip 1).skipBlank
      match c'.rest with
      | ']' :: _ => .ok (.list [], c'.skip 1)
      | _ => readItems fuel [] c'
    | 'n' :: 'u' :: 'l' :: 'l' :: _ => .ok (.null, c.skip 4)
    | 't' :: 'r' :: 'u' :: 'e' :: _ => .ok (.bool true, c.skip 4)
    | 'f' :: 'a' :: 'l' :: 's' :: 'e' :: _ => .ok (.bool false, c.skip 5)
    | 'N' :: 'a' :: 'N' :: _ => .ok (.float Number.notANumber, c.skip 3)
    | 'I' :: 'n' :: 'f' :: 'i' :: 'n' :: 'i' :: 't' :: 'y' :: _ =>
      .ok (.float (infinity false), c.skip 8)
    | '-' :: 'I' :: 'n' :: 'f' :: 'i' :: 'n' :: 'i' :: 't' :: 'y' :: _ =>
      .ok (.float (infinity true), c.skip 9)
    | _ =>
      match readNumber c with
      | some r => r
      | none => .error ⟨.expectingValue, c.pos⟩

/-- Read the items of an array after its opening bracket; `acc` holds the items so far, in
reverse. -/
def readItems : Nat → List Value → Cursor → Except ReadError (Value × Cursor)
  | 0, _, c => .error ⟨.expectingValue, c.pos⟩
  | fuel + 1, acc, c => do
    let (v, c) ← readValue fuel c
    let c := c.skipBlank
    match c.rest with
    | ']' :: _ => .ok (.list (v :: acc).reverse, c.skip 1)
    | ',' :: _ => readItems fuel (v :: acc) (c.skip 1).skipBlank
    | _ => .error ⟨.expectingComma, c.pos⟩

/-- Read the members of an object after its opening brace. -/
def readMembers : Nat → List (Value × Value) → Cursor → Except ReadError (Value × Cursor)
  | 0, _, c => .error ⟨.expectingValue, c.pos⟩
  | fuel + 1, acc, c => do
    match c.rest with
    | '"' :: _ =>
      let (k, c) ← readText c.pos [] (c.skip 1)
      let c := c.skipBlank
      match c.rest with
      | ':' :: _ =>
        let (v, c) ← readValue fuel (c.skip 1).skipBlank
        let acc := putEntry acc (.str k) v
        let c := c.skipBlank
        match c.rest with
        | '}' :: _ => .ok (.dict acc, c.skip 1)
        | ',' :: _ => readMembers fuel acc (c.skip 1).skipBlank
        | _ => .error ⟨.expectingComma, c.pos⟩
      | _ => .error ⟨.expectingColon, c.pos⟩
    | _ => .error ⟨.expectingName, c.pos⟩
end

/-- Read a whole document: one value between optional blanks. -/
def parse (s : String) : Except ReadError Value :=
  let cs := s.toList
  match cs with
  | '\uFEFF' :: _ => .error ⟨.byteOrderMark, 0⟩
  | _ => do
    let c := (Cursor.mk cs 0).skipBlank
    let (v, c) ← readValue (2 * cs.length + 2) c
    let c := c.skipBlank
    if c.rest.isEmpty then .ok v else .error ⟨.extraData, c.pos⟩

/-- The line of a position in a text, counting from one. -/
def lineOf (s : String) (pos : Nat) : Nat :=
  (s.toList.take pos).count '\n' + 1

theorem lineOf_zero (s : String) : lineOf s 0 = 1 := by
  simp [lineOf]

end SeriesImport.Json
