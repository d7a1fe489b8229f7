import SeriesImport.Number.Binary
import SeriesImport.Text.Blank
import SeriesImport.Text.Digit
/-!
# Reading numbers from text

An integer is written as an optional sign and decimal digits, with single underscores allowed
between digits. A real is an optional sign and either `inf`, `infinity` or `nan` in any case,
or digits with at most one point and an optional exponent `e` or `E`, signed; underscores may
stand only between two digits. Both may be surrounded by ASCII blanks. An integer may also be
read in base two, eight or sixteen, after an optional prefix `0b`, `0o` or `0x` that names the
base.

A decimal integer is read from at most 4300 digits. The run of digits is measured before
anything after it is looked at, so a longer run is refused for its length even when other
characters follow it; a doubled or final underscore inside the run is refused first.

Digits of every script count as their ASCII digits, and every Unicode blank counts as a space;
any other character beyond ASCII can stand in no number.
-/

namespace SeriesImport.Number

open SeriesImport.Text

-- Naturals are raised to powers with the core instance, also where Mathlib's monoid power is
-- in scope.
attribute [local instance (high + 1)] instPowNat

/-- The ASCII form of a text: digits of any script become ASCII digits, blanks become spaces,
and any other character beyond ASCII becomes `?`, which no number holds. -/
def asciiForm (cs : List Char) : List Char :=
  cs.map fun c =>
    if c.toNat < 127 then c
    else if isBlank c then ' '
    else match digitValue? c with
      | some d => Char.ofNat (48 + d)
      | none => '?'

def isAsciiBlank (c : Char) : Bool :=
  c == ' ' || c == '\t' || c == '\n' || c == '\x0b' || c == '\x0c' || c == '\r'

def trimAscii (cs : List Char) : List Char :=
  ((cs.dropWhile isAsciiBlank).reverse.dropWhile isAsciiBlank).reverse

def asciiDigit? (c : Char) : Option Nat :=
  if '0' ≤ c && c ≤ '9' then some (c.toNat - 48) else none

/-- The most decimal digits an integer is read from. -/
def intDigitLimit : Nat := 4300

/-- What reading a decimal integer from text gives. -/
inductive IntText where
  /-- The text reads as this integer. -/
  | value (i : Int)
  /-- The text holds a run of this many digits, more than `intDigitLimit`. -/
  | tooLong (digits : Nat)
  /-- The text is no integer. -/
  | malformed
  deriving Repr, DecidableEq

/-- The run of digits with single underscores between them that starts a text, after its
first digit: its value (the value so far is `acc`), the number of digits (`n` so far), and
what follows it. `none` when an underscore is doubled or ends the run. -/
def digitRun (acc n : Nat) : List Char → Option (Nat × Nat × List Char)
  | [] => some (acc, n, [])
  | '_' :: c :: rest =>
    match asciiDigit? c with
    | some d => digitRun (acc * 10 + d) (n + 1) rest
    | none => none
  | ['_'] => none
  | c :: rest =>
    match asciiDigit? c with
    | some d => digitRun (acc * 10 + d) (n + 1) rest
    | none => some (acc, n, c :: rest)

/-- The sign that may start a text, and the text after it: `-` makes it negative. -/
def splitSign (cs : List Char) : Bool × List Char :=
  match cs with
  | '-' :: r => (true, r)
  | '+' :: r => (false, r)
  | _ => (false, cs)

/-- Read a decimal integer from ASCII text without surrounding blanks. -/
def readIntAscii (cs : List Char) : IntText :=
  let (neg, body) := splitSign cs
  match body with
  | c :: rest =>
    match asciiDigit? c, digitRun 0 0 (c :: rest) with
    | some _, some (v, n, after) =>
      if n > intDigitLimit then .tooLong n
      else if after.isEmpty then .value (if neg then -(v : Int) else v)
      else .malformed
    | _, _ => .malformed
  | [] => .malformed

def readIntText (s : String) : IntText :=
  readIntAscii (trimAscii (asciiForm s.toList))

def readInt? (s : String) : Option Int :=
  match readIntText s with
  | .value i => some i
  | _ => none

/-- What a text that reads as a real names. -/
inductive RealText where
  | nan
  | infinite (neg : Bool)
  /-- `(-1)^neg · digits · 10^exp`. -/
  | finite (neg : Bool) (digits : Nat) (exp : Int)
  deriving Repr, DecidableEq

/-- Underscores stand only between two ASCII digits; remove them. -/
def dropUnderscores (cs : List Char) : Option (List Char) :=
  go none cs
where
  /-- `prev` is the character before, if any. -/
  go (prev : Option Char) : List Char → Option (List Char)
    | [] => if prev == some '_' then none else some []
    | c :: rest =>
      if c == '_' then
        match prev with
        | some p => if (asciiDigit? p).isSome then go (some c) rest else none
        | none => none
      else if prev == some '_' && (asciiDigit? c).isNone then none
      else (go (some c) rest).map (c :: ·)

/-- Split a leading run of ASCII digits off, with its value and length. -/
def spanDigits (cs : List Char) : Nat × Nat × List Char :=
  go 0 0 cs
where
  /-- Value `v` and count `n` of the digits so far. -/
  go (v n : Nat) : List Char → Nat × Nat × List Char
    | [] => (v, n, [])
    | c :: rest =>
      match asciiDigit? c with
      | some d => go (v * 10 + d) (n + 1) rest
      | none => (v, n, c :: rest)

def lowerAscii (cs : List Char) : List Char := cs.map Char.toLower

/-- The digits after a decimal point that starts a text, with their value and number, and the
text after them; no digits when the text does not start with a point. -/
def splitFraction (cs : List Char) : Nat × Nat × List Char :=
  match cs with
  | '.' :: r => spanDigits r
  | _ => (0, 0, cs)

/-- The exponent that ends a real: none, or `e` or `E`, an optional sign and digits. -/
def readExponent : List Char → Option Int
  | [] => some 0
  | c :: r =>
    if c == 'e' || c == 'E' then
      let (eneg, r) := splitSign r
      let (ev, ne, r) := spanDigits r
      if ne == 0 || !r.isEmpty then none
      else some (if eneg then -(ev : Int) else ev)
    else none

/-- Read an unsigned real from ASCII text without blanks or underscores. -/
def readUnsignedReal (neg : Bool) (cs : List Char) : Option RealText :=
  let low := lowerAscii cs
  if low == "inf".toList || low == "infinity".toList then some (.infinite neg)
  else if low == "nan".toList then some .nan
  else
    let (whole, nw, rest) := spanDigits cs
    let (frac, nf, rest) := splitFraction rest
    if nw + nf == 0 then none
    else
      let mant := whole * 10 ^ nf + frac
      (readExponent rest).map fun x => .finite neg mant (x - nf)

/-- Read a real from ASCII text without surrounding blanks. -/
def readRealAscii (cs : List Char) : Option RealText :=
  let cs? := if cs.contains '_' then dropUnderscores cs else some cs
  cs?.bind fun cs =>
    let (neg, body) := splitSign cs
    readUnsignedReal neg body

def readReal? (s : String) : Option RealText :=
  readRealAscii (trimAscii (asciiForm s.toList))

/-- The double a real text names. -/
def RealText.toFloat : RealText → Float
  | .nan => notANumber
  | .infinite neg => infinity neg
  | .finite neg d x => ofDecimal neg d x

/-- The value of a digit in a base up to sixteen: an ASCII digit, or a letter from `a` to `f`
in either case. -/
def baseDigit? (base : Nat) (c : Char) : Option Nat :=
  let d := if '0' ≤ c && c ≤ '9' then some (c.toNat - 48)
    else if 'a' ≤ c && c ≤ 'f' then some (c.toNat - 87)
    else if 'A' ≤ c && c ≤ 'F' then some (c.toNat - 55)
    else none
  d.filter (· < base)

/-- Read digits of a base with single underscores between them, after at least one digit; the
value so far is `acc`. -/
def baseDigits (base acc : Nat) : List Char → Option Nat
  | [] => some acc
  | '_' :: c :: rest =>
    match baseDigit? base c with
    | some d => baseDigits base (acc * base + d) rest
    | none => none
  | c :: rest =>
    match baseDigit? base c with
    | some d => baseDigits base (acc * base + d) rest
    | none => none

/-- Remove the prefix naming a base, `0b`, `0o` or `0x` in either case, and one underscore after
it; `none` when there is no such prefix. -/
def dropBasePrefix (base : Nat) : List Char → Option (List Char)
  | '0' :: c :: rest =>
    let l := c.toLower
    if (base == 2 && l == 'b') || (base == 8 && l == 'o') || (base == 16 && l == 'x') then
      some (match rest with
        | '_' :: r => r
        | r => r)
    else none
  | _ => none

/-- Read an integer in a base from text: like `readInt?`, with digits of the base and an
optional prefix naming it. -/
def readIntBase? (base : Nat) (s : String) : Option Int :=
  let t := trimAscii (asciiForm s.toList)
  let (neg, body) := splitSign t
  match (dropBasePrefix base body).getD body with
  | c :: rest =>
    match baseDigit? base c with
    | some d => (baseDigits base d rest).map fun n => if neg then -(n : Int) else n
    | none => none
  | [] => none

theorem digitRun_nil (acc n : Nat) : digitRun acc n [] = some (acc, n, []) := rfl

end SeriesImport.Number
