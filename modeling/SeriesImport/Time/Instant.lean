import SeriesImport.Time.Calendar
import SeriesImport.Text.Blank
import SeriesImport.Text.Digit
import SeriesImport.Error
/-!
# Instants written as RFC 3339 text

An instant is written `YYYY-MM-DDTHH:MM:SS`, then optionally a point and one to nine digits of
a second, then `Z` or an offset `+HH:MM` or `-HH:MM`; blanks around it are ignored. The digits
of the shape may come from any script, but the date, time and offset must then be ASCII to be
read; the fraction may keep other digits.

The date must exist in years 1 to 9999, the time must lie within its day, and `24:00:00` stands
for the midnight that ends the day. An offset of zero is universal time; another offset must
have fewer than 24 hours and 60 minutes. Text that breaks one of these rules names no instant.
An instant whose universal time leaves the years 1 to 9999 is an error.
-/

namespace SeriesImport.Time

open SeriesImport.Text

-- Naturals are raised to powers with the core instance, also where Mathlib's monoid power is
-- in scope.
attribute [local instance (high + 1)] instPowNat

/-- The parts of a text of the right shape: date and time, fraction digits, offset. -/
structure Stamp where
  base : List Char
  fraction : List Char
  offset : List Char

/-- Whether characters fit a shape, where `d` stands for a digit of any script. -/
def fits (shape : List Char) (cs : List Char) : Bool :=
  shape.length == cs.length &&
    (shape.zip cs).all fun (p, c) => if p == 'd' then isDigit c else p == c

/-- Split a text of the right shape into its parts. -/
def Stamp.ofChars? (cs : List Char) : Option Stamp :=
  let base := cs.take 19
  if !fits "dddd-dd-ddTdd:dd:dd".toList base then none
  else
    let rest := cs.drop 19
    let (fraction, rest) := match rest with
      | '.' :: r => (r.takeWhile isDigit, r.dropWhile isDigit)
      | _ => ([], rest)
    let pointOk := match cs.drop 19 with
      | '.' :: _ => 1 ≤ fraction.length && fraction.length ≤ 9
      | _ => true
    let offsetOk := rest == ['Z'] || ((rest.head? == some '+' || rest.head? == some '-') &&
      fits "dd:dd".toList (rest.drop 1))
    if pointOk && offsetOk then some ⟨base, fraction, rest⟩ else none

def digitsValue (cs : List Char) : Nat :=
  cs.foldl (fun a c => a * 10 + (digitValue? c).getD 0) 0

def slice (cs : List Char) (start len : Nat) : Nat := digitsValue ((cs.drop start).take len)

/-- The offset from universal time in seconds, if valid. -/
def offsetSeconds? (cs : List Char) : Option Int :=
  match cs with
  | ['Z'] => some 0
  | sign :: body =>
    let h := slice body 0 2
    let m := slice body 3 2
    if h == 0 && m == 0 then some 0
    else if m > 59 || h > 23 then none
    else
      let s : Int := (h * 60 + m) * 60
      some (if sign == '-' then -s else s)
  | [] => none

/-- Seconds from the start of 1970 to the start of year 10000. -/
def endOfRange : Int := (Date.mk 10000 1 1).days * 86400

/-- Seconds from the start of 1970 to the start of year 1. -/
def startOfRange : Int := (Date.mk 1 1 1).days * 86400

/-- Local seconds from the start of 1970 named by the date and time, if they exist. -/
def localSeconds? (base : List Char) : Option Int :=
  let d : Date := ⟨slice base 0 4, slice base 5 2, slice base 8 2⟩
  let h := slice base 11 2
  let mi := slice base 14 2
  let s := slice base 17 2
  if d.year < 1 || !d.valid then none
  else if h == 24 then
    if mi != 0 || s != 0 then none
    else
      let next := d.days + 1
      if next * 86400 ≥ endOfRange then none else some (next * 86400)
  else if h > 23 || mi > 59 || s > 59 then none
  else some (d.days * 86400 + h * 3600 + mi * 60 + s)

/-- Nanoseconds from the start of 1970 to the instant a text names, `none` if it names none. -/
def parseInstant (text : String) : Except Error (Option Int) :=
  match Stamp.ofChars? (strip text).toList with
  | none => .ok none
  | some st =>
    if !(st.base ++ st.offset).all (fun c => c.toNat < 128) then .ok none
    else
      match localSeconds? st.base, offsetSeconds? st.offset with
      | some secs, some off =>
        let utc := secs - off
        if off != 0 && (utc < startOfRange || utc ≥ endOfRange) then .error .dateOutOfRange
        else
          let nanos : Nat := digitsValue st.fraction * 10 ^ (9 - st.fraction.length)
          .ok (some (utc * 1000000000 + nanos))
      | _, _ => .ok none

theorem localSeconds_epoch : localSeconds? "1970-01-01T00:00:00".toList = some 0 := by
  decide

end SeriesImport.Time
