import SeriesImport.Text.Printable
/-!
# Quoted text literals

Messages show a piece of text as a quoted literal. The quote is the apostrophe, unless the
text holds an apostrophe and no double quote; then it is the double quote. Inside, the quote
in use and the backslash get a backslash before them, tab, line feed and carriage return are
written as `\t`, `\n` and `\r`, and every other character that is not printable is written
by its code point in lowercase hexadecimal: `\x` and two digits up to `ff`, `\u` and four up
to `ffff`, `\U` and eight above.

Texts cannot hold the surrogate code points `D800` to `DFFF`, which a text may still name
alone through an escape. Each such lone surrogate is kept as a stand-in: one of the last 2048
code points, from `10F800` on, which texts of the inputs do not use. A literal writes a
stand-in as the surrogate it stands for, `\u` and four digits.

A literal of bytes is quoted the same way, with a `b` before it; a byte outside ASCII is always
written as `\x` and two digits.
-/

namespace SeriesImport.Text

/-- The lowercase hexadecimal digits of `n`, padded with zeros to `width`. -/
def hexDigits (width n : Nat) : List Char :=
  let ds := Nat.toDigits 16 n
  List.replicate (width - ds.length) '0' ++ ds

/-- The first code point of the stand-ins for lone surrogates. -/
def standInBase : Nat := 0x10F800

/-- The stand-in of the surrogate code point `n`, from `D800` to `DFFF`. -/
def standIn (n : Nat) : Char := Char.ofNat (standInBase + (n - 0xD800))

/-- The surrogate code point a character stands in for, if it is a stand-in. -/
def surrogateOf? (c : Char) : Option Nat :=
  if c.toNat ≥ standInBase then some (c.toNat - standInBase + 0xD800) else none

/-- The character of a code point below `110000`; a surrogate becomes its stand-in. -/
def charOfCode (n : Nat) : Char :=
  if 0xD800 ≤ n && n < 0xE000 then standIn n else Char.ofNat n

/-- How one character is written inside a literal quoted with `q`. -/
def escapeIn (q : Char) (c : Char) : List Char :=
  if c == q || c == '\\' then ['\\', c]
  else if c == '\t' then ['\\', 't']
  else if c == '\n' then ['\\', 'n']
  else if c == '\r' then ['\\', 'r']
  else if isPrintable c then [c]
  else if let some n := surrogateOf? c then '\\' :: 'u' :: hexDigits 4 n
  else if c.toNat ≤ 0xFF then '\\' :: 'x' :: hexDigits 2 c.toNat
  else if c.toNat ≤ 0xFFFF then '\\' :: 'u' :: hexDigits 4 c.toNat
  else '\\' :: 'U' :: hexDigits 8 c.toNat

def quoteFor (s : String) : Char :=
  if s.toList.contains '\'' && !s.toList.contains '"' then '"' else '\''

def quoted (s : String) : String :=
  let q := quoteFor s
  String.ofList (q :: (s.toList.flatMap (escapeIn q) ++ [q]))

/-- How one byte is written inside a bytes literal quoted with `q`. -/
def escapeByteIn (q : Char) (b : UInt8) : List Char :=
  if b < 0x80 then escapeIn q (Char.ofNat b.toNat) else '\\' :: 'x' :: hexDigits 2 b.toNat

def bytesQuoted (bs : List UInt8) : String :=
  let q := if bs.contains 0x27 && !bs.contains 0x22 then '"' else '\''
  String.ofList ('b' :: q :: (bs.flatMap (escapeByteIn q) ++ [q]))

theorem standIn_toNat (n : Nat) (h : n < 0xE000) :
    (standIn n).toNat = standInBase + (n - 0xD800) := by
  unfold standIn Char.ofNat
  rw [dif_pos (show (standInBase + (n - 0xD800)).isValidChar from
    Or.inr ⟨by simp only [standInBase]; omega, by simp only [standInBase]; omega⟩)]
  unfold Char.ofNatAux Char.toNat
  simp only [standInBase] at *
  simp
  omega

theorem surrogateOf_standIn (n : Nat) (h1 : 0xD800 ≤ n) (h2 : n < 0xE000) :
    surrogateOf? (standIn n) = some n := by
  unfold surrogateOf?
  rw [standIn_toNat n h2, if_pos (by omega)]
  congr 1
  omega

theorem quoteFor_of_no_apostrophe (s : String) (h : s.toList.contains '\'' = false) :
    quoteFor s = '\'' := by
  unfold quoteFor
  rw [h]
  rfl

end SeriesImport.Text
