/-!
# Blank characters and line breaks

A character is blank when it separates words in any script: the ASCII controls from tab to
carriage return, the four information separators, space, next line, no-break space and the
Unicode space separators, line and paragraph separators. Stripping removes blank characters
from the ends of a text.

A text breaks into lines at line feed, carriage return, a carriage return followed by a line
feed, the vertical tab, the form feed, the file, group and record separators, next line, and
the line and paragraph separators. Files are read with only the first three of these as line
ends, and each line read from a file keeps its end.
-/

namespace SeriesImport.Text

/-- Blank characters, by code point. -/
def isBlank (c : Char) : Bool :=
  let n := c.toNat
  (0x09 ≤ n && n ≤ 0x0D) || (0x1C ≤ n && n ≤ 0x20) || n == 0x85 || n == 0xA0 ||
  n == 0x1680 || (0x2000 ≤ n && n ≤ 0x200A) || n == 0x2028 || n == 0x2029 ||
  n == 0x202F || n == 0x205F || n == 0x3000

def isLineBreak (c : Char) : Bool :=
  let n := c.toNat
  (0x0A ≤ n && n ≤ 0x0D) || (0x1C ≤ n && n ≤ 0x1E) || n == 0x85 || n == 0x2028 ||
  n == 0x2029

def stripStart (s : String) : String := String.ofList (s.toList.dropWhile isBlank)

def stripEnd (s : String) : String :=
  String.ofList (s.toList.reverse.dropWhile isBlank).reverse

def strip (s : String) : String := stripEnd (stripStart s)

/-- The lines of a text without their ends, gathering the current line in reverse in `acc`.
A carriage return followed by a line feed is one end; text after the last end makes a line
only if it is not empty. -/
def linesFrom : List Char → List Char → List String
  | [], acc => if acc.isEmpty then [] else [String.ofList acc.reverse]
  | '\r' :: '\n' :: rest, acc => String.ofList acc.reverse :: linesFrom rest []
  | c :: rest, acc =>
    if isLineBreak c then String.ofList acc.reverse :: linesFrom rest []
    else linesFrom rest (c :: acc)

def lines (s : String) : List String := linesFrom s.toList []

/-- The lines of a file with their ends kept, split only after a line feed, a carriage
return, or a carriage return followed by a line feed. -/
def fileLinesFrom : List Char → List Char → List String
  | [], acc => if acc.isEmpty then [] else [String.ofList acc.reverse]
  | '\r' :: '\n' :: rest, acc => String.ofList (acc.reverse ++ ['\r', '\n']) :: fileLinesFrom rest []
  | c :: rest, acc =>
    if c == '\n' || c == '\r' then String.ofList (acc.reverse ++ [c]) :: fileLinesFrom rest []
    else fileLinesFrom rest (c :: acc)

def fileLines (s : String) : List String := fileLinesFrom s.toList []

def dropLineEnd (s : String) : String :=
  String.ofList (s.toList.reverse.dropWhile (fun c => c == '\n' || c == '\r')).reverse

theorem stripStart_head (s : String) :
    ∀ c ∈ (stripStart s).toList.head?, isBlank c = false := by
  intro c hc
  simp only [stripStart, String.toList_ofList] at hc
  have h := List.head?_dropWhile_not isBlank s.toList
  rw [hc] at h
  simpa using h

end SeriesImport.Text
