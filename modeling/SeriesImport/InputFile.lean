import SeriesImport.Archive.Gzip
import SeriesImport.Text.Utf8
import SeriesImport.Text.Blank
/-!
# Input files

An input file is read as UTF-8 text, each broken sequence replaced, with its line ends kept as
they are. It is unpacked first when it is gzip: when its name's suffix is `.gz` in any case, or
when it starts with the bytes `1f 8b`.

Reading a gzip file that turns out broken gives the text before the fault and then the fault.
What a reader sees of that text ends before an unfinished character and before a final carriage
return, which may yet be the first half of a line end; of its lines only those that end are
seen.
-/

namespace SeriesImport

open SeriesImport.Text SeriesImport.Archive

/-- A file to import: its name, and its bytes when it exists. -/
structure InputFile where
  name : String
  content : Option (Array UInt8)

/-- The suffix of a file name: from the last point of its last component, when that point is
neither the first nor the last character there. -/
def nameSuffix (name : String) : String :=
  let base := (name.toList.reverse.takeWhile (· != '/')).reverse
  match (List.range base.length).reverse.find? (fun i => base[i]? == some '.') with
  | some i => if 0 < i && i + 1 < base.length then String.ofList (base.drop i) else ""
  | none => ""

/-- Lower-case ASCII letters. A suffix is compared only with `.gz`, and no character outside
ASCII lowers to an ASCII letter, so this is enough. -/
def asciiLower (s : String) : String :=
  String.ofList (s.toList.map fun c =>
    if 'A' ≤ c && c ≤ 'Z' then Char.ofNat (c.toNat + 32) else c)

def InputFile.isGzip (name : String) (bytes : Array UInt8) : Bool :=
  asciiLower (nameSuffix name) == ".gz" || bytes.extract 0 2 == #[0x1f, 0x8b]

/-- What reading a file gives: the text a reader sees, and the fault that stopped it, if any. -/
structure Reading where
  text : String
  fault : Option Error

/-- The text seen of bytes delivered before a fault. -/
def seenBeforeFault (bytes : Array UInt8) : String :=
  let cs := decodeChars false bytes.toList
  String.ofList (if cs.getLast? == some '\r' then cs.dropLast else cs)

/-- Read a file. -/
def InputFile.read (f : InputFile) : Except Error Reading :=
  match f.content with
  | none => .error (.missingFile ("File not found: " ++ f.name))
  | some bytes =>
    if InputFile.isGzip f.name bytes then
      let u := unpack bytes
      match u.fault with
      | none => .ok ⟨decodeUtf8 u.bytes, none⟩
      | some e => .ok ⟨seenBeforeFault u.bytes, some e⟩
    else .ok ⟨decodeUtf8 bytes, none⟩

/-- The whole text of a file; a fault fails it. -/
def InputFile.text (f : InputFile) : Except Error String := do
  let r ← f.read
  match r.fault with
  | some e => throw e
  | none => pure r.text

/-- The lines of a file, each with its end, and the fault after them, if any. -/
def InputFile.lines (f : InputFile) : Except Error (List String × Option Error) := do
  let r ← f.read
  match r.fault with
  | none => pure (fileLines r.text, none)
  | some e =>
    let ls := (fileLines r.text).filter fun l =>
      l.toList.getLast? == some '\n' || l.toList.getLast? == some '\r'
    pure (ls, some e)

theorem read_missing (name : String) :
    (InputFile.mk name none).read = .error (.missingFile ("File not found: " ++ name)) := rfl

end SeriesImport
