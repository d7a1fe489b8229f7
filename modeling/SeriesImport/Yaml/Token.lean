import SeriesImport.Error
import SeriesImport.Json.Read
/-!
# YAML tokens

A YAML text is first cut into tokens: indicators (`-`, `?`, `:`, `,`, brackets and braces),
anchors, aliases, tags, scalars, and the markers that block structure leaves implicit. Block
structure is read from indentation: a collection opens where a line's content starts further
right than the enclosing one, and closes when a later line starts further left.

A key written without `?` is only known to be a key when its `:` is found, on the same line
and within 1024 characters. Each token that could begin such a key is remembered; when the `:`
comes, the key marker (and, for a new block mapping, the mapping's start) is placed before that
token. The tokens are kept in the order they were read and the markers are spliced in at the
end, so no token moves once it is read. A token that may still begin a key is not yet known to
follow the tokens before it, so when cutting the text fails, only the tokens before the first
such token count as read.

The rules follow YAML 1.1 as configuration files use it. Tabs separate nothing outside quoted
scalars, comments and block scalar text: a tab anywhere else is an error. Only characters that
YAML allows in a stream may occur in the text. An escape in a double-quoted scalar must name a
code point below `110000`, and one that names a lone surrogate gives its stand-in.
-/

namespace SeriesImport.Yaml

/-- Why a YAML text gives no value: it breaks the grammar, or building one of its values fails
the way that operation fails. -/
inductive Fault where
  | malformed
  | value (e : Error)
  deriving Inhabited

/-- A token of YAML's syntax. -/
inductive Token where
  | streamStart
  | streamEnd
  /-- `%YAML major.minor`. -/
  | versionDirective (major minor : Nat)
  /-- `%TAG handle prefix`. -/
  | tagDirective (handle pfx : String)
  /-- Any other directive; it is ignored. -/
  | otherDirective
  | documentStart
  | documentEnd
  | blockSequenceStart
  | blockMappingStart
  | blockEnd
  | flowSequenceStart
  | flowMappingStart
  | flowSequenceEnd
  | flowMappingEnd
  | blockEntry
  | flowEntry
  | key
  | value
  | alias (name : String)
  | anchor (name : String)
  /-- A tag as written: its handle, if any, and its suffix. -/
  | tag (handle : Option String) (suffix : String)
  /-- A scalar's text, and whether it was written plain. -/
  | scalar (text : String) (plain : Bool)
  deriving Inhabited, BEq

def isBreak (c : Char) : Bool :=
  c == '\r' || c == '\n' || c == '\x85' || c == '\u2028' || c == '\u2029'

/-- Whether a character ends the text or breaks a line; the end reads as `\x00`. -/
def isEndOrBreak (c : Char) : Bool := c == '\x00' || isBreak c

def isBlankOrEnd (c : Char) : Bool := c == ' ' || c == '\t' || isEndOrBreak c

/-- Whether a character is a space, a line break or the end: what may follow a tag or a
directive. -/
def isSpaceOrEnd (c : Char) : Bool := c == ' ' || isEndOrBreak c

def isNameChar (c : Char) : Bool :=
  ('0' ≤ c && c ≤ '9') || ('A' ≤ c && c ≤ 'Z') || ('a' ≤ c && c ≤ 'z') || c == '-' || c == '_'

/-- Characters of a tag's URI. -/
def isUriChar (c : Char) : Bool :=
  ('0' ≤ c && c ≤ '9') || ('A' ≤ c && c ≤ 'Z') || ('a' ≤ c && c ≤ 'z') ||
    "-;/?:@&=+$,_.!~*'()[]%".contains c

/-- Whether YAML allows a character in a stream. -/
def isStreamChar (c : Char) : Bool :=
  let n := c.toNat
  n == 0x09 || n == 0x0A || n == 0x0D || (0x20 ≤ n && n ≤ 0x7E) || n == 0x85 ||
    (0xA0 ≤ n && n ≤ 0xD7FF) || (0xE000 ≤ n && n ≤ 0xFFFD) || 0x10000 ≤ n

/-- The character a double-quoted escape stands for. -/
def escapeOf (c : Char) : Option Char :=
  match c with
  | '0' => some '\x00' | 'a' => some '\x07' | 'b' => some '\x08' | 't' => some '\t'
  | '\t' => some '\t' | 'n' => some '\n' | 'v' => some '\x0b' | 'f' => some '\x0c'
  | 'r' => some '\r' | 'e' => some '\x1b' | ' ' => some ' ' | '"' => some '"'
  | '\\' => some '\\' | '/' => some '/' | 'N' => some '\x85' | '_' => some '\xa0'
  | 'L' => some '\u2028' | 'P' => some '\u2029' | _ => none

/-- A token that may begin a key, waiting for the `:` that makes it one. -/
structure KeyCandidate where
  /-- The number of the token it would stand before. -/
  before : Nat
  /-- Whether the text is wrong unless it is a key. -/
  required : Bool
  index : Nat
  line : Nat
  column : Nat

/-- Tokens placed before the token numbered `before`. -/
structure Splice where
  before : Nat
  tokens : List Token

/-- The state of cutting a text into tokens. -/
structure Scanner where
  input : Array Char
  index : Nat := 0
  line : Nat := 0
  column : Nat := 0
  /-- How many brackets and braces are open; closing one too many makes it negative. -/
  flowLevel : Int := 0
  tokens : Array Token := #[]
  splices : List Splice := []
  /-- The column of the innermost block collection, `-1` at the top. -/
  indent : Int := -1
  indents : List Int := []
  allowSimpleKey : Bool := true
  candidates : List (Int × KeyCandidate) := []
  done : Bool := false

namespace Scanner

/-- The character `i` places ahead, `\x00` past the end. -/
def peekAt (s : Scanner) (i : Nat) : Char := s.input.getD (s.index + i) '\x00'

/-- How many characters from `i` places ahead on satisfy `p`, up to the end. -/
def countFrom (s : Scanner) (i : Nat) (p : Char → Bool) : Nat :=
  go (s.input.size - (s.index + i)) 0
where
  /-- `n` characters satisfy `p` so far. -/
  go : Nat → Nat → Nat
    | 0, n => n
    | fuel + 1, n => if p (s.peekAt (i + n)) then go fuel (n + 1) else n

/-- The `n` characters from `i` places ahead on, fewer at the end. -/
def slice (s : Scanner) (i n : Nat) : List Char :=
  (s.input.extract (s.index + i) (s.index + i + n)).toList

/-- The next `n` characters, fewer at the end. -/
def ahead (s : Scanner) (n : Nat) : String := String.ofList (s.slice 0 n)

/-- Move past one character, keeping line and column: a line break starts a new line, and a
byte order mark takes no column. -/
def step (s : Scanner) : Scanner :=
  let c := s.peekAt 0
  let s' := { s with index := s.index + 1 }
  if c == '\n' || c == '\x85' || c == '\u2028' || c == '\u2029' || (c == '\r' && s.peekAt 1 != '\n')
  then { s' with line := s.line + 1, column := 0 }
  else if c != '\uFEFF' then { s' with column := s.column + 1 }
  else s'

def forward : Nat → Scanner → Scanner
  | 0, s => s
  | n + 1, s => forward n s.step

/-- Whether a document marker `---` or `...` starts here, followed by a blank or the end. -/
def atDocumentMarker (s : Scanner) : Bool :=
  let p := s.ahead 3
  (p == "---" || p == "...") && isBlankOrEnd (s.peekAt 3)

end Scanner

abbrev ScanM := StateT Scanner (Except Fault)

def fail {α : Type} : ScanM α := throw Fault.malformed

def peek (i : Nat) : ScanM Char := do pure ((← get).peekAt i)

def advance (n : Nat) : ScanM Unit := modify (Scanner.forward n)

/-- Move past the characters that satisfy `p`, returning them. -/
def takeWhile (p : Char → Bool) : ScanM (List Char) := do
  let s ← get
  let n := s.countFrom 0 p
  advance n
  pure (s.slice 0 n)

def emit (t : Token) : ScanM Unit := modify fun s => { s with tokens := s.tokens.push t }

def allowKey (b : Bool) : ScanM Unit := modify fun s => { s with allowSimpleKey := b }

/-- Read a line break: a carriage return with a line feed, a carriage return, a line feed or
a next-line character read as a line feed; a line or paragraph separator as itself; nothing if
no break is here. -/
def lineBreak : ScanM String := do
  let c ← peek 0
  if c == '\r' || c == '\n' || c == '\x85' then
    if c == '\r' && (← peek 1) == '\n' then advance 2 else advance 1
    pure "\n"
  else if c == '\u2028' || c == '\u2029' then
    advance 1
    pure (String.singleton c)
  else pure ""

/-- Skip spaces, comments and line breaks up to the next token; a line break in block context
lets a key start again. -/
def toNextToken : Nat → ScanM Unit
  | 0 => pure ()
  | fuel + 1 => do
    let _ ← takeWhile (· == ' ')
    if (← peek 0) == '#' then
      let _ ← takeWhile (fun c => !isEndOrBreak c)
    if isBreak (← peek 0) then
      let _ ← lineBreak
      if (← get).flowLevel == 0 then allowKey true
      toNextToken fuel
    else pure ()

/-- Forget candidates that are no longer on the current line or lie too far back; losing one
that must be a key is an error. -/
def staleCandidates : ScanM Unit := do
  let s ← get
  let isStale (k : KeyCandidate) : Bool := k.line != s.line || s.index - k.index > 1024
  if s.candidates.any fun (_, k) => isStale k && k.required then fail
  set { s with candidates := s.candidates.filter fun (_, k) => !isStale k }

/-- Forget the candidate of the current level; losing one that must be a key is an error. -/
def dropCandidate : ScanM Unit := do
  let s ← get
  match s.candidates.lookup s.flowLevel with
  | some k =>
    if k.required then fail
    set { s with candidates := s.candidates.filter (·.1 != s.flowLevel) }
  | none => pure ()

/-- Remember that the next token may begin a key. -/
def saveCandidate : ScanM Unit := do
  let s ← get
  let required := s.flowLevel == 0 && s.indent == (s.column : Int)
  if s.allowSimpleKey then
    dropCandidate
    let s ← get
    let k : KeyCandidate := ⟨s.tokens.size, required, s.index, s.line, s.column⟩
    set { s with candidates := (s.flowLevel, k) :: s.candidates.filter (·.1 != s.flowLevel) }

/-- Close block collections indented deeper than `column`, at most `fuel` of them. -/
def unwindLoop : Nat → Int → ScanM Unit
  | 0, _ => pure ()
  | fuel + 1, column => do
    let s ← get
    if s.indent > column then
      match s.indents with
      | i :: more =>
        set { s with indent := i, indents := more, tokens := s.tokens.push .blockEnd }
        unwindLoop fuel column
      | [] => pure ()
    else pure ()

/-- Close the block collections indented deeper than `column`; flow context ignores
indentation. -/
def unwind (column : Int) : ScanM Unit := do
  let s ← get
  if s.flowLevel == 0 then unwindLoop (s.indents.length + 1) column

/-- Open a block collection at `column` if it lies deeper than the current one. -/
def addIndent (column : Int) : ScanM Bool := do
  let s ← get
  if s.indent < column then
    set { s with indents := s.indent :: s.indents, indent := column }
    pure true
  else pure false

/-- Read a directive's name. -/
def directiveName : ScanM String := do
  let name ← takeWhile isNameChar
  if name.isEmpty then fail
  if !isSpaceOrEnd (← peek 0) then fail
  pure (String.ofList name)

def directiveNumber : ScanM Nat := do
  let ds ← takeWhile Char.isDigit
  if ds.isEmpty then fail
  pure (ds.foldl (fun a d => a * 10 + (d.toNat - 48)) 0)

/-- Read a tag handle: `!`, `!!` or `!name!`. -/
def tagHandle : ScanM String := do
  if (← peek 0) != '!' then fail
  let s ← get
  if s.peekAt 1 == ' ' then
    advance 1
    pure "!"
  else
    let n := s.countFrom 1 isNameChar
    if s.peekAt (n + 1) != '!' then fail
    advance (n + 2)
    pure (s.ahead (n + 2))

/-- Read `%XX` escapes of a URI as bytes. -/
def uriEscapes : Nat → List UInt8 → ScanM (List UInt8)
  | 0, acc => pure acc.reverse
  | fuel + 1, acc => do
    if (← peek 0) == '%' then
      advance 1
      match Json.hexValue? (← peek 0), Json.hexValue? (← peek 1) with
      | some a, some b =>
        advance 2
        uriEscapes fuel ((a * 16 + b).toUInt8 :: acc)
      | _, _ => fail
    else pure acc.reverse

/-- Read the characters of a URI, escapes decoded as UTF-8. -/
def uriChunks : Nat → String → ScanM String
  | 0, acc => pure acc
  | fuel + 1, acc => do
    let plain ← takeWhile fun c => isUriChar c && c != '%'
    let acc := acc ++ String.ofList plain
    if (← peek 0) == '%' then
      let bytes ← uriEscapes ((← get).input.size + 1) []
      match String.fromUTF8? (ByteArray.mk bytes.toArray) with
      | some t => uriChunks fuel (acc ++ t)
      | none => fail
    else pure acc

/-- Read a tag's URI; it may not be empty. -/
def tagUri : ScanM String := do
  let start := (← get).index
  let t ← uriChunks ((← get).input.size + 1) ""
  if (← get).index == start then fail
  pure t

/-- Skip the rest of a line after a directive or a block scalar header: spaces, then perhaps
a comment, then a line break or the end. -/
def ignoredLine : ScanM Unit := do
  let _ ← takeWhile (· == ' ')
  if (← peek 0) == '#' then
    let _ ← takeWhile (fun c => !isEndOrBreak c)
  if !isEndOrBreak (← peek 0) then fail
  let _ ← lineBreak

/-- Read a directive after its `%`. -/
def directive : ScanM Token := do
  advance 1
  let name ← directiveName
  let t ← if name == "YAML" then do
      let _ ← takeWhile (· == ' ')
      let major ← directiveNumber
      if (← peek 0) != '.' then fail
      advance 1
      let minor ← directiveNumber
      if !isSpaceOrEnd (← peek 0) then fail
      pure (Token.versionDirective major minor)
    else if name == "TAG" then do
      let _ ← takeWhile (· == ' ')
      let handle ← tagHandle
      if (← peek 0) != ' ' then fail
      let _ ← takeWhile (· == ' ')
      let pfx ← tagUri
      if !isSpaceOrEnd (← peek 0) then fail
      pure (Token.tagDirective handle pfx)
    else do
      let _ ← takeWhile (fun c => !isEndOrBreak c)
      pure Token.otherDirective
  ignoredLine
  pure t

/-- Read an anchor or alias name after its indicator. -/
def anchorName : ScanM String := do
  advance 1
  let name ← takeWhile isNameChar
  if name.isEmpty then fail
  let c ← peek 0
  if !(isBlankOrEnd c || "?:,]\x7d%@\x60".contains c) then fail
  pure (String.ofList name)

/-- Read a tag: `!<uri>`, a lone `!`, `!suffix`, or a handle and a suffix. -/
def tagToken : ScanM Token := do
  let c1 ← peek 1
  let (handle, suffix) ← if c1 == '<' then do
      advance 2
      let suffix ← tagUri
      if (← peek 0) != '>' then fail
      advance 1
      pure (none, suffix)
    else if isBlankOrEnd c1 then do
      advance 1
      pure (none, "!")
    else do
      let s ← get
      let word := s.slice 1 (s.countFrom 1 fun c => !isSpaceOrEnd c)
      let handle ← if word.contains '!' then tagHandle else do advance 1; pure "!"
      let suffix ← tagUri
      pure (some handle, suffix)
  if !isSpaceOrEnd (← peek 0) then fail
  pure (.tag handle suffix)

/-- How a block scalar treats its final line breaks. -/
inductive Chomping where
  | strip
  | clip
  | keep
  deriving DecidableEq

/-- Read a block scalar's header: chomping and indentation indicators, in either order. -/
def blockHeader : ScanM (Chomping × Option Nat) := do
  let c ← peek 0
  let chompOf (c : Char) : Chomping := if c == '+' then .keep else .strip
  let r ← if c == '+' || c == '-' then do
      advance 1
      let d ← peek 0
      if d.isDigit then
        if d == '0' then fail
        advance 1
        pure (chompOf c, some (d.toNat - 48))
      else pure (chompOf c, none)
    else if c.isDigit then do
      if c == '0' then fail
      advance 1
      let e ← peek 0
      if e == '+' || e == '-' then
        advance 1
        pure (chompOf e, some (c.toNat - 48))
      else pure (Chomping.clip, some (c.toNat - 48))
    else pure (Chomping.clip, none)
  if !isSpaceOrEnd (← peek 0) then fail
  pure r

/-- Skip the spaces of leading empty lines of a block scalar, keeping their breaks; the
deepest column reached. -/
def blockIndentation : Nat → List String → Nat → ScanM (List String × Nat)
  | 0, acc, m => pure (acc.reverse, m)
  | fuel + 1, acc, m => do
    let c ← peek 0
    if c == ' ' then
      advance 1
      blockIndentation fuel acc (max m (← get).column)
    else if isBreak c then
      let b ← lineBreak
      blockIndentation fuel (b :: acc) m
    else pure (acc.reverse, m)

def skipToIndent (indent : Nat) : ScanM Unit := modify fun s =>
  s.forward (min (s.countFrom 0 (· == ' ')) (indent - s.column))

/-- Read the breaks of empty lines inside a block scalar, skipping their indentation. -/
def blockBreaks (indent : Nat) : Nat → List String → ScanM (List String)
  | 0, acc => pure acc.reverse
  | fuel + 1, acc => do
    skipToIndent indent
    if isBreak (← peek 0) then
      let b ← lineBreak
      blockBreaks indent fuel (b :: acc)
    else pure acc.reverse

/-- Read the lines of a block scalar at column `indent`. Folding joins two lines by a space
when both start with a non-blank and no empty line lies between; otherwise line breaks stay.
Returns the text so far, the last line break and the breaks after it. -/
def blockLines (folded : Bool) (indent : Nat) :
    Nat → List String → String → List String → ScanM (List String × String × List String)
  | 0, breaks, lb, chunks => pure (chunks, lb, breaks)
  | fuel + 1, breaks, lb, chunks => do
    let s ← get
    if !(s.column == indent && s.peekAt 0 != '\x00') then return (chunks, lb, breaks)
    let leadingNonSpace := !(s.peekAt 0 == ' ' || s.peekAt 0 == '\t')
    let content ← takeWhile (fun c => !isEndOrBreak c)
    let chunks := chunks ++ breaks ++ [String.ofList content]
    let lb ← lineBreak
    let breaks ← blockBreaks indent ((← get).input.size + 1) []
    let s ← get
    if s.column == indent && s.peekAt 0 != '\x00' then
      let c := s.peekAt 0
      let chunks :=
        if folded && lb == "\n" && leadingNonSpace && !(c == ' ' || c == '\t') then
          (if breaks.isEmpty then chunks ++ [" "] else chunks)
        else chunks ++ [lb]
      blockLines folded indent fuel breaks lb chunks
    else pure (chunks, lb, breaks)

/-- Read a literal (`|`) or folded (`>`) block scalar. Its lines sit at the column the
indentation indicator gives, or else at the column of its first non-empty line, and at least
one past the enclosing collection. -/
def blockScalar (folded : Bool) : ScanM Token := do
  advance 1
  let (chomp, incr) ← blockHeader
  ignoredLine
  let s ← get
  let minIndent : Nat := if s.indent + 1 < 1 then 1 else (s.indent + 1).toNat
  let fuel := s.input.size + 1
  let (breaks, indent) ← match incr with
    | none => do
      let (bs, deepest) ← blockIndentation fuel [] 0
      pure (bs, max minIndent deepest)
    | some i => do
      let ind := minIndent + i - 1
      let bs ← blockBreaks ind fuel []
      pure (bs, ind)
  let (chunks, lb, breaks) ← blockLines folded indent fuel breaks "" []
  let tail := match chomp with
    | .strip => []
    | .clip => [lb]
    | .keep => lb :: breaks
  pure (.scalar (String.join (chunks ++ tail)) false)

/-- Read line breaks inside a quoted scalar, skipping blanks; a document marker there is an
error. -/
def quotedBreaks : Nat → List String → ScanM (List String)
  | 0, acc => pure acc.reverse
  | fuel + 1, acc => do
    if (← get).atDocumentMarker then fail
    let _ ← takeWhile (fun c => c == ' ' || c == '\t')
    if isBreak (← peek 0) then
      let b ← lineBreak
      quotedBreaks fuel (b :: acc)
    else pure acc.reverse

/-- Read a quoted scalar's text up to a blank, a line break, the end or its closing quote;
`acc` holds the pieces in reverse. -/
def quotedRun (double : Bool) : Nat → List String → ScanM (List String)
  | 0, acc => pure acc.reverse
  | fuel + 1, acc => do
    let run ← takeWhile fun c => !(c == '\'' || c == '"' || c == '\\' || isBlankOrEnd c)
    let acc := if run.isEmpty then acc else String.ofList run :: acc
    let c ← peek 0
    if !double && c == '\'' && (← peek 1) == '\'' then
      advance 2
      quotedRun double fuel ("'" :: acc)
    else if (double && c == '\'') || (!double && (c == '"' || c == '\\')) then
      advance 1
      quotedRun double fuel (String.singleton c :: acc)
    else if double && c == '\\' then
      advance 1
      let e ← peek 0
      match escapeOf e with
      | some r =>
        advance 1
        quotedRun double fuel (String.singleton r :: acc)
      | none =>
        if e == 'x' || e == 'u' || e == 'U' then
          let width := if e == 'x' then 2 else if e == 'u' then 4 else 8
          advance 1
          let s ← get
          let digits := (List.range width).map s.peekAt
          match digits.mapM Json.hexValue? with
          | none => fail
          | some vs =>
            let code := vs.foldl (fun a v => a * 16 + v) 0
            if code ≥ 2 ^ 31 then
              throw (Fault.value (.overflow "Python int too large to convert to C int"))
            if code > 0x10FFFF then
              throw (Fault.value (.badValue "chr() arg not in range(0x110000)"))
            advance width
            let ch := Text.charOfCode code
            quotedRun double fuel (String.singleton ch :: acc)
        else if isBreak e then
          let _ ← lineBreak
          let bs ← quotedBreaks ((← get).input.size + 1) []
          quotedRun double fuel (bs.reverse ++ acc)
        else fail
    else pure acc.reverse

/-- Read blanks and line breaks inside a quoted scalar. A single line break folds to a space;
with empty lines after it, the breaks of those lines stay. -/
def quotedSpaces : ScanM (List String) := do
  let ws ← takeWhile (fun c => c == ' ' || c == '\t')
  let c ← peek 0
  if c == '\x00' then fail
  else if isBreak c then
    let lb ← lineBreak
    let bs ← quotedBreaks ((← get).input.size + 1) []
    let head := if lb != "\n" then [lb] else if bs.isEmpty then [" "] else []
    pure (head ++ bs)
  else pure [String.ofList ws]

/-- Read the rest of a quoted scalar up to its closing quote `q`. -/
def quotedBody (double : Bool) (q : Char) : Nat → List String → ScanM (List String)
  | 0, acc => pure acc
  | fuel + 1, acc => do
    if (← peek 0) == q then return acc
    let sp ← quotedSpaces
    let run ← quotedRun double ((← get).input.size + 1) []
    quotedBody double q fuel (acc ++ sp ++ run)

/-- Read a single- or double-quoted scalar. -/
def quotedScalar (double : Bool) : ScanM Token := do
  let q ← peek 0
  advance 1
  let fuel := (← get).input.size + 1
  let first ← quotedRun double fuel []
  let chunks ← quotedBody double q fuel first
  advance 1
  pure (.scalar (String.join chunks) false)

/-- The length of the next run of a plain scalar on this line: it stops at a blank, at `: `,
and in flow context at `,`, `?`, brackets and braces. -/
def Scanner.plainRunLength (s : Scanner) : Nat :=
  go (s.input.size - s.index) 0
where
  /-- The run has `n` characters so far. -/
  go : Nat → Nat → Nat
    | 0, n => n
    | fuel + 1, n =>
      let c := s.peekAt n
      let next := s.peekAt (n + 1)
      let flow := s.flowLevel != 0
      if isBlankOrEnd c || (c == ':' && (isBlankOrEnd next || (flow && ",[]\x7b\x7d".contains next))) ||
          (flow && ",?[]\x7b\x7d".contains c) then n
      else go fuel (n + 1)

/-- Read the line breaks between the lines of a plain scalar; `none` at a document marker. -/
def plainBreaks : Nat → List String → ScanM (Option (List String))
  | 0, acc => pure (some acc.reverse)
  | fuel + 1, acc => do
    let c ← peek 0
    if c == ' ' then
      advance 1
      plainBreaks fuel acc
    else if isBreak c then
      let b ← lineBreak
      if (← get).atDocumentMarker then return none
      plainBreaks fuel (b :: acc)
    else pure (some acc.reverse)

/-- Read the spaces after a run of a plain scalar, and the line breaks if the scalar goes on
to another line; `none` at a document marker. -/
def plainSpaces : ScanM (Option (List String)) := do
  let ws ← takeWhile (· == ' ')
  if isBreak (← peek 0) then
    let lb ← lineBreak
    allowKey true
    if (← get).atDocumentMarker then return none
    match ← plainBreaks ((← get).input.size + 1) [] with
    | none => pure none
    | some bs =>
      let head := if lb != "\n" then [lb] else if bs.isEmpty then [" "] else []
      pure (some (head ++ bs))
  else if ws.isEmpty then pure (some [])
  else pure (some [String.ofList ws])

/-- Read the runs of a plain scalar; it goes on over spaces and onto lines indented past
`indent`, and ends at a comment. -/
def plainRuns (indent : Int) : Nat → List String → List String → ScanM (List String)
  | 0, chunks, _ => pure chunks
  | fuel + 1, chunks, spaces => do
    let s ← get
    if s.peekAt 0 == '#' then return chunks
    let n := s.plainRunLength
    if n == 0 then return chunks
    allowKey false
    let run := String.ofList (s.slice 0 n)
    advance n
    let chunks := chunks ++ spaces ++ [run]
    match ← plainSpaces with
    | none => pure chunks
    | some sp =>
      let s ← get
      if sp.isEmpty || s.peekAt 0 == '#' || (s.flowLevel == 0 && (s.column : Int) < indent) then
        pure chunks
      else plainRuns indent fuel chunks sp

def plainScalar : ScanM Token := do
  let s ← get
  let chunks ← plainRuns (s.indent + 1) (s.input.size + 1) [] []
  pure (.scalar (String.join chunks) true)

/-- Whether a plain scalar may start here: not at an indicator, except `-`, `?` and `:` before
a non-blank (`?` and `:` only in block context). -/
def canStartPlain (s : Scanner) : Bool :=
  let c := s.peekAt 0
  !(isBlankOrEnd c || "-?:,[]\x7b\x7d#&*!|>'\"%@\x60".contains c) ||
    (!isBlankOrEnd (s.peekAt 1) && (c == '-' || (s.flowLevel == 0 && (c == '?' || c == ':'))))

/-- The end of the stream closes every block collection. -/
def fetchStreamEnd : ScanM Unit := do
  unwind (-1)
  dropCandidate
  modify fun s => { s with allowSimpleKey := false, candidates := [] }
  emit .streamEnd
  modify fun s => { s with done := true }

/-- A directive or a document marker closes every block collection. -/
def fetchDocumentLevel (t : ScanM Token) : ScanM Unit := do
  unwind (-1)
  dropCandidate
  allowKey false
  emit (← t)

/-- A bracket or brace opens a flow collection; it may begin a key. -/
def fetchFlowStart (t : Token) : ScanM Unit := do
  saveCandidate
  modify fun s => { s with flowLevel := s.flowLevel + 1, allowSimpleKey := true }
  advance 1
  emit t

/-- A closing bracket or brace ends a flow collection. -/
def fetchFlowEnd (t : Token) : ScanM Unit := do
  dropCandidate
  modify fun s => { s with flowLevel := s.flowLevel - 1, allowSimpleKey := false }
  advance 1
  emit t

/-- A comma separates flow entries. -/
def fetchFlowEntry : ScanM Unit := do
  allowKey true
  dropCandidate
  advance 1
  emit .flowEntry

/-- A `-` entry of a block sequence; in block context it may open the sequence. -/
def fetchBlockEntry : ScanM Unit := do
  let s ← get
  if s.flowLevel == 0 then
    if !s.allowSimpleKey then fail
    if ← addIndent s.column then emit .blockSequenceStart
  allowKey true
  dropCandidate
  advance 1
  emit .blockEntry

/-- A `?` key; in block context it may open a mapping. -/
def fetchKey : ScanM Unit := do
  let s ← get
  if s.flowLevel == 0 then
    if !s.allowSimpleKey then fail
    if ← addIndent s.column then emit .blockMappingStart
  allowKey (s.flowLevel == 0)
  dropCandidate
  advance 1
  emit .key

/-- A `:`: it confirms the waiting candidate as a key, or stands for a value of a `?` key. -/
def fetchValue : ScanM Unit := do
  let s ← get
  match s.candidates.lookup s.flowLevel with
  | some k =>
    set { s with candidates := s.candidates.filter (·.1 != s.flowLevel) }
    let opens ← if s.flowLevel == 0 then addIndent k.column else pure false
    let marks := (if opens then [Token.blockMappingStart] else []) ++ [Token.key]
    modify fun s => { s with splices := ⟨k.before, marks⟩ :: s.splices, allowSimpleKey := false }
  | none =>
    if s.flowLevel == 0 then
      if !s.allowSimpleKey then fail
      if ← addIndent s.column then emit .blockMappingStart
    allowKey (s.flowLevel == 0)
    dropCandidate
  advance 1
  emit .value

/-- Read the next token. -/
def fetchNext : ScanM Unit := do
  let s ← get
  if s.index == 0 && s.peekAt 0 == '\uFEFF' then advance 1
  toNextToken ((← get).input.size + 1)
  staleCandidates
  unwind (← get).column
  let s ← get
  let c := s.peekAt 0
  if c == '\x00' then fetchStreamEnd
  else if c == '%' && s.column == 0 then fetchDocumentLevel directive
  else if c == '-' && s.column == 0 && s.atDocumentMarker then
    fetchDocumentLevel (do advance 3; pure .documentStart)
  else if c == '.' && s.column == 0 && s.atDocumentMarker then
    fetchDocumentLevel (do advance 3; pure .documentEnd)
  else if c == '[' then fetchFlowStart .flowSequenceStart
  else if c == '{' then fetchFlowStart .flowMappingStart
  else if c == ']' then fetchFlowEnd .flowSequenceEnd
  else if c == '}' then fetchFlowEnd .flowMappingEnd
  else if c == ',' then fetchFlowEntry
  else if c == '-' && isBlankOrEnd (s.peekAt 1) then fetchBlockEntry
  else if c == '?' && (s.flowLevel != 0 || isBlankOrEnd (s.peekAt 1)) then fetchKey
  else if c == ':' && (s.flowLevel != 0 || isBlankOrEnd (s.peekAt 1)) then fetchValue
  else if c == '*' then
    saveCandidate
    allowKey false
    emit (.alias (← anchorName))
  else if c == '&' then
    saveCandidate
    allowKey false
    emit (.anchor (← anchorName))
  else if c == '!' then
    saveCandidate
    allowKey false
    emit (← tagToken)
  else if (c == '|' || c == '>') && s.flowLevel == 0 then
    allowKey true
    dropCandidate
    emit (← blockScalar (c == '>'))
  else if c == '\'' || c == '"' then
    saveCandidate
    allowKey false
    emit (← quotedScalar (c == '"'))
  else if canStartPlain s then
    saveCandidate
    allowKey false
    emit (← plainScalar)
  else fail

/-- The tokens in order, with the key markers spliced in before the tokens they belong to. -/
def linearise (tokens : Array Token) (splices : List Splice) : List Token :=
  go tokens.toList 0 (splices.mergeSort fun a b => a.before ≤ b.before)
where
  /-- `k` is the number of the first token of `ts`; `sp` holds the splices in order. -/
  go : List Token → Nat → List Splice → List Token
    | [], _, _ => []
    | t :: ts, k, sp =>
      let (here, later) := (sp.dropWhile (·.before < k)).span (·.before == k)
      here.flatMap (·.tokens) ++ t :: go ts (k + 1) later

/-- The tokens a reader may take from a scanner: all of them, except that a token that may
still begin a key holds back itself and everything after it. -/
def Scanner.released (s : Scanner) : List Token :=
  let waiting := s.candidates.filter fun (_, k) =>
    k.required || (k.line == s.line && s.index - k.index ≤ 1024)
  let bound := waiting.foldl (fun b (_, k) => min b k.before) s.tokens.size
  linearise (s.tokens.extract 0 bound) s.splices

/-- Read tokens until the end of the stream: all the tokens, or those released before a
failure and the failure. Each step reads at least one character. -/
def scanAll : Nat → Scanner → List Token × Option Fault
  | 0, s => (s.released, some Fault.malformed)
  | fuel + 1, s =>
    if s.done then (linearise s.tokens s.splices, none)
    else match fetchNext.run s with
      | .ok ((), s') => scanAll fuel s'
      | .error f => (s.released, some f)

/-- The tokens of a text, and the failure that stopped cutting it, if one did. A character that
YAML does not allow in a stream stops it before any token. -/
def tokenize (text : String) : List Token × Option Fault :=
  let input := text.toList.toArray
  if !input.all isStreamChar then ([], some Fault.malformed)
  else scanAll (input.size + 2) { input, tokens := #[.streamStart] }

theorem linearise_nil (splices : List Splice) : linearise #[] splices = [] := rfl

end SeriesImport.Yaml
