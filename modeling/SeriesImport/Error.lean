import SeriesImport.Text.Literal
/-!
# Errors

Every way an import can fail, each with its cause. The import's own failures form the first
group: an unreadable unit, a header or setting that cannot be used, a missing database, an
unknown format, a refused or failed write, a cancelled import, and the failures gathered while
draining buffers. The rest are failures of general operations that an import meets on its way: a
text that is not an integer, a number with no integer part, a date out of range, a value of the
wrong kind, a missing key, a missing file, an unusable configuration file, a broken archive, a
missing attribute, a value an operation cannot take, a text or list read past its end, a number
with too many digits to read, a division by zero, a number too large for an operation, bytes
that are not UTF-8.

`Error.message` renders each error in one place. An unreadable unit names its line and shows
the line's text as a quoted literal, cut after one hundred characters.
-/

namespace SeriesImport

open SeriesImport.Text

/-- A failure of an import or of an operation it performs. -/
inductive Error where
  /-- A failure of an import, with its message only. -/
  | failure (message : String)
  /-- A unit of input that cannot be read, with the line it stood on and its text. -/
  | parse (message : String) (line : Option Int) (content : String)
  /-- A header that does not fit the settings. -/
  | header (message : String)
  /-- Settings or context that cannot be used. -/
  | config (message : String)
  /-- Data came before any database was named. -/
  | databaseRequired (message : String)
  /-- No format is registered under a name. -/
  | formatNotFound (name : String) (available : List String)
  /-- A request to the store failed, with its status and an excerpt of the answer. -/
  | transport (message : String) (status : Option Int) (body : String)
  /-- A column write was answered with a code other than success. -/
  | rejected (code : Int) (message : String)
  /-- The import was cancelled or ran out of time. -/
  | cancelled (message : String)
  /-- Draining the buffers failed, once for each cause. -/
  | drain (causes : List Error)
  /-- A text that does not read as an integer. -/
  | notInteger (literal : String)
  /-- Not-a-number has no integer part. -/
  | nanToInteger
  /-- An infinity has no integer part. -/
  | infinityToInteger
  /-- A date leaves the years one to 9999. -/
  | dateOutOfRange
  /-- A value of the wrong kind for an operation. -/
  | wrongKind (message : String)
  /-- A key that is not there, with the literal that shows it. -/
  | missingKey (shown : String)
  /-- A file that does not exist. -/
  | missingFile (message : String)
  /-- A configuration file that cannot be used. -/
  | badConfigFile (message : String)
  /-- A configuration file that is not YAML. -/
  | invalidYaml (path : String)
  /-- A compressed file that ends too early. -/
  | truncatedArchive
  /-- A file that is not a compressed archive. -/
  | notArchive (message : String)
  /-- Compressed data that breaks the format, with the reason. -/
  | corruptArchive (reason : String)
  /-- A value that lacks an attribute. -/
  | missingAttribute (message : String)
  /-- An integer too large for a double. -/
  | floatOverflow
  /-- A value asked for the first of its items when it has none. -/
  | exhausted
  /-- A request that names no known operation. -/
  | unknownRequest (message : String)
  /-- A value an operation cannot take. -/
  | badValue (message : String)
  /-- A text or list read past its end, with the kind read. -/
  | indexOutOfRange (kind : String)
  /-- A text with more digits than an integer is read from, and how many it has. -/
  | tooManyDigits (count : Nat)
  /-- An integer divided by zero. -/
  | divisionByZero
  /-- A double floor-divided by zero. -/
  | floatDivisionByZero
  /-- A number too large for an operation. -/
  | overflow (message : String)
  /-- Bytes that are not UTF-8 where text must be read strictly. -/
  | undecodable (message : String)
  /-- A value too large to be built. -/
  | outOfMemory
  deriving Inhabited

namespace Error

/-- The text shown for an unreadable unit. -/
def parseMessage (message : String) (line : Option Int) (content : String) : String :=
  match line with
  | some n =>
    if content.isEmpty then message ++ " (line " ++ toString n ++ ")"
    else
      let cut := if content.length > 100 then String.ofList (content.toList.take 100) ++ "..."
        else content
      message ++ " (line " ++ toString n ++ ": " ++ quoted cut ++ ")"
  | none =>
    if content.isEmpty then message
    else message ++ " (" ++ quoted (String.ofList (content.toList.take 100)) ++ ")"

/-- The text shown for a failed request. -/
def transportMessage (message : String) (status : Option Int) (body : String) : String :=
  let parts := [message] ++ (match status with | some c => ["status=" ++ toString c] | none => []) ++
    (if body.isEmpty then [] else ["body: " ++ String.ofList (body.toList.take 200)])
  " - ".intercalate parts

/-- The text shown for an unknown format. -/
def formatMessage (name : String) (available : List String) : String :=
  if available.isEmpty then "Unknown format: '" ++ name ++ "'. No formats registered."
  else
    let sorted := available.mergeSort (fun a b => decide (a ≤ b))
    "Unknown format: '" ++ name ++ "'. Available formats: " ++ ", ".intercalate sorted

mutual
/-- The text of an error. -/
def message : Error → String
  | .failure m => m
  | .parse m line content => parseMessage m line content
  | .header m => m
  | .config m => m
  | .databaseRequired m => m
  | .formatNotFound name available => formatMessage name available
  | .transport m status body => transportMessage m status body
  | .rejected _ m => m
  | .cancelled m => m
  | .drain causes =>
    toString causes.length ++ " error(s) while draining buffers:\n" ++
      "\n".intercalate (messages causes)
  | .notInteger lit => "invalid literal for int() with base 10: " ++ quoted lit
  | .nanToInteger => "cannot convert float NaN to integer"
  | .infinityToInteger => "cannot convert float infinity to integer"
  | .dateOutOfRange => "date value out of range"
  | .wrongKind m => m
  | .missingKey shown => shown
  | .missingFile m => m
  | .badConfigFile m => m
  | .invalidYaml path => "Invalid YAML in " ++ path
  | .truncatedArchive => "Compressed file ended before the end-of-stream marker was reached"
  | .notArchive m => m
  | .corruptArchive reason => "Error -3 while decompressing data: " ++ reason
  | .missingAttribute m => m
  | .floatOverflow => "int too large to convert to float"
  | .exhausted => ""
  | .unknownRequest m => m
  | .badValue m => m
  | .indexOutOfRange kind => (if kind.isEmpty then "" else kind ++ " ") ++ "index out of range"
  | .tooManyDigits n =>
    "Exceeds the limit (4300 digits) for integer string conversion: value has " ++ toString n ++
      " digits; use sys.set_int_max_str_digits() to increase the limit"
  | .divisionByZero => "integer division or modulo by zero"
  | .floatDivisionByZero => "float floor division by zero"
  | .overflow m => m
  | .undecodable m => m
  | .outOfMemory => ""

def messages : List Error → List String
  | [] => []
  | e :: rest => message e :: messages rest
end

/-- Whether an error is one of the import's own failures. Only these are caught and counted
by an import; the others end it. -/
def isImportFailure : Error → Bool
  | .failure _ | .parse .. | .header _ | .config _ | .databaseRequired _ => true
  | .formatNotFound .. | .transport .. | .rejected .. | .cancelled _ | .drain _ => true
  | _ => false

/-- Whether an error concerns settings or context. -/
def isConfigFailure : Error → Bool
  | .header _ | .config _ | .databaseRequired _ => true
  | _ => false

/-- Whether an error concerns a request to the store. -/
def isTransportFailure : Error → Bool
  | .transport .. | .rejected .. | .cancelled _ => true
  | _ => false

/-- The message of data that came before any database was named. -/
def noDatabaseText : String :=
  "database is required, make sure \x60# CONTEXT-DATABASE:\x60 token is exist"

/-- Data came before any database was named; an empty message stands for the usual one. -/
def noDatabase (message : String) : Error :=
  .databaseRequired (if message.isEmpty then noDatabaseText else message)

/-- The message given to an unreadable unit, without its line. -/
def parseText : Error → Option String
  | .parse m _ _ => some m
  | _ => none

/-- Give an unreadable unit its line number and text; other errors stay as they are. -/
def atLine (n : Int) (content : String) : Error → Error
  | .parse m _ _ => .parse m (some n) content
  | e => e

theorem parseMessage_plain (m : String) : parseMessage m none "" = m := by
  simp [parseMessage]

end Error

end SeriesImport
