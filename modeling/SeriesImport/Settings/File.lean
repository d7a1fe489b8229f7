import SeriesImport.Settings
import SeriesImport.Yaml.Read
import SeriesImport.Text.Utf8
/-!
# Configuration files

A configuration file is a YAML document holding one mapping; an empty document is an empty
mapping. It is read as text: its bytes must be UTF-8, and each carriage return, alone or before
a line feed, ends a line as a line feed does. Settings are loaded from a file when its path is
given and it exists; otherwise from the environment when falling back to it is allowed, else
from the defaults. A missing file that may not be replaced by the environment is an error.

A file is given here by its bytes, `none` when it does not exist.
-/

namespace SeriesImport

/-- Make every line end a line feed: a carriage return and a line feed after it, or a carriage
return alone. -/
def lineFeedsOnly : List Char → List Char
  | [] => []
  | '\r' :: '\n' :: rest => '\n' :: lineFeedsOnly rest
  | '\r' :: rest => '\n' :: lineFeedsOnly rest
  | c :: rest => c :: lineFeedsOnly rest

def fileText (bytes : List UInt8) : Except Error String :=
  match Text.decodeStrict bytes with
  | .ok t => .ok (String.ofList (lineFeedsOnly t.toList))
  | .error b => .error (.undecodable b.message)

/-- The configuration a file holds: a dictionary, and whether it holds itself. -/
def readConfig (path : String) (content : Option (List UInt8)) : Except Error Yaml.Document :=
  match content with
  | none => .error (.missingFile ("Config file not found: " ++ path))
  | some bytes => do
    let text ← fileText bytes
    match Yaml.load text with
    | .error .malformed => .error (.invalidYaml path)
    | .error (.value e) => .error e
    | .ok none => .ok ⟨.dict [], false⟩
    | .ok (some d) =>
      match d.value with
      | .null => .ok ⟨.dict [], false⟩
      | .dict _ => .ok d
      | v => .error (.badConfigFile ("Config file " ++ path ++ " must contain a mapping, got " ++
          v.kindName))

/-- Load settings from a configuration file, the environment or the defaults. -/
def loadSettings (path : Option String) (content : Option (List UInt8)) (fallbackToEnv : Bool)
    (env : List (String × String)) : Except Error Settings :=
  match path, content with
  | some p, some _ => do Settings.ofDoc (← readConfig p content).value
  | some p, none =>
    if fallbackToEnv then .ok (Settings.ofEnv env)
    else .error (.missingFile ("Config file not found: " ++ p))
  | none, _ => if fallbackToEnv then .ok (Settings.ofEnv env) else ({} : Settings).normalize

theorem readConfig_missing (path : String) :
    readConfig path none = .error (.missingFile ("Config file not found: " ++ path)) := rfl

end SeriesImport
