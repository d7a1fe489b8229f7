/-!
# The line protocol transition table

A line of line protocol is `measurement[,tag=value...] field=value[,field=value...] [time]`.
It is read one character at a time by a machine whose state says which part is being read.
Only five characters have structure: comma, equals sign, space and the two square brackets;
every other character is plain.

`Transition.of` gives, for a state and a class of character, what the character does and the
state that follows. A plain character is always appended. Brackets are refused everywhere but
in a tag value, where they open and close a bracketed section.
-/

namespace SeriesImport.LineProtocol

/-- The part of a line being read. -/
inductive State where
  | measurement
  | tagKey
  | tagValue
  | fieldKey
  | fieldValue
  | timestamp
  deriving Repr, DecidableEq, Inhabited

/-- Classes of characters that the table tells apart. -/
inductive CharClass where
  | comma
  | equals
  | space
  | openBracket
  | closeBracket
  | other
  deriving Repr, DecidableEq, Inhabited

/-- What a character does. -/
inductive Effect where
  /-- Add the character to the part being read. -/
  | append
  /-- Finish a pair if one is pending, and move on. -/
  | advance
  /-- Drop the character. -/
  | ignore
  /-- Refuse the line. -/
  | reject
  /-- Stop reading the line. -/
  | stop
  /-- Start a bracketed section and add the character. -/
  | openBracket
  /-- End a bracketed section and add the character. -/
  | closeBracket
  deriving Repr, DecidableEq, Inhabited

/-- An effect and the state it leads to, if it changes the state. -/
structure Transition where
  effect : Effect
  next : Option State := none
  deriving Repr, DecidableEq, Inhabited

/-- The class of a character. -/
def CharClass.of (c : Char) : CharClass :=
  if c == ',' then .comma
  else if c == '=' then .equals
  else if c == ' ' then .space
  else if c == '[' then .openBracket
  else if c == ']' then .closeBracket
  else .other

/-- The transition table. -/
def Transition.of : State → CharClass → Transition
  | _, .other => ⟨.append, none⟩
  | .measurement, .comma => ⟨.advance, some .tagKey⟩
  | .measurement, .space => ⟨.advance, some .fieldKey⟩
  | .measurement, .openBracket | .measurement, .closeBracket => ⟨.reject, none⟩
  | .tagKey, .comma => ⟨.ignore, none⟩
  | .tagKey, .equals => ⟨.advance, some .tagValue⟩
  | .tagKey, .space => ⟨.advance, some .fieldKey⟩
  | .tagKey, .openBracket | .tagKey, .closeBracket => ⟨.reject, none⟩
  | .tagValue, .comma => ⟨.advance, some .tagKey⟩
  | .tagValue, .space => ⟨.advance, some .fieldKey⟩
  | .tagValue, .openBracket => ⟨.openBracket, none⟩
  | .tagValue, .closeBracket => ⟨.closeBracket, none⟩
  | .fieldKey, .comma => ⟨.ignore, none⟩
  | .fieldKey, .equals => ⟨.advance, some .fieldValue⟩
  | .fieldKey, .space => ⟨.advance, some .timestamp⟩
  | .fieldKey, .openBracket | .fieldKey, .closeBracket => ⟨.reject, none⟩
  | .fieldValue, .comma => ⟨.advance, some .fieldKey⟩
  | .fieldValue, .space => ⟨.advance, some .timestamp⟩
  | .fieldValue, .openBracket | .fieldValue, .closeBracket => ⟨.reject, none⟩
  | .timestamp, .comma => ⟨.ignore, none⟩
  | .timestamp, .space => ⟨.stop, none⟩
  | .timestamp, .openBracket | .timestamp, .closeBracket => ⟨.reject, none⟩
  | _, _ => ⟨.append, none⟩

/-- Classes that a quoted section turns into plain characters. -/
def CharClass.quotable : CharClass → Bool
  | .comma | .space | .openBracket | .closeBracket => true
  | _ => false

theorem Transition.of_other (s : State) : Transition.of s .other = ⟨.append, none⟩ := by
  cases s <;> rfl

end SeriesImport.LineProtocol
