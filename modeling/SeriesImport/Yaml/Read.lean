import SeriesImport.Yaml.Node
/-!
# Reading YAML documents

The value of a document is built from its nodes by their tags: null, truth values, integers,
reals, texts, timestamps and bytes from scalars; lists from sequences; dictionaries and sets
from mappings; ordered maps and pair lists from sequences of one-pair mappings, as lists of
pairs. Any other tag, or a node of the wrong kind for its tag, fails.

Bytes are written in base64, where characters outside its alphabet are skipped and padding
ends the data once it completes a group of four; a text beyond ASCII, or data that stops
inside a group, fails.

A mapping first takes in the pairs of the mappings its merge keys (`<<`) name, a mapping or a
list of mappings, the earlier ones winning; its own pairs come after them and win over them. A
key `=` counts as the text `=`. A key must not be a list, a dictionary or a set. Every `.nan`
key is the one shared not-a-number and so one key, while a not-a-number read any other way is
a key of its own.

When several nodes fail, the failure is the first one met building the document level by
level: a collection's content is built after everything at its own level, in order.
-/

namespace SeriesImport.Yaml

def isCollectionTag (t : String) : Bool :=
  ["seq", "map", "set", "omap", "pairs"].any (standardTag · == t)

/-- A node with another tag. -/
def Node.withTag (t : String) : Node → Node
  | .scalar _ v => .scalar t v
  | .sequence _ items => .sequence t items
  | .mapping _ entries => .mapping t entries
  | .cycle a => .cycle a

/-- The text of a scalar node; a mapping stands for the text of its `=` key's value. -/
def scalarText : Nat → Node → Except Fault String
  | 0, _ => throw Fault.malformed
  | fuel + 1, n =>
    match n with
    | .scalar _ v => pure v
    | .mapping _ entries =>
      match entries.find? (·.1.tag == standardTag "value") with
      | some (_, v) => scalarText fuel v
      | none => throw Fault.malformed
    | .sequence .. | .cycle _ => throw Fault.malformed

/-- The value of a base64 character. -/
def base64Digit? (c : Char) : Option Nat :=
  if 'A' ≤ c && c ≤ 'Z' then some (c.toNat - 65)
  else if 'a' ≤ c && c ≤ 'z' then some (c.toNat - 71)
  else if '0' ≤ c && c ≤ '9' then some (c.toNat + 4)
  else if c == '+' then some 62
  else if c == '/' then some 63
  else none

/-- Decode base64 text: `quad` digits of the current group are read, `carry` holds the bits
not yet written, `pads` counts padding since the last digit, and `acc` holds the bytes so far,
in reverse. -/
def base64From (quad carry pads : Nat) (acc : List UInt8) : List Char → Option (List UInt8)
  | [] => if quad == 0 then some acc.reverse else none
  | c :: rest =>
    if c.toNat ≥ 128 then none
    else if c == '=' then
      if quad ≥ 2 then
        if quad + pads + 1 ≥ 4 then
          if rest.all (·.toNat < 128) then some acc.reverse else none
        else base64From quad carry (pads + 1) acc rest
      else base64From quad carry pads acc rest
    else match base64Digit? c with
      | none => base64From quad carry pads acc rest
      | some d =>
        match quad with
        | 0 => base64From 1 d 0 acc rest
        | 1 => base64From 2 (d % 16) 0 ((carry * 4 + d / 16).toUInt8 :: acc) rest
        | 2 => base64From 3 (d % 4) 0 ((carry * 16 + d / 4).toUInt8 :: acc) rest
        | _ => base64From 0 0 0 ((carry * 64 + d).toUInt8 :: acc) rest

def base64Bytes (cs : List Char) : Option (List UInt8) := base64From 0 0 0 [] cs

def liftError {α : Type} (r : Except Error α) : Except Fault α :=
  match r with
  | .ok a => pure a
  | .error e => throw (Fault.value e)

/-- The value of a node with a scalar tag. -/
def buildScalar (fuel : Nat) (n : Node) : Except Fault Value := do
  let t := n.tag
  if t == standardTag "null" then
    let _ ← scalarText fuel n
    pure .null
  else if t == standardTag "bool" then
    pure (.bool (← liftError (constructBool (← scalarText fuel n))))
  else if t == standardTag "int" then
    pure (.int (← liftError (constructInt (← scalarText fuel n))))
  else if t == standardTag "float" then
    pure (.float (← liftError (constructFloat (← scalarText fuel n))))
  else if t == standardTag "str" then pure (.str (← scalarText fuel n))
  else if t == standardTag "timestamp" then liftError (constructTimestamp (← scalarText fuel n))
  else if t == standardTag "binary" then
    match base64Bytes (← scalarText fuel n).toList with
    | some bs => pure (.bytes bs)
    | none => throw Fault.malformed
  else throw Fault.malformed

/-- The pairs of a mapping with its merge keys resolved: the pairs of the merged mappings
first, the mappings of a list in reverse so that the first wins, then the mapping's own pairs,
`=` keys counting as texts. -/
def flatten : Nat → List (Node × Node) → Except Fault (List (Node × Node))
  | 0, _ => throw Fault.malformed
  | fuel + 1, entries => do
    let mut merged : List (Node × Node) := []
    let mut own : List (Node × Node) := []
    for (k, v) in entries do
      if k.tag == standardTag "merge" then
        match v with
        | .mapping _ es => merged := merged ++ (← flatten fuel es)
        | .sequence _ items =>
          let mut parts : List (List (Node × Node)) := []
          for item in items do
            match item with
            | .mapping _ es => parts := (← flatten fuel es) :: parts
            | _ => throw Fault.malformed
          merged := merged ++ parts.flatten
        | .scalar .. | .cycle _ => throw Fault.malformed
      else if k.tag == standardTag "value" then own := own ++ [(k.withTag (standardTag "str"), v)]
      else own := own ++ [(k, v)]
    pure (merged ++ own)

/-- Whether a key node stands for the shared not-a-number: a real scalar reading `.nan`. -/
def isSharedNaNKey (fuel : Nat) (k : Node) : Except Fault Bool := do
  if k.tag != standardTag "float" then return false
  pure (readsSharedNaN (← scalarText fuel k))

/-- Start building a node: a scalar is built at once, a collection only begun; the begun
collection, whose content waits for the next level. -/
def startNode (fuel : Nat) (n : Node) : Except Fault (Option Node) := do
  if isCollectionTag n.tag then pure (some n)
  else
    let _ ← buildScalar fuel n
    pure none

/-- Build the content of a begun collection, starting its entries in order; the collections
they begin. -/
def fillNode (fuel : Nat) (n : Node) : Except Fault (List Node) := do
  let t := n.tag
  if t == standardTag "seq" then
    match n with
    | .sequence _ items => items.filterMapM (startNode fuel)
    | _ => throw Fault.malformed
  else if t == standardTag "map" || t == standardTag "set" then
    match n with
    | .mapping _ entries =>
      let mut begun : List Node := []
      for (k, v) in ← flatten fuel entries do
        if (← startNode fuel k).isSome then throw Fault.malformed
        begun := begun ++ (← startNode fuel v).toList
      pure begun
    | _ => throw Fault.malformed
  else
    match n with
    | .sequence _ items =>
      let mut begun : List Node := []
      for item in items do
        match item with
        | .mapping _ [(k, v)] =>
          begun := begun ++ (← startNode fuel k).toList
          begun := begun ++ (← startNode fuel v).toList
        | _ => throw Fault.malformed
      pure begun
    | _ => throw Fault.malformed

/-- Build level after level, each level's collections in order, until no collection is left. -/
def buildLevels (fuel : Nat) : Nat → List Node → Except Fault Unit
  | 0, _ => pure ()
  | rounds + 1, level => do
    if level.isEmpty then return
    let mut next : List Node := []
    for n in level do
      next := next ++ (← fillNode fuel n)
    buildLevels fuel rounds next

/-- The value of a node. -/
def build : Nat → Node → Except Fault Value
  | 0, _ => throw Fault.malformed
  | fuel + 1, n => do
    let t := n.tag
    if t == standardTag "seq" then
      match n with
      | .sequence _ items => pure (.list (← items.mapM (build fuel)))
      | _ => throw Fault.malformed
    else if t == standardTag "map" || t == standardTag "set" then
      match n with
      | .mapping _ entries =>
        let mut built : List (Value × Value) := []
        let mut sharedAt : Option Nat := none
        for (k, v) in ← flatten fuel entries do
          let key ← build fuel k
          if !key.hashable then throw Fault.malformed
          let value ← build fuel v
          if ← isSharedNaNKey fuel k then
            match sharedAt with
            | some i => built := built.modify i fun (first, _) => (first, value)
            | none =>
              sharedAt := some built.length
              built := built ++ [(key, value)]
          else built := putEntry built key value
        pure (if t == standardTag "map" then .dict built else .set (built.map (·.1)))
      | _ => throw Fault.malformed
    else if t == standardTag "omap" || t == standardTag "pairs" then
      match n with
      | .sequence _ items =>
        let pairs ← items.mapM fun item =>
          match item with
          | .mapping _ [(k, v)] => do pure (Value.list [← build fuel k, ← build fuel v])
          | _ => throw Fault.malformed
        pure (.list pairs)
      | _ => throw Fault.malformed
    else buildScalar fuel n

/-- The value of a document's root node, failing as its first failing node fails. -/
def construct (fuel : Nat) (root : Node) : Except Fault Value := do
  match ← startNode fuel root with
  | some n => buildLevels fuel fuel [n]
  | none => pure ()
  build fuel root

/-- The value of a document, and whether the document holds itself; a document that holds
itself is unrolled a few levels deep. -/
structure Document where
  value : Value
  cyclic : Bool

/-- The value of a text's one document, `none` for a text without one. -/
def load (text : String) : Except Fault (Option Document) := do
  match ← compose text with
  | some c =>
    let fuel := text.length + 2
    pure (some ⟨← construct ((unrollDepth + 1) * fuel) c.root, c.cyclic⟩)
  | none => pure none

theorem flatten_nil (fuel : Nat) : flatten (fuel + 1) [] = .ok [] := rfl

end SeriesImport.Yaml
