import SeriesImport.Yaml.Token
import SeriesImport.Yaml.Scalar
/-!
# YAML nodes

The tokens of a text are read into the nodes of one document: scalars, sequences and mappings,
each with its tag. Block collections are delimited by the markers indentation produced, flow
collections by their brackets and braces; an entry or a value left out is the empty scalar. A
sequence may stand as a mapping's value at the mapping's own indentation. In a flow sequence,
`key: value` is a mapping of one pair.

A node may carry an anchor, and an alias stands for the node its anchor names; an anchor may be
given only once. An alias inside the collection its anchor names makes the document hold itself:
the alias is kept as a cycle back to that collection, which is unrolled a few levels deep once
the document is read, the innermost cycles becoming empty scalars. A tag is written in full, as
`!suffix`, or with a handle that the document's `%TAG` directives or the two standard handles
define. A scalar without a tag takes its tag from its text when it was plain.

A text holds at most one document; `---` and `...` may mark its ends, and directives may come
before an explicit start.

Reading stops at the first token the tokens cannot supply: when cutting the text into tokens
failed, what is read up to there counts, and then that failure.
-/

namespace SeriesImport.Yaml

/-- A node of a document. -/
inductive Node where
  | scalar (tag : String) (value : String)
  | sequence (tag : String) (items : List Node)
  | mapping (tag : String) (entries : List (Node × Node))
  /-- An alias back to the collection, still being read, that its anchor names. -/
  | cycle (anchor : String)
  deriving Inhabited

def Node.tag : Node → String
  | .scalar t _ | .sequence t _ | .mapping t _ => t
  | .cycle _ => ""

/-- The empty scalar that stands for an entry or a value left out. -/
def emptyNode : Node := .scalar (resolveScalar "" true) ""

def standardHandles : List (String × String) := [("!", "!"), ("!!", "tag:yaml.org,2002:")]

/-- The state of reading nodes. -/
structure Reader where
  /-- The tokens left. -/
  tokens : List Token
  /-- What asking for a token past them gives. -/
  stop : Fault
  /-- The tag handles of the document. -/
  handles : List (String × String)
  /-- The anchored nodes read so far. -/
  anchors : List (String × Node)
  /-- The anchors of collections still being read. -/
  opened : List String
  /-- Whether an alias named a collection still being read. -/
  cyclic : Bool

abbrev ReadM := StateT Reader (Except Fault)

def reject {α : Type} : ReadM α := throw Fault.malformed

/-- The next token. -/
def peekToken : ReadM Token := do
  let r ← get
  match r.tokens with
  | t :: _ => pure t
  | [] => throw r.stop

/-- Take the next token. -/
def takeToken : ReadM Token := do
  let r ← get
  match r.tokens with
  | t :: rest =>
    set { r with tokens := rest }
    pure t
  | [] => throw r.stop

/-- Take the next token if it is `t`. -/
def takeIf (t : Token) : ReadM Bool := do
  if (← peekToken) == t then
    let _ ← takeToken
    pure true
  else pure false

def nextIn (ts : List Token) : ReadM Bool := do
  pure (ts.contains (← peekToken))

/-- What a node begins with, once its anchor and tag are read. -/
inductive Opening where
  /-- A scalar, and whether its tag comes from its text. -/
  | scalar (value : String) (implicit : Bool)
  | flowSequence
  | flowMapping
  | blockSequence
  | blockMapping
  /-- A sequence at its mapping's indentation. -/
  | indentlessSequence

/-- Read a node's anchor and tag, in either order. -/
def properties : ReadM (Option String × Option (Option String × String)) := do
  match ← peekToken with
  | .anchor a =>
    let _ ← takeToken
    match ← peekToken with
    | .tag h s =>
      let _ ← takeToken
      pure (some a, some (h, s))
    | _ => pure (some a, none)
  | .tag h s =>
    let _ ← takeToken
    match ← peekToken with
    | .anchor a =>
      let _ ← takeToken
      pure (some a, some (h, s))
    | _ => pure (none, some (h, s))
  | _ => pure (none, none)

/-- The full tag of a written tag; its handle must be known. -/
def fullTag (written : Option (Option String × String)) : ReadM (Option String) := do
  match written with
  | none => pure none
  | some (none, suffix) => pure (some suffix)
  | some (some h, suffix) =>
    match (← get).handles.lookup h with
    | some pfx => pure (some (pfx ++ suffix))
    | none => reject

/-- Name a node by an anchor, if it has one. -/
def register (anchor : Option String) (n : Node) : ReadM Unit :=
  match anchor with
  | some a => modify fun r => { r with anchors := (a, n) :: r.anchors, opened := r.opened.erase a }
  | none => pure ()

/-- Mark an anchor as naming a collection still being read. -/
def openAnchor (anchor : Option String) : ReadM Unit :=
  match anchor with
  | some a => modify fun r => { r with opened := a :: r.opened }
  | none => pure ()

/-- The tag of a collection: the given one, or the standard one when none or `!` was given. -/
def collectionTag (tag : Option String) (standard : String) : String :=
  match tag with
  | some t => if t == "!" then standard else t
  | none => standard

mutual
/-- Read a node; `block` allows block collections, `indentless` a sequence at the enclosing
mapping's indentation. -/
def node : Nat → Bool → Bool → ReadM Node
  | 0, _, _ => reject
  | fuel + 1, block, indentless => do
    match ← peekToken with
    | .alias name =>
      let _ ← takeToken
      let r ← get
      if r.opened.contains name then
        set { r with cyclic := true }
        return .cycle name
      match r.anchors.lookup name with
      | some n => pure n
      | none => reject
    | _ =>
      let (anchor, written) ← properties
      let tag ← fullTag written
      let implicit := tag.isNone || tag == some "!"
      let empty : ReadM Opening :=
        if anchor.isSome || tag.isSome then pure (.scalar "" implicit) else reject
      let t ← peekToken
      let opening ← if indentless && t == .blockEntry then pure Opening.indentlessSequence
        else match t with
          | .scalar v plain => do
            let _ ← takeToken
            pure (.scalar v ((plain && tag.isNone) || tag == some "!"))
          | .flowSequenceStart => pure .flowSequence
          | .flowMappingStart => pure .flowMapping
          | .blockSequenceStart => if block then pure .blockSequence else empty
          | .blockMappingStart => if block then pure .blockMapping else empty
          | _ => empty
      if let some a := anchor then
        let r ← get
        if r.anchors.any (·.1 == a) || r.opened.contains a then reject
      match opening with
      | .scalar v implicitText =>
        let n := Node.scalar (if implicit then resolveScalar v implicitText else tag.getD "") v
        register anchor n
        pure n
      | .blockSequence =>
        let _ ← takeToken
        openAnchor anchor
        let n := Node.sequence (collectionTag tag (standardTag "seq")) (← blockSequence fuel [])
        register anchor n
        pure n
      | .indentlessSequence =>
        openAnchor anchor
        let n := Node.sequence (collectionTag tag (standardTag "seq"))
          (← indentlessSequence fuel [])
        register anchor n
        pure n
      | .blockMapping =>
        let _ ← takeToken
        openAnchor anchor
        let n := Node.mapping (collectionTag tag (standardTag "map")) (← blockMapping fuel [])
        register anchor n
        pure n
      | .flowSequence =>
        let _ ← takeToken
        openAnchor anchor
        let n := Node.sequence (collectionTag tag (standardTag "seq"))
          (← flowSequence fuel true [])
        register anchor n
        pure n
      | .flowMapping =>
        let _ ← takeToken
        openAnchor anchor
        let n := Node.mapping (collectionTag tag (standardTag "map")) (← flowMapping fuel true [])
        register anchor n
        pure n

/-- Read the entries of a block sequence up to its end; `acc` holds those read, last first. -/
def blockSequence : Nat → List Node → ReadM (List Node)
  | 0, _ => reject
  | fuel + 1, acc => do
    match ← peekToken with
    | .blockEntry =>
      let _ ← takeToken
      let item ← if ← nextIn [.blockEntry, .blockEnd] then pure emptyNode
        else node fuel true false
      blockSequence fuel (item :: acc)
    | .blockEnd =>
      let _ ← takeToken
      pure acc.reverse
    | _ => reject

/-- Read the entries of a sequence at its mapping's indentation, up to the first token that is
not an entry. -/
def indentlessSequence : Nat → List Node → ReadM (List Node)
  | 0, _ => reject
  | fuel + 1, acc => do
    if ← takeIf .blockEntry then
      let item ← if ← nextIn [.blockEntry, .key, .value, .blockEnd] then pure emptyNode
        else node fuel true false
      indentlessSequence fuel (item :: acc)
    else pure acc.reverse

/-- Read the pairs of a block mapping up to its end. -/
def blockMapping : Nat → List (Node × Node) → ReadM (List (Node × Node))
  | 0, _ => reject
  | fuel + 1, acc => do
    match ← peekToken with
    | .key =>
      let _ ← takeToken
      let k ← if ← nextIn [.key, .value, .blockEnd] then pure emptyNode
        else node fuel true true
      let v ← if ← takeIf .value then
          if ← nextIn [.key, .value, .blockEnd] then pure emptyNode else node fuel true true
        else pure emptyNode
      blockMapping fuel ((k, v) :: acc)
    | .blockEnd =>
      let _ ← takeToken
      pure acc.reverse
    | _ => reject

/-- Read the entries of a flow sequence up to its `]`; `first` before the first entry. -/
def flowSequence : Nat → Bool → List Node → ReadM (List Node)
  | 0, _, _ => reject
  | fuel + 1, first, acc => do
    if ← takeIf .flowSequenceEnd then return acc.reverse
    if !first then
      if !(← takeIf .flowEntry) then reject
    match ← peekToken with
    | .key =>
      let _ ← takeToken
      let k ← if ← nextIn [.value, .flowEntry, .flowSequenceEnd] then pure emptyNode
        else node fuel false false
      let v ← if ← takeIf .value then
          if ← nextIn [.flowEntry, .flowSequenceEnd] then pure emptyNode
          else node fuel false false
        else pure emptyNode
      let _ ← peekToken
      flowSequence fuel false (.mapping (standardTag "map") [(k, v)] :: acc)
    | .flowSequenceEnd =>
      let _ ← takeToken
      pure acc.reverse
    | _ =>
      let item ← node fuel false false
      flowSequence fuel false (item :: acc)

/-- Read the pairs of a flow mapping up to its `}`; `first` before the first pair. -/
def flowMapping : Nat → Bool → List (Node × Node) → ReadM (List (Node × Node))
  | 0, _, _ => reject
  | fuel + 1, first, acc => do
    if ← takeIf .flowMappingEnd then return acc.reverse
    if !first then
      if !(← takeIf .flowEntry) then reject
    match ← peekToken with
    | .key =>
      let _ ← takeToken
      let k ← if ← nextIn [.value, .flowEntry, .flowMappingEnd] then pure emptyNode
        else node fuel false false
      let v ← if ← takeIf .value then
          if ← nextIn [.flowEntry, .flowMappingEnd] then pure emptyNode
          else node fuel false false
        else pure emptyNode
      flowMapping fuel false ((k, v) :: acc)
    | .flowMappingEnd =>
      let _ ← takeToken
      pure acc.reverse
    | _ =>
      let k ← node fuel false false
      let _ ← peekToken
      flowMapping fuel false ((k, emptyNode) :: acc)
end

def Token.isDirective : Token → Bool
  | .versionDirective .. | .tagDirective .. | .otherDirective => true
  | _ => false

/-- Read the directives before a document: at most one `%YAML`, of version 1, and `%TAG`
handles given once each; the standard handles fill in the rest. -/
def directives : Nat → Bool → List (String × String) → ReadM (List (String × String))
  | 0, _, _ => reject
  | fuel + 1, versioned, handles => do
    match ← peekToken with
    | .versionDirective major _ =>
      let _ ← takeToken
      if versioned || major != 1 then reject
      directives fuel true handles
    | .tagDirective h p =>
      let _ ← takeToken
      if handles.any (·.1 == h) then reject
      directives fuel versioned (handles ++ [(h, p)])
    | .otherDirective =>
      let _ ← takeToken
      directives fuel versioned handles
    | _ =>
      pure (handles ++ standardHandles.filter fun (h, _) => !handles.any (·.1 == h))

def skipDocumentEnds : Nat → ReadM Unit
  | 0 => pure ()
  | fuel + 1 => do
    if ← takeIf .documentEnd then skipDocumentEnds fuel

/-- Read an explicit document after its directives, or nothing at the end of the stream. -/
def explicitDocument (fuel : Nat) : ReadM (Option Node) := do
  skipDocumentEnds fuel
  if (← peekToken) == .streamEnd then return none
  let handles ← directives fuel false []
  modify fun r => { r with handles }
  if !(← takeIf .documentStart) then reject
  let t ← peekToken
  let root ← if t.isDirective || [.documentStart, .documentEnd, .streamEnd].contains t then
      pure emptyNode
    else node fuel true false
  let _ ← takeIf .documentEnd
  pure (some root)

/-- Read the one document of a stream, if any. -/
def singleDocument (fuel : Nat) : ReadM (Option Node) := do
  let _ ← takeToken
  let t ← peekToken
  let root ← if t.isDirective || t == .documentStart || t == .streamEnd then
      explicitDocument fuel
    else do
      modify fun r => { r with handles := standardHandles }
      let n ← node fuel true false
      let _ ← takeIf .documentEnd
      pure (some n)
  if root.isSome then
    skipDocumentEnds fuel
    if (← peekToken) != .streamEnd then
      let _ ← directives fuel false []
      let _ ← peekToken
      reject
  pure root

/-- How many times a cycle is unrolled. -/
def unrollDepth : Nat := 4

/-- Put in place of each cycle the collection its anchor names, at most `depth` times along any
path; past that a cycle is the empty scalar. `fuel` bounds the nesting walked. -/
def unroll (anchors : List (String × Node)) : Nat → Nat → Node → Node
  | 0, _, _ => emptyNode
  | fuel + 1, depth, n =>
    match n with
    | .scalar .. => n
    | .sequence t items => .sequence t (items.map (unroll anchors fuel depth))
    | .mapping t entries =>
      .mapping t (entries.map fun (k, v) =>
        (unroll anchors fuel depth k, unroll anchors fuel depth v))
    | .cycle a =>
      match depth, anchors.lookup a with
      | depth + 1, some target => unroll anchors fuel depth target
      | _, _ => emptyNode

/-- A document's root node, and whether the document holds itself. -/
structure Composed where
  root : Node
  cyclic : Bool

/-- The root node of a text's one document, `none` for a text without one. -/
def compose (text : String) : Except Fault (Option Composed) := do
  let (tokens, stop) := tokenize text
  let start : Reader := ⟨tokens, stop.getD Fault.malformed, [], [], [], false⟩
  let (root, r) ← (singleDocument (2 * tokens.length + 4)).run start
  let fuel := (unrollDepth + 1) * (2 * tokens.length + 4)
  pure (root.map fun n =>
    if r.cyclic then ⟨unroll r.anchors fuel unrollDepth n, true⟩ else ⟨n, false⟩)

theorem singleDocument_no_tokens (fuel : Nat) (f : Fault) :
    (singleDocument fuel).run' ⟨[], f, [], [], [], false⟩ = .error f := rfl

end SeriesImport.Yaml
