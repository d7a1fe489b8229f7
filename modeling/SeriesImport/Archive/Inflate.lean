/-!
# Inflating DEFLATE data

DEFLATE data (RFC 1951) is a run of blocks: stored bytes, or symbols under Huffman codes that
are either fixed or sent ahead of the block. A literal symbol stands for one byte; a length
symbol and a distance symbol copy earlier output. Codes are canonical: within a length, codes
count up in the order of their symbols, and shorter codes come first.

Inflating either finishes, with the output and the bits left after the last block, or runs
out of input, with the output made so far, or meets data that breaks the format, with the
cause in the words of the common library.
-/

namespace SeriesImport.Archive

-- Naturals are raised to powers with the core instance, also where Mathlib's monoid power is
-- in scope.
attribute [local instance (high + 1)] instPowNat

/-- Bits read least significant first from bytes. -/
structure BitReader where
  data : Array UInt8
  pos : Nat

def BitReader.bitAt (r : BitReader) (p : Nat) : Nat :=
  ((r.data[p / 8]?.getD 0).toNat >>> (p % 8)) % 2

def BitReader.remaining (r : BitReader) : Nat := 8 * r.data.size - r.pos

/-- Read `n` bits as a number, the first bit lowest; `none` past the end. -/
def BitReader.bits (r : BitReader) (n : Nat) : Option (Nat × BitReader) :=
  if r.pos + n > 8 * r.data.size then none
  else
    let v := (List.range n).foldl (fun a i => a + r.bitAt (r.pos + i) * 2 ^ i) 0
    some (v, { r with pos := r.pos + n })

def BitReader.alignByte (r : BitReader) : BitReader :=
  { r with pos := (r.pos + 7) / 8 * 8 }

/-- How inflating stops early. -/
inductive Stop where
  /-- The input ended first. -/
  | truncated
  /-- The data breaks the format. -/
  | invalid (reason : String)

/-- A canonical code: how many codes each length has, the symbols in code order, and the
longest length that has a code. -/
structure Huffman where
  counts : Array Nat
  symbols : Array Nat
  longest : Nat

/-- The canonical code of a list of code lengths, and how many codes of the longest length
are left unused (negative when the lengths ask for too many codes). -/
def Huffman.ofLengths (lengths : List Nat) : Huffman × Int :=
  let counts := (List.range 16).map fun l => (lengths.filter (· == l)).length
  let symbols := (List.range 15).flatMap fun l =>
    (lengths.zipIdx.filter (fun (len, _) => len == l + 1)).map (·.2)
  let left := (List.range 15).foldl (fun (left : Int) l =>
    left * 2 - ((counts[l + 1]?.getD 0 : Nat) : Int)) 1
  (⟨counts.toArray.set! 0 0, symbols.toArray, lengths.foldl max 0⟩, left)

/-- Decode one symbol from codes of length `len` on, at most `n` more lengths; `code`, `first`
and `index` follow the bits read so far. -/
def Huffman.decodeFrom (h : Huffman) (r : BitReader) (code first index len : Nat) :
    Nat → Except Stop (Option Nat × BitReader)
  | 0 => .ok (none, r)
  | n + 1 =>
    match r.bits 1 with
    | none => .error .truncated
    | some (b, r) =>
      let code := code + b
      let count := h.counts[len]?.getD 0
      if code < first + count then .ok (h.symbols[index + (code - first)]?, r)
      else h.decodeFrom r (code * 2) ((first + count) * 2) (index + count) (len + 1) n

/-- Decode one symbol, `none` when the bits match no code. A code is read up to its longest
length, and at least one bit, so that a code without symbols, or with one symbol of one bit,
refuses a bit that names nothing. -/
def Huffman.decode (h : Huffman) (r : BitReader) : Except Stop (Option Nat × BitReader) :=
  h.decodeFrom r 0 0 0 1 (max h.longest 1)

/-- Base lengths of the length symbols 257 to 285. -/
def lengthBase : Array Nat :=
  #[3, 4, 5, 6, 7, 8, 9, 10, 11, 13, 15, 17, 19, 23, 27, 31, 35, 43, 51, 59, 67, 83, 99, 115,
    131, 163, 195, 227, 258]

def lengthExtra : Array Nat :=
  #[0, 0, 0, 0, 0, 0, 0, 0, 1, 1, 1, 1, 2, 2, 2, 2, 3, 3, 3, 3, 4, 4, 4, 4, 5, 5, 5, 5, 0]

/-- Base distances of the distance symbols. -/
def distBase : Array Nat :=
  #[1, 2, 3, 4, 5, 7, 9, 13, 17, 25, 33, 49, 65, 97, 129, 193, 257, 385, 513, 769, 1025, 1537,
    2049, 3073, 4097, 6145, 8193, 12289, 16385, 24577]

/-- Extra bits of the distance symbols. -/
def distExtra : Array Nat :=
  #[0, 0, 0, 0, 1, 1, 2, 2, 3, 3, 4, 4, 5, 5, 6, 6, 7, 7, 8, 8, 9, 9, 10, 10, 11, 11, 12, 12, 13,
    13]

/-- Copy `len` bytes from `dist` back, one at a time so that copies may overlap. -/
def copyBack (out : Array UInt8) (dist : Nat) : Nat → Array UInt8
  | 0 => out
  | n + 1 => copyBack (out.push (out[out.size - dist]?.getD 0)) dist n

/-- Decode the symbols of one block until its end symbol. -/
def inflateCodes (lit dist : Huffman) (r : BitReader) (out : Array UInt8) :
    Nat → Except (Stop × Array UInt8) (BitReader × Array UInt8)
  | 0 => .error (.truncated, out)
  | fuel + 1 =>
    match lit.decode r with
    | .error s => .error (s, out)
    | .ok (none, _) => .error (.invalid "invalid literal/length code", out)
    | .ok (some sym, r) =>
      if sym < 256 then inflateCodes lit dist r (out.push sym.toUInt8) fuel
      else if sym == 256 then .ok (r, out)
      else
        let s := sym - 257
        if s ≥ 29 then .error (.invalid "invalid literal/length code", out)
        else match r.bits (lengthExtra[s]?.getD 0) with
          | none => .error (.truncated, out)
          | some (e, r) =>
            let len := lengthBase[s]?.getD 0 + e
            match dist.decode r with
            | .error st => .error (st, out)
            | .ok (none, _) => .error (.invalid "invalid distance code", out)
            | .ok (some ds, r) =>
              if ds ≥ 30 then .error (.invalid "invalid distance code", out)
              else match r.bits (distExtra[ds]?.getD 0) with
                | none => .error (.truncated, out)
                | some (e, r) =>
                  let d := distBase[ds]?.getD 0 + e
                  if d > out.size then .error (.invalid "invalid distance too far back", out)
                  else inflateCodes lit dist r (copyBack out d len) fuel

def fixedLit : Huffman :=
  (Huffman.ofLengths (List.replicate 144 8 ++ List.replicate 112 9 ++ List.replicate 24 7 ++
    List.replicate 8 8)).1

def fixedDist : Huffman := (Huffman.ofLengths (List.replicate 30 5)).1

/-- Order in which code length code lengths are sent. -/
def lengthOrder : List Nat := [16, 17, 18, 0, 8, 7, 9, 6, 10, 5, 11, 4, 12, 3, 13, 2, 14, 1, 15]

/-- Read `count` code lengths under the code length code; `acc` holds them in reverse. Bits
that match no code, which only a code length code without symbols leaves, give the length
zero. -/
def readLengths (h : Huffman) (count : Nat) (r : BitReader) (acc : List Nat) :
    Nat → Except Stop (List Nat × BitReader)
  | 0 => .error .truncated
  | fuel + 1 =>
    if acc.length ≥ count then .ok (acc.reverse, r)
    else match h.decode r with
      | .error s => .error s
      | .ok (none, r) => readLengths h count r (0 :: acc) fuel
      | .ok (some sym, r) =>
        if sym < 16 then readLengths h count r (sym :: acc) fuel
        else
          let (extraBits, base, repeatPrev) :=
            if sym == 16 then (2, 3, true) else if sym == 17 then (3, 3, false) else (7, 11, false)
          match r.bits extraBits with
          | none => .error .truncated
          | some (e, r) =>
            let n := base + e
            match repeatPrev, acc with
            | true, [] => .error (.invalid "invalid bit length repeat")
            | _, _ =>
              let v := if repeatPrev then acc.head?.getD 0 else 0
              if acc.length + n > count then .error (.invalid "invalid bit length repeat")
              else readLengths h count r (List.replicate n v ++ acc) fuel

/-- Whether a code may be used: without symbols, or not over-subscribed and complete unless
it is one code of length one. -/
def usable (lengths : List Nat) (left : Int) : Bool :=
  let longest := lengths.foldl max 0
  longest == 0 || left == 0 || (left > 0 && longest == 1)

/-- Read the codes of a dynamic block. -/
def readDynamic (r : BitReader) : Except Stop (Huffman × Huffman × BitReader) := do
  let some (hlit, r) := r.bits 5 | throw .truncated
  let some (hdist, r) := r.bits 5 | throw .truncated
  let some (hclen, r) := r.bits 4 | throw .truncated
  let nlen := hlit + 257
  let ndist := hdist + 1
  if nlen > 286 || ndist > 30 then throw (.invalid "too many length or distance symbols")
  let (clens, r) ← (List.range (hclen + 4)).foldlM (fun (acc : List (Nat × Nat) × BitReader) i =>
    match acc.2.bits 3 with
    | none => throw Stop.truncated
    | some (v, r') => pure ((lengthOrder[i]?.getD 0, v) :: acc.1, r')) ([], r)
  let codeLengths := (List.range 19).map fun s => ((clens.find? (·.1 == s)).map (·.2)).getD 0
  let (lenCode, left) := Huffman.ofLengths codeLengths
  if lenCode.longest != 0 && left != 0 then throw (.invalid "invalid code lengths set")
  let (lengths, r) ← readLengths lenCode (nlen + ndist) r [] (r.remaining + 1)
  let litLengths := lengths.take nlen
  let distLengths := lengths.drop nlen
  if litLengths[256]?.getD 0 == 0 then throw (.invalid "invalid code -- missing end-of-block")
  let (lit, litLeft) := Huffman.ofLengths litLengths
  if !usable litLengths litLeft then throw (.invalid "invalid literal/lengths set")
  let (dist, distLeft) := Huffman.ofLengths distLengths
  if !usable distLengths distLeft then throw (.invalid "invalid distances set")
  pure (lit, dist, r)

/-- Copy a stored block. -/
def storedBlock (r : BitReader) (out : Array UInt8) :
    Except (Stop × Array UInt8) (BitReader × Array UInt8) :=
  let r := r.alignByte
  match r.bits 16 with
  | none => .error (.truncated, out)
  | some (len, r) =>
    match r.bits 16 with
    | none => .error (.truncated, out)
    | some (nlen, r) =>
      if len != 0xFFFF - nlen then .error (.invalid "invalid stored block lengths", out)
      else
        let start := r.pos / 8
        let avail := r.data.size - start
        let chunk := (r.data.extract start (start + len))
        if avail < len then .error (.truncated, out ++ chunk)
        else .ok ({ r with pos := r.pos + 8 * len }, out ++ chunk)

/-- Inflate blocks until the last one. -/
def inflateBlocks (r : BitReader) (out : Array UInt8) :
    Nat → Except (Stop × Array UInt8) (BitReader × Array UInt8)
  | 0 => .error (.truncated, out)
  | fuel + 1 =>
    match r.bits 1 with
    | none => .error (.truncated, out)
    | some (final, r) =>
      match r.bits 2 with
      | none => .error (.truncated, out)
      | some (kind, r) =>
        let block : Except (Stop × Array UInt8) (BitReader × Array UInt8) :=
          if kind == 0 then storedBlock r out
          else if kind == 1 then inflateCodes fixedLit fixedDist r out (r.remaining + 1)
          else if kind == 2 then
            match readDynamic r with
            | .error s => .error (s, out)
            | .ok (lit, dist, r) => inflateCodes lit dist r out (r.remaining + 1)
          else .error (.invalid "invalid block type", out)
        match block with
        | .error e => .error e
        | .ok (r, out) => if final == 1 then .ok (r, out) else inflateBlocks r out fuel

/-- Inflate DEFLATE data starting at a byte: the output and the byte after the data, or how
it stopped with the output so far. -/
def inflate (data : Array UInt8) (start : Nat) : Except (Stop × Array UInt8) (Nat × Array UInt8) :=
  let r : BitReader := ⟨data, 8 * start⟩
  match inflateBlocks r #[] (r.remaining + 1) with
  | .ok (r, out) => .ok ((r.pos + 7) / 8, out)
  | .error e => .error e

theorem decodeFrom_zero (h : Huffman) (r : BitReader) (c f i l : Nat) :
    h.decodeFrom r c f i l 0 = .ok (none, r) := rfl

end SeriesImport.Archive
