import SeriesImport.Archive.Inflate
import SeriesImport.Archive.Crc32
import SeriesImport.Error
/-!
# Gzip files

A gzip file (RFC 1952) is a run of members. A member is a ten-byte header that starts with the
bytes `1f 8b` and names method 8, optional fields that its flags announce (extra bytes with
their length, a name and a comment each ended by a zero byte, a header check), DEFLATE data, and
a trailer with the CRC-32 and the length modulo 2³² of the member's bytes. Zero bytes between
members are padding.

Unpacking hands on bytes as it goes, so a file that breaks off or turns out broken still
delivers what came before the fault. Within a member, bytes are handed on in pieces of
`pieceSize`; when the data turns out corrupt, the piece in which that happens is withheld. A
file that ends early delivers every byte that its data holds.
-/

namespace SeriesImport.Archive

open SeriesImport.Text

-- Naturals are raised to powers with the core instance, also where Mathlib's monoid power is
-- in scope; a literal exponent is written as a natural, so that no default power claims it.
attribute [local instance (high + 1)] instPowNat

/-- What unpacking delivers: the bytes handed on, and the fault that stopped it, if any. -/
structure Unpacked where
  bytes : Array UInt8
  fault : Option Error

/-- Bytes are handed on in pieces of this size. -/
def pieceSize : Nat := 8192

/-- The byte at a position, zero past the end. -/
def byteAt (data : Array UInt8) (p : Nat) : Nat := (data[p]?.getD 0).toNat

/-- The little-endian number of four bytes at a position. -/
def le32 (data : Array UInt8) (p : Nat) : Nat :=
  byteAt data p + byteAt data (p + 1) * 0x100 + byteAt data (p + 2) * 0x10000 +
    byteAt data (p + 3) * 0x1000000

/-- The position after the first zero byte from `p`, or the end when there is none. -/
def skipZeroEnded (data : Array UInt8) (p : Nat) : Nat :=
  match (List.range (data.size - p)).find? (fun i => byteAt data (p + i) == 0) with
  | some i => p + i + 1
  | none => data.size

/-- The first position from `p` that holds no zero byte. -/
def skipPadding (data : Array UInt8) (p : Nat) : Nat :=
  match (List.range (data.size - p)).find? (fun i => byteAt data (p + i) != 0) with
  | some i => p + i
  | none => data.size

/-- A number written as `0x` and lowercase hexadecimal digits. -/
def hexNumeral (n : Nat) : String := "0x" ++ String.ofList (Nat.toDigits 16 n)

/-- Read a member header at `pos`: where its data starts, or `none` when no byte is left. -/
def readHeader (data : Array UInt8) (pos : Nat) : Except Error (Option Nat) :=
  let magic := data.extract pos (pos + 2)
  if magic.size == 0 then .ok none
  else if magic != #[0x1f, 0x8b] then
    .error (.notArchive ("Not a gzipped file (" ++ bytesQuoted magic.toList ++ ")"))
  else if data.size < pos + 10 then .error .truncatedArchive
  else if byteAt data (pos + 2) != 8 then .error (.notArchive "Unknown compression method")
  else
    let flags := byteAt data (pos + 3)
    let p := pos + 10
    let extra : Except Error Nat :=
      if flags / 4 % 2 == 1 then
        if data.size < p + 2 then .error .truncatedArchive
        else
          let len := byteAt data p + byteAt data (p + 1) * 0x100
          if data.size < p + 2 + len then .error .truncatedArchive else .ok (p + 2 + len)
      else .ok p
    match extra with
    | .error e => .error e
    | .ok p =>
      let p := if flags / 8 % 2 == 1 then skipZeroEnded data p else p
      let p := if flags / 16 % 2 == 1 then skipZeroEnded data p else p
      if flags / 2 % 2 == 1 then
        if data.size < p + 2 then .error .truncatedArchive else .ok (some (p + 2))
      else .ok (some p)

/-- Check a member's trailer at `p` against its bytes. -/
def checkTrailer (data : Array UInt8) (p : Nat) (out : Array UInt8) : Option Error :=
  if data.size < p + 8 then some .truncatedArchive
  else
    let stored := le32 data p
    let crc := (crc32 out).toNat
    if stored != crc then
      some (.notArchive ("CRC check failed " ++ hexNumeral stored ++ " != " ++ hexNumeral crc))
    else if le32 data (p + 4) != out.size % 2 ^ (32 : Nat) then
      some (.notArchive "Incorrect length of data produced")
    else none

/-- Unpack the members from `pos` on, after the bytes `acc`. -/
def unpackFrom (data : Array UInt8) (pos : Nat) (acc : Array UInt8) : Nat → Unpacked
  | 0 => ⟨acc, none⟩
  | fuel + 1 =>
    match readHeader data pos with
    | .error e => ⟨acc, some e⟩
    | .ok none => ⟨acc, none⟩
    | .ok (some start) =>
      match inflate data start with
      | .error (.truncated, out) => ⟨acc ++ out, some .truncatedArchive⟩
      | .error (.invalid reason, out) =>
        ⟨acc ++ out.extract 0 (out.size / pieceSize * pieceSize), some (.corruptArchive reason)⟩
      | .ok (stop, out) =>
        match checkTrailer data stop out with
        | some e => ⟨acc ++ out, some e⟩
        | none => unpackFrom data (skipPadding data (stop + 8)) (acc ++ out) fuel

/-- Unpack a gzip file. Every member takes at least one byte, so the number of bytes bounds
the number of members. -/
def unpack (data : Array UInt8) : Unpacked := unpackFrom data 0 #[] (data.size + 1)

/-- The little-endian bytes of a number below 2³². -/
def le32Bytes (n : Nat) : List UInt8 :=
  [n.toUInt8, (n / 0x100).toUInt8, (n / 0x10000).toUInt8, (n / 0x1000000).toUInt8]

/-- Stored DEFLATE blocks holding bytes, the last one marked final. -/
def storedBlocks (bs : List UInt8) : Nat → List UInt8
  | 0 => [1, 0, 0, 0xFF, 0xFF]
  | fuel + 1 =>
    let chunk := bs.take 0xFFFF
    let rest := bs.drop 0xFFFF
    let final : UInt8 := if rest.isEmpty then 1 else 0
    let n := chunk.length
    [final, n.toUInt8, (n / 0x100).toUInt8, (0xFFFF - n).toUInt8, ((0xFFFF - n) / 0x100).toUInt8] ++
      chunk ++ (if rest.isEmpty then [] else storedBlocks rest fuel)

/-- A gzip file of one member that holds bytes in stored blocks. -/
def pack (data : Array UInt8) : Array UInt8 :=
  let header : List UInt8 := [0x1f, 0x8b, 8, 0, 0, 0, 0, 0, 0, 0xFF]
  (header ++ storedBlocks data.toList (data.size / 0xFFFF + 1) ++
    le32Bytes (crc32 data).toNat ++ le32Bytes (data.size % 2 ^ (32 : Nat))).toArray

theorem unpack_empty : (unpack #[]).bytes = #[] ∧ (unpack #[]).fault.isNone = true := ⟨rfl, rfl⟩

end SeriesImport.Archive
