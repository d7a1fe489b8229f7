/-!
# CRC-32

The check value of gzip members: the CRC-32 of the bytes with the reflected polynomial
`0xEDB88320`, starting from all ones and inverted at the end. It is computed a byte at a time
from a table of 256 words, each the remainder of its index after eight shifts.
-/

namespace SeriesImport.Archive

def shift (c : UInt32) : UInt32 :=
  if c &&& 1 == 1 then (c >>> 1) ^^^ 0xEDB88320 else c >>> 1

def shifts : Nat → UInt32 → UInt32
  | 0, c => c
  | n + 1, c => shift (shifts n c)

/-- The table: each byte's remainder after eight shifts. -/
def crcTable : Array UInt32 := (Array.range 256).map fun i => shifts 8 i.toUInt32

def crcByte (c : UInt32) (b : UInt8) : UInt32 :=
  let i := ((c ^^^ b.toUInt32) &&& 0xFF).toNat
  (crcTable[i]?.getD 0) ^^^ (c >>> 8)

def crc32Update (crc : UInt32) (bytes : Array UInt8) : UInt32 :=
  (bytes.foldl crcByte (crc ^^^ 0xFFFFFFFF)) ^^^ 0xFFFFFFFF

def crc32 (bytes : Array UInt8) : UInt32 := crc32Update 0 bytes

example : crc32 #[] = 0 := by decide

end SeriesImport.Archive
