/-!
# Reading UTF-8 bytes with replacement

Bytes are read as UTF-8. A lead byte announces how many continuation bytes follow; the first
continuation byte has a narrower range after `E0`, `ED`, `F0` and `F4`, which keeps out overlong
forms, surrogates and code points past `10FFFF`. Where the bytes break these rules, the longest
start of a well-formed sequence that they do hold, or else a single byte, becomes one
replacement character, and reading goes on after it.

Read in pieces, an unfinished sequence at the end of a piece waits for the next piece; at the
very end it is replaced like any other broken sequence.

Read strictly, the first broken sequence stops the reading. It is reported with its position,
its bytes (the lead byte and the continuation bytes that were valid) and the reason: a byte
that starts no sequence, a byte that does not continue one, or data that ends inside one. Data
that ends inside a sequence is found only when the reading finishes, from the bytes left over,
so its position counts from the start of the unfinished sequence.
-/

namespace SeriesImport.Text

/-- How many continuation bytes a lead byte announces; zero for ASCII and for bytes that lead
no sequence. -/
def trailCount (b : UInt8) : Nat :=
  if 0xC2 ≤ b && b ≤ 0xDF then 1
  else if 0xE0 ≤ b && b ≤ 0xEF then 2
  else if 0xF0 ≤ b && b ≤ 0xF4 then 3
  else 0

/-- The range of the first continuation byte after a lead byte. -/
def firstTrailRange (b : UInt8) : UInt8 × UInt8 :=
  if b == 0xE0 then (0xA0, 0xBF)
  else if b == 0xED then (0x80, 0x9F)
  else if b == 0xF0 then (0x90, 0xBF)
  else if b == 0xF4 then (0x80, 0x8F)
  else (0x80, 0xBF)

/-- How many of the bytes continue a sequence validly, at most `need`, checking the first
against `range`. -/
def validTrail (range : UInt8 × UInt8) (need : Nat) (bs : List UInt8) : Nat :=
  match need, bs with
  | 0, _ => 0
  | _, [] => 0
  | n + 1, c :: rest =>
    if range.1 ≤ c && c ≤ range.2 then validTrail (0x80, 0xBF) n rest + 1 else 0

/-- The code point of a complete sequence. -/
def codePoint (lead : UInt8) (trail : List UInt8) : Nat :=
  let leadBits := match trail.length with
    | 1 => lead.toNat % 0x20
    | 2 => lead.toNat % 0x10
    | _ => lead.toNat % 0x08
  trail.foldl (fun a c => a * 64 + c.toNat % 64) leadBits

/-- The characters of UTF-8 bytes. With `final` off, an unfinished sequence at the end is left
unread. -/
def decodeChars (final : Bool) (bs : List UInt8) : List Char :=
  match bs with
  | [] => []
  | b :: rest =>
    if b < 0x80 then Char.ofNat b.toNat :: decodeChars final rest
    else
      let need := trailCount b
      let k := validTrail (firstTrailRange b) need rest
      let after := rest.drop k
      if need != 0 && k < need && after.isEmpty && !final then []
      else
        let c := if need != 0 && k == need then Char.ofNat (codePoint b (rest.take k))
          else '\uFFFD'
        c :: decodeChars final after
termination_by bs.length
decreasing_by
  all_goals simp only [List.length_cons, List.length_drop]
  all_goals omega

/-- The text of UTF-8 bytes, each broken sequence replaced. -/
def decodeUtf8 (bs : Array UInt8) : String := String.ofList (decodeChars true bs.toList)

/-- A broken sequence met by strict reading. -/
structure Broken where
  pos : Nat
  bytes : List UInt8
  reason : String

/-- The message of a broken sequence. -/
def Broken.message (b : Broken) : String :=
  let lead := "'utf-8' codec can't decode "
  match b.bytes with
  | [x] => lead ++ "byte 0x" ++ String.ofList (hexPair x) ++ " in position " ++ toString b.pos ++
      ": " ++ b.reason
  | _ => lead ++ "bytes in position " ++ toString b.pos ++ "-" ++
      toString (b.pos + b.bytes.length - 1) ++ ": " ++ b.reason
where
  /-- Two lowercase hexadecimal digits of a byte. -/
  hexPair (x : UInt8) : List Char :=
    let ds := Nat.toDigits 16 x.toNat
    List.replicate (2 - ds.length) '0' ++ ds

/-- Read UTF-8 bytes strictly; `pos` bytes were read before them into `acc`, in reverse. -/
def decodeStrictFrom (pos : Nat) (acc : List Char) (bs : List UInt8) : Except Broken String :=
  match bs with
  | [] => .ok (String.ofList acc.reverse)
  | b :: rest =>
    if b < 0x80 then decodeStrictFrom (pos + 1) (Char.ofNat b.toNat :: acc) rest
    else
      let need := trailCount b
      let k := validTrail (firstTrailRange b) need rest
      if need == 0 then .error ⟨pos, [b], "invalid start byte"⟩
      else if k == need then
        decodeStrictFrom (pos + 1 + k) (Char.ofNat (codePoint b (rest.take k)) :: acc) (rest.drop k)
      else if (rest.drop k).isEmpty then .error ⟨0, b :: rest, "unexpected end of data"⟩
      else .error ⟨pos, b :: rest.take k, "invalid continuation byte"⟩
termination_by bs.length
decreasing_by
  all_goals simp only [List.length_cons, List.length_drop]
  all_goals omega

/-- The text of UTF-8 bytes, or the first broken sequence. -/
def decodeStrict (bs : List UInt8) : Except Broken String := decodeStrictFrom 0 [] bs

theorem decodeChars_ascii (final : Bool) (b : UInt8) (rest : List UInt8) (h : b < 0x80) :
    decodeChars final (b :: rest) = Char.ofNat b.toNat :: decodeChars final rest := by
  rw [decodeChars]
  simp [h]

end SeriesImport.Text
