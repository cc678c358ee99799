/-!
# Text/Utf8 — reading bytes as text

Bytes are read as UTF-8 with replacement: each well-formed sequence is its character, and each
malformed one — a byte that starts no sequence, or the longest start of a sequence that breaks
off — is one replacement character `�`.  Well-formed excludes overlong forms, surrogates and
code points beyond `U+10FFFF`, which is why the second byte's range depends on the first.
-/

namespace PracticeForge

namespace Text

/-- The length of a well-formed UTF-8 sequence starting with `b`, and the range its second
byte must lie in; none for a byte that starts no sequence. -/
def utf8Lead (b : UInt8) : Option (Nat × UInt8 × UInt8) :=
  if b < 0x80 then some (1, 0, 0)
  else if b < 0xC2 then none
  else if b < 0xE0 then some (2, 0x80, 0xBF)
  else if b == 0xE0 then some (3, 0xA0, 0xBF)
  else if b == 0xED then some (3, 0x80, 0x9F)
  else if b < 0xF0 then some (3, 0x80, 0xBF)
  else if b == 0xF0 then some (4, 0x90, 0xBF)
  else if b < 0xF4 then some (4, 0x80, 0xBF)
  else if b == 0xF4 then some (4, 0x80, 0x8F)
  else none

/-- How many bytes after position `i` continue a sequence of length `len`, up to `len - 1`. -/
def utf8Continued (bs : ByteArray) (i len : Nat) (lo hi : UInt8) : Nat :=
  let ok (k : Nat) : Bool :=
    match bs[i + k]? with
    | some b => if k == 1 then lo ≤ b && b ≤ hi else 0x80 ≤ b && b ≤ 0xBF
    | none => false
  ((List.range (len - 1)).map (· + 1)).takeWhile ok |>.length

/-- The code point of a well-formed sequence of `len` bytes at position `i`. -/
def utf8Value (bs : ByteArray) (i len : Nat) : Nat :=
  let b (k : Nat) : Nat := (bs[i + k]?.getD 0).toNat
  match len with
  | 1 => b 0
  | 2 => (b 0 % 32) * 64 + b 1 % 64
  | 3 => ((b 0 % 16) * 64 + b 1 % 64) * 64 + b 2 % 64
  | _ => (((b 0 % 8) * 64 + b 1 % 64) * 64 + b 2 % 64) * 64 + b 3 % 64

/-- Reads bytes as UTF-8; each malformed sequence (a byte that starts none, or the longest
start of a sequence that breaks off) reads as one replacement character. -/
def decodeLossy (bs : ByteArray) : String :=
  go bs.size 0 ""
where
  go : Nat → Nat → String → String
    | 0, _, acc => acc
    | fuel + 1, i, acc =>
      match bs[i]? with
      | none => acc
      | some b =>
        match utf8Lead b with
        | none => go fuel (i + 1) (acc.push '�')
        | some (len, lo, hi) =>
          let n := utf8Continued bs i len lo hi
          if n + 1 == len then go fuel (i + len) (acc.push (Char.ofNat (utf8Value bs i len)))
          else go fuel (i + n + 1) (acc.push '�')

end Text

end PracticeForge
