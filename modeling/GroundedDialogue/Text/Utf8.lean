import GroundedDialogue.Text.Basic

/-!
# UTF-8 with foreign bytes

Texts are stored as UTF-8. Reading never fails: a byte that is no part of valid UTF-8 becomes the
surrogate U+DC00 plus the byte, and writing turns exactly these surrogates back into their bytes, so
`encode (decode b) = b` for every byte sequence. Any other surrogate has no encoding.
-/

namespace GroundedDialogue

namespace Rune

/-- The surrogate that stands for a byte which is no part of valid UTF-8. -/
def ofForeignByte (b : UInt8) : Rune :=
  ⟨0xDC00 + b.toNat, by have := b.toNat_lt; omega⟩

/-- Surrogates that stand for a foreign byte. Such a byte is never below 0x80. -/
def isForeignByte (r : Rune) : Bool := 0xDC80 ≤ r.val && r.val ≤ 0xDCFF

def isEncodable (r : Rune) : Bool := !r.isSurrogate || r.isForeignByte

/-- The bytes of a code point. A surrogate without an encoding has none. -/
def encode (r : Rune) : Bytes :=
  let n := r.val
  if n < 0x80 then [UInt8.ofNat n]
  else if n < 0x800 then [UInt8.ofNat (0xC0 + n / 64), UInt8.ofNat (0x80 + n % 64)]
  else if r.isSurrogate then
    if r.isForeignByte then [UInt8.ofNat (n - 0xDC00)] else []
  else if n < 0x10000 then
    [UInt8.ofNat (0xE0 + n / 4096), UInt8.ofNat (0x80 + n / 64 % 64), UInt8.ofNat (0x80 + n % 64)]
  else
    [UInt8.ofNat (0xF0 + n / 262144), UInt8.ofNat (0x80 + n / 4096 % 64),
      UInt8.ofNat (0x80 + n / 64 % 64), UInt8.ofNat (0x80 + n % 64)]

end Rune

namespace Text

/-- A text that holds a surrogate without an encoding; the position is that of the first one. -/
structure Unencodable where
  position : Nat
  deriving DecidableEq, Repr

/-- Whether every code point of the text can be written. -/
def isEncodable (t : Text) : Bool := t.all Rune.isEncodable

def encode (t : Text) : Bytes := t.flatMap Rune.encode

/-- The bytes of a text, or the position of its first code point that has none. -/
def encode? (t : Text) : Except Unencodable Bytes :=
  match t.findIdx? (!Rune.isEncodable ·) with
  | some position => .error ⟨position⟩
  | none => .ok (encode t)

/-- Bytes 0x80 to 0xBF follow the lead byte of a longer character. -/
def isContinuation (b : UInt8) : Bool := 0x80 ≤ b && b < 0xC0

/-- The number of bytes that a lead byte announces. Bytes that lead nothing announce one. -/
def announcedLength (lead : UInt8) : Nat :=
  if lead ≥ 0xF8 then 1
  else if lead ≥ 0xF0 then 4
  else if lead ≥ 0xE0 then 3
  else if lead ≥ 0xC0 then 2
  else 1

/-- The low six bits of a continuation byte. -/
def payload (b : UInt8) : Nat := b.toNat % 64

/-- Reads the character that starts with `lead`: its code point and how many of the following bytes
belong to it. Overlong forms, encoded surrogates and numbers beyond the last code point are not
valid; then the lead byte stands alone as a foreign byte. -/
def readRune (lead : UInt8) (following : Bytes) : Rune × Nat :=
  if lead < 0x80 then (Rune.ofNat lead.toNat, 0)
  else
    let foreign := (Rune.ofForeignByte lead, 0)
    match announcedLength lead, following with
    | 2, a :: _ =>
      let n := lead.toNat % 32 * 64 + payload a
      if isContinuation a && 0x80 ≤ n then (Rune.ofNat n, 1) else foreign
    | 3, a :: b :: _ =>
      let n := lead.toNat % 16 * 4096 + payload a * 64 + payload b
      if isContinuation a && isContinuation b && 0x800 ≤ n && !(Rune.ofNat n).isSurrogate then
        (Rune.ofNat n, 2)
      else foreign
    | 4, a :: b :: c :: _ =>
      let n := lead.toNat % 8 * 262144 + payload a * 4096 + payload b * 64 + payload c
      if isContinuation a && isContinuation b && isContinuation c && 0x10000 ≤ n && n < 0x110000 then
        (Rune.ofNat n, 3)
      else foreign
    | _, _ => foreign

/-- Decodes the bytes after `skip` ones that belong to a character already read. The text so far is
kept in reverse. -/
def decodeFrom : (skip : Nat) → (before : Text) → Bytes → Text
  | _, before, [] => before.reverse
  | skip + 1, before, _ :: rest => decodeFrom skip before rest
  | 0, before, lead :: rest =>
    let (r, following) := readRune lead rest
    decodeFrom following (r :: before) rest

/-- The text of a byte sequence, foreign bytes included. -/
def decode (b : Bytes) : Text := decodeFrom 0 [] b

/-- The text of a byte sequence that is valid UTF-8 throughout. -/
def decodeStrict? (b : Bytes) : Option Text :=
  let t := decode b
  if t.any Rune.isSurrogate then none else some t

end Text

end GroundedDialogue
