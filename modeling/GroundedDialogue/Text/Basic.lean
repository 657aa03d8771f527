import GroundedDialogue.Bytes

/-!
# Text

A text is a list of code points. Surrogates are code points too: a text that came from bytes which
are not valid UTF-8 holds one surrogate for each foreign byte (`Text.Utf8`), and outside callers may
hand in any other. Everything that measures or cuts a text counts code points; whatever counts bytes
goes through the encoding.
-/

namespace GroundedDialogue

/-- A Unicode code point, surrogates included. -/
abbrev Rune := Fin 0x110000

/-- A sequence of code points. -/
abbrev Text := List Rune

/-- A numeral stands for the code point of its number. -/
instance Rune.instOfNat (n : Nat) : OfNat Rune n := ⟨Fin.ofNat 0x110000 n⟩

namespace Rune

theorem toNat_char_lt (c : Char) : c.toNat < 0x110000 := by
  rcases c.valid with h | ⟨_, h⟩
  · exact Nat.lt_trans h (by decide)
  · exact h

def ofChar (c : Char) : Rune := ⟨c.toNat, toNat_char_lt c⟩

instance : Coe Char Rune := ⟨ofChar⟩

/-- The code point of this number; a number beyond the last code point gives the replacement
character. -/
def ofNat (n : Nat) : Rune := if h : n < 0x110000 then ⟨n, h⟩ else 0xFFFD

def doubleQuote : Rune := 34

def apostrophe : Rune := 39

def backslash : Rune := 92

def graveAccent : Rune := 96

/-- Surrogates are code points of no character. -/
def isSurrogate (r : Rune) : Bool := 0xD800 ≤ r.val && r.val ≤ 0xDFFF

end Rune

namespace Text

def ofString (s : String) : Text := s.toList.map Rune.ofChar

instance : Coe String Text := ⟨ofString⟩

/-- The string with the same characters; a surrogate becomes the replacement character. -/
def toString (t : Text) : String := String.ofList (t.map fun r => if r.isSurrogate then '\uFFFD' else Char.ofNat r.val)

def ofNat (n : Nat) : Text := (Nat.toDigits 10 n).map Rune.ofChar

/-- The text of an integer in base ten, with a sign only below zero. -/
def ofInt (n : Int) : Text := if n < 0 then Rune.ofChar '-' :: ofNat n.natAbs else ofNat n.natAbs

def concat (ts : List Text) : Text := ts.flatten

/-- The texts one after another with a separator between each two. -/
def join (separator : Text) (ts : List Text) : Text := (ts.intersperse separator).flatten

/-- The rest of the text after a beginning that it starts with. -/
def after? : (start : Text) → Text → Option Text
  | [], t => some t
  | _ :: _, [] => none
  | a :: start, b :: t => if a = b then after? start t else none

def startsWith (t start : Text) : Bool := start.isPrefixOf t

def endsWith (t ending : Text) : Bool := ending.isSuffixOf t

def trimStart (p : Rune → Bool) (t : Text) : Text := t.dropWhile p

def trimEnd (p : Rune → Bool) (t : Text) : Text := (t.reverse.dropWhile p).reverse

def trim (p : Rune → Bool) (t : Text) : Text := trimEnd p (trimStart p t)

def find? (pattern : Text) : Text → Option Nat
  | [] => if pattern.isEmpty then some 0 else none
  | r :: t => if pattern.isPrefixOf (r :: t) then some 0 else (find? pattern t).map (· + 1)

/-- The number of occurrences of a pattern that do not overlap, counted from the left. The number of
code points still to skip is carried along after an occurrence. -/
def countFrom (pattern : Text) : (skip : Nat) → Text → Nat
  | _, [] => 0
  | skip + 1, _ :: t => countFrom pattern skip t
  | 0, r :: t =>
    if pattern.isPrefixOf (r :: t) then 1 + countFrom pattern (pattern.length - 1) t
    else countFrom pattern 0 t

/-- The number of occurrences of a non-empty pattern that do not overlap. -/
def count (pattern t : Text) : Nat := countFrom pattern 0 t

end Text

end GroundedDialogue
