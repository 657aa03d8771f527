import GroundedDialogue.Store.Basic

/-!
# The format of a store file

A file is a header of five numbers and one record for each document. All numbers are stored with
their least byte first. A record holds the components of the embedding and a text field of fixed
size, in which the text is followed by nulls. At least one null ends the text, so that readers of
null-terminated texts can use the field.
-/

namespace GroundedDialogue

structure Header where
  magic : Nat
  version : Nat
  embedSize : Nat
  maxText : Nat
  count : Nat
  deriving DecidableEq

namespace Header

/-- The number that marks a store file: the letters `VDB1`. -/
def magicNumber : Nat := 0x31424456

/-- The only version there is. -/
def currentVersion : Nat := 1

def size : Nat := 20

def fields (h : Header) : List Nat := [h.magic, h.version, h.embedSize, h.maxText, h.count]

/-- The bytes of a header. Every number must fit in four bytes. -/
def bytes? (h : Header) : Option Bytes :=
  if h.fields.all (· < 2 ^ 32) then some (h.fields.flatMap (Bytes.ofNat 4)) else none

def ofBytes (b : Bytes) : Header :=
  let field (i : Nat) : Nat := Bytes.toNat ((b.drop (4 * i)).take 4)
  ⟨field 0, field 1, field 2, field 3, field 4⟩

/-- The header of a file with so many documents. -/
def ofLayout (l : Layout) (count : Nat) : Header :=
  ⟨magicNumber, currentVersion, l.embedSize, l.maxText, count⟩

end Header

namespace Record

def size (l : Layout) : Nat := 4 * l.embedSize + l.maxText

/-- There is a type for such records, and so many of them fit into memory. -/
structure HasRoom [Platform] (l : Layout) (count : Nat) : Prop where
  type : Platform.refusal? l.embedSize l.maxText = none
  memory : Platform.holds count (size l) = true

/-- Makes room for records. Those who ask for it differ in what they say about a number of bytes that
cannot be counted. -/
def makeRoom [Platform] (uncountable : Fault) (l : Layout) (count : Nat) : Except Fault Unit :=
  match Platform.refusal? l.embedSize l.maxText with
  | some f => .error f
  | none =>
    if !Position.fits (count * size l : Nat) then .error uncountable
    else if !Platform.holds count (size l) then .error .recordsBeyondMemory
    else .ok ()

/-- A text field: the bytes of the text, cut so that a null fits, and nulls up to its size. -/
def textField (l : Layout) (t : Text) : Bytes :=
  let kept := t.encode.take (l.maxText - 1)
  kept ++ List.replicate (l.maxText - kept.length) 0

def bytes (l : Layout) (d : Document) : Bytes :=
  d.embedding.flatMap (fun x => Bytes.ofNat 4 x.bits.toNat) ++ textField l d.text

/-- The text of a text field: what stands before the first null. -/
def textOfField (field : Bytes) : Text := Text.decode (field.takeWhile (· ≠ 0))

def document (l : Layout) (b : Bytes) : Document where
  embedding := (Bytes.parts 4 l.embedSize b).map fun part => Binary32.ofNatBits (Bytes.toNat part)
  text := textOfField ((b.drop (4 * l.embedSize)).take l.maxText)

/-- The bytes of all documents. -/
def bytesOf (l : Layout) (ds : List Document) : Bytes := ds.flatMap (bytes l)

def documents (l : Layout) (count : Nat) (b : Bytes) : List Document :=
  (Bytes.parts (size l) count b).map (document l)

end Record

end GroundedDialogue
