import GroundedDialogue.Digest.Md5
import GroundedDialogue.Embedding.Provider
import GroundedDialogue.Text.Lowercase
import GroundedDialogue.Text.Utf8
import GroundedDialogue.Text.Word

/-!
# The hashed bag of words

Every word of the lower-cased text adds a one or a minus one to a component; the digest of the word
says to which and which of the two. Texts that share words come to lie close together. No model is
needed.
-/

namespace GroundedDialogue.Hashed

/-- The number that chooses the component of a word: the first four bytes of its digest. -/
def bucketNumber (word : Text) : Nat := Bytes.toNat ((Md5.digest word.encode).take 4)

/-- What a word adds to its component: the lowest bit of the fifth byte of its digest decides. -/
def sign (word : Text) : Int :=
  if ((Md5.digest word.encode).getD 4 0).toNat % 2 = 1 then 1 else -1

/-- Adds one word to a vector. The digest is that of a word without surrogates, and without components
there is no place for it. -/
def addWord (dimension : Nat) (v : Embedding) (word : Text) : Except Fault Embedding :=
  if word.any Rune.isSurrogate then .error .unwritableWord
  else if dimension = 0 then .error .zeroDimension
  else .ok (v.modify (bucketNumber word % dimension) (·.add (Binary32.ofInt (sign word))))

def wordsOf (t : Text) : List Text := t.lower.words

/-- The vector of a text. A component takes four bytes. -/
def embed (dimension : Int) (t : Text) : Except Fault Embedding :=
  if !Position.fits dimension then .error .uncountableDimension
  else if dimension < 0 then .error .negativeDimension
  else if !Position.fits (4 * dimension) then .error .vectorTooLarge
  else
    let n := dimension.toNat
    (wordsOf t).foldlM (addWord n) (List.replicate n Binary32.zero)

end GroundedDialogue.Hashed
