import GroundedDialogue.Text.Lowercase
import GroundedDialogue.Text.Word

/-!
# Shared words

A question and a context overlap when they share a word that is long enough and not too common. Words
are runs of the letters a to z, digits and apostrophes in the lower-cased text.
-/

namespace GroundedDialogue.Overlap

/-- Words that are too common to count. -/
def commonWords : List Text :=
  (["about", "after", "again", "also", "been", "before", "being", "could", "does", "doing", "from",
    "have", "having", "here", "into", "just", "know", "like", "more", "most", "much", "only", "over",
    "said", "same", "should", "some", "such", "tell", "than", "that", "their", "them", "then", "there",
    "these", "they", "this", "those", "very", "want", "were", "what", "when", "where", "which", "while",
    "whom", "whose", "will", "with", "would", "your", "yours"] : List String).map Text.ofString

def leastLength : Int := 4

/-- Whether a code point belongs to words here. -/
def isWordRune (r : Rune) : Bool :=
  (97 ≤ r.val && r.val ≤ 122) || (48 ≤ r.val && r.val ≤ 57) || r = .apostrophe

/-- The words of a text that count. -/
def contentWords (least : Int) (common : List Text) (t : Text) : List Text :=
  (t.lower.runs isWordRune).filter fun word => least ≤ word.length && !common.contains word

/-- Whether two texts share a word that counts. -/
def shares (least : Int) (common : List Text) (question context : Text) : Bool :=
  let words := contentWords least common context
  (contentWords least common question).any words.contains

end GroundedDialogue.Overlap
