import GroundedDialogue.Scalar

/-!
# Error codes

Every failure of a store or of its file has a code with a name and a description. A message is the
description of its code and, after a colon, a detail, if there is one.
-/

namespace GroundedDialogue

/-- What can go wrong with a store or its file. -/
inductive ErrorCode where
  | success
  | opening
  | closing
  | headerWrite
  | headerRead
  | badMagic
  | layoutMismatch
  | tooManyDocuments
  | recordWrite
  | recordRead
  | badVersion
  | storeFull
  | noEmbedder
  deriving DecidableEq, Repr

namespace ErrorCode

def all : List ErrorCode :=
  [success, opening, closing, headerWrite, headerRead, badMagic, layoutMismatch, tooManyDocuments,
    recordWrite, recordRead, badVersion, storeFull, noEmbedder]

def number : ErrorCode → Nat
  | success => 0
  | opening => 9001
  | closing => 9002
  | headerWrite => 9003
  | headerRead => 9004
  | badMagic => 9005
  | layoutMismatch => 9006
  | tooManyDocuments => 9007
  | recordWrite => 9008
  | recordRead => 9009
  | badVersion => 9010
  | storeFull => 9011
  | noEmbedder => 9012

def name : ErrorCode → Text
  | success => "SUCCESS"
  | opening => "OPEN_ERR"
  | closing => "CLOSE_ERR"
  | headerWrite => "HEADER_WRITE_ERR"
  | headerRead => "HEADER_READ_ERR"
  | badMagic => "MAGIC_MISMATCH_ERR"
  | layoutMismatch => "EMBED_MISMATCH_ERR"
  | tooManyDocuments => "COUNT_TOO_LARGE_ERR"
  | recordWrite => "DOC_WRITE_ERR"
  | recordRead => "DOC_READ_ERR"
  | badVersion => "VERSION_MISMATCH_ERR"
  | storeFull => "STORE_FULL"
  | noEmbedder => "NO_EMBEDDER"

def description : ErrorCode → Text
  | success => "Success"
  | opening => "Unable to open vector database file"
  | closing => "Unable to close vector database file"
  | headerWrite => "Failed to write vector database header"
  | headerRead => "Failed to read vector database header"
  | badMagic => "Not a vector database file (bad magic)"
  | layoutMismatch => "Vector database embedding size or text size does not match"
  | tooManyDocuments => "Vector database holds more documents than the store capacity"
  | recordWrite => "Failed to write vector database documents"
  | recordRead => "Failed to read vector database documents"
  | badVersion => "Unsupported vector database version"
  | storeFull => "Vector database is full"
  | noEmbedder => "No embedding provider attached to the vector store"

def ofNumber? (n : Int) : Option ErrorCode := all.find? fun code => (code.number : Int) = n

/-- The code that a value is the number of. -/
def ofScalar? (v : Scalar) : Option ErrorCode := v.toInt?.bind ofNumber?

/-- The description of a value as a code, known or not. -/
def describe (v : Scalar) : Text :=
  match ofScalar? v with
  | some code => code.description
  | none => "Unknown vector database error (" ++ v.text ++ ")"

/-- A description with a detail. An empty detail is left out. -/
def withDetail (description : Text) (detail : Option Text) : Text :=
  match detail with
  | none | some [] => description
  | some detail => description ++ ": " ++ detail

/-- The message of a failure with this code. -/
def explain (code : ErrorCode) (detail : Option Text) : Text := withDetail code.description detail

/-- The message about a value that is the number of no code. -/
def notANumber (v : Scalar) : Text := v.quoted ++ " is not a valid VectorStoreErrorCode"

end ErrorCode

end GroundedDialogue
