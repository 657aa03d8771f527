import GroundedDialogue.Text.Quoted

/-!
# Errors of file access

Why a file could not be opened, read, written, closed or renamed.
-/

namespace GroundedDialogue.Disk

/-- What is wrong with a path. -/
inductive Problem where
  | noSuchFile
  | busy
  | notADirectory
  | isADirectory
  | nameTooLong
  deriving DecidableEq, Repr

/-- The number under which the system knows a problem. -/
def Problem.number : Problem → Nat
  | noSuchFile => 2
  | busy => 16
  | notADirectory => 20
  | isADirectory => 21
  | nameTooLong => 36

def Problem.words : Problem → Text
  | noSuchFile => "No such file or directory"
  | busy => "Device or resource busy"
  | notADirectory => "Not a directory"
  | isADirectory => "Is a directory"
  | nameTooLong => "File name too long"

/-- A failed access. -/
inductive SystemError where
  /-- The device reported it with these words. -/
  | reported (message : Text)
  | atPath (problem : Problem) (path : Text)
  | moving (problem : Problem) (source target : Text)
  deriving DecidableEq

namespace SystemError

/-- The problem with a path, if that is the cause. -/
def problem? : SystemError → Option Problem
  | reported _ => none
  | atPath problem _ | moving problem .. => some problem

def heading (problem : Problem) : Text :=
  "[Errno " ++ Text.ofNat problem.number ++ "] " ++ problem.words ++ ": "

def message : SystemError → Text
  | reported message => message
  | atPath problem path => heading problem ++ path.quoted
  | moving problem source target => heading problem ++ source.quoted ++ " -> " ++ target.quoted

end SystemError

/-- A path that cannot be handed to the system at all. -/
inductive InvalidPath where
  | nullRune
  | unencodable
  deriving DecidableEq, Repr

def InvalidPath.message : InvalidPath → Text
  | nullRune => "embedded null byte"
  | unencodable => "surrogates not allowed"

/-- Why a file is not opened. -/
inductive AccessError where
  | system (e : SystemError)
  | invalid (e : InvalidPath)
  deriving DecidableEq

end GroundedDialogue.Disk
