import GroundedDialogue.Disk.Tree

/-!
# Faults of file access

Every step of saving or loading a file can be made to fail. A faulty device answers each write with
what it says it has taken and each read with at most what it is told to give; whether it stores what
it has acknowledged is a property of the device.
-/

namespace GroundedDialogue.Disk

inductive WriteAnswer where
  | all
  /-- It says that it has taken so many bytes. -/
  | took (count : Int)
  | failed (message : Text)
  deriving DecidableEq

inductive ReadAnswer where
  | all
  /-- It gives at most so many bytes. -/
  | atMost (count : Nat)
  | failed (message : Text)
  deriving DecidableEq

/-- A device that stands in for the file that is opened. -/
structure Device where
  writes : List WriteAnswer
  reads : List ReadAnswer
  /-- What closing fails with after something was written. -/
  closing : Option Text
  /-- What is there to be read. -/
  content : Bytes
  /-- Whether what it has acknowledged is stored. -/
  stores : Bool
  deriving DecidableEq

/-- The faults of one access to a file. -/
structure Faults where
  opening : Option Text
  makingTemporary : Option Text
  replacing : Option Text
  device : Option Device
  /-- What closing fails with after something was read. -/
  leaving : Option Text := none
  deriving DecidableEq

namespace Faults

/-- Nothing fails but for the state of the directory tree. -/
def none : Faults := ⟨.none, .none, .none, .none, .none⟩

def writeAnswer (f : Faults) (i : Nat) : WriteAnswer :=
  (f.device.bind fun d => d.writes[i]?).getD .all

def readAnswer (f : Faults) (i : Nat) : ReadAnswer :=
  (f.device.bind fun d => d.reads[i]?).getD .all

/-- What closing fails with after something was written, if it does. -/
def closing (f : Faults) : Option Text := f.device.bind Device.closing

/-- Whether written bytes reach the directory tree. -/
def stores (f : Faults) : Bool := f.device.all Device.stores

end Faults

end GroundedDialogue.Disk
