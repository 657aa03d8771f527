import GroundedDialogue.Disk.Path
import GroundedDialogue.Disk.SystemError

/-!
# The directory tree

Files and directories by their place. A path is followed part by part; each part on the way must be a
directory.
-/

namespace GroundedDialogue.Disk

inductive Node where
  | file (content : Bytes)
  | directory
  deriving DecidableEq

/-- The files and directories that exist. -/
structure Tree where
  nodes : List (Location × Node)

namespace Tree

/-- The working directory alone. -/
def empty : Tree := ⟨[(workingDirectory, .directory)]⟩

/-- What stands at a place. The outermost directory is always there. -/
def get? (t : Tree) (l : Location) : Option Node :=
  if l = [] then some .directory else t.nodes.lookup l

def erase (t : Tree) (l : Location) : Tree := ⟨t.nodes.filter (·.1 ≠ l)⟩

def set (t : Tree) (l : Location) (node : Node) : Tree := ⟨(l, node) :: (t.erase l).nodes⟩

/-- The longest name that a file may have, in bytes. -/
def nameLimit : Nat := 255

/-- Goes on from a place by one part of a path. -/
def follow (t : Tree) (l : Location) (part : Text) : Except Problem Location :=
  match t.get? l with
  | none => .error .noSuchFile
  | some (.file _) => .error .notADirectory
  | some .directory =>
    if part = [] || part = here then .ok l
    else if part = above then .ok l.dropLast
    else if part.encode.length > nameLimit then .error .nameTooLong
    else .ok (l ++ [part])

/-- Follows a path as it is written. At its end there need not be anything. -/
def locate (t : Tree) (path : Text) : Except Problem Location :=
  if path = [] then .error .noSuchFile
  else (path.splitOn slash).foldlM t.follow (if path.head? = some slash then [] else workingDirectory)

/-- Whether a text can be handed to the system as a path. -/
def checkPath (path : Text) : Except InvalidPath Unit :=
  if !path.isEncodable then .error .unencodable
  else if path.contains 0 then .error .nullRune
  else .ok ()

def find (t : Tree) (path : Text) : Except AccessError Location := do
  (checkPath path).mapError .invalid
  (t.locate path).mapError fun problem => .system (.atPath problem path)

def read (t : Tree) (path : Text) : Except AccessError Bytes := do
  match t.get? (← t.find path) with
  | some (.file content) => return content
  | some .directory => throw (.system (.atPath .isADirectory path))
  | none => throw (.system (.atPath .noSuchFile path))

def create (t : Tree) (path : Text) : Except AccessError (Location × Tree) := do
  let l ← t.find path
  match t.get? l with
  | some .directory => throw (.system (.atPath .isADirectory path))
  | _ => return (l, t.set l (.file []))

def append (t : Tree) (l : Location) (bytes : Bytes) : Tree :=
  match t.get? l with
  | some (.file content) => t.set l (.file (content ++ bytes))
  | _ => t

/-- The eight runes in the middle of a temporary name: the `i`-th choice. -/
def temporaryMiddle (i : Nat) : Text :=
  if i = 0 then List.replicate 8 (Rune.ofChar 'X')
  else
    let digits := Text.ofNat i
    List.replicate (8 - digits.length) (Rune.ofChar '0') ++ digits

/-- The `i`-th name for a temporary file beside a file of this name. -/
def temporaryName (name : Text) (i : Nat) : Text :=
  "." ++ name ++ "." ++ temporaryMiddle i ++ ".tmp"

/-- The first name for a temporary file in a directory that nothing has yet. -/
def freshName (t : Tree) (directory : Location) (name : Text) : Text :=
  let taken (i : Nat) : Bool := (t.get? (directory ++ [temporaryName name i])).isSome
  temporaryName name (((List.range (t.nodes.length + 1)).find? (!taken ·)).getD 0)

/-- Makes an empty temporary file beside the place that a path leads to, under a new name. -/
def createTemporary (t : Tree) (p : Path) : Except AccessError (Location × Tree) := do
  (checkPath p.text).mapError .invalid
  let directory := p.parent.location
  let l := directory ++ [t.freshName directory p.name]
  match l.foldlM t.follow [] with
  | .error problem => throw (.system (.atPath problem (Location.text l)))
  | .ok l => return (l, t.set l (.file []))

/-- Moves a file to the end of a path, in place of the file there. A path that ends in dots names no
entry of a directory that could be replaced. -/
def rename (t : Tree) (source : Location) (p : Path) : Except SystemError Tree :=
  let failed (problem : Problem) : Except SystemError Tree :=
    .error (.moving problem (Location.text source) p.text)
  match t.locate p.parent.text with
  | .error problem => failed problem
  | .ok directory =>
    if p.name = [] || p.name = above then failed .busy
    else match t.follow directory p.name, t.get? source with
      | .error problem, _ => failed problem
      | .ok _, none | .ok _, some .directory => failed .noSuchFile
      | .ok target, some (.file content) =>
        match t.get? target with
        | some .directory => failed .isADirectory
        | _ => .ok ((t.erase source).set target (.file content))

def remove (t : Tree) (path : Text) : Except AccessError Tree := do
  let l ← t.find path
  match t.get? l with
  | some (.file _) => return t.erase l
  | some .directory => throw (.system (.atPath .isADirectory path))
  | none => throw (.system (.atPath .noSuchFile path))

/-- Makes the directories on the way to a place, as far as nothing is there yet. -/
def makeDirectories (t : Tree) (l : Location) : Tree :=
  (List.range (l.length + 1)).foldl
    (fun t n => if (t.get? (l.take n)).isNone then t.set (l.take n) .directory else t) t

/-- Writes a file at the end of a path, with the directories on the way to it. -/
def put (t : Tree) (p : Path) (content : Bytes) : Except SystemError Tree :=
  let t := t.makeDirectories p.parent.location
  match p.location.foldlM t.follow [] with
  | .error problem => .error (.atPath problem p.text)
  | .ok l =>
    match t.get? l with
    | some .directory => .error (.atPath .isADirectory p.text)
    | _ => .ok (t.set l (.file content))

/-- Whether one text comes before another, code point by code point. -/
def textLe : Text → Text → Bool
  | [], _ => true
  | _ :: _, [] => false
  | a :: s, b :: t => a < b || (a = b && textLe s t)

/-- The paths of all files below the working directory, in order. -/
def files (t : Tree) : List Text :=
  let paths := t.nodes.filterMap fun (l, node) =>
    match node with
    | .file _ => if workingDirectory.isPrefixOf l then some (Location.text l) else none
    | .directory => none
  paths.mergeSort textLe

end Tree

end GroundedDialogue.Disk
