import GroundedDialogue.Text.Quoted
import GroundedDialogue.Text.Utf8

/-!
# Paths

A path as it is written is a text. Its tidy form drops empty parts and single dots; double dots stay,
because what they mean depends on the directory tree.
-/

namespace GroundedDialogue

namespace Text

/-- The parts of a text between separators. -/
def splitOn (separator : Rune) : Text → List Text
  | [] => [[]]
  | r :: t =>
    if r = separator then [] :: splitOn separator t
    else match splitOn separator t with
      | part :: rest => (r :: part) :: rest
      | [] => [[r]]

end Text

namespace Disk

def slash : Rune := Rune.ofChar '/'

/-- The part that stays in the same directory. -/
def here : Text := "."

/-- The part that leads to the directory above. -/
def above : Text := ".."

/-- The tidy form of a path. -/
structure Path where
  /-- The slashes in front of a path from the root: one, or exactly two. -/
  root : Text
  parts : List Text
  deriving DecidableEq

namespace Path

/-- The tidy form of a text. -/
def ofText (t : Text) : Path where
  root := match (t.takeWhile (· = slash)).length with
    | 0 => []
    | 2 => [slash, slash]
    | _ => [slash]
  parts := (t.splitOn slash).filter fun part => part ≠ [] && part ≠ here

def text (p : Path) : Text :=
  if p.root = [] && p.parts = [] then here else p.root ++ Text.join [slash] p.parts

def name (p : Path) : Text := p.parts.getLastD []

def parent (p : Path) : Path := { p with parts := p.parts.dropLast }

/-- Whether the path starts at the root. -/
def isAbsolute (p : Path) : Bool := p.root ≠ []

/-- A path below a directory. A path from the root stays as it is. -/
def below (directory p : Path) : Path :=
  if p.isAbsolute then p else { directory with parts := directory.parts ++ p.parts }

end Path

/-- A place in the directory tree: the names on the way to it. -/
abbrev Location := List Text

/-- The directory that the program works in. It has one directory above it. -/
def workingDirectory : Location := ["work"]

/-- The place that a path leads to when double dots take back the part before them, whatever is
there. -/
def Path.location (p : Path) : Location :=
  p.parts.foldl (fun location part => if part = above then location.dropLast else location ++ [part])
    (if p.isAbsolute then [] else workingDirectory)

/-- A place as a path: from the working directory if it lies below it, else from the root. -/
def Location.text (l : Location) : Text :=
  match workingDirectory.isPrefixOf l with
  | true => Text.join [slash] (l.drop workingDirectory.length)
  | false => slash :: Text.join [slash] l

end Disk

end GroundedDialogue
