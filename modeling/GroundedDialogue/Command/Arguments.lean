import GroundedDialogue.Disk.Path
import GroundedDialogue.Text.DecimalDigit
import GroundedDialogue.Text.WhiteSpace

/-!
# Arguments of commands

A command has options with a long name and mostly a letter. Some options take a value, which follows
as an argument of its own or is attached: after an equals sign, or directly after the letter. Letters
of options without a value may be joined, and a long name may be cut short as long as it is not
ambiguous. Commands take nothing but options. Two dashes that are attached as a value stand for no
value.

Every argument is classified before any is acted on, so an ambiguous name is refused first.
-/

namespace GroundedDialogue

/-- An option. Without a key it asks for help. -/
structure OptionSpec (κ : Type) where
  key : Option κ
  letter : Option Rune
  /-- The long name without its dashes. -/
  name : Text
  takesValue : Bool

/-- Why arguments do not lead to a run. -/
inductive Refusal where
  | help
  | misuse
  deriving DecidableEq, Repr

def Refusal.code : Refusal → Int
  | help => 0
  | misuse => 2

/-- The options that were given, with the value of each that has one. -/
abbrev Given (κ : Type) := List (κ × Option Text)

namespace Arguments

/-- The option that every command has. -/
def helpSpec {κ : Type} : OptionSpec κ := ⟨none, some (Rune.ofChar 'h'), "help", false⟩

/-- An argument by itself. -/
inductive Word (κ : Type) where
  /-- No option: a value, or an argument that no command takes. -/
  | plain
  /-- An option with the text that is attached to it. -/
  | option (spec : OptionSpec κ) (byLetter : Bool) (attachment : Option Text)
  | unknown

def dash : Rune := Rune.ofChar '-'

def equalsSign : Rune := Rune.ofChar '='

/-- Two dashes by themselves end the options. -/
def separator : Text := [dash, dash]

/-- A text before and after its first equals sign. -/
def splitEquals (t : Text) : Text × Option Text :=
  let before := t.takeWhile (· ≠ equalsSign)
  (before, if before.length < t.length then some (t.drop (before.length + 1)) else none)

/-- Whether an argument reads as a negative number. A line feed may end it. -/
def isNegativeNumber (t : Text) : Bool :=
  match t with
  | [] => false
  | r :: rest =>
    let body := if rest.getLast? = some Rune.newline then rest.dropLast else rest
    let isDigit (r : Rune) : Bool := r.digitValue?.isSome
    let fraction := (body.dropWhile isDigit)
    r = dash && ((body ≠ [] && fraction = [])
      || (fraction.head? = some (Rune.ofChar '.') && fraction.length > 1 && (fraction.drop 1).all isDigit))

variable {κ : Type}

def byLetter? (specs : List (OptionSpec κ)) (r : Rune) : Option (OptionSpec κ) :=
  specs.find? fun spec => spec.letter = some r

def byName? (specs : List (OptionSpec κ)) (t : Text) : Option (OptionSpec κ) :=
  specs.find? fun spec => spec.name = t

/-- An argument that begins with a dash and names no option: it may still be a value. -/
def unnamed (t : Text) : Word κ :=
  if isNegativeNumber t || t.contains 32 then .plain else .unknown

/-- What an argument with two dashes in front is, given what follows them. -/
def classifyLong (specs : List (OptionSpec κ)) (t body : Text) : Except Refusal (Word κ) :=
  let (name, attachment) := splitEquals body
  match byName? specs body with
  | some spec => .ok (.option spec false none)
  | none =>
    match byName? specs name, attachment with
    | some spec, some _ => .ok (.option spec false attachment)
    | _, _ =>
      match specs.filter fun spec => Text.startsWith spec.name name with
      | [] => .ok (unnamed t)
      | [spec] => .ok (.option spec false attachment)
      | _ => .error .misuse

/-- What an argument with one dash in front is, given what follows the dash. One equals sign after
the letter is not part of what is attached. -/
def classifyShort (specs : List (OptionSpec κ)) (t : Text) (letter : Rune) (rest : Text) : Word κ :=
  match byLetter? specs letter with
  | none => unnamed t
  | some spec =>
    match rest with
    | [] => .option spec true none
    | r :: value => .option spec true (some (if r = equalsSign then value else r :: value))

def classify (specs : List (OptionSpec κ)) (t : Text) : Except Refusal (Word κ) :=
  match t with
  | a :: b :: rest =>
    if a ≠ dash then .ok .plain
    else if b = dash then classifyLong specs t rest
    else .ok (classifyShort specs t b rest)
  | _ => .ok .plain

/-- Classifies arguments. Nothing after the separator is an option; the separator itself is taken by
no command. -/
def classifyAll (specs : List (OptionSpec κ)) : List Text → Except Refusal (List (Text × Word κ))
  | [] => .ok []
  | t :: rest =>
    if t = separator then .ok ((t, .unknown) :: rest.map fun t => (t, .plain))
    else do
      let word ← classify specs t
      return (t, word) :: (← classifyAll specs rest)

/-- What one argument with options comes to. -/
structure Reading (κ : Type) where
  /-- The options without a value and those with an attached one, in order. -/
  given : List (Option κ × Option Text)
  /-- An option that takes the next argument for its value. -/
  waiting : Option (OptionSpec κ)

/-- The value that an attached text stands for. -/
def attached (t : Text) : Option Text := if t = separator then none else some t

/-- Reads joined letters; what follows the letter of an option with a value is its value. -/
def readLetters (specs : List (OptionSpec κ)) (given : List (Option κ × Option Text)) :
    Text → Except Refusal (Reading κ)
  | [] => .ok ⟨given, none⟩
  | letter :: rest =>
    match byLetter? specs letter with
    | none => .error .misuse
    | some spec =>
      if spec.takesValue then
        .ok (if rest = [] then ⟨given, some spec⟩ else ⟨given ++ [(spec.key, attached rest)], none⟩)
      else readLetters specs (given ++ [(spec.key, none)]) rest

/-- Reads one argument with an option. To an option without a value only further letters can be
attached, and only if it is named by its letter. -/
def read (specs : List (OptionSpec κ)) (spec : OptionSpec κ) (byLetter : Bool)
    (attachment : Option Text) : Except Refusal (Reading κ) :=
  match attachment with
  | none => .ok (if spec.takesValue then ⟨[], some spec⟩ else ⟨[(spec.key, none)], none⟩)
  | some t =>
    if spec.takesValue then .ok ⟨[(spec.key, attached t)], none⟩
    else if !byLetter || t = [] then .error .misuse
    else readLetters specs [(spec.key, none)] t

/-- Acts on options in order; the first one that asks for help ends it. -/
def act (given : Given κ) : List (Option κ × Option Text) → Except Refusal (Given κ)
  | [] => .ok given
  | (none, _) :: _ => .error .help
  | (some key, value) :: rest => act (given ++ [(key, value)]) rest

/-- Goes through classified arguments. An argument that no option takes is passed over until the end,
where it makes the whole line a misuse. -/
def collect (specs : List (OptionSpec κ)) (given : Given κ) (strays : Bool) :
    List (Text × Word κ) → Except Refusal (Given κ)
  | [] => if strays then .error .misuse else .ok given
  | (_, .option spec byLetter attachment) :: rest => do
    let reading ← read specs spec byLetter attachment
    match reading.waiting with
    | none => collect specs (← act given reading.given) strays rest
    | some spec =>
      match rest with
      | (value, .plain) :: rest =>
        collect specs (← act given (reading.given ++ [(spec.key, some value)])) strays rest
      | _ => .error .misuse
  | _ :: rest => collect specs given true rest

def parse (specs : List (OptionSpec κ)) (arguments : List Text) : Except Refusal (Given κ) := do
  let specs := helpSpec :: specs
  collect specs [] false (← classifyAll specs arguments)

end Arguments

namespace Given

variable {κ : Type} [BEq κ]

/-- What was given with an option: nothing if it was not given, and maybe a value if it was. Of several
times the last counts. -/
def last? (g : Given κ) (key : κ) : Option (Option Text) := g.reverse.lookup key

/-- The value of an option, if it was given with one. -/
def value? (g : Given κ) (key : κ) : Option Text := (g.last? key).join

def has (g : Given κ) (key : κ) : Bool := (g.last? key).isSome

end Given

end GroundedDialogue
