import GroundedDialogue.Text.Lowercase
import GroundedDialogue.Text.WhiteSpace

/-!
# Cleaning a reply for display

A raw reply may begin with quotes, with labels of roles and with the name of the speaker, and may run
on into control tags. All of that is taken off; an empty result means that there is no usable reply.
-/

namespace GroundedDialogue.Reply

/-- Space, tab, line feed and carriage return. -/
def isPadding (r : Rune) : Bool := r = 32 || r = 9 || r = 10 || r = 13

/-- The marks that are taken off at the start of a reply. -/
def isQuote (r : Rune) : Bool := r = .doubleQuote || r = .apostrophe || r = .graveAccent

/-- What may stand between a name and the words of its bearer. -/
def isSeparator (r : Rune) : Bool := r = Rune.ofChar ':' || r = Rune.ofChar '-' || r = Rune.ofChar ','

/-- The labels of roles, in the order in which they are taken off. -/
def rolePrefixes : List Text := ["Answer:", "NPC:", "Context:", "System:"]

def contextTag : Text := "<context>"

/-- The tags that end a reply. -/
def cutTags : List Text := ["<system-reminder>", "<system", "<|", "</s>", "###"]

/-- The text without leading quotes and the padding after each of them. Padding in front of the first
quote is no concern of this function. -/
def trimQuotesFrom (afterQuote : Bool) : Text → Text
  | [] => []
  | r :: t =>
    if isQuote r || (afterQuote && isPadding r) then trimQuotesFrom true t else r :: t

def trimQuotes (t : Text) : Text := trimQuotesFrom false t

/-- Whether a text starts with these code points, whatever their case. -/
def startsWithIgnoringCase (t start : Text) : Bool := Text.lower (t.take start.length) = start.lower

/-- The text without a label in front of it and the padding after that. -/
def stripLabel (t label : Text) : Text :=
  if startsWithIgnoringCase t label then Text.trimStart isPadding (t.drop label.length) else t

def cutAtFirst (tags : List Text) (t : Text) : Text :=
  t.take <| tags.foldl (fun cut tag =>
    match Text.find? tag t with
    | some offset => if offset < cut then offset else cut
    | none => cut) t.length

/-- Whether a text starts with a name that ends there, whatever its case. -/
def startsWithName (t name : Text) : Bool :=
  startsWithIgnoringCase t name
    && match (t.drop name.length).head? with
      | none => true
      | some r => isSeparator r || isPadding r

/-- The text after one echo of a name, with the separators, the padding and the quotes after it. -/
def dropEcho (t name : Text) : Text :=
  trimQuotes (Text.trimStart isPadding (Text.trimStart isSeparator (t.drop name.length)))

/-- Takes off echoes of a name, at most `fuel` of them. -/
def dropEchoes (name : Text) : (fuel : Nat) → Text → Text
  | 0, t => t
  | fuel + 1, t => if startsWithName t name then dropEchoes name fuel (dropEcho t name) else t

/-- The text after all echoes of a name. There are no more of them than code points. -/
def withoutEchoes (t : Text) (name : Option Text) : Text :=
  match name with
  | none | some [] => t
  | some name => dropEchoes name t.length t

/-- The beginning of a reply without padding, quotes, labels and an opened context. -/
def withoutLabels (raw : Text) : Text :=
  let t := trimQuotes (raw.trimStart isPadding)
  let t := rolePrefixes.foldl stripLabel t
  match Text.after? contextTag t with
  | some rest => rest.trimStart isPadding
  | none => t

/-- The displayable part of a raw reply. -/
def clean (raw : Text) (speaker : Option Text) : Text :=
  (withoutEchoes (cutAtFirst cutTags (withoutLabels raw)) speaker).trimEnd isPadding

end GroundedDialogue.Reply
