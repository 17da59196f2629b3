import SwaggerPress.SortedMap
import SwaggerPress.Yaml.Node
import SwaggerPress.Yaml.Scalar
import SwaggerPress.Yaml.Token.Reader

/-!
    Reading YAML texts as values of other types. Decoders look at nodes in the order of the text, so
    that what is wrong with an earlier node is reported even if the text breaks off later; only then
    the rest of the text and any further document count. A text is read in blocks, and of a block with
    a character that may not stand in a text nothing is read.

    Where text is expected every scalar is text as it is written. A list or a record that is left out
    is empty. -/

namespace SwaggerPress.Yaml

/-- The characters that may stand in a text. -/
def isAllowed (c : Char) : Bool :=
  let n := c.toNat
  n = 9 || n = 10 || n = 13 || (0x20 ≤ n && n ≤ 0x7E) || n = 0x85 || (0xA0 ≤ n && n ≤ 0xD7FF) ||
    (0xE000 ≤ n && n ≤ 0xFFFD) || 0x10000 ≤ n

/-- The most bytes that a block of a text has. -/
def blockBytes : Nat := 0x4000

/-- How far the blocks of a text have been looked at: the characters before the current block, those
in it, and the bytes before and in it. -/
structure BlockPosition where
  before : Nat := 0
  inside : Nat := 0
  bytesBefore : Nat := 0
  bytesInside : Nat := 0

/-- The position after one more character. No character is torn between blocks. -/
def BlockPosition.past (p : BlockPosition) (c : Char) : BlockPosition :=
  if p.bytesInside + c.utf8Size ≤ blockBytes then
    { p with inside := p.inside + 1, bytesInside := p.bytesInside + c.utf8Size }
  else ⟨p.before + p.inside, 1, p.bytesBefore + p.bytesInside, c.utf8Size⟩

/-- The number of characters in the blocks before the one with the first character that may not stand
in a text, and the number of bytes before that character. -/
def firstForbidden? (p : BlockPosition) : List Char → Option (Nat × Nat)
  | [] => none
  | c :: rest =>
    if isAllowed c then firstForbidden? (p.past c) rest
    else some ((p.past c).before, p.bytesBefore + p.bytesInside)

/-- The first document of a text. -/
def Document.ofText (text : String) : Document :=
  let cs := text.toList
  .ofEvents <| Event.ofTokens <| match firstForbidden? {} cs with
    | none => Token.ofText cs none
    | some (count, offset) => Token.ofText (cs.take count) (some (.forbiddenCharacter offset))

/-- What a tag of the standard makes of a scalar, if the scalar is that. -/
def foundTagged? (tag text : String) : Option Found :=
  match tag with
  | "tag:yaml.org,2002:bool" => (truthValue? text).map .boolean
  | "tag:yaml.org,2002:int" => (wholeNumber? text.toList).bind foundWhole?
  | "tag:yaml.org,2002:float" => foundFraction? text
  | "tag:yaml.org,2002:null" => if isNullWord text then some .nothing else none
  | _ => some (.text text)

/-- What the tags of the standard call their values. -/
def tagExpects : String → String
  | "tag:yaml.org,2002:bool" => "a boolean"
  | "tag:yaml.org,2002:int" => "an integer"
  | "tag:yaml.org,2002:float" => "a float"
  | _ => "null"

/-- The refusal of a scalar that is not what is expected. -/
def refuseScalar (tag : Option String) (text : String) (plain : Bool) (expected : String) :
    Mismatch :=
  let untagged : Found := if plain then foundPlain text else .text text
  match tag with
  | none => .wrongKind untagged expected
  | some tag =>
    if plain && "!".isPrefixOf tag then .wrongKind untagged expected
    else match foundTagged? tag text with
    | some found => .wrongKind found expected
    | none => .wrongValue (.text text) (tagExpects tag)

/-- A decoder of nodes; it is told the way to its node. -/
abbrev Decoder (α : Type) := Document → List Step → Node → Except Fault α

namespace Document

/-- The node that an alias points to. -/
def resolve (d : Document) : Node → Node
  | .alias _ n => ((d.targets.find? (·.1 = n)).map (·.2)).getD .cut
  | n => n

/-- What is wrong where the text breaks off. -/
def breakOff {α : Type} (d : Document) : Except Fault α := .error (d.fault.getD .nothingThere)

/-- The refusal of a node that is not what is expected. -/
def refuse {α : Type} (d : Document) (path : List Step) (expected : String) :
    Node → Except Fault α
  | .scalar mark tag text plain =>
    .error (.mismatch (refuseScalar tag text plain expected) mark path)
  | .sequence mark _ => .error (.mismatch (.wrongKind .sequence expected) mark path)
  | .mapping mark _ => .error (.mismatch (.wrongKind .map expected) mark path)
  | .alias _ _ | .cut => d.breakOff

mutual

/-- Whether the text breaks off inside a node. -/
def isCut : Node → Bool
  | .cut => true
  | .sequence _ items => anyCut items
  | .mapping _ members => anyMemberCut members
  | .scalar _ _ _ _ | .alias _ _ => false

def anyCut : List Node → Bool
  | [] => false
  | n :: rest => isCut n || anyCut rest

def anyMemberCut : List (Node × Node) → Bool
  | [] => false
  | (k, v) :: rest => isCut k || isCut v || anyMemberCut rest

end

/-- Passes over a node that nobody asks for. -/
def ignore (d : Document) (n : Node) : Except Fault Unit :=
  if isCut n then d.breakOff else .ok ()

end Document

/-- Text, as it is written. -/
def asText (expected : String) : Decoder String := fun d path n =>
  match d.resolve n with
  | .scalar _ _ text _ => .ok text
  | n => d.refuse path expected n

/-- A value that may be left out or null. What is no null although its tag says so is held against the
node that it belongs to. -/
def asOption {α : Type} (owner : Mark × List Step) (decode : Decoder α) : Decoder (Option α) :=
    fun d path n => do
  let n := d.resolve n
  match n with
  | .scalar _ tag text true =>
    match tag with
    | none => if text.isEmpty || isNullWord text then return none else some <$> decode d path n
    | some "tag:yaml.org,2002:null" =>
      if isNullWord text then return none
      else .error (.mismatch (.wrongValue (.text text) "null") owner.1 owner.2)
    | some _ => some <$> decode d path n
  | n => some <$> decode d path n

/-- The items of a list, each decoded. -/
def decodeItems {α : Type} (decode : Decoder α) (d : Document) (path : List Step) :
    (index : Nat) → List Node → Except Fault (List α)
  | _, [] => .ok []
  | index, n :: rest => do
    let x ← decode d (path ++ [.item index]) n
    let xs ← decodeItems decode d path (index + 1) rest
    return x :: xs

def asListOf {α : Type} (decode : Decoder α) : Decoder (List α) := fun d path n =>
  match d.resolve n with
  | .sequence _ items => decodeItems decode d path 0 items
  | .scalar _ _ "" true => .ok []
  | n => d.refuse path "a sequence" n

/-- The step to the value of a key. -/
def stepTo : Node → Step
  | .scalar _ _ text _ => .key text
  | _ => .complexKey

/-- The members of a mapping as `expected`, each given to `use` with its key's text in the order of
the text. -/
def foldMembers {α : Type} (use : α → String → List Step → Node → Except Fault α)
    (d : Document) (path : List Step) (key : String) :
    α → List (Node × Node) → Except Fault α
  | a, [] => .ok a
  | a, (k, v) :: rest => do
    let name ← asText key d path k
    let a ← use a name (path ++ [stepTo k]) v
    foldMembers use d path key a rest

/-- The members of the node that is read as a mapping, and its mark. -/
def membersOf (expected : String) : Decoder (Mark × List (Node × Node)) := fun d path n =>
  match d.resolve n with
  | .mapping mark members => .ok (mark, members)
  | .scalar mark _ "" true => .ok (mark, [])
  | n => d.refuse path expected n

/-- Texts by name; of two under one name the later counts. -/
def asTextMap : Decoder (SortedMap String) := fun d path n => do
  let (_, members) ← membersOf "a map" d path n
  foldMembers (fun m name path v => do return m.insert name (← asText "a string" d path v))
    d path "a string" .empty members

/-- Puts the value of a field, which may not be there already. -/
def putOnce {α : Type} (d : Document) (mark : Mark) (path : List Step) (name : String)
    (decode : Decoder α) (valuePath : List Step) (v : Node) : Option α → Except Fault (Option α)
  | some _ => .error (.mismatch (.duplicateField name) mark path)
  | none => some <$> decode d valuePath v

/-- Reads a text as a value, `absent` if it has no document. -/
def decodeText {α : Type} (decode : Decoder α) (absent : Except Fault α) (text : String) :
    Except Fault α := do
  let d := Document.ofText text
  let x ← match d.root with
    | none => absent
    | some n => decode d [] n
  match d.fault with
  | some e => .error e
  | none => if d.others then .error .severalDocuments else return x

/-- The text of a scalar that is a whole document. -/
def parseText (text : String) : Except Fault String :=
  decodeText (asText "a string") (.error .nothingThere) text

/-- The texts by name of a mapping that is a whole document. -/
def parseTextMap (text : String) : Except Fault (SortedMap String) :=
  decodeText asTextMap (.ok .empty) text

end SwaggerPress.Yaml
