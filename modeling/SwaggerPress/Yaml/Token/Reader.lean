import SwaggerPress.Yaml.Token.Block
import SwaggerPress.Yaml.Token.Flowing
import SwaggerPress.Yaml.Token.Name

/-!
    The tokens of a text. Only at its colon does a *simple key* turn out to be one, so the place of
    every token that may start a key is remembered, one for the block collections and one for each
    open flow collection, and the key's token is put in there afterwards:

        name: x      name ↦ scalar       then at the colon      key, scalar, value, scalar

    A simple key ends on its line, within 1024 bytes. As long as a token may still turn out to start a
    key it is *held back*; when reading stops at a fault, only the tokens before it count.

    What can be read of a text may end before the text does. Then there is a fault for what comes
    *beyond*, at which reading stops as soon as it would have to look there. -/

namespace SwaggerPress.Yaml

/-- Where a simple key may start. A required one cannot turn out to be something else. -/
structure KeyPlace where
  number : Nat
  mark : Mark
  required : Bool

/-- How far the text has been read. The tokens so far are held last one first. A place for a key
counts until it is used, replaced or too far back. -/
structure Scan where
  cursor : Cursor
  reversed : List Token := []
  count : Nat := 0
  indents : List Nat := []
  place : Option KeyPlace := none
  outer : List (Option KeyPlace) := []
  keyAllowed : Bool := true
  ended : Bool := false
  beyond : Option Fault := none

namespace Scan

/-- Whether a flow collection is open. -/
def inFlow (s : Scan) : Bool := !s.outer.isEmpty

/-- The indent of the innermost block collection. -/
def indent? (s : Scan) : Option Nat := s.indents.head?

def fail {α : Type} (s : Scan) (cause : Cause) (within : Option (Activity × Mark)) :
    Except Fault α :=
  .error (.malformed cause s.cursor.mark within)

def push (s : Scan) (t : Token) : Scan :=
  { s with reversed := t :: s.reversed, count := s.count + 1 }

/-- Adds several tokens of one kind, none of which is written. -/
def pushImplied (s : Scan) (number : Nat) (kind : TokenKind) : Scan :=
  { s with
    reversed := List.replicate number ⟨kind, s.cursor.mark, s.cursor.mark⟩ ++ s.reversed
    count := s.count + number }

/-- Adds a token, which is not written, as token number `number`. -/
def insert (s : Scan) (number : Nat) (kind : TokenKind) (mark : Mark) : Scan :=
  let (later, earlier) := s.reversed.splitAt (s.count - number)
  { s with reversed := later ++ ⟨kind, mark, mark⟩ :: earlier, count := s.count + 1 }

/-- Adds a token that is that many characters long. -/
def pushSign (s : Scan) (kind : TokenKind) (count : Nat) : Scan :=
  let c := s.cursor.skip count
  { s.push ⟨kind, s.cursor.mark, c.mark⟩ with cursor := c }

/-- Adds a token that reaches up to a cursor. -/
def pushUpTo (s : Scan) (kind : TokenKind) (c : Cursor) : Scan :=
  { s.push ⟨kind, s.cursor.mark, c.mark⟩ with cursor := c }

/-- Stops where fewer characters are left than are looked at. -/
def demand (s : Scan) (count : Nat) : Except Fault Unit :=
  match s.beyond with
  | some fault => if s.cursor.left < count then .error fault else .ok ()
  | none => .ok ()

/-- The fault to report for one that was met: at the end of what can be read, what comes beyond. -/
def report (s : Scan) (fault : Fault) : Fault :=
  match s.beyond, fault with
  | some beyond, .malformed _ place _ =>
    if s.cursor.mark.index + Text.byteCount s.cursor.rest ≤ place.index then beyond else fault
  | _, _ => fault

/-- How far a simple key may reach, in bytes. -/
def maxKeyLength : Nat := 1024

/-- Whether a place is too far back for a simple key. -/
def isStale (s : Scan) (p : KeyPlace) : Bool :=
  p.mark.line < s.cursor.mark.line || p.mark.index + maxKeyLength < s.cursor.mark.index

/-- Refuses to go on when a required key is too far back. Only a place outside of all flow collections
is required. -/
def checkRequired (s : Scan) : Except Fault Unit :=
  match s.outer.getLast?.getD s.place with
  | some p =>
    if p.required && s.isStale p then s.fail .colonMissing (some (.simpleKey, p.mark)) else .ok ()
  | none => .ok ()

/-- Gives up the innermost place. -/
def dropPlace (s : Scan) : Except Fault Scan :=
  match s.place with
  | some p =>
    if p.required then s.fail .colonMissing (some (.simpleKey, p.mark))
    else .ok { s with place := none }
  | none => .ok s

/-- Remembers that a simple key may start here. -/
def savePlace (s : Scan) : Except Fault Scan :=
  if s.keyAllowed then do
    let required := !s.inFlow && s.indent? = some s.cursor.mark.column
    let s ← s.dropPlace
    return { s with place := some ⟨s.count, s.cursor.mark, required⟩ }
  else .ok s

/-- Opens a block collection at a column, unless one is open there; its token is number `number`. -/
def roll (s : Scan) (column number : Nat) (kind : TokenKind) (mark : Mark) : Scan :=
  let deeper := match s.indent? with
    | none => true
    | some n => n < column
  if s.inFlow || !deeper then s
  else { s.insert number kind mark with indents := column :: s.indents }

/-- Closes the block collections that are indented further than a column. -/
def unroll (s : Scan) (column : Nat) : Scan :=
  if s.inFlow then s
  else
    let closed := (s.indents.takeWhile (column < ·)).length
    { s.pushImplied closed .blockEnd with indents := s.indents.drop closed }

/-- Closes all block collections. -/
def unrollAll (s : Scan) : Scan :=
  if s.inFlow then s else { s.pushImplied s.indents.length .blockEnd with indents := [] }

/-- Skips blanks, comments and line breaks. A tab is no blank where it could be taken for indent. A
byte order mark at the start of a line is skipped, but it takes a column. -/
def skipToToken : (fuel : Nat) → Scan → Scan
  | 0, s => s
  | fuel + 1, s =>
    let tabs := s.inFlow || !s.keyAllowed
    let c := s.cursor
    let c := if c.mark.column = 0 && c.sees '\uFEFF' then c.skip 1 else c
    let c := c.skipWhile fun x => x = ' ' || (tabs && x = '\t')
    let c := if c.sees '#' then c.skipWhile (!isBreak ·) else c
    match c.takeBreak with
    | (some _, after) =>
      skipToToken fuel { s with cursor := after, keyAllowed := s.keyAllowed || !s.inFlow }
    | (none, _) => { s with cursor := c }

/-- The end of the text counts as the start of a line. -/
def endStream (s : Scan) : Except Fault Scan := do
  let m := s.cursor.mark
  let mark := if m.column = 0 then m else ⟨m.index, m.line + 1, 0⟩
  let s := { s with cursor := ⟨mark, [], 0, rfl⟩ }
  let s ← s.unrollAll.dropPlace
  return { s.pushSign .streamEnd 0 with keyAllowed := false, ended := true }

def directive (s : Scan) : Except Fault Scan := do
  let s ← s.unrollAll.dropPlace
  let (kind, c) ← readDirective s.cursor
  return { s.pushUpTo kind c with keyAllowed := false }

def documentMarker (s : Scan) (kind : TokenKind) : Except Fault Scan := do
  let s ← s.unrollAll.dropPlace
  return { s.pushSign kind 3 with keyAllowed := false }

def openFlow (s : Scan) (kind : TokenKind) : Except Fault Scan := do
  let s ← s.savePlace
  return { s.pushSign kind 1 with place := none, outer := s.place :: s.outer, keyAllowed := true }

def closeFlow (s : Scan) (kind : TokenKind) : Except Fault Scan := do
  let s ← s.dropPlace
  let s := match s.outer with
    | place :: outer => { s with place, outer }
    | [] => s
  return { s.pushSign kind 1 with keyAllowed := false }

def flowEntry (s : Scan) : Except Fault Scan := do
  let s ← s.dropPlace
  return { s.pushSign .flowEntry 1 with keyAllowed := true }

def blockEntry (s : Scan) : Except Fault Scan := do
  if !s.inFlow && !s.keyAllowed then s.fail .entryMisplaced none
  else
    let mark := s.cursor.mark
    let s ← (s.roll mark.column s.count .blockSequenceStart mark).dropPlace
    return { s.pushSign .blockEntry 1 with keyAllowed := true }

def complexKey (s : Scan) : Except Fault Scan := do
  if !s.inFlow && !s.keyAllowed then s.fail .keyMisplaced none
  else
    let mark := s.cursor.mark
    let s ← (s.roll mark.column s.count .blockMappingStart mark).dropPlace
    return { s.pushSign .key 1 with keyAllowed := !s.inFlow }

/-- At a colon: what started at the remembered place was a key. -/
def mapValue (s : Scan) : Except Fault Scan :=
  match s.place.filter (!s.isStale ·) with
  | some p =>
    let s := (s.insert p.number .key p.mark).roll p.mark.column p.number .blockMappingStart p.mark
    .ok { s.pushSign .value 1 with place := none, keyAllowed := false }
  | none =>
    if !s.inFlow && !s.keyAllowed then s.fail .valueMisplaced none
    else
      let mark := s.cursor.mark
      let s := s.roll mark.column s.count .blockMappingStart mark
      .ok { s.pushSign .value 1 with keyAllowed := !s.inFlow }

def named (s : Scan) (activity : Activity) (kind : String → TokenKind) : Except Fault Scan := do
  let s ← s.savePlace
  let (name, c) ← readAnchor activity s.cursor
  return { s.pushUpTo (kind name) c with keyAllowed := false }

def tag (s : Scan) : Except Fault Scan := do
  let s ← s.savePlace
  let (name, c) ← readTag s.inFlow s.cursor
  return { s.pushUpTo (.tag name) c with keyAllowed := false }

def block (s : Scan) (literal : Bool) : Except Fault Scan := do
  let s ← s.dropPlace
  let (text, c) ← readBlock literal s.indent? s.cursor
  return { s.pushUpTo (.scalar text false) c with keyAllowed := true }

def quoted (s : Scan) (quote : Char) : Except Fault Scan := do
  let s ← s.savePlace
  let (text, c) ← readQuoted quote s.cursor
  return { s.pushUpTo (.scalar text false) c with keyAllowed := false }

def plain (s : Scan) : Except Fault Scan := do
  let s ← s.savePlace
  let indent := (s.indent?.map (· + 1)).getD 0
  let (p, c) ← readPlain s.inFlow indent s.cursor
  let t : Token := ⟨.scalar p.text true, s.cursor.mark, p.stop⟩
  return { s.push t with cursor := c, keyAllowed := p.brokenOff }

/-- The characters that no plain scalar starts with, unless what follows allows it. -/
def isIndicator (x : Char) : Bool := "-?:,[]\x7b\x7d#&*!|>\x27\"%@\x60".toList.contains x

/-- Reads one more token, and what it implies. -/
def next (s : Scan) : Except Fault Scan := do
  let s := s.skipToToken (s.cursor.left + 1)
  s.demand 1
  s.checkRequired
  let column := s.cursor.mark.column
  let s := s.unroll column
  s.demand 4
  match s.cursor.rest with
  | [] => s.endStream
  | x :: rest =>
    let signs := s.inFlow || atGap rest
    if column = 0 && x = '%' then s.directive
    else if column = 0 && atDocumentMarker (x :: rest) then
      s.documentMarker (if x = '-' then .documentStart else .documentEnd)
    else if x = '[' then s.openFlow .flowSequenceStart
    else if x = '\x7b' then s.openFlow .flowMappingStart
    else if x = ']' then s.closeFlow .flowSequenceEnd
    else if x = '\x7d' then s.closeFlow .flowMappingEnd
    else if x = ',' then s.flowEntry
    else if x = '-' && atGap rest then s.blockEntry
    else if x = '?' && signs then s.complexKey
    else if x = ':' && signs then s.mapValue
    else if x = '*' then s.named .alias .alias
    else if x = '&' then s.named .anchor .anchor
    else if x = '!' then s.tag
    else if x = '|' && !s.inFlow then s.block true
    else if x = '>' && !s.inFlow then s.block false
    else if x = '\x27' || x = '"' then s.quoted x
    else
      let startsPlain := !(isBlank x || isIndicator x) || x = '-' ||
        (!s.inFlow && (x = '?' || x = ':'))
      if startsPlain then s.plain else s.fail .strayCharacter (some (.token, s.cursor.mark))

/-- The tokens so far. -/
def tokens (s : Scan) : List Token := s.reversed.reverse

/-- The tokens before the first that may still turn out to start a key. -/
def settled (s : Scan) : List Token :=
  let places := (s.place :: s.outer).filterMap (·.filter (!s.isStale ·))
  s.tokens.take ((places.map (·.number)).foldl min s.count)

/-- Reads one more token, and what it implies, as far as the text can be read. -/
def readable (s : Scan) : Except Fault Scan :=
  match s.next with
  | .error fault => .error (s.report fault)
  | .ok s' => do
    s'.demand 1
    s'.checkRequired
    return s'

/-- Reads all tokens. Every token takes a character, so `fuel` above the number of characters
suffices. -/
def run : (fuel : Nat) → Scan → List Token × Option Fault
  | 0, s => (s.tokens, none)
  | fuel + 1, s =>
    match s.readable with
    | .error fault => (s.settled, some fault)
    | .ok s' => if s'.ended then (s'.tokens, none) else run fuel s'

end Scan

/-- The tokens of a text, with the fault at which reading stopped if it did. If the text goes on but
cannot be read, `beyond` is the fault for that. -/
def Token.ofText (text : List Char) (beyond : Option Fault) : List Token × Option Fault :=
  Scan.run (text.length + 2) { cursor := .ofText text, beyond }

end SwaggerPress.Yaml
