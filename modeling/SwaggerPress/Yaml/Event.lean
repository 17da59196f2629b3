import SwaggerPress.Yaml.Token

/-!
    The events of a YAML text: documents, collections and scalars as they open, occur and close. The
    grammar is a stack of *goals*, what is still expected, the next one on top. One step looks at the
    next token and replaces the top goal; a node that is left out becomes an empty plain scalar.

        tokens    flow map ·  key  a  value  b  · flow map end
        goals     node ⇒ flowKey ⇒ node, flowValue ⇒ flowValue ⇒ node, flowKey ⇒ flowKey ⇒ done

    Where a step asks for a token and none is left, the reading of tokens had stopped at a fault. -/

namespace SwaggerPress.Yaml

/-- What a node may carry besides its content. -/
structure Properties where
  anchor : Option String := none
  tag : Option String := none
  deriving DecidableEq

inductive EventKind where
  | documentStart
  | documentEnd
  | streamEnd
  | alias (name : String)
  | scalar (properties : Properties) (text : String) (plain : Bool)
  | sequenceStart (properties : Properties)
  | sequenceEnd
  | mappingStart (properties : Properties)
  | mappingEnd

/-- An event and the mark where it starts. -/
structure Event where
  kind : EventKind
  mark : Mark

/-- What is expected. The entries of collections know where their collection starts. -/
inductive Goal where
  | document (first : Bool)
  | content
  | documentEnd
  | node (inBlock indentless : Bool)
  | blockItem (opened : Mark)
  | indentlessItem
  | blockKey (opened : Mark)
  | blockValue (opened : Mark)
  | flowItem (opened : Mark) (first : Bool)
  | pairKey
  | pairValue
  | pairEnd
  | flowKey (opened : Mark) (first : Bool)
  | flowValue
  | flowNoValue

/-- How far the tokens have been read. -/
structure Parse where
  tokens : List Token
  goals : List Goal
  handles : List (String × String) := []
  reversed : List Event := []

/-- Where a step ends. -/
inductive StepResult where
  | next (p : Parse)
  | starved
  | failed (fault : Fault)

namespace Parse

/-- The handles that need no directive. -/
def defaultHandles : List (String × String) := [("!", "!"), ("!!", "tag:yaml.org,2002:")]

def emit (p : Parse) (kind : EventKind) (mark : Mark) : Parse :=
  { p with reversed := ⟨kind, mark⟩ :: p.reversed }

/-- A node that is left out. -/
def emitEmpty (p : Parse) (mark : Mark) : Parse := p.emit (.scalar {} "" true) mark

def expect (p : Parse) (goals : List Goal) : Parse := { p with goals := goals ++ p.goals }

/-- Drops the next token. -/
def drop (p : Parse) : Parse := { p with tokens := p.tokens.tail }

def fail (cause : Cause) (place : Mark) (within : Option (Activity × Mark)) : StepResult :=
  .failed (.malformed cause place within)

/-- Reads the directives before a document. -/
def directives (p : Parse) (version : Bool) : List Token → StepResult
  | [] => .starved
  | t :: rest =>
    match t.kind with
    | .versionDirective major minor =>
      if version then fail .versionRepeated t.start none
      else if major ≠ 1 || (minor ≠ 1 && minor ≠ 2) then fail .versionUnsupported t.start none
      else directives p true rest
    | .tagDirective handle full =>
      if p.handles.any (·.1 = handle) then fail .handleRepeated t.start none
      else directives { p with handles := p.handles ++ [(handle, full)] } version rest
    | .documentStart => .next { p with tokens := rest }
    | _ => fail .documentStartExpected t.start none

/-- At the start of a document; only the first may do without its marker. -/
def document (p : Parse) (first : Bool) : StepResult :=
  match p.tokens with
  | [] => .starved
  | t :: _ =>
    match t.kind, first with
    | .documentEnd, false => .next (p.drop.expect [.document false])
    | .streamEnd, _ => .next (p.emit .streamEnd t.start)
    | .versionDirective _ _, _ | .tagDirective _ _, _ | .documentStart, _ | _, false =>
      match directives { p with handles := [] } false p.tokens with
      | .next q => .next ((q.emit .documentStart t.start).expect [.content, .documentEnd])
      | r => r
    | _, true =>
      let q := { p.emit .documentStart t.start with handles := [] }
      .next (q.expect [.node true false, .documentEnd])

/-- Reads the anchor and the tag of a node, in either order. -/
def properties (p : Parse) : Parse × Option String × Option (TagName × Mark) :=
  let tag? (p : Parse) : Parse × Option (TagName × Mark) :=
    match p.tokens with
    | ⟨.tag name, start, _⟩ :: _ => (p.drop, some (name, start))
    | _ => (p, none)
  let anchor? (p : Parse) : Parse × Option String :=
    match p.tokens with
    | ⟨.anchor name, _, _⟩ :: _ => (p.drop, some name)
    | _ => (p, none)
  match anchor? p with
  | (p, some name) => let (p, tag) := tag? p; (p, some name, tag)
  | (p, none) =>
    match tag? p with
    | (p, some tag) => let (p, name) := anchor? p; (p, name, some tag)
    | (p, none) => (p, none, none)

/-- The full name of a tag, if its handle is known. -/
def resolveTag (p : Parse) (name : TagName) : Option String :=
  if name.handle.isEmpty then some name.suffix
  else
    let known := (p.handles ++ defaultHandles).find? (·.1 = name.handle)
    known.map fun h => h.2 ++ name.suffix

/-- At a node, after its properties. -/
def content (p : Parse) (inBlock indentless : Bool) (own : Properties) (start : Mark) :
    StepResult :=
  match p.tokens with
  | [] => .starved
  | t :: _ =>
    let open_ (kind : EventKind) (goal : Goal) : StepResult :=
      .next ((p.drop.emit kind start).expect [goal])
    match t.kind, inBlock with
    | .scalar text plain, _ => .next (p.drop.emit (.scalar own text plain) start)
    | .flowSequenceStart, _ => open_ (.sequenceStart own) (.flowItem t.start true)
    | .flowMappingStart, _ => open_ (.mappingStart own) (.flowKey t.start true)
    | .blockSequenceStart, true => open_ (.sequenceStart own) (.blockItem t.start)
    | .blockMappingStart, true => open_ (.mappingStart own) (.blockKey t.start)
    | kind, _ =>
      if indentless && kind = .blockEntry then
        .next ((p.emit (.sequenceStart own) start).expect [.indentlessItem])
      else if own.anchor.isSome || own.tag.isSome then
        .next (p.emit (.scalar own "" true) start)
      else fail .nodeExpected t.start (some (if inBlock then .blockNode else .flowNode, start))

/-- At a node. -/
def node (p : Parse) (inBlock indentless : Bool) : StepResult :=
  match p.tokens with
  | [] => .starved
  | t :: _ =>
    match t.kind with
    | .alias name => .next (p.drop.emit (.alias name) t.start)
    | _ =>
      match p.properties with
      | (⟨[], _, _, _⟩, _, _) => .starved
      | (q, anchor, none) => q.content inBlock indentless { anchor } t.start
      | (q, anchor, some (name, mark)) =>
        match p.resolveTag name with
        | some tag => q.content inBlock indentless { anchor, tag := some tag } t.start
        | none => fail .handleUnknown mark (some (.node, t.start))

/-- Expects a node unless the next token shows that it is left out; then the empty scalar stands at
`left`, or at the next token. -/
def nodeUnless (p : Parse) (leftOut : TokenKind → Bool) (node : Goal) (left : Option Mark)
    (after : List Goal) : StepResult :=
  match p.tokens with
  | [] => .starved
  | t :: _ =>
    if leftOut t.kind then .next ((p.emitEmpty (left.getD t.start)).expect after)
    else .next (p.expect (node :: after))

def isBlockItemEnd (k : TokenKind) : Bool := k = .blockEntry || k = .blockEnd

def isBlockNodeEnd (k : TokenKind) : Bool := k = .key || k = .value || k = .blockEnd

def isIndentlessItemEnd (k : TokenKind) : Bool := k = .blockEntry || isBlockNodeEnd k

def isFlowItemEnd (k : TokenKind) : Bool := k = .flowEntry || k = .flowSequenceEnd

def isFlowMemberEnd (k : TokenKind) : Bool := k = .flowEntry || k = .flowMappingEnd

/-- At an item of a flow sequence. A key there starts a mapping of one pair. -/
def flowItem (p : Parse) (opened : Mark) (first : Bool) : StepResult :=
  let item (p : Parse) : StepResult :=
    match p.tokens with
    | [] => .starved
    | t :: _ =>
      match t.kind with
      | .flowSequenceEnd => .next (p.drop.emit .sequenceEnd t.start)
      | .key =>
        .next ((p.drop.emit (.mappingStart {}) t.start).expect [.pairKey, .flowItem opened false])
      | _ => .next (p.expect [.node false false, .flowItem opened false])
  match p.tokens with
  | [] => .starved
  | t :: _ =>
    if first || t.kind = .flowSequenceEnd then item p
    else if t.kind = .flowEntry then item p.drop
    else fail .listCommaExpected t.start (some (.flowSequence, opened))

/-- At a key of a flow mapping. -/
def flowKey (p : Parse) (opened : Mark) (first : Bool) : StepResult :=
  let member (p : Parse) : StepResult :=
    match p.tokens with
    | [] => .starved
    | t :: _ =>
      match t.kind with
      | .flowMappingEnd => .next (p.drop.emit .mappingEnd t.start)
      | .key =>
        p.drop.nodeUnless (fun k => k = .value || isFlowMemberEnd k) (.node false false) none
          [.flowValue, .flowKey opened false]
      | _ => .next (p.expect [.node false false, .flowNoValue, .flowKey opened false])
  match p.tokens with
  | [] => .starved
  | t :: _ =>
    if first || t.kind = .flowMappingEnd then member p
    else if t.kind = .flowEntry then member p.drop
    else fail .mapCommaExpected t.start (some (.flowMapping, opened))

/-- Replaces the top goal, which has been taken off `p`. -/
def step (p : Parse) (goal : Goal) : StepResult :=
  match p.tokens with
  | [] => .starved
  | t :: _ =>
    match goal with
    | .document first => p.document first
    | .content =>
      let leftOut (k : TokenKind) : Bool :=
        match k with
        | .versionDirective _ _ | .tagDirective _ _ => true
        | k => k = .documentStart || k = .documentEnd || k = .streamEnd
      p.nodeUnless leftOut (.node true false) none []
    | .documentEnd =>
      let q := if t.kind = .documentEnd then p.drop else p
      .next ((q.emit .documentEnd t.start).expect [.document false])
    | .node inBlock indentless => p.node inBlock indentless
    | .blockItem opened =>
      match t.kind with
      | .blockEntry =>
        p.drop.nodeUnless isBlockItemEnd (.node true false) (some t.stop) [.blockItem opened]
      | .blockEnd => .next (p.drop.emit .sequenceEnd t.start)
      | _ => fail .entryExpected t.start (some (.blockCollection, opened))
    | .indentlessItem =>
      match t.kind with
      | .blockEntry =>
        p.drop.nodeUnless isIndentlessItemEnd (.node true false) (some t.stop) [.indentlessItem]
      | _ => .next (p.emit .sequenceEnd t.start)
    | .blockKey opened =>
      match t.kind with
      | .key =>
        p.drop.nodeUnless isBlockNodeEnd (.node true true) (some t.stop) [.blockValue opened]
      | .blockEnd => .next (p.drop.emit .mappingEnd t.start)
      | _ => fail .keyExpected t.start (some (.blockMapping, opened))
    | .blockValue opened =>
      match t.kind with
      | .value =>
        p.drop.nodeUnless isBlockNodeEnd (.node true true) (some t.stop) [.blockKey opened]
      | _ => .next ((p.emitEmpty t.start).expect [.blockKey opened])
    | .flowItem opened first => p.flowItem opened first
    | .pairKey =>
      if t.kind = .value || isFlowItemEnd t.kind then
        .next ((p.drop.emitEmpty t.stop).expect [.pairValue])
      else .next (p.expect [.node false false, .pairValue])
    | .pairValue =>
      if t.kind = .value then
        p.drop.nodeUnless isFlowItemEnd (.node false false) none [.pairEnd]
      else .next ((p.emitEmpty t.start).expect [.pairEnd])
    | .pairEnd => .next (p.emit .mappingEnd t.start)
    | .flowKey opened first => p.flowKey opened first
    | .flowValue =>
      if t.kind = .value then p.drop.nodeUnless isFlowMemberEnd (.node false false) none []
      else .next (p.emitEmpty t.start)
    | .flowNoValue => .next (p.emitEmpty t.start)

/-- Steps until no goal is left. Few steps take no token, so `fuel` of eight for each suffices. -/
def run (starved : Option Fault) : (fuel : Nat) → Parse → List Event × Option Fault
  | 0, p => (p.reversed.reverse, starved)
  | fuel + 1, p =>
    match p.goals with
    | [] => (p.reversed.reverse, none)
    | goal :: goals =>
      match { p with goals }.step goal with
      | .next q => run starved fuel q
      | .starved => (p.reversed.reverse, starved)
      | .failed fault => (p.reversed.reverse, some fault)

end Parse

/-- The events of tokens, with the fault at which reading stopped if it did. -/
def Event.ofTokens (read : List Token × Option Fault) : List Event × Option Fault :=
  Parse.run read.2 (8 * read.1.length + 8) { tokens := read.1, goals := [.document true] }

end SwaggerPress.Yaml
