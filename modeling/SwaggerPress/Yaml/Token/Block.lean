import SwaggerPress.Yaml.Cursor

/-!
    Block scalars. After the sign may stand how the line breaks at the end are treated and by how much
    the text is indented; otherwise the first line that is not empty tells. In a *literal* scalar every
    break counts. In a *folded* one a break between two lines that do not start with a blank counts as
    a space, or as nothing if empty lines follow it. -/

namespace SwaggerPress.Yaml

/-- Which of the line breaks at the end of a block scalar belong to it. -/
inductive Chomping where
  | strip
  | clip
  | keep

/-- The line breaks before the next line of a block scalar, and the indent that is now known. -/
structure Breaks where
  reversed : List Char
  indent : Nat

/-- Skips empty lines and the indent of the next line; while the indent is unknown (`none`), all
spaces count and `widest` is the most that a line had. `least` is the least indent possible. -/
def readBreaks (start : Mark) (least : Nat) : (fuel : Nat) → (indent : Option Nat) →
    (widest : Nat) → (taken : List Char) → Cursor → Except Fault (Breaks × Cursor)
  | 0, indent, widest, taken, c => .ok (⟨taken, indent.getD (max widest least)⟩, c)
  | fuel + 1, indent, widest, taken, c =>
    let spaces := (c.rest.takeWhile (· = ' ')).length
    let c := c.skip <| match indent with
      | none => spaces
      | some n => min spaces (n - c.mark.column)
    let widest := max widest c.mark.column
    let inside := match indent with
      | none => true
      | some n => c.mark.column < n
    if inside && c.sees '\t' then c.fail .tabForSpace .blockScalar start
    else match c.takeBreak with
    | (some x, after) => readBreaks start least fuel indent widest (x :: taken) after
    | (none, _) => .ok (⟨taken, indent.getD (max widest least)⟩, c)

/-- Reads the lines of a block scalar from the start of one; `lead` is the break before it and
`afterBlank` tells whether the line before it starts with a blank. Gives the characters of the
scalar and the breaks after its last line, all last one first. -/
def readBlockLines (literal : Bool) (start : Mark) (least : Nat) :
    (fuel : Nat) → (taken : List Char) → (lead : Option Char) → (afterBlank : Bool) → Breaks →
      Cursor → Except Fault (List Char × Option Char × List Char × Cursor)
  | 0, taken, lead, _, breaks, c => .ok (taken, lead, breaks.reversed, c)
  | fuel + 1, taken, lead, afterBlank, breaks, c =>
    match c.rest with
    | [] => .ok (taken, lead, breaks.reversed, c)
    | x :: _ =>
      if c.mark.column ≠ breaks.indent then .ok (taken, lead, breaks.reversed, c)
      else do
        let folds := !literal && lead = some '\n' && !afterBlank && !isBlank x
        let joint := if folds then (if breaks.reversed.isEmpty then [' '] else []) else lead.toList
        let (line, c) := c.takeWhile (!isBreak ·)
        let taken := line.reverse ++ breaks.reversed ++ joint ++ taken
        let (lead, c) := c.takeBreak
        let (breaks, c) ← readBreaks start least (c.left + 1) (some breaks.indent) 0 [] c
        readBlockLines literal start least fuel taken lead (isBlank x) breaks c

/-- The way of chomping that a sign asks for. -/
def chompingOf? : Char → Option Chomping
  | '-' => some .strip
  | '+' => some .keep
  | _ => none

/-- Reads the two signs after that of the scalar, in either order. -/
def readBlockHeader (start : Mark) (c : Cursor) :
    Except Fault (Option Chomping × Option Nat × Cursor) :=
  let indentAt (c : Cursor) : Except Fault (Option Nat × Cursor) :=
    match c.rest with
    | '0' :: _ => c.fail .zeroIndent .blockScalar start
    | x :: _ => .ok (if x.isDigit then (some (x.toNat - 48), c.skip 1) else (none, c))
    | [] => .ok (none, c)
  match c.rest.head?.bind chompingOf? with
  | some chomping => do
    let (indent, c) ← indentAt (c.skip 1)
    return (some chomping, indent, c)
  | none => do
    let (indent, c) ← indentAt c
    match indent, c.rest.head?.bind chompingOf? with
    | some _, some chomping => return (some chomping, indent, c.skip 1)
    | _, _ => return (none, indent, c)

/-- Reads a block scalar at its sign inside a collection that is indented by `parent` columns, none
at the root. -/
def readBlock (literal : Bool) (parent : Option Nat) (c : Cursor) :
    Except Fault (String × Cursor) := do
  let start := c.mark
  let (chomping, increment, c) ← readBlockHeader start (c.skip 1)
  let c := c.skipComment
  if !atLineEnd c.rest then c.fail .commentOrBreakExpected .blockScalar start
  else
    let c := c.takeBreak.2
    let indent := increment.map (· + parent.getD 0)
    let least := max 1 ((parent.map (· + 1)).getD 0)
    let (breaks, c) ← readBreaks start least (c.left + 1) indent 0 [] c
    let (taken, lead, trailing, c) ←
      readBlockLines literal start least (c.left + 1) [] none false breaks c
    let text := match chomping.getD .clip with
      | .strip => taken
      | .clip => lead.toList ++ taken
      | .keep => trailing ++ lead.toList ++ taken
    return (String.ofList text.reverse, c)

end SwaggerPress.Yaml
