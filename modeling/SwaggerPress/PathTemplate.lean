/-!
    Path templates. A template is text with *holes*: `{name}`, where the name is not empty and holds
    no brace and no slash. Holes are found from left to right and do not overlap; every other
    character, stray braces included, stands for itself. The name says what a hole accepts:

        id  pk  …_id  …_pk     one or more digits
        …slug                  one or more of a-z A-Z 0-9 -
        any other              one or more characters other than a slash

    A template accepts a path when the whole path is the pieces' texts put together. Every way of
    dividing the path among adjacent holes counts, so acceptance is worked out for all ends of the
    path at once, from the last piece to the first: a *row* tells for each end of the path whether
    the pieces so far accept it. -/

namespace SwaggerPress.PathTemplate

/-- One part of a template. -/
inductive Piece where
  | literal (c : Char)
  | hole (name : List Char)
  deriving DecidableEq

def isNameChar (c : Char) : Bool := c != '\x7b' && c != '\x7d' && c != '/'

/-- The pieces of a template. -/
def pieces (template : List Char) : List Piece :=
  match template with
  | [] => []
  | c :: rest =>
    let name := rest.takeWhile isNameChar
    match _h : rest.dropWhile isNameChar with
    | '\x7d' :: after =>
      if c = '\x7b' ∧ name ≠ [] then .hole name :: pieces after else .literal c :: pieces rest
    | _ => .literal c :: pieces rest
termination_by template.length
decreasing_by
  · have hle := (List.dropWhile_sublist (p := isNameChar) (l := rest)).length_le
    rw [_h] at hle
    simp only [List.length_cons] at hle ⊢
    omega
  · simp
  · simp

/-- What a hole accepts. -/
inductive Shape where
  | digits
  | slug
  | segment
  deriving DecidableEq

/-- Whether a character may stand in a hole. -/
def Shape.allows : Shape → Char → Bool
  | .digits, c => '0' ≤ c && c ≤ '9'
  | .slug, c => ('a' ≤ c && c ≤ 'z') || ('A' ≤ c && c ≤ 'Z') || ('0' ≤ c && c ≤ '9') || c = '-'
  | .segment, c => c != '/'

def Shape.ofName (name : List Char) : Shape :=
  if name = ['i', 'd'] || name = ['p', 'k'] || ['_', 'i', 'd'].isSuffixOf name ||
      ['_', 'p', 'k'].isSuffixOf name then .digits
  else if ['s', 'l', 'u', 'g'].isSuffixOf name then .slug
  else .segment

/-- The row of no pieces: only the empty end is accepted. -/
def emptyRow : List Char → List Bool
  | [] => [true]
  | _ :: rest => false :: emptyRow rest

/-- The row of a literal before pieces with the row `next`. -/
def literalRow (c : Char) : List Char → (next : List Bool) → List Bool
  | x :: xs, _ :: next => (x = c && next.headD false) :: literalRow c xs next
  | _, _ => [false]

/-- The row of a hole before pieces with the row `next`: a character that may stand in the hole is
followed by what those pieces accept, or by more of the hole. -/
def holeRow (shape : Shape) : List Char → (next : List Bool) → List Bool
  | x :: xs, _ :: next =>
    let more := holeRow shape xs next
    (shape.allows x && (next.headD false || more.headD false)) :: more
  | _, _ => [false]

/-- The row of a piece before pieces with the row `next`. -/
def Piece.row (path : List Char) (next : List Bool) : Piece → List Bool
  | .literal c => literalRow c path next
  | .hole name => holeRow (Shape.ofName name) path next

/-- Whether pieces accept a path. -/
def acceptsPieces (ps : List Piece) (path : List Char) : Bool :=
  (ps.foldr (fun p next => p.row path next) (emptyRow path)).headD false

/-- Whether a template accepts a path. -/
def accepts (template path : String) : Bool := acceptsPieces (pieces template.toList) path.toList

/-! ### The version -/

/-- The hole that the version of the API is put into. -/
def versionHole : String := "\x7bversion\x7d"

/-- Replaces every occurrence of a pattern, found from left to right without overlap. The pattern is
not empty. -/
def replaceAll (pattern replacement : List Char) (cs : List Char) : List Char :=
  match cs with
  | [] => []
  | c :: rest =>
    if pattern.isPrefixOf (c :: rest) then
      replacement ++ replaceAll pattern replacement (rest.drop (pattern.length - 1))
    else c :: replaceAll pattern replacement rest
termination_by cs.length
decreasing_by all_goals (simp; try omega)

/-- The template for one version of the API. -/
def withVersion (version template : String) : String :=
  String.ofList (replaceAll versionHole.toList version.toList template.toList)

end SwaggerPress.PathTemplate
