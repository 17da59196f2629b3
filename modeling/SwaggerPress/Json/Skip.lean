import SwaggerPress.Json.Lexeme

/-!
    Passing over a value that nobody asked for. The text must be well formed, but strings may hold
    unpaired surrogates, numbers may have any size, and values may nest to any depth: the containers
    that are open are kept in a list. After a comma the next value or name is looked for at once, so
    a closing bracket there is not yet seen as one. -/

namespace SwaggerPress.Json

/-! ### Scalars -/

/-- Passes over the rest of a string whose opening quote has been taken. -/
def skipString (s : List Char) : Except Halt (List Char) :=
  match s with
  | [] => haltAt .endInString []
  | '"' :: rest => .ok rest
  | ['\\'] => haltAt .endInString []
  | '\\' :: 'u' :: rest =>
    match readUnit rest with
    | .error e => .error e
    | .ok (_, ⟨after, _⟩) => skipString after
  | '\\' :: c :: rest =>
    if ['"', '\\', '/', 'b', 'f', 'n', 'r', 't'].contains c then skipString rest
    else haltPast .invalidEscape (c :: rest)
  | c :: rest => if c.toNat < 0x20 then haltAt .controlCharacter (c :: rest) else skipString rest
termination_by s.length
decreasing_by all_goals (simp_all; try omega)

def skipExponent (s : List Char) : Except Halt (List Char) :=
  let s := match s with
    | '+' :: rest | '-' :: rest => rest
    | s => s
  match s with
  | c :: rest =>
    if isDigit c then .ok (rest.dropWhile isDigit) else haltPast .invalidNumber (c :: rest)
  | [] => haltAt .invalidNumber []

def skipFraction (s : List Char) : Except Halt (List Char) :=
  let rest := s.dropWhile isDigit
  if !s.head?.any isDigit then haltPast .invalidNumber s
  else match rest with
    | c :: after => if startsExponent c then skipExponent after else .ok rest
    | [] => .ok rest

/-- Passes over a number after its sign. -/
def skipNumber (s : List Char) : Except Halt (List Char) :=
  match s with
  | [] => haltAt .invalidNumber []
  | c :: rest =>
    if c = '0' ∧ rest.head?.any isDigit then haltPast .invalidNumber rest
    else if isDigit c then
      match if c = '0' then rest else s.dropWhile isDigit with
      | '.' :: after => skipFraction after
      | 'e' :: after | 'E' :: after => skipExponent after
      | rest => .ok rest
    else haltPast .invalidNumber s

/-! ### Containers -/

/-- An open container. -/
inductive Frame where
  | list
  | object

def Frame.close : Frame → Char
  | .list => ']'
  | .object => '\x7d'

def Frame.ended : Frame → Cause
  | .list => .endInList
  | .object => .endInObject

def Frame.commaExpected : Frame → Cause
  | .list => .listCommaExpected
  | .object => .objectCommaExpected

/-- Passes over a member's name and colon. -/
def skipName (s : List Char) : Except Halt (List Char) :=
  match skipBlanks s with
  | [] => haltPast .endInObject []
  | '"' :: rest => do
    let rest ← skipString rest
    match skipBlanks rest with
    | [] => haltPast .endInObject []
    | ':' :: rest => return rest
    | rest => haltPast .colonExpected rest
  | rest => haltPast .nameNotString rest

/-- What comes next: a value, what follows an opening bracket, or what follows a value. -/
inductive Await where
  | value
  | opened
  | closed

/-- The loop of `skipValue`; two turns take at least one character. -/
def skipFrom : (fuel : Nat) → Await → List Frame → List Char → Except Halt (List Char)
  | 0, _, _, s => haltAt .endInValue s
  | fuel + 1, .value, open_, s =>
    match skipBlanks s with
    | [] => haltPast .endInValue []
    | 'n' :: rest => do skipFrom fuel .closed open_ (← readWord ['u', 'l', 'l'] rest)
    | 't' :: rest => do skipFrom fuel .closed open_ (← readWord ['r', 'u', 'e'] rest)
    | 'f' :: rest => do skipFrom fuel .closed open_ (← readWord ['a', 'l', 's', 'e'] rest)
    | '"' :: rest => do skipFrom fuel .closed open_ (← skipString rest)
    | '[' :: rest => skipFrom fuel .opened (.list :: open_) rest
    | '\x7b' :: rest => skipFrom fuel .opened (.object :: open_) rest
    | '-' :: rest => do skipFrom fuel .closed open_ (← skipNumber rest)
    | c :: rest =>
      if isDigit c then do skipFrom fuel .closed open_ (← skipNumber (c :: rest))
      else haltPast .valueExpected (c :: rest)
  | _ + 1, _, [], s => .ok s
  | fuel + 1, .opened, frame :: open_, s =>
    match skipBlanks s with
    | [] => haltPast frame.ended []
    | c :: rest =>
      if c = frame.close then skipFrom fuel .closed open_ rest
      else match frame with
        | .list => skipFrom fuel .value (.list :: open_) (c :: rest)
        | .object => do skipFrom fuel .value (.object :: open_) (← skipName (c :: rest))
  | fuel + 1, .closed, frame :: open_, s =>
    match skipBlanks s with
    | [] => haltPast frame.ended []
    | c :: rest =>
      if c = frame.close then skipFrom fuel .closed open_ rest
      else if c = ',' then
        match frame with
        | .list => skipFrom fuel .value (.list :: open_) rest
        | .object => do skipFrom fuel .value (.object :: open_) (← skipName rest)
      else haltPast frame.commaExpected (c :: rest)

/-- Passes over one value. -/
def skipValue (s : List Char) : Except Halt (List Char) :=
  skipFrom (2 * s.length + 2) .value [] s

end SwaggerPress.Json
