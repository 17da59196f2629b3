import SwaggerPress.Json.Lexeme

/-!
    Reading JSON texts. A container is read by a loop over its items or members that is handed the
    reader of one of them, so the same loops serve values of any shape: `readValue` builds on them a
    reader of every value, and `readText`, `readListOf` and `readMapOf` readers of one type, which
    stop with a mismatch at the first thing of another kind.

        readValue   ──▶ readItems (readValue …)          [ … ]
                    ──▶ readMembers (… readValue …)      { … }

    How deep values may nest is an argument; a text is read whole by `readWhole`. -/

namespace SwaggerPress.Json

/-! ### Containers -/

/-- Whether another item follows; the rest starts at it, or at the closing bracket. -/
def nextItem (first : Bool) (s : List Char) : Except Halt (Bool × List Char) :=
  match skipBlanks s with
  | [] => haltPast .endInList []
  | ']' :: rest => .ok (false, ']' :: rest)
  | c :: rest =>
    if first then .ok (true, c :: rest)
    else if c = ',' then
      match skipBlanks rest with
      | [] => haltPast .endInValue []
      | ']' :: rest => haltPast .trailingComma (']' :: rest)
      | rest => .ok (true, rest)
    else haltPast .listCommaExpected (c :: rest)

/-- Whether another member follows; the rest starts after the opening quote of its name, or at the
closing brace. -/
def nextName (first : Bool) (s : List Char) : Except Halt (Bool × List Char) :=
  match skipBlanks s with
  | [] => haltPast .endInObject []
  | '\x7d' :: rest => .ok (false, '\x7d' :: rest)
  | c :: rest =>
    if first then
      if c = '"' then .ok (true, rest) else haltPast .nameNotString (c :: rest)
    else if c = ',' then
      match skipBlanks rest with
      | [] => haltPast .endInValue []
      | '"' :: rest => .ok (true, rest)
      | '\x7d' :: rest => haltPast .trailingComma ('\x7d' :: rest)
      | rest => haltPast .nameNotString rest
    else haltPast .objectCommaExpected (c :: rest)

def readColon (s : List Char) : Except Halt (List Char) :=
  match skipBlanks s with
  | [] => haltPast .endInObject []
  | ':' :: rest => .ok rest
  | rest => haltPast .colonExpected rest

/-- The loop of `readItems`; every turn takes at least one character. -/
def readItemsFrom {α : Type} (item : Reader α) :
    (fuel : Nat) → (first : Bool) → (taken : List α) → List Char → Except Halt (List α × List Char)
  | 0, _, _, s => haltAt .endInList s
  | fuel + 1, first, taken, s => do
    let (more, s) ← nextItem first s
    if more then
      let (v, s) ← item s
      readItemsFrom item fuel false (v :: taken) s
    else .ok (taken.reverse, s.drop 1)

/-- Reads the items of a list whose opening bracket has been taken. -/
def readItems {α : Type} (item : Reader α) (s : List Char) :
    Except Halt (List α × List Char) :=
  readItemsFrom item (s.length + 1) true [] s

/-- The loop of `readMembers`; every turn takes at least one character. -/
def readMembersFrom {σ : Type} (member : σ → String → List Char → Except Halt (σ × List Char)) :
    (fuel : Nat) → (first : Bool) → σ → List Char → Except Halt (σ × List Char)
  | 0, _, _, s => haltAt .endInObject s
  | fuel + 1, first, state, s => do
    let (more, s) ← nextName first s
    if more then
      let (name, s) ← readString s
      let (state, s) ← member state name s
      readMembersFrom member fuel false state s
    else .ok (state, s.drop 1)

/-- Reads the members of an object whose opening brace has been taken. What is made of a member is
decided when its name has been read and its colon has not. -/
def readMembers {σ : Type} (start : σ) (member : σ → String → List Char → Except Halt (σ × List Char))
    (s : List Char) : Except Halt (σ × List Char) :=
  readMembersFrom member (s.length + 1) true start s

/-! ### Values -/

/-- Reads one value, blanks before it included. At most `nesting` containers may enclose one
another. Of two members of one name the later counts. -/
def readValue : (nesting : Nat) → List Char → Except Halt (Json × List Char)
  | nesting, s =>
    match skipBlanks s with
    | [] => haltPast .endInValue []
    | 'n' :: rest => do return (.null, ← readWord ['u', 'l', 'l'] rest)
    | 't' :: rest => do return (.bool true, ← readWord ['r', 'u', 'e'] rest)
    | 'f' :: rest => do return (.bool false, ← readWord ['a', 'l', 's', 'e'] rest)
    | '"' :: rest => do
      let (s, rest) ← readString rest
      return (.str s, rest)
    | '[' :: rest =>
      match nesting with
      | 0 => haltPast .tooDeep ('[' :: rest)
      | inner + 1 => do
        let (items, rest) ← readItems (readValue inner) rest
        return (.arr items, rest)
    | '\x7b' :: rest =>
      match nesting with
      | 0 => haltPast .tooDeep ('\x7b' :: rest)
      | inner + 1 => do
        let (members, rest) ← readMembers [] (fun members name s => do
          let (v, s) ← readValue inner (← readColon s)
          return (insertEntry name v members, s)) rest
        return (.obj members, rest)
    | '-' :: rest => readNumber true rest
    | c :: rest =>
      if isDigit c then readNumber false (c :: rest) else haltPast .valueExpected (c :: rest)

/-! ### Values of one type -/

/-- What stands at the front of a text, where it is not what was expected. -/
def haltKind {α : Type} (expected : String) (s : List Char) : Except Halt α :=
  let wrong {β : Type} (found : Found) (rest : List Char) : Except Halt β :=
    haltAt (.mismatch (.wrongKind found expected)) rest
  let wrongNumber (r : Json × List Char) : Except Halt α :=
    match r with
    | (.int n, rest) => wrong (.integer n) rest
    | (.float x, rest) => wrong (.fraction x) rest
    | (_, rest) => haltPast .valueExpected rest
  match s with
  | [] => haltPast .endInValue []
  | 'n' :: rest => do wrong .nothing (← readWord ['u', 'l', 'l'] rest)
  | 't' :: rest => do wrong (.boolean true) (← readWord ['r', 'u', 'e'] rest)
  | 'f' :: rest => do wrong (.boolean false) (← readWord ['a', 'l', 's', 'e'] rest)
  | '"' :: rest => do
    let (found, rest) ← readString rest
    wrong (.text found) rest
  | '[' :: _ => wrong .sequence s
  | '\x7b' :: _ => wrong .map s
  | '-' :: rest => do wrongNumber (← readNumber true rest)
  | c :: _ => if isDigit c then do wrongNumber (← readNumber false s) else haltPast .valueExpected s

/-- Reads a string. -/
def readText (s : List Char) : Except Halt (String × List Char) :=
  match skipBlanks s with
  | '"' :: rest => readString rest
  | s => haltKind "a string" s

/-- Reads a list. -/
def readListOf {α : Type} (item : Reader α) (s : List Char) :
    Except Halt (List α × List Char) :=
  match skipBlanks s with
  | '[' :: rest => readItems item rest
  | s => haltKind "a sequence" s

/-- Reads an object as a map; of two members of one name the later counts. -/
def readMapOf {α : Type} (value : Reader α) (s : List Char) :
    Except Halt (SortedMap α × List Char) :=
  match skipBlanks s with
  | '\x7b' :: rest =>
    readMembers SortedMap.empty (fun m name s => do
      let (v, s) ← value (← readColon s)
      return (m.insert name v, s)) rest
  | s => haltKind "a map" s

/-! ### Whole texts -/

/-- Reads a text from which nothing but blanks may be left over. -/
def readWhole {α : Type} (reader : Reader α) (text : String) : Except Fault α :=
  let chars := text.toList
  let result : Except Halt α := do
    let (v, rest) ← reader chars
    match skipBlanks rest with
    | [] => return v
    | rest => haltPast .trailingCharacters rest
  match result with
  | .ok v => .ok v
  | .error halt => .error ⟨halt.cause, Place.before chars halt.unread⟩

/-- How many containers may enclose one another in a text. -/
def maxNesting : Nat := 127

/-- Reads a JSON text. -/
def parse (text : String) : Except Fault Json := readWhole (readValue maxNesting) text

end SwaggerPress.Json
