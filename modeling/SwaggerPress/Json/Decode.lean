import SwaggerPress.Json.Basic
import SwaggerPress.Mismatch

/-!
    Reading JSON values as values of other types. A decoder of a record looks at the fields it knows
    in ascending order, the order in which a canonical object lists them, so that of two ill-typed
    fields the first in the text's order is the one reported; a field that is missing is reported
    only when all those present are well typed. -/

namespace SwaggerPress.Json

/-- What kind of thing a value is. -/
def found : Json → Found
  | .null => .nothing
  | .bool b => .boolean b
  | .int n => .integer n
  | .float x => .fraction x
  | .str s => .text s
  | .arr _ => .sequence
  | .obj _ => .map

/-- The refusal of a value that is of another kind than expected. -/
def refuse {α : Type} (v : Json) (expected : String) : Except Mismatch α :=
  .error (.wrongKind v.found expected)

def asText : Json → Except Mismatch String
  | .str s => .ok s
  | v => v.refuse "a string"

def asBool : Json → Except Mismatch Bool
  | .bool b => .ok b
  | v => v.refuse "a boolean"

/-- `null` stands for an absent value. -/
def asOption {α : Type} (decode : Json → Except Mismatch α) : Json → Except Mismatch (Option α)
  | .null => .ok none
  | v => (decode v).map some

/-- The list with every item decoded, or the first refusal. -/
def decodeItems {α : Type} (decode : Json → Except Mismatch α) :
    List Json → Except Mismatch (List α)
  | [] => .ok []
  | v :: rest => do
    let x ← decode v
    let xs ← decodeItems decode rest
    return x :: xs

def asListOf {α : Type} (decode : Json → Except Mismatch α) : Json → Except Mismatch (List α)
  | .arr items => decodeItems decode items
  | v => v.refuse "a sequence"

/-- The members with every value decoded, or the first refusal. -/
def decodeMembers {α : Type} (decode : Json → Except Mismatch α) :
    List (String × Json) → Except Mismatch (List (String × α))
  | [] => .ok []
  | (name, v) :: rest => do
    let x ← decode v
    let xs ← decodeMembers decode rest
    return (name, x) :: xs

def asMapOf {α : Type} (decode : Json → Except Mismatch α) :
    Json → Except Mismatch (SortedMap α)
  | .obj members => (decodeMembers decode members).map SortedMap.ofList
  | v => v.refuse "a map"

/-- The members of an object that is read as the record of a type. -/
def asRecord (type : String) : Json → Except Mismatch (List (String × Json))
  | .obj members => .ok members
  | v => v.refuse s!"struct {type}"

/-- A field of a record, if present. -/
def field? {α : Type} (name : String) (decode : Json → Except Mismatch α)
    (members : List (String × Json)) : Except Mismatch (Option α) :=
  match firstUnder? name members with
  | none => .ok none
  | some v => (decode v).map some

/-- A field of a record, with the value that stands for its absence. -/
def fieldOr {α : Type} (name : String) (absent : α) (decode : Json → Except Mismatch α)
    (members : List (String × Json)) : Except Mismatch α :=
  (field? name decode members).map (·.getD absent)

/-- A field that may not be missing. -/
def required {α : Type} (name : String) : Option α → Except Mismatch α
  | some x => .ok x
  | none => .error (.missingField name)

/-- The members that are none of the known fields. -/
def otherMembers (known : List String) (members : List (String × Json)) : SortedMap Json :=
  .ofList (members.filter fun e => !known.contains e.1)

end SwaggerPress.Json
