import SwaggerPress.Capture.Basic
import SwaggerPress.Json.Decode
import SwaggerPress.Json.Reader
import SwaggerPress.Json.Skip

/-!
    Captures from data. A capture is an object with the fields `method`, `status_code`,
    `content_type`, `response_body` and `request_body`, of which the first two are required and
    unknown ones are ignored, or the list of the fields' values in this order. A field may not be
    given twice.

    A capture is read either from a value (`Capture.decode`) or straight from a text
    (`Capture.read`), where a mismatch is reported with its place. -/

namespace SwaggerPress

open Json (Halt Reader haltAt haltPast haltKind skipBlanks readText readWord readColon readValue
  readNumber skipValue nextItem isDigit asText asRecord field? fieldOr required)

namespace Capture

/-- The name under which a capture is reported. -/
def typeName : String := "struct CapturedExample"

/-- The largest status. -/
def maxStatus : Nat := 65535

/-- A number as a status. -/
def statusOf : Json → Except Mismatch UInt16
  | .int n =>
    if 0 ≤ n ∧ n ≤ maxStatus then .ok (UInt16.ofNat n.toNat)
    else .error (.wrongValue (.integer n) "u16")
  | v => v.refuse "u16"

/-- A request body; `null` is none. -/
def requestOf : Json → Option Json
  | .null => none
  | v => some v

/-! ### From values -/

/-- How many values a list must have, as a mismatch words it. -/
def fiveExpected : String := typeName ++ " with 5 elements"

/-- A capture given as the list of its fields' values. -/
def decodeList : List Json → Except Mismatch Capture
  | [] => .error (.wrongLength 0 fiveExpected)
  | method :: rest => do
    let method ← asText method
    match rest with
    | [] => .error (.wrongLength 1 fiveExpected)
    | status :: rest =>
      let status ← statusOf status
      let contentType ← (rest[0]?.map asText).getD (.ok "")
      let response ← (rest[1]?.map asText).getD (.ok "")
      let request := (rest[2]?.map requestOf).getD none
      if 3 < rest.length then
        .error (.wrongLength (2 + rest.length) "fewer elements in array")
      else return { method, status, contentType, response, request }

/-- A capture given as a value. -/
def decode : Json → Except Mismatch Capture
  | .arr items => decodeList items
  | .obj ms => do
    let contentType ← fieldOr "content_type" "" asText ms
    let method? ← field? "method" asText ms
    let request := ((firstUnder? "request_body" ms).map requestOf).getD none
    let response ← fieldOr "response_body" "" asText ms
    let status? ← field? "status_code" statusOf ms
    let method ← required "method" method?
    let status ← required "status_code" status?
    return { method, status, contentType, response, request }
  | v => v.refuse typeName

/-! ### From texts -/

/-- The fields that have been read so far. -/
structure Partial where
  method : Option String := none
  status : Option UInt16 := none
  contentType : Option String := none
  response : Option String := none
  request : Option (Option Json) := none

/-- How deep a request body may nest inside a batch. -/
def bodyNesting : Nat := Json.maxNesting - 3

/-- Reads a status. -/
def readStatus (s : List Char) : Except Halt (UInt16 × List Char) := do
  let number (r : Json × List Char) : Except Halt (UInt16 × List Char) :=
    match statusOf r.1 with
    | .ok status => .ok (status, r.2)
    | .error m => haltAt (.mismatch m) r.2
  match skipBlanks s with
  | [] => haltPast .endInValue []
  | '-' :: rest => number (← readNumber true rest)
  | c :: rest =>
    if isDigit c then number (← readNumber false (c :: rest)) else haltKind "u16" (c :: rest)

/-- Reads a request body. -/
def readRequest (s : List Char) : Except Halt (Option Json × List Char) := do
  match skipBlanks s with
  | 'n' :: rest => return (none, ← readWord ['u', 'l', 'l'] rest)
  | s =>
    let (v, s) ← readValue bodyNesting s
    return (some v, s)

/-- The end of reading a record whose list or object is at fault: the bracket that closes it, if it
comes next, has been taken. -/
def haltAfter {α : Type} (m : Mismatch) (close : Char) (s : List Char) : Except Halt α :=
  match skipBlanks s with
  | c :: rest => if c = close then haltAt (.mismatch m) rest else haltAt (.mismatch m) (c :: rest)
  | [] => haltAt (.mismatch m) []

/-- Reads a field's value into its place. The rest starts after the field's name. -/
def readField (p : Partial) (name : String) (s : List Char) :
    Except Halt (Partial × List Char) := do
  let fresh {β : Type} (old : Option β) : Except Halt (List Char) :=
    if old.isSome then haltAfter (.duplicateField name) '\x7d' s else readColon s
  match name with
  | "method" =>
    let (v, s) ← readText (← fresh p.method)
    return ({ p with method := some v }, s)
  | "status_code" =>
    let (v, s) ← readStatus (← fresh p.status)
    return ({ p with status := some v }, s)
  | "content_type" =>
    let (v, s) ← readText (← fresh p.contentType)
    return ({ p with contentType := some v }, s)
  | "response_body" =>
    let (v, s) ← readText (← fresh p.response)
    return ({ p with response := some v }, s)
  | "request_body" =>
    let (v, s) ← readRequest (← fresh p.request)
    return ({ p with request := some v }, s)
  | _ => return (p, ← skipValue (← readColon s))

/-- The capture of the fields that were read. -/
def ofPartial (p : Partial) : Except Mismatch Capture := do
  let method ← required "method" p.method
  let status ← required "status_code" p.status
  return {
    method, status
    contentType := p.contentType.getD ""
    response := p.response.getD ""
    request := p.request.getD none }

/-- Takes the bracket that closes a list from which nothing more is wanted. -/
def closeList (s : List Char) : Except Halt (List Char) :=
  match skipBlanks s with
  | [] => haltPast .endInList []
  | ']' :: rest => .ok rest
  | ',' :: rest =>
    match skipBlanks rest with
    | ']' :: rest => haltPast .trailingComma (']' :: rest)
    | rest => haltPast .trailingCharacters rest
  | rest => haltPast .trailingCharacters rest

/-- Reads the values of a capture given as a list whose bracket has been taken. -/
def readList (s : List Char) : Except Halt (Capture × List Char) := do
  let wanted (count : Nat) (s : List Char) : Except Halt (List Char) := do
    let (more, s) ← nextItem (count = 0) s
    if more then return s else haltAfter (.wrongLength count fiveExpected) ']' s
  let (method, s) ← readText (← wanted 0 s)
  let (status, s) ← readStatus (← wanted 1 s)
  let c : Capture := { method, status }
  let (more, s) ← nextItem false s
  if !more then return (c, ← closeList s)
  let (contentType, s) ← readText s
  let c := { c with contentType }
  let (more, s) ← nextItem false s
  if !more then return (c, ← closeList s)
  let (response, s) ← readText s
  let c := { c with response }
  let (more, s) ← nextItem false s
  if !more then return (c, ← closeList s)
  let (request, s) ← readRequest s
  return ({ c with request }, ← closeList s)

/-- Reads a capture. -/
def read (s : List Char) : Except Halt (Capture × List Char) :=
  match skipBlanks s with
  | '[' :: rest => readList rest
  | '\x7b' :: rest => do
    let (p, s) ← Json.readMembers {} readField rest
    match ofPartial p with
    | .ok c => return (c, s)
    | .error m => haltAt (.mismatch m) s
  | s => haltKind typeName s

end Capture

namespace Batch

/-- The batch that a text lists, as it stands. -/
def parse (text : String) : Except Json.Fault Batch :=
  (Json.readWhole (Json.readMapOf (Json.readListOf Capture.read)) text).map Batch.mk

/-- The batch that the captures of a text are recorded into. -/
def load (text : String) : Except Json.Fault Batch :=
  (parse text).map fun b => ofLists b.byPath

end Batch

end SwaggerPress
