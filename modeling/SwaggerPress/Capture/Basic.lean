import SwaggerPress.Json.Basic
import SwaggerPress.Text.Case

/-!
    Captured exchanges. A *capture* is one request to the running API and the response that came
    back. A *batch* lists captures under the concrete path that was requested, at most one for each
    method and status that is recorded: recording another replaces the first and comes last.

        record p (get, 200, x) · record p (post, 201, y) · record p (get, 200, z)
          =  p ↦ [(post, 201, y), (get, 200, z)]

    A batch that was decoded as it stands may repeat a method and status; nothing replaces there. -/

namespace SwaggerPress

/-- One recorded exchange. The response is raw text, empty when there was no body; the request is
the payload as sent, text or structured. -/
structure Capture where
  method : String
  status : UInt16
  contentType : String := ""
  response : String := ""
  request : Option Json := none
  deriving DecidableEq

namespace Capture

/-- The capture of an exchange, its method in lower case. -/
def make (method : String) (status : UInt16) (contentType : String) : Capture :=
  { method := Text.lower method, status, contentType }

/-- The status as text. -/
def statusText (c : Capture) : String := toString c.status.toNat

/-- Whether the status begins with the digit 2. -/
def isSuccess (c : Capture) : Bool := c.statusText.toList.head? = some '2'

/-- Whether a value carries anything that was sent. -/
def isPayload : Json → Bool
  | .null => false
  | .str s => s != ""
  | .arr items => !items.isEmpty
  | .obj members => !members.isEmpty
  | _ => true

/-- The request payload, if one was sent. -/
def payload? (c : Capture) : Option Json := c.request.filter isPayload

/-- Whether two captures are of one method and status. -/
def sameSlot (c d : Capture) : Bool := c.method = d.method && c.status = d.status

/-- The capture as data, every field written. -/
def encode (c : Capture) : Json := .obj [
  ("method", .str c.method), ("status_code", .int c.status.toNat),
  ("content_type", .str c.contentType), ("response_body", .str c.response),
  ("request_body", c.request.getD .null)]

end Capture

/-- Captures by concrete path. -/
structure Batch where
  byPath : SortedMap (List Capture)
  deriving DecidableEq, Inhabited

namespace Batch

def empty : Batch := ⟨.empty⟩

/-- Records a capture in place of an earlier one of the same path, method and status. -/
def record (b : Batch) (path : String) (c : Capture) : Batch :=
  let earlier := (b.byPath.get? path).getD []
  ⟨b.byPath.insert path (earlier.filter (fun d => !d.sameSlot c) ++ [c])⟩

/-- Records captures one after another. -/
def recordAll (b : Batch) (captures : List (String × Capture)) : Batch :=
  captures.foldl (fun b e => b.record e.1 e.2) b

/-- The captures with their paths: paths ascending, and each path's captures in their order. -/
def toList (b : Batch) : List (String × Capture) :=
  b.byPath.entries.flatMap fun e => e.2.map fun c => (e.1, c)

def size (b : Batch) : Nat := b.toList.length

def isEmpty (b : Batch) : Bool := b.toList.isEmpty

/-- The batch of decoded lists: methods are put in lower case and captures recorded in order, so
that captures of one path, method and status replace each other and a path without captures leaves
no trace. -/
def ofLists (lists : SortedMap (List Capture)) : Batch :=
  empty.recordAll <|
    (Batch.mk lists).toList.map fun e => (e.1, { e.2 with method := Text.lower e.2.method })

/-- The batch as data. -/
def encode (b : Batch) : Json :=
  .ofMap (b.byPath.map fun captures => .arr (captures.map Capture.encode))

end Batch

end SwaggerPress
