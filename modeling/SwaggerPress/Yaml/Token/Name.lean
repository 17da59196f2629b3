import SwaggerPress.Text.Hex
import SwaggerPress.Yaml.Token

/-!
    Anchors, aliases, tags and directives. A tag is written in full between angle brackets, or as a
    handle and a suffix; a handle is `!`, `!!`, or a name between two exclamation marks:

        !<tag:example.org,2000:x>     full
        !!str     handle `!!`  suffix `str`        !local     handle `!`  suffix `local`

    A name ends before the first null character that it spells. -/

namespace SwaggerPress.Yaml

open Text (hexValue?)

/-- Reads what follows the sign of an anchor or an alias. -/
def readAnchor (activity : Activity) (c : Cursor) : Except Fault (String × Cursor) :=
  let start := c.mark
  let (name, c) := (c.skip 1).takeWhile isNameChar
  let ends := atGap c.rest || "?:,]\x7d%@\x60".toList.any c.sees
  if name.isEmpty || !ends then c.fail .nameExpected activity start
  else .ok (String.ofList name, c)

/-- The characters of a tag besides those of a name. -/
def isUriSign (c : Char) : Bool := ";/?:@&=+$.%!~*'()".toList.contains c

/-- The characters that only a tag in angle brackets may have too. -/
def isFlowUriSign (c : Char) : Bool := c = ',' || c = '[' || c = ']'

/-- How many octets a character takes that starts with this one. -/
def octetCount? (octet : Nat) : Option Nat :=
  if octet < 0x80 then some 1
  else if octet / 0x20 = 6 then some 2
  else if octet / 0x10 = 14 then some 3
  else if octet / 8 = 30 then some 4
  else none

/-- Reads octets written as a percent sign and two digits; `due` more belong to the character, none
when it has not started. Stops after the character. -/
def readOctets (fail : Cursor → Cause → Except Fault (List Char × Cursor)) :
    (fuel : Nat) → (due : Option Nat) → Cursor → Except Fault (List Char × Cursor)
  | 0, _, c => .ok ([], c)
  | fuel + 1, due, c =>
    match c.rest with
    | '%' :: a :: b :: _ =>
      match hexValue? a, hexValue? b with
      | some a, some b =>
        let octet := a * 16 + b
        let more (due : Nat) : Except Fault (List Char × Cursor) := do
          let (rest, c) ← if due = 0 then .ok ([], c.skip 3) else readOctets fail fuel due (c.skip 3)
          return (Char.ofNat octet :: rest, c)
        match due with
        | none =>
          match octetCount? octet with
          | some n => more (n - 1)
          | none => fail c .uriLeadingOctet
        | some n => if octet / 0x40 = 2 then more (n - 1) else fail c .uriTrailingOctet
      | _, _ => fail c .uriOctetExpected
    | _ => fail c .uriOctetExpected

/-- Reads the characters of a tag; `fuel` is at least their number. -/
def readUriFrom (inBrackets : Bool) (fail : Cursor → Cause → Except Fault (List Char × Cursor)) :
    (fuel : Nat) → Cursor → Except Fault (List Char × Cursor)
  | 0, c => .ok ([], c)
  | fuel + 1, c =>
    match c.rest with
    | [] => .ok ([], c)
    | x :: _ =>
      if x = '%' then do
        let (octets, c) ← readOctets fail 4 none c
        let (rest, c) ← readUriFrom inBrackets fail fuel c
        return (octets ++ rest, c)
      else if isNameChar x || isUriSign x || (inBrackets && isFlowUriSign x) then do
        let (rest, c) ← readUriFrom inBrackets fail fuel (c.skip 1)
        return (x :: rest, c)
      else .ok ([], c)

/-- Reads the name of a tag; only where something of the name came before may nothing follow. -/
def readUri (inBrackets : Bool) (activity : Activity) (mayBeEmpty : Bool) (start : Mark)
    (c : Cursor) : Except Fault (String × Cursor) := do
  let fail (c : Cursor) (cause : Cause) : Except Fault (List Char × Cursor) :=
    c.fail cause activity start
  let (name, after) ← readUriFrom inBrackets fail c.left c
  if after.left = c.left && !mayBeEmpty then after.fail .tagUriExpected activity start
  else return (String.ofList (name.takeWhile (· ≠ '\x00')), after)

/-- Reads a handle. Without its second exclamation mark it is no handle but the front of a tag. -/
def readHandle (activity : Activity) (start : Mark) (c : Cursor) :
    Except Fault (List Char × Cursor) :=
  if !c.sees '!' then c.fail .bangExpected activity start
  else
    let (name, c) := (c.skip 1).takeWhile isNameChar
    if c.sees '!' then .ok ('!' :: name ++ ['!'], c.skip 1) else .ok ('!' :: name, c)

/-- Reads a tag. In flow collections a comma may follow it. -/
def readTag (inFlow : Bool) (c : Cursor) : Except Fault (TagName × Cursor) := do
  let start := c.mark
  let (name, c) ← do
    if c.rest.tail.head? = some '<' then
      let (suffix, c) ← readUri true .tagUri false start (c.skip 2)
      if c.sees '>' then pure (⟨"", suffix⟩, c.skip 1) else c.fail .angleExpected .tag start
    else
      let (handle, c) ← readHandle .tag start c
      if handle.length > 1 && handle.getLast? = some '!' then
        let (suffix, c) ← readUri false .tagUri false start c
        pure (⟨String.ofList handle, suffix⟩, c)
      else
        let (suffix, c) ← readUri false .tagUri true start c
        let suffix := String.ofList handle.tail ++ suffix
        pure (if suffix.isEmpty then ⟨"", "!"⟩ else ⟨"!", suffix⟩, c)
  if atGap c.rest || (inFlow && c.sees ',') then return (name, c)
  else c.fail .blankOrBreakExpected .tag start

/-- Reads a number of at most nine digits. -/
def readVersionNumber (start : Mark) (c : Cursor) : Except Fault (Nat × Cursor) :=
  let (digits, after) := c.takeWhile Char.isDigit
  if digits.length > 9 then (c.skip 9).fail .versionTooLong .versionDirective start
  else if digits.isEmpty then after.fail .versionExpected .versionDirective start
  else .ok (digits.foldl (fun n d => n * 10 + (d.toNat - 48)) 0, after)

/-- Reads a directive with the rest of its line. -/
def readDirective (c : Cursor) : Except Fault (TokenKind × Cursor) := do
  let start := c.mark
  let (name, c) := (c.skip 1).takeWhile isNameChar
  if name.isEmpty then c.fail .directiveNameExpected .directive start
  else if !atGap c.rest then c.fail .directiveNameBroken .directive start
  else
    let (kind, c) ← do
      if name = "YAML".toList then
        let (major, c) ← readVersionNumber start (c.skipWhile isBlank)
        if !c.sees '.' then c.fail .versionDigitExpected .versionDirective start
        else
          let (minor, c) ← readVersionNumber start (c.skip 1)
          pure (TokenKind.versionDirective major minor, c)
      else if name = "TAG".toList then
        let c := c.skipWhile isBlank
        let (handle, c) ← readHandle .tagDirectiveHandle start c
        if handle.length > 1 && handle.getLast? != some '!' then
          c.fail .bangExpected .tagDirectiveBang start
        else match c.rest with
          | x :: _ =>
            if !isBlank x then c.fail .blankExpected .tagDirective start
            else
              let (full, c) ← readUri true .tagDirectiveUri false start (c.skipWhile isBlank)
              if !atGap c.rest then c.fail .blankOrBreakExpected .tagDirective start
              else pure (TokenKind.tagDirective (String.ofList handle) full, c)
          | [] => c.fail .blankExpected .tagDirective start
      else c.fail .unknownDirective .directive start
    let c := c.skipComment
    if atLineEnd c.rest then return (kind, c.takeBreak.2)
    else c.fail .commentOrBreakExpected .directive start

end SwaggerPress.Yaml
