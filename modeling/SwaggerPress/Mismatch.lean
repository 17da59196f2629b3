import SwaggerPress.Decimal.Written
import SwaggerPress.Text.Quoted

/-!
    What can be wrong with a well-formed piece of data that is read as a value of some type: it is of
    another kind, out of range, too short or too long, lacks a field, gives one twice, or names no
    known choice. Both data formats report these with the same sentences; they differ only in what
    they call the empty value and how they write a fraction, which a `Dialect` fixes. -/

namespace SwaggerPress

open Decimal (Binary64)

/-- What stands in the place where something else was expected. -/
inductive Found where
  | nothing
  | boolean (b : Bool)
  | integer (n : Int)
  | wideInteger (n : Int)
  | fraction (x : Binary64)
  | infinite (negative : Bool)
  | notANumber
  | text (s : String)
  | sequence
  | map
  deriving DecidableEq

/-- How a data format words what it found. -/
structure Dialect where
  nothing : String
  fraction : Binary64 → String

/-- The format of the schema and the examples. -/
def Dialect.json : Dialect := ⟨"null", Binary64.write .signed⟩

/-- The format of the configuration files. -/
def Dialect.yaml : Dialect := ⟨"unit value", Binary64.writeLong⟩

def Found.describe (dialect : Dialect) : Found → String
  | .nothing => dialect.nothing
  | .boolean true => "boolean `true`"
  | .boolean false => "boolean `false`"
  | .integer n => s!"integer `{n}`"
  | .wideInteger n => if n < 0 then s!"integer `{n}` as i128" else s!"integer `{n}` as u128"
  | .fraction x => s!"floating point `{dialect.fraction x}`"
  | .infinite true => "floating point `-inf`"
  | .infinite false => "floating point `inf`"
  | .notANumber => "floating point `NaN`"
  | .text s => s!"string {Text.quoted s}"
  | .sequence => "sequence"
  | .map => "map"

/-- Why a piece of data is not a value of the type it is read as. -/
inductive Mismatch where
  | wrongKind (found : Found) (expected : String)
  | wrongValue (found : Found) (expected : String)
  | wrongLength (found : Nat) (expected : String)
  | missingField (name : String)
  | duplicateField (name : String)
  | unknownChoice (name : String) (choices : List String)
  deriving DecidableEq

def Mismatch.message (dialect : Dialect) : Mismatch → String
  | .wrongKind found expected => s!"invalid type: {found.describe dialect}, expected {expected}"
  | .wrongValue found expected => s!"invalid value: {found.describe dialect}, expected {expected}"
  | .wrongLength found expected => s!"invalid length {found}, expected {expected}"
  | .missingField name => s!"missing field `{name}`"
  | .duplicateField name => s!"duplicate field `{name}`"
  | .unknownChoice name choices =>
    let listed := ", ".intercalate (choices.map fun c => s!"`{c}`")
    s!"unknown variant `{name}`, expected one of {listed}"

end SwaggerPress
