import SwaggerPress.SortedMap
import SwaggerPress.Decimal.Binary64

/-!
    JSON values. A number is a whole number or a floating-point number, and the two never mix: `1`
    and `1.0` are different values. The members of an object are a list, because what is written
    fixes their order; what is read is *canonical*, every object listing each name once and in
    ascending order, so that canonical values are equal exactly when their texts mean the same. -/

namespace SwaggerPress

open Decimal (Binary64)

inductive Json where
  | null
  | bool (b : Bool)
  | int (n : Int)
  | float (x : Binary64)
  | str (s : String)
  | arr (items : List Json)
  | obj (members : List (String × Json))
  deriving Inhabited

namespace Json

mutual

/-- Decides equality of two values. -/
def decEq : (v w : Json) → Decidable (v = w)
  | .null, .null => isTrue rfl
  | .bool a, .bool b => decidable_of_iff (a = b) (by simp)
  | .int a, .int b => decidable_of_iff (a = b) (by simp)
  | .float a, .float b => decidable_of_iff (a = b) (by simp)
  | .str a, .str b => decidable_of_iff (a = b) (by simp)
  | .arr a, .arr b =>
    match decEqItems a b with
    | isTrue h => isTrue (h ▸ rfl)
    | isFalse h => isFalse fun e => h (by injection e)
  | .obj a, .obj b =>
    match decEqMembers a b with
    | isTrue h => isTrue (h ▸ rfl)
    | isFalse h => isFalse fun e => h (by injection e)
  | .null, .bool _ | .null, .int _ | .null, .float _ | .null, .str _ | .null, .arr _
  | .null, .obj _ | .bool _, .null | .bool _, .int _ | .bool _, .float _ | .bool _, .str _
  | .bool _, .arr _ | .bool _, .obj _ | .int _, .null | .int _, .bool _ | .int _, .float _
  | .int _, .str _ | .int _, .arr _ | .int _, .obj _ | .float _, .null | .float _, .bool _
  | .float _, .int _ | .float _, .str _ | .float _, .arr _ | .float _, .obj _ | .str _, .null
  | .str _, .bool _ | .str _, .int _ | .str _, .float _ | .str _, .arr _ | .str _, .obj _
  | .arr _, .null | .arr _, .bool _ | .arr _, .int _ | .arr _, .float _ | .arr _, .str _
  | .arr _, .obj _ | .obj _, .null | .obj _, .bool _ | .obj _, .int _ | .obj _, .float _
  | .obj _, .str _ | .obj _, .arr _ => isFalse (by simp)

def decEqItems : (v w : List Json) → Decidable (v = w)
  | [], [] => isTrue rfl
  | [], _ :: _ | _ :: _, [] => isFalse (by simp)
  | a :: as, b :: bs =>
    match decEq a b, decEqItems as bs with
    | isTrue h, isTrue hs => isTrue (h ▸ hs ▸ rfl)
    | isFalse h, _ => isFalse fun e => h (by injection e)
    | _, isFalse h => isFalse fun e => h (by injection e)

def decEqMembers : (v w : List (String × Json)) → Decidable (v = w)
  | [], [] => isTrue rfl
  | [], _ :: _ | _ :: _, [] => isFalse (by simp)
  | (n, a) :: as, (m, b) :: bs =>
    match decEq a b, decEqMembers as bs with
    | isTrue h, isTrue hs =>
      if hn : n = m then isTrue (h ▸ hs ▸ hn ▸ rfl) else isFalse fun e => hn (by simp_all)
    | isFalse h, _ => isFalse fun e => h (by simp_all)
    | _, isFalse h => isFalse fun e => h (by simp_all)

end

instance : DecidableEq Json := decEq

/-- The object of a sorted map. -/
def ofMap (m : SortedMap Json) : Json := .obj m.entries

mutual

/-- The value with the members of every object in ascending order, the last of each name. -/
def canonical : Json → Json
  | .arr items => .arr (canonicalItems items)
  | .obj members => .obj (canonicalMembers members).entries
  | v => v

def canonicalItems : List Json → List Json
  | [] => []
  | v :: rest => canonical v :: canonicalItems rest

/-- The members, read from the last one on, so that a name keeps its last value. -/
def canonicalMembers : List (String × Json) → SortedMap Json
  | [] => .empty
  | (name, v) :: rest =>
    let later := canonicalMembers rest
    if later.contains name then later else later.insert name (canonical v)

end

mutual

/-- Whether every object lists its names strictly ascending. -/
def IsCanonical : Json → Prop
  | .arr items => AllCanonical items
  | .obj members => Ascending members ∧ AllMembersCanonical members
  | _ => True

def AllCanonical : List Json → Prop
  | [] => True
  | v :: rest => v.IsCanonical ∧ AllCanonical rest

def AllMembersCanonical : List (String × Json) → Prop
  | [] => True
  | (_, v) :: rest => v.IsCanonical ∧ AllMembersCanonical rest

end

end Json

end SwaggerPress
