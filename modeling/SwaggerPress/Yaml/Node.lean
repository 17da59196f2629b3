import SwaggerPress.Yaml.Event

/-!
    The first document of a YAML text as a tree. Where reading stopped at a fault the tree ends in
    `cut`, so that what comes before the fault can still be looked at. An alias points to a *target*,
    the node that carries its anchor. Targets are numbered: a new anchor gets the number of distinct
    anchor names before it, an anchor used again the number of all, and of two nodes with one number
    the later is the target of both.

        &a x   &b y   &a z          a ↦ 2, b ↦ 1        targets   0 ↦ x   1 ↦ y   2 ↦ z -/

namespace SwaggerPress.Yaml

inductive Node where
  | scalar (mark : Mark) (tag : Option String) (text : String) (plain : Bool)
  | sequence (mark : Mark) (items : List Node)
  | mapping (mark : Mark) (members : List (Node × Node))
  | alias (mark : Mark) (target : Nat)
  | cut
  deriving Inhabited

/-- The first document of a text. -/
structure Document where
  root : Option Node := none
  targets : List (Nat × Node) := []
  fault : Option Fault := none
  others : Bool := false

/-- A collection that is still open, with the nodes in it so far, the last one first. -/
structure OpenNode where
  mapping : Bool
  mark : Mark
  target : Option Nat
  serial : Nat
  reversed : List Node := []

/-- The members of a mapping from its keys and values in turn. -/
def pairUp : List Node → List (Node × Node)
  | k :: v :: rest => (k, v) :: pairUp rest
  | [k] => [(k, .cut)]
  | [] => []

def OpenNode.close (o : OpenNode) : Node :=
  if o.mapping then .mapping o.mark (pairUp o.reversed.reverse) else .sequence o.mark o.reversed.reverse

/-- A node that carries an anchor, known by the number of its target and its place in the text. -/
structure Anchored where
  target : Nat
  serial : Nat
  node : Node

/-- A tree under construction. -/
structure Building where
  root : Option Node := none
  stack : List OpenNode := []
  names : List (String × Nat) := []
  anchored : List Anchored := []
  serial : Nat := 0

namespace Building

/-- Gives a number to an anchor. -/
def number (b : Building) (anchor : Option String) : Building × Option Nat :=
  match anchor with
  | none => (b, none)
  | some name =>
    let n := b.names.length
    ({ b with names := (name, n) :: b.names.filter (·.1 ≠ name) }, some n)

/-- Adds a complete node to the innermost open collection. -/
def add (b : Building) (node : Node) : Building :=
  match b.stack with
  | [] => { b with root := some node }
  | o :: rest => { b with stack := { o with reversed := node :: o.reversed } :: rest }

/-- Remembers what an anchor stands at. -/
def remember (b : Building) (target : Option Nat) (serial : Nat) (node : Node) : Building :=
  match target with
  | none => b
  | some n => { b with anchored := ⟨n, serial, node⟩ :: b.anchored }

def start (b : Building) (mapping : Bool) (mark : Mark) (p : Properties) : Building :=
  let (b, target) := b.number p.anchor
  { b with
    stack := { mapping, mark, target, serial := b.serial } :: b.stack
    serial := b.serial + 1 }

def scalar (b : Building) (mark : Mark) (p : Properties) (text : String) (plain : Bool) : Building :=
  let (b, target) := b.number p.anchor
  let node := .scalar mark p.tag text plain
  { b.remember target b.serial node with serial := b.serial + 1 }.add node

def close (b : Building) : Building :=
  match b.stack with
  | [] => b
  | o :: rest => ({ b with stack := rest }.remember o.target o.serial o.close).add o.close

/-- Closes all open collections, after the point where the text is cut off. -/
def finish (b : Building) : Building :=
  match b.stack with
  | [] => if b.root.isSome then b else { b with root := some .cut }
  | _ => b.stack.foldl (fun b _ => b.close) (b.add .cut)

/-- The last node of each number in the order of the text. -/
def targets (b : Building) : List (Nat × Node) :=
  (b.anchored.mergeSort fun x y => y.serial ≤ x.serial).map fun a => (a.target, a.node)

/-- The document as far as it is known. -/
def document (b : Building) (fault : Option Fault) : Document :=
  let b := b.finish
  { root := b.root, targets := b.targets, fault }

/-- Follows the events of the first document; `fault` is where they break off if they do. -/
def follow (fault : Option Fault) : Building → List Event → Document
  | b, [] => b.document fault
  | b, e :: rest =>
    match e.kind with
    | .documentStart => follow fault b rest
    | .documentEnd =>
      let others := match rest with
        | [⟨.streamEnd, _⟩] => false
        | _ => true
      { b.document none with others }
    | .streamEnd => {}
    | .alias name =>
      match b.names.find? (·.1 = name) with
      | some (_, n) => follow fault (b.add (.alias e.mark n)) rest
      | none => b.document (some (.unknownAnchor e.mark))
    | .scalar p text plain => follow fault (b.scalar e.mark p text plain) rest
    | .sequenceStart p => follow fault (b.start false e.mark p) rest
    | .mappingStart p => follow fault (b.start true e.mark p) rest
    | .sequenceEnd | .mappingEnd => follow fault b.close rest

end Building

/-- The first document of the events of a text; a text without any has no root. -/
def Document.ofEvents (read : List Event × Option Fault) : Document :=
  Building.follow read.2 {} read.1

end SwaggerPress.Yaml
