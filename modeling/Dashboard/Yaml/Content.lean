import Dashboard.Number.Slots
import Dashboard.Yaml.Merge

/-!
# The content of a YAML text

`Document.ofYaml` reads a text as a document.

The nodes of the graph become `Cell`s, which refer to each other by number like the nodes. The
collections wait in a queue: first those nearest to the root, and of two equally near the first.
When its turn comes, the parts of a collection are read, and the collections among them go to the
end of the queue. The first fault that is met on this way counts.

* A key is a scalar; one that comes again takes the new value at its old place.
* Where a scalar is due, a map stands for the value under its mark `=`.
* `Builder.unfold` makes a document of the cells.
-/

namespace Dashboard
namespace Yaml

/-- What has become of a node: nothing yet, a scalar, or a collection of other cells. -/
inductive Cell where
  | pending
  | leaf (d : Document)
  | list (items : List Nat)
  | tuple (items : List Nat)
  | set (items : List Nat)
  | map (entries : List (Nat × Nat))
  deriving Repr, Inhabited

/-- The state of the reading: the graph, the cells by number, and the collections that wait, in
order. Cells beyond the nodes belong to pairs. -/
structure Builder where
  graph : Graph
  cells : Array Cell
  queue : List Nat
  deriving Repr

/-! ### Keys -/

/-- The integer that a key equals, if it equals one. -/
def integerKey? : Document → Option Int
  | .bool b => some (if b then 1 else 0)
  | .int n => some n
  | .float x => match Binary.ofFloat x with
    | .finite negative m q =>
      if m * Nat.pow 2 q.toNat % Nat.pow 2 (-q).toNat = 0 then some (Binary.truncate negative m q)
      else none
    | _ => none
  | _ => none

/-- The hash of a key that is a number. -/
def hash? : Document → Option Int
  | .bool b => some (hashOf false (if b then 1 else 0))
  | .int n => some (hashOf (decide (n < 0)) n.natAbs)
  | .float x => (Binary.ofFloat x).hash?
  | _ => none

/-- Two keys are equal; numbers are when their values are, and timestamps when they mean the same
time. -/
def equalKeys (a b : Document) : Bool :=
  match integerKey? a, integerKey? b with
  | some m, some n => m == n
  | none, none => match a, b with
    | .null, .null => true
    | .float x, .float y => x == y
    | .text s, .text t => s == t
    | .bytes s, .bytes t => s == t
    | .date s, .date t => s == t
    | .time s, .time t => s.moment == t.moment
    | _, _ => false
  | _, _ => false

namespace Builder

/-- The cell of a number. -/
def cell (b : Builder) (n : Nat) : Cell := b.cells.getD n default

/-- Sets a cell. -/
def setCell (b : Builder) (n : Nat) (c : Cell) : Builder :=
  { b with cells := b.cells.setIfInBounds n c }

/-- The node is the word for no number, which equals itself as a key. -/
def isNaNWord (b : Builder) (n : Nat) : Bool :=
  match b.graph.node n with
  | ⟨.float, .scalar text⟩ => isNaNText text.toList
  | _ => false

/-- Two nodes are the same key. -/
def sameKey (b : Builder) (m n : Nat) : Bool :=
  m == n || (b.isNaNWord m && b.isNaNWord n) ||
    match b.cell m, b.cell n with
    | .leaf c, .leaf d => equalKeys c d
    | _, _ => false

/-- Sets the value of a key. -/
def putKey (b : Builder) (key value : Nat) : List (Nat × Nat) → List (Nat × Nat)
  | [] => [(key, value)]
  | e :: es =>
    if b.sameKey e.1 key then (e.1, value) :: es else e :: putKey b key value es

/-- The entries of a map, every key once. -/
def distinct (b : Builder) (entries : List (Nat × Nat)) : List (Nat × Nat) :=
  entries.foldl (fun done e => b.putKey e.1 e.2 done) []

/-! ### Nodes -/

/-- The text of a scalar, or of the value under the mark `=` of a map; the last argument bounds the
number of maps inside each other. -/
def textOf (g : Graph) : Nat → Nat → Except YamlError String
  | 0, _ => throw .endless
  | steps + 1, n => match (g.node n).content with
    | .scalar text => return text
    | .seq _ => throw .malformed
    | .map entries => match entries.find? fun e => (g.node e.1).tag == .value with
      | some e => textOf g steps e.2
      | none => throw .malformed

/-- The scalar of a node. -/
def scalar (b : Builder) (n : Nat) : Except YamlError Document := do
  let node := b.graph.node n
  let text ← textOf b.graph (b.graph.size + 1) n
  match node.tag, node.content with
  | .timestamp, .map _ => throw .notAText
  | tag, _ => tag.read text

/-- Puts a collection in the queue, empty for now. -/
def enqueue (b : Builder) (n : Nat) (c : Cell) : Builder :=
  { b.setCell n c with queue := b.queue ++ [n] }

/-- Makes the cell of a node, unless there is one. -/
def visit (b : Builder) (n : Nat) : Except YamlError Builder :=
  match b.cell n with
  | .pending => match (b.graph.node n).tag with
    | .seq | .omap | .pairs => return b.enqueue n (.list [])
    | .set => return b.enqueue n (.set [])
    | .map => return b.enqueue n (.map [])
    | .merge | .value | .other => throw .malformed
    | _ => return b.setCell n (.leaf (← b.scalar n))
  | _ => return b

/-- Makes the cell of a key, which must be a scalar. -/
def visitKey (b : Builder) (n : Nat) : Except YamlError Builder := do
  let b ← b.visit n
  match b.cell n with
  | .leaf _ => return b
  | _ => throw .malformed

/-! ### Collections -/

/-- The items of a list. -/
def buildList (b : Builder) (n : Nat) : Except YamlError Builder :=
  match (b.graph.node n).content with
  | .seq items => return (← items.foldlM visit b).setCell n (.list items)
  | _ => throw .malformed

/-- The entries of a map, which is merged first. -/
def buildEntries (b : Builder) (n : Nat) : Except YamlError (Builder × List (Nat × Nat)) :=
  match (b.graph.node n).content with
  | .map _ => do
    let b := { b with graph := ← b.graph.merge n }
    let entries := b.graph.entries n
    let b ← entries.foldlM (fun b e => do (← b.visitKey e.1).visit e.2) b
    return (b, b.distinct entries)
  | _ => throw .malformed

/-- A map of one entry as a pair, which gets the next number. -/
def buildPair (b : Builder) (n : Nat) : Except YamlError Builder :=
  match (b.graph.node n).content with
  | .map [(key, value)] => do
    let b ← (← b.visit key).visit value
    return { b with cells := b.cells.push (.tuple [key, value]) }
  | _ => throw .malformed

/-- The pairs of a list of maps. -/
def buildPairs (b : Builder) (n : Nat) : Except YamlError Builder :=
  match (b.graph.node n).content with
  | .seq items => do
    let first := b.cells.size
    let b ← items.foldlM buildPair b
    return b.setCell n (.list (List.range' first items.length))
  | _ => throw .malformed

/-- The keys of a set. Numbers are listed in the order of their slots, all others as they come. -/
def setOrder (b : Builder) (keys : List Nat) : List Nat :=
  let hashed? (n : Nat) : Option (Int × Nat) := match b.cell n with
    | .leaf d => (hash? d).map fun h => (h, n)
    | _ => none
  match keys.mapM hashed? with
  | some items => Slots.sorted items
  | none => keys

/-- Reads the parts of a collection. -/
def build (b : Builder) (n : Nat) : Except YamlError Builder :=
  match (b.graph.node n).tag with
  | .seq => b.buildList n
  | .omap | .pairs => b.buildPairs n
  | .set => do
    let (b, entries) ← b.buildEntries n
    return b.setCell n (.set (b.setOrder (entries.map Prod.fst)))
  | _ => do
    let (b, entries) ← b.buildEntries n
    return b.setCell n (.map entries)

/-- Reads the collections in the queue, at most the given number. -/
def run : Nat → Builder → Except YamlError Builder
  | 0, b => return b
  | steps + 1, b => match b.queue with
    | [] => return b
    | n :: rest => do run steps (← { b with queue := rest }.build n)

/-- The cells of a graph, from its root on. -/
def ofGraph (g : Graph) (root : Nat) : Except YamlError Builder := do
  let b : Builder :=
    { graph := g
      cells := Array.replicate g.size .pending
      queue := [] }
  (← b.visit root).run (g.size + 1)

/-! ### Documents -/

/-- The documents of cells that are not part of themselves, as far as they are known. -/
abbrev Known := Array (Option Document)

/-- The document of a cell and the labels it refers to outside itself, as a step that may use and
extend what is known. -/
abbrev Unfolding (α : Type) := StateM Known α

/-- The brackets of a cell. -/
def brackets : Cell → Brackets
  | .tuple _ => .round
  | .list _ => .square
  | _ => .curly

/-- A collection that refers to the given cells among those it is in and itself. If there are any,
it is part of itself and has a label; else its document is the same wherever it stands. -/
def close (n : Nat) (d : Document) (labels : List Nat) : Unfolding (Document × List Nat) := do
  if labels.isEmpty then
    modify fun known => known.setIfInBounds n (some d)
    return (d, [])
  else return (.named n d, (labels.filter (· != n)).eraseDups)

/-- The document of a cell inside the cells `path`; the last argument bounds the depth. -/
def unfold (b : Builder) : Nat → List Nat → Nat → Unfolding (Document × List Nat)
  | 0, _, _ => return (.null, [])
  | depth + 1, path, n => do
    if path.contains n then return (.again n (brackets (b.cell n)), [n])
    if let some d := (← get).getD n none then return (d, [])
    let inside := unfold b depth (n :: path)
    match b.cell n with
    | .pending => return (.null, [])
    | .leaf d => return (d, [])
    | .list items =>
      let ds ← items.mapM inside
      close n (.list (ds.map Prod.fst)) (ds.flatMap Prod.snd)
    | .tuple items =>
      let ds ← items.mapM inside
      close n (.tuple (ds.map Prod.fst)) (ds.flatMap Prod.snd)
    | .set items =>
      let ds ← items.mapM inside
      close n (.set (ds.map Prod.fst)) (ds.flatMap Prod.snd)
    | .map entries =>
      let ds ← entries.mapM fun e => do return (← inside e.1, ← inside e.2)
      close n (.map (ds.map fun e => (e.1.1, e.2.1))) (ds.flatMap fun e => e.1.2 ++ e.2.2)

/-- The document of a cell. -/
def document (b : Builder) (root : Nat) : Document :=
  let known : Known := Array.replicate b.cells.size none
  (((b.unfold (b.cells.size + 1) [] root).run known).1).1

end Builder
end Yaml

open Yaml in
/-- The content of a YAML text; a text without a document says nothing. -/
def Document.ofYaml (s : String) : Except YamlError Document := do
  match ← Graph.ofText s with
  | (_, none) => return .null
  | (g, some root) => return (← Builder.ofGraph g root).document root

end Dashboard
