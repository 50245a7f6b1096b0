import Dashboard.Json.Basic
import Dashboard.Yaml.Lexer
import Dashboard.Yaml.Scalar

/-!
# Graphs of nodes

A YAML document is a graph: a node is a scalar, a sequence or a map, and an alias leads to a node
that stands elsewhere, possibly to one that it is part of. A `Graph` numbers the nodes, and a node
names its parts by their numbers.

`Graph.ofText` reads a text that holds one document, or none. It takes one token after the other, so
that a fault in the tokens counts only if no fault in the structure comes before it.
-/

namespace Dashboard
namespace Yaml

/-- What a node consists of. -/
inductive Content where
  | scalar (text : String)
  | seq (items : List Nat)
  | map (entries : List (Nat × Nat))
  deriving Repr, DecidableEq, Inhabited

/-- A node of a document. -/
structure Node where
  tag : Tag
  content : Content
  deriving Repr, DecidableEq

/-- The nodes of a document by their numbers. -/
structure Graph where
  nodes : Array Node
  deriving Repr, DecidableEq

namespace Graph

/-- The graph without nodes. -/
def empty : Graph := ⟨#[]⟩

/-- The number of nodes. -/
def size (g : Graph) : Nat := g.nodes.size

/-- The node of a number. -/
def node (g : Graph) (n : Nat) : Node := g.nodes.getD n ⟨.null, .scalar ""⟩

/-- Adds a node, which gets the next number. -/
def add (g : Graph) (node : Node) : Graph := ⟨g.nodes.push node⟩

/-- Sets what a node consists of. -/
def setContent (g : Graph) (n : Nat) (content : Content) : Graph :=
  ⟨g.nodes.modify n fun node => { node with content }⟩

/-- Sets the type of a node. -/
def setTag (g : Graph) (n : Nat) (tag : Tag) : Graph :=
  ⟨g.nodes.modify n fun node => { node with tag }⟩

end Graph

/-! ### Reading tokens -/

/-- What is read so far: the tokens that follow and the fault after them, the nodes and their names,
and the handles of tags. -/
structure Source where
  lexed : Lexed
  graph : Graph
  anchors : Fields Nat
  handles : Fields String
  deriving Repr

/-- A step of reading nodes. -/
abbrev Reading (α : Type) := StateT Source (Except YamlError) α

namespace Reading

/-- The text is malformed. -/
def fail {α : Type} : Reading α := throw .malformed

/-- The next token, which stays; none at the end of the text. -/
def peek? : Reading (Option Token) := do
  let l := (← get).lexed
  match l.tokens, l.fault with
  | t :: _, _ => return some t
  | [], some e => throw e
  | [], none => return none

/-- Passes over a token. -/
def skip : Reading Unit :=
  modify fun s => { s with lexed := { s.lexed with tokens := s.lexed.tokens.drop 1 } }

/-- Passes over the given token, if it is next. -/
def skipIf (t : Token) : Reading Bool := do
  if (← peek?) = some t then
    skip
    return true
  else return false

/-- One of the given tokens is next. -/
def sees (ts : List Token) : Reading Bool := do
  return ((← peek?).map ts.contains).getD false

/-- Adds a node and gives its number. -/
def addNode (node : Node) : Reading Nat := do
  let n := (← get).graph.size
  modify fun s => { s with graph := s.graph.add node }
  return n

/-- Gives a node a name. -/
def nameNode (anchor : Option String) (n : Nat) : Reading Unit :=
  match anchor with
  | some a => modify fun s => { s with anchors := s.anchors.put a n }
  | none => return ()

/-! ### Properties of a node -/

/-- The name before a node, if there is one. -/
def anchor? : Reading (Option String) := do
  match ← peek? with
  | some (.anchor a) =>
    skip
    return some a
  | _ => return none

/-- The tag before a node, if there is one: its handle, which it may lack, and the rest. -/
def tag? : Reading (Option (Option String × String)) := do
  match ← peek? with
  | some (.tag handle suffix) =>
    skip
    return some (handle, suffix)
  | _ => return none

/-- The address that a tag stands for. -/
def address : Option (Option String × String) → Reading (Option String)
  | none => return none
  | some (none, uri) => return some uri
  | some (some handle, suffix) => do
    match (← get).handles.field? handle with
    | some uri => return some (uri ++ suffix)
    | none => fail

/-- Name and tag before a node, in either order. -/
def properties : Reading (Option String × Option String) := do
  match ← anchor? with
  | some a => return (some a, ← address (← tag?))
  | none => match ← tag? with
    | none => return (none, none)
    | some t =>
      let a ← anchor?
      return (a, ← address (some t))

/-- The type of a collection. -/
def collectionTag (default : Tag) : Option String → Tag
  | none | some "!" => default
  | some uri => .ofUri uri

/-- A scalar. Its text decides the type, unless there are quotes or a tag. -/
def scalarNode (tag : Option String) (text : String) (plain : Bool) : Node :=
  match tag with
  | none => ⟨if plain then .ofPlain text else .str, .scalar text⟩
  | some "!" => ⟨.ofPlain text, .scalar text⟩
  | some uri => ⟨.ofUri uri, .scalar text⟩

/-! ### Nodes -/

/-- A scalar under its name. -/
def scalar (anchor tag : Option String) (text : String) (plain : Bool) : Reading Nat := do
  let n ← addNode (scalarNode tag text plain)
  nameNode anchor n
  return n

/-- A collection under its name, which its parts may use already. -/
def collection (anchor : Option String) (tag : Tag) (empty : Content) (parts : Reading Content) :
    Reading Nat := do
  let n ← addNode ⟨tag, empty⟩
  nameNode anchor n
  let content ← parts
  modify fun s => { s with graph := s.graph.setContent n content }
  return n

/-- A sequence under its name. -/
def sequence (anchor tag : Option String) (items : Reading (List Nat)) : Reading Nat :=
  collection anchor (collectionTag .seq tag) (.seq []) do return .seq (← items)

/-- A map under its name. -/
def mapping (anchor tag : Option String) (entries : Reading (List (Nat × Nat))) : Reading Nat :=
  collection anchor (collectionTag .map tag) (.map []) do return .map (← entries)

/-- The missing value, where a node is left out. -/
def missing : Reading Nat := scalar none none "" true

/-- A node, which is missing if one of the given tokens is next. -/
def orMissing (ends : List Token) (node : Reading Nat) : Reading Nat := do
  if ← sees ends then missing else node

/-- The value of an entry after its key: missing without a colon, or if one of the given tokens
follows the colon. -/
def valueOf (ends : List Token) (node : Reading Nat) : Reading Nat := do
  if ← skipIf .value then orMissing ends node else missing

/-- The farthest that collections may be nested. -/
def deepest : Nat := 490

mutual

/-- A node at a depth; the last argument bounds the number of steps. In block collections a node
may be a block collection, and as part of a map also a sequence that is not indented. -/
def node (block flush : Bool) (depth : Nat) : Nat → Reading Nat
  | 0 => fail
  | n + 1 => do
    if deepest < depth then throw .endless
    match ← peek? with
    | some (.alias a) =>
      skip
      match (← get).anchors.field? a with
      | some node => return node
      | none => fail
    | _ =>
      let (anchor, tag) ← properties
      let next ← peek?
      let named := (← get).anchors
      if (anchor.map fun a => named.has a).getD false then fail
      match next, block, flush with
      | some .blockEntry, _, true => sequence anchor tag (flushItems (depth + 1) n)
      | some (.scalar text plain), _, _ =>
        skip
        scalar anchor tag text plain
      | some .flowSequenceStart, _, _ =>
        skip
        sequence anchor tag (flowItems (depth + 1) n true)
      | some .flowMappingStart, _, _ =>
        skip
        mapping anchor tag (flowEntries (depth + 1) n true)
      | some .blockSequenceStart, true, _ =>
        skip
        sequence anchor tag (blockItems (depth + 1) n)
      | some .blockMappingStart, true, _ =>
        skip
        mapping anchor tag (blockEntries (depth + 1) n)
      | _, _, _ =>
        if anchor.isSome || tag.isSome then scalar anchor tag "" true else fail
termination_by structural n => n

/-- The items of a block sequence, up to its end. -/
def blockItems (depth : Nat) : Nat → Reading (List Nat)
  | 0 => fail
  | n + 1 => do
    if ← skipIf .blockEntry then
      let item ← orMissing [.blockEntry, .blockEnd] (node true false depth n)
      return item :: (← blockItems depth n)
    else if ← skipIf .blockEnd then return []
    else fail
termination_by structural n => n

/-- The items of a block sequence that is not indented. -/
def flushItems (depth : Nat) : Nat → Reading (List Nat)
  | 0 => fail
  | n + 1 => do
    if ← skipIf .blockEntry then
      let item ← orMissing [.blockEntry, .key, .value, .blockEnd] (node true false depth n)
      return item :: (← flushItems depth n)
    else return []
termination_by structural n => n

/-- The entries of a block map, up to its end. -/
def blockEntries (depth : Nat) : Nat → Reading (List (Nat × Nat))
  | 0 => fail
  | n + 1 => do
    if ← skipIf .key then
      let key ← orMissing [.key, .value, .blockEnd] (node true true depth n)
      let value ← valueOf [.key, .value, .blockEnd] (node true true depth n)
      return (key, value) :: (← blockEntries depth n)
    else if ← skipIf .blockEnd then return []
    else fail
termination_by structural n => n

/-- The items of a flow sequence, up to its bracket. A single entry of a map may stand for the
map. -/
def flowItems (depth : Nat) : Nat → Bool → Reading (List Nat)
  | 0, _ => fail
  | n + 1, first => do
    if ← skipIf .flowSequenceEnd then return []
    if !first then
      if !(← skipIf .flowEntry) then fail
    if ← skipIf .key then
      let pair := mapping none none do
        let key ← orMissing [.value, .flowEntry, .flowSequenceEnd] (node false false (depth + 1) n)
        let value ← valueOf [.flowEntry, .flowSequenceEnd] (node false false (depth + 1) n)
        return [(key, value)]
      let item ← pair
      return item :: (← flowItems depth n false)
    else if ← skipIf .flowSequenceEnd then return []
    else
      let item ← node false false depth n
      return item :: (← flowItems depth n false)
termination_by structural n _ => n

/-- The entries of a flow map, up to its brace. A key alone has no value. -/
def flowEntries (depth : Nat) : Nat → Bool → Reading (List (Nat × Nat))
  | 0, _ => fail
  | n + 1, first => do
    if ← skipIf .flowMappingEnd then return []
    if !first then
      if !(← skipIf .flowEntry) then fail
    if ← skipIf .key then
      let key ← orMissing [.value, .flowEntry, .flowMappingEnd] (node false false depth n)
      let value ← valueOf [.flowEntry, .flowMappingEnd] (node false false depth n)
      return (key, value) :: (← flowEntries depth n false)
    else if ← skipIf .flowMappingEnd then return []
    else
      let key ← node false false depth n
      return (key, ← missing) :: (← flowEntries depth n false)
termination_by structural n _ => n

end

/-! ### Documents -/

/-- The handles that need no directive. -/
def standardHandles : Fields String := [("!", "!"), ("!!", standardUri)]

/-- Takes in the directives before a document, at most `n`: one version, and each handle once. -/
def directives (versioned : Bool) (own : Fields String) : Nat → Reading Unit
  | 0 => fail
  | n + 1 => do
    match ← peek? with
    | some (.directive d) =>
      skip
      match d with
      | .version major =>
        if versioned || major != 1 then fail else directives true own n
      | .handle name uri =>
        if own.has name then fail else directives versioned (own.put name uri) n
      | .reserved => directives versioned own n
    | _ => modify fun s => { s with handles := own ++ standardHandles }

/-- Passes over the ends of documents, at most `n`. -/
def skipEnds : Nat → Reading Unit
  | 0 => fail
  | n + 1 => do
    if ← skipIf .documentEnd then skipEnds n

/-- Directives and the start of a document. -/
def start (n : Nat) : Reading Unit := do
  directives false [] n
  if !(← skipIf .documentStart) then fail

/-- The only document, unless there is none; `n` bounds the number of steps. -/
def document (n : Nat) : Reading (Option Nat) := do
  let root ← match ← peek? with
    | none => pure none
    | some (.directive _) | some .documentStart => do
      start n
      match ← peek? with
      | none | some (.directive _) | some .documentStart | some .documentEnd => some <$> missing
      | _ => some <$> node true false 0 n
    | _ => some <$> node true false 0 n
  skipEnds n
  match ← peek? with
  | none => return root
  | _ => do
    start n
    fail

end Reading

/-- The graph of the document of a text and the number of its root, unless there is none. -/
def Graph.ofText (s : String) : Except YamlError (Graph × Option Nat) := do
  let lexed := Lexed.ofText s
  let source : Source :=
    { lexed
      graph := .empty
      anchors := []
      handles := Reading.standardHandles }
  let (root, source) ← (Reading.document (4 * lexed.tokens.length + 4)).run source
  return (source.graph, root)

end Yaml
end Dashboard
