import EntitySync.Yaml.Token

/-!
# Documents of configuration files

A document is a tree of scalars, sequences and mappings. The entries of a mapping stay in the order
in which they are written, repeated keys included.
-/

namespace EntitySync

namespace Yaml

/-- A part of a document. -/
inductive Node where
  | scalar (s : Scalar)
  | sequence (items : List Node)
  | mapping (entries : List (Node × Node))

namespace Node

instance : Inhabited Node := ⟨.scalar .empty⟩

/-- What stands where a node is left out. -/
def empty : Node := .scalar .empty

end Node

/-- A reader of tokens. -/
abbrev TokenReader := StateT (List Token) (Except Fault)

namespace TokenReader

def next? : TokenReader (Option Token) := return (← get).head?

def skip : TokenReader Unit := modify List.tail

/-- The next token is one of those given; they do not start a node. -/
def nextIn (tokens : List Token) : TokenReader Bool :=
  return (← next?).any fun token => tokens.contains token

/-- Where a node may stand, which decides the collections that it may be. -/
inductive Position where
  | inFlow
  | inBlock
  /-- The value of a mapping, whose sequence may start at the column of the keys. -/
  | inMapping
deriving DecidableEq

mutual

/-- A node. The number bounds the depth of the recursion. -/
def node (position : Position) : Nat → TokenReader Node
  | 0 => throw .missingNode
  | depth + 1 => do
    match ← next? with
    | some (.scalar s) => skip; return .scalar s
    | some .flowSequence => skip; return .sequence (← flowItems true depth)
    | some .flowMapping => skip; return .mapping (← flowEntries true depth)
    | some .blockSequence =>
      if position = .inFlow then throw .missingNode
      skip
      return .sequence (← blockItems depth)
    | some .blockMapping =>
      if position = .inFlow then throw .missingNode
      skip
      return .mapping (← blockEntries depth)
    | some .blockEntry =>
      if position ≠ .inMapping then throw .missingNode
      return .sequence (← alignedItems depth)
    | _ => throw .missingNode

/-- A node, or an empty one if a token follows that ends its place. -/
def nodeBefore (ends : List Token) (position : Position) : Nat → TokenReader Node
  | 0 => throw .missingNode
  | depth + 1 => do if ← nextIn ends then return .empty else node position depth

/-- The items of a block sequence and its end. -/
def blockItems : Nat → TokenReader (List Node)
  | 0 => throw .missingEntry
  | depth + 1 => do
    match ← next? with
    | some .blockEntry =>
      skip
      let item ← nodeBefore [.blockEntry, .blockEnd] .inBlock depth
      return item :: (← blockItems depth)
    | some .blockEnd => skip; return []
    | _ => throw .missingEntry

/-- The items of a sequence that stands at the column of the keys around it. -/
def alignedItems : Nat → TokenReader (List Node)
  | 0 => throw .missingEntry
  | depth + 1 => do
    match ← next? with
    | some .blockEntry =>
      skip
      let item ← nodeBefore [.blockEntry, .key, .value, .blockEnd] .inBlock depth
      return item :: (← alignedItems depth)
    | _ => return []

/-- The value behind a key of a block mapping. -/
def blockValue : Nat → TokenReader Node
  | 0 => throw .missingNode
  | depth + 1 => do
    match ← next? with
    | some .value => skip; nodeBefore [.key, .value, .blockEnd] .inMapping depth
    | _ => return .empty

/-- The entries of a block mapping and its end. -/
def blockEntries : Nat → TokenReader (List (Node × Node))
  | 0 => throw .missingKey
  | depth + 1 => do
    match ← next? with
    | some .key =>
      skip
      let key ← nodeBefore [.key, .value, .blockEnd] .inMapping depth
      let value ← blockValue depth
      return (key, value) :: (← blockEntries depth)
    | some .blockEnd => skip; return []
    | _ => throw .missingKey

/-- The key behind a question mark in a flow sequence. A token that cannot start one is taken for an
empty key. -/
def itemKey : Nat → TokenReader Node
  | 0 => throw .missingNode
  | depth + 1 => do
    if ← nextIn [.value, .flowEntry, .flowSequenceEnd] then
      skip
      return .empty
    else node .inFlow depth

/-- The value behind a key of a flow collection that ends with the given token. -/
def flowValue (close : Token) : Nat → TokenReader Node
  | 0 => throw .missingNode
  | depth + 1 => do
    match ← next? with
    | some .value => skip; nodeBefore [.flowEntry, close] .inFlow depth
    | _ => return .empty

/-- The items of a flow sequence and its end; an item with a colon is a mapping of one entry. -/
def flowItems (isFirst : Bool) : Nat → TokenReader (List Node)
  | 0 => throw .unclosedFlow
  | depth + 1 => do
    if ← nextIn [.flowSequenceEnd] then
      skip
      return []
    if !isFirst then
      unless ← nextIn [.flowEntry] do throw .unclosedFlow
      skip
    match ← next? with
    | some .flowSequenceEnd => skip; return []
    | some .key =>
      skip
      let key ← itemKey depth
      let value ← flowValue .flowSequenceEnd depth
      return .mapping [(key, value)] :: (← flowItems false depth)
    | _ =>
      let item ← node .inFlow depth
      return item :: (← flowItems false depth)

/-- The entries of a flow mapping and its end; a node without a colon is a key without a value. -/
def flowEntries (isFirst : Bool) : Nat → TokenReader (List (Node × Node))
  | 0 => throw .unclosedFlow
  | depth + 1 => do
    if ← nextIn [.flowMappingEnd] then
      skip
      return []
    if !isFirst then
      unless ← nextIn [.flowEntry] do throw .unclosedFlow
      skip
    match ← next? with
    | some .flowMappingEnd => skip; return []
    | some .key =>
      skip
      let key ← nodeBefore [.value, .flowEntry, .flowMappingEnd] .inFlow depth
      let value ← flowValue .flowMappingEnd depth
      return (key, value) :: (← flowEntries false depth)
    | _ =>
      let key ← node .inFlow depth
      return (key, .empty) :: (← flowEntries false depth)

end

/-- The only document of a text. An empty one has no node. -/
def document (depth : Nat) : TokenReader (Option Node) := do
  match ← next? with
  | none => return none
  | some .documentStart =>
    skip
    if (← get).isEmpty then return Node.empty
    nodeBefore [.documentStart, .documentEnd] .inBlock depth
  | some _ => node .inBlock depth

end TokenReader

/-- Read a text with at most one document. -/
def Node.ofTokens? (tokens : List Token) : Except Fault (Option Node) := do
  let (root, rest) ← (TokenReader.document (3 * tokens.length + 3)).run tokens
  if rest.all (· = .documentEnd) then return root else throw .severalDocuments

/-- The document in a text, or none if it is empty. -/
def parse (text : String) : Except Fault (Option Node) := do
  Node.ofTokens? (← tokens text)

end Yaml

end EntitySync
