import ExtensionAdmin.Config.Yaml.Scan

/-! Documents from tokens. A text holds at most one document. An anchor is numbered by how many
names of anchors there are when its node begins; a name that comes again takes a new number, which a
later name may share. -/

namespace ExtensionAdmin.Config.Yaml

structure Pending where
  tokens : List Token
  stems : List (List Char × List Char)
  names : List (List Char × Nat)
  anchors : List (Nat × Option Scalar)

abbrev Reading (α : Type) := StateT Pending Option α

def peek : Reading (Option Token) := do return (← get).tokens.head?

def skip : Reading Unit := modify fun p => { p with tokens := p.tokens.drop 1 }

def nextIn (ts : List Token) : Reading Bool := do return (← peek).any ts.contains

def expect (t : Token) : Reading Unit := do
  if ← nextIn [t] then skip else failure

def commonStems : List (List Char × List Char) :=
  [(['!'], ['!']), (['!', '!'], "tag:yaml.org,2002:".toList)]

def anchor : Reading (Option (List Char)) := do
  match ← peek with
  | some (.anchor name) => skip; return some name
  | _ => return none

def tag : Reading (Option (List Char)) := do
  match ← peek with
  | some (.tag [] suffix) => skip; return some suffix
  | some (.tag handle suffix) =>
    match (← get).stems.lookup handle with
    | none => failure
    | some stem => skip; return some (stem ++ suffix)
  | _ => return none

def properties : Reading (Option (List Char) × Option (List Char)) := do
  match ← anchor with
  | some name => return (some name, ← tag)
  | none =>
    let t ← tag
    return (← if t.isSome then anchor else pure none, t)

def register (name : Option (List Char)) (marked : Option Scalar) : Reading Unit :=
  match name with
  | none => pure ()
  | some name => modify fun p =>
    let n := p.names.length
    { p with
      names := (name, n) :: p.names.filter (·.1 != name)
      anchors := (n, marked) :: p.anchors }

def scalarNode (name : Option (List Char)) (s : Scalar) : Reading Yaml := do
  register name (some s)
  return .scalar s

def emptyNode : Yaml := .scalar .nothing

mutual

/-- A node: a scalar, an alias, or a collection. One by indentation can stand only outside brackets,
and a sequence as deep as the mapping around it only as a key or value in that. -/
def node (block level : Bool) : Nat → Reading Yaml
  | 0 => failure
  | fuel + 1 => do
    match ← peek with
    | some (.alias name) =>
      skip
      match (← get).names.lookup name with
      | none => failure
      | some n => return .alias n
    | _ =>
      let (name, tag) ← properties
      match ← peek with
      | some (.scalar text style) => skip; scalarNode name ⟨String.ofList text, style, tag⟩
      | some .flowSequence =>
        skip
        register name none
        return .sequence (← flowItems true fuel)
      | some .flowMapping =>
        skip
        register name none
        return .mapping (← flowEntries true fuel)
      | next =>
        if level && next == some .item then
          register name none
          return .sequence (← levelItems fuel)
        else if block && next == some .blockSequence then
          skip
          register name none
          return .sequence (← blockItems fuel)
        else if block && next == some .blockMapping then
          skip
          register name none
          return .mapping (← blockEntries fuel)
        else if name.isSome || tag.isSome then scalarNode name { Scalar.nothing with tag }
        else failure

def nodeUnless (block level : Bool) (ends : List Token) : Nat → Reading Yaml
  | 0 => failure
  | fuel + 1 => do
    if ← nextIn ends then return emptyNode
    node block level fuel

def blockItems : Nat → Reading (List Yaml)
  | 0 => failure
  | fuel + 1 => do
    if ← nextIn [.item] then
      skip
      let item ← nodeUnless true false [.item, .blockEnd] fuel
      return item :: (← blockItems fuel)
    else
      expect .blockEnd
      return []

def levelItems : Nat → Reading (List Yaml)
  | 0 => failure
  | fuel + 1 => do
    if ← nextIn [.item] then
      skip
      let item ← nodeUnless true false [.item, .key, .value, .blockEnd] fuel
      return item :: (← levelItems fuel)
    else return []

def blockEntries : Nat → Reading (List (Yaml × Yaml))
  | 0 => failure
  | fuel + 1 => do
    if ← nextIn [.key] then
      skip
      let key ← nodeUnless true true [.key, .value, .blockEnd] fuel
      let value ← blockValue fuel
      return (key, value) :: (← blockEntries fuel)
    else
      expect .blockEnd
      return []

def blockValue : Nat → Reading Yaml
  | 0 => failure
  | fuel + 1 => do
    if ← nextIn [.value] then
      skip
      nodeUnless true true [.key, .value, .blockEnd] fuel
    else return emptyNode

def flowItems (first : Bool) : Nat → Reading (List Yaml)
  | 0 => failure
  | fuel + 1 => do
    if ← nextIn [.flowSequenceEnd] then skip; return []
    if !first then expect .comma
    if ← nextIn [.key] then
      skip
      let pair ← flowPair fuel
      return .mapping [pair] :: (← flowItems false fuel)
    else if ← nextIn [.flowSequenceEnd] then skip; return []
    else
      let item ← node false false fuel
      return item :: (← flowItems false fuel)

/-- A mapping of one entry as an item of a sequence in brackets. Where no key is written, the token
in its place is passed over. -/
def flowPair : Nat → Reading (Yaml × Yaml)
  | 0 => failure
  | fuel + 1 => do
    let key ←
      if ← nextIn [.value, .comma, .flowSequenceEnd] then
        skip
        pure emptyNode
      else node false false fuel
    return (key, ← flowValue [.comma, .flowSequenceEnd] fuel)

def flowValue (ends : List Token) : Nat → Reading Yaml
  | 0 => failure
  | fuel + 1 => do
    if ← nextIn [.value] then
      skip
      nodeUnless false false ends fuel
    else return emptyNode

def flowEntries (first : Bool) : Nat → Reading (List (Yaml × Yaml))
  | 0 => failure
  | fuel + 1 => do
    if ← nextIn [.flowMappingEnd] then skip; return []
    if !first then expect .comma
    if ← nextIn [.key] then
      skip
      let key ← nodeUnless false false [.value, .comma, .flowMappingEnd] fuel
      let value ← flowValue [.comma, .flowMappingEnd] fuel
      return (key, value) :: (← flowEntries false fuel)
    else if ← nextIn [.flowMappingEnd] then skip; return []
    else
      let key ← node false false fuel
      return (key, emptyNode) :: (← flowEntries false fuel)

end

def directives (versioned : Bool) : List Token → Reading Unit
  | .version major minor :: rest => do
    if versioned || major != 1 || (minor != 1 && minor != 2) then failure
    skip
    directives true rest
  | .handle name stem :: rest => do
    if ((← get).stems.lookup name).isSome then failure
    modify fun p => { p with stems := (name, stem) :: p.stems }
    skip
    directives versioned rest
  | _ => pure ()

def root (fuel : Nat) : Reading Yaml := do
  let ts := (← get).tokens
  match ts with
  | [] => return emptyNode
  | .version _ _ :: _ => marked ts
  | .handle _ _ :: _ => marked ts
  | .documentStart :: _ => marked ts
  | _ => node true false fuel
where
  marked (ts : List Token) : Reading Yaml := do
    modify fun p => { p with stems := [] }
    directives false ts
    modify fun p => { p with stems := p.stems ++ commonStems }
    expect .documentStart
    match ← peek with
    | none => return emptyNode
    | some (.version _ _) => return emptyNode
    | some (.handle _ _) => return emptyNode
    | some .documentStart => return emptyNode
    | some .documentEnd => return emptyNode
    | _ => node true false fuel

def ofTokens? (ts : List Token) : Option Document := do
  let (root, p) ← (root (2 * ts.length + 2)).run ⟨ts, commonStems, [], []⟩
  if p.tokens.all (· == .documentEnd) then some ⟨root, p.anchors⟩ else none

def read? (cs : List Char) : Option Document := (readTokens? cs).bind ofTokens?

end ExtensionAdmin.Config.Yaml
