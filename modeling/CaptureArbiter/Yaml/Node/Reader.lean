import CaptureArbiter.Yaml.Scalar
import CaptureArbiter.Yaml.Token.Property

/-!
# Nodes of a document, read from tokens

A document is a tree of scalars, sequences and mappings, each with a tag that says what it stands
for. A node has an anchor and a tag, in either order, and is a scalar, a block or something between
brackets; what is left out where a node may stand is an empty scalar. An alias is a copy of the node
that it names; an alias inside the node that it names is a loop.
-/

namespace CaptureArbiter.Yaml

/-- A node. Every container that is written has a number of its own, by which loops refer to it. -/
inductive Node where
  | scalar (tag text : String)
  | sequence (id : Nat) (tag : String) (items : List Node)
  | mapping (id : Nat) (tag : String) (entries : List (Node × Node))
  | loop (id : Nat) (ofMap : Bool)

/-- What an anchor names: a node, or one that is still being read. -/
inductive Anchored where
  | node (n : Node)
  | unfinished (id : Nat) (ofMap : Bool)

/-- The tokens that are left, what has been named, and how many containers have been begun. -/
structure Reader where
  tokens : List Token
  anchors : List (String × Anchored) := []
  handles : List (String × String) := []
  begun : Nat := 0

abbrev Read (α : Type) : Type := StateT Reader (Except Fault) α

namespace Read

def malformed {α : Type} : Read α := throw .malformed

def peek : Read Token := do
  match (← get).tokens with
  | [] => malformed
  | .fault e :: _ => throw e
  | t :: _ => return t

def skip : Read Unit := modify fun r => { r with tokens := r.tokens.drop 1 }

/-- Moves past the next token if it satisfies `p`, and tells whether it did. -/
def accept (p : Token → Bool) : Read Bool := do
  if p (← peek) then
    skip
    return true
  else return false

def next (p : Token → Bool) : Read Bool := do return p (← peek)

def expect (p : Token → Bool) : Read Unit := do
  if !(← accept p) then malformed

def isBlockEnd : Token → Bool
  | .blockEnd => true
  | _ => false

def isBlockEntry : Token → Bool
  | .blockEntry => true
  | _ => false

def isKey : Token → Bool
  | .key => true
  | _ => false

def isValue : Token → Bool
  | .value => true
  | _ => false

def isFlowEntry : Token → Bool
  | .flowEntry => true
  | _ => false

def isSequenceEnd : Token → Bool
  | .flowSequenceEnd => true
  | _ => false

def isMappingEnd : Token → Bool
  | .flowMappingEnd => true
  | _ => false

def isDocumentStart : Token → Bool
  | .documentStart => true
  | _ => false

def isDocumentEnd : Token → Bool
  | .documentEnd => true
  | _ => false

def isStreamEnd : Token → Bool
  | .streamEnd => true
  | _ => false

def isDirective : Token → Bool
  | .directive _ => true
  | _ => false

/-- The scalar that stands where a node is left out. -/
def empty : Node := .scalar (Scalar.defaultTag true "") ""

def anchor? : Read (Option String) := do
  match ← peek with
  | .anchor name =>
    skip
    return some name
  | _ => return none

/-- Reads an anchor and a tag in either order. -/
def properties : Read (Option String × Option (Option String × String)) := do
  let before ← anchor?
  let tag ← match ← peek with
    | .tag handle suffix => do
      skip
      pure (some (handle, suffix))
    | _ => pure none
  let name ← if before.isNone && tag.isSome then anchor? else pure before
  return (name, tag)

def resolveTag : Option (Option String × String) → Read (Option String)
  | none => return none
  | some (none, suffix) => return some suffix
  | some (some handle, suffix) => do
    match (← get).handles.lookup handle with
    | some start => return some (start ++ suffix)
    | none => malformed

/-- Names a node. No name is given twice. -/
def bindAnchor (name : Option String) (a : Anchored) : Read Unit :=
  match name with
  | none => pure ()
  | some n => modify fun r => { r with anchors := (n, a) :: r.anchors }

/-- Gives a container its number. -/
def begin : Read Nat := modifyGet fun r => (r.begun, { r with begun := r.begun + 1 })

/-- Begins a container, which its name refers to from now on. -/
def beginNamed (name : Option String) (ofMap : Bool) : Read Nat := do
  let id ← begin
  bindAnchor name (.unfinished id ofMap)
  return id

def checkAnchor : Option String → Read Unit
  | none => pure ()
  | some n => do
    if ((← get).anchors.lookup n).isSome then malformed

def aliased (name : String) : Read Node := do
  match (← get).anchors.lookup name with
  | some (.node n) => return n
  | some (.unfinished id ofMap) => return .loop id ofMap
  | none => malformed

/-- A tag of one's own: none, or an exclamation mark, leaves the choice open. -/
def ownTag (tag : Option String) : Option String := tag.filter (· != "!")

def scalarNode (tag : Option String) (isPlain : Bool) (text : String) : Node :=
  let plain := (isPlain && tag.isNone) || tag == some "!"
  .scalar ((ownTag tag).getD (Scalar.defaultTag plain text)) text

/-- Where a node stands decides which forms it may have. -/
inductive Place where
  | flow
  | block
  | blockOrDash
  deriving DecidableEq

mutual

def node (place : Place) : Nat → Read Node
  | 0 => malformed
  | depth + 1 => do
    match ← peek with
    | .alias name =>
      skip
      aliased name
    | _ =>
      let (name, written) ← properties
      let tag ← resolveTag written
      contents place name tag depth

def contents (place : Place) (name tag : Option String) : Nat → Read Node
  | 0 => malformed
  | depth + 1 => do
    let sequenceTag := (ownTag tag).getD (schemaTag "seq")
    let mappingTag := (ownTag tag).getD (schemaTag "map")
    let t ← peek
    checkAnchor name
    match t, place with
    | .scalar isPlain text, _ => do
      skip
      let n := scalarNode tag isPlain text
      bindAnchor name (.node n)
      return n
    | .flowSequenceStart, _ => do
      skip
      let id ← beginNamed name false
      finish name (.sequence id sequenceTag (← flowItems true depth))
    | .flowMappingStart, _ => do
      skip
      let id ← beginNamed name true
      finish name (.mapping id mappingTag (← flowEntries true depth))
    | .blockEntry, .blockOrDash => do
      let id ← beginNamed name false
      finish name (.sequence id sequenceTag (← dashItems depth))
    | .blockSequenceStart, .flow => absent name tag
    | .blockSequenceStart, _ => do
      skip
      let id ← beginNamed name false
      finish name (.sequence id sequenceTag (← blockItems depth))
    | .blockMappingStart, .flow => absent name tag
    | .blockMappingStart, _ => do
      skip
      let id ← beginNamed name true
      finish name (.mapping id mappingTag (← blockEntries depth))
    | _, _ => absent name tag

/-- A node that is left out after its anchor or tag. -/
def absent (name tag : Option String) : Read Node := do
  if name.isNone && tag.isNone then malformed
  else
    let n := scalarNode tag true ""
    bindAnchor name (.node n)
    return n

def finish (name : Option String) (n : Node) : Read Node := do
  bindAnchor name (.node n)
  return n

/-- Reads a node, or an empty scalar before a token that satisfies `p`. -/
def nodeUnless (place : Place) (p : Token → Bool) : Nat → Read Node
  | 0 => malformed
  | depth + 1 => do
    if ← next p then return empty else node place depth

def blockItems : Nat → Read (List Node)
  | 0 => malformed
  | depth + 1 => do
    if ← accept isBlockEntry then
      let item ← nodeUnless .block (fun t => isBlockEntry t || isBlockEnd t) depth
      return item :: (← blockItems depth)
    else
      expect isBlockEnd
      return []

/-- The entries of a sequence that stands at the column of its mapping. -/
def dashItems : Nat → Read (List Node)
  | 0 => malformed
  | depth + 1 => do
    if ← accept isBlockEntry then
      let item ← nodeUnless .block
        (fun t => isBlockEntry t || isKey t || isValue t || isBlockEnd t) depth
      return item :: (← dashItems depth)
    else return []

def blockEntries : Nat → Read (List (Node × Node))
  | 0 => malformed
  | depth + 1 => do
    let isLeftOut := fun t => isKey t || isValue t || isBlockEnd t
    if ← accept isKey then
      let key ← nodeUnless .blockOrDash isLeftOut depth
      let value ← if ← accept isValue then nodeUnless .blockOrDash isLeftOut depth
        else pure empty
      return (key, value) :: (← blockEntries depth)
    else
      expect isBlockEnd
      return []

/-- The items between the brackets of a sequence. A pair stands for a mapping of one entry. -/
def flowItems (isFirst : Bool) : Nat → Read (List Node)
  | 0 => malformed
  | depth + 1 => do
    if ← accept isSequenceEnd then return []
    else
      if !isFirst then expect isFlowEntry
      if ← accept isKey then
        let id ← begin
        let isLeftOut := fun t => isFlowEntry t || isSequenceEnd t
        let key ← nodeUnless .flow (fun t => isValue t || isLeftOut t) depth
        let value ← if ← accept isValue then nodeUnless .flow isLeftOut depth else pure empty
        return .mapping id (schemaTag "map") [(key, value)] :: (← flowItems false depth)
      else if ← accept isSequenceEnd then return []
      else
        let item ← node .flow depth
        return item :: (← flowItems false depth)

/-- The entries between the brackets of a mapping. -/
def flowEntries (isFirst : Bool) : Nat → Read (List (Node × Node))
  | 0 => malformed
  | depth + 1 => do
    if ← accept isMappingEnd then return []
    else
      if !isFirst then expect isFlowEntry
      if ← accept isKey then
        let isLeftOut := fun t => isFlowEntry t || isMappingEnd t
        let key ← nodeUnless .flow (fun t => isValue t || isLeftOut t) depth
        let value ← if ← accept isValue then nodeUnless .flow isLeftOut depth else pure empty
        return (key, value) :: (← flowEntries false depth)
      else if ← accept isMappingEnd then return []
      else
        let key ← node .flow depth
        return (key, empty) :: (← flowEntries false depth)

end

def commonHandles : List (String × String) := [("!", "!"), ("!!", schemaTag "")]

/-- Reads the directives before a document. The version has to be 1, and nothing is said twice. -/
def directives (hasVersion : Bool) (handles : List (String × String)) :
    Nat → Read (List (String × String))
  | 0 => malformed
  | fuel + 1 => do
    match ← peek with
    | .directive (.version major) => do
      if hasVersion || major != 1 then malformed
      skip
      directives true handles fuel
    | .directive (.tagHandle handle start) => do
      if (handles.lookup handle).isSome then malformed
      skip
      directives hasVersion ((handle, start) :: handles) fuel
    | .directive .other => do
      skip
      directives hasVersion handles fuel
    | _ => return handles

def skipDocumentEnds : Nat → Read Unit
  | 0 => pure ()
  | fuel + 1 => do
    if ← accept isDocumentEnd then skipDocumentEnds fuel

/-- Does a token show that a document begins with a line of its own? -/
def beginsExplicitly (t : Token) : Bool := isDirective t || isDocumentStart t || isStreamEnd t

/-- Reads the only document of a text; none if the text is empty. -/
def document (bound : Nat) : Read (Option Node) := do
  if ← next isStreamEnd then return none
  else
    let root ← if ← next beginsExplicitly then do
        let handles ← directives false [] bound
        modify ({ · with handles := handles ++ commonHandles })
        expect isDocumentStart
        nodeUnless .block (fun t => beginsExplicitly t || isDocumentEnd t) bound
      else do
        modify ({ · with handles := commonHandles })
        node .block bound
    skipDocumentEnds bound
    expect isStreamEnd
    return some root

end Read

def Node.ofTokens (tokens : List Token) : Except Fault (Option Node) := do
  let (root, _) ← (Read.document (4 * tokens.length + 8)).run { tokens }
  return root

end CaptureArbiter.Yaml
