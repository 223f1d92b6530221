import CaptureArbiter.Yaml.Node.Reader
import CaptureArbiter.Yaml.Scalar.Value

/-!
# The value of a document

The tag of a node decides what is made of it. A mapping first takes in the entries of the mappings
that it merges, which stand before its own; of several entries of one key the last counts. If a
document has several faults, one at less depth is reported before one at greater depth, and of two
at the same depth the one that is written first.
-/

namespace CaptureArbiter.Yaml.Node

/-- The tag of a node. A loop is an untagged container. -/
def tag : Node → String
  | .scalar tag _ => tag
  | .sequence _ tag _ => tag
  | .mapping _ tag _ => tag
  | .loop _ ofMap => schemaTag (if ofMap then "map" else "seq")

def schemaName? (tag : String) : Option String :=
  let start := (schemaTag "").toList
  let cs := tag.toList
  if start.isPrefixOf cs then some (String.ofList (cs.drop start.length)) else none

def hasTag (n : Node) (name : String) : Bool := n.tag == schemaTag name

/-- The text that a node stands for where a scalar is wanted: its own, or that of the value of the
key `=`. -/
def text? : Node → Option String
  | .scalar _ text => some text
  | .mapping _ _ entries => entriesText? entries
  | _ => none
where
  /-- The text of the first entry that has the tag of default values. -/
  entriesText? : List (Node × Node) → Option String
    | [] => none
    | (k, v) :: es => if k.hasTag "value" then text? v else entriesText? es

def containerNames : List String := ["seq", "map", "set", "omap", "pairs"]

def isContainer (n : Node) : Bool := containerNames.any n.hasTag

def plainValue (n : Node) : Except Fault Value :=
  match schemaName? n.tag, n.text? with
  | some name, some text => Scalar.valueOf name text
  | _, _ => .error .malformed

mutual

def mergedEntries : Node → Except Fault (List (Node × Node))
  | .mapping _ _ entries => do
    let merged ← mergesOf entries
    return merged ++ entries.filter fun e => !e.1.hasTag "merge"
  | .loop _ true => .ok []
  | _ => .error .malformed

/-- The entries that the merge keys among some entries bring in. -/
def mergesOf : List (Node × Node) → Except Fault (List (Node × Node))
  | [] => .ok []
  | (k, v) :: es => do
    let here ← if k.hasTag "merge" then mergedFrom v else pure []
    return here ++ (← mergesOf es)

/-- The entries of a mapping, or of several, the first of which has precedence. -/
def mergedFrom : Node → Except Fault (List (Node × Node))
  | .sequence _ _ items => mergedFromAll items
  | n => mergedEntries n

/-- The entries of several mappings, those of the first last. -/
def mergedFromAll : List Node → Except Fault (List (Node × Node))
  | [] => .ok []
  | n :: ns => do
    let here ← mergedEntries n
    return (← mergedFromAll ns) ++ here

end

/-- A key of a mapping. The key `=` is a text there. -/
def asKey (k : Node) : Node :=
  match k with
  | .scalar _ text => if k.hasTag "value" then .scalar (schemaTag "str") text else k
  | k => k

/-- Checks a node where it is met. Containers are checked later, and given back for that. -/
def met : Node → Except Fault (List Node)
  | .loop .. => .ok []
  | n =>
    if n.isContainer then .ok [n]
    else do
      let _ ← n.plainValue
      return []

def isKeyNode : Node → Bool
  | .loop .. => false
  | n => !n.isContainer

def metEntries : List (Node × Node) → Except Fault (List Node)
  | [] => .ok []
  | (k, v) :: es => do
    let key := asKey k
    let ofKey ← key.met
    if !key.isKeyNode then throw .malformed
    let ofValue ← v.met
    return ofKey ++ ofValue ++ (← metEntries es)

/-- Checks the items of a list of pairs, each of which is a mapping of one entry. -/
def metPairs : List Node → Except Fault (List Node)
  | [] => .ok []
  | .mapping _ _ [(k, v)] :: ns => do
    let ofKey ← k.met
    let ofValue ← v.met
    return ofKey ++ ofValue ++ (← metPairs ns)
  | _ => .error .malformed

def metItems : List Node → Except Fault (List Node)
  | [] => .ok []
  | n :: ns => do
    let here ← n.met
    return here ++ (← metItems ns)

def inside (n : Node) : Except Fault (List Node) :=
  if n.hasTag "map" || n.hasTag "set" then
    match n with
    | .mapping .. => do metEntries (← n.mergedEntries)
    | _ => .error .malformed
  else match n with
    | .sequence _ _ items => if n.hasTag "seq" then metItems items else metPairs items
    | _ => .error .malformed

def insideAll : List Node → Except Fault (List Node)
  | [] => .ok []
  | n :: ns => do
    let here ← n.inside
    return here ++ (← insideAll ns)

/-- Checks containers and what is inside them, level by level. -/
def checkLevels : Nat → List Node → Except Fault Unit
  | 0, _ => .ok ()
  | depth + 1, level =>
    if level.isEmpty then .ok () else do checkLevels depth (← insideAll level)

mutual

def depth : Node → Nat
  | .scalar .. => 1
  | .loop .. => 1
  | .sequence _ _ items => depthOfItems items + 1
  | .mapping _ _ entries => depthOfEntries entries + 1

def depthOfItems : List Node → Nat
  | [] => 0
  | n :: ns => max n.depth (depthOfItems ns)

def depthOfEntries : List (Node × Node) → Nat
  | [] => 0
  | (k, v) :: es => max (max k.depth v.depth) (depthOfEntries es)

end

def check (n : Node) : Except Fault Unit := do checkLevels (n.depth + 1) (← n.met)

/-- A mapping of entries, of which the last of a key counts. -/
def mapOf (entries : List (Value × Value)) : List (Value × Value) :=
  entries.foldl (fun es e => Value.putEntry es e.1 e.2) []

/-- What a loop stands for inside some containers, the innermost first. -/
abbrev Resolver : Type := List Nat → Nat → Bool → Value

mutual

/-- The value of a node inside some containers. A container inside itself is cut short. -/
def valueOf (resolve : Resolver) (around : List Nat) : Node → Value
  | .loop id ofMap => resolve around id ofMap
  | .scalar tag text =>
    match (schemaName? tag).map fun name => Scalar.valueOf name text with
    | some (.ok v) => v
    | _ => .null
  | .sequence id tag items =>
    if around.contains id then .loop false []
    else if tag == schemaTag "seq" then .list (itemValues resolve (id :: around) items)
    else .list (pairValues resolve (id :: around) items)
  | .mapping id tag entries =>
    if around.contains id then .loop true []
    else
      let all := mergedValues resolve (id :: around) entries ++
        ownValues resolve (id :: around) entries
      if tag == schemaTag "map" then .map (mapOf all)
      else if tag == schemaTag "set" then .set ((mapOf all).map (·.1))
      else match Node.plainValue (.mapping id tag entries) with
        | .ok v => v
        | .error _ => .null

def itemValues (resolve : Resolver) (around : List Nat) : List Node → List Value
  | [] => []
  | n :: ns => valueOf resolve around n :: itemValues resolve around ns

def pairValues (resolve : Resolver) (around : List Nat) : List Node → List Value
  | [] => []
  | n :: ns => pairValue resolve around n :: pairValues resolve around ns

def pairValue (resolve : Resolver) (around : List Nat) : Node → Value
  | .mapping id _ entries =>
    match ownValues resolve (id :: around) entries with
    | [(k, v)] => .pair k v
    | _ => .null
  | _ => .null

/-- The values of entries that are not merge keys. -/
def ownValues (resolve : Resolver) (around : List Nat) :
    List (Node × Node) → List (Value × Value)
  | [] => []
  | (k, v) :: es =>
    if k.hasTag "merge" then ownValues resolve around es
    else (keyValue resolve around k, valueOf resolve around v) :: ownValues resolve around es

/-- The value of a key. The key `=` is a text there. -/
def keyValue (resolve : Resolver) (around : List Nat) : Node → Value
  | .scalar tag text =>
    if tag == schemaTag "value" then .text text
    else match (schemaName? tag).map fun name => Scalar.valueOf name text with
      | some (.ok v) => v
      | _ => .null
  | n => valueOf resolve around n

/-- The values that the merge keys among some entries bring in. -/
def mergedValues (resolve : Resolver) (around : List Nat) :
    List (Node × Node) → List (Value × Value)
  | [] => []
  | (k, v) :: es =>
    if k.hasTag "merge" then valuesFrom resolve around v ++ mergedValues resolve around es
    else mergedValues resolve around es

/-- The values of the entries of a mapping, or of several, those of the first last. -/
def valuesFrom (resolve : Resolver) (around : List Nat) : Node → List (Value × Value)
  | .mapping _ _ entries => mergedValues resolve around entries ++ ownValues resolve around entries
  | .sequence _ _ items => valuesFromAll resolve around items
  | _ => []

/-- The values of the entries of several mappings, those of the first last. -/
def valuesFromAll (resolve : Resolver) (around : List Nat) : List Node → List (Value × Value)
  | [] => []
  | n :: ns => valuesFromAll resolve around ns ++ valuesFrom resolve around n

end

mutual

/-- The containers inside a node, by their numbers. -/
def containers : Node → List (Nat × Node)
  | .sequence id tag items => (id, .sequence id tag items) :: containersOfItems items
  | .mapping id tag entries => (id, .mapping id tag entries) :: containersOfEntries entries
  | _ => []

def containersOfItems : List Node → List (Nat × Node)
  | [] => []
  | n :: ns => n.containers ++ containersOfItems ns

def containersOfEntries : List (Node × Node) → List (Nat × Node)
  | [] => []
  | (k, v) :: es => k.containers ++ v.containers ++ containersOfEntries es

end

/-- What a loop is shown as while the containers around it are being shown: the container that it
refers to, unless that is one of them. Each step shows another container, so `fuel` is at least
their number. -/
def shownLoop (known : List (Nat × Node)) : Nat → Resolver
  | 0, _, _, ofMap => .loop ofMap []
  | fuel + 1, around, id, ofMap =>
    match known.lookup id with
    | some n =>
      if around.contains id then .loop ofMap [] else n.valueOf (shownLoop known fuel) around
    | none => .loop ofMap []

/-- What stands between the brackets of a container. -/
def innerText : Value → String
  | .list items => ", ".intercalate (Value.literalsAt 1 items)
  | .map entries => ", ".intercalate (Value.entryLiteralsAt 1 entries)
  | v => v.literal

/-- The loop among the containers around it, of which none, one, two and more may be shown. -/
def loopAmong (known : List (Nat × Node)) : Resolver := fun around id ofMap =>
  let between := around.takeWhile (· != id)
  .loop ofMap <| (List.range (between.length + 1)).map fun n =>
    innerText (shownLoop known (known.length + 1) (between.take n) id ofMap)

def value (n : Node) : Except Fault Value := do
  n.check
  return n.valueOf (loopAmong n.containers) []

end CaptureArbiter.Yaml.Node
