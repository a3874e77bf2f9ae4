import RevisionLog.Yaml.Node

/-!
# YAML documents

A text may hold no document, which gives nothing, or one that is a map.

* `Yaml.entries?` — what stands under the names of a document; `none` is any other text.
-/

namespace RevisionLog.Yaml

open Reader

/-- Directives in front of a document. The version may be given once, and of handles the last one
that is declared counts, if no version follows it. -/
def readDirectives : Nat → (versioned : Bool) → Reader Unit
  | 0, _ => failure
  | fuel + 1, versioned => do
    match ← peek with
    | some (.directive .version) => do
      if versioned then failure
      else do
        skip
        modify fun r => { r with handles := [] }
        readDirectives fuel true
    | some (.directive (.handle name address)) => do
      skip
      modify fun r => { r with handles := [(name, address)] }
      readDirectives fuel versioned
    | _ => return ()

/-- The node of a document that is marked as one; nothing is an empty node. -/
def readMarked (fuel : Nat) : Reader Node := do
  readDirectives fuel false
  match ← peek with
  | some .documentStart => do
    skip
    match ← peek with
    | some (.directive _) | some .documentStart | some .documentEnd | none => return empty
    | _ => Node.read true false fuel
  | _ => failure

/-- What stands under the names of the only document that tokens hold. -/
def readDocument : Reader (List (String × Setting)) := do
  modify fun r => { r with tokens := r.tokens.dropWhile (· == .documentEnd) }
  let fuel := 3 * (← get).tokens.length + 3
  let node ←
    match ← peek with
    | none => pure (.map [])
    | some (.directive _) | some .documentStart => readMarked fuel
    | _ => Node.read true false fuel
  match node, (← get).tokens.all (· == .documentEnd) with
  | .map entries, true => return entries
  | _, _ => failure

/-- What a text gives under the names of its document. -/
def entries? (text : String) : Option (List (String × Setting)) := do
  let tokens ← Token.ofText? text
  return (← readDocument.run { tokens }).1

end RevisionLog.Yaml
