import RevisionLog.Decimal.Numeral
import RevisionLog.Settings.Basic
import RevisionLog.Yaml.Token

/-!
# Nodes of a YAML document

What the tokens of a document say: scalars, lists and maps. Of a list no more is kept than that it
is one, and of a map the entries with what they hold as settings.

* `Node.ofScalar?` — what a scalar means, by its tag and by its text.
* `Node.ofMap?` — a map, from its keys and values in turn.
* `Node.read` — the node that tokens begin with.
-/

namespace RevisionLog.Yaml

/-- What a document is made of. -/
inductive Node
  | single (s : Setting)
  | list
  | map (entries : List (String × Setting))
  /-- A value that its tag does not fit, or one that is not known yet. -/
  | unknown
deriving DecidableEq, Repr

namespace Node

/-- A node as a setting. -/
def setting : Node → Setting
  | single s => s
  | list | map _ => .group
  | unknown => .null

/-! ## Scalars -/

/-- An integer of 64 bits to a base, with an optional sign. -/
def int64OfBase? (base : Nat) (cs : List Char) : Option Int := do
  let (negative, ds) := Digits.takeSign cs
  let i := Digits.signed negative (← Text.natOfBase? base ds)
  if minInt ≤ i && i ≤ maxInt then some i else none

/-- The integer that a text writes. A plus may stand in front of a number with a sign of its own. -/
def int? (s : String) : Option Int :=
  match s.toList with
  | '0' :: 'x' :: cs => int64OfBase? 16 cs
  | '0' :: 'o' :: cs => int64OfBase? 8 cs
  | '+' :: cs => Digits.int64? (String.ofList cs)
  | cs => Digits.int64? (String.ofList cs)

/-- Words for what is no number or beyond all numbers. -/
def realWords : List String :=
  [".inf", ".Inf", ".INF", "+.inf", "+.Inf", "+.INF", "-.inf", "-.Inf", "-.INF", ".nan", "NaN",
    ".NAN"]

/-- The text writes a number with a fraction or an exponent. -/
def isReal (s : String) : Bool := realWords.contains s || (Binary64.ofText? s).isSome

/-- The number that a text writes as a node. The words with a point in front have no number, though
they stand for one. -/
def ofReal? (s : String) : Option Node := (Binary64.ofText? s).map fun r => single (.real r)

/-- What a text without quotes and without a tag means. -/
def ofPlain? (s : String) : Option Node :=
  if s == "" || s == "~" || s == "null" then some (single .null)
  else if s == "true" then some (single (.flag true))
  else if s == "false" then some (single (.flag false))
  else
    match int? s with
    | some i => some (single (.int i))
    | none => if isReal s then ofReal? s else some (single (.text s))

/-- What a text means that a tag says to be of a kind. -/
def ofKind? (kind s : String) : Option Node :=
  if kind == "bool" then
    if s == "true" then some (single (.flag true))
    else if s == "false" then some (single (.flag false))
    else some unknown
  else if kind == "int" then some (((Digits.int64? s).map fun i => single (.int i)).getD unknown)
  else if kind == "float" then if isReal s then ofReal? s else some unknown
  else if kind == "null" then some (if s == "~" || s == "null" then single .null else unknown)
  else some (single (.text s))

/-- What a scalar means: in quotes a text, and else what its tag says or, without one, what it looks
like. `none` is a number that cannot be read. -/
def ofScalar? (tag : Option Tag) (plain : Bool) (s : String) : Option Node :=
  match tag with
  | none => if plain then ofPlain? s else some (single (.text s))
  | some t =>
    match t.kind? with
    | some kind => if plain then ofKind? kind s else some (single (.text s))
    | none => some (single (.text s))

/-! ## Maps -/

/-- Keys and values from nodes in turn. What is not known is no key, and the next node takes its
place. -/
def pairs : Option Node → List Node → List (Node × Node)
  | _, [] => []
  | none, n :: ns => pairs (if n == unknown then none else some n) ns
  | some k, n :: ns => (k, n) :: pairs none ns

/-- The name that a key gives. -/
def name? : Node → Option String
  | single (.text s) => some s
  | single (.int i) => some (toString i)
  | single (.flag b) => some (toString b)
  | _ => none

/-- The map of nodes in turn. No key stands twice, and each is a name. -/
def ofMap? (nodes : List Node) : Option Node := do
  let ps := pairs none nodes
  if (ps.map (·.1)).eraseDups.length < ps.length then none
  else return map (← ps.mapM fun (k, n) => do return (← k.name?, n.setting))

end Node

/-! ## Reading -/

/-- What is left of the tokens, and what is known of the names in a document. -/
structure Reading where
  tokens : List Token
  /-- What handles of tags stand for. -/
  handles : List (String × String) := []
  /-- The number of the node that an anchor names, the last one first. -/
  anchors : List (String × Nat) := []
  /-- The nodes by their number, as far as they have ended. -/
  nodes : List (Nat × Node) := []

/-- Reading fails where the tokens are no document. -/
abbrev Reader := StateT Reading Option

namespace Reader

/-- The next token; `none` is the end. -/
def peek : Reader (Option Token) := do return (← get).tokens.head?

/-- On behind the next token. -/
def skip : Reader Unit := modify fun r => { r with tokens := r.tokens.drop 1 }

/-- An anchor, which is given a number. -/
def anchor (name : String) : Reader Nat := do
  let n := (← get).anchors.length
  modify fun r => { r with anchors := (name, n) :: r.anchors }
  return n

/-- The tag with its handle resolved. -/
def resolve (t : Tag) : Reader Tag := do
  match t.resolve? (← get).handles with
  | some t => return t
  | none => failure

/-- What stands in front of a node: an anchor and a tag in either order, each of which may be
missing. -/
def properties : Reader (Option Nat × Option Tag) := do
  match ← peek with
  | some (.anchor name) => do
    skip
    let n ← anchor name
    match ← peek with
    | some (.tag t) => do skip; return (some n, some (← resolve t))
    | _ => return (some n, none)
  | some (.tag t) => do
    skip
    let t ← resolve t
    match ← peek with
    | some (.anchor name) => do skip; return (some (← anchor name), some t)
    | _ => return (none, some t)
  | _ => return (none, none)

/-- The node that an anchor names; within itself it is not known. -/
def reference (name : String) : Reader Node := do
  let r ← get
  match r.anchors.lookup name with
  | some n => return (r.nodes.lookup n).getD .unknown
  | none => failure

/-- A node that has ended, under the number of its anchor. -/
def record (number : Option Nat) (n : Node) : Reader Node := do
  match number with
  | some i => modify fun r => { r with nodes := (i, n) :: r.nodes }
  | none => pure ()
  return n

/-- A node from what may not make one. -/
def lift (n : Option Node) : Reader Node := fun r => n.map fun n => (n, r)

/-- The next token is one of those, or the node in its place is empty. -/
def isNext (ts : List Token) : Reader Bool := do
  return ((← peek).map ts.contains).getD false

/-- A node without text. -/
def empty : Node := .single .null

end Reader

open Reader

mutual

/-- The node that the tokens begin with. A block may begin only if `block`, and items of a list
without a block of their own only if `bare`. The number bounds the steps. -/
def Node.read (block bare : Bool) : Nat → Reader Node
  | 0 => failure
  | fuel + 1 => do
    match ← peek with
    | some (.reference name) => do skip; reference name
    | _ => do
      let (number, tag) ← properties
      let next ← peek
      match next, block, bare with
      | some .item, _, true => do readBareItems fuel; record number .list
      | some (.scalar plain text), _, _ => do
        skip
        record number (← lift (Node.ofScalar? tag plain text))
      | some .listOpen, _, _ => do skip; readList true fuel; record number .list
      | some .mapOpen, _, _ => do
        skip
        let nodes ← readMap true fuel
        record number (← lift (Node.ofMap? nodes))
      | some .listBlock, true, _ => do skip; readItems fuel; record number .list
      | some .mapBlock, true, _ => do
        skip
        let nodes ← readBlock fuel
        record number (← lift (Node.ofMap? nodes))
      | _, _, _ =>
        if number.isSome || tag.isSome then record number (← lift (Node.ofScalar? tag true ""))
        else failure
termination_by structural fuel => fuel

/-- A node, which is empty where one of some tokens is next. -/
def readUnless (ts : List Token) (block bare : Bool) : Nat → Reader Node
  | 0 => failure
  | fuel + 1 => do if ← isNext ts then return empty else Node.read block bare fuel
termination_by structural fuel => fuel

/-- A value behind its mark; without the mark it is empty. -/
def readValue (ts : List Token) (block bare : Bool) : Nat → Reader Node
  | 0 => failure
  | fuel + 1 => do
    if ← isNext [.value] then do skip; readUnless ts block bare fuel else return empty
termination_by structural fuel => fuel

/-- The items of a block. -/
def readItems : Nat → Reader Unit
  | 0 => failure
  | fuel + 1 => do
    match ← peek with
    | some .blockEnd => skip
    | some .item => do
      skip
      let _ ← readUnless [.item, .blockEnd] true false fuel
      readItems fuel
    | _ => failure
termination_by structural fuel => fuel

/-- The items of a list without a block of its own. -/
def readBareItems : Nat → Reader Unit
  | 0 => failure
  | fuel + 1 => do
    if ← isNext [.item] then do
      skip
      let _ ← readUnless [.item, .key, .value, .blockEnd] true false fuel
      readBareItems fuel
    else return ()
termination_by structural fuel => fuel

/-- The keys and values of a block. -/
def readBlock : Nat → Reader (List Node)
  | 0 => failure
  | fuel + 1 => do
    let ends : List Token := [.key, .value, .blockEnd]
    match ← peek with
    | some .blockEnd => do skip; return []
    | some .key => do
      skip
      let k ← readUnless ends true true fuel
      let v ← readValue ends true true fuel
      return k :: v :: (← readBlock fuel)
    | some .value => do
      let v ← readValue ends true true fuel
      return empty :: v :: (← readBlock fuel)
    | _ => failure
termination_by structural fuel => fuel

/-- The items of a list in brackets. -/
def readList (first : Bool) : Nat → Reader Unit
  | 0 => failure
  | fuel + 1 => do
    if ← isNext [.listClose] then skip
    else do
      if first then pure () else if ← isNext [.comma] then skip else failure
      match ← peek with
      | some .listClose => skip
      | some .key => do
        skip
        let ends : List Token := [.comma, .listClose]
        -- the token that shows a key to be empty goes with it
        let missing ← isNext (.value :: ends)
        let k ← readUnless (.value :: ends) false false fuel
        if missing then skip else pure ()
        let v ← readValue ends false false fuel
        let _ ← lift (Node.ofMap? [k, v])
        readList false fuel
      | _ => do
        let _ ← Node.read false false fuel
        readList false fuel
termination_by structural fuel => fuel

/-- The keys and values of a map in brackets. -/
def readMap (first : Bool) : Nat → Reader (List Node)
  | 0 => failure
  | fuel + 1 => do
    if ← isNext [.mapClose] then do skip; return []
    else do
      if first then pure () else if ← isNext [.comma] then skip else failure
      let ends : List Token := [.comma, .mapClose]
      match ← peek with
      | some .mapClose => do skip; return []
      | some .key => do
        skip
        let k ← readUnless (.value :: ends) false false fuel
        let v ← readValue ends false false fuel
        return k :: v :: (← readMap false fuel)
      | some .value => do
        let v ← readValue ends false false fuel
        return empty :: v :: (← readMap false fuel)
      | _ => do
        let k ← Node.read false false fuel
        return k :: empty :: (← readMap false fuel)
termination_by structural fuel => fuel

end

end RevisionLog.Yaml
