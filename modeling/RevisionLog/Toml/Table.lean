import RevisionLog.Settings.Basic

/-!
# Tables of a TOML document

A table is defined once, but in many ways: by a header, on the way of another header, or by dotted
keys. How it came to be tells what may still be added to it.

* `Toml.Item` — what stands under a key.
* `Toml.Members.update` — a change of the table at the end of a way.
* `Toml.Members.insert`, `Toml.Members.openTable`, `Toml.Members.openSeries` — the effects of a
  pair, of a `[header]` and of a `[[header]]`; `none` is a definition that clashes.
-/

namespace RevisionLog.Toml

/-- How a table came to be. -/
inductive Origin
  /-- By a header of its own. -/
  | header
  /-- On the way of another header: it may still get its own. -/
  | way
  /-- By dotted keys, which may go on adding to it. -/
  | dotted
deriving DecidableEq, Repr

/-- What stands under a key. -/
inductive Item
  | value (v : Setting)
  | table (origin : Origin) (members : List (String × Item))
  /-- The tables of a `[[header]]`, of which only the last can grow. -/
  | series (last : List (String × Item))

/-- The keys of a table with what stands under them. -/
abbrev Members := List (String × Item)

/-- The value that an item is to one who looks for a setting. -/
def Item.setting : Item → Setting
  | value v => v
  | table .. | series _ => .group

namespace Members

/-- Puts an item under a key in place of what is there. -/
def put (k : String) (i : Item) (ms : Members) : Members := (k, i) :: ms.filter (·.1 != k)

/-- Changes the table at the end of a way. Tables that are missing on the way come to be as
`fresh`; one that is there must be `passable`, and a series stands for its last table. -/
def update (fresh : Origin) (passable : Origin → Bool)
    (change : Origin → Members → Option Members) :
    List String → Origin → Members → Option Members
  | [], origin, ms => change origin ms
  | k :: ks, _, ms =>
    match ms.lookup k with
    | none =>
      (update fresh passable change ks fresh []).map fun inner => ms.put k (.table fresh inner)
    | some (.table origin inner) =>
      if passable origin then
        (update fresh passable change ks origin inner).map fun inner =>
          ms.put k (.table origin inner)
      else none
    | some (.series last) =>
      (update fresh passable change ks .header last).map fun last => ms.put k (.series last)
    | some (.value _) => none

/-- Puts a value under a key that is free. -/
def add (k : String) (v : Setting) (ms : Members) : Option Members :=
  if (ms.lookup k).isSome then none else some (ms.put k (.value v))

/-- Puts a value under a dotted key. Only tables that have no header of their own are passed on the
way, and only one made by dotted keys gets the value. -/
def insert (way : List String) (k : String) (v : Setting) (ms : Members) : Option Members :=
  update .dotted (· != .header)
    (fun origin ms => if way.isEmpty || origin == .dotted then ms.add k v else none) way .header ms

/-- Gives a table its header: there is none of the name, or one that has come to be on the way of
another header. -/
def define (k : String) (ms : Members) : Option Members :=
  match ms.lookup k with
  | none => some (ms.put k (.table .header []))
  | some (.table .way inner) => some (ms.put k (.table .header inner))
  | some _ => none

/-- The effect of `[way.k]`. -/
def openTable (way : List String) (k : String) (ms : Members) : Option Members :=
  update .way (fun _ => true) (fun _ ms => ms.define k) way .header ms

/-- Adds a table to a series, which may be new. -/
def extend (k : String) (ms : Members) : Option Members :=
  match ms.lookup k with
  | none | some (.series _) => some (ms.put k (.series []))
  | some _ => none

/-- The effect of `[[way.k]]`. -/
def openSeries (way : List String) (k : String) (ms : Members) : Option Members :=
  update .way (fun _ => true) (fun _ ms => ms.extend k) way .header ms

/-- The effect of a pair below the header of the table at `here`. -/
def insertAt (here way : List String) (k : String) (v : Setting) (ms : Members) : Option Members :=
  update .way (fun _ => true) (fun _ ms => ms.insert way k v) here .header ms

end Members

end RevisionLog.Toml
