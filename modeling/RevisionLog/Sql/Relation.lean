import RevisionLog.Engine.Database
import RevisionLog.Sql.Function
import RevisionLog.Sql.Syntax

/-!
# Terms and relations

What an expression and a query mean once all names are resolved. A `Term` has a value in a context,
and a `Relation` has rows; a term may hold relations, whose rows depend on its own context.

* `Context` — the database, the parameters, and the rows in view, the innermost first.
* `Term.eval` — the value of a term.
* `Relation.rows` — the rows of a relation.
-/

namespace RevisionLog.Sql

/-- The cells of a row. -/
abbrev Cells := List Cell

/-! ## What can be read -/

/-- Tables that can be read. -/
inductive BaseTable
  /-- The table of the log. -/
  | log
  /-- The table of counters. -/
  | counters
  /-- The catalog of tables and indexes. -/
  | catalog
  /-- A table without rows. -/
  | empty
deriving DecidableEq, Repr

/-- The cells of a stored row. -/
def cellsOf (r : StoredRow) : Cells := .int r.id :: r.cells

/-- The rows of the table of counters. -/
def counterRows (db : Database) : List Cells :=
  match db.table with
  | some t =>
    match t.ids with
    | .counter last => if last == 0 then [] else [[.text tableName, .int last]]
    | .highest => []
  | none => []

/-- The rows of the catalog. -/
def catalogRows (db : Database) : List Cells :=
  let entry (type name table sql : String) : Cells :=
    [.text type, .text name, .text table, .int 0, .text sql]
  let log := if db.table.isSome then [entry "table" tableName tableName Definition.tableSql] else []
  let counters :=
    if db.hasCounters then
      [entry "table" "sqlite_sequence" "sqlite_sequence" "CREATE TABLE sqlite_sequence(name,seq)"]
    else []
  log ++ counters ++ db.indexes.map fun i =>
    entry "index" i.name tableName (Definition.index i false).sql

/-- The rows of a table. -/
def BaseTable.rows (t : BaseTable) (db : Database) : List Cells :=
  match t with
  | log => (db.table.map fun t => t.rows.map cellsOf).getD []
  | counters => counterRows db
  | catalog => catalogRows db
  | empty => []

/-- What a term is evaluated in. -/
structure Context where
  database : Database
  parameters : Cells
  /-- The id of the row that was last put in. -/
  lastId : Int := 0
  /-- The rows in view, the innermost first. -/
  rows : List Cells := []

/-- The context within a row. -/
def Context.within (k : Context) (row : Cells) : Context := { k with rows := row :: k.rows }

/-! ## Operators -/

/-- Operators that need the values of all their operands. -/
inductive Operator
  | compare (r : Comparator) (c : Comparison)
  /-- Two cells are equal, or both NULL. -/
  | same (c : Comparison) (negated : Bool)
  | arithmetic (op : Arithmetic)
  | concat
  | not
  | negate
  | complement
  | isNull (negated : Bool)
  /-- A cell is known, and true or false. -/
  | isTruth (b negated : Bool)
  | cast (a : Affinity)
  | plus
  /-- The first cell is among the others. -/
  | among (c : Comparison)
  | call (f : Scalar)
  | extreme (greatest : Bool) (c : Collation)
  | nullIf (c : Comparison)
deriving DecidableEq, Repr

/-- Whether one of some facts holds, where some of them may not be known. -/
def anyHolds (facts : List (Option Bool)) : Option Bool :=
  if facts.contains (some true) then some true else if facts.contains none then none else some false

/-- Whether all of some facts hold, where some of them may not be known. -/
def allHold (facts : List (Option Bool)) : Option Bool :=
  if facts.contains (some false) then some false else if facts.contains none then none else some true

/-- The value of an operator. -/
def Operator.apply (op : Operator) (args : Cells) : Except Fault Cell :=
  match op, args with
  | compare r c, [a, b] =>
    .ok (Cell.ofTruth (if Cell.bothKnown a b then some (r.holds (c.order a b)) else none))
  | same c negated, [a, b] => .ok (.flag (c.same a b != negated))
  | arithmetic op, [a, b] => .ok (op.apply a b)
  | concat, [a, b] =>
    match a.shown?, b.shown? with
    | some s, some t => .ok (.text (s ++ t))
    | _, _ => .ok .null
  | not, [a] => .ok (Cell.ofTruth (a.truth?.map (!·)))
  | negate, [a] => .ok (Arithmetic.subtract.apply (.int 0) a)
  | complement, [a] => .ok (if a == .null then .null else .int (-a.integer - 1))
  | isNull negated, [a] => .ok (.flag ((a == .null) != negated))
  | isTruth b negated, [a] => .ok (.flag ((a.truth? == some b) != negated))
  | cast a, [c] => .ok (c.cast a)
  | plus, [a] => .ok a
  | among c, a :: others =>
    .ok (Cell.ofTruth (if others.isEmpty then some false else anyHolds (others.map (c.equal? a))))
  | call f, args => f.apply args
  | extreme greatest c, args =>
    if args.contains .null then .ok .null
    else
      (if greatest then Summary.greatest else Summary.least).apply c (args.map fun a => [a])
  | nullIf c, [a, b] => .ok (if c.equal? a b == some true then .null else a)
  | _, _ => .ok .null

/-! ## Rows -/

/-- What rows are ordered by. -/
structure SortKey where
  index : Nat
  collation : Collation := .binary
  descending : Bool := false
  /-- NULL comes first. -/
  nullsFirst : Bool := true
deriving DecidableEq, Repr

/-- The column of a row. -/
def cellAt (row : Cells) (index : Nat) : Cell := row[index]?.getD .null

/-- How two rows stand by a key. -/
def SortKey.order (k : SortKey) (a b : Cells) : Ordering :=
  match cellAt a k.index, cellAt b k.index with
  | .null, .null => .eq
  | .null, _ => if k.nullsFirst then .lt else .gt
  | _, .null => if k.nullsFirst then .gt else .lt
  | x, y =>
    let o := ({ collation := k.collation } : Comparison).order x y
    if k.descending then o.swap else o

/-- How two rows stand by keys, the first of them foremost. -/
def orderBy (keys : List SortKey) (a b : Cells) : Ordering :=
  keys.foldr (fun k o => (k.order a b).then o) .eq

/-- Rows in the order of keys; rows that stand the same keep their order. -/
def sortBy (keys : List SortKey) (rows : List Cells) : List Cells :=
  rows.mergeSort fun a b => orderBy keys a b != .gt

/-- The columns in front as keys. -/
def keysOf (collations : List Collation) : List SortKey :=
  collations.zipIdx.map fun (collation, index) => { index, collation }

/-- Two rows are the same in the columns in front. -/
def sameRow (collations : List Collation) (a b : Cells) : Bool :=
  orderBy (keysOf collations) a b == .eq

/-- The rows without those that are the same as one in front of them. -/
def distinctRows (collations : List Collation) (rows : List Cells) : List Cells :=
  (rows.foldl (fun kept r => if kept.any (sameRow collations r) then kept else r :: kept) []).reverse

/-- Rows that are the same in the columns in front, put together in the order of those. -/
def groupRows (collations : List Collation) (rows : List Cells) : List (List Cells) :=
  (sortBy (keysOf collations) rows).foldr (fun r groups =>
    match groups with
    | (s :: g) :: rest => if sameRow collations r s then (r :: s :: g) :: rest else [r] :: (s :: g) :: rest
    | rest => [r] :: rest) []

/-- A row of nothing but NULL. -/
def nullRow (width : Nat) : Cells := List.replicate width .null

/-- Rows of two queries put together. -/
def combineRows (j : Junction) (collations : List Collation) (a b : List Cells) : List Cells :=
  let sorted (rows : List Cells) := sortBy (keysOf collations) (distinctRows collations rows)
  match j with
  | .unionAll => a ++ b
  | .union => sorted (a ++ b)
  | .except => sorted (a.filter fun r => !b.any (sameRow collations r))
  | .intersect => sorted (a.filter fun r => b.any (sameRow collations r))

/-- The bound of a limit or of what it leaves out. -/
def bound? (c : Cell) : Except Fault Int :=
  match c.preferInteger with
  | .int i => .ok i
  | _ => .error .mismatch

/-- Rows behind some and up to a number; a negative number is no bound. -/
def limitRows (count offset : Int) (rows : List Cells) : List Cells :=
  let rows := rows.drop offset.toNat
  if count < 0 then rows else rows.take count.toNat

/-! ## Terms and relations -/

mutual

/-- Expressions with all names resolved. -/
inductive Term
  | const (c : Cell)
  | parameter (n : Nat)
  /-- A column of the row that is `level` rows outside of the innermost one. -/
  | column (level index : Nat)
  | lastId
  /-- A term among the rows that are left without the innermost ones. -/
  | outside (level : Nat) (t : Term)
  | apply (op : Operator) (args : List Term)
  | both (a b : Term)
  | either (a b : Term)
  | choice (test yes no : Term)
  | firstKnown (args : List Term)
  /-- A column of the first row of a query. -/
  | scalar (r : Relation) (index : Nat)
  | exists (r : Relation)
  /-- A row of a query equals the items. -/
  | member (items : List Term) (comparisons : List Comparison) (r : Relation)

/-- Queries with all names resolved. -/
inductive Relation
  /-- One row without columns. -/
  | unit
  | table (t : BaseTable)
  | filter (r : Relation) (test : Term)
  | project (r : Relation) (outputs : List Term)
  /-- Pairs of rows that pass a test; rows without a partner may stay. -/
  | join (kind : JoinKind) (a b : Relation) (left right : Nat) (on : Term)
  /-- A row for each group of rows that are the same in their keys, with the values of aggregates
  behind it; without keys all rows are one group. -/
  | group (r : Relation) (width : Nat) (keys : List Term) (collations : List Collation)
      (aggregates : List Aggregate)
  | distinct (r : Relation) (collations : List Collation)
  | combine (j : Junction) (collations : List Collation) (a b : Relation)
  | sort (r : Relation) (keys : List SortKey)
  /-- The columns in front. -/
  | take (r : Relation) (width : Nat)
  | limit (r : Relation) (count offset : Term)

/-- A value of many rows: its function, the rows that count, and their order. -/
inductive Aggregate
  | mk (f : Summary) (distinct : Bool) (collation : Collation) (args : List Term) (test : Term)
      (order : List Term) (keys : List SortKey)

end

instance : Inhabited Term := ⟨.const .null⟩

mutual

/-- The value of a term. -/
def Term.eval (t : Term) (k : Context) : Except Fault Cell :=
  match t with
  | .const c => .ok c
  | .parameter n => .ok (cellAt k.parameters (n - 1))
  | .column level index => .ok (cellAt (k.rows[level]?.getD []) index)
  | .lastId => .ok (.int k.lastId)
  | .outside level t => t.eval { k with rows := k.rows.drop level }
  | .apply op args => do op.apply (← Term.evalAll args k)
  | .both a b => do
    let x := (← a.eval k).truth?
    if x == some false then return .flag false
    return Cell.ofTruth (allHold [x, (← b.eval k).truth?])
  | .either a b => do
    let x := (← a.eval k).truth?
    if x == some true then return .flag true
    return Cell.ofTruth (anyHolds [x, (← b.eval k).truth?])
  | .choice test yes no => do
    if (← test.eval k).truth? == some true then yes.eval k else no.eval k
  | .firstKnown args => Term.evalFirst args k
  | .scalar r index => do return cellAt ((← r.rows k).headD []) index
  | .exists r => do return .flag (!(← r.rows k).isEmpty)
  | .member items comparisons r => do
    let rows ← r.rows k
    if rows.isEmpty then return .flag false
    let xs ← Term.evalAll items k
    return Cell.ofTruth (anyHolds (rows.map fun row =>
      allHold ((comparisons.zip (xs.zip row)).map fun (c, x, y) => c.equal? x y)))
termination_by structural t

/-- The values of terms. -/
def Term.evalAll (ts : List Term) (k : Context) : Except Fault Cells :=
  match ts with
  | [] => .ok []
  | t :: ts => do return (← t.eval k) :: (← Term.evalAll ts k)
termination_by structural ts

/-- The first value that is not NULL. -/
def Term.evalFirst (ts : List Term) (k : Context) : Except Fault Cell :=
  match ts with
  | [] => .ok .null
  | t :: ts => do
    let c ← t.eval k
    if c == .null then Term.evalFirst ts k else return c
termination_by structural ts

/-- The rows of a relation. -/
def Relation.rows (r : Relation) (k : Context) : Except Fault (List Cells) :=
  match r with
  | .unit => .ok [[]]
  | .table t => .ok (t.rows k.database)
  | .filter r test => do
    (← r.rows k).filterM fun row => do return (← test.eval (k.within row)).truth? == some true
  | .project r outputs => do (← r.rows k).mapM fun row => Term.evalAll outputs (k.within row)
  | .join kind a b left right on => do
    let bs ← b.rows k
    let pairs ← (← a.rows k).mapM fun x => do
      let partners ← bs.zipIdx.filterM fun (y, _) => do
        return (← on.eval (k.within (x ++ y))).truth? == some true
      return (x, partners)
    let inner := pairs.flatMap fun (x, ys) =>
      if ys.isEmpty && kind.keepsLeft then [x ++ nullRow right] else ys.map fun (y, _) => x ++ y
    let used := pairs.flatMap fun (_, ys) => ys.map (·.2)
    let alone := bs.zipIdx.filter fun (_, i) => !used.contains i
    return inner ++ if kind.keepsRight then alone.map fun (y, _) => nullRow left ++ y else []
  | .group r width keys collations aggregates => do
    let rows ← (← r.rows k).mapM fun row => do
      return (← Term.evalAll keys (k.within row)) ++ row
    let groups := if keys.isEmpty then [rows] else groupRows collations rows
    groups.mapM fun g => do
      let rows := g.map (·.drop keys.length)
      let (best, values) ← Aggregate.evalAll aggregates rows k
      return (rows[best.getD 0]?.getD (nullRow width)) ++ values
  | .distinct r collations => do return distinctRows collations (← r.rows k)
  | .combine j collations a b => do return combineRows j collations (← a.rows k) (← b.rows k)
  | .sort r keys => do return sortBy keys (← r.rows k)
  | .take r width => do return (← r.rows k).map (·.take width)
  | .limit r count offset => do
    let outside := { k with rows := [] }
    let n ← bound? (← count.eval outside)
    let m ← bound? (← offset.eval outside)
    return limitRows n m (← r.rows k)
termination_by structural r

/-- The value of an aggregate on rows, and the row whose columns stand beside it, if it has one. -/
def Aggregate.eval (a : Aggregate) (rows : List Cells) (k : Context) :
    Except Fault (Option Nat × Cell) :=
  match a with
  | .mk f distinct collation args test order keys => do
    let counted ← rows.zipIdx.filterM fun (row, _) => do
      return (← test.eval (k.within row)).truth? == some true
    let valued ← counted.mapM fun (row, i) => do
      let values ← Term.evalAll args (k.within row)
      return (values ++ (← Term.evalAll order (k.within row)), i)
    let best : Option Nat :=
      if f == .least || f == .greatest then
        (valued[f.bestIndex collation (valued.map (·.1))]?).map (·.2)
      else none
    let cells := valued.map (·.1)
    let cells := if keys.isEmpty then cells else sortBy keys cells
    let cells := if distinct then distinctRows [collation] cells else cells
    let value ← f.apply collation (cells.map (·.take args.length))
    return (best, value)
termination_by structural a

/-- The values of aggregates on rows, and the row whose columns stand beside them. -/
def Aggregate.evalAll (as : List Aggregate) (rows : List Cells) (k : Context) :
    Except Fault (Option Nat × Cells) :=
  match as with
  | [] => .ok (none, [])
  | a :: as => do
    let (best, c) ← a.eval rows k
    let (better, cs) ← Aggregate.evalAll as rows k
    return (better.or best, c :: cs)
termination_by structural as

end

end RevisionLog.Sql
