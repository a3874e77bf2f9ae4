import RevisionLog.Sql.Survey

/-!
# Resolution of names

* `Resolve` — what looks names up, or refuses them. A call that is refused lets what stands beside it
  be looked at, and what is refused there counts instead; and what is refused only once all names
  are known is kept for then.
* `Resolve.expr` — an expression as a term.
* `Resolve.query` — a query as a relation.

A query looks at its limits first, then at what it reads, its columns, its tests and its order. The
numbers in front bound how deep it goes.
-/

namespace RevisionLog.Sql

/-- What is known while names are looked up. -/
structure Resolving where
  database : Database
  /-- What is refused, unless something is that stands beside it. -/
  refused : Option Refusal := none
  /-- What is refused in the end. -/
  late : Option Refusal := none
  /-- For each scope, the innermost first, how many columns a row has, and the values of many rows
  that stand behind them. -/
  groups : List (Nat × List Aggregate) := []
  /-- Scopes whose columns are used, counted from the outermost. -/
  touched : List Nat := []

/-- Looks names up. -/
abbrev Resolve := StateT Resolving (Except Refusal)

/-- A column of an answer. -/
structure Answered where
  typed : Typed
  /-- The name that is given to it. -/
  asName : Option String := none
  /-- Its name in an answer. -/
  title : String
  /-- Its name where a query is read as a table. -/
  inner : String

/-- A query with its columns. -/
structure Answer where
  relation : Relation
  columns : List Answered

/-- What is in front of a query or an expression. -/
structure Surroundings where
  /-- The scopes in view, the innermost first. -/
  scopes : List Scope := []
  /-- Queries that go by names. -/
  known : Known := []

namespace Surroundings

/-- The surroundings within a scope. -/
def within (s : Surroundings) (scope : Scope) : Surroundings :=
  { s with scopes := scope :: s.scopes }

/-- The surroundings without any scope. -/
def bare (s : Surroundings) : Surroundings := { s with scopes := [] }

/-- The surroundings where the innermost scope has another place for functions of many rows. -/
def placed (s : Surroundings) (place : SummaryPlace) : Surroundings :=
  match s.scopes with
  | [] => s
  | scope :: scopes => { s with scopes := { scope with summaries := place } :: scopes }

end Surroundings

/-! ## Small things -/

/-- A number in words of its place. -/
def ordinal (n : Nat) : String :=
  let ending :=
    if n / 10 % 10 == 1 then "th"
    else match n % 10 with
      | 1 => "st"
      | 2 => "nd"
      | 3 => "rd"
      | _ => "th"
  toString n ++ ending

/-- Digits as a cell: an integer, or a real where they are too many. -/
def integerCell (negative : Bool) (n : Nat) : Cell :=
  let i := Digits.signed negative n
  if minInt ≤ i && i ≤ maxInt then .int i else .real (Cell.realOf negative n 0)

/-- An expression without the collations around it, and the outermost of these. -/
def Expr.uncollated : Expr → Expr × Option String
  | .collate e name => (e.uncollated.1, some name)
  | e => (e, none)

/-- The truth value that a name without marks stands for. -/
def truthOf? (path : List Ident) : Option Bool :=
  match path with
  | [i] =>
    if i.mark.isSome then none
    else if sameName i.text "true" then some true
    else if sameName i.text "false" then some false
    else none
  | _ => none

/-- The expression does not depend on a row, as it is written. -/
def Expr.isConstant : Expr → Bool
  | .const _ _ | .integer _ _ | .hex _ _ _ | .parameter _ _ => true
  | .column path => (truthOf? path).isSome
  | .unary _ e | .collate e _ | .cast e _ => e.isConstant
  | .binary _ a b => a.isConstant && b.isConstant
  | .between e a b => e.isConstant && a.isConstant && b.isConstant
  | _ => false

/-- The number that an expression is as it is written, and its place. -/
def Expr.position? : Expr → Option (Int × Nat)
  | .integer n offset => some (n, offset)
  | .unary .negate (.integer n offset) => some (-(n : Int), offset)
  | .unary .plus (.integer n offset) => some (n, offset)
  | _ => none

/-- The place of the first part of an expression that has one, or 0. -/
def Expr.place : Expr → Nat
  | .const _ offset | .integer _ offset | .hex _ _ offset | .parameter _ offset => offset
  | .column path => (path.head?.map (·.offset)).getD 0
  | .call name _ => name.offset
  | .unary _ e | .binary _ e _ | .between e _ _ | .within e _ | .withinQuery e _ | .cast e _
  | .collate e _ => e.place
  | .choice (some e) _ _ => e.place
  | _ => 0

/-- The expression without the places of its parts, up to those that stand in a list or a query. The
number bounds how deep it goes. -/
def Expr.unplaced : Nat → Expr → Expr
  | 0, e => e
  | n + 1, e =>
    match e with
    | .const c _ => .const c 0
    | .integer i _ => .integer i 0
    | .hex i text _ => .hex i text 0
    | .parameter i _ => .parameter i 0
    | .column path => .column (path.map ({ · with offset := 0 }))
    | .unary op a => .unary op (a.unplaced n)
    | .binary op a b => .binary op (a.unplaced n) (b.unplaced n)
    | .between a b c => .between (a.unplaced n) b c
    | .within a items => .within (a.unplaced n) items
    | .withinQuery a q => .withinQuery (a.unplaced n) q
    | .cast a type => .cast (a.unplaced n) type
    | .collate a name => .collate (a.unplaced n) name
    | .choice operand cases otherwise => .choice (operand.map (·.unplaced n)) cases otherwise
    | .call name (.list distinct args order filter) =>
      .call { name with offset := 0 } (.list distinct (args.map (·.unplaced n)) order filter)
    | .call name args => .call { name with offset := 0 } args
    | e => e

/-- The expression is a number from 0 to 1, written with a point. -/
def Expr.isProbability : Expr → Bool
  | .const (.real x) _ => x.compareInt 1 != .gt
  | _ => false

/-- An operator that compares. -/
def Binary.comparator? : Binary → Option Comparator
  | .eq => some .eq
  | .ne => some .ne
  | .lt => some .lt
  | .le => some .le
  | .gt => some .gt
  | .ge => some .ge
  | _ => none

/-- An operator between two numbers. -/
def Binary.arithmetic? : Binary → Option Arithmetic
  | .bitAnd => some .bitAnd
  | .bitOr => some .bitOr
  | .shiftLeft => some .shiftLeft
  | .shiftRight => some .shiftRight
  | .add => some .add
  | .subtract => some .subtract
  | .multiply => some .multiply
  | .divide => some .divide
  | .modulo => some .modulo
  | _ => none

/-- The operator of a sign in front of an operand. -/
def Unary.operator : Unary → Operator
  | .not => .not
  | .negate => .negate
  | .plus => .plus
  | .complement => .complement
  | .isNull => .isNull false
  | .notNull => .isNull true

namespace Resolve

/-- Refuses in the end. -/
def postpone (refusal : Refusal) : Resolve Unit :=
  modify fun r => { r with late := r.late.or (some refusal) }

/-- Refuses what has a place, if that is not 0. -/
def refuseAt {α : Type} (said : String) (offset : Nat) : Resolve α :=
  throw { said, offset := if offset == 0 then none else some offset }

/-- Refuses, unless something beside it is refused. -/
def mark (said : String) (offset : Nat) : Resolve Unit := fun r =>
  let refusal : Refusal := { said, offset := if offset == 0 then none else some offset }
  .ok ((), { r with refused := some refusal })

/-- Goes no further where something is refused. -/
def settle : Resolve Unit := do
  if let some refusal := (← get).refused then throw refusal

/-- Goes on where something is refused. -/
def within {α : Type} (act : Resolve α) (otherwise : α) : Resolve α := fun r =>
  match act r with
  | .ok a => .ok a
  | .error refusal => .ok (otherwise, { r with refused := some refusal })

/-- Goes no further where something is refused in the end. -/
def finish : Resolve Unit := do
  if let some refusal := (← get).late then throw refusal

/-- The collation of a name. -/
def collation (name : Option String) : Resolve Collation :=
  match name with
  | none => return .binary
  | some name =>
    match Collation.ofName? name with
    | some c => return c
    | none => do
      postpone { said := "no such collation sequence: " ++ name, code := 257 }
      return .binary

/-- How two terms are compared. -/
def comparison (a b : Typed) : Resolve Comparison := do
  return {
    affinity := comparedAffinity a.affinity b.affinity
    collation := ← collation (comparedCollation a b) }

/-- The comparison of two terms. -/
def compared (r : Comparator) (a b : Typed) : Resolve Typed := do
  return .made (.apply (.compare r (← comparison a b)) [a.term, b.term]) [a, b]

/-- The comparison of two rows, the first items of them foremost. -/
def comparedRows (r : Comparator) : List (Typed × Typed) → Resolve Term
  | [] => return .const (.flag (r == .eq || r == .le || r == .ge))
  | [(a, b)] => return (← compared r a b).term
  | (a, b) :: rest => do
    let others ← comparedRows r rest
    match r with
    | .eq => return .both (← compared .eq a b).term others
    | .ne => return .either (← compared .ne a b).term others
    | _ =>
      let strict : Comparator := if r == .lt || r == .le then .lt else .gt
      return .either (← compared strict a b).term (.both (← compared .eq a b).term others)

/-- Two rows are the same, item by item. -/
def sameRows (negated : Bool) : List (Typed × Typed) → Resolve Term
  | [] => return .const (.flag (!negated))
  | (a, b) :: rest => do
    let one : Term := .apply (.same (← comparison a b) negated) [a.term, b.term]
    if rest.isEmpty then return one
    let others ← sameRows negated rest
    return if negated then .either one others else .both one others

/-- What a path of names stands for, looked up from the innermost scope. -/
def lookUp (scopes : List Scope) (path : List Ident) : Resolve (Option Typed) :=
  go 0 scopes
where
  go (level : Nat) : List Scope → Resolve (Option Typed)
    | [] => return none
    | s :: rest =>
      match s.find level (path.map (·.text)) with
      | .one t => do
        modify fun r => { r with touched := (scopes.length - 1 - level) :: r.touched }
        return some t
      | .many => refuse "ambiguous column name" path
      | .nothing => go (level + 1) rest
  refuse {α : Type} (said : String) (path : List Ident) : Resolve α :=
    refuseAt (said ++ ": " ++ ".".intercalate (path.map (·.text)))
      ((path.head?.map (·.offset)).getD 0)

/-- A column, or what a name stands for that is none. -/
def column (scopes : List Scope) (path : List Ident) : Resolve Typed := do
  match ← lookUp scopes path with
  | some t => return t
  | none =>
    match path, truthOf? path with
    | _, some b => return { term := .const (.flag b) }
    | [i], none =>
      if i.isLoose then return { term := .const (.text i.text) }
      else lookUp.refuse "no such column" path
    | _, none => lookUp.refuse "no such column" path

/-- Puts a value of many rows behind the columns of a scope. -/
def collect (level : Nat) (a : Aggregate) : Resolve Term := do
  let r ← get
  match r.groups[level]? with
  | some (width, as) =>
    set { r with groups := r.groups.set level (width, as ++ [a]) }
    return .column level (width + as.length)
  | none => return .const .null

/-- Looks up what belongs to an outer scope. -/
def outward {α : Type} (level : Nat) (act : Resolve α) : Resolve α := do
  let inner := (← get).groups.take level
  modify fun r => { r with groups := r.groups.drop level }
  let a ← act
  modify fun r => { r with groups := inner ++ r.groups }
  return a

/-- Looks up within a scope whose rows have a number of columns, and gives back the values of many
rows that were found. -/
def inward {α : Type} (width : Nat) (act : Resolve α) : Resolve (α × List Aggregate) := do
  modify fun r => { r with groups := (width, []) :: r.groups }
  let a ← act
  let found := ((← get).groups.headD (0, [])).2
  modify fun r => { r with groups := r.groups.drop 1 }
  return (a, found)

/-- The scopes, counted from the outermost, whose columns are used. -/
def touching {α : Type} (act : Resolve α) : Resolve (α × List Nat) := do
  let before := (← get).touched
  modify fun r => { r with touched := [] }
  let a ← act
  let used := (← get).touched
  modify fun r => { r with touched := used ++ before }
  return (a, used)

/-- Columns that are one in two groups of tables: that they are equal. -/
def sharedColumns (names : List String) (left right : List Range) : Resolve (List Term) :=
  names.mapM fun name => do
    let first? (rs : List Range) : Option Typed :=
      match Scope.findFrom 0 [] name .nothing rs with
      | .one t => some t
      | _ => rs.findSome? fun (r : Range) => r.column? 0 name
    match first? left, first? right with
    | some a, some b => return (← compared .eq a b).term
    | _, _ =>
      let said := "cannot join using column " ++ name ++ " - column not present in both tables"
      throw { said : Refusal }

/-- The columns of all tables, or of one. -/
def allColumns (ranges : List Range) (only : Option String) : Resolve (List Answered) := do
  let chosen := match only with
    | none => ranges
    | some name => ranges.filter (·.goesBy [name])
  if chosen.isEmpty then
    throw (match only with
      | some name => Refusal.noTable name
      | none => { said := "no tables specified" })
  return chosen.flatMap fun r => (r.columns.zipIdx.filter fun (c, _) =>
      only.isSome || !r.shared.any (sameName c.name)).map fun (c, i) =>
    let plain := r.columnAt 0 i c
    let typed :=
      match Scope.findFrom 0 [] c.name .nothing ranges with
      | .one t => if only.isNone then t else plain
      | _ => plain
    { typed, title := c.name, inner := c.name }

/-- The place of an order's term among the columns of an answer, by its number. -/
def numbered (kind : String) (index count : Nat) (compound : Bool) (e : Expr) :
    Resolve (Option Nat) :=
  match e.position? with
  | none => return none
  | some (i, offset) =>
    let said := ordinal (index + 1) ++ " " ++ kind ++
      " BY term out of range - should be between 1 and " ++ toString count
    if i < 1 || 65535 < i then throw { said, offset }
    else if (count : Int) < i then throw { said, offset := if compound then some offset else none }
    else return some (i.toNat - 1)

/-- The key for a term that stands at a place of a row. -/
def sortKey (index : Nat) (t : Typed) (descending : Bool) (nullsFirst : Option Bool) :
    Resolve SortKey := do
  return {
    index, descending
    collation := ← collation t.collation
    nullsFirst := nullsFirst.getD (!descending) }

/-- The collations of columns. -/
def collations (ts : List Typed) : Resolve (List Collation) :=
  ts.mapM fun t => collation t.collation

/-- An integer in hexadecimal. -/
def hexadecimal (negative : Bool) (i : Nat) (text : String) (offset : Nat) : Resolve Typed := do
  let value := Arithmetic.ofBits i
  if Arithmetic.word ≤ i || (negative && value == minInt) then
    postpone {
      said := "hex literal too big: " ++ (if negative then "-" else "") ++ text
      offset }
    return default
  return { term := .const (.int (if negative then -value else value)) }

/-- The truth value behind `IS`. -/
def truthBeside (s : Surroundings) (op : Binary) (b : Expr) : Resolve (Option Bool) :=
  match op.comparator?, b.uncollated.1 with
  | none, .column [i] => do
    if (← lookUp s.scopes [i]).isSome then return none
    match truthOf? [i] with
    | some t => return some t
    | none =>
      discard (column s.scopes [i])
      return none
  | _, _ => return none

/-- How a term is compared with others for its own sake. -/
def own (t : Typed) : Resolve Comparison := do
  return { affinity := t.affinity, collation := ← collation t.collation }

/-- What is wrong with a call of a function, if anything is. -/
def misuse? (s : Surroundings) (name : String) (found : Option (Option Callable))
    (hasOrder hasFilter : Bool) : Option String :=
  let place := (s.scopes.head?.map (·.summaries)).getD .forbidden
  match found with
  | none => some ("no such function: " ++ name)
  | some none => some ("wrong number of arguments to function " ++ name ++ "()")
  | some (some .window) => some ("misuse of window function " ++ name ++ "()")
  | some (some (.summary _)) =>
    if place == .forbidden then some ("misuse of aggregate function " ++ name ++ "()") else none
  | some (some _) =>
    if hasFilter then some ("FILTER may not be used with non-aggregate " ++ name ++ "()")
    else if hasOrder then some ("ORDER BY may not be used with non-aggregate " ++ name ++ "()")
    else none

/-- The value of a function on terms. -/
def applied (callable : Callable) (ts : List Typed) : Resolve Typed := do
  let terms := ts.map (·.term)
  let shared := collation (ts.findSome? (·.collation))
  let term : Term ← match callable, terms with
    | .function f, terms => pure (.apply (.call f) terms)
    | .firstKnown, terms => pure (.firstKnown terms)
    | .choice, [a, b, c] => pure (.choice a b c)
    | .nullIf, terms => pure (.apply (.nullIf { collation := ← shared }) terms)
    | .first, t :: _ | .likelihood, t :: _ => pure t
    | .extreme greatest, terms => pure (.apply (.extreme greatest (← shared)) terms)
    | .lastId, _ => pure .lastId
    | _, _ => pure (.const .null)
  return .made term ts

/-- The column of some queries that a term of their order names. -/
def compoundTerm? (all : List (List Answered)) (e : Expr) : Option Nat :=
  match e with
  | .column path =>
    let name := (path.getLast?.map (·.text)).getD ""
    all.findSome? fun columns =>
      let byAlias (c : Answered) : Bool :=
        path.length == 1 && (c.asName.map (sameName name)).getD false
      (columns.findIdx? byAlias).or
        (columns.findIdx? fun c => (c.typed.column.map (sameName name)).getD false)
  | _ => none

/-- Queries put together, in an order. -/
def compound (answers : List (Junction × Answer)) (order : List SortTerm) : Resolve Answer := do
  match answers with
  | [] => return { relation := .unit, columns := [] }
  | (_, first) :: rest =>
    let columns := first.columns.zipIdx.map fun (c, i) =>
      let others := rest.map fun (_, a) => (a.columns[i]?.bind (·.typed.collation))
      { c with typed := { c.typed with collation := c.typed.collation.or (others.findSome? id) } }
    let shared ← collations (columns.map (·.typed))
    let relation :=
      rest.foldl (fun r (j, a) => Relation.combine j shared r a.relation) first.relation
    let all := answers.map fun (_, a) => a.columns
    let keys ← order.zipIdx.mapM fun (.mk e descending nullsFirst, i) => do
      let (e, asked) := e.uncollated
      let index ← match (← numbered "ORDER" i columns.length true e).or (compoundTerm? all e) with
        | some index => pure index
        | none =>
          throw {
            said := ordinal (i + 1) ++
              " ORDER BY term does not match any column in the result set" }
      let t := (columns[index]?.map (·.typed)).getD default
      sortKey index { t with collation := asked.or t.collation } descending nullsFirst
    return { relation := if keys.isEmpty then relation else .sort relation keys, columns }

/-- A source of a query, as it is joined to those in front of it. -/
structure Part where
  kind : JoinKind := {}
  relation : Relation
  /-- The number of columns in front of its own. -/
  front : Nat
  /-- The number of its own columns. -/
  width : Nat
  /-- Columns of it are equal to those in front that they are one with. -/
  equal : List Term := []
  on : Option Expr := none

/-- Some row has to stay without a partner. -/
def Part.isOuter (p : Part) : Bool := p.kind.keepsLeft || p.kind.keepsRight

/-- Whether all terms hold. -/
def conjunction : List Term → Term
  | [] => .const (.flag true)
  | [t] => t
  | t :: ts => .both t (conjunction ts)

/-- The rows of joined sources, each with what its own join tests further. -/
def rowsOf : List (Part × Option Term) → Relation
  | [] => .unit
  | (first, _) :: rest =>
    rest.foldl (fun r (p, on) =>
      .join p.kind r p.relation p.front p.width (conjunction (p.equal ++ on.toList))) first.relation

/-- What a query tests of its rows: the tests of joins that keep no row alone are among it. -/
def filtering (n : Nat) (parts : List Part) (filter : Option Expr) : List Expr :=
  let ons := (parts.filterMap (·.on)).map (Expr.unplaced n)
  if parts.any (·.isOuter) then filter.toList ++ ons
  else
    match filter.toList ++ ons with
    | [] => []
    | e :: es => [es.foldl (Expr.binary .and) e]

/-- The tests of the joins, and that of the query, from those that were looked up. -/
def apportioned (parts : List Part) (filter : Option Expr) (tests : List Term) :
    List (Option Term) × Option Term :=
  if parts.any (·.isOuter) then
    let own := if filter.isSome then tests.head? else none
    let ons := if filter.isSome then tests.drop 1 else tests
    let taken := parts.foldl (fun (found, rest) p =>
      if p.on.isSome then (rest.head? :: found, rest.drop 1) else (none :: found, rest)) ([], ons)
    (taken.1.reverse, own)
  else (parts.map fun _ => none, tests.head?)

/-- A query that is read as a table. -/
def derived (answer : Answer) (titles : List String) (name : Option String) :
    Relation × List Range × Nat :=
  let names := readNames (if titles.isEmpty then answer.columns.map (·.inner) else titles)
  let columns := (names.zip answer.columns).map fun (title, c) =>
    { name := title, affinity := c.typed.affinity, collation := c.typed.collation : Column }
  (answer.relation, [{ name, columns }], answer.columns.length)

/-- Looks up an order. Of one row it counts for nothing, and what is refused in the end is not. -/
def ordering {α : Type} (isOneRow : Bool) (act : Resolve α) : Resolve α := do
  let before := (← get).late
  let a ← act
  if isOneRow then modify ({ · with late := before })
  return a

/-- The number of items of an expression. -/
def width (n : Nat) (s : Surroundings) : Expr → Resolve Nat
  | .row items => return items.length
  | .subquery q => do
    match Survey.query n (← get).database s.known q with
    | .ok names => return names.length
    | .error _ => return 1
  | _ => return 1

mutual

/-- An expression as a term. -/
def expr (n : Nat) (s : Surroundings) (e : Expr) : Resolve Typed :=
  match n with
  | 0 => throw .tooDeep
  | n + 1 => do
    match e with
    | .column path => column s.scopes path
    | .call name args => call n s name args
    | .unary op a =>
      if op == .isNull || op == .notNull then
        let t ← within (expr n s a) default
        return .made (.apply op.operator [t.term]) [t]
      settle
      sign n s op a
    | .binary op a b => binary n s op a b
    | .between a lower upper =>
      let size ← width n s a
      if (← width n s lower) != size || (← width n s upper) != size then
        refuseAt "row value misused" a.place
      settle
      let xs ← operands n s a
      let ls ← operands n s lower
      let us ← operands n s upper
      let term := .both (← comparedRows .ge (xs.zip ls)) (← comparedRows .le (xs.zip us))
      return .made term (xs ++ ls ++ us)
    | .withinQuery a q =>
      let answer ← nested n s q
      let ts ← operands n s a
      if answer.columns.length != ts.length then
        postpone (.columnCount answer.columns.length ts.length)
      let pairs := ts.zip (answer.columns.map (·.typed))
      return .made
        (.member (ts.map (·.term)) (← pairs.mapM fun (a, b) => comparison a b) answer.relation) ts
    | .exists q => return { term := .exists (← nested n s q).relation }
    | .subquery _ =>
      let ts ← operands n s e
      match ts with
      | [t] => return t
      | ts =>
        postpone (.columnCount ts.length 1)
        return default
    | e =>
      settle
      plain n s e
termination_by structural n

/-- An expression behind a sign. -/
def sign (n : Nat) (s : Surroundings) (op : Unary) (a : Expr) : Resolve Typed :=
  match n with
  | 0 => throw .tooDeep
  | n + 1 => do
    match op, a with
    | .negate, .integer i _ => return { term := .const (integerCell true i) }
    | .negate, .hex i text offset => hexadecimal true i text offset
    | op, a =>
      let t ← expr n s a
      let made := Typed.made (.apply op.operator [t.term]) [t]
      return if op == .plus then { made with collation := t.collation } else made
termination_by structural n

/-- An expression of which no part is looked at ahead of others. -/
def plain (n : Nat) (s : Surroundings) (e : Expr) : Resolve Typed :=
  match n with
  | 0 => throw .tooDeep
  | n + 1 => do
    match e with
    | .const c _ => return { term := .const c }
    | .integer i _ => return { term := .const (integerCell false i) }
    | .hex i text offset => hexadecimal false i text offset
    | .parameter i _ => return { term := .parameter i }
    | .within a items => among n s a items
    | .row items =>
      let ts ← exprs n s items
      postpone .rowMisused
      return .made (.const .null) ts
    | .choice operand cases otherwise =>
      let value ← match operand with
        | some a => do pure (some (← operands n s a))
        | none => pure none
      choice n s value cases otherwise
    | .cast a type =>
      let t ← expr n s a
      let affinity := Affinity.ofType type
      return {
        Typed.made (.apply (.cast affinity) [t.term]) [t] with
        affinity := some affinity, collation := t.collation }
    | .collate a name =>
      let t ← expr n s a
      return { t with collation := some name, explicit := true, column := none }
    | _ =>
      postpone { said := "RAISE() may only be used within a trigger-program" }
      return default
termination_by structural n

/-- Expressions as terms, as parts of another. -/
def exprs (n : Nat) (s : Surroundings) (es : List Expr) : Resolve (List Typed) :=
  match n, es with
  | _, [] => return []
  | 0, _ => throw .tooDeep
  | n + 1, e :: es => do return (← expr n s e) :: (← exprs n s es)
termination_by structural n

/-- An expression as a term, which is no part of another. -/
def whole (n : Nat) (s : Surroundings) (e : Expr) : Resolve Typed :=
  match n with
  | 0 => throw .tooDeep
  | n + 1 => do
    let t ← expr n s e
    settle
    return t
termination_by structural n

/-- The items of a row, or a term alone. -/
def operands (n : Nat) (s : Surroundings) (e : Expr) : Resolve (List Typed) :=
  match n with
  | 0 => throw .tooDeep
  | n + 1 => do
    match e with
    | .row items =>
      settle
      exprs n s items
    | .subquery q =>
      let answer ← nested n s q
      return answer.columns.zipIdx.map fun (c, i) =>
        { term := .scalar answer.relation i, affinity := c.typed.affinity }
    | e => return [← expr n s e]
termination_by structural n

/-- An operator between two operands. -/
def binary (n : Nat) (s : Surroundings) (op : Binary) (a b : Expr) : Resolve Typed :=
  match n with
  | 0 => throw .tooDeep
  | n + 1 => do
    let single (make : Term → Term → Term) : Resolve Typed := do
      settle
      let x ← expr n s a
      let y ← expr n s b
      return .made (make x.term y.term) [x, y]
    match op, op.arithmetic? with
    | .and, _ => single .both
    | .or, _ => single .either
    | .concat, _ => single fun x y => .apply .concat [x, y]
    | _, some arithmetic => single fun x y => .apply (.arithmetic arithmetic) [x, y]
    | _, none =>
      match ← truthBeside s op b with
      | some t =>
        let x ← expr n s a
        return .made (.apply (.isTruth t (op == .isNot)) [x.term]) [x]
      | none =>
        if (← width n s a) != (← width n s b) then refuseAt "row value misused" a.place
        settle
        let xs ← operands n s a
        let ys ← operands n s b
        let pairs := xs.zip ys
        let term ← match op.comparator? with
          | some r => comparedRows r pairs
          | none => sameRows (op == .isNot) pairs
        return .made term (xs ++ ys)
termination_by structural n

/-- An expression among others. -/
def among (n : Nat) (s : Surroundings) (a : Expr) (items : List Expr) : Resolve Typed :=
  match n with
  | 0 => throw .tooDeep
  | n + 1 => do
    let xs ← operands n s a
    match xs, items with
    | [x], [item] =>
      let y ← expr n s item
      if item.isConstant then compared .eq x { y with affinity := none, column := none }
      else return .made (.apply (.among (← own x)) [x.term, y.term]) [x, y]
    | [x], items =>
      let ys ← exprs n s items
      return .made (.apply (.among (← own x)) (x.term :: ys.map (·.term))) (x :: ys)
    | xs, items => rowAmong n s xs items
termination_by structural n

/-- A row among others. -/
def rowAmong (n : Nat) (s : Surroundings) (xs : List Typed) (items : List Expr) : Resolve Typed :=
  match n, items with
  | 0, _ => throw .tooDeep
  | _, [] => return { term := .const (.flag false) }
  | n + 1, item :: rest => do
    let ys ← operands n s item
    if ys.length != xs.length then
      throw {
        said := "IN(...) element has " ++ toString ys.length ++
          (if ys.length == 1 then " term" else " terms") ++ " - expected " ++ toString xs.length }
    let one ← comparedRows .eq (xs.zip ys)
    let others ← rowAmong n s xs rest
    return .made (.either one others.term) (xs ++ ys)
termination_by structural n

/-- The value beside the first case that holds, or equals a value. -/
def choice (n : Nat) (s : Surroundings) (value : Option (List Typed)) (cases : List (Expr × Expr))
    (otherwise : Option Expr) : Resolve Typed :=
  match n, cases with
  | 0, _ => throw .tooDeep
  | n + 1, [] =>
    match otherwise with
    | some e => expr n s e
    | none => return default
  | n + 1, (test, result) :: rest => do
    let (t, parts) ← match value with
      | none => do
        let t ← expr n s test
        pure (t.term, [t])
      | some xs => do
        let ys ← operands n s test
        if xs.length != ys.length then postpone .rowMisused
        pure (← comparedRows .eq (xs.zip ys), xs ++ ys)
    let r ← expr n s result
    let others ← choice n s value rest otherwise
    return .made (.choice t r.term others.term) (parts ++ [r, others])
termination_by structural n

/-- A call of a function. -/
def call (n : Nat) (s : Surroundings) (name : Ident) (args : Arguments) : Resolve Typed :=
  match n with
  | 0 => throw .tooDeep
  | n + 1 => do
    let (distinct, es, order, filter) := match args with
      | .star filter => (false, [], [], filter)
      | .list distinct es order filter => (distinct, es, order, filter)
    let found := Callable.find name.text es.length
    match found, es with
    | some (some .likelihood), [_, p] =>
      if !p.isProbability then
        mark ("second argument to " ++ name.text ++
          "() must be a constant between 0.0 and 1.0") name.offset
    | _, _ => pure ()
    let misuse := misuse? s name.text found (!order.isEmpty) filter.isSome
    if let some said := misuse then mark said name.offset
    match misuse, found with
    | none, some (some (.summary f)) => summary n s name f distinct es order filter
    | misuse, found =>
      let ts ← within (exprs n s es) []
      match misuse, found with
      | none, some (some c) => applied c ts
      | _, _ => return .made (.const .null) ts
termination_by structural n

/-- A call of a function of many rows. -/
def summary (n : Nat) (s : Surroundings) (name : Ident) (f : Summary) (distinct : Bool)
    (es : List Expr) (order : List SortTerm) (filter : Option Expr) : Resolve Typed :=
  match n with
  | 0 => throw .tooDeep
  | n + 1 => do
    let inner := s.placed .forbidden
    let (_, used) ← touching (aggregate n inner f distinct es order filter)
    if (← get).refused.isSome then return default
    if distinct && es.length != 1 then
      postpone { said := "DISTINCT aggregates must have exactly one argument" }
    let depth := s.scopes.length - 1
    let level := if used.isEmpty then 0 else depth - used.foldl max 0
    let place := (s.scopes[level]?.map (·.summaries)).getD .forbidden
    let summary := some (name.text, name.offset)
    if place == .grouped then
      let outer := { inner with scopes := inner.scopes.drop level }
      let (a, parts) ← outward level (aggregate n outer f distinct es order filter)
      return { Typed.made (← collect level a) parts with summary }
    postpone { said := "misuse of aggregate: " ++ name.text ++ "()", offset := name.offset }
    return { term := .const .null, summary }
termination_by structural n

/-- A value of many rows, with the terms that it is made of. -/
def aggregate (n : Nat) (s : Surroundings) (f : Summary) (distinct : Bool) (es : List Expr)
    (order : List SortTerm) (filter : Option Expr) : Resolve (Aggregate × List Typed) :=
  match n with
  | 0 => throw .tooDeep
  | n + 1 => do
    let ts ← within (exprs n s es) []
    let os ← within (exprs n s (order.map fun (.mk e _ _) => e)) []
    let test ← within (exprs n s filter.toList) []
    let test := conjunction (test.map (·.term))
    let terms := if ts.isEmpty then [.const (.flag true)] else ts.map (·.term)
    let keys ← (order.zip os).zipIdx.mapM fun ((.mk _ descending nullsFirst, t), i) =>
      sortKey (terms.length + i) t descending nullsFirst
    let shared ← collation (ts.findSome? (·.collation))
    return (.mk f distinct shared terms test (os.map (·.term)) keys, ts)
termination_by structural n

/-- A query within an expression. -/
def nested (n : Nat) (s : Surroundings) (q : Query) : Resolve Answer :=
  match n with
  | 0 => throw .tooDeep
  | n + 1 => do
    discard (Survey.query n (← get).database s.known q)
    let answer ← query n s q
    settle
    return answer
termination_by structural n

/-- A query as a relation. -/
def query (n : Nat) (s : Surroundings) (q : Query) : Resolve Answer :=
  match n with
  | 0 => throw .tooDeep
  | n + 1 => do
    let .mk named first others order limit offset := q
    let s := { s with known := s.known.adding named }
    let cut ← limits n s limit offset
    let answer ← if others.isEmpty then single n s first order
      else do
        let answers ← cores n s (.unionAll, first) others
        compound answers order
    return { answer with relation := cut answer.relation }
termination_by structural n

/-- What the limits of a query leave of it. -/
def limits (n : Nat) (s : Surroundings) (limit offset : Option Expr) :
    Resolve (Relation → Relation) :=
  match n with
  | 0 => throw .tooDeep
  | n + 1 => do
    let ts ← exprs n s.bare (limit.toList ++ offset.toList)
    if limit.isSome then settle
    match ts with
    | [] => return id
    | count :: skipped =>
      let none : Term := .const (.int 0)
      return fun r => .limit r count.term ((skipped.head?.map (·.term)).getD none)
termination_by structural n

/-- Queries that are put together, each with how it is; the last of them is looked at first. -/
def cores (n : Nat) (s : Surroundings) (first : Junction × Core)
    (others : List (Junction × Core)) : Resolve (List (Junction × Answer)) :=
  match n with
  | 0 => throw .tooDeep
  | n + 1 => do
    let rest ← match others with
      | [] => pure []
      | next :: others => cores n s next others
    let answer ← single n s first.2 []
    match rest with
    | (j, next) :: _ =>
      if answer.columns.length != next.columns.length then
        throw {
          said := "SELECTs to the left and right of " ++ j.name ++
            " do not have the same number of result columns" }
    | [] => pure ()
    return (first.1, answer) :: rest
termination_by structural n

/-- A query without others beside it, in an order. -/
def single (n : Nat) (s : Surroundings) (core : Core) (order : List SortTerm) : Resolve Answer :=
  match n with
  | 0 => throw .tooDeep
  | n + 1 => do
    match core with
    | .select distinct outputs sources filter group having =>
      select n s distinct outputs sources filter group having order
    | .values rows => valueRows n s rows
termination_by structural n

/-- Rows that are written out; the last of them is looked at first. -/
def valueRows (n : Nat) (s : Surroundings) (rows : List (List Expr)) : Resolve Answer :=
  match n, rows with
  | 0, _ => throw .tooDeep
  | _, [] => return { relation := .unit, columns := [] }
  | n + 1, row :: rest => do
    let others ← if rest.isEmpty then pure none else do pure (some (← valueRows n s rest))
    let answer ← select n s false (row.map fun e => .expr e none "") [] none [] none []
    let columns := answer.columns.zipIdx.map fun (c, i) =>
      { c with title := "column" ++ toString (i + 1), inner := "" }
    match others with
    | none => return { answer with columns }
    | some others =>
      if others.columns.length != columns.length then
        throw { said := "all VALUES must have the same number of terms" }
      return { relation := .combine .unionAll [] answer.relation others.relation, columns }
termination_by structural n

/-- A query that reads, tests, groups and orders. -/
def select (n : Nat) (s : Surroundings) (distinct : Bool) (outputs : List Output)
    (sources : List Joined) (filter : Option Expr) (group : List Expr) (having : Option Expr)
    (order : List SortTerm) : Resolve Answer :=
  match n with
  | 0 => throw .tooDeep
  | n + 1 => do
    let (parts, ranges) ← joined n s [] [] sources
    let width := (parts.map (·.width)).sum
    let scope : Scope := { ranges, summaries := .grouped }
    let ((columns, (havings, tests), keys, sorts, isGrouped), aggregates) ← inward width do
      let columns ← answered n (s.within scope) ranges outputs
      let isGrouped := !group.isEmpty || !((← get).groups.headD (0, [])).2.isEmpty
      let named := columns.filterMap fun c => c.asName.map fun a => (a, c.typed)
      let scope := { scope with outputs := named }
      if having.isSome && !isGrouped then
        throw { said := "HAVING clause on a non-aggregate query" }
      let havings ← tests n (s.within scope) having.toList
      let place : SummaryPlace := if isGrouped then .misplaced else .forbidden
      let tests ← tests n (s.within { scope with summaries := place }) (filtering n parts filter)
      let late : SummaryPlace := if isGrouped then .grouped else .misplaced
      let alone : Surroundings := { s with scopes := [{ scope with summaries := late }] }
      let isOneRow := parts.isEmpty || (isGrouped && group.isEmpty)
      let sorts ← ordering isOneRow (sortTerms n alone columns 0 order)
      let alone : Surroundings := { s with scopes := [{ scope with summaries := .grouped }] }
      let keys ← groupTerms n alone columns 0 group
      return (columns, (havings, tests), keys, sorts, isGrouped)
    let columns := columns.map fun c => { c with typed := { c.typed with summary := none } }
    let (ons, kept) := apportioned parts filter tests
    let source := rowsOf (parts.zip ons)
    let read := kept.elim source source.filter
    let grouped ← if isGrouped then do
        pure (Relation.group read width (keys.map (·.term)) (← collations keys) aggregates)
      else pure read
    let chosen := havings.foldl Relation.filter grouped
    let sortTyped := sorts.map (·.1)
    let terms := columns.map (·.typed.term) ++ sortTyped.map (·.term)
    let projected := Relation.project chosen terms
    let single ← if distinct then do
        pure (Relation.distinct projected (← collations (columns.map (·.typed))))
      else pure projected
    let keys ← sorts.zipIdx.mapM fun ((t, descending, nullsFirst), i) =>
      sortKey (columns.length + i) t descending nullsFirst
    let relation :=
      if keys.isEmpty then single else Relation.take (.sort single keys) columns.length
    return { relation, columns }
termination_by structural n

/-- Tests, all of them together. -/
def tests (n : Nat) (s : Surroundings) (es : List Expr) : Resolve (List Term) :=
  match n with
  | 0 => throw .tooDeep
  | n + 1 => do
    let ts ← exprs n s es
    settle
    for t in ts do
      if let some (name, offset) := t.summary then
        if (s.scopes.head?.map (·.summaries)) != some .grouped then
          postpone { said := "misuse of aggregate: " ++ name ++ "()", offset }
    return ts.map (·.term)
termination_by structural n

/-- The terms of an order, with their directions. -/
def sortTerms (n : Nat) (s : Surroundings) (columns : List Answered) (index : Nat)
    (order : List SortTerm) : Resolve (List (Typed × Bool × Option Bool)) :=
  match n, order with
  | _, [] => return []
  | 0, _ => throw .tooDeep
  | n + 1, .mk e descending nullsFirst :: rest => do
    let (bare, asked) := e.uncollated
    let byAlias (c : Answered) : Bool :=
      match bare with
      | .column [i] => (c.asName.map (sameName i.text)).getD false
      | _ => false
    let t ← match columns.find? byAlias with
      | some c => pure { c.typed with collation := asked.or c.typed.collation }
      | none => do
        match ← numbered "ORDER" index columns.length false bare with
        | some i =>
          let t := (columns[i]?.map (·.typed)).getD default
          pure { t with collation := asked.or t.collation }
        | none => whole n s e
    return (t, descending, nullsFirst) :: (← sortTerms n s columns (index + 1) rest)
termination_by structural n

/-- What rows are grouped by. -/
def groupTerms (n : Nat) (s : Surroundings) (columns : List Answered) (index : Nat)
    (group : List Expr) : Resolve (List Typed) :=
  match n, group with
  | _, [] => return []
  | 0, _ => throw .tooDeep
  | n + 1, e :: rest => do
    let t ← match ← numbered "GROUP" index columns.length false e.uncollated.1 with
      | some i => pure ((columns[i]?.map (·.typed)).getD default)
      | none => whole n s e
    let ts ← groupTerms n s columns (index + 1) rest
    if t.summary.isSome then
      throw { said := "aggregate functions are not allowed in the GROUP BY clause" }
    return t :: ts
termination_by structural n

/-- The columns of an answer. -/
def answered (n : Nat) (s : Surroundings) (ranges : List Range) (outputs : List Output) :
    Resolve (List Answered) :=
  match n, outputs with
  | _, [] => return []
  | 0, _ => throw .tooDeep
  | n + 1, o :: rest => do
    let columns ← match o with
      | .all => allColumns ranges none
      | .allOf table => allColumns ranges (some table)
      | .expr e asName span => do
        let typed ← whole n s e
        pure [{
          typed, asName
          title := asName.getD (typed.column.getD span)
          inner := asName.getD (e.columnName?.getD span) }]
    return columns ++ (← answered n s ranges rest)
termination_by structural n

/-- Tables joined to those in front of them, and what is in view of them all. -/
def joined (n : Nat) (s : Surroundings) (parts : List Part) (inView : List Range)
    (js : List Joined) : Resolve (List Part × List Range) :=
  match n, js with
  | _, [] => return (parts, inView)
  | 0, _ => throw .tooDeep
  | n + 1, .mk kind one asName on shared :: rest => do
    let (relation, ranges, width) ← source n s one asName
    let front := (parts.map (·.width)).sum
    let moved := ranges.map fun r => { r with start := r.start + front }
    let isKnown (c : Column) : Bool := inView.any fun r => (r.column? 0 c.name).isSome
    let names :=
      if kind.natural && !parts.isEmpty then
        ((ranges.flatMap (·.columns)).filter isKnown).map (·.name)
      else shared
    let equal ← sharedColumns names inView moved
    let part := { kind, relation, front, width, equal, on }
    let moved := moved.map fun r => { r with kind, shared := names }
    joined n s (parts ++ [part]) (inView ++ moved) rest
termination_by structural n

/-- A table, a query or tables in brackets: its rows, what is in view of it, and the number of its
columns. -/
def source (n : Nat) (s : Surroundings) (one : Source) (asName : Option String) :
    Resolve (Relation × List Range × Nat) :=
  match n with
  | 0 => throw .tooDeep
  | n + 1 => do
    match one with
    | .table database name _ _ =>
      match if database.isNone then s.known.find? name else none with
      | some ({ query := .mk _ titles body, .. }, known) =>
        return derived (← query n { s with known } body) titles (some (asName.getD name))
      | none =>
        match tableNamed? (← get).database database name with
        | some (t, range) =>
          return (.table t, [{ range with name := some (asName.getD name) }], range.width)
        | none => throw (.noTable (qualified database name))
    | .query q => return derived (← query n s q) [] asName
    | .group js =>
      let (parts, ranges) ← joined n s [] [] js
      let width := (parts.map (·.width)).sum
      let (tests, _) ← inward width do tests n (s.within { ranges }) (filtering n parts none)
      let (ons, kept) := apportioned parts none tests
      let rows := rowsOf (parts.zip ons)
      let rows := kept.elim rows rows.filter
      match asName, ranges with
      | none, ranges => return (rows, ranges, width)
      | some name, [r] => return (rows, [{ r with name := some name }], width)
      | some name, ranges =>
        return (rows, [{ name := some name, columns := ranges.flatMap (·.columns) }], width)
termination_by structural n

end

end Resolve

end RevisionLog.Sql
