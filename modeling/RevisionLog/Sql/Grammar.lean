import RevisionLog.Sql.Reading

/-!
# Expressions and queries as they are written

* `Read.expr` — an expression whose operators bind more tightly than a level.
* `Read.query` — a query.
* `Read.outputs` — the columns of an answer.

The loosest operator has the lowest level: `OR`, `AND`, `NOT`, tests, comparisons, `ESCAPE`, bits,
sums, products, `||`, `COLLATE`, signs. Operators of one level are taken from the left. The numbers
in front bound how deep the readers go.
-/

namespace RevisionLog.Sql

/-- The levels of operators. -/
inductive Level
  | lowest
  | or
  | and
  | not
  | test
  | comparison
  | escape
  | bits
  | sum
  | product
  | concat
  | collate
  | sign
deriving DecidableEq, Repr

namespace Level

/-- The place of a level among all. -/
def rank : Level → Nat
  | lowest => 0
  | or => 1
  | and => 2
  | not => 3
  | test => 4
  | comparison => 5
  | escape => 6
  | bits => 7
  | sum => 8
  | product => 9
  | concat => 10
  | collate => 11
  | sign => 12

/-- An operator goes on with an operand that was read at a level. -/
def admits (level operator : Level) : Bool :=
  level.rank < operator.rank || (level == not && operator == not)

end Level

/-- How an expression goes on. -/
inductive Tail
  /-- With another operand. -/
  | operator (op : Binary)
  /-- With another argument of a function. -/
  | function (name : String)
  /-- With a test for NULL. -/
  | known (op : Unary)
  | is
  /-- With a test that `NOT` may stand in front of. -/
  | test
  | negated
  | collate

/-- How a token lets an expression go on, and the level of that. -/
def Token.tail? (t : Token) : Option (Level × Tail) :=
  match t.kind with
  | .symbol s =>
    match s with
    | "=" | "==" => some (.test, .operator .eq)
    | "!=" | "<>" => some (.test, .operator .ne)
    | "<" => some (.comparison, .operator .lt)
    | "<=" => some (.comparison, .operator .le)
    | ">" => some (.comparison, .operator .gt)
    | ">=" => some (.comparison, .operator .ge)
    | "&" => some (.bits, .operator .bitAnd)
    | "|" => some (.bits, .operator .bitOr)
    | "<<" => some (.bits, .operator .shiftLeft)
    | ">>" => some (.bits, .operator .shiftRight)
    | "+" => some (.sum, .operator .add)
    | "-" => some (.sum, .operator .subtract)
    | "*" => some (.product, .operator .multiply)
    | "/" => some (.product, .operator .divide)
    | "%" => some (.product, .operator .modulo)
    | "||" => some (.concat, .operator .concat)
    | "->" | "->>" => some (.concat, .function s)
    | _ => none
  | .keyword w =>
    match w with
    | "OR" => some (.or, .operator .or)
    | "AND" => some (.and, .operator .and)
    | "NOT" => some (.not, .negated)
    | "IS" => some (.test, .is)
    | "ISNULL" => some (.test, .known .isNull)
    | "NOTNULL" => some (.test, .known .notNull)
    | "BETWEEN" | "IN" => some (.test, .test)
    | "COLLATE" => some (.collate, .collate)
    | w => if patternWords.contains w then some (.test, .test) else none
  | _ => none

/-- The operator that a token in front of an operand is, and the level of the operand. -/
def Token.sign? (t : Token) : Option (Level × Unary) :=
  match t.kind with
  | .keyword "NOT" => some (.not, .not)
  | .symbol "-" => some (.sign, .negate)
  | .symbol "+" => some (.sign, .plus)
  | .symbol "~" => some (.sign, .complement)
  | _ => none

/-- An expression, or that it does not hold. -/
def Expr.unless (negated : Bool) (e : Expr) : Expr := if negated then .unary .not e else e

namespace Read

/-- A query is next. -/
def atQuery : Read Bool := do
  let t ← peek
  return t.isWord "SELECT" || t.isWord "VALUES" || t.isWord "WITH"

/-- A word, without regard to case, stands in a token. -/
def isNamed (t : Token) (word : String) : Bool :=
  t.kind == .name && String.ofList (t.text.map Char.toUpper) == word

/-- The words in front of `JOIN`. -/
def joinWords : Read (List Token) := do
  let mut words := [← peek]
  skip
  for _ in [0, 1] do
    if !(← peek).isWord "JOIN" && (← peek).name?.isSome then
      words := words ++ [← peek]
      skip
  word "JOIN"
  return words

/-- How the next table is joined, if there is one. -/
def joinKind? : Read (Option JoinKind) := do
  if ← mark? "," then return some {}
  if ← word? "JOIN" then return some {}
  match (← peek).kind with
  | .keyword w =>
    if Sql.joinWords.contains w then do
      let first ← peek
      let words := (← joinWords).map fun t => String.ofList t.text
      match JoinKind.ofWords? (words.map fun w => String.ofList (w.toList.filter (· != '"'))) with
      | some kind => return some kind
      | none =>
        doubt { said := "unknown join type: " ++ " ".intercalate words, offset := first.offset }
        return some {}
    else return none
  | _ => return none

/-- Words and marks that may stand behind a type's name: up to two sizes in brackets. -/
def typeSize : Read Unit := do
  if ← mark? "(" then
    size
    if ← mark? "," then size
    mark ")"
where
  size : Read Unit := do
    if !(← mark? "+") then discard (mark? "-")
    let t ← peek
    if t.kind == .integer || t.kind == .real then skip else unexpected

/-- The words of a type. -/
def typeWords : Nat → Read (List String)
  | 0 => return []
  | n + 1 => do
    match ← bareName? with
    | some w => return w :: (← typeWords n)
    | none => return []

/-- A type, by its words. -/
def typeName (n : Nat) : Read String := do
  let words ← typeWords n
  if !words.isEmpty then typeSize
  return " ".intercalate words

/-- Names of things with a dot between them: one, two or three of them. -/
def path : Read (List Ident) := do
  let a ← ident
  if !(← mark? ".") then return [a]
  let b ← named
  if !(← mark? ".") then return [a, b]
  return [a, b, ← named]
where
  ident : Read Ident := do
    let t ← peek
    skip
    return t.ident
  named : Read Ident := do if (← peek).name?.isSome then ident else unexpected

/-- The text of the tokens from one up to another, without the space around it. -/
def span (first last : Token) : String :=
  let cs := first.rest.take (first.rest.length - last.rest.length)
  String.ofList (Text.trimEnd isSpace (cs.dropWhile isSpace))

/-- The direction of an order, and where NULL stands in it. -/
def direction : Read (Bool × Option Bool) := do
  let descending ← if ← word? "DESC" then pure true else do discard (word? "ASC"); pure false
  if ← word? "NULLS" then
    if ← word? "FIRST" then return (descending, some true)
    word "LAST"
    return (descending, some false)
  return (descending, none)

mutual

/-- An expression whose operators bind more tightly than a level. -/
def expr (n : Nat) (level : Level) : Read Expr :=
  match n with
  | 0 => throw .tooDeep
  | n + 1 => do tails n level (← operand n)
termination_by structural n

/-- An expression that begins with one that has been read. -/
def tails (n : Nat) (level : Level) (e : Expr) : Read Expr :=
  match n with
  | 0 => throw .tooDeep
  | n + 1 => do
    match (← peek).tail? with
    | none => return e
    | some (q, t) =>
      if !level.admits q then return e
      else tails n level (← tail n e q t)
termination_by structural n

/-- An expression and what it goes on with. -/
def tail (n : Nat) (e : Expr) (level : Level) (t : Tail) : Read Expr :=
  match n with
  | 0 => throw .tooDeep
  | n + 1 => do
    match t with
    | .operator op =>
      skip
      return .joined op e (← expr n level)
    | .function name =>
      let t ← peek
      skip
      let args := [e, ← expr n level]
      return .call { text := name, offset := t.offset } (.list false args [] none)
    | .known op =>
      skip
      return .unary op e
    | .collate =>
      skip
      match ← bareName? with
      | some name => return .collate e name
      | none => unexpected
    | .is =>
      skip
      let negated ← word? "NOT"
      if ← word? "DISTINCT" then
        word "FROM"
        return .binary (if negated then .is else .isNot) e (← expr n .test)
      return .binary (if negated then .isNot else .is) e (← expr n .test)
    | .negated =>
      skip
      if ← word? "NULL" then return .unary .notNull e
      test n true e
    | .test => test n false e
termination_by structural n

/-- An expression that is looked for in a pattern, a range or a set. -/
def test (n : Nat) (negated : Bool) (e : Expr) : Read Expr :=
  match n with
  | 0 => throw .tooDeep
  | n + 1 => do
    let t ← peek
    match t.kind with
    | .keyword "BETWEEN" =>
      skip
      let lower ← lowerBound n (← expr n .and)
      word "AND"
      return .unless negated (.between e lower (← expr n .test))
    | .keyword "IN" =>
      skip
      return .unless negated (← members n e)
    | .keyword w =>
      if !patternWords.contains w then unexpected
      else
        skip
        let pattern ← expr n .test
        let escape ← if ← word? "ESCAPE" then do pure [← expr n .test] else pure []
        return .unless negated
          (.call { text := t.plain, offset := t.offset }
            (.list false ([pattern, e] ++ escape) [] none))
    | _ => unexpected
termination_by structural n

/-- The lower end of a range, which takes in what `OR` joins to it. -/
def lowerBound (n : Nat) (e : Expr) : Read Expr :=
  match n with
  | 0 => throw .tooDeep
  | n + 1 => do
    if ← word? "OR" then lowerBound n (.joined .or e (← expr n .or)) else return e
termination_by structural n

/-- An expression that is looked for among others, in a query or in a table. -/
def members (n : Nat) (e : Expr) : Read Expr :=
  match n with
  | 0 => throw .tooDeep
  | n + 1 => do
    if ← mark? "(" then
      if ← atQuery then
        let q ← query n
        mark ")"
        return .withinQuery e q
      let items ← list n
      mark ")"
      return if items.isEmpty then .integer 0 0 else .within e items
    let (database, table) ← fullName
    let args ← if ← mark? "(" then do
        let items ← list n
        mark ")"
        pure (some items)
      else pure none
    return .withinQuery e (.mk []
      (.select false [.all] [.mk {} (.table database table args none) none none []] none [] none)
      [] [] none none)
termination_by structural n

/-- Expressions up to a bracket that closes; there may be none. -/
def list (n : Nat) : Read (List Expr) :=
  match n with
  | 0 => throw .tooDeep
  | n + 1 => do
    if (← peek).isMark ")" then return []
    items n
termination_by structural n

/-- Expressions with commas between them. -/
def items (n : Nat) : Read (List Expr) :=
  match n with
  | 0 => throw .tooDeep
  | n + 1 => do
    let e ← expr n .lowest
    if ← mark? "," then return e :: (← items n) else return [e]
termination_by structural n

/-- The operand at the front of an expression. -/
def operand (n : Nat) : Read Expr :=
  match n with
  | 0 => throw .tooDeep
  | n + 1 => do
    let t ← peek
    match t.sign? with
    | some (level, op) =>
      skip
      return .unary op (← expr n level)
    | none =>
      match t.kind with
      | .symbol "(" =>
        skip
        if ← atQuery then
          let q ← query n
          mark ")"
          return .subquery q
        match ← items n with
        | [e] =>
          mark ")"
          return e
        | es =>
          mark ")"
          return .row es
      | .variable =>
        skip
        return .parameter (← parameter t) t.offset
      | .string => if (← kindAt 1) == .symbol "." then named n else literal t
      | .keyword "EXISTS" =>
        skip
        mark "("
        if !(← atQuery) then unexpected
        let q ← query n
        mark ")"
        return .exists q
      | .keyword "CASE" =>
        skip
        let value ← if (← peek).isWord "WHEN" then pure none
          else do pure (some (← expr n .lowest))
        word "WHEN"
        let cases ← cases n
        let otherwise ← if ← word? "ELSE" then do pure (some (← expr n .lowest)) else pure none
        word "END"
        return .choice value cases otherwise
      | .keyword "CAST" =>
        skip
        mark "("
        let e ← expr n .lowest
        word "AS"
        let type ← typeName n
        mark ")"
        return .cast e type
      | .keyword "RAISE" =>
        skip
        mark "("
        if !(← word? "IGNORE") then
          if !(← word? "ROLLBACK") && !(← word? "ABORT") then word "FAIL"
          mark ","
          discard name
        mark ")"
        return .raise
      | .keyword w =>
        if momentWords.contains w then
          skip
          return .call { text := w.toLower, offset := t.offset } (.list false [] [] none)
        else if t.isName then named n
        else literal t
      | .name => named n
      | _ => literal t
termination_by structural n

/-- A token as a value. -/
def literal (t : Token) : Read Expr :=
  match t.literal? with
  | some e => do
    skip
    return e
  | none => unexpected

/-- What begins with a name: a column, or a call of a function. -/
def named (n : Nat) : Read Expr :=
  match n with
  | 0 => throw .tooDeep
  | n + 1 => do
    let t ← peek
    if t.isName && (← kindAt 1) == .symbol "(" then
      skip
      skip
      return .call t.ident (← arguments n)
    return .column (← path)
termination_by structural n

/-- What a function is called on, up to the end of the call. -/
def arguments (n : Nat) : Read Arguments :=
  match n with
  | 0 => throw .tooDeep
  | n + 1 => do
    if ← mark? "*" then
      mark ")"
      return .star (← filter? n)
    let distinct ← word? "DISTINCT"
    if !distinct then discard (word? "ALL")
    let args ← if (← peek).isWord "ORDER" then pure [] else list n
    let order ← order? n
    mark ")"
    return .list distinct args order (← filter? n)
termination_by structural n

/-- The test that rows must pass to count in a call, if one is given. -/
def filter? (n : Nat) : Read (Option Expr) :=
  match n with
  | 0 => throw .tooDeep
  | n + 1 => do
    if isNamed (← peek) "FILTER" && (← kindAt 1) == .symbol "(" then
      skip
      skip
      word "WHERE"
      let e ← expr n .lowest
      mark ")"
      return some e
    return none
termination_by structural n

/-- The cases of a choice, behind the first `WHEN`. -/
def cases (n : Nat) : Read (List (Expr × Expr)) :=
  match n with
  | 0 => throw .tooDeep
  | n + 1 => do
    let test ← expr n .lowest
    word "THEN"
    let value ← expr n .lowest
    if ← word? "WHEN" then return (test, value) :: (← cases n) else return [(test, value)]
termination_by structural n

/-- What rows are ordered by, if anything is said of it. -/
def order? (n : Nat) : Read (List SortTerm) :=
  match n with
  | 0 => throw .tooDeep
  | n + 1 => do
    if ← word? "ORDER" then
      word "BY"
      sortTerms n
    else return []
termination_by structural n

/-- What rows are ordered by. -/
def sortTerms (n : Nat) : Read (List SortTerm) :=
  match n with
  | 0 => throw .tooDeep
  | n + 1 => do
    let e ← expr n .lowest
    let (descending, nullsFirst) ← direction
    let t : SortTerm := .mk e descending nullsFirst
    if ← mark? "," then return t :: (← sortTerms n) else return [t]
termination_by structural n

/-- An expression behind a word, if the word is next. -/
def behind? (n : Nat) (w : String) : Read (Option Expr) :=
  match n with
  | 0 => throw .tooDeep
  | n + 1 => do if ← word? w then return some (← expr n .lowest) else return none
termination_by structural n

/-- A query. -/
def query (n : Nat) : Read Query :=
  match n with
  | 0 => throw .tooDeep
  | n + 1 => do
    let known ← if ← word? "WITH" then do
        discard (word? "RECURSIVE")
        namedQueries n []
      else pure []
    let (first, others, late, order, limit, offset) ← parts n
    if let some said := late then doubt { said }
    return .mk known first others order limit offset
termination_by structural n

/-- Queries that bear names, other than those of some names. -/
def namedQueries (n : Nat) (taken : List String) : Read (List NamedQuery) :=
  match n with
  | 0 => throw .tooDeep
  | n + 1 => do
    let title ← name
    let columns ← if (← peek).isMark "(" then names n else pure []
    word "AS"
    if ← word? "NOT" then word "MATERIALIZED" else discard (word? "MATERIALIZED")
    mark "("
    if !(← atQuery) then unexpected
    let q ← query n
    mark ")"
    let one : NamedQuery := .mk title columns q
    if taken.any (·.map Char.toLower == title.map Char.toLower) then
      doubt { said := "duplicate WITH table name: " ++ title }
    if ← mark? "," then return one :: (← namedQueries n (title :: taken)) else return [one]
termination_by structural n

/-- The queries that a query is put together of; its order and its limits; and what is wrong, where
such stand in front of the last of them. -/
def parts (n : Nat) : Read
    (Core × List (Junction × Core) × Option String × List SortTerm × Option Expr × Option Expr) :=
  match n with
  | 0 => throw .tooDeep
  | n + 1 => do
    if (← peek).isWord "VALUES" then
      let rows ← rows n
      match ← junction? with
      | none => return (.values rows, [], none, [], none, none)
      | some j =>
        let (next, others, late, rest) ← parts n
        return (.values rows, (j, next) :: others, late, rest)
    word "SELECT"
    let distinct ← word? "DISTINCT"
    if !distinct then discard (word? "ALL")
    let outputs ← outputs n
    let sources ← if ← word? "FROM" then joined n none else pure []
    let filter ← behind? n "WHERE"
    let group ← if ← word? "GROUP" then do
        word "BY"
        items n
      else pure []
    let having ← behind? n "HAVING"
    let order ← order? n
    let (limit, offset) ← limits n
    let core : Core := .select distinct outputs sources filter group having
    match ← junction? with
    | none => return (core, [], none, order, limit, offset)
    | some j =>
      let (next, others, late, rest) ← parts n
      let early (clause : String) : Option String :=
        some (late.getD (clause ++ " clause should come after " ++ j.name ++ " not before"))
      let late :=
        if !order.isEmpty then early "ORDER BY"
        else if limit.isSome then early "LIMIT"
        else late
      return (core, (j, next) :: others, late, rest)
termination_by structural n

/-- How another query is put to the one in front, if there is one. -/
def junction? : Read (Option Junction) := do
  if ← word? "UNION" then
    return some (if ← word? "ALL" then .unionAll else .union)
  if ← word? "EXCEPT" then return some .except
  if ← word? "INTERSECT" then return some .intersect
  return none

/-- How many rows a query answers, and how many it leaves out in front of them. -/
def limits (n : Nat) : Read (Option Expr × Option Expr) :=
  match n with
  | 0 => throw .tooDeep
  | n + 1 => do
    if !(← word? "LIMIT") then return (none, none)
    let e ← expr n .lowest
    if ← mark? "," then return (some (← expr n .lowest), some e)
    if ← word? "OFFSET" then return (some e, some (← expr n .lowest))
    return (some e, none)
termination_by structural n

/-- Rows in brackets, behind `VALUES` or a comma. -/
def rows (n : Nat) : Read (List (List Expr)) :=
  match n with
  | 0 => throw .tooDeep
  | n + 1 => do
    skip
    mark "("
    let row ← items n
    mark ")"
    if (← peek).isMark "," then return row :: (← rows n) else return [row]
termination_by structural n

/-- The columns of an answer. -/
def outputs (n : Nat) : Read (List Output) :=
  match n with
  | 0 => throw .tooDeep
  | n + 1 => do
    let o ← output n
    if ← mark? "," then return o :: (← outputs n) else return [o]
termination_by structural n

/-- A column of an answer, or a star for many of them. -/
def output (n : Nat) : Read Output :=
  match n with
  | 0 => throw .tooDeep
  | n + 1 => do
    if ← mark? "*" then return .all
    let first ← peek
    if first.name?.isSome && (← kindAt 1) == .symbol "." && (← kindAt 2) == .symbol "*" then
      skip
      skip
      skip
      return .allOf first.plain
    let e ← expr n .lowest
    let last ← peek
    return .expr e (← alias?) (span first last)
termination_by structural n

/-- Tables, each joined to those in front of it; `kind` is how the first of them is. -/
def joined (n : Nat) (kind : Option JoinKind) : Read (List Joined) :=
  match n with
  | 0 => throw .tooDeep
  | n + 1 => do
    let (source, asName) ← source n
    let on ← behind? n "ON"
    let shared ← if on.isNone then do if ← word? "USING" then names n else pure [] else pure []
    if kind.isNone && (on.isSome || !shared.isEmpty) then
      doubt {
        said := "a JOIN clause is required before " ++ if on.isSome then "ON" else "USING" }
    let j : Joined := .mk (kind.getD {}) source asName on shared
    match ← joinKind? with
    | some kind => return j :: (← joined n kind)
    | none => return [j]
termination_by structural n

/-- A table, a query or tables in brackets, with the name that it goes by. -/
def source (n : Nat) : Read (Source × Option String) :=
  match n with
  | 0 => throw .tooDeep
  | n + 1 => do
    if ← mark? "(" then
      if ← atQuery then
        let q ← query n
        mark ")"
        return (.query q, ← alias?)
      let sources ← joined n none
      mark ")"
      return (.group sources, ← alias?)
    let (database, table) ← fullName
    if ← mark? "(" then
      let args ← list n
      mark ")"
      return (.table database table (some args) none, ← alias?)
    let asName ← alias?
    return (.table database table none (← index?), asName)
termination_by structural n

end

end Read

end RevisionLog.Sql
