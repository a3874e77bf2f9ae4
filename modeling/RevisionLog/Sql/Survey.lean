import RevisionLog.Sql.Scope

/-!
# What queries read

Before any name of a column is looked up, all that a query reads has to be there, and the columns of
its answer have to be known by name.

* `View` — what is read, with the names of its columns.
* `Named` — a query that goes by a name where it is in view.
* `Survey.query` — the names of a query's columns, or what is wrong with what it reads.

Of queries that are put together the last is looked at first, and in a query its sources come before
the queries within its expressions. The numbers in front bound how deep the survey goes.
-/

namespace RevisionLog.Sql

/-- What is read, with the names of its columns. -/
structure View where
  /-- The name that it goes by. -/
  name : Option String
  columns : List String
  /-- Columns that are one with those of the views in front. -/
  shared : List String := []

/-- A query that goes by a name. -/
structure Named where
  query : NamedQuery
  /-- It is being looked at. -/
  isOpen : Bool := false

/-- Queries that go by names, from each clause that names some; the innermost clause first. -/
abbrev Known := List (List Named)

namespace Known

/-- The queries of a clause in front of others. -/
def adding (k : Known) (qs : List NamedQuery) : Known :=
  if qs.isEmpty then k else qs.map ({ query := · }) :: k

/-- The query of a name, and those that it knows itself. -/
def find? : Known → String → Option (Named × Known)
  | [], _ => none
  | qs :: outer, name =>
    let isNamed : Named → Bool := fun { query := .mk title _ _, .. } => sameName title name
    match qs.find? isNamed with
    | some q =>
      let opened := qs.map fun q => if isNamed q then { q with isOpen := true } else q
      some (q, opened :: outer)
    | none => find? outer name

end Known

/-- Names such that no two are the same: one that is taken gets a number. -/
def uniqueNames (names : List String) : List String :=
  (names.foldl (fun seen name => numbered seen name 0 (seen.length + 1) :: seen) []).reverse
where
  base (name : String) : List Char :=
    let cs := name.toList.reverse
    match cs.dropWhile Char.isDigit with
    | ':' :: c :: rest => (c :: rest).reverse
    | _ => name.toList
  numbered (seen : List String) (name : String) (n : Nat) : Nat → String
    | 0 => name
    | fuel + 1 =>
      if seen.any (sameName name) then
        numbered seen (String.ofList (base name ++ ':' :: Nat.toDigits 10 (n + 1))) (n + 1) fuel
      else name

/-- The names of the columns of a query where it is read, from those that it gives to them. -/
def readNames (names : List String) : List String :=
  uniqueNames (names.zipIdx.map fun (name, i) =>
    if name == "" || sameName name "true" || sameName name "false" then
      "column" ++ toString (i + 1)
    else name)

/-- The name that an expression gives to a column. -/
def Expr.columnName? : Expr → Option String
  | .column path => path.getLast?.map (·.text)
  | .collate e _ => e.columnName?
  | _ => none

namespace Survey

/-- Takes names in one way or the other for those of a query, which must be as many. -/
def titled (name : String) (titles names : List String) : Except Refusal (List String) :=
  if titles.isEmpty then .ok (readNames names)
  else if titles.length == names.length then .ok (readNames titles)
  else
    .error {
      said := "table " ++ name ++ " has " ++ toString names.length ++ " values for " ++
        toString titles.length ++ " columns" }

/-- Finds the columns that are one in two views. -/
def sharing (front : List View) (kind : JoinKind) (hasOn : Bool) (shared : List String)
    (v : View) : Except Refusal View := do
  let isKnown (name : String) : Bool := front.any fun f => f.columns.any (sameName name)
  if kind.natural then
    if hasOn || !shared.isEmpty then
      throw { said := "a NATURAL join may not have an ON or USING clause" }
    return { v with shared := v.columns.filter isKnown }
  match shared.find? fun name => !(isKnown name && v.columns.any (sameName name)) with
  | some name =>
    throw {
      said := "cannot join using column " ++ name ++ " - column not present in both tables" }
  | none => return { v with shared }

/-- Finds the columns that are one in views, each joined to those in front of it. -/
def joined (front : List View) : List (Joined × View) → Except Refusal (List View)
  | [] => .ok front
  | (.mk kind _ _ on shared, v) :: rest => do
    let v ← if front.isEmpty then pure v else sharing front kind on.isSome shared v
    joined (front ++ [v]) rest

/-- The names of all columns that are read, or of those of one view. -/
def allColumns (views : List View) (only : Option String) : Except Refusal (List String) :=
  let chosen := match only with
    | none => views
    | some name => views.filter fun v => (v.name.map (sameName name)).getD false
  if chosen.isEmpty then
    match only with
    | some name => .error (.noTable name)
    | none => .error { said := "no tables specified" }
  else
    .ok (chosen.flatMap fun v => v.columns.filter fun c =>
      only.isSome || !v.shared.any (sameName c))

mutual

/-- The names that a query gives to its columns. -/
def query (n : Nat) (db : Database) (k : Known) (q : Query) : Except Refusal (List String) :=
  match n with
  | 0 => .error .tooDeep
  | n + 1 => do
    let .mk named first others order limit offset := q
    let rest := order.map (fun (.mk e _ _) => e) ++ limit.toList ++ offset.toList
    cores n db (k.adding named) (first :: others.map (·.2)) rest
termination_by structural n

/-- The names that the first of some queries gives to its columns; behind the last of them there are
further expressions. -/
def cores (n : Nat) (db : Database) (k : Known) (cs : List Core) (rest : List Expr) :
    Except Refusal (List String) :=
  match n, cs with
  | 0, _ => .error .tooDeep
  | _, [] => .ok []
  | n + 1, [c] => core n db k c rest
  | n + 1, c :: cs => do
    discard (cores n db k cs rest)
    core n db k c []
termination_by structural n

/-- The names that a query without others gives to its columns. -/
def core (n : Nat) (db : Database) (k : Known) (c : Core) (rest : List Expr) :
    Except Refusal (List String) :=
  match n with
  | 0 => .error .tooDeep
  | n + 1 => do
    match c with
    | .values rows =>
      exprs n db k rows.reverse.flatten
      return (rows.headD []).map fun _ => ""
    | .select _ outputs sources filter group having =>
      let views ← joined [] (sources.zip (← views n db k sources))
      let names ← outputs.mapM fun o =>
        match o with
        | .all => allColumns views none
        | .allOf name => allColumns views (some name)
        | .expr e asName span => .ok [asName.getD (e.columnName?.getD span)]
      let own := outputs.filterMap fun o => match o with
        | .expr e _ _ => some e
        | _ => none
      let ons := sources.filterMap fun (.mk _ _ _ on _) => on
      exprs n db k (own ++ filter.toList ++ ons ++ group ++ having.toList ++ rest)
      return names.flatten
termination_by structural n

/-- What sources are seen as. -/
def views (n : Nat) (db : Database) (k : Known) (sources : List Joined) :
    Except Refusal (List View) :=
  match n, sources with
  | 0, _ => .error .tooDeep
  | _, [] => .ok []
  | n + 1, .mk _ s asName _ _ :: rest => do
    return (← source n db k s asName) :: (← views n db k rest)
termination_by structural n

/-- What a source is seen as. -/
def source (n : Nat) (db : Database) (k : Known) (s : Source) (asName : Option String) :
    Except Refusal View :=
  match n with
  | 0 => .error .tooDeep
  | n + 1 => do
    match s with
    | .query q => return { name := asName, columns := readNames (← query n db k q) }
    | .group sources =>
      let views ← joined [] (sources.zip (← views n db k sources))
      match views with
      | [v] => return { v with name := asName.or v.name }
      | views => return { name := asName, columns := (← allColumns views none) }
    | .table database name args index =>
      match if database.isNone then k.find? name else none with
      | some (q, k) =>
        let .mk title titles body := q.query
        if q.isOpen then throw { said := "circular reference: " ++ title }
        let columns ← titled title titles (← query n db k body)
        if args.isSome then throw { said := "'" ++ name ++ "' is not a function" }
        return { name := some (asName.getD name), columns }
      | none =>
        match tableNamed? db database name with
        | none => throw (.noTable (qualified database name))
        | some (t, range) =>
          if args.isSome then throw { said := "'" ++ name ++ "' is not a function" }
          checkIndex db t index
          return { name := some (asName.getD name), columns := range.columns.map (·.name) }
termination_by structural n

/-- Looks at the queries within expressions. -/
def exprs (n : Nat) (db : Database) (k : Known) (es : List Expr) : Except Refusal Unit :=
  match n, es with
  | 0, _ => .error .tooDeep
  | _, [] => .ok ()
  | n + 1, e :: es => do
    expr n db k e
    exprs n db k es
termination_by structural n

/-- Looks at the queries within an expression. -/
def expr (n : Nat) (db : Database) (k : Known) (e : Expr) : Except Refusal Unit :=
  match n with
  | 0 => .error .tooDeep
  | n + 1 =>
    match e with
    | .unary _ e | .cast e _ | .collate e _ => expr n db k e
    | .binary _ a b => exprs n db k [a, b]
    | .between e a b => exprs n db k [e, a, b]
    | .within e es => exprs n db k (e :: es)
    | .withinQuery e q => do
      expr n db k e
      discard (query n db k q)
    | .exists q | .subquery q => do discard (query n db k q)
    | .row es => exprs n db k es
    | .choice operand cases otherwise =>
      exprs n db k (operand.toList ++ cases.flatMap (fun (a, b) => [a, b]) ++ otherwise.toList)
    | .call _ args =>
      match args with
      | .star filter => exprs n db k filter.toList
      | .list _ es order filter =>
        exprs n db k (order.map (fun (.mk e _ _) => e) ++ es ++ filter.toList)
    | .const _ _ | .integer _ _ | .hex _ _ _ | .parameter _ _ | .column _ | .raise => .ok ()
termination_by structural n

end

end Survey

end RevisionLog.Sql
