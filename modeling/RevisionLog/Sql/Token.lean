import RevisionLog.Text.Reading

/-!
# Tokens of SQL

* `Token` — a word of a statement, with its place in the text.
* `Token.ofText` — the tokens of the first statement of a text, up to its semicolon.
* `Token.name?`, `Token.alias?` — a token as the name of something. Most keywords can be names
  where they mean nothing else.
-/

namespace RevisionLog.Sql

/-- What a token is. -/
inductive Kind
  /-- A name that is no keyword, or one in marks. -/
  | name
  /-- A keyword, in upper case. -/
  | keyword (word : String)
  /-- Text in single quotes. -/
  | string
  | integer
  | real
  /-- Bytes in hexadecimal. -/
  | blob
  /-- A parameter. -/
  | variable
  | symbol (s : String)
  /-- No token at all. -/
  | illegal
  /-- The end of the text. -/
  | finish
deriving DecidableEq, Repr

/-- A word of a statement. -/
structure Token where
  kind : Kind
  /-- The characters of the token. -/
  text : List Char
  /-- How many bytes are in front of it. -/
  offset : Nat
  /-- The text from the token on. -/
  rest : List Char
deriving Repr

/-! ## Characters -/

/-- White space. -/
def isSpace (c : Char) : Bool := c == ' ' || ('\t' ≤ c && c ≤ '\r')

/-- White space that a token can begin with. -/
def startsSpace (c : Char) : Bool := isSpace c && c != '\x0b'

/-- Characters that a name can begin with. -/
def startsName (c : Char) : Bool := c.isAlpha || c == '_' || '\x7f' < c

/-- Characters that a name can go on with. -/
def continuesName (c : Char) : Bool := startsName c || c.isDigit || c == '$'

/-- A hexadecimal digit. -/
def isHex (c : Char) : Bool := (Text.hexValue c).isSome

/-! ## Keywords -/

/-- Keywords that are never names. -/
def reservedWords : List String :=
  ["ADD", "ALL", "ALTER", "AND", "AS", "AUTOINCREMENT", "BETWEEN", "CASE", "CHECK", "COLLATE",
    "COMMIT", "CONSTRAINT", "CREATE", "DEFAULT", "DEFERRABLE", "DELETE", "DISTINCT", "DROP", "ELSE",
    "ESCAPE", "EXCEPT", "EXISTS", "FOREIGN", "FROM", "GROUP", "HAVING", "IN", "INDEX", "INSERT",
    "INTERSECT", "INTO", "IS", "ISNULL", "JOIN", "LIMIT", "NOT", "NOTHING", "NOTNULL", "NULL", "ON",
    "OR", "ORDER", "PRIMARY", "REFERENCES", "RETURNING", "SELECT", "SET", "TABLE", "THEN", "TO",
    "TRANSACTION", "UNION", "UNIQUE", "UPDATE", "USING", "VALUES", "WHEN", "WHERE"]

/-- Keywords that say how tables are joined. -/
def joinWords : List String := ["CROSS", "FULL", "INNER", "LEFT", "NATURAL", "OUTER", "RIGHT"]

/-- Keywords that compare text with a pattern. -/
def patternWords : List String := ["LIKE", "GLOB", "REGEXP", "MATCH"]

/-- Keywords that stand for a moment. -/
def momentWords : List String := ["CURRENT_DATE", "CURRENT_TIME", "CURRENT_TIMESTAMP"]

/-- Keywords that are keywords only in places of their own. -/
def looseWords : List String :=
  ["ABORT", "ACTION", "AFTER", "ALWAYS", "ANALYZE", "ASC", "ATTACH", "BEFORE", "BEGIN", "BY",
    "CASCADE", "CAST", "COLUMN", "CONFLICT", "CURRENT", "DATABASE", "DEFERRED", "DESC", "DETACH",
    "DO", "EACH", "END", "EXCLUDE", "EXCLUSIVE", "EXPLAIN", "FAIL", "FIRST", "FOLLOWING", "FOR",
    "GENERATED", "GROUPS", "IF", "IGNORE", "IMMEDIATE", "INDEXED", "INITIALLY", "INSTEAD", "KEY",
    "LAST", "MATERIALIZED", "NO", "NULLS", "OF", "OFFSET", "OTHERS", "PARTITION", "PLAN", "PRAGMA",
    "PRECEDING", "QUERY", "RAISE", "RANGE", "RECURSIVE", "REINDEX", "RELEASE", "RENAME", "REPLACE",
    "RESTRICT", "ROLLBACK", "ROW", "ROWS", "SAVEPOINT", "TEMP", "TEMPORARY", "TIES", "TRIGGER",
    "UNBOUNDED", "VACUUM", "VIEW", "VIRTUAL", "WITH", "WITHOUT"] ++
    patternWords ++ momentWords

/-- The kind of a word without marks. -/
def wordKind (word : List Char) : Kind :=
  let w := String.ofList (word.map Char.toUpper)
  if reservedWords.contains w || joinWords.contains w || looseWords.contains w then .keyword w
  else .name

/-! ## Reading -/

/-- How many characters a run in front has whose characters pass a test. -/
def run (p : Char → Bool) (cs : List Char) : Nat := (cs.takeWhile p).length

/-- How many characters text in marks has, after the first of them; a mark in it stands twice.
`none` is text without end. -/
def marked? (mark : Char) : List Char → Option Nat
  | [] => none
  | [c] => if c == mark then some 1 else none
  | c :: d :: cs =>
    if c != mark then (marked? mark (d :: cs)).map (· + 1)
    else if d == mark then (marked? mark cs).map (· + 2)
    else some 1

/-- A number, as its kind and how many characters it has. A name right behind makes it illegal,
except where it is hexadecimal. -/
def number (cs : List Char) : Kind × Nat :=
  let hex := cs.take 1 == ['0'] && (cs[1]? == some 'x' || cs[1]? == some 'X') &&
    (cs[2]?.map isHex).getD false
  if hex then (.integer, 2 + run isHex (cs.drop 2))
  else
    let whole := run Char.isDigit cs
    let (kind, n) :=
      if (cs.drop whole).head? == some '.' then
        (Kind.real, whole + 1 + run Char.isDigit (cs.drop (whole + 1)))
      else (Kind.integer, whole)
    let (kind, n) :=
      match cs.drop n with
      | e :: rest =>
        let sign := if rest.head? == some '+' || rest.head? == some '-' then 1 else 0
        let digits := run Char.isDigit (rest.drop sign)
        if (e == 'e' || e == 'E') && digits != 0 then (.real, n + 1 + sign + digits) else (kind, n)
      | [] => (kind, n)
    let more := run continuesName (cs.drop n)
    if more == 0 then (kind, n) else (.illegal, n + more)

/-- How many characters of the name of a parameter there are, and how many of them are characters
of names. Two colons may stand in it, and brackets at its end; `none` are brackets without end. -/
def parameterName? : List Char → Nat → Option (Nat × Nat)
  | [], k => some (0, k)
  | c :: cs, k =>
    if continuesName c then (parameterName? cs (k + 1)).map fun (n, k) => (n + 1, k)
    else if c == '(' && k != 0 then
      let inner := run (fun c => !isSpace c && c != ')') cs
      if (cs.drop inner).head? == some ')' then some (inner + 2, k) else none
    else
      match c, cs with
      | ':', ':' :: cs => (parameterName? cs k).map fun (n, k) => (n + 2, k)
      | _, _ => some (0, k)

/-- Marks of two or three characters. -/
def longMarks : List String :=
  ["->>", "->", "==", "<=", "<>", "<<", ">=", ">>", "!=", "||"]

/-- What stands in front of a text, as its kind and how many characters it has; no kind is white
space or a comment. -/
def lex (cs : List Char) : Option Kind × Nat :=
  match cs with
  | [] => (some .finish, 0)
  | '-' :: '-' :: rest => (none, 2 + run (· != '\n') rest)
  | '/' :: '*' :: c :: rest =>
    let rec close (n : Nat) : List Char → Nat
      | '*' :: '/' :: _ => n + 2
      | _ :: cs => close (n + 1) cs
      | [] => n
    (none, close 2 (c :: rest))
  | '\ufeff' :: _ => (none, 1)
  | 'x' :: '\'' :: rest | 'X' :: '\'' :: rest =>
    let n := run isHex rest
    let body := run (· != '\'') rest
    let length := 2 + body + if (rest.drop body).isEmpty then 0 else 1
    (some (if n == body && n % 2 == 0 && body < rest.length then .blob else .illegal), length)
  | '\'' :: rest =>
    match marked? '\'' rest with
    | some n => (some .string, n + 1)
    | none => (some .illegal, cs.length)
  | '[' :: rest =>
    let n := run (· != ']') rest
    if n < rest.length then (some .name, n + 2) else (some .illegal, cs.length)
  | '?' :: rest => (some .variable, 1 + run Char.isDigit rest)
  | c :: rest =>
    if c == '"' || c == '\x60' then
      match marked? c rest with
      | some n => (some .name, n + 1)
      | none => (some .illegal, cs.length)
    else if c == '$' || c == '@' || c == ':' || c == '#' then
      match parameterName? rest 0 with
      | some (n, k) => (some (if k == 0 then .illegal else .variable), n + 1)
      | none => (some .illegal, 1 + run (fun c => !isSpace c && c != ')') rest)
    else if startsSpace c then (none, run isSpace cs)
    else if startsName c then
      let n := run continuesName cs
      (some (if (cs.take n).all fun c => c.isAlpha || c == '_' then wordKind (cs.take n) else .name),
        n)
    else if c.isDigit || (c == '.' && (rest.head?.map Char.isDigit).getD false) then
      let (kind, n) := number cs
      (some kind, n)
    else
      match longMarks.find? fun m => m.toList.isPrefixOf cs with
      | some m => (some (.symbol m), m.length)
      | none =>
        if "+-*/%=<>|&~,.();".toList.contains c then (some (.symbol c.toString), 1)
        else (some .illegal, 1)

/-- How many bytes characters are written in. -/
def bytes (cs : List Char) : Nat := cs.foldl (fun n c => n + c.utf8Size) 0

/-- The tokens up to the end of a statement, which a semicolon or the end of the text is, and up to
what is no token. Semicolons in front count nothing. The number bounds the steps. -/
def tokensFrom : Nat → Bool → Nat → List Char → List Token
  | 0, _, _, _ => []
  | fuel + 1, begun, offset, cs =>
    let (kind, n) := lex cs
    let text := cs.take n
    let next (begun : Bool) := tokensFrom fuel begun (offset + bytes text) (cs.drop n)
    match kind with
    | none => next begun
    | some kind =>
      let t : Token := ⟨kind, text, offset, cs⟩
      if kind == .finish || kind == .illegal then [t]
      else if kind == .symbol ";" then if begun then [t] else next false
      else t :: next true

/-- The tokens of the first statement of a text. A zero character ends the text. -/
def Token.ofText (text : String) : List Token :=
  let cs := text.toList.takeWhile (· != '\x00')
  tokensFrom (cs.length + 1) false 0 cs

namespace Token

/-- The text between marks at its ends, where a mark within stands twice. -/
def unmarked (mark : Char) : List Char → List Char
  | [] => []
  | [c] => if c == mark then [] else [c]
  | c :: d :: cs =>
    if c == mark && d == mark then c :: unmarked mark cs
    else if c == mark then []
    else c :: unmarked mark (d :: cs)

/-- The text of a token without marks. -/
def plain (t : Token) : String :=
  match t.text with
  | '[' :: cs => String.ofList (cs.takeWhile (· != ']'))
  | c :: cs =>
    if c == '"' || c == '\'' || c == '\x60' then String.ofList (unmarked c cs)
    else String.ofList t.text
  | [] => ""

/-- The token is a keyword. -/
def isWord (t : Token) (word : String) : Bool := t.kind == .keyword word

/-- The token is a mark. -/
def isMark (t : Token) (mark : String) : Bool := t.kind == .symbol mark

/-- The token can begin a column or a function: a name, or a keyword that may be one. -/
def isName (t : Token) : Bool :=
  match t.kind with
  | .name => true
  | .keyword w => !reservedWords.contains w
  | _ => false

/-- The token as the name of something. -/
def name? (t : Token) : Option String :=
  if t.isName || t.kind == .string then some t.plain else none

/-- The token as a name that nothing introduces. -/
def alias? (t : Token) : Option String :=
  match t.kind with
  | .keyword w => if joinWords.contains w || w == "INDEXED" then none else t.name?
  | _ => t.name?

end Token

end RevisionLog.Sql
