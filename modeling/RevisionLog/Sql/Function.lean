import RevisionLog.Engine.Fault
import RevisionLog.Sql.Format
import RevisionLog.Sql.Pattern
import RevisionLog.Text.Reading

/-!
# Functions of expressions

* `Scalar` — functions of a row's values; `Scalar.apply` is the value.
* `Summary` — functions of many rows; `Summary.apply` is the value for the rows' arguments.
* `Callable.find` — what a name with a number of arguments calls.
-/

namespace RevisionLog.Sql

/-- Functions whose value is that of their arguments alone. -/
inductive Scalar
  | abs
  | char
  | concat
  | concatWith
  | format
  | glob
  | hex
  | instr
  | length
  | like
  | lower
  | leftTrim
  | octetLength
  | quote
  | replace
  | round
  | rightTrim
  | sign
  | soundex
  | substring
  | trim
  | typeOf
  | unhex
  | unicode
  | upper
  | version
  | zeroBlob
  /-- No context allows the function. -/
  | contextual
  /-- NULL, for what depends on more than the log. -/
  | unknown
deriving DecidableEq, Repr

/-- Functions of many rows. -/
inductive Summary
  | count
  | sum
  | total
  | average
  | least
  | greatest
  | join
deriving DecidableEq, Repr

/-! ## Text -/

/-- The characters of a cell up to a zero character. -/
def charsOf (c : Cell) : List Char := ((c.shown?.getD "").toList).takeWhile (· != '\x00')

/-- The items from a place on, counted from 1 or from the end; a negative number of them lies in
front of the place. -/
def slice {α : Type} (xs : List α) (start : Int) (count : Option Int) : List α :=
  let size : Int := xs.length
  let wide : Int := 1000000000
  let n := (count.getD wide).natAbs
  let (p, n) : Int × Int :=
    if start < 0 then
      if start + size < 0 then (0, max 0 (n + (start + size))) else (start + size, n)
    else if 0 < start then (start - 1, n)
    else (0, if 0 < n then n - 1 else 0)
  let (p, n) : Int × Int :=
    if (count.getD 0) < 0 then if p - n < 0 then (0, p) else (p - n, n) else (p, n)
  (xs.drop p.toNat).take n.toNat

/-- The place of a part among items, counted from 1; 0 is no place. -/
def placeOf {α : Type} [BEq α] (part : List α) : List α → Nat → Nat
  | [], n => if part.isEmpty then n else 0
  | x :: xs, n => if part.isPrefixOf (x :: xs) then n else placeOf part xs (n + 1)

/-- Every occurrence of a part, from the left, as another. The number bounds the steps. -/
def replaceAll (part by_ : List Char) : Nat → List Char → List Char
  | 0, cs => cs
  | _, [] => []
  | fuel + 1, c :: cs =>
    if part.isPrefixOf (c :: cs) then
      by_ ++ replaceAll part by_ fuel ((c :: cs).drop part.length)
    else c :: replaceAll part by_ fuel cs

/-- Two hexadecimal digits in upper case. -/
def hexPair (b : UInt8) : List Char :=
  [Nat.digitChar (b.toNat / 16), Nat.digitChar (b.toNat % 16)].map Char.toUpper

/-- Bytes in hexadecimal. -/
def hexText (bs : Bytes) : String := String.ofList (bs.flatMap hexPair)

/-- The bytes that pairs of digits write, between which some characters may stand. -/
def unhex? (between : List Char) : List Char → Option Bytes
  | [] => some []
  | c :: cs =>
    if isHexDigit c then
      match cs with
      | d :: ds =>
        if isHexDigit d then
          (unhex? between ds).map (UInt8.ofNat (16 * hexOf c + hexOf d) :: ·)
        else none
      | [] => none
    else if between.contains c then unhex? between cs
    else none
where
  isHexDigit (c : Char) : Bool := (Text.hexValue c).isSome
  hexOf (c : Char) : Nat := (Text.hexValue c).getD 0

/-- Text without some characters at its ends. -/
def strip (left right : Bool) (among : List Char) (s : String) : String :=
  let cs := s.toList
  let cs := if left then cs.dropWhile among.contains else cs
  String.ofList (if right then (cs.reverse.dropWhile among.contains).reverse else cs)

/-- A value as a literal. -/
def literal : Cell → String
  | .null => "NULL"
  | .text s => "'" ++ String.ofList (doubled '\'' s.toList) ++ "'"
  | .blob b => "X'" ++ hexText b ++ "'"
  | c => c.shown?.getD ""

/-- The digit of a letter's sound; vowels have none. -/
def soundOf (c : Char) : Nat :=
  let c := c.toUpper
  if "BFPV".toList.contains c then 1
  else if "CGJKQSXZ".toList.contains c then 2
  else if "DT".toList.contains c then 3
  else if c == 'L' then 4
  else if c == 'M' || c == 'N' then 5
  else if c == 'R' then 6
  else 0

/-- The digits of sounds behind one, where a sound right behind itself does not count. -/
def sounds : Nat → List Char → List Char
  | _, [] => []
  | last, c :: cs =>
    let n := soundOf c
    if n != 0 && n != last then Nat.digitChar n :: sounds n cs else sounds n cs

/-- The sound of a word. -/
def soundex (s : String) : String :=
  match s.toList.dropWhile fun c => !c.isAlpha with
  | [] => "?000"
  | c :: cs => String.ofList ((c.toUpper :: sounds (soundOf c) cs ++ ['0', '0', '0']).take 4)

/-- A number rounded to some places, a half going away from zero. -/
def roundTo (places : Nat) : Binary64 → Binary64
  | .finite negative m e =>
    if places == 0 then .ofRatio negative (Binary64.places 0 m e) 1
    else if 0 ≤ e then .finite negative m e
    else .ofDecimal negative (Binary64.places places m e) (-(places : Int))
  | r => r

namespace Scalar

/-- The value of a function. -/
def apply (f : Scalar) (args : List Cell) : Except Fault Cell := do
  match f, args with
  | abs, [c] =>
    match c with
    | .null => return .null
    | .int i => if i == minInt then throw (.failure 1 (some "integer overflow")) else return .int i.natAbs
    | c => return .real (if c.toReal.isNegative then c.toReal.negate else c.toReal)
  | char, cs =>
    return .text (String.ofList (cs.map fun c =>
      let i := c.integer
      if i < 0 then Text.replacement else (Text.charOf i.toNat).getD Text.replacement))
  | concat, cs => return .text (String.join (cs.map fun c => c.shown?.getD ""))
  | concatWith, s :: cs =>
    match s.shown? with
    | none => return .null
    | some s => return .text (s.intercalate ((cs.filterMap (·.shown?)).filter (· != "")))
  | format, c :: cs =>
    match c.shown? with
    | none => return .null
    | some s => return .text (formatText s cs)
  | glob, [p, s] =>
    if isTooComplex p then throw .tooComplex else return Sql.glob p s
  | like, [p, s] =>
    if isTooComplex p then throw .tooComplex else return Sql.like p s none
  | like, [p, s, e] =>
    if isTooComplex p then throw .tooComplex
    match e.shown? with
    | none => return .null
    | some _ =>
      match codesOf e with
      | [c] => return Sql.like p s (some c)
      | _ => throw (.failure 1 (some "ESCAPE expression must be a single character"))
  | hex, [c] => return .text (hexText (c.bytes?.getD []))
  | instr, [a, b] =>
    match a, b with
    | .null, _ | _, .null => return .null
    | .blob a, .blob b => return .int (placeOf b a 1)
    | a, b => return .int (placeOf (b.shown?.getD "").toList (a.shown?.getD "").toList 1)
  | length, [c] =>
    match c with
    | .null => return .null
    | .text _ => return .int (charsOf c).length
    | c => return .int (c.bytes?.getD []).length
  | octetLength, [c] =>
    match c.bytes? with
    | none => return .null
    | some bs => return .int bs.length
  | lower, [c] => return (c.shown?.map fun s => Cell.text (s.map Char.toLower)).getD .null
  | upper, [c] => return (c.shown?.map fun s => Cell.text (s.map Char.toUpper)).getD .null
  | trim, c :: among => return stripped true true c among
  | leftTrim, c :: among => return stripped true false c among
  | rightTrim, c :: among => return stripped false true c among
  | quote, [c] => return .text (literal c)
  | replace, [s, part, by_] =>
    match s.shown?, part.shown? with
    | some cs, some p =>
      if p.isEmpty then return s
      match by_.shown? with
      | some b => return .text (String.ofList (replaceAll p.toList b.toList cs.length cs.toList))
      | none => return .null
    | _, _ => return .null
  | round, c :: places =>
    match c, places with
    | .null, _ | _, [.null] => return .null
    | c, places =>
      let n := ((places.head?.map (·.integer)).getD 0)
      return .real (roundTo (max 0 (min 30 n)).toNat c.toReal)
  | sign, [c] =>
    let c : Cell := match c with
      | .text s => if (Cell.text s).preferInteger.type == .text then Cell.null else c
      | .blob _ => .null
      | c => c
    if c == .null then return .null
    return .int (if c.toReal.isZero then 0 else if c.toReal.isNegative then -1 else 1)
  | soundex, [c] => return .text (Sql.soundex (c.shown?.getD ""))
  | substring, c :: start :: count =>
    if start == .null || count == [.null] then return .null
    let count := count.head?.map (·.integer)
    match c with
    | .null => return .null
    | .blob b => return .blob (slice b start.integer count)
    | c => return .text (String.ofList (slice (charsOf c) start.integer count))
  | typeOf, [c] => return .text (c.type.name.map Char.toLower)
  | unhex, c :: between =>
    if c == .null || between == [.null] then return .null
    let among := (between.head?.map charsOf).getD []
    return ((unhex? among (charsOf c)).map Cell.blob).getD .null
  | unicode, [c] =>
    match charsOf c with
    | [] => return .null
    | x :: _ => return .int x.toNat
  | version, _ => return .text "3.45.1"
  | zeroBlob, [c] => return .blob (List.replicate c.integer.toNat 0)
  | contextual, _ =>
    throw (.failure 1 (some "unable to use function MATCH in the requested context"))
  | _, _ => return .null
where
  stripped (left right : Bool) (c : Cell) (among : List Cell) : Cell :=
    match c.shown?, among with
    | none, _ | _, [.null] => .null
    | some s, [] => .text (strip left right [' '] s)
    | some s, a :: _ => .text (strip left right (charsOf a) s)

end Scalar

/-! ## Summaries -/

/-- The sum of cells: an integer while all of them are, or a real. -/
def sumOf (cs : List Cell) : Except Fault Cell :=
  let numeric (c : Cell) : Cell :=
    match c with
    | .text s => match (Cell.text s).preferInteger with
      | .text _ => .real c.toReal
      | n => n
    | .blob _ => .real c.toReal
    | c => c
  let ns := cs.map numeric
  if ns.all fun c => c.type == .integer then
    let i := ns.foldl (fun s c => s + c.integer) 0
    if minInt ≤ i && i ≤ maxInt then .ok (.int i) else .error (.failure 1 (some "integer overflow"))
  else .ok (Cell.ofReal (ns.foldl (fun s c => s.add c.toReal) (.zero false)))

namespace Summary

/-- The value for the arguments of each row. Rows whose first argument is NULL do not count. -/
def apply (f : Summary) (collation : Collation) (rows : List (List Cell)) : Except Fault Cell := do
  let known := rows.filter fun r => r.head? != some .null
  let firsts := known.filterMap List.head?
  let total := firsts.foldl (fun s c => s.add c.toReal) (.zero false)
  let c : Comparison := { collation }
  match f with
  | count => return .int known.length
  | sum => if firsts.isEmpty then return .null else sumOf firsts
  | Summary.total => return Cell.ofReal total
  | average =>
    if firsts.isEmpty then return .null
    return Cell.ofReal (total.divide (.ofInt firsts.length))
  | least =>
    return (firsts.foldl (fun (b : Option Cell) x =>
      match b with
      | none => some x
      | some b => some (if c.order x b == .lt then x else b)) none).getD .null
  | greatest =>
    return (firsts.foldl (fun (b : Option Cell) x =>
      match b with
      | none => some x
      | some b => some (if c.order b x == .lt then x else b)) none).getD .null
  | join =>
    if known.isEmpty then return .null
    let texts := known.zipIdx.map fun (r, i) =>
      let separator := match r with
        | [_, s] => s.shown?.getD ""
        | _ => ","
      (if i == 0 then "" else separator) ++ ((r.head?.bind (·.shown?)).getD "")
    return .text (String.join texts)

/-- The rows from whose last one on the value stands. -/
def bestIndex (f : Summary) (collation : Collation) (rows : List (List Cell)) : Nat :=
  let c : Comparison := { collation }
  let better (x b : Cell) : Bool := if f == greatest then c.order b x == .lt else c.order x b == .lt
  let best := rows.zipIdx.foldl (fun (b : Option (Cell × Nat)) (r, i) =>
    match r.head?, b with
    | some .null, b => b
    | some x, none => some (x, i)
    | some x, some (y, j) => if better x y then some (x, i) else some (y, j)
    | none, b => b) none
  (best.map (·.2)).getD 0

end Summary

/-! ## Names -/

/-- What a name calls. -/
inductive Callable
  | function (f : Scalar)
  | summary (f : Summary)
  /-- The first argument that is not NULL. -/
  | firstKnown
  /-- The second argument if the first is true, or the third. -/
  | choice
  /-- The first argument, or NULL if it equals the second. -/
  | nullIf
  /-- The first argument. -/
  | first
  /-- The first argument, beside how likely it is true. -/
  | likelihood
  /-- The least or the greatest argument. -/
  | extreme (greatest : Bool)
  /-- The id of the row that was last put in. -/
  | lastId
  /-- A function of a window of rows. -/
  | window

/-- The names, with what they call and with how many arguments at least and at most. -/
def Callable.table : List (String × Callable × Nat × Nat) :=
  let many := 127
  [("abs", .function .abs, 1, 1), ("char", .function .char, 0, many),
    ("coalesce", .firstKnown, 2, many), ("ifnull", .firstKnown, 2, 2), ("iif", .choice, 3, 3),
    ("nullif", .nullIf, 2, 2), ("likely", .first, 1, 1), ("unlikely", .first, 1, 1),
    ("likelihood", .likelihood, 2, 2), ("concat", .function .concat, 1, many),
    ("concat_ws", .function .concatWith, 2, many), ("format", .function .format, 0, many),
    ("printf", .function .format, 0, many), ("glob", .function .glob, 2, 2),
    ("hex", .function .hex, 1, 1), ("instr", .function .instr, 2, 2),
    ("length", .function .length, 1, 1), ("like", .function .like, 2, 3),
    ("lower", .function .lower, 1, 1), ("upper", .function .upper, 1, 1),
    ("ltrim", .function .leftTrim, 1, 2), ("rtrim", .function .rightTrim, 1, 2),
    ("trim", .function .trim, 1, 2), ("octet_length", .function .octetLength, 1, 1),
    ("quote", .function .quote, 1, 1), ("replace", .function .replace, 3, 3),
    ("round", .function .round, 1, 2), ("sign", .function .sign, 1, 1),
    ("soundex", .function .soundex, 1, 1), ("substr", .function .substring, 2, 3),
    ("substring", .function .substring, 2, 3), ("typeof", .function .typeOf, 1, 1),
    ("unhex", .function .unhex, 1, 2), ("unicode", .function .unicode, 1, 1),
    ("sqlite_version", .function .version, 0, 0), ("zeroblob", .function .zeroBlob, 1, 1),
    ("match", .function .contextual, 2, 2), ("last_insert_rowid", .lastId, 0, 0),
    ("max", .summary .greatest, 1, 1), ("max", .extreme true, 2, many),
    ("min", .summary .least, 1, 1), ("min", .extreme false, 2, many),
    ("count", .summary .count, 0, 1), ("sum", .summary .sum, 1, 1),
    ("total", .summary .total, 1, 1), ("avg", .summary .average, 1, 1),
    ("group_concat", .summary .join, 1, 2), ("string_agg", .summary .join, 2, 2),
    ("row_number", .window, 0, 0), ("rank", .window, 0, 0), ("dense_rank", .window, 0, 0),
    ("percent_rank", .window, 0, 0), ("cume_dist", .window, 0, 0), ("ntile", .window, 1, 1),
    ("first_value", .window, 1, 1), ("last_value", .window, 1, 1), ("nth_value", .window, 2, 2),
    ("lead", .window, 1, 3), ("lag", .window, 1, 3)] ++
  ([("changes", 0, 0), ("total_changes", 0, 0), ("random", 0, 0), ("randomblob", 1, 1),
    ("sqlite_source_id", 0, 0), ("sqlite_compileoption_used", 1, 1),
    ("sqlite_compileoption_get", 1, 1), ("sqlite_log", 2, 2), ("subtype", 1, 1),
    ("load_extension", 1, 2), ("date", 0, many), ("time", 0, many), ("datetime", 0, many),
    ("julianday", 0, many), ("strftime", 1, many), ("unixepoch", 0, many), ("timediff", 2, 2),
    ("current_date", 0, 0), ("current_time", 0, 0), ("current_timestamp", 0, 0),
    ("json", 1, 1), ("json_array", 0, many), ("json_array_length", 1, 2),
    ("json_error_position", 1, 1), ("json_extract", 0, many), ("json_insert", 0, many),
    ("json_object", 0, many), ("json_patch", 2, 2), ("json_quote", 1, 1),
    ("json_remove", 0, many), ("json_replace", 0, many), ("json_set", 0, many),
    ("json_type", 1, 2), ("json_valid", 1, 2), ("->", 2, 2), ("->>", 2, 2)].map fun (name, least, most) =>
      (name, Callable.function .unknown, least, most))

/-- What a name calls on a number of arguments: `none` is no such name at all, and `some none` is
one that takes another number of them. -/
def Callable.find (name : String) (count : Nat) : Option (Option Callable) :=
  match Callable.table.filter fun (n, _) => n == name.map Char.toLower with
  | [] => none
  | named =>
    some ((named.find? fun (_, _, least, most) => least ≤ count && count ≤ most).map fun (_, c, _) => c)

end RevisionLog.Sql
