import RevisionLog.Engine.Fault
import RevisionLog.Text.Reading
import RevisionLog.Text.Utf8

/-!
# Addresses of databases

A database is asked for by the name of its file, or by a URI with the scheme `file:`, whose options
say how the file is to be used.

* `Address` — a file, or a place in memory, and how it is used.
* `Address.segment` — a part of a URI, with its `%` pairs as the bytes they stand for.
* `Address.parse` — the address that a text gives, or why it gives none.
-/

namespace RevisionLog

/-- How connections to one file keep out of each other's way. -/
inductive Sharing
  /-- Through a log beside the file. -/
  | byLog
  /-- Through a log, but all connections belong to one program. -/
  | byOneProgram
  /-- Not at all: a file with a log is out of reach. -/
  | none
deriving DecidableEq, Repr

/-- What a connection may do with a file. -/
inductive Mode
  | readOnly
  | readWrite
  /-- Reads and writes, and makes a file that is absent. -/
  | create
  /-- There is no file: the database is in memory. -/
  | memory
deriving DecidableEq, Repr

namespace Mode

/-- The names of the modes. -/
def names : List (String × Mode) :=
  [("ro", readOnly), ("rw", readWrite), ("rwc", create), ("memory", memory)]

/-- How much a mode asks for. -/
def wish : Mode → Nat
  | readOnly => 1
  | readWrite => 2
  | create => 6
  | memory => 0

/-- How much may be asked for once a mode has been named. -/
def bound : Mode → Nat
  | memory => 128
  | mode => mode.wish

end Mode

/-- A place for a database, and how it is used. -/
structure Address where
  /-- The name of the file; the empty one stands for a database that ends with its connection. -/
  name : String
  mode : Mode := .create
  /-- The database lies in memory, although it may have the name of a file. -/
  isVolatile : Bool := false
  /-- A database in memory is one for all connections of a program. -/
  isCommon : Bool := false
  sharing : Sharing := .byLog
  /-- The file is taken for one that cannot change, and its log is not looked at. -/
  isFixed : Bool := false
deriving DecidableEq, Repr

namespace Address

/-- A byte of ASCII. -/
def byte (c : Char) : UInt8 := UInt8.ofNat c.toNat

/-- The byte that a pair of digits stands for. -/
def hexPair? (a b : UInt8) : Option UInt8 := do
  return UInt8.ofNat
    (16 * (← Text.hexValue (Char.ofNat a.toNat)) + (← Text.hexValue (Char.ofNat b.toNat)))

/-- The bytes up to one that ends them, and the rest from there. -/
def upTo (ends : UInt8 → Bool) (bs : Bytes) : Bytes × Bytes :=
  (bs.takeWhile (!ends ·), bs.dropWhile (!ends ·))

/-- A part of a URI up to a byte that ends it, and the rest from there. A pair `%00` cuts off what
is left of the part. -/
def segment (ends : UInt8 → Bool) : Bytes → Bytes × Bytes
  | [] => ([], [])
  | b :: bs =>
    if ends b then ([], b :: bs)
    else
      match bs with
      | x :: y :: rest =>
        match if b == byte '%' then hexPair? x y else none with
        | some 0 => ([], (upTo ends rest).2)
        | some d => let (ds, rest) := segment ends rest; (d :: ds, rest)
        | none => let (ds, rest) := segment ends (x :: y :: rest); (b :: ds, rest)
      | bs => let (ds, rest) := segment ends bs; (b :: ds, rest)

/-- Options between `&`, each a name with or without `=` and a value. One without a name counts for
nothing. -/
def options : Nat → Bytes → List (String × String)
  | 0, _ | _, [] => []
  | fuel + 1, bs =>
    let (name, rest) := segment (fun b => b == byte '=' || b == byte '&') bs
    let (value, rest) :=
      if rest.head? == some (byte '=') then segment (· == byte '&') rest.tail else ([], rest)
    let others := options fuel rest.tail
    if name.isEmpty then others
    else (Text.decodeLossy name, Text.decodeLossy value) :: others

/-- The number at the front of a text, or 0 for one that needs more than 31 bits. -/
def leadingNumber (s : String) : Nat :=
  let decimal := Digits.value (Digits.take s.toList).1
  let n :=
    match s.toList with
    | '0' :: x :: cs =>
      match if x == 'x' || x == 'X' then cs.takeWhile fun c => (Text.hexValue c).isSome else [] with
      | [] => decimal
      | ds => ds.foldl (fun n d => 16 * n + (Text.hexValue d).getD 0) 0
    | _ => decimal
  if n < 2147483648 then n else 0

/-- An option is set: by a word, or by a number whose last byte is not 0. -/
def isSet (options : List (String × String)) (name : String) : Bool :=
  match options.lookup name with
  | none => false
  | some value =>
    if (value.toList.head?.map Char.isDigit).getD false then leadingNumber value % 256 != 0
    else ["on", "yes", "true", "extra", "full"].contains (value.map Char.toLower)

/-- The systems of files: their names, whether they are in memory, and how they share a file. -/
def systems : List (String × Bool × Sharing) :=
  [("unix", false, .byLog), ("unix-excl", false, .byOneProgram), ("unix-none", false, .none),
    ("unix-dotfile", false, .none), ("memdb", true, .none)]

/-- The mode after the options. Each may ask for no more than the one before it allows. -/
def modeOf (mode : Mode) : List (String × String) → Except Fault Mode
  | [] => .ok mode
  | (name, value) :: rest =>
    if name == "cache" && value != "shared" && value != "private" then
      .error (.failure 1 (some ("no such cache mode: " ++ value)))
    else if name == "mode" then
      match Mode.names.lookup value with
      | none => .error (.failure 1 (some ("no such access mode: " ++ value)))
      | some asked =>
        if mode.bound < asked.wish then
          .error (.failure 3 (some ("access mode not allowed: " ++ value)))
        else modeOf asked rest
    else modeOf mode rest

/-- The last value of an option. -/
def last? (options : List (String × String)) (name : String) : Option String :=
  options.reverse.lookup name

/-- The rest behind the host of a URI, which can only be this one. -/
def skipHost (bs : Bytes) : Except Fault Bytes :=
  match bs with
  | 0x2f :: 0x2f :: bs =>
    let (host, rest) := upTo (· == byte '/') bs
    if host.isEmpty || Text.decodeLossy host == "localhost" then .ok rest
    else .error (.failure 1 (some ("invalid uri authority: " ++ Text.decodeLossy host)))
  | bs => .ok bs

/-- The address that a name with options gives. -/
def ofOptions (name : String) (options : List (String × String)) : Except Fault Address := do
  let mode ← modeOf .create options
  let system := (last? options "vfs").getD "unix"
  match systems.lookup system with
  | none => .error (.failure 1 (some ("no such vfs: " ++ system)))
  | some (inMemory, sharing) =>
    let isNamed := name != "" && name != ":memory:"
    let isCached := last? options "cache" == some "shared" && name != ""
    let isRooted := 1 < name.utf8ByteSize && (name.startsWith "/" || name.startsWith "\\")
    let isMemory := mode == .memory || !isNamed
    return {
      name
      mode
      isVolatile := inMemory || isMemory
      isCommon := isCached || (inMemory && !isMemory && isRooted)
      sharing := if isSet options "nolock" then .none else sharing
      isFixed := isSet options "immutable" && !isMemory }

/-- What a URI begins with. -/
def scheme : String := "file:"

/-- The address that a text gives. -/
def parse (text : String) : Except Fault Address :=
  if text.startsWith scheme then do
    let bs := (Text.encode text).drop scheme.utf8ByteSize |>.takeWhile (· != 0)
    let rest ← skipHost bs
    let rest := rest.takeWhile (· != byte '#')
    let (name, rest) := segment (· == byte '?') rest
    ofOptions (Text.decodeLossy name) (options rest.length rest.tail)
  else return { name := text, isVolatile := text == "" || text == ":memory:" }

end Address

end RevisionLog
