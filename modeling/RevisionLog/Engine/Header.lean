import RevisionLog.Engine.Fault
import RevisionLog.Text.Utf8

/-!
# The first page of a database file

A file that the log has not made is taken for a database if its first page says so. The page begins
with a header, and behind it stands the root of the catalog, which holds no table in a file that is
accepted.

* `Header.read` — what the first page of a file says, or why the file is no database.
-/

namespace RevisionLog

/-- What the header of a database file says. -/
structure Header where
  /-- Changes go to a log beside the file before they come into it. -/
  hasLog : Bool
  /-- The file may be written. -/
  isWritable : Bool
  /-- The free space is where the first page says. -/
  isSound : Bool
deriving DecidableEq, Repr

namespace Header

/-- What a database file begins with. -/
def magic : Bytes := Text.encode "SQLite format 3\x00"

/-- How many bytes of a file are looked at: the header and the head of the catalog's root. -/
def size : Nat := 108

/-- The number that `count` bytes write from `start` on, the greatest place first. -/
def number (bs : Bytes) (start count : Nat) : Nat :=
  ((bs.drop start).take count).foldl (fun n b => 256 * n + b.toNat) 0

/-- The size of a page, of which 1 stands for the greatest. -/
def pageSize (bs : Bytes) : Nat :=
  let n := number bs 16 2
  if n == 1 then 65536 else n

/-- The size of a page is a power of two from 512 on. -/
def isPageSize (n : Nat) : Bool := 512 ≤ n && n == 1 <<< n.log2

/-- The number of pages that the header tells, if it is up to date. -/
def pageCount (bs : Bytes) : Nat := if number bs 24 4 == number bs 92 4 then number bs 28 4 else 0

/-- The catalog's root is a leaf without an entry. -/
def isCatalogEmpty (bs : Bytes) : Bool := number bs 100 1 == 13 && number bs 103 2 == 0

/-- Free space is told as it is in a page without entries: in one piece up to the end of the page,
and with no page set aside. -/
def hasFreeSpace (usable : Nat) (bs : Bytes) : Bool :=
  let content := if number bs 105 2 == 0 then 65536 else number bs 105 2
  let free := content + number bs 107 1
  number bs 101 2 == 0 && size ≤ free && free ≤ usable && number bs 36 4 == 0

/-- What the first bytes of a file of `length` bytes say. -/
def ofBytes (length : Nat) (bs : Bytes) : Except Fault Header :=
  let page := pageSize bs
  let usable := page - number bs 20 1
  if bs.take 16 != magic || 2 < number bs 19 1 || (bs.drop 21).take 3 != [64, 32, 32] ||
      !isPageSize page then
    .error .notDatabase
  else if (length + page - 1) / page < pageCount bs then .error .malformed
  else if usable < 480 then .error .notDatabase
  else if 4 < number bs 47 1 then .error (.failure 1 (some "unsupported file format"))
  else if !isCatalogEmpty bs then .error .malformed
  else
    .ok {
      hasLog := number bs 19 1 == 2
      isWritable := number bs 18 1 ≤ 2
      isSound := hasFreeSpace usable bs }

/-- What the text of a file says; one of a single byte is as good as an empty file, and `none`. -/
def read (text : String) : Except Fault (Option Header) :=
  let bs := Text.encode text
  if bs.length ≤ 1 then .ok none
  else (ofBytes bs.length ((bs ++ List.replicate size 0).take size)).map some

end Header

end RevisionLog
