import RevisionLog.Record
import RevisionLog.Statement.Limit
import RevisionLog.Statement.Placeholder

/-!
# The statements of the log

The log speaks to its engine in a fixed vocabulary. All lists share one skeleton: of each matching
name the newest eligible id, joined back to its row, tombstones hidden unless asked for; the lists
differ in the condition put into the inner query.

* `Flavor` — what differs between engines.
* `Templates.build` — every statement, written for one flavor.
-/

namespace RevisionLog

/-- The one table that holds every record. -/
def tableName : String := "kine"

/-- What differs between engines in the text of a statement. -/
structure Flavor where
  placeholder : Placeholder
  limit : LimitStyle := .trailing
  /-- What a name must exceed to come after the cursor: an expression with one `?`, for which the
  empty cursor is before every name. -/
  nameFloor : String := "?"
  /-- Put after a query that reads no table. -/
  scalarFrom : String := ""
  /-- Put after an insertion, to learn the new id. -/
  returning : String := " RETURNING id"
deriving DecidableEq, Repr

/-- The flavor of Oracle. -/
def Flavor.oracle : Flavor where
  placeholder := .numbered ":"
  limit := .fetchFirst
  nameFloor := "NVL(?, CHR(1))"
  scalarFrom := " FROM dual"
  returning := " RETURNING id INTO ?"

/-- The flavor of SQLite. -/
def Flavor.sqlite : Flavor where
  placeholder := .numbered "?"

/-- Every statement that the log issues. -/
structure Templates where
  /-- One row by id, with no revisions: `(id)`. -/
  getRevision : String
  /-- The list of `(pattern, cursor, with tombstones)`. -/
  getCurrent : String
  /-- The list of `(pattern, revision, with tombstones)`. -/
  listRevisionStart : String
  /-- The list of `(pattern, cursor, revision, with tombstones)`. -/
  getRevisionAfter : String
  /-- The current revision and a count: `(pattern, cursor, with tombstones)`. -/
  countCurrent : String
  /-- The current revision and a count: `(pattern, cursor, revision, with tombstones)`. -/
  countRevision : String
  /-- Every row above a revision, by ascending id: `(pattern, revision)`. -/
  after : String
  /-- Removes one row: `(id)`. -/
  delete : String
  /-- The highest id. -/
  revision : String
  /-- The compaction watermark. -/
  compactRevision : String
  /-- The columns of a draft in order, answering the new id. -/
  insert : String
  /-- As `insert`, with no answer. -/
  insertLastInsertId : String
  /-- Appends a watermark: `(revision)`. -/
  setCompactRevision : String
  /-- Removes the superseded rows: `(revision, revision, revision)`. -/
  compact : String
  limit : LimitStyle
deriving DecidableEq, Repr

namespace Templates

/-- The record columns of every query that answers rows. -/
def columns : String :=
  "kv.id AS theid, kv.name AS thename, kv.created, kv.deleted, kv.create_revision, " ++
    "kv.prev_revision, kv.lease, kv.value, kv.old_value"

/-- The columns of a draft. -/
def insertColumns : String :=
  "name, created, deleted, create_revision, prev_revision, lease, value, old_value"

/-- The query for the highest id. -/
def revisionSql : String := "SELECT MAX(rkv.id) AS id FROM " ++ tableName ++ " rkv"

/-- The query for the compaction watermark. -/
def compactRevisionSql : String :=
  "SELECT MAX(crkv.prev_revision) AS prev_revision FROM " ++ tableName ++
    " crkv WHERE crkv.name = '" ++ sentinelName ++ "'"

/-- The two revisions as columns. -/
def revisionColumns : String := "(" ++ revisionSql ++ "), (" ++ compactRevisionSql ++ ")"

/-- The newest row of each name among those that match a pattern and `condition`. -/
def listSql (condition : String) : String :=
  "SELECT *
     FROM (
       SELECT " ++ revisionColumns ++ ", " ++ columns ++ "
       FROM " ++ tableName ++ " kv
       JOIN (
         SELECT MAX(mkv.id) AS id
         FROM " ++ tableName ++ " mkv
         WHERE mkv.name LIKE ?
           " ++ condition ++ "
         GROUP BY mkv.name) maxkv
         ON maxkv.id = kv.id
       WHERE kv.deleted = 0 OR kv.deleted = ?
     ) lkv
     ORDER BY lkv.thename ASC"

/-- The current revision and the number of rows of a list. -/
def countSql (condition scalarFrom : String) : String :=
  "SELECT (" ++ revisionSql ++ "), (SELECT COUNT(c.theid) FROM (" ++ listSql condition ++ ") c)" ++
    scalarFrom

/-- The query for one row. -/
def getSql : String :=
  "SELECT 0, 0, " ++ columns ++ " FROM " ++ tableName ++ " kv WHERE kv.id = ?"

/-- The query for the rows above a revision. -/
def afterSql : String :=
  "SELECT " ++ revisionColumns ++ ", " ++ columns ++ "
         FROM " ++ tableName ++ " kv
         WHERE kv.name LIKE ? AND kv.id > ?
         ORDER BY kv.id ASC"

/-- The removal of one row. -/
def deleteSql : String := "DELETE FROM " ++ tableName ++ " WHERE id = ?"

/-- The insertion of a draft. -/
def insertSql : String :=
  "INSERT INTO " ++ tableName ++ " (" ++ insertColumns ++ ") VALUES (?, ?, ?, ?, ?, ?, ?, ?)"

/-- The insertion of a watermark. -/
def setCompactSql : String :=
  "INSERT INTO " ++ tableName ++ " (" ++ insertColumns ++ ")
         VALUES ('" ++ sentinelName ++ "', 0, 0, 0, ?, 0, NULL, NULL)"

/-- The sweep: the predecessors of rows up to a revision, the tombstones up to it, and the
watermarks below it. -/
def compactSql : String :=
  "DELETE FROM " ++ tableName ++ " WHERE id IN (
           SELECT kp.prev_revision FROM " ++ tableName ++ " kp
           WHERE kp.name != '" ++ sentinelName ++ "' AND kp.prev_revision != 0 AND kp.id <= ?
           UNION
           SELECT kd.id FROM " ++ tableName ++ " kd
           WHERE kd.deleted != 0 AND kd.id <= ?
           UNION
           SELECT kc.id FROM " ++ tableName ++ " kc
           WHERE kc.name = '" ++ sentinelName ++ "' AND kc.prev_revision < ?
         )"

/-- The condition that a name comes after the cursor. -/
def floorSql (flavor : Flavor) : String := "AND mkv.name > " ++ flavor.nameFloor

/-- Every statement in the form of `flavor`. -/
def build (flavor : Flavor) : Templates :=
  let q := flavor.placeholder.apply
  { getRevision := q getSql
    getCurrent := q (listSql (floorSql flavor))
    listRevisionStart := q (listSql "AND mkv.id <= ?")
    getRevisionAfter := q (listSql "AND mkv.name > ? AND mkv.id <= ?")
    countCurrent := q (countSql (floorSql flavor) flavor.scalarFrom)
    countRevision := q (countSql (floorSql flavor ++ " AND mkv.id <= ?") flavor.scalarFrom)
    after := q afterSql
    delete := q deleteSql
    revision := revisionSql
    compactRevision := compactRevisionSql
    insert := q (insertSql ++ flavor.returning)
    insertLastInsertId := q insertSql
    setCompactRevision := q setCompactSql
    compact := q compactSql
    limit := flavor.limit }

/-- The statement capped at `limit` rows in the engine's way. -/
def limited (t : Templates) (sql : String) (limit : Int) : String := t.limit.apply sql limit

end Templates

end RevisionLog
