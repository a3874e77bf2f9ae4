/-!
# Row limits

`LimitStyle.apply` caps the rows that a statement answers; a limit of zero or less is no cap.
-/

namespace RevisionLog

/-- How an engine writes a cap on the rows of an answer. -/
inductive LimitStyle
  /-- As `LIMIT n` at the end. -/
  | trailing
  /-- As `FETCH FIRST n ROWS ONLY` at the end. -/
  | fetchFirst
deriving DecidableEq, Repr

namespace LimitStyle

/-- The cap of `limit` rows, as it is written after a statement. -/
def clause (style : LimitStyle) (limit : Int) : String :=
  if limit ≤ 0 then ""
  else
    match style with
    | trailing => " LIMIT " ++ toString limit
    | fetchFirst => " FETCH FIRST " ++ toString limit ++ " ROWS ONLY"

/-- The statement capped at `limit` rows. -/
def apply (style : LimitStyle) (sql : String) (limit : Int) : String := sql ++ style.clause limit

/-- The style's name. -/
def name : LimitStyle → String
  | trailing => "Trailing"
  | fetchFirst => "FetchFirst"

end LimitStyle

end RevisionLog
