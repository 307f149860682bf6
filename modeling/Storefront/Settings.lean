import Storefront.Value.Convert
import Storefront.Page.Size

/-!
# Settings

The service's settings: where records are kept (a database file, or none for memory), the
default and largest page sizes, and how long a page may take. Settings are checked when made:
the default page size is at least one, the largest is not below the default, and a timeout,
when given, is above zero (a NaN timeout passes). They are read from an environment of
`ECOMM_` variables, where values that are not truthy count as unset.
-/

namespace Storefront

/-- The service's settings. -/
structure Settings where
  database : Value := .none
  defaultPageSize : Value := Storefront.defaultPageSize
  maxPageSize : Value := Storefront.maxPageSize
  queryTimeout : Value := .none

namespace Settings

/-- A comparison of setting values; values that do not compare fail as a type failure. -/
def check (op : CmpOp) (a b : Value) : Except Failure Bool :=
  match Value.test op a b with
  | some r => pure r
  | none => throw (.runtime .typeError)

/-- The settings, if they pass the checks. -/
def validate (s : Settings) : Except Failure Settings := do
  if ← check .lt s.defaultPageSize (.int 1) then
    throw (Failure.valueError "default_page_size must be positive")
  if ← check .lt s.maxPageSize s.defaultPageSize then
    throw (Failure.valueError "max_page_size must not be less than default_page_size")
  if !s.queryTimeout.isNone then
    if ← check .le s.queryTimeout (.int 0) then
      throw (Failure.valueError "query_timeout must be positive")
  pure s

/-- Settings from named fields; an unknown name is refused. -/
def ofFields (fields : List (String × Value)) : Except Failure Settings := do
  let known := ["database", "default_page_size", "max_page_size", "query_timeout"]
  if fields.any (fun f => !known.contains f.1) then throw (.runtime .typeError)
  let field (k : String) (d : Value) : Value := (Value.lookup fields k).getD d
  let database := field "database" .none
  let defaultPageSize := field "default_page_size" (.int 20)
  let maxPageSize := field "max_page_size" (.int 100)
  let queryTimeout := field "query_timeout" .none
  validate { database, defaultPageSize, maxPageSize, queryTimeout }

/-- Settings from environment variables. A variable whose value is not truthy counts as
unset; the page sizes are converted with `toInt` and the timeout with `toFloatValue`, whose
failures are the settings' failures. -/
def ofEnviron (env : List (String × Value)) : Except Failure Settings := do
  let entry (k : String) : Option Value :=
    match Value.lookup env k with
    | some v => if v.truthy then some v else none
    | none => none
  let database := (entry "ECOMM_DATABASE").getD .none
  let defaultPageSize ← ((entry "ECOMM_DEFAULT_PAGE_SIZE").map toInt).getD (pure (.int 20))
  let maxPageSize ← ((entry "ECOMM_MAX_PAGE_SIZE").map toInt).getD (pure (.int 100))
  let queryTimeout ← ((entry "ECOMM_QUERY_TIMEOUT").map toFloatValue).getD (pure .none)
  validate { database, defaultPageSize, maxPageSize, queryTimeout }

/-- The kind of store the settings call for. -/
def storeKind (s : Settings) : String :=
  if s.database.isNone then "ecomm.memory.MemoryStore" else "ecomm.sqlite.Store"

end Settings

end Storefront
