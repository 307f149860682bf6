import Storefront.Value.Text
import Storefront.Value.Compare
import Storefront.Failure
import Storefront.Log

/-!
# Page sizes

The size of a page is the one requested, unless the request is missing or below one (then
the default) or above the maximum (then the maximum); each adjustment is logged. The request
is compared as a value, so a request that does not compare with numbers fails as a type
failure, and one that passes the bounds is kept as it is.
-/

namespace Storefront

/-- The default page size. -/
def defaultPageSize : Value := .int 20

/-- The default largest page size. -/
def maxPageSize : Value := .int 100

/-- A comparison of values, failing as a type failure when the two do not compare. -/
def compareValues (op : CmpOp) (a b : Value) : Except Failure Bool :=
  match Value.test op a b with
  | some r => pure r
  | none => throw (.runtime .typeError)

/-- The effective page size for a requested one, with the warning of any adjustment. -/
def clampPageSize (requested default maximum : Value) : Except Failure (Value × List Note) := do
  let low ← if requested.isNone then pure true else compareValues .lt requested (.int 1)
  if low then
    return (default, [Note.warn ("non-positive page size adjusted to default (requested=" ++
      requested.plain ++ ", default=" ++ default.plain ++ ")")])
  let high ← compareValues .gt requested maximum
  if high then
    return (maximum, [Note.warn ("excessive page size adjusted to maximum (requested=" ++
      requested.plain ++ ", max=" ++ maximum.plain ++ ")")])
  return (requested, [])

end Storefront
