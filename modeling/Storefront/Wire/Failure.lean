import Storefront.Wire.Value

/-!
# Failures in answers

A failure is answered as an object: its class name under `error`, its text under `message`
when the service wrote that text, the HTTP status of a service error, the path of a codec
failure, and the token, operation or record id it names. A server error also shows the
failure that caused it, one level deep.
-/

namespace Storefront

/-- A path step as it reads inside a list: a quoted name or a number. -/
def PathStep.repr : PathStep → String
  | .field n => Value.quoted n
  | .index i => toString i

/-- A path step in an answer. -/
def PathStep.toJson : PathStep → Json
  | .field n => .str n
  | .index i => .int i

/-- The text of a codec failure's path: the steps in brackets, or nothing without a path. -/
def pathText : Option (List PathStep) → String
  | none => ""
  | some ps => "[" ++ ", ".intercalate (ps.map PathStep.repr) ++ "]"

namespace Failure

/-- The service's text of a failure; a runtime failure has none. -/
def message? : Failure → Option String
  | encode p | decode p => some (pathText p)
  | rejected _ m => some m
  | runtime _ | runtimeText _ _ | runtimeArgs _ _ | raised .. => none
  | thrown f _ => f.message?
  | status _ m _ => some m
  | invalidCursor t => some ("invalid page token: " ++ t.plain)
  | storeQuery op rid _ => some (storeQueryMessage op rid)
  | record _ m => some m
  | malformed m => some m

/-- The failure that caused a server error. -/
def cause? : Failure → Option Failure
  | status code _ c => if code ≥ 500 then c else none
  | storeQuery _ _ c => c
  | thrown f _ => f.cause?
  | _ => none

/-- A value a failure names, written as plain JSON where it has a plain form. -/
def namedJson (v : Value) : Json :=
  match Wire.plain v with
  | .ok j => j
  | .error _ => Wire.render v

/-- The members that say what a failure names: path, token, operation, record id. -/
def details : Failure → List (String × Json)
  | encode p | decode p => [("path", match p with
      | none => .null
      | some ps => .arr (ps.map PathStep.toJson))]
  | invalidCursor t => [("token", namedJson t)]
  | storeQuery op rid _ => [("operation", namedJson op), ("record_id", namedJson rid)]
  | record rid _ => [("record_id", namedJson rid)]
  | thrown f _ => f.details
  | _ => []

/-- A failure in an answer, without its cause. -/
def toJsonFlat (f : Failure) : List (String × Json) :=
  [("error", Json.str f.name)] ++
  (match f.message? with | some m => [("message", Json.str m)] | none => []) ++
  (match f.httpStatus? with | some c => [("status", Json.int c)] | none => []) ++
  f.details

/-- A failure in an answer; a server error shows its cause. -/
def toJson (f : Failure) : List (String × Json) :=
  f.toJsonFlat ++ match f.cause? with
    | some c => [("cause", .obj c.toJsonFlat)]
    | none => []

end Failure

end Storefront
