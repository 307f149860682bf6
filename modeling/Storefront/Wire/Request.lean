import Storefront.Wire.Failure

/-!
# Requests

A request is a JSON object; its members are read by name. A member that a request must have
and lacks, or that has the wrong shape, makes the request malformed.
-/

namespace Storefront.Wire

/-- The members of a request object. -/
abbrev Request := List (String × Json)

/-- The members of an answer object. -/
abbrev Answer := List (String × Json)

namespace Request

/-- A member that must be present. -/
def need (r : Request) (k : String) : CodecM Json :=
  match member? r k with
  | some j => pure j
  | none => throw (.malformed ("missing member " ++ k))

/-- A member, or null when absent. -/
def opt (r : Request) (k : String) : Json := (member? r k).getD .null

/-- A member that must be text. -/
def text (r : Request) (k : String) : CodecM String := do
  match ← r.need k with
  | .str s => pure s
  | _ => throw (.malformed (k ++ " must be text"))

/-- A member that must be an integer. -/
def int (r : Request) (k : String) : CodecM Int := do
  match ← r.need k with
  | .int i => pure i
  | _ => throw (.malformed (k ++ " must be an integer"))

/-- A member that must be an object, or the empty object when absent. -/
def obj (r : Request) (k : String) : CodecM (List (String × Json)) :=
  match r.opt k with
  | .obj ms => pure ms
  | .null => pure []
  | _ => throw (.malformed (k ++ " must be an object"))

/-- A member that must be an array, or the empty array when absent. -/
def arr (r : Request) (k : String) : CodecM (List Json) :=
  match r.opt k with
  | .arr xs => pure xs
  | .null => pure []
  | _ => throw (.malformed (k ++ " must be an array"))

/-- A member read as a value, none when absent. -/
def value (r : Request) (k : String) : CodecM Value := valueOf (r.opt k)

/-- A flag, false when absent. -/
def flag (r : Request) (k : String) : Bool :=
  match r.opt k with
  | .bool b => b
  | _ => false

end Request

/-- Run a step of pure work that may fail. -/
def lift (x : Except Failure α) : CodecM α :=
  match x with
  | .ok a => pure a
  | .error e => throw e

/-- Run a step of pure work that may have no result, failing with the given failure. -/
def liftOpt (x : Option α) (f : Failure) : CodecM α :=
  match x with
  | some a => pure a
  | none => throw f

end Storefront.Wire
