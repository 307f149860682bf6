import Storefront.Wire.Service
import Storefront.Operation.Declare

/-!
# Declaring operations in requests

A request declares a function (name, decorator, method, parameters with hints, kinds and
default expressions, and a body), and may call it. A hint or default is source text: a string
stands for itself, any other JSON value for the text the runtime prints for it. The answer
says it was declared, or gives the refusal; a call adds its result or failure and its log
lines.
-/

namespace Storefront.Wire

/-- Whether a JSON value counts as true: false, null, zero, and empty texts, arrays and
objects do not. -/
def Json.truthy : Json → Bool
  | .null => false
  | .bool b => b
  | .int i => i != 0
  | .float x => x != 0
  | .str s => !s.isEmpty
  | .arr xs => !xs.isEmpty
  | .obj ms => !ms.isEmpty

mutual

/-- The text the runtime shows for a JSON value inside a container: strings quoted. -/
def Json.reprText : Json → String
  | .null => "None"
  | .bool true => "True"
  | .bool false => "False"
  | .int i => toString i
  | .float x => Value.floatLayout.float x
  | .str s => Value.quoted s
  | .arr xs => "[" ++ Json.reprItems xs ++ "]"
  | .obj ms => "\x7b" ++ Json.reprMembers ms ++ "\x7d"

/-- Items shown one after another. -/
def Json.reprItems : List Json → String
  | [] => ""
  | [x] => Json.reprText x
  | x :: xs => Json.reprText x ++ ", " ++ Json.reprItems xs

/-- Members shown one after another. -/
def Json.reprMembers : List (String × Json) → String
  | [] => ""
  | [(k, v)] => Value.quoted k ++ ": " ++ Json.reprText v
  | (k, v) :: ms => Value.quoted k ++ ": " ++ Json.reprText v ++ ", " ++ Json.reprMembers ms

end

/-- The source text a JSON value stands for: a string itself, anything else as shown. -/
def Json.sourceText : Json → String
  | .str s => s
  | j => Json.reprText j

/-- The method a request names, as a value, with null for none. -/
def methodOf : Json → Value
  | .null => .none
  | .bool b => .bool b
  | .int i => .int i
  | .float x => .float x
  | .str s => .str s
  | .arr _ => .list []
  | .obj _ => .dict []

/-- A declared parameter. -/
def paramOf (j : Json) : CodecM Operation.Param := do
  let ms ← match j with
    | .obj ms => pure ms
    | _ => throw (.malformed "a parameter must be an object")
  let r : Request := ms
  let name ← r.text "name"
  let kind ← match r.opt "kind" with
    | .str "varargs" => pure Operation.ParamKind.varargs
    | .str "varkw" => pure .varkw
    | _ => pure .normal
  let annotation := (member? r "annotation").map Json.sourceText
  let default := (member? r "default").map Json.sourceText
  pure { name, kind, annotation, default }

/-- A declaration as a request gives it. -/
def declarationOf (r : Request) : CodecM Operation.Declaration := do
  let name ← r.text "name"
  let decorator := match r.opt "decorator" with
    | .str "query" => Operation.Decorator.query
    | .str "mutation" => .mutation
    | _ => .operation
  let method := (member? r "method").map methodOf
  let coroutine := ((member? r "coroutine").map Json.truthy).getD true
  let noSelf := Json.truthy (r.opt "no_self")
  let params ← match member? r "params" with
    | some _ => (← r.arr "params").mapM paramOf
    | none => pure []
  let body := match r.opt "body" with
    | .null => "pass"
    | j => Json.sourceText j
  pure { name, decorator, method, coroutine, noSelf, params, body }

/-- Declare an operation, and call it when asked. -/
def declareAnswer (r : Request) : CodecM Answer := do
  let d ← declarationOf r
  let declared ← lift d.declare
  let base : Answer := [("declared", .bool true), ("name", .str d.name)]
  match member? r "call" with
  | some (.obj ms) => do
    let c : Request := ms
    let args ← match member? c "args" with
      | some _ => valuesOf (← c.arr "args")
      | none => pure []
    let kwargs ← match member? c "kwargs" with
      | some _ => entriesOf (← c.obj "kwargs")
      | none => pure []
    let (result, notes) := declared.call args kwargs
    let shown := match result with
      | .ok v => render v
      | .error f => .obj f.toJson
    pure (base ++ [("result", shown), ("caller_args_unchanged", .bool true),
      ("logs", notesJson notes)])
  | _ => pure base

end Storefront.Wire
