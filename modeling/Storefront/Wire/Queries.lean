import Storefront.Wire.Convert
import Storefront.Query.Build
import Storefront.Sql.Select
import Storefront.Page.Size

/-!
# Queries, statements and page sizes in requests

Requests that clamp a page size, build a listing query, apply query clauses one by one, write
a predicate, compose a SQL expression from pieces, and show a parameter. A query is answered
with its collection, predicates, order-by paths, resume values and limit; a statement with
its text, bound values and the text with values shown in place.
-/

namespace Storefront.Wire

/-- Log lines in an answer, as level and text pairs. -/
def notesJson (ns : List Note) : Json :=
  .arr (ns.map fun n => .arr [.str n.level.name, .str n.text])

/-- The effective page size of a request, with its warnings. -/
def clampAnswer (r : Request) : CodecM Answer := do
  let requested := Value.ofJson (r.opt "requested")
  let default := ((member? r "default").map Value.ofJson).getD defaultPageSize
  let maximum := ((member? r "maximum").map Value.ofJson).getD maxPageSize
  let (size, notes) ← lift (clampPageSize requested default maximum)
  pure [("size", render size), ("logs", notesJson notes)]

/-- A query's limit in an answer: a number written as plain JSON, so a float is bare and a
status is its code. -/
def limitJson : Value → Json
  | .float x => .float x
  | .status s => .int s.code
  | v => render v

/-- A query in an answer. -/
def queryJson (q : Query) : Json :=
  .obj [("collection", .str q.collection),
    ("predicates", .arr (q.predicates.map fun p =>
      .obj [("path", render p.path), ("op", .str p.op.symbol), ("value", render p.value)])),
    ("order_by", .arr (renderItems q.orderBy)),
    ("start_after", match q.startAfter with
      | some vs => .arr (renderItems vs)
      | none => .null),
    ("limit", match q.limit with
      | some n => limitJson n
      | none => .null)]

/-- A collection: one of the service's by name, or described by name, record class (orders
unless given), paths and equality filters. -/
def collectionOf (j : Json) : CodecM Collection :=
  match j with
  | .str "orders" => pure Collection.orders
  | .str "tasks" => pure Collection.tasks
  | .obj ms => do
    let r : Request := ms
    let name ← r.text "name"
    let record := match r.opt "record_type" with
      | .str c => RecordClass.ofName? c
      | _ => some .order
    let timestamp := (Json.str? (r.opt "timestamp")).getD "submission_time"
    let id := (Json.str? (r.opt "id")).getD "id"
    let equality ← (← r.obj "equality").mapM fun (k, p) => match p with
      | .str s => pure (k, s)
      | _ => throw (.malformed "equality paths must be text")
    pure { name, record, timestamp, id, equality }
  | _ => throw (.malformed "unknown collection")

/-- Listing filters: start and end times given as text are read as timestamps, the rest as
values. -/
def filtersOf (ms : List (String × Json)) : CodecM (List (String × Value)) :=
  ms.mapM fun (k, j) => do
    match k, j with
    | "start_time", .str _ | "end_time", .str _ => do
      let t ← timeOf j
      pure (k, .time t)
    | _, _ => do
      let v ← valueOf j
      pure (k, v)

/-- A page position: none, a token, or a timestamp and id taken as they are. -/
def positionOf (j : Json) : CodecM (Option Position) :=
  match j with
  | .null => pure none
  | .str t => do let c ← lift (Cursor.ofToken t); pure (some c.position)
  | .obj ms => do
    let r : Request := ms
    pure (some ⟨Value.ofJson (r.opt "timestamp"), Value.ofJson (r.opt "id")⟩)
  | _ => throw (.malformed "unknown cursor")

/-- The listing query of a collection, filters, position and limit. -/
def buildAnswer (r : Request) : CodecM Answer := do
  let c ← collectionOf (← r.need "collection")
  let filters ← filtersOf (← r.obj "filters")
  let cursor ← positionOf (r.opt "cursor")
  let limit := Value.ofJson (r.opt "limit")
  let q ← lift (buildQuery c filters cursor limit)
  pure [("query", queryJson q)]

/-- A statement in an answer: text with `?` placeholders, bound values, and the text with
values shown in place. -/
def statementJson (e : Sql.Expression) : Json :=
  let (text, values) := e.compile "?"
  .obj [("text", .str text), ("values", .arr (renderItems values)), ("display", .str e.display)]

/-- The value of a step, or its failure's object; the registry is kept either way. -/
def attempt (m : CodecM Json) : CodecM Json :=
  tryCatch m fun e => pure (.obj e.toJson)

/-- One clause applied to a query. -/
def clauseOf (q : Query) (j : Json) : CodecM Query :=
  match j with
  | .obj [("where", .arr [path, op, v])] => do
    let v ← valueOf v
    lift (q.filter (Value.ofJson path) (Value.ofJson op) v)
  | .obj [("ordered_by", .arr ps)] => lift (q.orderedBy (ps.map Value.ofJson))
  | .obj [("after", .arr vs)] => do
    let values ← valuesOf vs
    lift (q.after values)
  | .obj [("limited", n)] => lift (q.limited (Value.ofJson n))
  | _ => throw (.malformed "unknown clause")

/-- A query in a step's answer, with its statement and text when asked for. -/
def queryStep (withSql withText : Bool) (q : Query) : CodecM Answer := do
  let sql ← if withSql then do
      let s ← attempt (do let e ← Sql.selectStatement q; pure (statementJson e))
      pure [("sql", s)]
    else pure []
  let text ← if withText then do pure [("text", Json.str (← lift q.text))] else pure []
  pure ([("query", queryJson q)] ++ sql ++ text)

/-- Apply clauses in turn; each step is answered with the query or with its failure. A clause
that is refused leaves the query as before; one that applies but whose answer fails moves the
query on. -/
def clauseSteps (withSql withText : Bool) : Query → List Json → CodecM (List Json)
  | _, [] => pure []
  | q, j :: js => do
    let next ← tryCatch (do let q' ← clauseOf q j; pure (Except.ok q')) fun e => pure (.error e)
    match next with
    | .error e => do
      let rest ← clauseSteps withSql withText q js
      pure (.obj e.toJson :: rest)
    | .ok q' => do
      let a ← attempt (do pure (.obj (← queryStep withSql withText q')))
      let rest ← clauseSteps withSql withText q' js
      pure (a :: rest)

/-- Clauses applied to a new query, step by step. -/
def clausesAnswer (r : Request) : CodecM Answer := do
  let name ← r.text "collection"
  let ops ← r.arr "ops"
  let steps ← clauseSteps (r.flag "sql") (r.flag "text") { collection := name } ops
  pure [("steps", .arr steps)]

/-- The text of a predicate. -/
def predicateAnswer (r : Request) : CodecM Answer := do
  let v ← r.value "value"
  let p ← lift (Predicate.make (Value.ofJson (r.opt "path")) (Value.ofJson (r.opt "operator")) v)
  pure [("text", .str p.text)]

/-- How a type spec names its type: by a name, not at all (a union written with the union
operator), or not given (the literal none, which leaves a parameter to its value's class). -/
inductive TypeName where
  | named (n : String)
  | unnamed
  | absent

mutual

/-- A spec of the typing forms, which make typing unions when joined with the union
operator. -/
def typingForm : Json → Bool
  | .obj [("Union", _)] | .obj [("optional", _)] | .obj [("annotated", _)] => true
  | .obj [("union", .arr ts)] => anyTypingForm ts
  | _ => false

/-- Some spec of a list is a typing form. -/
def anyTypingForm : List Json → Bool
  | [] => false
  | t :: ts => typingForm t || anyTypingForm ts

end

/-- The name of a typing union of members: `Optional` for two members one of which is the
class of none, `Union` otherwise. -/
def typingUnionName (ms : List Hint) : String :=
  if ms.length == 2 && ms.any (·.key == "NoneType") then "Optional" else "Union"

/-- The name a hint's type has when it stands alone: a class's name, `list`, `Annotated`, or a
typing union's name when `typing` holds; a union made with the operator has none. -/
def hintName (typing : Bool) : Hint → TypeName
  | .cls k => .named k.name
  | .noneLit => .absent
  | .listOf _ => .named "list"
  | .annotated _ _ => .named "Annotated"
  | .union ms => if typing then .named (typingUnionName ms) else .unnamed

/-- How a type spec names its type. Typing unions and options drop repeats and collapse to a
single member; a union made with the operator is typing only when a typing form takes part. -/
def typeNameOf (spec : Json) (h : Hint) : TypeName :=
  match spec, h with
  | .obj [("union", .arr ts)], _ => hintName (anyTypingForm ts) h
  | .obj [("Union", _)], .noneLit | .obj [("optional", _)], .noneLit => .named "NoneType"
  | .obj [("Union", _)], _ | .obj [("optional", _)], _ => hintName true h
  | _, _ => hintName false h

/-- The type of a parameter from its spec; without a spec, or with the literal none, the
value's own class. -/
def sqlParamOf (spec : Json) (v : Value) : CodecM Sql.Param := do
  match spec with
  | .null => pure (Sql.Param.ofValue v)
  | _ =>
    let h ← hintOf spec
    match typeNameOf spec h with
    | .named n => pure ⟨v, h, some n⟩
    | .unnamed => pure ⟨v, h, none⟩
    | .absent => pure (Sql.Param.ofValue v)

mutual

/-- A piece of an expression as a request gives it: text, a parameter, a nested expression
(built at once from the items of an array, the characters of a text or the keys of an object,
so its refusals come first), an array, an object (which offers its keys), or any other
value. -/
def pieceOf (j : Json) : CodecM Sql.Piece :=
  match j with
  | .str s => pure (.text s)
  | .arr xs => do let ps ← piecesOf xs; pure (.group ps)
  | .obj ms => objectPiece ms
  | j => do let v ← valueOf j; pure (.other v)
termination_by (sizeOf j, 2)

/-- An object piece: a parameter, a nested expression, or a map of its members. -/
def objectPiece (ms : List (String × Json)) : CodecM Sql.Piece :=
  match member? ms "param" with
  | some v => do
    let x ← valueOf v
    let p ← sqlParamOf ((member? ms "type").getD .null) x
    pure (.param p)
  | none =>
  match h : member? ms "expr" with
  | some (.arr xs) => do
    let ps ← piecesOf xs
    let e ← lift (Sql.Expression.ofPieces ps)
    pure (.expr e.fragments)
  | some (.str t) => do
    let e ← lift (Sql.Expression.ofPieces (t.toList.map fun c => .text (String.singleton c)))
    pure (.expr e.fragments)
  | some (.obj ks) => do
    let e ← lift (Sql.Expression.ofPieces (ks.map fun (k, _) => .text k))
    pure (.expr e.fragments)
  | some _ => throw (.runtime .typeError)
  | none => pure (.keys (ms.map fun (k, x) => (k, Value.ofJson x)))
termination_by (sizeOf ms, 1)
decreasing_by
  apply Prod.Lex.left; have := sizeOf_member_lt h; simp at this; omega

/-- Pieces of an array. -/
def piecesOf (xs : List Json) : CodecM (List Sql.Piece) :=
  match xs with
  | [] => pure []
  | x :: rest => do
    let p ← pieceOf x
    let ps ← piecesOf rest
    pure (p :: ps)
termination_by (sizeOf xs, 0)

end

/-- A piece taken as the plain JSON it is: text, an array of such pieces, an object (which
offers its keys), or any other value. -/
def plainPieceOf : Json → Sql.Piece
  | .str s => .text s
  | .arr xs => .group (xs.attach.map fun ⟨x, _⟩ => plainPieceOf x)
  | .obj ms => .keys (ms.map fun (k, x) => (k, Value.ofJson x))
  | j => .other (Value.ofJson j)

/-- A fragment in an answer: text, or a parameter's value and the name of its type. -/
def fragmentJson : Sql.Fragment → Except Failure Json
  | .text s => pure (.str s)
  | .param p => do pure (.obj [("param", render p.value), ("type", .str (← p.typeText))])

/-- An expression composed from the members of its parts, or of the values to join with a
separator, then extended by each appended piece. The placeholder must be text once a
parameter needs it. -/
def sqlAnswer (r : Request) : CodecM Answer := do
  let e ← match member? r "join" with
    | some j => do
      let values ← lift (← pieceOf j).members
      let sep := match member? r "sep" with
        | some s => plainPieceOf s
        | none => .other .none
      lift (Sql.Expression.join values sep)
    | none => do
      let parts ← match member? r "parts" with
        | some j => lift (← pieceOf j).members
        | none => pure []
      lift (Sql.Expression.ofPieces parts)
  let more ← piecesOf (← r.arr "append")
  let e ← lift (more.foldlM Sql.Expression.add e)
  let hasParam := e.fragments.any fun
    | .param _ => true
    | .text _ => false
  let placeholder ← match member? r "placeholder" with
    | some (.str s) => pure s
    | none => pure "?"
    | some _ => if hasParam then throw (.runtime .typeError) else pure ""
  let (text, values) := e.compile placeholder
  let frags ← lift (e.fragments.mapM fragmentJson)
  pure [("fragments", .arr frags), ("len", .int e.fragments.length),
    ("bool", .bool !e.fragments.isEmpty), ("text", .str text),
    ("values", .arr (renderItems values)), ("display", .str e.display)]

/-- A piece's text as it reads back and as it is shown, and whether it equals a second
piece. -/
def paramAnswer (r : Request) : CodecM Answer := do
  let a ← pieceOf (← r.need "a")
  let base : Answer := [("repr", .str (← lift a.repr)), ("str", .str (← lift a.plain))]
  match member? r "b" with
  | some jb => do
    let b ← pieceOf jb
    pure (base ++ [("equal", .bool (a.same b))])
  | none => pure base

end Storefront.Wire
