import Storefront.Operation.Script.Eval
import Storefront.Operation.Script.Check
import Storefront.Operation.Script.Interned
import Storefront.Log

/-!
# Declaring operations

An operation is declared as a coroutine of the service class `Svc` in module `svc`, marked by
a decorator (`operation`, `query` or `mutation`), with `self` first unless told otherwise,
its parameters with their hints and defaults, and a body. The body's first line goes inside
the function, and every later line is moved four columns right: a later line at the left
margin is then a statement of the class, run once the class is declared.

Declaring reads the whole text first, and refuses it with a syntax or indentation error
before anything runs. Then it evaluates the defaults and the hints, in order, and the
decorator checks the declaration, each refusal naming the function or the method: it must
be a coroutine (a body that yields is not one), named after an HTTP method unless it is given
one, a method it is given must be one of them, its first parameter must be `self`, and the
other parameters must be plain and carry hints. The class's statements run next.

A call binds its arguments to the parameters; the body runs until it returns. A failure
stops it: a server error is logged with the operation's full name, and a stop of iteration
comes out as a runtime error.
-/

namespace Storefront.Operation

open Script

/-- The name of the class operations are declared in. -/
def serviceClass : String := "Svc"

/-- The HTTP methods an operation may have, in sorted order. -/
def methods : List String := ["delete", "get", "patch", "post", "put"]

/-- The methods as a list reads back. -/
def methodsText : String := "[" ++ ", ".intercalate (methods.map fun m => "'" ++ m ++ "'") ++ "]"

/-- How an operation is marked: as an operation, a query (method `get` by default) or a
mutation (method `post` by default). -/
inductive Decorator where
  | operation
  | query
  | mutation
deriving DecidableEq, Repr

/-- The method a decorator gives when none is named. -/
def Decorator.defaultMethod : Decorator → Option Value
  | .operation => none
  | .query => some (.str "get")
  | .mutation => some (.str "post")

/-- How a parameter takes arguments. -/
inductive ParamKind where
  | normal
  | varargs
  | varkw
deriving DecidableEq, Repr

/-- A declared parameter: its name, how it takes arguments, and the texts of its hint and
default. -/
structure Param where
  name : String
  kind : ParamKind := .normal
  annotation : Option String := none
  default : Option String := none

/-- A declared operation. The method is the value it is given, if any; `none` as a value
stands for a method given as none. -/
structure Declaration where
  name : String
  decorator : Decorator := .operation
  method : Option Value := none
  coroutine : Bool := true
  noSelf : Bool := false
  params : List Param := []
  body : String := "pass"

/-- A refusal with the service's text. -/
def refuse (text : String) : Failure := Failure.typeError text

/-- A text that does not read. -/
def syntaxError : Failure := .runtime .syntaxError

/-- Lines indented where they may not be. -/
def indentationError : Failure := .runtime .indentationError

/-- The failure of a fault found while reading. -/
def faultFailure : Script.Fault → Failure
  | .grammar => syntaxError
  | .indentation => indentationError

/-- A parameter as it is read: its name, kind, hint and default expressions. -/
structure ParamCode where
  name : String
  kind : ParamKind
  annotation : Option Expr
  default : Option Expr

/-- The parts of a declaration as they are read: the parameters with `self` first when it is
implied, the function's body, and the statements of the class after it. -/
structure Code where
  params : List ParamCode
  body : List Stmt
  classStmts : List Stmt

/-- The column of the class's statements. -/
def classColumn : Nat := 4

/-- The column of the function's first line. -/
def bodyColumn : Nat := 8

/-- An expression's text read on its own, or a syntax error. -/
def readExpr (text : String) : Except Failure Expr :=
  match parseExpr text with
  | some e => pure e
  | none => throw syntaxError

/-- Read a parameter. -/
def Param.read (p : Param) : Except Failure ParamCode := do
  if !isIdentifier p.name then throw syntaxError
  let annotation ← p.annotation.mapM readExpr
  let default ← p.default.mapM readExpr
  pure ⟨p.name, p.kind, annotation, default⟩

/-- Whether parameters stand in an order the runtime reads: plain ones with defaults after
those without, until the one that takes the remaining arguments; at most one of each
gathering kind, the one of keywords last; no default on a gathering parameter; no name
twice. -/
def paramsOrdered (ps : List ParamCode) : Bool :=
  let names := ps.map (·.name)
  let rec go : List ParamCode → Bool → Bool → Bool
    | [], _, _ => true
    | p :: rest, sawDefault, keywordOnly =>
      match p.kind with
      | .varargs =>
        p.default.isNone && !keywordOnly && go rest sawDefault true
      | .varkw => p.default.isNone && rest.isEmpty
      | .normal =>
        if keywordOnly then go rest sawDefault true
        else if p.default.isSome then go rest true false
        else !sawDefault && go rest false false
  names.length == names.eraseDups.length && go ps false false &&
    (ps.filter (·.kind == .varargs)).length ≤ 1

/-- The source of a body as it stands in the class: the first line at the function's column,
every later line moved right by the class's column, also inside a string that spans lines. -/
def bodySource (body : String) : String :=
  "\n".intercalate ((body.splitOn "\n").mapIdx fun i l =>
    if i == 0 then l else String.ofList (List.replicate classColumn ' ') ++ l)

/-- The lines of a body, the first at the function's column. -/
def bodyLines (body : String) : Except Failure (List Line) :=
  match lines bodyColumn (bodySource body) with
  | some ls => pure ls
  | none => throw syntaxError

/-- The blocks of a body's lines: the function's, then the class's. -/
def splitBlocks (ls : List Line) : Except Failure (List Stmt × List Stmt) := do
  let fuel := linesFuel ls
  let lift (x : Except Fault (List Stmt × List Line)) : Except Failure (List Stmt × List Line) :=
    match x with
    | .ok r => pure r
    | .error f => throw (faultFailure f)
  match ls with
  | [] => throw indentationError
  | first :: _ =>
    if first.indent <= classColumn then throw indentationError
    let (body, rest) ← lift (blockOf fuel first.indent ls)
    let (classStmts, rest) ← match rest with
      | l :: _ =>
        if l.indent == classColumn then lift (blockOf fuel classColumn rest)
        else throw indentationError
      | [] => pure ([], [])
    if !rest.isEmpty then throw indentationError
    pure (body, classStmts)

/-- Read a declaration: its name, its parameters, its body and the statements after it, with
the checks the runtime makes before anything runs. -/
def Declaration.read (d : Declaration) : Except Failure Code := do
  if !isIdentifier d.name then throw syntaxError
  let selfParam : List ParamCode := if d.noSelf then [] else [⟨"self", .normal, none, none⟩]
  let params ← d.params.mapM Param.read
  let params := selfParam ++ params
  if !paramsOrdered params then throw syntaxError
  let (body, classStmts) ← splitBlocks (← bodyLines d.body)
  let size := d.body.length
  let fuel := checkFuel size
  let yields := blockYields fuel body
  let names := params.map (·.name)
  let place : Place := { function := true, coroutine := d.coroutine, yields,
                         locals := scopeLocals fuel names body, params := names }
  let exprFaulty := params.any fun p =>
    p.annotation.any (Expr.faulty fuel {}) || p.default.any (Expr.faulty fuel {})
  if exprFaulty || blockFaulty fuel place body || blockFaulty fuel {} classStmts then
    throw syntaxError
  if (globalsInOrder fuel (params.map (·.name)) [] body).isNone ||
      (globalsInOrder fuel [] [] classStmts).isNone then
    throw syntaxError
  pure ⟨params, body, classStmts⟩

/-- The checks the decorator makes, in order. `coroutine` says whether the function is a
coroutine, `method` the method it is given. -/
def check (name : String) (coroutine : Bool) (method : Option Value) (params : List ParamCode) :
    Except Failure Unit := do
  if !coroutine then throw (refuse (name ++ ": operation must be a coroutine"))
  match method with
  | none | some .none =>
    if !methods.contains name then
      throw (refuse (name ++ ": operation name must be one of " ++ methodsText))
  | some m =>
    let known ← match m with
      | .str s => pure (methods.contains s)
      | .list _ | .dict _ => throw (.runtime .typeError)
      | _ => pure false
    if !known then
      let text ← Script.scalarStr m
      throw (refuse (text ++ ": operation method must be one of " ++ methodsText))
  match params with
  | first :: rest =>
    if first.name != "self" then throw (refuse (name ++ ": first parameter must be self"))
    for p in rest do
      if p.kind != .normal then throw (refuse (name ++ ": variable arguments are not supported"))
      if p.annotation.isNone then
        throw (refuse (name ++ ": parameter " ++ p.name ++ " requires a type hint"))
  | [] => throw (refuse (name ++ ": first parameter must be self"))

/-- The fuel of a running body. -/
def runFuel : Nat := 100000000

/-- A declared operation ready to be called: its parameters with their defaults' objects, its
body, and the machine it was declared on. -/
structure Declared where
  name : String
  params : List (ParamCode × Option Obj)
  body : List Stmt
  machine : Machine

/-- Run a step on a machine. -/
def runOn (m : Machine) (step : Run α) : Except Failure α × Machine :=
  match step.run m with
  | .ok a m => (.ok a, m)
  | .error f m => (.error f, m)

/-- The one-character names the runtime holds interned from its start. -/
def internedLetters : List String := "abcdefhijklmnopqrstvwxyBCLST_".toList.map String.singleton

/-- The names a source text uses. -/
def sourceNames (src : String) : List String :=
  match Script.tokens src with
  | some ts => ts.filterMap fun t => match t with
    | .name s => some s
    | _ => none
  | none => []

/-- The strings the runtime holds interned before the body's code is made and that the
body's equal constant strings are not merged with: the letters and names interned from the
start and every name of the declaration's text, except the hinted parameters' names and `return`,
whose interned strings are constants of the class made before the body and so are shared
by the body's equal constants. -/
def Declaration.interned (d : Declaration) : List String :=
  let hinted := d.params.filterMap fun p => if p.annotation.isSome then some p.name else none
  let hints := d.params.filterMap (fun p => p.annotation) ++ d.params.filterMap (fun p => p.default)
  let names := internedLetters ++ internedWords ++ ["self", "object", "Svc", d.name] ++
    d.params.map (·.name) ++ hints.flatMap sourceNames ++ sourceNames (bodySource d.body)
  names.filter fun s => !hinted.contains s && s != "return"

/-- Declare an operation: read it, evaluate its defaults and hints in the class, let the
decorator check it, then run the class's statements. -/
def Declaration.declare (d : Declaration) : Except Failure Declared := do
  let code ← d.read
  -- the class's scope is the first object of the heap
  let classFrame : Frame := { scope := some 0, qualPrefix := serviceClass ++ "." }
  let start : Machine := { heap := #[.scope { kind := .classBody }], made := 0,
                           globals := moduleNames, frame := classFrame, interned := d.interned }
  let step : Run (List (ParamCode × Option Obj)) := do
    let defaults ← code.params.mapM fun p => match p.default with
      | some e => do pure (p, some (← eval runFuel e))
      | none => pure (p, none)
    for p in code.params do
      match p.annotation with
      | some e => discard <| eval runFuel e
      | none => pure ()
    let method := match d.method with
      | some m => some m
      | none => d.decorator.defaultMethod
    Run.lift (check d.name (d.coroutine && !blockYields (checkFuel d.body.length) code.body)
      method code.params)
    discard <| exec runFuel code.classStmts
    modify fun m => { m with globals := bindName m.globals serviceClass (.cls serviceClass),
                             frame := {} }
    pure defaults
  let (result, m) := runOn start step
  let defaults ← result
  pure ⟨d.name, defaults, code.body, m⟩

/-- Arguments bound to the parameters of a declared operation, the service first: positional
ones in order, then keywords, then defaults; a gathering parameter takes the rest. Too many,
unknown, repeated or missing arguments are a type failure. -/
def bindArgs (params : List (ParamCode × Option Obj)) (args : List Obj)
    (kwargs : List (String × Obj)) : Run (List (String × Obj)) := do
  let positional := params.filter fun (p, _) => p.kind == .normal
  let slots := (params.takeWhile fun (p, _) => p.kind == .normal).length
  let varargs := params.find? fun (p, _) => p.kind == .varargs
  let varkw := params.find? fun (p, _) => p.kind == .varkw
  if args.length > slots && varargs.isNone then throw (.runtime .typeError)
  let byPosition := (params.take slots).zip args |>.map fun ((p, _), a) => (p.name, a)
  let mut out : List (String × Obj) := byPosition
  let mut extra : List (String × Obj) := []
  for (k, v) in kwargs do
    if byPosition.any (·.1 == k) then throw (.runtime .typeError)
    if positional.any (fun (p, _) => p.name == k) then out := out ++ [(k, v)]
    else if varkw.isSome then extra := extra ++ [(k, v)]
    else throw (.runtime .typeError)
  for (p, d) in positional do
    if !out.any (·.1 == p.name) then
      match d with
      | some v => out := out ++ [(p.name, v)]
      | none => throw (.runtime .typeError)
  if let some (p, _) := varargs then
    out := out ++ [(p.name, ← Run.tuple (args.drop slots))]
  if let some (p, _) := varkw then
    let entries ← extra.mapM fun (k, v) => do pure (← Run.str k, v)
    out := out ++ [(p.name, ← Run.alloc (.dict entries.toArray))]
  pure out

/-- The full name of an operation of the declaring service. -/
def fullName (name : String) : String := "svc.Svc." ++ name

/-- Call a declared operation with arguments: its result or failure, and the log lines. -/
def Declared.call (d : Declared) (args : List Value) (kwargs : List (String × Value)) :
    Except Failure Value × List Note :=
  let step : Run Value := do
    let argObjs ← args.mapM (Run.ofValue depth)
    let kwObjs ← kwargs.mapM fun (k, v) => do pure (k, ← Run.ofValue depth v)
    let vars ← bindArgs d.params (Script.Obj.service :: argObjs) kwObjs
    let fuel := checkFuel 100000
    let sc ← Run.allocScope {
      kind := .function, vars,
      locals := scopeLocals fuel (d.params.map (·.1.name)) d.body,
      globalNames := (bindings fuel d.body).2 }
    Run.setFrame { scope := some sc, qualPrefix := serviceClass ++ "." ++ d.name ++ ".<locals>." }
    let flow ← exec runFuel d.body
    let result := match flow with
      | .ret o => o
      | _ => noneObj
    Run.lift (answerOf (← Run.heap) depth result)
  let (result, _) := runOn d.machine step
  let result : Except Failure Value := match result with
    | .error f =>
      if f.runtimeKind? == some .stopIteration then
        .error (.runtimeText .runtimeError "coroutine raised StopIteration")
      else .error f.plain
    | r => r
  match result with
  | .error f =>
    if f.isServer then (.error f, [⟨.error, "operation failed: " ++ fullName d.name⟩])
    else (.error f, [])
  | ok => (ok, [])

end Storefront.Operation
