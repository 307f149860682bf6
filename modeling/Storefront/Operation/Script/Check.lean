import Storefront.Operation.Script.Syntax

/-!
# Checks before a body runs

Before any code runs, the runtime reads the whole text and refuses it with a syntax error when
a statement stands where it may not: `return` outside a function, `break` or `continue`
outside a loop, `await` outside a coroutine or inside a `lambda`, `yield` outside a function
or inside a comprehension, `nonlocal` where no function encloses the code, a `global`
declaration after the name is used, a starred expression on its own, a keyword given twice
in a call, a parameter of a `lambda` given twice, and a `return` with a value in a coroutine
that also yields.

The same reading finds the names a function binds, which are its local names everywhere in
it: targets of assignments and loops, deleted names, names of handlers, and names bound by
`:=` (also inside comprehensions), less the names it declares global.
-/

namespace Storefront.Script

/-- The expressions of a clause of a comprehension. -/
def Clause.parts : Clause → List Expr
  | .forIn t s => [t, s]
  | .cond e => [e]

/-- The expressions directly inside an expression. -/
def Expr.parts : Expr → List Expr
  | .lit _ | .bytesLit _ | .var _ => []
  | .list xs | .tuple xs | .set xs | .joined xs => xs
  | .dict es => es.flatMap fun (k, v) => k.toList ++ [v]
  | .star e | .unary _ e | .attr e _ | .walrus _ e | .await e => [e]
  | .binary _ a b | .conj a b | .disj a b => [a, b]
  | .compare f _ rest => f :: rest
  | .cond t y n => [t, y, n]
  | .index t k => [t, k]
  | .slice lo hi st => lo.toList ++ hi.toList ++ st.toList
  | .call f args => f :: args.map (·.2)
  | .formatted v _ spec => v :: spec.toList
  | .comp _ item clauses _ => clauses.flatMap Clause.parts ++ [item]
  | .lambda params body _ => params.filterMap Param.default ++ [body]
  | .yield e => e.toList
  | .yieldFrom e => [e]

/-- The names an expression reads, anywhere inside it. -/
def Expr.reads : Nat → Expr → List String
  | 0, _ => []
  | fuel + 1, e => match e with
    | .var x => [x]
    | e => e.parts.flatMap (Expr.reads fuel)

/-- The names an expression binds by `:=` in the scope it stands in: inside comprehensions
too, but not inside a `lambda`. -/
def Expr.walrusNames : Nat → Expr → List String
  | 0, _ => []
  | fuel + 1, e => match e with
    | .walrus x v => x :: Expr.walrusNames fuel v
    | .lambda .. => []
    | e => e.parts.flatMap (Expr.walrusNames fuel)

/-- Whether an expression yields outside any `lambda`. -/
def Expr.yields : Nat → Expr → Bool
  | 0, _ => false
  | fuel + 1, e => match e with
    | .yield _ | .yieldFrom _ => true
    | .lambda .. => false
    | e => e.parts.any (Expr.yields fuel)

/-- The names a target binds. -/
def Expr.targetNames : Nat → Expr → List String
  | 0, _ => []
  | fuel + 1, e => match e with
    | .var x => [x]
    | .tuple ts | .list ts => ts.flatMap (Expr.targetNames fuel)
    | .star t => Expr.targetNames fuel t
    | _ => []

/-- The expressions of parameters that are evaluated where their function is made: the
defaults, then the hints. -/
def paramExprs (ps : List Param) : List Expr :=
  ps.filterMap Param.default ++ ps.filterMap Param.hint

/-- The depth the analyses of a pattern follow, more than any pattern's nesting. -/
def patternFuel : Nat := 1000

/-- The expressions a statement holds directly, not those of the blocks inside it; those of
a function or class made by it are the ones evaluated where it is made. -/
def Stmt.exprs : Stmt → List Expr
  | .expr e => [e]
  | .assign ts v => ts ++ [v]
  | .augAssign _ t v => [t, v]
  | .annotated t a v => [t, a] ++ v.toList
  | .ret v => v.toList
  | .raise e c => e.toList ++ c.toList
  | .assert t m => t :: m.toList
  | .delete ts => ts
  | .branch t _ _ => [t]
  | .loop t _ _ => [t]
  | .forEach t s _ _ => [t, s]
  | .guarded _ hs _ _ => hs.filterMap (·.1)
  | .managed items _ => items.flatMap fun (e, t) => e :: t.toList
  | .matching e cases =>
    e :: cases.flatMap fun (p, g, _) => p.exprs patternFuel ++ g.toList
  | .funcDef _ ds ps r _ => ds ++ paramExprs ps ++ r.toList
  | .classDef _ ds bs _ => ds ++ bs.map (·.2)
  | _ => []

/-- The blocks a statement holds that run in the scope it stands in; the body of a function
or class made by it is not one of them. -/
def Stmt.blocks : Stmt → List (List Stmt)
  | .branch _ b e | .loop _ b e | .forEach _ _ b e => [b, e]
  | .guarded b hs e f => b :: hs.map (·.2.2) ++ [e, f]
  | .managed _ b => [b]
  | .matching _ cases => cases.map (·.2.2)
  | _ => []

/-- The names a statement binds directly. -/
def Stmt.binds (fuel : Nat) : Stmt → List String
  | .assign ts _ => ts.flatMap (Expr.targetNames fuel)
  | .augAssign _ t _ => Expr.targetNames fuel t
  | .annotated t _ _ => Expr.targetNames fuel t
  | .delete ts => ts.flatMap (Expr.targetNames fuel)
  | .forEach t _ _ _ => Expr.targetNames fuel t
  | .guarded _ hs _ _ => hs.filterMap (·.2.1)
  | .managed items _ => items.flatMap fun (_, t) => t.toList.flatMap (Expr.targetNames fuel)
  | .matching _ cases => cases.flatMap fun (p, _, _) => p.names patternFuel
  | .funcDef n .. | .classDef n .. => [n]
  | .importModules items => items.filterMap fun (m, a) => a.orElse fun _ => m.head?
  | .importFrom _ items => items.map fun (x, a) => a.getD x
  | _ => []

/-- The names a block binds anywhere in it, and the names it declares global. -/
def bindings : Nat → List Stmt → List String × List String
  | 0, _ => ([], [])
  | fuel + 1, ss =>
    ss.foldl (fun (acc : List String × List String) s =>
      let own := s.binds fuel ++ s.exprs.flatMap (Expr.walrusNames fuel)
      let globals := match s with
        | .global ns => ns
        | _ => []
      let inner := s.blocks.map (bindings fuel)
      (acc.1 ++ own ++ inner.flatMap (·.1), acc.2 ++ globals ++ inner.flatMap (·.2))) ([], [])

/-- The names a block declares nonlocal anywhere in it. -/
def nonlocalNames : Nat → List Stmt → List String
  | 0, _ => []
  | fuel + 1, ss => ss.flatMap fun s =>
    (match s with
      | .nonlocal ns => ns
      | _ => []) ++ s.blocks.flatMap (nonlocalNames fuel)

/-- The own names of a function's scope: its parameters and the names its body binds, less
those it declares global or nonlocal, each once. -/
def scopeLocals (fuel : Nat) (params : List String) (body : List Stmt) : List String :=
  let (bound, globals) := bindings fuel body
  let nonlocals := nonlocalNames fuel body
  (params ++ bound).eraseDups.filter fun x => !globals.contains x && !nonlocals.contains x

/-- Whether a block yields anywhere outside a `lambda`. -/
def blockYields : Nat → List Stmt → Bool
  | 0, _ => false
  | fuel + 1, ss => ss.any fun s =>
    s.exprs.any (Expr.yields fuel) || s.blocks.any (blockYields fuel)

/-- Where code stands, for the checks: in a function or not, a coroutine or not, one that
yields, in a loop, in a `lambda`, in a comprehension. -/
structure Place where
  function : Bool := false
  coroutine : Bool := false
  yields : Bool := false
  loop : Bool := false
  lambda : Bool := false
  comprehension : Bool := false
  /-- the names bound in the functions around the code, which `nonlocal` may name -/
  enclosing : List String := []
  /-- the own names of the function the code is in -/
  locals : List String := []
  /-- the parameters of the function the code is in -/
  params : List String := []

/-- Whether an expression holds a fault the runtime finds before it runs. -/
def Expr.faulty : Nat → Place → Expr → Bool
  | 0, _, _ => false
  | fuel + 1, p, e =>
    let inner (q : Place) (x : Expr) : Bool := Expr.faulty fuel q x
    match e with
    | .await a => !p.coroutine || p.lambda || inner p a
    | .yield a => !p.function || p.comprehension || a.any (inner p)
    | .yieldFrom a => !p.function || p.comprehension || p.coroutine || inner p a
    | .call f args =>
      let names := args.filterMap fun (k, _) => match k with
        | .keyword n => some n
        | _ => none
      names.length != names.eraseDups.length || inner p f || args.any fun (_, a) => inner p a
    | .lambda params body _ =>
      let names := params.map Param.name
      names.length != names.eraseDups.length ||
        params.any (fun q => q.default.any (inner p)) ||
        inner { p with function := true, lambda := true, yields := false } body
    | .comp _ item clauses _ =>
      let q := { p with comprehension := true }
      match clauses with
      | .forIn t s :: rest =>
        inner p s || inner q t || (rest.flatMap Clause.parts).any (inner q) || inner q item
      | _ => true
    | .star _ => true
    | .list xs | .tuple xs | .set xs => xs.any fun x => match x with
      | .star a => inner p a
      | x => inner p x
    | e => e.parts.any (inner p)

/-- Whether a target holds a fault: a starred target on its own, or an expression in it that
does. -/
def targetFaulty (fuel : Nat) (p : Place) (t : Expr) : Bool :=
  match t with
  | .star _ => true
  | .tuple ts | .list ts => ts.any fun x => match x with
    | .star a => Expr.faulty fuel p a
    | x => Expr.faulty fuel p x
  | t => Expr.faulty fuel p t

/-- Whether a value expression holds a fault: a starred expression stands only in a tuple. -/
def valueFaulty (fuel : Nat) (p : Place) (v : Expr) : Bool :=
  match v with
  | .tuple xs => xs.any fun x => match x with
    | .star a => Expr.faulty fuel p a
    | x => Expr.faulty fuel p x
  | v => Expr.faulty fuel p v

/-- Whether a block holds a fault the runtime finds before it runs. -/
def blockFaulty : Nat → Place → List Stmt → Bool
  | 0, _, _ => false
  | fuel + 1, p, ss => ss.any fun s =>
    let e (x : Expr) := Expr.faulty fuel p x
    let v (x : Expr) := valueFaulty fuel p x
    let t (x : Expr) := targetFaulty fuel p x
    match s with
    | .expr x => v x
    | .assign ts x => ts.any t || v x
    | .augAssign _ tg x => t tg || v x
    | .annotated tg a x => t tg || e a || x.any v
    | .ret x => !p.function || (p.coroutine && p.yields && x.isSome) || x.any v
    | .brk | .cont => !p.loop
    | .nonlocal ns => ns.any fun x => !p.enclosing.contains x || p.params.contains x
    | .raise x c => x.any e || c.any e
    | .assert x m => e x || m.any e
    | .delete ts => ts.any t
    | .branch x b o => e x || blockFaulty fuel p b || blockFaulty fuel p o
    | .loop x b o => e x || blockFaulty fuel { p with loop := true } b || blockFaulty fuel p o
    | .forEach tg x b o =>
      t tg || v x || blockFaulty fuel { p with loop := true } b || blockFaulty fuel p o
    | .guarded b hs o f =>
      blockFaulty fuel p b || hs.any (fun (c, _, hb) => c.any e || blockFaulty fuel p hb) ||
        blockFaulty fuel p o || blockFaulty fuel p f
    | .managed items b => items.any (fun (x, tg) => e x || tg.any t) || blockFaulty fuel p b
    | .matching x cases =>
      e x || cases.any fun (q, g, b) =>
        (q.exprs patternFuel).any e || g.any e || blockFaulty fuel p b
    | .funcDef _ ds ps r b =>
      let names := ps.map Param.name
      let around := if p.function then p.enclosing ++ p.locals else p.enclosing
      ds.any e || (paramExprs ps).any e || r.any e ||
        blockFaulty fuel { function := true, yields := blockYields fuel b, enclosing := around,
                           locals := scopeLocals fuel names b, params := names } b
    | .classDef _ ds bs b =>
      ds.any e || bs.any (fun (_, x) => e x) ||
        blockFaulty fuel { enclosing := if p.function then p.enclosing ++ p.locals else p.enclosing } b
    | .importModules items => items.any fun (m, _) => m.isEmpty
    | _ => false

/-- The names a block has seen in order, or none when a `global` declaration comes after a
use of one of its names or names a parameter. -/
def globalsInOrder : Nat → List String → List String → List Stmt → Option (List String)
  | 0, _, seen, _ => some seen
  | _ + 1, _, seen, [] => some seen
  | fuel + 1, params, seen, s :: rest => do
    let seen ← match s with
      | .global ns | .nonlocal ns =>
        if ns.any (fun x => seen.contains x || params.contains x) then none else some seen
      | .funcDef _ _ ps _ b => do
        let _ ← globalsInOrder fuel (ps.map Param.name) [] b
        pure (seen ++ s.exprs.flatMap (Expr.reads fuel) ++ s.binds fuel)
      | .classDef _ _ _ b => do
        let _ ← globalsInOrder fuel [] [] b
        pure (seen ++ s.exprs.flatMap (Expr.reads fuel) ++ s.binds fuel)
      | s =>
        let here := seen ++ s.exprs.flatMap (Expr.reads fuel) ++ s.binds fuel
        s.blocks.foldlM (fun acc b => globalsInOrder fuel params acc b) here
    globalsInOrder fuel params seen rest

/-- The fuel for the checks of a block: more than the depth of any expression in it. -/
def checkFuel (size : Nat) : Nat := size + 64

end Storefront.Script
