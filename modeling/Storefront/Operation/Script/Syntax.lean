import Storefront.Operation.Script.Token
import Storefront.Value.Compare

/-!
# Syntax of operation bodies

A body is a block of statements. A simple statement is `pass`, `break`, `continue`,
`return`, `raise` (with `from`), `assert`, `del`, `global`, `nonlocal`, an assignment to one
or more targets, an augmented or annotated assignment, or an expression; several stand on one
line separated by `;`. A compound statement (`if` with `elif` and `else`, `while`, `for`, each
with `else`, `try` with `except`, `else` and `finally`, `with`, and `match` with its `case`
clauses) has a header ending in `:` and a suite: the rest of its line, or the lines below it
indented further.

A `case` clause holds a pattern and an optional guard. Patterns are literals, captures, `_`,
dotted values, sequences with at most one starred name, mappings with an optional `**` name,
class patterns with positional and named sub-patterns, alternatives joined by `|`, and any of
them bound with `as`. A pattern that binds a name twice, alternatives that bind different
names or match everything before the last, a repeated literal key or attribute, and a case
that matches everything without a guard before the last case do not read.

Expressions follow the usual precedence, loosest first: `lambda`; the conditional
`a if c else b`; `or`; `and`; `not`; comparisons, which chain (`a < b < c`); `|`; `^`; `&`;
`<<` and `>>`; `+` and `-`; `*`, `/`, `//`, `%` and `@`; unary `-`, `+` and `~`; `**`, which
groups to the right and binds tighter than a unary sign on its left; `await`. Below them are
literals, names, displays of lists, tuples, sets and dicts with `*` and `**` unpacking,
comprehensions with any number of `for` and `if` clauses, formatted strings, and the
trailers: a call with positional, keyword, `*` and `**` arguments, a subscript with slices, and
an attribute. An assignment expression `name := value` stands where the grammar allows it:
in brackets, as an argument, and as the test of `if` and `while`.

Every reader takes fuel; a line's reader gives each level of the grammar fuel in proportion
to its tokens, which is more than any parse of them needs.
-/

namespace Storefront.Script

/-- The arithmetic and bitwise operators. -/
inductive BinOp where
  | add
  | sub
  | mul
  | div
  | floorDiv
  | mod
  | pow
  | matMul
  | bitOr
  | bitXor
  | bitAnd
  | shiftLeft
  | shiftRight
deriving DecidableEq, Repr

/-- The relations of a comparison. -/
inductive Rel where
  | cmp (op : CmpOp)
  | ne
  | isIn
  | notIn
  | isSame
  | notSame
deriving DecidableEq, Repr

/-- The unary operators. -/
inductive UnaryOp where
  | neg
  | pos
  | invert
  | not
deriving DecidableEq, Repr

/-- What a comprehension builds: a list, a set, a dict or a generator. -/
inductive CompKind where
  | list
  | set
  | dict
  | gen
deriving DecidableEq, Repr

/-- How an argument is passed: by position, spread from an iterable, by keyword, or spread
from a mapping. -/
inductive ArgKind where
  | positional
  | spread
  | keyword (name : String)
  | spreadMap
deriving DecidableEq, Repr

/-- How a parameter of a function takes its argument: by position only, by position or
keyword, gathering the extra positional arguments, by keyword only, or gathering the extra
keywords. -/
inductive ParamRole where
  | positionalOnly
  | plain
  | gather
  | keywordOnly
  | gatherKeywords
deriving DecidableEq, Repr, Inhabited

mutual

/-- An expression of a body. -/
inductive Expr where
  | lit (v : Value)
  /-- a bytes literal, adjacent ones joined -/
  | bytesLit (data : List UInt8)
  | var (name : String)
  | list (items : List Expr)
  | tuple (items : List Expr)
  | set (items : List Expr)
  /-- a dict display: keyed entries, and mappings spread into it (no key) -/
  | dict (entries : List (Option Expr × Expr))
  /-- an iterable spread into a display, a call or a target -/
  | star (e : Expr)
  | unary (op : UnaryOp) (a : Expr)
  | binary (op : BinOp) (a b : Expr)
  | conj (a b : Expr)
  | disj (a b : Expr)
  | compare (first : Expr) (rels : List Rel) (rest : List Expr)
  | cond (test yes no : Expr)
  | index (target key : Expr)
  /-- a slice as the key of a subscript; a bound left out is none -/
  | slice (lo hi step : Option Expr)
  | attr (target : Expr) (name : String)
  | call (fn : Expr) (args : List (ArgKind × Expr))
  /-- the parts of a formatted string, each giving text -/
  | joined (parts : List Expr)
  /-- a field of a formatted string: a value, its conversion and its specification -/
  | formatted (value : Expr) (conv : Option Char) (spec : Option Expr)
  /-- a comprehension: its item (for a dict, a pair), its clauses, and the place it stands,
  which tells its constants from others -/
  | comp (kind : CompKind) (item : Expr) (clauses : List Clause) (site : Nat)
  | lambda (params : List Param) (body : Expr) (site : Nat)
  | walrus (name : String) (value : Expr)
  | await (e : Expr)
  | yield (e : Option Expr)
  /-- the items of an iterable yielded in turn -/
  | yieldFrom (e : Expr)

/-- A parameter of a function as written: its name, how it takes its argument, its hint and
its default. -/
inductive Param where
  | mk (name : String) (role : ParamRole) (hint : Option Expr) (default : Option Expr)

/-- A clause of a comprehension. -/
inductive Clause where
  | forIn (target source : Expr)
  | cond (test : Expr)

end

namespace Param

/-- The name of a parameter. -/
def name : Param → String
  | mk n .. => n

/-- How a parameter takes its argument. -/
def role : Param → ParamRole
  | mk _ r .. => r

/-- The hint of a parameter. -/
def hint : Param → Option Expr
  | mk _ _ h _ => h

/-- The default of a parameter. -/
def default : Param → Option Expr
  | mk _ _ _ d => d

end Param

/-- A pattern of a `case` clause. -/
inductive Pattern where
  /-- a value the subject is compared with: a literal or a dotted name, by identity for
  `None`, `True` and `False` and by equality otherwise -/
  | value (e : Expr) (byIdentity : Bool)
  /-- a name the subject is bound to -/
  | capture (name : String)
  /-- `_`, which takes anything and binds nothing -/
  | wildcard
  /-- a sequence: the patterns of its first items, the starred name that takes the items
  between as a list when there is one (`*_` names none), and the patterns of its last
  items -/
  | sequence (front : List Pattern) (star : Option (Option String)) (back : List Pattern)
  /-- a mapping: keys with the patterns of their values, and the name the other entries are
  bound to -/
  | mapping (entries : List (Expr × Pattern)) (rest : Option String)
  /-- an object of a class, with patterns for its positional and its named attributes -/
  | instance (cls : Expr) (positional : List Pattern) (named : List (String × Pattern))
  /-- patterns tried in turn -/
  | alternatives (options : List Pattern)
  /-- a pattern whose subject is also bound to a name -/
  | capturing (p : Pattern) (name : String)

/-- A statement of a body. -/
inductive Stmt where
  | expr (e : Expr)
  | assign (targets : List Expr) (value : Expr)
  | augAssign (op : BinOp) (target value : Expr)
  | annotated (target annotation : Expr) (value : Option Expr)
  | pass
  | brk
  | cont
  | ret (value : Option Expr)
  | raise (exc : Option Expr) (cause : Option Expr)
  | assert (test : Expr) (msg : Option Expr)
  | delete (targets : List Expr)
  | global (names : List String)
  | nonlocal (names : List String)
  | branch (test : Expr) (body orElse : List Stmt)
  | loop (test : Expr) (body orElse : List Stmt)
  | forEach (target source : Expr) (body orElse : List Stmt)
  /-- a guarded block: its handlers, each with a class, a name and a body -/
  | guarded (body : List Stmt) (handlers : List (Option Expr × Option String × List Stmt))
      (orElse final : List Stmt)
  /-- a block run inside context managers: each manager's expression, with the target the
  value it enters with is bound to -/
  | managed (items : List (Expr × Option Expr)) (body : List Stmt)
  /-- a subject matched against the patterns of its cases in turn, each with a guard and a
  block -/
  | matching (subject : Expr) (cases : List (Pattern × Option Expr × List Stmt))
  /-- a function made and bound to its name: its decorators, its parameters, its return hint
  and its body -/
  | funcDef (name : String) (decorators : List Expr) (params : List Param)
      (returns : Option Expr) (body : List Stmt)
  /-- a class made and bound to its name: its decorators, its bases and its body -/
  | classDef (name : String) (decorators : List Expr) (bases : List (ArgKind × Expr))
      (body : List Stmt)
  /-- modules imported, each by its dotted name and the name it is bound to -/
  | importModules (items : List (List String × Option String))
  /-- names imported from a module, each with the name it is bound to -/
  | importFrom (module : List String) (items : List (String × Option String))
  /-- a statement that bodies here do not run -/
  | unsupported

/-- The relation at the front of tokens. -/
def relOf : List Token → Option (Rel × List Token)
  | .sym "==" :: ts => some (.cmp .eq, ts)
  | .sym "!=" :: ts => some (.ne, ts)
  | .sym "<" :: ts => some (.cmp .lt, ts)
  | .sym "<=" :: ts => some (.cmp .le, ts)
  | .sym ">" :: ts => some (.cmp .gt, ts)
  | .sym ">=" :: ts => some (.cmp .ge, ts)
  | .name "in" :: ts => some (.isIn, ts)
  | .name "not" :: .name "in" :: ts => some (.notIn, ts)
  | .name "is" :: .name "not" :: ts => some (.notSame, ts)
  | .name "is" :: ts => some (.isSame, ts)
  | _ => none

/-- The operators of the binary levels, loosest first. -/
def levels : List (List (String × BinOp)) :=
  [[("|", .bitOr)], [("^", .bitXor)], [("&", .bitAnd)],
    [("<<", .shiftLeft), (">>", .shiftRight)], [("+", .add), ("-", .sub)],
    [("*", .mul), ("/", .div), ("//", .floorDiv), ("%", .mod), ("@", .matMul)]]

/-- The operator of a binary level at the front of tokens. -/
def levelOp (level : Nat) : List Token → Option (BinOp × List Token)
  | .sym s :: ts => ((levels.getD level []).lookup s).map fun op => (op, ts)
  | _ => none

/-- The words that are not names. -/
def keywords : List String :=
  ["False", "None", "True", "and", "as", "assert", "async", "await", "break", "class",
    "continue", "def", "del", "elif", "else", "except", "finally", "for", "from", "global",
    "if", "import", "in", "is", "lambda", "nonlocal", "not", "or", "pass", "raise", "return",
    "try", "while", "with", "yield"]

/-- A name that may be bound: not a keyword. -/
def isIdentifier (s : String) : Bool :=
  match s.toList with
  | c :: cs => nameStart c && cs.all nameChar && !keywords.contains s
  | [] => false

/-- A run of adjacent string literals, plain or formatted: the plain text when all are
plain, else the pieces of them all. -/
def stringRun : List Token → List Piece × Bool × List Token
  | .str s :: ts =>
    let (ps, f, r) := stringRun ts
    (.text s :: ps, f, r)
  | .format ps :: ts =>
    let (qs, _, r) := stringRun ts
    (ps ++ qs, true, r)
  | ts => ([], false, ts)

/-- A run of adjacent bytes literals: their bytes joined, and the rest. -/
def bytesRun : List Token → List UInt8 × List Token
  | .bytes bs :: ts => let (more, r) := bytesRun ts; (bs ++ more, r)
  | ts => ([], ts)

/-- The text of plain pieces joined. -/
def plainText : List Piece → String
  | [] => ""
  | .text s :: ps => s ++ plainText ps
  | .field .. :: ps => plainText ps

/-- An expression closed by one token. -/
def closedBy (close : String) : Option (Expr × List Token) → Option (Expr × List Token)
  | some (e, .sym c :: rest) => if c == close then some (e, rest) else none
  | _ => none

/-- A list of expressions as one expression: the expression itself, or a tuple of several
(or of one followed by a comma). -/
def tupleOf (items : List Expr) (comma : Bool) : Expr :=
  match items, comma with
  | [e], false => e
  | es, _ => .tuple es

mutual

/-- An expression: a lambda, or a conditional expression, or a disjunction. -/
def exprOf : Nat → List Token → Option (Expr × List Token)
  | 0, _ => none
  | fuel + 1, .name "lambda" :: ts => do
    let (params, rest) ← paramsOf fuel false ":" ts
    let (body, rest) ← exprOf fuel rest
    pure (.lambda params body ts.length, rest)
  | fuel + 1, ts => do
    let (a, rest) ← disjOf fuel ts
    match rest with
    | .name "if" :: rest => do
      let (c, rest) ← disjOf fuel rest
      match rest with
      | .name "else" :: rest => do
        let (b, rest) ← exprOf fuel rest
        pure (.cond c a b, rest)
      | _ => none
    | _ => pure (a, rest)

/-- The parameters of a function up to and past the symbol that closes them (a parenthesis
for a `def`, whose parameters may carry hints, a colon for a `lambda`), in the order the
grammar allows: plain ones, those before a `/` only by position, then after a `*` (alone or
naming the parameter that gathers extra positional arguments) those only by keyword, and
last the one that gathers extra keywords. A name given twice, a plain parameter without a
default after one with, and a bare `*` with no parameter after it do not read. -/
def paramsOf : Nat → Bool → String → List Token → Option (List Param × List Token)
  | 0, _, _, _ => none
  | fuel + 1, hints, close, ts => do
    let (ps, rest) ← paramItems fuel hints close ts [] false
    let names := ps.map Param.name
    if names.length != names.eraseDups.length then none
    let plain := ps.filter fun p => p.role == .plain || p.role == .positionalOnly
    let defaulted := plain.dropWhile fun p => p.default.isNone
    if defaulted.any fun p => p.default.isNone then none
    pure (ps, rest)

/-- The parameters from one on, each followed by a comma or the closing symbol; `starred`
tells that a `*` has been read, so that later parameters are only by keyword. -/
def paramItems : Nat → Bool → String → List Token → List Param → Bool →
    Option (List Param × List Token)
  | 0, _, _, _, _, _ => none
  | fuel + 1, hints, close, ts, acc, starred =>
    match ts with
    | .sym c :: rest =>
      if c == close then some (acc.reverse, rest)
      else if c == "/" then
        if starred || acc.isEmpty || acc.any (·.role != .plain) then none
        else
          let acc := acc.map fun p => .mk p.name .positionalOnly p.hint p.default
          paramNext fuel hints close rest acc starred
      else if c == "**" then do
        let ((x, h), rest) ← paramHead fuel hints rest
        let acc := Param.mk x .gatherKeywords h none :: acc
        match rest with
        | .sym "," :: .sym c' :: rest' => if c' == close then some (acc.reverse, rest') else none
        | .sym c' :: rest' => if c' == close then some (acc.reverse, rest') else none
        | _ => none
      else if c == "*" then
        if starred then none
        else match rest with
          | .sym "," :: more =>
            -- a bare star: keyword-only parameters must follow
            match more with
            | .name _ :: _ => paramItems fuel hints close more acc true
            | _ => none
          | _ => do
            let ((x, h), rest) ← paramHead fuel hints rest
            paramNext fuel hints close rest (Param.mk x .gather h none :: acc) true
      else none
    | _ => do
      let ((x, h), rest) ← paramHead fuel hints ts
      let (d, rest) ← match rest with
        | .sym "=" :: rest => do
          let (d, rest) ← exprOf fuel rest
          pure (some d, rest)
        | rest => pure (none, rest)
      let role := if starred then ParamRole.keywordOnly else .plain
      paramNext fuel hints close rest (Param.mk x role h d :: acc) starred

/-- After a parameter: a comma and more parameters, or the closing symbol. -/
def paramNext : Nat → Bool → String → List Token → List Param → Bool →
    Option (List Param × List Token)
  | 0, _, _, _, _, _ => none
  | fuel + 1, hints, close, .sym "," :: rest, acc, starred =>
    paramItems fuel hints close rest acc starred
  | _ + 1, _, close, .sym c :: rest, acc, _ => if c == close then some (acc.reverse, rest) else none
  | _ + 1, _, _, _, _, _ => none

/-- The name of a parameter, with its hint when hints are read. -/
def paramHead : Nat → Bool → List Token → Option ((String × Option Expr) × List Token)
  | 0, _, _ => none
  | fuel + 1, hints, .name x :: ts =>
    if !isIdentifier x then none
    else match hints, ts with
      | true, .sym ":" :: rest => do
        let (h, rest) ← exprOf fuel rest
        pure ((x, some h), rest)
      | _, rest => some ((x, none), rest)
  | _ + 1, _, _ => none

/-- An assignment expression or an expression. -/
def namedOf : Nat → List Token → Option (Expr × List Token)
  | 0, _ => none
  | fuel + 1, .name x :: .sym ":=" :: ts =>
    if !isIdentifier x then none else do
    let (v, rest) ← exprOf fuel ts
    pure (.walrus x v, rest)
  | fuel + 1, ts => exprOf fuel ts

/-- An item of a display: an iterable spread with `*`, or an assignment expression. -/
def starNamedOf : Nat → List Token → Option (Expr × List Token)
  | 0, _ => none
  | fuel + 1, .sym "*" :: ts => do
    let (a, rest) ← levelOf fuel 0 ts
    pure (.star a, rest)
  | fuel + 1, ts => namedOf fuel ts

/-- Conjunctions joined by `or`. -/
def disjOf : Nat → List Token → Option (Expr × List Token)
  | 0, _ => none
  | fuel + 1, ts => do
    let (a, rest) ← conjOf fuel ts
    disjRest fuel a rest

/-- More operands of `or`. -/
def disjRest : Nat → Expr → List Token → Option (Expr × List Token)
  | 0, _, _ => none
  | fuel + 1, a, .name "or" :: ts => do
    let (b, rest) ← conjOf fuel ts
    disjRest fuel (.disj a b) rest
  | _ + 1, a, ts => some (a, ts)

/-- Negations joined by `and`. -/
def conjOf : Nat → List Token → Option (Expr × List Token)
  | 0, _ => none
  | fuel + 1, ts => do
    let (a, rest) ← notOf fuel ts
    conjRest fuel a rest

/-- More operands of `and`. -/
def conjRest : Nat → Expr → List Token → Option (Expr × List Token)
  | 0, _, _ => none
  | fuel + 1, a, .name "and" :: ts => do
    let (b, rest) ← notOf fuel ts
    conjRest fuel (.conj a b) rest
  | _ + 1, a, ts => some (a, ts)

/-- A negation, or a comparison. -/
def notOf : Nat → List Token → Option (Expr × List Token)
  | 0, _ => none
  | fuel + 1, .name "not" :: ts => do
    let (a, rest) ← notOf fuel ts
    pure (.unary .not a, rest)
  | fuel + 1, ts => do
    let (a, rest) ← levelOf fuel 0 ts
    match relOf rest with
    | some _ => do
      let (rels, operands, rest) ← compareRest fuel rest
      pure (.compare a rels operands, rest)
    | none => pure (a, rest)

/-- The relations and operands that follow the first operand of a comparison. -/
def compareRest : Nat → List Token → Option (List Rel × List Expr × List Token)
  | 0, _ => none
  | fuel + 1, ts =>
    match relOf ts with
    | some (r, ts) => do
      let (b, rest) ← levelOf fuel 0 ts
      let (rels, operands, rest) ← compareRest fuel rest
      pure (r :: rels, b :: operands, rest)
    | none => some ([], [], ts)

/-- Operands of a binary level joined by its operators; below the last level, a factor. -/
def levelOf : Nat → Nat → List Token → Option (Expr × List Token)
  | 0, _, _ => none
  | fuel + 1, level, ts =>
    if level < levels.length then do
      let (a, rest) ← levelOf fuel (level + 1) ts
      levelRest fuel level a rest
    else unaryOf fuel ts

/-- More operands of a binary level. -/
def levelRest : Nat → Nat → Expr → List Token → Option (Expr × List Token)
  | 0, _, _, _ => none
  | fuel + 1, level, a, ts =>
    match levelOp level ts with
    | some (op, ts) => do
      let (b, rest) ← levelOf fuel (level + 1) ts
      levelRest fuel level (.binary op a b) rest
    | none => some (a, ts)

/-- A factor with its signs. -/
def unaryOf : Nat → List Token → Option (Expr × List Token)
  | 0, _ => none
  | fuel + 1, .sym "-" :: ts => do
    let (a, rest) ← unaryOf fuel ts
    pure (.unary .neg a, rest)
  | fuel + 1, .sym "+" :: ts => do
    let (a, rest) ← unaryOf fuel ts
    pure (.unary .pos a, rest)
  | fuel + 1, .sym "~" :: ts => do
    let (a, rest) ← unaryOf fuel ts
    pure (.unary .invert a, rest)
  | fuel + 1, ts => do
    let (a, rest) ← awaitOf fuel ts
    match rest with
    | .sym "**" :: rest => do
      let (b, rest) ← unaryOf fuel rest
      pure (.binary .pow a b, rest)
    | _ => pure (a, rest)

/-- A primary, awaited or not. -/
def awaitOf : Nat → List Token → Option (Expr × List Token)
  | 0, _ => none
  | fuel + 1, .name "await" :: ts => do
    let (a, rest) ← primaryOf fuel ts
    pure (.await a, rest)
  | fuel + 1, ts => primaryOf fuel ts

/-- An atom with its trailers. -/
def primaryOf : Nat → List Token → Option (Expr × List Token)
  | 0, _ => none
  | fuel + 1, ts => do
    let (a, rest) ← atomOf fuel ts
    trailersOf fuel a rest

/-- The trailers of an atom: calls, subscripts and attributes. -/
def trailersOf : Nat → Expr → List Token → Option (Expr × List Token)
  | 0, _, _ => none
  | fuel + 1, a, .sym "(" :: ts => do
    let (args, rest) ← argsOf fuel ts []
    trailersOf fuel (.call a args) rest
  | fuel + 1, a, .sym "[" :: ts => do
    let (key, rest) ← subscriptOf fuel ts
    trailersOf fuel (.index a key) rest
  | fuel + 1, a, .sym "." :: .name x :: ts =>
    if keywords.contains x then none else trailersOf fuel (.attr a x) ts
  | _ + 1, a, ts => some (a, ts)

/-- The key of a subscript after its opening bracket, up to and past the closing one: one
slice or assignment expression, or several separated by commas as a tuple. -/
def subscriptOf : Nat → List Token → Option (Expr × List Token)
  | 0, _ => none
  | fuel + 1, ts => do
    let (a, rest) ← sliceOf fuel ts
    match rest with
    | .sym "]" :: rest => pure (a, rest)
    | .sym "," :: _ => do
      let ((items, _), rest) ← sliceItems fuel a rest
      pure (.tuple items, rest)
    | _ => none

/-- After one item of a subscript, more items separated by commas up to the closing bracket. -/
def sliceItems : Nat → Expr → List Token → Option ((List Expr × Bool) × List Token)
  | 0, _, _ => none
  | _ + 1, a, .sym "," :: .sym "]" :: rest => some (([a], true), rest)
  | fuel + 1, a, .sym "," :: ts => do
    let (b, rest) ← sliceOf fuel ts
    let ((more, comma), rest) ← sliceItems fuel b rest
    pure ((a :: more, comma), rest)
  | _ + 1, a, .sym "]" :: rest => some (([a], false), rest)
  | _ + 1, _, _ => none

/-- One item of a subscript: a slice with any bound left out, or an assignment expression. -/
def sliceOf : Nat → List Token → Option (Expr × List Token)
  | 0, _ => none
  | fuel + 1, ts => do
    let (lo, rest) ← match ts with
      | .sym ":" :: _ => some (none, ts)
      | _ => do
        let (e, rest) ← namedOf fuel ts
        pure (some e, rest)
    match lo, rest with
    | some e, rest => match rest with
      | .sym ":" :: _ => boundsOf fuel (some e) rest
      | _ => pure (e, rest)
    | none, rest => boundsOf fuel none rest

/-- The bounds of a slice after its lower bound, from its first colon. -/
def boundsOf : Nat → Option Expr → List Token → Option (Expr × List Token)
  | 0, _, _ => none
  | fuel + 1, lo, .sym ":" :: ts => do
    let (hi, rest) ← boundOf fuel ts
    match rest with
    | .sym ":" :: rest => do
      let (step, rest) ← boundOf fuel rest
      pure (.slice lo hi step, rest)
    | rest => pure (.slice lo hi none, rest)
  | _ + 1, _, _ => none

/-- A bound of a slice: left out before a colon, a comma or a closing bracket. -/
def boundOf : Nat → List Token → Option (Option Expr × List Token)
  | 0, _ => none
  | _ + 1, .sym ":" :: ts => some (none, .sym ":" :: ts)
  | _ + 1, .sym "]" :: ts => some (none, .sym "]" :: ts)
  | _ + 1, .sym "," :: ts => some (none, .sym "," :: ts)
  | fuel + 1, ts => do
    let (e, rest) ← exprOf fuel ts
    pure (some e, rest)

/-- The arguments of a call after its opening parenthesis, up to and past the closing one:
positional arguments, keyword arguments, arguments spread with `*` and `**`, or one
generator. -/
def argsOf : Nat → List Token → List (ArgKind × Expr) →
    Option (List (ArgKind × Expr) × List Token)
  | 0, _, _ => none
  | _ + 1, .sym ")" :: ts, acc => some (acc.reverse, ts)
  | fuel + 1, ts, acc => do
    let (arg, rest) ← match ts with
      | .sym "*" :: rest => do
        let (e, rest) ← exprOf fuel rest
        pure ((ArgKind.spread, e), rest)
      | .sym "**" :: rest => do
        let (e, rest) ← exprOf fuel rest
        pure ((ArgKind.spreadMap, e), rest)
      | .name k :: .sym "=" :: rest =>
        if !isIdentifier k then none else do
        let (e, rest) ← exprOf fuel rest
        pure ((ArgKind.keyword k, e), rest)
      | _ => do
        let (e, rest) ← namedOf fuel ts
        match rest with
        | .name "for" :: _ =>
          if !acc.isEmpty then none else do
          let (clauses, rest) ← clausesOf fuel rest []
          match rest with
          | .sym ")" :: _ => pure ((ArgKind.positional, .comp .gen e clauses ts.length), rest)
          | _ => none
        | _ => pure ((ArgKind.positional, e), rest)
    let ok := match arg.1 with
      | .positional => acc.all fun (k, _) => k == .positional || k == .spread
      | .spread => acc.all fun (k, _) => k != .spreadMap
      | .keyword name => acc.all fun (k, _) => k != .keyword name
      | .spreadMap => true
    if !ok then none
    match rest with
    | .sym "," :: rest => argsOf fuel rest (arg :: acc)
    | .sym ")" :: rest => some ((arg :: acc).reverse, rest)
    | _ => none

/-- The targets of a comprehension's `for`: one target, or several separated by commas as
a tuple, up to `in`. -/
def forTargetOf : Nat → List Token → Option (Expr × List Token)
  | 0, _ => none
  | fuel + 1, ts => do
    let (a, rest) ← targetOf fuel ts
    match rest with
    | .sym "," :: _ => do
      let (items, comma, rest) ← targetItems fuel a rest
      pure (tupleOf items comma, rest)
    | _ => pure (a, rest)

/-- After one target, more targets separated by commas, up to `in`, and whether a comma
ended them. -/
def targetItems : Nat → Expr → List Token → Option (List Expr × Bool × List Token)
  | 0, _, _ => none
  | _ + 1, a, .sym "," :: .name "in" :: rest => some ([a], true, .name "in" :: rest)
  | fuel + 1, a, .sym "," :: ts => do
    let (b, rest) ← targetOf fuel ts
    let (more, comma, rest) ← targetItems fuel b rest
    pure (a :: more, comma, rest)
  | _ + 1, a, ts => some ([a], false, ts)

/-- One target: spread with `*`, or a primary. -/
def targetOf : Nat → List Token → Option (Expr × List Token)
  | 0, _ => none
  | fuel + 1, .sym "*" :: ts => do
    let (a, rest) ← primaryOf fuel ts
    pure (.star a, rest)
  | fuel + 1, ts => primaryOf fuel ts

/-- The clauses of a comprehension from its first `for`: `for` clauses with their targets and
iterated values, and `if` conditions. -/
def clausesOf : Nat → List Token → List Clause → Option (List Clause × List Token)
  | 0, _, _ => none
  | fuel + 1, .name "for" :: ts, acc => do
    let (target, rest) ← forTargetOf fuel ts
    match rest with
    | .name "in" :: rest => do
      let (source, rest) ← disjOf fuel rest
      clausesOf fuel rest (.forIn target source :: acc)
    | _ => none
  | fuel + 1, .name "if" :: ts, acc => do
    let (c, rest) ← disjOf fuel ts
    clausesOf fuel rest (.cond c :: acc)
  | _ + 1, ts, acc => some (acc.reverse, ts)

/-- A literal, a name, a display or a comprehension. -/
def atomOf : Nat → List Token → Option (Expr × List Token)
  | 0, _ => none
  | _ + 1, .int n :: ts => some (.lit (.int n), ts)
  | _ + 1, .float x :: ts => some (.lit (.float x), ts)
  | fuel + 1, .str s :: ts => do
    let (ps, formatted, r) := stringRun (.str s :: ts)
    if r.head? matches some (.bytes _) then none
    if formatted then do
      let parts ← piecesExpr fuel ps
      pure (.joined parts, r)
    else pure (.lit (.str (plainText ps)), r)
  | fuel + 1, .format ps :: ts => do
    let (qs, _, r) := stringRun (.format ps :: ts)
    if r.head? matches some (.bytes _) then none
    let parts ← piecesExpr fuel qs
    pure (.joined parts, r)
  | _ + 1, .bytes bs :: ts =>
    -- bytes and text literals do not join
    match bytesRun (.bytes bs :: ts) with
    | (_, .str _ :: _) | (_, .format _ :: _) => none
    | (data, r) => some (.bytesLit data, r)
  | _ + 1, .name "None" :: ts => some (.lit .none, ts)
  | _ + 1, .name "True" :: ts => some (.lit (.bool true), ts)
  | _ + 1, .name "False" :: ts => some (.lit (.bool false), ts)
  | _ + 1, .name x :: ts => if keywords.contains x then none else some (.var x, ts)
  | _ + 1, .sym "(" :: .sym ")" :: ts => some (.tuple [], ts)
  | fuel + 1, .sym "(" :: .name "yield" :: ts => do
    match ts with
    | .sym ")" :: rest => pure (.yield none, rest)
    | .name "from" :: ts => do
      let (e, rest) ← exprOf fuel ts
      match rest with
      | .sym ")" :: rest => pure (.yieldFrom e, rest)
      | _ => none
    | _ => do
      let (e, rest) ← exprOf fuel ts
      match rest with
      | .sym ")" :: rest => pure (.yield (some e), rest)
      | _ => none
  | fuel + 1, .sym "(" :: ts => do
    let (a, rest) ← starNamedOf fuel ts
    match rest with
    | .name "for" :: rest => do
      let (clauses, rest) ← clausesOf fuel (.name "for" :: rest) []
      closedBy ")" (some (.comp .gen a clauses ts.length, rest))
    | rest => do
      let ((items, comma), rest) ← itemsFrom fuel ")" a rest
      match items, comma, a with
      | [_], false, .star _ => none
      | _, _, _ => pure (tupleOf items comma, rest)
  | _ + 1, .sym "[" :: .sym "]" :: ts => some (.list [], ts)
  | fuel + 1, .sym "[" :: ts => do
    let (a, rest) ← starNamedOf fuel ts
    match rest with
    | .name "for" :: rest => do
      let (clauses, rest) ← clausesOf fuel (.name "for" :: rest) []
      closedBy "]" (some (.comp .list a clauses ts.length, rest))
    | rest => do
      let ((items, _), rest) ← itemsFrom fuel "]" a rest
      pure (.list items, rest)
  | _ + 1, .sym "\x7b" :: .sym "\x7d" :: ts => some (.dict [], ts)
  | fuel + 1, .sym "\x7b" :: .sym "**" :: ts => do
    let (m, rest) ← levelOf fuel 0 ts
    let (more, rest) ← entriesFrom fuel rest
    pure (.dict ((none, m) :: more), rest)
  | fuel + 1, .sym "\x7b" :: ts => do
    let (k, rest) ← starNamedOf fuel ts
    match rest with
    | .sym ":" :: rest => do
      let (v, rest) ← exprOf fuel rest
      match rest with
      | .name "for" :: rest => do
        let (clauses, rest) ← clausesOf fuel (.name "for" :: rest) []
        closedBy "\x7d" (some (.comp .dict (.tuple [k, v]) clauses ts.length, rest))
      | rest => do
        let (more, rest) ← entriesFrom fuel rest
        pure (.dict ((some k, v) :: more), rest)
    | .name "for" :: rest => do
      let (clauses, rest) ← clausesOf fuel (.name "for" :: rest) []
      closedBy "\x7d" (some (.comp .set k clauses ts.length, rest))
    | rest => do
      let ((items, _), rest) ← itemsFrom fuel "\x7d" k rest
      pure (.set items, rest)
  | _ + 1, .sym "..." :: ts => some (.var "Ellipsis", ts)
  | _ + 1, _ => none

/-- After one item, more comma-separated items up to a closing symbol, and whether a comma
followed the last. -/
def itemsFrom : Nat → String → Expr → List Token → Option ((List Expr × Bool) × List Token)
  | 0, _, _, _ => none
  | fuel + 1, close, a, .sym "," :: .sym c :: rest =>
    if c == close then some (([a], true), rest)
    else do
      let (b, rest) ← starNamedOf fuel (.sym c :: rest)
      let ((more, comma), rest) ← itemsFrom fuel close b rest
      pure ((a :: more, comma), rest)
  | fuel + 1, close, a, .sym "," :: ts => do
    let (b, rest) ← starNamedOf fuel ts
    let ((more, comma), rest) ← itemsFrom fuel close b rest
    pure ((a :: more, comma), rest)
  | _ + 1, close, a, .sym c :: rest => if c == close then some (([a], false), rest) else none
  | _ + 1, _, _, _ => none

/-- After one entry of a dict display, more entries up to the closing brace: keyed entries
and mappings spread with `**`. -/
def entriesFrom : Nat → List Token → Option (List (Option Expr × Expr) × List Token)
  | 0, _ => none
  | _ + 1, .sym "\x7d" :: ts => some ([], ts)
  | _ + 1, .sym "," :: .sym "\x7d" :: ts => some ([], ts)
  | fuel + 1, .sym "," :: .sym "**" :: ts => do
    let (m, rest) ← levelOf fuel 0 ts
    let (more, rest) ← entriesFrom fuel rest
    pure ((none, m) :: more, rest)
  | fuel + 1, .sym "," :: ts => do
    let (k, rest) ← exprOf fuel ts
    match rest with
    | .sym ":" :: rest => do
      let (v, rest) ← exprOf fuel rest
      let (more, rest) ← entriesFrom fuel rest
      pure ((some k, v) :: more, rest)
    | _ => none
  | _ + 1, _ => none

/-- The parts of a formatted string: its text, and each field as a formatted value; a field
ending in `=` shows its source first, and its value's representation unless it has a
conversion or a specification. -/
def piecesExpr : Nat → List Piece → Option (List Expr)
  | 0, _ => none
  | _ + 1, [] => some []
  | fuel + 1, .text s :: ps => do
    let more ← piecesExpr fuel ps
    pure (.lit (.str s) :: more)
  | fuel + 1, .field src shown conv spec :: ps => do
    let ts ← tokens src
    let e ← match exprListOf fuel ts with
      | some (e, []) => some e
      | _ => none
    let specExpr ← if spec.isEmpty then some none else do
      let parts ← piecesExpr fuel spec
      pure (some (Expr.joined parts))
    let conv := match shown, conv, spec with
      | some _, none, [] => some 'r'
      | _, c, _ => c
    let more ← piecesExpr fuel ps
    let field := Expr.formatted e conv specExpr
    match shown with
    | some t => pure (.lit (.str t) :: field :: more)
    | none => pure (field :: more)

/-- Items separated by commas, spread items allowed: one expression, or a tuple of several
or of one followed by a comma. -/
def exprListOf : Nat → List Token → Option (Expr × List Token)
  | 0, _ => none
  | fuel + 1, ts => do
    let (a, rest) ← starExprOf fuel ts
    match rest with
    | .sym "," :: _ => do
      let (items, comma, rest) ← listRest fuel a rest
      pure (tupleOf items comma, rest)
    | _ => match a with
      | .star _ => none
      | _ => pure (a, rest)

/-- One item of an expression list: spread with `*`, or an expression. -/
def starExprOf : Nat → List Token → Option (Expr × List Token)
  | 0, _ => none
  | fuel + 1, .sym "*" :: ts => do
    let (a, rest) ← levelOf fuel 0 ts
    pure (.star a, rest)
  | fuel + 1, ts => exprOf fuel ts

/-- After one item of an expression list, more items, and whether a comma ended them. -/
def listRest : Nat → Expr → List Token → Option (List Expr × Bool × List Token)
  | 0, _, _ => none
  | fuel + 1, a, .sym "," :: ts =>
    match starExprOf fuel ts with
    | some (b, rest) => do
      let (more, comma, rest) ← listRest fuel b rest
      pure (a :: more, comma, rest)
    | none => some ([a], true, ts)
  | _ + 1, a, ts => some ([a], false, ts)

end

/-- The operator of an augmented assignment. -/
def updateOp : String → Option BinOp
  | "+=" => some .add
  | "-=" => some .sub
  | "*=" => some .mul
  | "/=" => some .div
  | "//=" => some .floorDiv
  | "%=" => some .mod
  | "**=" => some .pow
  | "@=" => some .matMul
  | "&=" => some .bitAnd
  | "|=" => some .bitOr
  | "^=" => some .bitXor
  | "<<=" => some .shiftLeft
  | ">>=" => some .shiftRight
  | _ => none

mutual

/-- An expression that can be assigned to: a name, an attribute, a subscript, or a tuple or
list of targets with at most one spread. -/
def Expr.assignable : Expr → Bool
  | .var x => x != "__debug__"
  | .attr _ _ => true
  | .index _ _ => true
  | .tuple ts | .list ts => allAssignable ts && (ts.filter fun t => t matches .star _).length ≤ 1
  | _ => false

/-- Every expression can be assigned to, spread targets included. -/
def allAssignable : List Expr → Bool
  | [] => true
  | .star t :: ts => t.assignable && allAssignable ts
  | t :: ts => t.assignable && allAssignable ts

end

/-- A target that names a single place: a name, an attribute or a subscript. -/
def Expr.isPlace : Expr → Bool
  | .var x => x != "__debug__"
  | .attr _ _ => true
  | .index _ _ => true
  | _ => false

/-- A dotted name of a module, and the tokens after it. -/
def dottedOf : Nat → List Token → Option (List String × List Token)
  | 0, _ => none
  | fuel + 1, .name x :: .sym "." :: rest => do
    if !isIdentifier x then none
    let (more, rest) ← dottedOf fuel rest
    pure (x :: more, rest)
  | _ + 1, .name x :: rest => if isIdentifier x then some ([x], rest) else none
  | _ + 1, _ => none

/-- The name an import binds in place of its own, after `as`, and the tokens after it. -/
def aliasOf : List Token → Option (Option String × List Token)
  | .name "as" :: .name y :: rest => if isIdentifier y then some (some y, rest) else none
  | .name "as" :: _ => none
  | rest => some (none, rest)

/-- The modules of an `import`, separated by commas, to the end of the tokens. -/
def importItems : Nat → List Token → Option (List (List String × Option String))
  | 0, _ => none
  | fuel + 1, ts => do
    let (m, rest) ← dottedOf ts.length ts
    let (a, rest) ← aliasOf rest
    match rest with
    | [] => pure [(m, a)]
    | .sym "," :: rest => do pure ((m, a) :: (← importItems fuel rest))
    | _ => none

/-- The names of a `from` import, separated by commas, a comma after the last allowed, to
the end of the tokens. -/
def fromItems : Nat → List Token → Option (List (String × Option String))
  | 0, _ => none
  | fuel + 1, .name x :: rest => do
    if !isIdentifier x then none
    let (a, rest) ← aliasOf rest
    match rest with
    | [] => pure [(x, a)]
    | [.sym ","] => pure [(x, a)]
    | .sym "," :: rest => do pure ((x, a) :: (← fromItems fuel rest))
    | _ => none
  | _ + 1, _ => none

/-- Names separated by commas, to the end of the tokens. -/
def namesOf : List Token → Option (List String)
  | [.name x] => if isIdentifier x then some [x] else none
  | .name x :: .sym "," :: rest => do
    if !isIdentifier x then none
    let more ← namesOf rest
    pure (x :: more)
  | _ => none

/-- The tokens of a statement up to a `;` that stands outside brackets, and the rest after
it. -/
def untilSemicolon : Nat → List Token → List Token × Option (List Token)
  | _, [] => ([], none)
  | depth, .sym ";" :: rest => if depth == 0 then ([], some rest)
    else let (a, b) := untilSemicolon depth rest; (.sym ";" :: a, b)
  | depth, .sym s :: rest =>
    let (a, b) := untilSemicolon (depthAfter depth s) rest
    (.sym s :: a, b)
  | depth, t :: rest => let (a, b) := untilSemicolon depth rest; (t :: a, b)

/-- The parts of an assignment's tokens separated by `=` outside brackets. -/
def splitAssign : Nat → List Token → List (List Token)
  | _, [] => [[]]
  | depth, .sym "=" :: rest =>
    if depth == 0 then [] :: splitAssign depth rest
    else match splitAssign depth rest with
      | p :: ps => (.sym "=" :: p) :: ps
      | [] => [[.sym "="]]
  | depth, .sym s :: rest =>
    match splitAssign (depthAfter depth s) rest with
    | p :: ps => (.sym s :: p) :: ps
    | [] => [[.sym s]]
  | depth, t :: rest =>
    match splitAssign depth rest with
    | p :: ps => (t :: p) :: ps
    | [] => [[t]]

/-- An expression list that uses all the tokens. -/
def wholeList (fuel : Nat) (ts : List Token) : Option Expr :=
  match exprListOf fuel ts with
  | some (e, []) => some e
  | _ => none

/-- An expression that uses all the tokens. -/
def wholeExpr (fuel : Nat) (ts : List Token) : Option Expr :=
  match exprOf fuel ts with
  | some (e, []) => some e
  | _ => none

/-- An assignment expression or an expression that uses all the tokens. -/
def wholeNamed (fuel : Nat) (ts : List Token) : Option Expr :=
  match namedOf fuel ts with
  | some (e, []) => some e
  | _ => none

/-- The right side of an assignment: an expression list or a `yield`. -/
def valueOf (fuel : Nat) (ts : List Token) : Option Expr :=
  match ts with
  | [.name "yield"] => some (.yield none)
  | .name "yield" :: .name "from" :: rest => (wholeExpr fuel rest).map .yieldFrom
  | .name "yield" :: rest => (wholeList fuel rest).map (.yield ∘ some)
  | _ => wholeList fuel ts

/-- One simple statement from all of its tokens. -/
def simpleOf (fuel : Nat) (ts : List Token) : Option Stmt :=
  match ts with
  | [.name "pass"] => some .pass
  | [.name "break"] => some .brk
  | [.name "continue"] => some .cont
  | [.name "return"] => some (.ret none)
  | .name "return" :: rest => (wholeList fuel rest).map (.ret ∘ some)
  | [.name "raise"] => some (.raise none none)
  | .name "raise" :: rest => do
    let (e, r) ← exprOf fuel rest
    match r with
    | [] => some (.raise (some e) none)
    | .name "from" :: r => (wholeExpr fuel r).map fun c => .raise (some e) (some c)
    | _ => none
  | .name "assert" :: rest => do
    let (c, r) ← exprOf fuel rest
    match r with
    | [] => some (.assert c none)
    | .sym "," :: r => (wholeExpr fuel r).map fun m => .assert c (some m)
    | _ => none
  | .name "del" :: rest => do
    let e ← wholeList fuel rest
    let targets := match e with
      | .tuple es => es
      | e => [e]
    if targets.all fun t => t.isPlace || (match t with
      | .tuple _ | .list _ => t.assignable
      | _ => false) then some (.delete targets) else none
  | .name "global" :: rest => (namesOf rest).map .global
  | .name "nonlocal" :: rest => (namesOf rest).map .nonlocal
  | [.name "yield"] => some (.expr (.yield none))
  | .name "yield" :: .name "from" :: rest => (wholeExpr fuel rest).map fun e => .expr (.yieldFrom e)
  | .name "yield" :: rest => (wholeList fuel rest).map fun e => .expr (.yield (some e))
  | .name "import" :: rest => (importItems rest.length rest).map .importModules
  | .name "from" :: .sym "." :: _ => some .unsupported
  | .name "from" :: rest => do
    let (m, rest) ← dottedOf rest.length rest
    match rest with
    | .name "import" :: .sym "(" :: rest =>
      match rest.getLast? with
      | some (.sym ")") => (fromItems rest.length rest.dropLast).map (.importFrom m)
      | _ => none
    | .name "import" :: rest => (fromItems rest.length rest).map (.importFrom m)
    | _ => none
  | _ =>
    match splitAssign 0 ts with
    | [] => none
    | [single] =>
      -- an augmented or annotated assignment, or an expression
      match exprListOf fuel single with
      | some (e, []) => some (.expr e)
      | some (e, .sym s :: rest) =>
        match updateOp s with
        | some op =>
          if e.isPlace then (valueOf fuel rest).map (.augAssign op e) else none
        | none =>
          if s == ":" && e.isPlace then do
            let ann ← wholeExpr fuel rest
            pure (.annotated e ann none)
          else none
      | _ => none
    | parts =>
      -- an annotated assignment with a value, or targets then a value
      match parts with
      | [lhs, rhs] =>
        match exprOf fuel lhs with
        | some (t, .sym ":" :: ann) => do
          if !t.isPlace then none
          let a ← wholeExpr fuel ann
          let v ← valueOf fuel rhs
          pure (.annotated t a (some v))
        | _ => assignOf fuel parts
      | _ => assignOf fuel parts
where
  assignOf (fuel : Nat) (parts : List (List Token)) : Option Stmt := do
    let targets ← (parts.dropLast).mapM fun p => wholeList fuel p
    if !targets.all Expr.assignable then none
    let v ← valueOf fuel (parts.getLast?.getD [])
    pure (.assign targets v)

/-- Simple statements separated by `;` on one line, an empty one after the last allowed. -/
def simplesOf (fuel : Nat) : Nat → List Token → Option (List Stmt)
  | _, [] => some []
  | 0, _ :: _ => none
  | n + 1, ts =>
    let (first, rest) := untilSemicolon 0 ts
    match rest with
    | none => (simpleOf fuel first).map ([·])
    | some [] => (simpleOf fuel first).map ([·])
    | some more => do
      let s ← simpleOf fuel first
      let ss ← simplesOf fuel n more
      if ss.isEmpty then none
      pure (s :: ss)

/-- The size of a token: one, and for a formatted string also the text of its fields. -/
def Token.size : Token → Nat
  | .format ps => ps.foldl (fun n p => match p with
    | .field src _ _ _ => n + src.length + 8
    | .text _ => n) 1
  | _ => 1

/-- The fuel that a reading of tokens gets: enough for every level of the grammar at every
token, fields of formatted strings included. -/
def fuelFor (ts : List Token) : Nat := 40 * (ts.foldl (fun n t => n + t.size) 1)

/-- Why a body does not read: a syntax fault, or lines indented where they may not be. -/
inductive Fault where
  | grammar
  | indentation
deriving DecidableEq, Repr

/-- The simple statements of a line, and the lines after it. -/
def simpleLine (l : Line) (ls : List Line) : Except Fault (List Stmt × List Line) :=
  match simplesOf (fuelFor l.tokens) (l.tokens.length + 1) l.tokens with
  | some ss => pure (ss, ls)
  | none => throw .grammar

/-- The header of a compound statement: the tokens before its closing colon, and those after
it; the colon is the last one outside brackets that a reading of the header leaves. -/
def headerOf (fuel : Nat) (read : Nat → List Token → Option (Expr × List Token))
    (ts : List Token) : Option (Expr × List Token) := do
  let (e, rest) ← read fuel ts
  match rest with
  | .sym ":" :: after => pure (e, after)
  | _ => none

/-- A `for` header: targets, `in`, and the iterated values. -/
def forHeader (fuel : Nat) (ts : List Token) : Option ((Expr × Expr) × List Token) := do
  let (target, rest) ← forTargetOf fuel ts
  if !target.assignable then none
  match rest with
  | .name "in" :: rest => do
    let (source, rest) ← exprListOf fuel rest
    match rest with
    | .sym ":" :: after => pure ((target, source), after)
    | _ => none
  | _ => none

/-- A `with` header: managers separated by commas, each with an optional target after
`as`. -/
def withHeader (fuel : Nat) : Nat → List Token → Option (List (Expr × Option Expr) × List Token)
  | 0, _ => none
  | n + 1, ts => do
    let (e, rest) ← exprOf fuel ts
    let (target, rest) ← match rest with
      | .name "as" :: r => do
        let (t, r) ← targetOf fuel r
        if !t.assignable then none
        pure (some t, r)
      | r => pure (none, r)
    match rest with
    | .sym ":" :: after => pure ([(e, target)], after)
    | .sym "," :: r => do
      let (more, after) ← withHeader fuel n r
      pure ((e, target) :: more, after)
    | _ => none

/-- An `except` header: an optional class and name. -/
def exceptHeader (fuel : Nat) (ts : List Token) :
    Option ((Option Expr × Option String) × List Token) :=
  match ts with
  | .sym ":" :: after => some ((none, none), after)
  | _ => do
    let (e, rest) ← exprOf fuel ts
    match rest with
    | .sym ":" :: after => pure ((some e, none), after)
    | .name "as" :: .name x :: .sym ":" :: after =>
      if isIdentifier x then pure ((some e, some x), after) else none
    | _ => none

/-- A dotted name continued from an expression: the attributes named after it. -/
def attrChainOf : Nat → Expr → List Token → Expr × List Token
  | 0, e, ts => (e, ts)
  | fuel + 1, e, .sym "." :: .name x :: ts =>
    if keywords.contains x then (e, .sym "." :: .name x :: ts)
    else attrChainOf fuel (.attr e x) ts
  | _ + 1, e, ts => (e, ts)

/-- A literal of a pattern at the front of tokens, and whether it compares by identity: a
number with an optional minus sign, plain strings, `None`, `True` or `False`. -/
def literalPatternOf (ts : List Token) : Option ((Expr × Bool) × List Token) :=
  match ts with
  | .int n :: r => some ((.lit (.int n), false), r)
  | .float x :: r => some ((.lit (.float x), false), r)
  | .sym "-" :: .int n :: r => some ((.lit (.int (-(n : Int))), false), r)
  | .sym "-" :: .float x :: r => some ((.lit (.float (-x)), false), r)
  | .str _ :: _ =>
    let (ps, formatted, r) := stringRun ts
    if formatted then none else some ((.lit (.str (plainText ps)), false), r)
  | .name "None" :: r => some ((.lit .none, true), r)
  | .name "True" :: r => some ((.lit (.bool true), true), r)
  | .name "False" :: r => some ((.lit (.bool false), true), r)
  | _ => none

/-- An item of a sequence pattern as read: a pattern, or a starred name. -/
inductive SeqItem where
  | one (p : Pattern)
  | star (name : Option String)

/-- The sequence pattern of its items as read; at most one may be starred. -/
def sequenceOf (items : List SeqItem) : Option Pattern :=
  let ones (xs : List SeqItem) : Option (List Pattern) := xs.mapM fun x => match x with
    | .one p => some p
    | .star _ => none
  let front := items.takeWhile fun x => x matches .one _
  match items.drop front.length with
  | [] => do pure (.sequence (← ones front) none [])
  | .star s :: back => do pure (.sequence (← ones front) (some s) (← ones back))
  | _ => none

mutual

/-- A pattern: alternatives, optionally bound to a name with `as`. -/
def patternOf : Nat → List Token → Option (Pattern × List Token)
  | 0, _ => none
  | fuel + 1, ts => do
    let (p, rest) ← alternativesOf fuel ts
    match rest with
    | .name "as" :: .name x :: rest =>
      if !isIdentifier x || x == "_" then none else pure (.capturing p x, rest)
    | _ => pure (p, rest)

/-- Closed patterns separated by `|`. -/
def alternativesOf : Nat → List Token → Option (Pattern × List Token)
  | 0, _ => none
  | fuel + 1, ts => do
    let (p, rest) ← closedPatternOf fuel ts
    match rest with
    | .sym "|" :: rest => do
      let (q, rest) ← alternativesOf fuel rest
      match q with
      | .alternatives qs => pure (.alternatives (p :: qs), rest)
      | q => pure (.alternatives [p, q], rest)
    | _ => pure (p, rest)

/-- A closed pattern: a literal, a capture, `_`, a dotted value, a class pattern, a group,
or a sequence or mapping display. -/
def closedPatternOf : Nat → List Token → Option (Pattern × List Token)
  | 0, _ => none
  | fuel + 1, ts =>
    match literalPatternOf ts with
    | some ((e, byId), rest) => some (.value e byId, rest)
    | none => match ts with
      | .name x :: rest =>
        if keywords.contains x then none
        else
          let (e, rest') := attrChainOf fuel (.var x) rest
          match rest' with
          | .sym "(" :: r => classArgsOf fuel e r [] []
          | _ =>
            if e matches .attr .. then some (.value e false, rest')
            else if x == "_" then some (.wildcard, rest)
            else some (.capture x, rest)
      | .sym "(" :: .sym ")" :: rest => some (.sequence [] none [], rest)
      | .sym "(" :: rest => do
        let (first, r) ← seqItemOf fuel rest
        match r, first with
        | .sym ")" :: r, .one p => some (p, r)
        | .sym "," :: r, _ => do
          let (items, r) ← seqItemsOf fuel ")" r [first]
          pure (← sequenceOf items, r)
        | _, _ => none
      | .sym "[" :: rest => do
        let (items, r) ← seqItemsOf fuel "]" rest []
        pure (← sequenceOf items, r)
      | .sym "\x7b" :: rest => mappingOf fuel rest []
      | _ => none

/-- A pattern or a starred name, as an item of a sequence pattern. -/
def seqItemOf : Nat → List Token → Option (SeqItem × List Token)
  | 0, _ => none
  | _ + 1, .sym "*" :: .name x :: rest =>
    if x == "_" then some (.star none, rest)
    else if isIdentifier x then some (.star (some x), rest) else none
  | fuel + 1, ts => do
    let (p, r) ← patternOf fuel ts
    pure (.one p, r)

/-- The items of a sequence pattern up to and past its closing bracket, after the items
read so far; a comma may end them. -/
def seqItemsOf : Nat → String → List Token → List SeqItem → Option (List SeqItem × List Token)
  | 0, _, _, _ => none
  | fuel + 1, close, ts, acc =>
    match ts with
    | .sym c :: rest =>
      if c == close then some (acc, rest) else seqItemsMore fuel close ts acc
    | _ => seqItemsMore fuel close ts acc

/-- One more item of a sequence pattern and those after it. -/
def seqItemsMore : Nat → String → List Token → List SeqItem → Option (List SeqItem × List Token)
  | 0, _, _, _ => none
  | fuel + 1, close, ts, acc => do
    let (x, r) ← seqItemOf fuel ts
    match r with
    | .sym "," :: r => seqItemsOf fuel close r (acc ++ [x])
    | .sym c :: r => if c == close then some (acc ++ [x], r) else none
    | _ => none

/-- The entries of a mapping pattern up to and past its closing brace: keys that are
literals or dotted values, each with a pattern, and last an optional `**` name. -/
def mappingOf : Nat → List Token → List (Expr × Pattern) → Option (Pattern × List Token)
  | 0, _, _ => none
  | _ + 1, .sym "\x7d" :: rest, acc => some (.mapping acc none, rest)
  | _ + 1, .sym "**" :: .name x :: rest, acc =>
    if x == "_" || !isIdentifier x then none
    else match rest with
      | .sym "\x7d" :: r => some (.mapping acc (some x), r)
      | .sym "," :: .sym "\x7d" :: r => some (.mapping acc (some x), r)
      | _ => none
  | fuel + 1, ts, acc => do
    let (key, r) ← match literalPatternOf ts with
      | some ((e, _), r) => some (e, r)
      | none => match ts with
        | .name x :: r =>
          let (e, r) := attrChainOf fuel (.var x) r
          if e matches .attr .. then some (e, r) else none
        | _ => none
    match r with
    | .sym ":" :: r => do
      let (p, r) ← patternOf fuel r
      match r with
      | .sym "," :: r => mappingOf fuel r (acc ++ [(key, p)])
      | .sym "\x7d" :: r => some (.mapping (acc ++ [(key, p)]) none, r)
      | _ => none
    | _ => none

/-- The arguments of a class pattern up to and past its closing parenthesis: positional
patterns, then named ones. -/
def classArgsOf : Nat → Expr → List Token → List Pattern → List (String × Pattern) →
    Option (Pattern × List Token)
  | 0, _, _, _, _ => none
  | _ + 1, c, .sym ")" :: rest, pos, named => some (.instance c pos named, rest)
  | fuel + 1, c, .name k :: .sym "=" :: rest, pos, named => do
    if !isIdentifier k then none
    let (p, r) ← patternOf fuel rest
    match r with
    | .sym "," :: r => classArgsOf fuel c r pos (named ++ [(k, p)])
    | .sym ")" :: r => some (.instance c pos (named ++ [(k, p)]), r)
    | _ => none
  | fuel + 1, c, ts, pos, named => do
    if !named.isEmpty then none
    let (p, r) ← patternOf fuel ts
    match r with
    | .sym "," :: r => classArgsOf fuel c r (pos ++ [p]) named
    | .sym ")" :: r => some (.instance c (pos ++ [p]) named, r)
    | _ => none

end

/-- The items of an open sequence pattern, up to the guard or the colon of its clause. -/
def openSequenceOf : Nat → List Token → List SeqItem → Option (List SeqItem × List Token)
  | 0, _, _ => none
  | fuel + 1, ts, acc =>
    match ts with
    | .sym ":" :: _ | .name "if" :: _ => some (acc, ts)
    | _ => do
      let (x, r) ← seqItemOf fuel ts
      match r with
      | .sym "," :: r => openSequenceOf fuel r (acc ++ [x])
      | _ => some (acc ++ [x], r)

/-- The header of a `case` clause after its keyword: its pattern (items separated by
commas make a sequence), an optional guard after `if`, and the tokens after its colon. -/
def caseHeader (fuel : Nat) (ts : List Token) :
    Option ((Pattern × Option Expr) × List Token) := do
  let (first, r) ← seqItemOf fuel ts
  let (p, r) ← match r, first with
    | .sym "," :: r, _ => do
      let (items, r) ← openSequenceOf fuel r [first]
      pure (← sequenceOf items, r)
    | r, .one p => pure (p, r)
    | _, _ => none
  match r with
  | .sym ":" :: after => pure ((p, none), after)
  | .name "if" :: r => do
    let (g, after) ← headerOf fuel namedOf r
    pure ((p, some g), after)
  | _ => none

/-- The header of a `match` statement after its keyword: the subject, items separated by
commas making a tuple, and the tokens after its colon. -/
def matchHeader (fuel : Nat) (ts : List Token) : Option (Expr × List Token) := do
  let (e, rest) ← match namedOf fuel ts with
    | some (e, .sym ":" :: r) => some (e, .sym ":" :: r)
    | _ => exprListOf fuel ts
  match rest with
  | .sym ":" :: after => pure (e, after)
  | _ => none

namespace Pattern

/-- The names a pattern binds, in the order it binds them. -/
def names : Nat → Pattern → List String
  | 0, _ => []
  | fuel + 1, p => match p with
    | .value .. | .wildcard => []
    | .capture x => [x]
    | .sequence front star back =>
      front.flatMap (names fuel) ++ (match star with
        | some (some x) => [x]
        | _ => []) ++ back.flatMap (names fuel)
    | .mapping entries rest => entries.flatMap (fun (_, q) => names fuel q) ++ rest.toList
    | .instance _ pos named => pos.flatMap (names fuel) ++ named.flatMap fun (_, q) => names fuel q
    | .alternatives ps => (ps.head?.map (names fuel)).getD []
    | .capturing q x => names fuel q ++ [x]

/-- The expressions a pattern evaluates: its values, its classes and its keys. -/
def exprs : Nat → Pattern → List Expr
  | 0, _ => []
  | fuel + 1, p => match p with
    | .value e _ => [e]
    | .capture _ | .wildcard => []
    | .sequence front _ back => front.flatMap (exprs fuel) ++ back.flatMap (exprs fuel)
    | .mapping entries _ => entries.flatMap fun (k, q) => k :: exprs fuel q
    | .instance c pos named =>
      c :: pos.flatMap (exprs fuel) ++ named.flatMap fun (_, q) => exprs fuel q
    | .alternatives ps => ps.flatMap (exprs fuel)
    | .capturing q _ => exprs fuel q

/-- Whether a pattern matches every subject: a capture, `_`, or alternatives holding one. -/
def irrefutable : Nat → Pattern → Bool
  | 0, _ => false
  | fuel + 1, p => match p with
    | .capture _ | .wildcard => true
    | .alternatives ps => ps.any (irrefutable fuel)
    | .capturing q _ => irrefutable fuel q
    | _ => false

/-- The literal keys of a mapping's entries, for telling repeated ones. -/
def literalKey : Expr → Option String
  | .lit (.str t) => some ("s" ++ t)
  | .lit (.int i) => some ("n" ++ toString i)
  | .lit (.bool b) => some (if b then "n1" else "n0")
  | .lit .none => some "none"
  | .lit (.float x) => some ("f" ++ toString x)
  | _ => none

/-- Whether a pattern is well formed: no name bound twice, alternatives that bind the same
names with one that matches everything only last, no literal key of a mapping repeated and
no attribute of a class pattern named twice. -/
def wellFormed : Nat → Pattern → Bool
  | 0, _ => false
  | fuel + 1, p =>
    let ns := names fuel p
    ns.length == ns.eraseDups.length &&
    match p with
    | .value .. | .capture _ | .wildcard => true
    | .sequence front _ back => front.all (wellFormed fuel) && back.all (wellFormed fuel)
    | .mapping entries _ =>
      let keys := entries.filterMap fun (k, _) => literalKey k
      keys.length == keys.eraseDups.length && entries.all fun (_, q) => wellFormed fuel q
    | .instance _ pos named =>
      let attrs := named.map (·.1)
      attrs.length == attrs.eraseDups.length && pos.all (wellFormed fuel) &&
        named.all fun (_, q) => wellFormed fuel q
    | .alternatives ps =>
      let first := (ps.head?.map (names fuel)).getD []
      let sameNames (q : Pattern) : Bool :=
        let qs := names fuel q
        qs.length == first.length && qs.all first.contains
      ps.all (wellFormed fuel) && ps.all sameNames &&
        (ps.dropLast.all fun q => !irrefutable fuel q)
    | .capturing q _ => wellFormed fuel q

end Pattern

/-- Whether the cases of a `match` are well formed: each pattern is, and only the last case
may match every subject without a guard. -/
def casesWellFormed (fuel : Nat) (cases : List (Pattern × Option Expr × List Stmt)) : Bool :=
  cases.all (fun (p, _, _) => p.wellFormed fuel) &&
    cases.dropLast.all fun (p, g, _) => g.isSome || !p.irrefutable fuel

/-- The first word of a line. -/
def Line.lead (l : Line) : Option String :=
  match l.tokens with
  | .name w :: _ => some w
  | _ => none

mutual

/-- The statements of a block whose lines stand at one column, and the lines after it. A
line further right is an indentation fault; a line further left ends the block. -/
def blockOf : Nat → Nat → List Line → Except Fault (List Stmt × List Line)
  | 0, _, _ => throw .grammar
  | _ + 1, _, [] => pure ([], [])
  | fuel + 1, col, l :: ls =>
    if l.indent > col then throw .indentation
    else if l.indent < col then pure ([], l :: ls)
    else do
      let (ss, rest) ← statementOf fuel col l ls
      let (more, rest) ← blockOf fuel col rest
      pure (ss ++ more, rest)

/-- The suite of a compound statement: the statements after its colon on the same line, or
the block of the lines below it that stand further right. -/
def suiteOf : Nat → Nat → List Token → List Line → Except Fault (List Stmt × List Line)
  | 0, _, _, _ => throw .grammar
  | fuel + 1, col, after, ls =>
    if !after.isEmpty then
      match simplesOf (fuelFor after) (after.length + 1) after with
      | some ss => if ss.isEmpty then throw .grammar else pure (ss, ls)
      | none => throw .grammar
    else match ls with
      | l :: _ => if l.indent > col then blockOf fuel l.indent ls else throw .indentation
      | [] => throw .indentation

/-- One statement starting at a line: a compound statement with its suites and the clauses
that follow it at the same column, or the simple statements of the line. -/
def statementOf : Nat → Nat → Line → List Line → Except Fault (List Stmt × List Line)
  | 0, _, _, _ => throw .grammar
  | fuel + 1, col, l, ls =>
    let ts := l.tokens
    let f := fuelFor ts
    match ts with
    | .name "if" :: rest => do
      let (s, ls) ← branchOf fuel col rest ls
      pure ([s], ls)
    | .name "while" :: rest => do
      let (test, after) ← (headerOf f namedOf rest).elim (throw .grammar) pure
      let (body, ls) ← suiteOf fuel col after ls
      let (orElse, ls) ← elseOf fuel col ls
      pure ([.loop test body orElse], ls)
    | .name "for" :: rest => do
      let ((target, source), after) ← (forHeader f rest).elim (throw .grammar) pure
      let (body, ls) ← suiteOf fuel col after ls
      let (orElse, ls) ← elseOf fuel col ls
      pure ([.forEach target source body orElse], ls)
    | .name "with" :: rest => do
      let (items, after) ← (withHeader f (rest.length + 1) rest).elim (throw .grammar) pure
      let (body, ls) ← suiteOf fuel col after ls
      pure ([.managed items body], ls)
    | .name "try" :: .sym ":" :: after => do
      let (body, ls) ← suiteOf fuel col after ls
      let (handlers, ls) ← handlersOf fuel col ls
      let (orElse, ls) ← if handlers.isEmpty then pure ([], ls) else elseOf fuel col ls
      let (final, ls) ← finallyOf fuel col ls
      if handlers.isEmpty && final.isEmpty then throw .grammar
      pure ([.guarded body handlers orElse final], ls)
    | .name "def" :: .name fn :: .sym "(" :: rest => do
      if !isIdentifier fn then throw .grammar
      let (params, rest) ← (paramsOf f true ")" rest).elim (throw .grammar) pure
      let (returns, after) ← match rest with
        | .sym "->" :: r => do
          let (e, after) ← (headerOf f exprOf r).elim (throw .grammar) pure
          pure (some e, after)
        | .sym ":" :: after => pure (none, after)
        | _ => throw .grammar
      let (body, ls) ← suiteOf fuel col after ls
      pure ([.funcDef fn [] params returns body], ls)
    | .name "class" :: .name c :: rest => do
      if !isIdentifier c then throw .grammar
      let (bases, after) ← match rest with
        | .sym ":" :: after => pure ([], after)
        | .sym "(" :: r => do
          let (args, r) ← (argsOf f r []).elim (throw .grammar) pure
          match r with
          | .sym ":" :: after => pure (args, after)
          | _ => throw .grammar
        | _ => throw .grammar
      let (body, ls) ← suiteOf fuel col after ls
      pure ([.classDef c [] bases body], ls)
    | .name "match" :: rest =>
      match matchHeader f rest, ls with
      | some (subject, []), l' :: _ =>
        if l'.indent > col && l'.lead == some "case" then do
          let (cases, ls) ← casesOf fuel l'.indent ls
          if cases.isEmpty || !casesWellFormed f cases then throw .grammar
          pure ([.matching subject cases], ls)
        else simpleLine l ls
      | _, _ => simpleLine l ls
    | .sym "@" :: rest => do
      let d ← (wholeNamed f rest).elim (throw .grammar) pure
      match ls with
      | l' :: more =>
        if l'.indent != col then throw .grammar
        let (ss, ls) ← statementOf fuel col l' more
        match ss with
        | [.funcDef n ds ps r b] => pure ([.funcDef n (d :: ds) ps r b], ls)
        | [.classDef n ds bs b] => pure ([.classDef n (d :: ds) bs b], ls)
        | [.unsupported] => pure ([.unsupported], ls)
        | _ => throw .grammar
      | [] => throw .grammar
    | .name w :: _ =>
      if w == "elif" || w == "else" || w == "except" || w == "finally" || w == "try" then
        throw .grammar
      else if w == "def" || w == "class" || w == "async" then do
        -- a statement with a suite that bodies here do not run
        let ls' := ls.dropWhile (·.indent > col)
        if ls'.length == ls.length && ts.getLast? matches some (.sym ":") then
          throw .indentation
        pure ([.unsupported], ls')
      else simpleLine l ls
    | _ => simpleLine l ls

/-- An `if` statement after its keyword, with its `elif` and `else` clauses. -/
def branchOf : Nat → Nat → List Token → List Line → Except Fault (Stmt × List Line)
  | 0, _, _, _ => throw .grammar
  | fuel + 1, col, rest, ls => do
    let (test, after) ← (headerOf (fuelFor rest) namedOf rest).elim (throw .grammar) pure
    let (body, ls) ← suiteOf fuel col after ls
    match ls with
    | l :: more =>
      if l.indent == col then
        match l.tokens with
        | .name "elif" :: r => do
          let (s, ls) ← branchOf fuel col r more
          pure (.branch test body [s], ls)
        | .name "else" :: .sym ":" :: after => do
          let (orElse, ls) ← suiteOf fuel col after more
          pure (.branch test body orElse, ls)
        | _ => pure (.branch test body [], ls)
      else pure (.branch test body [], ls)
    | [] => pure (.branch test body [], [])

/-- An optional `else` clause at a column. -/
def elseOf : Nat → Nat → List Line → Except Fault (List Stmt × List Line)
  | 0, _, _ => throw .grammar
  | fuel + 1, col, l :: more =>
    if l.indent == col then
      match l.tokens with
      | .name "else" :: .sym ":" :: after => suiteOf fuel col after more
      | _ => pure ([], l :: more)
    else pure ([], l :: more)
  | _ + 1, _, [] => pure ([], [])

/-- An optional `finally` clause at a column. -/
def finallyOf : Nat → Nat → List Line → Except Fault (List Stmt × List Line)
  | 0, _, _ => throw .grammar
  | fuel + 1, col, l :: more =>
    if l.indent == col then
      match l.tokens with
      | .name "finally" :: .sym ":" :: after => suiteOf fuel col after more
      | _ => pure ([], l :: more)
    else pure ([], l :: more)
  | _ + 1, _, [] => pure ([], [])

/-- The `case` clauses of a `match` at a column. -/
def casesOf : Nat → Nat → List Line →
    Except Fault (List (Pattern × Option Expr × List Stmt) × List Line)
  | 0, _, _ => throw .grammar
  | fuel + 1, col, l :: more =>
    if l.indent == col then
      match l.tokens with
      | .name "case" :: r => do
        let ((p, guard), after) ← (caseHeader (fuelFor r) r).elim (throw .grammar) pure
        let (body, ls) ← suiteOf fuel col after more
        let (rest, ls) ← casesOf fuel col ls
        pure ((p, guard, body) :: rest, ls)
      | _ => throw .grammar
    else if l.indent > col then throw .indentation
    else pure ([], l :: more)
  | _ + 1, _, [] => pure ([], [])

/-- The `except` clauses at a column. -/
def handlersOf : Nat → Nat → List Line →
    Except Fault (List (Option Expr × Option String × List Stmt) × List Line)
  | 0, _, _ => throw .grammar
  | fuel + 1, col, l :: more =>
    if l.indent == col then
      match l.tokens with
      | .name "except" :: r => do
        let ((cls, name), after) ← (exceptHeader (fuelFor r) r).elim (throw .grammar) pure
        let (body, ls) ← suiteOf fuel col after more
        let (rest, ls) ← handlersOf fuel col ls
        pure ((cls, name, body) :: rest, ls)
      | _ => pure ([], l :: more)
    else pure ([], l :: more)
  | _ + 1, _, [] => pure ([], [])

end

/-- The fuel for reading the blocks of some lines. -/
def linesFuel (ls : List Line) : Nat := 4 * (ls.foldl (fun n l => n + l.tokens.length + 1) 1)

/-- An expression on its own, if its text reads. -/
def parseExpr (s : String) : Option Expr := do
  let ts ← tokens s
  match exprOf (fuelFor ts) ts with
  | some (e, []) => some e
  | _ => none

end Storefront.Script
