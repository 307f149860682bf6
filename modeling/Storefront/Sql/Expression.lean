import Storefront.Hint
import Storefront.Value.Text
import Storefront.Value.Compare
import Storefront.Failure

/-!
# Parameterized SQL expressions

An expression is a flat list of fragments: text, and parameters bound to placeholders.
Values are never written into the text: compiling an expression gives the text with a
placeholder for each parameter, and the parameters' values in order. Pieces added to an
expression are flattened, nested groups in order; a piece that is neither text, a parameter
nor a group is refused.
-/

namespace Storefront.Sql

/-- A value to bind to a placeholder, with the type it was derived from: a hint, and the
type's name when it has one (a union written with the union operator has none). -/
structure Param where
  value : Value
  hint : Hint
  typeName : Option String

namespace Param

/-- A parameter of a value and a class. -/
def ofClass (v : Value) (k : Kind) : Param := ⟨v, .cls k, some k.name⟩

/-- A parameter of a value's own class. -/
def ofValue (v : Value) : Param := ofClass v v.kind

/-- The name of the parameter's type; a type without a name is a missing attribute. -/
def typeText (p : Param) : Except Failure String :=
  match p.typeName with
  | some n => pure n
  | none => throw (.runtime .attributeError)

/-- The text that reads back as the parameter. -/
def repr (p : Param) : Except Failure String := do
  pure ("Param(" ++ p.value.repr ++ ", " ++ (← p.typeText) ++ ")")

/-- The parameter shown in place: its value's plain text in guillemets. -/
def display (p : Param) : String := "«" ++ p.value.plain ++ "»"

/-- Two parameters are equal when their values are one object or equal, and their types are
the same. -/
def same (p q : Param) : Bool := Value.alike p.value q.value && p.hint.key == q.hint.key

end Param

/-- A fragment of an expression. -/
inductive Fragment where
  | text (s : String)
  | param (p : Param)

/-- A fragment shown in place. -/
def Fragment.display : Fragment → String
  | .text s => s
  | .param p => p.display

/-- The text that reads back as a fragment. -/
def Fragment.repr : Fragment → Except Failure String
  | .text s => pure (Value.quoted s)
  | .param p => p.repr

/-- An expression: its fragments in order. -/
structure Expression where
  fragments : List Fragment := []

/-- A piece offered to an expression: text, a parameter, a list of pieces, an expression
already built, a map (which offers its keys), or a value that is none of these. -/
inductive Piece where
  | text (s : String)
  | param (p : Param)
  | group (pieces : List Piece)
  | expr (fragments : List Fragment)
  | keys (entries : List (String × Value))
  | other (v : Value)

namespace Piece

/-- The members of a piece taken as a sequence: the characters of text, the items of a list,
the fragments of an expression, the keys of a map. A parameter or a plain value is not a
sequence. -/
def members : Piece → Except Failure (List Piece)
  | .text s => pure (s.toList.map fun c => .text (String.singleton c))
  | .group ps => pure ps
  | .expr fs => pure (fs.map fun
      | .text s => .text s
      | .param p => .param p)
  | .keys es => pure (es.map fun e => .text e.1)
  | .param _ | .other _ => throw (.runtime .typeError)

/-- A piece as a condition: empty text, lists, expressions and maps are false. -/
def truthy : Piece → Bool
  | .text s => !s.isEmpty
  | .param _ => true
  | .group ps => !ps.isEmpty
  | .expr fs => !fs.isEmpty
  | .keys es => !es.isEmpty
  | .other v => v.truthy

/-- Texts joined with commas. -/
def commaList : List String → String := ", ".intercalate

mutual

/-- The text that reads back as a piece. -/
def repr : Piece → Except Failure String
  | .text s => pure (Value.quoted s)
  | .param p => p.repr
  | .group ps => do pure ("[" ++ commaList (← reprs ps) ++ "]")
  | .expr fs => do pure ("Expression([" ++ commaList (← fs.mapM Fragment.repr) ++ "])")
  | .keys es => pure (Value.dict es).repr
  | .other v => pure v.repr

/-- `repr` of each piece. -/
def reprs : List Piece → Except Failure (List String)
  | [] => pure []
  | p :: ps => do pure ((← repr p) :: (← reprs ps))

end

/-- The plain text of a piece: as `repr` except for text itself, a parameter shown in place,
an expression's fragments shown in place, and a value's plain text. -/
def plain : Piece → Except Failure String
  | .text s => pure s
  | .param p => pure p.display
  | .expr fs => pure (String.join (fs.map Fragment.display))
  | .other v => pure v.plain
  | p => p.repr

mutual

/-- Equality of pieces: parameters by value and type, text by its characters, lists item by
item, maps and values as values. Two expressions are never equal, since each is its own
object. -/
def same : Piece → Piece → Bool
  | .param p, .param q => p.same q
  | .text s, .text t => s == t
  | .group ps, .group qs => sameAll ps qs
  | .keys es, .keys fs => Value.same (.dict es) (.dict fs)
  | .other v, .other w => Value.same v w
  | _, _ => false

/-- Lists of pieces equal item by item. -/
def sameAll : List Piece → List Piece → Bool
  | [], [] => true
  | p :: ps, q :: qs => same p q && sameAll ps qs
  | _, _ => false

end

end Piece

namespace Expression

mutual

/-- Add the fragments of a piece at the end, one at a time as `+=` does in place: the expression
as it is left, and the failure that stopped it. A value that is not a fragment stops the adding
with the fragments before it already added. -/
def extend (e : Expression) : Piece → Expression × Option Failure
  | .text s => (⟨e.fragments ++ [.text s]⟩, none)
  | .param p => (⟨e.fragments ++ [.param p]⟩, none)
  | .group ps => extendAll e ps
  | .expr fs => (⟨e.fragments ++ fs⟩, none)
  | .keys es => (⟨e.fragments ++ es.map fun k => .text k.1⟩, none)
  | .other v => (e, some (Failure.valueError ("unsupported fragment: " ++ v.repr)))

/-- `extend` with each piece in turn, up to the first that stops it. -/
def extendAll (e : Expression) : List Piece → Expression × Option Failure
  | [] => (e, none)
  | p :: ps =>
    match extend e p with
    | (e', none) => extendAll e' ps
    | stopped => stopped

end

/-- The expression with the fragments of a piece added at its end, as a caller of `+=` sees it:
on a failure the expression is dropped. -/
def add (e : Expression) (p : Piece) : Except Failure Expression :=
  match e.extend p with
  | (e', none) => pure e'
  | (_, some f) => throw f

/-- An expression of pieces. -/
def ofPieces (ps : List Piece) : Except Failure Expression := Expression.add {} (.group ps)

/-- Add a piece, with the separator before it when the expression is not empty and the
separator is truthy. -/
def joinStep (sep : Piece) (e : Expression) (p : Piece) : Except Failure Expression := do
  let e ← if !e.fragments.isEmpty && sep.truthy then e.add sep else pure e
  e.add p

/-- An expression of pieces with a separator between them. -/
def join (ps : List Piece) (sep : Piece) : Except Failure Expression :=
  ps.foldlM (joinStep sep) {}

/-- The text with a placeholder for each parameter, and the parameters' values in order. -/
def compile (e : Expression) (placeholder : String) : String × List Value :=
  (String.join (e.fragments.map fun
      | .text s => s
      | .param _ => placeholder),
    e.fragments.filterMap fun
      | .text _ => none
      | .param p => some p.value)

/-- The expression with each parameter shown in place. -/
def display (e : Expression) : String := String.join (e.fragments.map Fragment.display)

end Expression

end Storefront.Sql
