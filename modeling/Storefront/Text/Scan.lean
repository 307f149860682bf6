/-!
# Scanners that backtrack

A `Scan` reads a prefix of a character list in every way it can, the preferred readings first.
Sequencing keeps that order, so the first complete reading of a grammar is the one a
backtracking matcher that prefers the longest repetition and the left alternative finds.
-/

namespace Storefront

/-- Every reading of a prefix, preferred first, each with the rest of the input. -/
def Scan (α : Type) := List Char → List (α × List Char)

namespace Scan

/-- Read nothing. -/
def pure (a : α) : Scan α := fun cs => [(a, cs)]

/-- Read one thing, then another that may depend on it. -/
def bind (p : Scan α) (f : α → Scan β) : Scan β := fun cs =>
  (p cs).flatMap fun (a, rest) => f a rest

instance : Monad Scan where
  pure := Scan.pure
  bind := Scan.bind

/-- The readings of the first scanner, then those of the second. -/
def orElse (p q : Scan α) : Scan α := fun cs => p cs ++ q cs

/-- Read once if possible (preferred), else nothing. -/
def opt (p : Scan α) : Scan (Option α) := fun cs => (p cs).map (fun (a, r) => (some a, r)) ++ [(none, cs)]

/-- One character satisfying a test. -/
def sat (ok : Char → Bool) : Scan Char
  | c :: rest => if ok c then [(c, rest)] else []
  | [] => []

/-- One given character. -/
def char (c : Char) : Scan Char := sat (· == c)

/-- ASCII decimal digit. -/
def isDigit (c : Char) : Bool := '0' ≤ c && c ≤ '9'

/-- Exactly `n` decimal digits. -/
def digits : Nat → Scan (List Char)
  | 0 => Scan.pure []
  | n + 1 => fun cs => (do let d ← sat isDigit; let ds ← digits n; Scan.pure (d :: ds)) cs

/-- One or two decimal digits, two preferred. -/
def digits12 : Scan (List Char) := orElse (digits 2) (digits 1)

/-- One or more decimal digits, the longest run preferred. -/
def digitsPlus : Scan (List Char) := fun cs =>
  let run := cs.takeWhile isDigit
  ((List.range run.length).reverse).map fun i => (run.take (i + 1), cs.drop (i + 1))

/-- Succeed without reading when the scanner has no reading here. -/
def notAhead (p : Scan α) : Scan Unit := fun cs => if (p cs).isEmpty then [((), cs)] else []

/-- The end of the input, or a single line feed before it. -/
def atEnd : Scan Unit
  | [] => [((), [])]
  | ['\n'] => [((), ['\n'])]
  | _ => []

/-- The first reading of the whole input that reaches its end. -/
def firstComplete (p : Scan α) (cs : List Char) : Option α :=
  match (Scan.bind p fun a => Scan.bind atEnd fun _ => Scan.pure a) cs with
  | (a, _) :: _ => some a
  | [] => none

end Scan

end Storefront
