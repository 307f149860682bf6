import Storefront.Operation.Script.Operators
import Storefront.Text.Case
import Storefront.Text.Pad

/-!
# Methods of builtin classes

The methods of strings, lists, dicts, sets, tuples, ranges, numbers and times that need no
function of the body to be called. Arguments are bound to a method's parameters by position,
and by keyword only where the method takes keywords; a method given too many, too few or
unknown arguments is a type failure.

String searches take a window given by a start and an end in the way of slice bounds, except
that a start past the end finds nothing. Lists, dicts and sets change in place and give
none, or the item they remove.
-/

-- powers of naturals and integers are the core ones, whatever else is in scope
attribute [local instance (1100)] instPowNat

namespace Storefront.Script

namespace Run

/-- How a builtin checks its arguments, which decides the words of its failures. -/
inductive ArgStyle where
  /-- exactly one, by position -/
  | single
  /-- by position only, counted against the least and the most -/
  | counted
  /-- by position only, read by the older parser -/
  | parsed
  /-- the first `posonly` by position only, at most `maxpos` by position, the others by
  keyword -/
  | named (posonly maxpos : Nat)

/-- A count of arguments with its noun. -/
def argumentCount (n : Nat) : String :=
  toString n ++ " argument" ++ (if n == 1 then "" else "s")

/-- Arguments bound to the parameters of a builtin, checked in its style: `fn` is its name
and `qual` its name with its class's, which refusals of keywords use; the first `required`
parameters must be bound. -/
def bindArgs (style : ArgStyle) (fn qual : String) (names : List String) (required : Nat)
    (args : List Obj) (kwargs : List (String × Obj)) : Run (List (Option Obj)) := do
  let n := args.length
  let most := names.length
  let byPosition : List (Option Obj) := (List.range most).map fun i => args[i]?
  match style with
  | .single =>
    if !kwargs.isEmpty then typeFail (qual ++ "() takes no keyword arguments")
    if n != 1 then
      typeFail (qual ++ "() takes exactly one argument (" ++ toString n ++ " given)")
    pure byPosition
  | .counted =>
    if !kwargs.isEmpty then typeFail (qual ++ "() takes no keyword arguments")
    if required == most && n != most then
      typeFail (fn ++ " expected " ++ argumentCount most ++ ", got " ++ toString n)
    if n < required then
      typeFail (fn ++ " expected at least " ++ argumentCount required ++ ", got " ++ toString n)
    if n > most then
      typeFail (fn ++ " expected at most " ++ argumentCount most ++ ", got " ++ toString n)
    pure byPosition
  | .parsed =>
    if !kwargs.isEmpty then typeFail (qual ++ "() takes no keyword arguments")
    let bound (word : String) (k : Nat) : Run Unit :=
      typeFail (fn ++ "() takes " ++ word ++ " " ++ argumentCount k ++ " (" ++ toString n ++
        " given)")
    if required == most && n != most then bound "exactly" most
    if n < required then bound "at least" required
    if n > most then bound "at most" most
    pure byPosition
  | .named posonly maxpos =>
    let given := n + kwargs.length
    if given > most then
      typeFail (fn ++ "() takes at most " ++ toString most ++ " " ++
        (if n == 0 then "keyword " else "") ++ "argument" ++ (if most == 1 then "" else "s") ++
        " (" ++ toString given ++ " given)")
    if n > maxpos then
      if maxpos == 0 then typeFail (fn ++ "() takes no positional arguments")
      else typeFail (fn ++ "() takes " ++ (if required < maxpos then "at most" else "exactly") ++
        " " ++ toString maxpos ++ " positional argument" ++ (if maxpos == 1 then "" else "s") ++
        " (" ++ toString n ++ " given)")
    let least := min posonly required
    if n < least then
      typeFail (fn ++ "() takes " ++ (if least < maxpos then "at least" else "exactly") ++ " " ++
        toString least ++ " positional argument" ++ (if least == 1 then "" else "s") ++ " (" ++
        toString n ++ " given)")
    let keywordNames := names.drop posonly
    let mut bound : List (Option Obj) := []
    for (k, i) in names.zipIdx do
      if i < n then bound := bound ++ [args[i]?]
      else
        let found := if i < posonly then none else kwargs.lookup k
        match found with
        | some o => bound := bound ++ [some o]
        | none =>
          if i < required then
            typeFail (fn ++ "() missing required argument '" ++ k ++ "' (pos " ++
              toString (i + 1) ++ ")")
          bound := bound ++ [none]
    for (k, _) in kwargs do
      match keywordNames.idxOf? k with
      | some j =>
        if posonly + j < n then
          typeFail ("argument for " ++ fn ++ "() given by name ('" ++ k ++ "') and position (" ++
            toString (posonly + j + 1) ++ ")")
      | none => pure ()
    for (k, _) in kwargs do
      if !keywordNames.contains k then
        typeFail ("'" ++ k ++ "' is an invalid keyword argument for " ++ fn ++ "()")
    pure bound

/-- A bound argument of a parameter that must be bound. -/
def req (ps : List (Option Obj)) (i : Nat) : Obj := (ps.getD i none).getD noneObj

/-- No arguments for a method that takes none; `fn` is the method's name with its class's,
and keywords are refused first. -/
def noArgs (fn : String) (args : List Obj) (kwargs : List (String × Obj)) : Run Unit := do
  if !kwargs.isEmpty then typeFail (fn ++ "() takes no keyword arguments")
  if !args.isEmpty then
    typeFail (fn ++ "() takes no arguments (" ++ toString args.length ++ " given)")

/-- The class a method of times is defined on: a date's methods serve times too. -/
def timeOwner (m : String) : String :=
  if m == "weekday" || m == "isoweekday" || m == "toordinal" then "date" else "datetime"

/-- A string argument. -/
def textArg (o : Obj) : Run String := do
  match o with
  | .scalar (.str s) _ => pure s
  | _ => typeFail ("must be str, not " ++ (← typeOf o))

/-- The class of an argument as messages about arguments of the wrong class name it:
`None` by itself. -/
def argClassText (o : Obj) : Run String := do
  match o with
  | .scalar .none _ => pure "None"
  | _ => typeOf o

/-- A string argument of a function, named in the refusal of another class by the
function and the argument's place (`where`, such as "argument 2"). -/
def namedTextArg (fn place : String) (o : Obj) : Run String := do
  match o with
  | .scalar (.str s) _ => pure s
  | _ => typeFail (fn ++ "() " ++ place ++ " must be str, not " ++ (← argClassText o))

/-- An integer argument that a flag takes: a boolean or an integer, read for its truth. -/
def flagArg (o : Obj) : Run Bool := do
  match o with
  | .scalar (.float _) _ => typeFail "'float' object cannot be interpreted as an integer"
  | _ => match o.int? with
    | some i => pure (i != 0)
    | none => typeFail ("'" ++ (← typeOf o) ++ "' object cannot be interpreted as an integer")

/-- An integer argument. -/
def intArg (o : Obj) : Run Int := do
  match o with
  | .scalar (.float _) _ => typeFail "'float' object cannot be interpreted as an integer"
  | _ => match o.int? with
    | some i => pure i
    | none => typeFail ("'" ++ (← typeOf o) ++ "' object cannot be interpreted as an integer")

/-- An optional integer argument, none or left out giving the default. -/
def intArgOr (o : Option Obj) (d : Int) : Run Int := do
  match o with
  | none => pure d
  | some x => intArg x

/-- A fill character argument. -/
def fillArg (o : Option Obj) : Run Char := do
  match o with
  | none => pure ' '
  | some x => match x with
    | .scalar (.str s) _ => match s.toList with
      | [c] => pure c
      | _ => typeFail "The fill character must be exactly one character long"
    | _ => typeFail ("The fill character must be a unicode character, not " ++ (← typeOf x))

/-- A list of strings as new string objects. -/
def strList (parts : List (List Char)) : Run Obj := do
  list (← parts.mapM fun p => str (String.ofList p))

end Run

/-- The window of a search over a text of a length: the start is not clamped to the end, so
that a start past the end finds nothing. -/
def searchWindow (n : Nat) (start stop : Option Int) : Int × Int :=
  let len : Int := n
  let e := match stop with
    | none => len
    | some e => if e > len then len else if e < 0 then max (e + len) 0 else e
  let s := match start with
    | none => 0
    | some s => if s < 0 then max (s + len) 0 else s
  (s, e)

/-- The first position of a part inside a search window, if the window holds it. -/
def findWithin (part cs : List Char) (start stop : Option Int) (last : Bool) : Option Nat :=
  let (s, e) := searchWindow cs.length start stop
  if e - s < part.length then none
  else if last then Text.rfindIn part cs s.toNat e.toNat
  else Text.findIn part cs s.toNat e.toNat

/-- Whether a text is a name: a letter or underscore, then letters, digits or
underscores. -/
def isNameText (cs : List Char) : Bool :=
  match cs with
  | c :: rest => nameStart c && rest.all nameChar
  | [] => false

namespace Run

/-- A test of a string's characters: false for the empty string unless `empty` says. -/
def charTest (s : String) (p : Char → Bool) (empty : Bool := false) : Obj :=
  bool (if s.isEmpty then empty else s.toList.all p)

/-- The parts of a string that `startswith` and `endswith` look for: a string or a tuple of
strings. -/
def affixes (o : Obj) (fn : String) : Run (List String) := do
  match o with
  | .scalar (.str s) _ => pure [s]
  | .tuple xs _ => xs.mapM fun x => match x with
    | .scalar (.str s) _ => pure s
    | _ => do typeFail ("tuple for " ++ fn ++ " must only contain str, not " ++ (← typeOf x))
  | _ => typeFail (fn ++ " first arg must be str or a tuple of str, not " ++ (← typeOf o))

/-- A string that a case mapping makes: always a new object, one character too, but the
empty string, which has one object. -/
def mappedStr (s : String) : Run Obj := do
  if s.isEmpty then str s else pure (.scalar (.str s) (← fresh))

/-- Strings cut from a string, the string itself when it is not cut at all. -/
def partsOf (self : Obj) (s : String) (parts : List (List Char)) : Run Obj := do
  match parts with
  | [p] => if p == s.toList then list [self] else strList parts
  | _ => strList parts

/-- The table `str.maketrans` makes: from a dict whose keys are code points or single
characters, or from two strings of one length, whose characters map one to one, and a third
whose characters map to none. -/
def translationTable (args : List Obj) (kwargs : List (String × Obj)) : Run Obj := do
  let ps ← bindArgs .counted "maketrans" "str.maketrans" ["x", "y", "z"] 1 args kwargs
  let d ← alloc (.dict #[])
  match ps with
  | [some x, none, none] => match x with
    | .ref a => match ← cell a with
      | .dict es => do
        for (k, v) in es.toList do
          match k with
          | .scalar (.str t) _ => match t.toList with
            | [c] => setItem d (← int (Text.codePoint c)) v
            | _ => failWith (.runtimeText .valueError
                "string keys in translate table must be of length 1")
          | _ =>
            if k.int?.isSome then setItem d k v
            else typeFail "keys in translate table must be strings or integers"
        pure d
      | _ => typeFail "if you give only one argument to maketrans it must be a dict"
    | _ => typeFail "if you give only one argument to maketrans it must be a dict"
  | [some x, some y, z] => do
    let xs ← match x with
      | .scalar (.str t) _ => pure t.toList
      | _ => typeFail "first maketrans argument must be a string if there is a second argument"
    let ys := (← namedTextArg "maketrans" "argument 2" y).toList
    if xs.length != ys.length then
      failWith (.runtimeText .valueError "the first two maketrans arguments must have equal length")
    let zs ← match z with
      | some z => do pure (← namedTextArg "maketrans" "argument 3" z).toList
      | none => pure []
    for (c, e) in xs.zip ys do
      setItem d (← int (Text.codePoint c)) (← int (Text.codePoint e))
    for c in zs do setItem d (← int (Text.codePoint c)) noneObj
    pure d
  | _ => throw unsupported

/-- A string with each character put through a table: the table's item at the character's
code point replaces it (a code point, a string, or none to drop it), and a character the
table has no item for stays. -/
def translated (cs : List Char) (table : Obj) : Run Obj := do
  let mut out : Array Char := #[]
  for c in cs do
    let found ← tryCatch (some <$> item table (← int (Text.codePoint c))) fun f =>
      match f.runtimeKind? with
      | some .keyError | some .indexError | some .lookupError => pure none
      | _ => throw f
    match found with
    | none => out := out.push c
    | some (.scalar .none _) => pure ()
    | some (.scalar (.str t) _) => out := out ++ t.toList.toArray
    | some o => match o.int? with
      | some i =>
        if i < 0 || i ≥ 0x110000 then
          failWith (.runtimeText .valueError "character mapping must be in range(0x110000)")
        match Format.charOf? i with
        | some e => out := out.push e
        | none => throw unsupported
      | none => typeFail "character mapping must return integer, None or str"
  if out.size > maxChars then throw (.runtime (.other "MemoryError"))
  str (String.ofList out.toList)

/-- A method of a string that calls no function of the body. The string itself is the
result of a method that leaves it as it is: stripping, padding, replacing or removing what
it does not hold. -/
def strMethod (self : Obj) (s : String) (m : String) (args : List Obj)
    (kwargs : List (String × Obj)) : Run Obj := do
  let cs := s.toList
  let fn := m
  let same (out : List Char) : Run Obj := if out == cs then pure self else str (String.ofList out)
  match m with
  | "upper" => do noArgs ("str." ++ fn) args kwargs; mappedStr (Text.upper s)
  | "lower" => do noArgs ("str." ++ fn) args kwargs; mappedStr (Text.lower s)
  | "casefold" => do noArgs ("str." ++ fn) args kwargs; mappedStr (Text.casefold s)
  | "swapcase" => do noArgs ("str." ++ fn) args kwargs; mappedStr (Text.swapcase s)
  | "title" => do noArgs ("str." ++ fn) args kwargs; mappedStr (Text.title s)
  | "capitalize" => do noArgs ("str." ++ fn) args kwargs; mappedStr (Text.capitalize s)
  | "isupper" => do noArgs ("str." ++ fn) args kwargs; pure (bool (Text.allUpper s))
  | "islower" => do noArgs ("str." ++ fn) args kwargs; pure (bool (Text.allLower s))
  | "istitle" => do noArgs ("str." ++ fn) args kwargs; pure (bool (Text.isTitled s))
  | "isalpha" => do noArgs ("str." ++ fn) args kwargs; pure (charTest s Text.isAlphabetic)
  | "isdigit" => do noArgs ("str." ++ fn) args kwargs; pure (charTest s Text.isDigitChar)
  | "isdecimal" => do noArgs ("str." ++ fn) args kwargs; pure (charTest s Text.isDecimalDigit)
  | "isnumeric" => do noArgs ("str." ++ fn) args kwargs; pure (charTest s Text.isNumericChar)
  | "isalnum" => do noArgs ("str." ++ fn) args kwargs; pure (charTest s Text.isAlphanumeric)
  | "isspace" => do noArgs ("str." ++ fn) args kwargs; pure (charTest s Text.isWhitespace)
  | "isascii" => do noArgs ("str." ++ fn) args kwargs; pure (charTest s (·.toNat < 128) true)
  | "isprintable" => do noArgs ("str." ++ fn) args kwargs; pure (charTest s Text.isPrintable true)
  | "isidentifier" => do noArgs ("str." ++ fn) args kwargs; pure (bool (isNameText cs))
  | "center" | "ljust" | "rjust" => do
    let ps ← bindArgs .counted fn ("str." ++ fn) ["width", "fillchar"] 1 args kwargs
    let w ← intArgOr ps[0]! 0
    let fill ← fillArg ps[1]!
    let w := w.toNat
    if w ≤ cs.length then pure self
    else
      let out := if m == "center" then Text.centre cs w fill
        else if m == "ljust" then Text.leftJustify cs w fill else Text.rightJustify cs w fill
      str (String.ofList out)
  | "zfill" => do
    let ps ← bindArgs .single fn ("str." ++ fn) ["width"] 1 args kwargs
    let w ← intArgOr ps[0]! 0
    if w ≤ cs.length then pure self else str (String.ofList (Text.zeroFill cs w.toNat))
  | "count" | "find" | "rfind" | "index" | "rindex" => do
    let ps ← bindArgs .parsed fn ("str." ++ fn) ["sub", "start", "end"] 1 args kwargs
    let part := (← textArg (req ps 0)).toList
    let start ← boundOf ps[1]!
    let stop ← boundOf ps[2]!
    if m == "count" then
      let (a, b) := searchWindow cs.length start stop
      if b - a < part.length then int 0
      else int (Text.countIn part cs a.toNat b.toNat)
    else
      match findWithin part cs start stop (m == "rfind" || m == "rindex") with
      | some i => int i
      | none =>
        if m == "index" || m == "rindex" then
          failWith (.runtimeText .valueError "substring not found")
        else int (-1)
  | "startswith" | "endswith" => do
    let ps ← bindArgs .parsed fn ("str." ++ fn) ["prefix", "start", "end"] 1 args kwargs
    let parts ← affixes (req ps 0) fn
    let start ← boundOf ps[1]!
    let stop ← boundOf ps[2]!
    let (a, b) := searchWindow cs.length start stop
    let hit := parts.any fun p =>
      let p := p.toList
      if b - a < p.length || a > cs.length then false
      else if m == "startswith" then p.isPrefixOf (cs.drop a.toNat)
      else p.isPrefixOf (cs.drop (b.toNat - p.length))
    pure (bool hit)
  | "strip" | "lstrip" | "rstrip" => do
    let ps ← bindArgs .counted fn ("str." ++ fn) ["chars"] 0 args kwargs
    let test ← match ps[0]! with
      | none | some (.scalar .none _) => pure Text.isWhitespace
      | some (.scalar (.str t) _) => pure fun c => t.toList.contains c
      | some _ => typeFail (fn ++ " arg must be None or str")
    same (Text.stripBy test (m != "rstrip") (m != "lstrip") cs)
  | "split" | "rsplit" => do
    let ps ← bindArgs (.named 0 2) fn fn ["sep", "maxsplit"] 0 args kwargs
    let limit ← intArgOr ps[1]! (-1)
    let limit := if limit < 0 then none else some limit.toNat
    match ps[0]! with
    | none | some (.scalar .none _) =>
      partsOf self s (if m == "split" then Text.splitWords cs limit else Text.rsplitWords cs limit)
    | some x => do
      let sep ← match x with
        | .scalar (.str t) _ => pure t.toList
        | _ => typeFail ("must be str or None, not " ++ (← typeOf x))
      if sep.isEmpty then failWith (.runtimeText .valueError "empty separator")
      partsOf self s (if m == "split" then Text.splitOn cs sep limit else Text.rsplitOn cs sep limit)
  | "splitlines" => do
    let ps ← bindArgs (.named 0 1) fn fn ["keepends"] 0 args kwargs
    let keep ← match ps[0]! with
      | none => pure false
      | some x => flagArg x
    partsOf self s (Text.splitLines cs keep)
  | "partition" | "rpartition" => do
    let ps ← bindArgs .single fn ("str." ++ fn) ["sep"] 1 args kwargs
    let sep := (← textArg (req ps 0)).toList
    if sep.isEmpty then failWith (.runtimeText .valueError "empty separator")
    let (a, b, c) := if m == "partition" then Text.partitionAt cs sep else Text.rpartitionAt cs sep
    tuple [← same a, ← same b, ← same c]
  | "removeprefix" | "removesuffix" => do
    let ps ← bindArgs .single fn ("str." ++ fn) ["prefix"] 1 args kwargs
    let p := (← namedTextArg fn "argument" (req ps 0)).toList
    if m == "removeprefix" then
      if p.isPrefixOf cs then same (cs.drop p.length) else pure self
    else
      if p.reverse.isPrefixOf cs.reverse then same (cs.take (cs.length - p.length))
      else pure self
  | "replace" => do
    let ps ← bindArgs .counted fn ("str." ++ fn) ["old", "new", "count"] 2 args kwargs
    let old := (← namedTextArg fn "argument 1" (req ps 0)).toList
    let new := (← namedTextArg fn "argument 2" (req ps 1)).toList
    let count ← intArgOr ps[2]! (-1)
    let limit := if count < 0 then none else some count.toNat
    let untouched := limit == some 0 || old == new ||
      (!old.isEmpty && (Text.findIn old cs 0 cs.length).isNone)
    if untouched then pure self
    else
      let out := Text.replaceIn cs old new limit
      if out.length > maxChars then throw (.runtime (.other "MemoryError"))
      str (String.ofList out)
  | "expandtabs" => do
    let ps ← bindArgs (.named 0 1) fn fn ["tabsize"] 0 args kwargs
    let size ← intArgOr ps[0]! 8
    if cs.contains '\t' then str (String.ofList (Text.expandTabs cs size)) else pure self
  | "format" => formatFields plainWriters s args kwargs
  | "format_map" => formatMapped plainWriters s args kwargs
  | "translate" => do
    let ps ← bindArgs .single fn ("str." ++ fn) ["table"] 1 args kwargs
    translated cs (req ps 0)
  | "maketrans" => translationTable args kwargs
  | _ => throw unsupported

/-- The position where an item goes in for a list's `insert`. -/
def insertAt (n : Nat) (i : Int) : Nat :=
  if i < 0 then (max (i + n) 0).toNat else min i.toNat n

/-- The first position of an item in a list's window, by identity or equality. -/
def indexIn (xs : List Obj) (o : Obj) (start stop : Option Int) : Run (Option Nat) := do
  let (a, b) := searchWindow xs.length start stop
  let window := (xs.take b.toNat).drop a.toNat
  match ← lift (findItem (← heap) depth window o 0) with
  | some i => pure (some (i + a.toNat))
  | none => pure none

/-- How many items of a list are the object or equal to it. -/
def countIn (xs : List Obj) (o : Obj) : Run Nat := do
  let h ← heap
  let mut n := 0
  for x in xs do
    if x.identical o || (← lift (equal h depth x o)) then n := n + 1
  pure n

/-- A method of a list that calls no function of the body. -/
def listMethod (a : Nat) (m : String) (args : List Obj) (kwargs : List (String × Obj)) :
    Run Obj := do
  let xs ← match ← cell a with
    | .list xs => pure xs
    | _ => pure #[]
  let fn := m
  match m with
  | "append" => do
    let ps ← bindArgs .single fn ("list." ++ fn) ["object"] 1 args kwargs
    setCell a (.list (xs.push (req ps 0)))
    pure noneObj
  | "clear" => do noArgs ("list." ++ fn) args kwargs; setCell a (.list #[]); pure noneObj
  | "copy" => do noArgs ("list." ++ fn) args kwargs; alloc (.list xs)
  | "count" => do
    let ps ← bindArgs .single fn ("list." ++ fn) ["value"] 1 args kwargs
    int (← countIn xs.toList (req ps 0))
  | "index" => do
    let ps ← bindArgs .counted fn ("list." ++ fn) ["value", "start", "stop"] 1 args kwargs
    let x := (req ps 0)
    match ← indexIn xs.toList x (← searchBoundOf ps[1]!) (← searchBoundOf ps[2]!) with
    | some i => int i
    | none => failWith (.runtimeText .valueError ((← repr x) ++ " is not in list"))
  | "insert" => do
    let ps ← bindArgs .counted fn ("list." ++ fn) ["index", "object"] 2 args kwargs
    let i ← intArg (req ps 0)
    let p := insertAt xs.size i
    setCell a (.list (xs.insertIdxIfInBounds p (req ps 1)))
    pure noneObj
  | "pop" => do
    let ps ← bindArgs .counted fn ("list." ++ fn) ["index"] 0 args kwargs
    let i ← intArgOr ps[0]! (-1)
    if xs.isEmpty then failWith (.runtimeText .indexError "pop from empty list")
    match position? xs.size i with
    | some j => do
      setCell a (.list (xs.eraseIdxIfInBounds j))
      pure (xs.getD j noneObj)
    | none => failWith (.runtimeText .indexError "pop index out of range")
  | "remove" => do
    let ps ← bindArgs .single fn ("list." ++ fn) ["value"] 1 args kwargs
    match ← indexIn xs.toList (req ps 0) none none with
    | some j => do setCell a (.list (xs.eraseIdxIfInBounds j)); pure noneObj
    | none => failWith (.runtimeText .valueError "list.remove(x): x not in list")
  | "reverse" => do noArgs ("list." ++ fn) args kwargs; setCell a (.list xs.reverse); pure noneObj
  | _ => throw unsupported

/-- A method of a dict that calls no function of the body. -/
def dictMethod (a : Nat) (m : String) (args : List Obj) (kwargs : List (String × Obj)) :
    Run Obj := do
  let es ← match ← cell a with
    | .dict es => pure es
    | _ => pure #[]
  let h ← heap
  let fn := m
  match m with
  | "get" => do
    let ps ← bindArgs .counted fn ("dict." ++ fn) ["key", "default"] 1 args kwargs
    match ← lift (h.keyIndex es (req ps 0)) with
    | some j => pure (es.getD j default).2
    | none => pure (ps[1]!.getD noneObj)
  | "keys" => do noArgs ("dict." ++ fn) args kwargs; alloc (.view .keys a)
  | "values" => do noArgs ("dict." ++ fn) args kwargs; alloc (.view .values a)
  | "items" => do noArgs ("dict." ++ fn) args kwargs; alloc (.view .items a)
  | "pop" => do
    let ps ← bindArgs .counted fn ("dict." ++ fn) ["key", "default"] 1 args kwargs
    let k := (req ps 0)
    -- an empty dict answers without hashing the key
    let found ← if es.isEmpty then pure none else lift (h.keyIndex es k)
    match found with
    | some j => do
      setCell a (.dict (es.eraseIdxIfInBounds j))
      pure (es.getD j default).2
    | none => match ps[1]! with
      | some d => pure d
      | none => keyMissing k
  | "popitem" => do
    noArgs ("dict." ++ fn) args kwargs
    match es.back? with
    | some (k, v) => do
      setCell a (.dict es.pop)
      tuple [k, v]
    | none => keyMissing (← str "popitem(): dictionary is empty")
  | "setdefault" => do
    let ps ← bindArgs .counted fn ("dict." ++ fn) ["key", "default"] 1 args kwargs
    let k := (req ps 0)
    match ← lift (h.keyIndex es k) with
    | some j => pure (es.getD j default).2
    | none => do
      let d := ps[1]!.getD noneObj
      setCell a (.dict (es.push (k, d)))
      pure d
  | "clear" => do noArgs ("dict." ++ fn) args kwargs; setCell a (.dict #[]); pure noneObj
  | "copy" => do noArgs ("dict." ++ fn) args kwargs; alloc (.dict es)
  | _ => throw unsupported

/-- A new table of items, each hashable, repeated ones once. -/
def tableOf (xs : List Obj) : Run (SetTable Obj) := do lift ((← heap).setOf (.items xs))

/-- A frozen set constant of a unit of code, from its items in source order. The compiler
makes it by adding the items in order; merging the unit's constants makes it again from
its own order; and making the unit's code makes it once more when interning changes one of
its strings, that is when an equal string was interned before and the item is not the
interned one. -/
def constSet (xs : List Obj) : Run (SetTable Obj) := do
  let h ← heap
  let first ← lift (h.setOf (.items xs))
  if first.used == 0 then pure first
  else
    let merged ← lift (h.setOf (.items first.members))
    let interned := (← get).interned
    let rebuilt := xs.any fun x => match x with
      | .scalar (.str s) _ => !s.isEmpty && internedText s && interned.contains s
      | _ => false
    if rebuilt then lift (h.setOf (.items merged.members)) else pure merged

/-- A method of a set, with its iterable arguments read as sources of members. -/
def setMethod (a : Nat) (m : String) (args : List Obj) (others : List Source) : Run Obj := do
  let (t, frozen) ← match ← cell a with
    | .set t frozen => pure (t, frozen)
    | _ => pure (SetTable.empty, false)
  let h ← heap
  let me := some a
  let fn := (if frozen then "frozenset." else "set.") ++ m
  let one : Run Obj := match args with
    | [x] => pure x
    | _ => typeFail (fn ++ "() takes exactly one argument (" ++ toString args.length ++ " given)")
  let only : Run Source := match others with
    | [src] => pure src
    | _ => typeFail (fn ++ "() takes exactly one argument (" ++ toString others.length ++ " given)")
  let keep (r : SetTable Obj) : Run Obj := do setCell a (.set r frozen); pure noneObj
  let made (r : SetTable Obj) : Run Obj := alloc (.set r frozen)
  match m with
  | "add" => do keep (← lift (h.setAdd t (← one)))
  | "remove" | "discard" => do
    let x ← one
    let (r, found) ← lift (h.setDiscard t x)
    if found then keep r
    else if m == "remove" then keyMissing x else pure noneObj
  | "pop" => do
    noArgs fn args []
    match t.pop? with
    | some (x, r) => do setCell a (.set r frozen); pure x
    | none => keyMissing (← str "pop from an empty set")
  | "clear" => do noArgs fn args []; keep t.clear
  | "copy" => do
    noArgs fn args []
    if frozen then pure (.ref a) else made (← lift (h.setOf (.table t none)))
  | "union" => do
    let mut r ← lift (h.setOf (.table t none))
    for src in others do
      if !src.isAt me then r ← lift (h.setUpdate r none src)
    made r
  | "update" => do
    let mut r := t
    for src in others do r ← lift (h.setUpdate r me src)
    keep r
  | "intersection" | "intersection_update" => do
    let mut r := t
    let mut whose := me
    if others.isEmpty then r ← lift (h.setOf (.table t none))
    for src in others do
      r ← lift (h.setIntersection r whose src)
      whose := none
    if m == "intersection_update" then keep { r with finger := t.finger } else made r
  | "difference" => do
    match others with
    | [] => made (← lift (h.setOf (.table t none)))
    | first :: rest => do
      let mut r ← lift (h.setDifference t first)
      for src in rest do r ← lift (h.setSubtract r none src)
      made r
  | "difference_update" => do
    let mut r := t
    for src in others do r ← lift (h.setSubtract r me src)
    keep r
  | "symmetric_difference" => do made (← lift (h.setSymmetric t (← only)))
  | "symmetric_difference_update" => do keep (← lift (h.setToggle t me (← only)))
  | "issubset" => do pure (bool (← lift (h.setWithin t (← only))))
  | "issuperset" => do pure (bool (← lift (h.setCovers t (← only))))
  | "isdisjoint" => do pure (bool (← lift (h.setApart t (← only))))
  | _ => throw unsupported

/-- A method of a tuple or range: `count` and `index`. -/
def sequenceMethod (xs : List Obj) (kind : String) (m : String) (args : List Obj)
    (kwargs : List (String × Obj)) : Run Obj := do
  match m with
  | "count" => do
    let ps ← bindArgs .single m (kind ++ "." ++ m) ["value"] 1 args kwargs
    int (← countIn xs (req ps 0))
  | "index" => do
    let ps ← bindArgs (if kind == "range" then .single else .counted) m (kind ++ "." ++ m) ["value", "start", "stop"] 1 args kwargs
    let x := (req ps 0)
    let bound := if kind == "range" then boundOf else searchBoundOf
    match ← indexIn xs x (← bound ps[1]!) (← bound ps[2]!) with
    | some i => int i
    | none =>
      if kind == "range" then failWith (.runtimeText .valueError ((← repr x) ++ " is not in range"))
      else failWith (.runtimeText .valueError "tuple.index(x): x not in tuple")
  | _ => throw unsupported

/-- The ratio of two integers in lowest terms, the denominator positive. -/
def lowestTerms (n d : Int) : Int × Int :=
  let g : Int := Nat.gcd n.natAbs d.natAbs
  if g == 0 then (n, d) else (n / g, d / g)

/-- A float in hexadecimal: a lead digit of one (zero for a subnormal value), thirteen
fraction digits and the binary exponent with its sign; zero is written with one fraction
digit and the exponent zero, and the infinities and NaN by their names. -/
def floatHex (x : Float) : String :=
  if x.isNaN then "nan"
  else if x.isInf then if x > 0.0 then "inf" else "-inf"
  else
    let b := x.toBits
    let sign := if b >>> 63 == 1 then "-" else ""
    let d := Decimal.Binary.ofBits b
    if d.m == 0 then sign ++ "0x0.0p+0"
    else
      let p := d.q + 52
      let frac := Format.natDigits 16 (d.m % 2 ^ (52 : Nat))
      let frac := List.replicate (13 - frac.length) '0' ++ frac
      sign ++ "0x" ++ toString (d.m / 2 ^ (52 : Nat)) ++ "." ++ String.ofList frac ++ "p" ++
        (if p < 0 then "-" else "+") ++ toString p.natAbs

/-- Arguments bound to the parameters of a function of the time library, in the words of its
argument parser: `fn` names the function, and one without a name is `function`; at most
`positional` are given by position, and the first `required` must be given. -/
def fieldArgs (fn : Option String) (names : List String) (positional required : Nat)
    (args : List Obj) (kwargs : List (String × Obj)) : Run (List (Option Obj)) := do
  let callee := match fn with
    | some f => f ++ "()"
    | none => "function"
  let plural (n : Nat) : String := if n == 1 then "" else "s"
  let given := args.length + kwargs.length
  if given > names.length then
    typeFail (callee ++ " takes at most " ++ toString names.length ++ " " ++
      (if args.isEmpty then "keyword " else "") ++ "argument" ++ plural names.length ++ " (" ++
      toString given ++ " given)")
  if args.length > positional then
    typeFail (callee ++ " takes at most " ++ toString positional ++ " positional argument" ++
      plural positional ++ " (" ++ toString args.length ++ " given)")
  let mut bound : List (Option Obj) := []
  for (k, i) in names.zipIdx do
    if i < args.length then
      if (kwargs.lookup k).isSome then
        typeFail ("argument for " ++ callee ++ " given by name ('" ++ k ++ "') and position (" ++
          toString (i + 1) ++ ")")
      bound := bound ++ [args[i]?]
    else match kwargs.lookup k with
      | some o => bound := bound ++ [some o]
      | none =>
        if i < required then
          typeFail (callee ++ " missing required argument '" ++ k ++ "' (pos " ++
            toString (i + 1) ++ ")")
        bound := bound ++ [none]
  for (k, _) in kwargs do
    if !names.contains k then
      typeFail ("'" ++ k ++ "' is an invalid keyword argument for " ++
        (match fn with
          | some f => f ++ "()"
          | none => "this function"))
  pure bound

/-- An integer argument that the time library reads as a C integer. -/
def cIntArg (o : Obj) : Run Int := do
  let i ← intArg o
  if i ≥ 2 ^ (63 : Nat) || i < -2 ^ (63 : Nat) then
    failWith (.runtimeText .overflowError "Python int too large to convert to C long")
  else if i ≥ 2 ^ (31 : Nat) then
    failWith (.runtimeText .overflowError "signed integer is greater than maximum")
  else if i < -2 ^ (31 : Nat) then
    failWith (.runtimeText .overflowError "signed integer is less than minimum")
  else pure i

/-- The offset of a zone argument, `None` giving none. -/
def zoneArg (o : Obj) : Run (Option Int) := do
  match o with
  | .scalar .none _ => pure none
  | .zone off => pure (some off)
  | _ => typeFail ("tzinfo argument must be None or of a tzinfo subclass, not type '" ++
      (← typeOf o) ++ "'")

/-- The fold of a time: zero or one. -/
def checkFold (f : Int) : Run Unit := do
  if f != 0 && f != 1 then failWith (.runtimeText .valueError "fold must be either 0 or 1")

/-- A time from its fields, each checked against its range in turn, then its fold, then its
zone; only the first reading of a repeated hour (fold zero) is known here. -/
def timeOf (parts : List Int) (fold : Int) (zone : Run (Option Int)) : Run Obj := do
  let bad (m : String) : Run Obj := failWith (.runtimeText .valueError m)
  match parts with
  | [y, mo, d, h, mi, s, us] =>
    if y < 1 || y > 9999 then bad ("year " ++ toString y ++ " is out of range")
    else if mo < 1 || mo > 12 then bad "month must be in 1..12"
    else if d < 1 || d > Calendar.daysInMonth y.toNat mo.toNat then
      bad "day is out of range for month"
    else if h < 0 || h > 23 then bad "hour must be in 0..23"
    else if mi < 0 || mi > 59 then bad "minute must be in 0..59"
    else if s < 0 || s > 59 then bad "second must be in 0..59"
    else if us < 0 || us > 999999 then bad "microsecond must be in 0..999999"
    else
      checkFold fold
      let offset ← zone
      if fold != 0 then throw unsupported
      match DateTime.ofParts? y.toNat mo.toNat d.toNat h.toNat mi.toNat s.toNat us.toNat offset with
      | some t => scalar (.time t)
      | none => throw unsupported
  | _ => throw unsupported

/-- The names of the fields of a time, in the order they are given. -/
def timeFieldNames : List String :=
  ["year", "month", "day", "hour", "minute", "second", "microsecond", "tzinfo", "fold"]

/-- A method of a span of time. -/
def spanMethod (us : Int) (m : String) (args : List Obj) (kwargs : List (String × Obj)) :
    Run Obj := do
  match m with
  | "total_seconds" => do noArgs ("timedelta." ++ m) args kwargs; float (← lift (trueDivide us 1000000))
  | _ => throw unsupported

/-- A float from the hexadecimal form of its text, as `float.fromhex` reads it. -/
def floatFromHex (args : List Obj) (kwargs : List (String × Obj)) : Run Obj := do
  if !kwargs.isEmpty then typeFail "float.fromhex() takes no keyword arguments"
  match args with
  | [.scalar (.str s) _] => match Text.readHexFloat s with
    | .value x => float x
    | .invalid => failWith (.runtimeText .valueError "invalid hexadecimal floating-point string")
    | .tooLarge => failWith (.runtimeText .overflowError
        "hexadecimal value too large to represent as a float")
  | [_] => typeFail "bad argument type for built-in operation"
  | _ => typeFail ("float.fromhex() takes exactly one argument (" ++ toString args.length ++
      " given)")

/-- A method of a number or a time. -/
def scalarMethod (v : Value) (m : String) (args : List Obj) (kwargs : List (String × Obj)) :
    Run Obj := do
  match v with
  | .float x => match m with
    | "is_integer" => do
      noArgs ("float." ++ m) args kwargs
      pure (bool (!x.isNaN && !x.isInf && x.floor == x))
    | "conjugate" => do noArgs ("float." ++ m) args kwargs; float x
    | "hex" => do noArgs ("float." ++ m) args kwargs; str (floatHex x)
    | "fromhex" => floatFromHex args kwargs
    | "as_integer_ratio" => do
      noArgs ("float." ++ m) args kwargs
      if x.isNaN then failWith (.runtimeText .valueError "cannot convert NaN to integer ratio")
      match exactOfFloat? x with
      | some (mant, e) =>
        let (n, d) := if e ≥ 0 then (mant * 2 ^ e.toNat, (1 : Int))
          else lowestTerms mant (2 ^ (-e).toNat)
        tuple [← int n, ← int d]
      | none => failWith (.runtimeText .overflowError "cannot convert Infinity to integer ratio")
    | _ => throw unsupported
  | .time t => match m with
    | "isoformat" => do
      let ps ← bindArgs (.named 0 2) m m ["sep", "timespec"] 0 args kwargs
      if ps[1]!.isSome then throw unsupported
      let sep ← match ps[0]! with
        | none => pure "T"
        | some x => textArg x
      if sep.length != 1 then typeFail "isoformat() argument 1 must be a unicode character"
      str (t.isoText sep false)
    | "weekday" | "isoweekday" => do
      noArgs (timeOwner m ++ "." ++ m) args kwargs
      -- the proleptic ordinal of the first day is a Monday
      let days := t.wall / microsPerDay
      let wd := (days % 7 + 7) % 7
      int (if m == "weekday" then wd else wd + 1)
    | "replace" => do
      let ps ← fieldArgs (some "replace") timeFieldNames 8 0 args kwargs
      let current : List Int := [t.year, t.month, t.day, t.hour, t.minute, t.second, t.microsecond]
      let parts ← (current.zip ps).mapM fun (c, p) => match p with
        | some o => cIntArg o
        | none => pure c
      let fold ← match ps.getD 8 none with
        | some o => cIntArg o
        | none => pure 0
      checkFold fold
      timeOf parts fold (match ps.getD 7 none with
        | some z => zoneArg z
        | none => pure t.offset)
    | "strftime" => do
      let ps ← fieldArgs (some m) ["format"] 1 1 args kwargs
      match req ps 0 with
      | .scalar (.str p) _ => str (t.strftime p)
      | o => typeFail ("strftime() argument 1 must be str, not " ++ (← typeOf o))
    | "utcoffset" => do
      noArgs (timeOwner m ++ "." ++ m) args kwargs
      match t.offset with
      | some o => pure (.duration o (← fresh))
      | none => pure noneObj
    | "tzname" => do
      noArgs (timeOwner m ++ "." ++ m) args kwargs
      match t.offset with
      | some o => str (zoneName o)
      | none => pure noneObj
    | "toordinal" => do noArgs (timeOwner m ++ "." ++ m) args kwargs; int (t.wall / microsPerDay + 1)
    | "ctime" => do
      noArgs (timeOwner m ++ "." ++ m) args kwargs
      str (t.strftime "%a %b %e %H:%M:%S " ++ DateTime.pad 4 t.year)
    | "timestamp" => do
      noArgs (timeOwner m ++ "." ++ m) args kwargs
      float (← lift (trueDivide (t.utcWall - DateTime.epochWall) 1000000))
    | "astimezone" => do
      let ps ← bindArgs (.named 0 1) m m ["tz"] 0 args kwargs
      match ps.getD 0 none with
      | some (.zone off) => timeAt (t.utcWall + off) (some off)
      | some (.scalar .none _) | none => throw unsupported
      | some o => do
        let _ ← zoneArg o
        throw unsupported
    | _ => throw unsupported
  | v => match intOf? v with
    | some i => match m with
      | "bit_length" => do noArgs ("int." ++ m) args kwargs; int (if i == 0 then 0 else Nat.log2 i.natAbs + 1)
      | "bit_count" => do
        noArgs ("int." ++ m) args kwargs
        int ((Nat.toDigits 2 i.natAbs).filter (· == '1')).length
      | "conjugate" => do noArgs ("int." ++ m) args kwargs; int i
      | "as_integer_ratio" => do noArgs ("int." ++ m) args kwargs; tuple [← int i, ← int 1]
      | _ => throw unsupported
    | none => throw unsupported

end Run

end Storefront.Script
