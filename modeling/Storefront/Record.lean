import Storefront.Hint
import Storefront.Failure
import Storefront.Value.Compare
import Storefront.Value.ClassDoc

/-!
# Records

Each record class declares its fields in order, each with a hint and possibly a default.
`RecordClass.make` builds a record from named arguments: an unknown name is refused first,
then the missing required fields are listed (a field is required when its hint does not
admit none and it has no default); absent fields take their default, or none. Money keeps
its nanos within a billion either way and of the sign of its units.
-/

namespace Storefront

/-- A declared field: name, hint and default. -/
structure Field where
  name : String
  hint : Hint
  default : Option Value := none

/-- A field must be given: its hint does not admit none and it has no default. -/
def Field.required (f : Field) : Bool := !f.hint.optional && f.default.isNone

/-- A field of a plain record must be given when it has no default. -/
def Field.positional (f : Field) : Bool := f.default.isNone

namespace RecordClass

/-- A text field that may be absent. -/
def optStr (n : String) : Field := ⟨n, Hint.optionalOf (.cls .str), none⟩

/-- A field of a required class. -/
def req (n : String) (k : Kind) : Field := ⟨n, .cls k, none⟩

/-- The declared fields of a class, in order. -/
def fields : RecordClass → List Field
  | person => ["id", "family_name", "given_name", "middle_name", "display_name",
      "display_name_last_first"].map optStr
  | money => [optStr "currency_code", ⟨"units", .cls .int, some (.int 0)⟩,
      ⟨"nanos", .cls .int, some (.int 0)⟩]
  | postalAddress => ["region_code", "language_code", "postal_code", "sorting_code",
      "administrative_area", "locality", "sublocality"].map optStr ++
      [⟨"address_lines", Hint.optionalOf (.listOf (.cls .str)), none⟩,
       ⟨"recipients", Hint.optionalOf (.listOf (.cls .str)), none⟩,
       optStr "organization", optStr "mailbox_id"]
  | orderItem => [req "id" .str, req "product_code" .str, ⟨"quantity", .cls .int, some (.int 1)⟩,
      ⟨"unit_price", Hint.optionalOf (.cls (.record money)), none⟩]
  | order => [req "id" .str, req "submission_time" .datetime,
      ⟨"ordered_by", Hint.optionalOf (.cls (.record person)), none⟩,
      ⟨"delivery_address", Hint.optionalOf (.cls (.record postalAddress)), none⟩,
      ⟨"order_items", Hint.optionalOf (.listOf (.cls (.record orderItem))), none⟩]
  | parameter => [req "name" .str,
      ⟨"value", Hint.unionOf [.cls .int, .cls .str, .cls .bool], none⟩]
  | task => [req "id" .str, req "submission_time" .datetime,
      ⟨"completion_time", Hint.optionalOf (.cls .datetime), none⟩,
      req "order_id" .str, optStr "order_item_id", optStr "product_code", req "task_code" .str,
      ⟨"status", .cls .taskStatus, some (.status .undefinedStatus)⟩,
      optStr "reason_code",
      ⟨"parameters", Hint.optionalOf (.listOf (.cls (.record parameter))), none⟩]
  | taskTemplate => [req "task_code" .str, req "status" .taskStatus,
      ⟨"reason_code", Hint.optionalOf (.cls .str), some .none⟩]
  | cursor => [req "timestamp" .int, req "id" .str]

/-- The field names, in order. -/
def fieldNames (c : RecordClass) : List String := c.fields.map (·.name)

/-- The names in quotes, joined as `'a', 'b' and 'c'`. -/
def nameList (ns : List String) : String :=
  let qs := ns.map fun n => "'" ++ n ++ "'"
  match qs.reverse with
  | [] => ""
  | [q] => q
  | last :: rest => ", ".intercalate rest.reverse ++ " and " ++ last

/-- The refusal of missing required fields. -/
def missingMessage (ns : List String) : String :=
  match ns with
  | [n] => "__init__() missing 1 required keyword-only argument: '" ++ n ++ "'"
  | _ => "__init__() missing " ++ toString ns.length ++ " required keyword-only arguments: " ++
      nameList ns

/-- The refusal of missing fields of a plain record, after the name of its constructor. -/
def positionalMessage (ns : List String) : String :=
  match ns with
  | [n] => "missing 1 required positional argument: '" ++ n ++ "'"
  | _ => "missing " ++ toString ns.length ++ " required positional arguments: " ++ nameList ns

/-- Money's check: nanos within a billion either way, and of the sign of the units. The
comparisons are those of values, so a non-number fails as a type failure. -/
def checkMoney (fields : List (String × Value)) : Except Failure Unit := do
  let units := (Value.lookup fields "units").getD .none
  let nanos := (Value.lookup fields "nanos").getD .none
  let cmp (op : CmpOp) (a b : Value) : Except Failure Bool :=
    match Value.test op a b with
    | some r => pure r
    | none => throw (.runtime .typeError)
  let lowOk ← cmp .le (.int (-999999999)) nanos
  let inRange ← if lowOk then cmp .le nanos (.int 999999999) else pure false
  if !inRange then throw (Failure.valueError "nanos out of range")
  let a ← cmp .gt units (.int 0)
  let b ← if a then cmp .lt nanos (.int 0) else pure false
  let bad ← if a && b then pure true else do
    let c ← cmp .lt units (.int 0)
    if c then cmp .gt nanos (.int 0) else pure false
  if bad then throw (Failure.valueError "units and nanos must have the same sign")

/-- What a class's `__post_init__` does with the fields set: Money checks them, the other
classes have none. -/
def postInit (c : RecordClass) (values : List (String × Value)) :
    Except Failure (List (String × Value)) :=
  if c == money then do checkMoney values; pure values else pure values

/-- The value each declared field takes: its argument, else its default, else none. A default
factory's fresh value is a default like any other here, where values have no identity. -/
def fieldValues (fs : List Field) (args : List (String × Value)) : List (String × Value) :=
  fs.map fun f => (f.name, ((args.find? (·.1 == f.name)).map (·.2)).getD (f.default.getD .none))

end RecordClass

/-- The constructor that `datacls` gives a class with the declared fields `fs` (those set by
the constructor, in declaration order) and the hook `post` (its `__post_init__`): keyword
arguments only; a keyword named self is refused by the runtime before anything else, then an
unknown name is refused, then the missing required fields are listed
in declaration order; otherwise each field takes its argument, its default or none, and the hook
runs once on the result. -/
def keywordInit (fs : List Field) (post : List (String × Value) → Except Failure (List (String × Value)))
    (args : List (String × Value)) : Except Failure (List (String × Value)) := do
  -- the instance is the constructor's one positional parameter, named self: a keyword of that
  -- name clashes with it before the body runs
  if args.any (·.1 == "self") then throw (.runtime .typeError)
  match args.find? (fun a => !(fs.any (·.name == a.1))) with
  | some (n, _) =>
    throw (Failure.typeError ("__init__() got an unexpected keyword argument '" ++ n ++ "'"))
  | none => pure ()
  let missing := (fs.filter fun f => f.required && !(args.any (·.1 == f.name))).map (·.name)
  if !missing.isEmpty then throw (Failure.typeError (RecordClass.missingMessage missing))
  post (RecordClass.fieldValues fs args)

namespace RecordClass

/-- Build a record of a class from named arguments: a record class by the constructor of
`datacls`, a plain record by the constructor a dataclass gets. -/
def make (c : RecordClass) (args : List (String × Value)) : Except Failure Value := do
  let fs := c.fields
  if c.keywordOnly then
    let values ← keywordInit fs c.postInit args
    pure (.record c values)
  else
    let init := c.name ++ ".__init__() "
    match args.find? (fun a => !(fs.any (·.name == a.1))) with
    | some (n, _) =>
      throw (.runtimeText .typeError (init ++ "got an unexpected keyword argument '" ++ n ++ "'"))
    | none => pure ()
    let missing := (fs.filter fun f => f.positional && !(args.any (·.1 == f.name))).map (·.name)
    if !missing.isEmpty then throw (.runtimeText .typeError (init ++ positionalMessage missing))
    pure (.record c (fieldValues fs args))

end RecordClass

/-- The documentation text a value's class carries, if its class is a built-in one. -/
def docOf (cls : String) : Value := ((builtinDoc cls).map Value.str).getD .none

/-- The value at a dotted path: map entries by key, record fields by name and a record
class's module, documentation, field map and field names, a status's name, value and rank, a
timestamp's parts and the calendar's first and last readings, a number's real and imaginary
parts, and a built-in class's documentation; none where a step finds nothing. Records of a
class that is not frozen, and lists, have no hash. -/
def Value.atPath (v : Value) (path : String) : Value :=
  ((path.toList.splitOn '.').map String.ofList).foldl step v
where
  step : Value → String → Value
    | .none, _ => .none
    | .dict es, k => (Value.lookup es k).getD .none
    | .record c fs, k => match Value.lookup fs k with
      | some v => v
      | Option.none =>
        if k == "__doc__" then .str c.doc
        else if k == "__module__" then .str c.moduleName
        else if k == "__dict__" then .dict fs
        else if k == "__match_args__" then .tuple (c.fields.map fun f => .str f.name)
        else .none
    | .status s, k =>
      if k == "name" || k == "_name_" then .str s.name
      else if k == "value" || k == "_value_" || k == "real" || k == "numerator" then .int s.code
      else if k == "__doc__" then .str "Status of a fulfillment task."
      else if k == "__module__" then .str "ecomm.fulfillment"
      else if k == "_sort_order_" then .int (TaskStatus.all.idxOf s)
      else if k == "denominator" then .int 1
      else if k == "imag" then .int 0
      else .none
    | .time t, k =>
      if k == "year" then .int t.year else if k == "month" then .int t.month
      else if k == "day" then .int t.day else if k == "hour" then .int t.hour
      else if k == "minute" then .int t.minute else if k == "second" then .int t.second
      else if k == "microsecond" then .int t.microsecond else if k == "fold" then .int 0
      else if k == "max" then .time ⟨DateTime.wallEnd - 1, Option.none⟩
      else if k == "min" then .time ⟨0, Option.none⟩
      else if k == "__doc__" then docOf "datetime"
      else .none
    | .int i, k =>
      if k == "real" || k == "numerator" then .int i
      else if k == "denominator" then .int 1 else if k == "imag" then .int 0
      else if k == "__doc__" then docOf "int" else .none
    | .bool b, k =>
      let i : Int := if b then 1 else 0
      if k == "real" || k == "numerator" then .int i
      else if k == "denominator" then .int 1 else if k == "imag" then .int 0
      else if k == "__doc__" then docOf "bool" else .none
    | .float x, k =>
      if k == "real" then .float x else if k == "imag" then .float 0.0
      else if k == "__doc__" then docOf "float" else .none
    | .str _, k => if k == "__doc__" then docOf "str" else .none
    | .list _, k => if k == "__doc__" then docOf "list" else .none
    | .tuple _, k => if k == "__doc__" then docOf "tuple" else .none

/-- The value at a path given as any value: only text is split into steps; a path of another
class has no way to be split, a missing attribute. -/
def Value.atValuePath (v : Value) : Value → Except Failure Value
  | .str p => pure (v.atPath p)
  | _ => throw (.runtime .attributeError)

/-- Replace fields of a record: the record is built again from the changes followed by its
other fields, so an unknown name or a broken check fails as in `RecordClass.make`. -/
def Value.replaceFields (v : Value) (changes : List (String × Value)) : Except Failure Value :=
  match v with
  | .record c fs => c.make (changes ++ fs.filter fun f => !(changes.any (·.1 == f.1)))
  | _ => throw (.runtimeText .typeError "replace() should be called on dataclass instances")

end Storefront
