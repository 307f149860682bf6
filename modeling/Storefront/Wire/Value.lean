import Storefront.Codec.Transcode
import Storefront.Value.Text

/-!
# Values and type specs in requests and answers

Requests carry values as tagged JSON: plain JSON for scalars and lists, and objects tagged
`$datetime`, `$enum`, `$obj`, `$json`, `$tuple` or `$dict` for the rest; an untagged object is
a map. Reading a tagged value may fail as the service fails: a record is built by its
constructor, and `$json` decodes a document by the codec of a type spec. Answers carry values
the same way, with floats and statuses tagged too and every record field written out.
-/

namespace Storefront.Wire

/-- The member of an object under a key, first occurrence. -/
def member? : List (String × Json) → String → Option Json
  | [], _ => none
  | (k', v) :: ms, k => if k' == k then some v else member? ms k

theorem sizeOf_member_lt {ms : List (String × Json)} {k : String} {v : Json}
    (h : member? ms k = some v) : sizeOf v < sizeOf ms := by
  induction ms with
  | nil => simp [member?] at h
  | cons m ms ih =>
    obtain ⟨k', v'⟩ := m
    simp only [member?] at h
    split at h
    · cases h; simp; omega
    · have := ih h; simp; omega

/-- The class a type spec names. -/
def kindOf? (s : String) : Option Kind :=
  match s with
  | "str" => some .str
  | "int" => some .int
  | "bool" => some .bool
  | "none" => some .noneType
  | "datetime" => some .datetime
  | "float" => some .float
  | "bytes" => some .bytes
  | "list" => some .list
  | "dict" => some .dict
  | "TaskStatus" => some .taskStatus
  | _ => (RecordClass.ofName? s).map .record

mutual

/-- The hint of a type spec: a class name, `None`, or an object tagged `list`, `union`,
`Union`, `optional` or `annotated`. -/
def hintOf? : Json → Option Hint
  | .str "None" => some .noneLit
  | .str s => (kindOf? s).map .cls
  | .obj [("list", t)] => (hintOf? t).map .listOf
  | .obj [("union", .arr ts)] => (hintsOf? ts).map Hint.unionOf
  | .obj [("Union", .arr ts)] => (hintsOf? ts).map Hint.unionOf
  | .obj [("optional", t)] => (hintOf? t).map Hint.optionalOf
  | .obj [("annotated", t)] => (hintOf? t).map Hint.annotate
  | _ => none

/-- The hints of a list of type specs. -/
def hintsOf? : List Json → Option (List Hint)
  | [] => some []
  | t :: ts => do
    let h ← hintOf? t
    let hs ← hintsOf? ts
    pure (h :: hs)

end

mutual

/-- The failure met while a type spec is built, members first: a `union` spec is built left
to right from its first member, so an empty one has no first member and one whose first two
members are `None` literals joins them, which the runtime refuses; a `Union` spec of no
members is refused. -/
def specFault : Json → Option Failure
  | .obj [("union", .arr ts)] => (specsFault ts).orElse fun _ =>
    match ts with
    | [] => some (.runtime .indexError)
    | .str "None" :: .str "None" :: _ => some (.runtime .typeError)
    | _ => none
  | .obj [("Union", .arr ts)] => (specsFault ts).orElse fun _ =>
    if ts.isEmpty then some (.runtime .typeError) else none
  | .obj [(_, .arr ts)] => specsFault ts
  | .obj [(_, t)] => specFault t
  | _ => none

/-- The first failure met while a list of type specs is built. -/
def specsFault : List Json → Option Failure
  | [] => none
  | t :: ts => (specFault t).orElse fun _ => specsFault ts

end

/-- The hint of a type spec, or a malformed request; a spec the runtime cannot build fails as
it does. -/
def hintOf (j : Json) : CodecM Hint :=
  match specFault j with
  | some f => throw f
  | none =>
  match hintOf? j with
  | some h => pure h
  | none => throw (.malformed "unknown type spec")

/-- A status by its number; any other number or value fails as a value failure. -/
def statusOf (j : Json) : CodecM TaskStatus :=
  match Codec.statusOf? j with
  | some s => pure s
  | none => throw (.runtime .valueError)

/-- A member of an enumeration named by its class and value: the pair is taken apart as a
sequence of two, the class looked up by name (only `TaskStatus` is known), then the member
by value. -/
def enumOf (j : Json) : CodecM TaskStatus :=
  match j with
  | .arr [.str "TaskStatus", n] => statusOf n
  | .arr [.arr _, _] | .arr [.obj _, _] => throw (.runtime .typeError)
  | .arr [_, _] => throw (.runtime .keyError)
  | .arr _ => throw (.runtime .valueError)
  | .str s => if s.length == 2 then throw (.runtime .keyError) else throw (.runtime .valueError)
  | .obj ms => if ms.length == 2 then throw (.runtime .keyError) else throw (.runtime .valueError)
  | _ => throw (.runtime .typeError)

/-- A timestamp from its extended ISO text; other text fails as a value failure. -/
def timeOf (j : Json) : CodecM DateTime :=
  match j with
  | .str s => match DateTime.readExtended? s with
    | some t => pure t
    | none => throw (.runtime .valueError)
  | _ => throw (.malformed "timestamp must be text")

/-- A record built by its class's constructor. -/
def recordOf (c : String) (args : List (String × Value)) : CodecM Value :=
  match RecordClass.ofName? c with
  | none => throw (.runtime .keyError)
  | some cls => match cls.make args with
    | .ok v => pure v
    | .error e => throw e

mutual

/-- The value a request carries. -/
def valueOf (j : Json) : CodecM Value :=
  match j with
  | .null => pure .none
  | .bool b => pure (.bool b)
  | .int i => pure (.int i)
  | .float x => pure (.float x)
  | .str s => pure (.str s)
  | .arr xs => do let vs ← valuesOf xs; pure (.list vs)
  | .obj ms => objectOf ms
termination_by (sizeOf j, 2)

/-- The value of an object: by its tag, else a map. -/
def objectOf (ms : List (String × Json)) : CodecM Value :=
  match member? ms "$datetime" with
  | some d => do let t ← timeOf d; pure (.time t)
  | none =>
  match member? ms "$enum" with
  | some e => do let s ← enumOf e; pure (.status s)
  | none =>
  match h : member? ms "$obj" with
  | some cls =>
    match h' : member? ms "fields" with
    | some (.obj fs) => do
      let args ← entriesOf fs
      recordOf ((Json.str? cls).getD "") args
    | _ => recordOf ((Json.str? cls).getD "") []
  | none =>
  match member? ms "$json" with
  | some spec => do
    let h ← hintOf spec
    let c ← Codec.get h
    Codec.decode c ((member? ms "doc").getD .null)
  | none =>
  match h : member? ms "$tuple" with
  | some (.arr xs) => do let vs ← valuesOf xs; pure (.tuple vs)
  | _ =>
  match h : member? ms "$dict" with
  | some (.obj es) => do let vs ← entriesOf es; pure (.dict vs)
  | _ => do let vs ← entriesOf ms; pure (.dict vs)
termination_by (sizeOf ms, 1)
decreasing_by
  all_goals first
    | exact Prod.Lex.right _ (by decide)
    | (apply Prod.Lex.left; have := sizeOf_member_lt h'; simp at this; omega)
    | (apply Prod.Lex.left; have := sizeOf_member_lt h; simp at this; omega)

/-- The values of list items. -/
def valuesOf (xs : List Json) : CodecM (List Value) :=
  match xs with
  | [] => pure []
  | x :: rest => do
    let v ← valueOf x
    let vs ← valuesOf rest
    pure (v :: vs)
termination_by (sizeOf xs, 0)

/-- The values of map entries. -/
def entriesOf (ms : List (String × Json)) : CodecM (List (String × Value)) :=
  match ms with
  | [] => pure []
  | (k, x) :: rest => do
    let v ← valueOf x
    let vs ← entriesOf rest
    pure ((k, v) :: vs)
termination_by (sizeOf ms, 0)

end

/-- A float in an answer: its shortest text, tagged. -/
def floatJson (x : Float) : Json := .obj [("$float", .str (Value.floatLayout.float x))]

/-- A timestamp in an answer: ISO text with six fraction digits and the offset if aware. -/
def timeJson (t : DateTime) : Json := .obj [("$datetime", .str (t.isoText "T" true))]

/-- A status in an answer: class, name and number. -/
def statusJson (s : TaskStatus) : Json :=
  .obj [("$enum", .str "TaskStatus"), ("name", .str s.name), ("value", .int s.code)]

mutual

/-- A value in an answer. -/
def render : Value → Json
  | .none => .null
  | .bool b => .bool b
  | .int i => .int i
  | .float x => floatJson x
  | .str s => .str s
  | .time t => timeJson t
  | .status s => statusJson s
  | .list xs => .arr (renderItems xs)
  | .tuple xs => .obj [("$tuple", .arr (renderItems xs))]
  | .dict es => .obj [("$dict", .obj (renderEntries es))]
  | .record c fs => .obj [("$obj", .str c.name), ("fields", .obj (renderEntries fs))]

/-- Items in an answer. -/
def renderItems : List Value → List Json
  | [] => []
  | x :: xs => render x :: renderItems xs

/-- Entries in an answer. -/
def renderEntries : List (String × Value) → List (String × Json)
  | [] => []
  | (k, v) :: es => (k, render v) :: renderEntries es

end

mutual

/-- A value written as plain JSON, as a general JSON writer writes it: a status as its
number, a tuple as an array, and a float bare. A timestamp or a record has no plain form. -/
def plain : Value → Except Failure Json
  | .none => pure .null
  | .bool b => pure (.bool b)
  | .int i => pure (.int i)
  | .float x => pure (.float x)
  | .str s => pure (.str s)
  | .status s => pure (.int s.code)
  | .list xs => return .arr (← plainItems xs)
  | .tuple xs => return .arr (← plainItems xs)
  | .dict es => return .obj (← plainEntries es)
  | .time _ => throw (.runtime .typeError)
  | .record _ _ => throw (.runtime .typeError)

/-- Items as plain JSON. -/
def plainItems : List Value → Except Failure (List Json)
  | [] => pure []
  | x :: xs => return (← plain x) :: (← plainItems xs)

/-- Entries as plain JSON. -/
def plainEntries : List (String × Value) → Except Failure (List (String × Json))
  | [] => pure []
  | (k, v) :: es => return (k, ← plain v) :: (← plainEntries es)

end

end Storefront.Wire
