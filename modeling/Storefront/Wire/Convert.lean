import Storefront.Wire.Request
import Storefront.Page.Cursor
import Storefront.Query.Build
import Storefront.Http.Status

/-!
# Conversions

Requests that convert one value: by a codec (`encode`, `dumps`, `decode`, `loads` and a round
trip through text), by a record constructor, along a dotted path, between timestamps and Unix
nanoseconds, between page positions and tokens, and from a status to its error class.
-/

-- powers of naturals and integers are the core ones, whatever else is in scope
attribute [local instance (1100)] instPowNat

namespace Storefront.Wire

/-- A timestamp in UTC, or an overflow past the calendar. -/
def utcOf (t : DateTime) : CodecM DateTime := liftOpt t.asUtc (.runtime .overflowError)

/-- Run a codec as the request's mode says. The codec is looked up first. -/
def codecAnswer (r : Request) : CodecM Answer := do
  let h ← hintOf (← r.need "type")
  let c ← Codec.get h
  match ← r.text "mode" with
  | "encode" => do
    let v ← r.value "value"
    let j ← Codec.encode c v
    pure [("value", j)]
  | "dumps" => do
    let v ← r.value "value"
    let s ← Codec.dumps c v
    pure [("value", .str s)]
  | "decode" => do
    let v ← Codec.decode c (r.opt "value")
    pure [("value", render v)]
  | "loads" =>
    match r.opt "value" with
    | .str s => do
      let v ← Codec.loads c s
      pure [("value", render v)]
    | _ => throw (.decode none)
  | "roundtrip" => do
    let v ← r.value "value"
    let s ← Codec.dumps c v
    let w ← Codec.loads c s
    pure [("dumped", .str s), ("value", render w)]
  | m => throw (.malformed ("unknown mode " ++ m))

/-- Build a record of a named class from named fields. -/
def constructAnswer (r : Request) : CodecM Answer := do
  let name ← r.text "type"
  let args ← entriesOf (← r.obj "fields")
  let v ← recordOf name args
  pure [("value", render v)]

/-- Whether a hint admits none. -/
def optionalAnswer (r : Request) : CodecM Answer := do
  let h ← hintOf (← r.need "type")
  pure [("optional", .bool h.optional)]

/-- The value at a dotted path. -/
def pathAnswer (r : Request) : CodecM Answer := do
  let v ← r.value "value"
  let x ← lift (v.atValuePath (Value.ofJson (r.opt "path")))
  pure [("value", render x)]

/-- A timestamp as Unix nanoseconds. -/
def nanosAnswer (r : Request) : CodecM Answer := do
  let t ← timeOf (← r.need "datetime")
  let n ← liftOpt t.toNanos? (.runtime .overflowError)
  pure [("nanos", .int n)]

/-- A timestamp in UTC. -/
def utcAnswer (r : Request) : CodecM Answer := do
  let t ← timeOf (← r.need "datetime")
  let u ← utcOf t
  pure [("datetime", timeJson u)]

/-- Unix nanoseconds as a UTC timestamp. -/
def fromNanosAnswer (r : Request) : CodecM Answer := do
  let t ← lift (Value.ofJson (r.opt "nanos")).fromNanos
  pure [("datetime", timeJson t)]

/-- The token of a page position given as plain JSON values: the timestamp must be an
integer (a boolean counting as one), and the id is taken as its plain text. A float or text
timestamp has no hexadecimal form, a value failure; other values are type failures. -/
def tokenAnswer (r : Request) : CodecM Answer := do
  let ts ← match Value.ofJson (r.opt "timestamp") with
    | .float _ | .str _ => throw (.runtime .valueError)
    | v => liftOpt (intOf? v) (.runtime .typeError)
  let id := Value.ofJson (r.opt "id")
  pure [("token", .str (Cursor.token ⟨ts, id.plain⟩))]

/-- The page position of a token. -/
def positionAnswer (r : Request) : CodecM Answer := do
  let c ← lift (Cursor.ofToken (← r.text "token"))
  pure [("timestamp", .int c.timestamp), ("id", .str c.id)]

/-- The error class of a status. -/
def errorClassJson (s : Http.Status) : Answer :=
  [("name", .str s.className), ("status", .int s.code), ("phrase", .str s.phrase),
    ("doc", .str s.doc), ("base", .str (if s.isClient then "ClientError" else "ServerError"))]

/-- The code a key stands for when classes are looked up by code: an integer, a boolean as
zero or one, or a float equal to an integer. Other keys name no code. -/
def codeKey? : Json → Option Int
  | .int i => some i
  | .bool b => some (if b then 1 else 0)
  | .float x => match exactOfFloat? x with
    | some (m, e) =>
      if e ≥ 0 then some (m * 2 ^ e.toNat)
      else if m % 2 ^ (-e).toNat == 0 then some (m / 2 ^ (-e).toNat) else none
    | none => none
  | _ => none

/-- The error class of a code or of a class name. A code, when the request has one, wins
even when it is null: an unknown code is a missing key, and an array or object is no key at
all. An unknown name is a missing attribute named by it; a name the registry answers itself
is no class, so reading the class's status fails as a missing attribute of the runtime. -/
def errorClassAnswer (r : Request) : CodecM Answer :=
  match member? r "code", member? r "name" with
  | some (.arr _), _ | some (.obj _), _ => throw (.runtime .typeError)
  | some code, _ => do
    let s ← liftOpt (do
      let c ← codeKey? code
      if c < 0 then none else Http.ofCode? c.toNat) (.runtime .keyError)
    pure (errorClassJson s)
  | none, some (.str n) =>
    if Http.registryAttributes.contains n then throw (.runtime .attributeError) else do
    let s ← liftOpt (Http.ofClassName? n) (.rejected .attributeError n)
    pure (errorClassJson s)
  | none, some _ => throw (.runtime .typeError)
  | none, none => throw (.runtime .keyError)

/-- Every error class: code, name and phrase. -/
def catalogAnswer : Answer :=
  [("errors", .arr (Http.statuses.map fun s =>
    .arr [.int s.code, .str s.className, .str s.phrase]))]

end Storefront.Wire
