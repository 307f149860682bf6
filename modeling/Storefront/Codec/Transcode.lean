import Storefront.Codec.Basic
import Storefront.Json.Parse
import Storefront.Json.Print
import Storefront.Time.Read

/-!
# Writing and reading values as JSON

`Codec.encode` writes a value by its codec: strings, integers (not booleans), booleans and
none as themselves, a status as its code, a timestamp as UTC text with six fraction digits
and `Z`, a list or tuple item by item, a record of exactly the codec's class as an object of
its fields that are not none, in declaration order. `Codec.decode` reads: an integer also
from an integral float, a status from a number equal to its code, a timestamp from broad ISO
8601 text converted to UTC, a record from an object, missing fields taking their default or
none. A union tries its members in turn and fails without a path when all fail. A failing
list item or record field adds its index or name in front of the failure's path.
-/

-- powers of naturals and integers are the core ones, whatever else is in scope
attribute [local instance (1100)] instPowNat

namespace Storefront

/-- The failure is a codec failure (and so may be passed over by a union). -/
def Failure.isCodec : Failure → Bool
  | .encode _ | .decode _ => true
  | _ => false

/-- Put a path step in front of a codec failure's path. -/
def Failure.under (step : PathStep) : Failure → Failure
  | .encode p => .encode (some (step :: p.getD []))
  | .decode p => .decode (some (step :: p.getD []))
  | f => f

namespace Codec

/-- Run a step of codec work; a codec failure gets the path step in front. -/
def within (step : PathStep) (act : CodecM α) : CodecM α :=
  tryCatch act fun e => throw (e.under step)

/-- Try a step; on a codec failure, the alternative. -/
def orElse (act : CodecM α) (alt : Unit → CodecM α) : CodecM α :=
  tryCatch act fun e => if e.isCodec then alt () else throw e

/-- The text of a timestamp in UTC with six fraction digits and `Z`; `none` past the
calendar. -/
def timeText? (t : DateTime) : Option String :=
  t.asUtc.map fun u => u.isoText "T" true |>.dropEnd 6 |>.toString |> (· ++ "Z")

mutual

/-- Write a value by a codec. -/
def encode (c : Codec) (v : Value) : CodecM Json :=
  match c with
  | .union cs => encodeUnion cs v
  | .str => match v with
    | .str s => pure (.str s)
    | _ => throw (.encode .none)
  | .int => match v with
    | .int i => pure (.int i)
    | .status s => pure (.int s.code)
    | _ => throw (.encode .none)
  | .bool => match v with
    | .bool b => pure (.bool b)
    | _ => throw (.encode .none)
  | .none => match v with
    | .none => pure .null
    | _ => throw (.encode .none)
  | .status => match v with
    | .status s => pure (.int s.code)
    | _ => throw (.encode .none)
  | .time => match v with
    | .time t => match timeText? t with
      | some s => pure (.str s)
      | Option.none => throw (.runtime .overflowError)
    | _ => throw (.encode .none)
  | .list item => match v with
    | .list xs => do let js ← encodeItems item xs 0; pure (.arr js)
    | .tuple xs => do let js ← encodeItems item xs 0; pure (.arr js)
    | _ => throw (.encode .none)
  | .record cls => match v with
    | .record c fs =>
      if c == cls then do
        let cs ← fieldCodecs cls
        let ms ← encodeFields cs fs
        pure (.obj ms)
      else throw (.encode .none)
    | _ => throw (.encode .none)
termination_by (sizeOf v, sizeOf c)

/-- Try the members of a union in turn. -/
def encodeUnion (cs : List Codec) (v : Value) : CodecM Json :=
  match cs with
  | [] => throw (.encode .none)
  | c :: rest => orElse (encode c v) fun _ => encodeUnion rest v
termination_by (sizeOf v, sizeOf cs)

/-- Write list items, each failure under its index. -/
def encodeItems (item : Codec) (xs : List Value) (i : Nat) : CodecM (List Json) :=
  match xs with
  | [] => pure []
  | x :: rest => do
    let j ← within (.index i) (encode item x)
    let js ← encodeItems item rest (i + 1)
    pure (j :: js)
termination_by (sizeOf xs, 0)

/-- Write the record fields that are not none, each failure under its name. -/
def encodeFields (cs : List Codec) (fs : List (String × Value)) : CodecM (List (String × Json)) :=
  match cs, fs with
  | c :: cs, (n, x) :: rest => do
    let here ← if x.isNone then pure [] else do
      let j ← within (.field n) (encode c x)
      pure [(n, j)]
    let more ← encodeFields cs rest
    pure (here ++ more)
  | _, _ => pure []
termination_by (sizeOf fs, 0)

end

/-- The status a number stands for, when it equals a status code. -/
def statusOf? (j : Json) : Option TaskStatus :=
  match j with
  | .int i => TaskStatus.ofCode? i
  | .bool b => TaskStatus.ofCode? (if b then 1 else 0)
  | .float x => match exactOfFloat? x with
    | some (m, e) => if e ≥ 0 then TaskStatus.ofCode? (m * 2 ^ e.toNat)
        else if m % 2 ^ (-e).toNat == 0 then TaskStatus.ofCode? (m / 2 ^ (-e).toNat) else Option.none
    | Option.none => Option.none
  | _ => Option.none

/-- The integer a float holds exactly; a fraction is a decode failure, NaN a value failure
and an infinity an overflow. -/
def intOfFloat (x : Float) : CodecM Int :=
  if x.isNaN then throw (.runtime .valueError)
  else match exactOfFloat? x with
    | Option.none => throw (.runtime .overflowError)
    | some (m, e) =>
      if e ≥ 0 then pure (m * 2 ^ e.toNat)
      else if m % 2 ^ (-e).toNat == 0 then pure (m / 2 ^ (-e).toNat)
      else throw (.decode .none)

/-- Build a record from decoded fields; any failure is a decode failure without a path. -/
def construct (cls : RecordClass) (args : List (String × Value)) : CodecM Value :=
  match cls.make args with
  | .ok v => pure v
  | .error _ => throw (.decode .none)

mutual

/-- Read a value by a codec. -/
def decode (c : Codec) (j : Json) : CodecM Value :=
  match c with
  | .union cs => decodeUnion cs j
  | .str => match j with
    | .str s => pure (.str s)
    | _ => throw (.decode .none)
  | .int => match j with
    | .int i => pure (.int i)
    | .float x => do let i ← intOfFloat x; pure (.int i)
    | _ => throw (.decode .none)
  | .bool => match j with
    | .bool b => pure (.bool b)
    | _ => throw (.decode .none)
  | .none => match j with
    | .null => pure .none
    | _ => throw (.decode .none)
  | .status => match statusOf? j with
    | some s => pure (.status s)
    | Option.none => throw (.decode .none)
  | .time => match j with
    | .str s => match DateTime.readBroad? s with
      | some t => pure (.time t)
      | Option.none => throw (.decode .none)
    | _ => throw (.decode .none)
  | .list item => match j with
    | .arr xs => do let vs ← decodeItems item xs 0; pure (.list vs)
    | _ => throw (.decode .none)
  | .record cls => match j with
    | .obj ms => do
      let cs ← fieldCodecs cls
      let args ← decodeFields (cls.fields.zip cs) ms
      construct cls args
    | _ => throw (.decode .none)
termination_by (sizeOf j, sizeOf c)

/-- Try the members of a union in turn. -/
def decodeUnion (cs : List Codec) (j : Json) : CodecM Value :=
  match cs with
  | [] => throw (.decode .none)
  | c :: rest => orElse (decode c j) fun _ => decodeUnion rest j
termination_by (sizeOf j, sizeOf cs)

/-- Read list items, each failure under its index. -/
def decodeItems (item : Codec) (xs : List Json) (i : Nat) : CodecM (List Value) :=
  match xs with
  | [] => pure []
  | x :: rest => do
    let v ← within (.index i) (decode item x)
    let vs ← decodeItems item rest (i + 1)
    pure (v :: vs)
termination_by (sizeOf xs, 0)

/-- Read the declared fields from object members: a present one by its codec, under its
name; an absent one as none when it admits none and has no default, else left out. -/
def decodeFields (fs : List (Field × Codec)) (ms : List (String × Json)) :
    CodecM (List (String × Value)) :=
  match fs with
  | [] => pure []
  | (f, c) :: rest => do
    let here ← decodeMember f c ms
    let more ← decodeFields rest ms
    pure (here ++ more)
termination_by (sizeOf ms, fs.length + 1)

/-- Read one declared field from the members. -/
def decodeMember (f : Field) (c : Codec) (ms : List (String × Json)) :
    CodecM (List (String × Value)) :=
  match ms with
  | [] => pure (if f.hint.optional && f.default.isNone then [(f.name, .none)] else [])
  | (k, x) :: rest =>
    if k == f.name then do
      let v ← within (.field f.name) (decode c x)
      pure [(f.name, v)]
    else decodeMember f c rest
termination_by (sizeOf ms, 0)

end

/-- The compact JSON text of a value, every non-ASCII character escaped. -/
def dumps (c : Codec) (v : Value) : CodecM String := do
  let j ← encode c v
  pure j.render

/-- Read a value from JSON text: text that is not one document, or any failure but a decode
failure, becomes a decode failure without a path. -/
def loads (c : Codec) (s : String) : CodecM Value :=
  match Json.parse? s with
  | Option.none => throw (.decode .none)
  | some j => tryCatch (decode c j) fun e =>
      match e with
      | .decode p => throw (.decode p)
      | _ => throw (.decode .none)

end Codec

end Storefront
