import Storefront.Record
import Storefront.Json.Value

/-!
# Codecs and their registry

A codec reads and writes the values of one hint as JSON. Codecs are looked up in a registry
that lives as long as the service: the first lookup of a hint builds its codec (and those of
its parts) and records it under the hint's key, and every later lookup of the same hint,
members of a union in any order included, gets the recorded codec. So the member order of a
union codec is the order of the first union hint of its kind that was looked up. A hint with
no codec (float, bytes, dict, a bare list or tuple) is a type failure, and nothing is
recorded for it, though the codecs of the parts built before it stay recorded.
-/

namespace Storefront

/-- The value of a member of an object is smaller than the object's members. -/
theorem Json.sizeOf_lt_of_member {ms : List (String × Json)} {k : String} {x : Json}
    (h : (k, x) ∈ ms) : sizeOf x < sizeOf ms := by
  have := List.sizeOf_lt_of_mem h
  rw [Prod.mk.sizeOf_spec] at this
  omega

/-- A JSON document as a plain value: arrays as lists, objects as maps. -/
def Value.ofJson : Json → Value
  | .null => .none
  | .bool b => .bool b
  | .int i => .int i
  | .float x => .float x
  | .str s => .str s
  | .arr xs => .list (xs.attach.map fun ⟨x, _⟩ => Value.ofJson x)
  | .obj ms => .dict (ms.attach.map fun ⟨(k, x), h⟩ =>
      have : sizeOf x < sizeOf ms := Json.sizeOf_lt_of_member h
      (k, Value.ofJson x))

/-- How values of a hint are read and written. -/
inductive Codec where
  | str
  | int
  | bool
  | none
  | status
  | time
  | list (item : Codec)
  | record (cls : RecordClass)
  | union (members : List Codec)
deriving Inhabited

/-- The codecs built so far, by hint key. -/
structure Registry where
  entries : List (String × Codec) := []
deriving Inhabited

namespace Registry

/-- The codec recorded for a key. -/
def find? (r : Registry) (k : String) : Option Codec := (r.entries.find? (·.1 == k)).map (·.2)

/-- Record a codec under a key. -/
def insert (r : Registry) (k : String) (c : Codec) : Registry := ⟨(k, c) :: r.entries⟩

end Registry

/-- Codec work: it may fail, and it updates the registry, failing or not. -/
abbrev CodecM := EStateM Failure Registry

namespace Codec

/-- The codec of a hint that names a class, or the type failure for the whole hint. -/
def ofClass (whole : Hint) : Kind → CodecM Codec
  | .str => pure .str
  | .int => pure .int
  | .bool => pure .bool
  | .noneType => pure .none
  | .taskStatus => pure .status
  | .datetime => pure .time
  | .record c => pure (.record c)
  | _ => throw (Failure.typeError ("no codec for " ++ whole.text))

mutual

/-- The codec of a hint: the recorded one, or a new one, recorded once built. -/
def get (h : Hint) : CodecM Codec := do
  match (← getThe Registry).find? h.key with
  | some c => pure c
  | Option.none =>
    let c ← match h with
      | .listOf item | .annotated (.listOf item) _ => do
        let ic ← get item
        pure (Codec.list ic)
      | .union hs | .annotated (.union hs) _ => do
        let cs ← getAll hs
        pure (Codec.union cs)
      | .cls k | .annotated (.cls k) _ => ofClass h k
      | .noneLit | .annotated .noneLit _ => pure .none
      | .annotated (.annotated _ _) _ => throw (Failure.typeError ("no codec for " ++ h.text))
    modify fun r => r.insert h.key c
    pure c

/-- The codecs of hints, in order. -/
def getAll : List Hint → CodecM (List Codec)
  | [] => pure []
  | h :: hs => do
    let c ← get h
    let cs ← getAll hs
    pure (c :: cs)

end

/-- The codecs of a record class's fields, in order. -/
def fieldCodecs (cls : RecordClass) : CodecM (List Codec) :=
  getAll (cls.fields.map (·.hint))

end Codec

end Storefront
