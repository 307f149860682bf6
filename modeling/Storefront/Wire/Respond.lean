import Storefront.Wire.Declare
import Storefront.Wire.Session
import Storefront.Json.Parse
import Storefront.Json.Print

/-!
# Answering requests

Each request names its operation under `op`. The answer is the operation's answer object, or
the failure's object when it fails. Codecs looked up while answering stay in the registry for
the requests that follow, whether the request succeeded or not.
-/

namespace Storefront.Wire

/-- The answer of the operation a request names. -/
def respond (r : Request) : CodecM Answer := do
  match ← r.text "op" with
  | "codec" => codecAnswer r
  | "construct" => constructAnswer r
  | "is_optional" => optionalAnswer r
  | "get_path" => pathAnswer r
  | "to_nanos" => nanosAnswer r
  | "as_utc" => utcAnswer r
  | "from_nanos" => fromNanosAnswer r
  | "cursor_encode" => tokenAnswer r
  | "cursor_decode" => positionAnswer r
  | "error_class" => errorClassAnswer r
  | "error_catalog" => pure catalogAnswer
  | "clamp_page_size" => clampAnswer r
  | "build_query" => buildAnswer r
  | "query_ops" => clausesAnswer r
  | "predicate" => predicateAnswer r
  | "sql" => sqlAnswer r
  | "param" => paramAnswer r
  | "settings" => settingsAnswer r
  | "pii_hash" => piiAnswer r
  | "wrap_exception" => wrapAnswer r
  | "special_error" => specialAnswer r
  | "tasks_for_order" => tasksAnswer r
  | "declare" => declareAnswer r
  | "session" => sessionAnswer r
  | op => throw (.malformed ("unknown op " ++ op))

/-- The answer to a request, a failure answered by its object. -/
def answer (r : Request) : StateM Registry Json := fun reg =>
  match (respond r).run reg with
  | .ok a reg' => (.obj a, reg')
  | .error e reg' => (.obj e.toJson, reg')

/-- The answer line to a request line. -/
def answerLine (line : String) : StateM Registry String :=
  match Json.parse? line with
  | some (.obj r) => do
    let j ← answer r
    pure j.render
  | _ => pure (Json.obj (Failure.malformed "request is not a JSON object").toJson).render

end Storefront.Wire
