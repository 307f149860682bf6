/-!
# HTTP error statuses

The client (4xx) and server (5xx) statuses with their reason phrases and descriptions, in
rising order. An error class is named after its status: the words of the status name in
title case (`HTTP` and `URI` kept), joined, with `Error` appended unless already there.
-/

namespace Storefront.Http

/-- An error status: its code, name, reason phrase and description. -/
structure Status where
  code : Nat
  name : String
  phrase : String
  description : String

/-- The error statuses, in rising order. -/
def statuses : List Status := [
  ⟨400, "BAD_REQUEST", "Bad Request", "Bad request syntax or unsupported method"⟩,
  ⟨401, "UNAUTHORIZED", "Unauthorized", "No permission -- see authorization schemes"⟩,
  ⟨402, "PAYMENT_REQUIRED", "Payment Required", "No payment -- see charging schemes"⟩,
  ⟨403, "FORBIDDEN", "Forbidden", "Request forbidden -- authorization will not help"⟩,
  ⟨404, "NOT_FOUND", "Not Found", "Nothing matches the given URI"⟩,
  ⟨405, "METHOD_NOT_ALLOWED", "Method Not Allowed", "Specified method is invalid for this resource"⟩,
  ⟨406, "NOT_ACCEPTABLE", "Not Acceptable", "URI not available in preferred format"⟩,
  ⟨407, "PROXY_AUTHENTICATION_REQUIRED", "Proxy Authentication Required",
    "You must authenticate with this proxy before proceeding"⟩,
  ⟨408, "REQUEST_TIMEOUT", "Request Timeout", "Request timed out; try again later"⟩,
  ⟨409, "CONFLICT", "Conflict", "Request conflict"⟩,
  ⟨410, "GONE", "Gone", "URI no longer exists and has been permanently removed"⟩,
  ⟨411, "LENGTH_REQUIRED", "Length Required", "Client must specify Content-Length"⟩,
  ⟨412, "PRECONDITION_FAILED", "Precondition Failed", "Precondition in headers is false"⟩,
  ⟨413, "REQUEST_ENTITY_TOO_LARGE", "Request Entity Too Large", "Entity is too large"⟩,
  ⟨414, "REQUEST_URI_TOO_LONG", "Request-URI Too Long", "URI is too long"⟩,
  ⟨415, "UNSUPPORTED_MEDIA_TYPE", "Unsupported Media Type", "Entity body in unsupported format"⟩,
  ⟨416, "REQUESTED_RANGE_NOT_SATISFIABLE", "Requested Range Not Satisfiable",
    "Cannot satisfy request range"⟩,
  ⟨417, "EXPECTATION_FAILED", "Expectation Failed", "Expect condition could not be satisfied"⟩,
  ⟨418, "IM_A_TEAPOT", "I'm a Teapot", "Server refuses to brew coffee because it is a teapot."⟩,
  ⟨421, "MISDIRECTED_REQUEST", "Misdirected Request", "Server is not able to produce a response"⟩,
  ⟨422, "UNPROCESSABLE_ENTITY", "Unprocessable Entity", ""⟩,
  ⟨423, "LOCKED", "Locked", ""⟩,
  ⟨424, "FAILED_DEPENDENCY", "Failed Dependency", ""⟩,
  ⟨425, "TOO_EARLY", "Too Early", ""⟩,
  ⟨426, "UPGRADE_REQUIRED", "Upgrade Required", ""⟩,
  ⟨428, "PRECONDITION_REQUIRED", "Precondition Required",
    "The origin server requires the request to be conditional"⟩,
  ⟨429, "TOO_MANY_REQUESTS", "Too Many Requests",
    "The user has sent too many requests in a given amount of time (\"rate limiting\")"⟩,
  ⟨431, "REQUEST_HEADER_FIELDS_TOO_LARGE", "Request Header Fields Too Large",
    "The server is unwilling to process the request because its header fields are too large"⟩,
  ⟨451, "UNAVAILABLE_FOR_LEGAL_REASONS", "Unavailable For Legal Reasons",
    "The server is denying access to the resource as a consequence of a legal demand"⟩,
  ⟨500, "INTERNAL_SERVER_ERROR", "Internal Server Error", "Server got itself in trouble"⟩,
  ⟨501, "NOT_IMPLEMENTED", "Not Implemented", "Server does not support this operation"⟩,
  ⟨502, "BAD_GATEWAY", "Bad Gateway", "Invalid responses from another server/proxy"⟩,
  ⟨503, "SERVICE_UNAVAILABLE", "Service Unavailable",
    "The server cannot process the request due to a high load"⟩,
  ⟨504, "GATEWAY_TIMEOUT", "Gateway Timeout",
    "The gateway server did not receive a timely response"⟩,
  ⟨505, "HTTP_VERSION_NOT_SUPPORTED", "HTTP Version Not Supported", "Cannot fulfill request"⟩,
  ⟨506, "VARIANT_ALSO_NEGOTIATES", "Variant Also Negotiates", ""⟩,
  ⟨507, "INSUFFICIENT_STORAGE", "Insufficient Storage", ""⟩,
  ⟨508, "LOOP_DETECTED", "Loop Detected", ""⟩,
  ⟨510, "NOT_EXTENDED", "Not Extended", ""⟩,
  ⟨511, "NETWORK_AUTHENTICATION_REQUIRED", "Network Authentication Required",
    "The client needs to authenticate to gain network access"⟩]

/-- A word with its first letter upper case and the rest lower case (ASCII). -/
def titleWord (w : String) : String :=
  match w.toList with
  | [] => ""
  | c :: cs => String.ofList (c.toUpper :: cs.map Char.toLower)

/-- The text with its first letter upper case and the rest lower case (ASCII). -/
def capitalize (s : String) : String := titleWord s

/-- The error class name of a status. -/
def Status.className (s : Status) : String :=
  let words := (s.name.splitOn "_").map fun w => if w == "HTTP" || w == "URI" then w else titleWord w
  let n := String.join words
  if n.endsWith "Error" then n else n ++ "Error"

/-- The first line of an error class's documentation: the description, or else the phrase
capitalized, and a full stop. -/
def Status.doc (s : Status) : String :=
  (if s.description.isEmpty then capitalize s.phrase else s.description) ++ "."

/-- The status with a code. -/
def ofCode? (code : Nat) : Option Status := statuses.find? (·.code == code)

/-- The status whose error class has a name. -/
def ofClassName? (name : String) : Option Status := statuses.find? (·.className == name)

/-- Names that the registry of error classes answers by itself rather than as a class name:
its two tables, and the attributes that every object of its kind has. None of them is a class
with a status. -/
def registryAttributes : List String :=
  ["_by_name", "_by_code", "__class__", "__delattr__", "__dict__", "__dir__", "__doc__",
    "__eq__", "__format__", "__ge__", "__getattr__", "__getattribute__", "__getitem__",
    "__getstate__", "__gt__", "__hash__", "__init__", "__init_subclass__", "__le__", "__lt__",
    "__module__", "__ne__", "__new__", "__reduce__", "__reduce_ex__", "__repr__",
    "__setattr__", "__sizeof__", "__str__", "__subclasshook__", "__weakref__"]

/-- A client error status. -/
def Status.isClient (s : Status) : Bool := s.code < 500

end Storefront.Http
