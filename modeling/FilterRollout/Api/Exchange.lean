import FilterRollout.Api.RequestTarget
import FilterRollout.Json.Printer

/-! Requests to the Kubernetes API and the answers to them. -/

namespace FilterRollout.Api

inductive Method
  | get
  | put
  | patch
  | delete
  deriving DecidableEq

def Method.token : Method → String
  | .get => "GET"
  | .put => "PUT"
  | .patch => "PATCH"
  | .delete => "DELETE"

/-- A request as the server understands it. -/
structure Request extends RequestTarget where
  method : Method
  body : Option Json
  contentType : Option String

/-- Whether a member tells the type of an object. -/
def tellsType (member : String × Json) : Bool := member.1 = "apiVersion" || member.1 = "kind"

/-- The members that tell the type of an object in front of all others. -/
def typeFirst (members : List (String × Json)) : List (String × Json) :=
  members.filter tellsType ++ members.filter fun member => !tellsType member

/-- The text of an object: its type first, then all other members in the order of their keys. -/
def objectText (object : Json) : String :=
  match object.normalize with
  | .object members => (Json.object (typeFirst members)).text
  | other => other.text

example : objectText (.object [("kind", .string "K"), ("data", .null), ("apiVersion", .string "v1")]) =
    "\x7b\"apiVersion\":\"v1\",\"kind\":\"K\",\"data\":null\x7d" := by decide +kernel

/-- The text of the body, empty if there is none. -/
def Request.bodyText (request : Request) : String := (request.body.map objectText).getD ""

/-- The text of an answer with its status code. -/
structure Response where
  status : Nat
  body : String
  deriving DecidableEq

/-- Something with a state that responds to every request. -/
abbrev Server (State : Type) := Request → State → Response × State

/-- The standard phrase of a status that blames the client or the server. -/
def phrase? : Nat → Option String
  | 400 => some "Bad Request"
  | 401 => some "Unauthorized"
  | 402 => some "Payment Required"
  | 403 => some "Forbidden"
  | 404 => some "Not Found"
  | 405 => some "Method Not Allowed"
  | 406 => some "Not Acceptable"
  | 407 => some "Proxy Authentication Required"
  | 408 => some "Request Timeout"
  | 409 => some "Conflict"
  | 410 => some "Gone"
  | 411 => some "Length Required"
  | 412 => some "Precondition Failed"
  | 413 => some "Payload Too Large"
  | 414 => some "URI Too Long"
  | 415 => some "Unsupported Media Type"
  | 416 => some "Range Not Satisfiable"
  | 417 => some "Expectation Failed"
  | 418 => some "I'm a teapot"
  | 421 => some "Misdirected Request"
  | 422 => some "Unprocessable Entity"
  | 423 => some "Locked"
  | 424 => some "Failed Dependency"
  | 425 => some "Too Early"
  | 426 => some "Upgrade Required"
  | 428 => some "Precondition Required"
  | 429 => some "Too Many Requests"
  | 431 => some "Request Header Fields Too Large"
  | 451 => some "Unavailable For Legal Reasons"
  | 500 => some "Internal Server Error"
  | 501 => some "Not Implemented"
  | 502 => some "Bad Gateway"
  | 503 => some "Service Unavailable"
  | 504 => some "Gateway Timeout"
  | 505 => some "HTTP Version Not Supported"
  | 506 => some "Variant Also Negotiates"
  | 507 => some "Insufficient Storage"
  | 508 => some "Loop Detected"
  | 510 => some "Not Extended"
  | 511 => some "Network Authentication Required"
  | _ => none

/-- A status code with its phrase. -/
def statusText (code : Nat) : String := s!"{code} " ++ (phrase? code).getD "<unknown status code>"

end FilterRollout.Api
