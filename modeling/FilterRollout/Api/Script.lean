import FilterRollout.Api.Exchange

/-! A server with prepared responses, which keeps the requests that it got. -/

namespace FilterRollout.Api

/-- What a prepared response consists of. -/
inductive PreparedBody
  /-- The body of the request itself. -/
  | echo
  | text (body : String)
  deriving DecidableEq

structure Prepared where
  method : String
  path : String
  /-- The whole query, if it matters. -/
  query : Option (SortedMap String)
  /-- How often the response may still be given, if that is limited. -/
  uses : Option Nat
  status : Nat
  body : PreparedBody
  deriving DecidableEq

structure Script where
  entries : List Prepared
  /-- The requests so far, first to last. -/
  requests : List Request

namespace Script

def fits (request : Request) (entry : Prepared) : Bool :=
  entry.method = request.method.token && entry.path = request.path &&
    entry.query.all (· = request.query) && entry.uses != some 0

def bodyText (request : Request) : PreparedBody → String
  | .echo => request.bodyText
  | .text body => body

/-- What answers a request for which nothing is prepared. -/
def nothingPrepared : Response where
  status := 404
  body := (Json.object [("kind", .string "Status"), ("apiVersion", .string "v1"), ("metadata", .object []),
    ("status", .string "Failure"), ("message", .string "no such object"), ("reason", .string "NotFound"),
    ("code", .natural 404)]).text

/-- The response of the first entry that fits, and the entries after it was used. -/
def respond (request : Request) : List Prepared → Response × List Prepared
  | [] => (nothingPrepared, [])
  | entry :: rest =>
    if fits request entry then
      (⟨entry.status, bodyText request entry.body⟩, { entry with uses := entry.uses.map (· - 1) } :: rest)
    else
      let (response, others) := respond request rest
      (response, entry :: others)

/-- Keep the request and give the response that is prepared for it. -/
def server : Server Script := fun request script =>
  let (response, entries) := respond request script.entries
  (response, ⟨entries, script.requests ++ [request]⟩)

end Script

end FilterRollout.Api
