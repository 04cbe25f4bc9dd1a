import HandlerChain.Site.Problem

/-!
# Responses

A result that is a text is served as text, an empty one without a body, any other as JSON. A page is
served under its own media type.

## Main Definitions

* `Response` is what a request is answered with.
* `Problem.respond` and `Outcome.respond` make one.
-/

namespace HandlerChain

/-- The answer to a request. -/
structure Response where
  status : Nat
  contentType? : Option String
  body : String
  allow? : Option String := none
  deriving DecidableEq, Repr

namespace Response

/-- A response without a body. -/
def empty (status : Nat) : Response := ⟨status, none, "", none⟩

/-- A response with a body. -/
def ok (contentType body : String) : Response := ⟨200, some contentType, body, none⟩

/-- A response in JSON. -/
def json (v : Json) : Response := ok "application/json" v.render

/-- Whether a response says that the request succeeded. -/
def isSuccess (r : Response) : Bool := 200 ≤ r.status && r.status < 300

end Response

/-- Serves a problem; a number that is no status is served as a failure of the program. -/
def Problem.respond (p : Problem) : Response where
  status := if 100 ≤ p.status ∧ p.status ≤ 999 then p.status else 500
  contentType? := some Problem.mediaType
  body := p.toJson.render

/-- Serves the JSON form of a result. -/
def respondJson : Json → Response
  | .text s => .ok "text/plain; charset=utf-8" s
  | .null => .empty 204
  | v => .json v

/-- Serves a page. -/
def Rendered.respond (page : Rendered) : Response :=
  .ok (if (Text.Utf8.encode page.contentType).all Http.isHeaderByte then page.contentType
    else "text/html") page.body

/-- Serves what a run gave. -/
def Outcome.respond : Outcome → Response
  | .rendered page => page.respond
  | .value v =>
    match v.encode with
    | .ok j => respondJson j
    | .error e => (Problem.ofDispatch (.encode e)).respond

end HandlerChain
