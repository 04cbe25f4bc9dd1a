import HandlerChain.Unit.Dispatch

/-!
# Problem documents

An error of a request is answered with a document that names the kind of problem, the status, and
what was requested.

## Main Definitions

* `Problem` is a document, `Problem.toJson` its members in order.
* `Problem.ofBinding` and `Problem.ofDispatch` describe errors.
-/

namespace HandlerChain

/-- The description of an error. -/
structure Problem where
  title : String
  status : Nat
  detail : String
  instance? : Option String := none
  deriving DecidableEq, Repr

namespace Problem

/-- The type of every problem. -/
def typeUrl : String := "about:blank"

/-- The media type of a problem document. -/
def mediaType : String := "application/problem+json"

/-- The problem with the path that was requested. -/
def withInstance (p : Problem) (path : String) : Problem := { p with instance? := some path }

/-- The document. -/
def toJson (p : Problem) : Json :=
  .object
    ([("type", Json.text typeUrl), ("title", Json.text p.title), ("status", Json.nat p.status),
      ("detail", Json.text p.detail)] ++
      match p.instance? with
      | some path => [("instance", Json.text path)]
      | none => [])

/-- A failure of the program. -/
def internal (detail : String) : Problem := ⟨"Internal Server Error", 500, detail, none⟩

/-- The problem of parameters without values. -/
def ofBinding (e : BindingError) : Problem :=
  match e with
  | .body _ => ⟨"Unprocessable Entity", 422, e.message, none⟩
  | .payloadTooLarge _ => ⟨"Payload Too Large", 413, e.message, none⟩
  | .serviceUnavailable _ => internal e.message
  | _ => ⟨"Bad Request", 400, e.message, none⟩

/-- The problem of a failed run. -/
def ofDispatch : DispatchError → Problem
  | .binding e => ofBinding e
  | e => internal e.message

end Problem

end HandlerChain
