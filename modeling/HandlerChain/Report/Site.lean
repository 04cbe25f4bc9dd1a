import HandlerChain.Report.Run
import HandlerChain.Site.Router

/-!
# Reports on sites

JSON forms of documented operations, responses, and what becomes of endpoints that a site is offered.

## Main Definitions

* `Report.operations` are the forms of operations in order.
* `Report.response` is the form of a response.
* `Report.siteError` is the form of a refused endpoint.
-/

namespace HandlerChain.Report

/-- The name of the place of a parameter. -/
def placeName : ParameterPlace → String
  | .path => "Path"
  | .query => "Query"
  | .header => "Header"

/-- A documented parameter. -/
def parameterDoc (p : ParameterDoc) : Json :=
  .object
    [("name", .text p.name), ("in", .text (placeName p.place)), ("required", .bool p.required),
      ("description", text? p.description?), ("type", .text p.primitive)]

/-- A documented body. -/
def bodyDoc (b : BodyDoc) : Json :=
  .object
    [("content_type", .text b.contentType), ("description", text? b.description?),
      ("required", .bool b.required)]

/-- A documented response. -/
def responseDoc (r : ResponseDoc) : Json :=
  .object
    [("status", .nat r.status), ("content_type", .text r.contentType),
      ("description", .text r.description)]

/-- A documented operation. -/
def operation (op : Operation) : Json :=
  .object
    [("method", .text op.method), ("path", .text op.path), ("operation_id", text? op.id?),
      ("summary", text? op.summary?), ("description", text? op.description?),
      ("tags", Json.texts op.groups), ("params", .array (op.parameters.map parameterDoc)),
      ("request_body", Json.ofOption bodyDoc op.body?),
      ("responses", .array (op.responses.map responseDoc)), ("handler_id", .text op.unitName),
      ("extensions", .object op.extensions)]

/-- Operations, sorted. -/
def operations (ops : Operations) : Json := .array (ops.toList.map operation)

/-- A response. -/
def response (r : Response) : List (String × Json) :=
  [("status", Json.nat r.status), ("content_type", text? r.contentType?)] ++
    (match r.allow? with
      | some methods => [("allow", Json.text methods)]
      | none => []) ++
    [("body", Json.text r.body)]

/-- A response to a request for the path of the document: a body in JSON is shown as such. -/
def documentResponse (r : Response) : List (String × Json) :=
  match Json.parse (Text.Utf8.encode r.body) with
  | .ok j => (response r).filter (fun m => m.1 != "body") ++ [("json", j)]
  | .error _ => response r

/-- The kind of a refusal. -/
def siteErrorKind : SiteError → String
  | .duplicateRoute _ _ _ => "DuplicateRoute"
  | .conflictingRoute _ _ => "ConflictingRoute"
  | .unsupportedMethod _ => "UnsupportedMethod"

/-- A refused endpoint. -/
def siteError (e : SiteError) : Json := error (siteErrorKind e) e.message [] []

/-- Offers compiled endpoints to a site one by one; for each, how many are served then, or the error. -/
def offer {σ : Type} (s : Site σ) : List (Except CompileError (Endpoint σ)) → Site σ × List Json
  | [] => (s, [])
  | .error e :: rest =>
    let (s, out) := offer s rest
    (s, compileError e :: out)
  | .ok e :: rest =>
    match s.add e with
    | .error refusal =>
      let (s, out) := offer s rest
      (s, siteError refusal :: out)
    | .ok s =>
      let count := Json.nat s.endpoints.length
      let (s, out) := offer s rest
      (s, count :: out)

end HandlerChain.Report
