import HandlerChain.Site.Operation

/-!
# API documents

The operations of a site in one document of the OpenAPI format, version 3.1.

## Main Definitions

* `Document` is a title and a version with operations by path and method.
* `Document.ofOperations` collects operations; the first for a path and method stays.
* `Document.toJson` is the document in JSON.
-/

namespace HandlerChain

/-- The methods under which a document lists operations. -/
inductive DocumentMethod where
  | get | post | put | delete | patch | head | options
  deriving DecidableEq, Repr

namespace DocumentMethod

/-- The method under which an operation is listed; one without a place of its own goes under get. -/
def ofMethod (method : String) : DocumentMethod :=
  if method = "POST" then post
  else if method = "PUT" then put
  else if method = "DELETE" then delete
  else if method = "PATCH" then patch
  else if method = "HEAD" then head
  else if method = "OPTIONS" then options
  else get

/-- The name of a method in a document. -/
def name : DocumentMethod → String
  | get => "get"
  | post => "post"
  | put => "put"
  | delete => "delete"
  | patch => "patch"
  | head => "head"
  | options => "options"

end DocumentMethod

/-- Where an operation stands in a document. -/
structure DocumentPlace where
  path : String
  method : DocumentMethod
  deriving DecidableEq, Repr

/-- The place of an operation. -/
def Operation.place (op : Operation) : DocumentPlace :=
  ⟨Route.documented op.path, .ofMethod op.method⟩

/-- A document. -/
structure Document where
  title : String
  version : String
  operations : List (DocumentPlace × Operation)

namespace Document

/-- Operations by place with one more, unless its place is taken. -/
def add (taken : List (DocumentPlace × Operation)) (op : Operation) :
    List (DocumentPlace × Operation) :=
  if taken.any fun t => t.1 == op.place then taken else taken ++ [(op.place, op)]

/-- The document of some operations. -/
def ofOperations (title version : String) (ops : List Operation) : Document :=
  ⟨title, version, ops.foldl add []⟩

/-- The schema of a kind of JSON value. -/
def schema (primitive : String) : Json := .object [("type", .text primitive)]

/-- The kind of value under which a parameter is documented. -/
def parameterKind (primitive : String) : String :=
  if ["integer", "number", "boolean"].contains primitive then primitive else "string"

/-- A member that is there only with a value. -/
def member? (key : String) (value : Option String) : List (String × Json) :=
  match value with
  | some s => [(key, .text s)]
  | none => []

/-- A parameter in a document; one in the path is always required. -/
def parameter (p : ParameterDoc) : Json :=
  .object
    ([("name", .text p.name), ("in", .text p.place.name)] ++ member? "description" p.description? ++
      [("required", .bool (p.place = .path || p.required)),
        ("schema", schema (parameterKind p.primitive))])

/-- The content of one media type. -/
def content (contentType primitive : String) : Json :=
  .object [(contentType, .object [("schema", schema primitive)])]

/-- A request body in a document. -/
def requestBody (b : BodyDoc) : Json :=
  .object
    (member? "description" b.description? ++ [("content", content b.contentType "object")] ++
      if b.required then [("required", .bool true)] else [])

/-- A response in a document. -/
def response (r : ResponseDoc) : Json :=
  let isText := "text/".toList.isPrefixOf r.contentType.toList
  .object
    [("description", .text r.description),
      ("content", content r.contentType (if isText then "string" else "object"))]

/-- The name under which an operation is listed. -/
def operationId (op : Operation) : String := op.id?.getD op.unitName

/-- An operation in a document. -/
def operation (op : Operation) : Json :=
  .object
    ((if op.groups.isEmpty then [] else [("tags", Json.texts op.groups)]) ++
      member? "summary" op.summary? ++ member? "description" op.description? ++
      [("operationId", Json.text (operationId op))] ++
      (if op.parameters.isEmpty then [] else [("parameters", Json.array (op.parameters.map parameter))]) ++
      (match op.body? with
        | some b => [("requestBody", requestBody b)]
        | none => []) ++
      [("responses", Json.sorted (op.responses.map fun r => (toString r.status, response r)))] ++
      op.extensions)

/-- The paths of a document in order, each once. -/
def paths (d : Document) : List String := (d.operations.map fun o => o.1.path).eraseDups

/-- The operations under a path. -/
def underPath (d : Document) (path : String) : Json :=
  .object ((d.operations.filter fun o => o.1.path == path).map fun o =>
    (o.1.method.name, operation o.2))

/-- The document in JSON. -/
def toJson (d : Document) : Json :=
  .object
    [("openapi", .text "3.1.0"),
      ("info", .object [("title", .text d.title), ("version", .text d.version)]),
      ("paths", .sorted (d.paths.map fun path => (path, d.underPath path)))]

end Document

end HandlerChain
