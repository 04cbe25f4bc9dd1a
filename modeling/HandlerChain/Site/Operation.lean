import HandlerChain.Route.Template
import HandlerChain.Site.Problem
import HandlerChain.Unit.Synthesis

/-!
# Documented operations

An endpoint that is not hidden is documented as an operation: its parameters with their places, the
kind of its body, and its responses.

## Main Definitions

* `Operation` is a documented operation, `Endpoint.operation?` the one of an endpoint.
* `Operations` holds operations, one for each unit; `Operations.toList` is sorted by path and method.
-/

namespace HandlerChain

/-- Where a documented parameter stands. -/
inductive ParameterPlace where
  | path | query | header
  deriving DecidableEq, Repr

/-- The name of a place. -/
def ParameterPlace.name : ParameterPlace → String
  | path => "path"
  | query => "query"
  | header => "header"

/-- A documented parameter. -/
structure ParameterDoc where
  name : String
  place : ParameterPlace
  required : Bool
  description? : Option String
  primitive : String
  deriving DecidableEq, Repr

/-- A documented request body. -/
structure BodyDoc where
  contentType : String
  description? : Option String
  required : Bool
  deriving DecidableEq, Repr

/-- A documented response. -/
structure ResponseDoc where
  status : Nat
  contentType : String
  description : String
  deriving DecidableEq, Repr

/-- A documented operation. -/
structure Operation where
  method : String
  path : String
  id? : Option String
  summary? : Option String
  description? : Option String
  groups : List String
  parameters : List ParameterDoc
  body? : Option BodyDoc
  responses : List ResponseDoc
  unitName : String
  extensions : List (String × Json)
  deriving Repr

section

variable {σ : Type}

/-- Where the parameter of a marker is documented; that of a body or a service is not. -/
def Marker.place? : Marker σ → Option ParameterPlace
  | .route _ => some .path
  | .query _ => some .query
  | .header _ => some .header
  | _ => none

/-- How a parameter is documented. -/
def Parameter.doc? (p : Parameter σ) : Option ParameterDoc :=
  p.marker.place?.map fun place =>
    { name := p.name
      place := place
      required := place = .path || !p.optional
      description? := none
      primitive := p.type.ty.primitive }

/-- The body that is documented after one more parameter: JSON replaces what was there, a form only
fills what was empty. -/
def Parameter.addBody (before : Option BodyDoc) (p : Parameter σ) : Option BodyDoc :=
  let form := some ⟨"application/x-www-form-urlencoded", none, !p.optional⟩
  match p.marker with
  | .body => some ⟨"application/json", none, !p.optional⟩
  | .form | .formKey _ => before <|> form
  | _ => before

/-- The documented body of some parameters. -/
def bodyDoc? (ps : List (Parameter σ)) : Option BodyDoc := ps.foldl Parameter.addBody none

/-- What explorers are told: the group and whether to ignore the endpoint. The first remark for
explorers decides, then the action. -/
def Endpoint.exploration (e : Endpoint σ) : Option String × Bool :=
  ((e.unit.classTags ++ e.unit.tags).findSome? fun
    | .explorer group ignore => some (group, ignore)
    | .custom _ _ => none).getD (e.action.group?, e.action.ignoreApi)

/-- The documented success. -/
def Endpoint.success (e : Endpoint σ) : ResponseDoc :=
  if e.action.finalRenderTarget?.isSome then ⟨200, "text/html", "Rendered view"⟩
  else
    let returns := e.unit.body.getLast?.bind StepCall.returns?
    let isText := (returns.map fun t => t.ty.primitive) = some "string"
    ⟨200, if isText then "text/plain" else "application/json", "Success"⟩

/-- The custom remarks on an endpoint as extensions, sorted by key; the last of a name counts. -/
def Endpoint.extensions (e : Endpoint σ) : List (String × Json) :=
  (e.unit.classTags ++ e.unit.tags).foldl
    (fun acc t =>
      match t with
      | .custom name properties => Json.insert ("x-" ++ name) (.object properties) acc
      | .explorer _ _ => acc)
    []

/-- The operation of an endpoint, unless the endpoint is hidden. -/
def Endpoint.operation? (e : Endpoint σ) : Option Operation :=
  let (group, ignore) := e.exploration
  if ignore then none
  else some
    { method := e.action.method
      path := Route.normalize e.action.route
      id? := some e.id
      summary? := e.action.title?
      description? := e.action.description?
      groups := group.toList
      parameters := e.unit.parameters.filterMap Parameter.doc?
      body? := bodyDoc? e.unit.parameters
      responses :=
        [e.success,
          ⟨400, Problem.mediaType, "Bad Request"⟩,
          ⟨500, Problem.mediaType, "Internal Server Error"⟩]
      unitName := e.unit.typeName
      extensions := e.extensions }

end

/-- Operations by the name of their unit. -/
structure Operations where
  entries : List Operation

namespace Operations

/-- No operation. -/
def empty : Operations := ⟨[]⟩

/-- The operations with one more; one of the same unit is replaced. -/
def insert (ops : Operations) (op : Operation) : Operations :=
  ⟨ops.entries.filter (fun o => o.unitName != op.unitName) ++ [op]⟩

/-- Whether one operation stands before another or beside it: paths first, then methods. -/
def le (a b : Operation) : Bool :=
  a.path < b.path || (a.path == b.path && decide (a.method ≤ b.method))

/-- The operations, sorted by path and then by method. -/
def toList (ops : Operations) : List Operation := ops.entries.mergeSort le

end Operations

end HandlerChain
