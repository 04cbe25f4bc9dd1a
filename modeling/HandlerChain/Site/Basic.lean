import HandlerChain.Site.Document
import HandlerChain.Unit.View

/-!
# Sites

A site serves endpoints with services and views. No two endpoints have the same method and route
shape, and endpoints whose routes have the same shape name their parameters alike. What is taken is kept in
two tables: names by method and shape, and paths by shape.

## Main Definitions

* `SiteConfig` are the settings of a site.
* `Site` holds the endpoints in the order in which they were accepted.
* `Site.add` and `Site.addAll` accept endpoints, `SiteError` says why one is refused.
* `Site.document` documents what is served.
-/

namespace HandlerChain

/-- Settings of a site. -/
structure SiteConfig where
  bodyLimit : Nat := 2 * 1024 * 1024
  documented : Bool := true
  documentPath : String := "/openapi.json"
  title : String := "Action API"
  version : String := "0.1.0"
  deriving DecidableEq, Repr

/-- Endpoints that are served together. `routes` holds the name of what serves a method and a shape, and
`paths` the path under which a shape is served. -/
structure Site (σ : Type) where
  config : SiteConfig
  services : Services := .empty
  render : RenderRequest → Except ViewError Rendered := Views.none.render
  endpoints : List (Endpoint σ) := []
  routes : List ((String × String) × String) := []
  paths : List (String × String) := []
  operations : Operations := .empty

/-- Why an endpoint is refused. -/
inductive SiteError where
  | duplicateRoute (method path existing : String)
  | conflictingRoute (path existing : String)
  | unsupportedMethod (method : String)
  deriving DecidableEq, Repr

/-- The wording of an error. -/
def SiteError.message : SiteError → String
  | duplicateRoute method path existing =>
    "route [" ++ method ++ "]" ++ path ++ " is already served by '" ++ existing ++ "'"
  | conflictingRoute path existing =>
    "route " ++ path ++ " conflicts with '" ++ existing ++ "' which names its parameters differently"
  | unsupportedMethod method => "method '" ++ method ++ "' cannot be routed"

/-- The methods that can be routed. -/
def routableMethods : List String :=
  ["GET", "HEAD", "POST", "PUT", "DELETE", "PATCH", "OPTIONS", "TRACE", "CONNECT"]

/-- The path under which an endpoint is served. -/
def Endpoint.path {σ : Type} (e : Endpoint σ) : String := Route.normalize e.action.route

/-- The path of an endpoint without the names of its parameters. -/
def Endpoint.shape {σ : Type} (e : Endpoint σ) : String := Route.shape e.path

namespace Site

variable {σ : Type}

/-- The name of what serves a method and a shape. -/
def serving? (s : Site σ) (method shape : String) : Option String := s.routes.lookup (method, shape)

/-- The path under which a shape is served. -/
def pathOf? (s : Site σ) (shape : String) : Option String := s.paths.lookup shape

/-- What keeps an endpoint from being accepted. -/
def refusal? (s : Site σ) (e : Endpoint σ) : Option SiteError :=
  if !routableMethods.contains e.action.method then some (.unsupportedMethod e.action.method)
  else match s.serving? e.action.method e.shape with
    | some existing => some (.duplicateRoute e.action.method e.path existing)
    | none =>
      match s.pathOf? e.shape with
      | some existing => if existing = e.path then none else some (.conflictingRoute e.path existing)
      | none => none

/-- The operations with that of an endpoint, unless it is hidden. -/
def documentEndpoint (ops : Operations) (e : Endpoint σ) : Operations :=
  match e.operation? with
  | some op => ops.insert op
  | none => ops

/-- The site with one more endpoint. A shape keeps the path that it has. -/
def accept (s : Site σ) (e : Endpoint σ) : Site σ :=
  { s with
    endpoints := s.endpoints ++ [e]
    routes := ((e.action.method, e.shape), e.name) :: s.routes
    paths := if (s.pathOf? e.shape).isSome then s.paths else (e.shape, e.path) :: s.paths
    operations := documentEndpoint s.operations e }

/-- The site with one more endpoint, or why the endpoint is refused. -/
def add (s : Site σ) (e : Endpoint σ) : Except SiteError (Site σ) :=
  match s.refusal? e with
  | some error => .error error
  | none => .ok (s.accept e)

/-- The site with more endpoints, up to the first that is refused. -/
def addAll (s : Site σ) : List (Endpoint σ) → Site σ × Option SiteError
  | [] => (s, none)
  | e :: rest =>
    match s.add e with
    | .error error => (s, some error)
    | .ok s => s.addAll rest

/-- The document of the operations. -/
def document (s : Site σ) : Document :=
  .ofOperations s.config.title s.config.version s.operations.toList

end Site

end HandlerChain
