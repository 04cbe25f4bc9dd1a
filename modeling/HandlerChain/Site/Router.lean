import HandlerChain.Route.Table
import HandlerChain.Site.Basic
import HandlerChain.Site.Inputs
import HandlerChain.Site.Response

/-!
# Serving a site

A site is served through a table of paths with the methods of each. A request is answered by the first
stage that fails: finding its path and method, decoding what the path captures, reading the body,
binding the parameters, and running the unit.

## Main Definitions

* `Site.router?` is the router of a site; `RouterError` says why there is none.
* `Request` is a request with a body that is yet to be read.
* `Router.respondWith` answers a request.
-/

namespace HandlerChain

/-- What serves a method of a path. -/
inductive Target (σ : Type) where
  | endpoint (e : Endpoint σ)
  | document

/-- The methods of a path, in the order in which they were added, and what the response to another
method allows. -/
structure MethodTable (σ : Type) where
  targets : List (String × Target σ)
  allow : List String

namespace MethodTable

variable {σ : Type}

/-- The methods that a method adds to those that are allowed. -/
def allowedBy (method : String) : List String :=
  if method = "GET" then ["GET", "HEAD"] else [method]

/-- A table without methods. -/
def empty : MethodTable σ := ⟨[], []⟩

/-- Adds a method, unless it is there. -/
def add (t : MethodTable σ) (method : String) (target : Target σ) : Option (MethodTable σ) :=
  if (t.targets.lookup method).isSome then none
  else some
    { targets := t.targets ++ [(method, target)]
      allow := t.allow ++ (allowedBy method).filter fun m => !t.allow.contains m }

/-- The methods of two tables, if none is in both. -/
def merge (a b : MethodTable σ) : Option (MethodTable σ) :=
  if b.targets.any fun t => (a.targets.lookup t.1).isSome then none
  else some ⟨a.targets ++ b.targets, a.allow ++ b.allow⟩

/-- What serves a method; without a target of its own, HEAD is served like GET. -/
def find? (t : MethodTable σ) (method : String) : Option (Target σ) :=
  t.targets.lookup method <|> if method = "HEAD" then t.targets.lookup "GET" else none

end MethodTable

/-- Why a site cannot be served. -/
inductive RouterError where
  | path (cause : Route.TableError)
  | overlap (path : String)
  deriving DecidableEq, Repr

/-- What serves requests. -/
structure Router (σ : Type) where
  site : Site σ
  table : Route.Table (MethodTable σ)

section

variable {σ : Type}

/-- Adds the methods of a path to a table. -/
def addPath (table : Route.Table (MethodTable σ)) (path : String) (methods : MethodTable σ) :
    Except RouterError (Route.Table (MethodTable σ)) :=
  match table.get? path with
  | some existing =>
    match existing.merge methods with
    | some merged => .ok (table.replace path merged)
    | none => .error (.overlap path)
  | none => (table.insert path methods).mapError .path

/-- Groups by path, sorted, with one more endpoint; `none` if its method is there. -/
def addToGroup (path method : String) (target : Target σ) :
    List (String × MethodTable σ) → Option (List (String × MethodTable σ))
  | [] => (MethodTable.empty.add method target).map fun t => [(path, t)]
  | (p, t) :: rest =>
    if path = p then (t.add method target).map fun t => (p, t) :: rest
    else if path < p then
      (MethodTable.empty.add method target).map fun new => (path, new) :: (p, t) :: rest
    else (addToGroup path method target rest).map ((p, t) :: ·)

/-- The endpoints of a site by path, sorted. -/
def groupByPath (groups : List (String × MethodTable σ)) :
    List (Endpoint σ) → Except RouterError (List (String × MethodTable σ))
  | [] => .ok groups
  | e :: rest =>
    match addToGroup e.path e.action.method (.endpoint e) groups with
    | some groups => groupByPath groups rest
    | none => .error (.overlap e.path)

/-- Adds all groups to a table. -/
def addPaths (table : Route.Table (MethodTable σ)) :
    List (String × MethodTable σ) → Except RouterError (Route.Table (MethodTable σ))
  | [] => .ok table
  | (path, methods) :: rest =>
    match addPath table path methods with
    | .ok table => addPaths table rest
    | .error e => .error e

/-- The methods of the path of the document. -/
def documentMethods : MethodTable σ := ⟨[("GET", .document)], MethodTable.allowedBy "GET"⟩

/-- The router of a site, with its document if the settings say so. -/
def Site.router? (s : Site σ) : Except RouterError (Router σ) :=
  match groupByPath [] s.endpoints with
  | .error e => .error e
  | .ok groups =>
    match addPaths .empty groups with
    | .error e => .error e
    | .ok table =>
      if s.config.documented then
        (addPath table s.config.documentPath documentMethods).map (⟨s, ·⟩)
      else .ok ⟨s, table⟩

end

/-- A request with a body that is yet to be read. -/
structure Request where
  method : String
  uri : Http.Uri
  headers : Http.Headers
  body : List Chunk

/-- The request of a method, a target, header fields and a body; the first part that is malformed is
the error. -/
def Request.make (method uri : String) (headers : List (String × List UInt8)) (body : List Chunk) :
    Except Http.RequestError Request :=
  if !Http.isToken method then .error .method
  else match Http.Uri.parse uri with
    | .error e => .error (.uri e)
    | .ok uri => (Http.Headers.ofList headers).map fun headers => ⟨method, uri, headers, body⟩

/-- The texts that a path captures, decoded; the first name whose text is malformed is the error. Of
two captures of one name the last counts. -/
def decodeCaptures : List (String × String) → List (String × String) →
    Except String (List (String × String))
  | got, [] => .ok got
  | got, (name, raw) :: rest =>
    match Text.Utf8.decode (Http.Percent.decode (Text.Utf8.encode raw)) with
    | none => .error name
    | some cs =>
      decodeCaptures (got.filter (fun g => g.1 != name) ++ [(name, String.ofList cs)]) rest

/-- The error of a capture that is malformed. -/
def malformedCapture (path name : String) : BindingError :=
  .invalid "route" path ("Invalid URL: Invalid UTF-8 in `" ++ name ++ "`")

section

variable {σ : Type}

/-- Serves a problem of a request. -/
def Request.fail (r : Request) (p : Problem) : Response := (p.withInstance r.uri.path).respond

/-- The input that a request is to an endpoint: what the path captured, and the body. -/
def Request.input (r : Request) (limit : Nat) (captures : List (String × String)) :
    Except BindingError RequestInput :=
  match decodeCaptures [] captures with
  | .error name => .error (malformedCapture r.uri.path name)
  | .ok values =>
    match readBody limit r.body with
    | .error e => .error e
    | .ok body => .ok ⟨⟨r.method, r.uri, r.headers, values⟩, body⟩

/-- Answers a request by an endpoint. -/
def Endpoint.respond (e : Endpoint σ) (site : Site σ) (registry : Registry σ)
    (captures : List (String × String)) (r : Request) (s : σ) : Response × σ :=
  match r.input site.config.bodyLimit captures with
  | .error error => (r.fail (.ofBinding error), s)
  | .ok input =>
    match bindAll e.unit.parameters input site.services s with
    | .error error => (r.fail (.ofBinding error), s)
    | .ok args =>
      match e.unit.invoke registry args (input.host site.services site.render) s with
      | (.ok outcome, s) => (outcome.respond, s)
      | (.error error, s) => (r.fail (.ofDispatch error), s)

/-- Answers a request by a target. `registryOf` is where the handlers of an endpoint are. -/
def Target.respond (t : Target σ) (site : Site σ) (registryOf : Endpoint σ → Registry σ)
    (captures : List (String × String)) (r : Request) (s : σ) : Response × σ :=
  match t with
  | .endpoint e => e.respond site (registryOf e) captures r s
  | .document => (.json site.document.toJson, s)

/-- A response as its request gets it: without a body for HEAD, and for a CONNECT that succeeds. -/
def Response.forMethod (method : String) (response : Response) : Response :=
  if method = "HEAD" || (method = "CONNECT" && response.isSuccess) then { response with body := "" }
  else response

/-- Answers a request. `registryOf` is where the handlers of an endpoint are. -/
def Router.respondWith (router : Router σ) (registryOf : Endpoint σ → Registry σ) (r : Request)
    (s : σ) : Response × σ :=
  match router.table.find? r.uri.path with
  | none => (.empty 404, s)
  | some (methods, captures) =>
    match methods.find? r.method with
    | none => ({ Response.empty 405 with allow? := some (",".intercalate methods.allow) }, s)
    | some target =>
      let (response, s) := target.respond router.site registryOf captures r s
      (response.forMethod r.method, s)

/-- Answers a request by endpoints whose handlers are in one registry. -/
def Router.respond (router : Router σ) (registry : Registry σ) (r : Request) (s : σ) :
    Response × σ :=
  router.respondWith (fun _ => registry) r s

end

end HandlerChain
