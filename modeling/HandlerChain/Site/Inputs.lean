import HandlerChain.Unit.Dispatch

/-!
# Inputs of a request

The values of the parameters of a unit are read from a request in the order of the slots. Names of
route values, query entries and form fields are compared without regard to the case of ASCII letters,
and the first one of a name counts. A default stands in for an input that is absent, never for one that
is invalid.

## Main Definitions

* `Chunk` is a part of a body as it arrives, `Fault` an error that ends one; `readBody` collects the parts up
  to a limit.
* `RequestInput` is a request whose body has been read.
* `Parameter.bind` reads the value of one parameter, `bindAll` those of all.
* `RequestInput.host` is what a unit may ask of its surroundings during a request.
-/

namespace HandlerChain

/-- An error that ends a body, with the errors that it was caused by. A body that is cut off at some length
ends with an error of its own, which may stand anywhere behind others. -/
inductive Fault where
  | lengthLimit
  | root (reason : String)
  | causedBy (reason : String) (source : Fault)
  deriving DecidableEq, Repr

namespace Fault

/-- The wording of an error; what it was caused by is not shown. -/
def message : Fault → String
  | lengthLimit => "length limit exceeded"
  | root reason => reason
  | causedBy reason _ => reason

/-- Whether an error, or one that it was caused by, is that of a limit. -/
def exceedsLimit : Fault → Bool
  | lengthLimit => true
  | root _ => false
  | causedBy _ source => source.exceedsLimit

end Fault

/-- A part of a body as it arrives: bytes, or the error that ends it. -/
inductive Chunk where
  | data (bytes : List UInt8)
  | failure (fault : Fault)
  deriving DecidableEq, Repr

/-- Collects the parts of a body of which `got` arrived before; a body that is longer than the limit is cut
off there. -/
def collectFrom (limit : Nat) (got : List UInt8) : List Chunk → Except Fault (List UInt8)
  | [] => .ok got
  | .failure fault :: _ => .error fault
  | .data bytes :: rest =>
    if limit < got.length + bytes.length then .error .lengthLimit
    else collectFrom limit (got ++ bytes) rest

/-- How the error that ended a body is answered. -/
def Fault.answer (limit : Nat) (fault : Fault) : BindingError :=
  if fault.exceedsLimit then .payloadTooLarge limit else .bodyRead fault.message

/-- The bytes of a body; it may not be longer than the limit. -/
def readBody (limit : Nat) (chunks : List Chunk) : Except BindingError (List UInt8) :=
  (collectFrom limit [] chunks).mapError (Fault.answer limit)

/-- A request whose body has been read. -/
structure RequestInput where
  context : Http.RequestContext
  body : List UInt8

/-- The first value of a name, without regard to the case of ASCII letters. -/
def lookupName (name : String) (pairs : List (String × String)) : Option String :=
  (pairs.find? fun p => Text.eqIgnoreAsciiCase p.1 name).map Prod.snd

namespace RequestInput

/-- The value of the route under a name. -/
def routeValue (r : RequestInput) (name : String) : Option String :=
  lookupName name r.context.routeValues

/-- The value of the query under a name. -/
def queryValue (r : RequestInput) (name : String) : Option String :=
  lookupName name r.context.uri.queryPairs

/-- The value of the form field of a name. -/
def formValue (r : RequestInput) (name : String) : Option String :=
  lookupName name (Http.Form.parse r.body)

/-- The text of a header; its value may hold other bytes. -/
def headerValue (r : RequestInput) (name : String) : Except BindingError (Option String) :=
  match r.context.headers.get? name with
  | none => .ok none
  | some value =>
    match Http.Headers.text? value with
    | some s => .ok (some s)
    | none => .error (.invalid "header" name "failed to convert header to a str")

end RequestInput

namespace Marker

variable {σ : Type}

/-- How errors name the kind of a source. -/
def sourceKind : Marker σ → String
  | services => "service"
  | route _ => "route"
  | query _ => "query"
  | header _ => "header"
  | body => "body"
  | form => "form"
  | formKey _ => "form field"
  | resolver _ => "resolver"

end Marker

section

variable {t : Ty}

/-- Reads a text that may be absent. A decoder of anything but texts reads nothing. -/
def readText (d : Decoder t) (sourceKind name : String) (raw : Option String) : Except BindingError (Option Dyn) :=
  match raw, d with
  | some raw, .text decode =>
    match decode raw with
    | .ok v => .ok (some ⟨t, v⟩)
    | .error reason => .error (.invalid sourceKind name reason)
  | _, _ => .ok none

/-- Reads a body; an empty body is absent. A decoder of anything but bytes reads nothing. -/
def readContent (d : Decoder t) (body : List UInt8) : Except BindingError (Option Dyn) :=
  if body.isEmpty then .ok none
  else match d with
    | .bytes decode =>
      match decode body with
      | .ok v => .ok (some ⟨t, v⟩)
      | .error reason => .error (.body reason)
    | _ => .ok none

/-- Asks for a service; without one there is an error. A decoder of anything but services asks for nothing. -/
def readService (d : Decoder t) (typeName : String) (services : Services) : Except BindingError (Option Dyn) :=
  match d with
  | .service lookup =>
    match lookup services with
    | some ref => .ok (some ⟨t, ref⟩)
    | none => .error (.serviceUnavailable typeName)
  | _ => .ok none

end

namespace Parameter

variable {σ : Type}

/-- Reads the input of a parameter, if it is there. -/
def read (p : Parameter σ) (r : RequestInput) (services : Services) (s : σ) :
    Except BindingError (Option Dyn) :=
  let decoder := p.binding.decoder
  let kind := p.marker.sourceKind
  match p.marker with
  | .route name => readText decoder kind name (r.routeValue name)
  | .query name => readText decoder kind name (r.queryValue name)
  | .header name =>
    match r.headerValue name with
    | .error e => .error e
    | .ok raw => readText decoder kind name raw
  | .formKey key => readText decoder kind key (r.formValue key)
  | .body | .form => readContent decoder r.body
  | .services => readService decoder p.type.name services
  | .resolver resolver =>
    match resolver.resolve ⟨r.context, services⟩ s with
    | .ok v => .ok (some ⟨resolver.output, v⟩)
    | .error reason => .error (.resolver resolver.name reason)

/-- The value of a parameter: its input, or else its default. -/
def bind (p : Parameter σ) (r : RequestInput) (services : Services) (s : σ) :
    Except BindingError (Option Dyn) :=
  match p.read r services s with
  | .error e => .error e
  | .ok (some v) => .ok (some v)
  | .ok none =>
    if p.optional then .ok p.default? else .error (.missing p.marker.sourceKind p.name)

end Parameter

/-- Adds the values of some parameters to arguments, up to the first that has none. -/
def bindFrom {σ : Type} (r : RequestInput) (services : Services) (s : σ) (args : Arguments) :
    List (Parameter σ) → Except BindingError Arguments
  | [] => .ok args
  | p :: rest =>
    match p.bind r services s with
    | .error e => .error e
    | .ok none => bindFrom r services s args rest
    | .ok (some v) => bindFrom r services s (args.set p.position v) rest

/-- The values of all parameters. -/
def bindAll {σ : Type} (parameters : List (Parameter σ)) (r : RequestInput) (services : Services)
    (s : σ) : Except BindingError Arguments :=
  bindFrom r services s (.withLength parameters.length) parameters

/-- What a unit may ask of its surroundings during a request. -/
def RequestInput.host {σ : Type} (r : RequestInput) (services : Services)
    (render : RenderRequest → Except ViewError Rendered) : Host σ :=
  .constant
    (fun
      | .method => some ⟨.ambient .method, r.context.method⟩
      | .uri => some ⟨.ambient .uri, r.context.uri⟩
      | .headers => some ⟨.ambient .headers, r.context.headers⟩
      | .request => some ⟨.ambient .request, r.context⟩
      | .services => some ⟨.ambient .services, services⟩)
    render

end HandlerChain
