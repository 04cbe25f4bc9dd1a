import HandlerChain.Text.LowerCase
import HandlerChain.Text.Quoted
import HandlerChain.Value.FromForm

/-!
# Bindings

A binding says where an argument of a handler comes from, and how it becomes a value of its type. Two
bindings are the same input if they have the same kind, the same type, and the same name in lower case;
the name of a resolver is the name of its type.

## Main Definitions

* `Resolver` makes an argument from the whole request.
* `BindingKind` and `Source` are where arguments come from.
* `Decoder` makes a value of a type, `Source.Gives` says for which types and with which decoder a source
  can be declared.
* `Binding` is a source with such a type and decoder and perhaps a default, `Binding.identity` the input
  that it is.
* `Marker` is how a parameter of a unit records its source.
-/

namespace HandlerChain

/-- What a resolver sees of a request. -/
structure ResolveContext where
  request : Http.RequestContext
  services : Services
  deriving Repr

/-- A way of making an argument from the whole request, named by its type. -/
structure Resolver (σ : Type) where
  name : String
  output : Ty
  resolve : ResolveContext → σ → Except String output.Denote

/-- The kinds of sources. -/
inductive BindingKind where
  | service | routeParameter | queryParameter | header | body | form | formValue
  | customResolver | previousHandlerResult | ambientContext
  deriving DecidableEq, Repr

/-- The name of a kind. -/
def BindingKind.name : BindingKind → String
  | service => "Service"
  | routeParameter => "RouteParameter"
  | queryParameter => "QueryParameter"
  | header => "Header"
  | body => "Body"
  | form => "Form"
  | formValue => "FormValue"
  | customResolver => "CustomResolver"
  | previousHandlerResult => "PreviousHandlerResult"
  | ambientContext => "AmbientContext"

/-- Where an argument comes from. -/
inductive Source (σ : Type) where
  | service
  | route (name : String)
  | query (name : String)
  | header (name : String)
  | body
  | form
  | formValue (key : String)
  | custom (resolver : Resolver σ)
  | previous
  | ambient (kind : AmbientKind)

/-- The name of a kind of surroundings in lower case. -/
def AmbientKind.lowerName : AmbientKind → String
  | method => "method"
  | uri => "uri"
  | headers => "headers"
  | request => "request"
  | services => "services"

namespace Source

variable {σ : Type}

/-- The kind of a source. -/
def kind : Source σ → BindingKind
  | service => .service
  | route _ => .routeParameter
  | query _ => .queryParameter
  | header _ => .header
  | body => .body
  | form => .form
  | formValue _ => .formValue
  | custom _ => .customResolver
  | previous => .previousHandlerResult
  | ambient _ => .ambientContext

/-- The name that a source carries, as it was spelled. -/
def name? : Source σ → Option String
  | route n | query n | header n | formValue n => some n
  | custom r => some r.name
  | ambient k => some k.lowerName
  | _ => none

/-- Sources are the same if their kinds and names are. -/
def same (a b : Source σ) : Bool := a.kind == b.kind && a.name? == b.name?

/-- The form of a source in diagnostics. -/
def debug : Source σ → String
  | service => "Service"
  | route n => "RouteParameter \x7b name: " ++ Text.quoted n ++ " \x7d"
  | query n => "QueryParameter \x7b name: " ++ Text.quoted n ++ " \x7d"
  | header n => "Header \x7b name: " ++ Text.quoted n ++ " \x7d"
  | body => "Body"
  | form => "Form"
  | formValue n => "FormValue \x7b key: " ++ Text.quoted n ++ " \x7d"
  | custom r => "CustomResolver \x7b resolver: " ++ r.name ++ " \x7d"
  | previous => "PreviousHandlerResult"
  | ambient k => "AmbientContext \x7b kind: " ++ k.name ++ " \x7d"

end Source

/-- How a parameter of a unit records the source of its argument. -/
inductive Marker (σ : Type) where
  | services
  | route (name : String)
  | query (name : String)
  | header (name : String)
  | body
  | form
  | formKey (key : String)
  | resolver (resolver : Resolver σ)

namespace Marker

variable {σ : Type}

/-- The marker of a source; what the chain itself supplies has none. -/
def ofSource? : Source σ → Option (Marker σ)
  | .service => some services
  | .route n => some (route n)
  | .query n => some (query n)
  | .header n => some (header n)
  | .body => some body
  | .form => some form
  | .formValue k => some (formKey k)
  | .custom r => some (resolver r)
  | .previous => none
  | .ambient _ => none

/-- The name that a marker carries. -/
def name? : Marker σ → Option String
  | route n | query n | header n | formKey n => some n
  | _ => none

/-- The form of a marker in diagnostics. -/
def debug : Marker σ → String
  | services => "FromServices"
  | route n => "FromRoute \x7b name: " ++ Text.quoted n ++ " \x7d"
  | query n => "FromQuery \x7b name: " ++ Text.quoted n ++ " \x7d"
  | header n => "FromHeader \x7b name: " ++ Text.quoted n ++ " \x7d"
  | body => "FromBody"
  | form => "FromForm"
  | formKey k => "FromFormKey \x7b key: " ++ Text.quoted k ++ " \x7d"
  | resolver r => "ModelBinder \x7b resolver: " ++ r.name ++ " \x7d"

end Marker

/-- The input that a binding is. -/
structure Identity where
  kind : BindingKind
  type : Ty
  discriminator : String
  deriving DecidableEq, Repr

/-- How a value of a type is made: from a text, from the bytes of a body, or as a service. What is not
read from a request has no use for a decoder. -/
inductive Decoder (t : Ty) where
  | text (decode : String → Except String t.Denote)
  | bytes (decode : List UInt8 → Except String t.Denote)
  | service (lookup : Services → Option t.Denote)
  | unused

/-- The sources that can be declared, with the types that they give values of and with their decoders. A
service, a resolver and a part of the surroundings have types of their own. -/
inductive Source.Gives {σ : Type} : Source σ → (t : Ty) → Decoder t → Prop where
  | service (name : String) : Gives .service (.service name) (.service fun services => services.get? name)
  | route (t : Ty) (name : String) : Gives (.route name) t (.text t.ofText)
  | query (t : Ty) (name : String) : Gives (.query name) t (.text t.ofText)
  | header (t : Ty) (name : String) : Gives (.header name) t (.text t.ofText)
  | formValue (t : Ty) (key : String) : Gives (.formValue key) t (.text t.ofText)
  | body (t : Ty) : Gives .body t (.bytes t.ofJson)
  | form (t : Ty) : Gives .form t (.bytes t.ofForm)
  | custom (resolver : Resolver σ) : Gives (.custom resolver) resolver.output .unused
  | previous (t : Ty) : Gives .previous t .unused
  | ambient (kind : AmbientKind) : Gives (.ambient kind) (.ambient kind) .unused

/-- Where an argument comes from, its type, the value that it has by default, and its decoder. -/
structure Binding (σ : Type) where
  source : Source σ
  type : ValueType
  default? : Option Dyn := none
  decoder : Decoder type.ty
  gives : source.Gives type.ty decoder

namespace Binding

variable {σ : Type}

/-- A service of the given type. -/
def service (name : String) : Binding σ :=
  ⟨.service, .plain (.service name), none, .service fun services => services.get? name, .service name⟩

/-- A value of the route. -/
def route (t : Ty) (name : String) : Binding σ := ⟨.route name, .plain t, none, .text t.ofText, .route t name⟩

/-- A value of the query. -/
def query (t : Ty) (name : String) : Binding σ := ⟨.query name, .plain t, none, .text t.ofText, .query t name⟩

/-- A value of a header. -/
def header (t : Ty) (name : String) : Binding σ :=
  ⟨.header name, .plain t, none, .text t.ofText, .header t name⟩

/-- A value of a form field. -/
def formValue (t : Ty) (key : String) : Binding σ :=
  ⟨.formValue key, .plain t, none, .text t.ofText, .formValue t key⟩

/-- The body as JSON. -/
def body (t : Ty) : Binding σ := ⟨.body, .plain t, none, .bytes t.ofJson, .body t⟩

/-- The body as a form. -/
def form (t : Ty) : Binding σ := ⟨.form, .plain t, none, .bytes t.ofForm, .form t⟩

/-- What a resolver makes of the request. -/
def custom (r : Resolver σ) : Binding σ := ⟨.custom r, .plain r.output, none, .unused, .custom r⟩

/-- The result of the step before. -/
def previous (t : Ty) : Binding σ := ⟨.previous, .plain t, none, .unused, .previous t⟩

/-- A part of the surroundings. -/
def ambient (k : AmbientKind) : Binding σ := ⟨.ambient k, .plain (.ambient k), none, .unused, .ambient k⟩

/-- The binding with a default. -/
def withDefault (b : Binding σ) (v : Dyn) : Binding σ := { b with default? := some v }

/-- The kind of the source. -/
def kind (b : Binding σ) : BindingKind := b.source.kind

/-- The name that the source carries. -/
def name? (b : Binding σ) : Option String := b.source.name?

/-- Whether a binding takes a slot among the parameters of the unit. -/
def isMethodLevel (b : Binding σ) : Bool :=
  match b.kind with
  | .previousHandlerResult | .ambientContext => false
  | _ => true

/-- The input that a binding is. -/
def identity (b : Binding σ) : Identity :=
  ⟨b.kind, b.type.ty, Text.lowerCase (b.name?.getD "")⟩

/-- The text of a binding: its kind, the short name of its type, and its name. -/
def display (b : Binding σ) : String :=
  b.kind.name ++ "<" ++ b.type.shortName ++ ">" ++
    match b.source with
    | .route n | .query n | .header n | .formValue n => "(\"" ++ n ++ "\")"
    | .ambient k => "(" ++ k.name ++ ")"
    | _ => ""

/-- The form of a binding in diagnostics. -/
def debug (b : Binding σ) : String :=
  "BindingSpec \x7b source: " ++ b.source.debug ++ ", value_type: " ++ b.type.name
    ++ ", has_default: " ++ (if b.default?.isSome then "true" else "false") ++ " \x7d"

end Binding

end HandlerChain
