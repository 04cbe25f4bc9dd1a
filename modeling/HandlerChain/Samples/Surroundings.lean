import HandlerChain.Handler.Binding
import HandlerChain.Samples.Bench
import HandlerChain.Unit.View

/-!
# Sample resolvers and views

## Main Definitions

* `Samples.resolver?` finds a resolver by its short name.
* `Samples.view?` finds a view by its mode.
-/

namespace HandlerChain.Samples

/-- A resolver declared in a space. -/
def resolver (s : Space) (short : String) (output : Ty)
    (f : ResolveContext → Bench → Except String output.Denote) : String × Resolver Bench :=
  (short, ⟨s.full (short ++ "Resolver"), output, f⟩)

/-- The user that a request names. -/
def callerOf (r : Http.RequestContext) : String :=
  ((r.headers.get? "x-user").bind Http.Headers.text?).getD "anonymous"

/-- The resolvers by short name. -/
def resolvers (s : Space) : List (String × Resolver Bench) :=
  [ resolver s "Caller" .text fun c _ => .ok (callerOf c.request),
    resolver s "Tenant" .text fun _ _ => .ok "acme",
    resolver s "Failing" .text fun _ _ => .error "no tenant",
    resolver s "RouteCount" (.int .usize) fun c _ =>
      .ok (IntKind.wrap .usize c.request.routeValues.length),
    resolver s "Greeting" .text fun c b =>
      match c.services.get? s.greeterName with
      | some ref => .ok (b.greeting ref)
      | none => .error "no greeter" ]

/-- A resolver by its short name. -/
def resolver? (s : Space) (short : String) : Option (Resolver Bench) := (resolvers s).lookup short

/-- The views by mode. -/
def viewModes : List (String × (Json → Except String String)) :=
  [ ("json", fun model => .ok ("<pre>" ++ model.render ++ "</pre>")),
    ("name", fun model =>
      match (model.get? "name").bind Json.text? with
      | some name => .ok ("<h1>" ++ name ++ "</h1>")
      | none => .error "model has no name"),
    ("text", fun model => .ok (model.text?.getD "")),
    ("fail", fun _ => .error "boom") ]

/-- A view by its mode. -/
def view? (mode : String) : Option (Json → Except String String) := viewModes.lookup mode

end HandlerChain.Samples
