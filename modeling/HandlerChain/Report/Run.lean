import HandlerChain.Unit.Compiler

/-!
# Reports on runs and units

JSON forms of values, errors, outcomes, events, and compiled endpoints.

## Main Definitions

* `Report.error` is the form of an error: its kind, its message, and its causes.
* `Report.value`, `Report.outcome`, `Report.event` and `Report.endpoint` are the forms of the rest.
-/

namespace HandlerChain.Report

/-- A text that may be absent. -/
def text? (o : Option String) : Json := Json.ofOption .text o

/-- An error: its kind, its message, the messages of its causes, and more members. -/
def error (kind message : String) (causes : List String) (more : List (String × Json)) : Json :=
  .object
    ([("error", Json.text kind), ("message", Json.text message)] ++
      (if causes.isEmpty then [] else [("causes", Json.texts causes)]) ++ more)

/-- The kind of an encoding error. -/
def encodeKind : EncodeError → String
  | .notSerializable _ => "NotSerializable"
  | .typeMismatch _ => "TypeMismatch"
  | .refused _ => "Json"

/-- The JSON form of a value, or why it has none. -/
def encoded : Except EncodeError Json → Json
  | .ok j => j
  | .error e => error (encodeKind e) e.message [] []

/-- A value with its type. -/
def value (v : Dyn) : Json :=
  if v.ty.isData then
    .object [("type", .text v.ty.name), ("json", encoded ((ValueType.encoded v.ty).encode v))]
  else .text "opaque"

/-- A value that may be absent. -/
def value? (v : Option Dyn) : Json := Json.ofOption value v

/-- The kind of a failed run. -/
def dispatchKind : DispatchError → String
  | .wouldSuspend => "WouldSuspend"
  | .unknownHandler _ => "UnknownHandler"
  | .missingArgument _ => "MissingArgument"
  | .missingAmbient _ => "MissingAmbient"
  | .noPreviousResult _ => "NoPreviousResult"
  | .invoke _ _ => "Invoke"
  | .binding _ => "Binding"
  | .view (.notFound _) => "View.NotFound"
  | .view (.render _ _) => "View.Render"
  | .view (.model _) => "View.Model"
  | .encode _ => "Encode"

/-- A failed run. -/
def dispatchError (e : DispatchError) (more : List (String × Json)) : Json :=
  error (dispatchKind e) e.message e.cause?.toList more

/-- A page. -/
def page (p : Rendered) : List (String × Json) :=
  [("content_type", .text p.contentType), ("body", .text p.body)]

/-- What a run gave, with more members. -/
def outcome (r : Except DispatchError Outcome) (more : List (String × Json)) : Json :=
  match r with
  | .ok (.value v) =>
    .object
      ([("type", .text v.type.name), ("json", encoded v.encode), ("string", text? v.text?)] ++ more)
  | .ok (.rendered p) => .object (page p ++ more)
  | .error e => dispatchError e more

/-- What renders a result. -/
def target (t : ViewTarget) : Json :=
  .object [("kind", .text t.kind.name), ("target", .text t.target)]

/-- What renders a result, if anything does. -/
def target? (t : Option ViewTarget) : Json := Json.ofOption target t

/-- A remark. -/
def tag : Tag → Json
  | .explorer g i => .object [("explorer", .object [("group", text? g), ("ignore", .bool i)])]
  | .custom n ps => .object [("custom", .text n), ("props", .object ps)]

/-- Remarks in order. -/
def tags (ts : List Tag) : Json := .array (ts.map tag)

/-- The name of a failed synthesis. -/
def failureName : SynthesisFailure → String
  | .arity _ _ _ => "Arity"
  | .unsupportedArity _ _ _ => "UnsupportedArity"
  | .argumentType _ _ _ _ => "ArgumentType"
  | .returnType _ _ _ => "ReturnType"
  | .suspension _ _ => "Suspension"
  | .ambientType _ _ _ _ => "AmbientType"
  | .missingSlot _ _ => "MissingSlot"
  | .missingLogic _ => "MissingLogic"
  | .missingRenderTarget _ => "MissingRenderTarget"

/-- A failed compilation. -/
def compileError (e : CompileError) : Json :=
  let place := ("endpoint", Json.text e.endpoint)
  match e with
  | .validation _ errors =>
    error "Validation" e.message []
      [place, ("errors", Json.texts (errors.map Violation.message))]
  | .routeMismatch _ p t =>
    error "RouteParameterMismatch" e.message []
      [place, ("parameter", .text p), ("template", .text t)]
  | .synthesis _ f =>
    error "Synthesis" e.message e.cause?.toList [place, ("failure", .text (failureName f))]

/-- The name of how grave an event is. -/
def levelName : EventLevel → String
  | .debug => "DEBUG"
  | .info => "INFO"
  | .warn => "WARN"

/-- An event of an endpoint. -/
def event (endpoint : String) (e : Event) : Json :=
  .object
    [("level", .text (levelName e.level)), ("endpoint", .text endpoint), ("message", .text e.message),
      ("fields", .array (e.fields.map fun (k, v) => Json.texts [k, v]))]

/-- Where an argument comes from. -/
def argument : ArgumentSource → String
  | .slot n => "slot " ++ toString n
  | .ambient k => "ambient " ++ k.name
  | .previous => "previous"

/-- A step call. -/
def stepCall (c : StepCall) : Json :=
  .object
    [("kind", .text c.kind.name), ("key", text? (c.key?.map HandlerKey.text)),
      ("suspends", .bool c.suspends), ("args", Json.texts (c.args.map argument)),
      ("returns", text? (c.returns?.map ValueType.name)), ("render", target? c.render?)]

section

variable {σ : Type}

/-- A marker. -/
def marker (m : Marker σ) : Json := .object [("debug", .text m.debug), ("name", text? m.name?)]

/-- A binding. -/
def binding (b : Binding σ) : List (String × Json) :=
  [("display", .text b.display), ("debug", .text b.debug), ("kind", .text b.kind.name),
    ("name", text? b.name?), ("type", .text b.type.name), ("method_level", .bool b.isMethodLevel),
    ("default", value? b.default?), ("discriminator", .text b.identity.discriminator),
    ("marker", Json.ofOption marker (Marker.ofSource? b.source))]

/-- A parameter. -/
def parameter (p : Parameter σ) : Json :=
  .object
    [("position", .nat p.position), ("name", .text p.name), ("marker", marker p.marker),
      ("type", .text p.type.name), ("optional", .bool p.optional), ("default", value? p.default?),
      ("binding", .text p.binding.display)]

/-- A compiled endpoint. -/
def endpoint (e : Endpoint σ) : Json :=
  let u := e.unit
  .object
    [("id", .text e.id), ("name", .text e.name), ("action_method_name", .text actionMethodName),
      ("type_name", .text u.typeName), ("base", .text u.base),
      ("class_annotations", tags u.classTags), ("annotations", tags u.tags),
      ("method_name", .text actionMethodName), ("http_method", .text u.httpMethod),
      ("parameters", .array (u.parameters.map parameter)), ("returns", .text u.returns.name),
      ("strategy", .text u.strategy.name), ("suspends", .bool u.suspends),
      ("body", .array (u.body.map stepCall)), ("final_render", target? u.finalRender?),
      ("handler_keys", .nat u.handlerKeys.length)]

/-- The outcome of a compilation. -/
def compiled : Except CompileError (Endpoint σ) → Json
  | .ok e => endpoint e
  | .error e => compileError e

/-- A step of an action. -/
def step (s : Step σ) : Json :=
  .object
    [("kind", .text s.kind.name), ("is_render", .bool s.kind.isRender),
      ("invokes_logic", .bool s.kind.invokesLogic),
      ("bindings", Json.texts (s.bindings.map Binding.display)),
      ("return_type", text? (s.returnType?.map ValueType.name)), ("suspends", .bool s.suspends),
      ("logic", .bool s.logic?.isSome), ("view_target", text? s.viewTarget?),
      ("component_ref", text? s.component?), ("render_target", target? s.renderTarget?)]

/-- An action with what is wrong with it and its plan, and the slots of some bindings. -/
def action (a : Action σ) (probe : List (Binding σ)) : Json :=
  let plan := a.plan
  let errors := a.violations.map Violation.message
  let stray := a.strayRouteParameter?.map fun p => CompileError.mismatchMessage a.display p a.route
  .object
    [("display", .text a.display), ("path", .text a.path), ("method", .text a.method),
      ("id", text? a.id?), ("title", text? a.title?), ("description", text? a.description?),
      ("group", text? a.group?), ("ignore_api", .bool a.ignoreApi), ("parent", text? a.parent?),
      ("annotations", tags a.tags), ("class_annotations", tags a.classTags),
      ("view_target", target? a.view?), ("final_render_target", target? a.finalRenderTarget?),
      ("steps", .array (a.steps.map step)),
      ("all_bindings", .array (a.allBindings.map fun (n, b) => .array [.nat n, .text b.display])),
      ("valid", .bool a.isValid), ("errors", Json.texts errors),
      ("validation_message",
        if a.isValid then .null else .text (Action.invalidMessage a.display errors)),
      ("route_check", text? stray),
      ("plan", .array (plan.ordered.map fun p => .array [.nat p.slot, .text p.binding.display])),
      ("plan_len", .nat plan.params.length), ("plan_empty", .bool plan.params.isEmpty),
      ("slots", .array (probe.map fun b => Json.ofOption Json.nat (plan.slotOf? b)))]

end

end HandlerChain.Report
