import HandlerChain.Action.Builder
import HandlerChain.Json.Access
import HandlerChain.Samples.Handlers
import HandlerChain.Samples.Surroundings
import HandlerChain.Unit.Compiler
import HandlerChain.Value.FromForm

/-!
# Scripts

Descriptions in JSON of actions over the sample handlers, and of what they are called with.

## Main Definitions

* `Script` is a computation that may put services on the bench, or refuse a description.
* `Script.value` reads a value under the code of its type, `Script.binding` a binding and
  `Script.action` an action.
* `Script.services`, `Script.views` and `Script.host` read the surroundings of a call.
* `Script.compile` compiles an action as its description says.
-/

namespace HandlerChain.Samples

/-- A computation that may put services on the bench. It refuses a description under the code of what it cannot
make. -/
abbrev Script := ExceptT String (StateM Bench)

namespace Script

/-- Puts a greeting on the bench. -/
def putGreeting (text : String) : Script Nat := modifyGet fun b => b.addGreeting text

/-- Puts a counter on the bench. -/
def putCounter (n : Int) : Script Nat := modifyGet fun b => b.addCounter (IntKind.wrap .i64 n)

section

variable (s : Space)

/-- The types by code. -/
def types : List (String × Ty) :=
  [ ("i8", .int .i8), ("i16", .int .i16), ("i32", .int .i32), ("i64", .int .i64),
    ("i128", .int .i128), ("isize", .int .isize), ("u8", .int .u8), ("u16", .int .u16),
    ("u32", .int .u32), ("u64", .int .u64), ("u128", .int .u128), ("usize", .int .usize),
    ("f32", .single), ("f64", .double), ("bool", .bool), ("char", .char), ("String", .text),
    ("Color", s.color), ("Uuid", .uuid), ("unit", .unit), ("Vec<u32>", .list (.int .u32)),
    ("Vec<String>", .list .text), ("Option<String>", .option .text), ("Json", .json),
    ("NewUser", s.newUser), ("Login", s.login), ("Pairs", Space.pairs), ("Map", Space.textMap),
    ("IntMap", Space.intMap), ("str", .staticText), ("Created", s.created), ("NoSer", s.noSer),
    ("PairMap", Space.pairMap), ("Arc<Greeter>", s.greeter), ("Arc<Counter>", s.counter),
    ("Method", .ambient .method), ("Uri", .ambient .uri), ("HeaderMap", .ambient .headers),
    ("RequestContext", .ambient .request), ("ServiceProvider", .ambient .services) ]

/-- The type of a code. -/
def type (code : String) : Ty := ((types s).lookup code).getD .unit

/-- The description of a type: its code, behind "of:" for a type whose values are not encoded. -/
def valueType (code : String) : ValueType :=
  match code.toList with
  | 'o' :: 'f' :: ':' :: rest => .plain (type s (String.ofList rest))
  | _ => .encoded (type s code)

/-- A value that was read, or the empty value. -/
def orUnit (t : Ty) (r : Except String t.Denote) : Dyn :=
  match r with
  | .ok v => ⟨t, v⟩
  | .error _ => .unit

/-- A value of a type from its JSON form; numbers may be written as texts. -/
def valueOf (t : Ty) (v : Json) : Script Dyn :=
  match t, v with
  | .service n, v =>
    if n = s.greeterName then do
      let ref ← putGreeting (v.text?.getD "")
      pure ⟨.service n, ref⟩
    else do
      let ref ← putCounter (v.int?.getD 0)
      pure ⟨.service n, ref⟩
  | .ambient .method, v => pure ⟨.ambient .method, v.text?.getD "GET"⟩
  | .ambient .uri, v => pure ⟨.ambient .uri,
      match Http.Uri.parse (v.text?.getD "/") with
      | .ok u => u
      | .error _ => (default : Http.Uri)⟩
  | .ambient .headers, _ => pure ⟨.ambient .headers, (default : Http.Headers)⟩
  | .ambient .request, _ => pure ⟨.ambient .request, (default : Http.RequestContext)⟩
  | .ambient .services, _ => pure ⟨.ambient .services, Services.empty⟩
  | .refusing n r, _ => pure ⟨.refusing n r, ()⟩
  | .map (.pair (.int .i32) (.int .i32)) .bool, _ => pure ⟨Space.pairMap, Space.pairMapValue⟩
  | .int k, .text x => pure (orUnit (.int k) (Ty.ofText (.int k) x))
  | .single, .text x => pure (orUnit .single (Ty.ofText .single x))
  | .double, .text x => pure (orUnit .double (Ty.ofText .double x))
  | t, v => pure (orUnit t (t.ofJson (Text.Utf8.encode v.render)))

/-- A value under the code of its type. -/
def value (j : Json) : Script Dyn := valueOf s (type s (j.textAt "type")) (j.member "value")

/-- The kind of surroundings of a name. -/
def ambientKind (name : String) : AmbientKind :=
  match name with
  | "Method" => .method
  | "Uri" => .uri
  | "Headers" => .headers
  | "Request" => .request
  | _ => .services

/-- A binding without its default. -/
def bareBinding (j : Json) : Binding Bench :=
  let name := j.textAt "name"
  let t := type s (j.textAt "type")
  match j.textAt "from" with
  | "route" => .route t name
  | "query" => .query t name
  | "header" => .header t name
  | "form_value" => .formValue t name
  | "body" => .body t
  | "form" => .form t
  | "service" => .service (if name = "greeter" then s.greeterName else s.counterName)
  | "custom" =>
    match resolver? s name with
    | some r => .custom r
    | none => .previous .unit
  | "previous" => .previous t
  | _ => .ambient (ambientKind name)

/-- A binding. A default has to be data: a service cannot be one. -/
def binding (j : Json) : Script (Binding Bench) :=
  match j.at? "default" with
  | none => pure (bareBinding s j)
  | some d =>
    match type s (d.textAt "type") with
    | .service _ => throw (d.textAt "type")
    | _ => (bareBinding s j).withDefault <$> value s d

/-- Bindings in order. -/
def bindings (js : List Json) : Script (List (Binding Bench)) := js.mapM (binding s)

/-- A remark. -/
def tag (j : Json) : Tag :=
  let bare : Tag :=
    match j.at? "explorer" with
    | some e => .explorer (e.textAt? "group") (e.flagAt "ignore")
    | none => .custom (j.textAt "custom") []
  (j.itemsAt "props").foldl (fun t p =>
    match p.items with
    | [.text key, v] => t.withProperty key v
    | _ => t) bare

/-- The kind of rendering of a name. -/
def renderKind (name : String) : RenderKind :=
  match name with
  | "View" => .view
  | "PartialView" => .partialView
  | _ => .component

/-- What renders a result. -/
def target (j : Json) : ViewTarget := ⟨renderKind (j.textAt "kind"), j.textAt "target"⟩

/-- The kind of step of a name. -/
def stepKind (name : String) : StepKind :=
  match name with
  | "SideEffect" => .sideEffect
  | "ViewRender" => .viewRender
  | "PartialViewRender" => .partialViewRender
  | "ComponentRender" => .componentRender
  | "PassThroughTarget" => .passThroughTarget
  | _ => .function

/-- A handler by name. -/
def logic (name : String) : Logic Bench := (logic? s name).getD wide

/-- A change of one field, if the description has a member for it. -/
def change {α : Type} (p : Json) (key : String) (f : Json → α → α) (a : α) : α :=
  match p.get? key with
  | some v => f v a
  | none => a

/-- A step with the changes of a patch. -/
def patch (p : Json) (step : Step Bench) : Script (Step Bench) := do
  let step := change p "kind" (fun v st =>
    match v.text? with
    | some k => { st with kind := stepKind k }
    | none => st) step
  let step := change p "return_type" (fun v st =>
    { st with returnType? := v.text?.map (valueType s) }) step
  let step := change p "suspends" (fun v st =>
    { st with suspends := v.bool?.getD st.suspends }) step
  let step := change p "logic" (fun v st => { st with logic? := v.text?.map (logic s) }) step
  let step := change p "view_target" (fun v st => { st with viewTarget? := v.text? }) step
  let step := change p "component_ref" (fun v st => { st with component? := v.text? }) step
  match p.at? "bindings" with
  | none => pure step
  | some js =>
    let bs ← bindings s js.items
    pure { step with bindings := bs }

/-- An action under construction with one more step. -/
def step (b : Builder Bench) (j : Json) : Script (Builder Bench) := do
  let b := (← bindings s (j.itemsAt "using")).foldl Builder.withBinding b
  let l := logic s (j.textAt "fn")
  let target := j.textAt "target"
  let b := match j.textAt "do" with
    | "to" => b.handledBy l
    | "to_async" => b.handledBy (suspending l)
    | "side_effect" => b.sideEffect l
    | "side_effect_async" => b.sideEffect (suspending l)
    | "to_target" => b.toTarget target l
    | "view" => b.render ⟨.view, target⟩
    | "partial" => b.render ⟨.partialView, target⟩
    | _ => b.render ⟨.component, target⟩
  match j.at? "patch", b.action.steps.getLast? with
  | some p, some last =>
    let last ← patch s p last
    pure { b with action := { b.action with steps := b.action.steps.dropLast ++ [last] } }
  | _, _ => pure b

/-- A change of an action under construction, if the description has a text for it. -/
def withText (j : Json) (key : String) (f : Builder Bench → String → Builder Bench)
    (b : Builder Bench) : Builder Bench :=
  match j.textAt? key with
  | some text => f b text
  | none => b

/-- An action. -/
def action (j : Json) : Script (Action Bench) := do
  let b := Builder.start (j.textAt "method") (j.textAt "route")
  let b := withText j "id" Builder.id b
  let b := withText j "title" Builder.title b
  let b := withText j "description" Builder.description b
  let b := withText j "group" Builder.groupBy b
  let b := withText j "parent" Builder.inherit b
  let b := if j.flagAt "ignore_api" then b.ignoreApi else b
  let b := ((j.itemsAt "annotations").map tag).foldl Builder.tag b
  let b := ((j.itemsAt "class_annotations").map tag).foldl Builder.tagClass b
  let b ← (j.itemsAt "steps").foldlM (step s) b
  let b := (← bindings s (j.itemsAt "dangling")).foldl Builder.withBinding b
  pure (match j.at? "view" with
    | some t => (b.withView (target t)).build
    | none => b.build)

/-- Views in order, a later one of a name in place of an earlier one. -/
def views (js : List Json) : Views :=
  js.foldl (fun v j =>
    match view? (j.textAt "mode") with
    | some f => v.insert (j.textAt "target") f
    | none => v) Views.none

/-- Services in order, added to some; a later one of a type in place of an earlier one. -/
def servicesFrom (p : Services) : List Json → Script Services
  | [] => pure p
  | j :: rest => do
    let p ← match j.textAt? "greeter" with
      | some g => p.insert s.greeterName <$> putGreeting g
      | none => pure p
    let p ← match (j.at? "counter").bind Json.int? with
      | some n => p.insert s.counterName <$> putCounter n
      | none => pure p
    servicesFrom p rest

/-- Services in order. -/
def services (js : List Json) : Script Services := servicesFrom s .empty js

/-- A request target that may be absent. -/
def uri? (text : Option String) : Option Http.Uri :=
  match text.map Http.Uri.parse with
  | some (.ok u) => some u
  | _ => none

/-- The surroundings of a call: detached, or with what the description names. -/
def host (j : Option Json) : Script (Host Bench) :=
  match j with
  | none => pure (.detached .empty)
  | some h => do
    let p ← services s (h.itemsAt "services")
    if h.flagAt "detached" then pure (.detached p)
    else
      pure <| .constant
        (fun
          | .method => (h.textAt? "method").map fun m => ⟨.ambient .method, m⟩
          | .uri => (uri? (h.textAt? "uri")).map fun u => ⟨.ambient .uri, u⟩
          | .services => if h.flagAt "ambient_services" then some ⟨.ambient .services, p⟩ else none
          | _ => none)
        (views (h.itemsAt "views")).render

/-- Arguments by slot; a null leaves its slot empty. -/
def arguments (args : Arguments) (slot : Nat) : List Json → Script Arguments
  | [] => pure args
  | .null :: rest => arguments args (slot + 1) rest
  | j :: rest => do
    let v ← value s j
    arguments (args.set slot v) (slot + 1) rest

/-- Calls a unit as a description says, on a clean trace. -/
def call (registry : Registry Bench) (u : DispatchUnit Bench) (j : Json) :
    Script (Except DispatchError Outcome × List String) := do
  let args ← arguments s (.withLength 0) 1 (j.itemsAt "args")
  let host ← host s (j.at? "host")
  let b := { (← get) with trace := [] }
  let (r, b) :=
    if j.flagAt "immediate" then u.invokeImmediate registry args host b
    else u.invoke registry args host b
  set b
  pure (r, b.trace)

/-- Where an argument comes from: a slot, the result before, or the surroundings. -/
def argumentSource : Json → ArgumentSource
  | .text "previous" => .previous
  | .text k => .ambient (ambientKind k)
  | j => .slot (j.int?.getD 0).toNat

/-- A key that belongs to no registry that is filled by counting. -/
def foreignKey : HandlerKey := ⟨Nat.pow 2 127⟩

/-- A step call with the changes of a description. -/
def editCall (p : Json) (c : StepCall) : StepCall :=
  let c := match p.textAt? "key" with
    | some "none" => { c with key? := none }
    | some _ => { c with key? := some foreignKey }
    | none => c
  let c := match p.textAt? "returns" with
    | some "none" => { c with returns? := none }
    | some d => { c with returns? := some (valueType s d) }
    | none => c
  match p.at? "args" with
  | some xs => { c with args := xs.items.map argumentSource }
  | none => c

/-- A unit with the changes of a description. -/
def editUnit (p : Json) (u : DispatchUnit Bench) : DispatchUnit Bench :=
  let u := match p.textAt? "strategy" with
    | some "Direct" => { u with strategy := .direct }
    | some _ => { u with strategy := .sequenced }
    | none => u
  let u := match p.textAt? "returns" with
    | some "Immediate" => { u with returns := .immediate }
    | some _ => { u with returns := .suspending }
    | none => u
  let u := if p.flagAt "clear_body" then { u with body := [] } else u
  (p.itemsAt "body").foldl (fun u e =>
    { u with body := u.body.modify (e.natAt "step") (editCall s e) }) u

/-- Compiles an action. Unchecked, its unit is only synthesized, with the slots of an action that may
be another; then the unit is changed as the description says. -/
def compile (config : CompilerConfig) (w : Workshop Bench) (j : Json) (a slots : Action Bench) :
    Except CompileError (Endpoint Bench) × Workshop Bench × List Event :=
  let (r, w, events) :=
    if j.flagAt "unchecked" then
      let (r, w, events) := synthesize config w a slots.plan
      (r.mapError (.synthesis a.display), w, events)
    else HandlerChain.compile config w a
  match j.at? "unit" with
  | some p => (r.map fun e => { e with unit := editUnit s p e.unit }, w, events)
  | none => (r, w, events)

/-- Compiles the actions of descriptions in order. -/
def compileAll (config : CompilerConfig) (w : Workshop Bench) :
    List Json → Script (List (Except CompileError (Endpoint Bench)) × Workshop Bench)
  | [] => pure ([], w)
  | j :: rest => do
    let a ← action s j
    let slots ← match j.at? "plan_of" with
      | some d => action s d
      | none => pure a
    let (r, w, _) := compile s config w j a slots
    let (rs, w) ← compileAll config w rest
    pure (r :: rs, w)

end

end Script

end HandlerChain.Samples
