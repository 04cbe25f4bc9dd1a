import HandlerChain.Action.Definition

/-!
# Views

A view turns the JSON form of a result into a page.

## Main Definitions

* `RenderRequest` asks for a result to be rendered, `Rendered` is the page.
* `Views` are functions by name, `Views.render` renders with one of them.
* `ViewError` says why a result was not rendered.
-/

namespace HandlerChain

/-- A result that is to be rendered. -/
structure RenderRequest where
  kind : RenderKind
  target : String
  model : TypedValue

/-- A page. -/
structure Rendered where
  contentType : String
  body : String
  deriving DecidableEq, Repr

/-- A page in HTML. -/
def Rendered.html (body : String) : Rendered := ⟨"text/html; charset=utf-8", body⟩

/-- Why a result was not rendered. -/
inductive ViewError where
  | notFound (target : String)
  | render (target reason : String)
  | model (cause : EncodeError)
  deriving DecidableEq, Repr

/-- The wording of an error. -/
def ViewError.message : ViewError → String
  | notFound target => "view '" ++ target ++ "' is not registered"
  | render target reason => "rendering '" ++ target ++ "' failed: " ++ reason
  | model _ => "view model could not be encoded"

/-- Views by name; the first of a name counts. -/
structure Views where
  entries : List (String × (Json → Except String String))

namespace Views

/-- No view. -/
def none : Views := ⟨[]⟩

/-- The views with one more; one of the same name is replaced. -/
def insert (v : Views) (target : String) (f : Json → Except String String) : Views :=
  ⟨(target, f) :: v.entries.filter fun e => e.1 != target⟩

/-- Whether there is a view of a name. -/
def contains (v : Views) (target : String) : Bool := (v.entries.lookup target).isSome

/-- The names of the views, sorted. -/
def names (v : Views) : List String := (v.entries.map Prod.fst).mergeSort (fun a b => a ≤ b)

/-- Renders a result with the view that is asked for. -/
def render (v : Views) (r : RenderRequest) : Except ViewError Rendered :=
  match v.entries.lookup r.target with
  | .none => .error (.notFound r.target)
  | some f =>
    match r.model.encode with
    | .error e => .error (.model e)
    | .ok model =>
      match f model with
      | .error reason => .error (.render r.target reason)
      | .ok body => .ok (.html body)

end Views

end HandlerChain
