import HandlerChain.Samples.Bench

/-!
# Sample handlers

Small handlers of every shape: without arguments, on single values, on services, on the surroundings,
and with up to eight arguments. Each notes its name before it works.

## Main Definitions

* `Samples.handlers` lists them by name.
* `Samples.wide` takes more arguments than any step may.
* `Samples.logic?` finds one by name; the name of a suspending variant ends in an exclamation mark.
-/

namespace HandlerChain.Samples

/-- A handler by its name. -/
abbrev Named := String × Logic Bench

/-- A handler that works on the bench. -/
def withBench (name : String) (params : List Ty) (returns : Ty)
    (f : Args params → Bench → returns.Denote × Bench) : Named :=
  (name, ⟨params, returns, false, fun args b => f args (b.note name)⟩)

/-- A handler that computes its result from its arguments alone. -/
def computing (name : String) (params : List Ty) (returns : Ty)
    (f : Args params → returns.Denote) : Named :=
  withBench name params returns fun args b => (f args, b)

/-- A handler without arguments. -/
def constant (name : String) (returns : Ty) (v : returns.Denote) : Named :=
  computing name [] returns fun _ => v

/-- A handler that gives its argument back. -/
def identity (name : String) (t : Ty) : Named := computing ("id_" ++ name) [t] t fun (x, _) => x

/-- An integer of a kind. -/
def int (k : IntKind) (n : Int) : k.Number := IntKind.wrap k n

/-- Texts with another between them. -/
def barredBy (bar : String) (texts : List String) : String := bar.intercalate texts

/-- Texts with bars between them. -/
def barred (texts : List String) : String := barredBy "|" texts

/-- The value of the handler `obj`. -/
def sampleObject : Json :=
  .object [("name", .text "Ada"),
    ("nested", .object [("a", .float (.ofDecimal false 15 (-1))),
      ("b", .array [.int 1, .null, .text "x"])])]

/-- The handlers without arguments. -/
def constants (s : Space) : List Named :=
  [ constant "noop" .unit (),
    constant "one" (.int .u8) (int .u8 1),
    constant "pong" .staticText "pong",
    constant "hello" .text "hello",
    constant "empty_text" .text "",
    constant "list" (.list (.int .u32)) [int .u32 1, int .u32 2, int .u32 3],
    constant "none" (.option .text) none,
    constant "some" (.option .text) (some "x"),
    constant "nan" .double .nan,
    constant "half" .single (.ofDecimal false 5 (-1)),
    constant "big" (.int .u128) (int .u128 (Nat.pow 2 128 - 1)),
    constant "big_ok" (.int .u128) (int .u128 (Nat.pow 2 64 - 1)),
    constant "no_ser" s.noSer (),
    constant "pair_map" Space.pairMap Space.pairMapValue,
    constant "int_map" Space.intMap
      [(int .i32 (-1), true), (int .i32 2, true), (int .i32 10, false)],
    constant "obj" .json sampleObject,
    constant "created" s.created (int .u64 7, "ada", ()) ]

/-- The handlers that give their argument back. -/
def identities (s : Space) : List Named :=
  [ identity "i8" (.int .i8), identity "i16" (.int .i16), identity "i32" (.int .i32),
    identity "i64" (.int .i64), identity "i128" (.int .i128), identity "isize" (.int .isize),
    identity "u8" (.int .u8), identity "u16" (.int .u16), identity "u32" (.int .u32),
    identity "u64" (.int .u64), identity "u128" (.int .u128), identity "usize" (.int .usize),
    identity "f32" .single, identity "f64" .double, identity "bool" .bool, identity "char" .char,
    identity "string" .text, identity "color" s.color, identity "json" .json,
    identity "vec" (.list (.int .u32)), identity "strings" (.list .text),
    identity "opt" (.option .text), identity "user" s.newUser, identity "pairs" Space.pairs,
    identity "map" Space.textMap, identity "intmap" Space.intMap ]

/-- The handlers on one value. -/
def unaries (s : Space) : List Named :=
  [ computing "show_i32" [.int .i32] .text fun (n, _) => toString n.val,
    computing "eq_i32" [.int .i32] .text fun (n, _) => "=" ++ toString n.val,
    computing "double" [.int .i32] (.int .i32) fun (n, _) => int .i32 (n.val * 2),
    computing "inc_u8" [.int .u8] (.int .u8) fun (n, _) => int .u8 (n.val + 1),
    computing "not" [.bool] .bool fun (b, _) => !b,
    computing "upper" [.text] .text fun (t, _) => Text.upperAscii t,
    computing "byte_len" [.text] (.int .usize) fun (t, _) => int .usize (String.utf8ByteSize t),
    computing "count" [.list (.int .u32)] (.int .usize) fun (l, _) => int .usize (List.length l),
    computing "user_name" [s.newUser] .text fun ((name, _, _), _) => name,
    computing "make_created" [s.newUser] s.created fun ((name, age, _), _) =>
      (int .u64 (IntKind.Number.val age), name, ()),
    computing "login_user" [s.login] .text fun ((user, _), _) => user,
    withBench "audit" [.int .i32] .unit fun (n, _) b => ((), b.note ("audit=" ++ toString n.val)),
    withBench "audit_text" [.text] .unit fun (t, _) b => ((), b.note (String.append "audit_text=" t)) ]

/-- The handlers on services. -/
def serving (s : Space) : List Named :=
  [ withBench "bump" [s.counter] (.int .i64) fun (ref, _) b => b.bump ref (int .i64 1),
    withBench "bump_by" [s.counter, .int .i64] (.int .i64) fun (ref, n, _) b => b.bump ref n,
    withBench "greet" [s.greeter, .text] .text fun (ref, name, _) b =>
      (barredBy ", " [b.greeting ref, name] ++ "!", b) ]

/-- The lines of header fields, sorted. -/
def headerLines (h : Http.Headers) : List String :=
  (h.fields.map fun (name, value) => name ++ ": " ++ Text.Utf8.decodeLossy value).mergeSort
    (fun a b => decide (a ≤ b))

/-- What a request holds. -/
def describeRequest (r : Http.RequestContext) : Json :=
  .sorted
    [ ("method", .text r.method),
      ("path", .text r.uri.path),
      ("query", Json.ofOption .text r.uri.query),
      ("headers", .nat r.headers.size),
      ("route_values", .sorted (r.routeValues.map fun (k, v) => (k, .text v))) ]

/-- The handlers on the surroundings. -/
def surroundings : List Named :=
  [ computing "method_of" [.ambient .method] .text fun (m, _) => m,
    computing "uri_of" [.ambient .uri] .text fun (u, _) => Http.Uri.text u,
    computing "headers_of" [.ambient .headers] (.list .text) fun (h, _) => headerLines h,
    computing "request_of" [.ambient .request] .json fun (r, _) => describeRequest r,
    computing "services_of" [.ambient .services] (.int .usize) fun (p, _) =>
      int .usize (Services.size p) ]

/-- The handlers on several values. -/
def manyfold : List Named :=
  [ computing "add" [.int .i32, .int .i32] (.int .i32) fun (a, b, _) => int .i32 (a.val + b.val),
    computing "mul" [.int .i32, .int .i32] (.int .i32) fun (a, b, _) => int .i32 (a.val * b.val),
    computing "sub" [.int .i32, .int .i32] (.int .i32) fun (a, b, _) => int .i32 (a.val - b.val),
    computing "page" [.int .u32, .int .u32] (.list (.int .u32)) fun (a, b, _) => [a, b],
    computing "tag" [.text, .int .i32] .text fun (t, n, _) => barredBy "#" [t, toString n.val],
    computing "cat2" [.text, .text] .text fun (a, b, _) => barred [a, b],
    computing "cat3" [.text, .text, .text] .text fun (a, b, c, _) => barred [a, b, c],
    computing "cat4" [.text, .text, .text, .text] .text fun (a, b, c, d, _) => barred [a, b, c, d],
    computing "cat5" [.text, .text, .text, .text, .text] .text fun (a, b, c, d, e, _) =>
      barred [a, b, c, d, e],
    computing "cat6" [.text, .text, .text, .text, .text, .text] .text fun (a, b, c, d, e, f, _) =>
      barred [a, b, c, d, e, f],
    computing "cat7" [.text, .text, .text, .text, .text, .text, .text] .text
      fun (a, b, c, d, e, f, g, _) => barred [a, b, c, d, e, f, g],
    computing "mixed8" [.int .i8, .int .u8, .int .i16, .int .u16, .int .i32, .int .u32, .int .i64,
        .int .u64] .text
      fun (a, b, c, d, e, f, g, h, _) =>
        barred [toString a.val, toString b.val, toString c.val, toString d.val, toString e.val,
          toString f.val, toString g.val, toString h.val] ]

/-- All handlers by name. -/
def handlers (s : Space) : List Named :=
  constants s ++ identities s ++ unaries s ++ serving s ++ surroundings ++ manyfold

/-- A handler with more parameters than a step may have arguments; it notes nothing. -/
def wide : Logic Bench where
  params := List.replicate (maxArity + 1) (.int .u8)
  returns := .int .u8
  suspends := false
  run _ b := (int .u8 9, b)

/-- Calls a handler; the one that is too wide answers whatever it is called with. -/
def call (name : String) (l : Logic Bench) (vs : List Dyn) (b : Bench) :
    Except CallError (Reply Bench × Bench) :=
  if name = "nine" then .ok (.ready ⟨.int .u8, int .u8 9⟩, b) else l.call vs b

/-- The variant of a handler that suspends. -/
def suspending (l : Logic Bench) : Logic Bench := { l with suspends := true }

/-- A handler by name. -/
def handler? (s : Space) (name : String) : Option (Logic Bench) := (handlers s).lookup name

/-- A handler, its suspending variant, or the one that is too wide, by name. -/
def logic? (s : Space) (name : String) : Option (Logic Bench) :=
  if name = "nine" then some wide
  else if name.toList.getLast? = some '!' then
    (handler? s (String.ofList name.toList.dropLast)).map suspending
  else handler? s name

end HandlerChain.Samples
