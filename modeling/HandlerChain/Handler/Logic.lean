import HandlerChain.Value.Dyn

/-!
# Handler logic

Handlers are functions on typed arguments that read and change a shared state. They are called
through a list of values of any type, which is checked against the parameters first.

## Main Definitions

* `Args` are arguments of given types, `Args.ofList` checks a list of values against the types.
* `Logic` is a handler with its parameter types and result type.
* `Logic.call` calls a handler; the `Reply` of one that suspends is completed later.
-/

namespace HandlerChain

/-- The greatest number of arguments that a handler may take. -/
def maxArity : Nat := 8

/-- Arguments of given types. -/
def Args : List Ty → Type
  | [] => Unit
  | t :: ts => t.Denote × Args ts

/-- Why a handler cannot be called with some values. -/
inductive CallError where
  | arity (expected actual : Nat)
  | argumentType (position : Nat) (expected : String)
  deriving DecidableEq, Repr

/-- The wording of an error. -/
def CallError.message : CallError → String
  | arity expected actual =>
    "expected " ++ toString expected ++ " arguments, got " ++ toString actual
  | argumentType position expected =>
    "argument " ++ toString position ++ " is not a '" ++ expected ++ "'"

namespace Args

/-- Values as arguments of given types, of which the first is at `position`; there are as many values
as types. -/
def ofValues : (ts : List Ty) → Nat → List Dyn → Except CallError (Args ts)
  | [], _, _ => .ok ()
  | t :: _, position, [] => .error (.argumentType position t.name)
  | t :: ts, position, v :: vs =>
    match v.as? t with
    | none => .error (.argumentType position t.name)
    | some x => (ofValues ts (position + 1) vs).map fun xs => (x, xs)

/-- Values as arguments of given types. -/
def ofList (ts : List Ty) (vs : List Dyn) : Except CallError (Args ts) :=
  if vs.length = ts.length then ofValues ts 1 vs else .error (.arity ts.length vs.length)

/-- Arguments as values. -/
def toList : (ts : List Ty) → Args ts → List Dyn
  | [], _ => []
  | t :: ts, (x, xs) => ⟨t, x⟩ :: toList ts xs

end Args

/-- A handler that works on a state of type `σ`. One that suspends does nothing when it is called; its
work is done when the reply is completed. -/
structure Logic (σ : Type) where
  params : List Ty
  returns : Ty
  suspends : Bool
  run : Args params → σ → returns.Denote × σ

/-- What a call of a handler gives: its result, or work that has yet to be done. -/
inductive Reply (σ : Type) where
  | ready (value : Dyn)
  | pending (complete : σ → Dyn × σ)

namespace Logic

variable {σ : Type}

/-- The number of parameters. -/
def arity (l : Logic σ) : Nat := l.params.length

/-- The description of the result type. -/
def returnType (l : Logic σ) : ValueType := .encoded l.returns

/-- The descriptions of the parameter types. -/
def paramTypes (l : Logic σ) : List ValueType := l.params.map .plain

/-- The handler with its result as a value. -/
def complete (l : Logic σ) (args : Args l.params) (s : σ) : Dyn × σ :=
  let (v, s) := l.run args s
  (⟨l.returns, v⟩, s)

/-- Calls a handler with some values. -/
def call (l : Logic σ) (vs : List Dyn) (s : σ) : Except CallError (Reply σ × σ) :=
  match Args.ofList l.params vs with
  | .error e => .error e
  | .ok args =>
    if l.suspends then .ok (.pending (l.complete args), s)
    else
      let (v, s) := l.complete args s
      .ok (.ready v, s)

end Logic

end HandlerChain
