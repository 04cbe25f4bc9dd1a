import HandlerChain.Value.FromJson

/-!
# Values from form data

The reading of a value of a known type from the pairs of a form. A record or a map takes the pairs as
its members; a list takes each pair as an item of two texts.

## Main Definitions

* `Ty.ofFormText` reads a value from one name or value of a form.
* `Ty.ofPairs` reads a value from all pairs.
* `Ty.ofForm` reads a value from the text of a form.
-/

namespace HandlerChain

open Decode (Found Mismatch)

namespace Ty

/-- Reads a value from one name or value of a form. -/
def ofFormText : (t : Ty) → String → Except Mismatch t.Denote
  | int k, s =>
    if k.isWide then .error (.custom (k.name ++ " is not supported"))
    else (k.parse s).mapError fun e => .custom e.message
  | single, s => (Binary.parse .single s).mapError .custom
  | double, s => (Binary.parse .double s).mapError .custom
  | bool, s => (ofText bool s).mapError .custom
  | char, s =>
    match s.toList with
    | [c] => .ok c
    | _ => .error (.wrongValue (.text s) "a character")
  | text, s => .ok s
  | staticText, s => .ok s
  | choice _ _ _, s => .ok s
  | uuid, s => (Uuid.parse s).mapError fun e => .custom ("UUID parsing failed: " ++ e.message)
  | json, s => .ok (.text s)
  | option t, s => (ofFormText t s).map some
  | t, s => .error (.wrongType (.text s) t.expectation)

/-- Applies a reading to the items in order, up to the first error. -/
def readAll {α β : Type} (f : α → Except Mismatch β) : List α → Except Mismatch (List β)
  | [] => .ok []
  | a :: rest =>
    match f a with
    | .error e => .error e
    | .ok b => (readAll f rest).map (b :: ·)

/-- Reads a value from a pair, which counts as a list of two texts. -/
def ofPair : (t : Ty) → String × String → Except Mismatch t.Denote
  | pair a b, (x, y) =>
    match ofFormText a x with
    | .error e => .error e
    | .ok x => (ofFormText b y).map fun y => (x, y)
  | list t, (x, y) => readAll (ofFormText t) [x, y]
  | json, (x, y) => .ok (.array [.text x, .text y])
  | t, _ => .error (.wrongType .sequence t.expectation)

end Ty

namespace Fields

/-- Reads the value of a known field from its text. -/
def fieldOfText : Fields → String → String → Option (Except Mismatch Dyn)
  | nil, _, _ => none
  | cons label t rest, key, s =>
    if key = label then some ((t.ofFormText s).map fun v => ⟨t, v⟩) else rest.fieldOfText key s
  | blank label rest, key, s =>
    if key = label then some (.ok ⟨.text, s⟩) else rest.fieldOfText key s

/-- Reads the known fields among the pairs, each at most once. -/
def gather (fs : Fields) : List (String × Dyn) → List (String × String) →
    Except Mismatch (List (String × Dyn))
  | got, [] => .ok got
  | got, (key, s) :: rest =>
    match fs.fieldOfText key s with
    | none => gather fs got rest
    | some value =>
      if (got.lookup key).isSome then .error (.duplicateField key)
      else match value with
        | .error e => .error e
        | .ok v => gather fs ((key, v) :: got) rest

end Fields

namespace Ty

/-- Reads a value from the pairs of a form. A choice is a text in a wrapping of its own, and no pairs are
the wrapping. -/
def ofPairs : (t : Ty) → List (String × String) → Except Mismatch t.Denote
  | list t, pairs => readAll t.ofPair pairs
  | map k v, pairs => readAll (fun (x, y) =>
      match ofFormText k x with
      | .error e => .error e
      | .ok x => (ofFormText v y).map fun y => (x, y)) pairs
  | record _ fs, pairs => (fs.gather [] pairs).bind fs.assemble
  | json, pairs => .ok (.sorted (pairs.map fun p => (p.1, .text p.2)))
  | unit, pairs =>
    if pairs.isEmpty then .ok () else .error (.wrongLength pairs.length "0 elements in map")
  | int k, _ =>
    if k.isWide then .error (.custom (k.name ++ " is not supported"))
    else .error (.wrongType .map k.name)
  | choice name _ _, _ => .error (.wrongType .map ("tuple struct " ++ shorten name))
  | t, _ => .error (.wrongType .map t.expectation)

/-- The value of a type that the bytes are the form of. -/
def ofForm (t : Ty) (bytes : List UInt8) : Except String t.Denote :=
  (ofPairs t (Http.Form.parse bytes)).mapError (Mismatch.message .usual)

end Ty

end HandlerChain
