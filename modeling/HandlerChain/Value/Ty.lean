import HandlerChain.Http.Message
import HandlerChain.Json.Basic
import HandlerChain.Value.IntKind
import HandlerChain.Value.Uuid

/-!
# Types of values

The types of what handlers take and return, as a closed universe. Each type denotes a Lean type, so a
value of a type cannot be anything else. Two types are the same exactly if they are equal here.

## Main Definitions

* `Ty` is a type, `Ty.Denote` its values.
* `Ty.name` is the full name of a type, `Ty.shortName` the last part of it.
* `Ty.primitive` is the kind of JSON value that documents a type.
* `Services` maps service types to references into the state that handlers share.
-/

namespace HandlerChain

/-- What a handler may ask of its surroundings. -/
inductive AmbientKind where
  | method | uri | headers | request | services
  deriving DecidableEq, Repr

mutual

/-- A type of values. -/
inductive Ty where
  | int (kind : IntKind)
  | single
  | double
  | bool
  | char
  | text
  | staticText
  | uuid
  | unit
  | json
  | list (item : Ty)
  | option (item : Ty)
  | pair (first second : Ty)
  | map (key value : Ty)
  /-- A text that is one of some words when it is read from text. -/
  | choice (name what : String) (words : List String)
  | record (name : String) (fields : Fields)
  /-- A type without data whose encoding is refused with a reason. -/
  | refusing (name reason : String)
  /-- A service that handlers share. -/
  | service (name : String)
  | ambient (kind : AmbientKind)
  deriving DecidableEq, Repr

/-- The fields of a record, in order. -/
inductive Fields where
  | nil
  | cons (label : String) (type : Ty) (rest : Fields)
  /-- A text that may be absent, and is empty then. -/
  | blank (label : String) (rest : Fields)
  deriving DecidableEq, Repr

end

/-- Services by the name of their type; each is a reference into the state that handlers share. -/
structure Services where
  entries : List (String × Nat)
  deriving DecidableEq, Repr, Inhabited

namespace Services

/-- No service. -/
def empty : Services := ⟨[]⟩

/-- The reference of a service. -/
def get? (s : Services) (name : String) : Option Nat := s.entries.lookup name

/-- Adds a service; one of the same type is replaced. -/
def insert (s : Services) (name : String) (ref : Nat) : Services :=
  ⟨(name, ref) :: s.entries.filter fun e => e.1 != name⟩

/-- The number of services. -/
def size (s : Services) : Nat := s.entries.length

end Services

/-- The values of a kind of surroundings. -/
def AmbientKind.Denote : AmbientKind → Type
  | .method => String
  | .uri => Http.Uri
  | .headers => Http.Headers
  | .request => Http.RequestContext
  | .services => Services

/-- The name of a kind of surroundings. -/
def AmbientKind.name : AmbientKind → String
  | .method => "Method"
  | .uri => "Uri"
  | .headers => "Headers"
  | .request => "Request"
  | .services => "Services"

/-- The full name of the type of a kind of surroundings. -/
def AmbientKind.typeName : AmbientKind → String
  | .method => "http::method::Method"
  | .uri => "http::uri::Uri"
  | .headers => "http::header::map::HeaderMap"
  | .request => "actionkit::binding::RequestContext"
  | .services => "actionkit::services::ServiceProvider"

mutual

/-- The values of a type. -/
def Ty.Denote : Ty → Type
  | .int k => k.Number
  | .single => Binary .single
  | .double => Binary .double
  | .bool => Bool
  | .char => Char
  | .text => String
  | .staticText => String
  | .uuid => Uuid
  | .unit => Unit
  | .json => Json
  | .list t => List t.Denote
  | .option t => Option t.Denote
  | .pair a b => a.Denote × b.Denote
  | .map k v => List (k.Denote × v.Denote)
  | .choice _ _ _ => String
  | .record _ fs => fs.Denote
  | .refusing _ _ => Unit
  | .service _ => Nat
  | .ambient k => k.Denote

/-- The values of some fields. -/
def Fields.Denote : Fields → Type
  | .nil => Unit
  | .cons _ t rest => t.Denote × rest.Denote
  | .blank _ rest => String × rest.Denote

end

namespace Fields

/-- The labels of the fields. -/
def labels : Fields → List String
  | nil => []
  | cons l _ rest => l :: rest.labels
  | blank l rest => l :: rest.labels

end Fields

namespace Ty

/-- The full name of a type. -/
def name : Ty → String
  | int k => k.name
  | single => "f32"
  | double => "f64"
  | bool => "bool"
  | char => "char"
  | text => "alloc::string::String"
  | staticText => "&str"
  | uuid => "uuid::Uuid"
  | unit => "()"
  | json => "serde_json::value::Value"
  | list t => "alloc::vec::Vec<" ++ t.name ++ ">"
  | option t => "core::option::Option<" ++ t.name ++ ">"
  | pair a b => "(" ++ a.name ++ ", " ++ b.name ++ ")"
  | map k v => "alloc::collections::btree::map::BTreeMap<" ++ k.name ++ ", " ++ v.name ++ ">"
  | choice n _ _ => n
  | record n _ => n
  | refusing n _ => n
  | service n => "alloc::sync::Arc<" ++ n ++ ">"
  | ambient k => k.typeName

/-- The part of a list behind the last pair of colons. -/
def lastSegment (acc : List Char) : List Char → List Char
  | [] => acc.reverse
  | ':' :: ':' :: rest => lastSegment [] rest
  | c :: rest => lastSegment (c :: acc) rest

/-- The last part of a name, without type arguments. -/
def shorten (name : String) : String :=
  String.ofList (lastSegment [] (name.toList.takeWhile (· ≠ '<')))

/-- The last part of the name of a type. -/
def shortName (t : Ty) : String := shorten t.name

/-- The kind of JSON value that documents a type of the given short name. -/
def primitiveOf (short : String) : String :=
  if ["i8", "i16", "i32", "i64", "i128", "isize", "u8", "u16", "u32", "u64", "u128", "usize"].contains
      short then "integer"
  else if ["f32", "f64"].contains short then "number"
  else if short == "bool" then "boolean"
  else if ["String", "str", "&str", "char", "Uuid"].contains short then "string"
  else "object"

/-- The kind of JSON value that documents a type. -/
def primitive (t : Ty) : String := primitiveOf t.shortName

end Ty

end HandlerChain
