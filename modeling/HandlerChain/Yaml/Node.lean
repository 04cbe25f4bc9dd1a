import HandlerChain.Yaml.Event

/-!
# Nodes of a document

A document as a tree. Every alias is replaced by what its anchor stands for, within limits: collections
are nested 128 deep at most, and a document that takes more than a hundred aliases for each of its
events is refused. Where reading ends with an error, the tree has a broken node, and nothing behind it.

## Main Definitions

* `Yaml.Node` is a tree.
* `Yaml.Node.ofDocument` is the tree of a document.
-/

namespace HandlerChain.Yaml

/-- A part of a document with all that it holds. An absent node is the whole of a text without any
content. -/
inductive Node where
  | absent
  | scalar (mark : Mark) (tag : Option String) (style : ScalarStyle) (text : String)
  | sequence (mark : Mark) (tag : Option String) (items : List Node)
  | mapping (mark : Mark) (tag : Option String) (entries : List (Node × Node))
  | reference (mark : Mark) (target : Node)
  | broken (error : ReadError)
  deriving Inhabited

namespace Node

/-- How many collections can be nested. -/
def depthLimit : Nat := 128

/-- What a part of the events gives: a node, the events behind it, and the number of aliases so far. -/
structure Part (α : Type) where
  value : α
  rest : List Event
  aliases : Nat

section

variable (d : Document)

/-- The error at the end of the events. -/
def stop : Node := .broken (d.error.getD .noDocument)

/-- The events from the first one of an anchor on. -/
def eventsOf (anchor : Nat) : List Event :=
  match d.anchors.lookup anchor with
  | some n => d.events.drop n
  | none => []

mutual

/-- The node that some events start with; `depth` collections can be opened in it. -/
def ofEvents : Nat → Nat → Nat → List Event → Part Node
  | 0, _, aliases, _ => ⟨stop d, [], aliases⟩
  | fuel + 1, depth, aliases, events =>
    match events with
    | [] => ⟨stop d, [], aliases⟩
    | .scalar m tag style text :: rest => ⟨.scalar m tag style text, rest, aliases⟩
    | .reference m anchor :: rest =>
      if d.events.length * 100 ≤ aliases then ⟨.broken .tooManyAliases, [], aliases⟩
      else
        let target := ofEvents fuel depth (aliases + 1) (eventsOf d anchor)
        ⟨.reference m target.value, rest, target.aliases⟩
    | .sequence m tag :: rest =>
      match depth with
      | 0 => ⟨.broken (.tooDeep m), [], aliases⟩
      | depth + 1 =>
        let items := itemsOf fuel depth aliases rest
        ⟨.sequence m tag items.value, items.rest, items.aliases⟩
    | .mapping m tag :: rest =>
      match depth with
      | 0 => ⟨.broken (.tooDeep m), [], aliases⟩
      | depth + 1 =>
        let entries := entriesOf fuel depth aliases rest
        ⟨.mapping m tag entries.value, entries.rest, entries.aliases⟩
    | .sequenceEnd :: rest => ⟨.absent, rest, aliases⟩
    | .mappingEnd :: rest => ⟨.absent, rest, aliases⟩

/-- The items of a sequence. -/
def itemsOf : Nat → Nat → Nat → List Event → Part (List Node)
  | 0, _, aliases, _ => ⟨[stop d], [], aliases⟩
  | fuel + 1, depth, aliases, events =>
    match events with
    | [] => ⟨[stop d], [], aliases⟩
    | .sequenceEnd :: rest => ⟨[], rest, aliases⟩
    | _ =>
      let item := ofEvents fuel depth aliases events
      let items := itemsOf fuel depth item.aliases item.rest
      ⟨item.value :: items.value, items.rest, items.aliases⟩

/-- The entries of a mapping. -/
def entriesOf : Nat → Nat → Nat → List Event → Part (List (Node × Node))
  | 0, _, aliases, _ => ⟨[(stop d, stop d)], [], aliases⟩
  | fuel + 1, depth, aliases, events =>
    match events with
    | [] => ⟨[(stop d, stop d)], [], aliases⟩
    | .mappingEnd :: rest => ⟨[], rest, aliases⟩
    | _ =>
      let key := ofEvents fuel depth aliases events
      let value := ofEvents fuel depth key.aliases key.rest
      let entries := entriesOf fuel depth value.aliases value.rest
      ⟨(key.value, value.value) :: entries.value, entries.rest, entries.aliases⟩

end

/-- The tree of a document. -/
def ofDocument : Node :=
  if d.events.isEmpty && d.error.isNone then .absent
  else (ofEvents d ((depthLimit + 2) * (d.events.length + 2)) depthLimit 0 d.events).value

end

/-! ### Properties -/

/-- The place of a node. -/
def mark : Node → Mark
  | scalar m _ _ _ => m
  | sequence m _ _ => m
  | mapping m _ _ => m
  | reference m _ => m
  | absent => {}
  | broken _ => {}

/-- How a node is called on the way to its value in a mapping. -/
def step : Node → PathStep
  | scalar _ _ _ text => .entry text
  | _ => .unnamed

/-- The name of an own tag, which starts with an exclamation mark; a lone mark is its own name. -/
def ownTag? : Option String → Option String
  | none => none
  | some tag =>
    match tag.toList with
    | ['!'] => some tag
    | '!' :: rest => some (String.ofList rest)
    | _ => none

end Node

/-- A text that was read as a tree. -/
structure Parsed where
  root : Node
  error : Option ReadError
  isFollowed : Bool

/-- Reads a text up to the end of its first document. -/
def Parsed.ofString (s : String) : Parsed :=
  let d := Document.ofTokens (tokens s)
  ⟨Node.ofDocument d, d.error, d.isFollowed⟩

/-- What a reader of trees makes of a text. Data that does not fit is found before an error that is
noticed behind it, and that before a second document. -/
def Parsed.read {α : Type} (t : Parsed) (f : Node → Except ReadError α) : Except ReadError α :=
  match f t.root with
  | .error e => .error e
  | .ok a =>
    match t.error with
    | some e => .error e
    | none => if t.isFollowed then .error .moreDocuments else .ok a

end HandlerChain.Yaml
