import HandlerChain.Yaml.Layout
import HandlerChain.Yaml.ReadError

/-!
# Events of a document

A document as the sequence of its scalars and of the starts and ends of its collections. An alias is the
number of its anchor.

## Main Definitions

* `Yaml.Event` is an event, `Yaml.Document` the events of a document.
* `Yaml.Document.ofTokens` reads the first document of a text.

## Design Notes

Where a document has an error, it has the events in front of it: who takes the events one by one can
find the data wrong before the text.
-/

namespace HandlerChain.Yaml

/-- A part of a document. -/
inductive Event where
  | reference (mark : Mark) (anchor : Nat)
  | scalar (mark : Mark) (tag : Option String) (style : ScalarStyle) (text : String)
  | sequence (mark : Mark) (tag : Option String)
  | sequenceEnd
  | mapping (mark : Mark) (tag : Option String)
  | mappingEnd
  deriving Repr

/-- The events of a document up to its end or to an error, the first event of each anchor, and whether
more documents follow. -/
structure Document where
  events : List Event := []
  anchors : List (Nat × Nat) := []
  error : Option ReadError := none
  isFollowed : Bool := false

namespace Document

/-- The state of reading: the tokens to come, why they end, what handles stand for, and the events and
anchors so far, with the numbers of the anchors by name. -/
structure State where
  tokens : List Token
  fault : Option Fault
  handles : List (String × String) := []
  events : Array Event := #[]
  names : List (String × Nat) := []
  anchors : List (Nat × Nat) := []

/-- A computation that takes tokens and adds events; what it added stays when it fails. -/
abbrev Reader := EStateM ReadError State

namespace Reader

/-- Fails with a problem at a place. -/
def fail {α : Type} (problem : Problem) (m : Mark) (during : Option (Activity × Mark)) : Reader α :=
  throw (.fault ⟨problem, m, during⟩)

/-- The next token. -/
def peek : Reader Token := do
  let s ← get
  match s.tokens, s.fault with
  | t :: _, _ => pure t
  | [], some f => throw (.fault f)
  | [], none => throw .noDocument

/-- Moves over the next token. -/
def skip : Reader Unit := modify fun s => { s with tokens := s.tokens.tail }

/-- Whether the next token is one of some. -/
def nextIs (kinds : List TokenKind) : Reader Bool := do
  pure (kinds.contains (← peek).kind)

/-- Adds an event. -/
def emit (e : Event) : Reader Unit := modify fun s => { s with events := s.events.push e }

/-- Adds a scalar without text. -/
def emitEmpty (m : Mark) : Reader Unit := emit (.scalar m none .plain "")

/-- Gives the event that comes next to an anchor. The number of an anchor is how many names there were
before it, also where its name is not new. -/
def anchored : Option String → Reader Unit
  | none => pure ()
  | some name => modify fun s =>
    let number := s.names.length
    { s with
      names := (name, number) :: s.names.filter (fun (n, _) => n != name)
      anchors := (number, s.events.size) :: s.anchors }

/-- The number of an anchor. -/
def anchorOf (name : String) (m : Mark) : Reader Nat := do
  match (← get).names.lookup name with
  | some n => pure n
  | none => throw (.unknownAnchor m)

/-! ### Properties of nodes -/

/-- Takes an anchor, if one comes next. -/
def anchor? : Reader (Option String) := do
  match (← peek).kind with
  | .anchor name => do skip; pure (some name)
  | _ => pure none

/-- Takes a tag with its place, if one comes next. -/
def tag? : Reader (Option (String × String × Mark)) := do
  let t ← peek
  match t.kind with
  | .tag handle rest => do skip; pure (some (handle, rest, t.start))
  | _ => pure none

/-- The full text of a tag. -/
def fullTag (since : Mark) : Option (String × String × Mark) → Reader (Option String)
  | none => pure none
  | some (handle, rest, m) =>
    if handle.isEmpty then pure (some rest)
    else do
      match (← get).handles.lookup handle with
      | some meaning => pure (some (meaning ++ rest))
      | none => fail .undefinedHandle m (some (.node, since))

/-- Takes anchor and tag of a node, in either order. -/
def properties (since : Mark) : Reader (Option String × Option String) := do
  match (← anchor?) with
  | some name => do
    let tag ← tag?
    pure (some name, ← fullTag since tag)
  | none =>
    match (← tag?) with
    | some tag => do
      let name ← anchor?
      pure (name, ← fullTag since (some tag))
    | none => pure (none, none)

/-! ### Nodes -/

mutual

/-- Takes a node. In a block, blocks can stand for it, and as a value of a mapping a sequence that is
not indented. -/
def node : Nat → Bool → Bool → Reader Unit
  | 0, _, _ => pure ()
  | fuel + 1, inBlock, indentless => do
    let since := (← peek).start
    match (← peek).kind with
    | .reference name => do
      let number ← anchorOf name since
      skip
      emit (.reference since number)
    | _ => do
      let (name, tag) ← properties since
      let t ← peek
      match t.kind with
      | .scalar text style => do
        skip
        anchored name
        emit (.scalar since (if tag == some "!" then none else tag) style text)
      | .flowSequence => do
        anchored name
        emit (.sequence since tag)
        skip
        flowItems fuel t.start true
      | .flowMapping => do
        anchored name
        emit (.mapping since tag)
        skip
        flowEntries fuel t.start true
      | kind =>
        if indentless && kind == .blockEntry then do
          anchored name
          emit (.sequence since tag)
          indentlessItems fuel
        else if inBlock && kind == .blockSequence then do
          anchored name
          emit (.sequence since tag)
          skip
          blockItems fuel t.start
        else if inBlock && kind == .blockMapping then do
          anchored name
          emit (.mapping since tag)
          skip
          blockEntries fuel t.start
        else if name.isSome || tag.isSome then do
          anchored name
          emit (.scalar since tag .plain "")
        else fail .noContent t.start (some (if inBlock then .blockNode else .flowNode, since))

/-- Takes the items of a block sequence. -/
def blockItems : Nat → Mark → Reader Unit
  | 0, _ => pure ()
  | fuel + 1, since => do
    let t ← peek
    match t.kind with
    | .blockEntry => do
      skip
      if (← nextIs [.blockEntry, .blockEnd]) then emitEmpty t.stop else node fuel true false
      blockItems fuel since
    | .blockEnd => do
      skip
      emit .sequenceEnd
    | _ => fail .noDash t.start (some (.blockCollection, since))

/-- Takes the items of a block sequence that is not indented. -/
def indentlessItems : Nat → Reader Unit
  | 0 => pure ()
  | fuel + 1 => do
    let t ← peek
    match t.kind with
    | .blockEntry => do
      skip
      if (← nextIs [.blockEntry, .key, .value, .blockEnd]) then emitEmpty t.stop
      else node fuel true false
      indentlessItems fuel
    | _ => emit .sequenceEnd

/-- Takes the entries of a block mapping. -/
def blockEntries : Nat → Mark → Reader Unit
  | 0, _ => pure ()
  | fuel + 1, since => do
    let t ← peek
    match t.kind with
    | .key => do
      skip
      blockPart fuel t.stop
      let v ← peek
      match v.kind with
      | .value => do
        skip
        blockPart fuel v.stop
      | _ => emitEmpty v.start
      blockEntries fuel since
    | .blockEnd => do
      skip
      emit .mappingEnd
    | _ => fail .noKey t.start (some (.blockMapping, since))

/-- Takes a key or a value of a block mapping. -/
def blockPart : Nat → Mark → Reader Unit
  | 0, _ => pure ()
  | fuel + 1, behind => do
    if (← nextIs [.key, .value, .blockEnd]) then emitEmpty behind else node fuel true true

/-- Takes the items of a flow sequence. -/
def flowItems : Nat → Mark → Bool → Reader Unit
  | 0, _, _ => pure ()
  | fuel + 1, since, isFirst => do
    let t ← peek
    if t.kind == .flowSequenceEnd then do
      skip
      emit .sequenceEnd
    else do
      if !isFirst then
        if t.kind == .flowEntry then skip
        else fail .noSequenceEnd t.start (some (.flowSequence, since))
      let t ← peek
      match t.kind with
      | .key => do
        emit (.mapping t.start none)
        skip
        singleEntry fuel
        flowItems fuel since false
      | .flowSequenceEnd => do
        skip
        emit .sequenceEnd
      | _ => do
        node fuel false false
        flowItems fuel since false

/-- Takes a mapping of one entry in a flow sequence. A key without text takes the token behind it
along. -/
def singleEntry : Nat → Reader Unit
  | 0 => pure ()
  | fuel + 1 => do
    if (← nextIs [.value, .flowEntry, .flowSequenceEnd]) then do
      let t ← peek
      skip
      emitEmpty t.stop
    else node fuel false false
    flowValue fuel .flowSequenceEnd
    emit .mappingEnd

/-- Takes a value of a flow collection, or nothing in front of its end. -/
def flowValue : Nat → TokenKind → Reader Unit
  | 0, _ => pure ()
  | fuel + 1, stop => do
    if (← nextIs [.value]) then do
      skip
      if (← nextIs [.flowEntry, stop]) then emitEmpty (← peek).start else node fuel false false
    else emitEmpty (← peek).start

/-- Takes the entries of a flow mapping. -/
def flowEntries : Nat → Mark → Bool → Reader Unit
  | 0, _, _ => pure ()
  | fuel + 1, since, isFirst => do
    let t ← peek
    if t.kind == .flowMappingEnd then do
      skip
      emit .mappingEnd
    else do
      if !isFirst then
        if t.kind == .flowEntry then skip
        else fail .noMappingEnd t.start (some (.flowMapping, since))
      let t ← peek
      match t.kind with
      | .key => do
        skip
        if (← nextIs [.value, .flowEntry, .flowMappingEnd]) then emitEmpty (← peek).start
        else node fuel false false
        flowValue fuel .flowMappingEnd
        flowEntries fuel since false
      | .flowMappingEnd => do
        skip
        emit .mappingEnd
      | _ => do
        node fuel false false
        emitEmpty (← peek).start
        flowEntries fuel since false

end

/-! ### Documents -/

/-- What a handle stands for unless a directive says otherwise. -/
def commonHandles : List (String × String) := [("!", "!"), ("!!", "tag:yaml.org,2002:")]

/-- Takes directives; `isVersioned` says whether there was a version. -/
def directives : Nat → Bool → Reader Unit
  | 0, _ => pure ()
  | fuel + 1, isVersioned => do
    let t ← peek
    match t.kind with
    | .version major minor =>
      if isVersioned then fail .secondVersion t.start none
      else if major != 1 || (minor != 1 && minor != 2) then fail .otherVersion t.start none
      else do
        skip
        directives fuel true
    | .tagDirective handle meaning => do
      if ((← get).handles.lookup handle).isSome then fail .secondTagDirective t.start none
      modify fun s => { s with handles := s.handles ++ [(handle, meaning)] }
      skip
      directives fuel isVersioned
    | _ => pure ()

/-- Whether a token stands in front of a document. -/
def isDirective : TokenKind → Bool
  | .version _ _ => true
  | .tagDirective _ _ => true
  | _ => false

/-- Takes a document up to its end. -/
def document (fuel : Nat) : Reader Unit := do
  skip
  let t ← peek
  if t.kind == .streamEnd then pure ()
  else do
    if isDirective t.kind || t.kind == .documentStart then
      directives fuel false
      let t ← peek
      if t.kind != .documentStart then fail .noDocumentStart t.start none
      skip
      modify fun s => { s with handles := s.handles ++ commonHandles }
      let u ← peek
      if isDirective u.kind || [.documentStart, .documentEnd, .streamEnd].contains u.kind then
        emitEmpty u.start
      else node fuel true false
    else
      modify fun s => { s with handles := commonHandles }
      node fuel true false
    if (← nextIs [.documentEnd]) then skip

end Reader

/-- Whether tokens hold more than ends of documents in front of the end of the text. -/
def hasMore (tokens : List Token) : Bool :=
  match tokens.dropWhile fun t => t.kind == .documentEnd with
  | t :: _ => t.kind != .streamEnd
  | [] => true

/-- The first document of a text that was cut into tokens. -/
def ofTokens (ts : Tokens) : Document :=
  let s : State := { tokens := ts.known, fault := ts.fault }
  match Reader.document (4 * ts.known.length + 8) s with
  | .ok _ s => ⟨s.events.toList, s.anchors, none, hasMore s.tokens⟩
  | .error e s => ⟨s.events.toList, s.anchors, some e, false⟩

end Document

end HandlerChain.Yaml
