import HandlerChain.Action.Builder
import HandlerChain.Notes.Store
import HandlerChain.Site.Basic
import HandlerChain.Unit.Compiler

/-!
# Actions on notes

The actions of a small server that keeps notes.

## Main Definitions

* `Notes.actions` are the actions, sorted by name.
* `Notes.services` and `Notes.views` are what they need, `Notes.site` a site that has them.
-/

namespace HandlerChain.Notes

/-- The type of a note. -/
def noteType : Ty :=
  .record "actionkit_server::actions::Note"
    (.cons "id" (.int .u64) (.cons "title" .text (.cons "body" .text .nil)))

/-- The type of a note that has yet to be numbered; its body may be left out. -/
def newNoteType : Ty := .record "actionkit_server::actions::NewNote" (.cons "title" .text (.blank "body" .nil))

/-- The name of the store as a service. -/
def storeName : String := "actionkit_server::actions::NoteStore"

/-- The services: the one store. -/
def services : Services := Services.empty.insert storeName 0

/-- A note as a value. -/
def noteValue (n : Note) : noteType.Denote := (n.id, n.title, n.body, ())

/-- A new note as a value. -/
def newNoteValue (n : NewNote) : newNoteType.Denote := (n.title, n.body, ())

/-- The new note that a value is. -/
def newNoteOf : newNoteType.Denote → NewNote
  | (title, body, _) => ⟨title, body⟩

/-- The page of a note. -/
def notePage (model : Json) : Except String String :=
  match (model.get? "title").bind Json.text? with
  | none => .error "note has no title"
  | some title =>
    let body := ((model.get? "body").bind Json.text?).getD ""
    .ok ("<article><h1>" ++ title ++ "</h1><p>" ++ body ++ "</p></article>")

/-- The views: the page of a note. -/
def views : Views := Views.none.insert "note" notePage

/-- A handler that does not suspend. -/
def handler (params : List Ty) (returns : Ty)
    (run : Args params → NoteStore → returns.Denote × NoteStore) : Logic NoteStore :=
  ⟨params, returns, false, run⟩

/-- The store as an argument. -/
abbrev store : Ty := .service storeName

/-- A text as a default. -/
def textDefault (s : String) : Dyn := ⟨.text, s⟩

/-- A number as the default of a size. -/
def sizeDefault (n : Nat) : Dyn := ⟨.int .usize, IntKind.wrap .usize n⟩

/-- Tells that the server runs. -/
def health : Action NoteStore :=
  ((Builder.start "GET" "/health").ignoreApi.handledBy
    (handler [] .staticText fun _ s => ("ok", s))).build

/-- Finds notes by a part of their titles. -/
def searchNotes : Action NoteStore :=
  ((Builder.start "GET" "/notes").groupBy "notes" |>.title "Search notes"
    |>.withBinding (.service storeName)
    |>.withBinding ((Binding.query .text "q").withDefault (textDefault ""))
    |>.withBinding ((Binding.query (.int .usize) "limit").withDefault (sizeDefault 20))
    |>.handledBy (handler [store, .text, .int .usize] (.list noteType) fun (_, query, limit, _) s =>
      ((s.search query (IntKind.Number.val limit).toNat).map noteValue, s))).build

/-- Finds a note by its number. -/
def getNote : Action NoteStore :=
  ((Builder.start "GET" "/notes/\x7bid:int\x7d").groupBy "notes" |>.title "Get a note"
    |>.withBinding (.service storeName)
    |>.withBinding (.route (.int .u64) "id")
    |>.handledBy (handler [store, .int .u64] (.option noteType) fun (_, id, _) s =>
      ((s.find? id).map noteValue, s))).build

/-- Keeps a new note. -/
def createNote : Action NoteStore :=
  ((Builder.start "POST" "/notes").groupBy "notes" |>.title "Create a note"
    |>.tag ((Tag.custom "audit" []).withProperty "action" (.text "create"))
    |>.withBinding (.body newNoteType)
    |>.handledBy (handler [newNoteType] newNoteType fun (new, _) s =>
      (newNoteValue (newNoteOf new).trimmed, s))
    |>.withBinding (.service storeName)
    |>.withBinding (.previous newNoteType)
    |>.handledBy
      { params := [store, newNoteType]
        returns := noteType
        suspends := true
        run := fun (_, new, _) s =>
          let (note, s) := s.create (newNoteOf new)
          (noteValue note, s) }).build

/-- Shows a note as a page. -/
def renderNote : Action NoteStore :=
  ((Builder.start "GET" "/notes/\x7bid:int\x7d/page").groupBy "notes"
    |>.description "HTML page for one note"
    |>.withBinding (.service storeName)
    |>.withBinding (.route (.int .u64) "id")
    |>.handledBy (handler [store, .int .u64] noteType fun (_, id, _) s =>
      (noteValue ((s.find? id).getD ⟨id, "Not found", ""⟩), s))
    |>.render ⟨.view, "note"⟩).build

/-- Shows what was requested. -/
def echoRequest : Action NoteStore :=
  ((Builder.start "GET" "/echo/\x7b**rest\x7d").groupBy "diagnostics"
    |>.withBinding (.ambient .request)
    |>.handledBy (handler [.ambient .request] .json fun (r, _) s =>
      let r : Http.RequestContext := r
      (.sorted
        [("method", .text r.method), ("path", .text r.uri.path),
          ("route_values", .sorted (r.routeValues.map fun (k, v) => (k, .text v)))], s))).build

/-- The actions, sorted by name. -/
def actions : List (Action NoteStore) :=
  [echoRequest, health, searchNotes, getNote, renderNote, createNote]

/-- Compiles all actions. -/
def compileActions (config : CompilerConfig) :
    BatchReport NoteStore × Workshop NoteStore × List (String × Event) :=
  compileAll config .empty actions

/-- A site without endpoints that has the services and views of the actions. -/
def site (config : SiteConfig) : Site NoteStore :=
  { config := config, services := services, render := views.render }

end HandlerChain.Notes
