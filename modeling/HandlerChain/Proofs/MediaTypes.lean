import HandlerChain.Proofs.Documents
import HandlerChain.Proofs.ProblemDocuments

/-!
# Documented and served media types

What a successful request is answered with is decided by the result: a page has the type that its view gives it, an
encoding that is a text is served as a text, an empty one without a body, and any other as JSON.  An operation is
documented before there is a result, from the name of the type that the last handler declares.  The two agree where
the name is right about the values of its type.

It need not be.  The name of a type of words, of dynamic data or of something optional does not say that a value may
be encoded as a text, and a type of any kind may have the name of a text.  Which encodings the values of a type have
is computed here from the type, so it can be told whether a type is documented rightly.

## Main Definitions

* `Ty.kinds` are the kinds of encodings that the values of a type have.
* `Ty.Agrees` says that the name of a type is right about its values.
* `Http.mediaTypeOf` is the media type that a content type names, `Operation.documented?` the one that is documented
  for a status.

## Main Results

* `Ty.mem_kinds_iff`: the kinds of a type are those of the encodings of its values.
* `Ty.agrees_iff`: whether a type is documented rightly.
* `Endpoint.documented_success`: when a request that succeeds is served as documented.
* `color_served_otherwise`: a word is served as a text and documented as JSON.
-/

namespace HandlerChain

/-! ### What the values of a type are encoded as -/

/-- What an encoding is served as: without a body, as a text, or as JSON. -/
inductive Json.Kind where
  | empty | text | other
  deriving DecidableEq, Repr

/-- The kind of an encoding. -/
def Json.kind : Json → Kind
  | null => .empty
  | text _ => .text
  | _ => .other

mutual

/-- The kinds of encodings that the values of a type have.  Where no value is encoded there are none. -/
def Ty.kinds : Ty → List Json.Kind
  | .int _ | .bool | .list _ | .map _ _ => [.other]
  | .single | .double => [.empty, .other]
  | .char | .text | .staticText | .uuid | .choice _ _ _ => [.text]
  | .unit => [.empty]
  | .json => [.empty, .text, .other]
  | .option t => .empty :: t.kinds
  | .pair a b => if !a.kinds.isEmpty && !b.kinds.isEmpty then [.other] else []
  | .record _ fs => if fs.encodable then [.other] else []
  | .refusing _ _ | .service _ | .ambient _ => []

/-- Whether each of the fields has a value that is encoded. -/
def Fields.encodable : Fields → Bool
  | .nil => true
  | .cons _ t rest => !t.kinds.isEmpty && rest.encodable
  | .blank _ rest => rest.encodable

end

namespace Ty

variable {t a b : Ty} {fs : Fields} {j : Json}

/-- Some value of the type has an encoding of the kind. -/
def Writes (t : Ty) (kind : Json.Kind) : Prop := ∃ x j, t.encode x = .ok j ∧ j.kind = kind

/-- A type whose values are all encoded as one kind. -/
theorem mem_kind_iff {kind : Json.Kind} (writes : t.Writes kind)
    (only : ∀ x j, t.encode x = .ok j → j.kind = kind) (k : Json.Kind) : k ∈ [kind] ↔ t.Writes k := by
  rw [List.mem_singleton]
  constructor
  · rintro rfl
    exact writes
  · rintro ⟨x, j, encoded, rfl⟩
    exact only x j encoded

/-- A type whose values are all encoded as one of two kinds. -/
theorem mem_kinds_pair_iff {kind kind' : Json.Kind} (writes : t.Writes kind) (writes' : t.Writes kind')
    (only : ∀ x j, t.encode x = .ok j → j.kind = kind ∨ j.kind = kind') (k : Json.Kind) :
    k ∈ [kind, kind'] ↔ t.Writes k := by
  rw [List.mem_pair]
  constructor
  · rintro (rfl | rfl)
    · exact writes
    · exact writes'
  · rintro ⟨x, j, encoded, rfl⟩
    exact only x j encoded

/-- A type whose values are all encoded as JSON, if they are at all. -/
theorem mem_ite_kind_iff {some : Bool} (encodes : some = true ↔ ∃ x j, t.encode x = .ok j)
    (only : ∀ x j, t.encode x = .ok j → j.kind = .other) (k : Json.Kind) :
    k ∈ (if some then [Json.Kind.other] else []) ↔ t.Writes k := by
  cases some with
  | false =>
      refine iff_of_false List.not_mem_nil ?_
      rintro ⟨x, j, encoded, -⟩
      exact Bool.false_ne_true (encodes.mpr ⟨x, j, encoded⟩)
  | true =>
      obtain ⟨x, j, encoded⟩ := encodes.mp rfl
      exact mem_kind_iff ⟨x, j, encoded, only x j encoded⟩ only k

/-- A type has kinds if some value is encoded. -/
theorem isEmpty_kinds_iff (kinds : ∀ k, k ∈ t.kinds ↔ t.Writes k) :
    t.kinds.isEmpty = false ↔ ∃ x j, t.encode x = .ok j := by
  rw [List.isEmpty_eq_false_iff_exists_mem]
  constructor
  · rintro ⟨k, member⟩
    obtain ⟨x, j, encoded, -⟩ := (kinds k).mp member
    exact ⟨x, j, encoded⟩
  · rintro ⟨x, j, encoded⟩
    exact ⟨j.kind, (kinds j.kind).mpr ⟨x, j, encoded, rfl⟩⟩

theorem kind_of_encodeInt {n : Int} (encoded : encodeInt n = .ok j) : j.kind = .other := by
  unfold encodeInt at encoded
  split at encoded
  · cases encoded
    rfl
  · cases encoded

/-- What is put together from parts is served as JSON. -/
theorem kind_of_map {α : Type} {parts : Except String α} {f : α → Json} (whole : ∀ p, (f p).kind = .other)
    (encoded : parts.map f = .ok j) : j.kind = .other := by
  cases parts with
  | error e => cases encoded
  | ok p =>
      cases encoded
      exact whole p

/-- Only what is not finite is no number. -/
theorem kind_float (x : Binary .double) : (Json.float x).kind = .empty ∨ (Json.float x).kind = .other := by
  cases x
  · exact .inl rfl
  · exact .inl rfl
  · exact .inr rfl

theorem encode_pair_eq_ok_iff {x : a.Denote} {y : b.Denote} :
    (Ty.pair a b).encode (x, y) = .ok j ↔ ∃ i k, a.encode x = .ok i ∧ b.encode y = .ok k ∧ j = .array [i, k] := by
  rw [encode]
  cases a.encode x <;> cases b.encode y <;> simp [eq_comm]

theorem encodeFields_cons_eq_ok_iff {label : String} {x : t.Denote} {xs : fs.Denote} {ms : List (String × Json)} :
    encodeFields (.cons label t fs) (x, xs) = .ok ms ↔
      ∃ j more, t.encode x = .ok j ∧ encodeFields fs xs = .ok more ∧ ms = (label, j) :: more := by
  rw [encodeFields]
  cases t.encode x <;> cases encodeFields fs xs <;> simp [Except.map, eq_comm]

theorem encodeFields_blank_eq_ok_iff {label text : String} {xs : fs.Denote} {ms : List (String × Json)} :
    encodeFields (.blank label fs) (text, xs) = .ok ms ↔
      ∃ more, encodeFields fs xs = .ok more ∧ ms = (label, .text text) :: more := by
  rw [encodeFields]
  cases encodeFields fs xs <;> simp [Except.map, eq_comm]

end Ty

mutual

/-- **The kinds of a type are those of the encodings of its values.** -/
theorem Ty.mem_kinds_iff : (t : Ty) → ∀ k, k ∈ t.kinds ↔ t.Writes k
  | .int k => Ty.mem_kind_iff ⟨(default : k.Number), _, rfl, rfl⟩ fun _ _ => Ty.kind_of_encodeInt
  | .bool => Ty.mem_kind_iff ⟨true, _, rfl, rfl⟩ fun _ _ encoded => by cases encoded; rfl
  | .list _ => Ty.mem_kind_iff ⟨[], _, rfl, rfl⟩ fun _ _ => Ty.kind_of_map fun _ => rfl
  | .map _ _ => Ty.mem_kind_iff ⟨[], _, rfl, rfl⟩ fun _ _ => Ty.kind_of_map fun _ => rfl
  | .char => Ty.mem_kind_iff ⟨'a', _, rfl, rfl⟩ fun _ _ encoded => by cases encoded; rfl
  | .text => Ty.mem_kind_iff ⟨"", _, rfl, rfl⟩ fun _ _ encoded => by cases encoded; rfl
  | .staticText => Ty.mem_kind_iff ⟨"", _, rfl, rfl⟩ fun _ _ encoded => by cases encoded; rfl
  | .uuid => Ty.mem_kind_iff ⟨(default : Uuid), _, rfl, rfl⟩ fun _ _ encoded => by cases encoded; rfl
  | .choice _ _ _ => Ty.mem_kind_iff ⟨"", _, rfl, rfl⟩ fun _ _ encoded => by cases encoded; rfl
  | .unit => Ty.mem_kind_iff ⟨(), _, rfl, rfl⟩ fun _ _ encoded => by cases encoded; rfl
  | .single =>
    Ty.mem_kinds_pair_iff ⟨(.nan : Binary .single), _, rfl, rfl⟩ ⟨(.zero false : Binary .single), _, rfl, rfl⟩
      fun x _ encoded => Except.ok.inj encoded ▸ Ty.kind_float (Binary.convert x)
  | .double =>
    Ty.mem_kinds_pair_iff ⟨(.nan : Binary .double), _, rfl, rfl⟩ ⟨(.zero false : Binary .double), _, rfl, rfl⟩
      fun x _ encoded => Except.ok.inj encoded ▸ Ty.kind_float x
  | .json => by
    intro k
    cases k with
    | empty => exact iff_of_true (by simp [Ty.kinds]) ⟨Json.null, _, rfl, rfl⟩
    | text => exact iff_of_true (by simp [Ty.kinds]) ⟨Json.text "", _, rfl, rfl⟩
    | other => exact iff_of_true (by simp [Ty.kinds]) ⟨Json.bool true, _, rfl, rfl⟩
  | .option t => by
    intro k
    rw [Ty.kinds, List.mem_cons, t.mem_kinds_iff]
    constructor
    · rintro (rfl | ⟨x, j, encoded, rfl⟩)
      · exact ⟨none, _, rfl, rfl⟩
      · exact ⟨some x, j, encoded, rfl⟩
    · rintro ⟨_ | x, j, encoded, rfl⟩
      · cases encoded
        exact .inl rfl
      · exact .inr ⟨x, j, encoded, rfl⟩
  | .pair a b => by
    refine Ty.mem_ite_kind_iff ?_ fun ⟨x, y⟩ j encoded => ?_
    · rw [Bool.and_eq_true, Bool.not_eq_true', Bool.not_eq_true', Ty.isEmpty_kinds_iff a.mem_kinds_iff,
        Ty.isEmpty_kinds_iff b.mem_kinds_iff]
      constructor
      · rintro ⟨⟨x, i, first⟩, y, k, second⟩
        exact ⟨(x, y), _, Ty.encode_pair_eq_ok_iff.mpr ⟨i, k, first, second, rfl⟩⟩
      · rintro ⟨⟨x, y⟩, j, encoded⟩
        obtain ⟨i, k, first, second, -⟩ := Ty.encode_pair_eq_ok_iff.mp encoded
        exact ⟨⟨x, i, first⟩, y, k, second⟩
    · obtain ⟨i, k, -, -, rfl⟩ := Ty.encode_pair_eq_ok_iff.mp encoded
      rfl
  | .record _ fs => by
    refine Ty.mem_ite_kind_iff ?_ fun _ _ => Ty.kind_of_map fun _ => rfl
    rw [fs.encodable_iff]
    refine exists_congr fun xs => ?_
    show _ ↔ ∃ j, (Ty.encodeFields fs xs).map Json.sorted = .ok j
    cases Ty.encodeFields fs xs <;> simp [Except.map]
  | .refusing _ _ => fun _ => iff_of_false List.not_mem_nil fun ⟨_, _, encoded, _⟩ => by cases encoded
  | .service _ => fun _ => iff_of_false List.not_mem_nil fun ⟨_, _, encoded, _⟩ => by cases encoded
  | .ambient _ => fun _ => iff_of_false List.not_mem_nil fun ⟨_, _, encoded, _⟩ => by cases encoded

/-- The fields have values that are encoded if each of them has one. -/
theorem Fields.encodable_iff : (fs : Fields) → (fs.encodable = true ↔ ∃ xs ms, Ty.encodeFields fs xs = .ok ms)
  | .nil => ⟨fun _ => ⟨(), _, rfl⟩, fun _ => rfl⟩
  | .cons _ t rest => by
    rw [Fields.encodable, Bool.and_eq_true, Bool.not_eq_true', Ty.isEmpty_kinds_iff t.mem_kinds_iff,
      rest.encodable_iff]
    constructor
    · rintro ⟨⟨x, j, first⟩, xs, more, others⟩
      exact ⟨(x, xs), _, Ty.encodeFields_cons_eq_ok_iff.mpr ⟨j, more, first, others, rfl⟩⟩
    · rintro ⟨⟨x, xs⟩, ms, encoded⟩
      obtain ⟨j, more, first, others, -⟩ := Ty.encodeFields_cons_eq_ok_iff.mp encoded
      exact ⟨⟨x, j, first⟩, xs, more, others⟩
  | .blank _ rest => by
    rw [Fields.encodable, rest.encodable_iff]
    constructor
    · rintro ⟨xs, more, others⟩
      exact ⟨("", xs), _, Ty.encodeFields_blank_eq_ok_iff.mpr ⟨more, others, rfl⟩⟩
    · rintro ⟨⟨text, xs⟩, ms, encoded⟩
      obtain ⟨more, others, -⟩ := Ty.encodeFields_blank_eq_ok_iff.mp encoded
      exact ⟨xs, more, others⟩

end

namespace Ty

/-- **The name of a type is right about its values**: those with a body are encoded as texts exactly if the type is
documented as a string. -/
def Agrees (t : Ty) : Prop :=
  ∀ x j, t.encode x = .ok j → j.kind ≠ .empty → (j.kind = .text ↔ t.primitive = "string")

/-- Whether it is can be told from the type. -/
theorem agrees_iff (t : Ty) :
    t.Agrees ↔ (.text ∈ t.kinds → t.primitive = "string") ∧ (.other ∈ t.kinds → t.primitive ≠ "string") := by
  constructor
  · intro agrees
    constructor
    · intro texts
      obtain ⟨x, j, encoded, kind⟩ := (t.mem_kinds_iff _).mp texts
      exact (agrees x j encoded (by simp [kind])).mp kind
    · intro others string
      obtain ⟨x, j, encoded, kind⟩ := (t.mem_kinds_iff _).mp others
      have text := (agrees x j encoded (by simp [kind])).mpr string
      rw [kind] at text
      cases text
  · rintro ⟨texts, others⟩ x j encoded body
    have member : j.kind ∈ t.kinds := (t.mem_kinds_iff _).mpr ⟨x, j, encoded, rfl⟩
    cases kind : j.kind with
    | empty => exact absurd kind body
    | text => exact iff_of_true rfl (texts (kind ▸ member))
    | other => exact iff_of_false (by simp) (others (kind ▸ member))

instance (t : Ty) : Decidable t.Agrees := decidable_of_iff _ t.agrees_iff.symm

/-- A text that may be absent is a text where it is there. -/
example : ¬(option text).Agrees := by decide +kernel

end Ty

/-! ### Documented and served -/

/-- The media type that a content type names, without parameters. -/
def Http.mediaTypeOf (contentType : String) : String :=
  Text.lowerAscii (String.ofList (contentType.toList.takeWhile fun c => c != ';' && c != ' '))

/-- The media type of a response. -/
def Response.mediaType? (answer : Response) : Option String := answer.contentType?.map Http.mediaTypeOf

/-- The media type that an operation documents for a status. -/
def Operation.documented? (op : Operation) (status : Nat) : Option String :=
  (op.responses.find? fun doc => doc.status == status).map ResponseDoc.contentType

/-- The media type of an encoding. -/
theorem mediaType?_respondJson {j : Json} (body : j.kind ≠ .empty) :
    (respondJson j).mediaType? = some (if j.kind = .text then "text/plain" else "application/json") := by
  have text : Http.mediaTypeOf "text/plain; charset=utf-8" = "text/plain" := by decide +kernel
  have json : Http.mediaTypeOf "application/json" = "application/json" := by decide +kernel
  cases j
  case null => exact absurd rfl body
  case text => exact congrArg some text
  all_goals exact congrArg some json

theorem respondJson_status_iff {j : Json} : (respondJson j).status = 200 ↔ j.kind ≠ .empty := by
  cases j <;> simp [respondJson, Json.kind, Response.ok, Response.empty, Response.json]

/-- A page has the media type that its view gave it, if this is HTML. -/
theorem Rendered.mediaType?_respond {page : Rendered} (html : Http.mediaTypeOf page.contentType = "text/html") :
    page.respond.mediaType? = some "text/html" := by
  have plain : Http.mediaTypeOf "text/html" = "text/html" := by decide +kernel
  simp only [Response.mediaType?, Rendered.respond, Response.ok, Option.map_some]
  split
  · rw [html]
  · rw [plain]

/-- The last handler of an action whose result is not shown is its last step. -/
theorem Action.WellFormed.lastHandler?_eq {σ : Type} {a : Action σ} (wellFormed : a.WellFormed)
    (unshown : a.finalRenderTarget? = none) : a.lastHandler? = a.steps.getLast? := by
  obtain ⟨last, ends⟩ : ∃ last, a.steps.getLast? = some last :=
    Option.ne_none_iff_exists'.mp (List.getLast?_eq_none_iff.not.mpr wellFormed.nonempty)
  obtain ⟨front, split⟩ := List.getLast?_eq_some_iff.mp ends
  have plain : last.kind.isRender = false := by
    refine Bool.eq_false_iff.mpr fun render => ?_
    obtain ⟨t, target⟩ := Option.isSome_iff_exists.mp (wellFormed.targets last (List.mem_of_getLast? ends) render)
    simp [finalRenderTarget?, ends, target] at unshown
  rw [ends, lastHandler?, split]
  simp [handlerSteps, plain]

/-- The last call of a unit declares what the last step declares. -/
theorem DispatchUnit.Realizes.returns?_getLast? {σ : Type} {u : DispatchUnit σ} {a : Action σ} {registry : Registry σ}
    (realizes : u.Realizes a registry) {step : Step σ} (last : a.steps.getLast? = some step)
    (plain : step.kind.isRender = false) : u.body.getLast?.bind StepCall.returns? = step.returnType? := by
  have reversed := List.forall₂_reverse_iff.mpr realizes.body
  rw [← List.head?_reverse] at last ⊢
  obtain ⟨rest, split⟩ := List.head?_eq_some_iff.mp last
  rw [split, List.forall₂_cons_left_iff] at reversed
  obtain ⟨call, more, one, -, calls⟩ := reversed
  rw [calls]
  cases one with
  | render render _ => exact absurd render (by simp [plain])
  | handler => rfl

namespace Endpoint

variable {σ : Type} {e : Endpoint σ} {op : Operation} {site : Site σ} {registry : Registry σ}
  {captures : List (String × String)} {r : Request} {s s' : σ}

/-- What an operation documents for success is the success of its endpoint. -/
theorem operation?_responses (shown : e.operation? = some op) :
    (op.responses.map ResponseDoc.status).Nodup ∧ op.documented? 200 = some e.success.contentType := by
  have status : e.success.status = 200 := by
    unfold success
    split <;> rfl
  rw [Operation.documented?, (documents_of_operation? shown).responses]
  exact ⟨by simp [status], by simp [status]⟩

/-- The media type that is documented for a result is that of a text if its type is documented as a string. -/
theorem Runs.success_contentType (compiled : e.CompiledIn registry) {v : TypedValue}
    (runs : e.Runs site registry captures r s (.ok (.value v), s')) :
    e.success.contentType = if v.type.ty.primitive = "string" then "text/plain" else "application/json" := by
  obtain ⟨wellFormed, realizes⟩ := compiled.realizes
  obtain ⟨unshown, step, l, last, leaves⟩ := runs.of_value compiled
  have plain : step.kind.isRender = false := by
    simpa using (List.mem_filter.mp (List.mem_of_getLast? last)).2
  rw [wellFormed.lastHandler?_eq unshown] at last
  have declared := realizes.returns?_getLast? last plain
  rw [leaves.declared] at declared
  simp [success, unshown, declared]

/-- A result that is encoded is served in its encoding. -/
theorem Runs.respond_encoded (compiled : e.CompiledIn registry) {v : TypedValue} {j : Json}
    (runs : e.Runs site registry captures r s (.ok (.value v), s')) (encoded : v.encode = .ok j) :
    (e.respond site registry captures r s).1 = respondJson j := by
  rw [runs.respond_eq compiled]
  simp only [Outcome.respond, encoded]

/-- **It has the media type that is documented exactly if the name of its type is right about it.** -/
theorem Runs.mediaType?_iff (compiled : e.CompiledIn registry) (shown : e.operation? = some op) {v : TypedValue}
    {j : Json} (runs : e.Runs site registry captures r s (.ok (.value v), s')) (encoded : v.encode = .ok j)
    (succeeds : (e.respond site registry captures r s).1.status = 200) :
    (e.respond site registry captures r s).1.mediaType? = op.documented? 200 ↔
      (j.kind = .text ↔ v.type.ty.primitive = "string") := by
  rw [runs.respond_encoded compiled encoded, respondJson_status_iff] at succeeds
  rw [runs.respond_encoded compiled encoded, mediaType?_respondJson succeeds, (operation?_responses shown).2,
    runs.success_contentType compiled]
  by_cases text : j.kind = .text <;> by_cases string : v.type.ty.primitive = "string" <;> simp [text, string]

/-- A page has the media type that is documented, if views answer in HTML. -/
theorem Runs.mediaType?_page (compiled : e.CompiledIn registry) (shown : e.operation? = some op)
    (html : ∀ request page, site.render request = .ok page → Http.mediaTypeOf page.contentType = "text/html")
    {page : Rendered} (runs : e.Runs site registry captures r s (.ok (.rendered page), s')) :
    (e.respond site registry captures r s).1.mediaType? = op.documented? 200 := by
  obtain ⟨target, request, rendered⟩ := runs.of_rendered compiled
  rw [runs.respond_eq compiled, (operation?_responses shown).2]
  show page.respond.mediaType? = _
  rw [Rendered.mediaType?_respond (html request page rendered), success, if_pos target]

/-- A request that fails is not answered with success. -/
theorem Fails.status_ne (compiled : e.CompiledIn registry) {failure : Failure}
    (fails : e.Fails site registry captures r s failure) : (e.respond site registry captures r s).1.status ≠ 200 := by
  have isError := failure.isError_problem r.uri.path
  rw [fails.respond_eq compiled, isError.respond_status]
  have := isError.1
  omega

/-- The encoding of a result is one of a value of the type that the last handler declares. -/
theorem Runs.exists_encode (compiled : e.CompiledIn registry) {v : TypedValue} {j : Json}
    (runs : e.Runs site registry captures r s (.ok (.value v), s')) (encoded : v.encode = .ok j) :
    ∃ step, e.action.lastHandler? = some step ∧ step.returnType? = some v.type ∧ ∃ x, v.type.ty.encode x = .ok j := by
  obtain ⟨-, step, l, last, leaves⟩ := runs.of_value compiled
  have typed : v.value.ty = v.type.ty := leaves.returned.trans leaves.described.symm
  refine ⟨step, last, leaves.declared, ?_⟩
  rw [v.encode_of_typed typed] at encoded
  split at encoded
  · rw [← typed]
    cases whole : v.value.ty.encode v.value.val with
    | error reason => simp [whole, Except.mapError] at encoded
    | ok i =>
        rw [whole] at encoded
        cases encoded
        exact ⟨v.value.val, whole⟩
  · cases encoded

/-- **When the documented media type is served.**  An operation documents one response for each of its statuses.  For
every request that succeeds with a body, the media type of the response is the documented one exactly if the result,
where it is not shown, is encoded as a text just in case its type is documented as a string; a page always has it.  So
all requests are served as documented if the action has a target, or if the type that its last handler declares agrees
with its values. -/
theorem documented_success (compiled : e.CompiledIn registry) (shown : e.operation? = some op)
    (html : ∀ request page, site.render request = .ok page → Http.mediaTypeOf page.contentType = "text/html") :
    (op.responses.map ResponseDoc.status).Nodup ∧
    (∀ captures r s, (e.respond site registry captures r s).1.status = 200 →
      ((e.respond site registry captures r s).1.mediaType? = op.documented? 200 ↔
        ∀ v j s', e.Runs site registry captures r s (.ok (.value v), s') → v.encode = .ok j →
          (j.kind = .text ↔ v.type.ty.primitive = "string"))) ∧
    ((e.action.finalRenderTarget?.isSome ∨
        ∃ step t, e.action.lastHandler? = some step ∧ step.returnType? = some t ∧ t.ty.Agrees) →
      ∀ captures r s, (e.respond site registry captures r s).1.status = 200 →
        (e.respond site registry captures r s).1.mediaType? = op.documented? 200) := by
  have served (captures : List (String × String)) (r : Request) (s : σ)
      (succeeds : (e.respond site registry captures r s).1.status = 200) :
      (e.respond site registry captures r s).1.mediaType? = op.documented? 200 ↔
        ∀ v j s', e.Runs site registry captures r s (.ok (.value v), s') → v.encode = .ok j →
          (j.kind = .text ↔ v.type.ty.primitive = "string") := by
    constructor
    · intro agrees v j s' ran encoded
      exact (ran.mediaType?_iff compiled shown encoded succeeds).mp agrees
    · intro agrees
      rcases e.fails_or_serves compiled with ⟨failure, fails⟩ | ⟨page, s', ran⟩ | ⟨v, j, s', ran, encoded⟩
      · exact absurd succeeds (fails.status_ne compiled)
      · exact ran.mediaType?_page compiled shown html
      · exact (ran.mediaType?_iff compiled shown encoded succeeds).mpr (agrees v j s' ran encoded)
  refine ⟨(operation?_responses shown).1, served, ?_⟩
  intro described captures r s succeeds
  refine (served captures r s succeeds).mpr fun v j s' ran encoded => ?_
  obtain ⟨unshown, -⟩ := ran.of_value compiled
  obtain ⟨step, last, declares, x, whole⟩ := ran.exists_encode compiled encoded
  rw [ran.respond_encoded compiled encoded, respondJson_status_iff] at succeeds
  rcases described with target | ⟨step', t, last', declares', agrees⟩
  · rw [unshown] at target
    cases target
  · obtain rfl : step = step' := Option.some.inj (last.symm.trans last')
    obtain rfl : v.type = t := Option.some.inj (declares.symm.trans declares')
    exact agrees x j whole succeeds

end Endpoint

/-- Views that are functions by name answer in HTML. -/
theorem Views.mediaTypeOf_render {views : Views} {request : RenderRequest} {page : Rendered}
    (rendered : views.render request = .ok page) : Http.mediaTypeOf page.contentType = "text/html" := by
  have html : Http.mediaTypeOf "text/html; charset=utf-8" = "text/html" := by decide +kernel
  unfold render at rendered
  split at rendered
  · cases rendered
  · split at rendered
    · cases rendered
    · split at rendered
      · cases rendered
      · cases rendered
        exact html

/-- A note that is found or not is always served as documented. -/
theorem getNote_documented_success :
    ∃ (e : Endpoint NoteStore) (registry : Registry NoteStore) (op : Operation),
      let site : Site NoteStore := { config := {}, services := Notes.services, render := Notes.views.render }
      e.CompiledIn registry ∧ e.operation? = some op ∧
        (∀ request page, site.render request = .ok page → Http.mediaTypeOf page.contentType = "text/html") ∧
        ∀ captures r s, (e.respond site registry captures r s).1.status = 200 →
          (e.respond site registry captures r s).1.mediaType? = op.documented? 200 := by
  have formed := Notes.wellFormed_of_mem (a := Notes.getNote) (by simp [Notes.actions])
  obtain ⟨e, w, events, compiled⟩ := exists_compile_of_wellFormed {} .empty formed
  obtain ⟨-, action, -⟩ := compile_realizes compiled
  obtain ⟨op, shown⟩ := Option.isSome_iff_exists.mp (Notes.operation?_isSome compiled)
  have made : e.CompiledIn w.registry := ⟨_, _, _, w, events, compiled, .refl⟩
  let site : Site NoteStore := { config := {}, services := Notes.services, render := Notes.views.render }
  have html : ∀ request page, site.render request = .ok page →
      Http.mediaTypeOf page.contentType = "text/html" := fun _ _ => Views.mediaTypeOf_render
  obtain ⟨-, -, served⟩ := @Endpoint.documented_success NoteStore e op site w.registry made shown html
  refine ⟨e, w.registry, op, made, shown, html, served (.inr ?_)⟩
  rw [action]
  exact ⟨_, .encoded Notes.noteType.option, rfl, rfl, by decide +kernel⟩

/-- An action that gives a color, by its name. -/
def Notes.color : Action NoteStore where
  method := "GET"
  route := "/color"
  steps := [.ofLogic .function [] (handler [] (.choice "paint::Color" "color" ["red", "green"]) fun _ s => ("red", s))]

/-- The color is served as a text, and this is not what is documented. -/
theorem color_served_otherwise :
    let r : Request := ⟨"GET", ⟨"/color", "/color", none⟩, default, []⟩
    let site : Site NoteStore := { config := {} }
    ∃ (e : Endpoint NoteStore) (w : Workshop NoteStore) (events : List Event) (op : Operation),
      compile {} .empty Notes.color = (.ok e, w, events) ∧ e.operation? = some op ∧
        op.documented? 200 = some "application/json" ∧
        (e.respond site w.registry [] r .empty).1.status = 200 ∧
        (e.respond site w.registry [] r .empty).1.mediaType? = some "text/plain" := by
  intro r site
  have formed : Notes.color.WellFormed := Action.wellFormed_of_prepared rfl rfl ⟨_, rfl⟩
  obtain ⟨e, w, events, compiled⟩ := exists_compile_of_wellFormed {} .empty formed
  have made : e.CompiledIn w.registry := ⟨_, _, _, w, events, compiled, .refl⟩
  have ran : e.Runs site w.registry [] r .empty
      (.ok (.value ⟨.encoded (.choice "paint::Color" "color" ["red", "green"]),
        .choice "paint::Color" "color" ["red", "green"], "red"⟩), .empty) :=
    Endpoint.runs_of_bare compiled rfl site rfl .empty
  have visible : e.operation?.isSome := by
    obtain ⟨⟨parameters, body, rfl⟩, -⟩ := exists_endpoint_of_compile compiled
    rfl
  obtain ⟨op, shown⟩ := Option.isSome_iff_exists.mp visible
  have answer := ran.respond_encoded made (j := .text "red") rfl
  refine ⟨e, w, events, op, compiled, shown, ?_, ?_, ?_⟩
  · rw [(Endpoint.operation?_responses shown).2, ran.success_contentType made]
    decide +kernel
  · rw [answer]
    rfl
  · rw [answer]
    decide +kernel

end HandlerChain
