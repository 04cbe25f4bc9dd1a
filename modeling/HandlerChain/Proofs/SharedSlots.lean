import HandlerChain.Proofs.Compilation
import HandlerChain.Proofs.Encoding
import HandlerChain.Proofs.Placeholders
import HandlerChain.Site.Inputs

/-!
# Bindings that share a slot

Bindings of one kind and type share a slot if their names are the same in full lower case, and the slot is
filled by the spelling that comes first.  A request is searched for names up to the case of ASCII letters.  So a
binding gets what its own spelling would have found if the two spellings differ in the case of such letters
only, and not otherwise: for any two other names there is a request that has one of them.

## Main Definitions

* `Source.SameInput` says that two sources find the same in every request.
* `Source.SpelledAlike` says that they differ in the case of ASCII letters only.
* `Source.NeverSent` are the headers that no request can have.

## Main Results

* `Source.sameInput_iff`: sources of one kind find the same exactly if they are spelled alike.
* `slots_shared`: which bindings share a slot, and when that changes nothing.
* `sharing_changes_input`: bindings that share a slot though a request can tell them apart.
-/

namespace HandlerChain

namespace Http.Headers

/-- A text that can be the name of a header. -/
structure IsName (name : String) : Prop where
  token : isToken name = true
  short : name.length ≤ maxHeaderName

/-- Header fields that a request can have. -/
def Received (h : Headers) : Prop := ∃ fields, ofList fields = .ok h

/-- Whether a text can be the name of a header does not depend on case. -/
theorem IsName.of_lowerAscii_eq {name other : String} (isName : IsName name)
    (same : Text.lowerAscii name = Text.lowerAscii other) : IsName other := by
  have alike : Text.AlikeInCase name.toList other.toList :=
    Text.alikeInCase_iff.mpr (Text.lowerAscii_eq_iff.mp same)
  have length : name.length = other.length := by
    rw [← String.length_toList, alike.length_eq, String.length_toList]
  have chars : name.toList.all isTokenChar = other.toList.all isTokenChar := alike.all_eq (by decide +kernel)
  have token := isName.token
  constructor
  · simp only [isToken, chars, Bool.and_eq_true, Bool.not_eq_true'] at token ⊢
    refine ⟨?_, token.2⟩
    have filled : name ≠ "" := by simpa using token.1
    have filled' : other ≠ "" := by
      rintro rfl
      exact filled (String.length_eq_zero_iff.mp length)
    simpa using filled'
  · exact length ▸ isName.short

/-- The names of the headers of a request are kept in lower case. -/
theorem Received.isName {h : Headers} (received : h.Received) {field : String × List UInt8}
    (member : field ∈ h.fields) : ∃ name, IsName name ∧ field.1 = Text.lowerAscii name := by
  obtain ⟨fields, made⟩ := received
  induction fields generalizing h with
  | nil =>
      cases made
      simp at member
  | cons first rest ih =>
      obtain ⟨name, value⟩ := first
      rw [ofList] at made
      split at made
      · cases made
      · next named =>
          split at made
          · cases made
          · cases more : ofList rest with
            | error cause => simp [more, Except.map] at made
            | ok h' =>
                simp only [more, Except.map, Except.ok.injEq] at made
                subst made
                rcases List.mem_cons.mp member with rfl | later
                · exact ⟨name, ⟨by simp_all, by simp_all⟩, rfl⟩
                · exact ih later more

/-- No request has a header of a name that is none. -/
theorem Received.get?_eq_none {h : Headers} (received : h.Received) {name : String} (noName : ¬IsName name) :
    h.get? name = none := by
  rw [get?, List.lookup_eq_none_iff]
  intro field member
  obtain ⟨spelled, isName, lower⟩ := received.isName member
  rw [lower, bne_iff_ne]
  exact fun same => noName (isName.of_lowerAscii_eq same.symm)

end Http.Headers

/-- A name finds the first entry of a list that has it. -/
theorem lookupName_congr {name other : String} (same : Text.lowerAscii name = Text.lowerAscii other)
    (pairs : List (String × String)) : lookupName name pairs = lookupName other pairs := by
  simp only [lookupName, Text.eqIgnoreAsciiCase, same]

theorem lookupName_singleton (name spelled value : String) :
    lookupName name [(spelled, value)] =
      if Text.lowerAscii spelled = Text.lowerAscii name then some value else none := by
  by_cases same : Text.lowerAscii spelled = Text.lowerAscii name <;>
    simp [lookupName, Text.eqIgnoreAsciiCase, same]

/-- Where every name can stand alone, two names find the same exactly if they differ in case only. -/
theorem lookupName_eq_iff {entries : RequestInput → List (String × String)}
    (alone : ∀ name, ∃ r, entries r = [(name, "")]) {name other : String} :
    (∀ r, lookupName name (entries r) = lookupName other (entries r)) ↔
      Text.lowerAscii name = Text.lowerAscii other := by
  constructor
  · intro agree
    obtain ⟨r, sent⟩ := alone name
    have found := agree r
    rw [sent, lookupName_singleton, if_pos rfl, lookupName_singleton] at found
    by_contra other
    simp [other] at found
  · exact fun same r => lookupName_congr same _

namespace Source

variable {σ : Type}

/-- Two sources find the same in every request. -/
def SameInput : Source σ → Source σ → Prop
  | .route n, .route m => ∀ r : RequestInput, r.routeValue n = r.routeValue m
  | .query n, .query m => ∀ r : RequestInput, r.queryValue n = r.queryValue m
  | .header n, .header m => ∀ h : Http.Headers, h.Received → h.get? n = h.get? m
  | .formValue n, .formValue m => ∀ r : RequestInput, r.formValue n = r.formValue m
  | .custom x, .custom y => x = y
  | .ambient x, .ambient y => x = y
  | a, b => a.kind = b.kind

/-- Two sources are of one kind, and their names differ in the case of ASCII letters only, or they are one
resolver. -/
def SpelledAlike : Source σ → Source σ → Prop
  | .route n, .route m | .query n, .query m | .header n, .header m | .formValue n, .formValue m =>
    Text.lowerAscii n = Text.lowerAscii m
  | .custom x, .custom y => x = y
  | .ambient x, .ambient y => x = y
  | a, b => a.kind = b.kind

/-- A header whose name no request can have. -/
def NeverSent : Source σ → Prop
  | .header n => ¬Http.Headers.IsName n
  | _ => False

/-- Two names find the same header in every request exactly if they differ in case only, or none of them is
the name of a header. -/
theorem header_sameInput_iff {name other : String} :
    (header name : Source σ).SameInput (header other) ↔ Text.lowerAscii name = Text.lowerAscii other ∨
      ¬Http.Headers.IsName name ∧ ¬Http.Headers.IsName other := by
  constructor
  · intro agree
    -- A name that a request can have is told apart by the request that has it and no other.
    have apart : ∀ n m : String, Http.Headers.IsName n →
        (∀ h : Http.Headers, h.Received → h.get? n = h.get? m) → Text.lowerAscii n = Text.lowerAscii m := by
      intro n m isName agree
      have received : Http.Headers.ofList [(n, [])] = .ok ⟨[(Text.lowerAscii n, [])]⟩ := by
        have short := isName.short
        simp [Http.Headers.ofList, isName.token, short, Except.map]
      have found := agree _ ⟨_, received⟩
      by_contra other
      have differs : (Text.lowerAscii m == Text.lowerAscii n) = false := beq_false_of_ne (Ne.symm other)
      simp [Http.Headers.get?, List.lookup_cons, differs] at found
    by_cases isName : Http.Headers.IsName name
    · exact .inl (apart _ _ isName agree)
    · by_cases isName' : Http.Headers.IsName other
      · exact .inl (apart _ _ isName' fun h received => (agree h received).symm).symm
      · exact .inr ⟨isName, isName'⟩
  · rintro (same | ⟨noName, noName'⟩) h received
    · rw [Http.Headers.get?, Http.Headers.get?, same]
    · rw [received.get?_eq_none noName, received.get?_eq_none noName']

/-- **Sources of one kind find the same in every request exactly if they are spelled alike**, or no request
can have them. -/
theorem sameInput_iff {a b : Source σ} (kinds : a.kind = b.kind) :
    a.SameInput b ↔ a.SpelledAlike b ∨ a.NeverSent ∧ b.NeverSent := by
  cases a with
  | route n =>
      cases b with
      | route m =>
          have alone : ∀ name, ∃ r : RequestInput, r.context.routeValues = [(name, "")] := fun name =>
            ⟨⟨⟨"", default, default, [(name, "")]⟩, []⟩, rfl⟩
          simpa [SameInput, SpelledAlike, NeverSent, RequestInput.routeValue] using lookupName_eq_iff alone
      | _ => cases kinds
  | query n =>
      cases b with
      | query m =>
          have alone : ∀ name, ∃ r : RequestInput, r.context.uri.queryPairs = [(name, "")] := fun name => by
            obtain ⟨query, pairs⟩ := Http.Form.exists_queryText name ""
            exact ⟨⟨⟨"", ⟨"", "", some query⟩, default, []⟩, []⟩, pairs⟩
          simpa [SameInput, SpelledAlike, NeverSent, RequestInput.queryValue] using lookupName_eq_iff alone
      | _ => cases kinds
  | formValue n =>
      cases b with
      | formValue m =>
          have alone : ∀ name, ∃ r : RequestInput, Http.Form.parse r.body = [(name, "")] := fun name =>
            ⟨⟨default, Http.Form.pairText name ""⟩, Http.Form.parse_pairText name ""⟩
          simpa [SameInput, SpelledAlike, NeverSent, RequestInput.formValue] using lookupName_eq_iff alone
      | _ => cases kinds
  | header n =>
      cases b with
      | header m => exact header_sameInput_iff
      | _ => cases kinds
  | custom x =>
      cases b with
      | custom y => simp [SameInput, SpelledAlike, NeverSent]
      | _ => cases kinds
  | _ => cases b <;> simp_all [SameInput, SpelledAlike, NeverSent]

theorem exists_route {a : Source σ} (kind : a.kind = .routeParameter) : ∃ name, a = .route name := by
  cases a with
  | route name => exact ⟨name, rfl⟩
  | _ => cases kind

/-- Sources that are spelled alike are of one kind, and their names are the same in full lower case. -/
theorem SpelledAlike.same {a b : Source σ} (alike : a.SpelledAlike b) :
    a.kind = b.kind ∧ Text.lowerCase (a.name?.getD "") = Text.lowerCase (b.name?.getD "") := by
  cases a with
  | route n | query n | header n | formValue n =>
      cases b <;> try cases alike
      exact ⟨rfl, Text.lowerCase_eq_of_lowerAscii_eq alike⟩
  | _ =>
      cases b <;> cases alike
      exact ⟨rfl, rfl⟩

end Source

section

variable {σ : Type} {a : Action σ} {b c : Binding σ}

/-- The names that are read from a route are in ASCII, since its placeholders are. -/
theorem Action.RoutesNamed.ascii (named : a.RoutesNamed) (member : b ∈ a.inputBindings) {name : String}
    (source : b.source = .route name) : ∀ c ∈ name.toList, c.toNat < 0x80 := by
  obtain ⟨⟨step, inside, bound⟩, -⟩ := mem_inputBindings.mp member
  obtain ⟨p, placed, same⟩ := named.named step inside b bound name source
  have alike : Text.AlikeInCase p.name.toList name.toList :=
    Text.alikeInCase_iff.mpr (Text.lowerAscii_eq_iff.mp (Text.eqIgnoreAsciiCase_iff.mp same))
  have together := alike.all_eq (f := fun c => decide (c.toNat < 0x80)) (by decide +kernel)
  have plain : p.name.toList.all (fun c => decide (c.toNat < 0x80)) = true :=
    List.all_eq_true.mpr fun c member =>
      decide_eq_true (Route.isNameRest_lt ((Route.named_of_mem_parameters placed).plain c member))
  rw [together, List.all_eq_true] at plain
  exact fun c member => of_decide_eq_true (plain c member)

/-- Two inputs of an action have one slot exactly if they are the same. -/
theorem Action.slotOf?_eq_iff (first : b ∈ a.inputBindings) (second : c ∈ a.inputBindings) :
    a.plan.slotOf? b = a.plan.slotOf? c ↔ b.identity = c.identity := by
  rw [slotOf?_plan first, slotOf?_plan second, Option.some.injEq, slotOf, slotOf, Nat.add_right_cancel_iff]
  exact List.idxOf_inj (identity_mem_inputs first)

/-- **Which bindings share a slot, and when that changes nothing.**  Bindings of a compiled action that share
a slot are of one kind and type.  They find the same in every request exactly if they are spelled alike, as
all that read the route are, or if no request can have them.  Bindings of one type that are spelled alike
share a slot. -/
theorem slots_shared {config : CompilerConfig} {w w' : Workshop σ} {e : Endpoint σ} {events : List Event}
    (compiled : compile config w a = (.ok e, w', events)) (first : b ∈ a.inputBindings)
    (second : c ∈ a.inputBindings) :
    (a.plan.slotOf? b = a.plan.slotOf? c →
      b.kind = c.kind ∧ b.type.ty = c.type.ty ∧ (b.kind = .routeParameter → b.source.SpelledAlike c.source) ∧
        (b.source.SameInput c.source ↔
          b.source.SpelledAlike c.source ∨ b.source.NeverSent ∧ c.source.NeverSent)) ∧
      (b.type.ty = c.type.ty → b.source.SpelledAlike c.source → a.plan.slotOf? b = a.plan.slotOf? c) := by
  obtain ⟨wellFormed, -⟩ := compile_realizes compiled
  rw [Action.slotOf?_eq_iff first second]
  constructor
  · intro same
    have kinds : b.kind = c.kind := congrArg Identity.kind same
    have names : Text.lowerCase (b.name?.getD "") = Text.lowerCase (c.name?.getD "") :=
      congrArg Identity.discriminator same
    refine ⟨kinds, congrArg Identity.type same, fun route => ?_, Source.sameInput_iff kinds⟩
    obtain ⟨n, source⟩ := b.source.exists_route route
    obtain ⟨m, source'⟩ := c.source.exists_route (kinds.symm.trans route)
    have named := wellFormed.toRoutesNamed
    rw [Binding.name?, Binding.name?, source, source'] at names
    rw [source, source']
    have lower := Text.lowerCase_eq_lowerAscii (named.ascii first source)
    exact lower.symm.trans (names.trans (Text.lowerCase_eq_lowerAscii (named.ascii second source')))
  · intro types alike
    obtain ⟨kinds, names⟩ := alike.same
    rw [Binding.identity, Binding.identity, types, Binding.kind, Binding.kind, kinds, Binding.name?,
      Binding.name?, names]

end

/-- An action that joins two entries of the query. -/
def joinEntries (first second : String) : Action NoteStore :=
  ((Builder.start "GET" "/s")
    |>.withBinding (.query .text first)
    |>.withBinding (.query .text second)
    |>.handledBy (Notes.handler [.text, .text] .text fun (x, y, _) s =>
      (String.append x (String.append "|" y), s))).build

theorem joinEntries_wellFormed (first second : String) : (joinEntries first second).WellFormed := by
  have valid := (joinEntries first second).violations_eq_nil_iff.mp rfl
  refine ⟨valid, (joinEntries first second).strayRouteParameter?_eq_none_iff.mp rfl, ⟨?_, ?_⟩⟩
  · intro step member _ l given
    cases List.mem_singleton.mp member
    cases given
    exact ⟨by decide, rfl, rfl, fun t declared => by cases declared; rfl⟩
  · intro step member renders
    cases List.mem_singleton.mp member
    cases renders

theorem mem_inputBindings_joinEntries (first second : String) :
    .query .text first ∈ (joinEntries first second).inputBindings ∧
      .query .text second ∈ (joinEntries first second).inputBindings :=
  ⟨.head _, .tail _ (.head _)⟩

theorem joinEntries_plan (first second : String) : (joinEntries first second).plan =
    ((Plan.empty : Plan NoteStore).add (.query .text first)).add (.query .text second) := by
  have bound : (joinEntries first second).allBindings = [(0, .query .text first), (0, .query .text second)] := rfl
  rw [Action.plan, bound, List.map_cons, List.map_cons, List.map_nil, List.foldl_cons, List.foldl_cons,
    List.foldl_nil]

/-- Two spellings that differ in the case of ASCII letters share a slot, and find the same. -/
theorem joinEntries_slots_shared :
    let a := joinEntries "Tag" "tag"
    let b : Binding NoteStore := .query .text "Tag"
    let c : Binding NoteStore := .query .text "tag"
    ∃ (e : Endpoint NoteStore) (w : Workshop NoteStore) (events : List Event),
      compile {} .empty a = (.ok e, w, events) ∧ b ∈ a.inputBindings ∧ c ∈ a.inputBindings ∧
        a.plan.slotOf? b = a.plan.slotOf? c ∧ b.source.SameInput c.source := by
  intro a b c
  obtain ⟨e, w, events, compiled⟩ :=
    exists_compile_of_wellFormed {} .empty (joinEntries_wellFormed "Tag" "tag")
  obtain ⟨first, second⟩ := mem_inputBindings_joinEntries "Tag" "tag"
  have alike : b.source.SpelledAlike c.source := Text.lowerAscii_eq_iff.mpr (by decide)
  obtain ⟨reads, shares⟩ := slots_shared compiled first second
  have shared := shares rfl alike
  exact ⟨e, w, events, compiled, first, second, shared, (reads shared).2.2.2.mpr (.inl alike)⟩

/-- The sign of the kelvin is the letter k in full lower case, so two entries of a query share a slot; a
request can have both, and the step that reads the second gets the first. -/
theorem sharing_changes_input :
    let a := joinEntries "\u212a" "k"
    let b : Binding NoteStore := .query .text "\u212a"
    let c : Binding NoteStore := .query .text "k"
    let r : RequestInput := ⟨⟨"GET", ⟨"", "/s", some "k=1&%E2%84%AA=2"⟩, default, []⟩, []⟩
    ∃ (e : Endpoint NoteStore) (w : Workshop NoteStore) (events : List Event),
      compile {} .empty a = (.ok e, w, events) ∧ b ∈ a.inputBindings ∧ c ∈ a.inputBindings ∧
        a.plan.slotOf? b = some 1 ∧ a.plan.slotOf? c = some 1 ∧
          bindAll e.unit.parameters r .empty .empty = .ok ⟨[some ⟨.text, "2"⟩]⟩ ∧
            r.queryValue "k" = some "1" := by
  intro a b c r
  obtain ⟨e, w, events, compiled⟩ :=
    exists_compile_of_wellFormed {} .empty (joinEntries_wellFormed "\u212a" "k")
  obtain ⟨first, second⟩ := mem_inputBindings_joinEntries "\u212a" "k"
  obtain ⟨-, -, realizes, -⟩ := compile_realizes compiled
  have same : b.identity = c.identity := by
    have names : Text.lowerCase "\u212a" = Text.lowerCase "k" := by decide +kernel
    exact congrArg (Identity.mk .queryParameter .text) names
  have plan : a.plan = ⟨[⟨1, b⟩], [(b.identity, 1)]⟩ := by
    have one : (Plan.empty : Plan NoteStore).add b = ⟨[⟨1, b⟩], [(b.identity, 1)]⟩ := rfl
    have two : (⟨[⟨1, b⟩], [(b.identity, 1)]⟩ : Plan NoteStore).add c = ⟨[⟨1, b⟩], [(b.identity, 1)]⟩ :=
      Plan.add_of_isSome (by simp [Plan.slotOf?, same])
    rw [joinEntries_plan, one, two]
  have pairs : r.context.uri.queryPairs = [("k", "1"), ("\u212a", "2")] := by
    show Http.Form.parse (Text.Utf8.encode "k=1&%E2%84%AA=2") = _
    decide +kernel
  have differ : Text.eqIgnoreAsciiCase "k" "\u212a" = false := by
    rw [Bool.eq_false_iff, ne_eq, Text.eqIgnoreAsciiCase_iff, Text.lowerAscii_eq_iff]
    decide
  have kelvin : r.queryValue "\u212a" = some "2" := by
    simp [RequestInput.queryValue, pairs, lookupName, differ, Text.eqIgnoreAsciiCase_self]
  have letter : r.queryValue "k" = some "1" := by
    simp [RequestInput.queryValue, pairs, lookupName, Text.eqIgnoreAsciiCase_self]
  have bound : ∀ ps, Parameter.ofPlanned a.plan.ordered = .ok ps →
      bindAll ps r .empty NoteStore.empty = .ok ⟨[some ⟨.text, "2"⟩]⟩ := by
    rw [plan]
    rintro ps ⟨⟩
    simp only [bindAll, bindFrom, Parameter.bind, Parameter.read, kelvin, readText]
    rfl
  refine ⟨e, w, events, compiled, first, second, ?_, ?_, bound _ realizes.parameters, letter⟩
  · simp [plan, Plan.slotOf?]
  · simp [plan, Plan.slotOf?, same]

end HandlerChain
