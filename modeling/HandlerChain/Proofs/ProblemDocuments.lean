import HandlerChain.Proofs.Results
import HandlerChain.Proofs.Stages

/-!
# What a problem document says

A request that fails is answered with a document that says why, and names the path that was requested.  The
document is text.  It says something definite because the text of a problem can be read in one way only: a
string ends at the first quote that is not escaped, and a number at the comma behind it.

A request fails in one of three ways.  It is rejected before the unit is invoked, the unit fails, or the result
that the unit gives has no encoding.  The first two are served for the request and so name its path.  The third
is found only while the result is served, where the request is out of sight, and the document does not name it.

## Main Definitions

* `Response.Describes` says that a response is the document of a problem.
* `Endpoint.Runs` is what the unit gives for a request, if the request comes to it.
* `Failure` is how a request fails, `Failure.problem` what is said of it.

## Main Results

* `Problem.render_injective`: the text of a problem says which problem it is.
* `Endpoint.respond_describes_iff`: a response is the document of a problem if the request fails, or if a view says
  so.
* `Router.problem_instance`: a problem has the status of its response, and names the path unless the result is
  not encoded.
-/

namespace HandlerChain

/-! ### Texts of strings and numbers -/

namespace Json

/-- The characters that do not stand for themselves in a JSON string. -/
def escaped : List Char := '"' :: '\\' :: (List.range 0x20).map Char.ofNat

theorem escape_of_notMem {c : Char} (plain : c ∉ escaped) : escape c = [c] ∧ c ≠ '"' ∧ c ≠ '\\' := by
  have quote : c ≠ '"' := fun same => plain (by simp [escaped, same])
  have backslash : c ≠ '\\' := fun same => plain (by simp [escaped, same])
  have large : ¬c.toNat < 0x20 := by
    intro small
    refine plain (List.mem_cons_of_mem _ (List.mem_cons_of_mem _ ?_))
    exact List.mem_map.mpr ⟨c.toNat, List.mem_range.mpr small, Char.ofNat_toNat c⟩
  have rest (n : Nat) (small : n < 0x20) : c.toNat ≠ n := by omega
  exact ⟨by simp [escape, quote, backslash, rest, large], quote, backslash⟩

theorem head?_escape_of_mem {c : Char} (special : c ∈ escaped) : (escape c).head? = some '\\' := by
  have all : (escaped.all fun c => (escape c).head? == some '\\') = true := by decide +kernel
  exact beq_iff_eq.mp (List.all_eq_true.mp all c special)

/-- The form of a character begins with a character, and this is no quote. -/
theorem exists_escape_eq_cons (c : Char) : ∃ x rest, escape c = x :: rest ∧ x ≠ '"' := by
  by_cases special : c ∈ escaped
  · obtain ⟨rest, form⟩ := List.head?_eq_some_iff.mp (head?_escape_of_mem special)
    exact ⟨_, rest, form, by decide⟩
  · obtain ⟨itself, quote, -⟩ := escape_of_notMem special
    exact ⟨c, [], itself, quote⟩

/-- The form of a character does not begin that of another one. -/
theorem eq_of_escape_begins {c c' : Char} (begins : escape c <+: escape c') : c = c' := by
  have differ : (escaped.all fun c => escaped.all fun c' => !(escape c).isPrefixOf (escape c') || c == c') = true := by
    decide +kernel
  have heads : (escape c).head? = (escape c').head? := by
    obtain ⟨x, rest, form, -⟩ := exists_escape_eq_cons c
    obtain ⟨rest', same⟩ := begins
    rw [← same, form, List.cons_append, List.head?_cons, List.head?_cons]
  -- Only the forms of special characters begin with a backslash.
  by_cases special : c ∈ escaped <;> by_cases special' : c' ∈ escaped
  · have here := List.all_eq_true.mp (List.all_eq_true.mp differ c special) c' special'
    simpa [List.isPrefixOf_iff_prefix.mpr begins] using here
  · rw [head?_escape_of_mem special, (escape_of_notMem special').1] at heads
    exact absurd (Option.some.inj heads).symm (escape_of_notMem special').2.2
  · rw [head?_escape_of_mem special', (escape_of_notMem special).1] at heads
    exact absurd (Option.some.inj heads) (escape_of_notMem special).2.2
  · simpa [escape_of_notMem special, escape_of_notMem special'] using heads

theorem escape_append_inj {c c' : Char} {t t' : List Char} (same : escape c ++ t = escape c' ++ t') :
    c = c' ∧ t = t' := by
  have one : c = c' := by
    have begins : escape c' <+: escape c ++ t := same ▸ List.prefix_append _ t'
    rcases List.prefix_or_prefix_of_prefix (List.prefix_append _ t) begins with first | second
    · exact eq_of_escape_begins first
    · exact (eq_of_escape_begins second).symm
  subst one
  exact ⟨rfl, List.append_cancel_left same⟩

/-- The first quote behind escaped characters is where they end. -/
theorem flatMap_escape_append_inj {cs cs' t t' : List Char}
    (same : cs.flatMap escape ++ '"' :: t = cs'.flatMap escape ++ '"' :: t') : cs = cs' ∧ t = t' := by
  induction cs generalizing cs' with
  | nil =>
      cases cs' with
      | nil => simpa using same
      | cons c' rest' =>
          obtain ⟨x, form, begins, other⟩ := exists_escape_eq_cons c'
          simp only [List.flatMap_nil, List.nil_append, List.flatMap_cons, begins, List.cons_append,
            List.cons.injEq] at same
          exact absurd same.1.symm other
  | cons c rest ih =>
      cases cs' with
      | nil =>
          obtain ⟨x, form, begins, other⟩ := exists_escape_eq_cons c
          simp only [List.flatMap_nil, List.nil_append, List.flatMap_cons, begins, List.cons_append,
            List.cons.injEq] at same
          exact absurd same.1 other
      | cons c' rest' =>
          rw [List.flatMap_cons, List.flatMap_cons, List.append_assoc, List.append_assoc] at same
          obtain ⟨rfl, behind⟩ := escape_append_inj same
          obtain ⟨rfl, after⟩ := ih behind
          exact ⟨rfl, after⟩

/-- **A string ends where it ends**: what is quoted can be told from what follows. -/
theorem quote_append_inj {s s' : String} {t t' : List Char}
    (same : (quote s).toList ++ t = (quote s').toList ++ t') : s = s' ∧ t = t' := by
  have inside : s.toList.flatMap escape ++ '"' :: t = s'.toList.flatMap escape ++ '"' :: t' := by
    simpa [quote] using same
  obtain ⟨chars, after⟩ := flatMap_escape_append_inj inside
  exact ⟨String.toList_injective chars, after⟩

/-- So does a number, in front of a comma. -/
theorem nat_append_inj {n n' : Nat} {t t' : List Char}
    (same : (render (.nat n)).toList ++ ',' :: t = (render (.nat n')).toList ++ ',' :: t') : n = n' ∧ t = t' := by
  have digits (n : Nat) : (render (.nat n)).toList = Nat.toDigits 10 n := by
    simp only [nat, int, render, Number.render]
    exact Nat.toList_repr
  have front (n : Nat) (t : List Char) :
      (Nat.toDigits 10 n ++ ',' :: t).takeWhile Char.isDigit = Nat.toDigits 10 n := by
    rw [List.takeWhile_append_of_pos fun c member =>
      Nat.isDigit_of_mem_toDigits (by decide) (by decide) member]
    simp [show Char.isDigit ',' = false by decide]
  rw [digits, digits] at same
  have equal : Nat.toDigits 10 n = Nat.toDigits 10 n' := by
    rw [← front n t, same, front]
  have numbers := congrArg (Nat.ofDigitChars 10 · 0) equal
  simp only [Nat.ofDigitChars_toDigits (show 1 < 10 by decide) (show 10 ≤ 10 by decide)] at numbers
  subst numbers
  exact ⟨rfl, by simpa using same⟩

end Json

/-! ### Texts of problems -/

namespace Problem

open Json

/-- The text of a problem, part by part. -/
theorem toList_render (p : Problem) :
    p.toJson.render.toList =
      ("\x7b" ++ quote "type" ++ ":" ++ quote typeUrl ++ "," ++ quote "title" ++ ":").toList ++
        ((quote p.title).toList ++ (("," ++ quote "status" ++ ":").toList ++
          ((render (.nat p.status)).toList ++ ',' :: ((quote "detail" ++ ":").toList ++
            ((quote p.detail).toList ++
              (p.instance?.elim "\x7d" fun path =>
                "," ++ quote "instance" ++ ":" ++ quote path ++ "\x7d").toList))))) := by
  obtain ⟨title, status, detail, _ | path⟩ := p <;> simp [toJson, render, renderMembers]

/-- **The text of a problem says which problem it is.** -/
theorem render_injective : Function.Injective fun p : Problem => p.toJson.render := by
  intro p p' same
  have chars := congrArg String.toList same
  simp only [toList_render] at chars
  obtain ⟨title, chars⟩ := quote_append_inj (List.append_cancel_left chars)
  obtain ⟨status, chars⟩ := nat_append_inj (List.append_cancel_left chars)
  obtain ⟨detail, chars⟩ := quote_append_inj (List.append_cancel_left chars)
  have path : p.instance? = p'.instance? := by
    cases none? : p.instance? <;> cases none?' : p'.instance?
    case none.none => rfl
    case none.some => simp [none?, none?'] at chars
    case some.none => simp [none?, none?'] at chars
    case some.some path path' =>
      have behind : (quote path).toList ++ ['\x7d'] = (quote path').toList ++ ['\x7d'] := by
        simpa [none?, none?'] using chars
      exact congrArg some (quote_append_inj behind).1
  obtain ⟨_, _, _, _⟩ := p
  simp_all

end Problem

/-- A response is the document of a problem. -/
structure Response.Describes (answer : Response) (p : Problem) : Prop where
  contentType : answer.contentType? = some Problem.mediaType
  body : answer.body = p.toJson.render

theorem Response.Describes.unique {answer : Response} {p p' : Problem} (described : answer.Describes p)
    (described' : answer.Describes p') : p = p' :=
  Problem.render_injective (described.body.symm.trans described'.body)

namespace Problem

theorem describes_respond (p : Problem) : p.respond.Describes p := ⟨rfl, rfl⟩

/-- The status of a problem is that of an error. -/
def IsError (p : Problem) : Prop := 400 ≤ p.status ∧ p.status ≤ 599

/-- Such a problem is served under its own status. -/
theorem IsError.respond_status {p : Problem} (isError : p.IsError) : p.respond.status = p.status := by
  obtain ⟨least, greatest⟩ := isError
  exact if_pos (by omega)

theorem isError_ofBinding (e : BindingError) : (ofBinding e).IsError := by
  cases e <;> simp [IsError, ofBinding, internal]

theorem isError_ofDispatch (e : DispatchError) : (ofDispatch e).IsError := by
  cases e <;> simp [IsError, ofDispatch, internal, (isError_ofBinding _).1, (isError_ofBinding _).2]

end Problem

/-! ### Runs -/

namespace Endpoint

variable {σ : Type}

/-- A request comes to the unit, and this is what the unit gives. -/
def Runs (e : Endpoint σ) (site : Site σ) (registry : Registry σ) (captures : List (String × String)) (r : Request)
    (s : σ) (given : Except DispatchError Outcome × σ) : Prop :=
  ∃ values args, e.Admits site captures r s values args ∧
    e.unit.invoke registry args ((r.arrived values).host site.services site.render) s = given

variable {e : Endpoint σ} {site : Site σ} {registry : Registry σ} {captures : List (String × String)} {r : Request}
  {s s' : σ}

/-- What the unit gives is served. -/
theorem Runs.respond_eq (compiled : e.CompiledIn registry) {given : Except DispatchError Outcome × σ}
    (runs : e.Runs site registry captures r s given) :
    (e.respond site registry captures r s).1 =
      match given.1 with
      | .ok outcome => outcome.respond
      | .error error => r.fail (.ofDispatch error) := by
  obtain ⟨values, args, admits, rfl⟩ := runs
  rw [admits.respond_eq compiled.realizes.2]
  rcases e.unit.invoke registry args ((r.arrived values).host site.services site.render) s with ⟨_ | _, _⟩ <;> rfl

/-- It is the result that the handlers leave, as it is or shown. -/
theorem Runs.exists_deliver (compiled : e.CompiledIn registry) {given : Except DispatchError Outcome × σ}
    (runs : e.Runs site registry captures r s given) :
    ∃ values args, let host := (r.arrived values).host site.services site.render
      given = e.action.deliver host (e.action.result args host s) := by
  obtain ⟨values, args, -, rfl⟩ := runs
  obtain ⟨wellFormed, realizes⟩ := compiled.realizes
  refine ⟨values, args, ?_⟩
  rw [realizes.invoke_eq_meaning wellFormed.toValid]
  exact wellFormed.meaning_eq_deliver args _ s

/-- A page is what a view gave for a target of the action. -/
theorem Runs.of_rendered (compiled : e.CompiledIn registry) {page : Rendered}
    (runs : e.Runs site registry captures r s (.ok (.rendered page), s')) :
    e.action.finalRenderTarget?.isSome ∧ ∃ request, site.render request = .ok page := by
  obtain ⟨values, args, given⟩ := runs.exists_deliver compiled
  obtain ⟨t, v, s'', target, -, shown⟩ := Action.exists_of_deliver_eq_rendered given.symm
  refine ⟨Option.isSome_of_eq_some target, ⟨t.kind, t.target, v⟩, ?_⟩
  have given : (site.render ⟨t.kind, t.target, v⟩).mapError DispatchError.view = .ok page :=
    congrArg Prod.fst shown
  cases rendered : site.render ⟨t.kind, t.target, v⟩ with
  | error cause => simp [rendered, Except.mapError] at given
  | ok page' => simpa [rendered, Except.mapError] using given

/-- A result that is not shown is that of the last handler. -/
theorem Runs.of_value (compiled : e.CompiledIn registry) {v : TypedValue}
    (runs : e.Runs site registry captures r s (.ok (.value v), s')) :
    e.action.finalRenderTarget? = none ∧ ∃ step l, e.action.lastHandler? = some step ∧ step.Leaves l v := by
  obtain ⟨values, args, given⟩ := runs.exists_deliver compiled
  obtain ⟨unseen, left⟩ := Action.deliver_eq_value_iff.mp given.symm
  exact ⟨unseen, compiled.realizes.1.leaves_of_result left⟩

end Endpoint

/-- A request without a body, to an endpoint whose action reads no inputs, comes to the unit. -/
theorem Endpoint.runs_of_bare {σ : Type} {config : CompilerConfig} {w w' : Workshop σ} {a : Action σ} {e : Endpoint σ}
    {events : List Event} (compiled : compile config w a = (.ok e, w', events)) (bare : a.plan.bindings = [])
    (site : Site σ) {r : Request} (empty : r.body = []) (s : σ) :
    e.Runs site w'.registry [] r s
      (a.meaning (.ofValues []) ((r.arrived []).host site.services site.render) s) := by
  obtain ⟨wellFormed, -, realizes, -⟩ := compile_realizes compiled
  have none : e.unit.parameters = [] := by
    have made := realizes.parameters
    rw [Plan.ordered, List.map_eq_nil_iff.mp bare] at made
    exact (Except.ok.inj made).symm
  have admits : e.Admits site [] r s [] (.ofValues []) := by
    refine ⟨rfl, ?_, by rw [empty]; rfl, by rw [none]; rfl, fun p member => by simp [none] at member⟩
    rw [empty]
    exact Nat.zero_le _
  exact ⟨[], .ofValues [], admits, realizes.invoke_eq_meaning wellFormed.toValid _ _ s⟩

/-! ### Failures -/

/-- How a request to an endpoint fails: before the unit is invoked, in the unit, or with a result that is not
encoded. -/
inductive Failure where
  | binding (error : BindingError)
  | dispatch (error : DispatchError)
  | encoding (cause : EncodeError)

namespace Failure

/-- What is said of a failed request for a path. -/
def problem (path : String) : Failure → Problem
  | binding error => (Problem.ofBinding error).withInstance path
  | dispatch error => (Problem.ofDispatch error).withInstance path
  | encoding cause => Problem.ofDispatch (.encode cause)

theorem isError_problem (path : String) (failure : Failure) : (failure.problem path).IsError := by
  cases failure with
  | binding error => exact Problem.isError_ofBinding error
  | dispatch error => exact Problem.isError_ofDispatch error
  | encoding cause => exact Problem.isError_ofDispatch (.encode cause)

/-- **Only of a result that is not encoded it is not said what was requested.** -/
theorem problem_instance_iff (path : String) (failure : Failure) :
    (failure.problem path).instance? = some path ↔ ∀ cause, failure ≠ .encoding cause := by
  cases failure <;> simp [problem, Problem.withInstance, Problem.ofDispatch, Problem.internal]

end Failure

namespace Endpoint

variable {σ : Type}

/-- A request fails at an endpoint. -/
inductive Fails (e : Endpoint σ) (site : Site σ) (registry : Registry σ) (captures : List (String × String))
    (r : Request) (s : σ) : Failure → Prop where
  | rejected {error : BindingError} (rejects : e.Rejects site captures r s error) :
      Fails e site registry captures r s (.binding error)
  | failed {error : DispatchError} {s' : σ} (ran : e.Runs site registry captures r s (.error error, s')) :
      Fails e site registry captures r s (.dispatch error)
  | unencoded {v : TypedValue} {cause : EncodeError} {s' : σ}
      (ran : e.Runs site registry captures r s (.ok (.value v), s')) (refused : v.encode = .error cause) :
      Fails e site registry captures r s (.encoding cause)

variable {e : Endpoint σ} {site : Site σ} {registry : Registry σ} {captures : List (String × String)} {r : Request}
  {s : σ}

theorem Fails.respond_eq (compiled : e.CompiledIn registry) {failure : Failure}
    (fails : e.Fails site registry captures r s failure) :
    (e.respond site registry captures r s).1 = (failure.problem r.uri.path).respond := by
  cases fails with
  | rejected rejects => rw [rejects.respond_eq compiled.realizes.2]; rfl
  | failed ran => exact ran.respond_eq compiled
  | unencoded ran refused =>
      rw [ran.respond_eq compiled]
      simp only [Outcome.respond, refused]
      rfl

/-- A request fails, or what the unit gives is served as a page or in its encoding. -/
theorem fails_or_serves (compiled : e.CompiledIn registry) :
    (∃ failure, e.Fails site registry captures r s failure) ∨
    (∃ page s', e.Runs site registry captures r s (.ok (.rendered page), s')) ∨
    ∃ v j s', e.Runs site registry captures r s (.ok (.value v), s') ∧ v.encode = .ok j := by
  have total : (∃ error, e.Rejects site captures r s error) ∨
      ∃ values args, e.Admits site captures r s values args := rejects_or_admits compiled.realizes.2
  rcases total with ⟨error, rejects⟩ | ⟨values, args, admits⟩
  · exact .inl ⟨_, .rejected rejects⟩
  · rcases ran : e.unit.invoke registry args ((r.arrived values).host site.services site.render) s with
      ⟨error | v | page, s'⟩
    · exact .inl ⟨_, .failed ⟨values, args, admits, ran⟩⟩
    · cases encoded : v.encode with
      | error cause => exact .inl ⟨_, .unencoded ⟨values, args, admits, ran⟩ encoded⟩
      | ok j => exact .inr (.inr ⟨v, j, s', ⟨values, args, admits, ran⟩, encoded⟩)
    · exact .inr (.inl ⟨page, s', values, args, admits, ran⟩)

end Endpoint

/-- An encoded result is no problem. -/
theorem respondJson_contentType_ne (j : Json) : (respondJson j).contentType? ≠ some Problem.mediaType := by
  cases j <;> simp [respondJson, Response.ok, Response.empty, Response.json, Problem.mediaType]

/-- A page is a problem only if its view says so. -/
theorem Rendered.contentType_of_describes {page : Rendered} {p : Problem} (described : page.respond.Describes p) :
    page.contentType = Problem.mediaType := by
  have type := described.contentType
  simp only [Rendered.respond, Response.ok, Option.some.injEq] at type
  split at type
  · exact type
  · simp [Problem.mediaType] at type

/-- **A response is the document of a problem exactly if the request fails and this is its problem**, unless a
view gives its pages the type of these documents. -/
theorem Endpoint.respond_describes_iff {σ : Type} {e : Endpoint σ} {site : Site σ} {registry : Registry σ}
    {captures : List (String × String)} {r : Request} {s : σ} (compiled : e.CompiledIn registry) (p : Problem) :
    (e.respond site registry captures r s).1.Describes p ↔
      (∃ failure, e.Fails site registry captures r s failure ∧ p = failure.problem r.uri.path) ∨
      ∃ page s', e.Runs site registry captures r s (.ok (.rendered page), s') ∧
        page.contentType = Problem.mediaType ∧ page.respond.Describes p := by
  constructor
  · intro described
    rcases fails_or_serves compiled with ⟨failure, fails⟩ | ⟨page, s', ran⟩ | ⟨v, j, s', ran, encoded⟩
    · rw [fails.respond_eq compiled] at described
      exact .inl ⟨failure, fails, described.unique (Problem.describes_respond _)⟩
    · rw [ran.respond_eq compiled] at described
      exact .inr ⟨page, s', ran, Rendered.contentType_of_describes described, described⟩
    · rw [ran.respond_eq compiled] at described
      simp only [Outcome.respond, encoded] at described
      exact absurd described.contentType (respondJson_contentType_ne j)
  · rintro (⟨failure, fails, rfl⟩ | ⟨page, s', ran, -, described⟩)
    · rw [fails.respond_eq compiled]
      exact Problem.describes_respond _
    · rw [ran.respond_eq compiled]
      exact described

section

variable {σ : Type} {site : Site σ} {router : Router σ} {registryOf : Endpoint σ → Registry σ} {e : Endpoint σ}
  {r : Request} {methods : MethodTable σ} {captures : List (String × String)} {s : σ}

/-- **A problem has the status of its response, and names the path unless the result is not encoded.**  This is
so of every request that is routed to an endpoint and of each way in which it can fail there.  What else looks
like a problem is a page to which a view gave the type of one.  Of the response of the endpoint the method may
keep the body back. -/
theorem Router.problem_instance (routed : site.router? = .ok router) (compiled : e.CompiledIn (registryOf e))
    (found : router.table.find? r.uri.path = some (methods, captures))
    (served : methods.find? r.method = some (.endpoint e)) :
    let answer := (e.respond site (registryOf e) captures r s).1
    (router.respondWith registryOf r s).1 = answer.forMethod r.method ∧
    (∀ failure, e.Fails site (registryOf e) captures r s failure →
      answer.Describes (failure.problem r.uri.path)) ∧
    ∀ p, answer.Describes p →
      (∃ failure, e.Fails site (registryOf e) captures r s failure ∧ p = failure.problem r.uri.path ∧
        p.status = answer.status ∧ (p.instance? = some r.uri.path ↔ ∀ cause, failure ≠ .encoding cause)) ∨
      ∃ page s' request, e.Runs site (registryOf e) captures r s (.ok (.rendered page), s') ∧
        site.render request = .ok page ∧ page.contentType = Problem.mediaType := by
  intro answer
  have describes (p : Problem) : answer.Describes p ↔ _ := Endpoint.respond_describes_iff compiled p
  refine ⟨?answered, ?failed, ?described⟩
  case answered => rw [respondWith_endpoint routed found served]
  case failed =>
    intro failure fails
    exact (describes _).mpr (.inl ⟨failure, fails, rfl⟩)
  case described =>
    intro p described
    rcases (describes p).mp described with ⟨failure, fails, rfl⟩ | ⟨page, s', ran, type, -⟩
    · refine .inl ⟨failure, fails, rfl, ?_, failure.problem_instance_iff _⟩
      simp only [answer, fails.respond_eq compiled, (failure.isError_problem _).respond_status]
    · obtain ⟨-, request, rendered⟩ := ran.of_rendered compiled
      exact .inr ⟨page, s', request, ran, rendered, type⟩

end

/-- A request for a note that breaks off is told so under its path. -/
theorem getNote_problem_instance :
    let r : Request := ⟨"GET", ⟨"/notes/5", "/notes/5", none⟩, default, [.data [0x78], .failure (.root "reset")]⟩
    ∃ (e : Endpoint NoteStore) (registry : Registry NoteStore) (router : Router NoteStore)
        (methods : MethodTable NoteStore),
      let site : Site NoteStore := { config := { documented := false }, endpoints := [e] }
      site.router? = .ok router ∧ e.CompiledIn registry ∧
      router.table.find? r.uri.path = some (methods, [("id", "5")]) ∧
      methods.find? r.method = some (.endpoint e) ∧
      (e.respond site registry [("id", "5")] r .empty).1.Describes
        ⟨"Bad Request", 400, "request body could not be read: reset", some "/notes/5"⟩ := by
  intro r
  obtain ⟨e, w, events, router, methods, -, compiled, routed, found, served, decoded, -⟩ :=
    Notes.exists_getNote_numbered
  let site : Site NoteStore := { config := { documented := false }, endpoints := [e] }
  have fits : (Chunk.received r.body).length ≤ site.config.bodyLimit := show 1 ≤ 2 * 1024 * 1024 by decide
  have broken : e.Rejects site [("id", "5")] r .empty ((Fault.root "reset").answer site.config.bodyLimit) :=
    .broken decoded fits rfl
  have rejects : e.Rejects site [("id", "5")] r .empty (.bodyRead "reset") := broken
  have compiledIn : e.CompiledIn w.registry := ⟨_, _, _, w, events, compiled, .refl⟩
  refine ⟨e, w.registry, router, methods, routed, compiledIn, found, served, ?_⟩
  have problems := @Router.problem_instance NoteStore site router (fun _ => w.registry) e r methods
    [("id", "5")] .empty routed compiledIn found served
  exact problems.2.1 _ (.rejected rejects)

/-- An action that gives the largest number of its type. -/
def Notes.largest : Action NoteStore where
  method := "GET"
  route := "/big"
  steps := [.ofLogic .function [] (handler [] (.int .u128) fun _ s => (IntKind.wrap .u128 (-1), s))]

/-- The number has no encoding, and the document of this problem does not say for which path. -/
theorem largest_problem_unnamed :
    let r : Request := ⟨"GET", ⟨"/big", "/big", none⟩, default, []⟩
    ∃ (e : Endpoint NoteStore) (w : Workshop NoteStore) (events : List Event) (router : Router NoteStore)
        (methods : MethodTable NoteStore),
      let site : Site NoteStore := { config := { documented := false }, endpoints := [e] }
      compile {} .empty Notes.largest = (.ok e, w, events) ∧ site.router? = .ok router ∧
      router.table.find? r.uri.path = some (methods, []) ∧ methods.find? r.method = some (.endpoint e) ∧
      (router.respondWith (fun _ => w.registry) r .empty).1.Describes
        ⟨"Internal Server Error", 500, "number out of range", none⟩ ∧
      ∀ p, (router.respondWith (fun _ => w.registry) r .empty).1.Describes p → p.instance? ≠ some r.uri.path := by
  intro r
  have formed : Notes.largest.WellFormed := Action.wellFormed_of_prepared rfl rfl ⟨_, rfl⟩
  obtain ⟨e, w, events, compiled⟩ := exists_compile_of_wellFormed {} .empty formed
  obtain ⟨-, action, -⟩ := compile_realizes compiled
  let site : Site NoteStore := { config := { documented := false }, endpoints := [e] }
  let methods : MethodTable NoteStore :=
    ⟨[(e.action.method, .endpoint e)], MethodTable.allowedBy e.action.method⟩
  let router : Router NoteStore := ⟨site, ⟨[⟨e.path, "/big".toList.map .literal, methods⟩]⟩⟩
  have path : e.path = "/big" := by
    rw [Endpoint.path, action]
    decide +kernel
  have routed : site.router? = .ok router :=
    Site.router?_singleton rfl (by rw [path]; decide +kernel) (by rw [path]; decide +kernel)
  have found : router.table.find? r.uri.path = some (methods, []) := by
    simp [router, r, Route.Table.find?, Route.search, Route.behindLiteral, Route.finished?, Route.captureNames]
  have served : methods.find? r.method = some (.endpoint e) := by
    simp only [methods, action]
    rfl
  have ran : e.Runs site w.registry [] r .empty
      (.ok (.value ⟨.encoded (.int .u128), .int .u128, IntKind.wrap .u128 (-1)⟩), .empty) :=
    Endpoint.runs_of_bare compiled rfl site rfl .empty
  have fails : e.Fails site w.registry [] r .empty (.encoding (.refused "number out of range")) :=
    .unencoded ran rfl
  have described : (router.respondWith (fun _ => w.registry) r .empty).1.Describes
      ⟨"Internal Server Error", 500, "number out of range", none⟩ := by
    rw [Router.respondWith_endpoint routed found served, fails.respond_eq ⟨_, _, _, w, events, compiled, .refl⟩]
    exact ⟨rfl, rfl⟩
  refine ⟨e, w, events, router, methods, compiled, routed, found, served, described, fun p other => ?_⟩
  rw [other.unique described]
  simp

end HandlerChain
