import HandlerChain.Proofs.DocumentPaths
import HandlerChain.Proofs.Spelling

/-!
# Templates and their paths

The path of a template has the placeholders of the template, bare: without constraints and question marks, and
with one star at most.  Making a path of a path changes nothing, as a placeholder in its bare form is shorter
than it was, but no brace that began none begins one now.  Such a brace would have to stand before a placeholder,
with all that is between them in a constraint; but then the placeholder itself, with its constraint and its
question mark, would have been the end of that constraint before.

## Main Definitions

* `Route.Spelling.bare` and `Route.Parameter.bare` are placeholders in the form that a path has them.
* `Route.Part` is a part of a template as it is written.

## Main Results

* `Route.normalize_stable`: a path is its own path, and has the placeholders and the shape of its template.
* `Route.parameters_written`: what is written is read, in the template, in its path, and in what a document shows.
-/

namespace HandlerChain.Route

section

variable {c : Char} {cs rest front : List Char} {ps : List Piece}

/-- A placeholder in the form that a path has it. -/
def Parameter.bare (p : Parameter) : Parameter := { p with constraint := none, optional := false }

/-- A piece in the form that a path has it. -/
def Piece.bare : Piece → Piece
  | .literal c => .literal c
  | .parameter p => .parameter p.bare

/-- The spelling of a placeholder in a path. -/
def Spelling.bare (s : Spelling) : Spelling where
  stars := min s.stars 1
  name := s.name
  constraint? := none
  optional := false
  few := (Nat.min_le_right _ _).trans (by decide)
  named := s.named
  constrained := by simp

theorem Spelling.parameter_bare (s : Spelling) : s.bare.parameter = s.parameter.bare := by
  simp [Spelling.bare, Spelling.parameter, Parameter.bare]

theorem Spelling.routed (s : Spelling) : Piece.routed (.parameter s.parameter) = '{' :: s.bare.body := by
  obtain ⟨stars, name, _, _, _, _, _⟩ := s
  cases stars <;>
    simp [Piece.routed, Spelling.parameter, Spelling.bare, Spelling.body, Spelling.constraintPart,
      Spelling.closing]

/-! ### Where a brace begins no placeholder -/

/-- A brace that is not in the first part is in the second. -/
theorem exists_of_append_eq {as bs : List Char} (absent : '{' ∉ as) (same : as ++ bs = front ++ '{' :: rest) :
    ∃ between, front = as ++ between ∧ bs = between ++ '{' :: rest := by
  rcases List.append_eq_append_iff.mp same with ⟨between, rfl, spelled⟩ | ⟨between, rfl, spelled⟩
  · exact ⟨between, rfl, spelled⟩
  · cases between with
    | nil => exact ⟨[], by simp, by simpa using spelled.symm⟩
    | cons d between =>
        obtain ⟨rfl, -⟩ := List.cons.inj spelled
        simp at absent

theorem isConstraint_of_isNameRest (plain : isNameRest c = true) : isConstraint c = true := by
  have closes : c ≠ '}' := (isNameRest_ne plain).2.1
  have asks : c ≠ '?' := by
    rintro rfl
    exact absurd plain (by decide)
  simp [isConstraint, closes, asks]

/-- A brace among the characters of a placeholder is in its constraint. -/
theorem Spelling.exists_constraint_of_brace {s : Spelling} (spelled : s.body = front ++ '{' :: rest) :
    ∃ text, front = List.replicate s.stars '*' ++ (s.name ++ ':' :: text) ∧
      ∀ c ∈ text, isConstraint c = true := by
  have closing : '{' ∉ s.closing := by
    unfold Spelling.closing
    cases s.optional <;> simp
  have nameless : '{' ∉ List.replicate s.stars '*' ++ s.name := by
    rw [List.mem_append, List.mem_replicate]
    rintro (⟨-, star⟩ | member)
    · cases star
    · exact (isNameRest_ne (s.named.goesOn _ member)).1 rfl
  rw [Spelling.body, ← List.append_assoc] at spelled
  obtain ⟨between, rfl, behind⟩ := exists_of_append_eq nameless spelled
  rw [Spelling.constraintPart] at behind
  cases written : s.constraint? with
  | none =>
      rw [written] at behind
      simp only [Option.map_none, Option.getD_none, List.nil_append] at behind
      exact absurd (behind ▸ by simp) closing
  | some constraint =>
      rw [written] at behind
      simp only [Option.map_some, Option.getD_some, List.cons_append] at behind
      cases between with
      | nil => cases behind
      | cons d text =>
          obtain ⟨rfl, tail⟩ := List.cons.inj behind
          refine ⟨text, by simp, fun c member => s.constrained constraint written c ?_⟩
          rcases List.append_eq_append_iff.mp tail with ⟨more, -, ends⟩ | ⟨more, rfl, -⟩
          · exact absurd (ends ▸ by simp) closing
          · exact List.mem_append_left more member

/-- All that stands before the end of a placeholder may stand in a constraint. -/
theorem Spelling.isConstraint_of_mem {s : Spelling}
    (member : c ∈ List.replicate s.stars '*' ++ (s.name ++ s.constraintPart)) : isConstraint c = true := by
  rw [List.mem_append, List.mem_append, List.mem_replicate] at member
  rcases member with ⟨-, rfl⟩ | name | constraint
  · decide
  · exact isConstraint_of_isNameRest (s.named.goesOn c name)
  · rw [Spelling.constraintPart] at constraint
    cases written : s.constraint? with
    | none => simp [written] at constraint
    | some text =>
        simp only [written, Option.map_some, Option.getD_some, List.mem_cons] at constraint
        rcases constraint with rfl | inside
        · decide
        · exact s.constrained text written c inside

/-- **A placeholder that would reach a brace would reach over a whole placeholder behind it**: what is between
the two and the placeholder itself would be its constraint, and the end of the one would be that of the other. -/
theorem Spelling.exists_over {s : Spelling} (spelled : s.body ++ cs = front ++ '{' :: rest) (inner : Spelling)
    (behind : List Char) :
    ∃ (outer : Spelling) (left : List Char), front ++ '{' :: (inner.body ++ behind) = outer.body ++ left := by
  rcases List.append_eq_append_iff.mp spelled with ⟨more, rfl, -⟩ | ⟨more, inside, whole⟩
  · exact ⟨s, _, List.append_assoc ..⟩
  · cases more with
    | nil => exact ⟨s, '{' :: (inner.body ++ behind), by rw [inside, List.append_nil]⟩
    | cons d more =>
        obtain ⟨rfl, -⟩ := List.cons.inj whole
        obtain ⟨text, rfl, plain⟩ := Spelling.exists_constraint_of_brace inside
        refine ⟨{ s with
          constraint? := some (text ++ '{' ::
            (List.replicate inner.stars '*' ++ (inner.name ++ inner.constraintPart)))
          optional := inner.optional
          constrained := ?_ }, behind, ?_⟩
        · rintro constraint ⟨⟩ c member
          rw [List.mem_append, List.mem_cons] at member
          rcases member with before | rfl | within
          · exact plain c before
          · decide
          · exact inner.isConstraint_of_mem within
        · simp [Spelling.body, Spelling.constraintPart, Spelling.closing]

/-- The path of what is read: up to the first placeholder, it is what is read. -/
theorem Reads.exists_seam (reads : Reads cs ps) :
    cs = ps.flatMap Piece.routed ∨
      ∃ front s behind more, cs = front ++ '{' :: (Spelling.body s ++ behind) ∧
        ps.flatMap Piece.routed = front ++ '{' :: more := by
  induction reads with
  | nil => exact .inl rfl
  | @plain c cs ps _ _ ih =>
      rcases ih with same | ⟨front, s, behind, more, rfl, routed⟩
      · exact .inl (congrArg (c :: ·) same)
      · exact .inr ⟨c :: front, s, behind, more, rfl, congrArg (c :: ·) routed⟩
  | @brace cs ps _ _ ih =>
      rcases ih with same | ⟨front, s, behind, more, rfl, routed⟩
      · exact .inl (congrArg ('{' :: ·) same)
      · exact .inr ⟨'{' :: front, s, behind, more, rfl, congrArg ('{' :: ·) routed⟩
  | @placeholder s cs ps _ _ =>
      refine .inr ⟨[], s, cs, s.bare.body ++ ps.flatMap Piece.routed, rfl, ?_⟩
      rw [List.flatMap_cons, s.routed]
      rfl

/-- **Reading the path of what is read gives the same pieces**, bare. -/
theorem Reads.routed (reads : Reads cs ps) : Reads (ps.flatMap Piece.routed) (ps.map Piece.bare) := by
  induction reads with
  | nil => exact .nil
  | plain other _ ih => exact .plain other ih
  | @brace cs ps unspelled reads ih =>
      refine .brace (fun s rest spelled => ?_) ih
      rcases reads.exists_seam with same | ⟨front, inner, behind, more, rfl, routed⟩
      · exact unspelled s rest (same.trans spelled)
      · obtain ⟨outer, left, reached⟩ := Spelling.exists_over (spelled.symm.trans routed) inner behind
        exact unspelled outer left reached
  | @placeholder s cs ps _ ih =>
      rw [List.flatMap_cons, s.routed, List.map_cons, Piece.bare, ← s.parameter_bare]
      exact .placeholder s.bare ih

/-! ### Paths of templates -/

theorem Piece.routed_bare (x : Piece) : Piece.routed x.bare = Piece.routed x := by
  cases x <;> rfl

theorem flatMap_routed_bare (ps : List Piece) :
    (ps.map Piece.bare).flatMap Piece.routed = ps.flatMap Piece.routed := by
  rw [List.flatMap_map]
  exact List.flatMap_congr fun x _ => x.routed_bare

/-- The parameter that a piece is, if it is one. -/
def Piece.parameter? : Piece → Option Parameter
  | .literal _ => none
  | .parameter p => some p

theorem parameters_eq (template : String) :
    parameters template = (pieces template).filterMap Piece.parameter? :=
  List.filterMap_congr fun x _ => by cases x <;> rfl

theorem filterMap_parameter?_bare (ps : List Piece) :
    (ps.map Piece.bare).filterMap Piece.parameter? = (ps.filterMap Piece.parameter?).map Parameter.bare := by
  rw [List.filterMap_map, List.map_filterMap]
  exact List.filterMap_congr fun x _ => by cases x <;> rfl

theorem withSlash_eq (cs : List Char) : withSlash cs = if cs.head? = some '/' then cs else '/' :: cs := by
  unfold withSlash
  split
  · rfl
  · rename_i other
    rw [if_neg fun slash => ?_]
    obtain ⟨rest, rfl⟩ := List.head?_eq_some_iff.mp slash
    exact other rest rfl

theorem withSlash_withSlash (cs : List Char) : withSlash (withSlash cs) = withSlash cs := by
  simp only [withSlash_eq]
  split <;> simp_all

/-- The pieces of a path are those of its template, bare, behind the slash that was added. -/
theorem pieces_normalize (template : String) :
    ∃ lead, (∀ x ∈ lead, x = .literal '/') ∧
      pieces (normalize template) = lead ++ (pieces template).map Piece.bare ∧
      withSlash ((pieces template).flatMap Piece.routed) =
        lead.flatMap Piece.routed ++ (pieces template).flatMap Piece.routed := by
  have reads : Reads ((pieces template).flatMap Piece.routed) ((pieces template).map Piece.bare) :=
    (pieces_eq_iff.mp rfl).routed
  simp only [pieces_eq_iff, normalize, String.toList_ofList]
  rcases withSlash_cases ((pieces template).flatMap Piece.routed) with same | added
  · exact ⟨[], by simp, by rwa [same], same⟩
  · exact ⟨[.literal '/'], by simp, by rw [added]; exact .plain (by decide) reads, added⟩

/-- **Normalization is stable**, whatever the template: the path of a path is that path; a path has the
placeholders of its template, bare; and a path has the shape of its template. -/
theorem normalize_stable (template : String) :
    normalize (normalize template) = normalize template ∧
      parameters (normalize template) = (parameters template).map Parameter.bare ∧
      shape (normalize template) = shape template := by
  obtain ⟨lead, slashes, divided, slashed⟩ := pieces_normalize template
  have idempotent : normalize (normalize template) = normalize template := by
    rw [normalize, divided, List.flatMap_append, flatMap_routed_bare, ← slashed, withSlash_withSlash,
      ← normalize]
  refine ⟨idempotent, ?_, by rw [shape, idempotent, ← shape]⟩
  have none : lead.filterMap Piece.parameter? = [] := by
    rw [List.filterMap_eq_nil_iff]
    intro x member
    rw [slashes x member]
    rfl
  rw [parameters_eq, parameters_eq, divided, List.filterMap_append, none, List.nil_append,
    filterMap_parameter?_bare]

-- A brace that began no placeholder comes to stand right before a bare one, and still begins none.
example : normalize "/\x7b*\x7ba:\x7bint?\x7d" = "/\x7b*\x7ba\x7d" := by decide +kernel

/-! ### Templates that are put together from parts -/

/-- A part of a template as it is written: text without opening braces, or a placeholder. -/
inductive Part where
  | text (cs : List Char) (plain : '{' ∉ cs)
  | placeholder (s : Spelling)

namespace Part

/-- The characters of a part. -/
def written : Part → List Char
  | text cs _ => cs
  | placeholder s => '{' :: s.body

/-- The parameter that a part stands for, if it does. -/
def parameter? : Part → Option Parameter
  | text _ _ => none
  | placeholder s => some s.parameter

/-- A part in a path: text is left alone, and a placeholder is its name in braces, behind a star if it takes the
rest. -/
def path : Part → List Char
  | text cs _ => cs
  | placeholder s => if s.stars = 0 then '{' :: (s.name ++ ['}']) else '{' :: '*' :: (s.name ++ ['}'])

/-- The template that some parts make. -/
def template (parts : List Part) : String := String.ofList (parts.flatMap written)

/-- The pieces that a part is read as. -/
def pieces : Part → List Piece
  | text cs _ => cs.map .literal
  | placeholder s => [.parameter s.parameter]

end Part

theorem Reads.text_append (reads : Reads cs ps) {text : List Char} (plain : '{' ∉ text) :
    Reads (text ++ cs) (text.map .literal ++ ps) := by
  induction text with
  | nil => exact reads
  | cons c text ih =>
      rw [List.mem_cons, not_or] at plain
      exact .plain (Ne.symm plain.1) (ih plain.2)

/-- Parts are read one by one. -/
theorem Part.reads_written (parts : List Part) : Reads (parts.flatMap written) (parts.flatMap pieces) := by
  induction parts with
  | nil => exact .nil
  | cons part parts ih =>
      rw [List.flatMap_cons, List.flatMap_cons]
      cases part with
      | text cs plain => exact ih.text_append plain
      | placeholder s => exact .placeholder s ih

theorem Part.pieces_template (parts : List Part) : Route.pieces (template parts) = parts.flatMap pieces := by
  rw [pieces_eq_iff, template, String.toList_ofList]
  exact reads_written parts

theorem Part.routed_pieces (part : Part) : part.pieces.flatMap Piece.routed = part.path := by
  cases part with
  | text cs _ => simp [pieces, path, List.flatMap_map, Piece.routed]
  | placeholder s =>
      rcases Nat.eq_zero_or_pos s.stars with none | some
      · simp [pieces, path, Piece.routed, Spelling.parameter, none]
      · simp [pieces, path, Piece.routed, Spelling.parameter, some, Nat.pos_iff_ne_zero.mp some]

theorem Part.filterMap_pieces (part : Part) :
    part.pieces.filterMap Piece.parameter? = part.parameter?.toList := by
  cases part with
  | text cs _ => simp [pieces, parameter?, List.filterMap_map, Function.comp_def, Piece.parameter?]
  | placeholder s => rfl

theorem Part.parameters_template (parts : List Part) :
    parameters (template parts) = parts.filterMap parameter? := by
  rw [parameters_eq, pieces_template, List.filterMap_flatMap, List.filterMap_eq_flatMap_toList]
  simp only [filterMap_pieces]

theorem Part.normalize_template (parts : List Part) :
    normalize (template parts) = String.ofList (withSlash (parts.flatMap path)) := by
  rw [normalize, pieces_template, List.flatMap_assoc]
  simp only [routed_pieces]

/-- A part in a document, where a placeholder is its name in braces. -/
def Part.shown : Part → Part
  | text cs plain => text cs plain
  | placeholder s => placeholder { s.bare with stars := 0, few := Nat.zero_le 2 }

theorem Part.dropBraceStars_path (parts : List Part) :
    dropBraceStars (parts.flatMap path) = (parts.map shown).flatMap written := by
  induction parts with
  | nil => rfl
  | cons part parts ih =>
      rw [List.flatMap_cons, List.map_cons, List.flatMap_cons, ← ih]
      cases part with
      | text cs plain => exact dropBraceStars_append fun c member opens => plain (opens ▸ member)
      | placeholder s =>
          have routed : Piece.routed (.parameter s.parameter) = path (.placeholder s) := by
            rw [← routed_pieces, pieces, List.flatMap_singleton]
          rw [← routed, dropBraceStars_placeholder s.parameter_named]
          simp [shown, written, Spelling.body, Spelling.bare, Spelling.constraintPart, Spelling.closing,
            Spelling.parameter]

theorem dropBraceStars_withSlash (cs : List Char) :
    dropBraceStars (withSlash cs) = withSlash (dropBraceStars cs) := by
  simp only [withSlash_eq, head?_dropBraceStars]
  split
  · rfl
  · exact dropBraceStars_cons (by decide)

theorem Part.filterMap_shown (parts : List Part) :
    (parts.map shown).filterMap parameter? =
      (parts.filterMap parameter?).map fun p => ⟨p.name, none, false, false⟩ := by
  rw [List.filterMap_map, List.map_filterMap]
  exact List.filterMap_congr fun part _ => by cases part <;> rfl

/-- What a document shows of a template is again put together from parts. -/
theorem Part.parameters_documented (parts : List Part) :
    parameters (documented (normalize (template parts))) =
      (parts.filterMap parameter?).map fun p => ⟨p.name, none, false, false⟩ := by
  have path : documented (normalize (template parts)) =
      String.ofList (withSlash ((parts.map shown).flatMap written)) := by
    rw [normalize_template, documented, String.toList_ofList, dropBraceStars_withSlash, dropBraceStars_path]
  rw [path, ← filterMap_shown]
  rcases withSlash_cases ((parts.map shown).flatMap written) with same | added
  · rw [same]
    exact parameters_template (parts.map shown)
  · rw [added]
    exact parameters_template (.text ['/'] (by decide) :: parts.map shown)

/-- **What is written is read.**  Of a template that is put together from text without opening braces and from
placeholders, the placeholders are read in their order, each with its name, its stars, its constraint and its
question mark; its path is the text with the bare placeholders in their places, behind a slash if it does not
begin with one; and what a document shows of it has the same names. -/
theorem parameters_written (parts : List Part) :
    parameters (Part.template parts) = parts.filterMap Part.parameter? ∧
      normalize (Part.template parts) =
        String.ofList (if (parts.flatMap Part.path).head? = some '/' then parts.flatMap Part.path
          else '/' :: parts.flatMap Part.path) ∧
      parameters (documented (normalize (Part.template parts))) =
        (parts.filterMap Part.parameter?).map fun p => ⟨p.name, none, false, false⟩ :=
  ⟨Part.parameters_template parts, by rw [Part.normalize_template, withSlash_eq],
    Part.parameters_documented parts⟩

end

end HandlerChain.Route
