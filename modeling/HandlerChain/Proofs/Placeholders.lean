import HandlerChain.Proofs.Matching
import HandlerChain.Proofs.Spelling

/-!
# What a path captures of its template

A template is read twice: for its placeholders, and, once these are in the form that a router takes, for the
captures of its path.  The two readings see the same names where every brace either belongs to a placeholder
or is written twice, and none follows a placeholder directly.  Elsewhere a brace can hide a placeholder: what
is written `{{id}}` has the placeholder `id` between two braces for the first reading, and is a piece of text
for the second.

## Main Definitions

* `Route.Parameter.Named` says that a placeholder has a name.
* `Route.BracesApart` says that no brace gets in the way of a placeholder.

## Main Results

* `Route.named_of_mem_parameters`: the placeholders of a template have names.
* `Route.bracesApart_of_forall`: braces are apart where all of them belong to placeholders.
* `Route.captureNames_of_tokens?`: the path of a template captures the names of its placeholders.
-/

namespace HandlerChain.Route

/-- A placeholder has a name: it is not empty, and has letters, digits and underscores only. -/
structure Parameter.Named (p : Parameter) : Prop where
  nonempty : p.name.toList ≠ []
  plain : ∀ c ∈ p.name.toList, isNameRest c = true

section

variable {c : Char} {cs : List Char}

/-- No character of a name means anything to a router. -/
theorem isNameRest_ne (plain : isNameRest c = true) : c ≠ '{' ∧ c ≠ '}' ∧ c ≠ '*' ∧ c ≠ '/' := by
  refine ⟨?_, ?_, ?_, ?_⟩ <;>
    rintro rfl <;>
    exact absurd plain (by decide)

/-- Names are in ASCII. -/
theorem isNameRest_lt (plain : isNameRest c = true) : c.toNat < 0x80 := by
  rcases Bool.or_eq_true_iff.mp plain with letter | line
  · delta Char.isAlphanum Char.isAlpha Char.isUpper Char.isLower Char.isDigit at letter
    simp only [Bool.or_eq_true, Bool.and_eq_true, decide_eq_true_eq, UInt32.le_iff_toNat_le, ge_iff_le,
      Char.reduceVal, UInt32.reduceToNat] at letter
    have value : c.toNat = c.val.toNat := rfl
    omega
  · rw [of_decide_eq_true line]
    decide

theorem Spelling.parameter_named (s : Spelling) : s.parameter.Named := by
  have name : s.parameter.name.toList = s.name := String.toList_ofList
  obtain ⟨c, first, -⟩ := s.named.begins
  constructor
  · rw [name]
    rintro empty
    rw [empty] at first
    cases first
  · rw [name]
    exact s.named.goesOn

theorem Reads.named {ps : List Piece} (reads : Reads cs ps) {p : Parameter} (member : .parameter p ∈ ps) :
    p.Named := by
  obtain ⟨s, rfl⟩ := reads.exists_spelling member
  exact s.parameter_named

theorem named_of_mem_pieces {template : String} {p : Parameter} (member : .parameter p ∈ pieces template) :
    p.Named :=
  (pieces_eq_iff.mp rfl).named member

/-- **The placeholders of a template have names.** -/
theorem named_of_mem_parameters {template : String} {p : Parameter} (member : p ∈ parameters template) :
    p.Named :=
  named_of_mem_pieces (mem_parameters_iff.mp member)

end

/-- No brace gets in the way of a placeholder: the braces of the text are written twice, and none of them
follows a placeholder. -/
inductive BracesApart : List Piece → Prop where
  | nil : BracesApart []
  | text {c : Char} {rest : List Piece} : c ≠ '{' → c ≠ '}' → BracesApart rest →
      BracesApart (.literal c :: rest)
  | opened {rest : List Piece} : BracesApart rest → BracesApart (.literal '{' :: .literal '{' :: rest)
  | closed {rest : List Piece} : BracesApart rest → BracesApart (.literal '}' :: .literal '}' :: rest)
  | placeholder {p : Parameter} {rest : List Piece} : rest.head? ≠ some (.literal '}') →
      BracesApart rest → BracesApart (.parameter p :: rest)

/-- Braces are apart where all of them belong to placeholders. -/
theorem bracesApart_of_forall {ps : List Piece} (plain : ∀ x ∈ ps, x ≠ .literal '{' ∧ x ≠ .literal '}') :
    BracesApart ps := by
  induction ps with
  | nil => exact .nil
  | cons x rest ih =>
      obtain ⟨here, later⟩ := List.forall_mem_cons.mp plain
      cases x with
      | literal c => exact .text (by simpa using here.1) (by simpa using here.2) (ih later)
      | parameter p =>
          refine .placeholder (fun follows => ?_) (ih later)
          exact (later _ (List.mem_of_head? follows)).2 rfl

section

variable {c : Char} {cs : List Char}

/-- A character that is not part of a doubled brace. -/
def Glyph.single (c : Char) : Glyph := ⟨c, false⟩

theorem glyphs_text (opens : c ≠ '{') (closes : c ≠ '}') : glyphs (c :: cs) = .single c :: glyphs cs := by
  rw [glyphs]
  · rfl
  · exact fun _ opening _ => opens opening
  · exact fun _ closing _ => closes closing

theorem glyphs_open (single : cs.head? ≠ some '{') : glyphs ('{' :: cs) = .single '{' :: glyphs cs := by
  cases cs with
  | nil => rfl
  | cons d rest =>
      have other : d ≠ '{' := by simpa using single
      simp [glyphs, Glyph.single, other]

theorem glyphs_close (single : cs.head? ≠ some '}') : glyphs ('}' :: cs) = .single '}' :: glyphs cs := by
  cases cs with
  | nil => rfl
  | cons d rest =>
      have other : d ≠ '}' := by simpa using single
      simp [glyphs, Glyph.single, other]

/-- A name stands for itself. -/
theorem glyphs_name {name : List Char} (plain : ∀ c ∈ name, isNameRest c = true) :
    glyphs (name ++ cs) = name.map .single ++ glyphs cs := by
  induction name with
  | nil => rfl
  | cons c name ih =>
      obtain ⟨opens, closes, -⟩ := isNameRest_ne (plain c List.mem_cons_self)
      rw [List.cons_append, glyphs_text opens closes,
        ih fun d member => plain d (List.mem_cons_of_mem c member)]
      rfl

/-- A name that has begun is read to its end. -/
theorem tokensFrom_name {name begun : List Char} {gs : List Glyph}
    (plain : ∀ c ∈ name, isNameRest c = true) (begins : begun ≠ []) :
    tokensFrom (some begun) (name.map .single ++ gs) = tokensFrom (some (name.reverse ++ begun)) gs := by
  induction name generalizing begun with
  | nil => rfl
  | cons c name ih =>
      obtain ⟨b, more, rfl⟩ := List.exists_cons_of_ne_nil begins
      obtain ⟨-, closes, star, slash⟩ := isNameRest_ne (plain c List.mem_cons_self)
      have step : tokensFrom (some (b :: more)) (.single c :: (name.map .single ++ gs)) =
          tokensFrom (some (c :: b :: more)) (name.map .single ++ gs) := by
        simp [tokensFrom, Glyph.closes, Glyph.single, closes, star, slash]
      rw [List.map_cons, List.cons_append, step,
        ih (fun d member => plain d (List.mem_cons_of_mem c member)) (List.cons_ne_nil _ _)]
      simp

/-- A character of the text and a doubled brace stand for themselves. -/
theorem tokensFrom_literal {g : Glyph} (gs : List Glyph) (opens : g.opens = false)
    (closes : g.closes = false) :
    tokensFrom none (g :: gs) = (tokensFrom none gs).map (.literal g.char :: ·) := by
  simp only [tokensFrom, opens, closes, Bool.false_eq_true, ↓reduceIte]

theorem tokensFrom_text (gs : List Glyph) (opens : c ≠ '{') (closes : c ≠ '}') :
    tokensFrom none (.single c :: gs) = (tokensFrom none gs).map (.literal c :: ·) :=
  tokensFrom_literal gs (by simp [Glyph.opens, Glyph.single, opens])
    (by simp [Glyph.closes, Glyph.single, closes])

/-- A literal captures nothing. -/
theorem captureNames_literal {d : Char} {tail : Option (List Token)} {ts : List Token}
    (tokens : tail.map (.literal d :: ·) = some ts) :
    ∃ us, tail = some us ∧ captureNames ts = captureNames us := by
  obtain ⟨us, behind, rfl⟩ := Option.map_eq_some_iff.mp tokens
  exact ⟨us, behind, rfl⟩

/-- The brace that begins a name. -/
theorem tokensFrom_open (gs : List Glyph) :
    tokensFrom none (.single '{' :: gs) = tokensFrom (some []) gs := by
  simp [tokensFrom, Glyph.closes, Glyph.opens, Glyph.single]

/-- The first character of a name, or the star in front of it. -/
theorem tokensFrom_first {d : Char} (gs : List Glyph) (other : d ≠ '}') :
    tokensFrom (some []) (.single d :: gs) = tokensFrom (some [d]) gs := by
  simp [tokensFrom, Glyph.single, other]

/-- A name in braces captures a piece, which must end there. -/
theorem tokensFrom_capture {name : List Char} (nonempty : name ≠ [])
    (plain : ∀ c ∈ name, isNameRest c = true) (single : cs.head? ≠ some '}') :
    tokensFrom none (glyphs ('{' :: (name ++ '}' :: cs))) =
      if endsPiece (glyphs cs) then
        (tokensFrom none (glyphs cs)).map (.capture (String.ofList name) :: ·)
      else none := by
  obtain ⟨c, name, rfl⟩ := List.exists_cons_of_ne_nil nonempty
  obtain ⟨opens, closes, star, -⟩ := isNameRest_ne (plain c List.mem_cons_self)
  rw [glyphs_open (by simpa using opens), glyphs_name plain, glyphs_close single, tokensFrom_open,
    List.map_cons, List.cons_append, tokensFrom_first _ closes,
    tokensFrom_name (fun d member => plain d (List.mem_cons_of_mem c member)) (List.cons_ne_nil c [])]
  obtain ⟨b, more, spelled⟩ := List.exists_cons_of_ne_nil (l := name.reverse ++ [c]) (by simp)
  have read : (b :: more).reverse = c :: name := by rw [← spelled]; simp
  rw [spelled]
  cases ends : endsPiece (glyphs cs) <;>
    simp [tokensFrom, Glyph.closes, Glyph.single, ends, read, star]

/-- A name in braces behind a star captures all that is left, and nothing may follow it. -/
theorem tokensFrom_rest {name : List Char} (nonempty : name ≠ [])
    (plain : ∀ c ∈ name, isNameRest c = true) (single : cs.head? ≠ some '}') :
    tokensFrom none (glyphs ('{' :: '*' :: (name ++ '}' :: cs))) =
      if (glyphs cs).isEmpty then some [.rest (String.ofList name)] else none := by
  rw [glyphs_open (by simp), glyphs_text (by simp) (by simp), glyphs_name plain, glyphs_close single,
    tokensFrom_open, tokensFrom_first _ (by simp), tokensFrom_name plain (List.cons_ne_nil '*' [])]
  obtain ⟨b, more, spelled⟩ := List.exists_cons_of_ne_nil (l := name.reverse ++ ['*']) (by simp)
  have read : (b :: more).reverse = '*' :: name := by rw [← spelled]; simp
  rw [spelled]
  cases left : glyphs cs with
  | nil => simp [tokensFrom, Glyph.closes, Glyph.single, endsPiece, read, nonempty]
  | cons g gs => simp [tokensFrom, Glyph.closes, Glyph.single, read]

theorem routed_capture {p : Parameter} (piece : p.catchAll = false) :
    Piece.routed (.parameter p) ++ cs = '{' :: (p.name.toList ++ '}' :: cs) := by
  simp [Piece.routed, piece]

theorem routed_rest {p : Parameter} (rest : p.catchAll = true) :
    Piece.routed (.parameter p) ++ cs = '{' :: '*' :: (p.name.toList ++ '}' :: cs) := by
  simp [Piece.routed, rest]

/-- A placeholder is read as a capture of its name, and what is behind it is read on its own. -/
theorem captureNames_placeholder {p : Parameter} {ts : List Token} (named : p.Named)
    (single : cs.head? ≠ some '}')
    (tokens : tokensFrom none (glyphs (Piece.routed (.parameter p) ++ cs)) = some ts) :
    ∃ us, tokensFrom none (glyphs cs) = some us ∧ captureNames ts = p.name :: captureNames us := by
  cases rest : p.catchAll with
  | false =>
      rw [routed_capture rest, tokensFrom_capture named.nonempty named.plain single] at tokens
      split at tokens
      · obtain ⟨us, behind, rfl⟩ := Option.map_eq_some_iff.mp tokens
        exact ⟨us, behind, by rw [captureNames, String.ofList_toList]⟩
      · cases tokens
  | true =>
      rw [routed_rest rest, tokensFrom_rest named.nonempty named.plain single] at tokens
      split at tokens
      · rename_i ends
        cases tokens
        exact ⟨[], by rw [List.isEmpty_iff.mp ends, tokensFrom], by simp [captureNames]⟩
      · cases tokens

/-- The name of a placeholder. -/
def Piece.name? : Piece → Option String
  | .literal _ => none
  | .parameter p => some p.name

/-- The form that a router takes begins with a closing brace only where the pieces do. -/
theorem head?_routed {ps : List Piece} (single : ps.head? ≠ some (.literal '}')) :
    (ps.flatMap Piece.routed).head? ≠ some '}' := by
  rcases ps with _ | ⟨c | p, rest⟩
  · simp
  · simpa [Piece.routed] using single
  · cases rest : p.catchAll <;> simp [Piece.routed, rest]

/-- The captures of the glyphs that pieces are routed as, one case for each way in which braces are apart. -/
theorem captureNames_of_tokensFrom {ps : List Piece} (apart : BracesApart ps)
    (named : ∀ p, .parameter p ∈ ps → p.Named) {ts : List Token}
    (tokens : tokensFrom none (glyphs (ps.flatMap Piece.routed)) = some ts) :
    captureNames ts = ps.filterMap Piece.name? := by
  induction apart generalizing ts with
  | nil =>
      cases tokens
      rfl
  | @text c rest opens closes _ ih =>
      have cons : (Piece.literal c :: rest).flatMap Piece.routed = c :: rest.flatMap Piece.routed := rfl
      rw [cons, glyphs_text opens closes, tokensFrom_text _ opens closes] at tokens
      obtain ⟨us, behind, names⟩ := captureNames_literal tokens
      rw [names, ih (fun p member => named p (List.mem_cons_of_mem _ member)) behind]
      rfl
  | @opened rest _ ih =>
      obtain ⟨us, behind, names⟩ := captureNames_literal
        ((tokensFrom_literal (g := ⟨'{', true⟩) _ rfl rfl).symm.trans tokens)
      rw [names, ih (fun p member => named p (by simp [member])) behind]
      rfl
  | @closed rest _ ih =>
      obtain ⟨us, behind, names⟩ := captureNames_literal
        ((tokensFrom_literal (g := ⟨'}', true⟩) _ rfl rfl).symm.trans tokens)
      rw [names, ih (fun p member => named p (by simp [member])) behind]
      rfl
  | @placeholder p rest single _ ih =>
      rw [List.flatMap_cons] at tokens
      obtain ⟨us, behind, names⟩ := captureNames_placeholder (named p List.mem_cons_self)
        (head?_routed single) tokens
      rw [names, ih (fun p member => named p (List.mem_cons_of_mem _ member)) behind]
      rfl

theorem withSlash_cases (cs : List Char) : withSlash cs = cs ∨ withSlash cs = '/' :: cs := by
  unfold withSlash
  split
  · exact .inl rfl
  · exact .inr rfl

/-- **The path of a template captures the names of its placeholders**, in their order, if no brace gets in
the way of one. -/
theorem captureNames_of_tokens? {template : String} (apart : BracesApart (pieces template)) {ts : List Token}
    (tokens : tokens? (normalize template) = some ts) :
    captureNames ts = (parameters template).map Parameter.name := by
  have names : (parameters template).map Parameter.name = (pieces template).filterMap Piece.name? := by
    rw [parameters, List.map_filterMap]
    exact List.filterMap_congr fun piece _ => by cases piece <;> rfl
  have divided := tokensFrom_of_tokens? tokens
  rw [normalize, String.toList_ofList] at divided
  have found : ∃ us, tokensFrom none (glyphs ((pieces template).flatMap Piece.routed)) = some us ∧
      captureNames ts = captureNames us := by
    rcases withSlash_cases ((pieces template).flatMap Piece.routed) with same | added
    · exact ⟨ts, same ▸ divided, rfl⟩
    · rw [added, glyphs_text (by decide) (by decide), tokensFrom_text _ (by decide) (by decide)] at divided
      exact captureNames_literal divided
  obtain ⟨us, read, same⟩ := found
  rw [names, same, captureNames_of_tokensFrom apart (fun p member => named_of_mem_pieces member) read]

end

end HandlerChain.Route
