import HandlerChain.Proofs.Placeholders
import HandlerChain.Proofs.RouterTable

/-!
# Paths in documents

The path that a document shows is the path that a router takes, without the star of a placeholder that takes
the rest.  Stars are taken away behind every brace, so it is not plain that paths which look alike in a document
are one path to a router.  They are where all braces belong to placeholders: reading what the document shows as
a path gives the tokens of the path, with captures of a piece for those of the rest, and a router does not take
two paths that differ in nothing else.

## Main Definitions

* `Route.Token.shown` is what a token looks like in a document.

## Main Results

* `Route.tokensFrom_dropBraceStars`: the path that a document shows has the tokens of the path, as shown.
* `Route.clash_of_documented_eq`: templates without literal braces whose paths look alike clash.
-/

namespace HandlerChain

namespace Route

section

variable {c : Char} {cs name : List Char}

theorem endsPiece_glyphs (cs : List Char) : endsPiece (glyphs cs) = cs.head?.all (· = '/') := by
  unfold glyphs
  split <;> rfl

theorem glyphs_isEmpty_iff : (glyphs cs).isEmpty = true ↔ cs = [] := by
  unfold glyphs
  split <;> simp

theorem dropBraceStars_cons (other : c ≠ '{') : dropBraceStars (c :: cs) = c :: dropBraceStars cs := by
  rw [dropBraceStars]
  exact fun _ opening _ => other opening

theorem dropBraceStars_open (single : cs.head? ≠ some '*') :
    dropBraceStars ('{' :: cs) = '{' :: dropBraceStars cs := by
  rw [dropBraceStars]
  rintro rest - rfl
  exact single rfl

theorem dropBraceStars_star (cs : List Char) :
    dropBraceStars ('{' :: '*' :: cs) = '{' :: dropBraceStars cs := rfl

@[simp] theorem head?_dropBraceStars (cs : List Char) : (dropBraceStars cs).head? = cs.head? := by
  unfold dropBraceStars
  split <;> rfl

theorem dropBraceStars_append (plain : ∀ c ∈ name, c ≠ '{') :
    dropBraceStars (name ++ cs) = name ++ dropBraceStars cs := by
  induction name with
  | nil => rfl
  | cons c name ih =>
      rw [List.cons_append, dropBraceStars_cons (plain c List.mem_cons_self),
        ih fun d member => plain d (List.mem_cons_of_mem c member), List.cons_append]

/-- A placeholder is shown with its name alone. -/
theorem dropBraceStars_placeholder {p : Parameter} (named : p.Named) (cs : List Char) :
    dropBraceStars (Piece.routed (.parameter p) ++ cs) =
      '{' :: (p.name.toList ++ '}' :: dropBraceStars cs) := by
  have behind : dropBraceStars (p.name.toList ++ '}' :: cs) = p.name.toList ++ '}' :: dropBraceStars cs := by
    rw [dropBraceStars_append fun c member => (isNameRest_ne (named.plain c member)).1,
      dropBraceStars_cons (by decide)]
  cases rest : p.catchAll with
  | false =>
      obtain ⟨c, name, spelled⟩ := List.exists_cons_of_ne_nil named.nonempty
      have star : c ≠ '*' := (isNameRest_ne (named.plain c (by simp [spelled]))).2.2.1
      rw [routed_capture rest, dropBraceStars_open (by simpa [spelled] using star), behind]
  | true => rw [routed_rest rest, dropBraceStars_star, behind]

/-- What a token looks like in a document: a capture of the rest looks like any other. -/
def Token.shown : Token → Token
  | .rest n => .capture n
  | t => t

/-- **The path that a document shows has the tokens of the path that a router takes**, but for what captures
the rest. -/
theorem tokensFrom_dropBraceStars {ps : List Piece}
    (plain : ∀ x ∈ ps, x ≠ .literal '{' ∧ x ≠ .literal '}') (named : ∀ p, .parameter p ∈ ps → p.Named)
    {ts : List Token} (tokens : tokensFrom none (glyphs (ps.flatMap Piece.routed)) = some ts) :
    tokensFrom none (glyphs (dropBraceStars (ps.flatMap Piece.routed))) = some (ts.map Token.shown) := by
  induction ps generalizing ts with
  | nil =>
      cases tokens
      rfl
  | cons x rest ih =>
      obtain ⟨here, later⟩ := List.forall_mem_cons.mp plain
      have ih : ∀ {us}, tokensFrom none (glyphs (rest.flatMap Piece.routed)) = some us →
          tokensFrom none (glyphs (dropBraceStars (rest.flatMap Piece.routed))) = some (us.map Token.shown) :=
        ih later fun p member => named p (List.mem_cons_of_mem x member)
      cases x with
      | literal c =>
          have opens : c ≠ '{' := by simpa using here.1
          have closes : c ≠ '}' := by simpa using here.2
          have cons : (Piece.literal c :: rest).flatMap Piece.routed = c :: rest.flatMap Piece.routed := rfl
          rw [cons, glyphs_text opens closes, tokensFrom_text _ opens closes] at tokens
          obtain ⟨us, behind, rfl⟩ := Option.map_eq_some_iff.mp tokens
          rw [cons, dropBraceStars_cons opens, glyphs_text opens closes, tokensFrom_text _ opens closes,
            ih behind]
          rfl
      | parameter p =>
          have own := named p List.mem_cons_self
          have single : (rest.flatMap Piece.routed).head? ≠ some '}' :=
            head?_routed fun follows => (later _ (List.mem_of_head? follows)).2 rfl
          have single' : (dropBraceStars (rest.flatMap Piece.routed)).head? ≠ some '}' := by
            rwa [head?_dropBraceStars]
          rw [List.flatMap_cons] at tokens ⊢
          rw [dropBraceStars_placeholder own, tokensFrom_capture own.nonempty own.plain single',
            endsPiece_glyphs, head?_dropBraceStars, ← endsPiece_glyphs]
          cases behind : p.catchAll with
          | false =>
              rw [routed_capture behind, tokensFrom_capture own.nonempty own.plain single] at tokens
              split at tokens
              · rename_i ends
                obtain ⟨us, read, rfl⟩ := Option.map_eq_some_iff.mp tokens
                rw [if_pos ends, ih read]
                rfl
              · cases tokens
          | true =>
              rw [routed_rest behind, tokensFrom_rest own.nonempty own.plain single] at tokens
              split at tokens
              · rename_i ends
                cases tokens
                rw [glyphs_isEmpty_iff.mp ends]
                rfl
              · cases tokens

/-- Tokens that look alike conflict. -/
theorem conflicts_of_shown_eq {ts us : List Token} (same : ts.map Token.shown = us.map Token.shown) :
    conflicts ts us = true := by
  induction ts generalizing us with
  | nil =>
      obtain rfl : us = [] := by simpa using same.symm
      rfl
  | cons t ts ih =>
      obtain ⟨u, us, rfl⟩ := List.exists_cons_of_ne_nil (l := us) (by rintro rfl; simp at same)
      obtain ⟨first, rest⟩ := List.cons.inj same
      cases t <;> cases u <;> simp_all [conflicts, Token.shown]

/-- What a router takes of a template is what it takes of some pieces, of which the first is a slash. -/
theorem exists_pieces_of_normalize (template : String) :
    ∃ ps : List Piece, (normalize template).toList = ps.flatMap Piece.routed ∧
      ∀ x ∈ ps, x ∈ pieces template ∨ x = .literal '/' := by
  rw [normalize, String.toList_ofList]
  rcases withSlash_cases ((pieces template).flatMap Piece.routed) with same | added
  · exact ⟨pieces template, same, fun x member => .inl member⟩
  · refine ⟨.literal '/' :: pieces template, added, fun x member => ?_⟩
    exact (List.mem_cons.mp member).symm

/-- **Templates without literal braces whose paths look alike in a document clash.** -/
theorem clash_of_documented_eq {template template' : String}
    (plain : ∀ x ∈ pieces template, x ≠ .literal '{' ∧ x ≠ .literal '}')
    (plain' : ∀ x ∈ pieces template', x ≠ .literal '{' ∧ x ≠ .literal '}')
    (accepts : Accepts (normalize template)) (accepts' : Accepts (normalize template'))
    (same : documented (normalize template) = documented (normalize template')) :
    Clash (normalize template) (normalize template') := by
  -- Both readings are of one text, so they agree.
  have reading : ∀ template, (∀ x ∈ pieces template, x ≠ .literal '{' ∧ x ≠ .literal '}') →
      Accepts (normalize template) → ∃ ts, tokens? (normalize template) = some ts ∧
        tokensFrom none (glyphs (documented (normalize template)).toList) = some (ts.map Token.shown) := by
    intro template plain accepts
    obtain ⟨-, ts, tokens⟩ := accepts_iff.mp accepts
    obtain ⟨ps, spelled, among⟩ := exists_pieces_of_normalize template
    refine ⟨ts, tokens, ?_⟩
    have divided := tokensFrom_of_tokens? tokens
    rw [spelled] at divided
    rw [documented, String.toList_ofList, spelled]
    refine tokensFrom_dropBraceStars (fun x member => ?_) (fun p member => ?_) divided
    · rcases among x member with inside | rfl
      · exact plain x inside
      · decide
    · rcases among _ member with inside | slash
      · exact named_of_mem_pieces inside
      · cases slash
  obtain ⟨ts, tokens, shown⟩ := reading template plain accepts
  obtain ⟨us, tokens', shown'⟩ := reading template' plain' accepts'
  rw [same, shown', Option.some.injEq] at shown
  exact ⟨ts, us, tokens, tokens', conflicts_of_shown_eq shown.symm⟩

/-- With literal braces, two paths of text look alike. -/
example : documented "/a\x7b\x7b*x\x7d\x7d" = documented "/a\x7b\x7bx\x7d\x7d" ∧
    tokens? "/a\x7b\x7b*x\x7d\x7d" = some ("/a\x7b*x\x7d".toList.map .literal) ∧
      tokens? "/a\x7b\x7bx\x7d\x7d" = some ("/a\x7bx\x7d".toList.map .literal) := by
  decide +kernel

end

end Route

end HandlerChain
