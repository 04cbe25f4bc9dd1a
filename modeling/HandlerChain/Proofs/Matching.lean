import HandlerChain.Route.Table
import Mathlib.Data.List.Basic

/-!
# What a path matches

A search through the patterns of a table takes literals before captures of a piece, and these before captures
of the rest, and gives up a choice that leads nowhere.  Whichever way it goes, what it finds is a candidate that
the path matches, token by token.

## Main Definitions

* `Route.Matches` says that a path matches tokens, with the texts that they capture.
* `Route.RestLast` says that nothing is behind a capture of the rest.

## Main Results

* `Route.search_matches`: what a path leads to is a candidate that it matches.
* `Route.restLast_of_tokens?`: the tokens of a pattern capture the rest only at their end.
* `Route.Matches.length_eq`: such tokens capture as many texts as they have names.
-/

namespace HandlerChain.Route

/-- A path matches tokens, which capture the given texts. -/
inductive Matches : List Token → List Char → List (List Char) → Prop where
  | nil : Matches [] [] []
  | literal {c : Char} {ts : List Token} {path : List Char} {captured : List (List Char)} :
      Matches ts path captured → Matches (.literal c :: ts) (c :: path) captured
  | capture {name : String} {c : Char} {ts : List Token} {path : List Char} {captured : List (List Char)} :
      c ≠ '/' → Matches ts (path.dropWhile (· ≠ '/')) captured →
        Matches (.capture name :: ts) (c :: path) ((c :: path.takeWhile (· ≠ '/')) :: captured)
  | rest {name : String} {c : Char} {ts : List Token} {path : List Char} :
      Matches (.rest name :: ts) (c :: path) [c :: path]

section

variable {ι : Type} {cs : List (Candidate ι)} {i : ι} {ts : List Token}

theorem mem_of_finished? (found : finished? cs = some i) : ([], i) ∈ cs := by
  obtain ⟨⟨ts, j⟩, member, ends⟩ := List.exists_of_findSome?_eq_some found
  cases ts with
  | nil =>
      cases ends
      exact member
  | cons => cases ends

theorem mem_of_takingRest? (found : takingRest? cs = some i) : ∃ name ts, (.rest name :: ts, i) ∈ cs := by
  obtain ⟨⟨ts, j⟩, member, takes⟩ := List.exists_of_findSome?_eq_some found
  rcases ts with _ | ⟨_ | _ | name, ts⟩ <;> cases takes
  exact ⟨name, ts, member⟩

theorem mem_of_mem_behindLiteral {c : Char} (member : (ts, i) ∈ behindLiteral c cs) :
    (.literal c :: ts, i) ∈ cs := by
  obtain ⟨⟨ts', j⟩, mine, behind⟩ := List.mem_filterMap.mp member
  rcases ts' with _ | ⟨d | _ | _, ts'⟩ <;> simp only [reduceCtorEq] at behind
  split at behind
  · next same =>
      cases behind
      exact same ▸ mine
  · cases behind

theorem mem_of_mem_behindCapture (member : (ts, i) ∈ behindCapture cs) :
    ∃ name, (.capture name :: ts, i) ∈ cs := by
  obtain ⟨⟨ts', j⟩, mine, behind⟩ := List.mem_filterMap.mp member
  rcases ts' with _ | ⟨_ | name | _, ts'⟩ <;> cases behind
  exact ⟨name, mine⟩

theorem search_no_candidates (path : List Char) : search ([] : List (Candidate ι)) path = none := by
  cases path with
  | nil =>
      rw [search]
      rfl
  | cons c rest =>
      rw [search]
      split <;> simp_all [behindLiteral, behindCapture, takingRest?]

/-- A search goes on with a literal, or else with a capture of a piece, or else ends with a capture of
the rest. -/
theorem search_cons (cs : List (Candidate ι)) (c : Char) (rest : List Char) :
    search cs (c :: rest) =
      (search (behindLiteral c cs) rest <|>
        (if c = '/' then none else
          (search (behindCapture cs) (rest.dropWhile (· ≠ '/'))).map fun (i, captured) =>
            (i, (c :: rest.takeWhile (· ≠ '/')) :: captured)) <|>
        (takingRest? cs).map fun i => (i, [c :: rest])) := by
  rw [search]
  cases behindLiteral c cs with
  | nil =>
      rw [search_no_candidates]
      by_cases slash : c = '/'
      · simp [slash]
      · cases behindCapture cs with
        | nil => simp [search_no_candidates]
        | cons next more =>
            simp only [slash, ↓reduceIte]
            cases search (next :: more) (rest.dropWhile (· ≠ '/')) <;> rfl
  | cons next more =>
      dsimp only
      cases search (next :: more) rest with
      | some found => rfl
      | none =>
          by_cases slash : c = '/'
          · simp [slash]
          · cases behindCapture cs with
            | nil => simp [search_no_candidates]
            | cons next more =>
                simp only [slash, ↓reduceIte]
                cases search (next :: more) (rest.dropWhile (· ≠ '/')) <;> rfl

/-- **What a path leads to is a candidate that it matches**, by whichever of the three ways the search goes. -/
theorem search_matches {path : List Char} {captured : List (List Char)}
    (found : search cs path = some (i, captured)) : ∃ ts, (ts, i) ∈ cs ∧ Matches ts path captured := by
  induction length : path.length using Nat.strongRecOn generalizing path cs captured with
  | _ n ih =>
      cases path with
      | nil =>
          rw [search, Option.map_eq_some_iff] at found
          obtain ⟨j, ends, same⟩ := found
          cases same
          exact ⟨[], mem_of_finished? ends, .nil⟩
      | cons c rest =>
          have shorter : rest.length < n := by rw [← length]; exact Nat.lt_succ_self _
          have dropped : (rest.dropWhile (· ≠ '/')).length < n :=
            Nat.lt_of_le_of_lt (List.dropWhile_suffix _).length_le shorter
          simp only [search_cons, Option.orElse_eq_orElse, Option.orElse_eq_or,
            Option.or_eq_some_iff] at found
          -- Each way goes on with candidates behind one of their tokens, or stops at one of them.
          rcases found with literal | ⟨-, piece | ⟨-, rest⟩⟩
          · obtain ⟨ts, member, behind⟩ := ih _ shorter literal rfl
            exact ⟨_, mem_of_mem_behindLiteral member, .literal behind⟩
          · split at piece
            · cases piece
            · next slash =>
                obtain ⟨⟨j, more⟩, found, same⟩ := Option.map_eq_some_iff.mp piece
                cases same
                obtain ⟨ts, member, behind⟩ := ih _ dropped found rfl
                obtain ⟨name, mine⟩ := mem_of_mem_behindCapture member
                exact ⟨_, mine, .capture slash behind⟩
          · obtain ⟨j, found, same⟩ := Option.map_eq_some_iff.mp rest
            cases same
            obtain ⟨name, ts, mine⟩ := mem_of_takingRest? found
            exact ⟨_, mine, .rest⟩

end

/-- Nothing is behind a capture of the rest. -/
def RestLast : List Token → Prop
  | [] => True
  | .rest _ :: ts => ts = []
  | .literal _ :: ts => RestLast ts
  | .capture _ :: ts => RestLast ts

/-- The tokens of a pattern are those of its glyphs, if they do not capture too many pieces. -/
theorem tokensFrom_of_tokens? {pattern : String} {ts : List Token} (tokens : tokens? pattern = some ts) :
    tokensFrom none (glyphs pattern.toList) = some ts := by
  unfold tokens? at tokens
  split at tokens
  · cases tokens
  · next us divided =>
      split at tokens
      · cases tokens
      · cases tokens
        exact divided

theorem restLast_of_tokensFrom {name? : Option (List Char)} {gs : List Glyph} {ts : List Token}
    (tokens : tokensFrom name? gs = some ts) : RestLast ts := by
  fun_induction tokensFrom name? gs generalizing ts with
  | case1 =>
      cases tokens
      trivial
  | case2 | case5 | case6 | case8 | case9 | case12 => cases tokens
  -- A name begins or goes on.
  | case3 _ _ _ _ ih => exact ih tokens
  | case7 _ _ _ ih => exact ih tokens
  | case13 _ _ _ _ _ _ ih => exact ih tokens
  -- A literal, or a capture of a piece.
  | case4 _ _ _ _ ih | case11 _ _ _ _ _ _ _ ih =>
      obtain ⟨us, behind, rfl⟩ := Option.map_eq_some_iff.mp tokens
      have last := ih behind
      exact last
  -- A capture of the rest is read only where no glyph is left.
  | case10 =>
      cases tokens
      rfl

/-- **The tokens of a pattern capture the rest only at their end.** -/
theorem restLast_of_tokens? {pattern : String} {ts : List Token} (tokens : tokens? pattern = some ts) :
    RestLast ts :=
  restLast_of_tokensFrom (tokensFrom_of_tokens? tokens)

/-- Tokens that capture the rest only at their end capture as many texts as they have names. -/
theorem Matches.length_eq {ts : List Token} {path : List Char} {captured : List (List Char)}
    (matched : Matches ts path captured) (last : RestLast ts) :
    captured.length = (captureNames ts).length := by
  induction matched with
  | nil => rfl
  | literal _ ih => exact ih last
  | capture _ _ ih => exact congrArg Nat.succ (ih last)
  | rest =>
      cases last
      rfl

end HandlerChain.Route
