import HandlerChain.Route.Template
import Mathlib.Data.List.TakeWhile

/-!
# How placeholders are spelled

A placeholder is read by a function that takes what it needs and refuses what it cannot use.  Here the same is
said the other way round: a placeholder has a spelling, reading it gives it back with whatever is behind it, and
nothing else is read.  A template is then divided from left to right, and a brace begins a placeholder exactly if
the spelling of one follows.

## Main Definitions

* `Route.Spelling` is a placeholder as it is written, `Route.Spelling.body` its characters behind the brace.
* `Route.Reads` relates a template to its pieces.

## Main Results

* `Route.read_eq_some_iff` and `Route.read_eq_none_iff`: a placeholder is read exactly where one is spelled.
* `Route.pieces_eq_iff`: the pieces of a template are those that `Route.Reads` allows.
-/

namespace HandlerChain.Route

/-- An identifier begins with a letter or an underscore and goes on with letters, digits and underscores. -/
structure Identifier (cs : List Char) : Prop where
  begins : ∃ c ∈ cs.head?, isNameStart c = true
  goesOn : ∀ c ∈ cs, isNameRest c = true

/-- A placeholder as it is written between its braces: at most two stars, a name, perhaps a colon with a
constraint, and perhaps a question mark. -/
structure Spelling where
  stars : Nat
  name : List Char
  constraint? : Option (List Char)
  optional : Bool
  few : stars ≤ 2
  named : Identifier name
  constrained : ∀ text ∈ constraint?, ∀ c ∈ text, isConstraint c = true

namespace Spelling

variable (s : Spelling)

/-- A constraint with the colon before it. -/
def constraintPart : List Char := (s.constraint?.map (':' :: ·)).getD []

/-- The end of a placeholder. -/
def closing : List Char := if s.optional then ['?', '}'] else ['}']

/-- What stands behind the opening brace. -/
def body : List Char := List.replicate s.stars '*' ++ (s.name ++ (s.constraintPart ++ s.closing))

/-- The parameter that is spelled.  A colon with nothing behind it is no constraint. -/
def parameter : Parameter where
  name := String.ofList s.name
  constraint := (s.constraint?.filter (· ≠ [])).map String.ofList
  optional := s.optional
  catchAll := 0 < s.stars

end Spelling

section

variable {c : Char} {cs rest : List Char}

theorem isNameRest_of_isNameStart (start : isNameStart c = true) : isNameRest c = true := by
  simp only [isNameStart, isNameRest, Char.isAlphanum, Bool.or_eq_true] at start ⊢
  exact start.imp_left .inl

theorem Identifier.head_ne_star (identifier : Identifier cs) : cs.head? ≠ some '*' := by
  obtain ⟨c, first, start⟩ := identifier.begins
  rw [Option.mem_def.mp first]
  rintro ⟨⟩
  exact absurd start (by decide)

/-! ### Reading the parts -/

theorem dropStars_replicate {n : Nat} (few : n ≤ 2) (other : cs.head? ≠ some '*') :
    dropStars (List.replicate n '*' ++ cs) = (n, cs) := by
  match n with
  | 0 | 1 =>
      simp only [List.replicate, List.nil_append, List.cons_append]
      unfold dropStars
      split <;> simp_all
  | 2 => rfl

theorem replicate_dropStars (cs : List Char) :
    (dropStars cs).1 ≤ 2 ∧ cs = List.replicate (dropStars cs).1 '*' ++ (dropStars cs).2 := by
  unfold dropStars
  split <;> simp [List.replicate]

/-- A run of characters is taken up to the first that does not belong to it. -/
theorem takeWhile_append_stop {p : Char → Bool} {more : List Char} (all : ∀ c ∈ cs, p c = true)
    (stop : ∀ c ∈ more.head?, p c = false) :
    (cs ++ more).takeWhile p = cs ∧ (cs ++ more).dropWhile p = more := by
  rw [List.takeWhile_append_of_pos all, List.dropWhile_append_of_pos all]
  cases more with
  | nil => simp
  | cons c more => simp [stop c rfl]

/-- A constraint ends where the placeholder does. -/
theorem isConstraint_head_closing (s : Spelling) (rest : List Char) :
    ∀ c ∈ (s.closing ++ rest).head?, isConstraint c = false := by
  unfold Spelling.closing
  cases s.optional <;> simp [isConstraint]

/-- A name ends where its constraint or the end of the placeholder begins. -/
theorem isNameRest_head_behind (s : Spelling) (rest : List Char) :
    ∀ c ∈ (s.constraintPart ++ (s.closing ++ rest)).head?, isNameRest c = false := by
  unfold Spelling.closing Spelling.constraintPart
  cases s.constraint? <;> cases s.optional <;> simp <;> decide

theorem readConstraint_constraintPart (s : Spelling) (rest : List Char) :
    readConstraint (s.constraintPart ++ (s.closing ++ rest)) = (s.parameter.constraint, s.closing ++ rest) := by
  unfold Spelling.constraintPart Spelling.parameter
  cases written : s.constraint? with
  | none =>
      unfold Spelling.closing
      cases s.optional <;> rfl
  | some text =>
      obtain ⟨taken, left⟩ :=
        takeWhile_append_stop (s.constrained text written) (isConstraint_head_closing s rest)
      simp only [Option.map_some, Option.getD_some, List.cons_append, readConstraint, taken, left]
      cases text <;> simp [Option.filter]

theorem exists_of_readConstraint (cs : List Char) :
    ∃ constraint? : Option (List Char), (∀ text ∈ constraint?, ∀ c ∈ text, isConstraint c = true) ∧
      cs = (constraint?.map (':' :: ·)).getD [] ++ (readConstraint cs).2 ∧
      (readConstraint cs).1 = (constraint?.filter (· ≠ [])).map String.ofList := by
  unfold readConstraint
  split
  case h_1 rest =>
    refine ⟨some (rest.takeWhile isConstraint), ?_, ?_, ?_⟩
    · rintro text ⟨⟩ c member
      exact List.mem_takeWhile_imp member
    · simp
    · cases rest.takeWhile isConstraint <;> simp [Option.filter]
  case h_2 => exact ⟨none, by simp, by simp, rfl⟩

/-! ### Reading a placeholder -/

/-- **What is spelled is read**, and what is behind it is left. -/
theorem read_body (s : Spelling) (rest : List Char) :
    Parameter.read (s.body ++ rest) = some (s.parameter, rest) := by
  obtain ⟨c, first, start⟩ := s.named.begins
  have head : (s.name ++ (s.constraintPart ++ (s.closing ++ rest))).head? = some c := by
    rw [List.head?_append, Option.mem_def.mp first, Option.some_or]
  have star : (s.name ++ (s.constraintPart ++ (s.closing ++ rest))).head? ≠ some '*' := by
    rw [head, ← Option.mem_def.mp first]
    exact s.named.head_ne_star
  have starred : dropStars (s.body ++ rest) =
      (s.stars, s.name ++ (s.constraintPart ++ (s.closing ++ rest))) := by
    rw [← dropStars_replicate s.few star]
    simp only [Spelling.body, List.append_assoc]
  obtain ⟨taken, left⟩ := takeWhile_append_stop s.named.goesOn (isNameRest_head_behind s rest)
  obtain ⟨more, begins⟩ := List.head?_eq_some_iff.mp head
  rw [begins] at starred taken left
  simp only [Parameter.read, starred, start, taken, left, readConstraint_constraintPart]
  unfold Spelling.closing
  cases optional : s.optional <;> simp [Spelling.parameter, optional]

/-- **What is read is spelled.** -/
theorem exists_of_read {p : Parameter} (read : Parameter.read cs = some (p, rest)) :
    ∃ s : Spelling, s.parameter = p ∧ cs = s.body ++ rest := by
  obtain ⟨few, divided⟩ := replicate_dropStars cs
  unfold Parameter.read at read
  generalize dropStars cs = starred at few divided read
  obtain ⟨stars, name⟩ := starred
  dsimp only at few divided read
  cases name with
  | nil => cases read
  | cons c more =>
      cases start : isNameStart c with
      | false => simp [start] at read
      | true =>
          simp only [start, Bool.not_true, Bool.false_eq_true, ↓reduceIte] at read
          have identifier : Identifier ((c :: more).takeWhile isNameRest) :=
            ⟨⟨c, by simp [isNameRest_of_isNameStart start], start⟩,
              fun d member => List.mem_takeWhile_imp member⟩
          obtain ⟨constraint?, constrained, behind, same⟩ :=
            exists_of_readConstraint ((c :: more).dropWhile isNameRest)
          generalize readConstraint ((c :: more).dropWhile isNameRest) = left at read behind same
          obtain ⟨constraint, left⟩ := left
          dsimp only at read behind same
          -- Only the question mark is still to be found out.
          have spelled (optional : Bool) (closed : left = (if optional then ['?', '}'] else ['}']) ++ rest) :
              ∃ s : Spelling, s.parameter =
                  ⟨String.ofList ((c :: more).takeWhile isNameRest), constraint, optional, 0 < stars⟩ ∧
                cs = s.body ++ rest := by
            have parted := List.takeWhile_append_dropWhile (p := isNameRest) (l := c :: more)
            rw [behind, closed] at parted
            refine ⟨⟨stars, _, constraint?, optional, few, identifier, constrained⟩, ?_, ?_⟩
            · rw [Spelling.parameter, same]
            · simp only [Spelling.body, Spelling.constraintPart, Spelling.closing, List.append_assoc, parted,
                divided]
          split at read
          · rename_i ends
            cases read
            split at ends
            · exact spelled true (congrArg ('?' :: ·) ends)
            · exact spelled false ends
          · cases read

theorem read_eq_some_iff {p : Parameter} :
    Parameter.read cs = some (p, rest) ↔ ∃ s : Spelling, s.parameter = p ∧ cs = s.body ++ rest := by
  constructor
  · exact exists_of_read
  · rintro ⟨s, rfl, rfl⟩
    exact read_body s rest

theorem read_eq_none_iff :
    Parameter.read cs = none ↔ ∀ (s : Spelling) (rest : List Char), cs ≠ s.body ++ rest := by
  rw [Option.eq_none_iff_forall_ne_some]
  constructor
  · rintro unread s rest rfl
    exact unread _ (read_eq_some_iff.mpr ⟨s, rfl, rfl⟩)
  · rintro unspelled ⟨p, rest⟩ read
    obtain ⟨s, -, spelled⟩ := read_eq_some_iff.mp read
    exact unspelled s rest spelled

/-! ### Reading a template -/

/-- A template and its pieces.  It is read from left to right: a brace begins a placeholder if one is spelled
behind it, and then reading goes on behind the placeholder; every other character stands for itself. -/
inductive Reads : List Char → List Piece → Prop where
  | nil : Reads [] []
  | plain {c : Char} {cs : List Char} {ps : List Piece} : c ≠ '{' → Reads cs ps →
      Reads (c :: cs) (.literal c :: ps)
  | brace {cs : List Char} {ps : List Piece} : (∀ (s : Spelling) (rest : List Char), cs ≠ s.body ++ rest) →
      Reads cs ps → Reads ('{' :: cs) (.literal '{' :: ps)
  | placeholder (s : Spelling) {cs : List Char} {ps : List Piece} : Reads cs ps →
      Reads ('{' :: (s.body ++ cs)) (.parameter s.parameter :: ps)

theorem reads_piecesFrom {n : Nat} (enough : cs.length ≤ n) : Reads cs (piecesFrom n cs) := by
  induction n generalizing cs with
  | zero =>
      rw [List.eq_nil_of_length_eq_zero (Nat.le_zero.mp enough)]
      exact .nil
  | succ n ih =>
      cases cs with
      | nil => exact .nil
      | cons c cs =>
          have within : cs.length ≤ n := Nat.le_of_succ_le_succ enough
          rw [piecesFrom]
          split
          · rename_i opens
            subst opens
            cases read : Parameter.read cs with
            | none => exact .brace (read_eq_none_iff.mp read) (ih within)
            | some found =>
                obtain ⟨p, rest⟩ := found
                obtain ⟨s, rfl, rfl⟩ := exists_of_read read
                refine .placeholder s (ih ?_)
                rw [List.length_append] at within
                exact Nat.le_of_add_left_le within
          · rename_i other
            exact .plain other (ih within)

theorem Reads.piecesFrom_eq {ps : List Piece} (reads : Reads cs ps) {n : Nat} (enough : cs.length ≤ n) :
    piecesFrom n cs = ps := by
  induction reads generalizing n with
  | nil => cases n <;> rfl
  | @plain c cs ps other _ ih =>
      obtain ⟨n, rfl⟩ := Nat.exists_eq_add_one_of_ne_zero (Nat.ne_zero_of_lt enough)
      rw [piecesFrom, if_neg other, ih (Nat.le_of_succ_le_succ enough)]
  | @brace cs ps unspelled _ ih =>
      obtain ⟨n, rfl⟩ := Nat.exists_eq_add_one_of_ne_zero (Nat.ne_zero_of_lt enough)
      simp only [piecesFrom, ↓reduceIte, read_eq_none_iff.mpr unspelled, ih (Nat.le_of_succ_le_succ enough)]
  | @placeholder s cs ps _ ih =>
      obtain ⟨n, rfl⟩ := Nat.exists_eq_add_one_of_ne_zero (Nat.ne_zero_of_lt enough)
      have within : cs.length ≤ n := by
        simp only [List.length_cons, List.length_append] at enough
        omega
      simp only [piecesFrom, ↓reduceIte, read_body, ih within]

/-- What is read does not depend on how it is read. -/
theorem Reads.unique {ps qs : List Piece} (reads : Reads cs ps) (reads' : Reads cs qs) : ps = qs :=
  (reads.piecesFrom_eq (Nat.le_refl _)).symm.trans (reads'.piecesFrom_eq (Nat.le_refl _))

/-- The placeholders that are read are spelled. -/
theorem Reads.exists_spelling {ps : List Piece} (reads : Reads cs ps) {p : Parameter}
    (member : .parameter p ∈ ps) : ∃ s : Spelling, s.parameter = p := by
  induction reads with
  | nil => cases member
  | plain _ _ ih | brace _ _ ih => exact ih (by simpa using member)
  | placeholder s _ ih =>
      rcases List.mem_cons.mp member with same | later
      · cases same
        exact ⟨s, rfl⟩
      · exact ih later

/-- **The pieces of a template are what is read.** -/
theorem pieces_eq_iff {template : String} {ps : List Piece} :
    pieces template = ps ↔ Reads template.toList ps := by
  have enough : template.toList.length ≤ template.length := by rw [String.length_toList]
  constructor
  · rintro rfl
    exact reads_piecesFrom enough
  · intro reads
    exact reads.piecesFrom_eq enough

theorem mem_parameters_iff {template : String} {p : Parameter} :
    p ∈ parameters template ↔ .parameter p ∈ pieces template := by
  rw [parameters, List.mem_filterMap]
  constructor
  · rintro ⟨c | q, member, same⟩
    · cases same
    · cases same
      exact member
  · exact fun member => ⟨_, member, rfl⟩

/-- The names of placeholders are identifiers. -/
theorem identifier_of_mem_parameters {template : String} {p : Parameter} (member : p ∈ parameters template) :
    Identifier p.name.toList := by
  obtain ⟨s, rfl⟩ := (pieces_eq_iff.mp rfl).exists_spelling (mem_parameters_iff.mp member)
  rw [Spelling.parameter, String.toList_ofList]
  exact s.named

end

end HandlerChain.Route
