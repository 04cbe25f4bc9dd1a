import HandlerChain.Proofs.Normalization

/-!
# Shapes and names

A shape is meant to be what is left of a path when its placeholders have lost their names.  It is made from the
first characters of each segment, so it is just that where a placeholder fills its segment and a brace at the
front of a segment belongs to a placeholder.  Elsewhere it is too fine or too coarse: a placeholder behind other
text keeps its name, and of a segment that begins with a brace nothing else is left.

Paths and lists of pieces are divided in the same way, at slashes.  That names have none is what makes the
segments of a path those of its pieces.

## Main Definitions

* `Route.nameless` is the path of a template whose placeholders have lost their names.
* `Route.PlaceholdersAlone` says that placeholders fill their segments.
* `Route.SameShape` is what two segments have in common if their shapes are the same.

## Main Results

* `Route.shapeOfSegment_eq_nameless_iff`: of which segments the shape is what is left without names.
* `Route.shape_forgets_names`: shapes are compared segment by segment, and are paths without names exactly where
  placeholders fill their segments.
* `Route.shape_misses_names`: two paths that differ in a name only, and two that do not.
-/

namespace HandlerChain.Route

/-! ### Dividing lists -/

section

variable {α β : Type} [BEq α] [LawfulBEq α] [BEq β] [LawfulBEq β] {a : α} {b : β}

/-- The parts of a list have elements of the list, but not the separator. -/
theorem of_mem_splitOn {xs s : List α} (member : s ∈ xs.splitOn a) : a ∉ s ∧ s ⊆ xs := by
  induction xs generalizing s with
  | nil =>
      rw [List.splitOn_nil, List.mem_singleton] at member
      simp [member]
  | cons x xs ih =>
      rw [List.splitOn_cons_eq_if_modifyHead] at member
      split at member
      · rcases List.mem_cons.mp member with rfl | later
        · simp
        · exact (ih later).imp_right (List.subset_cons_of_subset x)
      · rename_i other
        obtain ⟨first, more, divided⟩ := List.exists_cons_of_ne_nil (List.splitOn_ne_nil a xs)
        rw [divided] at ih member
        rcases List.mem_cons.mp member with rfl | later
        · obtain ⟨absent, among⟩ := ih List.mem_cons_self
          rw [List.mem_cons, not_or]
          exact ⟨⟨fun same => other (beq_iff_eq.mpr same.symm), absent⟩, List.cons_subset_cons x among⟩
        · exact (ih (List.mem_cons_of_mem first later)).imp_right (List.subset_cons_of_subset x)

theorem splitOn_append_of_notMem {xs ys : List α} (absent : a ∉ xs) :
    (xs ++ ys).splitOn a = (ys.splitOn a).modifyHead (xs ++ ·) := by
  obtain ⟨first, more, divided⟩ := List.exists_cons_of_ne_nil (List.splitOn_ne_nil a ys)
  induction xs with
  | nil => simp [divided]
  | cons x xs ih =>
      rw [List.mem_cons, not_or] at absent
      have other : (x == a) = false := beq_eq_false_iff_ne.mpr (Ne.symm absent.1)
      rw [List.cons_append, List.splitOn_cons_eq_if_modifyHead, other, ih absent.2, divided]
      rfl

/-- What replaces the elements of a list is divided where the list is, if no element but the separator gives
one. -/
theorem splitOn_flatMap {f : α → List β} (separator : f a = [b]) {xs : List α}
    (others : ∀ x ∈ xs, x ≠ a → b ∉ f x) :
    (xs.flatMap f).splitOn b = (xs.splitOn a).map (List.flatMap f) := by
  induction xs with
  | nil => simp
  | cons x xs ih =>
      obtain ⟨here, later⟩ := List.forall_mem_cons.mp others
      rw [List.flatMap_cons, List.splitOn_cons_eq_if_modifyHead]
      by_cases same : x = a
      · rw [if_pos (beq_iff_eq.mpr same), same, separator, List.singleton_append,
          List.splitOn_cons_eq_if_modifyHead, if_pos (beq_self_eq_true b), ih later]
        rfl
      · obtain ⟨first, more, divided⟩ := List.exists_cons_of_ne_nil (List.splitOn_ne_nil a xs)
        rw [if_neg (by simpa using same), splitOn_append_of_notMem (here same), ih later, divided]
        rfl

theorem splitOn_inj {xs ys : List α} : xs.splitOn a = ys.splitOn a ↔ xs = ys := by
  constructor
  · intro same
    have joined := congrArg ([a].intercalate ·) same
    simpa only [List.intercalate_splitOn] using joined
  · exact congrArg _

end

theorem segments_eq_splitOn (cs : List Char) : segments cs = cs.splitOn '/' := by
  induction cs with
  | nil => rfl
  | cons c cs ih =>
      obtain ⟨first, more, divided⟩ := List.exists_cons_of_ne_nil (List.splitOn_ne_nil '/' cs)
      rw [segments, List.splitOn_cons_eq_if_modifyHead, ih, divided]
      by_cases slash : c = '/' <;> simp [slash]

theorem joinSegments_eq_intercalate (parts : List (List Char)) : joinSegments parts = ['/'].intercalate parts := by
  induction parts with
  | nil => rfl
  | cons s rest ih =>
      cases rest with
      | nil => simp [joinSegments]
      | cons s' rest =>
          rw [joinSegments, ih, List.intercalate_cons_cons, List.append_assoc, List.singleton_append]
          exact List.cons_ne_nil s' rest

/-! ### Comparing shapes -/

/-- Two segments begin with a brace and a star, or with a brace without one, or are the same. -/
inductive SameShape : List Char → List Char → Prop where
  | rest (cs ds : List Char) : SameShape ('{' :: '*' :: cs) ('{' :: '*' :: ds)
  | capture {cs ds : List Char} : cs.head? ≠ some '*' → ds.head? ≠ some '*' → SameShape ('{' :: cs) ('{' :: ds)
  | text {cs : List Char} : cs.head? ≠ some '{' → SameShape cs cs

section

variable {cs ds : List Char}

theorem shapeOfSegment_rest (cs : List Char) : shapeOfSegment ('{' :: '*' :: cs) = ['{', '*', '}'] := rfl

theorem shapeOfSegment_capture (single : cs.head? ≠ some '*') : shapeOfSegment ('{' :: cs) = ['{', '}'] := by
  rw [shapeOfSegment]
  rintro rest rfl
  exact single rfl

theorem shapeOfSegment_text (plain : cs.head? ≠ some '{') : shapeOfSegment cs = cs := by
  rw [shapeOfSegment]
  · rintro rest rfl
    exact plain rfl
  · rintro rest rfl
    exact plain rfl

/-- A segment begins in one of three ways. -/
theorem segment_cases (cs : List Char) :
    (∃ rest, cs = '{' :: '*' :: rest) ∨ (∃ rest, cs = '{' :: rest ∧ rest.head? ≠ some '*') ∨
      cs.head? ≠ some '{' := by
  rcases cs with _ | ⟨c, rest⟩
  · exact .inr (.inr (by simp))
  · by_cases opens : c = '{'
    · subst opens
      by_cases star : rest.head? = some '*'
      · obtain ⟨rest, rfl⟩ := List.head?_eq_some_iff.mp star
        exact .inl ⟨rest, rfl⟩
      · exact .inr (.inl ⟨rest, rfl, star⟩)
    · exact .inr (.inr (by simpa using opens))

theorem shapeOfSegment_eq_iff : shapeOfSegment cs = shapeOfSegment ds ↔ SameShape cs ds := by
  constructor
  · intro same
    rcases segment_cases cs with ⟨cs, rfl⟩ | ⟨cs, rfl, single⟩ | plain <;>
      rcases segment_cases ds with ⟨ds, rfl⟩ | ⟨ds, rfl, single'⟩ | plain'
    · exact .rest cs ds
    · simp [shapeOfSegment_rest, shapeOfSegment_capture single'] at same
    · rw [shapeOfSegment_rest, shapeOfSegment_text plain'] at same
      simp [← same] at plain'
    · simp [shapeOfSegment_rest, shapeOfSegment_capture single] at same
    · exact .capture single single'
    · rw [shapeOfSegment_capture single, shapeOfSegment_text plain'] at same
      simp [← same] at plain'
    · rw [shapeOfSegment_text plain, shapeOfSegment_rest] at same
      simp [same] at plain
    · rw [shapeOfSegment_text plain, shapeOfSegment_capture single'] at same
      simp [same] at plain
    · rw [shapeOfSegment_text plain, shapeOfSegment_text plain'] at same
      exact same ▸ .text plain
  · rintro (⟨cs, ds⟩ | ⟨single, single'⟩ | plain)
    · rfl
    · rw [shapeOfSegment_capture single, shapeOfSegment_capture single']
    · rfl

theorem slash_notMem_shapeOfSegment (plain : '/' ∉ cs) : '/' ∉ shapeOfSegment cs := by
  rcases segment_cases cs with ⟨cs, rfl⟩ | ⟨cs, rfl, single⟩ | text
  · simp [shapeOfSegment_rest]
  · simp [shapeOfSegment_capture single]
  · rwa [shapeOfSegment_text text]

/-- The segments of a shape are the shapes of the segments. -/
theorem splitOn_shape (template : String) :
    (shape template).toList.splitOn '/' = (segments (normalize template).toList).map shapeOfSegment := by
  rw [shape, String.toList_ofList, joinSegments_eq_intercalate, segments_eq_splitOn]
  refine List.splitOn_intercalate '/' (fun s member => ?_) (by simp)
  obtain ⟨s, divided, rfl⟩ := List.mem_map.mp member
  exact slash_notMem_shapeOfSegment (of_mem_splitOn divided).1

theorem shape_eq_iff {template template' : String} :
    shape template = shape template' ↔
      List.Forall₂ SameShape (segments (normalize template).toList) (segments (normalize template').toList) := by
  rw [← String.toList_inj, ← splitOn_inj (a := '/'), splitOn_shape, splitOn_shape, ← List.forall₂_eq_eq_eq,
    List.forall₂_map_left_iff, List.forall₂_map_right_iff]
  simp only [shapeOfSegment_eq_iff]

end

/-! ### Taking names away -/

/-- A piece of a path without the name of its placeholder. -/
def Piece.nameless : Piece → List Char
  | .literal c => [c]
  | .parameter p => if p.catchAll then ['{', '*', '}'] else ['{', '}']

/-- The path that a router takes of a template, where each placeholder has lost its name.  Its star and all text
around it stay. -/
def nameless (template : String) : String :=
  String.ofList ((pieces (normalize template)).flatMap Piece.nameless)

/-- A segment is text that does not begin with a brace, or a placeholder, or looks like a placeholder that has lost
its name. -/
inductive Piece.Alone : List Piece → Prop where
  | text {xs : List Piece} : (∀ x ∈ xs, ∃ c, x = .literal c) → xs.head? ≠ some (.literal '{') → Alone xs
  | placeholder (p : Parameter) : Alone [.parameter p]
  | unnamed (star : Bool) : Alone ((if star then ['{', '*', '}'] else ['{', '}']).map .literal)

/-- Every placeholder fills its segment, and every brace that begins a segment begins a placeholder. -/
def PlaceholdersAlone (template : String) : Prop :=
  ∀ xs ∈ (pieces (normalize template)).splitOn (.literal '/'), Piece.Alone xs

section

variable {cs : List Char} {xs : List Piece}

/-- A name is never empty, so that it is missed. -/
theorem routed_ne_nameless {p : Parameter} (named : p.Named) (cs ds : List Char) :
    Piece.routed (.parameter p) ++ cs ≠ Piece.nameless (.parameter p) ++ ds := by
  obtain ⟨c, name, spelled⟩ := List.exists_cons_of_ne_nil named.nonempty
  have closes : c ≠ '}' := (isNameRest_ne (named.plain c (by simp [spelled]))).2.1
  cases rest : p.catchAll with
  | false => simp [routed_capture rest, Piece.nameless, rest, spelled, closes]
  | true => simp [routed_rest rest, Piece.nameless, rest, spelled, closes]

theorem flatMap_routed_eq_nameless_iff (named : ∀ p, .parameter p ∈ xs → p.Named) :
    xs.flatMap Piece.routed = xs.flatMap Piece.nameless ↔ ∀ x ∈ xs, ∃ c, x = .literal c := by
  induction xs with
  | nil => simp
  | cons x xs ih =>
      rw [List.flatMap_cons, List.flatMap_cons, List.forall_mem_cons]
      cases x with
      | literal c => simp [Piece.routed, Piece.nameless, ih fun p member => named p (List.mem_cons_of_mem _ member)]
      | parameter p => simp [routed_ne_nameless (named p List.mem_cons_self)]

/-- What is left of a placeholder has a brace. -/
theorem eq_map_literal_of_nameless (left : xs.flatMap Piece.nameless = cs) (plain : '{' ∉ cs) :
    xs = cs.map .literal := by
  subst left
  induction xs with
  | nil => rfl
  | cons x xs ih =>
      rw [List.flatMap_cons, List.mem_append, not_or] at plain
      cases x with
      | literal c => exact congrArg (.literal c :: ·) (ih plain.2)
      | parameter p =>
          refine absurd ?_ plain.1
          cases rest : p.catchAll <;> simp [Piece.nameless, rest]

theorem shapeOfSegment_placeholder {p : Parameter} (named : p.Named) (cs : List Char) :
    shapeOfSegment (Piece.routed (.parameter p) ++ cs) = Piece.nameless (.parameter p) := by
  cases rest : p.catchAll with
  | true =>
      rw [routed_rest rest, shapeOfSegment_rest]
      simp [Piece.nameless, rest]
  | false =>
      obtain ⟨c, name, spelled⟩ := List.exists_cons_of_ne_nil named.nonempty
      have star : c ≠ '*' := (isNameRest_ne (named.plain c (by simp [spelled]))).2.2.1
      rw [routed_capture rest, shapeOfSegment_capture (by simpa [spelled] using star)]
      simp [Piece.nameless, rest]

/-- **The shape of a segment is what is left without names** exactly if its placeholder stands alone. -/
theorem shapeOfSegment_eq_nameless_iff (named : ∀ p, .parameter p ∈ xs → p.Named) :
    shapeOfSegment (xs.flatMap Piece.routed) = xs.flatMap Piece.nameless ↔ Piece.Alone xs := by
  constructor
  · intro same
    rcases xs with _ | ⟨c | p, xs⟩
    · exact .text (by simp) (by simp)
    · have cons : (Piece.literal c :: xs).flatMap Piece.routed = c :: xs.flatMap Piece.routed := rfl
      have cons' : (Piece.literal c :: xs).flatMap Piece.nameless = c :: xs.flatMap Piece.nameless := rfl
      by_cases opens : c = '{'
      -- Nothing but the end of a placeholder is left of what is behind the brace.
      · subst opens
        rw [cons, cons'] at same
        rcases segment_cases ('{' :: xs.flatMap Piece.routed) with ⟨rest, starred⟩ | ⟨rest, starred, single⟩ | other
        · rw [starred, shapeOfSegment_rest, List.cons.injEq] at same
          rw [eq_map_literal_of_nameless same.2.symm (by decide)]
          exact .unnamed true
        · rw [starred, shapeOfSegment_capture single, List.cons.injEq] at same
          rw [eq_map_literal_of_nameless same.2.symm (by decide)]
          exact .unnamed false
        · simp at other
      · rw [shapeOfSegment_text (by simpa [cons] using opens), flatMap_routed_eq_nameless_iff named] at same
        exact .text same (by simpa using opens)
    · rw [List.flatMap_cons, List.flatMap_cons, shapeOfSegment_placeholder (named p List.mem_cons_self)] at same
      have none : xs.flatMap Piece.nameless = [] := List.self_eq_append_right.mp same
      rw [eq_map_literal_of_nameless none (by simp)]
      exact .placeholder p
  · rintro (⟨plain, single⟩ | p | star)
    · have same := (flatMap_routed_eq_nameless_iff named).mpr plain
      rw [← same, shapeOfSegment_text]
      rcases xs with _ | ⟨x, xs⟩
      · simp
      · obtain ⟨c, rfl⟩ := plain x List.mem_cons_self
        simpa [Piece.routed] using single
    · rw [List.flatMap_singleton, List.flatMap_singleton, ← List.append_nil (Piece.routed _),
        shapeOfSegment_placeholder (named p List.mem_cons_self)]
    · cases star <;> rfl

end

/-- A path is put together from its own pieces. -/
theorem toList_normalize (template : String) :
    (normalize template).toList = (pieces (normalize template)).flatMap Piece.routed := by
  obtain ⟨lead, -, divided, slashed⟩ := pieces_normalize template
  rw [divided, List.flatMap_append, flatMap_routed_bare, ← slashed, normalize, String.toList_ofList]

theorem slash_notMem_routed {x : Piece} (named : ∀ p, x = .parameter p → p.Named) (other : x ≠ .literal '/') :
    '/' ∉ x.routed ∧ '/' ∉ x.nameless := by
  cases x with
  | literal c =>
      have slash : '/' ≠ c := fun same => other (congrArg Piece.literal same.symm)
      simp [Piece.routed, Piece.nameless, slash]
  | parameter p =>
      have absent : '/' ∉ p.name.toList := fun member =>
        (isNameRest_ne ((named p rfl).plain '/' member)).2.2.2 rfl
      cases rest : p.catchAll <;> simp [Piece.routed, Piece.nameless, rest, absent]

/-- The segments of a path are those of its pieces, with names and without. -/
theorem splitOn_pieces {xs : List Piece} (named : ∀ p, .parameter p ∈ xs → p.Named) :
    (xs.flatMap Piece.routed).splitOn '/' = (xs.splitOn (.literal '/')).map (List.flatMap Piece.routed) ∧
      (xs.flatMap Piece.nameless).splitOn '/' = (xs.splitOn (.literal '/')).map (List.flatMap Piece.nameless) := by
  have apart (x : Piece) (member : x ∈ xs) (other : x ≠ .literal '/') : '/' ∉ x.routed ∧ '/' ∉ x.nameless :=
    slash_notMem_routed (fun p same => named p (same ▸ member)) other
  exact ⟨splitOn_flatMap (f := Piece.routed) rfl fun x member other => (apart x member other).1,
    splitOn_flatMap (f := Piece.nameless) rfl fun x member other => (apart x member other).2⟩

/-- **A shape is the path without names exactly if placeholders stand alone.** -/
theorem shape_eq_nameless_iff {template : String} :
    shape template = nameless template ↔ PlaceholdersAlone template := by
  have named (p : Parameter) (member : .parameter p ∈ pieces (normalize template)) : p.Named :=
    named_of_mem_pieces member
  obtain ⟨routed, left⟩ := splitOn_pieces named
  rw [← String.toList_inj, ← splitOn_inj (a := '/'), splitOn_shape, segments_eq_splitOn, toList_normalize, routed,
    nameless, String.toList_ofList, left, List.map_map, List.map_inj_left]
  exact forall₂_congr fun xs divided =>
    shapeOfSegment_eq_nameless_iff fun p member => named p ((of_mem_splitOn divided).2 member)

/-- **Shapes are compared segment by segment**, by what the segments begin with.  A shape is the path whose
placeholders have lost their names exactly if every placeholder fills its segment and every brace that begins a
segment begins a placeholder; so two such templates have one shape exactly if their paths differ in names only. -/
theorem shape_forgets_names (template template' : String) :
    (shape template = shape template' ↔ List.Forall₂ SameShape (segments (normalize template).toList)
        (segments (normalize template').toList)) ∧
      (shape template = nameless template ↔ PlaceholdersAlone template) ∧
      (PlaceholdersAlone template → PlaceholdersAlone template' →
        (shape template = shape template' ↔ nameless template = nameless template')) := by
  refine ⟨shape_eq_iff, shape_eq_nameless_iff, fun alone alone' => ?_⟩
  rw [shape_eq_nameless_iff.mpr alone, shape_eq_nameless_iff.mpr alone']

/-- A constraint is no part of a shape, and neither is the name of a user. -/
theorem users_shape_forgets_names :
    PlaceholdersAlone "/users/\x7bid\x7d" ∧ PlaceholdersAlone "users/\x7buserId:int\x7d" ∧
      (shape "/users/\x7bid\x7d" = shape "users/\x7buserId:int\x7d" ↔
        nameless "/users/\x7bid\x7d" = nameless "users/\x7buserId:int\x7d") := by
  have alone : PlaceholdersAlone "/users/\x7bid\x7d" := shape_eq_nameless_iff.mp (by decide +kernel)
  have alone' : PlaceholdersAlone "users/\x7buserId:int\x7d" := shape_eq_nameless_iff.mp (by decide +kernel)
  exact ⟨alone, alone', (shape_forgets_names _ _).2.2 alone alone'⟩

/-- Behind other text a name stays in the shape, and of a text that begins with two braces nothing stays. -/
theorem shape_misses_names :
    nameless "/x\x7bid\x7d" = nameless "/x\x7bname\x7d" ∧ shape "/x\x7bid\x7d" ≠ shape "/x\x7bname\x7d" ∧
      nameless "/\x7bid\x7d" ≠ nameless "/\x7b\x7bv1-x\x7d\x7d" ∧
        shape "/\x7bid\x7d" = shape "/\x7b\x7bv1-x\x7d\x7d" := by
  decide +kernel

end HandlerChain.Route
