import HandlerChain.Http.Percent
import Mathlib.Data.List.Basic

/-!
# What is encoded is read back

A text goes into a request as bytes, and a name with a value as a piece of a form.  Reading them is total:
what is malformed is replaced, and what is no escape stays.  What was written by the rules is read as it was,
and every text can be written by them, so that there is no name that a request could not carry.

## Main Definitions

* `Http.Percent.escape` writes bytes by their hexadecimal digits, `Http.Form.pairText` a name with a value.

## Main Results

* `Text.Utf8.decodeLossy_encode`: the bytes of a text are read as this text.
* `Http.Percent.decode_escape`: escaped bytes are read as these bytes.
* `Http.Form.parse_pairText` and `Http.Form.exists_queryText`: a form or a query can have any one name with
  any value.
-/

namespace HandlerChain

namespace Text.Utf8

section

variable {b b₂ b₃ b₄ : UInt8} {rest : List UInt8}

/-- A byte that may follow the first of a sequence. -/
structure Follows (b b₂ : UInt8) : Prop where
  least : 0x80 ≤ b₂.toNat
  greatest : b₂.toNat ≤ 0xBF
  overlong : (b.toNat = 0xE0 → 0xA0 ≤ b₂.toNat) ∧ (b.toNat = 0xF0 → 0x90 ≤ b₂.toNat)
  outside : (b.toNat = 0xED → b₂.toNat ≤ 0x9F) ∧ (b.toNat = 0xF4 → b₂.toNat ≤ 0x8F)

theorem Follows.inside (follows : Follows b b₂) :
    ¬(b₂.toNat < (secondBounds b).1.toNat ∨ (secondBounds b).2.toNat < b₂.toNat) := by
  obtain ⟨least, greatest, ⟨e0, f0⟩, ed, f4⟩ := follows
  simp only [secondBounds, ← UInt8.toNat_inj, UInt8.reduceToNat]
  split_ifs <;> simp only [UInt8.reduceToNat] <;> omega

theorem next_one (small : b.toNat < 0x80) : next b rest = .char (Char.ofNat b.toNat) 1 := by
  have below : b < 0x80 := UInt8.lt_iff_toNat_lt.mpr small
  rw [next.eq_def, if_pos below]

theorem next_two (first : 0xC2 ≤ b.toNat ∧ b.toNat < 0xE0) (second : Follows b b₂) :
    next b (b₂ :: rest) = .char (Char.ofNat ((b.toNat - 0xC0) * 64 + low b₂)) 2 := by
  simp only [next, UInt8.lt_iff_toNat_lt, UInt8.reduceToNat, Bool.or_eq_true, decide_eq_true_eq]
  simp (disch := omega) only [if_neg, if_pos, if_neg second.inside]

theorem next_three (first : 0xE0 ≤ b.toNat ∧ b.toNat < 0xF0) (second : Follows b b₂)
    (third : 0x80 ≤ b₃.toNat ∧ b₃.toNat ≤ 0xBF) :
    next b (b₂ :: b₃ :: rest) = .char (Char.ofNat (((b.toNat - 0xE0) * 64 + low b₂) * 64 + low b₃)) 3 := by
  simp only [next, isContinuation, UInt8.lt_iff_toNat_lt, UInt8.le_iff_toNat_le, UInt8.reduceToNat,
    Bool.or_eq_true, decide_eq_true_eq, Bool.not_eq_true', Bool.and_eq_false_iff, decide_eq_false_iff_not]
  simp (disch := omega) only [if_neg, if_pos, if_neg second.inside]

theorem next_four (first : 0xF0 ≤ b.toNat ∧ b.toNat ≤ 0xF4) (second : Follows b b₂)
    (third : 0x80 ≤ b₃.toNat ∧ b₃.toNat ≤ 0xBF) (fourth : 0x80 ≤ b₄.toNat ∧ b₄.toNat ≤ 0xBF) :
    next b (b₂ :: b₃ :: b₄ :: rest) =
      .char (Char.ofNat ((((b.toNat - 0xF0) * 64 + low b₂) * 64 + low b₃) * 64 + low b₄)) 4 := by
  simp only [next, isContinuation, UInt8.lt_iff_toNat_lt, UInt8.le_iff_toNat_le, UInt8.reduceToNat,
    Bool.or_eq_true, decide_eq_true_eq, Bool.not_eq_true', Bool.and_eq_false_iff, decide_eq_false_iff_not]
  simp (disch := omega) only [if_neg, if_neg second.inside]

end

theorem byte_toNat {n : Nat} (small : n < 256) : (UInt8.ofNat n).toNat = n := UInt8.toNat_ofNat_of_lt' small

/-- The bytes of a character are read as this character, whatever follows them. -/
theorem next_utf8EncodeChar (c : Char) :
    ∃ b more, String.utf8EncodeChar c = b :: more ∧
      ∀ rest, next b (more ++ rest) = .char c (more.length + 1) := by
  have valid : c.val.toNat < 0xD800 ∨ 0xDFFF < c.val.toNat ∧ c.val.toNat < 0x110000 := c.valid
  have read : ∀ n, n = c.val.toNat → Char.ofNat n = c := fun n same => same ▸ Char.ofNat_toNat c
  unfold String.utf8EncodeChar
  dsimp only
  split
  · next one =>
    have first := byte_toNat (show c.val.toNat < 256 by omega)
    refine ⟨_, _, rfl, fun rest => ?_⟩
    rw [next_one (by omega), read _ first]
    rfl
  · split
    · next two =>
      have first := byte_toNat (show c.val.toNat / 64 % 32 + 192 < 256 by omega)
      have second := byte_toNat (show c.val.toNat % 64 + 128 < 256 by omega)
      refine ⟨_, _, rfl, fun rest => ?_⟩
      rw [List.singleton_append, next_two (by omega) ⟨by omega, by omega, by omega, by omega⟩,
        read _ (by rw [low, first, second]; omega)]
      rfl
    · split
      · next three =>
        have first := byte_toNat (show c.val.toNat / 4096 % 16 + 224 < 256 by omega)
        have second := byte_toNat (show c.val.toNat / 64 % 64 + 128 < 256 by omega)
        have third := byte_toNat (show c.val.toNat % 64 + 128 < 256 by omega)
        refine ⟨_, _, rfl, fun rest => ?_⟩
        rw [List.cons_append, List.singleton_append,
          next_three (by omega) ⟨by omega, by omega, by omega, by omega⟩ (by omega),
          read _ (by rw [low, low, first, second, third]; omega)]
        rfl
      · next four =>
        have first := byte_toNat (show c.val.toNat / 262144 % 8 + 240 < 256 by omega)
        have second := byte_toNat (show c.val.toNat / 4096 % 64 + 128 < 256 by omega)
        have third := byte_toNat (show c.val.toNat / 64 % 64 + 128 < 256 by omega)
        have fourth := byte_toNat (show c.val.toNat % 64 + 128 < 256 by omega)
        refine ⟨_, _, rfl, fun rest => ?_⟩
        rw [List.cons_append, List.cons_append, List.singleton_append,
          next_four (by omega) ⟨by omega, by omega, by omega, by omega⟩ (by omega) (by omega),
          read _ (by rw [low, low, low, first, second, third, fourth]; omega)]
        rfl

/-- The bytes that belong to the character before are skipped. -/
theorem decodeLossyFrom_skip (more rest : List UInt8) :
    decodeLossyFrom more.length (more ++ rest) = decodeLossyFrom 0 rest := by
  induction more with
  | nil => rfl
  | cons b more ih => exact ih

theorem decodeLossyFrom_encode (cs : List Char) :
    decodeLossyFrom 0 (cs.flatMap String.utf8EncodeChar) = cs := by
  induction cs with
  | nil => rfl
  | cons c cs ih =>
      obtain ⟨b, more, bytes, item⟩ := next_utf8EncodeChar c
      rw [List.flatMap_cons, bytes, List.cons_append, decodeLossyFrom, item]
      dsimp only
      rw [Nat.add_sub_cancel, decodeLossyFrom_skip, ih]

theorem toList_loop (bs : ByteArray) (i : Nat) (read : List UInt8) :
    ByteArray.toList.loop bs i read = read.reverse ++ bs.data.toList.drop i := by
  fun_induction ByteArray.toList.loop bs i read with
  | case1 i read inside ih =>
      have here : i < bs.data.toList.length := by simpa using inside
      rw [ih, List.drop_eq_getElem_cons here, List.reverse_cons, List.append_assoc]
      simp [ByteArray.get!, inside]
  | case2 i read done =>
      have past : bs.data.toList.length ≤ i := by simpa using done
      rw [List.drop_of_length_le past, List.append_nil]

/-- The bytes of a text are those of its characters. -/
theorem encode_eq (s : String) : encode s = s.toList.flatMap String.utf8EncodeChar := by
  have bytes : s.toByteArray = s.toList.utf8Encode := by
    conv => lhs; rw [← String.ofList_toList (s := s), String.toByteArray_ofList]
  rw [encode, String.toUTF8, bytes, List.utf8Encode, ByteArray.toList, toList_loop,
    List.toList_data_toByteArray]
  rfl

/-- **The bytes of a text are read as this text.** -/
theorem decodeLossy_encode (s : String) : decodeLossy (encode s) = s := by
  rw [decodeLossy, encode_eq, decodeLossyFrom_encode, String.ofList_toList]

theorem charOfNat_toNat : ∀ n < 128, (Char.ofNat n).val.toNat = n := by decide

/-- Bytes of ASCII are the bytes of a text. -/
theorem encode_ascii {bs : List UInt8} (ascii : ∀ b ∈ bs, b.toNat < 0x80) :
    encode (String.ofList (bs.map fun b => Char.ofNat b.toNat)) = bs := by
  rw [encode_eq, String.toList_ofList]
  induction bs with
  | nil => rfl
  | cons b bs ih =>
      obtain ⟨small, rest⟩ := List.forall_mem_cons.mp ascii
      have value : (Char.ofNat b.toNat).val.toNat = b.toNat := charOfNat_toNat _ small
      rw [List.map_cons, List.flatMap_cons, ih rest, String.utf8EncodeChar]
      simp only [value]
      rw [if_pos (by omega), UInt8.ofNat_toNat]
      rfl

end Text.Utf8

namespace Http

/-- The hexadecimal digit of a number below 16. -/
def hexDigit (n : Nat) : UInt8 := UInt8.ofNat (if n < 10 then n + 48 else n + 55)

/-- Bytes with each of them written as a percent sign and two hexadecimal digits. -/
def Percent.escape (bytes : List UInt8) : List UInt8 :=
  bytes.flatMap fun b => [37, hexDigit (b.toNat / 16), hexDigit (b.toNat % 16)]

theorem hexValue?_hexDigit : ∀ n < 16, hexValue? (hexDigit n) = some n := by decide

/-- No hexadecimal digit means anything to a form. -/
theorem hexDigit_plain : ∀ n < 16,
    hexDigit n ≠ 38 ∧ hexDigit n ≠ 43 ∧ hexDigit n ≠ 61 ∧ (hexDigit n).toNat < 0x80 := by
  decide

theorem Percent.decode_escape (bytes : List UInt8) : decode (escape bytes) = bytes := by
  induction bytes with
  | nil => rfl
  | cons b bytes ih =>
      have high := hexValue?_hexDigit (b.toNat / 16) (by have := b.toNat_lt; omega)
      have low := hexValue?_hexDigit (b.toNat % 16) (by omega)
      have byte : (b.toNat / 16 * 16 + b.toNat % 16).toUInt8 = b := by
        rw [Nat.div_add_mod']
        exact UInt8.ofNat_toNat
      rw [escape, List.flatMap_cons, List.cons_append, List.cons_append, List.singleton_append, decode]
      simp only [high, low, byte]
      rw [← escape, ih]

theorem Percent.escape_plain {bytes : List UInt8} {b : UInt8} (member : b ∈ escape bytes) :
    b ≠ 38 ∧ b ≠ 43 ∧ b ≠ 61 ∧ b.toNat < 0x80 := by
  obtain ⟨c, -, written⟩ := List.mem_flatMap.mp member
  have small := c.toNat_lt
  rcases List.mem_cons.mp written with rfl | written
  · decide
  · rcases List.mem_pair.mp written with rfl | rfl
    · exact hexDigit_plain _ (by omega)
    · exact hexDigit_plain _ (by omega)

namespace Form

/-- A name and a value in the form encoding. -/
def pairText (name value : String) : List UInt8 :=
  Percent.escape (Text.Utf8.encode name) ++ 61 :: Percent.escape (Text.Utf8.encode value)

theorem split_of_notMem {sep : UInt8} {bytes : List UInt8} (absent : sep ∉ bytes) :
    split sep bytes = [bytes] := by
  induction bytes with
  | nil => rfl
  | cons b rest ih =>
      rw [List.mem_cons, not_or] at absent
      rw [split, if_neg (Ne.symm absent.1), ih absent.2]

theorem decodeText_escape (s : String) : decodeText (Percent.escape (Text.Utf8.encode s)) = s := by
  have kept : (Percent.escape (Text.Utf8.encode s)).map (fun b => if b = 43 then 32 else b) =
      Percent.escape (Text.Utf8.encode s) := by
    conv => rhs; rw [← List.map_id (Percent.escape (Text.Utf8.encode s))]
    exact List.map_congr_left fun b member => if_neg (Percent.escape_plain member).2.1
  rw [decodeText, kept, Percent.decode_escape, Text.Utf8.decodeLossy_encode]

/-- **Every name and value can be sent in a form.** -/
theorem parse_pairText (name value : String) : parse (pairText name value) = [(name, value)] := by
  have plain := fun (s : String) b (member : b ∈ Percent.escape (Text.Utf8.encode s)) =>
    Percent.escape_plain member
  have whole : 38 ∉ pairText name value := by
    intro member
    rcases List.mem_append.mp member with front | behind
    · exact (plain name 38 front).1 rfl
    · rcases List.mem_cons.mp behind with sign | value
      · cases sign
      · exact (plain _ 38 value).1 rfl
  have inside : ∀ b ∈ Percent.escape (Text.Utf8.encode name), decide (b ≠ 61) = true :=
    fun b member => decide_eq_true (plain name b member).2.2.1
  have front : (pairText name value).takeWhile (· ≠ 61) = Percent.escape (Text.Utf8.encode name) := by
    rw [pairText, List.takeWhile_append_of_pos inside]
    simp
  have behind : ((pairText name value).dropWhile (· ≠ 61)).drop 1 =
      Percent.escape (Text.Utf8.encode value) := by
    rw [pairText, List.dropWhile_append_of_pos inside]
    simp
  have filled : (pairText name value).isEmpty = false := by simp [pairText]
  rw [parse, split_of_notMem whole, List.filter_cons_of_pos (by simp [filled]), List.filter_nil,
    List.map_singleton, pair, front, behind, decodeText_escape, decodeText_escape]

/-- Also in a query, which is a text. -/
theorem exists_queryText (name value : String) :
    ∃ query : String, parse (Text.Utf8.encode query) = [(name, value)] := by
  have ascii : ∀ b ∈ pairText name value, b.toNat < 0x80 := by
    intro b member
    rcases List.mem_append.mp member with front | behind
    · exact (Percent.escape_plain front).2.2.2
    · rcases List.mem_cons.mp behind with rfl | value
      · decide
      · exact (Percent.escape_plain value).2.2.2
  exact ⟨_, by rw [Text.Utf8.encode_ascii ascii, parse_pairText]⟩

end Form

end Http

end HandlerChain
