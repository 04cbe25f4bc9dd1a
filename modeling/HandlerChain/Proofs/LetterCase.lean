import HandlerChain.Text.LowerCase
import Mathlib.Data.List.Forall2

/-!
# Two notions of lower case

Inputs are told apart by the full lower case of their names, and looked up by names up to the case of the
letters A to Z.  The full lower case is the coarser of the two: it does not tell names apart that differ in
the case of these letters only, since none of its tables does.  On names in ASCII the two are the same.

## Main Results

* `Text.lowerCase_eq_of_lowerAscii_eq`: what is the same up to the case of ASCII letters is the same in full
  lower case.
* `Text.lowerCase_eq_lowerAscii`: of a text in ASCII the two lower cases are the same.
-/

namespace HandlerChain.Text

theorem lowerAscii_eq_iff {a b : String} :
    lowerAscii a = lowerAscii b ↔ a.toList.map Char.toLower = b.toList.map Char.toLower := by
  rw [lowerAscii, lowerAscii, ← String.toList_inj, String.toList_map, String.toList_map]

theorem eqIgnoreAsciiCase_iff {a b : String} :
    eqIgnoreAsciiCase a b = true ↔ lowerAscii a = lowerAscii b := by
  rw [eqIgnoreAsciiCase, beq_iff_eq]

theorem upper_iff {c : Char} : c.val ≥ 'A'.val ∧ c.val ≤ 'Z'.val ↔ 65 ≤ c.toNat ∧ c.toNat ≤ 90 :=
  and_congr UInt32.le_iff_toNat_le UInt32.le_iff_toNat_le

theorem eqIgnoreAsciiCase_self (s : String) : eqIgnoreAsciiCase s s = true := beq_self_eq_true _

/-- A letter from A to Z goes to the letter 32 places further. -/
theorem toLower_toNat {c : Char} (upper : 65 ≤ c.toNat ∧ c.toNat ≤ 90) : c.toLower.toNat = c.toNat + 32 := by
  have bound : c.val.toNat ≤ 90 := upper.2
  have small : c.val.toNat + 32 < 4294967296 := by omega
  delta Char.toLower
  rw [dif_pos (upper_iff.mpr upper)]
  exact Nat.mod_eq_of_lt small

theorem toLower_of_not_upper {c : Char} (other : ¬(65 ≤ c.toNat ∧ c.toNat ≤ 90)) : c.toLower = c := by
  delta Char.toLower
  rw [dif_neg (mt upper_iff.mp other)]

/-- What is the same for a letter from A to Z and its lower case is the same for characters that differ in
the case of such a letter. -/
theorem apply_eq_of_toLower_eq {α : Type} {f : Char → α}
    (letters : ∀ n < 26, f (Char.ofNat (n + 97)) = f (Char.ofNat (n + 65))) {c d : Char}
    (same : c.toLower = d.toLower) : f c = f d := by
  have lower : ∀ c : Char, f c.toLower = f c := by
    intro c
    by_cases upper : 65 ≤ c.toNat ∧ c.toNat ≤ 90
    · have spelled := letters (c.toNat - 65) (by omega)
      have place : c.toNat - 65 + 97 = c.toLower.toNat := by
        rw [toLower_toNat upper]
        omega
      rwa [place, Nat.sub_add_cancel upper.1, Char.ofNat_toNat, Char.ofNat_toNat] at spelled
    · rw [toLower_of_not_upper upper]
  rw [← lower c, same, lower d]

section

variable {c d : Char}

theorem lowerChar_eq_of_toLower_eq (same : c.toLower = d.toLower) : lowerChar c = lowerChar d :=
  apply_eq_of_toLower_eq (by decide +kernel) same

theorem isSigma_iff_of_toLower_eq (same : c.toLower = d.toLower) : c.toNat = 0x3A3 ↔ d.toNat = 0x3A3 := by
  have := apply_eq_of_toLower_eq (f := fun c => decide (c.toNat = 0x3A3)) (by decide +kernel) same
  simpa using this

theorem caseIgnorable_eq_of_toLower_eq (same : c.toLower = d.toLower) :
    CharClass.caseIgnorable.contains c = CharClass.caseIgnorable.contains d :=
  apply_eq_of_toLower_eq (by decide +kernel) same

theorem cased_eq_of_toLower_eq (same : c.toLower = d.toLower) :
    CharClass.cased.contains c = CharClass.cased.contains d :=
  apply_eq_of_toLower_eq (by decide +kernel) same

end

/-- Characters that are the same one by one up to the case of ASCII letters. -/
abbrev AlikeInCase (cs ds : List Char) : Prop := List.Forall₂ (fun c d => c.toLower = d.toLower) cs ds

theorem alikeInCase_iff {cs ds : List Char} :
    AlikeInCase cs ds ↔ cs.map Char.toLower = ds.map Char.toLower := by
  rw [← List.forall₂_eq_eq_eq, List.forall₂_map_left_iff, List.forall₂_map_right_iff]

/-- What does not tell the two cases of a letter apart holds of all characters of both texts or of neither. -/
theorem AlikeInCase.all_eq {f : Char → Bool}
    (letters : ∀ n < 26, f (Char.ofNat (n + 97)) = f (Char.ofNat (n + 65))) {cs ds : List Char}
    (alike : AlikeInCase cs ds) : cs.all f = ds.all f := by
  induction alike with
  | nil => rfl
  | cons same _ ih => rw [List.all_cons, List.all_cons, apply_eq_of_toLower_eq letters same, ih]

theorem meetsCased_eq {cs ds : List Char} (alike : AlikeInCase cs ds) : meetsCased cs = meetsCased ds := by
  induction alike with
  | nil => rfl
  | @cons c d cs ds same _ ih =>
      have skipped := caseIgnorable_eq_of_toLower_eq same
      cases skips : CharClass.caseIgnorable.contains d with
      | true =>
          rw [skips] at skipped
          simpa [meetsCased, List.dropWhile_cons, skips, skipped] using ih
      | false =>
          rw [skips] at skipped
          simpa [meetsCased, List.dropWhile_cons, skips, skipped] using cased_eq_of_toLower_eq same

/-- The full lower case of a text, letter by letter: whether a sigma ends a word is decided by characters
before and behind it that differ in case only. -/
theorem lowerFrom_eq {before before' cs ds : List Char} (earlier : AlikeInCase before before')
    (alike : AlikeInCase cs ds) : lowerFrom before cs = lowerFrom before' ds := by
  induction alike generalizing before before' with
  | nil => rfl
  | @cons c d cs ds same later ih =>
      rw [lowerFrom, lowerFrom, ih (.cons same earlier), meetsCased_eq earlier, meetsCased_eq later,
        lowerChar_eq_of_toLower_eq same]
      by_cases sigma : c.toNat = 0x3A3
      · rw [if_pos sigma, if_pos ((isSigma_iff_of_toLower_eq same).mp sigma)]
      · rw [if_neg sigma, if_neg (mt (isSigma_iff_of_toLower_eq same).mpr sigma)]

/-- **Full lower case is the coarser**: it does not tell texts apart that are the same up to the case of
ASCII letters. -/
theorem lowerCase_eq_of_lowerAscii_eq {a b : String} (same : lowerAscii a = lowerAscii b) :
    lowerCase a = lowerCase b := by
  rw [lowerCase, lowerCase, lowerFrom_eq .nil (alikeInCase_iff.mpr (lowerAscii_eq_iff.mp same))]

theorem lowerFrom_ascii {before cs : List Char} (ascii : ∀ c ∈ cs, c.toNat < 0x80) :
    lowerFrom before cs = cs.map Char.toLower := by
  induction cs generalizing before with
  | nil => rfl
  | cons c cs ih =>
      obtain ⟨small, rest⟩ := List.forall_mem_cons.mp ascii
      have plain : c.toNat ≠ 0x3A3 := by omega
      rw [lowerFrom, if_neg plain, lowerChar, if_pos small, ih rest]
      rfl

/-- **Of a text in ASCII the two lower cases are the same.** -/
theorem lowerCase_eq_lowerAscii {s : String} (ascii : ∀ c ∈ s.toList, c.toNat < 0x80) :
    lowerCase s = lowerAscii s := by
  rw [lowerCase, lowerFrom_ascii ascii, ← String.toList_inj, String.toList_ofList, lowerAscii,
    String.toList_map]

end HandlerChain.Text
