/-!
# Integers of fixed width

## Main Definitions

* `IntKind` is a width with or without a sign.
* `IntKind.Number` are the integers of a kind; `IntKind.wrap` reduces any integer to one of them.
* `IntKind.parse` reads decimal text.
-/

namespace HandlerChain

/-- The kinds of integers. -/
inductive IntKind where
  | i8 | i16 | i32 | i64 | i128 | isize
  | u8 | u16 | u32 | u64 | u128 | usize
  deriving DecidableEq, Repr

namespace IntKind

/-- The name of a kind. -/
def name : IntKind → String
  | i8 => "i8" | i16 => "i16" | i32 => "i32" | i64 => "i64" | i128 => "i128" | isize => "isize"
  | u8 => "u8" | u16 => "u16" | u32 => "u32" | u64 => "u64" | u128 => "u128" | usize => "usize"

/-- Whether a kind has negative numbers. -/
def signed : IntKind → Bool
  | i8 | i16 | i32 | i64 | i128 | isize => true
  | _ => false

/-- The number of bits. -/
def bits : IntKind → Nat
  | i8 | u8 => 8
  | i16 | u16 => 16
  | i32 | u32 => 32
  | i64 | u64 | isize | usize => 64
  | i128 | u128 => 128

/-- Whether the numbers of a kind are wider than the integers of a JSON number. -/
def isWide (k : IntKind) : Bool := k.bits == 128

/-- The least number. -/
def lo (k : IntKind) : Int := if k.signed then -(Nat.pow 2 (k.bits - 1) : Nat) else 0

/-- The greatest number. -/
def hi (k : IntKind) : Int :=
  if k.signed then (Nat.pow 2 (k.bits - 1) : Nat) - 1 else (Nat.pow 2 k.bits : Nat) - 1

theorem lo_le_zero (k : IntKind) : k.lo ≤ 0 := by cases k <;> decide

theorem zero_le_hi (k : IntKind) : 0 ≤ k.hi := by cases k <;> decide

theorem hi_eq (k : IntKind) : k.hi = k.lo + (Nat.pow 2 k.bits : Nat) - 1 := by cases k <;> decide

/-- The integers of a kind. -/
structure Number (k : IntKind) where
  val : Int
  lo_le : k.lo ≤ val
  le_hi : val ≤ k.hi
  deriving DecidableEq, Repr

namespace Number

variable {k : IntKind}

instance : Inhabited (Number k) := ⟨⟨0, k.lo_le_zero, k.zero_le_hi⟩⟩

theorem ext {a b : Number k} (h : a.val = b.val) : a = b := by
  cases a; cases b; simp_all

end Number

/-- The number of a kind, if the integer is one. -/
def ofInt? (k : IntKind) (n : Int) : Option k.Number :=
  if h : k.lo ≤ n ∧ n ≤ k.hi then some ⟨n, h.1, h.2⟩ else none

/-- The number of a kind that differs from the integer by a multiple of two to the width. -/
def wrap (k : IntKind) (n : Int) : k.Number where
  val := (n - k.lo) % (Nat.pow 2 k.bits : Nat) + k.lo
  lo_le := by
    have : 0 ≤ (n - k.lo) % (Nat.pow 2 k.bits : Nat) :=
      Int.emod_nonneg _ (by have : 0 < Nat.pow 2 k.bits := Nat.two_pow_pos k.bits; omega)
    omega
  le_hi := by
    have : (n - k.lo) % (Nat.pow 2 k.bits : Nat) < (Nat.pow 2 k.bits : Nat) :=
      Int.emod_lt_of_pos _ (by have : 0 < Nat.pow 2 k.bits := Nat.two_pow_pos k.bits; omega)
    have := k.hi_eq
    omega

/-- Why a text is no number of a kind. -/
inductive ParseError where
  | empty
  | invalidDigit
  | tooLarge
  | tooSmall
  deriving DecidableEq, Repr

/-- The wording of an error. -/
def ParseError.message : ParseError → String
  | empty => "cannot parse integer from empty string"
  | invalidDigit => "invalid digit found in string"
  | tooLarge => "number too large to fit in target type"
  | tooSmall => "number too small to fit in target type"

/-- Adds decimal digits to a number from the left; the first digit that is none or that leaves the
range decides the error. -/
def parseDigits (k : IntKind) (negative : Bool) (acc : Int) : List Char → Except ParseError Int
  | [] => .ok acc
  | c :: rest =>
    if !c.isDigit then .error .invalidDigit
    else
      let d : Int := c.toNat - 48
      let next := if negative then acc * 10 - d else acc * 10 + d
      if next < k.lo then .error .tooSmall
      else if k.hi < next then .error .tooLarge
      else parseDigits k negative next rest

/-- Reads a decimal number with an optional sign; a minus sign needs a signed kind. -/
def parseInt (k : IntKind) (s : String) : Except ParseError Int :=
  match s.toList with
  | [] => .error .empty
  | ['+'] => .error .invalidDigit
  | ['-'] => .error .invalidDigit
  | '+' :: digits => parseDigits k false 0 digits
  | '-' :: digits => if k.signed then parseDigits k true 0 digits else .error .invalidDigit
  | digits => parseDigits k false 0 digits

/-- Reads a number of a kind. -/
def parse (k : IntKind) (s : String) : Except ParseError k.Number :=
  match parseInt k s with
  | .error e => .error e
  | .ok n =>
    match k.ofInt? n with
    | some x => .ok x
    | none => .error .tooLarge

end IntKind

end HandlerChain
