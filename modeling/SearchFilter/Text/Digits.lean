import SearchFilter.Unicode.Numeral

/-!
# Writing and reading numbers

Numbers are written in lower-case digits of a base up to sixteen, padded with zeros to a fixed
width, and read back from decimal digits of any script.

* `padded` writes, `decimalValue` reads; `hexValue?` is the value of one digit of base sixteen.
* `decimalValue_padded`: what is written in base ten reads back, up to the width.
-/

set_option autoImplicit false

namespace SearchFilter
namespace Text

open Unicode

/-- The digit that stands for a value below sixteen. -/
def digitChar (v : Nat) : Char :=
  if v < 10 then Char.ofNat (48 + v) else Char.ofNat (87 + v)

/-- The last `width` digits of a number. -/
def padded (base : Nat) : (width : Nat) → (n : Nat) → List Char
  | 0, _ => []
  | width + 1, n => padded base width (n / base) ++ [digitChar (n % base)]

/-- The number that a run of decimal digits stands for.  A character that is no digit counts as
zero. -/
def decimalValue (digits : List Char) : Nat :=
  digits.foldl (fun n c => n * 10 + (digitValue? c).getD 0) 0

/-- The value of a digit of base sixteen, written in either case. -/
def hexValue? (c : Char) : Option Nat :=
  if c.isDigit then some (c.toNat - 48)
  else if 'a' ≤ c ∧ c ≤ 'f' then some (c.toNat - 87)
  else if 'A' ≤ c ∧ c ≤ 'F' then some (c.toNat - 55)
  else none

/-! ## Reading what was written -/

theorem length_padded (base width n : Nat) : (padded base width n).length = width := by
  induction width generalizing n with
  | zero => rfl
  | succ width ih => simp [padded, ih]

theorem digitValue?_digitChar {v : Nat} (h : v < 10) : digitValue? (digitChar v) = some v := by
  match v, h with
  | 0, _ | 1, _ | 2, _ | 3, _ | 4, _ | 5, _ | 6, _ | 7, _ | 8, _ | 9, _ => decide

theorem hexValue?_digitChar {v : Nat} (h : v < 16) : hexValue? (digitChar v) = some v := by
  have hall : ∀ v < 16, hexValue? (digitChar v) = some v := by decide
  exact hall v h

theorem decimalValue_append_singleton (digits : List Char) (c : Char) :
    decimalValue (digits ++ [c]) = decimalValue digits * 10 + (digitValue? c).getD 0 := by
  simp [decimalValue]

theorem decimalValue_padded (width n : Nat) :
    decimalValue (padded 10 width n) = n % Nat.pow 10 width := by
  induction width generalizing n with
  | zero => exact (Nat.mod_one n).symm
  | succ width ih =>
    have hlt : n % 10 < 10 := Nat.mod_lt _ (by decide)
    have hpow : Nat.pow 10 (width + 1) = 10 * Nat.pow 10 width := Nat.mul_comm ..
    rw [padded, decimalValue_append_singleton, ih, digitValue?_digitChar hlt, hpow, Nat.mod_mul,
      Option.getD_some]
    omega

end Text
end SearchFilter
