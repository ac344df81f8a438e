/-!
# Bytes written as text

Three bytes are written as four characters, each of which stands for six bits; a group that is not
full is filled up with equals signs.  Characters that stand for nothing are passed over.

* `decodeBase64?` reads such a text.
-/

set_option autoImplicit false

namespace SearchFilter
namespace Text

/-- The six bits that a character stands for. -/
def sixBits? (c : Char) : Option Nat :=
  if 'A' ≤ c ∧ c ≤ 'Z' then some (c.toNat - 65)
  else if 'a' ≤ c ∧ c ≤ 'z' then some (c.toNat - 71)
  else if '0' ≤ c ∧ c ≤ '9' then some (c.toNat + 4)
  else if c = '+' then some 62
  else if c = '/' then some 63
  else none

/-- The whole bytes among the bits of a group. -/
def groupBytes : List Nat → List Nat
  | [a, b] => [a * 4 + b / 16]
  | [a, b, c] => [a * 4 + b / 16, b % 16 * 16 + c / 4]
  | [a, b, c, d] => [a * 4 + b / 16, b % 16 * 16 + c / 4, c % 4 * 64 + d]
  | _ => []

/-- The bytes of a text behind a part of a group and the equals signs that stand directly before.
When group and equals signs make up four, the text is over. -/
def decodeFrom? (group : List Nat) (signs : Nat) : List Char → Option (List Nat)
  | [] => if group.isEmpty then some [] else none
  | c :: cs =>
    if c = '=' then
      if group.length < 2 then decodeFrom? group signs cs
      else if group.length + signs + 1 ≥ 4 then some (groupBytes group)
      else decodeFrom? group (signs + 1) cs
    else
      match sixBits? c with
      | none => decodeFrom? group signs cs
      | some bits =>
        if group.length = 3 then
          (decodeFrom? [] 0 cs).map (groupBytes (group ++ [bits]) ++ ·)
        else decodeFrom? (group ++ [bits]) 0 cs

/-- **The bytes that a text writes**, if its last group is full or filled up. -/
def decodeBase64? (cs : List Char) : Option (List Nat) :=
  decodeFrom? [] 0 cs

end Text
end SearchFilter
