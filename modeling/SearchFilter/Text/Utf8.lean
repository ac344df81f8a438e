import SearchFilter.Surroundings
import SearchFilter.Text.Digits

/-!
# Texts as bytes

Files hold bytes, and a text is kept in them as UTF-8.  A surrogate has no bytes there, and not all bytes
are those of a text.

* `encodeFault?` finds the first surrogates of a text that have no bytes; `isEncodable` holds of the texts
  that have none of these, and `shown` writes their codes.
* `decode` reads bytes as a text, or says where and why they are none.
-/

set_option autoImplicit false

namespace SearchFilter
namespace Text

open Surroundings

/-- What is said of a fault between two positions, the first of which shows something. -/
def faultMessage (what shown why : String) (start stop : Nat) : String :=
  "'utf-8' codec can't " ++ what ++
    (if stop = start + 1 then s!" {shown} in position {start}: " else
      s!"s in position {start}-{stop - 1}: ") ++ why

/-! ## From texts to bytes -/

/-- Surrogates next to each other in a text that have no bytes. -/
structure EncodeFault where
  start : Nat
  /-- The position behind the last of them. -/
  stop : Nat
  /-- The first of them. -/
  surrogate : Nat
deriving DecidableEq, Repr

/-- The text of a fault. -/
def EncodeFault.message (fault : EncodeFault) : String :=
  faultMessage "encode character" ("'\\u" ++ String.ofList (padded 16 4 fault.surrogate) ++ "'")
    "surrogates not allowed" fault.start fault.stop

section

variable [Surroundings]

/-- The first surrogates of a text that have no bytes, when it starts at a position.  Some surrogates
can be `known`: there are bytes for them. -/
def encodeFaultFrom? (known : Nat → Bool) (position : Nat) : List Char → Option EncodeFault
  | [] => none
  | c :: cs =>
    match (surrogate? c).filter (!known ·) with
    | none => encodeFaultFrom? known (position + 1) cs
    | some n =>
      let more := cs.takeWhile fun c => (surrogate? c).isSome
      some ⟨position, position + 1 + more.length, n⟩

/-- The first surrogates of a text. -/
def encodeFault? (s : String) : Option EncodeFault :=
  encodeFaultFrom? (fun _ => false) 0 s.toList

/-- Whether a text can be kept as bytes. -/
def isEncodable (s : String) : Bool :=
  s.toList.all fun c => (surrogate? c).isNone

/-- A text as it is shown where all its characters need bytes: surrogates by their codes. -/
def shown (s : String) : String :=
  String.ofList (s.toList.flatMap fun c =>
    match surrogate? c with
    | some n => '\\' :: 'u' :: padded 16 4 n
    | none => [c])

end

/-! ## From bytes to texts -/

/-- Why bytes are no text. -/
inductive DecodeReason where
  | badStart
  | badContinuation
  | unfinished
deriving DecidableEq, Repr

/-- A reason in words. -/
def DecodeReason.words : DecodeReason → String
  | badStart => "invalid start byte"
  | badContinuation => "invalid continuation byte"
  | unfinished => "unexpected end of data"

/-- Bytes next to each other that stand for no character. -/
structure DecodeFault where
  start : Nat
  /-- The position behind the last of them. -/
  stop : Nat
  /-- The first of them. -/
  byte : UInt8
  reason : DecodeReason
deriving DecidableEq, Repr

/-- The text of a fault. -/
def DecodeFault.message (fault : DecodeFault) : String :=
  faultMessage "decode byte" ("0x" ++ String.ofList (padded 16 2 fault.byte.toNat))
    fault.reason.words fault.start fault.stop

/-- A character of which some bytes have been read. -/
structure Unfinished where
  start : Nat
  /-- The first byte. -/
  byte : UInt8
  /-- The bits so far. -/
  bits : Nat
  /-- The number of bytes that are to follow the next one. -/
  left : Nat
  /-- The least and the greatest that the next byte can be. -/
  low : Nat := 0x80
  high : Nat := 0xBF

/-- What the first of several bytes of a character opens. -/
def Unfinished.ofByte? (start : Nat) (byte : UInt8) : Option Unfinished :=
  let n := byte.toNat
  if 0xC2 ≤ n ∧ n ≤ 0xDF then some ⟨start, byte, n - 0xC0, 0, 0x80, 0xBF⟩
  else if 0xE0 ≤ n ∧ n ≤ 0xEF then
    -- the least value that needs three bytes, and no surrogate
    some ⟨start, byte, n - 0xE0, 1, if n = 0xE0 then 0xA0 else 0x80, if n = 0xED then 0x9F else 0xBF⟩
  else if 0xF0 ≤ n ∧ n ≤ 0xF4 then
    -- the least value that needs four bytes, and no more than there are code points
    some ⟨start, byte, n - 0xF0, 2, if n = 0xF0 then 0x90 else 0x80, if n = 0xF4 then 0x8F else 0xBF⟩
  else none

/-- The characters of bytes from a position on, behind the first bytes of a character if there are
any. -/
def decodeFrom (position : Nat) (unfinished : Option Unfinished) :
    List UInt8 → Except DecodeFault (List Char)
  | [] =>
    match unfinished with
    | none => .ok []
    | some u => .error ⟨u.start, position, u.byte, .unfinished⟩
  | byte :: bytes =>
    match unfinished with
    | none =>
      if byte.toNat < 0x80 then do
        return Char.ofNat byte.toNat :: (← decodeFrom (position + 1) none bytes)
      else
        match Unfinished.ofByte? position byte with
        | some u => decodeFrom (position + 1) (some u) bytes
        | none => .error ⟨position, position + 1, byte, .badStart⟩
    | some u =>
      if u.low ≤ byte.toNat ∧ byte.toNat ≤ u.high then
        let bits := u.bits * 64 + (byte.toNat - 0x80)
        match u.left with
        | 0 => do return Char.ofNat bits :: (← decodeFrom (position + 1) none bytes)
        | left + 1 =>
          decodeFrom (position + 1) (some ⟨u.start, u.byte, bits, left, 0x80, 0xBF⟩) bytes
      else .error ⟨u.start, position, u.byte, .badContinuation⟩

/-- **The text that bytes are.** -/
def decode (bytes : List UInt8) : Except DecodeFault String :=
  (decodeFrom 0 none bytes).map String.ofList

end Text
end SearchFilter
