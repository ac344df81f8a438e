/-!
# How alike two texts are

Two texts are compared by the longest piece that both contain, and then on either side of that piece in
the same way.

* `alikeChars` counts the characters in all those pieces.
* `isClose` says whether six of ten characters of the two texts are in them.
-/

set_option autoImplicit false

namespace SearchFilter
namespace Text

/-- The number of characters that two texts share at their start. -/
def sharedStart : List Char → List Char → Nat
  | a :: as, b :: bs => if a = b then sharedStart as bs + 1 else 0
  | _, _ => 0

/-- A piece that two texts share: what stands before it in either, and its length. -/
structure SharedPiece where
  before : Nat
  before' : Nat
  length : Nat
deriving DecidableEq, Repr

/-- The longer of two pieces; of equally long ones the first. -/
def SharedPiece.longer (p q : SharedPiece) : SharedPiece :=
  if p.length < q.length then q else p

/-- The longest piece at the start of the first text, the second text being read from a place on. -/
def longestAtStart (before before' : Nat) (as : List Char) : List Char → SharedPiece
  | [] => ⟨before, before', 0⟩
  | b :: bs =>
    SharedPiece.longer ⟨before, before', sharedStart as (b :: bs)⟩
      (longestAtStart before (before' + 1) as bs)

/-- The longest piece that two texts share, the first text being read from a place on. -/
def longestShared (before : Nat) (bs : List Char) : List Char → SharedPiece
  | [] => ⟨before, 0, 0⟩
  | a :: as =>
    SharedPiece.longer (longestAtStart before 0 (a :: as) bs) (longestShared (before + 1) bs as)

/-- The characters that two texts share in the longest piece and, on either side of it, in the same
way, as far as `steps` pieces within each other go. -/
def alikeTo : (steps : Nat) → List Char → List Char → Nat
  | 0, _, _ => 0
  | steps + 1, as, bs =>
    let piece := longestShared 0 bs as
    if piece.length = 0 then 0
    else
      alikeTo steps (as.take piece.before) (bs.take piece.before') + piece.length +
        alikeTo steps (as.drop (piece.before + piece.length)) (bs.drop (piece.before' + piece.length))

/-- **The characters that two texts share**, piece by piece. -/
def alikeChars (as bs : List Char) : Nat :=
  alikeTo (as.length + 1) as bs

/-- Whether two texts are alike: six of ten of their characters are shared. -/
def isClose (as bs : List Char) : Bool :=
  3 * (as.length + bs.length) ≤ 10 * alikeChars as bs

end Text
end SearchFilter
