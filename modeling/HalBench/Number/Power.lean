/-!
# Powers

The powers of the two bases in which numbers are written.
-/

namespace HalBench

def twoTo (n : Nat) : Nat := Nat.pow 2 n

def tenTo (n : Nat) : Nat := Nat.pow 10 n

theorem twoTo_succ (n : Nat) : twoTo (n + 1) = 2 * twoTo n := by
  show Nat.pow 2 n * 2 = 2 * Nat.pow 2 n
  omega

theorem twoTo_pos (n : Nat) : 0 < twoTo n := by
  induction n with
  | zero => decide
  | succ n ih => rw [twoTo_succ]; omega

end HalBench
