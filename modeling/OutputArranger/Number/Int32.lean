/-!
# Numbers of 32 bits

Sizes, positions, rates and scales travel as integers of 32 bits. A sum that leaves their range
wraps around.
-/

namespace OutputArranger

/-- The range of the numbers in which sizes, positions and scales travel. -/
def minInt32 : Int := -2147483648

def maxInt32 : Int := 2147483647

/-- Confines an integer to that range. -/
def clampInt32 (i : Int) : Int := max minInt32 (min maxInt32 i)

/-- The integer of that range from which another one differs by a multiple of 2 ^ 32. -/
def wrapInt32 (i : Int) : Int := i.bmod 4294967296

theorem wrapInt32_of_fits {i : Int} (hmin : minInt32 ≤ i) (hmax : i ≤ maxInt32) :
    wrapInt32 i = i := by
  unfold minInt32 at hmin
  unfold maxInt32 at hmax
  exact Int.bmod_eq_of_le (by omega) (by omega)

theorem wrapInt32_wrapInt32 (i : Int) : wrapInt32 (wrapInt32 i) = wrapInt32 i := Int.bmod_bmod

/-- A sum that overflows on the way is right again at its end. -/
theorem wrapInt32_wrapInt32_add (i j : Int) :
    wrapInt32 (wrapInt32 i + j) = wrapInt32 (i + j) := Int.bmod_add_bmod

end OutputArranger
