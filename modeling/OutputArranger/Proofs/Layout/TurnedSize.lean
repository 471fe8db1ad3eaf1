import OutputArranger.Proofs.Layout.WantedScale

/-!
# The size of a turned mode

A display that is turned onto its side takes the room of one that stands upright with width and
height exchanged. This holds at every scale that leaves something of the user's number in 256ths;
where nothing is left, the size is that of the mode, however it is turned, and only a square comes
out right.
-/

namespace OutputArranger.Layout

open Binary64 (stepsPerOne)

variable {s : Scale} {x : Binary64} {t u : Transform}

/-! ## At one scale -/

theorem dimensions_of_not_pos (hs : s.raw ≤ 0) (m : Mode) (t : Transform) :
    dimensions m t s = (m.width, m.height) := if_pos hs

theorem dimensions_upright (hs : 0 < s.raw) (hu : u.isRotated = false) (m : Mode) :
    dimensions m u s = (scaledSide m.width s.raw, scaledSide m.height s.raw) := by
  rw [dimensions, if_neg (Int.not_le.mpr hs), hu, if_neg Bool.false_ne_true]

theorem dimensions_turned (hs : 0 < s.raw) (ht : t.isRotated = true) (m : Mode) :
    dimensions m t s = (scaledSide m.height s.raw, scaledSide m.width s.raw) := by
  rw [dimensions, if_neg (Int.not_le.mpr hs), ht, if_pos rfl]

/-- Without a positive scale both sizes are that of the mode, which only a square shows as
exchanged. -/
theorem dimensions_eq_swap_iff (ht : t.isRotated = true) (hu : u.isRotated = false) (m : Mode) :
    dimensions m t s = (dimensions m u s).swap ↔ 0 < s.raw ∨ m.width = m.height := by
  by_cases hs : 0 < s.raw
  · rw [dimensions_turned hs ht, dimensions_upright hs hu]
    exact iff_of_true rfl (.inl hs)
  · have hnone : s.raw ≤ 0 := Int.not_lt.mp hs
    rw [dimensions_of_not_pos hnone, dimensions_of_not_pos hnone, or_iff_right hs,
      Prod.swap_prod_mk,
      Prod.mk.injEq]
    exact and_iff_left_of_imp Eq.symm

/-! ## At the scale of a user -/

/-- Of a positive number at least half of a 256th leaves something. -/
theorem raw_ofFloat_pos_iff_of_isPositive (hx : x.isPositive = true) :
    0 < (Scale.ofFloat x).raw ↔ (stepsPerOne : Int) ≤ 512 * x.steps := by
  have hnumber : x.isNaN = false := by
    rw [Binary64.isPositive, Bool.and_eq_true, Bool.not_eq_true'] at hx
    exact hx.1
  rw [raw_ofFloat_pos_iff, and_iff_right hnumber]

/-- When turning a display exchanges width and height of its size at a positive scale that the user
gives: exactly if the number is at least half of a 256th, or the mode is a square. Below that the
size is that of the mode under every transform. -/
theorem turned_size_exchanged_iff (hx : x.isPositive = true) (ht : t.isRotated = true)
    (hu : u.isRotated = false) (m : Mode) :
    (dimensions m t (.ofFloat x) = (dimensions m u (.ofFloat x)).swap ↔
      (stepsPerOne : Int) ≤ 512 * x.steps ∨ m.width = m.height) ∧
    (512 * x.steps < stepsPerOne →
      dimensions m t (.ofFloat x) = (m.width, m.height) ∧
        dimensions m u (.ofFloat x) = (m.width, m.height)) := by
  have hpos := raw_ofFloat_pos_iff_of_isPositive hx
  constructor
  · rw [dimensions_eq_swap_iff ht hu, hpos]
  · intro hless
    have hnone : (Scale.ofFloat x).raw ≤ 0 := Int.not_lt.mp fun hraw => by
      have hleast := hpos.mp hraw
      omega
    exact ⟨dimensions_of_not_pos hnone m t, dimensions_of_not_pos hnone m u⟩

/-- The mode of a usual display. -/
def fullHd : Mode := ⟨⟨10⟩, 1920, 1080, 60000, false⟩

theorem turned_size_exchanged_iff_threeHalves :
    Binary64.isPositive (.nearest false 3 2) = true ∧
      Transform.isRotated .flipped90 = true ∧ Transform.isRotated .rotate180 = false ∧
      dimensions fullHd .rotate180 (.ofFloat (.nearest false 3 2)) = (1280, 720) ∧
      dimensions fullHd .flipped90 (.ofFloat (.nearest false 3 2)) = (720, 1280) := by
  have hpositive : Binary64.isPositive (.nearest false 3 2) = true := by decide +kernel
  have hupright : dimensions fullHd .rotate180 (.ofFloat (.nearest false 3 2)) = (1280, 720) := by
    decide +kernel
  have hlarge : (stepsPerOne : Int) ≤ 512 * (Binary64.nearest false 3 2).steps := by decide +kernel
  have hturned := (turned_size_exchanged_iff hpositive (t := .flipped90) (u := .rotate180) rfl rfl
    fullHd).1.mpr (.inl hlarge)
  exact ⟨hpositive, rfl, rfl, hupright, hturned.trans (congrArg Prod.swap hupright)⟩

/-- The user wants the first of two displays on its side, and gives it a scale of a thousandth. -/
def sideways : Config :=
  { Config.default with
    scales := [⟨"DP-1", .nearest false 1 1000⟩]
    transforms := [⟨"DP-1", .rotate90⟩] }

/-- A display that runs in that mode. -/
def running (id : HeadId) (name : String) : Head :=
  { Head.blank id with
    name := some name
    enabled := true
    currentMode := some fullHd.id
    modes := [fullHd] }

/-- A thousandth is positive and the configuration has no issues, but the display on its side is as
wide as the upright one, and its neighbour is put as far away. -/
theorem thousandth_not_exchanged :
    Binary64.isPositive (.nearest false 1 1000) = true ∧
      dimensions fullHd .rotate90 (.ofFloat (.nearest false 1 1000)) = (1920, 1080) ∧
      dimensions fullHd .normal (.ofFloat (.nearest false 1 1000)) = (1920, 1080) ∧
      dimensions fullHd .rotate90 (.ofFloat (.nearest false 1 1000)) ≠
        (dimensions fullHd .normal (.ofFloat (.nearest false 1 1000))).swap ∧
      sideways.issues = [] ∧
      (desire sideways [running ⟨1⟩ "DP-1", running ⟨2⟩ "DP-2"]).map
          (fun h => (h.desired.transform, h.desired.x, h.desired.width, h.desired.height)) =
        [(.rotate90, 0, 1920, 1080), (.normal, 1920, 1920, 1080)] :=
  ⟨by decide +kernel, by decide +kernel, by decide +kernel, by decide +kernel, by decide +kernel,
    by decide +kernel⟩

end OutputArranger.Layout
