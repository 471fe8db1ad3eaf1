import OutputArranger.Number.Int32

/-!
# Display modes

A mode is a resolution with a refresh rate. The best mode of a display is its preferred one, or
without a preference the largest and then the fastest.
-/

namespace OutputArranger

/-- The handle of a mode. -/
structure ModeId where
  value : Nat
deriving DecidableEq

/-- How a handle is shown where nothing else is known of the mode. -/
def ModeId.text (id : ModeId) : String := "ModeId(" ++ toString id.value ++ ")"

/-- One resolution and refresh rate, the rate in thousandths of a hertz. -/
structure Mode where
  id : ModeId
  width : Int
  height : Int
  refresh : Int
  preferred : Bool
deriving DecidableEq

namespace Mode

/-- A mode that has just been announced. -/
def blank (id : ModeId) : Mode := ⟨id, 0, 0, 0, false⟩

def area (m : Mode) : Int := m.width * m.height

/-- The refresh rate in hertz, to the nearest whole number. -/
def refreshHz (m : Mode) : Int := (wrapInt32 (m.refresh + 500)).tdiv 1000

def sameResolution (m n : Mode) : Bool := m.width == n.width && m.height == n.height

def text (m : Mode) : String :=
  toString m.width ++ "x" ++ toString m.height ++ "@" ++ toString m.refreshHz ++ "Hz" ++
    (if m.preferred then " (preferred)" else "")

/-- Lexicographic order of the first differing entries; a longer list is not shorter. -/
def keyBelow : List Int → List Int → Bool
  | a :: as, b :: bs => decide (a < b) || (a == b && keyBelow as bs)
  | [], _ :: _ => true
  | _, [] => false

/-- The last of the elements whose key is greatest. -/
def greatest? (key : Mode → List Int) : List Mode → Option Mode
  | [] => none
  | m :: rest =>
      some (rest.foldl (fun best n => if keyBelow (key n) (key best) then best else n) m)

/-- What makes a mode good without a preference: its area, its rate, its width, a low handle. -/
def sizeKey (m : Mode) : List Int := [m.area, m.refresh, m.width, -(m.id.value : Int)]

/-- What makes a mode of one resolution good: its rate, being preferred, a low handle. -/
def rateKey (m : Mode) : List Int :=
  [m.refresh, if m.preferred then 1 else 0, -(m.id.value : Int)]

/-- The best mode. With `fastest`, the fastest mode of the preferred resolution takes the place of
the preferred one. -/
def optimal (fastest : Bool) (modes : List Mode) : Option Mode :=
  match modes.find? (·.preferred) with
  | none => greatest? sizeKey modes
  | some p =>
      if fastest then greatest? rateKey (modes.filter (sameResolution p)) else some p

end Mode

end OutputArranger
