import OutputArranger.Head.Basic
import OutputArranger.Log.Notice

/-!
# What is said about a head

The lines in which a head is described when it arrives, when it is about to change, and when
something is wrong with it.
-/

namespace OutputArranger

/-- The occasion on which a head is described. -/
inductive Occasion where
  | arrival
  | change
  | state
deriving DecidableEq

namespace Head

def pointText (x y : Int) : String := toString x ++ "," ++ toString y

/-- What is about to change. A change of mode is mentioned alone, since it is made alone. -/
def changeLines (h : Head) : List String :=
  let shown (m : Option Mode) : String := (m.map Mode.text).getD "?"
  if h.isModeChanging then ["  mode:     " ++ shown h.current? ++ " -> " ++ shown h.desired?]
  else
    let enabled :=
      if h.desired.enabled = h.enabled then []
      else [if h.desired.enabled then "  (enabled)" else "  (disabled)"]
    if !h.desired.enabled then enabled
    else
      let scale :=
        if h.desired.scale = h.scale then []
        else ["  scale:    " ++ h.scale.text ++ " -> " ++ h.desired.scale.text]
      let transform :=
        if h.desired.transform = h.transform then []
        else ["  transform: " ++ h.transform.name ++ " -> " ++ h.desired.transform.name]
      let position :=
        if h.desired.x = h.x ∧ h.desired.y = h.y then []
        else ["  position: " ++ pointText h.x h.y ++ " -> " ++ pointText h.desired.x h.desired.y]
      enabled ++ scale ++ transform ++ position

/-- What is known of the display itself. -/
def identityLines (h : Head) : List String :=
  let line (label : String) (o : Option String) : List String :=
    (o.map fun s => label ++ s).toList
  let description := match h.description with
    | none => []
    | some d =>
        ["  info:", "    name:     '" ++ h.shownName ++ "'", "    desc:     '" ++ d ++ "'"]
  let size :=
    if 0 < h.widthMm ∧ 0 < h.heightMm then
      ["    width:    " ++ toString h.widthMm ++ "mm",
        "    height:   " ++ toString h.heightMm ++ "mm"]
    else []
  description ++ size ++ line "    make:     " h.make ++ line "    model:    " h.model ++
    line "    serial:   " h.serialNumber

/-- The modes and the reported state. -/
def stateLines (h : Head) : List String :=
  let modes :=
    if h.modes = [] then []
    else "    modes:" :: h.modes.map fun m =>
      "      " ++ m.text ++ (if m.id ∈ h.failedModes then " (failed)" else "")
  let current :=
    if h.enabled then
      ["    scale:    " ++ h.scale.text, "    position: " ++ pointText h.x h.y] ++
        (h.current?.map fun m => "    mode:     " ++ m.text).toList ++
        ["    transform: " ++ h.transform.name]
    else ["    (disabled)"]
  modes ++ "  current:" :: current ++ (if h.lidClosed then ["    (lid closed)"] else [])

/-- The description of a head on an occasion. -/
def lines (h : Head) : Occasion → List String
  | .arrival => (h.shownName ++ " Arrived:") :: (h.identityLines ++ h.stateLines)
  | .change => (h.shownName ++ ":") :: h.changeLines
  | .state => (h.shownName ++ ":") :: (h.identityLines ++ h.stateLines)

/-- The description as one text, each line after a line break. -/
def described (h : Head) (occasion : Occasion) : String :=
  String.join ((h.lines occasion).map ("\n" ++ ·))

def report (h : Head) (occasion : Occasion) : Notice := .info (h.described occasion)

/-- That a head is switched off for want of a usable mode. -/
def reportNoMode (h : Head) : List Notice :=
  [.warning ("\nNo mode for " ++ h.shownName ++ ", disabling."), .warning (h.described .state)]

end Head

end OutputArranger
