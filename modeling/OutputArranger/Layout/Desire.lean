import OutputArranger.Layout.Geometry
import OutputArranger.Layout.Placement
import OutputArranger.Outputs

/-!
# What every head should become

One pass over the heads: whether each shall be on, in which mode, at which scale and turned how,
and then where it goes. A head that is part of an open request keeps what it was asked to become.
-/

namespace OutputArranger.Layout

/-- Whether any of the patterns selects the head. -/
def selectedByAny (patterns : List String) (h : Head) : Bool := patterns.any (h.isSelectedBy ·)

/-- Whether a head may be on: the lid must be open, unless it is the only head, and the user must
not have disabled it. -/
def mayBeOn (c : Config) (sole : Bool) (h : Head) : Bool :=
  (!h.lidClosed || sole) && !selectedByAny c.disabled h

/-- The best of the usable modes. -/
def bestMode (c : Config) (h : Head) : Option Mode :=
  Mode.optimal (selectedByAny c.fastest h) h.usableModes

/-- The scale of the first entry that selects the head, else the one that suits the display. -/
def wantedScale (c : Config) (h : Head) (m : Option Mode) : Scale :=
  match c.scales.find? (h.isSelectedBy ·.pattern) with
  | some entry => .ofFloat entry.scale
  | none => if c.autoScale then autoScale h.widthMm h.heightMm m else .one

/-- The transform of the first entry that selects the head. -/
def wantedTransform (c : Config) (h : Head) : Transform :=
  match c.transforms.find? (h.isSelectedBy ·.pattern) with
  | some entry => entry.transform
  | none => .normal

/-- What a head shall become that shall not be on. -/
def kept (h : Head) : Desired := { h.resetDesired.desired with enabled := false }

@[simp] theorem enabled_kept (h : Head) : (kept h).enabled = false := rfl

/-- What a head shall become, its position apart. -/
def wanted (c : Config) (sole : Bool) (h : Head) : Desired :=
  if !mayBeOn c sole h then kept h
  else match bestMode c h with
    | none => kept h
    | some best =>
        let mode := h.mode? best.id
        let scale := wantedScale c h mode
        let transform := wantedTransform c h
        let size := match mode with
          | some m => dimensions m transform scale
          | none => (0, 0)
        { h.resetDesired.desired with
          mode := some best.id, scale, enabled := true, transform
          width := size.1, height := size.2 }

/-- Whether a head would have to be on but has no usable mode. -/
def lacksMode (c : Config) (sole : Bool) (h : Head) : Bool :=
  !h.pending.any && mayBeOn c sole h && (bestMode c h).isNone

/-- Decides about one head, its position apart. -/
def desireHead (c : Config) (sole : Bool) (h : Head) : Head :=
  if h.pending.any then h
  else
    { h with
      desired := wanted c sole h
      wantsFastest := selectedByAny c.fastest h
      warnedNoMode := h.warnedNoMode || lacksMode c sole h }

/-- Puts a head where it belongs unless it is part of an open request. -/
def move (p : Placement) (h : Head) : Head :=
  if h.pending.any then h else { h with desired := { h.desired with x := p.x, y := p.y } }

/-- Whether there is only one head. -/
def isSole (heads : List Head) : Bool := heads.length == 1

/-- Decides what every head shall become. -/
def desire (c : Config) (heads : List Head) : List Head :=
  let decided := heads.map (desireHead c (isSole heads))
  let placements := place c.arrange c.align (orderHeads c.order decided)
  placements.foldl (fun hs p => updateFirst (·.id = p.head) (move p) hs) decided

/-- The warnings of a pass: one for each head that is switched off for want of a usable mode, the
first time. -/
def desireNotices (c : Config) (heads : List Head) : List Notice :=
  heads.flatMap fun h =>
    if lacksMode c (isSole heads) h && !h.warnedNoMode then h.reportNoMode else []

end OutputArranger.Layout
