import OutputArranger.Head.Report

/-!
# The outputs of a compositor

All heads in the order of their discovery, with those that came and went since the last report,
and the count of attempts that failed in a row.
-/

namespace OutputArranger

/-- What is remembered of a head that has gone. -/
structure DepartedHead where
  name : Option String
  description : Option String
deriving DecidableEq

/-- That a head has gone. -/
def DepartedHead.report (d : DepartedHead) : Notice :=
  let name := d.name.getD "???"
  match d.description with
  | none => .info ("\n" ++ name ++ " Departed")
  | some text =>
      .info ("\n" ++ name ++ " Departed:\n    name:     '" ++ name ++ "'\n    desc:     '" ++
        text ++ "'")

/-- How many failed attempts in a row are followed by another one. -/
def maxRetries : Nat := 3

structure Outputs where
  heads : List Head
  arrived : List HeadId
  departed : List DepartedHead
  /-- Whether the set of heads, or something that concerns all of them, has changed. -/
  dirty : Bool
  serial : Nat
  retries : Nat
deriving DecidableEq

namespace Outputs

def empty : Outputs := ⟨[], [], [], false, 0, 0⟩

def head? (o : Outputs) (id : HeadId) : Option Head := o.heads.find? (·.id = id)

def updateHead (id : HeadId) (f : Head → Head) (o : Outputs) : Outputs :=
  { o with heads := updateFirst (·.id = id) f o.heads }

def mapHeads (f : Head → Head) (o : Outputs) : Outputs := { o with heads := o.heads.map f }

/-- Adds a head; one that is there already stays as it is and does not arrive again. -/
def addHead (id : HeadId) (o : Outputs) : Outputs :=
  if (o.head? id).isSome then { o with dirty := true }
  else { o with dirty := true, heads := o.heads ++ [.blank id], arrived := o.arrived ++ [id] }

/-- Removes a head and keeps what its departure report needs. -/
def removeHead (id : HeadId) (o : Outputs) : Outputs :=
  match o.head? id with
  | none => o
  | some h =>
      { o with
        heads := o.heads.eraseP (·.id = id)
        arrived := o.arrived.filter (· ≠ id)
        departed := o.departed ++ [⟨h.name, h.description⟩]
        dirty := true }

/-- Forgets arrivals, which the caller has reported. -/
def clearArrived (o : Outputs) : Outputs := { o with arrived := [] }

/-- Forgets departures, which the caller has reported. -/
def clearDeparted (o : Outputs) : Outputs := { o with departed := [] }

/-- Whether the layout has to be computed anew. -/
def isDirty (o : Outputs) : Bool := o.dirty || o.heads.any (·.dirty)

def resetDirty (o : Outputs) : Outputs :=
  { o with dirty := false, heads := o.heads.map fun h => { h with dirty := false } }

/-- Whether a property of any head is part of an open request. -/
def isPending (o : Outputs) : Bool := o.heads.any (·.pending.any)

def resetPending (o : Outputs) : Outputs := o.mapHeads fun h => { h with pending := .none }

/-- Counts one more failed attempt. -/
def countRetry (o : Outputs) : Outputs := { o with retries := o.retries + 1 }

/-- Whether another attempt may follow those that failed. -/
def mayRetry (o : Outputs) : Bool := decide (o.retries ≤ maxRetries)

end Outputs

end OutputArranger
