import OutputArranger.Display.Message

/-!
# A compositor as its client meets it

The compositor gives numbers to the heads and modes that it announces, one after another, and knows
which of them the client has given back and which configuration came last.
-/

namespace OutputArranger

/-- Something that a compositor does. Heads and modes are counted in the order in which they were
announced. -/
inductive CompositorAction where
  | announceHead
  | announceMode (head : Nat)
  | tellHead (head : Nat) (message : HeadMessage)
  | tellMode (mode : Nat) (message : ModeMessage)
  /-- The outcome of the configuration that came last. -/
  | answer (outcome : Outcome)
  | say (message : CompositorMessage)
deriving DecidableEq

structure Compositor where
  /-- Whether there is a manager that the client has bound and that is not finished. -/
  manages : Bool
  /-- How many heads and modes were announced. -/
  announced : Nat
  /-- The numbers of those that the client has given back. -/
  released : List Nat
  /-- How many configurations the client made. -/
  configurations : Nat
  /-- The configuration that came last, while it is not destroyed. -/
  open? : Option Nat
deriving DecidableEq

namespace Compositor

def start : Compositor := ⟨false, 0, [], 0, none⟩

/-- The numbers that a compositor gives to what it announces begin here. -/
def firstNumber : Nat := 4278190080

def headId (n : Nat) : HeadId := ⟨firstNumber + n⟩

def modeId (n : Nat) : ModeId := ⟨firstNumber + n⟩

/-- The place of a head or mode among all that were announced. -/
def ordinal (number : Nat) : Nat := number - firstNumber

/-- What a manager says reaches the client only while there is one. -/
def throughManager (c : Compositor) (m : CompositorMessage) : List CompositorMessage :=
  if c.manages then [m] else []

/-- What the client is told when the compositor does something. Nothing is said about what was given
back. -/
def act (c : Compositor) : CompositorAction → Compositor × List CompositorMessage
  | .announceHead =>
      ({ c with announced := c.announced + 1 }, c.throughManager (.newHead (headId c.announced)))
  | .announceMode h =>
      ({ c with announced := c.announced + 1 },
        if h ∈ c.released then [] else [.head (headId h) (.mode (modeId c.announced))])
  | .tellHead h m => (c, if h ∈ c.released then [] else [.head (headId h) m])
  | .tellMode m message => (c, if m ∈ c.released then [] else [.mode (modeId m) message])
  | .answer o => (c, (c.open?.map fun n => CompositorMessage.outcome n o).toList)
  | .say .finished => ({ c with manages := false }, c.throughManager .finished)
  | .say (.done serial) => (c, c.throughManager (.done serial))
  | .say m => (c, [m])

/-- Several actions in order. -/
def actAll (c : Compositor) : List CompositorAction → Compositor × List CompositorMessage
  | [] => (c, [])
  | a :: rest =>
      let (c, said) := c.act a
      let (c, more) := c.actAll rest
      (c, said ++ more)

/-- Takes note of what the client says. -/
def hear (c : Compositor) : ClientMessage → Compositor
  | .bind _ _ _ => { c with manages := true }
  | .createConfiguration _ =>
      { c with configurations := c.configurations + 1, open? := some c.configurations }
  | .destroy n => if c.open? = some n then { c with open? := none } else c
  | .releaseHead h => { c with released := ordinal h.value :: c.released }
  | .releaseMode m => { c with released := ordinal m.value :: c.released }
  | _ => c

def hearAll (c : Compositor) (messages : List ClientMessage) : Compositor := messages.foldl hear c

end Compositor

end OutputArranger
