import OutputArranger.Request
import OutputArranger.Text.Utf8

/-!
# Messages of the display connection

What a compositor tells its client about outputs, and what the client asks of it. Numbers are as
they travel: transforms by their code, scales in 256ths, truth values as integers, texts as bytes.
-/

namespace OutputArranger

/-- What is said about a head. -/
inductive HeadMessage where
  | name (bytes : List UInt8)
  | description (bytes : List UInt8)
  | physicalSize (widthMm heightMm : Int)
  /-- A mode of the head is announced. -/
  | mode (id : ModeId)
  | enabled (flag : Int)
  | currentMode (id : ModeId)
  | position (x y : Int)
  | transform (code : Nat)
  | scale (raw : Int)
  | make (bytes : List UInt8)
  | model (bytes : List UInt8)
  | serialNumber (bytes : List UInt8)
  | adaptiveSync (flag : Int)
  | finished
deriving DecidableEq

/-- What is said about a mode. -/
inductive ModeMessage where
  | size (width height : Int)
  | refresh (rate : Int)
  | preferred
  | finished
deriving DecidableEq

/-- What a compositor says. -/
inductive CompositorMessage where
  /-- Something can be bound under a name. -/
  | global (name : Nat) (interface : String) (version : Nat)
  | globalRemove (name : Nat)
  /-- A head is announced. -/
  | newHead (id : HeadId)
  | head (id : HeadId) (message : HeadMessage)
  | mode (id : ModeId) (message : ModeMessage)
  | done (serial : Nat)
  /-- There will be no more news of outputs. -/
  | finished
  /-- The answer to the configuration of this number. -/
  | outcome (configuration : Nat) (outcome : Outcome)
  /-- The connection ends because of an error. -/
  | fatal (code : Nat) (text : String)
deriving DecidableEq

/-- What a client says. -/
inductive ClientMessage where
  | bind (name : Nat) (interface : String) (version : Nat)
  | createConfiguration (serial : Nat)
  | enableHead (head : HeadId)
  | setMode (mode : ModeId)
  | setScale (raw : Int)
  | setPosition (x y : Int)
  | setTransform (code : Nat)
  | disableHead (head : HeadId)
  | apply
  /-- A configuration is no longer needed. -/
  | destroy (configuration : Nat)
  | releaseHead (head : HeadId)
  | releaseMode (mode : ModeId)
deriving DecidableEq

end OutputArranger
