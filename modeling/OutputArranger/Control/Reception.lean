import OutputArranger.Control.Message

/-!
# Receiving control requests

A client sends one request and closes its side. Requests have a size limit; what is within it has
to be a request from the first byte to the last. How long a client may take is left out.
-/

namespace OutputArranger

/-- Why no request was received. -/
inductive ReceptionFault where
  | tooLarge
  | malformed
deriving DecidableEq

namespace ReceptionFault

def message : ReceptionFault → String
  | .tooLarge => "request too large"
  | .malformed => "malformed message"

/-- What the client is told. -/
def response (f : ReceptionFault) : ControlResponse := .failure f.message

/-- What is said about it. -/
def notice (f : ReceptionFault) : Notice := .warning ("bad control request: " ++ f.message)

end ReceptionFault

namespace ControlRequest

/-- The largest number of bytes of a request. -/
def sizeLimit : Nat := 65536

/-- The request in the bytes that a client sent. -/
def receive (bytes : ByteArray) : Except ReceptionFault ControlRequest :=
  if sizeLimit < bytes.size then .error .tooLarge
  else match ofBytes bytes with
    | some r => .ok r
    | none => .error .malformed

end ControlRequest

/-- What a client is told when nobody is left to answer its request. -/
def ControlResponse.shuttingDown : ControlResponse := .failure "way-layout is shutting down"

end OutputArranger
