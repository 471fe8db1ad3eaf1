import OutputArranger.Config.Toml
import OutputArranger.Files.Content

/-!
# Loading and saving configurations

What happens when a configuration file is read, and what is written to one.
-/

namespace OutputArranger

/-- Why a configuration could not be read. -/
inductive ReadFault where
  | io (path : String)
  | fault (f : ConfigFault)
deriving DecidableEq

/-- What could not be done, without the reason. -/
def ReadFault.message : ReadFault → String
  | .io path => "Could not read " ++ path
  | .fault .format => "not a TOML document"
  | .fault .content => "not a configuration"

/-- A failure to load a configuration is logged without its reason. -/
def loadFault : String := "<error>"

namespace Config

/-- Reads a configuration and drops what cannot be used. -/
def read (path : String) : FileContent → Except ReadFault Config
  | .text content =>
      match parse content with
      | .ok c => .ok c.fixed
      | .error f => .error (.fault f)
  | _ => .error (.io path)

/-- The warnings of reading a configuration. -/
def readNotices : FileContent → List Notice
  | .text content =>
      match parse content with
      | .ok c => c.fixNotices
      | .error _ => []
  | _ => []

/-- Reads a configuration, or takes the defaults when it is missing or cannot be used. -/
def load (path : String) (content : FileContent) : Config :=
  match read path content with
  | .ok c => c
  | .error _ => default

/-- What is said about loading a configuration. -/
def loadNotices (path : String) (content : FileContent) : List Notice :=
  match content with
  | .missing => [.info ("No configuration at " ++ path ++ ", using defaults")]
  | content =>
      match read path content with
      | .ok _ => readNotices content
      | .error _ => [.warning (loadFault ++ "; using defaults")]

end Config

/-- The file to which the configuration is written. -/
structure ConfigFile where
  path : String
  /-- Whether a file can be written there. -/
  writable : Bool
  /-- What was written last. -/
  text : Option String
deriving DecidableEq

namespace ConfigFile

/-- Why the configuration could not be written. -/
def writeFault (f : ConfigFile) : String := "Could not write " ++ f.path ++ ": " ++ systemFault

/-- The file once a configuration was written to it. -/
def write (f : ConfigFile) (c : Config) : ConfigFile :=
  if f.writable then { f with text := some c.saved } else f

end ConfigFile

end OutputArranger
