/-!
# Contents of files

What a reader of text finds at a path. Errors of the operating system carry no detail beyond what
was being done.
-/

namespace OutputArranger

/-- The operating system's own words are not part of a message. -/
def systemFault : String := "<os error>"

/-- What is found at a path by somebody who wants text. -/
inductive FileContent where
  | missing
  /-- There is something that cannot be read as text. -/
  | unreadable
  | text (content : String)
deriving DecidableEq

/-- The text, if there is one. -/
def FileContent.text? : FileContent → Option String
  | .text content => some content
  | _ => none

end OutputArranger
