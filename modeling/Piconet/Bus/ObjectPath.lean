import Piconet.Text.Fields

/-!
# Object paths

A path is a single slash, or one or more elements of ASCII letters, digits and underscores, each
with a slash in front.
-/

namespace Piconet.Bus

/-- The characters of a path element. -/
def isPathChar (c : Char) : Bool :=
  ('a' ≤ c && c ≤ 'z') || ('A' ≤ c && c ≤ 'Z') || ('0' ≤ c && c ≤ '9') || c == '_'

/-- Whether a text is an object path. -/
def isObjectPath (path : String) : Bool :=
  match path.toList with
  | ['/'] => true
  | '/' :: rest => (Text.fields '/' rest).all fun element => !element.isEmpty && element.all isPathChar
  | _ => false

end Piconet.Bus
