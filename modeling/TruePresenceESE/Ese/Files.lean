import TruePresenceESE.Lib.PosixPath
import TruePresenceESE.Lib.PyValue

/-! # Files

A file written by `json.dump` keeps the value it was written from, every other
file is text. Files live at locations; a path is resolved before it is opened.
There are no symbolic links, and a directory named on the way exists.
-/

namespace TruePresenceESE.Ese

open PosixPath

inductive FileContent where
  | text (s : String)
  | json (value : Json)

/-- Text mode reads every line end as a line feed. -/
def universalNewlines : List Char → List Char
  | [] => []
  | '\r' :: '\n' :: rest => '\n' :: universalNewlines rest
  | '\r' :: rest => '\n' :: universalNewlines rest
  | c :: rest => c :: universalNewlines rest

/-- `json.dumps` escapes control characters, so its text is read as it was written. -/
def FileContent.read (py : Interpreter) : FileContent → String
  | .text s => String.ofList (universalNewlines s.toList)
  | .json value => py.dumps value ++ "\n"

def FileContent.load (py : Interpreter) : FileContent → Option Json
  | .text s => py.loads (String.ofList (universalNewlines s.toList))
  | .json value => some value

abbrev FileSystem := Location → Option FileContent

def FileSystem.write (fs : FileSystem) (location : Location) (content : FileContent) :
    FileSystem :=
  Function.update fs location (some content)

@[simp] theorem FileSystem.write_self (fs : FileSystem) (location : Location)
    (content : FileContent) : fs.write location content location = some content :=
  Function.update_self _ _ _

theorem FileSystem.write_of_ne (fs : FileSystem) {location other : Location}
    (h : other ≠ location) (content : FileContent) :
    fs.write location content other = fs other :=
  Function.update_of_ne h _ _

theorem FileSystem.write_comm (fs : FileSystem) {location other : Location}
    (h : location ≠ other) (content content' : FileContent) :
    (fs.write location content).write other content' =
      (fs.write other content').write location content :=
  Function.update_comm h _ _ _

end TruePresenceESE.Ese
