/-
TowerOfHanoi/Files.lean

Files as a run sees them: what is found under each name, and the text in it.
-/
import TowerOfHanoi.Error

namespace TowerOfHanoi

/-- What is found under the name of a file. -/
inductive FileContent where
  | missing
  | directory
  | unreadable (reason : String)
  | bytes (content : ByteArray)

/-- The files that a run can see, by name. -/
abbrev Files := String → FileContent

/-- The text of a file, which must be UTF-8. -/
def Files.readText (files : Files) (path : String) : Except Error String :=
  if path.toList.contains '\x00' then
    .error (.io "file name contained an unexpected NUL byte")
  else
    match files path with
    | .missing => .error (.io "No such file or directory (os error 2)")
    | .directory => .error (.io "Is a directory (os error 21)")
    | .unreadable reason => .error (.io reason)
    | .bytes content =>
      match String.fromUTF8? content with
      | some text => .ok text
      | none => .error (.io "stream did not contain valid UTF-8")

end TowerOfHanoi
