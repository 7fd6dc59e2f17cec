import PolicyStore.CommandLine.Failure

/-!
# Payload files

A command may take a payload from a file. What there is to read is given from outside.
-/

namespace PolicyStore

inductive FileFault
  | missing
  /-- The path goes through something that is no directory. -/
  | notDirectory
  | directory
  /-- The file holds bytes that are no UTF-8. -/
  | notText
  | other (reason : String)
  deriving DecidableEq, Repr

def FileFault.message : FileFault → String
  | .missing => "No such file or directory (os error 2)"
  | .notDirectory => "Not a directory (os error 20)"
  | .directory => "Is a directory (os error 21)"
  | .notText => "stream did not contain valid UTF-8"
  | .other reason => reason

/-- The files within reach, by path. -/
abbrev Files : Type := String → Except FileFault String

def Files.read (files : Files) (path : String) : Except CommandError String :=
  (files path).mapError fun fault => .failure ("failed to read " ++ path) [fault.message]

end PolicyStore
