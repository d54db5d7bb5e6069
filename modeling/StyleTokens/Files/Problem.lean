import StyleTokens.Text.Quoted

/-!
# What can go wrong with a file

An operation on a path fails for one of a few reasons. Each has a number and a wording, and a
report names the paths concerned.
-/

namespace StyleTokens

/-- Why an operation on a path fails. -/
inductive FileProblem where
  /-- There is nothing at the path. -/
  | missing
  /-- There is something at the path already. -/
  | occupied
  /-- A file stands where a directory is needed. -/
  | notDirectory
  /-- A directory stands where a file is needed. -/
  | isDirectory
  /-- A name is longer than any file's. -/
  | nameTooLong
  /-- The path must not be used in this way. -/
  | denied
  /-- A name holds the null character, which no file system takes. -/
  | nullCharacter
  deriving DecidableEq, Repr

/-- The number of a problem. -/
def FileProblem.number : FileProblem → Nat
  | .missing => 2
  | .occupied => 17
  | .notDirectory => 20
  | .isDirectory => 21
  | .nameTooLong => 36
  | .denied => 13
  | .nullCharacter => 22

/-- The wording of a problem. -/
def FileProblem.wording : FileProblem → String
  | .missing => "No such file or directory"
  | .occupied => "File exists"
  | .notDirectory => "Not a directory"
  | .isDirectory => "Is a directory"
  | .nameTooLong => "File name too long"
  | .denied => "Permission denied"
  | .nullCharacter => "embedded null byte"

/-- All problems. -/
def FileProblem.order : List FileProblem :=
  [.missing, .occupied, .notDirectory, .isDirectory, .nameTooLong, .denied, .nullCharacter]

/-- The problem with a number. -/
def FileProblem.ofNumber? (number : Nat) : Option FileProblem :=
  order.find? fun problem => problem.number == number

/-- A problem and the paths that it concerns. -/
structure FileFault where
  /-- What went wrong. -/
  problem : FileProblem
  /-- The paths as they were given. -/
  paths : List String
  deriving DecidableEq, Repr

/-- Whether a file system has refused the operation; it does not even see a path that holds the
null character. -/
def FileFault.isRefusal (fault : FileFault) : Bool := fault.problem != .nullCharacter

/-- The report of a file fault. -/
def FileFault.message (fault : FileFault) : String :=
  if fault.isRefusal then
    "[Errno " ++ toString fault.problem.number ++ "] " ++ fault.problem.wording ++ ": " ++
      " -> ".intercalate (fault.paths.map Text.quotedString)
  else fault.problem.wording

end StyleTokens
