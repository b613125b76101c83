/-!
What the operating system answers when it refuses a request, with the text it is known by.
-/

namespace ClusterLifecycle

inductive SystemError where
  | notFound
  | permissionDenied
  | alreadyExists
  | notADirectory
  | isADirectory
  | nameTooLong
  | notUtf8
  | nulByte
  | nulInPath
  | other (text : String)
  deriving DecidableEq, Repr, Inhabited

namespace SystemError

def numbered (text : String) (number : Nat) : String :=
  s!"{text} (os error {number})"

def message : SystemError → String
  | .notFound => numbered "No such file or directory" 2
  | .permissionDenied => numbered "Permission denied" 13
  | .alreadyExists => numbered "File exists" 17
  | .notADirectory => numbered "Not a directory" 20
  | .isADirectory => numbered "Is a directory" 21
  | .nameTooLong => numbered "File name too long" 36
  | .notUtf8 => "stream did not contain valid UTF-8"
  | .nulByte => "nul byte found in provided data"
  | .nulInPath => "file name contained an unexpected NUL byte"
  | .other text => text

end SystemError

end ClusterLifecycle
