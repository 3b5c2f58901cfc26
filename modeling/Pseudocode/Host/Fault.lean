import Pseudocode.Text.Basic

/-!
# Faults of the host

Why the system beneath the program refuses an operation on a file or a program.
-/

namespace Pseudocode

/-- The cause of a refusal. -/
inductive HostFault where
  | notFound
  | permissionDenied
  | alreadyExists
  | notDirectory
  | isDirectory
  | nameTooLong
  | badFormat
  /-- A name holds the character that ends names for the system. -/
  | nulInName
  /-- An argument of a program holds that character. -/
  | nulInArgument
  /-- The file was read but is not UTF-8. -/
  | notText
deriving DecidableEq

namespace HostFault

def message : HostFault → Text
  | notFound => "No such file or directory (os error 2)".toList
  | permissionDenied => "Permission denied (os error 13)".toList
  | alreadyExists => "File exists (os error 17)".toList
  | notDirectory => "Not a directory (os error 20)".toList
  | isDirectory => "Is a directory (os error 21)".toList
  | nameTooLong => "File name too long (os error 36)".toList
  | badFormat => "Exec format error (os error 8)".toList
  | nulInName => "file name contained an unexpected NUL byte".toList
  | nulInArgument => "nul byte found in provided data".toList
  | notText => "stream did not contain valid UTF-8".toList

end HostFault
end Pseudocode
