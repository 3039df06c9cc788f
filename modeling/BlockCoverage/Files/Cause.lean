/-!
# Causes of failed file operations

The wording of a cause is that of the operating system, with its number.
-/

namespace BlockCoverage

/-- Why an operation on a file failed. -/
inductive IoCause where
  /-- Nothing has that name. -/
  | notFound
  /-- The file may not be used that way. -/
  | permissionDenied
  /-- The name is taken. -/
  | alreadyExists
  /-- A name in the middle of the path is not a directory. -/
  | notADirectory
  /-- A directory stands where a file is needed. -/
  | isADirectory
  /-- A name in the path is longer than names can be. -/
  | nameTooLong
  /-- A link leads to a link, and so on without an end in sight. -/
  | tooManyLinks
  /-- The path has a zero character, which no name has. -/
  | zeroInPath
  /-- A command has a zero character, which no argument has. -/
  | zeroInCommand
  /-- The contents are not UTF-8. -/
  | notText
  /-- A cause known by its text only. -/
  | reported (text : String)
deriving DecidableEq, Repr

namespace IoCause

/-- The text of a cause. -/
def message : IoCause → String
  | notFound => "No such file or directory (os error 2)"
  | permissionDenied => "Permission denied (os error 13)"
  | alreadyExists => "File exists (os error 17)"
  | notADirectory => "Not a directory (os error 20)"
  | isADirectory => "Is a directory (os error 21)"
  | nameTooLong => "File name too long (os error 36)"
  | tooManyLinks => "Too many levels of symbolic links (os error 40)"
  | zeroInPath => "file name contained an unexpected NUL byte"
  | zeroInCommand => "nul byte found in provided data"
  | notText => "stream did not contain valid UTF-8"
  | reported text => text

end IoCause

end BlockCoverage
