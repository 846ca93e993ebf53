/-!
# File errors

Why a file cannot be read or written, with the wording of the operating system.
-/
namespace GoGlue

inductive FileError where
  | notFound | alreadyExists | notADirectory | isADirectory | nameTooLong | tooManyLinks
  | invalidUtf8 | nulInName
  deriving DecidableEq, Repr

def FileError.message : FileError → String
  | notFound => "No such file or directory (os error 2)"
  | alreadyExists => "File exists (os error 17)"
  | notADirectory => "Not a directory (os error 20)"
  | isADirectory => "Is a directory (os error 21)"
  | nameTooLong => "File name too long (os error 36)"
  | tooManyLinks => "Too many levels of symbolic links (os error 40)"
  | invalidUtf8 => "stream did not contain valid UTF-8"
  | nulInName => "file name contained an unexpected NUL byte"

end GoGlue
