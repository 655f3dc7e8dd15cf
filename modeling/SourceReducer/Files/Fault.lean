/-! Why an operation on files is refused. -/
namespace SourceReducer

inductive FileFault
  | notFound
  | permissionDenied
  | alreadyExists
  | notDirectory
  | isDirectory
  | notEmpty
  | tooManyLinks
  | nameTooLong
  | noSpace
  /-- A name with a NUL character names nothing. -/
  | nulInName
  /-- A program or an argument with a NUL character cannot be passed on. -/
  | nulInArgument
  /-- A text was asked for and the bytes are not UTF-8. -/
  | notText
  /-- Something other than a file was to be copied. -/
  | notRegular
  deriving DecidableEq

def FileFault.message : FileFault → String
  | .notFound => "No such file or directory (os error 2)"
  | .permissionDenied => "Permission denied (os error 13)"
  | .alreadyExists => "File exists (os error 17)"
  | .notDirectory => "Not a directory (os error 20)"
  | .isDirectory => "Is a directory (os error 21)"
  | .notEmpty => "Directory not empty (os error 39)"
  | .tooManyLinks => "Too many levels of symbolic links (os error 40)"
  | .nameTooLong => "File name too long (os error 36)"
  | .noSpace => "No space left on device (os error 28)"
  | .nulInName => "file name contained an unexpected NUL byte"
  | .nulInArgument => "nul byte found in provided data"
  | .notText => "stream did not contain valid UTF-8"
  | .notRegular => "the source path is neither a regular file nor a symlink to a regular file"

end SourceReducer
