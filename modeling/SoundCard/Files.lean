/-!
# Files

What the program needs of a file system: reading a whole file and writing a whole file. The program
is written against the class `FileSystem`, so the same text runs on the files of the computer and on
a `Store`, which is a plain value.
-/

set_option autoImplicit false

namespace SoundCard

inductive FileError where
  | notFound
  | isDirectory
  | notDirectory
  /-- A name on the way, or the path as a whole, has too many bytes. -/
  | nameTooLong
  /-- The path contains a zero character, which ends a path for the operating system. -/
  | zeroInPath
  | other (text : String) (code : Nat)
  deriving DecidableEq, Repr

def FileError.message : FileError → String
  | notFound => "No such file or directory (os error 2)"
  | isDirectory => "Is a directory (os error 21)"
  | notDirectory => "Not a directory (os error 20)"
  | nameTooLong => "File name too long (os error 36)"
  | zeroInPath => "file name contained an unexpected NUL byte"
  | other text code => s!"{text} (os error {code})"

class FileSystem (m : Type → Type) where
  read (path : String) : m (Except FileError (List UInt8))
  write (path : String) (content : List UInt8) : m (Except FileError Unit)

end SoundCard
