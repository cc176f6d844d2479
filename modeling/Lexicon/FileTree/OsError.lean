namespace Lexicon

inductive OsError where
  | noEntry
  | noExecutable
  | permission
  | busy
  | alreadyExists
  | notDirectory
  | isDirectory
  | invalidArgument
  | noSpace
  | nameTooLong
  | tooManyLinks
  | nullInPath
  | notText
  | other (text : String)
  deriving DecidableEq, Repr

def OsError.message : OsError → String
  | noEntry => "No such file or directory (os error 2)"
  | noExecutable => "Exec format error (os error 8)"
  | permission => "Permission denied (os error 13)"
  | busy => "Device or resource busy (os error 16)"
  | alreadyExists => "File exists (os error 17)"
  | notDirectory => "Not a directory (os error 20)"
  | isDirectory => "Is a directory (os error 21)"
  | invalidArgument => "Invalid argument (os error 22)"
  | noSpace => "No space left on device (os error 28)"
  | nameTooLong => "File name too long (os error 36)"
  | tooManyLinks => "Too many levels of symbolic links (os error 40)"
  | nullInPath => "file name contained an unexpected NUL byte"
  | notText => "stream did not contain valid UTF-8"
  | other text => text

end Lexicon
