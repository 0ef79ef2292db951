import QueryLexer.Files.Error
import QueryLexer.Token.Error

namespace QueryLexer

inductive Failure where
  | settingsMissing (path : String)
  | settingsMalformed
  /-- There is no file at the path. -/
  | unreadable (path : String)
  /-- There is a file, and it cannot be read as text. -/
  | unread (path : String) (error : FileError)
  | lexical (path : String) (error : LexError)
  | filesFailed (failed checked : Nat)
  | io (error : FileError)
  deriving DecidableEq, Repr

namespace Failure

def message : Failure → String
  | settingsMissing path => "Configuration error: Configuration file not found: " ++ path
  | settingsMalformed => "Configuration error: Failed to parse configuration"
  | unreadable path => "File operation failed: " ++ path ++ ": not a readable file"
  | unread path error => "File operation failed: " ++ path ++ ": " ++ error.message
  | lexical path error => path ++ ": " ++ error.message
  | filesFailed failed checked =>
      "Validation error: " ++ toString failed ++ " of " ++ toString checked ++
        " file(s) failed lexical check"
  | io error => "IO error: " ++ error.message

end Failure

end QueryLexer
