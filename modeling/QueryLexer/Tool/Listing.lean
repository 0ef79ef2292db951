import QueryLexer.Files.System
import QueryLexer.Text.Json
import QueryLexer.Token.Stream
import QueryLexer.Tool.Failure

/-!
The tokens of a source file, and their listing in two formats: one row a token, or an array of records.
A listing is written piece by piece behind what the output holds already.
-/

namespace QueryLexer

inductive ListingFormat where
  | text | json
  deriving DecidableEq, Repr, Inhabited

namespace ListingFormat

def all : List ListingFormat := [text, json]

def word : ListingFormat → String
  | text => "text"
  | json => "json"

def ofWord? (word : String) : Option ListingFormat := all.find? (·.word == word)

def jsonRecord (token : Token) : String :=
  "  \x7b\n    \"kind\": " ++ Text.jsonString token.kind.name ++
    ",\n    \"lexeme\": " ++ Text.jsonString token.lexeme ++
    ",\n    \"line\": " ++ toString token.line ++ "\n  \x7d"

def jsonArray (tokens : List Token) : String :=
  match tokens with
  | [] => "[]"
  | _ => "[\n" ++ String.intercalate ",\n" (tokens.map jsonRecord) ++ "\n]"

def write (format : ListingFormat) (tokens : List Token) (out : String) : String :=
  match format with
  | text => tokens.foldl (fun written token => written ++ (token.row ++ "\n")) out
  | json => out ++ jsonArray tokens ++ "\n"

end ListingFormat

namespace FileSystem

def readSource (files : FileSystem) (path : String) : Except Failure String :=
  if files.isFile path then
    match files.readText path with
    | .ok source => .ok source
    | .error error => .error (.unread path error)
  else .error (.unreadable path)

def tokens (files : FileSystem) (mode : LexMode) (path : String) : Except Failure (List Token) :=
  match files.readSource path with
  | .error failure => .error failure
  | .ok source =>
      match tokenize source mode with
      | .ok tokens => .ok tokens
      | .error error => .error (.lexical path error)

end FileSystem

def listTokens (files : FileSystem) (mode : LexMode) (format : ListingFormat) (path out : String) :
    Except Failure Nat × String :=
  match files.tokens mode path with
  | .error failure => (.error failure, out)
  | .ok tokens => (.ok tokens.length, format.write tokens out)

end QueryLexer
