import QueryLexer.Files.Error

namespace QueryLexer.Path

def between : List Char → List (List Char)
  | [] => [[]]
  | '/' :: rest => [] :: between rest
  | c :: rest =>
      match between rest with
      | [] => [[c]]
      | part :: more => (c :: part) :: more

def parts (path : String) : List String := (between path.toList).map String.ofList

def isAbsolute (path : String) : Bool := path.toList.head? == some '/'

def endsInSlash (path : String) : Bool := path.toList.getLast? == some '/'

def staysPut (part : String) : Bool := part == "" || part == "."

/-- The parts above the last one that goes somewhere. -/
def above (parts : List String) : List String :=
  (((parts.reverse.dropWhile staysPut).drop 1).dropWhile staysPut).reverse

def longest : Nat := 4095

def longestName : Nat := 255

def accept (path : String) : Except FileError Unit :=
  if path = "" then .error .notFound
  else if path.toList.contains '\x00' then .error .endInName
  else if path.utf8ByteSize > longest then .error .nameTooLong
  else .ok ()

def isTooLong (name : String) : Bool := decide (name.utf8ByteSize > longestName)

def missing (name : String) : FileError := if isTooLong name then .nameTooLong else .notFound

end QueryLexer.Path
