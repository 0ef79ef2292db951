import QueryLexer.Toml.Scalar

/-!
Quoted text. Between double quotes a backslash starts an escape; between single quotes every character
stands for itself. Three quotes hold a text of several lines; a line end right behind the opening quotes
is dropped, and up to two quotes may stand in front of the closing ones.
-/

namespace QueryLexer.Toml

def isSpace (c : Char) : Bool := c == ' ' || c == '\t'

def spaces : Reader Unit := discard (Reader.takeWhile isSpace)

def newline : Reader Unit := Reader.exactly "\n" <|> Reader.exactly "\r\n"

/-- Any character but the control characters; a tab is allowed. -/
def isPrintable (c : Char) : Bool := c == '\t' || (0x20 ≤ c.toNat && c.toNat != 0x7F)

def numbered (count : Nat) : Reader Char := fun text =>
  let code := valueInBase 16 (text.take count)
  if (text.take count).length = count && (text.take count).all isHexDigit && code.isValidChar then
    some (Char.ofNat code, text.drop count)
  else none

def escape : Reader Char := do
  Reader.exactly "\\"
  match ← Reader.char fun _ => true with
  | 'b' => return '\x08'
  | 't' => return '\t'
  | 'n' => return '\n'
  | 'f' => return '\x0c'
  | 'r' => return '\r'
  | '"' => return '"'
  | '\\' => return '\\'
  | 'u' => numbered 4
  | 'U' => numbered 8
  | _ => failure

def basicChar : Reader Char :=
  Reader.char (fun c => isPrintable c && c != '"' && c != '\\') <|> escape

def basicText : Reader (List Char) := do
  Reader.exactly "\""
  let text ← Reader.many basicChar
  Reader.exactly "\""
  return text

def literalText : Reader (List Char) := do
  Reader.exactly "'"
  let text ← Reader.takeWhile fun c => isPrintable c && c != '\''
  Reader.exactly "'"
  return text

/-- A backslash at the end of a line takes the line end and all blanks behind it out of the text. -/
def foldedLine : Reader (List Char) := do
  Reader.exactly "\\"
  spaces
  newline
  let _ ← Reader.many (discard (Reader.char isSpace) <|> newline)
  return []

def innerQuotes (quote : Char) : Reader (List Char) := do
  let quotes ← Reader.takeWhile (· == quote)
  if quotes.length = 1 || quotes.length = 2 then return quotes else failure

/-- The quotes at the end of a text of several lines, less the three that close it. -/
def closingQuotes (quote : Char) : Reader (List Char) := do
  let quotes ← Reader.takeWhile (· == quote)
  if 3 ≤ quotes.length && quotes.length ≤ 5 then return quotes.drop 3 else failure

def severalLines (quote : Char) (piece : Reader (List Char)) : Reader (List Char) := do
  Reader.exactly (String.ofList [quote, quote, quote])
  Reader.optional newline
  let pieces ← Reader.many (piece <|> newline *> pure ['\n'] <|> innerQuotes quote)
  let quotes ← closingQuotes quote
  return pieces.flatten ++ quotes

def basicLines : Reader (List Char) :=
  severalLines '"' (foldedLine <|> (fun c => [c]) <$> basicChar)

def literalLines : Reader (List Char) :=
  severalLines '\'' ((fun c => [c]) <$> Reader.char fun c => isPrintable c && c != '\'')

def quotedText : Reader String :=
  String.ofList <$> (basicLines <|> literalLines <|> basicText <|> literalText)

end QueryLexer.Toml
