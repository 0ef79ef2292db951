import QueryLexer.Text.Extender
import QueryLexer.Text.Ignorable

/-!
Quoted text, for names in messages. A character that would attach to the one before it, or that would
not be seen, is written by its number, so that the quoted text can be read letter by letter.
-/

namespace QueryLexer.Text

/-- The code point in lower-case hexadecimal, without leading zeros. -/
def hexCode (c : Char) : String := String.ofList (Nat.toDigits 16 c.toNat)

def quoteChar (c : Char) : String :=
  if c == '"' || c == '\\' then String.ofList ['\\', c]
  else if isExtender c || isIgnorable c then "\\u\x7b" ++ hexCode c ++ "\x7d"
  else c.toString

def quote (text : String) : String :=
  "\"" ++ String.join (text.toList.map quoteChar) ++ "\""

end QueryLexer.Text
