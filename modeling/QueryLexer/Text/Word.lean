import QueryLexer.Text.Blank
import QueryLexer.Text.Letter

namespace QueryLexer.Text

/-- One of the ten decimal digits. Digits of other scripts do not count. -/
def isDigit (c : Char) : Bool := '0' ≤ c && c ≤ '9'

def startsName (c : Char) : Bool := c == '_' || isLetter c

def continuesName (c : Char) : Bool := startsName c || isDigit c

/-- Lower case for the letters `A` to `Z`; every other character is left alone. -/
def foldCase (text : List Char) : List Char := text.map Char.toLower

end QueryLexer.Text
