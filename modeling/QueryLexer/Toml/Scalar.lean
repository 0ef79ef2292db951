import QueryLexer.Text.Decimal
import QueryLexer.Text.Word
import QueryLexer.Toml.Reader

/-!
The form of numbers, dates and times. Settings hold none of them, so only whether they are well formed
is decided here; a number must also fit into 64 bits, and a date must be in the calendar.
-/

namespace QueryLexer.Toml

open QueryLexer.Text (isDigit decimalValue largestInteger)

/-- Digits that may have single underscores between them. -/
def isGrouped (accept : Char → Bool) : List Char → Bool
  | [] => false
  | [c] => accept c
  | c :: '_' :: rest => accept c && isGrouped accept rest
  | c :: rest => accept c && isGrouped accept rest

def withoutSign : List Char → List Char
  | '+' :: rest => rest
  | '-' :: rest => rest
  | text => text

def isDecimal (text : List Char) : Bool :=
  isGrouped isDigit text && (text.length == 1 || text.head? != some '0')

def isHexDigit (c : Char) : Bool := isDigit c || ('a' ≤ c && c ≤ 'f') || ('A' ≤ c && c ≤ 'F')

def hexDigitValue (c : Char) : Nat :=
  if isDigit c then c.toNat - '0'.toNat
  else if 'a' ≤ c then c.toNat - 'a'.toNat + 10
  else c.toNat - 'A'.toNat + 10

def valueInBase (base : Nat) (digits : List Char) : Nat :=
  digits.foldl (fun value digit => base * value + hexDigitValue digit) 0

def isBased (base : Nat) (accept : Char → Bool) (text : List Char) : Bool :=
  isGrouped accept text && valueInBase base (text.filter (· != '_')) ≤ largestInteger

def isInteger : List Char → Bool
  | '0' :: 'x' :: digits => isBased 16 isHexDigit digits
  | '0' :: 'o' :: digits => isBased 8 (fun c => '0' ≤ c && c ≤ '7') digits
  | '0' :: 'b' :: digits => isBased 2 (fun c => c == '0' || c == '1') digits
  | text =>
      let digits := withoutSign text
      let bound := if text.head? = some '-' then largestInteger + 1 else largestInteger
      isDecimal digits && decimalValue (digits.filter (· != '_')) ≤ bound

def isExponentMark (c : Char) : Bool := c == 'e' || c == 'E'

/-- A number with a point or an exponent, cut at both. -/
structure Numeral where
  whole : List Char
  fraction : Option (List Char)
  exponent : Option (List Char)

namespace Numeral

def behind? (mark : Char → Bool) (text : List Char) : Option (List Char) :=
  match text.dropWhile (!mark ·) with
  | [] => none
  | _ :: rest => some rest

def ofText (text : List Char) : Numeral :=
  let mantissa := text.takeWhile (!isExponentMark ·)
  ⟨mantissa.takeWhile (· != '.'), behind? (· == '.') mantissa, behind? isExponentMark text⟩

def isWellFormed (numeral : Numeral) : Bool :=
  isDecimal numeral.whole && numeral.fraction.all (isGrouped isDigit) &&
    numeral.exponent.all (fun exponent => isGrouped isDigit (withoutSign exponent)) &&
    (numeral.fraction.isSome || numeral.exponent.isSome)

def digits (numeral : Numeral) : List Char :=
  (numeral.whole ++ numeral.fraction.getD []).filter (· != '_')

def scale (numeral : Numeral) : Int :=
  let exponent := (numeral.exponent.getD []).filter (· != '_')
  let size : Int := decimalValue (withoutSign exponent)
  let places := ((numeral.fraction.getD []).filter (· != '_')).length
  (if exponent.head? = some '-' then -size else size) - places

/-- The least number that is rounded to infinity: half a step above the largest floating-point number of
64 bits. -/
def overflow : Nat := Nat.pow 2 1024 - Nat.pow 2 970

/-- Is the number too large for a floating-point number of 64 bits? With more than 308 zeros behind it
every number but zero is, and with the point in front of all its digits none is, so that only small powers
of ten are ever taken. -/
def overflows (numeral : Numeral) : Bool :=
  let value := decimalValue numeral.digits
  match numeral.scale with
  | .ofNat power => value != 0 && (power > 308 || overflow ≤ value * Nat.pow 10 power)
  | .negSucc power =>
      power < numeral.digits.length && overflow * Nat.pow 10 (power + 1) ≤ value

end Numeral

/-- A number with a point or an exponent, or one of the words for what is no number. Only above are
numbers bounded: one that is too small is minus infinity. -/
def isFloat (text : List Char) : Bool :=
  let body := withoutSign text
  let numeral := Numeral.ofText body
  body == "inf".toList || body == "nan".toList ||
    (numeral.isWellFormed && (text.head? == some '-' || !numeral.overflows))

def digits : Nat → Reader (List Char)
  | 0 => pure []
  | count + 1 => do
      let first ← Reader.char isDigit
      return first :: (← digits count)

def numberWithin (count least most : Nat) : Reader Nat := do
  let value := decimalValue (← digits count)
  if least ≤ value && value ≤ most then return value else failure

def isLeapYear (year : Nat) : Bool := year % 4 == 0 && (year % 100 != 0 || year % 400 == 0)

def daysIn (year month : Nat) : Nat :=
  if month = 2 then (if isLeapYear year then 29 else 28)
  else if month ∈ [4, 6, 9, 11] then 30
  else 31

def date : Reader Unit := do
  let year ← numberWithin 4 0 9999
  Reader.exactly "-"
  let month ← numberWithin 2 1 12
  Reader.exactly "-"
  let _ ← numberWithin 2 1 (daysIn year month)

def time : Reader Unit := do
  let _ ← numberWithin 2 0 23
  Reader.exactly ":"
  let _ ← numberWithin 2 0 59
  Reader.exactly ":"
  let _ ← numberWithin 2 0 60
  Reader.optional do
    Reader.exactly "."
    let _ ← Reader.char isDigit
    let _ ← Reader.takeWhile isDigit

def zone : Reader Unit :=
  (discard (Reader.char fun c => c == 'Z' || c == 'z')) <|> do
    let _ ← Reader.char fun c => c == '+' || c == '-'
    let _ ← numberWithin 2 0 23
    Reader.exactly ":"
    let _ ← numberWithin 2 0 59

def zonedTime : Reader Unit := do
  time
  Reader.optional zone

def moment : Reader Unit := do
  date
  let _ ← Reader.char fun c => c == 'T' || c == 't' || c == ' '
  zonedTime

end QueryLexer.Toml
