import QueryLexer.Toml.Quoted
import QueryLexer.Toml.Value

namespace QueryLexer.Toml

/-- Arrays and inline tables within one another, and the parts of a dotted key, stay below this. -/
def nestingLimit : Nat := 80

def isBareKeyChar (c : Char) : Bool :=
  Text.isDigit c || ('a' ≤ c && c ≤ 'z') || ('A' ≤ c && c ≤ 'Z') || c == '_' || c == '-'

def bareKey : Reader String := do
  let name ← Reader.takeWhile isBareKeyChar
  if name.isEmpty then failure else return String.ofList name

def simpleKey : Reader String :=
  bareKey <|> String.ofList <$> (basicText <|> literalText)

def key : Reader (List String × String) := do
  let parts ← Reader.separated (spaces *> simpleKey <* spaces) (Reader.exactly ".")
  match parts.getLast? with
  | some last => if parts.length < nestingLimit then return (parts.dropLast, last) else failure
  | none => failure

def comment : Reader Unit := Reader.exactly "#" *> discard (Reader.takeWhile isPrintable)

def gap : Reader Unit :=
  discard (Reader.many (discard (Reader.char isSpace) <|> newline <|> comment *> newline))

def isWordChar (c : Char) : Bool :=
  Text.isDigit c || ('a' ≤ c && c ≤ 'z') || ('A' ≤ c && c ≤ 'Z') ||
    c == '+' || c == '-' || c == '_' || c == '.' || c == ':'

def word : Reader Value := do
  let text ← Reader.takeWhile isWordChar
  if text == "true".toList then return .boolean true
  else if text == "false".toList then return .boolean false
  else if isInteger text || isFloat text then return .number
  else if ((moment <|> date <|> time).whole text).isSome then return .moment
  else failure

def spacedMoment : Reader Value := do
  date
  Reader.exactly " "
  zonedTime
  return .moment

def inlineEntry (value : Reader Value) : Reader ((List String × String) × Value) := do
  let name ← key
  Reader.exactly "="
  spaces
  let content ← value
  spaces
  return (name, content)

def addEntry? (entries : Entries) (entry : (List String × String) × Value) : Option Entries :=
  Entries.assign? entry.1.2 entry.2 entry.1.1 entries

def inlineTable (value : Reader Value) : Reader Value := do
  Reader.exactly "\x7b"
  spaces
  let pairs ← Reader.separated (inlineEntry value) (Reader.exactly ",") <|> pure []
  Reader.exactly "\x7d"
  let entries ← (pairs.foldlM addEntry? [] : Option Entries)
  return .table .braces entries

def array (value : Reader Value) : Reader Value := do
  Reader.exactly "["
  gap
  let items ← (Reader.separated (gap *> value <* gap) (Reader.exactly ",") <*
    Reader.optional (Reader.exactly ",")) <|> pure []
  gap
  Reader.exactly "]"
  return .array items

/-- A value with arrays and inline tables up to the given depth. -/
def value : (depth : Nat) → Reader Value
  | 0 => Value.text <$> quotedText <|> spacedMoment <|> word
  | depth + 1 =>
      Value.text <$> quotedText <|> array (value depth) <|> inlineTable (value depth) <|>
        spacedMoment <|> word

inductive Statement where
  | assignment (path : List String) (key : String) (value : Value)
  | header (path : List String) (key : String)
  | nextHeader (path : List String) (key : String)

def lineEnd : Reader Unit := do
  spaces
  Reader.optional comment
  newline <|> Reader.atEnd

def assignment : Reader Statement := do
  let (path, last) ← key
  Reader.exactly "="
  spaces
  let content ← value (nestingLimit - 1)
  lineEnd
  return .assignment path last content

def header : Reader Statement := do
  Reader.exactly "["
  let (path, last) ← key
  Reader.exactly "]"
  lineEnd
  return .header path last

def nextHeader : Reader Statement := do
  Reader.exactly "[["
  let (path, last) ← key
  Reader.exactly "]]"
  lineEnd
  return .nextHeader path last

def line : Reader (Option Statement) := do
  spaces
  some <$> (nextHeader <|> header <|> assignment) <|>
    Reader.optional comment *> newline *> pure none

def remainder : Reader Unit := spaces *> Reader.optional comment *> Reader.atEnd

def statements : Reader (List Statement) := do
  Reader.optional (Reader.exactly "\uFEFF")
  let lines ← Reader.many line
  remainder
  return lines.filterMap id

/-- A document under construction: all its entries, and the section that assignments go to. -/
structure Draft where
  entries : Entries
  path : List String

namespace Draft

def execute? (draft : Draft) : Statement → Option Draft
  | .assignment path key value => do
      let entries ← Entries.under? (Entries.assign? key value path) draft.path draft.entries
      return { draft with entries }
  | .header path key => do
      let entries ← Entries.under? (Entries.open? key) path draft.entries
      return ⟨entries, path ++ [key]⟩
  | .nextHeader path key => do
      let entries ← Entries.under? (Entries.openNext? key) path draft.entries
      return ⟨entries, path ++ [key]⟩

end Draft

def document? (text : String) : Option Entries := do
  let list ← statements.whole text.toList
  let draft ← list.foldlM Draft.execute? ⟨[], []⟩
  return draft.entries

end QueryLexer.Toml
