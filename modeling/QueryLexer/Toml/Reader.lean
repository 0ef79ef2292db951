namespace QueryLexer.Toml

abbrev Reader := StateT (List Char) Option

namespace Reader

def char (accept : Char → Bool) : Reader Char := fun text =>
  match text with
  | c :: rest => if accept c then some (c, rest) else none
  | [] => none

def exactly (expected : String) : Reader Unit := fun text =>
  if expected.toList.isPrefixOf text then some ((), text.drop expected.length) else none

def takeWhile (accept : Char → Bool) : Reader (List Char) := fun text =>
  some (text.takeWhile accept, text.dropWhile accept)

def atEnd : Reader Unit := fun text => if text.isEmpty then some ((), text) else none

/-- As many items as can be read one after the other. An item that takes no character ends the list. -/
def items {α : Type} (item : Reader α) (text : List Char) : List α × List Char :=
  match item text with
  | none => ([], text)
  | some (value, rest) =>
      if _shorter : rest.length < text.length then
        let (values, final) := items item rest
        (value :: values, final)
      else ([], text)
termination_by text.length

def many {α : Type} (item : Reader α) : Reader (List α) := fun text => some (items item text)

def separated {α : Type} (item : Reader α) (separator : Reader Unit) : Reader (List α) := do
  let first ← item
  let others ← many (separator *> item)
  return first :: others

def optional (reader : Reader Unit) : Reader Unit := reader <|> pure ()

def whole {α : Type} (reader : Reader α) (text : List Char) : Option α :=
  ((reader <* atEnd : Reader α).run text).map (·.1)

end Reader

end QueryLexer.Toml
