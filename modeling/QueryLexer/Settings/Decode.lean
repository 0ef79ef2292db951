import QueryLexer.Settings.Basic
import QueryLexer.Toml.Document

/-!
Settings out of a document. Keys that mean nothing here are passed over, whatever their values. A section
may also be written as an array, with its entries in order and the last ones left out; a moment counts as
a section without entries. A word may also be written as the only key of a table, over something empty.
-/

namespace QueryLexer.Settings

open Toml (Value Entries)

/-- The field of a section with this name, which is the one at `index` if the section is an array. -/
def field? (name : String) (index : Nat) : Value → Option (Option Value)
  | .table _ entries => some (Entries.get? entries name)
  | .array items => some items[index]?
  | .tables members => some (members[index]?.map (.table .header))
  | .moment => some none
  | _ => none

def flag? : Value → Option Bool
  | .boolean flag => some flag
  | _ => none

def isVoid : Value → Bool
  | .array items => items.isEmpty
  | .table _ entries => entries.isEmpty
  | .tables members => members.isEmpty
  | _ => false

def word? {α : Type} (ofWord? : String → Option α) : Value → Option α
  | .text word => ofWord? word
  | .table _ [(word, content)] => if isVoid content then ofWord? word else none
  | _ => none

def decodeOr {α : Type} (standard : α) (decode : Value → Option α) : Option Value → Option α
  | some value => decode value
  | none => some standard

def decode? (entries : Entries) : Option Settings := do
  let verbose ← decodeOr standard.verbose flag? (Entries.get? entries "verbose")
  let lexer := (Entries.get? entries "lexer").getD (.table .header [])
  let output := (Entries.get? entries "output").getD (.table .header [])
  let terminator ← decodeOr standard.terminator (word? TerminatorChoice.ofWord?)
    (← field? "line_terminator" 0 lexer)
  let skipTrivia ← decodeOr standard.skipTrivia flag? (← field? "skip_trivia" 1 lexer)
  let format ← decodeOr standard.format (word? ListingFormat.ofWord?) (← field? "format" 0 output)
  return ⟨verbose, terminator, skipTrivia, format⟩

def ofText? (text : String) : Option Settings := Toml.document? text >>= decode?

end QueryLexer.Settings
