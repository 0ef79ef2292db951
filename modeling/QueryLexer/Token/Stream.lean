import QueryLexer.Token.Classifier

/-!
A stream of tokens with one step of undo. `get` takes the next token, `peek` shows it, `unget` undoes
the last `get`. `next` is `get` for a reader that goes on to the end: after an error it yields nothing
more until the failing `get` is undone.

An error takes no characters, so the same error comes again. A reader that skips trivia takes the
blanks in front of a token together with it, and those at the end of the source with the end.
-/

namespace QueryLexer

structure LexMode where
  terminator : Terminator
  skipTrivia : Bool
  deriving DecidableEq, Repr

def LexMode.standard : LexMode := ⟨.platform, false⟩

inductive UngetError where
  | nothingToUnget
  deriving DecidableEq, Repr

def UngetError.message : UngetError → String
  | nothingToUnget => "nothing to unget: only the most recent token can be pushed back"

namespace Classifier

def scan (order : List Classifier) (skipTrivia : Bool) (cursor : Cursor) :
    Except LexError (Option Token) × Cursor :=
  match cursor.nextLocation? with
  | none => (.ok none, cursor)
  | some location =>
      match _turn : inTurn order cursor with
      | (none, after) =>
          (.error (.unexpectedChar location.line location.column (after.peek?.getD '\x00')), after)
      | (some found, after) =>
          if skipTrivia && found.kind.isTrivia then scan order skipTrivia after
          else (.ok (some ⟨found.kind, found.lexeme, location.line⟩), after)
termination_by cursor.rest.length
decreasing_by exact rest_lt_of_inTurn _ _ _ _ _turn

theorem rest_lt_of_scan (order : List Classifier) (skipTrivia : Bool) (cursor after : Cursor)
    (token : Token) (scanned : scan order skipTrivia cursor = (.ok (some token), after)) :
    after.rest.length < cursor.rest.length := by
  fun_induction scan order skipTrivia cursor with
  | case1 => simp at scanned
  | case2 => simp at scanned
  | case3 cursor location _ found behind first _ ih =>
      exact Nat.lt_trans (ih scanned) (rest_lt_of_inTurn _ _ _ _ first)
  | case4 cursor location _ found behind first _ =>
      simp only [Prod.mk.injEq] at scanned
      exact scanned.2 ▸ rest_lt_of_inTurn _ _ _ _ first

end Classifier

structure Pushback where
  start : Snapshot
  span : Nat
  deriving DecidableEq, Repr

structure TokenStream where
  order : List Classifier
  mode : LexMode
  cursor : Cursor
  pushback : Option Pushback
  fused : Bool
  deriving DecidableEq, Repr

namespace TokenStream

def withOrder (order : List Classifier) (source : String) (mode : LexMode) : TokenStream :=
  ⟨order, mode, Cursor.ofSource source mode.terminator, none, false⟩

def ofSource (source : String) (mode : LexMode) : TokenStream :=
  withOrder Classifier.chain source mode

def get (stream : TokenStream) : Except LexError (Option Token) × TokenStream :=
  let start := stream.cursor.snapshot
  let (outcome, reached) := Classifier.scan stream.order stream.mode.skipTrivia stream.cursor
  let cursor := match outcome with
    | .ok _ => reached
    | .error _ => reached.restore start
  (outcome, { stream with cursor, pushback := some ⟨start, cursor.consumedSince start⟩ })

/-- What `get` would return. The record of the last `get` is kept. -/
def peek (stream : TokenStream) : Except LexError (Option Token) × TokenStream :=
  let start := stream.cursor.snapshot
  let (outcome, reached) := Classifier.scan stream.order stream.mode.skipTrivia stream.cursor
  (outcome, { stream with cursor := reached.restore start })

def unget (stream : TokenStream) : Except UngetError TokenStream :=
  match stream.pushback with
  | some saved =>
      .ok { stream with
        cursor := stream.cursor.restore saved.start, pushback := none, fused := false }
  | none => .error .nothingToUnget

/-- The next token or error; nothing at the end of the source and after an error. -/
def next (stream : TokenStream) : Option (Except LexError Token) × TokenStream :=
  if stream.fused then (none, stream)
  else match stream.get with
    | (.ok (some token), after) => (some (.ok token), after)
    | (.ok none, after) => (none, after)
    | (.error error, after) => (some (.error error), { after with fused := true })

/-- The number of characters that the last `get` took, unless it was undone. -/
def lastSpan (stream : TokenStream) : Nat := (stream.pushback.map (·.span)).getD 0

def lineNumber (stream : TokenStream) : UInt32 := stream.cursor.lineNumber

def isAtEnd (stream : TokenStream) : Bool := stream.cursor.isAtEnd

theorem rest_lt_of_next (stream after : TokenStream) (token : Token)
    (taken : stream.next = (some (.ok token), after)) :
    after.cursor.rest.length < stream.cursor.rest.length := by
  unfold next get at taken
  split at taken
  case isTrue => simp at taken
  case isFalse =>
    cases scanned : Classifier.scan stream.order stream.mode.skipTrivia stream.cursor with
    | mk outcome reached =>
        cases outcome with
        | error error => simp [scanned] at taken
        | ok result =>
            cases result with
            | none => simp [scanned] at taken
            | some found =>
                simp only [scanned, Prod.mk.injEq] at taken
                rw [← taken.2]
                exact Classifier.rest_lt_of_scan _ _ _ _ _ scanned

def collect (stream : TokenStream) : Except LexError (List Token) × TokenStream :=
  match _taken : stream.next with
  | (some (.ok token), after) =>
      match after.collect with
      | (.ok tokens, final) => (.ok (token :: tokens), final)
      | (.error error, final) => (.error error, final)
  | (some (.error error), after) => (.error error, after)
  | (none, after) => (.ok [], after)
termination_by stream.cursor.rest.length
decreasing_by exact rest_lt_of_next _ _ _ _taken

end TokenStream

def tokenize (source : String) (mode : LexMode) : Except LexError (List Token) :=
  (TokenStream.ofSource source mode).collect.1

end QueryLexer
