import Mathlib.Algebra.BigOperators.Group.Finset.Basic
import Mathlib.Data.Nat.Find
import QueryLexer.Proofs.Coherence
import QueryLexer.Proofs.Lossless

/-!
Spans. The span of a `get` is the number of characters that it took: the blanks that it left out and those
of its token, none if it failed, and at the end of the source the blanks that are still there. So the spans
of the gets so far add up to the place where the stream is, and those of a whole run to the source. A token
has at least one character, so a run has at most one `get` more than the source has characters.
-/

namespace QueryLexer

/-- The number of blanks at the head of a text that are left out in front of a token. -/
def blanksSkipped (skipTrivia : Bool) (ahead : List Char) : Nat :=
  if skipTrivia then (ahead.takeWhile Text.isBlank).length else 0

/-- The token is taken off the text as `chars`, with `blanks` left out in front of it. -/
structure Token.TakenAs (token : Token) (skipTrivia : Bool) (blanks chars : List Char) : Prop where
  blank : ∀ c ∈ blanks, Text.isBlank c = true
  kept : skipTrivia = false → blanks = []
  written : token.kind.Written token.lexeme chars
  meaningful : skipTrivia = true → token.kind.isTrivia = false

namespace Token.TakenAs

variable {token : Token} {skipTrivia : Bool} {blanks chars : List Char}

theorem text (taken : token.TakenAs skipTrivia blanks chars) :
    token.text.toList = chars.map Text.blankAsSpace :=
  text_of_written token.kind token.lexeme token.line chars taken.written

theorem length_text (taken : token.TakenAs skipTrivia blanks chars) :
    token.text.length = chars.length := by
  rw [← String.length_toList, taken.text, List.length_map]

-- A token that is not a blank ends the blanks in front of it.
theorem blanksSkipped (taken : token.TakenAs skipTrivia blanks chars) (rest : List Char) :
    blanksSkipped skipTrivia (blanks ++ (chars ++ rest)) = blanks.length := by
  cases skips : skipTrivia with
  | false => simp [QueryLexer.blanksSkipped, taken.kept skips]
  | true =>
      have visible := taken.written.visible (taken.meaningful skips)
      obtain ⟨c, more, rfl⟩ := List.exists_cons_of_ne_nil taken.written.ne_nil
      have run : (blanks ++ (c :: more ++ rest)).takeWhile Text.isBlank = blanks := by
        apply takeWhile_stops _ _ _ taken.blank
        intro next first
        obtain rfl : c = next := Option.some.inj first
        exact visible c List.mem_cons_self
      rw [QueryLexer.blanksSkipped, if_pos rfl, run]

end Token.TakenAs

theorem Kind.Written.single_blank {kind : Kind} {lexeme : String} {chars : List Char}
    (written : kind.Written lexeme chars) (trivia : kind.isTrivia = true) :
    ∃ c, chars = [c] ∧ Text.isBlank c = true := by
  cases kind with
  | space => exact written.2
  | keyword word => cases trivia
  | integer => cases trivia
  | identifier => cases trivia
  | operator op => cases trivia

namespace Classifier

theorem taken_of_inTurn (cursor after : Cursor) (found : Match)
    (first : inTurn chain cursor = (some found, after)) :
    ∃ chars, cursor.rest = chars ++ after.rest ∧ found.kind.Written found.lexeme chars := by
  obtain ⟨recognized, rfl⟩ := (inTurn_chain_eq_some_iff cursor after found).mp first
  obtain ⟨chars, rest, text, written, taken, _⟩ := written_of_tokenAt? _ _ recognized
  refine ⟨chars, ?_, written⟩
  rw [← cursor.rest_settled, taken]
  exact cursor.settled.rest_moved chars rest text

theorem taken_of_scan (order : List Classifier) (usual : order = chain) (skipTrivia : Bool)
    (cursor after : Cursor) (token : Token)
    (scanned : scan order skipTrivia cursor = (.ok (some token), after)) :
    ∃ blanks chars, cursor.rest = blanks ++ (chars ++ after.rest) ∧
      token.TakenAs skipTrivia blanks chars := by
  fun_induction scan order skipTrivia cursor with
  | case1 => simp at scanned
  | case2 => simp at scanned
  | case3 cursor location _ found reached first left ih =>
      subst usual
      obtain ⟨blanks, chars, below, taken⟩ := ih scanned
      obtain ⟨skips, trivia⟩ := Bool.and_eq_true_iff.mp left
      obtain ⟨skipped, here, written⟩ := taken_of_inTurn cursor reached found first
      obtain ⟨c, rfl, isBlank⟩ := written.single_blank trivia
      refine ⟨c :: blanks, chars, by rw [here, below]; rfl, ?_, ?_, taken.written, taken.meaningful⟩
      · intro d member
        rcases List.mem_cons.mp member with rfl | later
        · exact isBlank
        · exact taken.blank d later
      · intro keeps
        cases keeps.symm.trans skips
  | case4 cursor location place found reached first kept =>
      subst usual
      obtain ⟨chars, here, written⟩ := taken_of_inTurn cursor reached found first
      obtain ⟨rfl, rfl⟩ : ⟨found.kind, found.lexeme, location.line⟩ = token ∧ reached = after := by
        simpa using scanned
      refine ⟨[], chars, here, by simp, fun _ => rfl, written, ?_⟩
      intro skips
      simpa [skips] using kept

end Classifier

namespace TokenStream

theorem taken_of_get (stream : TokenStream) (usual : stream.order = Classifier.chain) (token : Token)
    (taken : stream.get.1 = .ok (some token)) :
    ∃ blanks chars, stream.cursor.rest = blanks ++ (chars ++ stream.get.2.cursor.rest) ∧
      token.TakenAs stream.mode.skipTrivia blanks chars := by
  have scanned := scan_of_get stream (some token) taken
  exact Classifier.taken_of_scan _ usual _ _ _ _ scanned

section OneGet

variable (stream : TokenStream) (usual : stream.order = Classifier.chain)
  (inside : stream.cursor.InSource)

include usual inside

theorem offset_of_get :
    stream.get.2.cursor.offset = stream.cursor.offset + stream.get.2.lastSpan :=
  (undoes_of_get stream usual inside _ rfl).span.symm

theorem length_rest_of_get :
    stream.cursor.rest.length = stream.get.2.lastSpan + stream.get.2.cursor.rest.length := by
  have before := Cursor.offset_add_rest _ inside
  have behind := Cursor.offset_add_rest _ (inSource_of_get stream usual inside)
  rw [lines_of_get, offset_of_get stream usual inside] at behind
  omega

theorem span_of_token (token : Token) (taken : stream.get.1 = .ok (some token)) :
    let skipped := blanksSkipped stream.mode.skipTrivia stream.cursor.rest
    stream.get.2.lastSpan = skipped + token.text.length ∧ 1 ≤ stream.get.2.lastSpan ∧
      ((stream.cursor.rest.drop skipped).take token.text.length).map Text.blankAsSpace =
        token.text.toList := by
  have length := length_rest_of_get stream usual inside
  obtain ⟨blanks, chars, ahead, takenAs⟩ := taken_of_get stream usual token taken
  have nonempty := List.length_pos_iff.mpr takenAs.written.ne_nil
  rw [ahead, List.length_append, List.length_append] at length
  simp only [ahead, takenAs.blanksSkipped, takenAs.length_text]
  refine ⟨by omega, by omega, ?_⟩
  rw [List.drop_left, List.take_left, takenAs.text]

end OneGet

theorem span_of_error (stream : TokenStream) (error : LexError) (taken : stream.get.1 = .error error) :
    stream.get.2.lastSpan = 0 := by
  obtain ⟨saved, recorded, span, _⟩ := again_of_error stream error taken
  rw [lastSpan, recorded]
  exact span

theorem rest_of_end (stream : TokenStream) (taken : stream.get.1 = .ok none) :
    stream.get.2.cursor.rest = [] := by
  have ended := Classifier.nextLocation?_of_scan_end _ _ _ _ (scan_of_get stream none taken)
  exact Cursor.rest_eq_nil_of_nextPosition?_none _ (Option.map_eq_none_iff.mp ended)

def afterGets (stream : TokenStream) : (count : Nat) → TokenStream
  | 0 => stream
  | count + 1 => (stream.afterGets count).get.2

def spanOf (stream : TokenStream) (count : Nat) : Nat := (stream.afterGets (count + 1)).lastSpan

theorem afterGets_coherent (source : String) (mode : LexMode) (count : Nat) :
    ∃ history, ((ofSource source mode).afterGets count).Coherent source mode history := by
  induction count with
  | zero => exact ⟨[], coherent_ofSource source mode⟩
  | succ count ih =>
      obtain ⟨history, coherent⟩ := ih
      exact ⟨_, get_coherent coherent⟩

section Run

variable (source : String) (mode : LexMode) (count : Nat)

theorem offset_afterGets : ((ofSource source mode).afterGets count).cursor.offset =
    ∑ index ∈ Finset.range count, (ofSource source mode).spanOf index := by
  induction count with
  | zero => rfl
  | succ count ih =>
      obtain ⟨_, coherent⟩ := afterGets_coherent source mode count
      rw [Finset.sum_range_succ, ← ih]
      exact offset_of_get _ coherent.usual coherent.inSource

theorem rest_afterGets : ((ofSource source mode).afterGets count).cursor.rest =
    (mode.terminator.lines source.toList).flatten.drop
      (∑ index ∈ Finset.range count, (ofSource source mode).spanOf index) := by
  obtain ⟨_, coherent⟩ := afterGets_coherent source mode count
  rw [← offset_afterGets, Cursor.rest_eq_drop _ coherent.inSource, coherent.lines]

theorem sum_spans_le : ∑ index ∈ Finset.range count, (ofSource source mode).spanOf index ≤
    (mode.terminator.lines source.toList).flatten.length := by
  obtain ⟨_, coherent⟩ := afterGets_coherent source mode count
  have whole := Cursor.offset_add_rest _ coherent.inSource
  rw [offset_afterGets, coherent.lines] at whole
  omega

-- As long as there are tokens, every `get` takes something.
theorem count_le_sum_spans (tokens : ∀ index < count, ∃ token,
    ((ofSource source mode).afterGets index).get.1 = .ok (some token)) :
    count ≤ ∑ index ∈ Finset.range count, (ofSource source mode).spanOf index := by
  induction count with
  | zero => exact Nat.zero_le _
  | succ count ih =>
      obtain ⟨_, coherent⟩ := afterGets_coherent source mode count
      obtain ⟨token, taken⟩ := tokens count (Nat.lt_succ_self count)
      have some := (span_of_token _ coherent.usual coherent.inSource token taken).2.1
      have earlier := ih fun index less => tokens index (Nat.lt_succ_of_lt less)
      rw [Finset.sum_range_succ]
      exact Nat.add_le_add earlier some

end Run

theorem exists_last_get (source : String) (mode : LexMode) :
    ∃ last ≤ (mode.terminator.lines source.toList).flatten.length,
      (∀ count < last, ∃ token, ((ofSource source mode).afterGets count).get.1 = .ok (some token)) ∧
      ∀ token, ((ofSource source mode).afterGets last).get.1 ≠ .ok (some token) := by
  classical
  have ends : ∃ count, ∀ token, ((ofSource source mode).afterGets count).get.1 ≠ .ok (some token) := by
    by_contra endless
    simp only [not_exists, not_forall, not_not] at endless
    have many := count_le_sum_spans source mode
      ((mode.terminator.lines source.toList).flatten.length + 1) fun index _ => endless index
    exact Nat.not_succ_le_self _ (Nat.le_trans many (sum_spans_le source mode _))
  have tokens : ∀ count < Nat.find ends, ∃ token,
      ((ofSource source mode).afterGets count).get.1 = .ok (some token) := by
    intro count less
    simpa only [not_forall, not_not] using Nat.find_min ends less
  refine ⟨Nat.find ends, ?_, tokens, Nat.find_spec ends⟩
  exact Nat.le_trans (count_le_sum_spans source mode _ tokens) (sum_spans_le source mode _)

end TokenStream

theorem spans_partition_source (source : String) (mode : LexMode) :
    let text := (mode.terminator.lines source.toList).flatten
    let stream := (TokenStream.ofSource source mode).afterGets
    let span := (TokenStream.ofSource source mode).spanOf
    let total := fun count => ∑ index ∈ Finset.range count, span index
    (∀ count, (stream count).cursor.offset = total count ∧
      (stream count).cursor.rest = text.drop (total count)) ∧
    (∀ count token, (stream count).get.1 = .ok (some token) →
      let ahead := (stream count).cursor.rest
      let skipped := blanksSkipped mode.skipTrivia ahead
      span count = skipped + token.text.length ∧ 1 ≤ span count ∧
        ((ahead.drop skipped).take token.text.length).map Text.blankAsSpace = token.text.toList) ∧
    (∀ count error, (stream count).get.1 = .error error → span count = 0) ∧
    (∀ count, (stream count).get.1 = .ok none → total (count + 1) = text.length) ∧
    ∃ last ≤ text.length, (∀ count < last, ∃ token, (stream count).get.1 = .ok (some token)) ∧
      ∀ token, (stream last).get.1 ≠ .ok (some token) := by
  intro text stream span total
  refine ⟨?_, ?_, ?_, ?_, TokenStream.exists_last_get source mode⟩
  · intro count
    exact ⟨TokenStream.offset_afterGets source mode count, TokenStream.rest_afterGets source mode count⟩
  · intro count token taken
    obtain ⟨_, coherent⟩ := TokenStream.afterGets_coherent source mode count
    rw [← coherent.reading]
    exact TokenStream.span_of_token _ coherent.usual coherent.inSource token taken
  · intro count error taken
    exact TokenStream.span_of_error _ error taken
  · intro count ended
    have used : (stream (count + 1)).cursor.rest = [] := TokenStream.rest_of_end _ ended
    have whole := TokenStream.rest_afterGets source mode (count + 1)
    have least : text.length ≤ total (count + 1) := by
      rw [← List.drop_eq_nil_iff]
      exact whole.symm.trans used
    exact Nat.le_antisymm (TokenStream.sum_spans_le source mode (count + 1)) least

-- Two blanks are left out in front of the sign, one on each side of a line end.
theorem spans_partition_source_over_line_end :
    ((TokenStream.ofSource "x \r\n\t=1" ⟨.crlf, true⟩).afterGets 1).get.1 =
        .ok (some ⟨.operator .assignment, "", 2⟩) ∧
      (TokenStream.ofSource "x \r\n\t=1" ⟨.crlf, true⟩).spanOf 1 = 2 + 1 := by
  have taken : ((TokenStream.ofSource "x \r\n\t=1" ⟨.crlf, true⟩).afterGets 1).get.1 =
      .ok (some ⟨.operator .assignment, "", 2⟩) := by
    decide +kernel
  refine ⟨taken, ?_⟩
  exact ((spans_partition_source "x \r\n\t=1" ⟨.crlf, true⟩).2.1 1 _ taken).1.trans
    (by decide +kernel)

end QueryLexer
