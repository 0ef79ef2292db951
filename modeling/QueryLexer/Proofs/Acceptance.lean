import QueryLexer.Proofs.Lossless

/-!
Which sources are accepted, and where the others fail. A character may be outside the alphabet, and `&`
and `|` are written in pairs only, so that a run of them has to be of even length. Those are all faults,
and the error is at the first of them: at the character itself, or at the last character of the run. The
error gives the line and the column in 32 bits, which is enough unless a source has 2^32 lines or a line as
many characters.
-/

namespace QueryLexer

/-- The alphabet: blanks, letters, the underscore, digits, and what operators are made of. -/
def Text.isLexical (c : Char) : Bool :=
  Text.isBlank c || Text.isLetter c || c == '_' || Text.isDigit c || Text.operatorChars.contains c

/-- `length` copies of `c` stand in `text` from `start` on, and no copy is next to them. -/
structure MaximalRun (c : Char) (text : List Char) (start length : Nat) : Prop where
  nonempty : 0 < length
  inside : ∀ index, start ≤ index → index < start + length → text[index]? = some c
  before : ∀ index, index + 1 = start → text[index]? ≠ some c
  behind : text[start + length]? ≠ some c

/-- A maximal run of `c` of odd length has its last character at `column`. -/
def OddRunEnd (c : Char) (text : List Char) (column : Nat) : Prop :=
  ∃ start length, MaximalRun c text start length ∧ length % 2 = 1 ∧ column + 1 = start + length

/-- `c`, at `column` of the line, is a character that no token can take. -/
def FaultAt (text : List Char) (column : Nat) (c : Char) : Prop :=
  text[column]? = some c ∧
    (Text.isLexical c = false ∨ (c = '&' ∨ c = '|') ∧ OddRunEnd c text column)

def FirstFaultAt (text : List Char) (column : Nat) (c : Char) : Prop :=
  FaultAt text column c ∧ ∀ column' c', FaultAt text column' c' → column ≤ column'

/-- A fault on a page; lines and columns are counted from zero. -/
def Fault (lines : List (List Char)) (line column : Nat) (c : Char) : Prop :=
  ∃ text, lines[line]? = some text ∧ FaultAt text column c

def FirstFault (lines : List (List Char)) (line column : Nat) (c : Char) : Prop :=
  Fault lines line column c ∧ ∀ line' column' c', Fault lines line' column' c' →
    line < line' ∨ line = line' ∧ column ≤ column'

theorem getElem?_behind (chars rest : List Char) (index : Nat) :
    (chars ++ rest)[chars.length + index]? = rest[index]? := by
  rw [List.getElem?_append_right (by omega)]
  congr 1
  omega

theorem maximalRun_behind (c : Char) (chars rest : List Char) (start length : Nat) :
    MaximalRun c (chars ++ rest) (chars.length + start) length ↔
      MaximalRun c rest start length ∧ (start = 0 → chars.getLast? ≠ some c) := by
  have last : ∀ index, index + 1 = chars.length → (chars ++ rest)[index]? = chars.getLast? := by
    intro index next
    rw [List.getElem?_append_left (by omega), List.getLast?_eq_getElem?, ← next, Nat.add_sub_cancel]
  constructor
  · intro run
    refine ⟨⟨run.nonempty, ?_, ?_, ?_⟩, ?_⟩
    · intro index lower upper
      rw [← getElem?_behind chars]
      exact run.inside _ (by omega) (by omega)
    · intro index next
      rw [← getElem?_behind chars]
      exact run.before _ (by omega)
    · rw [← getElem?_behind chars, ← Nat.add_assoc]
      exact run.behind
    · rintro rfl same
      have nonempty : chars ≠ [] := by
        rintro rfl
        simp at same
      have size := List.length_pos_iff.mpr nonempty
      apply run.before (chars.length - 1) (by omega)
      rw [last _ (by omega), same]
  · rintro ⟨run, apart⟩
    refine ⟨run.nonempty, ?_, ?_, ?_⟩
    · intro index lower upper
      obtain ⟨offset, rfl⟩ := Nat.exists_eq_add_of_le (Nat.le_of_add_right_le lower)
      rw [getElem?_behind]
      exact run.inside offset (by omega) (by omega)
    · intro index next
      by_cases first : start = 0
      · rw [last index (by omega)]
        exact apart first
      · obtain ⟨offset, rfl⟩ := Nat.exists_eq_add_of_le (show chars.length ≤ index by omega)
        rw [getElem?_behind]
        exact run.before offset (by omega)
    · rw [Nat.add_assoc, getElem?_behind]
      exact run.behind

theorem oddRunEnd_behind (c : Char) (chars rest : List Char) (column start length : Nat)
    (run : MaximalRun c (chars ++ rest) (chars.length + start) length) (odd : length % 2 = 1)
    (last : column + 1 = chars.length + start + length) :
    ∃ later, column = chars.length + later ∧ OddRunEnd c rest later := by
  have positive := run.nonempty
  have tail := ((maximalRun_behind c chars rest start length).mp run).1
  exact ⟨start + length - 1, by omega, start, length, tail, odd, by omega⟩

theorem oddRunEnd_append (c : Char) (chars rest : List Char) (absent : c ∉ chars) (column : Nat) :
    OddRunEnd c (chars ++ rest) column ↔
      ∃ later, column = chars.length + later ∧ OddRunEnd c rest later := by
  constructor
  · rintro ⟨start, length, run, odd, last⟩
    have beyond : chars.length ≤ start := by
      by_contra early
      have here := run.inside start (by omega) (by have := run.nonempty; omega)
      rw [List.getElem?_append_left (by omega)] at here
      exact absent (List.mem_of_getElem? here)
    obtain ⟨offset, rfl⟩ := Nat.exists_eq_add_of_le beyond
    exact oddRunEnd_behind c chars rest column offset length run odd last
  · rintro ⟨later, rfl, start, length, run, odd, last⟩
    have apart : chars.getLast? ≠ some c := fun same => absent (List.mem_of_getLast? same)
    have whole := (maximalRun_behind c chars rest start length).mpr ⟨run, fun _ => apart⟩
    exact ⟨chars.length + start, length, whole, odd, by omega⟩

theorem oddRunEnd_pair (c : Char) (rest : List Char) (column : Nat) :
    OddRunEnd c ([c, c] ++ rest) column ↔ ∃ later, column = 2 + later ∧ OddRunEnd c rest later := by
  constructor
  · rintro ⟨start, length, run, odd, last⟩
    have positive := run.nonempty
    -- The run starts with the pair or behind it: between the two, and right behind them, `c` precedes.
    have place : start = 0 ∨ 2 ≤ start := by
      by_contra between
      obtain rfl : start = 1 := by omega
      exact run.before 0 rfl rfl
    rcases place with rfl | beyond
    · have long : length ≠ 1 := by
        rintro rfl
        exact run.behind rfl
      refine ⟨length - 3, by omega, 0, length - 2, ⟨by omega, ?_, by omega, ?_⟩, by omega, by omega⟩
      · intro index _ upper
        rw [← getElem?_behind [c, c]]
        exact run.inside _ (by omega) (by simp only [List.length_cons, List.length_nil]; omega)
      · rw [← getElem?_behind [c, c]]
        have shifted : [c, c].length + (0 + (length - 2)) = 0 + length := by
          simp only [List.length_cons, List.length_nil]
          omega
        rw [shifted]
        exact run.behind
    · obtain ⟨offset, rfl⟩ := Nat.exists_eq_add_of_le beyond
      exact oddRunEnd_behind c [c, c] rest column offset length run odd last
  · rintro ⟨later, rfl, start, length, run, odd, last⟩
    have positive := run.nonempty
    by_cases first : start = 0
    · subst first
      refine ⟨0, length + 2, ⟨by omega, ?_, by omega, ?_⟩, by omega, by omega⟩
      · intro index _ upper
        match index with
        | 0 => rfl
        | 1 => rfl
        | index + 2 => exact run.inside index (by omega) (by omega)
      · have shifted : 0 + (length + 2) = [c, c].length + (0 + length) := by
          simp only [List.length_cons, List.length_nil]
          omega
        rw [shifted, getElem?_behind]
        exact run.behind
    · have whole := (maximalRun_behind c [c, c] rest start length).mpr
        ⟨run, fun same => absurd same first⟩
      exact ⟨2 + start, length, whole, odd, by omega⟩

theorem isLexical_operator (c : Char) (member : c ∈ Text.operatorChars) :
    Text.isLexical c = true := by
  simp [Text.isLexical, member]

theorem isLexical_continuesName (c : Char) (continues : Text.continuesName c = true) :
    Text.isLexical c = true := by
  simp only [Text.continuesName, Text.startsName, Bool.or_eq_true] at continues
  rcases continues with (underscore | letter) | digit
  · simp [Text.isLexical, underscore]
  · simp [Text.isLexical, letter]
  · simp [Text.isLexical, digit]

theorem Kind.Written.lexical {kind : Kind} {lexeme : String} {chars : List Char}
    (written : kind.Written lexeme chars) : ∀ c ∈ chars, Text.isLexical c = true := by
  intro c member
  cases kind with
  | space =>
      obtain ⟨_, blank, rfl, isBlank⟩ := written
      obtain rfl := List.mem_singleton.mp member
      simp [Text.isLexical, isBlank]
  | operator op =>
      rw [written.2] at member
      exact isLexical_operator c (op.symbol_chars.2 c member)
  | keyword spelled =>
      have named := isName_of_ofWord? chars spelled written.2
      exact isLexical_continuesName c (named.continues c member)
  | identifier => exact isLexical_continuesName c (written.2.1.continues c member)
  | integer => simp [Text.isLexical, written.2.2 c member]

theorem Kind.Written.paired {kind : Kind} {lexeme : String} {chars : List Char}
    (written : kind.Written lexeme chars) (c : Char) (double : c = '&' ∨ c = '|') :
    c ∉ chars ∨ chars = [c, c] := by
  have sign : c ∈ Text.operatorChars := by
    rcases double with rfl | rfl <;> decide
  have unnamed : IsName chars → c ∉ chars := by
    intro named member
    have continues := named.continues c member
    simp [Text.continuesName, Text.startsName_operator c sign, Text.isDigit_operator c sign] at continues
  cases kind with
  | space =>
      obtain ⟨_, blank, rfl, isBlank⟩ := written
      left
      intro member
      obtain rfl := List.mem_singleton.mp member
      simp [Text.isBlank_operator c sign] at isBlank
  | operator op =>
      rw [written.2]
      rcases double with rfl | rfl <;> cases op <;> decide
  | keyword spelled => exact Or.inl (unnamed (isName_of_ofWord? chars spelled written.2))
  | identifier => exact Or.inl (unnamed written.2.1)
  | integer =>
      left
      intro member
      have digit := written.2.2 c member
      simp [Text.isDigit_operator c sign] at digit

theorem faultAt_written (kind : Kind) (lexeme : String) (chars rest : List Char)
    (written : kind.Written lexeme chars) (column : Nat) (c : Char) :
    FaultAt (chars ++ rest) column c ↔
      ∃ later, column = chars.length + later ∧ FaultAt rest later c := by
  have runs : c = '&' ∨ c = '|' → (OddRunEnd c (chars ++ rest) column ↔
      ∃ later, column = chars.length + later ∧ OddRunEnd c rest later) := by
    intro double
    rcases written.paired c double with absent | rfl
    · exact oddRunEnd_append c chars rest absent column
    · exact oddRunEnd_pair c rest column
  constructor
  · rintro ⟨here, foreign | ⟨double, odd⟩⟩
    · have beyond : chars.length ≤ column := by
        by_contra early
        rw [List.getElem?_append_left (by omega)] at here
        simp [written.lexical c (List.mem_of_getElem? here)] at foreign
      obtain ⟨later, rfl⟩ := Nat.exists_eq_add_of_le beyond
      rw [getElem?_behind] at here
      exact ⟨later, rfl, here, Or.inl foreign⟩
    · obtain ⟨later, rfl, tail⟩ := (runs double).mp odd
      rw [getElem?_behind] at here
      exact ⟨later, rfl, here, Or.inr ⟨double, tail⟩⟩
  · rintro ⟨later, rfl, here, cause⟩
    rw [← getElem?_behind chars] at here
    refine ⟨here, ?_⟩
    rcases cause with foreign | ⟨double, odd⟩
    · exact Or.inl foreign
    · exact Or.inr ⟨double, (runs double).mpr ⟨later, rfl, odd⟩⟩

theorem faultAt_of_none (c : Char) (later : List Char) (missed : tokenAt? (c :: later) = none) :
    FaultAt (c :: later) 0 c := by
  refine ⟨rfl, ?_⟩
  obtain ⟨blank, starts, digit, foreign | ⟨op, formed, single⟩⟩ := (tokenAt?_eq_none_iff c later).mp missed
  · left
    have other : c ∉ Text.operatorChars := by
      rw [Text.mem_operatorChars_iff, foreign]
      simp
    simp only [Text.startsName, Bool.or_eq_false_iff] at starts
    simp [Text.isLexical, blank, starts, digit, other]
  · right
    have double : c = '&' ∨ c = '|' := by
      unfold OperatorForm.ofChar? at formed
      split at formed <;> simp_all
    refine ⟨double, 0, 1, ⟨by omega, ?_, by omega, ?_⟩, rfl, rfl⟩
    · intro index _ upper
      obtain rfl : index = 0 := by omega
      rfl
    · simpa [List.head?_eq_getElem?] using single

theorem failure_of_lineTranscript (number : UInt32) (column : Nat) (text : List Char) :
    ((lineTranscript number column text).failure = none ∧ ∀ index c, ¬ FaultAt text index c) ∨
      ∃ index c, (lineTranscript number column text).failure =
        some (.unexpectedChar number (.ofNat (column + index)) c) ∧ FirstFaultAt text index c := by
  induction text using line_induction generalizing column with
  | nil =>
      left
      rw [lineTranscript_nil]
      refine ⟨rfl, ?_⟩
      rintro index c ⟨here, _⟩
      simp at here
  | missed c later none =>
      right
      rw [lineTranscript_of_none _ _ _ _ none]
      exact ⟨0, c, rfl, faultAt_of_none c later none, fun index c' _ => Nat.zero_le index⟩
  | token kind lexeme chars rest written stops ih =>
      have step := faultAt_written kind lexeme chars rest written
      rw [lineTranscript_written _ _ kind lexeme chars rest written stops, Transcript.failure_cons]
      rcases ih (column + chars.length) with ⟨whole, clean⟩ | ⟨index, c, failure, fault, first⟩
      · left
        refine ⟨whole, ?_⟩
        intro index c fault
        obtain ⟨later, _, behind⟩ := (step index c).mp fault
        exact clean later c behind
      · right
        refine ⟨chars.length + index, c, ?_, (step _ c).mpr ⟨index, rfl, fault⟩, ?_⟩
        · rw [failure, Nat.add_assoc]
        · intro other c' faultThere
          obtain ⟨later, rfl, behind⟩ := (step other c').mp faultThere
          exact Nat.add_le_add_left (first later c' behind) _

theorem failure_of_pageTranscript (number : Nat) (lines : List (List Char)) :
    ((pageTranscript number lines).failure = none ∧ ∀ line column c, ¬ Fault lines line column c) ∨
      ∃ line column c, (pageTranscript number lines).failure =
        some (.unexpectedChar (.ofNat (number + line)) (.ofNat (column + 1)) c) ∧
          FirstFault lines line column c := by
  induction lines generalizing number with
  | nil =>
      left
      refine ⟨rfl, ?_⟩
      rintro line column c ⟨text, here, _⟩
      simp at here
  | cons text later ih =>
      rw [pageTranscript]
      rcases failure_of_lineTranscript (.ofNat number) 1 text with
        ⟨whole, clean⟩ | ⟨column, c, failure, fault, first⟩
      · have pass : ((lineTranscript (.ofNat number) 1 text).append
            (pageTranscript (number + 1) later)).failure =
            (pageTranscript (number + 1) later).failure := by
          simp [Transcript.append, whole]
        have below : ∀ line column c, Fault (text :: later) line column c ↔
            ∃ rest, line = rest + 1 ∧ Fault later rest column c := by
          intro line column c
          cases line with
          | zero => simp [Fault, clean]
          | succ line => simp [Fault]
        rw [pass]
        rcases ih (number + 1) with ⟨wholeLater, cleanLater⟩ | ⟨line, column, c, failure, fault, first⟩
        · left
          refine ⟨wholeLater, ?_⟩
          intro line column c fault
          obtain ⟨rest, _, there⟩ := (below line column c).mp fault
          exact cleanLater rest column c there
        · right
          refine ⟨line + 1, column, c, ?_, (below _ _ c).mpr ⟨line, rfl, fault⟩, ?_⟩
          · rw [failure, Nat.add_assoc, Nat.add_comm 1 line]
          · intro line' column' c' faultThere
            obtain ⟨rest, rfl, there⟩ := (below line' column' c').mp faultThere
            have := first rest column' c' there
            omega
      · right
        refine ⟨0, column, c, ?_, ⟨text, rfl, fault⟩, ?_⟩
        · simp [Transcript.append, failure, Nat.add_comm]
        · rintro line' column' c' ⟨text', here, faultThere⟩
          cases line' with
          | zero =>
              obtain rfl : text = text' := by simpa using here
              exact Or.inr ⟨rfl, first column' c' faultThere⟩
          | succ line' => exact Or.inl (by omega)

def InAlphabet (lines : List (List Char)) : Prop :=
  ∀ text ∈ lines, ∀ c ∈ text, Text.isLexical c = true

/-- Every maximal run of `&` and every one of `|` is of even length. -/
def EvenRuns (lines : List (List Char)) : Prop :=
  ∀ text ∈ lines, ∀ c, c = '&' ∨ c = '|' → ∀ start length, MaximalRun c text start length →
    length % 2 = 0

theorem no_fault_iff (lines : List (List Char)) :
    (∀ line column c, ¬ Fault lines line column c) ↔ InAlphabet lines ∧ EvenRuns lines := by
  constructor
  · intro clean
    constructor
    · intro text member c inside
      obtain ⟨line, here⟩ := List.mem_iff_getElem?.mp member
      obtain ⟨column, there⟩ := List.mem_iff_getElem?.mp inside
      by_contra foreign
      exact clean line column c ⟨text, here, there, Or.inl (by simpa using foreign)⟩
    · intro text member c double start length run
      obtain ⟨line, here⟩ := List.mem_iff_getElem?.mp member
      by_contra odd
      have positive := run.nonempty
      have last := run.inside (start + length - 1) (by omega) (by omega)
      refine clean line (start + length - 1) c ⟨text, here, last, Or.inr ⟨double, ?_⟩⟩
      exact ⟨start, length, run, by omega, by omega⟩
  · rintro ⟨alphabet, even⟩ line column c ⟨text, here, there, cause⟩
    have member : text ∈ lines := List.mem_of_getElem? here
    rcases cause with foreign | ⟨double, start, length, run, odd, _⟩
    · simp [alphabet text member c (List.mem_of_getElem? there)] at foreign
    · have := even text member c double start length run
      omega

theorem firstFault_unique (lines : List (List Char)) (line column line' column' : Nat) (c c' : Char)
    (fault : FirstFault lines line column c) (fault' : FirstFault lines line' column' c') :
    line = line' ∧ column = column' ∧ c = c' := by
  have forward := fault.2 _ _ _ fault'.1
  have backward := fault'.2 _ _ _ fault.1
  obtain ⟨rfl, rfl⟩ : line = line' ∧ column = column' := by omega
  obtain ⟨text, here, there, _⟩ := fault.1
  obtain ⟨text', here', there', _⟩ := fault'.1
  obtain rfl : text = text' := Option.some.inj (here.symm.trans here')
  exact ⟨rfl, rfl, Option.some.inj (there.symm.trans there')⟩

theorem tokenize_eq_ok_iff (source : String) (mode : LexMode) :
    (∃ tokens, tokenize source mode = .ok tokens) ↔
      InAlphabet (mode.terminator.lines source.toList) ∧
        EvenRuns (mode.terminator.lines source.toList) := by
  rw [tokenize_eq, ← no_fault_iff]
  simp only [Transcript.result_eq_ok_iff, failure_sourceTranscript]
  rcases failure_of_pageTranscript 1 (mode.terminator.lines source.toList) with
    ⟨whole, clean⟩ | ⟨line, column, c, failure, first⟩
  · rw [whole]
    simpa using clean
  · rw [failure]
    simp only [reduceCtorEq, false_and, exists_false, false_iff]
    intro clean
    exact clean line column c first.1

theorem tokenize_eq_error_iff (source : String) (mode : LexMode) (error : LexError) :
    tokenize source mode = .error error ↔
      ∃ line column c, FirstFault (mode.terminator.lines source.toList) line column c ∧
        error = .unexpectedChar (.ofNat (line + 1)) (.ofNat (column + 1)) c := by
  rw [tokenize_eq]
  simp only [Transcript.result_eq_error_iff, failure_sourceTranscript]
  rcases failure_of_pageTranscript 1 (mode.terminator.lines source.toList) with
    ⟨whole, clean⟩ | ⟨line, column, c, failure, first⟩
  · rw [whole]
    simp only [reduceCtorEq, false_iff]
    rintro ⟨line, column, c, first, _⟩
    exact clean line column c first.1
  · rw [failure]
    constructor
    · intro same
      exact ⟨line, column, c, first, by rw [← Option.some.inj same, Nat.add_comm 1 line]⟩
    · rintro ⟨line', column', c', first', rfl⟩
      obtain ⟨rfl, rfl, rfl⟩ := firstFault_unique _ _ _ _ _ _ _ first first'
      rw [Nat.add_comm 1 line]

theorem FirstFault.fits {lines : List (List Char)} {line column : Nat} {c : Char}
    (first : FirstFault lines line column c) (fits : FitsWords lines) :
    line + 1 < UInt32.size ∧ column + 1 < UInt32.size := by
  obtain ⟨text, here, there, _⟩ := first.1
  have inside := (List.getElem?_eq_some_iff.mp here).1
  have within := (List.getElem?_eq_some_iff.mp there).1
  exact ⟨Nat.lt_of_le_of_lt inside fits.1,
    Nat.lt_of_le_of_lt within (fits.2 text (List.mem_of_getElem? here))⟩

/-- The error is at this position, which is counted from zero. -/
def LexError.IsAt (line column : Nat) (c : Char) (error : LexError) : Prop :=
  ∃ number start, error = .unexpectedChar number start c ∧ number.toNat = line + 1 ∧
    start.toNat = column + 1

theorem tokenize_first_fault (source : String) (mode : LexMode) :
    let lines := mode.terminator.lines source.toList
    ((∃ tokens, tokenize source mode = .ok tokens) ↔ InAlphabet lines ∧ EvenRuns lines) ∧
      (∀ error, tokenize source mode = .error error ↔
        ∃ line column c, FirstFault lines line column c ∧
          error = .unexpectedChar (.ofNat (line + 1)) (.ofNat (column + 1)) c) ∧
      (FitsWords lines → ∀ line column c, FirstFault lines line column c ↔
        ∃ error, tokenize source mode = .error error ∧ error.IsAt line column c) := by
  intro lines
  refine ⟨tokenize_eq_ok_iff source mode, tokenize_eq_error_iff source mode, ?_⟩
  intro fits line column c
  constructor
  · intro first
    obtain ⟨below, short⟩ := first.fits fits
    refine ⟨_, (tokenize_eq_error_iff source mode _).mpr ⟨line, column, c, first, rfl⟩, _, _, rfl, ?_, ?_⟩
    · exact UInt32.toNat_ofNat_of_lt' below
    · exact UInt32.toNat_ofNat_of_lt' short
  · rintro ⟨error, failed, number, start, rfl, sameLine, sameColumn⟩
    obtain ⟨line', column', c', first, same⟩ := (tokenize_eq_error_iff source mode _).mp failed
    obtain ⟨below, short⟩ := first.fits fits
    obtain ⟨rfl, rfl, rfl⟩ := LexError.unexpectedChar.inj same
    rw [UInt32.toNat_ofNat_of_lt' below] at sameLine
    rw [UInt32.toNat_ofNat_of_lt' short] at sameColumn
    obtain ⟨rfl, rfl⟩ : line' = line ∧ column' = column := by omega
    exact first

-- Three signs in a row on the second line: the third is the one that is left over.
theorem tokenize_first_fault_odd_run :
    let lines := Terminator.lf.lines "x\n &&&y".toList
    FitsWords lines ∧ tokenize "x\n &&&y" ⟨.lf, true⟩ = .error (.unexpectedChar 2 4 '&') ∧
      FirstFault lines 1 3 '&' := by
  intro lines
  have fits : FitsWords lines := by
    unfold FitsWords
    decide +kernel
  have failed : tokenize "x\n &&&y" ⟨.lf, true⟩ = .error (.unexpectedChar 2 4 '&') := by
    rw [tokenize_eq, Transcript.result_eq_error_iff]
    decide +kernel
  have first := ((tokenize_first_fault "x\n &&&y" ⟨.lf, true⟩).2.2 fits 1 3 '&').mpr
    ⟨_, failed, 2, 4, rfl, rfl, rfl⟩
  exact ⟨fits, failed, first⟩

theorem lines_blanks (count : Nat) : Terminator.lf.lines (List.replicate count ' ' ++ ['(']) =
    [List.replicate count ' ' ++ ['(']] := by
  apply Terminator.lines_of_not_infix
  intro within
  have feed : '\n' ∈ List.replicate count ' ' ++ ['('] := within.subset (by simp [Terminator.text])
  simp at feed

theorem firstFault_blanks (count : Nat) :
    FirstFault [List.replicate count ' ' ++ ['(']] 0 count '(' := by
  have foreign : Text.isLexical '(' = false := by decide +kernel
  refine ⟨⟨_, rfl, by simp, Or.inl foreign⟩, ?_⟩
  rintro line column c ⟨text, here, there, cause⟩
  obtain ⟨rfl, rfl⟩ : line = 0 ∧ List.replicate count ' ' ++ ['('] = text := by
    simpa [List.getElem?_singleton] using here
  refine Or.inr ⟨rfl, Nat.le_of_not_lt ?_⟩
  intro early
  have blank : c = ' ' := by
    rw [List.getElem?_append_left (by simpa using early), List.getElem?_replicate, if_pos early] at there
    exact (Option.some.inj there).symm
  subst blank
  rcases cause with foreign | ⟨double | double, _⟩
  · exact absurd foreign (by decide +kernel)
  · cases double
  · cases double

-- A line too long for its columns to be told: the error seems to be at the start of the line.
theorem first_fault_column_wraps :
    let source := String.ofList (List.replicate UInt32.size ' ' ++ ['('])
    FirstFault (Terminator.lf.lines source.toList) 0 UInt32.size '(' ∧
      tokenize source ⟨.lf, false⟩ = .error (.unexpectedChar 1 1 '(') ∧
      ¬ (LexError.unexpectedChar 1 1 '(').IsAt 0 UInt32.size '(' := by
  intro source
  have first : FirstFault (Terminator.lf.lines source.toList) 0 UInt32.size '(' := by
    rw [String.toList_ofList, lines_blanks]
    exact firstFault_blanks UInt32.size
  refine ⟨first, (tokenize_eq_error_iff source ⟨.lf, false⟩ _).mpr ⟨0, UInt32.size, '(', first, ?_⟩, ?_⟩
  · have wrapped : UInt32.ofNat (UInt32.size + 1) = 1 := by decide +kernel
    rw [wrapped]
    rfl
  · rintro ⟨number, start, same, _, column⟩
    obtain ⟨rfl, rfl, _⟩ := LexError.unexpectedChar.inj same
    exact absurd column (by decide +kernel)

end QueryLexer
