import QueryLexer.Proofs.Acceptance
import QueryLexer.Tool.Session

/-!
A listing and a check of the same file agree. A check leaves blanks out and a listing may keep them, but a
source goes wrong at the same character either way, so a file can be listed exactly if its check is clean;
otherwise the check reports what the listing fails with, and the listing writes nothing. With the same
settings and the same terminator, both runs end with the same exit code.
-/

namespace QueryLexer

theorem tokenize_error_either (source : String) (terminator : Terminator) (skips skips' : Bool)
    (error : LexError) : tokenize source ⟨terminator, skips⟩ = .error error →
      tokenize source ⟨terminator, skips'⟩ = .error error := by
  simp only [tokenize_eq, Transcript.result_eq_error_iff, failure_sourceTranscript]
  exact id

namespace Failure

def isFileOperation : Failure → Bool
  | unreadable _ | unread _ _ => true
  | _ => false

/-- The line that a check reports for a file it fails on. -/
def reportLine : Failure → String
  | lexical path error => error.diagnostic path
  | failure => failure.message

theorem reportLine_of_isFileOperation (failure : Failure) (file : failure.isFileOperation = true) :
    failure.reportLine = failure.message := by
  cases failure with
  | lexical path error => cases file
  | _ => rfl

end Failure

namespace FileSystem

/-- There is a file at the path, and what it holds is this text in UTF-8. -/
def HasText (files : FileSystem) (path text : String) : Prop :=
  files.isFile path = true ∧ files.read path = .ok text.toUTF8

/-- The ways in which a path gives no text. -/
inductive Refuses (files : FileSystem) (path : String) : Failure → Prop
  | absent (noFile : files.isFile path = false) : Refuses files path (.unreadable path)
  | closed (file : files.isFile path = true) (error : FileError) (read : files.read path = .error error) :
      Refuses files path (.unread path error)
  | garbled (file : files.isFile path = true) (content : ByteArray) (read : files.read path = .ok content)
      (noText : ∀ text : String, content ≠ text.toUTF8) : Refuses files path (.unread path .notText)

/-- The ways in which it gives no tokens. -/
inductive FailsWith (files : FileSystem) (mode : LexMode) (path : String) : Failure → Prop
  | unread {failure : Failure} (refuses : files.Refuses path failure) : FailsWith files mode path failure
  | faulty (text : String) (hasText : files.HasText path text) (error : LexError)
      (failed : tokenize text mode = .error error) : FailsWith files mode path (.lexical path error)

theorem fromUTF8?_eq_some_iff (content : ByteArray) (text : String) :
    String.fromUTF8? content = some text ↔ content = text.toUTF8 := by
  unfold String.fromUTF8?
  split
  case isTrue valid =>
    rw [Option.some.injEq, ← String.toByteArray_inj]
    rfl
  case isFalse invalid =>
    constructor
    · intro read
      cases read
    · rintro rfl
      exact absurd text.isValidUTF8 invalid

theorem fromUTF8?_eq_none_iff (content : ByteArray) :
    String.fromUTF8? content = none ↔ ∀ text : String, content ≠ text.toUTF8 := by
  rw [Option.eq_none_iff_forall_ne_some]
  exact forall_congr' fun text => not_congr (fromUTF8?_eq_some_iff content text)

variable {files : FileSystem} {mode : LexMode} {path : String}

theorem HasText.readSource_eq {text : String} (hasText : files.HasText path text) :
    files.readSource path = .ok text := by
  have decoded := (fromUTF8?_eq_some_iff text.toUTF8 text).mpr rfl
  simp only [readSource, readText, hasText.1, hasText.2, decoded, if_true]

theorem Refuses.readSource_eq {failure : Failure} (refuses : files.Refuses path failure) :
    files.readSource path = .error failure := by
  cases refuses with
  | absent noFile => simp [readSource, noFile]
  | closed file error read => simp [readSource, readText, file, read]
  | garbled file content read noText =>
      have undecoded := (fromUTF8?_eq_none_iff content).mpr noText
      simp [readSource, readText, file, read, undecoded]

theorem hasText_or_refuses (files : FileSystem) (path : String) :
    (∃ text, files.HasText path text) ∨ ∃ failure, files.Refuses path failure := by
  cases file : files.isFile path with
  | false => exact Or.inr ⟨_, .absent file⟩
  | true =>
      cases read : files.read path with
      | error error => exact Or.inr ⟨_, .closed file error read⟩
      | ok content =>
          cases decoded : String.fromUTF8? content with
          | none => exact Or.inr ⟨_, .garbled file content read ((fromUTF8?_eq_none_iff content).mp decoded)⟩
          | some text =>
              obtain rfl := (fromUTF8?_eq_some_iff content text).mp decoded
              exact Or.inl ⟨text, file, read⟩

theorem HasText.tokens_eq {text : String} (hasText : files.HasText path text) {tokens : List Token}
    (lexed : tokenize text mode = .ok tokens) : files.tokens mode path = .ok tokens := by
  simp only [FileSystem.tokens, hasText.readSource_eq, lexed]

theorem FailsWith.tokens_eq {failure : Failure} (fails : files.FailsWith mode path failure) :
    files.tokens mode path = .error failure := by
  cases fails with
  | unread refuses => simp only [FileSystem.tokens, refuses.readSource_eq]
  | faulty text hasText error failed => simp only [FileSystem.tokens, hasText.readSource_eq, failed]

theorem lexed_or_failsWith (files : FileSystem) (mode : LexMode) (path : String) :
    (∃ text tokens, files.HasText path text ∧ tokenize text mode = .ok tokens) ∨
      ∃ failure, files.FailsWith mode path failure := by
  rcases files.hasText_or_refuses path with ⟨text, hasText⟩ | ⟨failure, refuses⟩
  · cases lexed : tokenize text mode with
    | ok tokens => exact Or.inl ⟨text, tokens, hasText, lexed⟩
    | error error => exact Or.inr ⟨_, .faulty text hasText error lexed⟩
  · exact Or.inr ⟨failure, .unread refuses⟩

theorem tokens_eq_ok_iff (tokens : List Token) :
    files.tokens mode path = .ok tokens ↔
      ∃ text, files.HasText path text ∧ tokenize text mode = .ok tokens := by
  constructor
  · intro found
    rcases files.lexed_or_failsWith mode path with ⟨text, others, hasText, lexed⟩ | ⟨failure, fails⟩
    · rw [hasText.tokens_eq lexed] at found
      exact ⟨text, hasText, Except.ok.inj found ▸ lexed⟩
    · rw [fails.tokens_eq] at found
      cases found
  · rintro ⟨text, hasText, lexed⟩
    exact hasText.tokens_eq lexed

theorem tokens_eq_error_iff (failure : Failure) :
    files.tokens mode path = .error failure ↔ files.FailsWith mode path failure := by
  constructor
  · intro found
    rcases files.lexed_or_failsWith mode path with ⟨text, tokens, hasText, lexed⟩ | ⟨cause, fails⟩
    · rw [hasText.tokens_eq lexed] at found
      cases found
    · rw [fails.tokens_eq] at found
      exact Except.error.inj found ▸ fails
  · exact FailsWith.tokens_eq

theorem FailsWith.either {terminator : Terminator} {skips : Bool} {failure : Failure}
    (fails : files.FailsWith ⟨terminator, skips⟩ path failure) (skips' : Bool) :
    files.FailsWith ⟨terminator, skips'⟩ path failure := by
  cases fails with
  | unread refuses => exact .unread refuses
  | faulty text hasText error failed =>
      exact .faulty text hasText error (tokenize_error_either text terminator skips skips' error failed)

theorem Refuses.isFileOperation {failure : Failure} (refuses : files.Refuses path failure) :
    failure.isFileOperation = true := by
  cases refuses <;> rfl

theorem FailsWith.lexical_or_file {failure : Failure} (fails : files.FailsWith mode path failure) :
    (∃ line column ch, failure = .lexical path (.unexpectedChar line column ch)) ∨
      failure.isFileOperation = true := by
  cases fails with
  | unread refuses => exact Or.inr refuses.isFileOperation
  | faulty text hasText error failed =>
      obtain ⟨line, column, ch, _, rfl⟩ := (tokenize_eq_error_iff text mode error).mp failed
      exact Or.inl ⟨_, _, ch, rfl⟩

end FileSystem

theorem withFile_eq (files : FileSystem) (mode : LexMode) (report : CheckReport) (path : String) :
    report.withFile files mode path =
      match files.tokens mode path with
      | .ok _ => { report with checked := report.checked + 1 }
      | .error failure =>
          ⟨report.checked + 1, report.failed + 1, report.text ++ (failure.reportLine ++ "\n")⟩ := by
  rw [CheckReport.withFile, FileSystem.tokens]
  rcases files.hasText_or_refuses path with ⟨text, hasText⟩ | ⟨failure, refuses⟩
  · rw [hasText.readSource_eq]
    cases lexed : tokenize text mode with
    | ok tokens => simp only [lexed]
    | error error => simp only [lexed, CheckReport.withFailure, Failure.reportLine]
  · rw [refuses.readSource_eq]
    simp only [CheckReport.withFailure, failure.reportLine_of_isFileOperation refuses.isFileOperation]

section OneFile

variable (files : FileSystem) (path : String) (terminator : Terminator) (format : ListingFormat)
  (skips skips' : Bool) (out : String)

theorem checkFiles_of_failed {mode : LexMode} {failure : Failure}
    (fails : files.FailsWith mode path failure) :
    checkFiles files mode [path] = ⟨1, 1, failure.reportLine ++ "\n"⟩ := by
  rw [checkFiles, List.foldl_cons, List.foldl_nil, withFile_eq, fails.tokens_eq]
  simp [CheckReport.empty]

theorem checkFiles_of_tokens {mode : LexMode} {tokens : List Token}
    (found : files.tokens mode path = .ok tokens) : checkFiles files mode [path] = ⟨1, 0, ""⟩ := by
  rw [checkFiles, List.foldl_cons, List.foldl_nil, withFile_eq, found]
  rfl

theorem listed_with_check :
    (∃ tokens, listTokens files ⟨terminator, skips⟩ format path out =
        (.ok tokens.length, format.write tokens out) ∧
      checkFiles files ⟨terminator, skips'⟩ [path] = ⟨1, 0, ""⟩) ∨
    ∃ failure, files.FailsWith ⟨terminator, skips⟩ path failure ∧
      listTokens files ⟨terminator, skips⟩ format path out = (.error failure, out) ∧
      checkFiles files ⟨terminator, skips'⟩ [path] = ⟨1, 1, failure.reportLine ++ "\n"⟩ := by
  cases found : files.tokens ⟨terminator, skips⟩ path with
  | error failure =>
      have fails := (FileSystem.tokens_eq_error_iff failure).mp found
      exact Or.inr ⟨failure, fails, by rw [listTokens, found],
        checkFiles_of_failed files path (fails.either skips')⟩
  | ok tokens =>
      refine Or.inl ⟨tokens, by rw [listTokens, found], ?_⟩
      cases other : files.tokens ⟨terminator, skips'⟩ path with
      | ok others => exact checkFiles_of_tokens files path other
      | error failure =>
          have fails := (FileSystem.tokens_eq_error_iff failure).mp other
          rw [(fails.either skips).tokens_eq] at found
          cases found

end OneFile

namespace Session

theorem perform_alike (files : FileSystem) (settings : Settings) (path : String) (skips : Bool)
    (format : Option ListingFormat) (choice : Option TerminatorChoice) :
    let listing := perform files settings (.tokens path skips format choice)
    let checking := perform files settings (.check [path] choice)
    listing.exitCode = checking.exitCode ∧ (listing.exitCode ≠ 0 → listing.output = "") := by
  simp only [perform, mode]
  rcases listed_with_check files path (choice.getD settings.terminator).resolve
      (format.getD settings.format) (skips || settings.skipTrivia) true "" with
    ⟨tokens, listed, clean⟩ | ⟨failure, _, unlisted, failed⟩
  · rw [listed, clean]
    exact ⟨rfl, fun wrong => absurd rfl wrong⟩
  · rw [unlisted, failed]
    exact ⟨rfl, fun _ => rfl⟩

theorem conclude_alike (files : FileSystem) (loaded : Except Failure Settings) (path : String)
    (skips : Bool) (format : Option ListingFormat) (choice : Option TerminatorChoice)
    (verbose verbose' noColor noColor' : Bool) (config config' : Option String) :
    (conclude files loaded ⟨verbose, noColor, config, .tokens path skips format choice⟩).exitCode =
      (conclude files loaded ⟨verbose', noColor', config', .check [path] choice⟩).exitCode := by
  cases loaded with
  | error failure => rfl
  | ok settings => exact (perform_alike files settings path skips format choice).1

end Session

theorem listing_agrees_with_check (files : FileSystem) (path : String) (terminator : Terminator)
    (format : ListingFormat) (skips skips' : Bool) (out : String) :
    let listed := listTokens files ⟨terminator, skips⟩ format path out
    let report := checkFiles files ⟨terminator, skips'⟩ [path]
    ((∃ count, listed.1 = .ok count) ↔ report.failed = 0) ∧
      (∀ failure, listed.1 = .error failure → listed.2 = out ∧
        ((∃ line column ch, failure = .lexical path (.unexpectedChar line column ch) ∧
          report.text = s!"{path}:{line}:{column}: unexpected character '{ch}'" ++ "\n") ∨
        failure.isFileOperation = true ∧ report.text = failure.message ++ "\n")) ∧
      (∀ settings skips format choice,
        let listing := Session.perform files settings (.tokens path skips format choice)
        let checking := Session.perform files settings (.check [path] choice)
        listing.exitCode = checking.exitCode ∧ (listing.exitCode ≠ 0 → listing.output = "")) ∧
      ∀ loaded skips format choice verbose verbose' noColor noColor' config config',
        (Session.conclude files loaded
            ⟨verbose, noColor, config, .tokens path skips format choice⟩).exitCode =
          (Session.conclude files loaded
            ⟨verbose', noColor', config', .check [path] choice⟩).exitCode := by
  intro listed report
  have agreement := listed_with_check files path terminator format skips skips' out
  refine ⟨?_, ?_, fun settings => Session.perform_alike files settings path,
    fun loaded => Session.conclude_alike files loaded path⟩
  · rcases agreement with ⟨tokens, counted, clean⟩ | ⟨failure, _, unlisted, failed⟩
    · simp [listed, report, counted, clean]
    · simp [listed, report, unlisted, failed]
  · intro failure wrong
    rcases agreement with ⟨tokens, counted, clean⟩ | ⟨cause, fails, unlisted, failed⟩
    · simp [listed, counted] at wrong
    · obtain rfl : cause = failure := by simpa [listed, unlisted] using wrong
      refine ⟨by simp only [listed, unlisted], ?_⟩
      rcases fails.lexical_or_file with ⟨line, column, ch, rfl⟩ | file
      · refine Or.inl ⟨line, column, ch, rfl, ?_⟩
        simp only [report, failed]
        rfl
      · refine Or.inr ⟨file, ?_⟩
        simp only [report, failed, cause.reportLine_of_isFileOperation file]

end QueryLexer
