import QueryLexer.Proofs.Agreement

/-!
A check goes from file to file, and what it finds in one has no influence on the others. Each file is
counted once, also if it is given twice; it fails if it cannot be read as text or if its text cannot be
lexed, and then it adds one line to the report. So the report of a list of files is put together from
the reports of its parts, down to the single files: its text in the order of the list, its counts in any
order. The run fails with these counts if a file does, and not otherwise.
-/

namespace QueryLexer

namespace FileSystem

/-- The file cannot be read as text, or its text cannot be lexed. -/
def Fails (files : FileSystem) (mode : LexMode) (path : String) : Prop :=
  (∀ text, ¬ files.HasText path text) ∨
    ∃ text error, files.HasText path text ∧ tokenize text mode = .error error

theorem FailsWith.fails {files : FileSystem} {mode : LexMode} {path : String} {failure : Failure}
    (why : files.FailsWith mode path failure) : files.Fails mode path := by
  cases why with
  | faulty text hasText error failed => exact Or.inr ⟨text, error, hasText, failed⟩
  | unread refuses =>
      refine Or.inl fun text hasText => ?_
      have read := hasText.readSource_eq
      rw [refuses.readSource_eq] at read
      cases read

theorem fails_iff_tokens (files : FileSystem) (mode : LexMode) (path : String) :
    files.Fails mode path ↔ ∃ failure, files.tokens mode path = .error failure := by
  constructor
  · intro fails
    cases found : files.tokens mode path with
    | error failure => exact ⟨failure, rfl⟩
    | ok tokens =>
        obtain ⟨text, hasText, lexed⟩ := (tokens_eq_ok_iff tokens).mp found
        rcases fails with unread | ⟨other, error, otherText, failed⟩
        · exact absurd hasText (unread text)
        · have same := (FailsWith.faulty other otherText error failed).tokens_eq
          rw [found] at same
          cases same
  · rintro ⟨failure, failed⟩
    exact ((tokens_eq_error_iff failure).mp failed).fails

instance (files : FileSystem) (mode : LexMode) : DecidablePred (files.Fails mode) := fun path =>
  match found : files.tokens mode path with
  | .ok _ => .isFalse fun fails => by
      obtain ⟨failure, failed⟩ := (files.fails_iff_tokens mode path).mp fails
      rw [found] at failed
      cases failed
  | .error failure => .isTrue ((files.fails_iff_tokens mode path).mpr ⟨failure, found⟩)

end FileSystem

namespace CheckReport

def append (first second : CheckReport) : CheckReport :=
  ⟨first.checked + second.checked, first.failed + second.failed, first.text ++ second.text⟩

theorem append_empty (report : CheckReport) : report.append .empty = report := by
  simp [append, empty]

theorem append_assoc (first second third : CheckReport) :
    (first.append second).append third = first.append (second.append third) := by
  simp [append, Nat.add_assoc, String.append_assoc]

-- One pass through the loop: whichever way it goes on, the same is added to every report.
theorem withFile_eq_append (files : FileSystem) (mode : LexMode) (report : CheckReport) (path : String) :
    report.withFile files mode path = report.append (empty.withFile files mode path) := by
  rw [withFile_eq, withFile_eq]
  cases files.tokens mode path <;> simp [append, empty]

theorem failed_withFile (files : FileSystem) (mode : LexMode) (path : String) :
    (empty.withFile files mode path).failed = if files.Fails mode path then 1 else 0 := by
  rw [withFile_eq]
  cases found : files.tokens mode path with
  | ok tokens => simp [files.fails_iff_tokens mode path, found, empty]
  | error failure => simp [files.fails_iff_tokens mode path, found, empty]

theorem failure?_eq_some_iff (report : CheckReport) (failure : Failure) :
    report.failure? = some failure ↔
      0 < report.failed ∧ failure = .filesFailed report.failed report.checked := by
  simp only [failure?, isClean, beq_iff_eq, Nat.pos_iff_ne_zero]
  by_cases clean : report.failed = 0
  · simp [clean]
  · simp [clean, eq_comm]

end CheckReport

section Reports

variable (files : FileSystem) (mode : LexMode)

-- The induction is on the files to come, with what has been reported so far generalized.
theorem foldl_withFile (report : CheckReport) (paths : List String) :
    paths.foldl (CheckReport.withFile files mode) report = report.append (checkFiles files mode paths) := by
  rw [checkFiles]
  induction paths generalizing report with
  | nil => exact report.append_empty.symm
  | cons path later ih =>
      rw [List.foldl_cons, List.foldl_cons, ih, CheckReport.withFile_eq_append, CheckReport.append_assoc,
        ← ih]

theorem checkFiles_append (first second : List String) :
    checkFiles files mode (first ++ second) =
      (checkFiles files mode first).append (checkFiles files mode second) := by
  rw [checkFiles, List.foldl_append, foldl_withFile]
  rfl

theorem checkFiles_cons (path : String) (later : List String) :
    checkFiles files mode (path :: later) =
      (checkFiles files mode [path]).append (checkFiles files mode later) :=
  checkFiles_append files mode [path] later

theorem checked_checkFiles (paths : List String) : (checkFiles files mode paths).checked = paths.length := by
  induction paths with
  | nil => rfl
  | cons path later ih =>
      have single : (checkFiles files mode [path]).checked = 1 := by
        rw [checkFiles, List.foldl_cons, List.foldl_nil, withFile_eq]
        cases files.tokens mode path <;> rfl
      rw [checkFiles_cons, CheckReport.append, single, ih, List.length_cons, Nat.add_comm]

theorem failed_checkFiles (paths : List String) :
    (checkFiles files mode paths).failed = paths.countP (files.Fails mode ·) := by
  induction paths with
  | nil => rfl
  | cons path later ih =>
      have single := CheckReport.failed_withFile files mode path
      rw [checkFiles_cons, List.countP_cons, Nat.add_comm, ← ih]
      simp only [decide_eq_true_eq]
      rw [← single]
      rfl

theorem text_checkFiles (paths : List String) : (checkFiles files mode paths).text =
    String.join (paths.map fun path => (checkFiles files mode [path]).text) := by
  induction paths with
  | nil => rfl
  | cons path later ih =>
      rw [checkFiles_cons, List.map_cons, String.join_cons, ← ih]
      rfl

end Reports

/-- The run prints the report, and fails with its counts if a file fails. -/
structure Outcome.Shows (outcome : Outcome) (report : CheckReport) : Prop where
  output : outcome.output = report.text
  exitCode : outcome.exitCode ≠ 0 ↔ 0 < report.failed
  errors : outcome.errors = if 0 < report.failed then "error: " ++ ("Validation error: " ++
    toString report.failed ++ " of " ++ toString report.checked ++ " file(s) failed lexical check") ++ "\n"
    else ""

theorem Session.perform_check (files : FileSystem) (settings : Settings) (paths : List String)
    (choice : Option TerminatorChoice) : (perform files settings (.check paths choice)).Shows
      (checkFiles files (mode settings (.check paths choice)) paths) := by
  simp only [perform]
  generalize checkFiles files (mode settings (.check paths choice)) paths = report
  cases found : report.failure? with
  | none =>
      have clean : ¬ 0 < report.failed := by
        intro some
        rw [(report.failure?_eq_some_iff _).mpr ⟨some, rfl⟩] at found
        cases found
      exact ⟨rfl, iff_of_false (fun failed => failed rfl) clean, (if_neg clean).symm⟩
  | some failure =>
      obtain ⟨some, rfl⟩ := (report.failure?_eq_some_iff failure).mp found
      exact ⟨rfl, iff_of_true Nat.one_ne_zero some, (if_pos some).symm⟩

theorem check_adds_up_over_files (files : FileSystem) (mode : LexMode) :
    (∀ paths, let report := checkFiles files mode paths
      report.checked = paths.length ∧ report.failed = paths.countP (files.Fails mode ·) ∧
        report.text = String.join (paths.map fun path => (checkFiles files mode [path]).text) ∧
        ∀ failure, report.failure? = some failure ↔
          0 < report.failed ∧ failure = .filesFailed report.failed report.checked) ∧
    (∀ first second, checkFiles files mode (first ++ second) =
      (checkFiles files mode first).append (checkFiles files mode second)) ∧
    (∀ paths reordered : List String, paths.Perm reordered →
      (checkFiles files mode paths).checked = (checkFiles files mode reordered).checked ∧
        (checkFiles files mode paths).failed = (checkFiles files mode reordered).failed) ∧
    ∀ settings paths choice, (Session.perform files settings (.check paths choice)).Shows
      (checkFiles files (Session.mode settings (.check paths choice)) paths) := by
  refine ⟨?_, checkFiles_append files mode, ?_, Session.perform_check files⟩
  · intro paths report
    exact ⟨checked_checkFiles files mode paths, failed_checkFiles files mode paths,
      text_checkFiles files mode paths, report.failure?_eq_some_iff⟩
  · intro paths reordered perm
    rw [checked_checkFiles, checked_checkFiles, failed_checkFiles, failed_checkFiles]
    exact ⟨perm.length_eq, perm.countP_eq _⟩

-- A file that is given twice, one that is not there, one that is not text, one that may not be opened, and
-- one without an error.
theorem check_adds_up_over_files_repeated :
    let files : FileTree := ⟨["home"], [([], .directory), (["home"], .directory),
      (["home", "a"], .file "x\n &".toUTF8), (["b"], .file ⟨#[0xff]⟩),
      (["home", "c"], .locked (.other "Permission denied (os error 13)")), (["home", "d"], .file "".toUTF8)]⟩
    let paths := ["a", "d", "gone", "c", "a", "/b"]
    ["/b", "a", "gone", "d", "a", "c"].Perm paths ∧
      checkFiles files.system ⟨.lf, true⟩ paths = ⟨6, 5, "a:2:2: unexpected character '&'\n" ++
        "File operation failed: gone: not a readable file\n" ++
        "File operation failed: c: Permission denied (os error 13)\n" ++
        "a:2:2: unexpected character '&'\n" ++
        "File operation failed: /b: stream did not contain valid UTF-8\n"⟩ ∧
      (checkFiles files.system ⟨.lf, true⟩ ["/b", "a", "gone", "d", "a", "c"]).failed = 5 := by
  intro files paths
  have perm : ["/b", "a", "gone", "d", "a", "c"].Perm paths := by decide
  have report : checkFiles files.system ⟨.lf, true⟩ paths =
      ⟨6, 5, "a:2:2: unexpected character '&'\n" ++
        "File operation failed: gone: not a readable file\n" ++
        "File operation failed: c: Permission denied (os error 13)\n" ++
        "a:2:2: unexpected character '&'\n" ++
        "File operation failed: /b: stream did not contain valid UTF-8\n"⟩ := by decide +kernel
  have counts := (check_adds_up_over_files files.system ⟨.lf, true⟩).2.2.1 _ _ perm
  exact ⟨perm, report, counts.2.trans (congrArg CheckReport.failed report)⟩

end QueryLexer
