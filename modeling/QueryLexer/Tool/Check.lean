import QueryLexer.Tool.Listing

namespace QueryLexer

structure CheckReport where
  checked : Nat
  failed : Nat
  text : String
  deriving DecidableEq, Repr

namespace CheckReport

def empty : CheckReport := ⟨0, 0, ""⟩

def isClean (report : CheckReport) : Bool := report.failed == 0

def failure? (report : CheckReport) : Option Failure :=
  if report.isClean then none else some (.filesFailed report.failed report.checked)

def withFailure (report : CheckReport) (line : String) : CheckReport :=
  { report with failed := report.failed + 1, text := report.text ++ (line ++ "\n") }

/-- The report after one more file. There are three ways to go on: the file cannot be read, its text has
an error, or nothing is wrong with it. -/
def withFile (files : FileSystem) (mode : LexMode) (report : CheckReport) (path : String) :
    CheckReport :=
  let counted := { report with checked := report.checked + 1 }
  match files.readSource path with
  | .error failure => counted.withFailure failure.message
  | .ok source =>
      match tokenize source mode with
      | .ok _ => counted
      | .error error => counted.withFailure (error.diagnostic path)

end CheckReport

def checkFiles (files : FileSystem) (mode : LexMode) (paths : List String) : CheckReport :=
  paths.foldl (CheckReport.withFile files mode) .empty

end QueryLexer
