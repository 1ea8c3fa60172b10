import JsonExtract.Job
import JsonExtract.Json.Printer

/-!
# Commands

The program is given one command.  A command leads to a report: a status, a text for the
standard output, and notes for the error output.  A report of failure has nothing on the
standard output.
-/

namespace JsonExtract

inductive Command where
  /-- Picks from a document of the web. -/
  | fetch (url : String) (selectors headers : List String) (coerces : Bool) (timeout : Nat)
  /-- Does the job that a file describes. -/
  | run (file : String)
  /-- Picks from a document in a file or on the standard input. -/
  | pick (file : Option String) (selectors : List String) (coerces : Bool)
  /-- Lists the steps of a path. -/
  | tokenize (path : String)
deriving DecidableEq, Repr

structure Invocation where
  isCompact : Bool
  command : Command
deriving DecidableEq, Repr

structure Report where
  status : Nat
  output : String
  notes : List String
deriving DecidableEq, Repr

namespace Report

def success (output : String) (notes : List String) : Report := ⟨0, output, notes⟩

def ofProblem (problem : Problem) : Report :=
  ⟨1, "", ["Error: " ++ problem.message, "  Fix: " ++ problem.advice]⟩

end Report

structure View where
  /-- Whether no selector was given, so that the document is shown as a whole. -/
  isWhole : Bool
  isCompact : Bool
deriving DecidableEq, Repr

namespace View

def text (view : View) (document : Json) : String :=
  if view.isCompact then document.compact else document.indented

def document (view : View) (picked : Picked) : Json :=
  if view.isWhole then (picked.value? "").getD .null else picked.toJson

def unresolvedNote (key : String) : String :=
  "  → '" ++ key ++ "' resolved to nothing"

/-- The notes on picked values.  Nothing is missing from a document that is shown as a whole,
be it null. -/
def notes (view : View) (picked : Picked) : List String :=
  if view.isWhole then [] else picked.unresolved.map unresolvedNote

def report (view : View) (picked : Picked) : Report :=
  .success (view.text (view.document picked) ++ "\n") (view.notes picked)

/-- The report on what was picked, or on the problem that came in between. -/
def conclude (view : View) : Except Problem Picked → Report
  | .ok picked => view.report picked
  | .error problem => .ofProblem problem

end View

end JsonExtract
