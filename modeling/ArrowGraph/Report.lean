import ArrowGraph.Text.Layout

namespace ArrowGraph

structure Report where
  ok : Bool
  message : String := ""
  deriving DecidableEq, Repr

namespace Report

def success (message : String) : Report :=
  ⟨true, message⟩

def failure (message : String) : Report :=
  ⟨false, message⟩

/-- The messages of reports that say something, each once, in the order of their first
appearance. -/
def messages (reports : List Report) : List String :=
  ((reports.map message).filter (· ≠ "")).eraseDups

def merge (reports : List Report) : Report :=
  ⟨reports.all ok, "\n".intercalate (messages reports)⟩

def mark (report : Report) : String :=
  if report.ok then "✔" else "✘"

/-- A report as it is shown: the mark before each line of the message, or alone. -/
def display (report : Report) : String :=
  let lines := Text.lines report.message
  "\n".intercalate
    ((if lines.isEmpty then [""] else lines).map fun line =>
      Text.stripEnd ("  " ++ report.mark ++ " " ++ line))

theorem merge_nil : merge [] = success "" := rfl

theorem merge_ok {reports : List Report} :
    (merge reports).ok = true ↔ ∀ r ∈ reports, r.ok = true := by
  simp [merge]

end Report
end ArrowGraph
