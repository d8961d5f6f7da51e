/-!
Sets of code points written as ascending runs: a flat list in which each pair
is the first code point of a run and the first one past it.
-/

namespace RecordSql.Text

/-- Looks a code point up in ascending runs; an odd last entry is ignored. -/
def inRuns : List Nat → Nat → Bool
  | first :: past :: rest, code =>
      if code < first then false
      else if code < past then true
      else inRuns rest code
  | _, _ => false

end RecordSql.Text
