/-!
# Searches that are given up

A search with backtracking has two bounds: how often it may go back, and how many ways back it may
keep at a time. Running into one of them is no verdict on the text.
-/

namespace GrammarScan

/-- Why a search was given up. -/
inductive Abort where
  | backtrackLimit
  | branchLimit
  deriving DecidableEq, Inhabited, Repr

/-- The wording of a search that was given up. -/
def Abort.message : Abort → String
  | .backtrackLimit => "Error executing regex: Max limit for backtracking count exceeded"
  | .branchLimit => "Error executing regex: Max stack size exceeded for backtracking"

end GrammarScan
