import GrammarScan.Search.Scanner

/-!
# Tokens of a line

A line is cut into tokens by scanning again from where the last match ended. A match that does not
lead past the position of its search is followed by a step over one character, so that every round
makes progress; at the end of the line the step leads out of it.
-/

namespace GrammarScan

/-- The number of bytes of the character at a byte offset; one at the end of the text. -/
def stepAt (text : List Char) (position : Nat) : Nat :=
  match splitAtByte? text position with
  | some (_, c :: _) => c.utf8Size
  | _ => 1

/-- Where scanning goes on after a match that was found from a position. -/
def nextPosition (text : List Char) (position stop : Nat) : Nat :=
  if position < stop then stop else position + stepAt text position

/-- Every step leads forward. -/
theorem lt_nextPosition (text : List Char) (position stop : Nat) :
    position < nextPosition text position stop := by
  have hstep : 0 < stepAt text position := by
    unfold stepAt
    split
    · exact Char.utf8Size_pos _
    · exact Nat.one_pos
  unfold nextPosition
  split <;> omega

namespace Scanner

variable {E : RegexEngine}

/-- At most `count` tokens of a buffer from a position on. -/
def tokensFrom (buffer : Buffer) :
    (count position : Nat) → Scanner E → Reply (Scanner E) (Except Fault (List ScanMatch))
  | 0, _, s => { result := .ok [], state := s }
  | count + 1, position, s =>
    if buffer.byteLength < position then { result := .ok [], state := s }
    else
      let reply := s.findNext buffer position
      match reply.result with
      | .error fault => reply.map fun _ => .error fault
      | .ok none => reply.map fun _ => .ok []
      | .ok (some token) =>
        let next := nextPosition buffer.text position token.captures.stop
        ((tokensFrom buffer count next reply.state).map (·.map (token :: ·))).after reply

/-- At most `count` tokens of a buffer. -/
def tokens (s : Scanner E) (buffer : Buffer) (count : Nat) :
    Reply (Scanner E) (Except Fault (List ScanMatch)) :=
  tokensFrom buffer count 0 s

end Scanner

end GrammarScan
