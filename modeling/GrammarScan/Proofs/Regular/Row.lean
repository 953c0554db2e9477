import GrammarScan.Proofs.Labels
import GrammarScan.Proofs.Regular.Leftmost

/-!
# Rows

A row is characters and conditions one after another, such as a word, or a word at the end of the
text. Its program leaves no choice: from a start there is one way through it, which comes to its end
just if every character stands where it should and every condition holds there. So a search for a
row finds the first start from which the row goes through.
-/

namespace GrammarScan

/-- A part of a row: a character, or a condition on the position. -/
inductive Link where
  | char (c : Char)
  | place (condition : Place)

namespace Link

/-- The instruction of a part. -/
def instr : Link → Regular.Instr
  | .char c => .char c
  | .place condition => .place condition

/-- The expression of a part. -/
def regular : Link → Regular
  | .char c => .literal [c]
  | .place condition => .place condition

end Link

/-- Where a row ends that begins at a position, if it goes through. -/
def rowStop? (text : Array Char) : List Link → (position : Nat) → Option Nat
  | [], position => some position
  | .char c :: row, position =>
    if text[position]? = some c then rowStop? text row (position + 1) else none
  | .place condition :: row, position =>
    if condition.holds text position then rowStop? text row position else none

section Stops

variable {text : Array Char}

/-- A row goes through if its front does and the rest does from there. -/
theorem rowStop?_append (front row : List Link) (position : Nat) :
    rowStop? text (front ++ row) position =
      (rowStop? text front position).bind (rowStop? text row) := by
  induction front generalizing position with
  | nil => rfl
  | cons link front ih =>
    cases link with
    | char c =>
      simp only [List.cons_append, rowStop?, ih]
      split <;> rfl
    | place condition =>
      simp only [List.cons_append, rowStop?, ih]
      split <;> rfl

end Stops

namespace Regular

section Runs

variable {code : Array Instr} {text : Array Char} {position : Nat} {t : Thread} {row : List Link}

/-- An instruction stands inside of the program. -/
theorem lt_size_of_getElem?_eq {address : Nat} {instr : Instr} (h : code[address]? = some instr) :
    address < code.size := (Array.getElem?_eq_some_iff.mp h).1

/-- The way to the next instruction. -/
def Thread.next (t : Thread) : Thread := { t with address := t.address + 1 }

/-- A way that waits settles where it is. -/
theorem settles_of_waits {instr : Instr} (hinstr : code[t.address]? = some instr)
    (hwaits : instr.waits = true) {seen : Set Nat} (hfresh : t.address ∉ seen) :
    Settles code text position [t] seen [t] (insert t.address seen) := by
  have hstays : t.stays code = [t] := by simp [Thread.stays, hinstr, hwaits]
  exact .single (Thread.branches_of_stays hstays) hstays hfresh (lt_size_of_getElem?_eq hinstr)
    (.done _)

/-- A way that waits for a character settles where it is. -/
theorem settle_of_waits {instr : Instr} (hinstr : code[t.address]? = some instr)
    (hwaits : instr.waits = true) : settle code text position [t] = [t] :=
  (settles_of_waits hinstr hwaits (Set.notMem_empty _)).eq_settle

/-- A way that does not wait settles to what its branches settle to. -/
theorem settles_of_branches {instr : Instr} {branches waiting : List Thread} {seen after : Set Nat}
    (hinstr : code[t.address]? = some instr) (hwaits : instr.waits = false)
    (hbranches : t.branches code text position = branches) (hfresh : t.address ∉ seen)
    (h : Settles code text position branches (insert t.address seen) waiting after) :
    Settles code text position [t] seen waiting after := by
  have hstays : t.stays code = [] := by simp [Thread.stays, hinstr, hwaits]
  exact .single hbranches hstays hfresh (lt_size_of_getElem?_eq hinstr) h

/-- A condition that holds leads on to the next instruction. -/
theorem branches_of_holds {condition : Place} (hinstr : code[t.address]? = some (.place condition))
    (hholds : condition.holds text position = true) :
    t.branches code text position = [t.next] := by
  simp [Thread.branches, hinstr, hholds, Thread.next]

/-- A condition that does not hold leads nowhere. -/
theorem branches_of_not_holds {condition : Place}
    (hinstr : code[t.address]? = some (.place condition))
    (hholds : ¬condition.holds text position = true) : t.branches code text position = [] := by
  simp [Thread.branches, hinstr, hholds]

/-- A way that stands before a row settles to the same ways whatever was come to before the row,
which leads forward only. -/
theorem exists_settles_row (text : Array Char) (position : Nat)
    (hcode : CodeAt code t.address (row.map Link.instr ++ [.accept])) :
    ∃ waiting, ∀ seen : Set Nat, (∀ a ∈ seen, a < t.address) →
      ∃ after, Settles code text position [t] seen waiting after := by
  induction row generalizing t with
  | nil =>
    have hinstr := hcode.head
    exact ⟨[t], fun seen hseen => ⟨_, settles_of_waits hinstr rfl fun h => (hseen _ h).false⟩⟩
  | cons link row ih =>
    have hinstr := hcode.head
    cases link with
    | char c =>
      exact ⟨[t], fun seen hseen => ⟨_, settles_of_waits hinstr rfl fun h => (hseen _ h).false⟩⟩
    | place condition =>
      by_cases hholds : condition.holds text position = true
      · obtain ⟨waiting, hwaiting⟩ := ih (t := t.next) hcode.tail
        refine ⟨waiting, fun seen hseen => ?_⟩
        have hbefore : ∀ a ∈ insert t.address seen, a < t.next.address :=
          Set.forall_mem_insert.mpr ⟨Nat.lt_succ_self _, fun a ha => Nat.lt_succ_of_lt (hseen a ha)⟩
        obtain ⟨after, hsettles⟩ := hwaiting _ hbefore
        exact ⟨after, settles_of_branches hinstr rfl (branches_of_holds hinstr hholds)
          (fun h => (hseen _ h).false) hsettles⟩
      · exact ⟨[], fun seen hseen => ⟨_, settles_of_branches hinstr rfl
          (branches_of_not_holds hinstr hholds) (fun h => (hseen _ h).false) (.done _)⟩⟩

/-- A way that only leads on to the rest of a row settles to what waits there. -/
theorem settle_of_branch {u : Thread} {instr : Instr} (hinstr : code[t.address]? = some instr)
    (hwaits : instr.waits = false) (hbranches : t.branches code text position = [u])
    (hlater : t.address < u.address)
    (hcode : CodeAt code u.address (row.map Link.instr ++ [.accept])) :
    settle code text position [t] = settle code text position [u] := by
  obtain ⟨waiting, hwaiting⟩ := exists_settles_row text position hcode
  obtain ⟨_, hempty⟩ := hwaiting ∅ fun a ha => absurd ha (Set.notMem_empty a)
  obtain ⟨_, hsettles⟩ := hwaiting (insert t.address ∅)
    (Set.forall_mem_insert.mpr ⟨hlater, fun a ha => absurd ha (Set.notMem_empty a)⟩)
  rw [hempty.eq_settle,
    (settles_of_branches hinstr hwaits hbranches (Set.notMem_empty _) hsettles).eq_settle]

/-- A way that accepts is the match, and nothing goes on behind it. -/
theorem runList_of_accept (hinstr : code[t.address]? = some .accept) (remaining : Nat) :
    runList code text remaining position [t] none = some (t.toMatch position) := by
  have haccepts : t.accepts code = true := by simp [Thread.accepts, hinstr]
  have hbest : bestOf code position [t] none = some (t.toMatch position) := by
    simp [bestOf, haccepts]
  have honward : onward code text position [t] = [] := by simp [onward, haccepts]
  cases remaining with
  | zero => exact hbest
  | succ remaining => rw [runList, hbest, honward, settle_nil, runList_nil]

section Character

variable {c : Char} (hinstr : code[t.address]? = some (.char c))

include hinstr

/-- A way that waits for a character is no match. -/
theorem bestOf_of_char : bestOf code position [t] none = none := by
  simp [bestOf, Thread.accepts, hinstr]

/-- A way goes on over the character that it waits for. -/
theorem runList_of_char (hchar : text[position]? = some c) (remaining : Nat) :
    runList code text (remaining + 1) position [t] none =
      runList code text remaining (position + 1)
        (settle code text (position + 1) [t.next]) none := by
  have honward : onward code text position [t] = [t.next] := by
    simp [onward, Thread.accepts, Thread.onward?, hinstr, hchar, Thread.next]
  rw [runList, bestOf_of_char hinstr, honward]

/-- A way comes to nothing where another character stands, or none. -/
theorem runList_of_not_char (hchar : text[position]? ≠ some c) (remaining : Nat) :
    runList code text remaining position [t] none = none := by
  have honward : onward code text position [t] = [] := by
    simp [onward, Thread.accepts, Thread.onward?, hinstr, hchar]
  cases remaining with
  | zero => exact bestOf_of_char hinstr
  | succ remaining => rw [runList, bestOf_of_char hinstr, honward, settle_nil, runList_nil]

end Character

/-- A way that stands before a row accepts where the row ends, and comes to nothing if the row does
not go through. -/
theorem runList_row {remaining : Nat}
    (hcode : CodeAt code t.address (row.map Link.instr ++ [.accept]))
    (hremaining : position + remaining = text.size) :
    runList code text remaining position (settle code text position [t]) none =
      (rowStop? text row position).map t.toMatch := by
  induction row generalizing t remaining position with
  | nil =>
    have hinstr := hcode.head
    rw [settle_of_waits hinstr rfl, runList_of_accept hinstr]
    rfl
  | cons link row ih =>
    have hinstr := hcode.head
    have hrest := hcode.tail
    cases link with
    | char c =>
      rw [settle_of_waits hinstr rfl, rowStop?]
      by_cases hchar : text[position]? = some c
      · have hlt := (Array.getElem?_eq_some_iff.mp hchar).1
        obtain ⟨remaining, rfl⟩ := Nat.exists_eq_add_of_le' (show 1 ≤ remaining by omega)
        rw [if_pos hchar, runList_of_char hinstr hchar, ih hrest (by omega)]
        rfl
      · rw [if_neg hchar, runList_of_not_char hinstr hchar]
        rfl
    | place condition =>
      rw [rowStop?]
      by_cases hholds : condition.holds text position = true
      · rw [if_pos hholds, settle_of_branch hinstr rfl (branches_of_holds hinstr hholds)
          (Nat.lt_succ_self _) hrest, ih hrest hremaining]
        rfl
      · have hsettle : settle code text position [t] = [] :=
          (settles_of_branches hinstr rfl (branches_of_not_holds hinstr hholds)
            (Set.notMem_empty _) (.done _)).eq_settle
        rw [if_neg hholds, hsettle, runList_nil]
        rfl

end Runs

namespace Program

variable {p : Program} {row : List Link} {text : Array Char} {position : Nat}

/-- The program of a row: the lead, the row and the acceptance. -/
structure IsRow (p : Program) (row : List Link) : Prop where
  code_eq : p.code = (lead ++ row.map Link.instr ++ [Instr.accept]).toArray
  groupBound_eq : p.groupBound = 1
  isStraight_eq : p.isStraight = true

/-- A row is matched from a start just where it goes through. -/
theorem IsRow.matchAt?_eq (h : p.IsRow row) (hposition : position ≤ text.size) :
    p.matchAt? text position = (rowStop? text row position).map fun stop =>
      ⟨position, stop, #[some position, none]⟩ := by
  have hwhole : CodeAt p.code 0 (lead ++ (row.map Link.instr ++ [.accept])) := by
    rw [h.code_eq, List.append_assoc]
    exact List.prefix_rfl
  have hsave : p.code[here]? = some (.save 0) := hwhole.tail.tail.tail.head
  have hcode : CodeAt p.code 4 (row.map Link.instr ++ [.accept]) := hwhole.right
  -- The start is saved first, and the row stands behind that.
  have hbranches : (Thread.mk here (.replicate 2 none)).branches p.code text position =
      [⟨4, #[some position, none]⟩] := by
    simp only [Thread.branches, hsave]
    rfl
  rw [matchAt?, runAt?_eq_runList, h.groupBound_eq,
    settle_of_branch hsave rfl hbranches (Nat.lt_succ_self here) hcode,
    runList_row hcode (Nat.add_sub_cancel' hposition)]
  rfl

/-- A row of attempts at a row finds the first start from which it goes through. -/
theorem IsRow.searchFrom?_eq (h : p.IsRow row) {tries : Nat}
    (hinside : ∀ skipped < tries, position + skipped ≤ text.size) :
    p.searchFrom? text tries position = (List.range' position tries).findSome? fun start =>
      (rowStop? text row start).map fun stop => ⟨start, stop, #[some start, none]⟩ := by
  induction tries generalizing position with
  | zero => rfl
  | succ tries ih =>
    have hrest : ∀ skipped < tries, position + 1 + skipped ≤ text.size := fun skipped hskipped => by
      have hnext := hinside (skipped + 1) (Nat.succ_lt_succ hskipped)
      omega
    have hhere : position ≤ text.size := hinside 0 (Nat.succ_pos tries)
    rw [searchFrom?_succ, h.matchAt?_eq hhere, ih hrest, List.range'_succ, List.findSome?_cons]
    cases rowStop? text row position <;> rfl

/-- A search for a row finds the first start from which it goes through. -/
theorem IsRow.search?_eq (h : p.IsRow row) : p.search? text position =
    (List.range' position (text.size + 1 - position)).findSome? fun start =>
      (rowStop? text row start).map fun stop => ⟨start, stop, #[some start, none]⟩ := by
  rw [search?, if_pos h.isStraight_eq]
  exact h.searchFrom?_eq fun skipped hskipped => by omega

end Program

end Regular

end GrammarScan
