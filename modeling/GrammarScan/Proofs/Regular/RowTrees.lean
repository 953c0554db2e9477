import GrammarScan.Expression.Shape
import GrammarScan.Proofs.Ensures
import GrammarScan.Proofs.Regular.Row
import GrammarScan.Regular.OfExpression
import GrammarScan.Regular.Size

/-!
# Trees of rows

Sequences are reduced when they are put together: inner sequences are opened and neighbouring
characters joined. That does not change their code. So a tree that is a row of characters and
conditions, one after another, is compiled to the program of that row.
-/

namespace GrammarScan

namespace Regular

/-- Sequences with the same code and the same bound on the numbers of their groups. -/
structure SameCode (parts parts' : List Regular) : Prop where
  codeSeq_eq : ∀ base, codeSeq parts base = codeSeq parts' base
  codeSize_eq : codeSizeSum parts = codeSizeSum parts'
  groupBound_eq : groupBoundList parts = groupBoundList parts'

namespace SameCode

variable {parts parts' parts'' : List Regular}

theorem refl (parts : List Regular) : SameCode parts parts := ⟨fun _ => rfl, rfl, rfl⟩

theorem symm (h : SameCode parts parts') : SameCode parts' parts :=
  ⟨fun base => (h.codeSeq_eq base).symm, h.codeSize_eq.symm, h.groupBound_eq.symm⟩

theorem trans (h : SameCode parts parts') (h' : SameCode parts' parts'') : SameCode parts parts'' :=
  ⟨fun base => (h.codeSeq_eq base).trans (h'.codeSeq_eq base), h.codeSize_eq.trans h'.codeSize_eq,
    h.groupBound_eq.trans h'.groupBound_eq⟩

/-- One more part in front. -/
theorem cons (part : Regular) (h : SameCode parts parts') :
    SameCode (part :: parts) (part :: parts') where
  codeSeq_eq base := by rw [codeSeq, codeSeq, h.codeSeq_eq]
  codeSize_eq := by rw [codeSizeSum, codeSizeSum, h.codeSize_eq]
  groupBound_eq := by rw [groupBoundList, groupBoundList, h.groupBound_eq]

/-- More parts in front. -/
theorem append (front : List Regular) (h : SameCode parts parts') :
    SameCode (front ++ parts) (front ++ parts') := by
  induction front with
  | nil => exact h
  | cons part front ih => exact ih.cons part

end SameCode

/-- Joining characters, and leaving out what is empty, keeps the code. -/
theorem sameCode_consPart (part : Regular) (rest : List Regular) :
    SameCode (consPart part rest) (part :: rest) := by
  unfold consPart
  split
  · constructor <;> simp [codeSeq, code, codeSizeSum, codeSize, groupBoundList, groupBound]
  · constructor <;> simp [codeSeq, code, codeSizeSum, codeSize, groupBoundList, groupBound,
      Nat.add_assoc]
  · exact .refl _

/-- Parts that are put in front one by one have the code of the parts. -/
theorem sameCode_foldr_consPart (parts rest : List Regular) :
    SameCode (parts.foldr consPart rest) (parts ++ rest) := by
  induction parts with
  | nil => exact .refl _
  | cons part parts ih => exact (sameCode_consPart part _).trans (ih.cons part)

/-- An inner sequence has the code of its parts. -/
theorem sameCode_concat (parts rest : List Regular) :
    SameCode (.concat parts :: rest) (parts ++ rest) := by
  induction parts with
  | nil => constructor <;> simp [codeSeq, code, codeSizeSum, codeSize, groupBoundList, groupBound]
  | cons part parts ih =>
    refine .trans ?_ (ih.cons part)
    constructor <;> simp [codeSeq, code, codeSizeSum, codeSize, groupBoundList, groupBound,
      Nat.add_assoc, Nat.max_assoc]

/-- Sequences that are opened up have the code that they had. -/
theorem sameCode_flattenParts (parts : List Regular) : SameCode (flattenParts parts) parts := by
  induction parts with
  | nil => exact .refl _
  | cons part parts ih =>
    cases part with
    | concat inner =>
      rw [flattenParts]
      exact ((sameCode_foldr_consPart inner _).trans (ih.append inner)).trans
        (sameCode_concat inner parts).symm
    | _ =>
      rw [flattenParts]
      · exact (sameCode_consPart _ _).trans (ih.cons _)
      · simp

/-- A sequence has the code of its parts. -/
theorem sameCode_seq (parts : List Regular) : SameCode [seq parts] parts := by
  refine .trans ?_ (sameCode_flattenParts parts)
  unfold seq
  cases flattenParts parts with
  | nil => exact (sameCode_consPart .empty []).symm
  | cons part rest =>
    cases rest with
    | nil => exact .refl _
    | cons next rest => simpa using sameCode_concat (part :: next :: rest) []

/-- The code of the parts of a row is the row, without groups. -/
theorem codeSeq_row (row : List Link) (base : Nat) :
    codeSeq (row.map Link.regular) base = row.map Link.instr := by
  induction row generalizing base with
  | nil => rfl
  | cons link row ih =>
    rw [List.map_cons, codeSeq, ih]
    cases link <;> rfl

/-- A row of characters and sets has no groups. -/
theorem groupBoundList_row (row : List Link) : groupBoundList (row.map Link.regular) = 0 := by
  induction row with
  | nil => rfl
  | cons link row ih =>
    rw [List.map_cons, groupBoundList, ih]
    cases link <;> rfl

/-- What has the code of a row is compiled to the program of the row. -/
theorem SameCode.isRow {r : Regular} {row : List Link}
    (h : SameCode [r] (row.map Link.regular)) : (Program.ofRegular r).IsRow row := by
  have hcode : code r lead.length = row.map Link.instr := by
    have hseq := (h.codeSeq_eq lead.length).trans (codeSeq_row row _)
    simpa [codeSeq] using hseq
  have hbound : groupBound r = 0 := by
    have hlist := h.groupBound_eq.trans (groupBoundList_row row)
    simpa [groupBoundList] using hlist
  refine ⟨by rw [Program.ofRegular, hcode], by rw [Program.ofRegular, hbound]; rfl, ?_⟩
  change (code r lead.length).all Instr.isStraight = true
  rw [hcode, List.all_map, List.all_eq_true]
  intro link _
  cases link <;> rfl

end Regular

namespace Expression

/-- A sequence needs backtracking if one of its parts does. -/
theorem isHard_ofParts_eq (parts : List Expression) :
    (ofParts parts).isHard = parts.any isHard := by
  have hall (parts : List Expression) : anyHard parts = parts.any isHard := by
    induction parts with
    | nil => rfl
    | cons e rest ih => rw [anyHard, ih, List.any_cons]
  match parts with
  | [] => rfl
  | [e] => exact (Bool.or_false _).symm
  | e :: next :: rest => exact hall _

/-- Trees that are the parts of a row: characters in their own case and conditions that plain
expressions can make. -/
inductive IsRow : List Expression → List Link → Prop
  | nil : IsRow [] []
  | char (c : Char) {parts : List Expression} {row : List Link} (rest : IsRow parts row) :
    IsRow (.literal c false :: parts) (.char c :: row)
  | place {condition : Assertion} {place : Place} (hplace : condition.place? = some place)
    {parts : List Expression} {row : List Link} (rest : IsRow parts row) :
    IsRow (.assertion condition :: parts) (.place place :: row)

namespace IsRow

variable {parts parts' : List Expression} {row row' : List Link}

/-- A row behind another one. -/
theorem append (h : IsRow parts row) (h' : IsRow parts' row') :
    IsRow (parts ++ parts') (row ++ row') := by
  induction h with
  | nil => exact h'
  | char c rest ih => exact .char c ih
  | place hplace rest ih => exact .place hplace ih

/-- Whatever classes there are in a row stand alone. -/
theorem allClassesStandAlone_eq (h : IsRow parts row) : allClassesStandAlone parts = true := by
  induction h with
  | nil => rfl
  | char c rest ih | place hplace rest ih => simpa [allClassesStandAlone, classesStandAlone]

/-- The parts of a row capture nothing. -/
theorem groupsOf_eq (h : IsRow parts row) : groupsOf parts = [] := by
  induction h with
  | nil => rfl
  | char c rest ih | place hplace rest ih => simpa [groupsOf, groups]

/-- Trees for a row are compiled to the row. -/
theorem ofExpressions_eq (h : IsRow parts row) (before : Nat) :
    Regular.ofExpressions before parts = .ok (row.map Link.regular) := by
  induction h with
  | nil => rfl
  | char c rest ih =>
    rw [Regular.ofExpressions, ih]
    rfl
  | place hplace rest ih =>
    rw [Regular.ofExpressions, ih, Regular.ofExpression, hplace]
    rfl

/-- A row that is nothing but characters is the row of its text. -/
theorem eq_of_plainTextOf? (h : IsRow parts row) {word : List Char}
    (hword : plainTextOf? parts = some word) : row = word.map .char := by
  induction h generalizing word with
  | nil =>
    obtain rfl := Option.some.inj hword
    rfl
  | @char c parts row rest ih =>
    cases hrest : plainTextOf? parts with
    | none => simp [plainTextOf?, hrest] at hword
    | some others =>
      have heq : c :: others = word := by simpa [plainTextOf?, plainText?, hrest] using hword
      rw [← heq, ih hrest]
      rfl
  | place hplace rest ih => simp [plainTextOf?, plainText?] at hword

end IsRow

end Expression

namespace Regular

/-- What trees whose classes stand alone are put together to. -/
theorem ofParts_eq_seq {binding : Binding} {before : Nat} {parts : List Expression}
    {bodies : List Regular} {r : Regular} (hclasses : Expression.allClassesStandAlone parts = true)
    (hbodies : ofExpressions before parts = .ok bodies)
    (hr : ofParts binding before parts = .ok r) : r = seq bodies := by
  rw [ofParts, if_pos hclasses, hbodies] at hr
  simp only [bind, Except.bind, pure, Except.pure] at hr
  split at hr
  · exact (Except.ok.inj hr).symm
  · simp at hr

/-- Trees that are a row are compiled to the program of the row. -/
theorem isRow_of_ofParts {parts : List Expression} {row : List Link} {binding : Binding}
    {before : Nat} {r : Regular} (h : Expression.IsRow parts row)
    (hr : ofParts binding before parts = .ok r) : (Program.ofRegular r).IsRow row := by
  rw [ofParts_eq_seq h.allClassesStandAlone_eq (h.ofExpressions_eq before) hr]
  exact (sameCode_seq _).isRow

/-- One tree that is a row is compiled to the program of the row. -/
theorem isRow_of_ofParts_single {parts : List Expression} {row : List Link} {binding : Binding}
    {before : Nat} {r : Regular} (h : Expression.IsRow parts row)
    (hr : ofParts binding before [.ofParts parts] = .ok r) : (Program.ofRegular r).IsRow row := by
  match parts, h with
  | [], .nil =>
    rw [ofParts_eq_seq rfl rfl hr]
    exact ((sameCode_seq [.empty]).trans (sameCode_consPart .empty []).symm).isRow
  | [_], h => exact isRow_of_ofParts h hr
  | first :: next :: rest, h =>
    have hbodies : ofExpressions before [.concat (first :: next :: rest)] =
        .ok [seq (row.map Link.regular)] := by
      rw [ofExpressions, ofExpression, h.ofExpressions_eq]
      rfl
    have hclasses : Expression.allClassesStandAlone [.concat (first :: next :: rest)] = true := by
      simpa [Expression.allClassesStandAlone, Expression.classesStandAlone]
        using h.allClassesStandAlone_eq
    rw [ofParts_eq_seq hclasses hbodies hr]
    exact ((sameCode_seq _).trans (sameCode_seq _)).isRow

end Regular

end GrammarScan
