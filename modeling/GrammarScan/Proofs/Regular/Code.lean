import GrammarScan.Proofs.Regular.Leftmost

/-!
# The code of plain expressions

Code leads only forward or back to addresses of its own, so code that stands behind the lead never
leads back to it. If groups are numbered from 1 on it never saves in the first slot either, which is
left to the lead.
-/

namespace GrammarScan.Regular

/-- Expressions are built from their parts. -/
theorem partsInduction {motive : Regular → Prop} (empty : motive .empty)
    (place : ∀ condition, motive (.place condition)) (literal : ∀ text, motive (.literal text))
    (set : ∀ s ascii, motive (.set s ascii))
    (group : ∀ index body, motive body → motive (.group index body))
    (iteration : ∀ least most greedy body, motive body → motive (.iteration least most greedy body))
    (concat : ∀ parts : List Regular, (∀ r ∈ parts, motive r) → motive (.concat parts))
    (alternation : ∀ branches : List Regular, (∀ r ∈ branches, motive r) →
      motive (.alternation branches)) (r : Regular) : motive r :=
  @Regular.rec motive (fun rs => ∀ r ∈ rs, motive r) empty place literal set group iteration concat
    alternation (by simp) (fun _ _ hr hrs => List.forall_mem_cons.mpr ⟨hr, hrs⟩) r

mutual

/-- Whether all groups are numbered from 1 on. -/
def groupsNumbered : Regular → Bool
  | .group index body => 0 < index && groupsNumbered body
  | .iteration _ _ _ body => groupsNumbered body
  | .concat parts => allGroupsNumbered parts
  | .alternation branches => allGroupsNumbered branches
  | .empty | .place _ | .literal _ | .set _ _ => true

/-- Whether all groups of a list are numbered from 1 on. -/
def allGroupsNumbered : List Regular → Bool
  | [] => true
  | r :: rest => groupsNumbered r && allGroupsNumbered rest

end

/-- The groups of a list are numbered from 1 on just if those of its members are. -/
theorem allGroupsNumbered_iff {rs : List Regular} :
    allGroupsNumbered rs = true ↔ ∀ r ∈ rs, r.groupsNumbered = true := by
  induction rs with
  | nil => simp [allGroupsNumbered]
  | cons r rs ih => simp [allGroupsNumbered, ih]

/-- Code that does not meddle with the lead wherever it stands behind it. -/
def KeepsLead (code : Nat → List Instr) : Prop :=
  ∀ base, lead.length ≤ base → ∀ instr ∈ code base, instr.meddles = false

/-- A choice between addresses behind the lead does not meddle with it. -/
theorem meddles_choose {greedy : Bool} {onward leave : Nat} (honward : lead.length ≤ onward)
    (hleave : lead.length ≤ leave) : (Instr.choose greedy onward leave).meddles = false := by
  cases greedy <;> simp [Instr.choose, Instr.meddles, honward, hleave]

/-- Copies keep what their code keeps. -/
theorem KeepsLead.copies {code : Nat → List Instr} (h : KeepsLead code) (size count : Nat) :
    KeepsLead (copies code size count) := by
  intro base hbase instr hinstr
  obtain ⟨i, -, hinstr⟩ := List.mem_flatMap.mp hinstr
  exact h _ (Nat.le_add_right_of_le hbase) instr hinstr

/-- Nested options keep what their code keeps. -/
theorem KeepsLead.options {code : Nat → List Instr} (h : KeepsLead code) (size : Nat)
    (greedy : Bool) (count : Nat) : KeepsLead (options code size greedy count) := by
  intro base hbase instr hinstr
  obtain ⟨i, -, hinstr⟩ := List.mem_flatMap.mp hinstr
  rcases List.mem_cons.mp hinstr with rfl | hinstr
  · exact meddles_choose (by omega) (by omega)
  · exact h _ (by omega) instr hinstr

/-- A sequence keeps the lead if its parts do. -/
theorem keepsLead_codeSeq {parts : List Regular} (h : ∀ r ∈ parts, KeepsLead (code r)) :
    KeepsLead (codeSeq parts) := by
  intro base hbase
  induction parts generalizing base with
  | nil => simp [codeSeq]
  | cons part rest ih =>
    obtain ⟨hpart, hrest⟩ := List.forall_mem_cons.mp h
    intro instr hinstr
    rw [codeSeq, List.mem_append] at hinstr
    rcases hinstr with hinstr | hinstr
    · exact hpart base hbase instr hinstr
    · exact ih hrest _ (by omega) instr hinstr

/-- A choice that goes on behind the lead keeps it if its branches do. -/
theorem keepsLead_codeChoice {branches : List Regular} (h : ∀ r ∈ branches, KeepsLead (code r))
    {leave : Nat} (hleave : lead.length ≤ leave) :
    KeepsLead (codeChoice branches · leave) := by
  intro base hbase
  induction branches generalizing base with
  | nil => simp [codeChoice, Instr.meddles]
  | cons branch rest ih =>
    obtain ⟨hbranch, hrest⟩ := List.forall_mem_cons.mp h
    cases rest with
    | nil => exact hbranch base hbase
    | cons next rest =>
      intro instr hinstr
      simp only [codeChoice, List.cons_append, List.mem_cons, List.mem_append] at hinstr
      rcases hinstr with rfl | hinstr | rfl | hinstr
      · simp only [Instr.meddles, Bool.or_eq_false_iff, decide_eq_false_iff_not]
        omega
      · exact hbranch _ (by omega) instr hinstr
      · simpa [Instr.meddles] using hleave
      · exact ih hrest _ (by omega) instr hinstr

/-- Code of an expression whose groups are numbered from 1 on keeps the lead. -/
theorem keepsLead_code {r : Regular} (h : r.groupsNumbered = true) : KeepsLead (code r) := by
  induction r using partsInduction with
  | empty => simp [KeepsLead, code]
  | place condition => simp [KeepsLead, code, Instr.meddles]
  | literal text => simp [KeepsLead, code, Instr.meddles]
  | set s ascii => simp [KeepsLead, code, Instr.meddles]
  | group index body ih =>
    rw [groupsNumbered, Bool.and_eq_true, decide_eq_true_eq] at h
    intro base hbase instr hinstr
    simp only [code, List.cons_append, List.mem_cons, List.mem_append, List.not_mem_nil,
      or_false] at hinstr
    rcases hinstr with rfl | hinstr | rfl
    · simp only [Instr.meddles, decide_eq_false_iff_not]
      omega
    · exact ih h.2 _ (by omega) instr hinstr
    · simp [Instr.meddles]
  | iteration least most greedy body ih =>
    rw [groupsNumbered] at h
    have hbody := ih h
    intro base hbase instr hinstr
    cases most with
    | some most =>
      rw [code, List.mem_append] at hinstr
      rcases hinstr with hinstr | hinstr
      · exact hbody.copies _ _ base hbase instr hinstr
      · exact hbody.options _ _ _ _ (by omega) instr hinstr
    | none =>
      cases least with
      | zero =>
        have hchoose :
            (Instr.choose greedy (base + 1) (base + codeSize body + 2)).meddles = false :=
          meddles_choose (by omega) (by omega)
        simp only [code] at hinstr
        split at hinstr
        all_goals
          simp only [List.cons_append, List.mem_cons, List.mem_append, List.not_mem_nil,
            or_false] at hinstr
          rcases hinstr with rfl | hinstr | rfl
        · exact hchoose
        · exact hbody _ (by omega) instr hinstr
        · simpa [Instr.meddles] using hbase
        · exact hchoose
        · exact hbody _ (by omega) instr hinstr
        · exact hchoose
      | succ least =>
        simp only [code, List.mem_append, List.mem_singleton] at hinstr
        rcases hinstr with (hinstr | hinstr) | rfl
        · exact hbody.copies _ _ base hbase instr hinstr
        · exact hbody _ (by omega) instr hinstr
        · exact meddles_choose (by omega) (by omega)
  | concat parts ih =>
    rw [groupsNumbered, allGroupsNumbered_iff] at h
    exact keepsLead_codeSeq fun r hr => ih r hr (h r hr)
  | alternation branches ih =>
    rw [groupsNumbered, allGroupsNumbered_iff] at h
    intro base hbase
    exact keepsLead_codeChoice (fun r hr => ih r hr (h r hr)) (by omega) base hbase

/-- The program of an expression whose groups are numbered from 1 on begins with the lead and does
not meddle with it. -/
theorem Program.led_ofRegular {r : Regular} (h : r.groupsNumbered = true) :
    (Program.ofRegular r).Led where
  lead_eq a ha := by
    simp only [ofRegular, List.getElem?_toArray, List.append_assoc]
    rw [List.getElem?_append_left ha]
  body a instr ha hinstr := by
    simp only [ofRegular, List.getElem?_toArray, List.append_assoc] at hinstr
    rw [List.getElem?_append_right ha] at hinstr
    have hmem := List.mem_of_getElem? hinstr
    rw [List.mem_append, List.mem_singleton] at hmem
    rcases hmem with hmem | rfl
    · exact keepsLead_code h _ le_rfl instr hmem
    · rfl
  groupBound_pos := by simp [ofRegular]

end GrammarScan.Regular
