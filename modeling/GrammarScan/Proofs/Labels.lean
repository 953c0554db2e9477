import Mathlib.Data.List.Basic

/-!
# Labelled code

What a run holds where it comes to an instruction is told by a label of the address: which groups
are open there, or what a look-around has to come back to. Labels are right if every instruction
agrees with those of its own address, of the next one and of its targets.

Code is put together from blocks. A block has its own labels inside, and everywhere else the label
of its surroundings, so blocks that stand side by side share their labels. An instruction may lead
to an address of its block or to one of the exits that are agreed on with the surroundings.
-/

namespace GrammarScan

/-! ## Pieces of code -/

/-- Whether a piece of code stands in a program from an address on. -/
def CodeAt {I : Type} (code : Array I) (address : Nat) (piece : List I) : Prop :=
  piece <+: code.toList.drop address

namespace CodeAt

variable {I : Type} {code : Array I} {address : Nat} {instr : I} {piece front rest : List I}

/-- The front of a piece stands where the piece does. -/
theorem left (h : CodeAt code address (front ++ rest)) : CodeAt code address front :=
  (List.prefix_append front rest).trans h

/-- The rest of a piece stands behind its front. -/
theorem right (h : CodeAt code address (front ++ rest)) :
    CodeAt code (address + front.length) rest := by
  obtain ⟨behind, hbehind⟩ := h
  refine ⟨behind, ?_⟩
  rw [← List.drop_drop, ← hbehind, List.append_assoc, List.drop_left]

/-- The first instruction of a piece stands at its address. -/
theorem head (h : CodeAt code address (instr :: rest)) : code[address]? = some instr := by
  obtain ⟨behind, hbehind⟩ := h
  rw [← Array.getElem?_toList, ← List.head?_drop, ← hbehind]
  rfl

/-- Code that stands somewhere has its rest one address further. -/
theorem tail (h : CodeAt code address (instr :: rest)) : CodeAt code (address + 1) rest :=
  right (show CodeAt code address ([instr] ++ rest) from h)

end CodeAt

/-! ## Labels -/

/-- What instructions ask of the labels of addresses. An instruction agrees with labels or not by
those of its own address, of the next one and of the targets it names. -/
structure LabelRule (I L : Type) where
  Agrees : (label : Nat → L) → (address : Nat) → I → Prop
  targets : I → List Nat
  congr : ∀ {label label' : Nat → L} {address : Nat} {instr : I},
    label' address = label address → label' (address + 1) = label (address + 1) →
    (∀ t ∈ targets instr, label' t = label t) → Agrees label address instr →
    Agrees label' address instr

namespace LabelRule

variable {I L : Type} {rule : LabelRule I L} {level inner : L} {exits : List Nat} {base : Nat}
  {code code' : List I} {instr : I}

/-- Labels by which code is a block: outside of it and at the exits they are those of the
surroundings, every instruction agrees with them, and none leads elsewhere. -/
structure Labels (rule : LabelRule I L) (level : L) (exits : List Nat) (base : Nat) (code : List I)
    (label : Nat → L) : Prop where
  outside : ∀ a, a ≤ base ∨ base + code.length ≤ a → label a = level
  atExits : ∀ a ∈ exits, label a = level
  agrees : ∀ (i : Nat) (instr : I), code[i]? = some instr → rule.Agrees label (base + i) instr
  targets : ∀ (i : Nat) (instr : I), code[i]? = some instr → ∀ t ∈ rule.targets instr,
    base ≤ t ∧ t ≤ base + code.length ∨ t ∈ exits

/-- Whether code at an address is a block within surroundings of the given label. -/
def IsBlock (rule : LabelRule I L) (level : L) (exits : List Nat) (base : Nat) (code : List I) :
    Prop :=
  ∃ label, rule.Labels level exits base code label

/-- Whether an instruction leaves the label as it is. -/
def IsLevel (rule : LabelRule I L) (level : L) (exits : List Nat) (address : Nat) (instr : I) :
    Prop :=
  rule.Agrees (fun _ => level) address instr ∧
    ∀ t ∈ rule.targets instr, t = address ∨ t = address + 1 ∨ t ∈ exits

namespace IsBlock

/-- Code without instructions is a block anywhere. -/
theorem nil (rule : LabelRule I L) (level : L) (exits : List Nat) (base : Nat) :
    rule.IsBlock level exits base [] :=
  ⟨fun _ => level, fun _ _ => rfl, fun _ _ => rfl, by simp, by simp⟩

/-- An instruction that leaves the label as it is stands as a block by itself. -/
theorem single (h : rule.IsLevel level exits base instr) :
    rule.IsBlock level exits base [instr] := by
  have hfirst {i : Nat} {instr' : I} (hi : [instr][i]? = some instr') : i = 0 ∧ instr' = instr := by
    cases i with
    | zero => exact ⟨rfl, (Option.some.inj hi).symm⟩
    | succ i => simp at hi
  refine ⟨fun _ => level, fun _ _ => rfl, fun _ _ => rfl, fun i instr' hi => ?_,
    fun i instr' hi t ht => ?_⟩
  · obtain ⟨rfl, rfl⟩ := hfirst hi
    exact h.1
  · obtain ⟨rfl, rfl⟩ := hfirst hi
    rw [List.length_singleton]
    rcases h.2 t ht with rfl | rfl | hexit
    · exact .inl ⟨Nat.le_refl _, Nat.le_succ _⟩
    · exact .inl ⟨Nat.le_succ _, Nat.le_refl _⟩
    · exact .inr hexit

/-- Blocks one after another are a block. -/
theorem append (h : rule.IsBlock level exits base code)
    (h' : rule.IsBlock level exits (base + code.length) code') :
    rule.IsBlock level exits base (code ++ code') := by
  obtain ⟨label, hlabel⟩ := h
  obtain ⟨label', hlabel'⟩ := h'
  -- Where one block has labels of its own the other has the label of the surroundings.
  let both (a : Nat) : L := if a ≤ base + code.length then label a else label' a
  have hfirst {a : Nat} (ha : a ≤ base + code.length ∨ a ∈ exits) : both a = label a := by
    by_cases hle : a ≤ base + code.length
    · exact if_pos hle
    · have hexit := ha.resolve_left hle
      simp only [both, if_neg hle]
      rw [hlabel'.atExits a hexit, hlabel.atExits a hexit]
  have hsecond {a : Nat} (ha : base + code.length ≤ a ∨ a ∈ exits) : both a = label' a := by
    by_cases hle : a ≤ base + code.length
    · simp only [both, if_pos hle]
      rcases ha with ha | hexit
      · rw [hlabel.outside a (.inr ha), hlabel'.outside a (.inl hle)]
      · rw [hlabel'.atExits a hexit, hlabel.atExits a hexit]
    · exact if_neg hle
  refine ⟨both, fun a ha => ?_, fun a ha => ?_, fun i instr hi => ?_, fun i instr hi t ht => ?_⟩
  · rw [List.length_append, ← Nat.add_assoc] at ha
    rcases ha with ha | ha
    · rw [hfirst (.inl (by omega)), hlabel.outside a (.inl ha)]
    · rw [hsecond (.inl (by omega)), hlabel'.outside a (.inr ha)]
  · rw [hfirst (.inr ha), hlabel.atExits a ha]
  · rcases Nat.lt_or_ge i code.length with hlt | hge
    · rw [List.getElem?_append_left hlt] at hi
      refine rule.congr (hfirst (.inl (by omega))) (hfirst (.inl (by omega))) (fun t ht => ?_)
        (hlabel.agrees i instr hi)
      exact hfirst ((hlabel.targets i instr hi t ht).imp_left And.right)
    · rw [List.getElem?_append_right hge] at hi
      have hplace : base + i = base + code.length + (i - code.length) := by omega
      have hagrees := hlabel'.agrees _ instr hi
      rw [← hplace] at hagrees
      refine rule.congr (hsecond (.inl (by omega))) (hsecond (.inl (by omega))) (fun t ht => ?_)
        hagrees
      exact hsecond ((hlabel'.targets _ instr hi t ht).imp_left And.left)
  · rw [List.length_append]
    rcases Nat.lt_or_ge i code.length with hlt | hge
    · rw [List.getElem?_append_left hlt] at hi
      exact (hlabel.targets i instr hi t ht).imp_left fun ⟨hle, hge⟩ => ⟨hle, by omega⟩
    · rw [List.getElem?_append_right hge] at hi
      exact (hlabel'.targets _ instr hi t ht).imp_left fun ⟨hle, hge⟩ => ⟨by omega, by omega⟩

/-- An instruction that leaves the label as it is may stand in front of a block. -/
theorem cons (h : rule.IsLevel level exits base instr)
    (hcode : rule.IsBlock level exits (base + 1) code) :
    rule.IsBlock level exits base (instr :: code) :=
  (single h).append hcode

/-- An instruction that leaves the label as it is may stand behind a block. -/
theorem concat (hcode : rule.IsBlock level exits base code)
    (h : rule.IsLevel level exits (base + code.length) instr) :
    rule.IsBlock level exits base (code ++ [instr]) :=
  hcode.append (single h)

/-- Exits may be agreed on that do not lie inside of a block, and those that lie within it need not
be agreed on. -/
theorem changeExits {exits' : List Nat} (h : rule.IsBlock level exits base code)
    (hnew : ∀ a ∈ exits', a ∈ exits ∨ a ≤ base ∨ base + code.length ≤ a)
    (hold : ∀ a ∈ exits, a ∈ exits' ∨ base ≤ a ∧ a ≤ base + code.length) :
    rule.IsBlock level exits' base code := by
  obtain ⟨label, hlabel⟩ := h
  refine ⟨label, hlabel.outside, fun a ha => (hnew a ha).elim (hlabel.atExits a) (hlabel.outside a),
    hlabel.agrees, fun i instr hi t ht => ?_⟩
  exact (hlabel.targets i instr hi t ht).elim .inl fun hexit => (hold t hexit).symm

/-- A block may have exits at which nothing of it stands. -/
theorem widen (h : rule.IsBlock level [] base code)
    (hexits : ∀ a ∈ exits, a ≤ base ∨ base + code.length ≤ a) :
    rule.IsBlock level exits base code :=
  h.changeExits (fun a ha => .inr (hexits a ha)) (by simp)

/-- Exits at the ends of a block need not be named. -/
theorem narrow (h : rule.IsBlock level exits base code)
    (hexits : ∀ a ∈ exits, base ≤ a ∧ a ≤ base + code.length) :
    rule.IsBlock level [] base code :=
  h.changeExits (by simp) fun a ha => .inr (hexits a ha)

/-- A block between two instructions that lead to its ends is a block with them. -/
theorem surround {first last : I} {leave : Nat} (hleave : leave = base + code.length + 2)
    (hfirst : rule.IsLevel level [base, base + 1, leave] base first)
    (hcode : rule.IsBlock level [] (base + 1) code)
    (hlast : rule.IsLevel level [base, base + 1, leave] (base + code.length + 1) last) :
    rule.IsBlock level [] base (first :: code ++ [last]) := by
  have hinner : rule.IsBlock level [base, base + 1, leave] (base + 1) code := by
    refine hcode.widen ?_
    simp only [List.mem_cons, List.not_mem_nil, or_false, forall_eq_or_imp, forall_eq]
    omega
  have hplace : base + (first :: code).length = base + code.length + 1 := by
    rw [List.length_cons, Nat.add_assoc]
  refine ((cons hfirst hinner).concat (hplace ▸ hlast)).narrow ?_
  simp only [List.mem_cons, List.not_mem_nil, or_false, forall_eq_or_imp, forall_eq,
    List.length_append, List.length_cons, List.length_nil]
  omega

/-- A block that a fork leads to or past, and behind which a jump leaves, is a block with what is
led to past it. -/
theorem branch {fork jump : I} {next leave : Nat} (hnext : next = base + code.length + 2)
    (hfork : rule.IsLevel level [next, leave] base fork)
    (hcode : rule.IsBlock level [] (base + 1) code)
    (hjump : rule.IsLevel level [next, leave] (base + code.length + 1) jump) (hleave : next ≤ leave)
    (hrest : rule.IsBlock level [leave] next code') :
    rule.IsBlock level [leave] base (fork :: code ++ jump :: code') := by
  have hinner : rule.IsBlock level [next, leave] (base + 1) code := by
    refine hcode.widen fun a ha => ?_
    rcases List.mem_pair.mp ha with rfl | rfl <;> omega
  have hlength : (fork :: code ++ [jump]).length = code.length + 2 := by simp
  have hplace : base + (fork :: code).length = base + code.length + 1 := by
    rw [List.length_cons, Nat.add_assoc]
  -- The fork leads to the end of what belongs to it, which then is no exit any more.
  have hfirst : rule.IsBlock level [leave] base (fork :: code ++ [jump]) := by
    refine ((cons hfork hinner).concat (hplace ▸ hjump)).changeExits (by simp) fun a ha => ?_
    rcases List.mem_pair.mp ha with rfl | rfl
    · exact .inr ⟨by omega, by omega⟩
    · exact .inl (List.mem_singleton_self _)
  rw [← List.singleton_append (x := jump), ← List.append_assoc]
  refine hfirst.append ?_
  rw [hlength, ← Nat.add_assoc, ← hnext]
  exact hrest

/-- A block between an instruction that sets another label and one that takes it back is a block of
the surroundings. -/
theorem enclose {opening closing : I} (hcode : rule.IsBlock inner [] (base + 1) code)
    (hopening : ∀ label : Nat → L, label base = level → label (base + 1) = inner →
      label (base + code.length + 2) = level → rule.Agrees label base opening)
    (htargets : ∀ t ∈ rule.targets opening, t = base + 1 ∨ t = base + code.length + 2)
    (hclosing : ∀ label : Nat → L, label (base + code.length + 1) = inner →
      label (base + code.length + 2) = level →
      rule.Agrees label (base + code.length + 1) closing)
    (hnone : rule.targets closing = []) :
    rule.IsBlock level [] base (opening :: code ++ [closing]) := by
  obtain ⟨label, hlabel⟩ := hcode
  let whole (a : Nat) : L := if base < a ∧ a ≤ base + code.length + 1 then label a else level
  have hwithin {a : Nat} (ha : base < a) (ha' : a ≤ base + code.length + 1) :
      whole a = label a := if_pos ⟨ha, ha'⟩
  have hbase : whole base = level := if_neg (by omega)
  have hbehind : whole (base + code.length + 2) = level := if_neg (by omega)
  have hfirst : whole (base + 1) = inner := by
    rw [hwithin (by omega) (by omega), hlabel.outside _ (.inl (Nat.le_refl _))]
  have hlast : whole (base + code.length + 1) = inner := by
    rw [hwithin (by omega) (Nat.le_refl _), hlabel.outside _ (.inr (by omega))]
  have hplaces {i : Nat} {instr : I} (hi : (opening :: code ++ [closing])[i]? = some instr) :
      i = 0 ∧ instr = opening ∨ (∃ j, i = j + 1 ∧ code[j]? = some instr) ∨
        i = code.length + 1 ∧ instr = closing := by
    cases i with
    | zero => exact .inl ⟨rfl, (Option.some.inj hi).symm⟩
    | succ j =>
      rw [List.cons_append, List.getElem?_cons_succ, List.getElem?_append] at hi
      split at hi
      · exact .inr (.inl ⟨j, rfl, hi⟩)
      · obtain ⟨hlt, rfl⟩ := List.getElem?_eq_some_iff.mp hi
        have hzero : j - code.length = 0 := by simpa using hlt
        exact .inr (.inr ⟨by omega, by simp [hzero]⟩)
  refine ⟨whole, fun a ha => if_neg ?_, by simp, fun i instr hi => ?_, fun i instr hi t ht => ?_⟩
  · simp only [List.length_append, List.length_cons, List.length_nil] at ha
    omega
  · rcases hplaces hi with ⟨rfl, rfl⟩ | ⟨j, rfl, hj⟩ | ⟨rfl, rfl⟩
    · exact hopening whole hbase hfirst hbehind
    · have hlt := (List.getElem?_eq_some_iff.mp hj).1
      have hagrees := hlabel.agrees j instr hj
      have hplace : base + (j + 1) = base + 1 + j := by omega
      rw [hplace]
      refine rule.congr (hwithin (by omega) (by omega)) (hwithin (by omega) (by omega))
        (fun t ht => ?_) hagrees
      have := (hlabel.targets j instr hj t ht).resolve_right List.not_mem_nil
      exact hwithin (by omega) (by omega)
    · exact hclosing whole hlast hbehind
  · simp only [List.length_append, List.length_cons, List.length_nil]
    refine .inl ?_
    rcases hplaces hi with ⟨rfl, rfl⟩ | ⟨j, rfl, hj⟩ | ⟨rfl, rfl⟩
    · have := htargets t ht
      omega
    · have := (hlabel.targets j instr hj t ht).resolve_right List.not_mem_nil
      omega
    · rw [hnone] at ht
      contradiction

end IsBlock

end LabelRule

end GrammarScan
