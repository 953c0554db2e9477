import GrammarScan.Backtrack.Compile
import GrammarScan.Proofs.Backtrack.Attempts
import GrammarScan.Proofs.Backtrack.Start
import GrammarScan.Proofs.Ensures
import GrammarScan.Proofs.Expression.Constructs

/-!
# The code of trees that need backtracking

Code asks where the search began only if the tree does, and behind the first instruction it saves
the start of the match only if the tree moves it: groups are numbered from 1 on, other slots are
taken behind those of the groups, and addresses are counted from behind the first instruction.
-/

namespace GrammarScan.Backtrack

/-- Whether an instruction can only stem from a construct about the search that is written as the
given letter. -/
def Instr.stemsFrom (letter : Char) (instr : Instr) : Bool :=
  match instr with
  | .searchStart => letter = 'G'
  | instr => letter = 'K' && instr.meddles

/-- Code without instructions from a construct. -/
def Without (letter : Char) (code : List Instr) : Prop :=
  ∀ instr ∈ code, instr.stemsFrom letter = false

/-- A step of compilation that gives code without instructions from a construct, as long as the
slot of the start is in use. -/
def CompilesWithout (letter : Char) (x : Compiler (List Instr)) : Prop :=
  Ensures (0 < ·) x fun code slots => 0 < slots ∧ Without letter code

section Without

variable {letter : Char} {code code' : List Instr}

/-- An instruction that does not meddle stems from a construct only if it asks for the search. -/
theorem stemsFrom_of_meddles {instr : Instr} (h : instr.meddles = false)
    (hsearch : instr ≠ .searchStart) : instr.stemsFrom letter = false := by
  unfold Instr.stemsFrom
  split
  · exact absurd rfl hsearch
  · rw [h, Bool.and_false]

@[simp] theorem without_nil : Without letter [] := fun _ h => absurd h List.not_mem_nil

@[simp] theorem without_cons {instr : Instr} :
    Without letter (instr :: code) ↔ instr.stemsFrom letter = false ∧ Without letter code :=
  List.forall_mem_cons

@[simp] theorem without_append :
    Without letter (code ++ code') ↔ Without letter code ∧ Without letter code' :=
  List.forall_mem_append

/-- A fork that does not lead to the first address stems from no construct. -/
theorem stemsFrom_choose {greedy : Bool} {onward leave : Nat} (honward : 0 < onward)
    (hleave : 0 < leave) : (Instr.choose greedy onward leave).stemsFrom letter = false := by
  have hmeddles : (Instr.choose greedy onward leave).meddles = false := by
    cases greedy <;> simp [Instr.choose, Instr.meddles] <;> omega
  cases greedy <;> exact stemsFrom_of_meddles hmeddles (by simp [Instr.choose])

/-- A choice between branches without a construct is without it. -/
theorem without_choiceCode {leave base : Nat} {codes : List (List Instr)} (hleave : 0 < leave)
    (hcodes : ∀ code ∈ codes, Without letter code) :
    Without letter (choiceCode leave base codes) := by
  induction codes generalizing base with
  | nil => exact without_nil
  | cons code codes ih =>
    obtain ⟨hcode, hcodes⟩ := List.forall_mem_cons.mp hcodes
    cases codes with
    | nil => exact hcode
    | cons next codes =>
      simp only [choiceCode, List.cons_append, without_cons, without_append]
      refine ⟨stemsFrom_of_meddles ?_ (by simp), hcode,
        stemsFrom_of_meddles ?_ (by simp), ih hcodes⟩
      · simp only [Instr.meddles, Bool.or_eq_false_iff, decide_eq_false_iff_not]
        omega
      · simp only [Instr.meddles, decide_eq_false_iff_not]
        omega

/-- A look-around whose body is without a construct is without it. -/
theorem without_lookCode {negated : Bool} {slot base : Nat} (hslot : negated = false → 0 < slot)
    (hcode : Without letter code) : Without letter (lookCode negated slot base code) := by
  cases negated with
  | true =>
    have hfork : (Instr.fork (base + 1) (base + code.length + 2)).stemsFrom letter = false :=
      stemsFrom_of_meddles (by simp [Instr.meddles]) (by simp)
    have hrefute : Instr.refute.stemsFrom letter = false := stemsFrom_of_meddles rfl (by simp)
    simp [lookCode, hfork, hcode, hrefute]
  | false =>
    have hsave : (Instr.save slot).stemsFrom letter = false :=
      stemsFrom_of_meddles (by simpa [Instr.meddles] using Nat.ne_of_gt (hslot rfl)) (by simp)
    have hrestore : (Instr.restore slot).stemsFrom letter = false :=
      stemsFrom_of_meddles rfl (by simp)
    simp [lookCode, hsave, hcode, hrestore]

end Without

section Compile

variable (letter : Char)

/-- A new slot is not the one of the start, which stays in use. -/
theorem ensures_newSlot : Ensures (0 < ·) newSlot fun slot slots => 0 < slots ∧ 0 < slot :=
  .modifyGet fun _ h => ⟨Nat.succ_pos _, h⟩

/-- Plain parts are without any construct about the search. -/
theorem ensures_plainInstr (parts : List Expression) : Ensures (0 < ·) (plainInstr parts)
    fun instr slots => 0 < slots ∧ instr.stemsFrom letter = false := by
  unfold plainInstr
  split
  · exact .pure fun _ h => ⟨h, stemsFrom_of_meddles rfl (by simp)⟩
  · refine .bind (.lift fun _ slots h _ => h) fun body => ?_
    refine .bind (.lift fun _ slots h _ => h) fun program => ?_
    exact .ite (fun _ => .pure fun _ h => ⟨h, stemsFrom_of_meddles rfl (by simp)⟩)
      fun _ => .pure fun _ h => ⟨h, stemsFrom_of_meddles rfl (by simp)⟩

/-- A plain program is without any construct. -/
theorem compilesWithout_plain (parts : List Expression) :
    CompilesWithout letter (do return [← plainInstr parts]) :=
  .bind (ensures_plainInstr letter parts) fun _ => .pure fun _ h => ⟨h.1, by simp [h.2]⟩

/-- Parts that are handed to a plain program are without any construct. -/
theorem compilesWithout_plainCode (parts : List Expression) :
    CompilesWithout letter (plainCode parts) :=
  .ite (fun _ => .pure fun _ h => ⟨h, without_nil⟩) fun _ => compilesWithout_plain letter parts

/-- The step back before a look-behind is without any construct. -/
theorem compilesWithout_stepBack (side : Side) (body : Expression) :
    CompilesWithout letter (stepBack side body) := by
  cases side with
  | ahead => exact .pure fun _ h => ⟨h, without_nil⟩
  | behind =>
    have hback (count : Nat) : (Instr.goBack count).stemsFrom letter = false :=
      stemsFrom_of_meddles rfl (by simp)
    exact .ite (fun _ => .pure fun _ h => ⟨h, by simp [hback]⟩) fun _ => .throw

/-- A tree that compiles without a construct wherever it stands behind the first instruction. -/
def TreeWithout (e : Expression) : Prop :=
  ∀ hard base, 0 < base → CompilesWithout letter (compile e hard base)

variable {letter}

/-- The middle of a sequence is without a construct if its parts are. -/
theorem compilesWithout_middle {parts : List Expression} (h : ∀ e ∈ parts, TreeWithout letter e)
    (skip count : Nat) {base : Nat} (hbase : 0 < base) :
    CompilesWithout letter (compileMiddle skip count parts base) := by
  induction parts generalizing skip count base with
  | nil =>
    rw [compileMiddle]
    exact .pure fun _ h => ⟨h, without_nil⟩
  | cons e rest ih =>
    obtain ⟨he, hrest⟩ := List.forall_mem_cons.mp h
    cases skip with
    | succ skip =>
      rw [compileMiddle]
      exact ih hrest skip count hbase
    | zero =>
      cases count with
      | zero =>
        rw [compileMiddle]
        exact .pure fun _ h => ⟨h, without_nil⟩
      | succ count =>
        rw [compileMiddle]
        refine .bind (he true base hbase) fun code => .of_and fun hcode => ?_
        refine .bind (ih hrest 0 count (by omega)) fun rest => ?_
        exact .pure fun _ h => ⟨h.1, without_append.mpr ⟨hcode, h.2⟩⟩

/-- The branches of a choice are without a construct if their trees are. -/
theorem ensures_branches {branches : List Expression} (h : ∀ e ∈ branches, TreeWithout letter e)
    (hard : Bool) {base : Nat} (hbase : 0 < base) :
    Ensures (0 < ·) (compileBranches hard branches base)
      fun codes slots => 0 < slots ∧ ∀ code ∈ codes, Without letter code := by
  induction branches generalizing base with
  | nil =>
    rw [compileBranches]
    exact .pure fun _ h => ⟨h, by simp⟩
  | cons e rest ih =>
    obtain ⟨he, hrest⟩ := List.forall_mem_cons.mp h
    cases rest with
    | nil =>
      rw [compileBranches]
      exact .bind (he hard base hbase) fun code => .pure fun _ h => ⟨h.1, by simp [h.2]⟩
    | cons next rest =>
      rw [compileBranches]
      · refine .bind (he hard _ (Nat.succ_pos _)) fun code => .of_and fun hcode => ?_
        refine .bind (ih hrest (by omega)) fun codes => ?_
        exact .pure fun _ h => ⟨h.1, List.forall_mem_cons.mpr ⟨hcode, h.2⟩⟩
      · simp

/-- Look-behind for one of several bodies is without a construct if the bodies are. -/
theorem ensures_anyBehind {branches : List Expression} (h : ∀ e ∈ branches, TreeWithout letter e)
    {base : Nat} (hbase : 0 < base) :
    Ensures (0 < ·) (compileAnyBehind branches base)
      fun codes slots => 0 < slots ∧ ∀ code ∈ codes, Without letter code := by
  induction branches generalizing base with
  | nil =>
    rw [compileAnyBehind]
    exact .pure fun _ h => ⟨h, by simp⟩
  | cons e rest ih =>
    obtain ⟨he, hrest⟩ := List.forall_mem_cons.mp h
    rw [compileAnyBehind]
    refine .bind ensures_newSlot fun slot => .of_and fun hslot => ?_
    refine .bind (compilesWithout_stepBack letter .behind e) fun back => .of_and fun hback => ?_
    refine .bind (he false _ (by omega)) fun code => .of_and fun hcode => ?_
    refine .bind (ih hrest (by omega)) fun codes => .pure fun _ h => ⟨h.1, ?_⟩
    exact List.forall_mem_cons.mpr
      ⟨without_lookCode (fun _ => hslot) (without_append.mpr ⟨hback, hcode⟩), h.2⟩

/-- Look-behind that none of several bodies may pass is without a construct if the bodies are. -/
theorem compilesWithout_allBehind {branches : List Expression}
    (h : ∀ e ∈ branches, TreeWithout letter e) {base : Nat} (hbase : 0 < base) :
    CompilesWithout letter (compileAllBehind branches base) := by
  induction branches generalizing base with
  | nil =>
    rw [compileAllBehind]
    exact .pure fun _ h => ⟨h, without_nil⟩
  | cons e rest ih =>
    obtain ⟨he, hrest⟩ := List.forall_mem_cons.mp h
    rw [compileAllBehind]
    refine .bind (compilesWithout_stepBack letter .behind e) fun back => .of_and fun hback => ?_
    refine .bind (he false _ (by omega)) fun code => .of_and fun hcode => ?_
    refine .bind (ih hrest (by omega)) fun rest => .pure fun _ h => ⟨h.1, ?_⟩
    exact without_append.mpr
      ⟨without_lookCode (by simp) (without_append.mpr ⟨hback, hcode⟩), h.2⟩

/-- The branches of a tree that is a choice. -/
def choicesOf : Expression → List Expression
  | .alternation branches => branches
  | _ => []

/-- The choices of a look-behind are without a construct together if each of them is. -/
theorem compilesWithout_eachBehind (negated : Bool) {body : Expression}
    (h : ∀ e ∈ choicesOf body, TreeWithout letter e) {base : Nat} (hbase : 0 < base) :
    CompilesWithout letter (compileEachBehind negated body base) := by
  unfold compileEachBehind
  split
  · refine .ite (fun _ => compilesWithout_allBehind h hbase) fun _ => ?_
    refine .bind (ensures_anyBehind h hbase) fun codes => .pure fun _ h => ⟨h.1, ?_⟩
    exact without_choiceCode (by omega) h.2
  · exact .pure fun _ h => ⟨h, without_nil⟩

/-- A single instruction that does not meddle. -/
theorem compilesWithout_single {instr : Instr} (h : instr.stemsFrom letter = false) :
    CompilesWithout letter (pure [instr]) :=
  .pure fun _ hslots => ⟨hslots, without_cons.mpr ⟨h, without_nil⟩⟩

/-- A jump that does not lead to the first address stems from no construct. -/
theorem stemsFrom_jump {target : Nat} (h : 0 < target) :
    (Instr.jump target).stemsFrom letter = false := by
  refine stemsFrom_of_meddles ?_ (by simp)
  simp only [Instr.meddles, decide_eq_false_iff_not]
  omega

/-- Saving in a slot behind the first stems from no construct. -/
theorem stemsFrom_save {slot : Nat} (h : 0 < slot) :
    (Instr.save slot).stemsFrom letter = false := by
  refine stemsFrom_of_meddles ?_ (by simp)
  simp only [Instr.meddles, decide_eq_false_iff_not]
  omega

/-! ### Trees by their constructors -/

section Trees

variable {body : Expression}

-- Making the equations of `compile` takes a while, so they are made here once, in front of the
-- lemmas on its cases, which all ask for them.
attribute [local simp] compile

/-- A sequence is without a construct if its parts are. -/
theorem treeWithout_concat {parts : List Expression} (h : ∀ e ∈ parts, TreeWithout letter e) :
    TreeWithout letter (.concat parts) := by
  intro hard base hbase
  rw [compile]
  refine .ite (fun _ => compilesWithout_plain letter _) fun _ => ?_
  refine .bind (compilesWithout_plainCode letter _) fun first => .of_and fun hfirst => ?_
  refine .bind (compilesWithout_middle h _ _ (by omega)) fun body => .of_and fun hbody => ?_
  refine .bind (compilesWithout_plainCode letter _) fun last => .pure fun _ h => ⟨h.1, ?_⟩
  exact without_append.mpr ⟨without_append.mpr ⟨hfirst, hbody⟩, h.2⟩

/-- A choice is without a construct if its branches are. -/
theorem treeWithout_alternation {branches : List Expression}
    (h : ∀ e ∈ branches, TreeWithout letter e) : TreeWithout letter (.alternation branches) := by
  intro hard base hbase
  rw [compile]
  refine .ite (fun _ => compilesWithout_plain letter _) fun _ => ?_
  refine .bind (ensures_branches h hard hbase) fun codes => .pure fun _ h => ⟨h.1, ?_⟩
  exact without_choiceCode (by omega) h.2

/-- A group that is numbered from 1 on is without a construct if its body is. -/
theorem treeWithout_group (h : TreeWithout letter body) {index : Nat} (hindex : 0 < index) :
    TreeWithout letter (.group index body) := by
  intro hard base hbase
  rw [compile]
  refine .ite (fun _ => compilesWithout_plain letter _) fun _ => ?_
  refine .bind (h hard _ (by omega)) fun code => .pure fun _ h => ⟨h.1, ?_⟩
  have hfirst : (Instr.save (2 * index)).stemsFrom letter = false := stemsFrom_save (by omega)
  have hlast : (Instr.save (2 * index + 1)).stemsFrom letter = false := stemsFrom_save (by omega)
  simp [hfirst, h.2, hlast]

/-- A look-around is without a construct if its body and the choices of it are. -/
theorem treeWithout_lookAround (h : TreeWithout letter body)
    (hchoices : ∀ e ∈ choicesOf body, TreeWithout letter e) (side : Side) (negated : Bool) :
    TreeWithout letter (.lookAround side negated body) := by
  intro hard base hbase
  rw [compile]
  refine .ite (fun _ => compilesWithout_plain letter _) fun _ => ?_
  refine .ite (fun _ => compilesWithout_eachBehind negated hchoices hbase) fun _ => ?_
  have hrest (slot : Nat) (hslot : negated = false → 0 < slot) : CompilesWithout letter (do
      let back ← stepBack side body
      let code ← compile body false (base + 1 + back.length)
      return lookCode negated slot base (back ++ code)) := by
    refine .bind (compilesWithout_stepBack letter side body) fun back => .of_and fun hback => ?_
    refine .bind (h false _ (by omega)) fun code => .pure fun _ h => ⟨h.1, ?_⟩
    exact without_lookCode hslot (without_append.mpr ⟨hback, h.2⟩)
  cases negated with
  | true => exact hrest 0 (by simp)
  | false => exact .bind ensures_newSlot fun slot => .of_and fun hslot => hrest slot fun _ => hslot

/-- A counted repetition is without a construct if its body is. -/
theorem without_countCode {code : List Instr} (h : Without letter code) {greedy : Bool}
    {least : Nat} {most : Option Nat} {counter base : Nat} (hcounter : 0 < counter) :
    Without letter (countCode greedy least most counter base code) := by
  have hclear : (Instr.clear counter).stemsFrom letter = false := by
    refine stemsFrom_of_meddles ?_ (by simp)
    simp only [Instr.meddles, decide_eq_false_iff_not]
    omega
  have hcount : (Instr.count greedy least most (base + code.length + 3) counter).stemsFrom
      letter = false := by
    refine stemsFrom_of_meddles ?_ (by simp)
    simp only [Instr.meddles, Bool.or_eq_false_iff, decide_eq_false_iff_not]
    omega
  simp [countCode, hclear, hcount, h, stemsFrom_jump]

/-- A loop that checks for empty turns is without a construct if its body is. -/
theorem without_loopCode {code : List Instr} (h : Without letter code) {greedy : Bool}
    {least counter check base : Nat} (hcounter : 0 < counter) (hcheck : 0 < check) :
    Without letter (loopCode greedy least counter check base code) := by
  have hclear : (Instr.clear counter).stemsFrom letter = false := by
    refine stemsFrom_of_meddles ?_ (by simp)
    simp only [Instr.meddles, decide_eq_false_iff_not]
    omega
  have hloop : (Instr.loop greedy least (base + code.length + 3) counter check).stemsFrom
      letter = false := by
    refine stemsFrom_of_meddles ?_ (by simp)
    simp only [Instr.meddles, Bool.or_eq_false_iff, decide_eq_false_iff_not]
    omega
  simp [loopCode, hclear, hloop, h, stemsFrom_jump]

/-- A repetition is without a construct if its body is, in each way that it is compiled. -/
theorem treeWithout_iteration (h : TreeWithout letter body) (least : Nat) (most : Option Nat)
    (greedy : Bool) : TreeWithout letter (.iteration least most greedy body) := by
  intro hard base hbase
  rw [compile]
  refine .ite (fun _ => compilesWithout_plain letter _) fun _ => .ite (fun _ => ?option) fun _ =>
    .ite (fun _ => ?loop) fun _ => .ite (fun _ => ?star) fun _ => .ite (fun _ => ?plus) fun _ =>
    ?count
  case option =>
    refine .bind (h _ _ (by omega)) fun code => .pure fun _ h => ⟨h.1, ?_⟩
    exact without_cons.mpr ⟨stemsFrom_choose (by omega) (by omega), h.2⟩
  case loop =>
    refine .bind ensures_newSlot fun counter => .of_and fun hcounter => ?_
    refine .bind ensures_newSlot fun check => .of_and fun hcheck => ?_
    refine .bind (h _ _ (by omega)) fun code => .pure fun _ h => ⟨h.1, ?_⟩
    exact without_loopCode h.2 hcounter hcheck
  case star =>
    refine .bind (h _ _ (by omega)) fun code => .pure fun _ h => ⟨h.1, ?_⟩
    have hchoose : (Instr.choose greedy (base + 1) (base + code.length + 2)).stemsFrom letter =
        false := stemsFrom_choose (by omega) (by omega)
    simp [hchoose, h.2, stemsFrom_jump hbase]
  case plus =>
    refine .bind (h _ _ hbase) fun code => .pure fun _ h => ⟨h.1, ?_⟩
    have hchoose : (Instr.choose greedy base (base + code.length + 1)).stemsFrom letter =
        false := stemsFrom_choose hbase (by omega)
    simp [hchoose, h.2]
  case count =>
    refine .bind ensures_newSlot fun counter => .of_and fun hcounter => ?_
    refine .bind (h _ _ (by omega)) fun code => .pure fun _ h => ⟨h.1, ?_⟩
    exact without_countCode h.2 hcounter

/-- An atomic group is without a construct if its body is. -/
theorem treeWithout_atomic (h : TreeWithout letter body) : TreeWithout letter (.atomic body) := by
  intro hard base hbase
  rw [compile]
  refine .ite (fun _ => compilesWithout_plain letter _) fun _ => ?_
  refine .bind (h false _ (by omega)) fun code => .pure fun _ h => ⟨h.1, ?_⟩
  have hbegin : Instr.beginAtomic.stemsFrom letter = false := stemsFrom_of_meddles rfl (by simp)
  have hend : Instr.endAtomic.stemsFrom letter = false := stemsFrom_of_meddles rfl (by simp)
  simp [hbegin, h.2, hend]

/-- A conditional is without a construct if its parts are. -/
theorem treeWithout_conditional {test yes no : Expression} (htest : TreeWithout letter test)
    (hyes : TreeWithout letter yes) (hno : TreeWithout letter no) :
    TreeWithout letter (.conditional test yes no) := by
  intro hard base hbase
  rw [compile]
  refine .ite (fun _ => compilesWithout_plain letter _) fun _ => ?_
  refine .bind (htest hard _ (by omega)) fun testCode => .of_and fun htestCode => ?_
  refine .bind (hyes hard _ (by omega)) fun yesCode => .of_and fun hyesCode => ?_
  refine .bind (hno hard _ (by omega)) fun noCode => .pure fun _ h => ⟨h.1, ?_⟩
  have hbegin : Instr.beginAtomic.stemsFrom letter = false := stemsFrom_of_meddles rfl (by simp)
  have hend : Instr.endAtomic.stemsFrom letter = false := stemsFrom_of_meddles rfl (by simp)
  have hfork {first second : Nat} (hfirst : 0 < first) (hsecond : 0 < second) :
      (Instr.fork first second).stemsFrom letter = false := by
    refine stemsFrom_of_meddles ?_ (by simp)
    simp only [Instr.meddles, Bool.or_eq_false_iff, decide_eq_false_iff_not]
    omega
  simp only [List.cons_append, List.append_assoc, List.nil_append, without_cons, without_append]
  exact ⟨hbegin, hfork (by omega) (by omega), htestCode, hend, hyesCode,
    stemsFrom_jump (by omega), h.2⟩

/-- A tree that is a single instruction or a plain part. -/
theorem treeWithout_leaf {e : Expression} (instr : Instr) (hinstr : instr.stemsFrom letter = false)
    (h : ∀ hard base, compile e hard base =
      if !hard && !e.isHard then do return [← plainInstr [e]] else return [instr]) :
    TreeWithout letter e := by
  intro hard base hbase
  rw [h]
  exact .ite (fun _ => compilesWithout_plain letter _) fun _ => compilesWithout_single hinstr

end Trees

/-- A tree that does not use a construct, and whose groups are numbered from 1 on, compiles without
it. -/
theorem treeWithout {e : Expression} (huses : e.uses letter = false)
    (hgroups : ∀ index ∈ e.groups, 0 < index) : TreeWithout letter e := by
  -- Look-behind compiles the branches of its body one by one, so they are kept at hand.
  suffices h : TreeWithout letter e ∧ ∀ b ∈ choicesOf e, TreeWithout letter b from h.1
  induction e using Expression.partsInduction with
  | empty =>
    refine ⟨fun hard base hbase => ?_, by simp [choicesOf]⟩
    rw [compile]
    exact .ite (fun _ => compilesWithout_plain letter _) fun _ => .pure fun _ h => ⟨h, without_nil⟩
  | anyChar lineFeed =>
    refine ⟨?_, by simp [choicesOf]⟩
    cases lineFeed with
    | true =>
      exact treeWithout_leaf .anyChar (stemsFrom_of_meddles rfl (by simp)) fun _ _ => by
        rw [compile]
    | false =>
      exact treeWithout_leaf .anyButLineFeed (stemsFrom_of_meddles rfl (by simp)) fun _ _ => by
        rw [compile]
  | assertion condition =>
    refine ⟨?_, by simp [choicesOf]⟩
    exact treeWithout_leaf (.assertion condition) (stemsFrom_of_meddles rfl (by simp)) fun _ _ => by
      rw [compile]
  | literal c ignoreCase =>
    refine ⟨fun hard base hbase => ?_, by simp [choicesOf]⟩
    rw [compile]
    exact .ite (fun _ => compilesWithout_plain letter _) fun _ => compilesWithout_plain letter _
  | charClass text ignoreCase =>
    refine ⟨fun hard base hbase => ?_, by simp [choicesOf]⟩
    rw [compile]
    exact .ite (fun _ => compilesWithout_plain letter _) fun _ => compilesWithout_plain letter _
  | concat parts ih =>
    rw [Expression.uses, Expression.anyUses_eq_false_iff] at huses
    have hparts : ∀ e ∈ parts, TreeWithout letter e := fun e he =>
      (ih e he (huses e he) fun index hindex =>
        hgroups index (Expression.mem_groupsOf.mpr ⟨e, he, hindex⟩)).1
    exact ⟨treeWithout_concat hparts, by simp [choicesOf]⟩
  | alternation branches ih =>
    rw [Expression.uses, Expression.anyUses_eq_false_iff] at huses
    have hbranches : ∀ e ∈ branches, TreeWithout letter e := fun e he =>
      (ih e he (huses e he) fun index hindex =>
        hgroups index (Expression.mem_groupsOf.mpr ⟨e, he, hindex⟩)).1
    exact ⟨treeWithout_alternation hbranches, hbranches⟩
  | group index body ih =>
    rw [Expression.groups, List.forall_mem_cons] at hgroups
    exact ⟨treeWithout_group (ih huses hgroups.2).1 hgroups.1, by simp [choicesOf]⟩
  | lookAround side negated body ih =>
    obtain ⟨hbody, hchoices⟩ := ih huses hgroups
    exact ⟨treeWithout_lookAround hbody hchoices side negated, by simp [choicesOf]⟩
  | iteration least most greedy body ih =>
    exact ⟨treeWithout_iteration (ih huses hgroups).1 least most greedy, by simp [choicesOf]⟩
  | backReference index =>
    refine ⟨?_, by simp [choicesOf]⟩
    exact treeWithout_leaf (.backReference index) (stemsFrom_of_meddles rfl (by simp)) fun _ _ => by
      rw [compile]
  | groupMatched index =>
    refine ⟨?_, by simp [choicesOf]⟩
    exact treeWithout_leaf (.groupMatched index) (stemsFrom_of_meddles rfl (by simp)) fun _ _ => by
      rw [compile]
  | atomic body ih => exact ⟨treeWithout_atomic (ih huses hgroups).1, by simp [choicesOf]⟩
  | keepOut =>
    rw [Expression.uses] at huses
    exact ⟨treeWithout_leaf (.save 0) (by simp [Instr.stemsFrom, huses]) fun _ _ => by rw [compile],
      by simp [choicesOf]⟩
  | searchStart =>
    exact ⟨treeWithout_leaf .searchStart huses fun _ _ => by rw [compile], by simp [choicesOf]⟩
  | conditional test yes no ihTest ihYes ihNo =>
    simp only [Expression.uses, Bool.or_eq_false_iff] at huses
    simp only [Expression.groups, List.forall_mem_append] at hgroups
    exact ⟨treeWithout_conditional (ihTest huses.1.1 hgroups.1.1).1 (ihYes huses.1.2 hgroups.1.2).1
      (ihNo huses.2 hgroups.2).1, by simp [choicesOf]⟩

end Compile

/-! ## Programs -/

namespace Program

/-- Whether no plain part with groups is words, which knows of no groups and leaves those of an
earlier run in the table. -/
def readsOwnGroups (p : Program) : Bool :=
  p.code.all fun
    | .plain _ (some groups) => !groups.rule.isWords
    | _ => true

variable {e : Expression} {groupCount : Nat} {p : Program} {letter : Char}

/-- A program is the start, the code of its tree and the end. -/
theorem exists_code_of_ofExpression (h : ofExpression e groupCount = .ok p)
    (huses : e.uses letter = false) (hgroups : ∀ index ∈ e.groups, 0 < index) :
    ∃ code, Without letter code ∧
      p.code = (Instr.save 0 :: (code ++ [.save 1, .accept])).toArray := by
  obtain ⟨⟨code, slots⟩, hcode, h⟩ := exists_of_bind_eq_ok h
  obtain rfl := Except.ok.inj h
  have hensures := treeWithout huses hgroups true 1 Nat.one_pos
  exact ⟨code, (hensures _ (by omega) code slots hcode).2, rfl⟩

/-- The program of a tree that does not ask where the search began ignores the search, as long as
its plain parts read their own groups. -/
theorem ignoresSearch_ofExpression (h : ofExpression e groupCount = .ok p)
    (huses : e.uses 'G' = false) (hgroups : ∀ index ∈ e.groups, 0 < index)
    (hown : p.readsOwnGroups = true) : p.IgnoresSearch := by
  obtain ⟨code, hcode, hp⟩ := exists_code_of_ofExpression h huses hgroups
  intro a instr hinstr
  have hmem := Array.mem_of_getElem? hinstr
  have hgroupsOwn := Array.all_eq_true_iff_forall_mem.mp hown instr hmem
  rw [hp, List.mem_toArray] at hmem
  simp only [List.mem_cons, List.mem_append, List.not_mem_nil, or_false] at hmem
  rcases hmem with rfl | hmem | rfl | rfl
  · rfl
  · have hstem := hcode instr hmem
    cases instr with
    | searchStart => simp [Instr.stemsFrom] at hstem
    | plain program groups =>
      cases groups with
      | none => rfl
      | some groups => simpa [Instr.seesSearch] using hgroupsOwn
    | _ => rfl
  · rfl
  · rfl

/-- The program of a tree that does not move the start of the match keeps the start. -/
theorem keepsStart_ofExpression (h : ofExpression e groupCount = .ok p)
    (huses : e.uses 'K' = false) (hgroups : ∀ index ∈ e.groups, 0 < index) : p.KeepsStart := by
  obtain ⟨code, hcode, hp⟩ := exists_code_of_ofExpression h huses hgroups
  refine ⟨by rw [hp]; rfl, fun a instr hinstr => ?_⟩
  rw [hp, List.getElem?_toArray, List.getElem?_cons_succ] at hinstr
  have hmem := List.mem_of_getElem? hinstr
  simp only [List.mem_cons, List.mem_append, List.not_mem_nil, or_false] at hmem
  rcases hmem with hmem | rfl | rfl
  · have hstem := hcode instr hmem
    unfold Instr.stemsFrom at hstem
    split at hstem
    · rfl
    · simpa using hstem
  · rfl
  · rfl

end Program

end GrammarScan.Backtrack
