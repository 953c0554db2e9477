import GrammarScan.Proofs.Labels
import GrammarScan.Proofs.Regular.Code

/-!
# Groups nest in plain programs

Code saves the start of a group in front of its body and the end behind it, and leads from nowhere
into a body or out of one. So every address can be labelled with the groups that are open there. A
way saves no position that it has not come to, and where a group is not open, its start was saved
before its end. What a match tells about the groups is therefore in order.
-/

namespace GrammarScan.Regular

/-- Where an instruction leads besides the next address. -/
def Instr.targets : Instr → List Nat
  | .fork first second => [first, second]
  | .jump target => [target]
  | .char _ | .set _ | .place _ | .save _ | .accept => []

/-- Whether an instruction agrees with the groups that are open at its address and where it leads.
At the end none is open but the overall match, of which a program saves the start only. -/
def Instr.Agrees (opened : Nat → List Nat) (address : Nat) : Instr → Prop
  | .char _ | .set _ | .place _ => opened (address + 1) = opened address
  | .save slot => ∃ group,
    slot = 2 * group ∧ opened (address + 1) = group :: opened address ∨
      slot = 2 * group + 1 ∧ opened address = group :: opened (address + 1)
  | .fork first second => opened first = opened address ∧ opened second = opened address
  | .jump target => opened target = opened address
  | .accept => ∀ group ∈ opened address, group = 0

/-- Labels that tell which groups are open. -/
def openGroups : LabelRule Instr (List Nat) where
  Agrees := Instr.Agrees
  targets := Instr.targets
  congr := by
    intro opened opened' address instr hhere hnext htargets h
    cases instr with
    | fork first second =>
      simp only [Instr.targets, List.mem_cons, List.not_mem_nil, or_false, forall_eq_or_imp,
        forall_eq] at htargets
      simpa only [Instr.Agrees, htargets.1, htargets.2, hhere] using h
    | jump target =>
      simp only [Instr.targets, List.mem_singleton, forall_eq] at htargets
      simpa only [Instr.Agrees, htargets, hhere] using h
    | _ => simpa only [Instr.Agrees, hhere, hnext] using h

/-! ## Code as blocks -/

section Blocks

variable {opened exits : List Nat} {base : Nat}

/-- A choice leaves the open groups as they are. -/
theorem isLevel_choose {greedy : Bool} {onward leave : Nat}
    (honward : onward = base ∨ onward = base + 1 ∨ onward ∈ exits)
    (hleave : leave = base ∨ leave = base + 1 ∨ leave ∈ exits) :
    openGroups.IsLevel opened exits base (.choose greedy onward leave) := by
  cases greedy with
  | true => exact ⟨⟨rfl, rfl⟩, by simp [Instr.choose, openGroups, Instr.targets, honward, hleave]⟩
  | false => exact ⟨⟨rfl, rfl⟩, by simp [Instr.choose, openGroups, Instr.targets, honward, hleave]⟩

/-- A jump to one of the exits is at home on every level. -/
theorem isLevel_jump {target : Nat} (h : target ∈ exits) :
    openGroups.IsLevel opened exits base (.jump target) :=
  ⟨rfl, by simp [openGroups, Instr.targets, h]⟩

/-- The length of copies of code of one length. -/
theorem length_copies {code : Nat → List Instr} {size : Nat} (h : ∀ base, (code base).length = size)
    (count base : Nat) : (copies code size count base).length = count * size := by
  simp [copies, List.length_flatMap, h]

/-- Nested options are as long as their copies with a fork before each. -/
theorem length_options {code : Nat → List Instr} {size : Nat}
    (h : ∀ base, (code base).length = size) (greedy : Bool) (count base : Nat) :
    (options code size greedy count base).length = count * (size + 1) := by
  simp [options, List.length_flatMap, h]

/-- Code has the length that is foreseen for it. -/
theorem length_code (r : Regular) (base : Nat) : (code r base).length = codeSize r := by
  induction r using partsInduction generalizing base with
  | empty | place condition | literal text | set s ascii => simp [code, codeSize]
  | group index body ih => simp [code, codeSize, ih]
  | iteration least most greedy body ih =>
    cases most with
    | some most => simp [code, codeSize, length_copies ih, length_options ih]
    | none =>
      cases least with
      | zero =>
        simp only [code, codeSize]
        split <;> simp [ih]
      | succ least =>
        simp only [code, codeSize, List.length_append, length_copies ih, ih,
          List.length_singleton, Nat.succ_mul]
  | concat parts ih =>
    simp only [code, codeSize]
    induction parts generalizing base with
    | nil => simp [codeSeq, codeSizeSum]
    | cons part rest ihrest =>
      obtain ⟨hpart, hrest⟩ := List.forall_mem_cons.mp ih
      simp [codeSeq, codeSizeSum, hpart, ihrest hrest]
  | alternation branches ih =>
    simp only [code, codeSize]
    generalize base + codeSizeChoice branches = leave
    induction branches generalizing base with
    | nil => simp [codeChoice, codeSizeChoice]
    | cons branch rest ihrest =>
      obtain ⟨hbranch, hrest⟩ := List.forall_mem_cons.mp ih
      cases rest with
      | nil => simp [codeChoice, codeSizeChoice, hbranch]
      | cons next rest =>
        simp [codeChoice, codeSizeChoice, hbranch, ihrest hrest]
        omega

/-- Copies of a block are a block. -/
theorem isBlock_copies {code : Nat → List Instr} {size : Nat}
    (hlength : ∀ base, (code base).length = size)
    (hcode : ∀ base, openGroups.IsBlock opened [] base (code base)) (count : Nat) :
    openGroups.IsBlock opened [] base (copies code size count base) := by
  induction count with
  | zero => exact .nil _ _ _ _
  | succ count ih =>
    have hlast : copies code size (count + 1) base =
        copies code size count base ++ code (base + count * size) := by
      simp [copies, List.range_succ]
    rw [hlast]
    refine ih.append ?_
    rw [length_copies hlength]
    exact hcode _

/-- Nested options around a block are a block with the exit behind them. -/
theorem isBlock_options {code : Nat → List Instr} {size : Nat}
    (hlength : ∀ base, (code base).length = size)
    (hcode : ∀ base, openGroups.IsBlock opened [] base (code base)) (greedy : Bool) (count : Nat) :
    openGroups.IsBlock opened [] base (options code size greedy count base) := by
  let leave := base + count * (size + 1)
  have hfront (some : Nat) (hsome : some ≤ count) : openGroups.IsBlock opened [leave] base
      ((List.range some).flatMap fun i =>
        .choose greedy (base + i * (size + 1) + 1) leave :: code (base + i * (size + 1) + 1)) := by
    induction some with
    | zero => exact .nil _ _ _ _
    | succ some ih =>
      rw [List.range_succ, List.flatMap_append, List.flatMap_singleton]
      refine (ih (by omega)).append ?_
      have hplace : base + ((List.range some).flatMap fun i =>
          Instr.choose greedy (base + i * (size + 1) + 1) leave ::
            code (base + i * (size + 1) + 1)).length = base + some * (size + 1) := by
        simp [List.length_flatMap, hlength]
      rw [hplace]
      refine .cons (isLevel_choose (.inr (.inl rfl)) (.inr (.inr (by simp)))) ((hcode _).widen ?_)
      have hle := Nat.mul_le_mul_right (size + 1) hsome
      simp only [List.mem_singleton, forall_eq, hlength, leave, Nat.succ_mul] at hle ⊢
      omega
  refine (hfront count le_rfl).narrow ?_
  have hlength' := length_options hlength greedy count base
  simp only [options] at hlength'
  simp only [List.mem_singleton, forall_eq, leave, hlength']
  omega

/-- A sequence of blocks is a block. -/
theorem isBlock_codeSeq {parts : List Regular}
    (h : ∀ r ∈ parts, ∀ base, openGroups.IsBlock opened [] base (code r base)) (base : Nat) :
    openGroups.IsBlock opened [] base (codeSeq parts base) := by
  induction parts generalizing base with
  | nil => exact .nil _ _ _ _
  | cons part rest ih =>
    obtain ⟨hpart, hrest⟩ := List.forall_mem_cons.mp h
    refine (hpart base).append ?_
    rw [length_code]
    exact ih hrest _

/-- A choice between blocks is a block with the exit where the choice goes on. -/
theorem isBlock_codeChoice {branches : List Regular}
    (h : ∀ r ∈ branches, ∀ base, openGroups.IsBlock opened [] base (code r base)) (base : Nat)
    {leave : Nat} (hleave : base + codeSizeChoice branches ≤ leave) :
    openGroups.IsBlock opened [leave] base (codeChoice branches base leave) := by
  induction branches generalizing base with
  | nil => exact .single ⟨rfl, by simp [openGroups, Instr.targets]⟩
  | cons branch rest ih =>
    obtain ⟨hbranch, hrest⟩ := List.forall_mem_cons.mp h
    cases rest with
    | nil =>
      refine (hbranch base).widen ?_
      simpa [codeChoice, codeSizeChoice, length_code] using Or.inr hleave
    | cons other rest =>
      simp only [codeChoice, codeSizeChoice] at hleave ⊢
      refine .branch (by rw [length_code]) ⟨⟨rfl, rfl⟩, by simp [openGroups, Instr.targets]⟩
        (hbranch _) (isLevel_jump (by simp)) (by omega) (ih hrest _ (by omega))

/-- Characters leave the open groups as they are. -/
theorem isBlock_literal (text : List Char) (base : Nat) :
    openGroups.IsBlock opened [] base (text.map Instr.char) := by
  induction text generalizing base with
  | nil => exact .nil _ _ _ _
  | cons c text ih => exact .cons ⟨rfl, by simp [openGroups, Instr.targets]⟩ (ih _)

/-- The code of an expression is a block wherever it stands. -/
theorem isBlock_code (r : Regular) (opened : List Nat) (base : Nat) :
    openGroups.IsBlock opened [] base (code r base) := by
  induction r using partsInduction generalizing opened base with
  | empty => exact .nil _ _ _ _
  | place condition => exact .single ⟨rfl, by simp [openGroups, Instr.targets]⟩
  | literal text => exact isBlock_literal text base
  | set s ascii => exact .single ⟨rfl, by simp [openGroups, Instr.targets]⟩
  | group index body ih =>
    refine .enclose (ih (index :: opened) _) (fun label hbase hfirst _ => ?_)
      (by simp [openGroups, Instr.targets]) (fun label hlast hbehind => ?_) rfl
    · exact ⟨index, .inl ⟨rfl, by rw [hfirst, hbase]⟩⟩
    · exact ⟨index, .inr ⟨rfl, by rw [hlast, hbehind]⟩⟩
  | iteration least most greedy body ih =>
    have hbody := length_code body
    cases most with
    | some most =>
      simp only [code]
      refine (isBlock_copies hbody (ih opened) least).append ?_
      rw [length_copies hbody]
      exact isBlock_options hbody (ih opened) greedy _
    | none =>
      cases least with
      | zero =>
        simp only [code]
        let leave := base + codeSize body + 2
        have hchoose {place : Nat} : openGroups.IsLevel opened [base, base + 1, leave] place
            (.choose greedy (base + 1) leave) :=
          isLevel_choose (.inr (.inr (by simp))) (.inr (.inr (by simp)))
        have hleave : leave = base + (code body (base + 1)).length + 2 := by rw [length_code]
        split
        · exact .surround hleave hchoose (ih opened _) (isLevel_jump (by simp))
        · exact .surround hleave hchoose (ih opened _) hchoose
      | succ least =>
        let last := base + least * codeSize body
        have hcopies : openGroups.IsBlock opened [last] base
            (copies (code body) (codeSize body) least base) :=
          (isBlock_copies hbody (ih opened) least).widen (by simp [length_copies hbody, last])
        have hbehind : openGroups.IsBlock opened [last] base
            (copies (code body) (codeSize body) least base ++ code body last) := by
          refine hcopies.append ?_
          rw [length_copies hbody]
          exact (ih opened _).widen (by simp [last])
        refine (hbehind.concat (isLevel_choose (.inr (.inr ?_)) (.inr (.inl ?_)))).narrow ?_
        · simp [last]
        · simp [length_copies hbody, hbody, last, Nat.add_assoc]
        · simp only [List.mem_singleton, forall_eq, List.length_append, length_copies hbody, hbody,
            last]
          omega
  | concat parts ih => exact isBlock_codeSeq (fun r hr => ih r hr opened) base
  | alternation branches ih =>
    refine (isBlock_codeChoice (fun r hr => ih r hr opened) base le_rfl).narrow ?_
    have hlength := length_code (.alternation branches) base
    simp only [code, codeSize] at hlength
    simp only [List.mem_singleton, forall_eq, hlength]
    omega

end Blocks

/-- A program whose addresses are labelled with the groups that are open there. -/
def Program.Nests (p : Program) (opened : Nat → List Nat) : Prop :=
  ∀ (address : Nat) (instr : Instr), p.code[address]? = some instr → instr.Agrees opened address

/-- The addresses of every program that is made from an expression can be labelled so. -/
theorem exists_nests_ofRegular (r : Regular) : ∃ opened, (Program.ofRegular r).Nests opened := by
  let body := code r lead.length
  have hbody : openGroups.IsBlock [] [] 3 (.save 0 :: body ++ [.accept]) := by
    refine .enclose (isBlock_code r [0] _) (fun label hbase hfirst _ => ?_)
      (by simp [openGroups, Instr.targets]) (fun label hlast _ => ?_) rfl
    · exact ⟨0, .inl ⟨rfl, by rw [hfirst, hbase]⟩⟩
    · simp [openGroups, Instr.Agrees, hlast]
  have hlead : openGroups.IsBlock [] [0, 3] 0
      (.fork 3 1 :: .set .all :: .jump 0 :: (.save 0 :: body ++ [.accept])) := by
    refine .cons ⟨⟨rfl, rfl⟩, by simp [openGroups, Instr.targets]⟩ ?_
    refine .cons ⟨rfl, by simp [openGroups, Instr.targets]⟩ ?_
    refine .cons (isLevel_jump (by simp)) (hbody.widen ?_)
    simp
  obtain ⟨opened, hopened⟩ := hlead
  refine ⟨opened, fun address instr hinstr => ?_⟩
  have hagrees := hopened.agrees address instr (by
    simpa [Program.ofRegular, lead, body] using hinstr)
  rwa [Nat.zero_add] at hagrees

/-! ## Runs -/

/-- Whether the end that was saved for a group does not lie before the start. -/
def Ordered (slots : Slots) (group : Nat) : Prop :=
  ∀ start stop, (slots[2 * group]?).join = some start →
    (slots[2 * group + 1]?).join = some stop → start ≤ stop

/-- A way that began at a position of a text: it has saved no position that it has not come to, and
the groups that are not open are in order. -/
structure Thread.InOrder (opened : Nat → List Nat) (origin size position : Nat) (t : Thread) :
    Prop where
  origin_le : origin ≤ position
  le_size : position ≤ size
  saved : ∀ slot value : Nat, (t.slots[slot]?).join = some value → origin ≤ value ∧ value ≤ position
  ordered : ∀ group, 0 < group → group ∉ opened t.address → Ordered t.slots group

/-- A match within a text from a position on that tells about groups in order. -/
structure Match.InOrder (origin size : Nat) (found : Match) : Prop where
  origin_le : origin ≤ found.start
  start_le_stop : found.start ≤ found.stop
  stop_le : found.stop ≤ size
  saved : ∀ slot value : Nat, (found.slots[slot]?).join = some value →
    origin ≤ value ∧ value ≤ found.stop
  ordered : ∀ group, 0 < group → Ordered found.slots group

section Slots

variable {slots : Slots} {slot : Nat}

/-- What a slot holds when one of them was set. -/
theorem of_setIfInBounds_eq_some {value : Option Nat} {other result : Nat}
    (h : ((slots.setIfInBounds slot value)[other]?).join = some result) :
    slot = other ∧ value = some result ∨ slot ≠ other ∧ (slots[other]?).join = some result := by
  rw [Array.getElem?_setIfInBounds] at h
  split at h
  · next heq =>
    split at h
    · exact .inl ⟨heq, by simpa using h⟩
    · simp at h
  · next hne => exact .inr ⟨hne, h⟩

/-- Saving in another slot keeps the order of a group. -/
theorem Ordered.setIfInBounds {group : Nat} (h : Ordered slots group) (hstart : slot ≠ 2 * group)
    (hstop : slot ≠ 2 * group + 1) (value : Option Nat) :
    Ordered (slots.setIfInBounds slot value) group := by
  intro start stop hstart' hstop'
  rw [Array.getElem?_setIfInBounds_ne hstart] at hstart'
  rw [Array.getElem?_setIfInBounds_ne hstop] at hstop'
  exact h start stop hstart' hstop'

/-- Saving a position that no start lies behind as the end of a group puts that in order. -/
theorem ordered_setStop {group position : Nat}
    (h : ∀ start, (slots[2 * group]?).join = some start → start ≤ position) :
    Ordered (slots.setIfInBounds (2 * group + 1) (some position)) group := by
  intro start stop hstart hstop
  rw [Array.getElem?_setIfInBounds_ne (by omega)] at hstart
  rcases of_setIfInBounds_eq_some hstop with ⟨-, heq⟩ | ⟨hne, -⟩
  · obtain rfl := Option.some.inj heq
    exact h start hstart
  · contradiction

/-- Slots that hold nothing are in order. -/
theorem ordered_replicate (size group : Nat) : Ordered (.replicate size none) group := by
  intro start stop hstart
  rw [Array.getElem?_replicate] at hstart
  split at hstart <;> simp at hstart

end Slots

section Runs

variable {p : Program} {opened : Nat → List Nat} {text : Array Char} {origin position : Nat}

/-- A way that saves nothing stays in order where the same groups are open. -/
theorem Thread.InOrder.move {t : Thread} {size address : Nat}
    (h : t.InOrder opened origin size position) (haddress : opened address = opened t.address) :
    ({ t with address := address } : Thread).InOrder opened origin size position :=
  ⟨h.origin_le, h.le_size, h.saved, fun group hpos hgroup =>
    h.ordered group hpos (haddress ▸ hgroup)⟩

/-- Saving the start or the end of a group keeps a way in order. -/
theorem Thread.InOrder.save {t : Thread} {size slot : Nat}
    (h : t.InOrder opened origin size position)
    (hagrees : (Instr.save slot).Agrees opened t.address) :
    (Thread.mk (t.address + 1) (t.slots.setIfInBounds slot (some position))).InOrder opened origin
      size position := by
  refine ⟨h.origin_le, h.le_size, fun other value hvalue => ?_, fun group hpos hgroup => ?_⟩
  · rcases of_setIfInBounds_eq_some hvalue with ⟨-, heq⟩ | ⟨-, hvalue⟩
    · obtain rfl := Option.some.inj heq
      exact ⟨h.origin_le, le_rfl⟩
    · exact h.saved other value hvalue
  · obtain ⟨saved, ⟨rfl, hopened⟩ | ⟨rfl, hopened⟩⟩ := hagrees
    · -- the start of a group that is open from here on
      rw [hopened, List.mem_cons, not_or] at hgroup
      exact (h.ordered group hpos hgroup.2).setIfInBounds (by omega) (by omega) _
    · by_cases hsame : group = saved
      · subst hsame
        exact ordered_setStop fun start hstart => (h.saved _ start hstart).2
      · have hclosed : group ∉ opened t.address := by
          rw [hopened, List.mem_cons, not_or]
          exact ⟨hsame, hgroup⟩
        exact (h.ordered group hpos hclosed).setIfInBounds (by omega) (by omega) _

/-- What a way in order leads on to without a character is in order. -/
theorem Program.Nests.branches (h : p.Nests opened) {t b : Thread}
    (ht : t.InOrder opened origin text.size position)
    (hb : b ∈ t.branches p.code text position) : b.InOrder opened origin text.size position := by
  unfold Thread.branches at hb
  cases hinstr : p.code[t.address]? with
  | none => simp [hinstr] at hb
  | some instr =>
    have hagrees := h _ _ hinstr
    rw [hinstr] at hb
    cases instr with
    | fork first second =>
      rcases List.mem_pair.mp hb with rfl | rfl
      · exact ht.move hagrees.1
      · exact ht.move hagrees.2
    | jump target =>
      rw [List.mem_singleton.mp hb]
      exact ht.move hagrees
    | save slot =>
      rw [List.mem_singleton.mp hb]
      exact ht.save hagrees
    | place condition =>
      by_cases hholds : condition.holds text position = true
      · simp only [hholds, if_true, List.mem_singleton] at hb
        subst hb
        exact ht.move hagrees
      · simp [hholds] at hb
    | _ => simp at hb

/-- What a way in order becomes behind a character is in order there. -/
theorem Program.Nests.onward (h : p.Nests opened) {t u : Thread}
    (ht : t.InOrder opened origin text.size position)
    (hu : t.onward? p.code text position = some u) :
    u.InOrder opened origin text.size (position + 1) := by
  obtain ⟨-, hnext, hlt⟩ := Thread.of_onward? hu
  have hlabel : opened (t.address + 1) = opened t.address := by
    unfold Thread.onward? at hu
    cases hinstr : p.code[t.address]? with
    | none => simp [hinstr] at hu
    | some instr =>
      have hagrees := h _ _ hinstr
      rw [hinstr] at hu
      cases instr with
      | char c => exact hagrees
      | set s => exact hagrees
      | _ => simp at hu
  have hmoved := ht.move hlabel
  rw [hnext]
  refine ⟨ht.origin_le.trans (Nat.le_succ _), hlt, fun slot value hvalue => ?_, hmoved.ordered⟩
  obtain ⟨hle, hge⟩ := ht.saved slot value hvalue
  exact ⟨hle, hge.trans (Nat.le_succ _)⟩

/-- The match of a way in order is in order. -/
theorem Program.Nests.toMatch (h : p.Nests opened) {t : Thread}
    (ht : t.InOrder opened origin text.size position) (haccepts : t.accepts p.code = true) :
    (t.toMatch position).InOrder origin text.size := by
  have hclosed : ∀ group ∈ opened t.address, group = 0 := by
    unfold Thread.accepts at haccepts
    split at haccepts
    · next hinstr => exact h _ _ hinstr
    · simp at haccepts
  have hstart : origin ≤ (t.toMatch position).start ∧ (t.toMatch position).start ≤ position := by
    simp only [Thread.toMatch]
    cases hslot : (t.slots[0]?).join with
    | none => exact ⟨ht.origin_le, le_rfl⟩
    | some start => exact ht.saved 0 start hslot
  refine ⟨hstart.1, hstart.2, ht.le_size, ht.saved, fun group hpos => ht.ordered group hpos ?_⟩
  intro hmem
  exact hpos.ne' (hclosed group hmem)

/-- A match of a program whose groups nest is in order, wherever the program is entered. -/
theorem Program.Nests.runAt? (h : p.Nests opened) {address : Nat} {found : Match}
    (hposition : position ≤ text.size) (hfound : p.runAt? text address position = some found) :
    found.InOrder position text.size := by
  have hbegin : (Thread.mk address (.replicate (2 * p.groupBound) none)).InOrder opened position
      text.size position := by
    refine ⟨le_rfl, hposition, fun slot value hvalue => ?_, fun group _ _ => ordered_replicate _ _⟩
    rw [Array.getElem?_replicate] at hvalue
    split at hvalue <;> simp at hvalue
  obtain ⟨_, hsettles⟩ := settles_settle p.code text position
    [⟨address, .replicate (2 * p.groupBound) none⟩]
  have hwaiting := hsettles.forall_waiting (fun t ht b hb => h.branches ht hb)
    (by simpa using hbegin)
  rw [runAt?_eq_runList] at hfound
  obtain ⟨t, stop, ht, haccepts, rfl⟩ := (exists_of_runList_eq_some
    (P := fun position' t => t.InOrder opened position text.size position')
    (fun _ _ ht _ hb => h.branches ht hb) (fun _ _ _ ht hu => h.onward ht hu) hwaiting
    hfound).resolve_left (by simp)
  exact h.toMatch ht haccepts

/-- A match that begins later is also in order from earlier on. -/
theorem Match.InOrder.mono {found : Match} {size : Nat} (h : found.InOrder position size)
    (hle : origin ≤ position) : found.InOrder origin size := by
  refine ⟨hle.trans h.origin_le, h.start_le_stop, h.stop_le, fun slot value hvalue => ?_, h.ordered⟩
  obtain ⟨hposition, hstop⟩ := h.saved slot value hvalue
  exact ⟨hle.trans hposition, hstop⟩

/-- What a search finds is in order from the position of the search on. -/
theorem Program.Nests.search? (h : p.Nests opened) {found : Match}
    (hposition : position ≤ text.size) (hfound : p.search? text position = some found) :
    found.InOrder position text.size := by
  rw [Program.search?] at hfound
  split at hfound
  · obtain ⟨count, hcount, hmatch, -⟩ := exists_of_searchFrom?_eq_some hfound
    have hstart : position + count ≤ text.size := by omega
    exact (h.runAt? hstart hmatch).mono (Nat.le_add_right _ _)
  · exact h.runAt? hposition hfound

end Runs

end GrammarScan.Regular
