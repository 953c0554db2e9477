import GrammarScan.Proofs.Backtrack.Code
import GrammarScan.Proofs.Regular.Nesting

/-!
# Groups and look-around nest in programs with backtracking

Every address of a program can be labelled with the groups that are open there and with the
look-around that it lies in. Only look-behind goes back in the text by itself; a positive
look-around comes back from its slot to where it began, while a negative one never goes on behind
its body. Slots besides those of the groups are taken anew by each part that needs one, so nothing
else writes to the slot of a look-around that a run is in; nor does a plain part write to a group
that is open around it, as groups are numbered in the order in which they are opened.
-/

namespace GrammarScan.Backtrack

/-- What a run is in at an address: an open group, a positive look-around with its slot, or a
negative one. No run comes to the start again, and at the finish the end of the match is saved. -/
inductive Frame where
  | group (index : Nat)
  | look (side : Side) (slot : Nat)
  | denial (side : Side)
  | start
  | finish
  deriving DecidableEq

/-- Whether a run only goes ahead in a frame. -/
def Frame.isAhead : Frame → Bool
  | .group _ | .look .ahead _ | .denial .ahead => true
  | .look .behind _ | .denial .behind | .start | .finish => false

/-- The frames of an address, the innermost first. -/
abbrev Frames := List Frame

/-- Whether a run has only gone ahead since the attempt began. -/
def Frames.Ahead (frames : Frames) : Prop := ∀ frame ∈ frames, frame.isAhead = true

/-- The slots of a program: the number of its groups, that of all its slots, and whether the start
of the match is only moved where a run has gone ahead. -/
structure Layout where
  groups : Nat
  slots : Nat
  startsAhead : Bool

/-- Where an instruction leads besides the next address. -/
def Instr.targets : Instr → List Nat
  | .fork first second => [first, second]
  | .jump target => [target]
  | .count _ _ _ leave _ => [leave]
  | .loop _ _ leave _ _ => [leave]
  | _ => []

/-- Whether a slot is none of the groups, and none of a look-around that a run is in. -/
structure Layout.IsFree (l : Layout) (frames : Frames) (slot : Nat) : Prop where
  groups_le : 2 * (l.groups + 1) ≤ slot
  fresh : ∀ side, .look side slot ∉ frames

/-- The frames of the way that a fork leads to: the same, or those of the body of a negative
look-around. -/
def Frames.Enters (frames inner : Frames) : Prop :=
  inner = frames ∨ ∃ side, inner = .denial side :: frames

/-- What is in order about a place where a slot is saved: the start or the end of a group, the
position of a look-around, or that of the match. -/
inductive Layout.Saves (l : Layout) (slot : Nat) : (here next : Frames) → Prop where
  | enter (index : Nat) {here : Frames} (pos : 0 < index) (le : index ≤ l.groups)
      (fresh : .group index ∉ here) (heq : slot = 2 * index) :
      l.Saves slot here (.group index :: here)
  | leave (index : Nat) {next : Frames} (pos : 0 < index) (le : index ≤ l.groups)
      (heq : slot = 2 * index + 1) : l.Saves slot (.group index :: next) next
  | look (side : Side) {here : Frames} (free : l.IsFree here slot) (lt : slot < l.slots) :
      l.Saves slot here (.look side slot :: here)
  | move {here : Frames} (ahead : l.startsAhead = true → here.Ahead) (heq : slot = 0) :
      l.Saves slot here here
  | stop (heq : slot = 1) : l.Saves slot [] [.finish]

/-- Whether a plain part is made from an expression and sets no group that is open. -/
structure Layout.Allows (l : Layout) (frames : Frames) (program : Regular.Program)
    (groups : Option PlainGroups) : Prop where
  ofRegular : ∃ r, program = .ofRegular r
  closed : ∀ g, groups = some g → ∀ index, g.before < index → index ≤ g.before + g.count →
    index ≤ l.groups ∧ .group index ∉ frames

/-- Whether an instruction agrees with the frames of its address and of where it leads. -/
def Instr.Agrees (l : Layout) (frames : Nat → Frames) (address : Nat) : Instr → Prop
  | .anyChar | .anyButLineFeed | .assertion _ | .literal _ | .backReference _ | .groupMatched _
  | .beginAtomic | .endAtomic | .searchStart => frames (address + 1) = frames address
  | .accept => frames address = [.finish]
  | .fork first second =>
    (frames address).Enters (frames first) ∧ (frames address).Enters (frames second)
  | .jump target => frames target = frames address
  | .save slot => l.Saves slot (frames address) (frames (address + 1))
  | .clear slot => l.IsFree (frames address) slot ∧ frames (address + 1) = frames address
  | .restore slot => ∃ side, frames address = .look side slot :: frames (address + 1)
  | .count _ _ _ leave counter => l.IsFree (frames address) counter ∧
    frames leave = frames address ∧ frames (address + 1) = frames address
  | .loop _ _ leave counter check =>
    l.IsFree (frames address) counter ∧ l.IsFree (frames address) check ∧
      frames leave = frames address ∧ frames (address + 1) = frames address
  | .refute => True
  | .goBack _ => frames (address + 1) = frames address ∧
    ((∃ slot outer, frames address = .look .behind slot :: outer) ∨
      ∃ outer, frames address = .denial .behind :: outer)
  | .plain program groups => l.Allows (frames address) program groups ∧
    frames (address + 1) = frames address

/-- Labels that tell what a run is in. -/
def nesting (l : Layout) : LabelRule Instr Frames where
  Agrees := Instr.Agrees l
  targets := Instr.targets
  congr := by
    intro frames frames' address instr hhere hnext htargets h
    cases instr with
    | fork first second =>
      simp only [Instr.targets, List.mem_cons, List.not_mem_nil, or_false, forall_eq_or_imp,
        forall_eq] at htargets
      simpa only [Instr.Agrees, htargets.1, htargets.2, hhere] using h
    | jump target | count greedy least most leave counter | loop greedy least leave counter check =>
      simp only [Instr.targets, List.mem_singleton, forall_eq] at htargets
      simpa only [Instr.Agrees, htargets, hhere, hnext] using h
    | refute => trivial
    | _ => simpa only [Instr.Agrees, hhere, hnext] using h

/-! ## Compiling -/

/-- Numbers of groups in the order of their parentheses, opened within the given frames. A run may
have gone back there, or else it has only gone ahead if the start of the match depends on it. -/
structure Layout.Admits (l : Layout) (back : Bool) (frames : Frames) (indices : List Nat) :
    Prop where
  ahead : back = false → l.startsAhead = true → frames.Ahead
  increasing : indices.Pairwise (· < ·)
  within : ∀ index ∈ indices, 0 < index ∧ index ≤ l.groups
  groupsBefore : ∀ outer, .group outer ∈ frames → ∀ index ∈ indices, outer < index

namespace Layout.Admits

variable {l : Layout} {back : Bool} {frames : Frames} {indices : List Nat}

/-- Fewer groups are admitted where more are. -/
theorem sublist (h : l.Admits back frames indices) {some : List Nat}
    (hsome : some.Sublist indices) : l.Admits back frames some :=
  ⟨h.ahead, h.increasing.sublist hsome, fun index hindex => h.within index (hsome.subset hindex),
    fun outer houter index hindex => h.groupsBefore outer houter index (hsome.subset hindex)⟩

/-- Within a group its number is behind. -/
theorem inner {index : Nat} (h : l.Admits back frames (index :: indices)) :
    l.Admits back (.group index :: frames) indices := by
  obtain ⟨hfirst, hrest⟩ := List.pairwise_cons.mp h.increasing
  refine ⟨fun hback hstart => List.forall_mem_cons.mpr ⟨rfl, h.ahead hback hstart⟩, hrest,
    fun i hi => h.within i (List.mem_cons_of_mem _ hi), fun outer houter i hi => ?_⟩
  rcases List.mem_cons.mp houter with heq | houter
  · obtain rfl := Frame.group.inj heq
    exact hfirst i hi
  · exact h.groupsBefore outer houter i (List.mem_cons_of_mem _ hi)

/-- The frames of a look-around are no groups, and in those of a look-ahead a run goes ahead. -/
theorem withinLook (h : l.Admits back frames indices) {side : Side} {frame : Frame}
    (hframe : (∃ slot, frame = .look side slot) ∨ frame = .denial side) :
    l.Admits (side = .behind || back) (frame :: frames) indices := by
  refine ⟨fun hback hstart => ?_, h.increasing, h.within, fun outer houter => ?_⟩
  · rw [Bool.or_eq_false_iff] at hback
    refine List.forall_mem_cons.mpr ⟨?_, h.ahead hback.2 hstart⟩
    cases side with
    | ahead => rcases hframe with ⟨slot, rfl⟩ | rfl <;> rfl
    | behind => simp at hback
  · refine h.groupsBefore outer ((List.mem_cons.mp houter).resolve_left fun heq => ?_)
    rcases hframe with ⟨slot, rfl⟩ | rfl <;> simp at heq

/-- A group is not open around itself. -/
theorem not_mem {index : Nat} (h : l.Admits back frames indices) (hindex : index ∈ indices) :
    .group index ∉ frames :=
  fun hmem => Nat.lt_irrefl _ (h.groupsBefore index hmem index hindex)

end Layout.Admits

/-- The numbers of groups of some trees out of a list. -/
theorem groupsOf_sublist {es fs : List Expression} (h : es.Sublist fs) :
    (Expression.groupsOf es).Sublist (Expression.groupsOf fs) := by
  induction h with
  | slnil => exact .slnil
  | cons e h ih => exact ih.trans (List.sublist_append_right _ _)
  | cons_cons e h ih => exact (List.Sublist.refl _).append ih

/-- The groups of a tree in a row are among those of the row. -/
theorem groups_sublist_groupsOf {e : Expression} {es : List Expression} (h : e ∈ es) :
    e.groups.Sublist (Expression.groupsOf es) := by
  have hsingle := groupsOf_sublist (List.singleton_sublist.mpr h)
  simpa [Expression.groupsOf] using hsingle

/-- Numbers in increasing order reach at least as far as there are numbers of them. -/
theorem length_lt_of_pairwise {first : Nat} {indices : List Nat}
    (h : (first :: indices).Pairwise (· < ·)) :
    ∃ last ∈ first :: indices, first + indices.length ≤ last := by
  induction indices generalizing first with
  | nil => exact ⟨first, List.mem_singleton_self _, le_rfl⟩
  | cons next rest ih =>
    obtain ⟨hfirst, hrest⟩ := List.pairwise_cons.mp h
    obtain ⟨last, hlast, hle⟩ := ih hrest
    have hlt := hfirst next List.mem_cons_self
    refine ⟨last, List.mem_cons_of_mem _ hlast, ?_⟩
    rw [List.length_cons]
    omega

/-- A number of slots in use that leaves those of the groups and of the look-around that a run is in
alone. -/
structure Layout.Reserves (l : Layout) (frames : Frames) (used : Nat) : Prop where
  groups_le : 2 * (l.groups + 1) ≤ used
  looks : ∀ side slot, .look side slot ∈ frames → slot < used

/-- A step of compilation within frames that takes slots not in use. What it gives has a property,
as long as the layout has all the slots that are taken. -/
def Compiles {α : Type} (l : Layout) (frames : Frames) (x : Compiler α) (Q : α → Prop) : Prop :=
  ∀ used, l.Reserves frames used →
    Ensures (· = used) x fun a used' => used ≤ used' ∧ (used' ≤ l.slots → Q a)

namespace Compiles

variable {α β : Type} {l : Layout} {frames : Frames} {x y : Compiler α} {Q : α → Prop}
  {R : β → Prop}

/-- A value that is given back asks for no slots. -/
theorem pure {a : α} (h : Q a) : Compiles l frames (Pure.pure a) Q :=
  fun _ _ => .pure fun _ hs => ⟨hs.ge, fun _ => h⟩

/-- What a first step gives may be used for what the second one gives. -/
theorem bind {f : α → Compiler β} (hx : Compiles l frames x Q)
    (hf : ∀ a, Compiles l frames (f a) fun b => Q a → R b) : Compiles l frames (x >>= f) R := by
  intro used hused
  refine .bind (hx used hused) fun a used' hused' b used'' hb => ?_
  have hreserves : l.Reserves frames used' :=
    ⟨hused.groups_le.trans hused'.1, fun side slot hslot =>
      (hused.looks side slot hslot).trans_le hused'.1⟩
  obtain ⟨hle, hR⟩ := hf a used' hreserves used' rfl b used'' hb
  exact ⟨hused'.1.trans hle, fun hslots => hR hslots (hused'.2 (hle.trans hslots))⟩

/-- A meaning that is looked up asks for no slots. -/
theorem lift {value : Except MeaningFault α} (h : ∀ a, value = .ok a → Q a) :
    Compiles l frames (liftM value : Compiler α) Q :=
  fun _ _ => .lift fun a _ hs ha => ⟨hs.ge, fun _ => h a ha⟩

/-- Nothing is compiled where a pattern has no meaning. -/
theorem throw {fault : MeaningFault} : Compiles l frames (throw fault : Compiler α) Q :=
  fun _ _ => .throw

/-- A condition compiles to what the side that is taken does. -/
theorem ite {c : Prop} [Decidable c] (hx : c → Compiles l frames x Q)
    (hy : ¬ c → Compiles l frames y Q) : Compiles l frames (if c then x else y) Q :=
  fun used hused => .ite (fun h => hx h used hused) fun h => hy h used hused

/-- What is known of the code may be said in weaker words. -/
theorem imp {Q' : α → Prop} (h : Compiles l frames x Q) (hQ : ∀ a, Q a → Q' a) :
    Compiles l frames x Q' :=
  fun used hused => (h used hused).imp (fun _ hs => hs) fun a _ ha =>
    ⟨ha.1, fun hslots => hQ a (ha.2 hslots)⟩

/-- What is compiled within further frames that take no slot. -/
theorem inner (frame : Frame) (hframe : ∀ side slot, frame ≠ .look side slot)
    (h : Compiles l (frame :: frames) x Q) : Compiles l frames x Q := by
  refine fun used hused => h used ⟨hused.groups_le, fun side slot hslot => hused.looks side slot ?_⟩
  exact (List.mem_cons.mp hslot).resolve_left (hframe side slot).symm

/-- What is compiled outside of a frame can be compiled inside as well. -/
theorem outer {frame : Frame} (h : Compiles l frames x Q) : Compiles l (frame :: frames) x Q :=
  fun used hused => h used ⟨hused.groups_le, fun side slot hslot =>
    hused.looks side slot (List.mem_cons_of_mem _ hslot)⟩

/-- A new slot is free. -/
theorem newSlot : Compiles l frames newSlot (l.IsFree frames) := by
  refine fun used hused => .modifyGet fun _ hs => ⟨?_, fun _ => ⟨?_, fun side hmem => ?_⟩⟩
  · exact hs ▸ Nat.le_succ _
  · exact hs ▸ hused.groups_le
  · exact absurd (hused.looks side _ hmem) (by simp [hs])

/-- A new slot for a look-around and what is compiled within. -/
theorem withinLook (side : Side) {f : Nat → Compiler β} (hf : ∀ slot, l.IsFree frames slot →
    Compiles l (.look side slot :: frames) (f slot) fun b => slot < l.slots → R b) :
    Compiles l frames (Backtrack.newSlot >>= f) R := by
  intro used hused
  have hfree : l.IsFree frames used :=
    ⟨hused.groups_le, fun other hmem => Nat.lt_irrefl _ (hused.looks other used hmem)⟩
  have hreserves : l.Reserves (.look side used :: frames) (used + 1) := by
    refine ⟨hused.groups_le.trans (Nat.le_succ _), fun other slot hslot => ?_⟩
    rcases List.mem_cons.mp hslot with heq | hslot
    · obtain ⟨-, rfl⟩ := Frame.look.inj heq
      exact Nat.lt_succ_self _
    · exact (hused.looks other slot hslot).trans (Nat.lt_succ_self _)
  refine .bind (.modifyGet (Q := fun slot used' => slot = used ∧ used' = used + 1) ?_)
    fun slot => ?_
  · rintro _ rfl
    exact ⟨rfl, rfl⟩
  rintro _ ⟨rfl, rfl⟩ b used' hb
  obtain ⟨hle, hR⟩ := hf slot hfree (slot + 1) hreserves (slot + 1) rfl b used' hb
  exact ⟨(Nat.le_succ _).trans hle, fun hslots => hR hslots (hle.trans hslots)⟩

end Compiles

section Blocks

variable {l : Layout} {back : Bool} {frames : Frames} {exits : List Nat} {base : Nat}
  {code : List Instr}

/-- A choice leaves the frames as they are. -/
theorem isLevel_choose {greedy : Bool} {onward leave : Nat}
    (honward : onward = base ∨ onward = base + 1 ∨ onward ∈ exits)
    (hleave : leave = base ∨ leave = base + 1 ∨ leave ∈ exits) :
    (nesting l).IsLevel frames exits base (.choose greedy onward leave) := by
  cases greedy with
  | true =>
    exact ⟨⟨.inl rfl, .inl rfl⟩, by simp [Instr.choose, nesting, Instr.targets, honward, hleave]⟩
  | false =>
    exact ⟨⟨.inl rfl, .inl rfl⟩, by simp [Instr.choose, nesting, Instr.targets, honward, hleave]⟩

/-- A jump to one of the exits is at home on every level. -/
theorem isLevel_jump {target : Nat} (h : target ∈ exits) :
    (nesting l).IsLevel frames exits base (.jump target) :=
  ⟨rfl, by simp [nesting, Instr.targets, h]⟩

/-- An instruction that only asks or reads leaves the frames as they are. -/
theorem isLevel_of_agrees {instr : Instr} (h : instr.Agrees l (fun _ => frames) base)
    (htargets : instr.targets = []) : (nesting l).IsLevel frames exits base instr :=
  ⟨h, by simp [nesting, htargets]⟩

/-- Plain parts set no group that is open around them. -/
theorem compiles_plainInstr {parts : List Expression}
    (h : l.Admits back frames (Expression.groupsOf parts)) (base : Nat) :
    Compiles l frames (plainInstr parts)
      fun instr => (nesting l).IsLevel frames exits base instr := by
  unfold plainInstr
  split
  · exact .pure (isLevel_of_agrees rfl rfl)
  · refine .bind (.lift fun body _ => trivial) fun body => ?_
    refine .bind (Q := fun program => ∃ r, program = .ofRegular r)
      (.lift fun program hprogram => ?_) fun program => ?_
    · unfold Regular.compile at hprogram
      split at hprogram
      · exact ⟨body, (Except.ok.inj hprogram).symm⟩
      · contradiction
    · refine .ite (fun _ => .pure fun hprogram _ => ?_) fun hgroups => .pure fun hprogram _ => ?_
      · exact isLevel_of_agrees ⟨⟨hprogram, by simp⟩, rfl⟩ rfl
      · refine isLevel_of_agrees ⟨⟨hprogram, ?_⟩, rfl⟩ rfl
        rintro g hg index hlt hle
        obtain rfl := Option.some.inj hg
        cases hindices : Expression.groupsOf parts with
        | nil => simp [hindices] at hgroups
        | cons first rest =>
          have hadmits := h
          rw [hindices] at hadmits
          obtain ⟨last, hlast, hreach⟩ := length_lt_of_pairwise hadmits.increasing
          have hpos := (hadmits.within first List.mem_cons_self).1
          have hbound := (hadmits.within last hlast).2
          simp only [hindices, List.head?_cons, Option.getD_some, List.length_cons] at hlt hle
          refine ⟨by omega, fun hmem => ?_⟩
          have hbehind := hadmits.groupsBefore index hmem first List.mem_cons_self
          omega

/-- A plain program is a block wherever its groups are admitted. -/
theorem compiles_plain {parts : List Expression}
    (h : l.Admits back frames (Expression.groupsOf parts)) (base : Nat) :
    Compiles l frames (do return [← plainInstr parts])
      fun code => (nesting l).IsBlock frames [] base code :=
  .bind (compiles_plainInstr h base) fun _ => .pure fun hinstr => .single hinstr

/-- Parts that are handed to a plain program are a block wherever their groups are admitted. -/
theorem compiles_plainCode {parts : List Expression}
    (h : l.Admits back frames (Expression.groupsOf parts)) (base : Nat) :
    Compiles l frames (plainCode parts) fun code => (nesting l).IsBlock frames [] base code :=
  .ite (fun _ => .pure (.nil _ _ _ _)) fun _ => compiles_plain h base

/-- A positive look-around is a block if its body is one within it. -/
theorem isBlock_lookCode {side : Side} {slot : Nat} (hfree : l.IsFree frames slot)
    (hslot : slot < l.slots)
    (hcode : (nesting l).IsBlock (.look side slot :: frames) [] (base + 1) code) :
    (nesting l).IsBlock frames [] base (lookCode false slot base code) := by
  refine .enclose hcode (fun label hbase hfirst _ => ?_) (by simp [nesting, Instr.targets])
    (fun label hlast hbehind => ?_) rfl
  · change l.Saves slot (label base) (label (base + 1))
    rw [hbase, hfirst]
    exact .look side hfree hslot
  · have hrestore : label (base + code.length + 1) =
        .look side slot :: label (base + code.length + 2) := by
      rw [hlast, hbehind]
    exact ⟨side, hrestore⟩

/-- A negative look-around is a block if its body is one within it. -/
theorem isBlock_lookCode_negated {side : Side} (slot : Nat)
    (hcode : (nesting l).IsBlock (.denial side :: frames) [] (base + 1) code) :
    (nesting l).IsBlock frames [] base (lookCode true slot base code) := by
  refine .enclose hcode (fun label hbase hfirst hleave => ⟨.inr ⟨side, ?_⟩, .inl ?_⟩)
    (by simp [nesting, Instr.targets]) (fun _ _ _ => trivial) rfl
  · rw [hfirst, hbase]
  · rw [hleave, hbase]

/-- The step back stands directly inside of a look-behind. -/
theorem compiles_stepBack (side : Side) (body : Expression)
    (hframes : (∃ slot outer, frames = .look side slot :: outer) ∨
      ∃ outer, frames = .denial side :: outer) (base : Nat) : Compiles l frames (stepBack side body)
      fun code => (nesting l).IsBlock frames [] base code := by
  cases side with
  | ahead => exact .pure (.nil _ _ _ _)
  | behind =>
    refine .ite (fun _ => .pure ?_) fun _ => .throw
    exact .single (isLevel_of_agrees ⟨rfl, hframes⟩ rfl)

/-- Codes of branches that are blocks where the choice between them places them. -/
def BranchBlocks (l : Layout) (frames : Frames) : (base : Nat) → List (List Instr) → Prop
  | _, [] => True
  | base, [code] => (nesting l).IsBlock frames [] base code
  | base, code :: rest => (nesting l).IsBlock frames [] (base + 1) code ∧
    BranchBlocks l frames (base + code.length + 2) rest

/-- A choice between branches is a block with the exit where the choice goes on. -/
theorem isBlock_choiceCode {codes : List (List Instr)} (h : BranchBlocks l frames base codes)
    {leave : Nat} (hleave : base + choiceLength codes ≤ leave) :
    (nesting l).IsBlock frames [leave] base (choiceCode leave base codes) := by
  induction codes generalizing base with
  | nil => exact .nil _ _ _ _
  | cons code codes ih =>
    cases codes with
    | nil =>
      refine LabelRule.IsBlock.widen h ?_
      simpa [choiceCode, choiceLength] using Or.inr hleave
    | cons next codes =>
      simp only [choiceLength] at hleave
      obtain ⟨hcode, hrest⟩ := h
      exact .branch rfl ⟨⟨.inl rfl, .inl rfl⟩, by simp [nesting, Instr.targets]⟩ hcode
        (isLevel_jump (by simp)) (by omega) (ih hrest (by omega))

/-- The code of a choice is as long as its branches with a fork and a jump between them. -/
theorem length_choiceCode (leave : Nat) (codes : List (List Instr)) :
    (choiceCode leave base codes).length = choiceLength codes := by
  induction codes generalizing base with
  | nil => rfl
  | cons code codes ih =>
    cases codes with
    | nil => rfl
    | cons next codes =>
      simp only [choiceCode, choiceLength, List.cons_append, List.length_cons, List.length_append,
        ih]
      omega

/-- A choice that goes on behind its branches is a block. -/
theorem isBlock_choice {codes : List (List Instr)} (h : BranchBlocks l frames base codes) :
    (nesting l).IsBlock frames [] base (choiceCode (base + choiceLength codes) base codes) := by
  refine (isBlock_choiceCode h le_rfl).narrow ?_
  simp [length_choiceCode]

end Blocks

section Trees

variable {l : Layout} {back : Bool} {frames : Frames} {base : Nat}

/-- A tree whose code is a block wherever it stands and whatever it stands in. -/
def TreeNests (l : Layout) (back : Bool) (e : Expression) : Prop :=
  ∀ hard frames base, l.Admits back frames e.groups →
    Compiles l frames (compile e hard base) fun code => (nesting l).IsBlock frames [] base code

/-- The middle of a sequence is a block if its parts are. -/
theorem compiles_middle {parts : List Expression} (h : ∀ e ∈ parts, TreeNests l back e)
    (hadmits : l.Admits back frames (Expression.groupsOf parts)) (skip count base : Nat) :
    Compiles l frames (compileMiddle skip count parts base)
      fun code => (nesting l).IsBlock frames [] base code := by
  induction parts generalizing skip count base with
  | nil =>
    rw [compileMiddle]
    exact .pure (.nil _ _ _ _)
  | cons e rest ih =>
    obtain ⟨he, hrest⟩ := List.forall_mem_cons.mp h
    have hbehind := hadmits.sublist (List.sublist_append_right e.groups (Expression.groupsOf rest))
    cases skip with
    | succ skip =>
      rw [compileMiddle]
      exact ih hrest hbehind skip count base
    | zero =>
      cases count with
      | zero =>
        rw [compileMiddle]
        exact .pure (.nil _ _ _ _)
      | succ count =>
        rw [compileMiddle]
        have hfirst := hadmits.sublist (groups_sublist_groupsOf List.mem_cons_self)
        refine .bind (he true frames base hfirst) fun code => ?_
        refine .bind (ih hrest hbehind 0 count (base + code.length)) fun rest => ?_
        exact .pure fun hrest hcode => hcode.append hrest

/-- The branches of a choice are blocks if their trees are. -/
theorem compiles_branches {branches : List Expression} (h : ∀ e ∈ branches, TreeNests l back e)
    (hadmits : l.Admits back frames (Expression.groupsOf branches)) (hard : Bool) (base : Nat) :
    Compiles l frames (compileBranches hard branches base) fun codes =>
      codes.length = branches.length ∧ BranchBlocks l frames base codes := by
  induction branches generalizing base with
  | nil =>
    rw [compileBranches]
    exact .pure ⟨rfl, trivial⟩
  | cons e rest ih =>
    obtain ⟨he, hrest⟩ := List.forall_mem_cons.mp h
    have hfirst := hadmits.sublist (groups_sublist_groupsOf List.mem_cons_self)
    have hbehind := hadmits.sublist (List.sublist_append_right e.groups (Expression.groupsOf rest))
    cases rest with
    | nil =>
      rw [compileBranches]
      exact .bind (he hard frames base hfirst) fun code => .pure fun hcode => ⟨rfl, hcode⟩
    | cons next rest =>
      rw [compileBranches]
      · refine .bind (he hard frames (base + 1) hfirst) fun code => ?_
        refine .bind (ih hrest hbehind (base + code.length + 2)) fun codes => ?_
        refine .pure fun hothers hcode => ?_
        obtain ⟨hlength, hcodes⟩ := hothers
        refine ⟨by simp [hlength], ?_⟩
        cases codes with
        | nil => simp at hlength
        | cons other codes => exact ⟨hcode, hcodes⟩
      · simp

/-- The body of a look-around and the step back before it are a block within its frame. -/
theorem compiles_lookBody {β : Type} {e : Expression} {side : Side}
    (he : TreeNests l (side = .behind || back) e) {frame : Frame}
    (hframe : (∃ slot, frame = .look side slot) ∨ frame = .denial side)
    (hadmits : l.Admits back frames e.groups) (base : Nat)
    {f : List Instr → List Instr → Compiler β} {R : β → Prop}
    (hf : ∀ back code, Compiles l (frame :: frames) (f back code) fun b =>
      (nesting l).IsBlock (frame :: frames) [] base (back ++ code) → R b) :
    Compiles l (frame :: frames) (do
      let back ← stepBack side e
      let code ← compile e false (base + back.length)
      f back code) R := by
  have hinner := hadmits.withinLook hframe
  have hframes : (∃ slot outer, frame :: frames = .look side slot :: outer) ∨
      ∃ outer, frame :: frames = .denial side :: outer := by
    rcases hframe with ⟨slot, rfl⟩ | rfl
    · exact .inl ⟨slot, frames, rfl⟩
    · exact .inr ⟨frames, rfl⟩
  refine .bind (compiles_stepBack side e hframes base) fun back => ?_
  refine .bind (he false _ (base + back.length) hinner) fun code => ?_
  exact (hf back code).imp fun _ hR hcode hback => hR (hback.append hcode)

/-- Look-behind for one of several bodies gives blocks if the bodies do. -/
theorem compiles_anyBehind {branches : List Expression} (h : ∀ e ∈ branches, TreeNests l true e)
    (hadmits : l.Admits back frames (Expression.groupsOf branches)) (base : Nat) :
    Compiles l frames (compileAnyBehind branches base) fun codes =>
      codes.length = branches.length ∧ BranchBlocks l frames base codes := by
  induction branches generalizing base with
  | nil =>
    rw [compileAnyBehind]
    exact .pure ⟨rfl, trivial⟩
  | cons e rest ih =>
    obtain ⟨he, hrest⟩ := List.forall_mem_cons.mp h
    have hfirst := hadmits.sublist (groups_sublist_groupsOf List.mem_cons_self)
    have hbehind := hadmits.sublist (List.sublist_append_right e.groups (Expression.groupsOf rest))
    rw [compileAnyBehind]
    refine .withinLook .behind fun slot hfree => ?_
    refine compiles_lookBody he (.inl ⟨slot, rfl⟩) hfirst _ fun back code => ?_
    refine .bind (ih hrest hbehind _).outer fun codes => ?_
    refine .pure fun hothers hcode hslot => ?_
    obtain ⟨hlength, hcodes⟩ := hothers
    refine ⟨by simp [hlength], ?_⟩
    have hlook := isBlock_lookCode hfree hslot hcode
    cases rest with
    | nil =>
      obtain rfl := List.eq_nil_of_length_eq_zero hlength
      exact hlook
    | cons next rest =>
      cases codes with
      | nil => simp at hlength
      | cons other codes => exact ⟨hlook, hcodes⟩

/-- Look-behind that none of several bodies may pass is a block if the bodies are. -/
theorem compiles_allBehind {branches : List Expression} (h : ∀ e ∈ branches, TreeNests l true e)
    (hadmits : l.Admits back frames (Expression.groupsOf branches)) (base : Nat) :
    Compiles l frames (compileAllBehind branches base)
      fun code => (nesting l).IsBlock frames [] base code := by
  induction branches generalizing base with
  | nil =>
    rw [compileAllBehind]
    exact .pure (.nil _ _ _ _)
  | cons e rest ih =>
    obtain ⟨he, hrest⟩ := List.forall_mem_cons.mp h
    have hfirst := hadmits.sublist (groups_sublist_groupsOf List.mem_cons_self)
    have hbehind := hadmits.sublist (List.sublist_append_right e.groups (Expression.groupsOf rest))
    rw [compileAllBehind]
    refine .inner (.denial .behind) (by simp) ?_
    refine compiles_lookBody he (.inr rfl) hfirst _ fun back code => ?_
    refine .bind (ih hrest hbehind _).outer fun rest => ?_
    exact .pure fun hrest hcode => (isBlock_lookCode_negated 0 hcode).append hrest

/-- The choices of a look-behind nest if each of them does. -/
theorem compiles_eachBehind (negated : Bool) {body : Expression}
    (h : ∀ e ∈ choicesOf body, TreeNests l true e) (hadmits : l.Admits back frames body.groups)
    (base : Nat) : Compiles l frames (compileEachBehind negated body base)
      fun code => (nesting l).IsBlock frames [] base code := by
  unfold compileEachBehind
  split
  · refine .ite (fun _ => compiles_allBehind h hadmits base) fun _ => ?_
    exact .bind (compiles_anyBehind h hadmits base) fun codes =>
      .pure fun hcodes => isBlock_choice hcodes.2
  · exact .pure (.nil _ _ _ _)

/-! ### Trees by their constructors -/

variable {body : Expression}

/-- A tree alone is plain parts as a list of one. -/
theorem compiles_plainTree {e : Expression} (hadmits : l.Admits back frames e.groups) :
    Compiles l frames (do return [← plainInstr [e]])
      fun code => (nesting l).IsBlock frames [] base code :=
  compiles_plain (by simpa [Expression.groupsOf] using hadmits) base

/-- A tree that is a single instruction or a plain part. -/
theorem treeNests_leaf {e : Expression} (instr : Instr)
    (hinstr : ∀ frames base, instr.Agrees l (fun _ => frames) base) (htargets : instr.targets = [])
    (h : ∀ hard base, compile e hard base =
      if !hard && !e.isHard then do return [← plainInstr [e]] else return [instr]) :
    TreeNests l back e := by
  intro hard frames base hadmits
  rw [h]
  refine .ite (fun _ => compiles_plainTree hadmits) fun _ => .pure ?_
  exact .single (isLevel_of_agrees (hinstr frames base) htargets)

/-- A sequence nests if its parts do. -/
theorem treeNests_concat {parts : List Expression} (h : ∀ e ∈ parts, TreeNests l back e) :
    TreeNests l back (.concat parts) := by
  intro hard frames base hadmits
  have hparts : l.Admits back frames (Expression.groupsOf parts) := hadmits
  rw [compile]
  refine .ite (fun _ => compiles_plainTree hadmits) fun _ => ?_
  refine .bind (compiles_plainCode (hparts.sublist (groupsOf_sublist (List.take_sublist _ _))) base)
    fun first => ?_
  refine .bind (compiles_middle h hparts _ _ (base + first.length)) fun body => ?_
  refine .bind (compiles_plainCode (hparts.sublist (groupsOf_sublist (List.drop_sublist _ _)))
    (base + (first ++ body).length)) fun last => ?_
  exact .pure fun hlast hbody hfirst => (hfirst.append hbody).append hlast

/-- A choice nests if its branches do. -/
theorem treeNests_alternation {branches : List Expression}
    (h : ∀ e ∈ branches, TreeNests l back e) : TreeNests l back (.alternation branches) := by
  intro hard frames base hadmits
  rw [compile]
  refine .ite (fun _ => compiles_plainTree hadmits) fun _ => ?_
  exact .bind (compiles_branches h hadmits hard base) fun codes =>
    .pure fun hcodes => isBlock_choice hcodes.2

/-- A group nests if its body does. -/
theorem treeNests_group (h : TreeNests l back body) (index : Nat) :
    TreeNests l back (.group index body) := by
  intro hard frames base hadmits
  have hgroups : l.Admits back frames (index :: body.groups) := hadmits
  obtain ⟨hpos, hle⟩ := hgroups.within index List.mem_cons_self
  rw [compile]
  refine .ite (fun _ => compiles_plainTree hadmits) fun _ => .inner (.group index) (by simp) ?_
  refine .bind (h hard _ (base + 1) hgroups.inner) fun code => .pure fun hcode => ?_
  refine .enclose hcode (fun label hbase hfirst _ => ?_) (by simp [nesting, Instr.targets])
    (fun label hlast hbehind => ?_) rfl
  · change l.Saves (2 * index) (label base) (label (base + 1))
    rw [hbase, hfirst]
    exact .enter index hpos hle (hgroups.not_mem List.mem_cons_self) rfl
  · change l.Saves (2 * index + 1) (label (base + code.length + 1)) (label (base + code.length + 2))
    rw [hlast, hbehind]
    exact .leave index hpos hle rfl

/-- A look-around nests if its body and the choices of it do. -/
theorem treeNests_lookAround {side : Side} (h : TreeNests l (side = .behind || back) body)
    (hchoices : ∀ e ∈ choicesOf body, TreeNests l (side = .behind || back) e) (negated : Bool) :
    TreeNests l back (.lookAround side negated body) := by
  intro hard frames base hadmits
  have hbody : l.Admits back frames body.groups := hadmits
  rw [compile]
  refine .ite (fun _ => compiles_plainTree hadmits) fun _ => .ite (fun hbehind => ?_) fun _ => ?_
  · simp only [Bool.and_eq_true, decide_eq_true_eq] at hbehind
    obtain ⟨⟨rfl, -⟩, -⟩ := hbehind
    exact compiles_eachBehind negated hchoices hbody base
  cases negated with
  | true =>
    refine .inner (.denial side) (by simp) ?_
    exact compiles_lookBody h (.inr rfl) hbody _ fun back code =>
      .pure fun hcode => isBlock_lookCode_negated 0 hcode
  | false =>
    refine .withinLook side fun slot hfree => ?_
    exact compiles_lookBody h (.inl ⟨slot, rfl⟩) hbody _ fun back code =>
      .pure fun hcode hslot => isBlock_lookCode hfree hslot hcode

/-- A counted repetition is a block if its body is one and the counter is its own. -/
theorem isBlock_countCode {code : List Instr} {greedy : Bool} {least counter : Nat}
    {most : Option Nat} (hcounter : l.IsFree frames counter)
    (hcode : (nesting l).IsBlock frames [] (base + 2) code) :
    (nesting l).IsBlock frames [] base (countCode greedy least most counter base code) := by
  have hleave : base + code.length + 3 = base + 1 + code.length + 2 := by omega
  exact .cons ⟨⟨hcounter, rfl⟩, by simp [nesting, Instr.targets]⟩ (.surround hleave
    ⟨⟨hcounter, rfl, rfl⟩, by simp [nesting, Instr.targets]⟩ hcode (isLevel_jump (by simp)))

/-- A loop that checks for empty turns is a block if its body is one and its slots are its own. -/
theorem isBlock_loopCode {code : List Instr} {greedy : Bool} {least counter check : Nat}
    (hcounter : l.IsFree frames counter) (hcheck : l.IsFree frames check)
    (hcode : (nesting l).IsBlock frames [] (base + 2) code) :
    (nesting l).IsBlock frames [] base (loopCode greedy least counter check base code) := by
  have hleave : base + code.length + 3 = base + 1 + code.length + 2 := by omega
  exact .cons ⟨⟨hcounter, rfl⟩, by simp [nesting, Instr.targets]⟩ (.surround hleave
    ⟨⟨hcounter, hcheck, rfl, rfl⟩, by simp [nesting, Instr.targets]⟩ hcode
    (isLevel_jump (by simp)))

/-- A repetition nests if its body does, in each way that it is compiled. -/
theorem treeNests_iteration (h : TreeNests l back body) (least : Nat) (most : Option Nat)
    (greedy : Bool) : TreeNests l back (.iteration least most greedy body) := by
  intro hard frames base hadmits
  have hbody : l.Admits back frames body.groups := hadmits
  rw [compile]
  refine .ite (fun _ => compiles_plainTree hadmits) fun _ => .ite (fun _ => ?option) fun _ =>
    .ite (fun _ => ?loop) fun _ => .ite (fun _ => ?star) fun _ => .ite (fun _ => ?plus) fun _ =>
    ?count
  case option =>
    refine .bind (h _ frames (base + 1) hbody) fun code => .pure fun hcode => ?_
    have hinner : (nesting l).IsBlock frames [base + code.length + 1] (base + 1) code :=
      hcode.widen (by simp; omega)
    refine (hinner.cons (isLevel_choose (.inr (.inl rfl)) (.inr (.inr (by simp))))).narrow ?_
    simp
    omega
  case loop =>
    refine .bind Compiles.newSlot fun counter => .bind Compiles.newSlot fun check => ?_
    refine .bind (h _ frames (base + 2) hbody) fun code => ?_
    exact .pure fun hcode hcheck hcounter => isBlock_loopCode hcounter hcheck hcode
  case star =>
    refine .bind (h _ frames (base + 1) hbody) fun code => .pure fun hcode => ?_
    exact .surround rfl (isLevel_choose (.inr (.inl rfl)) (.inr (.inr (by simp)))) hcode
      (isLevel_jump (by simp))
  case plus =>
    refine .bind (h _ frames base hbody) fun code => .pure fun hcode => ?_
    have hinner : (nesting l).IsBlock frames [base] base code := hcode.widen (by simp)
    refine (hinner.concat (isLevel_choose (.inr (.inr (by simp))) (.inr (.inl rfl)))).narrow ?_
    simp
  case count =>
    refine .bind Compiles.newSlot fun counter => ?_
    refine .bind (h _ frames (base + 2) hbody) fun code => ?_
    exact .pure fun hcode hcounter => isBlock_countCode hcounter hcode

/-- An atomic group nests if its body does. -/
theorem treeNests_atomic (h : TreeNests l back body) : TreeNests l back (.atomic body) := by
  intro hard frames base hadmits
  rw [compile]
  refine .ite (fun _ => compiles_plainTree hadmits) fun _ => ?_
  refine .bind (h false frames (base + 1) hadmits) fun code => .pure fun hcode => ?_
  exact .surround rfl (isLevel_of_agrees rfl rfl) hcode (isLevel_of_agrees rfl rfl)

/-- A conditional nests if its parts do. -/
theorem treeNests_conditional {test yes no : Expression} (htest : TreeNests l back test)
    (hyes : TreeNests l back yes) (hno : TreeNests l back no) :
    TreeNests l back (.conditional test yes no) := by
  intro hard frames base hadmits
  have hgroups : l.Admits back frames (test.groups ++ yes.groups ++ no.groups) := hadmits
  have hfirst := hgroups.sublist (List.sublist_append_left _ _)
  rw [compile]
  refine .ite (fun _ => compiles_plainTree hadmits) fun _ => ?_
  refine .bind (htest hard frames _ (hfirst.sublist (List.sublist_append_left _ _)))
    fun testCode => ?_
  refine .bind (hyes hard frames _ (hfirst.sublist (List.sublist_append_right _ _)))
    fun yesCode => ?_
  refine .bind (hno hard frames _ (hgroups.sublist (List.sublist_append_right _ _)))
    fun noCode => .pure fun hno hyes htest => ?_
  -- Behind the mark that opens it, the test with what follows it is the first branch of a choice.
  let first := testCode ++ .endAtomic :: yesCode
  let noBase := base + 2 + testCode.length + 1 + yesCode.length + 1
  have hlength : first.length = testCode.length + yesCode.length + 1 := by
    simp [first, Nat.add_assoc]
  have hfirst : (nesting l).IsBlock frames [] (base + 2) first :=
    htest.append (.cons (isLevel_of_agrees rfl rfl) hyes)
  have hno : (nesting l).IsBlock frames [noBase + noCode.length] noBase noCode :=
    hno.widen (by simp [noBase])
  have hchoice : (nesting l).IsBlock frames [noBase + noCode.length] (base + 1)
      (.fork (base + 2) noBase :: first ++ .jump (noBase + noCode.length) :: noCode) := by
    refine .branch ?_ ⟨⟨.inl rfl, .inl rfl⟩, by simp [nesting, Instr.targets]⟩ hfirst
      (isLevel_jump (by simp)) (by omega) hno
    omega
  have hwhole : (nesting l).IsBlock frames [noBase + noCode.length] base (.beginAtomic ::
      (.fork (base + 2) noBase :: first ++ .jump (noBase + noCode.length) :: noCode)) :=
    .cons (isLevel_of_agrees rfl rfl) hchoice
  have hnarrow := hwhole.narrow (by simp [hlength]; omega)
  simpa [first, noBase] using hnarrow

/-- The code of a tree is a block, as long as the tree does not move the start of the match inside
of a look-behind where that matters. -/
theorem treeNests {e : Expression}
    (hstarts : l.startsAhead = true → e.movesStartBack back = false) : TreeNests l back e := by
  -- Look-behind compiles the branches of its body one by one, so they are kept at hand.
  suffices h : TreeNests l back e ∧ ∀ b ∈ choicesOf e, TreeNests l back b from h.1
  induction e using Expression.partsInduction generalizing back with
  | empty =>
    refine ⟨fun hard frames base hadmits => ?_, by simp [choicesOf]⟩
    rw [compile]
    exact .ite (fun _ => compiles_plainTree hadmits) fun _ => .pure (.nil _ _ _ _)
  | anyChar lineFeed =>
    refine ⟨?_, by simp [choicesOf]⟩
    cases lineFeed with
    | true => exact treeNests_leaf .anyChar (fun _ _ => rfl) rfl fun _ _ => by rw [compile]
    | false => exact treeNests_leaf .anyButLineFeed (fun _ _ => rfl) rfl fun _ _ => by rw [compile]
  | assertion condition =>
    refine ⟨?_, by simp [choicesOf]⟩
    exact treeNests_leaf (.assertion condition) (fun _ _ => rfl) rfl fun _ _ => by rw [compile]
  | literal c ignoreCase | charClass text ignoreCase =>
    refine ⟨fun hard frames base hadmits => ?_, by simp [choicesOf]⟩
    rw [compile]
    exact .ite (fun _ => compiles_plainTree hadmits) fun _ => compiles_plainTree hadmits
  | concat parts ih =>
    simp only [Expression.movesStartBack, Expression.anyMovesStartBack_eq_false_iff] at hstarts
    exact ⟨treeNests_concat fun e he => (ih e he fun h => hstarts h e he).1,
      by simp [choicesOf]⟩
  | alternation branches ih =>
    simp only [Expression.movesStartBack, Expression.anyMovesStartBack_eq_false_iff] at hstarts
    have hbranches : ∀ e ∈ branches, TreeNests l back e := fun e he =>
      (ih e he fun h => hstarts h e he).1
    exact ⟨treeNests_alternation hbranches, hbranches⟩
  | group index body ih => exact ⟨treeNests_group (ih hstarts).1 index, by simp [choicesOf]⟩
  | lookAround side negated body ih =>
    obtain ⟨hbody, hchoices⟩ := ih hstarts
    exact ⟨treeNests_lookAround hbody hchoices negated, by simp [choicesOf]⟩
  | iteration least most greedy body ih =>
    exact ⟨treeNests_iteration (ih hstarts).1 least most greedy, by simp [choicesOf]⟩
  | backReference index =>
    refine ⟨?_, by simp [choicesOf]⟩
    exact treeNests_leaf (.backReference index) (fun _ _ => rfl) rfl fun _ _ => by rw [compile]
  | groupMatched index =>
    refine ⟨?_, by simp [choicesOf]⟩
    exact treeNests_leaf (.groupMatched index) (fun _ _ => rfl) rfl fun _ _ => by rw [compile]
  | atomic body ih => exact ⟨treeNests_atomic (ih hstarts).1, by simp [choicesOf]⟩
  | keepOut =>
    refine ⟨?_, by simp [choicesOf]⟩
    refine fun hard frames base hadmits => ?_
    rw [compile]
    refine .ite (fun _ => compiles_plainTree hadmits) fun _ => .pure (.single ?_)
    exact isLevel_of_agrees (.move (fun h => hadmits.ahead (hstarts h) h) rfl) rfl
  | searchStart =>
    refine ⟨?_, by simp [choicesOf]⟩
    exact treeNests_leaf .searchStart (fun _ _ => rfl) rfl fun _ _ => by rw [compile]
  | conditional test yes no ihTest ihYes ihNo =>
    simp only [Expression.movesStartBack, Bool.or_eq_false_iff] at hstarts
    exact ⟨treeNests_conditional (ihTest fun h => (hstarts h).1.1).1
      (ihYes fun h => (hstarts h).1.2).1 (ihNo fun h => (hstarts h).2).1, by simp [choicesOf]⟩

end Trees

/-! ## Programs -/

/-- A program whose addresses are labelled with what a run is in. It begins with saving the start of
the match, where no run comes again, and accepts behind saving the end. -/
structure Program.Nests (p : Program) (l : Layout) (frames : Nat → Frames) : Prop where
  first : p.code[0]? = some (.save 0)
  before : frames 0 = [.start]
  behind : frames 1 = []
  agrees : ∀ address, 0 < address → ((p.code[address]?).getD .accept).Agrees l frames address

/-- The layout of a program. -/
def Program.layout (p : Program) (startsAhead : Bool) : Layout :=
  ⟨p.groupCount - 1, p.slotCount, startsAhead⟩

/-- The addresses of every program that is made from a tree can be labelled so. -/
theorem Program.exists_nests {e : Expression} {groupCount : Nat} {p : Program}
    (h : ofExpression e groupCount = .ok p) {startsAhead : Bool}
    (hstarts : startsAhead = true → e.movesStartBack false = false)
    (hincreasing : e.groups.Pairwise (· < ·))
    (hwithin : ∀ index ∈ e.groups, 0 < index ∧ index ≤ groupCount) :
    2 * ((p.layout startsAhead).groups + 1) ≤ p.slotCount ∧ 0 < p.groupCount ∧
      ∃ frames, p.Nests (p.layout startsAhead) frames := by
  obtain ⟨⟨code, slots⟩, hcode, h⟩ := exists_of_bind_eq_ok h
  obtain rfl := Except.ok.inj h
  let l : Layout := ⟨groupCount, slots, startsAhead⟩
  have hadmits : l.Admits false [] e.groups :=
    ⟨fun _ _ => by simp [Frames.Ahead], hincreasing, hwithin, by simp⟩
  obtain ⟨hslots, hblock⟩ := treeNests (l := l) hstarts true [] 1 hadmits (2 * (groupCount + 1))
    ⟨le_rfl, by simp⟩ _ rfl code slots hcode
  refine ⟨hslots, Nat.succ_pos _, ?_⟩
  obtain ⟨label, hlabel⟩ := hblock le_rfl
  let last := 1 + code.length
  let frames (a : Nat) : Frames :=
    if a = 0 then [.start] else if a ≤ last then label a else [.finish]
  have hinside {a : Nat} (ha : 0 < a) (hle : a ≤ last) : frames a = label a := by
    simp only [frames, if_neg ha.ne', if_pos hle]
  have hbehind {a : Nat} (ha : last < a) : frames a = [.finish] := by
    have hpos : ¬ a = 0 := by omega
    simp only [frames, if_neg hpos, if_neg (Nat.not_le.mpr ha)]
  have hone : frames 1 = [] := by
    rw [hinside Nat.one_pos (by omega), hlabel.outside 1 (.inl le_rfl)]
  refine ⟨frames, rfl, rfl, hone, fun a ha => ?_⟩
  simp only [List.getElem?_toArray]
  obtain ⟨i, rfl⟩ := Nat.exists_eq_succ_of_ne_zero ha.ne'
  rw [Nat.succ_eq_add_one, List.getElem?_cons_succ]
  rcases Nat.lt_trichotomy i code.length with hlt | rfl | hgt
  · rw [List.getElem?_append_left hlt]
    have hi : code[i]? = some code[i] := List.getElem?_eq_getElem hlt
    have hagrees := hlabel.agrees i _ hi
    rw [hi, Option.getD_some, Nat.add_comm i 1]
    refine (nesting l).congr (hinside (by omega) (by omega)) (hinside (by omega) (by omega))
      (fun t ht => ?_) hagrees
    have := (hlabel.targets i _ hi t ht).resolve_right List.not_mem_nil
    exact hinside (by omega) (by omega)
  · rw [List.getElem?_append_right le_rfl, Nat.sub_self]
    change l.Saves 1 (frames (code.length + 1)) (frames (code.length + 1 + 1))
    rw [hinside (by omega) (by omega), hlabel.outside _ (.inr (by omega)), hbehind (by omega)]
    exact .stop rfl
  · have haccept : ((code ++ [Instr.save 1, .accept])[i]?).getD .accept = .accept := by
      rw [List.getElem?_append_right hgt.le]
      obtain ⟨j, hj⟩ := Nat.exists_eq_add_of_lt hgt
      have hplace : i - code.length = j + 1 := by omega
      rw [hplace, List.getElem?_cons_succ]
      cases j <;> rfl
    rw [haccept]
    exact hbehind (by omega)

end GrammarScan.Backtrack
