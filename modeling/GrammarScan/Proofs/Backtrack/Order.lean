import GrammarScan.Proofs.Backtrack.Nesting

/-!
# What a match with backtracking tells about its groups

The frames of an address tell how far back a run may be there: not before the start of a group that
is open, unless it is in a look-behind inside of that, which then knows where it comes back to. So a
group ends where it starts or behind, and where no group is open its ends are in order, in the run
itself and in every branch that it has stored. The same holds of the table that plain parts share.
-/

namespace GrammarScan.Backtrack

open Regular (Slots Ordered of_setIfInBounds_eq_some ordered_setStop)

/-- Whether a run may be at a position within frames. An attempt that began at `origin` is before
that, or before the start of an open group, only in a look-behind. -/
def Holds (l : Layout) (origin size : Nat) (slots : Slots) : Frames → (position : Nat) → Prop
  | [], position => origin ≤ position ∧ position ≤ size
  | .group index :: outer, position => 0 < index ∧ index ≤ l.groups ∧
    (∀ start, (slots[2 * index]?).join = some start → start ≤ position) ∧
      Holds l origin size slots outer position
  | .look side slot :: outer, position => 2 * (l.groups + 1) ≤ slot ∧ position ≤ size ∧
    ∃ begun, (slots[slot]?).join = some begun ∧ (side = .ahead → begun ≤ position) ∧
      Holds l origin size slots outer begun
  | .denial .ahead :: outer, position => Holds l origin size slots outer position
  | .denial .behind :: _, position => position ≤ size
  | .start :: _, _ => False
  | .finish :: _, position =>
    position ≤ size ∧ ∃ stop, (slots[1]?).join = some stop ∧ origin ≤ stop ∧ stop ≤ size

/-- What a run holds at a position within frames: it may be there, it has a start, nothing that was
saved for a group lies behind the text, and the groups that are not open are in order. -/
structure InOrder (l : Layout) (origin size : Nat) (frames : Frames) (position : Nat)
    (slots : Slots) : Prop where
  holds : Holds l origin size slots frames position
  size_eq : slots.size = l.slots
  begun : ∃ start, (slots[0]?).join = some start ∧ (l.startsAhead = true → origin ≤ start)
  bounded : ∀ slot value : Nat, slot < 2 * (l.groups + 1) → (slots[slot]?).join = some value →
    value ≤ size
  ordered : ∀ index, 0 < index → index ≤ l.groups → .group index ∉ frames → Ordered slots index

/-- The slots of a match: it ends within the text and not before its start, and so do its groups.
The start is not before the given position if it is only moved where a run has gone ahead. -/
structure Finished (l : Layout) (origin size : Nat) (slots : Slots) : Prop where
  range : ∃ start stop, (slots[0]?).join = some start ∧ (slots[1]?).join = some stop ∧
    start ≤ stop ∧ (l.startsAhead = true → origin ≤ start)
  bounded : ∀ slot value : Nat, slot < 2 * (l.groups + 1) → (slots[slot]?).join = some value →
    value ≤ size
  ordered : ∀ index, 0 < index → index ≤ l.groups → Ordered slots index

/-- A table in which the groups of plain parts are in order. -/
structure TableInOrder (size : Nat) (table : Slots) : Prop where
  bounded : ∀ slot value : Nat, (table[slot]?).join = some value → value ≤ size
  ordered : ∀ index, 0 < index → Ordered table index

section Frames

variable {l : Layout} {origin size position : Nat} {slots : Slots} {frames : Frames} {slot : Nat}

/-- A run stays within the text. -/
theorem Holds.le_size (h : Holds l origin size slots frames position) : position ≤ size := by
  induction frames with
  | nil => exact h.2
  | cons frame outer ih =>
    cases frame with
    | group index => exact ih h.2.2.2
    | look side slot => exact h.2.1
    | denial side =>
      cases side with
      | ahead => exact ih h
      | behind => exact h
    | start => exact h.elim
    | finish => exact h.1

/-- A run that has only gone ahead is not before where its attempt began. -/
theorem Holds.origin_le (h : Holds l origin size slots frames position) (hahead : frames.Ahead) :
    origin ≤ position := by
  induction frames generalizing position with
  | nil => exact h.1
  | cons frame outer ih =>
    obtain ⟨hframe, houter⟩ := List.forall_mem_cons.mp hahead
    cases frame with
    | group index => exact ih h.2.2.2 houter
    | look side slot =>
      cases side with
      | ahead =>
        obtain ⟨-, -, begun, -, hle, hbegun⟩ := h
        exact (ih hbegun houter).trans (hle rfl)
      | behind => contradiction
    | denial side =>
      cases side with
      | ahead => exact ih h houter
      | behind => contradiction
    | start | finish => contradiction

/-- A run may always go on. -/
theorem Holds.mono (h : Holds l origin size slots frames position) {later : Nat}
    (hle : position ≤ later) (hsize : later ≤ size) : Holds l origin size slots frames later := by
  induction frames with
  | nil => exact ⟨h.1.trans hle, hsize⟩
  | cons frame outer ih =>
    cases frame with
    | group index =>
      obtain ⟨hpos, hindex, hstart, houter⟩ := h
      exact ⟨hpos, hindex, fun start hslot => (hstart start hslot).trans hle, ih houter⟩
    | look side slot =>
      obtain ⟨hslot, -, begun, hbegun, hahead, houter⟩ := h
      exact ⟨hslot, hsize, begun, hbegun, fun hside => (hahead hside).trans hle, houter⟩
    | denial side =>
      cases side with
      | ahead => exact ih h
      | behind => exact hsize
    | start => exact h.elim
    | finish => exact ⟨hsize, h.2⟩

/-- Where a run may be depends on the starts of the open groups and on the slots of look-around. -/
theorem Holds.congr {slots' : Slots} (h : Holds l origin size slots frames position)
    (hgroups : ∀ index, 0 < index → index ≤ l.groups → .group index ∈ frames →
      slots'[2 * index]? = slots[2 * index]?)
    (hlooks : ∀ side slot, 2 * (l.groups + 1) ≤ slot → .look side slot ∈ frames →
      slots'[slot]? = slots[slot]?)
    (hstop : slots'[1]? = slots[1]?) : Holds l origin size slots' frames position := by
  induction frames generalizing position with
  | nil => exact h
  | cons frame outer ih =>
    have ih {position : Nat} (h : Holds l origin size slots outer position) :=
      ih h (fun index hpos hle hmem => hgroups index hpos hle (List.mem_cons_of_mem _ hmem))
        fun side slot hle hmem => hlooks side slot hle (List.mem_cons_of_mem _ hmem)
    cases frame with
    | group index =>
      obtain ⟨hpos, hindex, hstart, houter⟩ := h
      refine ⟨hpos, hindex, fun start hslot => hstart start ?_, ih houter⟩
      rwa [hgroups index hpos hindex List.mem_cons_self] at hslot
    | look side slot =>
      obtain ⟨hslot, hsize, begun, hbegun, hahead, houter⟩ := h
      refine ⟨hslot, hsize, begun, ?_, hahead, ih houter⟩
      rwa [hlooks side slot hslot List.mem_cons_self]
    | denial side =>
      cases side with
      | ahead => exact ih h
      | behind => exact h
    | start => exact h.elim
    | finish => exact ⟨h.1, by rw [hstop]; exact h.2⟩

/-- Saving in a slot that no frame is about changes nothing about where a run may be. -/
theorem Holds.setIfInBounds (h : Holds l origin size slots frames position)
    (hgroups : ∀ index, 0 < index → index ≤ l.groups → slot = 2 * index → .group index ∉ frames)
    (hlooks : 2 * (l.groups + 1) ≤ slot → ∀ side, .look side slot ∉ frames) (hstop : slot ≠ 1)
    (value : Option Nat) :
    Holds l origin size (slots.setIfInBounds slot value) frames position := by
  refine h.congr (fun index hpos hle hmem => ?_) (fun side other hle hmem => ?_) ?_
  · exact Array.getElem?_setIfInBounds_ne fun heq => hgroups index hpos hle heq hmem
  · refine Array.getElem?_setIfInBounds_ne fun heq => ?_
    subst heq
    exact hlooks hle side hmem
  · exact Array.getElem?_setIfInBounds_ne hstop

end Frames

/-- What is saved within a bound keeps all slots within it. -/
theorem le_of_setIfInBounds {slots : Slots} {count size slot saved : Nat}
    (h : ∀ other value : Nat, other < count → (slots[other]?).join = some value → value ≤ size)
    (hsaved : saved ≤ size) {other value : Nat} (hother : other < count)
    (hvalue : ((slots.setIfInBounds slot (some saved))[other]?).join = some value) :
    value ≤ size := by
  rcases of_setIfInBounds_eq_some hvalue with ⟨-, heq⟩ | ⟨-, hvalue⟩
  · exact Option.some.inj heq ▸ hsaved
  · exact h other value hother hvalue

namespace InOrder

variable {l : Layout} {origin size position : Nat} {slots : Slots} {frames : Frames} {slot : Nat}

/-- Going on in the text keeps what a run holds. -/
theorem goOn (h : InOrder l origin size frames position slots) {later : Nat}
    (hle : position ≤ later) (hsize : later ≤ size) :
    InOrder l origin size frames later slots :=
  ⟨h.holds.mono hle hsize, h.size_eq, h.begun, h.bounded, h.ordered⟩

/-- A run may enter the body of a negative look-around. -/
theorem enter (h : InOrder l origin size frames position slots) {inner : Frames}
    (hinner : frames.Enters inner) : InOrder l origin size inner position slots := by
  rcases hinner with rfl | ⟨side, rfl⟩
  · exact h
  · refine ⟨?_, h.size_eq, h.begun, h.bounded, fun index hpos hle hmem =>
      h.ordered index hpos hle fun hframes => hmem (List.mem_cons_of_mem _ hframes)⟩
    cases side with
    | ahead => exact h.holds
    | behind => exact h.holds.le_size

/-- Directly inside of a look-behind a run may go back. -/
theorem goBack (h : InOrder l origin size frames position slots)
    (hframes : (∃ slot outer, frames = .look .behind slot :: outer) ∨
      ∃ outer, frames = .denial .behind :: outer) {earlier : Nat} (hle : earlier ≤ position) :
    InOrder l origin size frames earlier slots := by
  refine ⟨?_, h.size_eq, h.begun, h.bounded, h.ordered⟩
  have hsize := hle.trans h.holds.le_size
  have hholds := h.holds
  rcases hframes with ⟨slot, outer, rfl⟩ | ⟨outer, rfl⟩
  · obtain ⟨hslot, -, begun, hbegun, -, houter⟩ := hholds
    exact ⟨hslot, hsize, begun, hbegun, by simp, houter⟩
  · exact hsize

/-- A free slot may hold anything. -/
theorem setFree (h : InOrder l origin size frames position slots) (hfree : l.IsFree frames slot)
    (value : Nat) :
    InOrder l origin size frames position (slots.setIfInBounds slot (some value)) := by
  have hslot := hfree.groups_le
  refine ⟨h.holds.setIfInBounds (by omega) (fun _ => hfree.fresh) (by omega) _, by simp [h.size_eq],
    ?_, fun other saved hlt hsaved => ?_, fun index hpos hle hmem => ?_⟩
  · rw [Array.getElem?_setIfInBounds_ne (by omega)]
    exact h.begun
  · rw [Array.getElem?_setIfInBounds_ne (by omega)] at hsaved
    exact h.bounded other saved hlt hsaved
  · exact (h.ordered index hpos hle hmem).setIfInBounds (by omega) (by omega) _

/-- Saving the position where a frame is opened or closed keeps what a run holds. -/
theorem save (h : InOrder l origin size frames position slots) {next : Frames}
    (hsaves : l.Saves slot frames next) (hslots : 2 * (l.groups + 1) ≤ l.slots) :
    InOrder l origin size next position (slots.setIfInBounds slot (some position)) := by
  have hsize : (slots.setIfInBounds slot (some position)).size = l.slots := by simp [h.size_eq]
  have hbounded : ∀ other value : Nat, other < 2 * (l.groups + 1) →
      ((slots.setIfInBounds slot (some position))[other]?).join = some value → value ≤ size :=
    fun _ _ hlt => le_of_setIfInBounds h.bounded h.holds.le_size hlt
  have hbegun (hslot : slot ≠ 0) : ∃ start,
      ((slots.setIfInBounds slot (some position))[0]?).join = some start ∧
        (l.startsAhead = true → origin ≤ start) := by
    rw [Array.getElem?_setIfInBounds_ne hslot]
    exact h.begun
  cases hsaves with
  | enter index pos le fresh heq =>
    subst heq
    refine ⟨⟨pos, le, fun start hstart => ?_, ?_⟩, hsize, hbegun (by omega), hbounded,
      fun other hpos hle hmem => ?_⟩
    · rcases of_setIfInBounds_eq_some hstart with ⟨-, heq⟩ | ⟨hne, -⟩
      · exact (Option.some.inj heq).ge
      · contradiction
    · refine h.holds.setIfInBounds (fun other _ _ heq => ?_) (by omega) (by omega) _
      obtain rfl : index = other := by omega
      exact fresh
    · rw [List.mem_cons, not_or] at hmem
      have hne : other ≠ index := fun heq => hmem.1 (congrArg Frame.group heq)
      exact (h.ordered other hpos hle hmem.2).setIfInBounds (by omega) (by omega) _
  | leave index pos le heq =>
    subst heq
    obtain ⟨-, -, hstart, houter⟩ := h.holds
    refine ⟨houter.setIfInBounds (by omega) (by omega) (by omega) _, hsize, hbegun (by omega),
      hbounded, fun other hpos hle hmem => ?_⟩
    by_cases hsame : other = index
    · subst hsame
      exact ordered_setStop hstart
    · have hclosed : Frame.group other ∉ Frame.group index :: next := by
        rw [List.mem_cons, not_or]
        exact ⟨fun heq => hsame (Frame.group.inj heq), hmem⟩
      exact (h.ordered other hpos hle hclosed).setIfInBounds (by omega) (by omega) _
  | look side free lt =>
    have hslot := free.groups_le
    refine ⟨⟨hslot, h.holds.le_size, position, ?_, fun _ => le_rfl, ?_⟩, hsize, hbegun (by omega),
      hbounded, fun other hpos hle hmem => ?_⟩
    · simp [h.size_eq, lt]
    · exact h.holds.setIfInBounds (by omega) (fun _ => free.fresh) (by omega) _
    · rw [List.mem_cons, not_or] at hmem
      exact (h.ordered other hpos hle hmem.2).setIfInBounds (by omega) (by omega) _
  | move ahead heq =>
    subst heq
    refine ⟨h.holds.setIfInBounds (by omega) (by omega) (by omega) _, hsize,
      ⟨position, ?_, fun hstarts => h.holds.origin_le (ahead hstarts)⟩, hbounded,
      fun other hpos hle hmem => ?_⟩
    · have hlt : 0 < slots.size := by have := h.size_eq; omega
      simp [hlt]
    · exact (h.ordered other hpos hle hmem).setIfInBounds (by omega) (by omega) _
  | stop heq =>
    subst heq
    refine ⟨⟨h.holds.le_size, position, ?_, h.holds⟩, hsize, hbegun (by omega), hbounded,
      fun other hpos hle hmem => ?_⟩
    · have hlt : 1 < slots.size := by have := h.size_eq; omega
      simp [hlt]
    · exact (h.ordered other hpos hle (by simp)).setIfInBounds (by omega) (by omega) _

/-- At the finish the slots are those of a match. -/
theorem finish (h : InOrder l origin size [.finish] position slots) :
    Finished l origin size (capStart slots) := by
  obtain ⟨start, hstart, hahead⟩ := h.begun
  obtain ⟨-, stop, hstop, horigin, hsize⟩ := h.holds
  have hordered (index : Nat) (hpos : 0 < index) (hle : index ≤ l.groups) : Ordered slots index :=
    h.ordered index hpos hle (by simp)
  simp only [capStart, hstart, hstop]
  split
  · next hlt =>
    -- The start was moved behind the end.
    have hpos : 0 < slots.size := by
      by_contra hzero
      simp [Nat.eq_zero_of_not_pos hzero] at hstart
    refine ⟨⟨stop, stop, by simp [hpos], ?_, le_rfl, fun _ => horigin⟩,
      fun _ _ hslot => le_of_setIfInBounds h.bounded hsize hslot, fun index hpos hle => ?_⟩
    · rwa [Array.getElem?_setIfInBounds_ne (by omega)]
    · exact (hordered index hpos hle).setIfInBounds (by omega) (by omega) _
  · next hle =>
    exact ⟨⟨start, stop, hstart, hstop, Nat.not_lt.mp hle, hahead⟩, h.bounded, hordered⟩

end InOrder

/-! ## Tables -/

section Tables

variable {size : Nat} {table slots : Slots} {text : Array Char}

/-- A table that holds nothing is in order. -/
theorem tableInOrder_replicate (size count : Nat) :
    TableInOrder size (.replicate count none) := by
  refine ⟨fun slot value hvalue => ?_, fun index _ => Regular.ordered_replicate count index⟩
  rw [Array.getElem?_replicate] at hvalue
  split at hvalue <;> simp at hvalue

/-- Slots of the overall match say nothing about groups. -/
theorem TableInOrder.setRange (h : TableInOrder size table) {slot value : Nat} (hslot : slot < 2)
    (hvalue : value ≤ size) : TableInOrder size (table.setIfInBounds slot (some value)) := by
  refine ⟨fun other saved hsaved => ?_, fun index hpos =>
    (h.ordered index hpos).setIfInBounds (by omega) (by omega) _⟩
  rcases of_setIfInBounds_eq_some hsaved with ⟨-, heq⟩ | ⟨-, hsaved⟩
  · exact Option.some.inj heq ▸ hvalue
  · exact h.bounded other saved hsaved

/-- A table that is made to fit a number of groups tells of each group all or nothing. -/
theorem TableInOrder.fit (h : TableInOrder size table) (count : Nat) :
    TableInOrder size (fit (2 * count) table) := by
  have hslot {slot value : Nat} (hvalue : ((Backtrack.fit (2 * count) table)[slot]?).join =
      some value) : slot < 2 * count ∧ (table[slot]?).join = some value := by
    simp only [Backtrack.fit, Array.take_eq_extract, Array.getElem?_append, Array.size_extract,
      Array.getElem?_extract, Array.getElem?_replicate] at hvalue
    split at hvalue
    · next hlt =>
      rw [Nat.zero_add] at hvalue
      exact ⟨by omega, hvalue⟩
    · split at hvalue <;> simp at hvalue
  refine ⟨fun slot value hvalue => h.bounded slot value (hslot hvalue).2, ?_⟩
  intro index hpos start stop hstart hstop
  exact h.ordered index hpos start stop (hslot hstart).2 (hslot hstop).2

/-- A match leaves the table in order. -/
theorem TableInOrder.afterMatch (h : TableInOrder size table) (rule : Regular.TableRule)
    {origin : Nat} {found : Regular.Match} (hfound : found.InOrder origin size) :
    TableInOrder size (rule.afterMatch found table) := by
  have hcleared : TableInOrder size (if rule.isWords then table
      else (Array.range table.size).map fun i => (found.slots[i]?).join) := by
    split
    · exact h
    · have hslot {slot value : Nat} (hvalue : (((Array.range table.size).map
          fun i => (found.slots[i]?).join)[slot]?).join = some value) :
          (found.slots[slot]?).join = some value := by
        rw [Array.getElem?_map, Array.getElem?_range] at hvalue
        split at hvalue
        · simpa using hvalue
        · simp at hvalue
      refine ⟨fun slot value hvalue => ?_, fun index hpos start stop hstart hstop => ?_⟩
      · exact (hfound.saved slot value (hslot hvalue)).2.trans hfound.stop_le
      · exact hfound.ordered index hpos start stop (hslot hstart) (hslot hstop)
  exact (hcleared.setRange (by omega) (hfound.start_le_stop.trans hfound.stop_le)).setRange
    (by omega) hfound.stop_le

/-- A table is in order after a miss, by every rule for what is left in it. -/
theorem TableInOrder.afterMiss (h : TableInOrder size table) (rule : Regular.TableRule)
    (start : Nat) : TableInOrder size (rule.afterMiss text start table) := by
  unfold Regular.TableRule.afterMiss
  split
  · exact tableInOrder_replicate size _
  · exact h

/-- Setting slots leaves their number as it is. -/
theorem size_foldl_setIfInBounds (place : Nat → Nat) (value : Nat → Option Nat)
    (indices : List Nat) (slots : Slots) :
    (indices.foldl (fun slots i => slots.setIfInBounds (place i) (value i)) slots).size =
      slots.size := by
  induction indices generalizing slots with
  | nil => rfl
  | cons i rest ih => rw [List.foldl_cons, ih, Array.size_setIfInBounds]

/-- Reading groups off a table takes their slots from there and leaves the others alone. -/
theorem getElem?_readGroups (groups : PlainGroups) (table slots : Slots) (slot : Nat) :
    (readGroups groups table slots)[slot]? =
      if 2 * (groups.before + 1) ≤ slot ∧ slot < 2 * (groups.before + 1) + 2 * groups.count ∧
        slot < slots.size then some (table[slot - 2 * groups.before]?).join
      else slots[slot]? := by
  unfold readGroups
  -- The slots of the groups are set one by one from the front.
  induction 2 * groups.count with
  | zero => exact (if_neg (by omega)).symm
  | succ count ih =>
    rw [List.range_succ, List.foldl_append, List.foldl_cons, List.foldl_nil,
      Array.getElem?_setIfInBounds, size_foldl_setIfInBounds, ih]
    by_cases hslot : 2 * (groups.before + 1) + count = slot
    · subst hslot
      have hplace : 2 * (groups.before + 1) + count - 2 * groups.before = 2 + count := by omega
      rw [if_pos rfl, hplace]
      by_cases hsize : 2 * (groups.before + 1) + count < slots.size
      · rw [if_pos hsize, if_pos ⟨by omega, by omega, hsize⟩]
      · rw [if_neg hsize, if_neg (by omega), Array.getElem?_eq_none (by omega)]
    · rw [if_neg hslot]
      by_cases hcond : 2 * (groups.before + 1) ≤ slot ∧
          slot < 2 * (groups.before + 1) + count ∧ slot < slots.size
      · rw [if_pos hcond, if_pos (by omega)]
      · rw [if_neg hcond, if_neg (by omega)]

/-- Reading the groups of a plain part changes only their own slots. -/
theorem getElem?_readGroups_of_lt (groups : PlainGroups) (table slots : Slots) {slot : Nat}
    (hslot : slot < 2 * (groups.before + 1) ∨ 2 * (groups.before + groups.count + 1) ≤ slot) :
    (readGroups groups table slots)[slot]? = slots[slot]? := by
  rw [getElem?_readGroups, if_neg (by omega)]

/-- What a slot of a plain part holds is what the table held for it. -/
theorem of_getElem?_readGroups {groups : PlainGroups} {table slots : Slots} {slot value : Nat}
    (hslot : 2 * (groups.before + 1) ≤ slot)
    (hslot' : slot < 2 * (groups.before + groups.count + 1))
    (h : ((readGroups groups table slots)[slot]?).join = some value) :
    (table[slot - 2 * groups.before]?).join = some value := by
  rw [getElem?_readGroups] at h
  split at h
  · exact h
  · rw [Array.getElem?_eq_none (by omega)] at h
    contradiction

end Tables

section Steps

variable {l : Layout} {origin : Nat} {text : Array Char} {frames : Nat → Frames}

/-- Groups that are not open may be read off a table in order. -/
theorem InOrder.readGroups {size position : Nat} {slots table : Slots} {here : Frames}
    (h : InOrder l origin size here position slots) {groups : PlainGroups}
    (htable : TableInOrder size table)
    (hclosed : ∀ index, groups.before < index → index ≤ groups.before + groups.count →
      index ≤ l.groups ∧ .group index ∉ here) :
    InOrder l origin size here position (readGroups groups table slots) := by
  have hlast : groups.count = 0 ∨ groups.before + groups.count ≤ l.groups := by
    by_cases hcount : groups.count = 0
    · exact .inl hcount
    · exact .inr (hclosed (groups.before + groups.count) (by omega) le_rfl).1
  have hbefore {slot : Nat} (hslot : slot < 2) :
      (Backtrack.readGroups groups table slots)[slot]? = slots[slot]? :=
    getElem?_readGroups_of_lt groups table slots (.inl (by omega))
  refine ⟨h.holds.congr (fun index _ _ hmem => ?_) (fun side slot hslot _ => ?_)
    (hbefore (by omega)), ?_, ?_, fun slot value hslot hvalue => ?_, fun index hpos hle hmem => ?_⟩
  · refine getElem?_readGroups_of_lt groups table slots ?_
    by_contra hbetween
    exact (hclosed index (by omega) (by omega)).2 hmem
  · exact getElem?_readGroups_of_lt groups table slots (by omega)
  · rw [Backtrack.readGroups, size_foldl_setIfInBounds, h.size_eq]
  · rw [hbefore (by omega)]
    exact h.begun
  · by_cases hread : 2 * (groups.before + 1) ≤ slot ∧
        slot < 2 * (groups.before + groups.count + 1)
    · exact htable.bounded _ value (of_getElem?_readGroups hread.1 hread.2 hvalue)
    · rw [getElem?_readGroups_of_lt groups table slots (by omega)] at hvalue
      exact h.bounded slot value hslot hvalue
  · intro start stop hstart hstop
    by_cases hread : groups.before < index ∧ index ≤ groups.before + groups.count
    · have hstart := of_getElem?_readGroups (by omega) (by omega) hstart
      have hstop := of_getElem?_readGroups (by omega) (by omega) hstop
      have hplace : 2 * index - 2 * groups.before = 2 * (index - groups.before) := by omega
      have hplace' : 2 * index + 1 - 2 * groups.before = 2 * (index - groups.before) + 1 := by
        omega
      rw [hplace] at hstart
      rw [hplace'] at hstop
      exact htable.ordered (index - groups.before) (by omega) start stop hstart hstop
    · rw [getElem?_readGroups_of_lt groups table slots (by omega)] at hstart
      rw [getElem?_readGroups_of_lt groups table slots (by omega)] at hstop
      exact h.ordered index hpos hle hmem start stop hstart hstop

/-- What a run holds that may go back: its branches and its table are in order. -/
structure State.MayGoBack (l : Layout) (origin size : Nat) (frames : Nat → Frames) (s : State) :
    Prop where
  branches : ∀ b ∈ s.trail.branches, InOrder l origin size (frames b.address) b.position b.slots
  table : TableInOrder size s.table

/-- What a run holds that goes on. -/
structure State.GoesOn (l : Layout) (origin size : Nat) (frames : Nat → Frames) (s : State) :
    Prop extends s.MayGoBack l origin size frames where
  here : InOrder l origin size (frames s.address) s.position s.slots

/-- What a step leaves. -/
def Step.Leaves (l : Layout) (origin size : Nat) (frames : Nat → Frames) : Step → Prop
  | .onward s => s.GoesOn l origin size frames
  | .stuck s => s.MayGoBack l origin size frames
  | .accepted slots => Finished l origin size slots
  | .overfull | .reversed => True

variable {s : State} {size : Nat}

/-- A run goes on where what it holds is in order. -/
theorem State.MayGoBack.onward (h : s.MayGoBack l origin size frames) {address position : Nat}
    {slots : Slots} (hhere : InOrder l origin size (frames address) position slots)
    (marks : List Nat) : Step.Leaves l origin size frames (.onward
      { s with address := address, position := position, slots := slots, marks := marks }) :=
  ⟨⟨h.branches, h.table⟩, hhere⟩

/-- A state may go back to what is left of its trail. -/
theorem State.MayGoBack.drop (h : s.MayGoBack l origin size frames) (count : Nat) :
    State.MayGoBack l origin size frames { s with trail := s.trail.drop count } :=
  ⟨fun b hb => h.branches b (List.mem_of_mem_drop hb), h.table⟩

/-- A run may take up its latest branch. -/
theorem State.MayGoBack.takeUp (h : s.MayGoBack l origin size frames) {b : Branch} {trail : Trail}
    (hpop : s.trail.pop? = some (b, trail)) :
    (s.takeUp b trail).GoesOn l origin size frames := by
  unfold Trail.pop? at hpop
  split at hpop
  · simp at hpop
  · next first rest hbranches =>
    obtain ⟨rfl, rfl⟩ := Prod.mk.inj (Option.some.inj hpop)
    have hall := h.branches
    rw [hbranches, List.forall_mem_cons] at hall
    exact ⟨⟨hall.2, h.table⟩, hall.1⟩

/-- A fork goes on or stores a branch where the frames are those of the body of a negative
look-around or the same. -/
theorem State.GoesOn.fork (h : s.GoesOn l origin size frames) {first second : Nat}
    (hfirst : (frames s.address).Enters (frames first))
    (hsecond : (frames s.address).Enters (frames second)) :
    (s.fork first second).Leaves l origin size frames := by
  unfold State.fork
  split
  · trivial
  · exact ⟨⟨List.forall_mem_cons.mpr ⟨h.here.enter hsecond, h.branches⟩, h.table⟩,
      h.here.enter hfirst⟩

/-- A fork between addresses of one level leaves a state in order. -/
theorem State.GoesOn.forkLeave (h : s.GoesOn l origin size frames) (greedy : Bool) {leave : Nat}
    (hleave : frames leave = frames s.address)
    (hnext : frames (s.address + 1) = frames s.address) :
    (s.forkLeave greedy leave).Leaves l origin size frames := by
  unfold State.forkLeave
  split
  · exact h.fork (.inl hnext) (.inl hleave)
  · exact h.fork (.inl hleave) (.inl hnext)

/-- A free slot may be set to anything on the way. -/
theorem State.GoesOn.set (h : s.GoesOn l origin size frames) {slot : Nat}
    (hfree : l.IsFree (frames s.address) slot) (value : Nat) :
    (s.set slot value).GoesOn l origin size frames :=
  ⟨⟨h.branches, h.table⟩, h.here.setFree hfree value⟩

/-- A run goes on behind characters where the frames are the same. -/
theorem State.GoesOn.nextAt (h : s.GoesOn l origin size frames)
    (hnext : frames (s.address + 1) = frames s.address) {position : Nat}
    (hle : s.position ≤ position) (hsize : position ≤ size) :
    (s.nextAt position).Leaves l origin size frames := by
  refine h.onward ?_ s.marks
  rw [hnext]
  exact h.here.goOn hle hsize

/-- Going on to the next address of the same level leaves a state in order. -/
theorem State.GoesOn.next (h : s.GoesOn l origin size frames)
    (hnext : frames (s.address + 1) = frames s.address) :
    s.next.Leaves l origin size frames := by
  refine h.onward ?_ s.marks
  rw [hnext]
  exact h.here

/-- A test that goes on to the next address of the same level leaves a state in order. -/
theorem State.GoesOn.nextIf (h : s.GoesOn l origin size frames)
    (hnext : frames (s.address + 1) = frames s.address) (condition : Bool) :
    (s.nextIf condition).Leaves l origin size frames := by
  unfold State.nextIf
  split
  · exact h.next hnext
  · exact h.toMayGoBack

/-- A text that stands at a position ends within the text. -/
theorem le_size_of_standsAt {position : Nat} {word : List Char} (hposition : position ≤ text.size)
    (h : standsAt text position word = true) : position + word.length ≤ text.size := by
  induction word generalizing position with
  | nil => exact hposition
  | cons c word ih =>
    simp only [standsAt, Bool.and_eq_true, decide_eq_true_eq] at h
    have hlt := (Array.getElem?_eq_some_iff.mp h.1).1
    have hle := ih hlt h.2
    rw [List.length_cons]
    omega

/-- A word that is passed leads on within the text. -/
theorem State.GoesOn.nextWord (h : s.GoesOn l origin text.size frames)
    (hnext : frames (s.address + 1) = frames s.address) (word : List Char) :
    Step.Leaves l origin text.size frames (if standsAt text s.position word
      then s.nextAt (s.position + word.length) else .stuck s) := by
  split
  · next hstands =>
    exact h.nextAt hnext (Nat.le_add_right _ _) (le_size_of_standsAt h.here.holds.le_size hstands)
  · exact h.toMayGoBack

/-- A match of a plain part that is made from an expression is in order. -/
theorem inOrder_of_matchAt? {program : Regular.Program} (h : ∃ r, program = .ofRegular r)
    {position : Nat} (hposition : position ≤ text.size) {found : Regular.Match}
    (hfound : program.matchAt? text position = some found) : found.InOrder position text.size := by
  obtain ⟨r, rfl⟩ := h
  obtain ⟨opened, hnests⟩ := Regular.exists_nests_ofRegular r
  exact hnests.runAt? hposition hfound

/-- A plain part goes on behind its match, with its groups read off the table. -/
theorem State.GoesOn.runGroups (h : s.GoesOn l origin text.size frames)
    (hnext : frames (s.address + 1) = frames s.address) {program : Regular.Program}
    {groups : PlainGroups} (hallows : l.Allows (frames s.address) program (some groups)) :
    (runGroups text s program groups).Leaves l origin text.size frames := by
  have htable := h.table.fit (groups.count + 1)
  have hposition := h.here.holds.le_size
  unfold Backtrack.runGroups
  dsimp only
  split
  · next found hfound =>
    have hmatch := inOrder_of_matchAt? hallows.ofRegular hposition hfound
    have htable := htable.afterMatch groups.rule hmatch
    refine ⟨⟨h.branches, htable⟩, ?_⟩
    have hread := h.here.readGroups htable (hallows.closed groups rfl)
    rw [← hnext] at hread
    exact hread.goOn (hmatch.origin_le.trans hmatch.start_le_stop) hmatch.stop_le
  · exact ⟨h.branches, htable.afterMiss groups.rule s.position⟩

/-- A step of an instruction that agrees with the frames leaves everything in order. -/
theorem State.GoesOn.step (h : s.GoesOn l origin text.size frames)
    (hslots : 2 * (l.groups + 1) ≤ l.slots) (begin : Nat) {instr : Instr}
    (hagrees : instr.Agrees l frames s.address) :
    (step text begin s instr).Leaves l origin text.size frames := by
  have hposition := h.here.holds.le_size
  cases instr with
  | accept =>
    have hhere := h.here
    rw [show frames s.address = [.finish] from hagrees] at hhere
    exact hhere.finish
  | anyChar =>
    rw [Backtrack.step]
    split
    · exact h.nextAt hagrees (Nat.le_succ _) ‹_›
    · exact h.toMayGoBack
  | anyButLineFeed =>
    rw [Backtrack.step]
    split
    · next hany =>
      obtain ⟨c, hc, -⟩ := Option.any_eq_true _ _ |>.mp hany
      exact h.nextAt hagrees (Nat.le_succ _) (Array.getElem?_eq_some_iff.mp hc).1
    · exact h.toMayGoBack
  | assertion condition => exact h.nextIf hagrees _
  | literal word => exact h.nextWord hagrees word
  | fork first second => exact h.fork hagrees.1 hagrees.2
  | jump target =>
    refine h.onward ?_ s.marks
    rw [show frames target = frames s.address from hagrees]
    exact h.here
  | save slot => exact h.onward (h.here.save hagrees hslots) s.marks
  | clear slot => exact (h.set hagrees.1 0).next hagrees.2
  | restore slot =>
    obtain ⟨side, hframes⟩ := hagrees
    have hhere := h.here
    rw [hframes] at hhere
    obtain ⟨-, -, begun, hbegun, -, houter⟩ := hhere.holds
    have hvalue : (s.slot? slot).getD 0 = begun := by rw [State.slot?, hbegun, Option.getD_some]
    rw [Backtrack.step, hvalue]
    refine h.onward ⟨houter, hhere.size_eq, hhere.begun, hhere.bounded, fun index hpos hle hmem =>
      hhere.ordered index hpos hle ?_⟩ s.marks
    simpa using hmem
  | count greedy least most leave counter =>
    obtain ⟨hcounter, hleave, hnext⟩ := hagrees
    rw [Backtrack.step]
    split
    · refine h.onward ?_ s.marks
      rw [hleave]
      exact h.here
    · dsimp only
      have hset := h.set hcounter ((s.slot? counter).getD 0 + 1)
      split
      · exact hset.forkLeave greedy hleave hnext
      · exact hset.next hnext
  | loop greedy least leave counter check =>
    obtain ⟨hcounter, hcheck, hleave, hnext⟩ := hagrees
    rw [Backtrack.step]
    dsimp only
    have hset := h.set hcounter ((s.slot? counter).getD 0 + 1)
    split
    · exact h.toMayGoBack
    · split
      · exact (hset.set hcheck s.position).forkLeave greedy hleave hnext
      · exact hset.next hnext
  | refute => exact h.drop _
  | goBack count =>
    rw [Backtrack.step]
    split
    · refine h.onward ?_ s.marks
      rw [hagrees.1]
      exact h.here.goBack hagrees.2 (Nat.sub_le _ _)
    · exact h.toMayGoBack
  | backReference group =>
    rw [Backtrack.step]
    split
    · split
      · trivial
      · exact h.nextWord hagrees _
    · exact h.toMayGoBack
  | groupMatched group => exact h.nextIf hagrees _
  | beginAtomic =>
    refine h.onward ?_ (s.trail.size :: s.marks)
    rw [show frames (s.address + 1) = frames s.address from hagrees]
    exact h.here
  | endAtomic =>
    rw [Backtrack.step]
    split
    · exact h.next hagrees
    · next count marks _ =>
      refine (h.drop (s.trail.size - count)).onward ?_ marks
      rw [show frames (s.address + 1) = frames s.address from hagrees]
      exact h.here
  | plain program groups =>
    obtain ⟨hallows, hnext⟩ := hagrees
    cases groups with
    | none =>
      rw [Backtrack.step]
      split
      · next found hfound =>
        have hmatch := inOrder_of_matchAt? hallows.ofRegular hposition hfound
        exact h.nextAt hnext (hmatch.origin_le.trans hmatch.start_le_stop) hmatch.stop_le
      · exact h.toMayGoBack
    | some groups => exact h.runGroups hnext hallows
  | searchStart => exact h.nextIf hagrees _

end Steps

/-! ## Runs -/

/-- What a run or a search leaves. -/
def Verdict.Leaves (l : Layout) (origin size : Nat) : Verdict → Prop
  | .accepted slots => Finished l origin size slots
  | .failed _ table => TableInOrder size table
  | .aborted _ | .reversed => True

/-- A match from a later start is one from an earlier start. -/
theorem Finished.mono {l : Layout} {origin earlier size : Nat} {slots : Slots}
    (h : Finished l origin size slots) (hle : earlier ≤ origin) :
    Finished l earlier size slots := by
  obtain ⟨start, stop, hstart, hstop, hrange, hahead⟩ := h.range
  exact ⟨⟨start, stop, hstart, hstop, hrange, fun hstarts => hle.trans (hahead hstarts)⟩, h.bounded,
    h.ordered⟩

/-- A match that begins later is also in order from earlier on. -/
theorem Verdict.Leaves.mono {l : Layout} {origin earlier size : Nat} {verdict : Verdict}
    (h : verdict.Leaves l origin size) (hle : earlier ≤ origin) :
    verdict.Leaves l earlier size := by
  cases verdict with
  | accepted slots => exact Finished.mono h hle
  | failed credit table => exact h
  | aborted cause => trivial
  | reversed => trivial

namespace Program.Nests

variable {p : Program} {l : Layout} {frames : Nat → Frames} {text : Array Char} {origin : Nat}

/-- A run of a program whose addresses are labelled leaves everything in order. -/
theorem run (h : p.Nests l frames) (hslots : 2 * (l.groups + 1) ≤ l.slots) (begin fuel credit : Nat)
    {s : State} (hs : s.GoesOn l origin text.size frames) :
    (Backtrack.run p.code text begin fuel credit s).Leaves l origin text.size := by
  induction fuel generalizing credit s with
  | zero => trivial
  | succ fuel ih =>
    -- No run comes back to the start.
    have hbehind : 0 < s.address := by
      refine Nat.pos_of_ne_zero fun hzero => ?_
      have hholds := hs.here.holds
      rw [hzero, h.before] at hholds
      exact hholds
    have hstep := hs.step hslots begin (h.agrees s.address hbehind)
    rw [Backtrack.run]
    split
    · next s' heq =>
      rw [heq] at hstep
      exact ih credit hstep
    · next slots heq =>
      rw [heq] at hstep
      exact hstep
    · trivial
    · trivial
    · next s' heq =>
      rw [heq] at hstep
      split
      · exact hstep.table
      · trivial
      · next b trail credit' hpop => exact ih credit' (hstep.takeUp hpop)

/-- An attempt leaves everything in order. -/
theorem attempt (h : p.Nests l frames) (hslots : 2 * (l.groups + 1) ≤ l.slots)
    (hcount : p.slotCount = l.slots) (begin credit : Nat) {table : Slots}
    (htable : TableInOrder text.size table) (horigin : origin ≤ text.size) :
    (p.attempt text begin credit origin table).Leaves l origin text.size := by
  have hfuel : runFuel = (UInt64.size / 4 - 1) + 1 := rfl
  rw [Program.attempt, hfuel, Backtrack.run, h.first]
  refine h.run hslots begin _ credit ⟨⟨fun b hb => absurd hb List.not_mem_nil, htable⟩, ?_⟩
  have hnone (slot : Nat) :
      ((Array.replicate p.slotCount (none : Option Nat))[slot]?).join = none := by
    rw [Array.getElem?_replicate]
    split <;> rfl
  have hset {slot value : Nat} (hvalue : ((Array.setIfInBounds (.replicate p.slotCount none) 0
      (some origin))[slot]?).join = some value) : slot = 0 ∧ value = origin := by
    rcases of_setIfInBounds_eq_some hvalue with ⟨rfl, heq⟩ | ⟨-, hvalue⟩
    · exact ⟨rfl, (Option.some.inj heq).symm⟩
    · rw [hnone] at hvalue
      contradiction
  change InOrder l origin text.size (frames 1) origin
    (Array.setIfInBounds (.replicate p.slotCount none) 0 (some origin))
  rw [h.behind]
  refine ⟨⟨le_rfl, horigin⟩, by simp [hcount], ⟨origin, ?_, fun _ => le_rfl⟩,
    fun slot value _ hvalue => (hset hvalue).2 ▸ horigin,
    fun index hpos _ _ start stop hstart => ?_⟩
  · have hlt : 0 < p.slotCount := by omega
    simp [hlt]
  · have := (hset hstart).1
    omega

/-- Attempts one after another leave everything in order. -/
theorem searchFrom (h : p.Nests l frames) (hslots : 2 * (l.groups + 1) ≤ l.slots)
    (hcount : p.slotCount = l.slots) (begin : Nat) {tries : Nat} (credit : Nat) {table : Slots}
    (htable : TableInOrder text.size table) (htries : origin + tries ≤ text.size + 1) :
    (p.searchFrom text begin tries credit origin table).Leaves l origin text.size := by
  induction tries generalizing credit origin table with
  | zero => exact htable
  | succ tries ih =>
    have hattempt : (p.attempt text begin credit origin table).Leaves l origin text.size :=
      h.attempt hslots hcount begin credit htable (by omega)
    rw [Program.searchFrom]
    cases hverdict : p.attempt text begin credit origin table with
    | accepted slots =>
      rw [hverdict] at hattempt
      exact hattempt
    | aborted cause => trivial
    | reversed => trivial
    | failed left table =>
      rw [hverdict] at hattempt
      cases left with
      | zero => trivial
      | succ left => exact (ih left hattempt (by omega)).mono (Nat.le_succ origin)

/-- A search from a position on leaves everything in order. -/
theorem search (h : p.Nests l frames) (hslots : 2 * (l.groups + 1) ≤ l.slots)
    (hcount : p.slotCount = l.slots) (backtrackLimit : Nat) (horigin : origin ≤ text.size) :
    (p.search text backtrackLimit origin).Leaves l origin text.size := by
  refine h.searchFrom hslots hcount origin backtrackLimit ⟨by simp, fun index hpos start stop => ?_⟩
    (by omega)
  simp

end Program.Nests

end GrammarScan.Backtrack
