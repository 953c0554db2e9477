import GrammarScan.Proofs.Regular.Ways

/-!
# Runs of plain programs as lists of waiting ways

A front keeps, for the whole run, the positions at which instructions were come to. At a new
position none of them counts, so the run is the same as one that settles the ways of each position
anew. In that form a step takes the waiting ways over a character, up to the first that accepts,
and settles them behind it.
-/

namespace GrammarScan.Regular

/-- The first match of waiting ways, or what was best before. -/
def bestOf (code : Array Instr) (position : Nat) (waiting : List Thread) (best : Option Match) :
    Option Match :=
  match waiting.find? (·.accepts code) with
  | some t => some (t.toMatch position)
  | none => best

/-- The ways behind the character at a position, up to the first that accepts. -/
def onward (code : Array Instr) (text : Array Char) (position : Nat) (waiting : List Thread) :
    List Thread :=
  (waiting.takeWhile (!·.accepts code)).filterMap (·.onward? code text position)

/-- The ways that wait when pending ways have settled at a position, the preferred one first. -/
def settle (code : Array Instr) (text : Array Char) (position : Nat) (pending : List Thread) :
    List Thread :=
  (follow code text position (2 * code.size + pending.length) pending
    (.empty code)).waiting.reverse

/-- Follows waiting ways from a position with `remaining` characters behind it. -/
def runList (code : Array Instr) (text : Array Char) :
    (remaining position : Nat) → List Thread → (best : Option Match) → Option Match
  | 0, position, waiting, best => bestOf code position waiting best
  | remaining + 1, position, waiting, best =>
    runList code text remaining (position + 1)
      (settle code text (position + 1) (onward code text position waiting))
      (bestOf code position waiting best)

section Following

variable {code : Array Instr} {text : Array Char} {position : Nat}

/-- A front of a program that remembers no position from the given one on. -/
structure Front.Before (code : Array Instr) (position : Nat) (front : Front) : Prop where
  size_eq : front.seen.size = code.size
  le : ∀ a, front.seen.getD a 0 ≤ position

/-- The instructions that a front has come to at a position. -/
def Front.seenAt (front : Front) (position : Nat) : Set Nat :=
  {a | front.hasSeen position a = true}

/-- How many instructions of a program were not come to yet. -/
def Front.unseen (code : Array Instr) (position : Nat) (front : Front) : Nat :=
  ((Finset.range code.size).filter fun a => front.hasSeen position a = false).card

/-- A front that remembers only earlier positions has come to nothing yet. -/
theorem Front.Before.seenAt_eq {front : Front} (h : front.Before code position) :
    front.seenAt position = ∅ := by
  rw [Set.eq_empty_iff_forall_notMem]
  intro a ha
  have hle := h.le a
  simp only [seenAt, hasSeen, Set.mem_ofPred_eq, decide_eq_true_eq] at ha
  omega

/-- What a front has come to after it came to one more instruction. -/
theorem Front.hasSeen_mark {front : Front} {a : Nat} (ha : a < front.seen.size) (b : Nat) :
    (front.mark position a).hasSeen position b = (decide (b = a) || front.hasSeen position b) := by
  simp only [hasSeen, mark, Array.getD_eq_getD_getElem?, Array.getElem?_setIfInBounds]
  by_cases hb : a = b
  · subst hb
    simp [ha]
  · simp [hb, Ne.symm hb]

/-- An address that is marked is seen from then on. -/
theorem Front.seenAt_mark {front : Front} {a : Nat} (ha : a < front.seen.size) :
    (front.mark position a).seenAt position = insert a (front.seenAt position) := by
  ext b
  simp [seenAt, hasSeen_mark ha]

/-- One instruction less is left to come to. -/
theorem Front.unseen_mark {front : Front} {a : Nat} (hsize : front.seen.size = code.size)
    (ha : a < code.size) (hfresh : front.hasSeen position a = false) :
    (front.mark position a).unseen code position + 1 = front.unseen code position := by
  have hmem : a ∈ (Finset.range code.size).filter fun b => front.hasSeen position b = false := by
    simp [ha, hfresh]
  unfold unseen
  rw [← Finset.card_erase_add_one hmem]
  congr 2
  ext b
  simp only [hasSeen_mark (hsize ▸ ha), Finset.mem_filter, Finset.mem_range, Finset.mem_erase,
    Bool.or_eq_false_iff, decide_eq_false_iff_not]
  tauto

/-- Coming to an instruction leaves a front that remembers no later position. -/
theorem Front.Before.mark {front : Front} (h : front.Before code (position + 1)) (a : Nat) :
    (front.mark position a).Before code (position + 1) := by
  refine ⟨by simp [Front.mark, h.size_eq], fun b => ?_⟩
  have hle := h.le b
  simp only [Front.mark, Array.getD_eq_getD_getElem?, Array.getElem?_setIfInBounds] at hle ⊢
  split
  · split <;> simp
  · exact hle

/-- A way leads on to at most two. -/
theorem Thread.length_branches_le (code : Array Instr) (text : Array Char) (position : Nat)
    (t : Thread) : (t.branches code text position).length ≤ 2 := by
  unfold branches
  repeat' split
  all_goals simp

/-- Following a way to an instruction of the program that was not come to is to put its branches in
front of the pending ways. -/
theorem follow_visit {fuel : Nat} {t : Thread} {pending : List Thread} {front : Front}
    (hfresh : front.hasSeen position t.address = false) :
    follow code text position (fuel + 1) (t :: pending) front =
      follow code text position fuel (t.branches code text position ++ pending)
        ⟨t.stays code ++ front.waiting, (front.mark position t.address).seen⟩ := by
  simp only [follow, hfresh, Bool.false_eq_true, if_false, Thread.branches, Thread.stays]
  cases hinstr : code[t.address]? with
  | none => rfl
  | some instr =>
    cases instr with
    | place condition =>
      by_cases hholds : condition.holds text position = true
      · simp [hholds, Instr.waits, Front.mark]
      · simp [hholds, Instr.waits, Front.mark]
    | _ => rfl

/-- Following with enough fuel settles the pending ways. -/
theorem settles_follow (text : Array Char) {fuel : Nat} (pending : List Thread) {front : Front}
    (hfront : front.Before code (position + 1))
    (hfuel : 2 * front.unseen code position + pending.length ≤ fuel) :
    (follow code text position fuel pending front).Before code (position + 1) ∧
      ∃ waiting, Settles code text position pending (front.seenAt position) waiting
          ((follow code text position fuel pending front).seenAt position) ∧
        (follow code text position fuel pending front).waiting =
          waiting.reverse ++ front.waiting := by
  induction fuel generalizing pending front with
  | zero =>
    obtain rfl : pending = [] := List.eq_nil_of_length_eq_zero (by omega)
    exact ⟨hfront, [], .done _, rfl⟩
  | succ fuel ih =>
    match pending with
    | [] => exact ⟨hfront, [], .done _, rfl⟩
    | t :: pending =>
      rw [List.length_cons] at hfuel
      cases hseen : front.hasSeen position t.address with
      | true =>
        simp only [follow, hseen, if_true]
        obtain ⟨hbefore, waiting, hsettles, hwaiting⟩ := ih pending hfront (by omega)
        exact ⟨hbefore, waiting, .skip (.inl hseen) hsettles, hwaiting⟩
      | false =>
        rw [follow_visit hseen]
        by_cases hinside : t.address < code.size
        · have hunseen := Front.unseen_mark hfront.size_eq hinside hseen
          have hbranches := t.length_branches_le code text position
          have hnext : Front.Before code (position + 1)
              ⟨t.stays code ++ front.waiting, (front.mark position t.address).seen⟩ :=
            ⟨(hfront.mark t.address).size_eq, (hfront.mark t.address).le⟩
          obtain ⟨hbefore, waiting, hsettles, hwaiting⟩ := ih
            (t.branches code text position ++ pending) hnext (by
              rw [List.length_append]
              change 2 * (front.mark position t.address).unseen code position + _ ≤ fuel
              omega)
          refine ⟨hbefore, t.stays code ++ waiting, .visit ?_ hinside ?_, ?_⟩
          · simp [Front.seenAt, hseen]
          · rw [← Front.seenAt_mark (hfront.size_eq ▸ hinside)]
            exact hsettles
          · have hreverse : (t.stays code).reverse = t.stays code := by
              unfold Thread.stays
              split <;> rfl
            rw [hwaiting, List.reverse_append, hreverse, List.append_assoc]
        · have hnone : code[t.address]? = none := Array.getElem?_eq_none (Nat.not_lt.mp hinside)
          have hstays : t.stays code = [] := by simp [Thread.stays, hnone]
          have hsame : front.mark position t.address = front := by
            simp [Front.mark, Array.setIfInBounds, hfront.size_eq, hinside]
          simp only [Thread.branches, hnone, hstays, List.nil_append, hsame]
          obtain ⟨hbefore, waiting, hsettles, hwaiting⟩ := ih pending hfront (by omega)
          exact ⟨hbefore, waiting, .skip (.inr (Nat.not_lt.mp hinside)) hsettles, hwaiting⟩

/-- No more instructions are left to come to than there are. -/
theorem Front.unseen_le (code : Array Instr) (position : Nat) (front : Front) :
    front.unseen code position ≤ code.size := by
  unfold unseen
  exact (Finset.card_filter_le _ _).trans (by simp)

/-- One more way settles in a front. -/
theorem settles_enter (text : Array Char) (t : Thread) {front : Front}
    (hfront : front.Before code (position + 1)) :
    (enter code text position front t).Before code (position + 1) ∧
      ∃ waiting, Settles code text position [t] (front.seenAt position) waiting
          ((enter code text position front t).seenAt position) ∧
        (enter code text position front t).waiting = waiting.reverse ++ front.waiting := by
  have hunseen := front.unseen_le code position
  exact settles_follow text [t] hfront (by simp only [List.length_singleton]; omega)

/-- An empty front remembers nothing. -/
theorem Front.before_empty (code : Array Instr) (position : Nat) :
    (Front.empty code).Before code position := by
  refine ⟨by simp [empty], fun a => ?_⟩
  simp only [empty, Array.getD_eq_getD_getElem?, Array.getElem?_replicate]
  split <;> simp

/-- A front that remembers no position from one on remembers none from a later one on. -/
theorem Front.Before.mono {front : Front} {later : Nat} (h : front.Before code position)
    (hle : position ≤ later) : front.Before code later :=
  ⟨h.size_eq, fun a => (h.le a).trans hle⟩

/-- Ways settle to the ways that wait. -/
theorem settles_settle (code : Array Instr) (text : Array Char) (position : Nat)
    (pending : List Thread) :
    ∃ after, Settles code text position pending ∅ (settle code text position pending) after := by
  obtain ⟨-, waiting, hsettles, hwaiting⟩ := settles_follow text pending
    (Front.before_empty code (position + 1))
    (Nat.add_le_add_right (Nat.mul_le_mul_left 2 (Front.unseen_le code position _)) _)
  rw [(Front.before_empty code position).seenAt_eq] at hsettles
  have heq : settle code text position pending = waiting := by
    rw [settle, hwaiting]
    simp [Front.empty]
  exact ⟨_, heq ▸ hsettles⟩

/-- The ways that wait are those to which ways settle. -/
theorem Settles.eq_settle {pending waiting : List Thread} {after : Set Nat}
    (h : Settles code text position pending ∅ waiting after) :
    settle code text position pending = waiting := by
  obtain ⟨_, h'⟩ := settles_settle code text position pending
  exact (h'.unique h).1

/-- Where nothing is pending nothing waits. -/
@[simp] theorem settle_nil : settle code text position [] = [] := (Settles.done _).eq_settle

/-- What waits for the first of the pending ways waits in front of what waits for the others. -/
theorem exists_settle_append (code : Array Instr) (text : Array Char) (position : Nat)
    (pending pending' : List Thread) : ∃ waiting,
    settle code text position (pending ++ pending') =
      settle code text position pending ++ waiting := by
  have hempty := Front.before_empty code (position + 1)
  obtain ⟨hmiddle, first, hfirst, -⟩ := settles_follow text pending hempty le_rfl
  obtain ⟨-, second, hsecond, -⟩ := settles_follow text pending' hmiddle le_rfl
  rw [(Front.before_empty code position).seenAt_eq] at hfirst
  exact ⟨second, by rw [(hfirst.append hsecond).eq_settle, hfirst.eq_settle]⟩

/-- The waiting ways are taken one after another, up to the first that accepts. -/
theorem advance_cons (t : Thread) (waiting : List Thread) (best : Option Match) (next : Front) :
    advance code text position (t :: waiting) best next =
      if t.accepts code then (some (t.toMatch position), next)
      else match t.onward? code text position with
        | some u =>
          advance code text position waiting best (enter code text (position + 1) next u)
        | none => advance code text position waiting best next := by
  unfold Thread.accepts Thread.onward?
  cases hinstr : code[t.address]? with
  | none => simp [advance, hinstr]
  | some instr =>
    cases instr with
    | char c =>
      simp only [advance, hinstr]
      split <;> rfl
    | set s =>
      simp only [advance, hinstr]
      split <;> rfl
    | _ => simp [advance, hinstr]

/-- Taking waiting ways over a character settles the ways behind it, and keeps the best match. -/
theorem advance_eq (text : Array Char) (waiting : List Thread) (best : Option Match) {next : Front}
    (hnext : next.Before code (position + 2)) :
    (advance code text position waiting best next).1 = bestOf code position waiting best ∧
      (advance code text position waiting best next).2.Before code (position + 2) ∧
      ∃ settled, Settles code text (position + 1) (onward code text position waiting)
          (next.seenAt (position + 1)) settled
          ((advance code text position waiting best next).2.seenAt (position + 1)) ∧
        (advance code text position waiting best next).2.waiting =
          settled.reverse ++ next.waiting := by
  induction waiting generalizing next with
  | nil => exact ⟨rfl, hnext, [], .done _, rfl⟩
  | cons t waiting ih =>
    rw [advance_cons]
    cases haccepts : t.accepts code with
    | true =>
      refine ⟨by simp [bestOf, haccepts], hnext, [], ?_, rfl⟩
      have hpending : onward code text position (t :: waiting) = [] := by simp [onward, haccepts]
      rw [hpending]
      exact .done _
    | false =>
      have hbest :
          bestOf code position (t :: waiting) best = bestOf code position waiting best := by
        simp [bestOf, haccepts]
      rw [hbest]
      cases honward : t.onward? code text position with
      | none =>
        have hpending : onward code text position (t :: waiting) =
            onward code text position waiting := by
          simp [onward, haccepts, honward]
        rw [hpending]
        exact ih hnext
      | some u =>
        have hpending : onward code text position (t :: waiting) =
            u :: onward code text position waiting := by
          simp [onward, haccepts, honward]
        rw [hpending]
        obtain ⟨hentered, first, hfirst, hwaiting⟩ := settles_enter text u hnext
        obtain ⟨hbest, hbefore, second, hsecond, hwaiting'⟩ := ih hentered
        refine ⟨hbest, hbefore, first ++ second, hfirst.append hsecond, ?_⟩
        change (advance code text position waiting best _).2.waiting = _
        rw [hwaiting', hwaiting, List.reverse_append, List.append_assoc]

/-- Where nothing waits the best match stays. -/
@[simp] theorem runList_nil (remaining : Nat) (best : Option Match) :
    runList code text remaining position [] best = best := by
  induction remaining generalizing position with
  | zero => rfl
  | succ remaining ih =>
    have hpending : onward code text position [] = [] := rfl
    rw [runList, hpending, settle_nil]
    exact ih

/-- A run depends on its waiting ways alone. -/
theorem runFrom_eq_runList (remaining : Nat) {front : Front} {best : Option Match}
    (hfront : front.Before code (position + 1)) :
    runFrom code text remaining position front best =
      runList code text remaining position front.waiting.reverse best := by
  induction remaining generalizing position front best with
  | zero =>
    have hleave : front.leave.Before code (position + 2) :=
      ⟨hfront.size_eq, fun a => (hfront.le a).trans (by omega)⟩
    exact (advance_eq text front.waiting.reverse best hleave).1
  | succ remaining ih =>
    have hleave : front.leave.Before code (position + 1) := ⟨hfront.size_eq, hfront.le⟩
    obtain ⟨hbest, hbefore, settled, hsettles, hwaiting⟩ := advance_eq text
      front.waiting.reverse best (hleave.mono (Nat.le_succ _))
    rw [hleave.seenAt_eq] at hsettles
    have hnone : front.leave.waiting = [] := rfl
    rw [hnone, List.append_nil] at hwaiting
    simp only [runFrom, runList, hsettles.eq_settle, ← hbest]
    split
    · next hempty =>
      rw [hwaiting, List.isEmpty_iff, List.reverse_eq_nil_iff] at hempty
      rw [hempty, runList_nil]
    · rw [ih hbefore, hwaiting, List.reverse_reverse]

/-- A program that is entered at a position runs from the ways that wait there. -/
theorem Program.runAt?_eq_runList (p : Program) (address : Nat) :
    p.runAt? text address position =
      runList p.code text (text.size - position) position
        (settle p.code text position [⟨address, .replicate (2 * p.groupBound) none⟩]) none := by
  have hempty := Front.before_empty p.code (position + 1)
  obtain ⟨hentered, waiting, hsettles, hwaiting⟩ := settles_enter text
    ⟨address, .replicate (2 * p.groupBound) none⟩ hempty
  have hnone : (Front.empty p.code).waiting = [] := rfl
  rw [(Front.before_empty p.code position).seenAt_eq] at hsettles
  rw [hnone, List.append_nil] at hwaiting
  rw [runAt?, runFrom_eq_runList _ hentered, hsettles.eq_settle, hwaiting, List.reverse_reverse]

end Following

end GrammarScan.Regular
