import GrammarScan.Regular.Search
import Mathlib.Data.Finset.Card
import Mathlib.Data.Finset.Range
import Mathlib.Data.Set.Insert

/-!
# Ways through a plain program

Pending ways settle: one after another they are followed to the instructions at which they wait,
and an instruction that was come to before is not come to again. What comes of it depends on the
pending ways and on which instructions have been come to, but not on fuel or on the positions that
a front remembers. So a run goes from one list of waiting ways to the next, and its early stop
makes no difference.
-/

namespace GrammarScan.Regular

/-- Whether a way waits for the next character at an instruction. -/
def Instr.waits : Instr → Bool
  | .char _ | .set _ | .accept => true
  | .place _ | .save _ | .fork _ _ | .jump _ => false

namespace Thread

/-- The ways that lead on from a way without taking up a character, the preferred one first. -/
def branches (code : Array Instr) (text : Array Char) (position : Nat) (t : Thread) : List Thread :=
  match code[t.address]? with
  | some (.jump target) => [{ t with address := target }]
  | some (.fork first second) => [{ t with address := first }, { t with address := second }]
  | some (.save slot) => [⟨t.address + 1, t.slots.setIfInBounds slot (some position)⟩]
  | some (.place condition) =>
    if condition.holds text position then [{ t with address := t.address + 1 }] else []
  | _ => []

/-- The way itself if it waits where it has come to. -/
def stays (code : Array Instr) (t : Thread) : List Thread :=
  if code[t.address]?.any Instr.waits then [t] else []

/-- Whether a way accepts where it has come to. -/
def accepts (code : Array Instr) (t : Thread) : Bool :=
  match code[t.address]? with
  | some .accept => true
  | _ => false

/-- The way behind the character at a position, if it can take that up. -/
def onward? (code : Array Instr) (text : Array Char) (position : Nat) (t : Thread) :
    Option Thread :=
  match code[t.address]? with
  | some (.char c) =>
    if text[position]? = some c then some { t with address := t.address + 1 } else none
  | some (.set s) =>
    if text[position]?.any s.contains then some { t with address := t.address + 1 } else none
  | _ => none

end Thread

/-- Pending ways, followed one after another, leave a list of waiting ways, the preferred one
first. The sets are the instructions come to before and afterwards. -/
inductive Settles (code : Array Instr) (text : Array Char) (position : Nat) :
    List Thread → Set Nat → List Thread → Set Nat → Prop
  | done (seen : Set Nat) : Settles code text position [] seen [] seen
  | skip {t : Thread} {pending waiting : List Thread} {seen after : Set Nat}
      (idle : t.address ∈ seen ∨ code.size ≤ t.address)
      (rest : Settles code text position pending seen waiting after) :
      Settles code text position (t :: pending) seen waiting after
  | visit {t : Thread} {pending waiting : List Thread} {seen after : Set Nat}
      (fresh : t.address ∉ seen) (inside : t.address < code.size)
      (rest : Settles code text position (t.branches code text position ++ pending)
        (insert t.address seen) waiting after) :
      Settles code text position (t :: pending) seen (t.stays code ++ waiting) after

section Settling

variable {code : Array Instr} {text : Array Char} {position : Nat}

/-- The outcome of settling is determined. -/
theorem Settles.unique {pending waiting waiting' : List Thread} {seen after after' : Set Nat}
    (h : Settles code text position pending seen waiting after)
    (h' : Settles code text position pending seen waiting' after') :
    waiting = waiting' ∧ after = after' := by
  induction h generalizing waiting' after' with
  | done seen =>
    cases h'
    exact ⟨rfl, rfl⟩
  | skip idle rest ih =>
    cases h' with
    | skip _ rest' => exact ih rest'
    | visit fresh inside _ => exact absurd idle (not_or.mpr ⟨fresh, Nat.not_le.mpr inside⟩)
  | visit fresh inside rest ih =>
    cases h' with
    | skip idle _ => exact absurd idle (not_or.mpr ⟨fresh, Nat.not_le.mpr inside⟩)
    | visit _ _ rest' =>
      obtain ⟨rfl, rfl⟩ := ih rest'
      exact ⟨rfl, rfl⟩

/-- A single way leaves what its branches leave, and itself if it waits. -/
theorem Settles.single {t : Thread} {branches stays waiting : List Thread} {seen after : Set Nat}
    (hbranches : t.branches code text position = branches) (hstays : t.stays code = stays)
    (fresh : t.address ∉ seen) (inside : t.address < code.size)
    (rest : Settles code text position branches (insert t.address seen) waiting after) :
    Settles code text position [t] seen (stays ++ waiting) after := by
  subst hbranches hstays
  refine .visit fresh inside ?_
  rwa [List.append_nil]

/-- Ways settle one after another. -/
theorem Settles.append {pending pending' waiting waiting' : List Thread}
    {seen middle after : Set Nat}
    (h : Settles code text position pending seen waiting middle)
    (h' : Settles code text position pending' middle waiting' after) :
    Settles code text position (pending ++ pending') seen (waiting ++ waiting') after := by
  induction h with
  | done seen => exact h'
  | skip idle rest ih => exact .skip idle (ih h')
  | visit fresh inside rest ih =>
    have hrest := ih h'
    rw [List.append_assoc] at hrest ⊢
    exact .visit fresh inside hrest

/-- What was come to stays so. -/
theorem Settles.subset {pending waiting : List Thread} {seen after : Set Nat}
    (h : Settles code text position pending seen waiting after) : seen ⊆ after := by
  induction h with
  | done seen => exact subset_rfl
  | skip idle rest ih => exact ih
  | visit fresh inside rest ih => exact (Set.subset_insert _ _).trans ih

/-- Ways to instructions that were come to before do not matter. -/
theorem Settles.of_append_idle {idle pending waiting : List Thread} {seen after : Set Nat}
    (hidle : ∀ t ∈ idle, t.address ∈ seen)
    (h : Settles code text position (idle ++ pending) seen waiting after) :
    Settles code text position pending seen waiting after := by
  induction idle with
  | nil => exact h
  | cons t idle ih =>
    obtain ⟨ht, hidle⟩ := List.forall_mem_cons.mp hidle
    cases h with
    | skip _ rest => exact ih hidle rest
    | visit fresh _ _ => exact absurd ht fresh

/-- Ways to instructions that were come to before may be pending in front. -/
theorem Settles.append_idle {idle pending waiting : List Thread} {seen after : Set Nat}
    (hidle : ∀ t ∈ idle, t.address ∈ seen)
    (h : Settles code text position pending seen waiting after) :
    Settles code text position (idle ++ pending) seen waiting after := by
  induction idle with
  | nil => exact h
  | cons t idle ih =>
    obtain ⟨ht, hidle⟩ := List.forall_mem_cons.mp hidle
    exact .skip (.inl ht) (ih hidle)

/-- Behind settling, every pending way was come to, and what was newly come to is closed: its
branches were come to and a way waits there if one can. -/
theorem Settles.closed {pending waiting : List Thread} {seen after : Set Nat}
    (h : Settles code text position pending seen waiting after) :
    (∀ t ∈ pending, t.address ∈ after ∨ code.size ≤ t.address) ∧
      ∀ a ∈ after, a ∈ seen ∨ ∃ t : Thread, t.address = a ∧
        (∀ b ∈ t.branches code text position, b.address ∈ after ∨ code.size ≤ b.address) ∧
        ∀ w ∈ t.stays code, w ∈ waiting := by
  induction h with
  | done seen => exact ⟨by simp, fun a ha => .inl ha⟩
  | skip idle rest ih =>
    refine ⟨List.forall_mem_cons.mpr ⟨idle.imp_left (rest.subset ·), ih.1⟩, ih.2⟩
  | visit fresh inside rest ih =>
    next t pending waiting seen after =>
    obtain ⟨hpending, hafter⟩ := ih
    have hbranches := fun b hb => hpending b (List.mem_append_left _ hb)
    refine ⟨List.forall_mem_cons.mpr ⟨.inl (rest.subset (Set.mem_insert _ _)),
      fun b hb => hpending b (List.mem_append_right _ hb)⟩, fun a ha => ?_⟩
    rcases hafter a ha with hseen | ⟨s, hs, hsbranches, hstays⟩
    · rcases Set.mem_insert_iff.mp hseen with rfl | hseen
      · exact .inr ⟨t, rfl, hbranches, fun w hw => List.mem_append_left _ hw⟩
      · exact .inl hseen
    · exact .inr ⟨s, hs, hsbranches, fun w hw => List.mem_append_right _ (hstays w hw)⟩

/-- A property that goes over to branches holds of all waiting ways. -/
theorem Settles.forall_waiting {P : Thread → Prop} {pending waiting : List Thread}
    {seen after : Set Nat} (h : Settles code text position pending seen waiting after)
    (hbranches : ∀ t, P t → ∀ b ∈ t.branches code text position, P b)
    (hpending : ∀ t ∈ pending, P t) : ∀ w ∈ waiting, P w := by
  induction h with
  | done seen => simp
  | skip idle rest ih => exact ih (List.forall_mem_cons.mp hpending).2
  | visit fresh inside rest ih =>
    next t _ _ _ _ =>
    obtain ⟨ht, hpending⟩ := List.forall_mem_cons.mp hpending
    intro w hw
    rcases List.mem_append.mp hw with hw | hw
    · have : w = t := by
        unfold Thread.stays at hw
        split at hw <;> simp_all
      exact this ▸ ht
    · refine ih (fun b hb => ?_) w hw
      rcases List.mem_append.mp hb with hb | hb
      · exact hbranches t ht b hb
      · exact hpending b hb

/-- Settling within a region that branches do not leave depends on no instruction outside of it. -/
theorem Settles.congr {region : Set Nat} {pending waiting : List Thread} {seen after : Set Nat}
    (h : Settles code text position pending seen waiting after) (seen' : Set Nat)
    (hbranches : ∀ t : Thread, t.address ∈ region →
      ∀ b ∈ t.branches code text position, b.address ∈ region)
    (hpending : ∀ t ∈ pending, t.address ∈ region)
    (hseen : ∀ a ∈ region, a ∈ seen ↔ a ∈ seen') :
    ∃ after', Settles code text position pending seen' waiting after' ∧
      ∀ a, a ∉ region → (a ∈ after' ↔ a ∈ seen') := by
  induction h generalizing seen' with
  | done seen => exact ⟨seen', .done _, fun a _ => Iff.rfl⟩
  | skip idle rest ih =>
    obtain ⟨ht, hpending⟩ := List.forall_mem_cons.mp hpending
    obtain ⟨after', hrest, hafter⟩ := ih seen' hpending hseen
    exact ⟨after', .skip (idle.imp_left (hseen _ ht).mp) hrest, hafter⟩
  | visit fresh inside rest ih =>
    next t pending waiting seen after =>
    obtain ⟨ht, hpending⟩ := List.forall_mem_cons.mp hpending
    have hnext : ∀ b ∈ t.branches code text position ++ pending, b.address ∈ region := fun b hb =>
      (List.mem_append.mp hb).elim (hbranches t ht b) (hpending b)
    obtain ⟨after', hrest, hafter⟩ := ih (insert t.address seen') hnext
      fun a ha => by simp [hseen a ha]
    refine ⟨after', .visit (fun h => fresh ((hseen _ ht).mpr h)) inside hrest, fun a ha => ?_⟩
    rw [hafter a ha, Set.mem_insert_iff, or_iff_right]
    rintro rfl
    exact ha ht

/-- Instructions from which only hidden ones are reached can be hidden: the ways that wait there are
left out and the others are the same. -/
theorem Settles.hide {hidden : Set Nat} [DecidablePred (· ∈ hidden)]
    {pending waiting : List Thread} {seen after : Set Nat}
    (h : Settles code text position pending seen waiting after)
    (hbranches : ∀ t : Thread, t.address ∈ hidden →
      ∀ b ∈ t.branches code text position, b.address ∈ hidden) :
    Settles code text position pending (seen ∪ hidden)
      (waiting.filter (·.address ∉ hidden)) (after ∪ hidden) := by
  induction h with
  | done seen => exact .done _
  | skip idle rest ih => exact .skip (idle.imp_left .inl) ih
  | visit fresh inside rest ih =>
    next t pending waiting seen after =>
    have hstays : ∀ w ∈ t.stays code, w = t := by
      intro w hw
      unfold Thread.stays at hw
      split at hw <;> simp_all
    rw [List.filter_append, Set.insert_union] at *
    by_cases ht : t.address ∈ hidden
    · rw [Set.insert_eq_of_mem (Set.mem_union_right _ ht)] at ih
      have hnone : (t.stays code).filter (·.address ∉ hidden) = [] := by
        rw [List.filter_eq_nil_iff]
        intro w hw
        simp [hstays w hw, ht]
      rw [hnone, List.nil_append]
      exact .skip (.inl (.inr ht)) (ih.of_append_idle fun b hb => .inr (hbranches t ht b hb))
    · have hall : (t.stays code).filter (·.address ∉ hidden) = t.stays code := by
        rw [List.filter_eq_self]
        intro w hw
        simp [hstays w hw, ht]
      rw [hall]
      exact .visit (by simp [fresh, ht]) inside ih

end Settling

end GrammarScan.Regular
