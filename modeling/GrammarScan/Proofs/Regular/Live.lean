import GrammarScan.Proofs.Regular.Runs
import Mathlib.Data.List.TakeWhile

/-!
# Instructions from which a program can accept

Where a way has come to is live if some way from there accepts. Ways that are not live do not matter
to a run: they never accept, and they keep others only from instructions that are not live either.
A live way is never lost, since where one is dropped another one has come to the same instruction.
-/

namespace GrammarScan.Regular

/-- Some way from an instruction at a position accepts. -/
inductive Live (code : Array Instr) (text : Array Char) : (address position : Nat) → Prop
  | accept {t : Thread} {position : Nat} (accepts : t.accepts code = true) :
      Live code text t.address position
  | branch {t b : Thread} {position : Nat} (mem : b ∈ t.branches code text position)
      (live : Live code text b.address position) : Live code text t.address position
  | onward {t u : Thread} {position : Nat} (takes : t.onward? code text position = some u)
      (live : Live code text u.address (position + 1)) : Live code text t.address position

/-- The instructions that are not live at a position. -/
def dead (code : Array Instr) (text : Array Char) (position : Nat) : Set Nat :=
  {a | ¬ Live code text a position}

open scoped Classical in
/-- The ways of a list that are live. -/
noncomputable def liveOnes (code : Array Instr) (text : Array Char) (position : Nat)
    (ts : List Thread) : List Thread :=
  ts.filter (·.address ∉ dead code text position)

section Liveness

variable {code : Array Instr} {text : Array Char} {position : Nat}

/-- What is saved has no influence on the instructions to which a way leads on. -/
theorem Thread.exists_branch {t s : Thread} (h : t.address = s.address) {b : Thread}
    (hb : b ∈ t.branches code text position) :
    ∃ c ∈ s.branches code text position, c.address = b.address := by
  unfold branches at hb ⊢
  rw [← h]
  cases hinstr : code[t.address]? with
  | none => simp [hinstr] at hb
  | some instr =>
    cases instr with
    | place condition =>
      by_cases hholds : condition.holds text position = true
      · simp_all
      · simp [hinstr, hholds] at hb
    | fork first second =>
      rw [hinstr] at hb
      rcases List.mem_pair.mp hb with rfl | rfl
      · exact ⟨_, List.mem_cons_self, rfl⟩
      · exact ⟨_, List.mem_cons_of_mem _ List.mem_cons_self, rfl⟩
    | jump target => simp_all
    | save slot => simp_all
    | _ => simp [hinstr] at hb

/-- A way that accepts waits. -/
theorem Thread.stays_of_accepts {t : Thread} (h : t.accepts code = true) :
    t.stays code = [t] := by
  unfold accepts at h
  split at h
  · next hinstr => simp [stays, hinstr, Instr.waits]
  · simp at h

/-- A way that takes up a character waits for it, and goes on behind its instruction. -/
theorem Thread.of_onward? {t u : Thread} (h : t.onward? code text position = some u) :
    t.stays code = [t] ∧ u = { t with address := t.address + 1 } ∧ position < text.size := by
  unfold onward? at h
  split at h
  · next c hinstr =>
    split at h
    · next hchar =>
      exact ⟨by simp [stays, hinstr, Instr.waits], (Option.some.inj h).symm,
        (Array.getElem?_eq_some_iff.mp hchar).1⟩
    · simp at h
  · next s hinstr =>
    split at h
    · next hset =>
      refine ⟨by simp [stays, hinstr, Instr.waits], (Option.some.inj h).symm, ?_⟩
      rw [Option.any_eq_true] at hset
      obtain ⟨c, hchar, -⟩ := hset
      exact (Array.getElem?_eq_some_iff.mp hchar).1
    · simp at h
  · simp at h

/-- A way that waits leads on to nothing without a character. -/
theorem Thread.branches_of_stays {t : Thread} (h : t.stays code = [t]) :
    t.branches code text position = [] := by
  unfold stays at h
  unfold branches
  cases hinstr : code[t.address]? with
  | none => rfl
  | some instr => cases instr <;> simp_all [Instr.waits]

/-- A live instruction is one of the program. -/
theorem Live.lt_size {a : Nat} (h : Live code text a position) : a < code.size := by
  rw [← not_le]
  intro hle
  have hnone : code[a]? = none := Array.getElem?_eq_none hle
  cases h with
  | accept haccepts => simp [Thread.accepts, hnone] at haccepts
  | branch hmem _ => simp [Thread.branches, hnone] at hmem
  | onward htakes _ => simp [Thread.onward?, hnone] at htakes

/-- Whether a way accepts depends on its instruction alone. -/
theorem Thread.accepts_congr {t s : Thread} (h : t.address = s.address) :
    t.accepts code = s.accepts code := by
  rw [accepts, accepts, h]

/-- Whether a way takes up a character depends on its instruction alone. -/
theorem Thread.onward?_congr {t s u : Thread} (h : t.address = s.address)
    (hu : t.onward? code text position = some u) :
    s.onward? code text position = some { s with address := s.address + 1 } := by
  unfold onward? at hu ⊢
  rw [← h]
  split at hu
  · next c hinstr =>
    split at hu
    · next hchar => simp [hchar]
    · simp at hu
  · next set hinstr =>
    split at hu
    · next hset => simp [hset]
    · simp at hu
  · simp at hu

/-- A live way that waits accepts, or takes up a character and is live behind it. -/
theorem Thread.accepts_or_onward {w : Thread} (hstays : w.stays code = [w])
    (hlive : Live code text w.address position) :
    w.accepts code = true ∨ ∃ u, w.onward? code text position = some u ∧
      Live code text u.address (position + 1) := by
  generalize ha : w.address = a at hlive
  cases hlive with
  | accept haccepts => exact .inl (accepts_congr ha ▸ haccepts)
  | branch hb hlive =>
    obtain ⟨c, hc, -⟩ := exists_branch ha.symm hb
    rw [branches_of_stays hstays] at hc
    simp at hc
  | onward htakes hlive =>
    refine .inr ⟨_, onward?_congr ha.symm htakes, ?_⟩
    rw [(of_onward? htakes).2.1] at hlive
    rwa [← ha] at hlive

/-- Only waiting ways are left by settling. -/
theorem Settles.stays {pending waiting : List Thread} {seen after : Set Nat}
    (h : Settles code text position pending seen waiting after) :
    ∀ w ∈ waiting, w.stays code = [w] := by
  induction h with
  | done seen => simp
  | skip idle rest ih => exact ih
  | visit fresh inside rest ih =>
    next t _ _ _ _ =>
    intro w hw
    rcases List.mem_append.mp hw with hw | hw
    · by_cases hwaits : code[t.address]?.any Instr.waits = true
      · have hstays : t.stays code = [t] := if_pos hwaits
        rw [hstays, List.mem_singleton] at hw
        exact hw ▸ hstays
      · simp [Thread.stays, hwaits] at hw
    · exact ih w hw

/-- Where a live way is pending a live way waits. -/
theorem exists_live_waiting {pending waiting : List Thread} {after : Set Nat}
    (h : Settles code text position pending ∅ waiting after) {t : Thread} (ht : t ∈ pending)
    (hlive : Live code text t.address position) :
    ∃ w ∈ waiting, Live code text w.address position := by
  obtain ⟨hpending, hafter⟩ := h.closed
  have hmem := (hpending t ht).resolve_right (Nat.not_le.mpr hlive.lt_size)
  generalize t.address = a at hlive hmem
  induction hlive with
  | @accept t position haccepts =>
    obtain ⟨s, hs, -, hstays⟩ := (hafter _ hmem).resolve_left (Set.notMem_empty _)
    have hs' : s.accepts code = true := by rw [← haccepts, Thread.accepts, hs, Thread.accepts]
    exact ⟨s, hstays s (by simp [Thread.stays_of_accepts hs']), .accept hs'⟩
  | @branch t b position hb hlive ih =>
    obtain ⟨s, hs, hbranches, -⟩ := (hafter _ hmem).resolve_left (Set.notMem_empty _)
    obtain ⟨c, hc, hcb⟩ := Thread.exists_branch hs.symm hb
    exact ih h hafter
      (hcb ▸ (hbranches c hc).resolve_right (Nat.not_le.mpr (hcb ▸ hlive.lt_size)))
  | @onward t u position htakes hlive _ =>
    obtain ⟨s, hs, -, hstays⟩ := (hafter _ hmem).resolve_left (Set.notMem_empty _)
    have hs' := Thread.onward?_congr hs.symm htakes
    refine ⟨s, hstays s (by simp [(Thread.of_onward? hs').1]), .onward hs' ?_⟩
    rw [(Thread.of_onward? htakes).2.1] at hlive
    rwa [hs]

/-- There is a match if a waiting way accepts or there was one before. -/
theorem isSome_bestOf {waiting : List Thread} {best : Option Match}
    (h : best.isSome = true ∨ ∃ w ∈ waiting, w.accepts code = true) :
    (bestOf code position waiting best).isSome = true := by
  unfold bestOf
  split
  · rfl
  · next hnone =>
    refine h.resolve_right ?_
    rintro ⟨w, hw, haccepts⟩
    exact List.find?_eq_none.mp hnone w hw haccepts

/-- A way goes on behind the character if no waiting way accepts. -/
theorem mem_onward {waiting : List Thread} {w u : Thread}
    (hnone : ¬ ∃ w ∈ waiting, w.accepts code = true) (hw : w ∈ waiting)
    (hu : w.onward? code text position = some u) : u ∈ onward code text position waiting := by
  have hall : waiting.takeWhile (!·.accepts code) = waiting := by
    rw [List.takeWhile_eq_self_iff]
    intro v hv
    by_contra haccepts
    exact hnone ⟨v, hv, by simpa using haccepts⟩
  rw [onward, hall]
  exact List.mem_filterMap.mpr ⟨w, hw, hu⟩

/-- A run with a live way among those that wait ends with a match. -/
theorem isSome_runList {remaining : Nat} {waiting : List Thread} (best : Option Match)
    (hremaining : text.size = position + remaining) (hstays : ∀ w ∈ waiting, w.stays code = [w])
    (hlive : best.isSome = true ∨ ∃ w ∈ waiting, Live code text w.address position) :
    (runList code text remaining position waiting best).isSome = true := by
  induction remaining generalizing position waiting best with
  | zero =>
    refine isSome_bestOf (hlive.imp_right ?_)
    rintro ⟨w, hw, hlive⟩
    refine ⟨w, hw, (Thread.accepts_or_onward (hstays w hw) hlive).resolve_right ?_⟩
    rintro ⟨u, htakes, -⟩
    have hlt := (Thread.of_onward? htakes).2.2
    omega
  | succ remaining ih =>
    obtain ⟨_, hsettles⟩ := settles_settle code text (position + 1)
      (onward code text position waiting)
    refine ih _ (by omega) hsettles.stays ?_
    by_cases haccepting : ∃ w ∈ waiting, w.accepts code = true
    · exact .inl (isSome_bestOf (.inr haccepting))
    · refine hlive.imp (fun hbest => isSome_bestOf (.inl hbest)) ?_
      rintro ⟨w, hw, hlive⟩
      obtain ⟨u, htakes, hlive⟩ := (Thread.accepts_or_onward (hstays w hw) hlive).resolve_left
        fun haccepts => haccepting ⟨w, hw, haccepts⟩
      exact exists_live_waiting hsettles (mem_onward haccepting hw htakes) hlive

/-! ## Leaving out what is not live -/

/-- Ways to instructions that were come to before can be put anywhere among the pending ones. -/
theorem Settles.of_filter_eq {hidden : Set Nat} [DecidablePred (· ∈ hidden)]
    {pending pending' waiting : List Thread} {seen after : Set Nat}
    (h : Settles code text position pending seen waiting after) (hhidden : hidden ⊆ seen)
    (heq : pending'.filter (·.address ∉ hidden) = pending.filter (·.address ∉ hidden)) :
    Settles code text position pending' seen waiting after := by
  induction h generalizing pending' with
  | done seen =>
    have hall : ∀ t ∈ pending', t.address ∈ seen := by
      intro t ht
      have hnot := List.filter_eq_nil_iff.mp heq t ht
      exact hhidden (by simpa using hnot)
    have hidle : Settles code text position (pending' ++ []) seen [] seen :=
      .append_idle hall (.done seen)
    rwa [List.append_nil] at hidle
  | skip idle rest ih =>
    next t pending waiting seen after =>
    by_cases ht : t.address ∈ hidden
    · exact ih hhidden (by simpa [ht] using heq)
    · rw [List.filter_cons_of_pos (by simpa using ht), List.filter_eq_cons_iff] at heq
      obtain ⟨front, back, rfl, hfront, -, hback⟩ := heq
      exact .append_idle (fun s hs => hhidden (by simpa using hfront s hs))
        (.skip idle (ih hhidden hback))
  | visit fresh inside rest ih =>
    next t pending waiting seen after =>
    have ht : t.address ∉ hidden := fun ht => fresh (hhidden ht)
    rw [List.filter_cons_of_pos (by simpa using ht), List.filter_eq_cons_iff] at heq
    obtain ⟨front, back, rfl, hfront, -, hback⟩ := heq
    refine .append_idle (fun s hs => hhidden (by simpa using hfront s hs))
      (.visit fresh inside (ih (hhidden.trans (Set.subset_insert _ _)) ?_))
    rw [List.filter_append, List.filter_append, hback]

/-- Settling leaves the same live ways if the same live ways are pending. -/
theorem liveOnes_settle_congr {pending pending' : List Thread}
    (h : liveOnes code text position pending = liveOnes code text position pending') :
    liveOnes code text position (settle code text position pending) =
      liveOnes code text position (settle code text position pending') := by
  classical
  have hbranches : ∀ t : Thread, t.address ∈ dead code text position →
      ∀ b ∈ t.branches code text position, b.address ∈ dead code text position :=
    fun t ht b hb hlive => ht (.branch hb hlive)
  obtain ⟨_, hfirst⟩ :=
    settles_settle code text position pending
  obtain ⟨_, hsecond⟩ :=
    settles_settle code text position pending'
  have hsame := (hfirst.hide hbranches).of_filter_eq Set.subset_union_right h.symm
  exact (hsame.unique (hsecond.hide hbranches)).1

/-- The ways behind a character that are live come from live ways. -/
theorem liveOnes_onward (waiting : List Thread) :
    liveOnes code text (position + 1) (onward code text position waiting) =
      liveOnes code text (position + 1)
        (onward code text position (liveOnes code text position waiting)) := by
  classical
  induction waiting with
  | nil => rfl
  | cons t waiting ih =>
    by_cases ht : t.address ∈ dead code text position
    · have hrest : liveOnes code text position (t :: waiting) =
          liveOnes code text position waiting := by
        simp [liveOnes, ht]
      have haccepts : t.accepts code = false := by
        by_contra haccepts
        exact ht (.accept (by simpa using haccepts))
      rw [hrest, ← ih]
      cases honward : t.onward? code text position with
      | none => simp [onward, haccepts, honward]
      | some u =>
        have hu : u.address ∈ dead code text (position + 1) :=
          fun hlive => ht (.onward honward hlive)
        simp [onward, haccepts, honward, liveOnes, hu]
    · have hrest : liveOnes code text position (t :: waiting) =
          t :: liveOnes code text position waiting := by
        simp [liveOnes, ht]
      rw [hrest]
      cases haccepts : t.accepts code with
      | true => simp [onward, haccepts]
      | false =>
        cases honward : t.onward? code text position with
        | none => simpa [onward, haccepts, honward] using ih
        | some u =>
          simp only [onward, List.takeWhile_cons, haccepts, Bool.not_false, if_true,
            List.filterMap_cons, honward]
          unfold liveOnes at ih ⊢
          rw [List.filter_cons, List.filter_cons]
          unfold onward at ih
          rw [ih]

/-- The first match of waiting ways is that of the live ones. -/
theorem bestOf_liveOnes (waiting : List Thread) (best : Option Match) :
    bestOf code position (liveOnes code text position waiting) best =
      bestOf code position waiting best := by
  classical
  unfold bestOf liveOnes
  rw [List.find?_filter]
  congr 2
  funext t
  cases haccepts : t.accepts code with
  | false => simp
  | true =>
    have ht : t.address ∉ dead code text position := fun h => h (.accept haccepts)
    simp [ht]

/-- A run depends on the live ones among its waiting ways alone. -/
theorem runList_congr {remaining : Nat} {waiting waiting' : List Thread} {best : Option Match}
    (h : liveOnes code text position waiting = liveOnes code text position waiting') :
    runList code text remaining position waiting best =
      runList code text remaining position waiting' best := by
  induction remaining generalizing position waiting waiting' best with
  | zero => rw [runList, runList, ← bestOf_liveOnes, h, bestOf_liveOnes]
  | succ remaining ih =>
    rw [runList, runList, ← bestOf_liveOnes, h, bestOf_liveOnes]
    refine ih (liveOnes_settle_congr ?_)
    rw [liveOnes_onward, h, ← liveOnes_onward]

end Liveness

end GrammarScan.Regular
