import GrammarScan.Proofs.Regular.Live

/-!
# The first match of a plain program

A program that is entered through its lead tries all starts at once and prefers the earliest. Ways
that began earlier stand in front, and as long as they may accept nothing behind them counts; once
they cannot, they can be left out. So such a search finds what one attempt after another finds, and
the match it finds from a position is found from every position up to where it starts.
-/

namespace GrammarScan.Regular

/-- Whether an instruction behind the lead leads back to it, or saves in the slot of the start. -/
def Instr.meddles : Instr → Bool
  | .fork first second => first < lead.length || second < lead.length
  | .jump target => target < lead.length
  | .save slot => slot = 0
  | .char _ | .set _ | .place _ | .accept => false

/-- A program that begins with the lead, with which nothing behind it meddles. -/
structure Program.Led (p : Program) : Prop where
  lead_eq : ∀ a < lead.length, p.code[a]? = lead[a]?
  body : ∀ a instr, lead.length ≤ a → p.code[a]? = some instr → instr.meddles = false
  groupBound_pos : 0 < p.groupBound

section Runs

variable {code : Array Instr} {text : Array Char} {position : Nat}

/-- Ways that are less preferred do not matter to a run that ends with a match without them. -/
theorem runList_append {remaining : Nat} {waiting less : List Thread} {best : Option Match}
    {found : Match} (h : runList code text remaining position waiting none = some found) :
    runList code text remaining position (waiting ++ less) best = some found := by
  induction remaining generalizing position waiting less best with
  | zero =>
    rw [runList, bestOf] at h ⊢
    cases hfind : waiting.find? (·.accepts code) with
    | none => simp [hfind] at h
    | some t => simpa [hfind] using h
  | succ remaining ih =>
    rw [runList] at h ⊢
    cases hfind : waiting.find? (·.accepts code) with
    | some t =>
      have hbest (best : Option Match) (less : List Thread) :
          bestOf code position (waiting ++ less) best = some (t.toMatch position) := by
        simp [bestOf, hfind]
      have honward : onward code text position (waiting ++ less) =
          onward code text position waiting := by
        rw [onward, onward, List.takeWhile_append]
        split
        · next hall =>
          have hmem := List.mem_of_find?_eq_some hfind
          have haccepts := List.find?_some hfind
          have hprefix := (List.takeWhile_prefix (l := waiting) (!·.accepts code)).eq_of_length hall
          rw [← hprefix] at hmem
          have hnot := List.mem_takeWhile_imp hmem
          simp [haccepts] at hnot
        · rfl
      rw [hbest, honward]
      rwa [← List.append_nil waiting, hbest, List.append_nil] at h
    | none =>
      have hnone : bestOf code position waiting none = none := by simp [bestOf, hfind]
      have honward : onward code text position (waiting ++ less) =
          onward code text position waiting ++ onward code text position less := by
        have hall : ∀ w ∈ waiting, (!w.accepts code) = true := by
          simpa using hfind
        rw [onward, onward, onward, List.takeWhile_append_of_pos hall,
          List.takeWhile_eq_self_iff.mpr hall, List.filterMap_append]
      obtain ⟨more, hmore⟩ := exists_settle_append code text
        (position + 1) (onward code text position waiting)
        (onward code text position less)
      rw [hnone] at h
      rw [honward, hmore]
      exact ih h

/-- Ways that are not live do not matter to a run. -/
theorem runList_append_of_dead {remaining : Nat} {waiting less : List Thread} {best : Option Match}
    (h : ∀ w ∈ waiting, ¬ Live code text w.address position) :
    runList code text remaining position (waiting ++ less) best =
      runList code text remaining position less best := by
  classical
  refine runList_congr ?_
  have hnone : waiting.filter (·.address ∉ dead code text position) = [] := by
    rw [List.filter_eq_nil_iff]
    intro w hw
    simpa [dead] using h w hw
  rw [liveOnes, liveOnes, List.filter_append, hnone, List.nil_append]

/-- The best match is that of a waiting way that accepts, or was there before. -/
theorem of_bestOf_eq_some {waiting : List Thread} {best : Option Match} {found : Match}
    (h : bestOf code position waiting best = some found) :
    best = some found ∨
      ∃ t ∈ waiting, t.accepts code = true ∧ found = t.toMatch position := by
  unfold bestOf at h
  split at h
  · next t ht =>
    exact .inr ⟨t, List.mem_of_find?_eq_some ht, by simpa using List.find?_some ht,
      (Option.some.inj h).symm⟩
  · exact .inl h

/-- What goes over to branches and behind characters holds of the way whose match a run ends
with. -/
theorem exists_of_runList_eq_some {P : Nat → Thread → Prop}
    (hbranches : ∀ (position : Nat) (t : Thread), P position t →
      ∀ b ∈ t.branches code text position, P position b)
    (honward : ∀ (position : Nat) (t u : Thread), P position t →
      t.onward? code text position = some u → P (position + 1) u)
    {remaining : Nat} {waiting : List Thread} {best : Option Match} {found : Match}
    (hwaiting : ∀ w ∈ waiting, P position w)
    (h : runList code text remaining position waiting best = some found) :
    best = some found ∨
      ∃ t position, P position t ∧ t.accepts code = true ∧ found = t.toMatch position := by
  induction remaining generalizing position waiting best with
  | zero =>
    refine (of_bestOf_eq_some h).imp_right ?_
    rintro ⟨t, ht, haccepts, rfl⟩
    exact ⟨t, position, hwaiting t ht, haccepts, rfl⟩
  | succ remaining ih =>
    have hbehind : ∀ u ∈ onward code text position waiting, P (position + 1) u := by
      intro u hu
      obtain ⟨t, ht, htakes⟩ := List.mem_filterMap.mp hu
      exact honward position t u (hwaiting t ((List.takeWhile_prefix _).subset ht)) htakes
    obtain ⟨_, hsettles⟩ := settles_settle code text (position + 1)
      (onward code text position waiting)
    rcases ih (hsettles.forall_waiting (hbranches _) hbehind) h with hbest | hlater
    · refine (of_bestOf_eq_some hbest).imp_right ?_
      rintro ⟨t, ht, haccepts, rfl⟩
      exact ⟨t, position, hwaiting t ht, haccepts, rfl⟩
    · exact .inr hlater

end Runs

namespace Program

variable {p : Program} {text : Array Char} {position : Nat}

/-- Behind the lead, branches stay behind it and keep the start that was saved. -/
theorem Led.branches (h : p.Led) {t b : Thread} (ht : lead.length ≤ t.address)
    (hb : b ∈ t.branches p.code text position) :
    lead.length ≤ b.address ∧ b.slots[0]? = t.slots[0]? := by
  unfold Thread.branches at hb
  cases hinstr : p.code[t.address]? with
  | none => simp [hinstr] at hb
  | some instr =>
    have hkeeps := h.body _ _ ht hinstr
    rw [hinstr] at hb
    cases instr with
    | fork first second =>
      simp only [Instr.meddles, Bool.or_eq_false_iff, decide_eq_false_iff_not, not_lt] at hkeeps
      rcases List.mem_pair.mp hb with rfl | rfl
      · exact ⟨hkeeps.1, rfl⟩
      · exact ⟨hkeeps.2, rfl⟩
    | jump target =>
      simp only [Instr.meddles, decide_eq_false_iff_not, not_lt] at hkeeps
      rw [List.mem_singleton.mp hb]
      exact ⟨hkeeps, rfl⟩
    | save slot =>
      simp only [Instr.meddles, decide_eq_false_iff_not] at hkeeps
      rw [List.mem_singleton.mp hb]
      exact ⟨Nat.le_succ_of_le ht, Array.getElem?_setIfInBounds_ne hkeeps⟩
    | place condition =>
      by_cases hholds : condition.holds text position = true
      · simp only [hholds, if_true, List.mem_singleton] at hb
        subst hb
        exact ⟨Nat.le_succ_of_le ht, rfl⟩
      · simp [hholds] at hb
    | _ => simp at hb

/-- An address of the lead is one of the program. -/
theorem Led.lt_size (h : p.Led) {a : Nat} (ha : a < lead.length) : a < p.code.size := by
  have heq := h.lead_eq a ha
  rw [List.getElem?_eq_getElem ha] at heq
  exact (Array.getElem?_eq_some_iff.mp heq).1

/-- The branches and the stay of a way at the lead. -/
theorem Led.lead_branches (h : p.Led) (text : Array Char) (position : Nat) (slots : Slots) :
    (Thread.mk 0 slots).branches p.code text position = [⟨3, slots⟩, ⟨1, slots⟩] ∧
      (Thread.mk 1 slots).branches p.code text position = [] ∧
      (Thread.mk 2 slots).branches p.code text position = [⟨0, slots⟩] ∧
      (Thread.mk 3 slots).branches p.code text position =
        [⟨4, slots.setIfInBounds 0 (some position)⟩] ∧
      (Thread.mk 0 slots).stays p.code = [] ∧ (Thread.mk 1 slots).stays p.code = [⟨1, slots⟩] ∧
      (Thread.mk 2 slots).stays p.code = [] ∧ (Thread.mk 3 slots).stays p.code = [] := by
  have hlead (a : Nat) (ha : a < 4) : p.code[a]? = lead[a]? := h.lead_eq a ha
  simp [Thread.branches, Thread.stays, hlead, lead, Instr.waits]

/-- The ways that begin anywhere are those that begin right there, and behind them the loop of the
lead. -/
theorem Led.settle_anywhere (h : p.Led) (slots : Slots) :
    settle p.code text position [⟨anywhere, slots⟩] =
      settle p.code text position [⟨here, slots⟩] ++ [⟨1, slots⟩] := by
  obtain ⟨hzero, hone, -, hthree, hzero', hone', -, -⟩ :=
    h.lead_branches text position slots
  obtain ⟨_, hhere⟩ := settles_settle p.code text position
    [⟨here, slots⟩]
  have hregion : ∀ t : Thread, t.address ∈ {a | 3 ≤ a} →
      ∀ b ∈ t.branches p.code text position, b.address ∈ {a | 3 ≤ a} := by
    intro t (ht : 3 ≤ t.address) b hb
    rcases Nat.eq_or_lt_of_le ht with ht | ht
    · obtain ⟨c, hc, hcb⟩ := Thread.exists_branch (s := ⟨3, slots⟩) ht.symm hb
      rw [hthree, List.mem_singleton] at hc
      change 3 ≤ b.address
      rw [← hcb, hc]
      exact Nat.le_succ 3
    · exact le_trans (by decide : 3 ≤ lead.length) (h.branches ht hb).1
  obtain ⟨after, hagain, hafter⟩ := hhere.congr {0} hregion (by simp [here])
    fun a (ha : 3 ≤ a) => by simp; omega
  have hfresh : 1 ∉ after := by simp [hafter]
  have hloop : Settles p.code text position [⟨1, slots⟩] after [⟨1, slots⟩] (insert 1 after) :=
    .single hone hone' hfresh (h.lt_size (a := 1) (by decide)) (.done _)
  have hboth := hagain.append hloop
  rw [← insert_empty_eq] at hboth
  exact (Settles.single hzero hzero' (Set.notMem_empty 0) (h.lt_size (a := 0) (by decide))
    hboth).eq_settle

/-- The loop of the lead comes back to where a program is entered for a match anywhere. -/
theorem Led.settle_loop (h : p.Led) (slots : Slots) :
    settle p.code text position [⟨2, slots⟩] = settle p.code text position [⟨anywhere, slots⟩] := by
  obtain ⟨hzero, hone, htwo, hthree, -, -, htwo', -⟩ :=
    h.lead_branches text position slots
  obtain ⟨_, hanywhere⟩ := settles_settle p.code text position
    [⟨anywhere, slots⟩]
  have hregion : ∀ t : Thread, t.address ∈ {a | a ≠ 2} →
      ∀ b ∈ t.branches p.code text position, b.address ∈ {a | a ≠ 2} := by
    intro t (ht : t.address ≠ 2) b hb
    change b.address ≠ 2
    rcases Nat.lt_or_ge t.address lead.length with hlead | hbody
    · obtain ⟨c, hc, hcb⟩ := t.exists_branch (s := ⟨t.address, slots⟩) rfl hb
      rw [← hcb]
      have hcases : t.address = 0 ∨ t.address = 1 ∨ t.address = 3 := by
        simp only [lead, List.length_cons, List.length_nil] at hlead
        omega
      rcases hcases with ht | ht | ht
      · rw [ht, hzero] at hc
        rcases List.mem_pair.mp hc with rfl | rfl <;> simp
      · rw [ht, hone] at hc
        simp at hc
      · rw [ht, hthree, List.mem_singleton] at hc
        simp [hc]
    · have hle := (h.branches hbody hb).1
      simp only [lead, List.length_cons, List.length_nil] at hle
      omega
  obtain ⟨after, hagain, -⟩ := hanywhere.congr {2} hregion (by simp [anywhere])
    fun a (ha : a ≠ 2) => by simp [ha]
  rw [← insert_empty_eq] at hagain
  exact (Settles.single htwo htwo' (Set.notMem_empty 2) (h.lt_size (a := 2) (by decide))
    hagain).eq_settle

/-- Every character is in the set of the lead. -/
theorem contains_all (c : Char) : CharSet.all.contains c = true := by
  have hlast : c.toNat ≤ CharSet.lastCode := by
    have hvalid : c.toNat.isValidChar := c.valid
    unfold Nat.isValidChar at hvalid
    unfold CharSet.lastCode
    omega
  simp [CharSet.contains, CharSet.all, CharSet.inRanges, hlast]

/-- The loop of the lead takes up any character. -/
theorem Led.onward_loop (h : p.Led) (slots : Slots) (hposition : position < text.size) :
    onward p.code text position [⟨1, slots⟩] = [⟨2, slots⟩] := by
  have hinstr : p.code[1]? = some (.set .all) := h.lead_eq 1 (by decide)
  simp [onward, Thread.accepts, Thread.onward?, hinstr, hposition, contains_all]

/-- A match that begins anywhere begins right there, or else behind the next character. -/
theorem Led.runAt?_anywhere (h : p.Led) (hposition : position ≤ text.size) :
    p.runAt? text anywhere position = (p.matchAt? text position).or
      (if position < text.size then p.runAt? text anywhere (position + 1) else none) := by
  rw [matchAt?, runAt?_eq_runList, runAt?_eq_runList, h.settle_anywhere]
  obtain ⟨_, hsettles⟩ := settles_settle p.code text position
    [⟨here, .replicate (2 * p.groupBound) none⟩]
  cases hhere : runList p.code text (text.size - position) position
      (settle p.code text position [⟨here, .replicate (2 * p.groupBound) none⟩]) none with
  | some found => exact runList_append hhere
  | none =>
    rw [runList_append_of_dead]
    · by_cases hlt : position < text.size
      · have hremaining : text.size - position = text.size - (position + 1) + 1 := by omega
        have hinstr : p.code[1]? = some (.set .all) := h.lead_eq 1 (by decide)
        have hbest :
            bestOf p.code position [⟨1, .replicate (2 * p.groupBound) none⟩] none = none := by
          simp [bestOf, Thread.accepts, hinstr]
        rw [if_pos hlt, hremaining, runList, h.onward_loop _ hlt, hbest, h.settle_loop,
          runAt?_eq_runList]
        rfl
      · have hinstr : p.code[1]? = some (.set .all) := h.lead_eq 1 (by decide)
        have hremaining : text.size - position = 0 := by omega
        rw [if_neg hlt, hremaining, runList]
        simp [bestOf, Thread.accepts, hinstr]
    · intro w hw hlive
      have hsome := isSome_runList none (Nat.add_sub_of_le hposition).symm hsettles.stays
        (.inr ⟨w, hw, hlive⟩)
      rw [hhere] at hsome
      simp at hsome

/-- A row of attempts is the first of them, or else the others. -/
theorem searchFrom?_succ (p : Program) (text : Array Char) (tries position : Nat) :
    p.searchFrom? text (tries + 1) position =
      (p.matchAt? text position).or (p.searchFrom? text tries (position + 1)) := by
  rw [searchFrom?]
  cases p.matchAt? text position <;> rfl

/-- A search finds what one attempt after another finds. -/
theorem Led.search?_eq (h : p.Led) (hposition : position ≤ text.size) :
    p.search? text position = p.searchFrom? text (text.size + 1 - position) position := by
  rw [search?]
  split
  · rfl
  · induction hremaining : text.size - position generalizing position with
    | zero =>
      have hlast : text.size + 1 - position = 0 + 1 := by omega
      rw [h.runAt?_anywhere hposition, if_neg (by omega), hlast, searchFrom?_succ]
      rfl
    | succ remaining ih =>
      have hnext : text.size + 1 - position = text.size + 1 - (position + 1) + 1 := by omega
      rw [h.runAt?_anywhere hposition, if_pos (by omega), hnext, searchFrom?_succ,
        ih (by omega) (by omega)]

/-- A match that a row of attempts finds starts at one of them, and is found from every attempt up
to that one. -/
theorem exists_of_searchFrom?_eq_some {tries : Nat} {found : Match}
    (h : p.searchFrom? text tries position = some found) :
    ∃ count < tries, p.matchAt? text (position + count) = some found ∧
      ∀ skipped ≤ count,
        p.searchFrom? text (tries - skipped) (position + skipped) = some found := by
  induction tries generalizing position with
  | zero => simp [searchFrom?] at h
  | succ tries ih =>
    have hall := h
    rw [searchFrom?_succ] at h
    cases hhere : p.matchAt? text position with
    | some first =>
      rw [hhere] at h
      obtain rfl := Option.some.inj h
      refine ⟨0, Nat.succ_pos _, hhere, fun skipped hskipped => ?_⟩
      obtain rfl := Nat.le_zero.mp hskipped
      exact hall
    | none =>
      rw [hhere] at h
      obtain ⟨count, hcount, hmatch, hskip⟩ := ih h
      refine ⟨count + 1, Nat.succ_lt_succ hcount, ?_, fun skipped hskipped => ?_⟩
      · rwa [Nat.add_right_comm, Nat.add_assoc] at hmatch
      · cases skipped with
        | zero => exact hall
        | succ skipped =>
          have hrest := hskip skipped (Nat.le_of_succ_le_succ hskipped)
          rwa [Nat.add_assoc, Nat.add_comm 1, ← Nat.succ_sub_succ] at hrest

/-- Where a row of attempts finds nothing, none of its ends does. -/
theorem searchFrom?_eq_none {tries skipped : Nat}
    (h : p.searchFrom? text tries position = none) (hskipped : skipped ≤ tries) :
    p.searchFrom? text (tries - skipped) (position + skipped) = none := by
  induction skipped with
  | zero => exact h
  | succ skipped ih =>
    have hlast := ih (Nat.le_of_succ_le hskipped)
    have htries : tries - skipped = tries - (skipped + 1) + 1 := by omega
    rw [htries, searchFrom?_succ, Option.or_eq_none_iff] at hlast
    exact hlast.2

/-- The match of an attempt starts where the attempt does. -/
theorem Led.start_eq (h : p.Led) {found : Match} (hfound : p.matchAt? text position = some found) :
    found.start = position := by
  let Begun (t : Thread) : Prop := lead.length ≤ t.address ∧ t.slots[0]? = some (some position)
  have hbranches (position' : Nat) (t : Thread) (ht : Begun t) :
      ∀ b ∈ t.branches p.code text position', Begun b := by
    intro b hb
    obtain ⟨haddress, hslots⟩ := h.branches ht.1 hb
    exact ⟨haddress, hslots.trans ht.2⟩
  have honward (position' : Nat) (t u : Thread) (ht : Begun t)
      (htakes : t.onward? p.code text position' = some u) : Begun u := by
    rw [(Thread.of_onward? htakes).2.1]
    exact ⟨Nat.le_succ_of_le ht.1, ht.2⟩
  obtain ⟨-, -, -, hthree, -, -, -, hthree'⟩ := h.lead_branches text
    position (.replicate (2 * p.groupBound) none)
  obtain ⟨_, hsettles⟩ := settles_settle p.code text position
    [⟨here, .replicate (2 * p.groupBound) none⟩]
  have hslots : 0 < 2 * p.groupBound := Nat.mul_pos Nat.two_pos h.groupBound_pos
  have hwaiting : ∀ w ∈ settle p.code text position
      [⟨here, .replicate (2 * p.groupBound) none⟩], Begun w := by
    intro w hw
    have hor := hsettles.forall_waiting
      (P := fun t => t = ⟨here, .replicate (2 * p.groupBound) none⟩ ∨ Begun t) ?_ (by simp) w hw
    · refine hor.resolve_left ?_
      rintro rfl
      have hstays := hsettles.stays _ hw
      rw [here, hthree'] at hstays
      simp at hstays
    · rintro t (rfl | ht) b hb
      · rw [here, hthree, List.mem_singleton] at hb
        subst hb
        exact .inr ⟨le_rfl, by simp [hslots]⟩
      · exact .inr (hbranches position t ht b hb)
  rw [matchAt?, runAt?_eq_runList] at hfound
  obtain ⟨t, stop, ht, -, rfl⟩ := (exists_of_runList_eq_some (P := fun _ t => Begun t) hbranches
    honward hwaiting hfound).resolve_left (by simp)
  simp [Thread.toMatch, ht.2]

end Program

end GrammarScan.Regular
