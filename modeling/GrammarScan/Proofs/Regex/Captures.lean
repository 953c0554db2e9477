import GrammarScan.Proofs.Backtrack.Order
import GrammarScan.Proofs.Expression.Numbering
import GrammarScan.Proofs.Regex.Reuse

/-!
# The captures of the built-in engine

What the built-in engine finds is well-formed. None of this is checked where captures are made; it
holds because the programs of patterns keep the groups in order.

A match also starts at the position of the search or behind it, with one exception: inside of a
look-behind `\K` moves the start of the match to where the look-behind reads.
-/

namespace GrammarScan

/-- An entry that is there has both its ends saved. -/
theorem exists_of_entry_eq_some {text : List Char} {slots : Regular.Slots} {index : Nat}
    {range : Span} (h : entry text slots index = some range) :
    ∃ start stop, (slots[2 * index]?).join = some start ∧
      (slots[2 * index + 1]?).join = some stop ∧ range = spanOf text start stop := by
  unfold entry at h
  split at h
  · next start stop hstart hstop => exact ⟨start, stop, hstart, hstop, (Option.some.inj h).symm⟩
  · simp at h

namespace Engine

/-- What is known of the code of an engine: a plain program is made from an expression, and the
addresses of one with backtracking can be labelled with what a run is in. -/
def Nests (startsAhead : Bool) : Engine → Prop
  | .plain program => ∃ r, program = .ofRegular r
  | .backtracking program => 2 * ((program.layout startsAhead).groups + 1) ≤ program.slotCount ∧
    0 < program.groupCount ∧ ∃ frames, program.Nests (program.layout startsAhead) frames

variable {engine : Engine} {text : List Char} {backtracks position : Nat} {captures : Captures}
  {startsAhead : Bool}

/-- The engine of every tree whose groups are numbered in their order is of this kind. -/
theorem nests_ofPattern {parsed : ParsedPattern} {limits : Limits}
    (h : ofPattern parsed limits = .ok engine)
    (hnumbered : parsed.tree.NumberedWithin 0 parsed.groupCount)
    (hstarts : startsAhead = true → parsed.tree.movesStartBack false = false) :
    engine.Nests startsAhead := by
  rcases exists_of_ofPattern_eq_ok h with ⟨-, program, rfl, hprogram⟩ | ⟨-, body, rfl, -⟩
  · exact Backtrack.Program.exists_nests hprogram hstarts hnumbered.increasing hnumbered.within
  · exact ⟨body, rfl⟩

/-- A plain match in order gives well-formed captures. -/
theorem wellFormed_of_match {found : Regular.Match} (h : found.InOrder position text.length)
    (count : Nat) : (Captures.mk (some (spanOf text found.start found.stop) ::
      (List.range count).map fun i => entry text found.slots (i + 1))).WellFormed text := by
  refine .of_spanOf rfl fun index range hrange => ?_
  cases index with
  | zero =>
    obtain rfl := Option.some.inj hrange
    exact ⟨found.start, found.stop, h.start_le_stop, h.stop_le, rfl⟩
  | succ index =>
    rw [Captures.get?, List.getElem?_cons_succ, List.getElem?_map, Option.join_eq_some_iff,
      Option.map_eq_some_iff] at hrange
    obtain ⟨i, -, hentry⟩ := hrange
    obtain ⟨start, stop, hstart, hstop, rfl⟩ := exists_of_entry_eq_some hentry
    exact ⟨start, stop, h.ordered (i + 1) (Nat.succ_pos i) start stop hstart hstop,
      (h.saved _ stop hstop).2.trans h.stop_le, rfl⟩

/-- The slots of a match with backtracking give well-formed captures. -/
theorem wellFormed_of_finished {l : Backtrack.Layout} {slots : Regular.Slots}
    (h : Backtrack.Finished l position text.length slots) :
    (Captures.mk ((List.range (l.groups + 1)).map (entry text slots))).WellFormed text := by
  obtain ⟨first, last, hfirst, hlast, hle, -⟩ := h.range
  refine .of_spanOf ?_ fun index range hrange => ?_
  · simp [Captures.get?, entry, hfirst, hlast]
  · rw [Captures.get?, List.getElem?_map, Option.join_eq_some_iff, Option.map_eq_some_iff] at hrange
    obtain ⟨i, hi, hentry⟩ := hrange
    obtain ⟨hindex, heq⟩ := List.getElem?_eq_some_iff.mp hi
    rw [List.getElem_range] at heq
    rw [List.length_range] at hindex
    subst heq
    obtain ⟨start, stop, hstart, hstop, rfl⟩ := exists_of_entry_eq_some hentry
    refine ⟨start, stop, ?_, h.bounded _ stop (by omega) hstop, rfl⟩
    cases index with
    | zero =>
      rw [hfirst] at hstart
      rw [hlast] at hstop
      obtain rfl := Option.some.inj hstart
      obtain rfl := Option.some.inj hstop
      exact hle
    | succ index =>
      exact h.ordered (index + 1) (Nat.succ_pos index) (by omega) start stop hstart hstop

/-- What an engine finds is well-formed. If the start is only moved where a run has gone ahead, it
starts where the search begins or behind it. -/
theorem Nests.find (h : engine.Nests startsAhead) (hposition : position ≤ text.length)
    (hfound : engine.find text backtracks position = .found captures) :
    captures.WellFormed text ∧
      (startsAhead = true → byteLength (text.take position) ≤ captures.start) := by
  cases engine with
  | plain program =>
    obtain ⟨r, rfl⟩ := h
    obtain ⟨opened, hnests⟩ := Regular.exists_nests_ofRegular r
    rw [Engine.find] at hfound
    split at hfound
    · next found hsearch =>
      obtain rfl := Outcome.found.inj hfound
      have hmatch := hnests.search? (by rwa [List.size_toArray]) hsearch
      rw [List.size_toArray] at hmatch
      exact ⟨wellFormed_of_match hmatch _, fun _ => byteLength_take_mono text hmatch.origin_le⟩
    · simp at hfound
  | backtracking program =>
    obtain ⟨hslots, hpos, frames, hnests⟩ := h
    have hsize : position ≤ text.toArray.size := by rwa [List.size_toArray]
    have hleaves := hnests.search hslots rfl backtracks hsize
    rw [Engine.find] at hfound
    split at hfound
    · next slots hslots =>
      obtain rfl := Outcome.found.inj hfound
      rw [hslots, List.size_toArray] at hleaves
      have hcount : program.groupCount = (program.layout startsAhead).groups + 1 :=
        (Nat.sub_add_cancel hpos).symm
      have hfinished : Backtrack.Finished _ position text.length slots := hleaves
      rw [hcount]
      refine ⟨wellFormed_of_finished hfinished, fun hstarts => ?_⟩
      obtain ⟨start, stop, hstart, hstop, -, hahead⟩ := hfinished.range
      have hrange : (Captures.mk ((List.range ((program.layout startsAhead).groups + 1)).map
          (entry text slots))).start = byteLength (text.take start) := by
        simp [Captures.start, Captures.range, Captures.get?, entry, hstart, hstop, spanOf]
      rw [hrange]
      exact byteLength_take_mono text (hahead hstarts)
    all_goals simp at hfound

end Engine

/-- Whether a pattern, as it is read, moves the start of the match inside of a look-behind. -/
def Options.movesStartBack (options : Options) (pattern : List Char) : Bool :=
  match ParsedPattern.ofText (options.engineText pattern) with
  | .ok parsed => parsed.tree.movesStartBack false
  | .error _ => false

namespace Matcher

variable {pattern : List Char} {options : Options} {m : Matcher}

/-- What the engine of a pattern finds is well-formed. If the pattern does not move the start of the
match inside of a look-behind, it starts where the search begins or behind it. -/
theorem wellFormed_of_find (hm : ofPattern pattern options = .ok m) {text : List Char}
    {position : Nat} {captures : Captures} (hposition : isBoundary text position = true)
    (hfound : m.regex.find text position = .found captures) :
    captures.WellFormed text ∧
      (options.movesStartBack pattern = false → position ≤ captures.start) := by
  obtain ⟨count, hcount, rfl⟩ := isBoundary_iff_take.mp hposition
  rw [Regex.find_take _ hcount] at hfound
  obtain ⟨parsed, hparsed, hengine⟩ := exists_of_ofPattern_eq_ok hm
  have hnumbered := ParsedPattern.numberedWithin_of_ofText hparsed
  have hnests : m.regex.engine.Nests (!parsed.tree.movesStartBack false) :=
    Engine.nests_ofPattern hengine hnumbered (by simp)
  obtain ⟨hwell, hstart⟩ := hnests.find hcount hfound
  refine ⟨hwell, fun hmoves => hstart ?_⟩
  simp only [Options.movesStartBack, hparsed] at hmoves
  rw [hmoves]
  rfl

/-- The built-in engine reports well-formed captures. -/
theorem reportsWellFormed (hm : ofPattern pattern options = .ok m) (text : List Char) :
    RegexEngine.builtIn.ReportsWellFormed m.regex text :=
  fun hposition hfound => (wellFormed_of_find hm hposition hfound).1

/-- The built-in engine finds matches ahead of the search for every pattern that does not move the
start of the match inside of a look-behind. -/
theorem findsAhead (hm : ofPattern pattern options = .ok m)
    (hmoves : options.movesStartBack pattern = false) (text : List Char) :
    RegexEngine.builtIn.FindsAhead m.regex text :=
  fun hposition hfound => (wellFormed_of_find hm hposition hfound).2 hmoves

end Matcher

end GrammarScan
