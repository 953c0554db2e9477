import GrammarScan.Proofs.Search.Anchored

/-!
# Searching for text at the end

The end of the text is written as an assertion and two look-arounds: the end of a line or of the
text, with no line feed on either side. That is the end of the text with or without line anchors,
unless the text ends with a line feed, where there is no such place at all. So literal text in front
of it is found where the text ends with it, and nowhere else.

Of the engine it is assumed that it reads characters and the three parts of the assertion. It may
give searches up; nothing is said about these.
-/

namespace GrammarScan

/-- Whether an item is a character or part of the assertion for the end of the text. -/
def Item.isCharOrEnd (item : Item) : Bool := item.isChar || item.isEnd

/-- The assertion for the end of the text as items. -/
def endItems : List Item := [.lineEnd, .noFeedAhead, .noFeedBehind]

/-- The assertion is written as its items. -/
theorem spell_endItems : spell endItems = Pattern.endAssertion := by decide

section Ends

variable {multiLine : Bool} {word text : List Char} {origin place : Nat}

/-- A word is the end of a text if it stands there and nothing follows. -/
theorem isSuffix_iff {start : Nat} (hle : start ≤ text.length) :
    start = text.length - word.length ∧ word <:+ text ↔
      word <+: text.drop start ∧ start + word.length = text.length := by
  constructor
  · rintro ⟨rfl, hword⟩
    have hlength := hword.length_le
    rw [← List.suffix_iff_eq_drop.mp hword]
    exact ⟨List.prefix_rfl, Nat.sub_add_cancel hlength⟩
  · rintro ⟨hword, hend⟩
    have hstart : start = text.length - word.length := by omega
    refine ⟨hstart, List.suffix_iff_eq_drop.mpr ?_⟩
    rw [← hstart]
    exact hword.eq_of_length (by rw [List.length_drop]; omega)

/-- Items that take up nothing go on where all of them hold. -/
theorem itemsStop?_of_width_eq_zero {items : List Item} (h : ∀ item ∈ items, item.width = 0) :
    itemsStop? multiLine text origin items place =
      if items.all (Item.holds multiLine text origin place) then some place else none := by
  induction items with
  | nil => rfl
  | cons item items ih =>
    obtain ⟨hhere, hrest⟩ := List.forall_mem_cons.mp h
    rw [itemsStop?, hhere, Nat.add_zero, ih hrest, List.all_cons]
    cases item.holds multiLine text origin place <;> simp

/-- Where the text or a line ends without a line feed on either side, the text ends, and not with a
line feed. -/
theorem all_endItems_iff : endItems.all (Item.holds multiLine text origin place) = true ↔
    place = text.length ∧ text.getLast? ≠ some '\n' := by
  simp only [endItems, List.all_cons, List.all_nil, Item.holds, Bool.and_true, Bool.and_eq_true,
    Bool.or_eq_true, decide_eq_true_eq, List.getLast?_eq_getElem?]
  constructor
  · rintro ⟨rfl | ⟨-, hfeed⟩, hahead, hbehind⟩
    · refine ⟨rfl, fun hlast => ?_⟩
      rcases hbehind with hempty | hbehind
      · simp [List.eq_nil_of_length_eq_zero hempty] at hlast
      · exact hbehind hlast
    · exact absurd hfeed hahead
  · rintro ⟨rfl, hlast⟩
    exact ⟨.inl rfl, by simp, .inr hlast⟩

/-- The assertion for the end of the text goes on at the end of a text that does not end with a line
feed. -/
theorem itemsStop?_endItems : itemsStop? multiLine text origin endItems place =
    if place = text.length ∧ text.getLast? ≠ some '\n' then some place else none := by
  rw [itemsStop?_of_width_eq_zero (by decide)]
  exact if_congr all_endItems_iff rfl rfl

/-- A word in front of the end of the text goes on where the text ends with the word. -/
theorem map_itemsStop?_textEnd (hplace : place ≤ text.length) :
    (itemsStop? multiLine text origin (word.map .char ++ endItems) place).map (spanOf text place) =
      if place = text.length - word.length ∧ word <:+ text ∧ text.getLast? ≠ some '\n' then
        some (spanOf text (text.length - word.length) text.length) else none := by
  rw [itemsStop?_append, itemsStop?_word]
  by_cases hword : word <+: text.drop place
  · rw [if_pos hword, Option.bind_some, itemsStop?_endItems]
    by_cases hend : place + word.length = text.length ∧ text.getLast? ≠ some '\n'
    · obtain ⟨hend, hlast⟩ := hend
      obtain ⟨hstart, hsuffix⟩ := (isSuffix_iff hplace).mpr ⟨hword, hend⟩
      rw [if_pos ⟨hend, hlast⟩, if_pos ⟨hstart, hsuffix, hlast⟩, Option.map_some, hend, hstart]
    · rw [if_neg hend, if_neg fun h => hend ⟨((isSuffix_iff hplace).mp ⟨h.1, h.2.1⟩).2, h.2.2⟩]
      rfl
  · rw [if_neg hword, if_neg fun h => hword ((isSuffix_iff hplace).mp ⟨h.1, h.2.1⟩).1]
    rfl

/-- A word in front of the end of the text is found if the text ends with it, and not with a line
feed, unless the search began behind the start of the word. -/
theorem firstSpan?_textEnd (horigin : origin ≤ text.length) :
    firstSpan? multiLine text (word.map .char ++ endItems) origin =
      if word <:+ text ∧ text.getLast? ≠ some '\n' ∧
          byteLength (text.take origin) ≤ byteLength text - byteLength word then
        some ⟨byteLength text - byteLength word, byteLength text⟩
      else none := by
  rw [firstSpan?, findSome?_range'_of_only fun start _ hlt => map_itemsStop?_textEnd (by omega)]
  by_cases hends : word <:+ text ∧ text.getLast? ≠ some '\n'
  · obtain ⟨⟨front, rfl⟩, hlast⟩ := hends
    have hplace : (front ++ word).length - word.length = front.length := by simp
    have hbytes : byteLength (front ++ word) - byteLength word = byteLength front := by
      rw [byteLength_append, Nat.add_sub_cancel]
    have hspan : spanOf (front ++ word) front.length (front ++ word).length =
        ⟨byteLength front, byteLength (front ++ word)⟩ := by
      rw [spanOf, List.take_left, List.take_length]
    have hmade : (origin ≤ front.length ∧
        front.length < origin + ((front ++ word).length + 1 - origin)) ↔
          byteLength ((front ++ word).take origin) ≤ byteLength front := by
      constructor
      · intro h
        simpa using byteLength_take_mono (front ++ word) h.1
      · intro h
        have hle : origin ≤ front.length :=
          le_of_byteLength_take_le horigin (by rwa [List.take_left])
        exact ⟨hle, by simp only [List.length_append] at horigin ⊢; omega⟩
    rw [hplace, hbytes, hspan]
    by_cases hle : byteLength ((front ++ word).take origin) ≤ byteLength front
    · rw [if_pos ⟨hmade.mpr hle, ⟨front, rfl⟩, hlast⟩, if_pos ⟨⟨front, rfl⟩, hlast, hle⟩]
    · rw [if_neg fun h => hle (hmade.mp h.1), if_neg fun h => hle h.2.2]
  · rw [if_neg fun h => hends h.2, if_neg fun h => hends ⟨h.1, h.2.1⟩]

end Ends

/-- A pattern with the anchor for the end of the text behind literal text finds that text just at
the end: if the text that is searched ends with it and not with a line feed, and the search did not
begin behind its start. It finds nothing in front of a line feed, be it the last one or not. This
holds with and without line anchors, whenever the search is not given up. -/
theorem expandEnds_findsJust {E : RegexEngine} {options : Options}
    (hreads : E.ReadsItems options Item.isCharOrEnd) (v : List Char) (ruleId : Pattern.RuleId)
    {m : Matcher E} (hm : Matcher.ofPattern (Pattern.RulePattern.ofText
      (Pattern.escape v ++ "\\z".toList) ruleId).source options E = .ok m)
    {b : Buffer} {position : Nat} (hposition : isBoundary b.text position = true)
    (hdone : (E.find m.regex b.text position).isAborted = false) :
    m.FindsJust b position (v <:+ b.text ∧ b.text.getLast? ≠ some '\n' ∧
        position ≤ b.byteLength - byteLength v) ⟨b.byteLength - byteLength v, b.byteLength⟩ := by
  have hsource : (Pattern.RulePattern.ofText (Pattern.escape v ++ "\\z".toList) ruleId).source =
      Pattern.escape v ++ Pattern.endAssertion := Pattern.expandEnds_escape_append v _
  have hspelled : spell (v.map .char ++ endItems) = Pattern.escape v ++ Pattern.endAssertion := by
    rw [spell_append, spell_word, spell_endItems]
  rw [hsource, ← hspelled] at hm
  have hknown : ∀ item ∈ v.map Item.char ++ endItems, item.isCharOrEnd = true := by
    refine List.forall_mem_append.mpr ⟨List.forall_mem_map.mpr fun c _ => rfl, by decide⟩
  obtain ⟨place, hplace, rfl⟩ := isBoundary_iff_take.mp hposition
  exact .of_firstSpan? hreads hknown hm hplace (firstSpan?_textEnd hplace) fun _ => hdone

set_option maxRecDepth 4000 in
/-- With line anchors the text stands in front of a line feed and at the end. -/
theorem expandEnds_findsJust_lines : ∃ m,
    Matcher.ofPattern (Pattern.RulePattern.ofText
      (Pattern.escape "a.".toList ++ "\\z".toList) ⟨0⟩).source {} = .ok m ∧
    (m.search (.ofText ⟨0⟩ "a.\na.".toList .utf16) 0).result = .ok (some ⟨[some ⟨3, 5⟩]⟩) ∧
    (m.search (.ofText ⟨0⟩ "a.\na.".toList .utf16) 4).result = .ok none ∧
    (m.search (.ofText ⟨0⟩ "a.\n".toList .utf16) 0).result = .ok none := by
  have hcompiled : (fun m : Matcher => (m.regex.find "a.\na.".toList 0,
      m.regex.find "a.\na.".toList 4, m.regex.find "a.\n".toList 0)) <$>
        Matcher.ofPattern (Pattern.RulePattern.ofText
          (Pattern.escape "a.".toList ++ "\\z".toList) ⟨0⟩).source {} =
      .ok (.found ⟨[some ⟨3, 5⟩]⟩, .absent, .absent) := by cbv
  obtain ⟨m, hm, hfacts⟩ := exists_of_map_eq_ok hcompiled
  simp only [Prod.mk.injEq] at hfacts
  obtain ⟨hend, hlater, hfeed⟩ := hfacts
  have hmeaning {text : List Char} {position : Nat} {outcome : Outcome Abort}
      (hposition : isBoundary text position = true)
      (hfind : m.regex.find text position = outcome) (hverdict : outcome.isAborted = false) :=
    have hdone : (m.regex.find text position).isAborted = false := hfind ▸ hverdict
    expandEnds_findsJust (RegexEngine.builtIn_readsItems.mono fun _ _ => rfl)
      "a.".toList ⟨0⟩ hm (b := .ofText ⟨0⟩ text .utf16) hposition hdone
  refine ⟨m, hm, ?_, ?_, ?_⟩
  · exact (hmeaning rfl hend rfl).found (by decide)
  · exact (hmeaning rfl hlater rfl).absent (by decide)
  · exact (hmeaning rfl hfeed rfl).absent (by decide)

end GrammarScan
