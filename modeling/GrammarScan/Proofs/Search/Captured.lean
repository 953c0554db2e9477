import GrammarScan.Proofs.Pattern.Anchors
import GrammarScan.Proofs.Regex.Items

/-!
# Searching for what was captured

A pattern that is one reference stands for the captured text and nothing else: it is resolved to
that text in escaped form, and that is the row of its characters. So a search finds the first place,
from its position on, where the captured text stands, and finds nothing if it stands nowhere there.
This holds whatever was captured, the empty text included.

Of the engine it is assumed that it reads characters, escaped if they are special, and that it gives
up no search for text alone.
-/

namespace GrammarScan

/-! ## Occurrences -/

/-- A word stands in a text at a byte offset. -/
def OccursAt (word text : List Char) (offset : Nat) : Prop :=
  ∃ front back, text = front ++ word ++ back ∧ byteLength front = offset

/-- The first place from a byte offset on where a word stands in a text. -/
structure FirstOccurrence (word text : List Char) (position start : Nat) : Prop where
  le : position ≤ start
  occurs : OccursAt word text start
  first : ∀ earlier, position ≤ earlier → OccursAt word text earlier → start ≤ earlier

section Occurrences

variable {word text : List Char} {position start offset : Nat}

/-- A word stands behind some of the characters of a text. -/
theorem occursAt_iff : OccursAt word text offset ↔
    ∃ count ≤ text.length, byteLength (text.take count) = offset ∧ word <+: text.drop count := by
  constructor
  · rintro ⟨front, back, rfl, rfl⟩
    exact ⟨front.length, by simp, by simp, back, by simp⟩
  · rintro ⟨count, -, rfl, back, hback⟩
    exact ⟨text.take count, back, by simp [List.append_assoc, hback], rfl⟩

/-- A word stands at the end of a front just if what is left begins with it. -/
theorem occursAt_take {count : Nat} (hcount : count ≤ text.length) :
    OccursAt word text (byteLength (text.take count)) ↔ word <+: text.drop count := by
  rw [occursAt_iff]
  constructor
  · rintro ⟨count', hcount', hoffset, hword⟩
    have heq : count' = count :=
      Nat.le_antisymm (le_of_byteLength_take_le hcount' hoffset.le)
        (le_of_byteLength_take_le hcount hoffset.ge)
    rwa [← heq]
  · exact fun hword => ⟨count, hcount, rfl, hword⟩

/-- A word that stands somewhere from an offset on has a first place there. -/
theorem exists_firstOccurrence (hle : position ≤ offset) (h : OccursAt word text offset) :
    ∃ start, FirstOccurrence word text position start := by
  classical
  have hexists : ∃ start, position ≤ start ∧ OccursAt word text start := ⟨offset, hle, h⟩
  obtain ⟨hfound, hoccurs⟩ := Nat.find_spec hexists
  exact ⟨Nat.find hexists, hfound, hoccurs, fun earlier hearlier hthere =>
    Nat.find_min' hexists ⟨hearlier, hthere⟩⟩

end Occurrences

section Spans

variable {multiLine : Bool} {word text : List Char} {place start : Nat}

/-- The first span of a word is that of its first occurrence. -/
theorem firstSpan?_of_firstOccurrence (hplace : place ≤ text.length)
    (h : FirstOccurrence word text (byteLength (text.take place)) start) :
    firstSpan? multiLine text (word.map .char) place =
      some ⟨start, start + byteLength word⟩ := by
  obtain ⟨found, hfound, rfl, hword⟩ := occursAt_iff.mp h.occurs
  have hle : place ≤ found := le_of_byteLength_take_le hplace h.le
  rw [firstSpan?, findSome?_range'_of_first hle (by omega)
    (by rw [itemsStop?_word, if_pos hword]; rfl), spanOf_word hword]
  intro earlier hle hlt
  rw [itemsStop?_word, if_neg]
  · rfl
  · intro hearlier
    have hback := h.first _ (byteLength_take_mono text hle)
      ((occursAt_take (hlt.le.trans hfound)).mpr hearlier)
    exact absurd (le_of_byteLength_take_le hfound hback) (Nat.not_le.mpr hlt)

/-- A word that stands nowhere from a place on has no span there. -/
theorem firstSpan?_of_forall_not_occursAt
    (h : ∀ start, byteLength (text.take place) ≤ start → ¬ OccursAt word text start) :
    firstSpan? multiLine text (word.map .char) place = none := by
  refine List.findSome?_eq_none_iff.mpr fun start hstart => ?_
  obtain ⟨hle, hlt⟩ := List.mem_range'_1.mp hstart
  rw [itemsStop?_word, if_neg]
  · rfl
  · exact fun hword => h _ (byteLength_take_mono text hle) ((occursAt_take (by omega)).mpr hword)

end Spans

/-! ## References by number -/

namespace Pattern

/-- A number is read back from its decimal digits. -/
theorem digitsValue_toDigits (k : Nat) : digitsValue (Nat.toDigits 10 k) = k := by
  have h := Nat.ofDigitChars_ten_toDigits (n := k)
  rw [Nat.ofDigitChars_eq_foldl] at h
  simpa only [digitsValue, Nat.mul_comm] using h

/-- The only reference of a pattern that is nothing else stands for what was captured, in escaped
form. -/
theorem text_resolveReferences_toDigits {line v : List Char} {captures : Captures} {k : Nat}
    {range : Span} (hk : k < wordSize) (hrange : captures.get? k = some range)
    (hv : slice? line range = some v) (ruleId : RuleId) :
    ((RulePattern.ofText ('\\' :: Nat.toDigits 10 k) ruleId).resolveReferences line
      captures).text = escape v := by
  have hdigits : ∀ d ∈ Nat.toDigits 10 k, d.isDigit = true := fun d =>
    Nat.isDigit_of_mem_toDigits (by decide) (by decide)
  have hcaptured : captured line captures (Nat.toDigits 10 k) = .ok (escape v) := by
    simp [captured, digitsValue_toDigits, Nat.not_le.mpr hk, hrange, hv]
  obtain ⟨d, digits, hform⟩ :=
    List.exists_cons_of_length_pos (Nat.length_toDigits_pos (b := 10) (n := k))
  rw [hform] at hdigits hcaptured ⊢
  obtain ⟨hd, hrest⟩ := List.forall_mem_cons.mp hdigits
  have hexpand : expandEnds ('\\' :: d :: digits) = '\\' :: d :: digits := by
    have hz : d ≠ 'z' := by
      rintro rfl
      simp at hd
    have htail : expandEnds digits = digits := by
      simpa [expandEnds] using expandEnds_digits hrest []
    rw [expandEnds, if_neg hz, htail]
  have hreferences : hasReferences ('\\' :: d :: digits) = true := by
    simp [hasReferences, hd]
  have hresolve : resolve line captures ('\\' :: d :: digits) = .ok (escape v) := by
    have hreference := resolve_reference line captures hd hrest (s := []) rfl
    rw [List.append_nil, hcaptured] at hreference
    simpa [bind, Except.bind, pure, Except.pure] using hreference
  simp [RulePattern.ofText, RulePattern.resolveReferences, RulePattern.tryResolveReferences,
    hexpand, hreferences, hresolve, Resolution.text]

end Pattern

/-! ## The search -/

section Search

variable {E : RegexEngine} {options : Options} {known : Item → Bool} {v : List Char} {m : Matcher E}
  {b : Buffer} {position start : Nat}

/-- A search for escaped text is one for the row of its characters. -/
theorem Matcher.ofPattern_escape (hm : ofPattern (Pattern.escape v) options E = .ok m) :
    ofPattern (spell (v.map .char)) options E = .ok m := by
  rwa [spell_word]

/-- Escaped text is not found if the text stands nowhere. -/
theorem Matcher.search_escape_of_forall_not (hreads : E.ReadsItems options known)
    (hknown : ∀ item : Item, item.isChar = true → known item = true)
    (hm : ofPattern (Pattern.escape v) options E = .ok m)
    (hposition : isBoundary b.text position = true)
    (h : ∀ start, position ≤ start → ¬ OccursAt v b.text start) :
    (m.search b position).result = .ok none := by
  obtain ⟨place, hplace, rfl⟩ := isBoundary_iff_take.mp hposition
  exact result_search_of_firstSpan?_eq_none (hreads.mono hknown) (by simp [Item.isChar])
    (ofPattern_escape hm) hplace (firstSpan?_of_forall_not_occursAt h)

/-- Escaped text is found where the text first stands. -/
theorem Matcher.search_escape_of_firstOccurrence (hreads : E.ReadsItems options Item.isChar)
    (hsettles : E.SettlesText options) (hm : ofPattern (Pattern.escape v) options E = .ok m)
    (hposition : isBoundary b.text position = true)
    (h : FirstOccurrence v b.text position start) :
    (m.search b position).result = .ok (some ⟨[some ⟨start, start + byteLength v⟩]⟩) := by
  obtain ⟨place, hplace, rfl⟩ := isBoundary_iff_take.mp hposition
  have hspelled := ofPattern_escape hm
  rw [result_search_items hreads (by simp [Item.isChar]) hspelled hplace
    (hsettles (eq_of_ofPattern hspelled).1 hplace), firstSpan?_of_firstOccurrence hplace h,
    Option.map_some]

end Search

/-- A pattern that is a reference to a group is compiled to a matcher for what the group captured:
from a boundary it finds the first place where that text stands, just as long as the text, and finds
nothing if it stands nowhere from there on. -/
theorem search_resolveReferences_iff {E : RegexEngine} {options : Options}
    (hreads : E.ReadsItems options Item.isChar) (hsettles : E.SettlesText options)
    {line v : List Char} {captures : Captures} {k : Nat} {range : Span} (hk : k < Pattern.wordSize)
    (hrange : captures.get? k = some range) (hv : slice? line range = some v)
    {ruleId : Pattern.RuleId} {m : Matcher E}
    (hm : Matcher.ofPattern ((Pattern.RulePattern.ofText ('\\' :: Nat.toDigits 10 k)
      ruleId).resolveReferences line captures).text options E = .ok m)
    {b : Buffer} {position : Nat} (hposition : isBoundary b.text position = true) :
    (∀ start, FirstOccurrence v b.text position start ↔
        (m.search b position).result = .ok (some ⟨[some ⟨start, start + byteLength v⟩]⟩)) ∧
      ((∀ start, position ≤ start → ¬ OccursAt v b.text start) ↔
        (m.search b position).result = .ok none) := by
  rw [Pattern.text_resolveReferences_toDigits hk hrange hv] at hm
  have hfound {start : Nat} (h : FirstOccurrence v b.text position start) :=
    Matcher.search_escape_of_firstOccurrence hreads hsettles hm hposition h
  by_cases hexists : ∃ start, position ≤ start ∧ OccursAt v b.text start
  · obtain ⟨offset, hle, hoccurs⟩ := hexists
    obtain ⟨first, hfirst⟩ := exists_firstOccurrence hle hoccurs
    refine ⟨fun start => ⟨hfound, fun hresult => ?_⟩, fun h => absurd hoccurs (h offset hle),
      fun hresult => ?_⟩
    · have hstart : first = start := by
        rw [hfound hfirst] at hresult
        simpa using hresult
      rwa [← hstart]
    · simp [hfound hfirst] at hresult
  · have hnone : ∀ start, position ≤ start → ¬ OccursAt v b.text start :=
      fun start hle hoccurs => hexists ⟨start, hle, hoccurs⟩
    have hresult := Matcher.search_escape_of_forall_not hreads (fun _ h => h) hm hposition hnone
    refine ⟨fun start => ⟨hfound, fun h => ?_⟩, fun _ => hresult, fun _ => hnone⟩
    simp [hresult] at h

set_option maxRecDepth 4000 in
/-- The eleventh group captured notation, a line feed, white space and a character of two bytes. -/
theorem search_resolveReferences_iff_notation :
    ∃ m, Matcher.ofPattern ((Pattern.RulePattern.ofText "\\10".toList ⟨0⟩).resolveReferences
        "<.*\n é>".toList ⟨.replicate 10 none ++ [some ⟨1, 7⟩]⟩).text {} = .ok m ∧
      (m.search (.ofText ⟨0⟩ "é.*\n é".toList .utf16) 0).result = .ok (some ⟨[some ⟨2, 8⟩]⟩) ∧
      FirstOccurrence ".*\n é".toList "é.*\n é".toList 0 2 ∧
      (m.search (.ofText ⟨0⟩ "é.*\n é".toList .utf16) 3).result = .ok none ∧
      ∀ start ≥ 3, ¬ OccursAt ".*\n é".toList "é.*\n é".toList start := by
  have hcompiled : (fun m : Matcher =>
      ((m.search (.ofText ⟨0⟩ "é.*\n é".toList .utf16) 0).result,
        (m.search (.ofText ⟨0⟩ "é.*\n é".toList .utf16) 3).result)) <$>
        Matcher.ofPattern ((Pattern.RulePattern.ofText "\\10".toList ⟨0⟩).resolveReferences
          "<.*\n é>".toList ⟨.replicate 10 none ++ [some ⟨1, 7⟩]⟩).text {} =
      .ok (.ok (some ⟨[some ⟨2, 8⟩]⟩), .ok none) := by cbv
  obtain ⟨m, hm, hfacts⟩ := exists_of_map_eq_ok hcompiled
  obtain ⟨hfound, habsent⟩ := Prod.mk.inj hfacts
  have hiff (position : Nat) (hposition : isBoundary "é.*\n é".toList position = true) :=
    search_resolveReferences_iff (RegexEngine.builtIn_readsItems.mono (by simp))
      RegexEngine.builtIn_settlesText (k := 10) (by decide) rfl (v := ".*\n é".toList) rfl hm
      (b := .ofText ⟨0⟩ "é.*\n é".toList .utf16) hposition
  exact ⟨m, hm, hfound, ((hiff 0 rfl).1 2).mpr hfound, habsent, (hiff 3 rfl).2.mpr habsent⟩

end GrammarScan
