import GrammarScan.Proofs.Pattern.Effective
import GrammarScan.Proofs.Search.Captured

/-!
# Searching for text at an anchor

Literal text with an anchor in front of it can stand at one place only: at the start of the
document, or where the search began. An anchor that is not allowed has become a character, and the
text behind it is literal text as well.

Of the engine it is assumed that it reads characters and the two anchors, and that it gives up no
search for text behind an anchor if both hold where the search begins. Where they do not, a search
that is given up finds nothing either.
-/

namespace GrammarScan

/-- Whether an item is a character or an anchor for a start. -/
def Item.isCharOrAnchor (item : Item) : Bool := item.isChar || item.isAnchor

/-- Text behind an anchor that holds at one place alone, not behind the start of the search, is
found if the search begins there and the text stands there. -/
theorem firstSpan?_anchored {multiLine : Bool} {word text : List Char} {anchor : Item}
    {place only : Nat} (hanchor : anchor.isAnchor = true) (hle : only ≤ place)
    (hplace : place ≤ text.length)
    (honly : ∀ start, anchor.holds multiLine text place start = decide (start = only)) :
    firstSpan? multiLine text (anchor :: word.map .char) place =
      if place = only ∧ word <+: text.drop only then
        some ⟨byteLength (text.take only), byteLength (text.take only) + byteLength word⟩
      else none := by
  have hspan (start : Nat) :
      (itemsStop? multiLine text place (anchor :: word.map .char) start).map (spanOf text start) =
        if start = only ∧ word <+: text.drop only then
          some ⟨byteLength (text.take only), byteLength (text.take only) + byteLength word⟩
        else none := by
    rw [itemsStop?, honly, Item.width_of_isAnchor hanchor, Nat.add_zero, itemsStop?_word]
    by_cases hstart : start = only
    · subst hstart
      by_cases hword : word <+: text.drop start
      · simp [hword, spanOf_word hword]
      · simp [hword]
    · simp [hstart]
  have hmade : (place ≤ only ∧ only < place + (text.length + 1 - place)) ↔ place = only := by omega
  rw [firstSpan?, findSome?_range'_of_only fun start _ _ => hspan start]
  simp only [hmade]

/-! ## The search -/

namespace Matcher

variable {E : RegexEngine} {options : Options} {v : List Char} {m : Matcher E} {b : Buffer}
  {place : Nat}

/-- A matcher for text behind an anchor that holds at one place alone finds it there, in a search
from there. -/
theorem findsJust_anchored (hreads : E.ReadsItems options Item.isCharOrAnchor)
    (hsettles : E.SettlesAnchoredText options) {anchor : Item} {only : Nat}
    (hanchor : anchor.isAnchor = true)
    (hm : ofPattern (spell (anchor :: v.map .char)) options E = .ok m) (hle : only ≤ place)
    (hplace : place ≤ b.text.length) (honly : ∀ start,
      anchor.holds (!options.singleLineAnchors) b.text place start = decide (start = only)) :
    m.FindsJust b (byteLength (b.text.take place)) (place = only ∧ v <+: b.text.drop only)
      ⟨byteLength (b.text.take only), byteLength (b.text.take only) + byteLength v⟩ := by
  have hknown : ∀ item ∈ anchor :: v.map .char, item.isCharOrAnchor = true := by
    simp [Item.isCharOrAnchor, Item.isChar, hanchor]
  refine .of_firstSpan? hreads hknown hm hplace (firstSpan?_anchored hanchor hle hplace honly) ?_
  rintro ⟨rfl, hword⟩
  refine hsettles hanchor (eq_of_ofPattern hm).1 hplace ?_
  rw [itemsStop?, honly, Item.width_of_isAnchor hanchor, Nat.add_zero, itemsStop?_word,
    if_pos hword]
  simp

/-- Text at the start of the document is found there by a search from there. -/
theorem findsJust_textStart (hreads : E.ReadsItems options Item.isCharOrAnchor)
    (hsettles : E.SettlesAnchoredText options)
    (hm : ofPattern ('\\' :: 'A' :: Pattern.escape v) options E = .ok m)
    (hplace : place ≤ b.text.length) :
    m.FindsJust b (byteLength (b.text.take place))
      (byteLength (b.text.take place) = 0 ∧ v <+: b.text) ⟨0, byteLength v⟩ := by
  have hspelled : ofPattern (spell (.textStart :: v.map .char)) options E = .ok m := by
    rwa [spell_cons, spell_word]
  have hfinds := findsJust_anchored hreads hsettles rfl hspelled (Nat.zero_le place) hplace
    fun start => rfl
  rw [byteLength_take_eq_zero hplace]
  simpa [byteLength] using hfinds

/-- Text at the start of the search is found if it stands there. -/
theorem findsJust_searchStart (hreads : E.ReadsItems options Item.isCharOrAnchor)
    (hsettles : E.SettlesAnchoredText options)
    (hm : ofPattern ('\\' :: 'G' :: Pattern.escape v) options E = .ok m)
    (hplace : place ≤ b.text.length) :
    m.FindsJust b (byteLength (b.text.take place))
      (OccursAt v b.text (byteLength (b.text.take place)))
      ⟨byteLength (b.text.take place), byteLength (b.text.take place) + byteLength v⟩ := by
  have hspelled : ofPattern (spell (.searchStart :: v.map .char)) options E = .ok m := by
    rwa [spell_cons, spell_word]
  have hfinds := findsJust_anchored hreads hsettles rfl hspelled (Nat.le_refl place) hplace
    fun start => rfl
  rw [occursAt_take hplace]
  simpa using hfinds

/-- Text behind the stand-in for an anchor that cannot hold is found nowhere. -/
theorem search_never (hreads : E.ReadsItems options Item.isCharOrAnchor)
    (hm : ofPattern (Pattern.neverOccurs :: Pattern.escape v) options E = .ok m)
    (hnever : Pattern.neverOccurs ∉ b.text) (hplace : place ≤ b.text.length) :
    (m.search b (byteLength (b.text.take place))).result = .ok none := by
  have hescape : Pattern.neverOccurs :: Pattern.escape v =
      Pattern.escape (Pattern.neverOccurs :: v) := rfl
  rw [hescape] at hm
  refine search_escape_of_forall_not hreads (fun item h => by simp [Item.isCharOrAnchor, h]) hm
    (isBoundary_iff_take.mpr ⟨place, hplace, rfl⟩) fun start _ hoccurs => hnever ?_
  obtain ⟨front, back, htext, -⟩ := hoccurs
  rw [htext]
  simp

end Matcher

/-- A pattern with an anchor in front of literal text finds that text just where the anchor holds:
the one for the start of the document if that is allowed, at the start of the text by a search from
there, and the one for the start of the search if that is allowed, where the search begins. A
pattern whose anchor is not allowed finds nothing in a text without the stand-in. -/
theorem resolveAnchors_findsJust {E : RegexEngine} {options : Options}
    (hreads : E.ReadsItems options Item.isCharOrAnchor)
    (hsettles : E.SettlesAnchoredText options) (v : List Char) (ruleId : Pattern.RuleId)
    (atStart atSearch : Bool) {b : Buffer} (hnever : Pattern.neverOccurs ∉ b.text) {position : Nat}
    (hposition : isBoundary b.text position = true) (m : Matcher E) :
    (Matcher.ofPattern ((Pattern.RulePattern.ofText ("\\A".toList ++ Pattern.escape v)
        ruleId).resolveAnchors atStart atSearch) options E = .ok m →
      m.FindsJust b position (atStart = true ∧ position = 0 ∧ v <+: b.text) ⟨0, byteLength v⟩) ∧
    (Matcher.ofPattern ((Pattern.RulePattern.ofText ("\\G".toList ++ Pattern.escape v)
        ruleId).resolveAnchors atStart atSearch) options E = .ok m →
      m.FindsJust b position (atSearch = true ∧ OccursAt v b.text position)
        ⟨position, position + byteLength v⟩) := by
  obtain ⟨place, hplace, rfl⟩ := isBoundary_iff_take.mp hposition
  refine ⟨fun hm => ?_, fun hm => ?_⟩
  · change Matcher.ofPattern ((Pattern.RulePattern.ofText ('\\' :: 'A' :: Pattern.escape v)
      ruleId).resolveAnchors atStart atSearch) options E = .ok m at hm
    rw [Pattern.RulePattern.resolveAnchors_anchor_escape (by decide)] at hm
    cases atStart with
    | true => simpa using Matcher.findsJust_textStart hreads hsettles hm hplace
    | false => exact ⟨by simp, fun _ => Matcher.search_never hreads hm hnever hplace⟩
  · change Matcher.ofPattern ((Pattern.RulePattern.ofText ('\\' :: 'G' :: Pattern.escape v)
      ruleId).resolveAnchors atStart atSearch) options E = .ok m at hm
    rw [Pattern.RulePattern.resolveAnchors_anchor_escape (by decide)] at hm
    cases atSearch with
    | true => simpa using Matcher.findsJust_searchStart hreads hsettles hm hplace
    | false => exact ⟨by simp, fun _ => Matcher.search_never hreads hm hnever hplace⟩

set_option maxRecDepth 4000 in
/-- The text stands twice, once at the start of the document and once where the search begins. -/
theorem resolveAnchors_findsJust_twice :
    (∃ m, Matcher.ofPattern ((Pattern.RulePattern.ofText ("\\A".toList ++
          Pattern.escape "a.é".toList) ⟨0⟩).resolveAnchors true false) {} = .ok m ∧
        (m.search (.ofText ⟨0⟩ "a.éa.é".toList .utf16) 0).result = .ok (some ⟨[some ⟨0, 4⟩]⟩)) ∧
      (∃ m, Matcher.ofPattern ((Pattern.RulePattern.ofText ("\\G".toList ++
          Pattern.escape "a.é".toList) ⟨0⟩).resolveAnchors false true) {} = .ok m ∧
        (m.search (.ofText ⟨0⟩ "a.éa.é".toList .utf16) 4).result = .ok (some ⟨[some ⟨4, 8⟩]⟩)) ∧
      ∃ m, Matcher.ofPattern ((Pattern.RulePattern.ofText ("\\G".toList ++
          Pattern.escape "a.é".toList) ⟨0⟩).resolveAnchors true false) {} = .ok m ∧
        (m.search (.ofText ⟨0⟩ "a.éa.é".toList .utf16) 4).result = .ok none := by
  have hreads : RegexEngine.builtIn.ReadsItems {} Item.isCharOrAnchor :=
    RegexEngine.builtIn_readsItems.mono fun _ _ => rfl
  have hnever : Pattern.neverOccurs ∉ "a.éa.é".toList := by decide
  have hmeaning (position : Nat) (hposition : isBoundary "a.éa.é".toList position = true)
      (atStart atSearch : Bool) :=
    resolveAnchors_findsJust hreads RegexEngine.builtIn_settlesAnchoredText "a.é".toList ⟨0⟩
      atStart atSearch
      (b := .ofText ⟨0⟩ "a.éa.é".toList .utf16) hnever hposition
  have hstart : (fun _ => ()) <$> Matcher.ofPattern ((Pattern.RulePattern.ofText
      ("\\A".toList ++ Pattern.escape "a.é".toList) ⟨0⟩).resolveAnchors true false) {} =
        .ok () := by cbv
  have hsearch : (fun _ => ()) <$> Matcher.ofPattern ((Pattern.RulePattern.ofText
      ("\\G".toList ++ Pattern.escape "a.é".toList) ⟨0⟩).resolveAnchors false true) {} =
        .ok () := by cbv
  have hnowhere : (fun _ => ()) <$> Matcher.ofPattern ((Pattern.RulePattern.ofText
      ("\\G".toList ++ Pattern.escape "a.é".toList) ⟨0⟩).resolveAnchors true false) {} =
        .ok () := by cbv
  obtain ⟨m₁, hm₁, -⟩ := exists_of_map_eq_ok hstart
  obtain ⟨m₂, hm₂, -⟩ := exists_of_map_eq_ok hsearch
  obtain ⟨m₃, hm₃, -⟩ := exists_of_map_eq_ok hnowhere
  refine ⟨⟨m₁, hm₁, ?_⟩, ⟨m₂, hm₂, ?_⟩, m₃, hm₃, ?_⟩
  · exact ((hmeaning 0 rfl true false m₁).1 hm₁).found ⟨rfl, rfl, by decide⟩
  · exact ((hmeaning 4 rfl false true m₂).2 hm₂).found ⟨rfl, "a.é".toList, [], rfl, rfl⟩
  · exact ((hmeaning 4 rfl true false m₃).2 hm₃).absent (by simp)

end GrammarScan
