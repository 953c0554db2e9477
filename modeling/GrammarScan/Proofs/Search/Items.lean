import GrammarScan.Pattern.Anchor
import GrammarScan.Pattern.Escape
import GrammarScan.Proofs.Search.Laws

/-!
# Rows of items

What a pattern means is up to the engine. Of patterns that are put together from literal text,
anchors and the assertion for the end of the text no more is relied on than this: a few items have
their usual meaning, each by itself, and a row of items is found at the first place from which one
after another holds. Whatever else patterns are made of is not spoken of.

An engine may give a search up. It is relied on not to do so where nothing makes it go back: for
text alone, and for text behind an anchor that stands where the search begins. The laws are asked
for certain options, and for those items that a result is about.
-/

namespace GrammarScan

/-- An item of a pattern: a character, the start of the text, the start of the search, the end of a
line or of the text, or that there is no line feed on a side. -/
inductive Item where
  | char (c : Char)
  | textStart
  | searchStart
  | lineEnd
  | noFeedAhead
  | noFeedBehind
  deriving DecidableEq, Repr

namespace Item

/-- How an item is written. -/
def spelled : Item → List Char
  | .char c => Pattern.escapeChar c
  | .textStart => "\\A".toList
  | .searchStart => "\\G".toList
  | .lineEnd => "$".toList
  | .noFeedAhead => "(?!\\n)".toList
  | .noFeedBehind => "(?<!\\n)".toList

/-- Whether an item is a character. -/
def isChar : Item → Bool
  | .char _ => true
  | _ => false

/-- Whether an item is an anchor for a start. -/
def isAnchor : Item → Bool
  | .textStart | .searchStart => true
  | _ => false

/-- Whether an item is part of the assertion for the end of the text. -/
def isEnd : Item → Bool
  | .lineEnd | .noFeedAhead | .noFeedBehind => true
  | _ => false

/-- Whether an item holds at a place of a text in a search that began at `origin`, with or without
line anchors. Places are counted in characters. -/
def holds (multiLine : Bool) (text : List Char) (origin place : Nat) : Item → Bool
  | .char c => text[place]? = some c
  | .textStart => place = 0
  | .searchStart => place = origin
  | .lineEnd => place = text.length || multiLine && text[place]? = some '\n'
  | .noFeedAhead => text[place]? ≠ some '\n'
  | .noFeedBehind => place = 0 || text[place - 1]? ≠ some '\n'

/-- How many characters an item takes up. -/
def width : Item → Nat
  | .char _ => 1
  | _ => 0

/-- An anchor takes up nothing. -/
theorem width_of_isAnchor {item : Item} (h : item.isAnchor = true) : item.width = 0 := by
  cases item <;> first | rfl | cases h

end Item

/-- How a row of items is written. -/
def spell (items : List Item) : List Char := items.flatMap Item.spelled

/-- Where a row of items ends that begins at a place, if all of them hold. -/
def itemsStop? (multiLine : Bool) (text : List Char) (origin : Nat) :
    List Item → (place : Nat) → Option Nat
  | [], place => some place
  | item :: items, place =>
    if item.holds multiLine text origin place then
      itemsStop? multiLine text origin items (place + item.width)
    else none

/-- The range of a row of items that begins at the first possible place from `origin` on. -/
def firstSpan? (multiLine : Bool) (text : List Char) (items : List Item) (origin : Nat) :
    Option Span :=
  (List.range' origin (text.length + 1 - origin)).findSome? fun start =>
    (itemsStop? multiLine text origin items start).map (spanOf text start)

/-- A match without groups, or none. -/
def Outcome.ofSpan? {Cause : Type} : Option Span → Outcome Cause
  | some span => .found ⟨[some span]⟩
  | none => .absent

/-! ## The laws -/

namespace RegexEngine

variable (E : RegexEngine) (options : Options)

/-- What a row of items is compiled to. -/
def IsRegexOf (items : List Item) (r : E.Regex) : Prop :=
  E.compile (options.engineText (spell items)) options.toCostLimits = .ok r

/-- A search for a row of known items, unless it is given up, finds the first place from which all
of them hold. -/
def ReadsItems (known : Item → Bool) : Prop :=
  ∀ {items : List Item} {r : E.Regex} {text : List Char} {place : Nat},
    (∀ item ∈ items, known item = true) → E.IsRegexOf options items r → place ≤ text.length →
    (E.findAt r text place).isAborted = false →
    E.findAt r text place = .ofSpan? (firstSpan? (!options.singleLineAnchors) text items place)

/-- A search for text alone is not given up. -/
def SettlesText : Prop :=
  ∀ {word : List Char} {r : E.Regex} {text : List Char} {place : Nat},
    E.IsRegexOf options (word.map .char) r → place ≤ text.length →
    (E.findAt r text place).isAborted = false

/-- A search for text behind an anchor is not given up if both hold where it begins. -/
def SettlesAnchoredText : Prop :=
  ∀ {anchor : Item} {word : List Char} {r : E.Regex} {text : List Char} {place : Nat},
    anchor.isAnchor = true → E.IsRegexOf options (anchor :: word.map .char) r →
    place ≤ text.length →
    (itemsStop? (!options.singleLineAnchors) text place (anchor :: word.map .char) place).isSome =
      true →
    (E.findAt r text place).isAborted = false

variable {E options}

/-- An engine that reads items reads some of them. -/
theorem ReadsItems.mono {known fewer : Item → Bool} (h : E.ReadsItems options known)
    (himp : ∀ item, fewer item = true → known item = true) : E.ReadsItems options fewer :=
  fun hitems => h fun item hitem => himp item (hitems item hitem)

end RegexEngine

/-! ## Rows -/

section Rows

variable {multiLine : Bool} {text : List Char} {origin : Nat}

/-- A row goes on where its front does and the rest does from there. -/
theorem itemsStop?_append (front items : List Item) (place : Nat) :
    itemsStop? multiLine text origin (front ++ items) place =
      (itemsStop? multiLine text origin front place).bind
        (itemsStop? multiLine text origin items) := by
  induction front generalizing place with
  | nil => rfl
  | cons item front ih =>
    simp only [List.cons_append, itemsStop?, ih]
    split <;> rfl

/-- A word goes on where it stands in the text. -/
theorem itemsStop?_word (word : List Char) (place : Nat) :
    itemsStop? multiLine text origin (word.map .char) place =
      if word <+: text.drop place then some (place + word.length) else none := by
  induction word generalizing place with
  | nil => simp [itemsStop?]
  | cons c word ih =>
    simp only [List.map_cons, itemsStop?, Item.holds, Item.width, ih, decide_eq_true_eq]
    by_cases hlt : place < text.length
    · simp only [List.drop_eq_getElem_cons hlt, List.cons_prefix_cons, List.getElem?_eq_getElem hlt,
        Option.some.injEq, List.length_cons, Nat.add_assoc, Nat.add_comm 1, ite_and, eq_comm]
    · have hend : text.drop place = [] := List.drop_of_length_le (Nat.not_lt.mp hlt)
      simp [hend, hlt]

/-- The span of a word that stands in a text. -/
theorem spanOf_word {word : List Char} {place : Nat} (hword : word <+: text.drop place) :
    spanOf text place (place + word.length) =
      ⟨byteLength (text.take place), byteLength (text.take place) + byteLength word⟩ := by
  obtain ⟨back, hback⟩ := hword
  rw [spanOf, List.take_add, ← hback, byteLength_append]
  simp

/-- Text is written in escaped form. -/
theorem spell_word (word : List Char) : spell (word.map .char) = Pattern.escape word := by
  rw [spell, List.flatMap_map]
  rfl

/-- Items are spelled in their order. -/
theorem spell_cons (item : Item) (items : List Item) :
    spell (item :: items) = item.spelled ++ spell items := List.flatMap_cons

/-- Rows of items one after another are spelled one after another. -/
theorem spell_append (front items : List Item) :
    spell (front ++ items) = spell front ++ spell items := List.flatMap_append

end Rows

section Tries

variable {α : Type} {f g : Nat → Option α} {start tries place : Nat}

/-- Tries count by what they give. -/
theorem findSome?_range'_congr (h : ∀ place, start ≤ place → f place = g place) :
    (List.range' start tries).findSome? f = (List.range' start tries).findSome? g := by
  induction tries generalizing start with
  | zero => rfl
  | succ tries ih =>
    rw [List.range'_succ, List.findSome?_cons, List.findSome?_cons, h start (Nat.le_refl _),
      ih fun place hle => h place (Nat.le_of_succ_le hle)]

/-- Of a row of tries the first that gives something counts. -/
theorem findSome?_range'_of_first {a : α} (hle : start ≤ place) (hlt : place < start + tries)
    (hplace : f place = some a) (hfirst : ∀ earlier, start ≤ earlier → earlier < place →
      f earlier = none) : (List.range' start tries).findSome? f = some a := by
  obtain ⟨skipped, rfl⟩ := Nat.exists_eq_add_of_le hle
  obtain ⟨rest, rfl⟩ := Nat.exists_eq_add_of_lt (Nat.lt_of_add_lt_add_left hlt)
  have hbefore : (List.range' start skipped).findSome? f = none := by
    refine List.findSome?_eq_none_iff.mpr fun earlier hearlier => ?_
    obtain ⟨hstart, hend⟩ := List.mem_range'_1.mp hearlier
    exact hfirst earlier hstart hend
  rw [Nat.add_assoc, ← List.range'_append_1, List.findSome?_append, hbefore, Option.none_or,
    List.range'_succ, List.findSome?_cons, hplace]

/-- Where one try alone can give something, that counts if it is made and does. -/
theorem findSome?_range'_of_only {a : α} {p : Prop} [Decidable p]
    (h : ∀ other, start ≤ other → other < start + tries →
      f other = if other = place ∧ p then some a else none) :
    (List.range' start tries).findSome? f =
      if (start ≤ place ∧ place < start + tries) ∧ p then some a else none := by
  split
  · next hgives =>
    obtain ⟨⟨hle, hlt⟩, hp⟩ := hgives
    refine findSome?_range'_of_first hle hlt ?_ fun earlier hstart hearlier => ?_
    · rw [h place hle hlt, if_pos ⟨rfl, hp⟩]
    · rw [h earlier hstart (hearlier.trans hlt), if_neg fun heq => hearlier.ne heq.1]
  · next hgives =>
    refine List.findSome?_eq_none_iff.mpr fun other hother => ?_
    obtain ⟨hstart, hend⟩ := List.mem_range'_1.mp hother
    rw [h other hstart hend, if_neg]
    rintro ⟨rfl, hp⟩
    exact hgives ⟨⟨hstart, hend⟩, hp⟩

end Tries

/-! ## Searches for rows -/

namespace Matcher

variable {E : RegexEngine} {options : Options} {m : Matcher E} {b : Buffer}
  {pattern : List Char} {items : List Item} {known : Item → Bool} {place : Nat}

/-- The first search of a matcher from a boundary gives what the engine finds, and nothing if that
gives up. -/
theorem result_search (hm : ofPattern pattern options E = .ok m) (hplace : place ≤ b.text.length) :
    (m.search b (byteLength (b.text.take place))).result = match E.findAt m.regex b.text place with
      | .found captures => .ok (some captures)
      | .absent | .aborted _ => .ok none
      | .broken fault => .error fault := by
  have hboundary : isBoundary b.text (byteLength (b.text.take place)) = true :=
    isBoundary_iff_take.mpr ⟨place, hplace, rfl⟩
  simp only [search, (eq_of_ofPattern hm).2.2.2, Option.filter_none, searchAfresh, hboundary,
    if_true, RegexEngine.findAt]
  cases E.find m.regex b.text (byteLength (b.text.take place)) <;> rfl

/-- A matcher for a row of items finds the first place from which they hold, unless the search is
given up. -/
theorem result_search_items (hreads : E.ReadsItems options known)
    (hknown : ∀ item ∈ items, known item = true)
    (hm : ofPattern (spell items) options E = .ok m) (hplace : place ≤ b.text.length)
    (hdone : (E.findAt m.regex b.text place).isAborted = false) :
    (m.search b (byteLength (b.text.take place))).result =
      .ok ((firstSpan? (!options.singleLineAnchors) b.text items place).map (⟨[some ·]⟩)) := by
  rw [result_search hm hplace, hreads hknown (eq_of_ofPattern hm).1 hplace hdone]
  cases firstSpan? (!options.singleLineAnchors) b.text items place <;> rfl

/-- A matcher for a row of items that hold nowhere finds nothing, whether the search is given up or
not. -/
theorem result_search_of_firstSpan?_eq_none (hreads : E.ReadsItems options known)
    (hknown : ∀ item ∈ items, known item = true)
    (hm : ofPattern (spell items) options E = .ok m) (hplace : place ≤ b.text.length)
    (hnone : firstSpan? (!options.singleLineAnchors) b.text items place = none) :
    (m.search b (byteLength (b.text.take place))).result = .ok none := by
  cases hdone : (E.findAt m.regex b.text place).isAborted with
  | false => rw [result_search_items hreads hknown hm hplace hdone, hnone, Option.map_none]
  | true =>
    rw [result_search hm hplace]
    cases hfind : E.findAt m.regex b.text place with
    | absent | aborted cause => rfl
    | found captures | broken fault =>
      rw [hfind] at hdone
      cases hdone

/-- Whether a search finds just a span if a condition holds, and nothing if it does not. -/
structure FindsJust (m : Matcher E) (b : Buffer) (position : Nat) (holds : Prop) (span : Span) :
    Prop where
  found : holds → (m.search b position).result = .ok (some ⟨[some span]⟩)
  absent : ¬ holds → (m.search b position).result = .ok none

/-- A matcher for a row of items finds just what the items say, if a search that finds them is not
given up. -/
theorem FindsJust.of_firstSpan? {holds : Prop} [Decidable holds] {span : Span}
    (hreads : E.ReadsItems options known) (hknown : ∀ item ∈ items, known item = true)
    (hm : ofPattern (spell items) options E = .ok m) (hplace : place ≤ b.text.length)
    (hspan : firstSpan? (!options.singleLineAnchors) b.text items place =
      if holds then some span else none)
    (hdone : holds → (E.findAt m.regex b.text place).isAborted = false) :
    m.FindsJust b (byteLength (b.text.take place)) holds span where
  found h := by
    rw [result_search_items hreads hknown hm hplace (hdone h), hspan, if_pos h, Option.map_some]
  absent h :=
    result_search_of_firstSpan?_eq_none hreads hknown hm hplace (by rw [hspan, if_neg h])

end Matcher

end GrammarScan
