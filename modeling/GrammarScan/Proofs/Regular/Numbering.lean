import GrammarScan.Proofs.Ensures
import GrammarScan.Proofs.Expression.Constructs
import GrammarScan.Proofs.Regular.Code
import GrammarScan.Regular.OfExpression

/-!
# Group numbers of plain expressions

Putting expressions together makes no groups, and both ways to a plain expression, from a tree and
from plain notation, number groups from 1 on. So the first two slots are left to the overall match.
-/

namespace GrammarScan.Regular

/-! ## Reduced forms -/

section Reduced

variable {rs : List Regular} {r : Regular}

/-- A part that is put in front brings the groups that it has. -/
theorem groupsNumbered_consPart (hr : r.groupsNumbered = true) (hrs : allGroupsNumbered rs = true) :
    allGroupsNumbered (consPart r rs) = true := by
  unfold consPart
  split
  · exact hrs
  · exact hrs
  · simp [allGroupsNumbered, hr, hrs]

/-- Parts that are put in front one by one bring the groups that they have. -/
theorem groupsNumbered_foldr_consPart {parts : List Regular}
    (hparts : allGroupsNumbered parts = true) (hrs : allGroupsNumbered rs = true) :
    allGroupsNumbered (parts.foldr consPart rs) = true := by
  induction parts with
  | nil => exact hrs
  | cons part parts ih =>
    rw [allGroupsNumbered, Bool.and_eq_true] at hparts
    exact groupsNumbered_consPart hparts.1 (ih hparts.2)

/-- Sequences that are opened up keep the groups of their parts. -/
theorem groupsNumbered_flattenParts (h : allGroupsNumbered rs = true) :
    allGroupsNumbered (flattenParts rs) = true := by
  induction rs with
  | nil => rfl
  | cons r rs ih =>
    rw [allGroupsNumbered, Bool.and_eq_true] at h
    unfold flattenParts
    split
    · contradiction
    · next parts rest heq =>
      obtain ⟨rfl, rfl⟩ := List.cons.inj heq
      exact groupsNumbered_foldr_consPart h.1 (ih h.2)
    · next part rest hconcat heq =>
      obtain ⟨rfl, rfl⟩ := List.cons.inj heq
      exact groupsNumbered_consPart h.1 (ih h.2)

/-- A sequence has the groups of its parts. -/
theorem groupsNumbered_seq (h : allGroupsNumbered rs = true) : (seq rs).groupsNumbered = true := by
  have hflat := groupsNumbered_flattenParts h
  unfold seq
  split
  · rfl
  · next part heq => simpa [heq, allGroupsNumbered] using hflat
  · exact hflat

/-- Choices that are opened up keep the groups of their branches. -/
theorem groupsNumbered_flattenBranches (h : allGroupsNumbered rs = true) :
    allGroupsNumbered (flattenBranches rs) = true := by
  induction rs with
  | nil => rfl
  | cons r rs ih =>
    rw [allGroupsNumbered, Bool.and_eq_true] at h
    unfold flattenBranches
    split
    · contradiction
    · next branches rest heq =>
      obtain ⟨rfl, rfl⟩ := List.cons.inj heq
      have hrest := ih h.2
      rw [allGroupsNumbered_iff] at hrest ⊢
      have hbranches := allGroupsNumbered_iff.mp h.1
      simpa [or_imp, forall_and] using ⟨hbranches, hrest⟩
    · next branch rest hchoice heq =>
      obtain ⟨rfl, rfl⟩ := List.cons.inj heq
      rw [allGroupsNumbered, h.1, ih h.2]
      rfl

/-- One character out of a set has no groups. -/
theorem groupsNumbered_ofSet (s : CharSet) (ascii : Bool) :
    (ofSet s ascii).groupsNumbered = true := by
  unfold ofSet
  split <;> rfl

/-- What two lists begin with alike comes from the first. -/
theorem mem_of_mem_commonPrefix {a : Regular} {s t : List Regular} (h : a ∈ commonPrefix s t) :
    a ∈ s := by
  induction s generalizing t with
  | nil => simp [commonPrefix] at h
  | cons b s ih =>
    cases t with
    | nil => simp [commonPrefix] at h
    | cons c t =>
      rw [commonPrefix] at h
      split at h
      · rcases List.mem_cons.mp h with rfl | h
        · exact List.mem_cons_self
        · exact List.mem_cons_of_mem _ (ih h)
      · simp at h

/-- What all lists begin with alike comes from the first. -/
theorem mem_of_mem_foldl_commonPrefix {a : Regular} {first : List Regular}
    {rest : List (List Regular)} (h : a ∈ rest.foldl commonPrefix first) : a ∈ first := by
  induction rest generalizing first with
  | nil => exact h
  | cons next rest ih => exact mem_of_mem_commonPrefix (ih h)

/-- The parts of sequences have the groups of the sequences. -/
theorem groupsNumbered_of_mapM_parts? {lists : List (List Regular)}
    (h : rs.mapM parts? = some lists) (hrs : allGroupsNumbered rs = true) :
    ∀ parts ∈ lists, allGroupsNumbered parts = true := by
  induction rs generalizing lists with
  | nil =>
    obtain rfl : [] = lists := by simpa using h
    simp
  | cons r rs ih =>
    rw [allGroupsNumbered, Bool.and_eq_true] at hrs
    simp only [List.mapM_cons, Option.bind_eq_bind, Option.bind_eq_some_iff, Option.pure_def,
      Option.some.injEq] at h
    obtain ⟨parts, hparts, rest, hrest, rfl⟩ := h
    refine List.forall_mem_cons.mpr ⟨?_, ih hrest hrs.2⟩
    unfold parts? at hparts
    split at hparts
    · obtain rfl := Option.some.inj hparts
      exact hrs.1
    · simp at hparts

/-- A common beginning and what is left have the groups of the sequences. -/
theorem groupsNumbered_sharedBeginning? {shared : List Regular} {rests : List (List Regular)}
    (h : sharedBeginning? rs = some (shared, rests)) (hrs : allGroupsNumbered rs = true) :
    allGroupsNumbered shared = true ∧ ∀ parts ∈ rests, allGroupsNumbered parts = true := by
  unfold sharedBeginning? at h
  cases hlists : rs.mapM parts? with
  | none => simp [hlists] at h
  | some lists =>
    have hall := groupsNumbered_of_mapM_parts? hlists hrs
    cases lists with
    | nil => simp [hlists] at h
    | cons first rest =>
      simp only [hlists, Option.bind_eq_bind, Option.bind_some] at h
      split at h
      · simp at h
      · obtain ⟨rfl, rfl⟩ := Prod.mk.inj (Option.some.inj h)
        refine ⟨?_, ?_⟩
        · rw [allGroupsNumbered_iff]
          intro r hr
          exact allGroupsNumbered_iff.mp (hall first List.mem_cons_self) r
            (mem_of_mem_foldl_commonPrefix hr)
        · intro parts hparts
          obtain ⟨list, hlist, rfl⟩ := List.mem_map.mp hparts
          rw [allGroupsNumbered_iff]
          intro r hr
          exact allGroupsNumbered_iff.mp (hall list hlist) r (List.mem_of_mem_drop hr)

/-- A choice has the groups of its branches. -/
theorem groupsNumbered_choiceWith {fuel : Nat} (h : allGroupsNumbered rs = true) :
    (choiceWith fuel rs).groupsNumbered = true := by
  induction fuel generalizing rs with
  | zero => exact h
  | succ fuel ih =>
    have hflat := groupsNumbered_flattenBranches h
    unfold choiceWith
    split
    · rfl
    · next branch heq => simpa [heq, allGroupsNumbered] using hflat
    · split
      · exact groupsNumbered_ofSet _ _
      · split
        · next shared rests hshared =>
          obtain ⟨hfirst, hrests⟩ := groupsNumbered_sharedBeginning? hshared hflat
          have hchoice : (choiceWith fuel (rests.map seq)).groupsNumbered = true := by
            refine ih (allGroupsNumbered_iff.mpr fun r hr => ?_)
            obtain ⟨parts, hparts, rfl⟩ := List.mem_map.mp hr
            exact groupsNumbered_seq (hrests parts hparts)
          refine groupsNumbered_seq (allGroupsNumbered_iff.mpr fun r hr => ?_)
          rcases List.mem_append.mp hr with hr | hr
          · exact allGroupsNumbered_iff.mp hfirst r hr
          · rw [List.mem_singleton.mp hr]
            exact hchoice
        · exact hflat

/-- A repetition has the groups of its body. -/
theorem groupsNumbered_times {least : Nat} {most : Option Nat} {greedy : Bool}
    (h : r.groupsNumbered = true) : (times least most greedy r).groupsNumbered = true := by
  unfold times
  dsimp only
  split
  all_goals
    split
    · rfl
    · split
      · exact h
      · exact h

/-- A character has no groups. -/
theorem groupsNumbered_ofChar (mode : Mode) (c : Char) : (ofChar mode c).groupsNumbered = true := by
  unfold ofChar
  split
  · exact groupsNumbered_ofSet _ _
  · rfl

end Reduced

/-! ## From trees -/

/-- The plain expressions of trees have their groups if each has those of its tree. -/
theorem groupsNumbered_ofExpressions {before : Nat} {es : List Expression} {rs : List Regular}
    (h : ofExpressions before es = .ok rs)
    (hes : ∀ e ∈ es, ∀ r, ofExpression before e = .ok r → r.groupsNumbered = true) :
    allGroupsNumbered rs = true := by
  induction es generalizing rs with
  | nil =>
    obtain rfl := Except.ok.inj h
    rfl
  | cons e es ih =>
    obtain ⟨he, hes⟩ := List.forall_mem_cons.mp hes
    rw [ofExpressions] at h
    obtain ⟨first, hfirst, h⟩ := exists_of_bind_eq_ok h
    obtain ⟨rest, hrest, h⟩ := exists_of_bind_eq_ok h
    obtain rfl := Except.ok.inj h
    rw [allGroupsNumbered, he first hfirst, ih hrest hes]
    rfl

/-- The plain expression of a tree whose groups are numbered from behind the given ones on has its
groups numbered from 1 on. -/
theorem groupsNumbered_ofExpression {before : Nat} {e : Expression} {r : Regular}
    (h : ofExpression before e = .ok r) (he : ∀ index ∈ e.groups, before < index) :
    r.groupsNumbered = true := by
  induction e using Expression.partsInduction generalizing r with
  | empty =>
    obtain rfl := Except.ok.inj h
    rfl
  | anyChar lineFeed =>
    obtain rfl := Except.ok.inj h
    exact groupsNumbered_ofSet _ _
  | assertion condition =>
    rw [ofExpression] at h
    split at h
    · obtain rfl := Except.ok.inj h
      rfl
    · simp at h
  | literal c ignoreCase =>
    obtain rfl := Except.ok.inj h
    exact groupsNumbered_ofChar _ _
  | charClass text ignoreCase =>
    rw [ofExpression] at h
    split at h
    · obtain rfl := Except.ok.inj h
      exact groupsNumbered_ofSet _ _
    · simp at h
  | concat parts ih =>
    rw [ofExpression] at h
    obtain ⟨rs, hparts, rfl⟩ := exists_of_map_eq_ok h
    exact groupsNumbered_seq (groupsNumbered_ofExpressions hparts fun e he' r hr =>
      ih e he' hr fun index hindex => he index (Expression.mem_groupsOf.mpr ⟨e, he', hindex⟩))
  | alternation branches ih =>
    rw [ofExpression] at h
    obtain ⟨rs, hbranches, rfl⟩ := exists_of_map_eq_ok h
    exact groupsNumbered_choiceWith (groupsNumbered_ofExpressions hbranches fun e he' r hr =>
      ih e he' hr fun index hindex => he index (Expression.mem_groupsOf.mpr ⟨e, he', hindex⟩))
  | group index body ih =>
    rw [ofExpression] at h
    obtain ⟨inner, hinner, rfl⟩ := exists_of_map_eq_ok h
    rw [Expression.groups, List.forall_mem_cons] at he
    rw [groupsNumbered, ih hinner he.2, Bool.and_true, decide_eq_true_eq]
    exact Nat.sub_pos_of_lt he.1
  | iteration least most greedy body ih =>
    rw [ofExpression] at h
    obtain ⟨inner, hinner, h⟩ := exists_of_bind_eq_ok h
    split at h
    · obtain rfl := Except.ok.inj h
      exact groupsNumbered_times (ih hinner he)
    · simp at h
  | _ => simp [ofExpression] at h

/-! ## From plain notation -/

namespace Notation

/-- An open group whose items have their groups numbered from 1 on, as its own number is. -/
structure Open.Numbered (g : Open) : Prop where
  index : ∀ index ∈ g.index, 0 < index
  branches : ∀ item ∈ g.branches, item.body.groupsNumbered = true
  items : ∀ item ∈ g.items, item.body.groupsNumbered = true

/-- A reading whose open groups are numbered from 1 on. -/
structure Reading.Numbered (r : Reading) : Prop where
  inner : r.inner.Numbered
  outer : ∀ g ∈ r.outer, g.Numbered

/-- Items in a row have the groups of the items. -/
theorem groupsNumbered_sequence {items : List Item}
    (h : ∀ item ∈ items, item.body.groupsNumbered = true) :
    (Item.sequence items).body.groupsNumbered = true := by
  refine groupsNumbered_seq (allGroupsNumbered_iff.mpr fun r hr => ?_)
  obtain ⟨item, hitem, rfl⟩ := List.mem_map.mp hr
  exact h item hitem

/-- Items to choose from have the groups of the items. -/
theorem groupsNumbered_alternatives {items : List Item}
    (h : ∀ item ∈ items, item.body.groupsNumbered = true) :
    (Item.alternatives items).body.groupsNumbered = true := by
  unfold Item.alternatives
  split
  · next item => exact h item List.mem_cons_self
  · refine groupsNumbered_choiceWith (allGroupsNumbered_iff.mpr fun r hr => ?_)
    obtain ⟨item, hitem, rfl⟩ := List.mem_map.mp hr
    exact h item hitem

/-- A group keeps its numbering when an item is added. -/
theorem Open.Numbered.add {g : Open} (h : g.Numbered) {item : Item}
    (hitem : item.body.groupsNumbered = true) : (g.add item).Numbered :=
  ⟨h.index, h.branches, List.forall_mem_cons.mpr ⟨hitem, h.items⟩⟩

/-- A group keeps its numbering when a branch is closed. -/
theorem Open.Numbered.nextBranch {g : Open} (h : g.Numbered) : g.nextBranch.Numbered :=
  ⟨h.index, List.forall_mem_cons.mpr
    ⟨groupsNumbered_sequence fun item hitem => h.items item (List.mem_reverse.mp hitem),
      h.branches⟩, by simp [Open.nextBranch]⟩

/-- The body of a group that is closed has the groups of its branches. -/
theorem Open.Numbered.body {g : Open} (h : g.Numbered) : g.body.body.groupsNumbered = true :=
  groupsNumbered_alternatives fun item hitem =>
    h.nextBranch.branches item (List.mem_reverse.mp hitem)

/-- A group that is closed is numbered as it was opened. -/
theorem Open.Numbered.close {g : Open} (h : g.Numbered) : g.close.body.groupsNumbered = true := by
  unfold Open.close
  split
  · next index hindex =>
    rw [groupsNumbered, h.body, Bool.and_true, decide_eq_true_eq]
    exact h.index index hindex
  · exact h.body

namespace Reading

/-- Nothing is numbered at the beginning of a text. -/
theorem numbered_ofText (text : List Char) : (Reading.ofText text).Numbered :=
  ⟨⟨by simp [Reading.ofText], by simp [Reading.ofText], by simp [Reading.ofText]⟩,
    by simp [Reading.ofText]⟩

/-- A reading keeps its numbering when an item is added. -/
theorem Numbered.add {r : Reading} (h : r.Numbered) {item : Item}
    (hitem : item.body.groupsNumbered = true) (rest : List Char) : (r.add item rest).Numbered :=
  ⟨h.inner.add hitem, h.outer⟩

/-- A reading keeps its numbering when a group with a number above zero is opened. -/
theorem Numbered.openGroup {r : Reading} (h : r.Numbered) {index : Option Nat}
    (hindex : ∀ i ∈ index, 0 < i) (mode : Mode) (rest : List Char) :
    (r.openGroup index mode rest).Numbered :=
  ⟨⟨hindex, by simp [Reading.openGroup], by simp [Reading.openGroup]⟩,
    List.forall_mem_cons.mpr ⟨h.inner, h.outer⟩⟩

/-- A group that is opened to be captured is numbered from 1 on. -/
theorem Numbered.openCapture {r : Reading} (h : r.Numbered) (rest : List Char) :
    (r.openCapture rest).Numbered :=
  Numbered.openGroup (r := { r with opened := r.opened + 1 }) ⟨h.inner, h.outer⟩ (by simp) _ rest

/-- A reading keeps its numbering when its innermost group is closed. -/
theorem Numbered.closeGroup? {r s : Reading} (h : r.Numbered) {rest : List Char}
    (hs : r.closeGroup? rest = some s) : s.Numbered := by
  unfold Reading.closeGroup? at hs
  split at hs
  · simp at hs
  · next around outer houter =>
    obtain rfl := Option.some.inj hs
    have hall := h.outer
    rw [houter, List.forall_mem_cons] at hall
    exact ⟨hall.1.add h.inner.close, hall.2⟩

end Reading

/-- A group with a name keeps the numbering of a reading. -/
theorem numbered_openNamed? {r s : Reading} (h : r.Numbered) {text : List Char}
    (hs : openNamed? r text = some s) : s.Numbered := by
  unfold openNamed? at hs
  split at hs
  · simp at hs
  · next name rest _ =>
    split at hs
    · obtain rfl := Option.some.inj hs
      have hnamed : Reading.Numbered { r with names := name :: r.names } := ⟨h.inner, h.outer⟩
      exact hnamed.openCapture rest
    · simp at hs

/-- What an opening parenthesis begins keeps the numbering of a reading. -/
theorem numbered_group? {r s : Reading} (h : r.Numbered) {text : List Char}
    (hs : group? r text = some s) : s.Numbered := by
  unfold group? at hs
  split at hs
  any_goals simp at hs
  · exact numbered_openNamed? h hs
  · exact numbered_openNamed? h hs
  · split at hs
    · simp at hs
    · next mode _ _ _ =>
      split at hs
      · obtain rfl := Option.some.inj hs
        exact h.openGroup (by simp) _ _
      · obtain rfl := Option.some.inj hs
        have hmode : Reading.Numbered { r with mode } := ⟨h.inner, h.outer⟩
        exact hmode.add rfl _
  · subst hs
    exact h.openCapture _

/-- A repetition of the last item keeps the numbering of a reading. -/
theorem numbered_repeat? {r s : Reading} (h : r.Numbered) {least : Nat} {most : Option Nat}
    {rest : List Char} (hs : repeat? r least most rest = some s) : s.Numbered := by
  unfold repeat? at hs
  split at hs
  · simp at hs
  · next item items hitems =>
    split at hs
    · simp at hs
    · obtain rfl := Option.some.inj hs
      have hall := h.inner.items
      rw [hitems, List.forall_mem_cons] at hall
      exact ⟨⟨h.inner.index, h.inner.branches,
        List.forall_mem_cons.mpr ⟨groupsNumbered_times hall.1, hall.2⟩⟩, h.outer⟩

/-- An escape stands for an item without groups. -/
theorem groupsNumbered_escape? {mode : Mode} {text rest : List Char} {item : Item}
    (h : escape? mode text = some (item, rest)) : item.body.groupsNumbered = true := by
  unfold escape? at h
  split at h
  · simp at h
  · split at h
    · obtain ⟨rfl, -⟩ := Prod.mk.inj (Option.some.inj h)
      exact groupsNumbered_ofChar _ _
    · obtain ⟨⟨set, text⟩, -, heq⟩ := Option.map_eq_some_iff.mp h
      obtain ⟨rfl, -⟩ := Prod.mk.inj heq
      exact groupsNumbered_ofSet _ _

/-- One step of reading keeps groups numbered from 1 on. -/
theorem numbered_step? {r s : Reading} (h : r.Numbered) {c : Char} {text : List Char}
    (hs : step? r c text = some s) : s.Numbered := by
  unfold step? at hs
  dsimp only at hs
  split at hs
  · exact numbered_group? h hs
  · exact h.closeGroup? hs
  · obtain rfl := Option.some.inj hs
    exact ⟨h.inner.nextBranch, h.outer⟩
  · obtain ⟨⟨set, rest⟩, -, rfl⟩ := Option.map_eq_some_iff.mp hs
    exact h.add (groupsNumbered_ofSet _ _) rest
  · exact numbered_repeat? h hs
  · exact numbered_repeat? h hs
  · exact numbered_repeat? h hs
  · obtain ⟨⟨least, most, rest⟩, -, hs⟩ := Option.bind_eq_some_iff.mp hs
    exact numbered_repeat? h hs
  · obtain ⟨⟨item, rest⟩, hitem, rfl⟩ := Option.map_eq_some_iff.mp hs
    exact h.add (groupsNumbered_escape? hitem) rest
  · split at hs
    · obtain rfl := Option.some.inj hs
      exact h.add (groupsNumbered_ofSet _ _) text
    · simp at hs
  · obtain rfl := Option.some.inj hs
    exact h.add rfl text
  · obtain rfl := Option.some.inj hs
    exact h.add rfl text
  · obtain rfl := Option.some.inj hs
    exact h.add (groupsNumbered_ofChar _ _) text

/-- Reading to the end keeps groups numbered from 1 on. -/
theorem numbered_readAll? {fuel : Nat} {r s : Reading} (h : r.Numbered)
    (hs : readAll? fuel r = some s) : s.Numbered := by
  induction fuel generalizing r with
  | zero => simp [readAll?] at hs
  | succ fuel ih =>
    rw [readAll?] at hs
    split at hs
    · obtain rfl := Option.some.inj hs
      exact h
    · obtain ⟨next, hnext, hs⟩ := Option.bind_eq_some_iff.mp hs
      exact ih (numbered_step? h hnext) hs

/-- What a text in plain notation stands for has its groups numbered from 1 on. -/
theorem groupsNumbered_parse? {text : List Char} {r : Regular} (h : parse? text = some r) :
    r.groupsNumbered = true := by
  unfold parse? at h
  obtain ⟨s, hs, h⟩ := Option.bind_eq_some_iff.mp h
  have hnumbered := numbered_readAll? (Reading.numbered_ofText text) hs
  dsimp only at h
  split at h
  · obtain rfl := Option.some.inj h
    exact hnumbered.inner.body
  · simp at h

end Notation

/-- Parts of a pattern make a plain expression whose groups are numbered from 1 on. -/
theorem groupsNumbered_ofParts {binding : Binding} {before : Nat} {parts : List Expression}
    {r : Regular} (h : ofParts binding before parts = .ok r)
    (hparts : ∀ index ∈ Expression.groupsOf parts, before < index) : r.groupsNumbered = true := by
  unfold ofParts at h
  split at h
  · obtain ⟨bodies, hbodies, h⟩ := exists_of_bind_eq_ok h
    dsimp only at h
    split at h
    · obtain rfl := Except.ok.inj h
      exact groupsNumbered_seq (groupsNumbered_ofExpressions hbodies fun e he r hr =>
        groupsNumbered_ofExpression hr fun index hindex =>
          hparts index (Expression.mem_groupsOf.mpr ⟨e, he, hindex⟩))
    · simp [throw, throwThe, MonadExceptOf.throw] at h
  · split at h
    · next body hbody =>
      obtain rfl := Except.ok.inj h
      exact Notation.groupsNumbered_parse? hbody
    · simp at h

end GrammarScan.Regular
