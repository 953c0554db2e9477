import GrammarScan.Proofs.Expression.Constructs
import GrammarScan.Proofs.Expression.Steps
import Mathlib

/-!
# Constructs are read off their escapes

The reader of patterns comes upon a construct about the search only at a backslash with its letter.
It takes patterns apart by rules of its own, with comments, classes, names and numbers, but none of
them parts an escape, so it sees no such construct where a plain search for the escape sees none.
-/

namespace GrammarScan

/-- A tree without a construct, whose groups are numbered from 1 on. -/
structure Expression.Lacks (letter : Char) (e : Expression) : Prop where
  uses : e.uses letter = false
  groups : ∀ index ∈ e.groups, 0 < index

namespace Reader

open Pattern (Unbroken unbroken_cons unbroken_escape)

variable {letter : Char}

/-- Trees without parts lack every construct that is not their own. -/
theorem lacks_of_groups_eq_nil {e : Expression} (huses : e.uses letter = false)
    (hgroups : e.groups = []) : e.Lacks letter :=
  ⟨huses, by simp [hgroups]⟩

/-- A reference by name passes whole escapes. -/
theorem keeps_namedReference (opening : List Char) {closing : Char} (hclosing : closing ≠ '\\')
    (relative : Bool) : Keeps letter (namedReference opening [closing] relative) fun _ => True := by
  refine .bind ensures_position fun start => ?_
  refine .bind (keeps_name? opening hclosing relative) fun name => ?_
  cases name with
  | none => exact ensures_failAt _ _
  | some name =>
    refine .bind .get fun s => ?_
    cases groupOfName? s name with
    | none => exact ensures_failAt _ _
    | some group => exact .pure fun _ h => h.1

/-- A reference by number passes whole escapes. -/
theorem keeps_numberedReference : Keeps letter numberedReference fun _ => True := by
  refine .bind ensures_position fun start => .bind keeps_decimal? fun group => ?_
  cases group with
  | none => exact ensures_failAt _ _
  | some group =>
    refine .bind .get fun s => ensures_unless (ensures_failAt _ _) fun _ => ?_
    exact .bind (.modify fun _ h => h.1) fun _ => .pure fun _ h => h

/-- A code point is written in digits, or ends with a brace. -/
theorem keeps_hexCharacter (count : Nat) : Keeps letter (hexCharacter count) fun _ => True := by
  refine .bind ensures_position fun start => .bind .get fun s => ?_
  have hfinish (code : Nat) : Keeps letter (if h : code.isValidChar then
      return Char.ofNatAux code h else failAt start .invalidCodePoint) fun _ => True := by
    split
    · exact .pure fun _ h => ⟨h, trivial⟩
    · exact ensures_failAt _ _
  dsimp only
  refine .ite (fun hfixed => ?_) fun _ => ?_
  · refine .bind (ensures_skip ?_) fun _ => .bind (.pure fun _ h => h) fun code => hfinish code
    rintro s' ⟨hs, rfl⟩
    rw [Bool.and_eq_true, decide_eq_true_eq, List.all_eq_true] at hfixed
    have hdrop := hs.drop_plain (List.take_append_drop count s.rest).symm fun c hc => by
      rintro rfl
      have hhex := hfixed.2 _ hc
      simp at hhex
    rwa [hfixed.1] at hdrop
  · split
    · refine ensures_unless (ensures_failAt _ _) fun hclosed => ?_
      refine .bind (ensures_skip ?_) fun _ => .bind (.pure fun _ h => h) fun code => hfinish code
      rintro s' ⟨hs, rfl⟩
      simp only [Bool.or_eq_true, not_or, bne_iff_ne, ne_eq, not_not, List.head?_drop] at hclosed
      next inner hrest =>
      refine hs.drop_upto (c := '\x7d') ?_ (by decide)
      rw [hrest, List.getElem?_cons_succ]
      exact hclosed.2
    · exact .bind (ensures_failAt _ _) fun code => hfinish code

/-- The name of a property is a character that is no backslash, or ends with a brace. -/
theorem ensures_propertyName (start : Nat) :
    Ensures (fun s => s.Intact letter ∧ s.rest.head? ≠ some '\\') (propertyName start)
      fun _ s => s.Intact letter := by
  refine .bind .get fun s => ?_
  dsimp only
  split
  · next inner hrest =>
    refine ensures_unless (ensures_failAt _ _) fun hclosed => ?_
    refine .bind (Q := fun _ (s : Cursor) => s.Intact letter) (ensures_skip ?_) fun _ =>
      .pure fun _ h => h
    rintro s' ⟨⟨hs, -⟩, rfl⟩
    obtain ⟨c, hc, hbrace⟩ := exists_behind_takeWhile hclosed
    refine hs.drop_upto (c := c) ?_ ?_
    · rwa [hrest, List.getElem?_cons_succ]
    · rintro rfl
      simp at hbrace
  · next c tail _ hrest =>
    refine .bind (Q := fun _ (s : Cursor) => s.Intact letter) (ensures_skip ?_) fun _ =>
      .pure fun _ h => h
    rintro s' ⟨⟨hs, hhead⟩, rfl⟩
    rw [hrest] at hhead
    exact hs.drop_head (by rw [hrest]; rfl) (by simpa using hhead)
  · exact .pure fun _ h => h.1.1

/-- Only two letters fold to the letter of properties. -/
theorem eq_of_toLower_eq {c : Char} (h : c.toLower = 'p') : c = 'p' ∨ c = 'P' := by
  unfold Char.toLower at h
  split at h
  · next hupper =>
    refine .inr (Char.ext (UInt32.toNat_inj.mp ?_))
    have hcode := congrArg (fun d : Char => d.val.toNat) h
    have hlow := UInt32.le_iff_toNat_le.mp hupper.1
    have hhigh := UInt32.le_iff_toNat_le.mp hupper.2
    simp at hcode hlow hhigh ⊢
    omega
  · exact .inl h

/-- Behind a backslash: the letter behind it is none of a construct, and if it begins a property no
backslash follows. -/
def BehindBackslash (letter c : Char) (s : Cursor) : Prop :=
  s.Intact letter ∧ (c = 'p' ∨ c = 'P' → s.rest.head? ≠ some '\\')

/-- An escape that stands for a tree of its own. -/
theorem ensures_return {c : Char} {e : Expression} (huses : e.uses letter = false)
    (hgroups : e.groups = []) : Ensures (ε := ExpressionFault) (BehindBackslash letter c) (pure e)
      fun e s => s.Intact letter ∧ e.Lacks letter :=
  .pure fun _ h => ⟨h.1, lacks_of_groups_eq_nil huses hgroups⟩

/-- An escape that goes on with a number or a name. -/
theorem ensures_read {α : Type} {c : Char} {x : Reader α} (hx : Keeps letter x fun _ => True)
    {f : α → Expression} (huses : ∀ a, (f a).uses letter = false)
    (hgroups : ∀ a, (f a).groups = []) :
    Ensures (BehindBackslash letter c) (do return f (← x))
      fun e s => s.Intact letter ∧ e.Lacks letter :=
  .bind (hx.imp (fun _ h => h.1) fun _ _ h => h) fun a =>
    .pure fun _ h => ⟨h.1, lacks_of_groups_eq_nil (huses a) (hgroups a)⟩

/-- An escape is passed as a whole, and is a construct only by its own letter. -/
theorem ensures_escape (inClass : Bool) :
    Ensures (fun s => s.Intact letter ∧ s.rest.head? = some '\\') (escape inClass)
      fun e s => s.Intact letter ∧ e.Lacks letter := by
  refine .bind ensures_position fun start => ?_
  refine .bind (Q := fun _ (s : Cursor) => Unbroken letter ('\\' :: s.rest)) (ensures_skip ?_)
    fun _ => ?_
  · rintro s ⟨hs, hhead⟩
    obtain ⟨tail, htail⟩ := List.head?_eq_some_iff.mp hhead
    unfold Cursor.Intact at hs
    rw [htail] at hs
    simpa [Cursor.drop, htail] using hs
  refine .bind ensures_peek? fun c => ?_
  cases c with
  | none => exact ensures_failAt _ _
  | some c =>
    refine .bind ensures_flags fun flags => ?_
    dsimp only
    refine .ite (fun hdigit => ?_) fun _ => ?_
    · refine .bind (Q := fun _ (s : Cursor) => s.Intact letter) ?_ fun group =>
        .pure fun _ h => ⟨h, lacks_of_groups_eq_nil rfl rfl⟩
      refine keeps_numberedReference.imp ?_ fun _ _ h => h.1
      rintro s ⟨hs, hhead⟩
      obtain ⟨tail, htail⟩ := List.head?_eq_some_iff.mp hhead
      have hc : c ≠ '\\' := by
        rintro rfl
        simp at hdigit
      unfold Cursor.Intact
      rw [htail, unbroken_cons hc]
      rw [htail] at hs
      exact (unbroken_escape.mp hs).2.2
    refine .bind (Q := fun _ (s : Cursor) => BehindBackslash letter c s ∧ c ≠ letter)
      (ensures_skip ?_) fun _ => .of_and fun hletter => ?_
    · rintro s ⟨hs, hhead⟩
      obtain ⟨tail, htail⟩ := List.head?_eq_some_iff.mp hhead
      rw [htail] at hs
      obtain ⟨hletter, hproperty, hrest⟩ := unbroken_escape.mp hs
      have hdrop : (s.drop 1).rest = tail := by simp [Cursor.drop, htail]
      exact ⟨⟨by rwa [Cursor.Intact, hdrop], by rwa [hdrop]⟩, hletter⟩
    -- references by name
    refine .ite (fun _ => .bind (ensures_comesNext _) fun b => ?_) fun _ => ?_
    · refine .imp (.ite (fun _ => ?_) fun _ => ?_) (fun _ h => h.1) fun _ _ h => h
      · exact ensures_read (keeps_namedReference _ (by decide) true) (fun _ => rfl) fun _ => rfl
      · exact ensures_read (keeps_namedReference _ (by decide) true) (fun _ => rfl) fun _ => rfl
    -- assertions
    refine .ite (fun _ => ensures_return rfl rfl) fun _ => ?_
    refine .ite (fun _ => ensures_return rfl rfl) fun _ => ?_
    refine .ite (fun _ => .bind (ensures_comesNext _) fun b => ?_) fun _ => ?_
    · refine .imp (ensures_unless (ensures_failAt _ _) fun _ => ?_) (fun _ h => h.1) fun _ _ h => h
      exact ensures_return rfl rfl
    refine .ite (fun _ => ensures_return rfl rfl) fun _ => ?_
    refine .ite (fun _ => ensures_return rfl rfl) fun _ => ?_
    -- classes and code points
    refine .ite (fun _ => ensures_return rfl rfl) fun _ => ?_
    refine .ite (fun _ => ensures_return rfl rfl) fun _ => ?_
    refine .ite (fun _ => ensures_return rfl rfl) fun _ => ?_
    have hcode (count : Nat) : Ensures (BehindBackslash letter c)
        (do return Expression.literal (← hexCharacter count) flags.ignoreCase)
        fun e s => s.Intact letter ∧ e.Lacks letter :=
      ensures_read (keeps_hexCharacter count) (fun _ => rfl) fun _ => rfl
    refine .ite (fun _ => hcode 2) fun _ => ?_
    refine .ite (fun _ => hcode 4) fun _ => ?_
    refine .ite (fun _ => hcode 8) fun _ => ?_
    refine .bind (ensures_atEnd.imp (fun _ h => h) fun _ _ h => h.1) fun atEnd =>
      .ite (fun hproperty => ?_) fun _ => ?_
    · rw [Bool.and_eq_true, decide_eq_true_eq] at hproperty
      refine .bind ((ensures_propertyName start).imp ?_ fun _ _ h => h) fun name =>
        .pure fun _ h => ⟨h, lacks_of_groups_eq_nil rfl rfl⟩
      exact fun s h => ⟨h.1, h.2 (eq_of_toLower_eq hproperty.1)⟩
    -- the constructs themselves
    refine .ite (fun hkeep => ensures_return ?_ rfl) fun _ => ?_
    · rw [Bool.and_eq_true, decide_eq_true_eq] at hkeep
      simpa [Expression.uses, hkeep.2] using hletter.symm
    refine .ite (fun hstart => ensures_return ?_ rfl) fun _ => ?_
    · rw [Bool.and_eq_true, decide_eq_true_eq] at hstart
      simpa [Expression.uses, hstart.2] using hletter.symm
    -- characters
    cases controlEscape? c with
    | some control => exact ensures_return rfl rfl
    | none => exact ensures_unless (ensures_failAt _ _) fun _ => ensures_return rfl rfl

/-- The body of a class is read item by item, escapes as a whole. -/
theorem keeps_classBody (fuel depth : Nat) (text : List Char) :
    Keeps letter (classBody fuel depth text) fun _ => True := by
  induction fuel generalizing depth text with
  | zero => exact ensures_fail _
  | succ fuel ih =>
    refine .bind ensures_peek? fun c => ?_
    cases c with
    | none => exact ensures_fail _
    | some c =>
      refine .ite (fun hc => ?_) fun hc => ?_
      · subst hc
        refine .bind ensures_position fun start => .bind (ensures_escape true) fun e => ?_
        split
        · exact (ih depth _).imp (fun _ h => h.1) fun _ _ h => h
        · exact (ih depth _).imp (fun _ h => h.1) fun _ _ h => h
        · exact ensures_failAt _ _
      · refine .bind (ensures_skip_head hc) fun _ => .ite (fun _ => ih _ _) fun _ =>
          .ite (fun _ => ?_) fun _ => ih _ _
        cases depth with
        | zero => exact .pure fun _ h => ⟨h, trivial⟩
        | succ depth => exact ih _ _

/-- A class is read from its bracket on. -/
theorem ensures_bracketClass :
    Ensures (fun s => s.Intact letter ∧ s.rest.head? = some '[') bracketClass
      fun e s => s.Intact letter ∧ e.Lacks letter := by
  have hbody (opening : List Char) : Keeps letter (do
      let text ← classBody ((← get).rest.length + 1) 0 opening
      return .charClass text (← flags).ignoreCase) (Expression.Lacks letter) := by
    refine .bind ensures_get fun s => ?_
    refine .bind (keeps_classBody _ _ _) fun text => .bind ensures_flags fun flags => ?_
    exact .pure fun _ h => ⟨h.1, lacks_of_groups_eq_nil rfl rfl⟩
  refine .bind (ensures_skip_head (by decide)) fun _ => ?_
  refine .bind (ensures_comesNext ['^']) fun negated => ?_
  refine ensures_skipNext rfl (by simp) (fun _ => ?_) ?_
  · refine .bind (ensures_comesNext [']']) fun closed => ?_
    exact ensures_skipNext rfl (by simp) (fun _ => hbody _) (hbody _)
  · refine .bind (ensures_comesNext [']']) fun closed => ?_
    exact ensures_skipNext rfl (by simp) (fun _ => hbody _) (hbody _)

/-- A closing parenthesis passes whole escapes. -/
theorem keeps_closeParenthesis : Keeps letter closeParenthesis fun _ => True := by
  refine .bind keeps_blanks fun _ => .bind ensures_peek? fun c => ?_
  cases c with
  | none => exact ensures_fail _
  | some c =>
    refine .ite (fun hc => ?_) fun _ => ensures_fail _
    subst hc
    exact .imp (ensures_skip_head (by decide)) (fun _ h => ⟨h.1.1, h.2⟩) fun _ _ h => ⟨h, trivial⟩

/-- Letters that set flags are no backslashes, and what stands behind them is read as a body. -/
theorem keeps_flagLetters {inner : Reader Expression}
    (hinner : Keeps letter inner (Expression.Lacks letter)) (before : Flags) (start : Nat)
    (letters : List Char) (fuel : Nat) (negated : Bool) :
    Keeps letter (flagLetters inner before start letters fuel negated)
      (Expression.Lacks letter) := by
  induction fuel generalizing negated with
  | zero => exact ensures_fail _
  | succ fuel ih =>
    refine .bind keeps_blanks fun _ => .bind ensures_peek? fun c => ?_
    cases c with
    | none => exact ensures_fail _
    | some c =>
      refine .bind ensures_position fun here => .bind ensures_get fun s => ?_
      dsimp only
      refine .bind ensures_flags fun flags => ?_
      refine .imp (P := fun s => s.Intact letter ∧ s.rest.head? = some c) ?_
        (fun _ h => ⟨h.1.1, h.2⟩) fun _ _ h => h
      cases hflag : setFlag? flags c !negated with
      | some flags =>
        have hc : c ≠ '\\' := by
          rintro rfl
          simp [setFlag?] at hflag
        refine .bind (.modify fun _ h => h) fun _ => ensures_passHead hc fun _ => ih negated
      | none =>
        refine .ite (fun hu => ?_) fun _ => .ite (fun hminus => ?_) fun _ => .ite (fun hclose => ?_)
          fun _ => .ite (fun hcolon => ?_) fun _ => ensures_failAt _ _
        · subst hu
          exact ensures_unless (ensures_fail _) fun _ => ensures_passHead (by decide) fun _ => ih _
        · subst hminus
          exact ensures_unless (ensures_failAt _ _) fun _ =>
            ensures_passHead (by decide) fun _ => ih _
        · subst hclose
          exact ensures_unless (ensures_failAt _ _) fun _ => ensures_passHead (by decide) fun _ =>
            .pure fun _ h => ⟨h, lacks_of_groups_eq_nil rfl rfl⟩
        · subst hcolon
          refine ensures_unless (ensures_failAt _ _) fun _ => ?_
          refine ensures_passHead (by decide) fun _ => ?_
          refine .bind hinner fun body => .of_and fun hbody => .bind ensures_peek? fun c => ?_
          cases c with
          | none => exact ensures_fail _
          | some c =>
            refine ensures_unless (ensures_fail _) fun hc => ?_
            obtain rfl := not_not.mp hc
            exact ensures_passHead (by decide) fun _ => .bind (.modify fun _ h => h) fun _ =>
              .pure fun _ h => ⟨h, hbody⟩

/-- The first branch and the others lack what their alternation lacks. -/
theorem lacks_branches {yes : Expression} {rest : List Expression}
    (h : (Expression.alternation (yes :: rest)).Lacks letter) :
    yes.Lacks letter ∧ (Expression.alternation rest).Lacks letter := by
  obtain ⟨huses, hgroups⟩ := h
  simp only [Expression.uses, Expression.anyUses, Bool.or_eq_false_iff] at huses
  simp only [Expression.groups, Expression.groupsOf, List.forall_mem_append] at hgroups
  exact ⟨⟨huses.1, hgroups.1⟩, ⟨huses.2, hgroups.2⟩⟩

/-- A conditional lacks what its parts lack. -/
theorem lacks_conditional {test yes no : Expression} (htest : test.Lacks letter)
    (hyes : yes.Lacks letter) (hno : no.Lacks letter) :
    (Expression.conditional test yes no).Lacks letter := by
  refine ⟨by simp [Expression.uses, htest.uses, hyes.uses, hno.uses], ?_⟩
  simp only [Expression.groups, List.forall_mem_append]
  exact ⟨⟨htest.groups, hyes.groups⟩, hno.groups⟩

/-- A conditional is read from its test on, and its branches from behind the test. -/
theorem keeps_conditional {inner : Reader Expression}
    (hinner : Keeps letter inner (Expression.Lacks letter)) :
    Keeps letter (conditional inner) (Expression.Lacks letter) := by
  refine .bind ensures_peek? fun c => ?_
  extract_lets behindTest
  have hbehind (test : Expression) (htest : test.Lacks letter) :
      Keeps letter (behindTest test) (Expression.Lacks letter) := by
    refine .bind keeps_closeParenthesis fun _ => .of_and fun _ => .bind ensures_position
      fun start => .bind hinner fun branches => .of_and fun hbranches => .bind ensures_position
      fun stop => ?_
    extract_lets matched build
    have hmatched : matched.Lacks letter := by
      unfold matched
      split
      · exact lacks_of_groups_eq_nil rfl rfl
      · exact htest
    have hbuild (u : Unit) : Keeps letter (build u) (Expression.Lacks letter) := by
      unfold build
      split
      next yes no hparts =>
      have hboth : yes.Lacks letter ∧ no.Lacks letter := by
        split at hparts
        · obtain ⟨rfl, rfl⟩ := Prod.mk.inj hparts
          obtain ⟨hyes, hrest⟩ := lacks_branches hbranches
          refine ⟨hyes, ?_, ?_⟩
          · simpa [Expression.uses, Expression.anyUses] using hrest.uses
          · simpa [Expression.groups, Expression.groupsOf] using hrest.groups
        · obtain ⟨rfl, rfl⟩ := Prod.mk.inj hparts
          exact lacks_branches hbranches
        · obtain ⟨rfl, rfl⟩ := Prod.mk.inj hparts
          exact ⟨hbranches, lacks_of_groups_eq_nil rfl rfl⟩
      refine .bind keeps_closeParenthesis fun _ => .pure fun _ h => ⟨h.1, ?_⟩
      split
      · exact hmatched
      · exact lacks_conditional hmatched hboth.1 hboth.2
    refine .ite (fun _ => ?_) fun _ => hbuild ()
    split
    · exact .bind keeps_closeParenthesis fun _ =>
        .pure fun _ h => ⟨h.1, lacks_of_groups_eq_nil rfl rfl⟩
    · exact .bind (ensures_fail _) fun _ => hbuild ()
  have hreference {x : Reader Nat} (hx : Keeps letter x fun _ => True) :
      Keeps letter ((Expression.backReference <$> x) >>= behindTest) (Expression.Lacks letter) := by
    refine .bind (Q := fun test s => s.Intact letter ∧ test.Lacks letter) (.map ?_) fun test =>
      .of_and (hbehind test)
    exact hx.imp (fun _ h => h) fun _ _ h => ⟨h.1, lacks_of_groups_eq_nil rfl rfl⟩
  cases c with
  | none => exact ensures_fail _
  | some c =>
    refine .imp (P := fun s => s.Intact letter) ?_ (fun _ h => h.1) fun _ _ h => h
    refine .ite (fun _ => ?_) fun _ => .ite (fun _ => ?_) fun _ => .ite (fun _ => ?_) fun _ => ?_
    · exact hreference (keeps_namedReference _ (by decide) true)
    · exact hreference (keeps_namedReference _ (by decide) true)
    · exact hreference keeps_numberedReference
    · exact .bind hinner fun test => .of_and (hbehind test)

/-- Opening a group passes nothing, and groups are numbered from 1 on. -/
theorem ensures_openGroup {R : List Char → Prop} :
    Ensures (fun s => R s.rest) openGroup fun index s => R s.rest ∧ 0 < index := by
  refine .bind (Q := fun _ (s : Cursor) => R s.rest ∧ 0 < s.openedGroups)
    (.modify fun _ h => ⟨h, Nat.succ_pos _⟩) fun _ => .bind .get fun s => .pure ?_
  rintro s' ⟨⟨hs, hopened⟩, rfl⟩
  exact ⟨hs, hopened⟩

/-- A group with a name is opened from the mark on that stands before its name. -/
theorem ensures_openNamedGroup (front tail : List Char) (hfront : ∀ c ∈ front, c ≠ '\\') :
    Ensures (fun s => s.Intact letter ∧ ∃ rest, s.rest = front ++ tail ++ rest)
      (openNamedGroup front.length) fun index s => s.Intact letter ∧ 0 < index := by
  refine .bind ensures_position fun start => .bind
    (ensures_openGroup (R := fun s => Unbroken letter s ∧ ∃ rest, s = front ++ tail ++ rest))
    fun index => .of_and fun hindex => ?_
  refine .bind (Q := fun _ (s : Cursor) => s.Intact letter) (ensures_skip ?_) fun _ => ?_
  · rintro s ⟨hs, rest, hrest⟩
    have hs : s.Intact letter := hs
    rw [List.append_assoc] at hrest
    exact hs.drop_plain hrest hfront
  refine .bind (keeps_name? _ (by decide) false) fun name => ?_
  cases name with
  | none => exact ensures_failAt _ _
  | some name => exact .bind (.modify fun _ h => h.1) fun _ => .pure fun _ h => ⟨h, hindex⟩

/-- A group is read by the rules of its opening mark, none of which has a backslash. -/
theorem ensures_groupWith {inner : Reader Expression}
    (hinner : Keeps letter inner (Expression.Lacks letter)) :
    Ensures (fun s => s.Intact letter ∧ s.rest.head? = some '(') (groupWith inner)
      fun e s => s.Intact letter ∧ e.Lacks letter := by
  refine .bind (ensures_skip_head (by decide)) fun _ => .bind keeps_blanks fun _ => ?_
  extract_lets body
  have hbody : Keeps letter body (Expression.Lacks letter) :=
    .bind hinner fun e => .of_and fun he => .bind keeps_closeParenthesis fun _ =>
      .pure fun _ h => ⟨h.1, he⟩
  have hlook (side : Side) (negated : Bool) (u : PUnit) :
      Keeps letter (do return .lookAround side negated (← body)) (Expression.Lacks letter) :=
    .bind hbody fun e => .pure fun _ h => ⟨h.1, h.2.uses, h.2.groups⟩
  have hgroup {index : Nat} (hindex : 0 < index) :
      Keeps letter (do return .group index (← body)) (Expression.Lacks letter) := by
    refine .bind hbody fun e => .pure fun _ h => ⟨h.1, h.2.uses, ?_⟩
    exact List.forall_mem_cons.mpr ⟨hindex, h.2.groups⟩
  refine .imp (P := fun s => s.Intact letter) ?_ (fun _ h => h.1) fun _ _ h => h
  refine keeps_whenNext rfl (by simp) (hlook .ahead false) ?_
  refine keeps_whenNext rfl (by simp) (hlook .ahead true) ?_
  refine keeps_whenNext rfl (by simp) (hlook .behind false) ?_
  refine keeps_whenNext rfl (by simp) (hlook .behind true) ?_
  refine .bind (ensures_comesNext _) fun named => .ite (fun hnamed => ?_) fun _ => ?_
  · refine .bind (.imp (ensures_openNamedGroup ['?'] ['<'] (by simp))
      (fun _ h => ⟨h.1, h.2 hnamed⟩) fun _ _ h => h) fun index => .of_and hgroup
  refine .bind ((ensures_comesNext _).imp (fun _ h => h.1) fun _ _ h => h) fun named =>
    .ite (fun hnamed => ?_) fun _ => ?_
  · refine .bind (.imp (ensures_openNamedGroup ['?', 'P'] ['<'] (by simp))
      (fun _ h => ⟨h.1, h.2 hnamed⟩) fun _ _ h => h) fun index => .of_and hgroup
  refine .imp (P := fun s => s.Intact letter) ?_ (fun _ h => h.1) fun _ _ h => h
  refine keeps_whenNext rfl (by simp) (fun _ => ?_) ?_
  · exact .bind (keeps_namedReference _ (by decide) false) fun group =>
      .pure fun _ h => ⟨h.1, lacks_of_groups_eq_nil rfl rfl⟩
  refine keeps_whenNext rfl (by simp) (fun _ => ?_) ?_
  · exact .bind hbody fun e => .pure fun _ h => ⟨h.1, h.2.uses, h.2.groups⟩
  refine keeps_whenNext rfl (by simp) (fun _ => keeps_conditional hinner) ?_
  refine keeps_whenNext rfl (by simp) (fun _ => ?_) ?_
  · exact .bind ensures_get fun s => keeps_flagLetters hinner _ _ _ _ _
  · exact .bind ensures_openGroup fun index => .of_and hgroup

/-- Bounds are read from their brace on, with blanks between the numbers. -/
theorem ensures_bounds :
    Ensures (fun s => s.Intact letter ∧ s.rest.head? = some '\x7b') bounds
      fun _ s => s.Intact letter := by
  refine .bind (ensures_skip_head (by decide)) fun _ => .bind keeps_blanks fun _ => ?_
  refine .imp (P := fun s => s.Intact letter) ?_ (fun _ h => h.1) fun _ _ h => h
  refine .bind ((ensures_comesNext _).imp (fun _ h => h) fun _ _ h => h.1) fun _ => ?_
  extract_lets behindLeast
  have hclose (least : Nat) (most : Option Nat) : Ensures (fun s => s.Intact letter)
      (do
        blanks
        if !(← comesNext ['\x7d']) then fail .notRepeatable
        skip 1
        return (least, most.filter (· + 1 < UInt64.size)))
      fun _ s => s.Intact letter := by
    refine .bind keeps_blanks fun _ => .bind (ensures_comesNext _) fun closed =>
      ensures_unless (ensures_fail _) fun hclosed => ?_
    rw [Bool.not_eq_true', Bool.not_eq_false] at hclosed
    refine .bind (ensures_skip fun s h => ?_) fun _ => .pure fun _ h => h
    obtain ⟨rest, hrest⟩ := h.2 hclosed
    exact h.1.1.drop_plain hrest (by simp)
  have hleast (least : Nat) :
      Ensures (fun s => s.Intact letter) (behindLeast least) fun _ s => s.Intact letter := by
    refine .bind keeps_blanks fun _ => .bind ensures_peek? fun c => ?_
    split
    · exact .bind (.pure fun _ h => h.1.1) (hclose least)
    · refine .bind (.imp (ensures_skip_head (c := ',') (by decide)) (fun _ h => ⟨h.1.1, h.2⟩)
        fun _ _ h => h) fun _ => .bind keeps_blanks fun _ => ?_
      refine .bind (.imp keeps_decimal? (fun _ h => h.1) fun _ _ h => h.1) (hclose least)
    · exact .bind (ensures_fail _) (hclose least)
  refine .ite (fun _ => .bind (.pure fun _ h => h) hleast) fun _ => ?_
  refine .bind keeps_decimal? fun least => ?_
  cases least with
  | some least => exact .bind (.pure fun _ h => h.1) hleast
  | none => exact .bind (ensures_fail _) hleast

/-- What fails is as if it had not been tried. -/
theorem ensures_attempt {α : Type} {x : Reader α} {P R : Cursor → Prop} (hR : ∀ s, P s → R s)
    (hx : Ensures P x fun _ s => R s) : Ensures P (attempt x) fun _ s => R s := by
  intro s hs a s' heq
  unfold attempt at heq
  split at heq
  · next value s'' hvalue =>
    obtain ⟨-, rfl⟩ := Prod.mk.inj (Except.ok.inj heq)
    exact hx s hs _ _ hvalue
  · obtain ⟨-, rfl⟩ := Prod.mk.inj (Except.ok.inj heq)
    exact hR s hs

/-- A quantifier passes whole escapes. -/
theorem keeps_quantifier? : Keeps letter quantifier? fun _ => True := by
  refine .bind ensures_peek? fun c => ?_
  split
  · exact ensures_passHead (by decide) fun _ => .pure fun _ h => ⟨h, trivial⟩
  · exact ensures_passHead (by decide) fun _ => .pure fun _ h => ⟨h, trivial⟩
  · exact ensures_passHead (by decide) fun _ => .pure fun _ h => ⟨h, trivial⟩
  · exact (ensures_attempt (fun _ h => h.1) ensures_bounds).imp (fun _ h => h)
      fun _ _ h => ⟨h, trivial⟩
  · exact .pure fun _ h => ⟨h.1, trivial⟩

/-- A reader of groups, which begin with a parenthesis. -/
def ReadsGroup (letter : Char) (group : Reader Expression) : Prop :=
  Ensures (fun s => s.Intact letter ∧ s.rest.head? = some '(') group
    fun e s => s.Intact letter ∧ e.Lacks letter

variable {group : Reader Expression}

/-- An atom is a group, an escape, a class or a single character. -/
theorem keeps_atom (hgroup : ReadsGroup letter group) :
    Keeps letter (atom group) (Expression.Lacks letter) := by
  refine .bind keeps_blanks fun _ => .bind ensures_peek? fun c => ?_
  refine .imp (P := fun s => s.Intact letter ∧ s.rest.head? = c) ?_ (fun _ h => ⟨h.1.1, h.2⟩)
    fun _ _ h => h
  have hskip {e : Expression} (huses : e.uses letter = false) (hgroups : e.groups = [])
      (_ : PUnit) : Keeps letter (pure e) (Expression.Lacks letter) :=
    .pure fun _ h => ⟨h, lacks_of_groups_eq_nil huses hgroups⟩
  have hempty {Q : Cursor → Prop} : Ensures (ε := ExpressionFault)
      (fun s => s.Intact letter ∧ Q s) (pure Expression.empty)
      fun e s => s.Intact letter ∧ e.Lacks letter :=
    .pure fun _ h => ⟨h.1, lacks_of_groups_eq_nil rfl rfl⟩
  cases c with
  | none => exact hempty
  | some c =>
    refine .bind ensures_flags fun flags => ?_
    split
    · exact ensures_passHead (by decide) (hskip rfl rfl)
    · exact ensures_passHead (by decide) (hskip rfl rfl)
    · exact ensures_passHead (by decide) (hskip rfl rfl)
    · exact hgroup
    · exact ensures_escape false
    · exact hempty
    · exact hempty
    · exact hempty
    · exact hempty
    · exact hempty
    · exact ensures_bracketClass
    · exact ensures_passHead ‹_› (hskip rfl rfl)

/-- A piece is an atom with the quantifier behind it. -/
theorem keeps_piece (hgroup : ReadsGroup letter group) :
    Keeps letter (piece group) (Expression.Lacks letter) := by
  refine .bind (keeps_atom hgroup) fun body => .of_and fun hbody => .bind keeps_blanks fun _ =>
    .bind (keeps_quantifier?.imp (fun _ h => h.1) fun _ _ h => h.1) fun range => ?_
  cases range with
  | none => exact .pure fun _ h => ⟨h, hbody⟩
  | some range =>
    obtain ⟨least, most⟩ := range
    have hrepeated (lazily : Bool) (u : PUnit) : Keeps letter (do
        let repeated := Expression.iteration least most (lazily == (← flags).swapGreed) body
        if ← comesNext ['+'] then
          skip 1
          return .atomic repeated
        return repeated) (Expression.Lacks letter) := by
      refine .bind ensures_flags fun flags => keeps_whenNext rfl (by simp) (fun _ => ?_) ?_
      · exact .pure fun _ h => ⟨h, hbody.uses, hbody.groups⟩
      · exact .pure fun _ h => ⟨h, hbody.uses, hbody.groups⟩
    refine .ite (fun _ => ?_) fun _ => ?_
    · exact .bind ensures_position fun _ =>
        .bind (Q := fun _ _ => False) (ensures_failAt _ _) fun _ _ h => h.elim
    · refine .bind (keeps_blanks.imp (fun _ h => h) fun _ _ h => h.1) fun _ => ?_
      exact .bind (ensures_comesNext ['?']) fun lazily =>
        ensures_skipNext rfl (by simp) (hrepeated lazily) (hrepeated lazily ())

/-- A run of pieces lacks what each of them lacks. -/
theorem keeps_branchParts (hgroup : ReadsGroup letter group) (fuel : Nat) :
    Keeps letter (branchParts group fuel) fun parts => ∀ e ∈ parts, e.Lacks letter := by
  have hnone : Keeps letter (pure []) fun parts => ∀ e ∈ parts, Expression.Lacks letter e :=
    .pure fun _ h => ⟨h, by simp⟩
  induction fuel with
  | zero => exact hnone
  | succ fuel ih =>
    refine .bind (ensures_atEnd.imp (fun _ h => h) fun _ _ h => h.1) fun atEnd =>
      .ite (fun _ => hnone) fun _ => .bind ensures_position fun start =>
      .bind (keeps_piece hgroup) fun first => .of_and fun hfirst =>
      .bind ensures_position fun stop => .ite (fun _ => hnone) fun _ =>
      .bind ih fun rest => .of_and fun hrest => .pure fun _ h => ⟨h, ?_⟩
    split
    · exact hrest
    · exact List.forall_mem_cons.mpr ⟨hfirst, hrest⟩

/-- Alternatives lack what each of their branches lacks. -/
theorem lacks_alternation {branches : List Expression} (h : ∀ e ∈ branches, e.Lacks letter) :
    (Expression.alternation branches).Lacks letter := by
  refine ⟨Expression.anyUses_eq_false_iff.mpr fun e he => (h e he).uses, fun index hindex => ?_⟩
  obtain ⟨e, he, hindex⟩ := Expression.mem_groupsOf.mp hindex
  exact (h e he).groups index hindex

/-- A concatenation lacks what each of its parts lacks. -/
theorem lacks_ofParts {parts : List Expression} (h : ∀ e ∈ parts, e.Lacks letter) :
    (Expression.ofParts parts).Lacks letter := by
  unfold Expression.ofParts
  split
  · exact lacks_of_groups_eq_nil rfl rfl
  · exact h _ (List.mem_singleton.mpr rfl)
  · exact ⟨(lacks_alternation h).uses, (lacks_alternation h).groups⟩

/-- A branch lacks the letter that the text lacks. -/
theorem keeps_branch (hgroup : ReadsGroup letter group) :
    Keeps letter (branch group) (Expression.Lacks letter) :=
  .bind ensures_get fun _ => .bind (keeps_branchParts hgroup _) fun _ =>
    .pure fun _ h => ⟨h.1, lacks_ofParts h.2⟩

/-- The branches behind the first lack the letter that the text lacks. -/
theorem keeps_otherBranches (hgroup : ReadsGroup letter group) (fuel : Nat) :
    Keeps letter (otherBranches group fuel) fun branches => ∀ e ∈ branches, e.Lacks letter := by
  induction fuel with
  | zero => exact .pure fun _ h => ⟨h, by simp⟩
  | succ fuel ih =>
    refine .bind (ensures_comesNext ['|']) fun barred => .ite (fun _ => ?_) fun hbarred => ?_
    · exact .pure fun _ h => ⟨h.1, by simp⟩
    · rw [Bool.not_eq_true', Bool.not_eq_false] at hbarred
      refine .bind (Q := fun _ (s : Cursor) => s.Intact letter) (ensures_skip fun s h => ?_)
        fun _ => ?_
      · obtain ⟨tail, htail⟩ := h.2 hbarred
        exact h.1.drop_plain htail (by simp)
      refine .bind (keeps_branch hgroup) fun next => .of_and fun hnext =>
        .bind (keeps_blanks.imp (fun _ h => h) fun _ _ h => h.1) fun _ =>
        .bind ih fun rest => .of_and fun hrest => .pure fun _ h => ⟨h, ?_⟩
      exact List.forall_mem_cons.mpr ⟨hnext, hrest⟩

/-- Alternatives lack the letter that the text lacks. -/
theorem keeps_alternatives (hgroup : ReadsGroup letter group) :
    Keeps letter (alternatives group) (Expression.Lacks letter) := by
  refine .bind (keeps_branch hgroup) fun first => .of_and fun hfirst =>
    .bind (keeps_blanks.imp (fun _ h => h) fun _ _ h => h.1) fun _ => .bind ensures_get fun s =>
    .bind (keeps_otherBranches hgroup _) fun rest => .of_and fun hrest => .ite (fun _ => ?_)
      fun _ => ?_
  · have hbranches := List.forall_mem_cons.mpr ⟨hfirst, hrest⟩
    exact .pure fun _ h => ⟨h, lacks_alternation hbranches⟩
  · exact .bind ensures_get fun s => ensures_unless .throw fun _ => .pure fun _ h => ⟨h, hfirst⟩

/-- At every depth of nesting groups are read by the same rules. -/
theorem keeps_expression (depth : Nat) :
    Keeps letter (expression depth) (Expression.Lacks letter) := by
  induction depth with
  | zero => exact keeps_alternatives (ensures_fail _)
  | succ depth ih => exact keeps_alternatives (ensures_groupWith ih)

end Reader

/-- A pattern that neither escapes a letter nor cuts an escape is read as a tree that lacks the
construct of that letter. -/
theorem ParsedPattern.lacks_of_ofText {letter : Char} {pattern : List Char} {parsed : ParsedPattern}
    (h : ofText pattern = .ok parsed) (hpattern : Pattern.Unbroken letter pattern) :
    parsed.tree.Lacks letter := by
  obtain ⟨⟨tree, s⟩, hread, h⟩ := exists_of_bind_eq_ok h
  have hintact : (Cursor.ofPattern pattern).Intact letter := hpattern
  have hlacks := (Reader.keeps_expression nestingLimit _ hintact tree s hread).2
  dsimp only at h
  split at h
  · simp [throw, throwThe, MonadExceptOf.throw, bind, Except.bind] at h
  · obtain rfl := Except.ok.inj h
    exact hlacks

end GrammarScan
