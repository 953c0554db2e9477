import GrammarScan.Proofs.Expression.Constructs
import GrammarScan.Proofs.Expression.Steps
import Mathlib

/-!
# Groups are numbered in the order of their parentheses

Only the parenthesis that opens a group counts it, so the groups that a reader meets have numbers
behind those opened before, in increasing order, and none beyond what is counted at its end. This
holds of every pattern: what a reader passes without counting may be read by any rule.
-/

namespace GrammarScan

/-- A tree with groups numbered in increasing order, behind `first` and up to `last`. -/
structure Expression.NumberedWithin (first last : Nat) (e : Expression) : Prop where
  increasing : e.groups.Pairwise (· < ·)
  within : ∀ index ∈ e.groups, first < index ∧ index ≤ last

namespace Expression

variable {first middle last : Nat} {e : Expression}

/-- A tree without groups is numbered within any bounds. -/
theorem numberedWithin_of_groups_eq_nil (h : e.groups = []) : e.NumberedWithin first last :=
  ⟨by simp [h], by simp [h]⟩

/-- Numbering within bounds is numbering within wider ones. -/
theorem NumberedWithin.mono (h : e.NumberedWithin first last) {earlier later : Nat}
    (hearlier : earlier ≤ first) (hlater : last ≤ later) : e.NumberedWithin earlier later :=
  ⟨h.increasing, fun index hindex =>
    ⟨hearlier.trans_lt (h.within index hindex).1, (h.within index hindex).2.trans hlater⟩⟩

/-- A group with a number of its own in front of those of its body. -/
theorem NumberedWithin.group (h : e.NumberedWithin (first + 1) last) (hle : first + 1 ≤ last) :
    (Expression.group (first + 1) e).NumberedWithin first last := by
  refine ⟨List.pairwise_cons.mpr ⟨fun index hindex => (h.within index hindex).1, h.increasing⟩, ?_⟩
  refine List.forall_mem_cons.mpr ⟨⟨Nat.lt_succ_self _, hle⟩, fun index hindex => ?_⟩
  exact ⟨(Nat.lt_succ_self _).trans (h.within index hindex).1, (h.within index hindex).2⟩

/-- Trees one after another are numbered in order if each is. -/
theorem numberedWithin_groups_append {f : Expression} {groups : List Nat}
    (he : e.NumberedWithin first middle) (hincreasing : groups.Pairwise (· < ·))
    (hwithin : ∀ index ∈ groups, middle < index ∧ index ≤ last) (hfirst : first ≤ middle)
    (hlast : middle ≤ last) (hf : f.groups = e.groups ++ groups) : f.NumberedWithin first last := by
  refine ⟨?_, fun index hindex => ?_⟩
  · rw [hf, List.pairwise_append]
    refine ⟨he.increasing, hincreasing, fun i hi j hj => ?_⟩
    exact (he.within i hi).2.trans_lt (hwithin j hj).1
  · rw [hf, List.mem_append] at hindex
    rcases hindex with hindex | hindex
    · exact ⟨(he.within index hindex).1, (he.within index hindex).2.trans hlast⟩
    · exact ⟨hfirst.trans_lt (hwithin index hindex).1, (hwithin index hindex).2⟩

end Expression

namespace Reader

variable {α β : Type}

/-- A reader that begins with so many groups opened and counts those that it opens. -/
def Opens (x : Reader α) (opened : Nat) (Q : Nat → α → Prop) : Prop :=
  Ensures (·.openedGroups = opened) x fun a s => opened ≤ s.openedGroups ∧ Q s.openedGroups a

/-- A reader that opens no group. -/
def Stays (x : Reader α) : Prop :=
  ∀ opened, Opens x opened fun opened' _ => opened' = opened

/-- A reader of trees whose groups are numbered in order. -/
def Numbers (x : Reader Expression) : Prop :=
  ∀ opened, Opens x opened fun opened' e => e.NumberedWithin opened opened'

section Opens

variable {x y : Reader α} {opened : Nat} {Q : Nat → α → Prop} {R : Nat → β → Prop}

/-- A value that is given back opens no group. -/
theorem Opens.pure {a : α} (h : Q opened a) : Opens (Pure.pure a) opened Q :=
  Ensures.pure fun _ hs => ⟨hs.ge, by rwa [hs]⟩

/-- What follows a reader begins with the groups that the reader left opened. -/
theorem Opens.bind {f : α → Reader β} (hx : Opens x opened Q)
    (hf : ∀ a opened', opened ≤ opened' → Q opened' a → Opens (f a) opened' R) :
    Opens (x >>= f) opened R := by
  refine Ensures.bind hx fun a s hs b s' hb => ?_
  obtain ⟨hle, hR⟩ := hf a s.openedGroups hs.1 hs.2 s rfl b s' hb
  exact ⟨hs.1.trans hle, hR⟩

/-- A condition opens what the side that is taken opens. -/
theorem Opens.ite {c : Prop} [Decidable c] (hx : c → Opens x opened Q)
    (hy : ¬ c → Opens y opened Q) : Opens (if c then x else y) opened Q :=
  Ensures.ite hx hy

/-- What a reader is known to give may be said in weaker words. -/
theorem Opens.imp {Q' : Nat → α → Prop} (h : Opens x opened Q)
    (hQ : ∀ opened' a, opened ≤ opened' → Q opened' a → Q' opened' a) : Opens x opened Q' :=
  Ensures.imp h (fun _ hs => hs) fun a s hs => ⟨hs.1, hQ s.openedGroups a hs.1 hs.2⟩

/-- Nothing follows a reader that fails. -/
theorem Opens.absurd {f : β → Reader α} {x : Reader β} (hx : Opens x opened fun _ _ => False) :
    Opens (x >>= f) opened Q :=
  hx.bind fun _ _ _ h => h.elim

/-- What follows a test that fails if a condition holds. -/
theorem Opens.unless {c : Prop} [Decidable c] {f : β → Reader α} {x : Reader β}
    (hx : Opens x opened fun _ _ => False) (hy : ¬ c → Opens y opened Q) :
    Opens (if c then x >>= f else y) opened Q :=
  .ite (fun _ => hx.absurd) hy

/-- A reader that fails at a position gives nothing. -/
theorem opens_failAt (position : Nat) (fault : NotationFault) :
    Opens (failAt position fault) opened Q := ensures_failAt _ _

/-- A reader that fails where it is gives nothing. -/
theorem opens_fail (fault : NotationFault) : Opens (fail fault) opened Q := ensures_fail _

/-- What follows a reader that opens no group begins with as many opened. -/
theorem Stays.bind {f : α → Reader β} (hx : Stays x) (hf : ∀ a, Opens (f a) opened R) :
    Opens (x >>= f) opened R :=
  (hx opened).bind fun a _ _ heq => heq ▸ hf a

/-- Giving back a value opens no group. -/
theorem stays_pure (a : α) : Stays (pure a : Reader α) := fun _ => .pure rfl

/-- Looking at the cursor opens no group. -/
theorem stays_get : Stays (get : Reader Cursor) :=
  fun _ => ensures_get.imp (fun _ hs => hs) fun _ _ hs => ⟨hs.ge, hs⟩

/-- A change of the cursor that leaves the count of groups alone opens none. -/
theorem stays_modify {f : Cursor → Cursor} (h : ∀ s, (f s).openedGroups = s.openedGroups) :
    Stays (modify f : Reader PUnit) :=
  fun _ => Ensures.modify fun s hs => ⟨(h s).trans hs |>.ge, (h s).trans hs⟩

end Opens

/-! ## Readers that open no group -/

/-- Asking for the position opens no group. -/
theorem stays_position : Stays position := fun _ => stays_get.bind fun _ => .pure rfl

/-- Asking for the flags opens no group. -/
theorem stays_flags : Stays flags := fun _ => stays_get.bind fun _ => .pure rfl

/-- Looking at the next character opens no group. -/
theorem stays_peek? : Stays peek? := fun _ => stays_get.bind fun _ => .pure rfl

/-- Looking for a text opens no group. -/
theorem stays_comesNext (front : List Char) : Stays (comesNext front) :=
  fun _ => stays_get.bind fun _ => .pure rfl

/-- Passing characters opens no group. -/
theorem stays_skip (count : Nat) : Stays (skip count) := stays_modify fun _ => rfl

/-- Asking whether a branch has ended opens no group. -/
theorem stays_atEnd : Stays atEnd := fun _ => stays_get.bind fun _ => .pure rfl

/-- Blanks and comments open no group. -/
theorem stays_blanks : Stays blanks := by
  intro opened
  refine Ensures.bind .get fun s => ?_
  cases passBlanks s.flags.extended .between s.rest s.position with
  | error position => exact ensures_failAt _ _
  | ok result =>
    refine .set fun s' hs => ?_
    obtain ⟨hs, rfl⟩ := hs
    exact ⟨hs.ge, hs⟩

/-- A reader that is tried opens no group if it opens none when it is run. -/
theorem stays_attempt {x : Reader α} (hx : Stays x) : Stays (attempt x) := by
  intro opened s hs a s' heq
  unfold attempt at heq
  split at heq
  · next value s'' hvalue =>
    obtain ⟨-, rfl⟩ := Prod.mk.inj (Except.ok.inj heq)
    exact hx opened s hs _ _ hvalue
  · obtain ⟨-, rfl⟩ := Prod.mk.inj (Except.ok.inj heq)
    exact ⟨hs.ge, hs⟩

/-- A number opens no group. -/
theorem stays_decimal? : Stays decimal? := fun _ => stays_get.bind fun _ =>
  .ite (fun _ => .pure rfl) fun _ => (stays_skip _).bind fun _ => .pure rfl

/-- The name of a group that is opened or referred to opens none by itself. -/
theorem stays_name? (opening closing : List Char) (relative : Bool) :
    Stays (name? opening closing relative) := fun _ => stays_get.bind fun _ =>
  .ite (fun _ => .pure rfl) fun _ => .ite (fun _ => .pure rfl) fun _ =>
    (stays_skip _).bind fun _ => .pure rfl

/-- A reference to a group by its name opens none. -/
theorem stays_namedReference (opening closing : List Char) (relative : Bool) :
    Stays (namedReference opening closing relative) := by
  refine fun _ => stays_position.bind fun _ => (stays_name? _ _ _).bind fun name => ?_
  cases name with
  | none => exact opens_failAt _ _
  | some name =>
    refine stays_get.bind fun s => ?_
    cases groupOfName? s name with
    | none => exact opens_failAt _ _
    | some group => exact .pure rfl

/-- A reference to a group by its number opens none. -/
theorem stays_numberedReference : Stays numberedReference := by
  refine fun _ => stays_position.bind fun _ => stays_decimal?.bind fun group => ?_
  cases group with
  | none => exact opens_failAt _ _
  | some group =>
    refine stays_get.bind fun s => .unless (opens_failAt _ _) fun _ => ?_
    have hmodify : Stays (modify fun s : Cursor => { s with numbered := true }) :=
      stays_modify fun _ => rfl
    exact hmodify.bind fun _ => .pure rfl

/-- A character written by its code point opens no group. -/
theorem stays_hexCharacter (count : Nat) : Stays (hexCharacter count) := by
  intro opened
  have hfinish (start code : Nat) : Opens (if h : code.isValidChar then
      return Char.ofNatAux code h else failAt start .invalidCodePoint) opened
      fun opened' _ => opened' = opened := by
    split
    · exact .pure rfl
    · exact opens_failAt _ _
  refine stays_position.bind fun start => stays_get.bind fun s => .ite (fun _ => ?_) fun _ => ?_
  · exact (stays_skip _).bind fun _ => (stays_pure _).bind fun _ => hfinish start _
  · split
    · refine .unless (opens_failAt _ _) fun _ => ?_
      exact (stays_skip _).bind fun _ => (stays_pure _).bind fun _ => hfinish start _
    · exact .absurd (opens_failAt _ _)

/-- The name of a character property opens no group. -/
theorem stays_propertyName (start : Nat) : Stays (propertyName start) := by
  refine fun _ => stays_get.bind fun s => ?_
  dsimp only
  split
  · refine .unless (opens_failAt _ _) fun _ => ?_
    exact (stays_skip _).bind fun _ => .pure rfl
  · exact (stays_skip _).bind fun _ => .pure rfl
  · exact .pure rfl

/-- A tree without groups can be read anywhere. -/
theorem Stays.leaf {x : Reader α} (hx : Stays x) {f : α → Expression}
    (hgroups : ∀ a, (f a).groups = []) : Numbers (do return f (← x)) := fun _ =>
  hx.bind fun a => .pure (Expression.numberedWithin_of_groups_eq_nil (hgroups a))

/-- A tree without groups is numbered in order wherever it is given back. -/
theorem numbers_pure {e : Expression} (hgroups : e.groups = []) : Numbers (pure e) := fun _ =>
  .pure (Expression.numberedWithin_of_groups_eq_nil hgroups)

/-- Escapes are read without opening a group, and stand for trees without groups. -/
theorem opens_escape (inClass : Bool) :
    ∀ opened, Opens (escape inClass) opened fun opened' e => opened' = opened ∧ e.groups = [] := by
  intro opened
  refine stays_position.bind fun start => (stays_skip 1).bind fun _ => stays_peek?.bind fun c => ?_
  have hreturn {e : Expression} (he : e.groups = []) :
      Opens (pure e) opened fun opened' e => opened' = opened ∧ e.groups = [] := .pure ⟨rfl, he⟩
  have hread {α : Type} {x : Reader α} (hx : Stays x) {f : α → Expression}
      (hf : ∀ a, (f a).groups = []) :
      Opens (do return f (← x)) opened fun opened' e => opened' = opened ∧ e.groups = [] :=
    hx.bind fun a => hreturn (hf a)
  cases c with
  | none => exact opens_failAt _ _
  | some c =>
    refine stays_flags.bind fun flags => ?_
    dsimp only
    refine .ite (fun _ => hread stays_numberedReference fun _ => rfl) fun _ => ?_
    refine (stays_skip 1).bind fun _ => ?_
    -- references by name
    refine .ite (fun _ => (stays_comesNext _).bind fun _ => .ite (fun _ => ?_) fun _ => ?_)
      fun _ => ?_
    · exact hread (stays_namedReference _ _ _) fun _ => rfl
    · exact hread (stays_namedReference _ _ _) fun _ => rfl
    -- assertions
    refine .ite (fun _ => hreturn rfl) fun _ => .ite (fun _ => hreturn rfl) fun _ => ?_
    refine .ite (fun _ => (stays_comesNext _).bind fun _ =>
      .unless (opens_failAt _ _) fun _ => hreturn rfl) fun _ => ?_
    refine .ite (fun _ => hreturn rfl) fun _ => .ite (fun _ => hreturn rfl) fun _ => ?_
    -- classes and code points
    refine .ite (fun _ => hreturn rfl) fun _ => .ite (fun _ => hreturn rfl) fun _ => ?_
    refine .ite (fun _ => hreturn rfl) fun _ => ?_
    refine .ite (fun _ => hread (stays_hexCharacter _) fun _ => rfl) fun _ => ?_
    refine .ite (fun _ => hread (stays_hexCharacter _) fun _ => rfl) fun _ => ?_
    refine .ite (fun _ => hread (stays_hexCharacter _) fun _ => rfl) fun _ => ?_
    refine stays_atEnd.bind fun _ =>
      .ite (fun _ => hread (stays_propertyName start) fun _ => rfl) fun _ => ?_
    -- constructs about the search, and characters
    refine .ite (fun _ => hreturn rfl) fun _ => .ite (fun _ => hreturn rfl) fun _ => ?_
    cases controlEscape? c with
    | some control => exact hreturn rfl
    | none => exact .unless (opens_failAt _ _) fun _ => hreturn rfl

/-- The body of a class opens no group, whatever escapes it has. -/
theorem stays_classBody (fuel depth : Nat) (text : List Char) :
    Stays (classBody fuel depth text) := by
  induction fuel generalizing depth text with
  | zero => exact fun _ => opens_fail _
  | succ fuel ih =>
    refine fun opened => stays_peek?.bind fun c => ?_
    cases c with
    | none => exact opens_fail _
    | some c =>
      refine .ite (fun _ => stays_position.bind fun start => ?_) fun _ => ?_
      · refine (opens_escape true opened).bind fun e opened' _ he => ?_
        obtain ⟨rfl, -⟩ := he
        split
        · exact ih _ _ _
        · exact ih _ _ _
        · exact opens_failAt _ _
      · refine (stays_skip 1).bind fun _ => .ite (fun _ => ih _ _ _) fun _ =>
          .ite (fun _ => ?_) fun _ => ih _ _ _
        cases depth with
        | zero => exact .pure rfl
        | succ depth => exact ih _ _ _

/-- A class in brackets is a tree without groups. -/
theorem numbers_bracketClass : Numbers bracketClass := by
  intro opened
  have hbody (opening : List Char) : Opens (do
      let text ← classBody ((← get).rest.length + 1) 0 opening
      return Expression.charClass text (← flags).ignoreCase) opened
        fun opened' e => e.NumberedWithin opened opened' :=
    stays_get.bind fun _ => (stays_classBody _ _ _).bind fun _ => stays_flags.bind fun _ =>
      numbers_pure rfl opened
  refine (stays_skip 1).bind fun _ => (stays_comesNext _).bind fun negated => ?_
  refine .ite (fun _ => (stays_skip 1).bind fun _ => ?_) fun _ => ?_
  · refine (stays_comesNext _).bind fun closed => ?_
    exact .ite (fun _ => (stays_skip 1).bind fun _ => hbody _) fun _ => hbody _
  · refine (stays_comesNext _).bind fun closed => ?_
    exact .ite (fun _ => (stays_skip 1).bind fun _ => hbody _) fun _ => hbody _

/-- A parenthesis that closes a group opens none. -/
theorem stays_closeParenthesis : Stays closeParenthesis := by
  refine fun _ => stays_blanks.bind fun _ => stays_peek?.bind fun c => ?_
  cases c with
  | none => exact opens_fail _
  | some c => exact .ite (fun _ => stays_skip 1 _) fun _ => opens_fail _

/-- The bounds of a quantifier open no group. -/
theorem stays_bounds : Stays bounds := by
  intro opened
  refine (stays_skip 1).bind fun _ => stays_blanks.bind fun _ =>
    (stays_comesNext _).bind fun _ => ?_
  extract_lets behindLeast
  have hclose (least : Nat) (most : Option Nat) : Opens (do
      blanks
      if !(← comesNext ['\x7d']) then fail .notRepeatable
      skip 1
      return (least, most.filter (· + 1 < UInt64.size))) opened fun opened' _ => opened' = opened :=
    stays_blanks.bind fun _ => (stays_comesNext _).bind fun _ => .unless (opens_fail _) fun _ =>
      (stays_skip 1).bind fun _ => .pure rfl
  have hleast (least : Nat) :
      Opens (behindLeast least) opened fun opened' _ => opened' = opened := by
    refine stays_blanks.bind fun _ => stays_peek?.bind fun c => ?_
    split
    · exact (stays_pure _).bind fun _ => hclose least _
    · exact (stays_skip 1).bind fun _ => stays_blanks.bind fun _ =>
        stays_decimal?.bind fun _ => hclose least _
    · exact .absurd (opens_fail _)
  refine .ite (fun _ => (stays_pure _).bind fun _ => hleast _) fun _ => ?_
  refine stays_decimal?.bind fun least => ?_
  cases least with
  | some least => exact (stays_pure _).bind fun _ => hleast _
  | none => exact .absurd (opens_fail _)

/-- A quantifier opens no group. -/
theorem stays_quantifier? : Stays quantifier? := by
  refine fun _ => stays_peek?.bind fun c => ?_
  split
  · exact (stays_skip 1).bind fun _ => .pure rfl
  · exact (stays_skip 1).bind fun _ => .pure rfl
  · exact (stays_skip 1).bind fun _ => .pure rfl
  · exact stays_attempt stays_bounds _
  · exact .pure rfl

/-! ## Groups -/

/-- Opening a group gives it the next number. -/
theorem opens_openGroup (opened : Nat) :
    Opens openGroup opened fun opened' index => opened' = opened + 1 ∧ index = opened + 1 := by
  refine Ensures.bind (Q := fun _ s => s.openedGroups = opened + 1)
    (.modify fun _ hs => congrArg (· + 1) hs) fun _ => .bind .get fun s => .pure ?_
  rintro s' ⟨hs, rfl⟩
  exact ⟨hs ▸ Nat.le_succ opened, hs, hs⟩

/-- Opening a group with a name counts it, and it is numbered by the count. -/
theorem opens_openNamedGroup (skipped opened : Nat) :
    Opens (openNamedGroup skipped) opened
      fun opened' index => opened' = opened + 1 ∧ index = opened + 1 := by
  refine stays_position.bind fun start => (opens_openGroup opened).bind fun index opened' _ h => ?_
  obtain ⟨rfl, rfl⟩ := h
  refine (stays_skip _).bind fun _ => (stays_name? _ _ _).bind fun name => ?_
  cases name with
  | none => exact opens_failAt _ _
  | some name =>
    have hmodify : Stays (modify fun s : Cursor =>
        { s with names := (name, opened + 1) :: s.names }) := stays_modify fun _ => rfl
    exact hmodify.bind fun _ => .pure ⟨rfl, rfl⟩

section Groups

variable {inner : Reader Expression}

/-- A reader of trees with something passed behind it. -/
theorem Numbers.bindStays {x : Reader Expression} (hx : Numbers x) {y : Reader α} (hy : Stays y)
    {f : Expression → Expression} (hf : ∀ e, (f e).groups = e.groups) :
    Numbers (do
      let e ← x
      let _ ← y
      return f e) := fun opened =>
  (hx opened).bind fun e _ _ he => hy.bind fun _ =>
    .pure ⟨by rw [hf]; exact he.increasing, by rw [hf]; exact he.within⟩

/-- A tree that holds the groups of another one. -/
theorem Numbers.wrap {x : Reader Expression} (hx : Numbers x) {f : Expression → Expression}
    (hf : ∀ e, (f e).groups = e.groups) : Numbers (do return f (← x)) := fun opened =>
  (hx opened).bind fun e _ _ he =>
    .pure ⟨by rw [hf]; exact he.increasing, by rw [hf]; exact he.within⟩

/-- A group with flags is numbered in order if its body is. -/
theorem numbers_flagLetters (hinner : Numbers inner) (before : Flags) (start : Nat)
    (letters : List Char) (fuel : Nat) (negated : Bool) :
    Numbers (flagLetters inner before start letters fuel negated) := by
  induction fuel generalizing negated with
  | zero => exact fun _ => opens_fail _
  | succ fuel ih =>
    refine fun opened => stays_blanks.bind fun _ => stays_peek?.bind fun c => ?_
    cases c with
    | none => exact opens_fail _
    | some c =>
      refine stays_position.bind fun here => stays_get.bind fun s => ?_
      dsimp only
      refine stays_flags.bind fun flags => ?_
      have hflags (flags : Flags) : Stays (modify fun s : Cursor => { s with flags := flags }) :=
        stays_modify fun _ => rfl
      cases setFlag? flags c !negated with
      | some flags =>
        exact (hflags flags).bind fun _ => (stays_skip 1).bind fun _ => ih negated opened
      | none =>
        refine .ite (fun _ => ?_) fun _ => .ite (fun _ => ?_) fun _ => .ite (fun _ => ?_)
          fun _ => .ite (fun _ => ?_) fun _ => opens_failAt _ _
        · exact .unless (opens_fail _) fun _ => (stays_skip 1).bind fun _ => ih _ _
        · exact .unless (opens_failAt _ _) fun _ => (stays_skip 1).bind fun _ => ih _ _
        · exact .unless (opens_failAt _ _) fun _ => (stays_skip 1).bind fun _ => numbers_pure rfl _
        · refine .unless (opens_failAt _ _) fun _ => (stays_skip 1).bind fun _ => ?_
          refine (hinner opened).bind fun body opened' _ hbody => stays_peek?.bind fun c => ?_
          cases c with
          | none => exact opens_fail _
          | some c => exact .unless (opens_fail _) fun _ => (stays_skip 1).bind fun _ =>
              (hflags before).bind fun _ => .pure hbody

/-- The groups of a conditional are those of its parts in turn. -/
theorem numberedWithin_conditional {test branches yes no : Expression} {first middle last : Nat}
    (htest : test.NumberedWithin first middle) (hbranches : branches.NumberedWithin middle last)
    (hparts : yes.groups ++ no.groups = branches.groups) (hfirst : first ≤ middle)
    (hlast : middle ≤ last) :
    (Expression.conditional test yes no).NumberedWithin first last := by
  refine Expression.numberedWithin_groups_append htest hbranches.increasing hbranches.within hfirst
    hlast ?_
  rw [Expression.groups, List.append_assoc, hparts]

/-- A conditional is numbered in order if its test and its branches are. -/
theorem numbers_conditional (hinner : Numbers inner) : Numbers (conditional inner) := by
  refine fun opened => stays_peek?.bind fun c => ?_
  extract_lets behindTest
  have hbehind (test : Expression) (middle : Nat) (hle : opened ≤ middle)
      (htest : test.NumberedWithin opened middle) :
      Opens (behindTest test) middle fun opened' e => e.NumberedWithin opened opened' := by
    refine stays_closeParenthesis.bind fun _ => stays_position.bind fun start =>
      (hinner middle).bind fun branches last hlast hbranches => stays_position.bind fun stop => ?_
    extract_lets matched build
    have hmatched : matched.NumberedWithin opened middle := by
      unfold matched
      split
      · exact Expression.numberedWithin_of_groups_eq_nil rfl
      · exact htest
    have hbuild (u : Unit) :
        Opens (build u) last fun opened' e => e.NumberedWithin opened opened' := by
      unfold build
      split
      next yes no hparts =>
      have hgroups : yes.groups ++ no.groups = branches.groups := by
        split at hparts
        · obtain ⟨rfl, rfl⟩ := Prod.mk.inj hparts
          simp [Expression.groups, Expression.groupsOf]
        · obtain ⟨rfl, rfl⟩ := Prod.mk.inj hparts
          simp [Expression.groups, Expression.groupsOf]
        · obtain ⟨rfl, rfl⟩ := Prod.mk.inj hparts
          simp [Expression.groups]
      refine stays_closeParenthesis.bind fun _ => .pure ?_
      split
      · exact hmatched.mono le_rfl hlast
      · exact numberedWithin_conditional hmatched hbranches hgroups hle hlast
    refine .ite (fun _ => ?_) fun _ => hbuild ()
    split
    · exact stays_closeParenthesis.bind fun _ =>
        .pure (Expression.numberedWithin_of_groups_eq_nil rfl)
    · exact .absurd (opens_fail _)
  have hreference {x : Reader Nat} (hx : Stays x) :
      Opens ((Expression.backReference <$> x) >>= behindTest) opened
        fun opened' e => e.NumberedWithin opened opened' := by
    have hleaf : Opens (Expression.backReference <$> x) opened
        fun opened' test => opened' = opened ∧ test.groups = [] :=
      Ensures.map (Ensures.imp (hx opened) (fun _ hs => hs) fun _ _ hs => ⟨hs.1, hs.2, rfl⟩)
    exact hleaf.bind fun test middle hle htest =>
      hbehind test middle hle (Expression.numberedWithin_of_groups_eq_nil htest.2)
  cases c with
  | none => exact opens_fail _
  | some c =>
    refine .ite (fun _ => ?_) fun _ => .ite (fun _ => ?_) fun _ => .ite (fun _ => ?_) fun _ => ?_
    · exact hreference (stays_namedReference _ _ _)
    · exact hreference (stays_namedReference _ _ _)
    · exact hreference stays_numberedReference
    · exact (hinner opened).bind fun test middle hle htest => hbehind test middle hle htest

/-- A group of any kind is numbered in order if what stands in it is. -/
theorem numbers_groupWith (hinner : Numbers inner) : Numbers (groupWith inner) := by
  refine fun opened => (stays_skip 1).bind fun _ => stays_blanks.bind fun _ => ?_
  extract_lets body
  have hbody : Numbers body := hinner.bindStays stays_closeParenthesis fun _ => rfl
  have hlook (side : Side) (negated : Bool) :
      Numbers (do return .lookAround side negated (← body)) := hbody.wrap fun _ => rfl
  have hatomic : Numbers (do return .atomic (← body)) := hbody.wrap fun _ => rfl
  have hgroup {x : Reader Nat} (hx : Opens x opened
      fun opened' index => opened' = opened + 1 ∧ index = opened + 1) :
      Opens (do
        let index ← x
        return Expression.group index (← body)) opened
          fun opened' e => e.NumberedWithin opened opened' := by
    refine hx.bind fun index opened' _ h => ?_
    obtain ⟨rfl, rfl⟩ := h
    exact (hbody (opened + 1)).bind fun e last hle he => .pure (he.group hle)
  refine (stays_comesNext _).bind fun _ => .ite (fun _ => ?_) fun _ => ?_
  · exact (stays_skip _).bind fun _ => hlook _ _ _
  refine (stays_comesNext _).bind fun _ => .ite (fun _ => ?_) fun _ => ?_
  · exact (stays_skip _).bind fun _ => hlook _ _ _
  refine (stays_comesNext _).bind fun _ => .ite (fun _ => ?_) fun _ => ?_
  · exact (stays_skip _).bind fun _ => hlook _ _ _
  refine (stays_comesNext _).bind fun _ => .ite (fun _ => ?_) fun _ => ?_
  · exact (stays_skip _).bind fun _ => hlook _ _ _
  refine (stays_comesNext _).bind fun _ => .ite (fun _ => ?_) fun _ => ?_
  · exact hgroup (opens_openNamedGroup 1 opened)
  refine (stays_comesNext _).bind fun _ => .ite (fun _ => ?_) fun _ => ?_
  · exact hgroup (opens_openNamedGroup 2 opened)
  refine (stays_comesNext _).bind fun _ => .ite (fun _ => ?_) fun _ => ?_
  · exact (stays_skip _).bind fun _ => (stays_namedReference _ _ _).leaf (fun _ => rfl) _
  refine (stays_comesNext _).bind fun _ => .ite (fun _ => ?_) fun _ => ?_
  · exact (stays_skip _).bind fun _ => hatomic _
  refine (stays_comesNext _).bind fun _ => .ite (fun _ => ?_) fun _ => ?_
  · exact (stays_skip _).bind fun _ => numbers_conditional hinner _
  refine (stays_comesNext _).bind fun _ => .ite (fun _ => ?_) fun _ => ?_
  · exact (stays_skip _).bind fun _ => stays_get.bind fun _ =>
      numbers_flagLetters hinner _ _ _ _ _ _
  · exact hgroup (opens_openGroup opened)

end Groups

/-! ## Alternatives -/

section Alternatives

variable {group : Reader Expression}

/-- An atom is numbered in order if the groups that it may be are. -/
theorem numbers_atom (hgroup : Numbers group) : Numbers (atom group) := by
  refine fun opened => stays_blanks.bind fun _ => stays_peek?.bind fun c => ?_
  have hskip {e : Expression} (he : e.groups = []) : Opens (skip 1 >>= fun _ => pure e) opened
      fun opened' e => e.NumberedWithin opened opened' :=
    (stays_skip 1).bind fun _ => numbers_pure he _
  cases c with
  | none => exact numbers_pure rfl _
  | some c =>
    refine stays_flags.bind fun flags => ?_
    split
    · exact hskip rfl
    · exact hskip rfl
    · exact hskip rfl
    · exact hgroup _
    · exact (opens_escape false opened).imp fun _ _ _ h =>
        Expression.numberedWithin_of_groups_eq_nil h.2
    · exact numbers_pure rfl _
    · exact numbers_pure rfl _
    · exact numbers_pure rfl _
    · exact numbers_pure rfl _
    · exact numbers_pure rfl _
    · exact numbers_bracketClass _
    · exact hskip rfl

/-- A quantifier leaves the numbering of its atom alone. -/
theorem numbers_piece (hgroup : Numbers group) : Numbers (piece group) := by
  refine fun opened => (numbers_atom hgroup opened).bind fun body last _ hbody =>
    stays_blanks.bind fun _ => stays_quantifier?.bind fun range => ?_
  cases range with
  | none => exact .pure hbody
  | some range =>
    obtain ⟨least, most⟩ := range
    have hrepeated (lazily : Bool) : Opens (do
        let repeated := Expression.iteration least most (lazily == (← flags).swapGreed) body
        if ← comesNext ['+'] then
          skip 1
          return .atomic repeated
        return repeated) last fun opened' e => e.NumberedWithin opened opened' := by
      refine stays_flags.bind fun flags => (stays_comesNext _).bind fun _ => .ite (fun _ => ?_)
        fun _ => .pure ⟨hbody.increasing, hbody.within⟩
      exact (stays_skip 1).bind fun _ => .pure ⟨hbody.increasing, hbody.within⟩
    refine .ite (fun _ => stays_position.bind fun _ => .absurd (opens_failAt _ _)) fun _ => ?_
    refine stays_blanks.bind fun _ => (stays_comesNext _).bind fun lazily => ?_
    exact .ite (fun _ => (stays_skip 1).bind fun _ => hrepeated lazily) fun _ => hrepeated lazily

/-- Trees in a row whose groups are numbered in order. -/
structure NumberedRow (first last : Nat) (es : List Expression) : Prop where
  increasing : (Expression.groupsOf es).Pairwise (· < ·)
  within : ∀ index ∈ Expression.groupsOf es, first < index ∧ index ≤ last

/-- A row without trees is numbered within any bounds. -/
theorem numberedRow_nil (first last : Nat) : NumberedRow first last [] :=
  ⟨List.Pairwise.nil, by simp [Expression.groupsOf]⟩

/-- A tree in front of a row that is numbered behind it. -/
theorem NumberedRow.cons {first middle last : Nat} {e : Expression} {es : List Expression}
    (he : e.NumberedWithin first middle) (hes : NumberedRow middle last es)
    (hfirst : first ≤ middle) (hlast : middle ≤ last) : NumberedRow first last (e :: es) := by
  have hrow : (Expression.concat (e :: es)).NumberedWithin first last :=
    Expression.numberedWithin_groups_append he hes.increasing hes.within hfirst hlast rfl
  exact ⟨hrow.increasing, hrow.within⟩

/-- The parts of a branch are numbered one behind the other. -/
theorem opens_branchParts (hgroup : Numbers group) (fuel opened : Nat) :
    Opens (branchParts group fuel) opened fun last parts => NumberedRow opened last parts := by
  induction fuel generalizing opened with
  | zero => exact .pure (numberedRow_nil _ _)
  | succ fuel ih =>
    refine stays_atEnd.bind fun _ => .ite (fun _ => .pure (numberedRow_nil _ _)) fun _ =>
      stays_position.bind fun start => (numbers_piece hgroup opened).bind
        fun first middle hfirst hpiece => stays_position.bind fun stop =>
      .ite (fun _ => .pure (numberedRow_nil _ _)) fun _ =>
      (ih middle).bind fun rest last hlast hrest => .pure ?_
    split
    · exact ⟨hrest.increasing, fun index hindex =>
        ⟨hfirst.trans_lt (hrest.within index hindex).1, (hrest.within index hindex).2⟩⟩
    · exact .cons hpiece hrest hfirst hlast

/-- A branch is numbered in order if its groups are. -/
theorem numbers_branch (hgroup : Numbers group) : Numbers (branch group) := by
  refine fun opened => stays_get.bind fun _ => (opens_branchParts hgroup _ opened).bind
    fun parts last _ hparts => .pure ?_
  unfold Expression.ofParts
  split
  · exact Expression.numberedWithin_of_groups_eq_nil rfl
  · have hgroups : ∀ part : Expression, Expression.groupsOf [part] = part.groups := by
      simp [Expression.groupsOf]
    exact ⟨hgroups _ ▸ hparts.increasing, hgroups _ ▸ hparts.within⟩
  · exact ⟨hparts.increasing, hparts.within⟩

/-- The branches behind the first are numbered one behind the other. -/
theorem opens_otherBranches (hgroup : Numbers group) (fuel opened : Nat) :
    Opens (otherBranches group fuel) opened
      fun last branches => NumberedRow opened last branches := by
  induction fuel generalizing opened with
  | zero => exact .pure (numberedRow_nil _ _)
  | succ fuel ih =>
    refine (stays_comesNext _).bind fun _ => .ite (fun _ => .pure (numberedRow_nil _ _)) fun _ =>
      (stays_skip 1).bind fun _ => (numbers_branch hgroup opened).bind
        fun next middle hfirst hnext => stays_blanks.bind fun _ =>
      (ih middle).bind fun rest last hlast hrest => .pure (.cons hnext hrest hfirst hlast)

/-- Alternatives are numbered in order if their groups are. -/
theorem numbers_alternatives (hgroup : Numbers group) : Numbers (alternatives group) := by
  refine fun opened => (numbers_branch hgroup opened).bind fun first middle hle hfirst =>
    stays_blanks.bind fun _ => stays_get.bind fun _ =>
    (opens_otherBranches hgroup _ middle).bind fun rest last hlast hrest => .ite (fun _ => ?_)
      fun _ => stays_get.bind fun _ => .unless .throw fun _ => .pure (hfirst.mono le_rfl hlast)
  have hrow := NumberedRow.cons hfirst hrest hle hlast
  exact .pure ⟨hrow.increasing, hrow.within⟩

/-- Expressions are numbered in order, however deep their groups are nested. -/
theorem numbers_expression (depth : Nat) : Numbers (expression depth) := by
  induction depth with
  | zero => exact numbers_alternatives fun _ => opens_fail _
  | succ depth ih => exact numbers_alternatives (numbers_groupWith ih)

end Alternatives

end Reader

/-- The groups of a pattern are numbered from 1 on in increasing order, and are counted all. -/
theorem ParsedPattern.numberedWithin_of_ofText {pattern : List Char} {parsed : ParsedPattern}
    (h : ofText pattern = .ok parsed) : parsed.tree.NumberedWithin 0 parsed.groupCount := by
  obtain ⟨⟨tree, s⟩, hread, h⟩ := exists_of_bind_eq_ok h
  have hnumbered := (Reader.numbers_expression nestingLimit 0 _ rfl tree s hread).2
  dsimp only at h
  split at h
  · simp [throw, throwThe, MonadExceptOf.throw, bind, Except.bind] at h
  · obtain rfl := Except.ok.inj h
    exact hnumbered

end GrammarScan
