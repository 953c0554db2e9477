import GrammarScan.Expression.Parser
import GrammarScan.Proofs.Ensures
import GrammarScan.Proofs.Pattern.Unbroken
import Mathlib.Data.List.TakeWhile

/-!
# Steps of reading a pattern

What is left of a pattern that neither escapes a letter nor cuts an escape is again such a pattern,
as long as the steps of reading it pass escapes as a whole. The steps that pass known characters,
names, numbers and blanks do so.
-/

namespace GrammarScan

open Pattern (Unbroken unbroken_cons unbroken_nil)

/-- A reader whose rest neither escapes a letter nor cuts an escape. -/
def Cursor.Intact (letter : Char) (s : Cursor) : Prop := Unbroken letter s.rest

/-- Passing the first character keeps the rest intact unless that is a backslash. -/
theorem Cursor.Intact.drop_head {letter c : Char} {s : Cursor} (h : s.Intact letter)
    (hhead : s.rest.head? = some c) (hc : c ≠ '\\') : (s.drop 1).Intact letter := by
  obtain ⟨tail, htail⟩ := List.head?_eq_some_iff.mp hhead
  unfold Intact at h ⊢
  rw [htail, unbroken_cons hc] at h
  simpa [Cursor.drop, htail] using h

/-- Passing known characters keeps the rest intact if none of them is a backslash. -/
theorem Cursor.Intact.drop_plain {letter : Char} {s : Cursor} (h : s.Intact letter)
    {front tail : List Char} (hrest : s.rest = front ++ tail) (hfront : ∀ c ∈ front, c ≠ '\\') :
    (s.drop front.length).Intact letter := by
  unfold Intact at h ⊢
  rw [hrest] at h
  simpa [Cursor.drop, hrest] using h.drop hfront

/-- Passing characters keeps the rest intact if the last of them is no backslash. -/
theorem Cursor.Intact.drop_behind {letter c : Char} {s : Cursor} (h : s.Intact letter)
    {front tail : List Char} (hrest : s.rest = front ++ c :: tail) (hc : c ≠ '\\') :
    (s.drop (front.length + 1)).Intact letter := by
  unfold Intact at h ⊢
  rw [hrest] at h
  have htail : (s.drop (front.length + 1)).rest = tail := by
    simp [Cursor.drop, hrest, List.drop_append]
  rw [htail]
  exact h.of_append_cons hc

/-- Passing characters up to one that is no backslash keeps the rest intact. -/
theorem Cursor.Intact.drop_upto {letter c : Char} {s : Cursor} (h : s.Intact letter) {count : Nat}
    (hnext : s.rest[count]? = some c) (hc : c ≠ '\\') : (s.drop (count + 1)).Intact letter := by
  obtain ⟨hlt, hget⟩ := List.getElem?_eq_some_iff.mp hnext
  have hrest : s.rest = s.rest.take count ++ c :: s.rest.drop (count + 1) := by
    rw [← hget, ← List.drop_eq_getElem_cons hlt, List.take_append_drop]
  have hdrop := h.drop_behind hrest hc
  rwa [List.length_take_of_le hlt.le] at hdrop

/-- What blanks stand in front of: between blanks the rest is intact, and inside of a comment it is
what is left of an intact text. -/
def BlankState.Holds (letter : Char) (s : List Char) : BlankState → Prop
  | .between => Unbroken letter s
  | .line | .comment _ => ∃ front : List Char, Unbroken letter (front ++ s)

/-- Passing blanks keeps the rest intact: a comment ends with a character of its own. -/
theorem unbroken_passBlanks {letter : Char} {extended : Bool} {state : BlankState}
    {s rest : List Char} {p p' : Nat} (h : passBlanks extended state s p = .ok (rest, p'))
    (hs : state.Holds letter s) : Unbroken letter rest := by
  induction s generalizing state p with
  | nil =>
    cases state with
    | between =>
      obtain ⟨rfl, -⟩ := Prod.mk.inj (Except.ok.inj h)
      exact unbroken_nil
    | line =>
      obtain ⟨rfl, -⟩ := Prod.mk.inj (Except.ok.inj h)
      exact unbroken_nil
    | comment skip => simp [passBlanks] at h
  | cons c s ih =>
    have hgo {front : List Char} (hfront : Unbroken letter (front ++ c :: s)) :
        Unbroken letter ((front ++ [c]) ++ s) := by
      rwa [List.append_assoc]
    cases state with
    | between =>
      rw [passBlanks] at h
      split at h
      · next hblank =>
        refine ih h ((unbroken_cons ?_).mp hs)
        rintro rfl
        simp at hblank
      · split at h
        · exact ih h ⟨[c], hs⟩
        · split at h
          · exact ih h ⟨[c], hs⟩
          · obtain ⟨rfl, -⟩ := Prod.mk.inj (Except.ok.inj h)
            exact hs
    | line =>
      obtain ⟨front, hfront⟩ := hs
      rw [passBlanks] at h
      split at h
      · next hc =>
        exact ih h (hfront.of_append_cons (by simp [hc]))
      · exact ih h ⟨front ++ [c], hgo hfront⟩
    | comment skip =>
      obtain ⟨front, hfront⟩ := hs
      cases skip with
      | succ skip =>
        rw [passBlanks] at h
        exact ih h ⟨front ++ [c], hgo hfront⟩
      | zero =>
        rw [passBlanks] at h
        split at h
        · next hc => exact ih h (hfront.of_append_cons (by simp [hc]))
        · split at h
          · exact ih h ⟨front ++ [c], hgo hfront⟩
          · exact ih h ⟨front ++ [c], hgo hfront⟩

namespace Reader

/-- A reader that keeps the rest of a pattern intact and gives values with a property. -/
def Keeps {α : Type} (letter : Char) (x : Reader α) (Q : α → Prop) : Prop :=
  Ensures (Cursor.Intact letter) x fun a s => s.Intact letter ∧ Q a

section Steps

variable {α : Type} {letter : Char} {P : Cursor → Prop} {Q : α → Cursor → Prop}

/-- A failure at a position ensures everything. -/
theorem ensures_failAt (position : Nat) (fault : NotationFault) :
    Ensures P (failAt position fault) Q := .throw

/-- A failure ensures everything. -/
theorem ensures_fail (fault : NotationFault) : Ensures P (fail fault) Q :=
  .bind .get fun _ => .throw

/-- What follows a test that fails if a condition holds. -/
theorem ensures_unless {β : Type} {c : Prop} [Decidable c] {x : Reader β} {f : β → Reader α}
    {y : Reader α} (hx : Ensures P x fun _ _ => False) (hy : ¬ c → Ensures P y Q) :
    Ensures P (if c then x >>= f else y) Q :=
  .ite (fun _ => .bind hx fun _ _ h => h.elim) hy

/-- Looking at the cursor changes nothing. -/
theorem ensures_get : Ensures (ε := ExpressionFault) P get fun _ s => P s :=
  Ensures.get.imp (fun _ h => h) fun _ _ h => h.1

/-- Asking for the position changes nothing. -/
theorem ensures_position : Ensures P position fun _ s => P s :=
  .bind .get fun _ => .pure fun _ h => h.1

/-- Asking for the flags changes nothing. -/
theorem ensures_flags : Ensures P flags fun _ s => P s :=
  .bind .get fun _ => .pure fun _ h => h.1

/-- Looking at the next character tells what the text begins with. -/
theorem ensures_peek? : Ensures P peek? fun c s => P s ∧ s.rest.head? = c := by
  refine .bind .get fun _ => .pure ?_
  rintro s ⟨hs, rfl⟩
  exact ⟨hs, rfl⟩

/-- Looking for a text tells whether the rest begins with it. -/
theorem ensures_comesNext (front : List Char) :
    Ensures P (comesNext front) fun b s => P s ∧ (b = true → ∃ tail, s.rest = front ++ tail) := by
  refine .bind .get fun _ => .pure ?_
  rintro s ⟨hs, rfl⟩
  refine ⟨hs, fun h => ?_⟩
  obtain ⟨tail, htail⟩ := List.isPrefixOf_iff_prefix.mp h
  exact ⟨tail, htail.symm⟩

/-- Asking for the end of the text tells whether anything is left. -/
theorem ensures_atEnd : Ensures P atEnd fun b s => P s ∧ s.rest.isEmpty = b := by
  refine .bind .get fun _ => .pure ?_
  rintro s ⟨hs, rfl⟩
  exact ⟨hs, rfl⟩

/-- Passing characters ensures what holds behind them. -/
theorem ensures_skip {count : Nat} {Q : PUnit → Cursor → Prop}
    (h : ∀ s, P s → Q ⟨⟩ (s.drop count)) : Ensures P (skip count) Q :=
  .modify h

/-- Passing a character that was looked at. -/
theorem ensures_skip_head {c : Char} (hc : c ≠ '\\') :
    Ensures (fun s => s.Intact letter ∧ s.rest.head? = some c) (skip 1)
      fun _ s => s.Intact letter :=
  ensures_skip fun _ h => h.1.drop_head h.2 hc

/-- Reading on behind a character that was looked at. -/
theorem ensures_passHead {c : Char} (hc : c ≠ '\\') {f : PUnit → Reader α} {Q : α → Prop}
    (hf : ∀ u, Keeps letter (f u) Q) :
    Ensures (fun s => s.Intact letter ∧ s.rest.head? = some c) (skip 1 >>= f)
      fun a s => s.Intact letter ∧ Q a :=
  .bind (ensures_skip_head hc) hf

/-- Passing characters if they were found to come next, and reading on in either case. -/
theorem ensures_skipNext {front : List Char} {count : Nat} {b : Bool} {f : PUnit → Reader α}
    {y : Reader α} {Q : α → Prop} (hcount : count = front.length) (hfront : ∀ c ∈ front, c ≠ '\\')
    (hf : ∀ u, Keeps letter (f u) Q) (hy : Keeps letter y Q) :
    Ensures (fun s => s.Intact letter ∧ (b = true → ∃ tail, s.rest = front ++ tail))
      (if b = true then skip count >>= f else y) fun a s => s.Intact letter ∧ Q a := by
  subst hcount
  refine .ite (fun hb => .bind (ensures_skip fun s h => ?_) hf) fun _ => ?_
  · obtain ⟨tail, htail⟩ := h.2 hb
    exact h.1.drop_plain htail hfront
  · exact hy.imp (fun _ h => h.1) fun _ _ h => h

/-- Passing characters if they come next, and reading on in either case. -/
theorem keeps_whenNext {front : List Char} {count : Nat} {f : PUnit → Reader α} {y : Reader α}
    {Q : α → Prop} (hcount : count = front.length) (hfront : ∀ c ∈ front, c ≠ '\\')
    (hf : ∀ u, Keeps letter (f u) Q) (hy : Keeps letter y Q) :
    Keeps letter (comesNext front >>= fun b => if b = true then skip count >>= f else y) Q :=
  .bind (ensures_comesNext front) fun _ => ensures_skipNext hcount hfront hf hy

/-- Blanks and comments pass whole escapes. -/
theorem keeps_blanks : Keeps letter blanks fun _ => True := by
  refine .bind .get fun s => ?_
  cases hpass : passBlanks s.flags.extended .between s.rest s.position with
  | error position => exact ensures_failAt _ _
  | ok result =>
    refine .set fun s' h => ⟨?_, trivial⟩
    obtain ⟨hs, rfl⟩ := h
    exact unbroken_passBlanks hpass hs

/-- A run of characters without the backslash has none. -/
theorem ne_backslash_of_mem_takeWhile {p : Char → Bool} (hp : p '\\' = false) {s : List Char} :
    ∀ c ∈ s.takeWhile p, c ≠ '\\' := by
  rintro c hc rfl
  have hmem := List.mem_takeWhile_imp hc
  rw [hp] at hmem
  contradiction

/-- A run that ends before the text does is followed by a character of another kind. -/
theorem exists_behind_takeWhile {p : Char → Bool} {s : List Char}
    (h : (s.takeWhile p).length ≠ s.length) :
    ∃ c, s[(s.takeWhile p).length]? = some c ∧ p c = false := by
  induction s with
  | nil => exact absurd rfl h
  | cons c s ih =>
    cases hc : p c with
    | false => exact ⟨c, by simp [hc], hc⟩
    | true =>
      simp only [List.takeWhile_cons, hc, if_true, List.length_cons, ne_eq,
        Nat.add_right_cancel_iff] at h
      obtain ⟨d, hd, hpd⟩ := ih h
      exact ⟨d, by simp [hc, hd], hpd⟩

/-- A number passes no backslash. -/
theorem keeps_decimal? : Keeps letter decimal? fun _ => True := by
  refine .bind .get fun s => .ite (fun _ => .pure fun _ h => ⟨h.1, trivial⟩) fun _ => ?_
  refine .bind (Q := fun _ s => s.Intact letter) (ensures_skip ?_) fun _ =>
    .pure fun _ h => ⟨h, trivial⟩
  rintro s' ⟨hs, rfl⟩
  exact hs.drop_plain List.takeWhile_append_dropWhile.symm (ne_backslash_of_mem_takeWhile rfl)

/-- A name between delimiters ends with the closing one. -/
theorem keeps_name? (opening : List Char) {closing : Char} (hclosing : closing ≠ '\\')
    (relative : Bool) : Keeps letter (name? opening [closing] relative) fun _ => True := by
  refine .bind .get fun s => .ite (fun _ => .pure fun _ h => ⟨h.1, trivial⟩) fun hopening => ?_
  dsimp only
  refine .ite (fun _ => .pure fun _ h => ⟨h.1, trivial⟩) fun hname => ?_
  refine .bind (Q := fun _ s => s.Intact letter) (ensures_skip ?_) fun _ =>
    .pure fun _ h => ⟨h, trivial⟩
  rintro s' ⟨hs, rfl⟩
  simp only [Bool.or_eq_true, not_or, Bool.not_eq_true', Bool.not_eq_false] at hname
  obtain ⟨tail, htail⟩ := List.isPrefixOf_iff_prefix.mp hname.2
  refine hs.drop_upto (c := closing) ?_ hclosing
  have hhead := congrArg List.head? htail.symm
  rwa [List.drop_drop, List.head?_drop] at hhead

end Steps

end Reader

end GrammarScan
