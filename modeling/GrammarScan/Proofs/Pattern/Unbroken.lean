import GrammarScan.Pattern.Anchor

/-!
# Readings that agree on escapes

A pattern is searched for an escape by reading backslashes in pairs with what follows them. Another
reader agrees on the escapes as long as it passes pairs as a whole, and behind any other character
it agrees again, whatever it did before. Only the letter of a property can make it part a pair: it
takes in the next character, even a backslash.
-/

namespace GrammarScan.Pattern

/-- Whether the escape of a property takes in a backslash. -/
def cutsEscape : List Char → Bool
  | '\\' :: c :: s => ((c = 'p' || c = 'P') && s.head? = some '\\') || cutsEscape s
  | _ :: s => cutsEscape s
  | [] => false

/-- Whether the start of the match is moved. -/
def movesStart (s : List Char) : Bool := hasEscape (· = 'K') s

/-- A pattern that does not escape a letter, nor cut an escape. -/
structure Unbroken (letter : Char) (s : List Char) : Prop where
  escape : hasEscape (· = letter) s = false
  cut : cutsEscape s = false

variable {letter c : Char} {s : List Char}

@[simp] theorem unbroken_nil : Unbroken letter [] := ⟨rfl, rfl⟩

theorem unbroken_cons (hc : c ≠ '\\') : Unbroken letter (c :: s) ↔ Unbroken letter s := by
  have hescape : hasEscape (· = letter) (c :: s) = hasEscape (· = letter) s := by
    rw [hasEscape]
    exact fun _ _ h => absurd h hc
  have hcut : cutsEscape (c :: s) = cutsEscape s := by
    rw [cutsEscape]
    exact fun _ _ h => absurd h hc
  exact ⟨fun h => ⟨hescape ▸ h.escape, hcut ▸ h.cut⟩, fun h => ⟨hescape ▸ h.escape, hcut ▸ h.cut⟩⟩

theorem unbroken_escape : Unbroken letter ('\\' :: c :: s) ↔
    c ≠ letter ∧ (c = 'p' ∨ c = 'P' → s.head? ≠ some '\\') ∧ Unbroken letter s := by
  constructor
  · rintro ⟨hescape, hcut⟩
    simp only [hasEscape, Bool.or_eq_false_iff, decide_eq_false_iff_not] at hescape
    simp only [cutsEscape, Bool.or_eq_false_iff, Bool.and_eq_false_iff, decide_eq_false_iff_not]
      at hcut
    refine ⟨hescape.1, fun hp => ?_, hescape.2, hcut.2⟩
    rcases hcut.1 with ⟨hlower, hupper⟩ | hhead
    · exact absurd hp (by simp [hlower, hupper])
    · exact hhead
  · rintro ⟨hletter, hproperty, hescape, hcut⟩
    refine ⟨by simp [hasEscape, hletter, hescape], ?_⟩
    simp only [cutsEscape, hcut, Bool.or_false, Bool.and_eq_false_iff, Bool.or_eq_false_iff,
      decide_eq_false_iff_not]
    by_cases hp : c = 'p' ∨ c = 'P'
    · exact .inr (hproperty hp)
    · exact .inl (not_or.mp hp)

/-- Behind a character that is no backslash readings agree, however they came there. -/
theorem Unbroken.of_append_cons {front : List Char} (hc : c ≠ '\\')
    (h : Unbroken letter (front ++ c :: s)) : Unbroken letter s := by
  induction hlength : front.length using Nat.strongRecOn generalizing front with
  | ind n ih =>
    subst hlength
    match front with
    | [] => exact (unbroken_cons hc).mp h
    | [d] =>
      by_cases hd : d = '\\'
      · subst hd
        exact (unbroken_escape.mp h).2.2
      · exact (unbroken_cons hc).mp ((unbroken_cons hd).mp h)
    | d :: e :: front =>
      by_cases hd : d = '\\'
      · subst hd
        have hlt : front.length < ('\\' :: e :: front).length := by
          simp only [List.length_cons]
          omega
        exact ih front.length hlt (unbroken_escape.mp h).2.2 rfl
      · exact ih (e :: front).length (by simp) ((unbroken_cons hd).mp h) rfl

/-- Readings agree behind characters none of which is a backslash. -/
theorem Unbroken.drop {front : List Char} (h : Unbroken letter (front ++ s))
    (hfront : ∀ c ∈ front, c ≠ '\\') : Unbroken letter s := by
  induction front with
  | nil => exact h
  | cons c front ih =>
    obtain ⟨hc, hfront⟩ := List.forall_mem_cons.mp hfront
    exact ih ((unbroken_cons hc).mp h) hfront

end GrammarScan.Pattern
