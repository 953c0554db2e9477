import GrammarScan.Proofs.Text.Columns

/-!
# Units that form a text

Whether units of UTF-16 form a text can be seen at each of them: a first half has to stand in front
of a second half, and a second half behind a first. Reading tells no more and no less. It gives the
text that is written by the units, or the index of the first unit that has no partner, though it
counts the widths of the characters it has read and not the units.

All of this rests on one way to take units apart. They are the units of some text, and what follows
is nothing or begins with a surrogate that has no partner; whether a unit behind the text has one
does not depend on the text.
-/

namespace GrammarScan

/-! ## Partners -/

/-- Whether a unit of some kind stands at an index. -/
def StandsAt (kind : UInt16 → Bool) (units : List UInt16) (index : Nat) : Prop :=
  ∃ u, units[index]? = some u ∧ kind u = true

/-- A surrogate without its partner: a first half that is not followed by a second half, or a second
half that does not follow a first half. -/
def IsUnpaired (units : List UInt16) (index : Nat) : Prop :=
  (StandsAt isHighSurrogate units index ∧ ¬ StandsAt isLowSurrogate units (index + 1)) ∨
    (StandsAt isLowSurrogate units index ∧
      ∀ before, index = before + 1 → ¬ StandsAt isHighSurrogate units before)

/-- Units each of which has the partner that it needs. -/
def WellFormed16 (units : List UInt16) : Prop := ∀ index, ¬ IsUnpaired units index

section Partners

variable {kind : UInt16 → Bool} {u v : UInt16} {units rest : List UInt16} {index : Nat}

@[simp] theorem not_standsAt_nil : ¬ StandsAt kind [] index := by
  simp [StandsAt]

@[simp] theorem standsAt_cons_zero : StandsAt kind (u :: rest) 0 ↔ kind u = true := by
  simp [StandsAt]

@[simp] theorem standsAt_cons_succ :
    StandsAt kind (u :: rest) (index + 1) ↔ StandsAt kind rest index := by
  simp [StandsAt]

/-- No unit is both halves of a pair. -/
theorem isLowSurrogate_of_isHighSurrogate (h : isHighSurrogate u = true) :
    isLowSurrogate u = false := by
  simp only [isHighSurrogate, Bool.and_eq_true, decide_eq_true_eq] at h
  simp only [isLowSurrogate, Bool.and_eq_false_iff, decide_eq_false_iff_not]
  omega

@[simp] theorem not_isUnpaired_nil : ¬ IsUnpaired [] index := by
  simp [IsUnpaired]

/-- At the front a second half has no partner, and a first half none but the next unit. -/
theorem isUnpaired_cons_zero : IsUnpaired (u :: rest) 0 ↔
    isLowSurrogate u = true ∨ isHighSurrogate u = true ∧ ¬ StandsAt isLowSurrogate rest 0 := by
  simp [IsUnpaired, or_comm]

/-- Behind a unit that is no first half all is paired as if it stood alone. -/
theorem isUnpaired_cons_succ (hu : isHighSurrogate u = false) :
    IsUnpaired (u :: rest) (index + 1) ↔ IsUnpaired rest index := by
  cases index <;> simp [IsUnpaired, hu]

/-- The two halves of a pair are partners, and behind them all is paired as if it stood alone. -/
theorem isUnpaired_pair (hu : isHighSurrogate u = true) (hv : isLowSurrogate v = true) :
    IsUnpaired (u :: v :: rest) index ↔ ∃ later, index = later + 2 ∧ IsUnpaired rest later := by
  have hu' : isLowSurrogate u = false := isLowSurrogate_of_isHighSurrogate hu
  have hv' : isHighSurrogate v = false := by
    rw [← Bool.not_eq_true]
    intro hhigh
    simp [isLowSurrogate_of_isHighSurrogate hhigh] at hv
  match index with
  | 0 => simp [isUnpaired_cons_zero, hu', hv]
  | 1 => simp [IsUnpaired, hu, hv']
  | index + 2 =>
    have hshift : IsUnpaired (u :: v :: rest) (index + 2) ↔ IsUnpaired (v :: rest) (index + 1) := by
      simp [IsUnpaired]
    simp [hshift, isUnpaired_cons_succ hv']

end Partners

/-! ## Units of a text -/

theorem encode16_append (s t : List Char) : encode16 (s ++ t) = encode16 s ++ encode16 t :=
  List.flatMap_append

theorem encode16_cons (c : Char) (s : List Char) : encode16 (c :: s) = units16 c ++ encode16 s :=
  List.flatMap_cons

/-- A text has as many units as it is long in UTF-16. -/
theorem length_encode16 (s : List Char) : (encode16 s).length = unitLength .utf16 s := by
  induction s with
  | nil => rfl
  | cons c s ih => rw [encode16_cons, List.length_append, length_units16, ih, unitLength]

/-- A unit that is no surrogate writes the character of its number. -/
theorem units16_ofNat {u : UInt16} (hlow : isLowSurrogate u = false)
    (hhigh : isHighSurrogate u = false) : units16 (Char.ofNat u.toNat) = [u] := by
  have hsize : u.toNat < 0x10000 := u.toNat_lt_size
  simp only [isLowSurrogate, isHighSurrogate, Bool.and_eq_false_iff, decide_eq_false_iff_not]
    at hlow hhigh
  have hnumber : (Char.ofNat u.toNat).toNat = u.toNat := by
    rw [Char.toNat_ofNat, if_pos]
    unfold Nat.isValidChar
    omega
  rw [units16, hnumber, if_pos hsize]
  simp

/-- Two halves write the character of the pair. -/
theorem units16_ofSurrogates {u v : UInt16} (hu : isHighSurrogate u = true)
    (hv : isLowSurrogate v = true) : units16 (ofSurrogates u v) = [u, v] := by
  simp only [isLowSurrogate, isHighSurrogate, Bool.and_eq_true, decide_eq_true_eq] at hu hv
  have hnumber : (ofSurrogates u v).toNat =
      0x10000 + (u.toNat - 0xD800) * 0x400 + (v.toNat - 0xDC00) := by
    rw [ofSurrogates, Char.toNat_ofNat, if_pos]
    unfold Nat.isValidChar
    omega
  have hhigh : 0xD800 + ((ofSurrogates u v).toNat - 0x10000) / 0x400 = u.toNat := by omega
  have hlow : 0xDC00 + ((ofSurrogates u v).toNat - 0x10000) % 0x400 = v.toNat := by omega
  rw [units16, if_neg (by omega)]
  simp only [hhigh, hlow]
  simp

/-- A character is written by a unit that is no surrogate, or by the two halves of a pair. -/
theorem units16_eq (c : Char) :
    (∃ u, units16 c = [u] ∧ isLowSurrogate u = false ∧ isHighSurrogate u = false ∧
      Char.ofNat u.toNat = c) ∨
    ∃ u v, units16 c = [u, v] ∧ isHighSurrogate u = true ∧ isLowSurrogate v = true ∧
      ofSurrogates u v = c := by
  have hvalid : c.toNat.isValidChar := c.valid
  unfold Nat.isValidChar at hvalid
  by_cases hbasic : c.toNat < 0x10000
  · have htoNat : c.toNat.toUInt16.toNat = c.toNat := UInt16.toNat_ofNat_of_lt' hbasic
    refine .inl ⟨c.toNat.toUInt16, if_pos hbasic, ?_, ?_, by rw [htoNat, Char.ofNat_toNat]⟩
    · simp only [isLowSurrogate, htoNat, Bool.and_eq_false_iff, decide_eq_false_iff_not]
      omega
    · simp only [isHighSurrogate, htoNat, Bool.and_eq_false_iff, decide_eq_false_iff_not]
      omega
  · have hsize : UInt16.size = 0x10000 := rfl
    have hhigh : (0xD800 + (c.toNat - 0x10000) / 0x400).toUInt16.toNat =
        0xD800 + (c.toNat - 0x10000) / 0x400 := UInt16.toNat_ofNat_of_lt' (by omega)
    have hlow : (0xDC00 + (c.toNat - 0x10000) % 0x400).toUInt16.toNat =
        0xDC00 + (c.toNat - 0x10000) % 0x400 := UInt16.toNat_ofNat_of_lt' (by omega)
    refine .inr ⟨_, _, if_neg hbasic, ?_, ?_, ?_⟩
    · simp only [isHighSurrogate, hhigh, Bool.and_eq_true, decide_eq_true_eq]
      omega
    · simp only [isLowSurrogate, hlow, Bool.and_eq_true, decide_eq_true_eq]
      omega
    · have hnumber : 0x10000 + (0xD800 + (c.toNat - 0x10000) / 0x400 - 0xD800) * 0x400 +
          (0xDC00 + (c.toNat - 0x10000) % 0x400 - 0xDC00) = c.toNat := by omega
      rw [ofSurrogates, hhigh, hlow, hnumber, Char.ofNat_toNat]

/-- Behind the units of a character all is paired as if it stood alone. -/
theorem isUnpaired_units16_append (c : Char) {rest : List UInt16} {index : Nat} :
    IsUnpaired (units16 c ++ rest) index ↔
      ∃ later, index = (units16 c).length + later ∧ IsUnpaired rest later := by
  rcases units16_eq c with ⟨u, hunits, hlow, hhigh, -⟩ | ⟨u, v, hunits, hhigh, hlow, -⟩
  · rw [hunits, List.singleton_append, List.length_singleton]
    cases index with
    | zero =>
      simp only [isUnpaired_cons_zero, hlow, hhigh, Bool.false_eq_true, false_and, or_self,
        false_iff, not_exists, not_and]
      intro later h
      omega
    | succ index => simp [isUnpaired_cons_succ hhigh, Nat.add_comm 1]
  · rw [hunits, List.cons_append, List.singleton_append, isUnpaired_pair hhigh hlow]
    simp only [List.length_cons, List.length_nil, Nat.add_comm _ 2]

/-- Behind the units of a text all is paired as if it stood alone. -/
theorem isUnpaired_encode16_append (s : List Char) {rest : List UInt16} {index : Nat} :
    IsUnpaired (encode16 s ++ rest) index ↔
      ∃ later, index = (encode16 s).length + later ∧ IsUnpaired rest later := by
  induction s generalizing index with
  | nil => simp [encode16]
  | cons c s ih =>
    simp only [encode16_cons, List.append_assoc, isUnpaired_units16_append, ih,
      List.length_append]
    constructor
    · rintro ⟨_, rfl, later, rfl, h⟩
      exact ⟨later, (Nat.add_assoc _ _ _).symm, h⟩
    · rintro ⟨later, rfl, h⟩
      exact ⟨_, Nat.add_assoc _ _ _, later, rfl, h⟩

/-- The units of a text are well formed. -/
theorem wellFormed16_encode16 (s : List Char) : WellFormed16 (encode16 s) := by
  intro index h
  rw [← List.append_nil (encode16 s), isUnpaired_encode16_append] at h
  obtain ⟨later, -, hlater⟩ := h
  exact not_isUnpaired_nil hlater

/-- Units begin with those of a character, or with a surrogate that has no partner. -/
theorem exists_units16_append (u : UInt16) (rest : List UInt16) :
    (∃ c later, u :: rest = units16 c ++ later) ∨ IsUnpaired (u :: rest) 0 := by
  rw [isUnpaired_cons_zero]
  cases hlow : isLowSurrogate u with
  | true => exact .inr (.inl rfl)
  | false =>
    cases hhigh : isHighSurrogate u with
    | false => exact .inl ⟨_, rest, by rw [units16_ofNat hlow hhigh, List.singleton_append]⟩
    | true =>
      match rest with
      | [] => exact .inr (.inr ⟨rfl, not_standsAt_nil⟩)
      | v :: later =>
        cases hpartner : isLowSurrogate v with
        | false => exact .inr (.inr ⟨rfl, by simp [hpartner]⟩)
        | true => exact .inl ⟨_, later, by rw [units16_ofSurrogates hhigh hpartner]; rfl⟩

/-- Units are those of a text, behind which there is nothing or a surrogate without its partner. -/
theorem exists_encode16_append (units : List UInt16) :
    ∃ s rest, units = encode16 s ++ rest ∧ (rest = [] ∨ IsUnpaired rest 0) := by
  induction hlength : units.length using Nat.strongRecOn generalizing units with
  | ind n ih =>
    subst hlength
    match units with
    | [] => exact ⟨[], [], rfl, .inl rfl⟩
    | u :: rest =>
      rcases exists_units16_append u rest with ⟨c, later, hunits⟩ | hunpaired
      · have hlt : later.length < (u :: rest).length := by
          rw [hunits, List.length_append, length_units16]
          exact Nat.lt_add_of_pos_left (CodeUnit.width_pos .utf16 c)
        obtain ⟨s, last, rfl, hlast⟩ := ih _ hlt later rfl
        exact ⟨c :: s, last, by rw [hunits, encode16_cons, List.append_assoc], hlast⟩
      · exact ⟨[], u :: rest, rfl, .inr hunpaired⟩

/-! ## Reading units -/

/-- The units of a character are read as it. -/
theorem readUnits16_units16_append (c : Char) (rest : List UInt16) :
    readUnits16 (units16 c ++ rest) = .ok c :: readUnits16 rest := by
  rcases units16_eq c with ⟨u, hunits, hlow, hhigh, hc⟩ | ⟨u, v, hunits, hhigh, hlow, hc⟩
  · rw [hunits, List.singleton_append]
    cases rest <;> simp [readUnits16, hlow, hhigh, hc]
  · have hfirst : isLowSurrogate u = false := isLowSurrogate_of_isHighSurrogate hhigh
    simp [hunits, readUnits16, hlow, hhigh, hfirst, hc]

/-- The units of a text are gathered as it, and what follows from the offset where they end. -/
theorem gather16_encode16_append (position : Nat) (s : List Char) (rest : List UInt16) :
    gather16 position (readUnits16 (encode16 s ++ rest)) =
      (gather16 (position + (encode16 s).length) (readUnits16 rest)).map (s ++ ·) := by
  induction s generalizing position with
  | nil =>
    change gather16 position (readUnits16 rest) = (gather16 position (readUnits16 rest)).map id
    cases gather16 position (readUnits16 rest) <;> rfl
  | cons c s ih =>
    rw [encode16_cons, List.append_assoc, readUnits16_units16_append, gather16, ih,
      List.length_append, length_units16, Nat.add_assoc]
    cases gather16 _ (readUnits16 rest) <;> rfl

/-- A surrogate without its partner ends the reading. -/
theorem gather16_of_isUnpaired {rest : List UInt16} (h : IsUnpaired rest 0) (position : Nat) :
    gather16 position (readUnits16 rest) = .error (.unpairedSurrogate position) := by
  match rest with
  | [] => exact absurd h not_isUnpaired_nil
  | u :: later =>
    rcases isUnpaired_cons_zero.mp h with hlow | ⟨hhigh, hpartner⟩
    · cases later <;> simp [readUnits16, hlow, gather16]
    · have hfirst : isLowSurrogate u = false := isLowSurrogate_of_isHighSurrogate hhigh
      cases later with
      | nil => simp [readUnits16, hfirst, hhigh, gather16]
      | cons v later =>
        rw [standsAt_cons_zero] at hpartner
        simp [readUnits16, hfirst, hhigh, hpartner, gather16]

/-- The units of a text are read as it. -/
theorem decode16_encode16 (s : List Char) : decode16 (encode16 s) = .ok s := by
  have h := gather16_encode16_append 0 s []
  simpa [decode16, readUnits16, gather16, Except.map] using h

/-- Reading ends behind the units of a text if no partner follows there. -/
theorem decode16_encode16_append (s : List Char) {rest : List UInt16} (h : IsUnpaired rest 0) :
    decode16 (encode16 s ++ rest) = .error (.unpairedSurrogate (encode16 s).length) := by
  rw [decode16, gather16_encode16_append, gather16_of_isUnpaired h, Nat.zero_add]
  rfl

/-! ## Buffers made from units -/

/-- The first surrogate without its partner: the units before it are well formed, and it is a second
half, or a first half that no second half follows. -/
structure FirstUnpaired (units : List UInt16) (position : Nat) : Prop where
  unpaired : IsUnpaired units position
  first : ∀ index < position, ¬ IsUnpaired units index
  wellFormed_take : WellFormed16 (units.take position)
  surrogate : StandsAt isLowSurrogate units position ∨
    StandsAt isHighSurrogate units position ∧ ¬ StandsAt isLowSurrogate units (position + 1)

/-- There is only one first surrogate without its partner. -/
theorem FirstUnpaired.unique {units : List UInt16} {position other : Nat}
    (h : FirstUnpaired units position) (h' : FirstUnpaired units other) : position = other :=
  Nat.le_antisymm (Nat.not_lt.mp fun hlt => h.first other hlt h'.unpaired)
    (Nat.not_lt.mp fun hlt => h'.first position hlt h.unpaired)

/-- A surrogate without its partner that stands behind the units of a text is the first. -/
theorem firstUnpaired_encode16_append (s : List Char) {rest : List UInt16}
    (h : IsUnpaired rest 0) : FirstUnpaired (encode16 s ++ rest) (encode16 s).length where
  unpaired := (isUnpaired_encode16_append s).mpr ⟨0, rfl, h⟩
  first index hlt hunpaired := by
    obtain ⟨later, rfl, -⟩ := (isUnpaired_encode16_append s).mp hunpaired
    omega
  wellFormed_take := by
    rw [List.take_left]
    exact wellFormed16_encode16 s
  surrogate := by
    have hunpaired := (isUnpaired_encode16_append s).mpr ⟨0, rfl, h⟩
    exact hunpaired.elim .inr fun hlow => .inl hlow.1

/-- A buffer whose text is written by some units: its columns are their indices, and only on the
second half of a pair a column has no byte offset. -/
structure Buffer.HoldsUnits (b : Buffer) (units : List UInt16) : Prop where
  encode16_text : encode16 b.text = units
  unitLength_eq : b.unitLength = units.length
  byte_eq_none_iff : ∀ column ≤ units.length,
    b.tryByteOffset column = none ↔ StandsAt isLowSurrogate units column

/-- The buffer of a text holds the units of the text. -/
theorem Buffer.holdsUnits_ofText (id : BufferId) (s : List Char) :
    (Buffer.ofText id s .utf16).HoldsUnits (encode16 s) where
  encode16_text := rfl
  unitLength_eq := (length_encode16 s).symm
  byte_eq_none_iff column hcolumn := by
    rw [length_encode16] at hcolumn
    change (OffsetMap.ofText .utf16 s).byteAt? column = none ↔ _
    rw [byteAt?_eq_none_iff, or_iff_right (Nat.not_lt.mpr hcolumn)]
    exact and_iff_right rfl

/-- Units are taken just if they are well formed, and then the buffer holds them. Otherwise the
first surrogate without its partner is reported. The units of every text are taken, and give it
back. -/
theorem ofUnits16_exact (id : BufferId) (units : List UInt16) :
    ((∃ b, Buffer.ofUnits16 id units = .ok b) ↔ WellFormed16 units) ∧
      (∀ b, Buffer.ofUnits16 id units = .ok b → b.HoldsUnits units) ∧
      (∀ position, Buffer.ofUnits16 id units = .error (.unpairedSurrogate position) ↔
        FirstUnpaired units position) ∧
      ∀ s, Buffer.ofUnits16 id (encode16 s) = .ok (.ofText id s .utf16) := by
  have hencode (s : List Char) : Buffer.ofUnits16 id (encode16 s) = .ok (.ofText id s .utf16) := by
    rw [Buffer.ofUnits16, decode16_encode16]
    rfl
  obtain ⟨s, rest, rfl, rfl | hunpaired⟩ := exists_encode16_append units
  · -- The units are those of a text.
    have hwell := wellFormed16_encode16 s
    rw [List.append_nil, hencode]
    refine ⟨⟨fun _ => hwell, fun _ => ⟨_, rfl⟩⟩, fun b hb => ?_, fun position => ?_, hencode⟩
    · obtain rfl := Except.ok.inj hb
      exact Buffer.holdsUnits_ofText id s
    · exact ⟨fun h => by simp at h, fun h => absurd h.unpaired (hwell position)⟩
  · -- Behind the units of a text a surrogate lacks its partner.
    have hfirst := firstUnpaired_encode16_append s hunpaired
    rw [Buffer.ofUnits16, decode16_encode16_append s hunpaired]
    refine ⟨⟨fun ⟨b, hb⟩ => ?_, fun h => ?_⟩, fun b hb => ?_, fun position => ?_, hencode⟩
    · simp [Except.map] at hb
    · exact absurd hfirst.unpaired (h _)
    · simp [Except.map] at hb
    · constructor
      · intro h
        simp only [Except.map, Except.error.injEq, TextError.unpairedSurrogate.injEq] at h
        exact h ▸ hfirst
      · intro h
        rw [hfirst.unique h]
        rfl

/-- A pair that is taken, and one that is cut by a letter. -/
theorem ofUnits16_exact_pair :
    (∃ b, Buffer.ofUnits16 ⟨0⟩ [0x61, 0xD83D, 0xDE00] = .ok b ∧
        b.HoldsUnits [0x61, 0xD83D, 0xDE00] ∧ b.tryByteOffset 2 = none) ∧
      FirstUnpaired [0x61, 0xD83D, 0x62] 1 := by
  obtain ⟨-, hholds, -, hencode⟩ := ofUnits16_exact ⟨0⟩ [0x61, 0xD83D, 0xDE00]
  have htaken : Buffer.ofUnits16 ⟨0⟩ [0x61, 0xD83D, 0xDE00] =
      .ok (.ofText ⟨0⟩ "a😀".toList .utf16) := hencode "a😀".toList
  have hunits := hholds _ htaken
  refine ⟨⟨_, htaken, hunits, ?_⟩, ?_⟩
  · exact (hunits.byte_eq_none_iff 2 (by decide)).mpr ⟨0xDE00, rfl, rfl⟩
  · exact ((ofUnits16_exact ⟨0⟩ [0x61, 0xD83D, 0x62]).2.2.1 1).mp rfl

end GrammarScan
