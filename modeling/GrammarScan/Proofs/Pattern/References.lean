import GrammarScan.Pattern.Splice
import GrammarScan.Proofs.Ensures
import GrammarScan.Proofs.Pattern.Substitution
import GrammarScan.Proofs.Text.Offsets

/-!
# What references come to

Every reference comes to a text or to a fault, and what that is depends on nothing but its digits,
the captures and the line. The number of the digits may be too great for an index; else the entry of
that number may be missing, may lie on the line as a slice, or may not. A pattern comes to the texts
of its pieces one behind another, unless one of them is a fault: then it comes to the first.

The same is made by going through the escapes that a search finds, and by cutting what stands
between the references out of the pattern. Every range that is cut out in that way is a slice.
-/

namespace GrammarScan.Pattern

/-! ## A single reference -/

/-- The number that a run of decimal digits writes. -/
def decimalValue (digits : List Char) : Nat :=
  Nat.ofDigits 10 (digits.reverse.map fun d => d.toNat - '0'.toNat)

theorem digitsValue_eq (digits : List Char) : digitsValue digits = decimalValue digits := by
  rw [decimalValue, Nat.ofDigits_eq_foldr, List.foldr_map, List.foldr_reverse, digitsValue]
  congr 1
  funext value d
  simp only [Nat.cast_id]
  omega

/-- What a reference with some digits comes to. -/
inductive ReferenceComesTo (line : List Char) (captures : Captures) (digits : List Char) :
    Except ReferenceError (List Char) → Prop
  /-- The number is no index. -/
  | overflow (h : 2 ^ 64 ≤ decimalValue digits) :
    ReferenceComesTo line captures digits (.error (.indexOverflow digits))
  /-- There is no entry of this number, or it took no part. -/
  | absent (h : decimalValue digits < 2 ^ 64)
    (hentry : ∀ range, captures.groups[decimalValue digits]? ≠ some (some range)) :
    ReferenceComesTo line captures digits (.ok [])
  /-- The range of the entry runs backwards, or an end of it is no boundary of the line. -/
  | invalid (h : decimalValue digits < 2 ^ 64) (range : Span)
    (hentry : captures.groups[decimalValue digits]? = some (some range))
    (hrange : range.stop < range.start ∨ isBoundary line range.start = false ∨
      isBoundary line range.stop = false) :
    ReferenceComesTo line captures digits
      (.error (.invalidRange (decimalValue digits) range (byteLength line)))
  /-- The entry lies on the line as the range of a text. -/
  | text (h : decimalValue digits < 2 ^ 64) (front middle back : List Char)
    (hentry : captures.groups[decimalValue digits]? =
      some (some ⟨byteLength front, byteLength (front ++ middle)⟩))
    (hline : line = front ++ middle ++ back) :
    ReferenceComesTo line captures digits (.ok (escape middle))

/-- A range is no slice just if it runs backwards or has an end that is no boundary. -/
theorem slice?_eq_none_iff {s : List Char} {range : Span} : slice? s range = none ↔
    range.stop < range.start ∨ isBoundary s range.start = false ∨
      isBoundary s range.stop = false := by
  constructor
  · intro h
    by_contra hnot
    simp only [not_or, Nat.not_lt, Bool.not_eq_false] at hnot
    simpa [h] using isSome_slice? hnot.1 hnot.2.1 hnot.2.2
  · intro h
    cases hslice : slice? s range with
    | none => rfl
    | some text =>
      obtain ⟨front, back, rfl, hstart, hstop⟩ := slice?_eq_some_iff.mp hslice
      have hfirst : isBoundary (front ++ text ++ back) range.start = true :=
        isBoundary_iff.mpr ⟨front, text ++ back, List.append_assoc _ _ _, hstart⟩
      have hlast : isBoundary (front ++ text ++ back) range.stop = true :=
        isBoundary_iff.mpr ⟨front ++ text, back, rfl, hstop⟩
      rw [byteLength_append] at hstop
      simp only [hfirst, hlast, Bool.true_eq_false, or_false] at h
      omega

section

variable {line : List Char} {captures : Captures} {digits : List Char}
  {outcome : Except ReferenceError (List Char)}

/-- What a reference comes to is what is put in its place. -/
theorem referenceComesTo_iff :
    ReferenceComesTo line captures digits outcome ↔ captured line captures digits = outcome := by
  have hword : wordSize ≤ decimalValue digits ↔ 2 ^ 64 ≤ decimalValue digits := Iff.rfl
  constructor
  · intro h
    cases h with
    | overflow h => simp only [captured, digitsValue_eq, hword, h, if_true]
    | absent h hentry =>
      have hget : captures.get? (decimalValue digits) = none :=
        Option.eq_none_iff_forall_ne_some.mpr fun range hrange =>
          hentry range (Captures.get?_eq_some_iff.mp hrange)
      simp only [captured, digitsValue_eq, hword, Nat.not_le.mpr h, if_false, hget]
    | invalid h range hentry hrange =>
      simp only [captured, digitsValue_eq, hword, Nat.not_le.mpr h, if_false,
        Captures.get?_eq_some_iff.mpr hentry, slice?_eq_none_iff.mpr hrange]
    | text h front middle back hentry hline =>
      have hslice : slice? line ⟨byteLength front, byteLength (front ++ middle)⟩ = some middle :=
        slice?_eq_some_iff.mpr ⟨front, back, hline, rfl, rfl⟩
      simp only [captured, digitsValue_eq, hword, Nat.not_le.mpr h, if_false,
        Captures.get?_eq_some_iff.mpr hentry, hslice]
  · rintro rfl
    rcases Nat.lt_or_ge (decimalValue digits) (2 ^ 64) with h | h
    · simp only [captured, digitsValue_eq, hword, Nat.not_le.mpr h, if_false]
      cases hget : captures.get? (decimalValue digits) with
      | none =>
        exact .absent h fun range hentry =>
          absurd (hget.symm.trans (Captures.get?_eq_some_iff.mpr hentry)) (by simp)
      | some range =>
        have hentry := Captures.get?_eq_some_iff.mp hget
        cases hslice : slice? line range with
        | none => simpa only [hslice] using .invalid h range hentry (slice?_eq_none_iff.mp hslice)
        | some middle =>
          obtain ⟨front, back, hline, hstart, hstop⟩ := slice?_eq_some_iff.mp hslice
          simpa only [hslice] using
            .text h front middle back (by rw [hstart, hstop]; exact hentry) hline
    · simp only [captured, digitsValue_eq, hword, h, if_true]
      exact .overflow h

end

/-! ## A whole pattern -/

section

variable (line : List Char) (captures : Captures)

/-- What is put in the place of a piece: all that is no reference stays as it is. -/
def Piece.contribution : Piece → Except ReferenceError (List Char)
  | .reference digits => captured line captures digits
  | p => .ok p.text

/-- What a piece of a pattern comes to. -/
def Piece.ComesTo (p : Piece) (outcome : Except ReferenceError (List Char)) : Prop :=
  match p with
  | .reference digits => ReferenceComesTo line captures digits outcome
  | p => outcome = .ok p.text

variable {line captures}

theorem Piece.comesTo_iff {p : Piece} {outcome : Except ReferenceError (List Char)} :
    p.ComesTo line captures outcome ↔ p.contribution line captures = outcome := by
  cases p with
  | reference digits => exact referenceComesTo_iff
  | plain c | escaped c | dangling => exact eq_comm

variable (line captures)

/-- A pattern comes to what its pieces come to, one behind another. -/
theorem resolve_eq_mapM (s : List Char) : resolve line captures s =
    ((pieces s).mapM (Piece.contribution line captures)).map List.flatten := by
  induction s using pieceInduction with
  | nil => rfl
  | dangling => rfl
  | plain c s hc ih =>
    rw [resolve_plain line captures hc, pieces_plain hc, List.mapM_cons, ih]
    cases (pieces s).mapM (Piece.contribution line captures) <;> rfl
  | escaped c s hc ih =>
    rw [resolve_escaped line captures hc, pieces_escaped hc, List.mapM_cons, ih]
    cases (pieces s).mapM (Piece.contribution line captures) <;> rfl
  | reference d digits s hd hdigits hs ih =>
    rw [resolve_reference line captures hd hdigits hs, pieces_reference hd hdigits hs,
      List.mapM_cons, ih, Piece.contribution]
    cases captured line captures (d :: digits) with
    | error fault => rfl
    | ok text => cases (pieces s).mapM (Piece.contribution line captures) <;> rfl

variable {line captures} {s : List Char}

/-- References are replaced just if each of them comes to a text, and by these texts. -/
theorem resolve_eq_ok_iff {out : List Char} : resolve line captures s = .ok out ↔
    ∃ texts, List.Forall₂ (fun p text => p.ComesTo line captures (.ok text)) (pieces s) texts ∧
      out = texts.flatten := by
  have hblocks (texts : List (List Char)) :
      (pieces s).mapM (Piece.contribution line captures) = .ok texts ↔
        List.Forall₂ (fun p text => p.ComesTo line captures (.ok text)) (pieces s) texts := by
    have hmap : (pieces s).map (Piece.contribution line captures) = texts.map .ok ↔
        List.Forall₂ Eq ((pieces s).map (Piece.contribution line captures)) (texts.map .ok) := by
      rw [List.forall₂_eq_eq_eq]
    rw [mapM_eq_ok_iff, hmap, List.forall₂_map_left_iff, List.forall₂_map_right_iff]
    simp only [Piece.comesTo_iff]
  rw [resolve_eq_mapM]
  constructor
  · intro h
    obtain ⟨texts, htexts, rfl⟩ := exists_of_map_eq_ok h
    exact ⟨texts, (hblocks texts).mp htexts, rfl⟩
  · rintro ⟨texts, htexts, rfl⟩
    rw [(hblocks texts).mpr htexts]
    rfl

/-- References are not replaced just if one of them comes to a fault, and all pieces before it come
to texts. -/
theorem resolve_eq_error_iff {fault : ReferenceError} : resolve line captures s = .error fault ↔
    ∃ before digits after, pieces s = before ++ .reference digits :: after ∧
      (∀ p ∈ before, ∃ text, p.ComesTo line captures (.ok text)) ∧
      ReferenceComesTo line captures digits (.error fault) := by
  have hmap : resolve line captures s = .error fault ↔
      (pieces s).mapM (Piece.contribution line captures) = .error fault := by
    rw [resolve_eq_mapM]
    cases (pieces s).mapM (Piece.contribution line captures) <;> simp [Except.map]
  simp only [hmap, mapM_eq_error_iff, Piece.comesTo_iff, referenceComesTo_iff]
  constructor
  · rintro ⟨before, p, after, hsplit, hbefore, hfault⟩
    cases p with
    | reference digits => exact ⟨before, digits, after, hsplit, hbefore, hfault⟩
    | plain c | escaped c | dangling => simp [Piece.contribution] at hfault
  · rintro ⟨before, digits, after, hsplit, hbefore, hfault⟩
    exact ⟨before, .reference digits, after, hsplit, hbefore, hfault⟩

end

/-! ## Slices of a pattern -/

theorem escapeAt?_plain {c : Char} (hc : c ≠ '\\') (offset : Nat) (s : List Char) :
    escapeAt? offset (c :: s) = none := by
  unfold escapeAt?
  split
  · next h => exact absurd (List.cons.inj h).1 hc
  · rfl

/-- The digits of a reference are taken in one run. -/
theorem escapeAt?_reference {d : Char} {digits s : List Char} (hd : d.isDigit = true)
    (hdigits : ∀ d ∈ digits, d.isDigit = true) (hs : startsWithDigit s = false) (offset : Nat) :
    escapeAt? offset ('\\' :: d :: (digits ++ s)) =
      some ⟨⟨offset, offset + 1 + byteLength (d :: digits)⟩,
        some ⟨offset + 1, offset + 1 + byteLength (d :: digits)⟩⟩ := by
  have hrest : s.takeWhile Char.isDigit = [] := by
    cases s with
    | nil => rfl
    | cons c s =>
      have hc : c.isDigit = false := by simpa [startsWithDigit] using hs
      simp [hc]
  have hrun : (d :: (digits ++ s)).takeWhile Char.isDigit = d :: digits := by
    rw [List.takeWhile_cons_of_pos hd, List.takeWhile_append_of_pos hdigits, hrest,
      List.append_nil]
  simp only [escapeAt?, hd, if_true, hrun]

/-- No escape starts before the offset where the search goes on. -/
theorem findEscapes_skip (skipped : List Char) (offset : Nat) (s : List Char) :
    findEscapes (offset + byteLength skipped) offset (skipped ++ s) =
      findEscapes (offset + byteLength skipped) (offset + byteLength skipped) s := by
  induction skipped generalizing offset with
  | nil => rfl
  | cons c skipped ih =>
    have hpos := c.utf8Size_pos
    have hskip : ¬ offset + byteLength (c :: skipped) ≤ offset := by
      simp only [byteLength]
      omega
    rw [List.cons_append, findEscapes, if_neg hskip]
    simp only [byteLength, ← Nat.add_assoc, ih]

/-- Behind a plain character the search goes on with the rest. -/
theorem findEscapes_plain {c : Char} (hc : c ≠ '\\') (resume offset : Nat) (s : List Char) :
    findEscapes resume offset (c :: s) = findEscapes resume (offset + c.utf8Size) s := by
  rw [findEscapes, escapeAt?_plain hc, ite_self]

/-- Behind an escape that is found the search goes on with what follows it. -/
theorem findEscapes_escape {found : FoundEscape} {resume offset : Nat} {taken s : List Char}
    (hresume : resume ≤ offset) (hfound : escapeAt? offset ('\\' :: (taken ++ s)) = some found)
    (hstop : found.whole.stop = offset + 1 + byteLength taken) :
    findEscapes resume offset ('\\' :: (taken ++ s)) =
      found :: findEscapes (offset + 1 + byteLength taken) (offset + 1 + byteLength taken) s := by
  have hsize : '\\'.utf8Size = 1 := by decide
  simp only [findEscapes, if_pos hresume, hfound, hsize, hstop, findEscapes_skip]

/-- An escape of a character that is no digit is found, and the search goes on behind it. -/
theorem findEscapes_escaped {c : Char} (hc : c.isDigit = false) {resume offset : Nat}
    (hresume : resume ≤ offset) (s : List Char) :
    findEscapes resume offset ('\\' :: c :: s) =
      ⟨⟨offset, offset + 1 + byteLength [c]⟩, none⟩ ::
        findEscapes (offset + 1 + byteLength [c]) (offset + 1 + byteLength [c]) s := by
  have hfound : escapeAt? offset ('\\' :: ([c] ++ s)) =
      some ⟨⟨offset, offset + 1 + byteLength [c]⟩, none⟩ := by
    simp [escapeAt?, hc, byteLength]
  exact findEscapes_escape hresume hfound rfl

/-- A reference is found with its run of digits, and the search goes on behind it. -/
theorem findEscapes_reference {d : Char} {digits s : List Char} (hd : d.isDigit = true)
    (hdigits : ∀ d ∈ digits, d.isDigit = true) (hs : startsWithDigit s = false)
    {resume offset : Nat} (hresume : resume ≤ offset) :
    findEscapes resume offset ('\\' :: d :: (digits ++ s)) =
      ⟨⟨offset, offset + 1 + byteLength (d :: digits)⟩,
          some ⟨offset + 1, offset + 1 + byteLength (d :: digits)⟩⟩ ::
        findEscapes (offset + 1 + byteLength (d :: digits))
          (offset + 1 + byteLength (d :: digits)) s := by
  have hfound := escapeAt?_reference hd hdigits hs offset
  rw [← List.cons_append] at hfound
  exact findEscapes_escape hresume hfound rfl

/-- What is taken in behind some pending characters is pending with them. -/
theorem byteLength_pending (done pending taken : List Char) :
    byteLength (done ++ pending) + byteLength taken = byteLength (done ++ (pending ++ taken)) := by
  simp only [byteLength_append, Nat.add_assoc]

/-- The range of some characters in the middle of a text cuts them out. -/
theorem slice?_middle (front middle back : List Char) :
    slice? (front ++ middle ++ back) ⟨byteLength front, byteLength (front ++ middle)⟩ =
      some middle :=
  slice?_eq_some_iff.mpr ⟨front, back, rfl, rfl, rfl⟩

/-- The range behind a backslash cuts out the digits there. -/
theorem slice?_digits (front digits back : List Char) :
    slice? (front ++ '\\' :: (digits ++ back))
        ⟨byteLength front + 1, byteLength front + 1 + byteLength digits⟩ = some digits := by
  have hfront : byteLength (front ++ ['\\']) = byteLength front + 1 := byteLength_append _ _
  refine slice?_eq_some_iff.mpr ⟨front ++ ['\\'], back, by simp, hfront, ?_⟩
  rw [byteLength_append, hfront]

/-- A pattern whose references were replaced up to some place is spliced from there on as its
references are replaced. What is `pending` has been passed since then and is still to be cut out. -/
theorem spliceFrom_eq (line : List Char) (captures : Captures) {source : List Char}
    (done pending s : List Char) (hsource : source = done ++ pending ++ s) {resume : Nat}
    (hresume : resume ≤ byteLength (done ++ pending)) :
    spliceFrom source line captures (byteLength done)
        (findEscapes resume (byteLength (done ++ pending)) s) =
      some ((resolve line captures s).map (pending ++ ·)) := by
  have hbackslash (front s : List Char) :
      byteLength (front ++ '\\' :: s) = byteLength front + 1 + byteLength s := by
    rw [byteLength_append, byteLength, Nat.add_assoc]
    rfl
  induction s using pieceInduction generalizing done pending resume with
  | nil =>
    have hslice : slice? source ⟨byteLength done, byteLength (done ++ pending)⟩ = some pending :=
      hsource ▸ slice?_middle done pending []
    have hend : byteLength source = byteLength (done ++ pending) := by
      rw [hsource, List.append_nil]
    rw [findEscapes, spliceFrom, hend, hslice]
    simp [Except.map]
  | dangling =>
    have hslice := slice?_middle done (pending ++ ['\\']) []
    rw [List.append_nil, ← List.append_assoc, ← hsource] at hslice
    have hnone : findEscapes resume (byteLength (done ++ pending)) ['\\'] = [] := by
      simp [findEscapes, escapeAt?]
    rw [hnone, spliceFrom, hslice]
    simp [Except.map]
  | plain c s hc ih =>
    have hsource' : source = done ++ (pending ++ [c]) ++ s := by simp [hsource]
    have hnext : byteLength (done ++ pending) + c.utf8Size =
        byteLength (done ++ (pending ++ [c])) := byteLength_pending done pending [c]
    rw [findEscapes_plain hc, hnext, ih done (pending ++ [c]) hsource' (by omega),
      resolve_plain line captures hc]
    cases resolve line captures s <;> simp [Except.map]
  | escaped c s hc ih =>
    have hsource' : source = done ++ (pending ++ ['\\', c]) ++ s := by simp [hsource]
    have hnext : byteLength (done ++ pending) + 1 + byteLength [c] =
        byteLength (done ++ (pending ++ ['\\', c])) := by
      rw [← List.append_assoc, hbackslash]
    rw [findEscapes_escaped hc hresume, spliceFrom, hnext,
      ih done (pending ++ ['\\', c]) hsource' (Nat.le_refl _), resolve_escaped line captures hc]
    cases resolve line captures s <;> simp [Except.map]
  | reference d digits s hd hdigits hs ih =>
    have hbetween : slice? source ⟨byteLength done, byteLength (done ++ pending)⟩ = some pending :=
      hsource ▸ slice?_middle done pending _
    have hrun : slice? source ⟨byteLength (done ++ pending) + 1, _⟩ = some (d :: digits) :=
      hsource ▸ slice?_digits (done ++ pending) (d :: digits) s
    -- Behind the reference nothing is pending.
    have hfollowing := ih (done ++ pending ++ '\\' :: d :: digits) [] (by simp [hsource])
      (Nat.le_of_eq (congrArg byteLength (List.append_nil _).symm))
    rw [List.append_nil, hbackslash] at hfollowing
    rw [findEscapes_reference hd hdigits hs hresume, spliceFrom]
    simp only [hbetween, hrun, hfollowing]
    rw [resolve_reference line captures hd hdigits hs]
    cases captured line captures (d :: digits) with
    | error fault => rfl
    | ok text =>
      cases resolve line captures s <;>
        simp [Except.map, bind, Except.bind, pure, Except.pure]

/-- Splicing a pattern asks for slices only, and gives the pattern with its references replaced. -/
theorem splice_eq (line : List Char) (captures : Captures) (s : List Char) :
    splice line captures s = some (resolve line captures s) := by
  have h : splice line captures s = some ((resolve line captures s).map id) :=
    spliceFrom_eq line captures [] [] s rfl (Nat.le_refl 0)
  rw [h]
  cases resolve line captures s <;> rfl

/-- A pattern comes to the texts of its pieces, in their order, if each of them comes to a text.
Else it comes to the fault of the first reference that does not. Going through its escapes and
cutting it up by their offsets comes to the same, and asks for no text that is no slice of the
pattern. -/
theorem resolve_by_pieces (line : List Char) (captures : Captures) (s : List Char) :
    (∀ out, resolve line captures s = .ok out ↔ ∃ texts : List (List Char),
        List.Forall₂ (fun p text => p.ComesTo line captures (.ok text)) (pieces s) texts ∧
          out = texts.flatten) ∧
      (∀ fault, resolve line captures s = .error fault ↔ ∃ before digits after,
        pieces s = before ++ .reference digits :: after ∧
          (∀ p ∈ before, ∃ text, p.ComesTo line captures (.ok text)) ∧
          ReferenceComesTo line captures digits (.error fault)) ∧
      splice line captures s = some (resolve line captures s) :=
  ⟨fun _ => resolve_eq_ok_iff, fun _ => resolve_eq_error_iff, splice_eq line captures s⟩

/-- The first fault from the left is given, though the number of the last reference is too great for
an index. Leading zeros do not count. -/
theorem resolve_by_pieces_zeros :
    ReferenceComesTo "é".toList ⟨[some ⟨0, 2⟩, some ⟨0, 1⟩]⟩ "00".toList (.ok "é".toList) ∧
      ReferenceComesTo "é".toList ⟨[some ⟨0, 2⟩, some ⟨0, 1⟩]⟩ "0001".toList
        (.error (.invalidRange 1 ⟨0, 1⟩ 2)) ∧
      resolve "é".toList ⟨[some ⟨0, 2⟩, some ⟨0, 1⟩]⟩
        "\\00\\0001\\18446744073709551616".toList = .error (.invalidRange 1 ⟨0, 1⟩ 2) := by
  have hfirst : ReferenceComesTo "é".toList ⟨[some ⟨0, 2⟩, some ⟨0, 1⟩]⟩ "00".toList
      (.ok "é".toList) := .text (by decide) [] ['é'] [] rfl rfl
  have hsecond : ReferenceComesTo "é".toList ⟨[some ⟨0, 2⟩, some ⟨0, 1⟩]⟩ "0001".toList
      (.error (.invalidRange 1 ⟨0, 1⟩ 2)) := .invalid (by decide) ⟨0, 1⟩ rfl (by decide)
  refine ⟨hfirst, hsecond, ((resolve_by_pieces _ _ _).2.1 _).mpr
    ⟨[.reference "00".toList], "0001".toList, [.reference "18446744073709551616".toList],
      by decide, fun p hp => ?_, hsecond⟩⟩
  obtain rfl := List.mem_singleton.mp hp
  exact ⟨_, hfirst⟩

end GrammarScan.Pattern
