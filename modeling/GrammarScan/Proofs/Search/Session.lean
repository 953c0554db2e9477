import GrammarScan.Proofs.Regex.Reuse

/-!
# Sessions with one matcher

A session builds buffers one after another and asks one matcher about them, in any order and at any
positions. What the memory of the matcher holds is always what a search without memory would find
where it was made, and the rule for using it only ever repeats such an answer or carries it to a
position where the engine would give the same one. So a session cannot tell the matcher from one
that never remembers anything.

About the engine it is assumed that the searches of the session come to verdicts, and that verdicts
carry over to later positions of the same text; and even that only for patterns that are not tied to
the position of the search.
-/

namespace GrammarScan

/-- What a buffer is built from. -/
inductive LineSource where
  | text (s : List Char) (unit : CodeUnit)
  | utf16 (units : List UInt16)
  | utf8 (bytes : List UInt8)

/-- The buffer of a source. -/
def LineSource.prepare (id : BufferId) : LineSource → Except TextError Buffer
  | .text s unit => .ok (.ofText id s unit)
  | .utf16 units => Buffer.ofUnits16 id units
  | .utf8 bytes => .ok (.ofBytes id bytes)

/-- The buffers built so far, and the identity that the next one is given. -/
structure Desk where
  buffers : List Buffer
  nextId : BufferId

namespace Desk

/-- A desk without buffers. -/
def empty (id : BufferId) : Desk := ⟨[], id⟩

/-- The desk with one more buffer. A source that cannot be read takes no identity. -/
def build (d : Desk) (source : LineSource) : Desk :=
  match source.prepare d.nextId with
  | .ok buffer => ⟨d.buffers ++ [buffer], d.nextId.next⟩
  | .error _ => d

end Desk

/-- A request of a session. Buffers are named by their place in the order of construction. -/
inductive Call where
  | build (source : LineSource)
  | search (buffer position : Nat)
  | searchUnits (buffer position : Nat)
  | reset

namespace Call

/-- Whether a request builds a buffer. -/
def isBuild : Call → Bool
  | .build _ => true
  | _ => false

/-- The desk behind a request. -/
def desk (d : Desk) : Call → Desk
  | .build source => d.build source
  | _ => d

/-- The buffer and the byte offset that a request is about, if it is a search that can be made. -/
def place? (d : Desk) : Call → Option (Buffer × Nat)
  | .search buffer position => d.buffers[buffer]?.map (·, position)
  | .searchUnits buffer column => d.buffers[buffer]?.bind fun b =>
    (b.tryByteOffset column).map (b, ·)
  | .build _ | .reset => none

/-- The answer of a matcher without memory. -/
def answerAfresh {E : RegexEngine} (m : Matcher E) (d : Desk) : Call → Option Answer
  | .search buffer position => d.buffers[buffer]?.map fun b => (m.searchAfresh b position).1
  | .searchUnits buffer position => d.buffers[buffer]?.map fun b =>
    match b.byteOffset position with
    | .ok offset => (m.searchAfresh b offset).1
    | .error fault => .error fault
  | _ => none

end Call

/-- The desk behind some requests. -/
def Desk.after (d : Desk) : List Call → Desk
  | [] => d
  | call :: rest => (call.desk d).after rest

/-- Whether something holds of the buffer and the byte offset of every search that is made. -/
def AllSearches (holds : Buffer → Nat → Prop) (d : Desk) : List Call → Prop
  | [] => True
  | call :: rest => (∀ b position, call.place? d = some (b, position) → holds b position) ∧
    AllSearches holds (call.desk d) rest

instance decidableAtPlace {holds : Buffer → Nat → Prop}
    [∀ b position, Decidable (holds b position)] : (place? : Option (Buffer × Nat)) →
    Decidable (∀ b position, place? = some (b, position) → holds b position)
  | none => .isTrue nofun
  | some (b, position) => decidable_of_iff (holds b position)
      ⟨fun h _ _ heq => by cases heq; exact h, fun h => h b position rfl⟩

instance AllSearches.decidable {holds : Buffer → Nat → Prop}
    [∀ b position, Decidable (holds b position)] (d : Desk) :
    (calls : List Call) → Decidable (AllSearches holds d calls)
  | [] => .isTrue trivial
  | call :: rest =>
    have := @AllSearches.decidable holds _ (call.desk d) rest
    inferInstanceAs (Decidable (_ ∧ _))

/-- The answers of a matcher without memory. -/
def answersAfresh {E : RegexEngine} (m : Matcher E) (d : Desk) : List Call → List (Option Answer)
  | [] => []
  | call :: rest => call.answerAfresh m d :: answersAfresh m (call.desk d) rest

/-- A matcher at work. -/
structure Session (E : RegexEngine) where
  matcher : Matcher E
  desk : Desk

namespace Session

variable {E : RegexEngine}

/-- The reply of a search as part of a session. -/
def ofReply (d : Desk) (reply : Reply (Matcher E) Answer) : Session E × Option Answer :=
  (⟨reply.state, d⟩, some reply.result)

/-- Takes one request. -/
def step (s : Session E) : Call → Session E × Option Answer
  | .build source => ({ s with desk := s.desk.build source }, none)
  | .search buffer position =>
    match s.desk.buffers[buffer]? with
    | some b => ofReply s.desk (s.matcher.search b position)
    | none => (s, none)
  | .searchUnits buffer position =>
    match s.desk.buffers[buffer]? with
    | some b => ofReply s.desk (s.matcher.searchUnits b position)
    | none => (s, none)
  | .reset => ({ s with matcher := s.matcher.reset }, none)

/-- Takes requests one after another and gives the answers. -/
def run (s : Session E) : List Call → List (Option Answer)
  | [] => []
  | call :: rest => (s.step call).2 :: (s.step call).1.run rest

/-- The session after some requests. -/
def after (s : Session E) : List Call → Session E
  | [] => s
  | call :: rest => (s.step call).1.after rest

end Session

/-! ## Identities -/

namespace Desk

/-- The identities of a desk count up from a first one. -/
structure CountsFrom (first : UInt64) (d : Desk) : Prop where
  next : d.nextId = ⟨first + UInt64.ofNat d.buffers.length⟩
  buffer : ∀ {i : Nat} {b : Buffer}, d.buffers[i]? = some b → b.id = ⟨first + UInt64.ofNat i⟩

/-- The identities of a desk without buffers count up from the next one. -/
theorem countsFrom_empty (id : BufferId) : (Desk.empty id).CountsFrom id.index :=
  ⟨by simp [Desk.empty], fun h => by simp [Desk.empty] at h⟩

/-- Every buffer of a desk has the map of its text. -/
def MapsTexts (d : Desk) : Prop :=
  ∀ b ∈ d.buffers, b.offsets = .ofText b.codeUnit b.text

/-- A desk without buffers has the maps of their texts. -/
theorem mapsTexts_empty (id : BufferId) : (Desk.empty id).MapsTexts :=
  fun b hb => by simp [Desk.empty] at hb

/-- A buffer is built under the identity that it is given, with the map of its text. -/
theorem prepare_eq_ok {source : LineSource} {id : BufferId} {b : Buffer}
    (h : source.prepare id = .ok b) : b.id = id ∧ b.offsets = .ofText b.codeUnit b.text := by
  cases source with
  | text s unit =>
    simp only [LineSource.prepare, Except.ok.injEq] at h
    subst h
    exact ⟨rfl, rfl⟩
  | utf16 units =>
    simp only [LineSource.prepare, Buffer.ofUnits16] at h
    cases hdecode : decode16 units with
    | error fault => simp [hdecode, Except.map] at h
    | ok text =>
      simp only [hdecode, Except.map, Except.ok.injEq] at h
      subst h
      exact ⟨rfl, rfl⟩
  | utf8 bytes =>
    simp only [LineSource.prepare, Except.ok.injEq] at h
    subst h
    exact ⟨rfl, rfl⟩

/-- Counting goes on over a construction. -/
theorem CountsFrom.build {first : UInt64} {d : Desk} (h : d.CountsFrom first)
    (source : LineSource) : (d.build source).CountsFrom first := by
  unfold Desk.build
  split
  · next b hb =>
    obtain ⟨hid, -⟩ := prepare_eq_ok hb
    constructor
    · simp only [h.next, BufferId.next, List.length_append, List.length_singleton,
        UInt64.ofNat_add, UInt64.add_assoc]
      rfl
    · intro i c hc
      rw [List.getElem?_append] at hc
      split at hc
      · exact h.buffer hc
      · next hge =>
        rw [List.getElem?_singleton] at hc
        split at hc
        · next hzero =>
          obtain rfl := Option.some.inj hc
          rw [hid, h.next, show i = d.buffers.length by omega]
        · simp at hc
  · exact h

/-- A desk keeps the maps of its texts over a construction. -/
theorem MapsTexts.build {d : Desk} (h : d.MapsTexts) (source : LineSource) :
    (d.build source).MapsTexts := by
  unfold Desk.build
  split
  · next b hb =>
    intro c hc
    rcases List.mem_append.mp hc with hc | hc
    · exact h c hc
    · rw [List.mem_singleton.mp hc]
      exact (prepare_eq_ok hb).2
  · exact h

/-- A construction adds at most one buffer. -/
theorem length_build_le (d : Desk) (source : LineSource) :
    (d.build source).buffers.length ≤ d.buffers.length + 1 := by
  unfold Desk.build
  split <;> simp

/-- A construction keeps the buffers that are there. -/
theorem subset_build (d : Desk) (source : LineSource) :
    d.buffers ⊆ (d.build source).buffers := by
  unfold Desk.build
  split
  · exact List.subset_append_left _ _
  · exact List.Subset.refl _

/-- As long as the machine word has not been used up, an identity belongs to one buffer. -/
theorem CountsFrom.eq_of_id_eq {first : UInt64} {d : Desk} (h : d.CountsFrom first)
    (hcount : d.buffers.length ≤ UInt64.size) {b c : Buffer} (hb : b ∈ d.buffers)
    (hc : c ∈ d.buffers) (hid : b.id = c.id) : b = c := by
  obtain ⟨i, hi⟩ := List.getElem?_of_mem hb
  obtain ⟨j, hj⟩ := List.getElem?_of_mem hc
  have hi' := (List.getElem?_eq_some_iff.mp hi).1
  have hj' := (List.getElem?_eq_some_iff.mp hj).1
  rw [h.buffer hi, h.buffer hj, BufferId.mk.injEq, UInt64.add_right_inj] at hid
  have hij : i = j := by
    have hnat := congrArg UInt64.toNat hid
    rwa [UInt64.toNat_ofNat_of_lt' (Nat.lt_of_lt_of_le hi' hcount),
      UInt64.toNat_ofNat_of_lt' (Nat.lt_of_lt_of_le hj' hcount)] at hnat
  rw [hij, hj] at hi
  exact (Option.some.inj hi).symm

/-- A remembered search answers requests for the buffer that it was made in only. -/
theorem CountsFrom.eq_of_answers {first : UInt64} {d : Desk} (h : d.CountsFrom first)
    (hcount : d.buffers.length ≤ UInt64.size) {b c : Buffer} (hb : b ∈ d.buffers)
    (hc : c ∈ d.buffers) {memo : Memo} {position : Nat} {searchAnchored : Bool}
    (hid : c.id = memo.buffer) (hanswers : memo.answers b.id position searchAnchored = true) :
    c = b := by
  simp only [Memo.answers, Bool.and_eq_true, decide_eq_true_eq] at hanswers
  exact h.eq_of_id_eq hcount hc hb (hid.trans hanswers.1)

end Desk

namespace Call

variable {d : Desk} {first : UInt64}

/-- A request leaves the identities counting up. -/
theorem countsFrom_desk (h : d.CountsFrom first) (call : Call) :
    (call.desk d).CountsFrom first := by
  cases call with
  | build source => exact h.build source
  | search buffer position | searchUnits buffer position | reset => exact h

/-- A request leaves the maps of the texts. -/
theorem mapsTexts_desk (h : d.MapsTexts) (call : Call) : (call.desk d).MapsTexts := by
  cases call with
  | build source => exact h.build source
  | search buffer position | searchUnits buffer position | reset => exact h

/-- A request keeps the buffers that are there. -/
theorem subset_desk (d : Desk) (call : Call) : d.buffers ⊆ (call.desk d).buffers := by
  cases call with
  | build source => exact Desk.subset_build d source
  | search buffer position | searchUnits buffer position | reset => exact List.Subset.refl _

/-- A request adds at most the buffer that it builds. -/
theorem length_desk_le (d : Desk) (call : Call) :
    (call.desk d).buffers.length ≤ d.buffers.length + if call.isBuild then 1 else 0 := by
  cases call with
  | build source => exact Desk.length_build_le d source
  | search buffer position | searchUnits buffer position | reset => exact Nat.le_refl _

end Call

namespace Desk

variable {d : Desk} {first : UInt64}

/-- Requests leave the identities counting up. -/
theorem CountsFrom.after (h : d.CountsFrom first) (calls : List Call) :
    (d.after calls).CountsFrom first := by
  induction calls generalizing d with
  | nil => exact h
  | cons call rest ih => exact ih (call.countsFrom_desk h)

/-- Requests leave the maps of the texts. -/
theorem MapsTexts.after (h : d.MapsTexts) (calls : List Call) : (d.after calls).MapsTexts := by
  induction calls generalizing d with
  | nil => exact h
  | cons call rest ih => exact ih (call.mapsTexts_desk h)

/-- Requests add at most the buffers that they build. -/
theorem length_after_le (d : Desk) (calls : List Call) :
    (d.after calls).buffers.length ≤ d.buffers.length + calls.countP Call.isBuild := by
  induction calls generalizing d with
  | nil => exact Nat.le_add_right _ _
  | cons call rest ih =>
    have hhere := call.length_desk_le d
    have hlater := ih (call.desk d)
    rw [after, List.countP_cons]
    omega

/-- As long as fewer buffers are built than there are identities, a desk that was empty counts them
up and keeps the maps of their texts. -/
theorem of_after_empty (id : BufferId) (calls : List Call)
    (hcount : calls.countP Call.isBuild < UInt64.size) :
    ((Desk.empty id).after calls).CountsFrom id.index ∧
      ((Desk.empty id).after calls).buffers.length ≤ UInt64.size ∧
      ((Desk.empty id).after calls).MapsTexts := by
  refine ⟨(countsFrom_empty id).after calls, ?_, (mapsTexts_empty id).after calls⟩
  have hlength := length_after_le (Desk.empty id) calls
  have hzero : (Desk.empty id).buffers.length = 0 := rfl
  omega

end Desk

/-! ## Memory -/

/-- Whether a search comes to a verdict, if the memory of the matcher relies on that. -/
def Matcher.DecidesAt {E : RegexEngine} (m : Matcher E) (b : Buffer) (position : Nat) : Prop :=
  m.searchAnchored = false → m.HasVerdict b position

namespace Session

variable {E : RegexEngine}

/-- Only a construction changes the desk of a session. -/
theorem step_desk (s : Session E) (call : Call) : (s.step call).1.desk = call.desk s.desk := by
  cases call with
  | build source => rfl
  | reset => rfl
  | search buffer position | searchUnits buffer position =>
    simp only [Session.step]
    cases s.desk.buffers[buffer]? <;> rfl

/-- The desk of a session does not depend on its matcher. -/
theorem after_desk (s : Session E) (calls : List Call) :
    (s.after calls).desk = s.desk.after calls := by
  induction calls generalizing s with
  | nil => rfl
  | cons call rest ih => rw [after, ih, step_desk, Desk.after]

/-- A request is a search that can be made, and the matcher answers it; or else it leaves the
matcher as it is or takes its memory away, and is answered alike whatever the matcher is. -/
theorem step_cases (s : Session E) (call : Call) :
    (∃ b ∈ s.desk.buffers, ∃ position, call.place? s.desk = some (b, position) ∧
        s.step call = ofReply s.desk (s.matcher.search b position) ∧
        ∀ m : Matcher E, call.answerAfresh m s.desk = some (m.searchAfresh b position).1) ∨
      call.place? s.desk = none ∧
        ((s.step call).1.matcher = s.matcher ∨ (s.step call).1.matcher = s.matcher.reset) ∧
        (∀ m : Matcher E, call.answerAfresh m s.desk = (s.step call).2) ∧
        ∀ result, (s.step call).2 ≠ some (.ok result) := by
  cases call with
  | build source => exact .inr ⟨rfl, .inl rfl, fun _ => rfl, by simp [step]⟩
  | reset => exact .inr ⟨rfl, .inr rfl, fun _ => rfl, by simp [step]⟩
  | search buffer position =>
    simp only [Call.place?, step, Call.answerAfresh]
    cases hb : s.desk.buffers[buffer]? with
    | none => exact .inr ⟨rfl, .inl rfl, fun _ => rfl, by simp⟩
    | some b =>
      exact .inl ⟨b, List.mem_of_getElem? hb, position, rfl, rfl, fun _ => rfl⟩
  | searchUnits buffer column =>
    simp only [Call.place?, step, Call.answerAfresh, Matcher.searchUnits, Buffer.byteOffset]
    cases hb : s.desk.buffers[buffer]? with
    | none => exact .inr ⟨rfl, .inl rfl, fun _ => rfl, by simp⟩
    | some b =>
      cases hoffset : b.tryByteOffset column with
      | none => exact .inr (by simp [hoffset, ofReply])
      | some offset =>
        refine .inl ⟨b, List.mem_of_getElem? hb, offset, by simp [hoffset], ?_, fun _ => ?_⟩
        · simp only [hoffset]
        · simp only [hoffset, Option.map_some]

/-- The invariant of a session: its matcher is the given one up to what is remembered, and what is
remembered is what a search without memory gives in a buffer of the desk, at a place where searches
were made. -/
structure Faithful (made : Buffer → Nat → Prop) (m : Matcher E) (s : Session E) : Prop where
  matcher_eq : s.matcher = { m with memo := s.matcher.memo }
  recalls : ∀ memo, s.matcher.memo = some memo → ∃ b ∈ s.desk.buffers, b.id = memo.buffer ∧
    made b memo.position ∧ (m.searchAfresh b memo.position).1 = .ok memo.result

namespace Faithful

variable {made : Buffer → Nat → Prop} {m : Matcher E} {s : Session E} {first : UInt64} {b : Buffer}
  {position : Nat}

/-- A compiled matcher begins a faithful session. -/
theorem of_ofPattern {pattern : List Char} {options : Options}
    (hm : Matcher.ofPattern pattern options E = .ok m) (made : Buffer → Nat → Prop) (d : Desk) :
    (Session.mk m d).Faithful made m :=
  ⟨rfl, fun memo hmemo => by simp [(Matcher.eq_of_ofPattern hm).2.2.2] at hmemo⟩

/-- What is remembered does not matter to a search without memory. -/
theorem searchAfresh_eq (h : s.Faithful made m) (b : Buffer) (position : Nat) :
    s.matcher.searchAfresh b position = m.searchAfresh b position := by
  rw [h.matcher_eq]
  rfl

/-- A session stays faithful if the matcher keeps or loses its memory and buffers are added. -/
theorem extend (h : s.Faithful made m) {s' : Session E}
    (hmatcher : s'.matcher = s.matcher ∨ s'.matcher = s.matcher.reset)
    (hdesk : s.desk.buffers ⊆ s'.desk.buffers) : s'.Faithful made m := by
  rcases hmatcher with hsame | hreset
  · refine ⟨by rw [hsame]; exact h.matcher_eq, fun memo hmemo => ?_⟩
    obtain ⟨b, hb, hrest⟩ := h.recalls memo (hsame ▸ hmemo)
    exact ⟨b, hdesk hb, hrest⟩
  · refine ⟨?_, fun memo hmemo => by simp [hreset, Matcher.reset] at hmemo⟩
    rw [hreset, h.matcher_eq]
    rfl

/-- A search in a faithful session is answered as without memory, or else by a remembered search of
the same buffer, with what that gives without memory. -/
theorem search_result (h : s.Faithful made m) (hids : s.desk.CountsFrom first)
    (hcount : s.desk.buffers.length ≤ UInt64.size) (hb : b ∈ s.desk.buffers) (position : Nat) :
    (∀ memo, s.matcher.memo = some memo → memo.answers b.id position m.searchAnchored = false) ∧
        (s.matcher.search b position).result = (m.searchAfresh b position).1 ∨
      ∃ memo, s.matcher.memo = some memo ∧ memo.answers b.id position m.searchAnchored = true ∧
        made b memo.position ∧ (m.searchAfresh b memo.position).1 = .ok memo.result ∧
        (s.matcher.search b position).result = .ok memo.result := by
  have hanchored : s.matcher.searchAnchored = m.searchAnchored := by rw [h.matcher_eq]
  rcases s.matcher.search_cases b position with ⟨memo, hmemo, hanswers, hsearch⟩ | ⟨hnone, hsearch⟩
  · obtain ⟨c, hc, hid, hmade, hfresh⟩ := h.recalls memo hmemo
    rw [hanchored] at hanswers
    obtain rfl := hids.eq_of_answers hcount hb hc hid hanswers
    exact .inr ⟨memo, hmemo, hanswers, hmade, hfresh, by rw [hsearch]⟩
  · rw [hanchored] at hnone
    exact .inl ⟨hnone, by rw [hsearch, h.searchAfresh_eq]⟩

/-- A search leaves a faithful session faithful. -/
theorem search (h : s.Faithful made m) (hb : b ∈ s.desk.buffers) (hmade : made b position) :
    (⟨(s.matcher.search b position).state, s.desk⟩ : Session E).Faithful made m := by
  rcases s.matcher.search_cases b position with ⟨memo, -, -, hsearch⟩ | ⟨-, hsearch⟩
  · rw [hsearch]
    exact h
  · rw [hsearch, h.searchAfresh_eq]
    cases hresult : (m.searchAfresh b position).1 with
    | error fault => exact h
    | ok result =>
      refine ⟨?_, fun memo hmemo => ?_⟩
      · rw [h.matcher_eq]
        rfl
      · simp only [Matcher.remember, Option.some.injEq] at hmemo
        subst hmemo
        exact ⟨b, hb, rfl, hmade, hresult⟩

/-- A request leaves a faithful session faithful. -/
theorem step (h : s.Faithful made m) {call : Call}
    (hmade : ∀ b position, call.place? s.desk = some (b, position) → made b position) :
    (s.step call).1.Faithful made m := by
  rcases s.step_cases call with ⟨b, hb, position, hplace, hstep, -⟩ | ⟨-, hmatcher, -⟩
  · rw [hstep]
    exact h.search hb (hmade b position hplace)
  · refine h.extend hmatcher ?_
    rw [s.step_desk]
    exact call.subset_desk s.desk

/-- Requests leave a faithful session faithful. -/
theorem after (h : s.Faithful made m) {calls : List Call}
    (hmade : AllSearches made s.desk calls) : (s.after calls).Faithful made m := by
  induction calls generalizing s with
  | nil => exact h
  | cons call rest ih =>
    obtain ⟨hhere, hlater⟩ := hmade
    rw [← s.step_desk call] at hlater
    exact ih (h.step hhere) hlater

/-- Where verdicts carry over, a search that has one is answered as without memory if all searches
that may be remembered had verdicts. -/
theorem search_eq_searchAfresh (h : s.Faithful m.DecidesAt m) (hids : s.desk.CountsFrom first)
    (hcount : s.desk.buffers.length ≤ UInt64.size) (hb : b ∈ s.desk.buffers)
    (hhere : m.DecidesAt b position)
    (hlaws : m.searchAnchored = false → E.CarriesOver m.regex b.text) :
    (s.matcher.search b position).result = (m.searchAfresh b position).1 := by
  rcases h.search_result hids hcount hb position with
    ⟨-, hfresh⟩ | ⟨memo, -, hanswers, hmade, hmemo, hresult⟩
  · exact hfresh
  · rw [hresult, Matcher.searchAfresh_eq_of_answers hlaws hmade hmemo hhere hanswers]

/-- A faithful session answers requests as without memory. -/
theorem run_eq_answersAfresh (h : s.Faithful m.DecidesAt m) (hids : s.desk.CountsFrom first)
    {calls : List Call}
    (hcount : s.desk.buffers.length + calls.countP Call.isBuild < UInt64.size)
    (hcalls : AllSearches (fun b position => m.DecidesAt b position ∧
      (m.searchAnchored = false → E.CarriesOver m.regex b.text)) s.desk calls) :
    s.run calls = answersAfresh m s.desk calls := by
  induction calls generalizing s with
  | nil => rfl
  | cons call rest ih =>
    obtain ⟨hcall, hrest⟩ := hcalls
    have hanswer : (s.step call).2 = call.answerAfresh m s.desk := by
      rcases s.step_cases call with ⟨b, hb, position, hplace, hstep, hafresh⟩ | ⟨-, -, hsame, -⟩
      · obtain ⟨hhere, hlaws⟩ := hcall b position hplace
        rw [hstep, hafresh]
        exact congrArg some (h.search_eq_searchAfresh hids (by omega) hb hhere hlaws)
      · exact (hsame m).symm
    have hstep := h.step fun b position hplace => (hcall b position hplace).1
    have hids' := call.countsFrom_desk hids
    have hlength := call.length_desk_le s.desk
    rw [List.countP_cons] at hcount
    rw [Session.run, answersAfresh, hanswer]
    rw [← s.step_desk call] at hrest hids' hlength ⊢
    rw [ih hstep hids' (by omega) hrest]

end Faithful

end Session

/-- What holds everywhere holds of all searches. -/
theorem AllSearches.of_forall {holds : Buffer → Nat → Prop}
    (h : ∀ b position, holds b position) (d : Desk) (calls : List Call) :
    AllSearches holds d calls := by
  induction calls generalizing d with
  | nil => trivial
  | cons call rest ih => exact ⟨fun b position _ => h b position, ih _⟩

/-- What is implied by what holds of all searches holds of them as well. -/
theorem AllSearches.mono {holds holds' : Buffer → Nat → Prop}
    (himp : ∀ b position, holds b position → holds' b position) {d : Desk} {calls : List Call}
    (h : AllSearches holds d calls) : AllSearches holds' d calls := by
  induction calls generalizing d with
  | nil => trivial
  | cons call rest ih =>
    exact ⟨fun b position hplace => himp b position (h.1 b position hplace), ih h.2⟩

/-- A session with a matcher gives the answers that the matcher would give without its memory. Only
if the pattern is not tied to the position of the search, the searches have to come to verdicts, and
those have to carry over. -/
theorem session_run_eq_answersAfresh {E : RegexEngine} {pattern : List Char} {options : Options}
    {m : Matcher E} (hm : Matcher.ofPattern pattern options E = .ok m) (id : BufferId)
    {calls : List Call} (hcount : calls.countP Call.isBuild < UInt64.size)
    (hcalls : Pattern.hasSearchAnchor pattern = false → AllSearches (fun b position =>
      m.HasVerdict b position ∧ E.CarriesOver m.regex b.text) (.empty id) calls) :
    (Session.mk m (.empty id)).run calls = answersAfresh m (.empty id) calls := by
  have hanchored := (Matcher.eq_of_ofPattern hm).2.2.1
  refine (Session.Faithful.of_ofPattern hm _ _).run_eq_answersAfresh (Desk.countsFrom_empty id)
    (by simpa [Desk.empty]) ?_
  cases htied : Pattern.hasSearchAnchor pattern with
  | true =>
    have hnone : m.searchAnchored ≠ false := by simp [hanchored, htied]
    exact .of_forall (fun b position =>
      ⟨fun hfree => absurd hfree hnone, fun hfree => absurd hfree hnone⟩) _ _
  | false =>
    exact (hcalls htied).mono fun b position h => ⟨fun _ => h.1, fun _ => h.2⟩

set_option maxRecDepth 4000 in
/-- Two buffers by turns, forwards and backwards, with a column and a reset in between, for a
pattern whose searches may go back ten times and no more. -/
theorem session_run_eq_answersAfresh_limit :
    ∃ m, Matcher.ofPattern "(?=a)a+".toList { backtrackLimit := some 10 } = .ok m ∧
      (Session.mk m (.empty ⟨0⟩)).run [.build (.text "baab".toList .utf16),
          .build (.utf8 [0x62]), .search 0 0, .search 0 1, .search 1 0, .search 0 3, .search 0 2,
          .reset, .searchUnits 0 1, .search 1 1] =
        [none, none, some (.ok (some ⟨[some ⟨1, 3⟩]⟩)), some (.ok (some ⟨[some ⟨1, 3⟩]⟩)),
          some (.ok none), some (.ok none), some (.ok (some ⟨[some ⟨2, 3⟩]⟩)), none,
          some (.ok (some ⟨[some ⟨1, 3⟩]⟩)), some (.ok none)] := by
  have hcompiled : (fun m : Matcher => (m.regex.engine.readsOwnGroups,
      decide (AllSearches m.HasVerdict (.empty ⟨0⟩) [.build (.text "baab".toList .utf16),
          .build (.utf8 [0x62]), .search 0 0, .search 0 1, .search 1 0, .search 0 3, .search 0 2,
          .reset, .searchUnits 0 1, .search 1 1]),
      answersAfresh m (.empty ⟨0⟩) [.build (.text "baab".toList .utf16),
          .build (.utf8 [0x62]), .search 0 0, .search 0 1, .search 1 0, .search 0 3, .search 0 2,
          .reset, .searchUnits 0 1, .search 1 1])) <$>
        Matcher.ofPattern "(?=a)a+".toList { backtrackLimit := some 10 } =
      .ok (true, true, [none, none, some (.ok (some ⟨[some ⟨1, 3⟩]⟩)),
          some (.ok (some ⟨[some ⟨1, 3⟩]⟩)), some (.ok none), some (.ok none),
          some (.ok (some ⟨[some ⟨2, 3⟩]⟩)), none, some (.ok (some ⟨[some ⟨1, 3⟩]⟩)),
          some (.ok none)]) := by cbv
  obtain ⟨m, hm, hfacts⟩ := exists_of_map_eq_ok hcompiled
  simp only [Prod.mk.injEq, decide_eq_true_eq] at hfacts
  obtain ⟨hown, hverdicts, hanswers⟩ := hfacts
  refine ⟨m, hm, ?_⟩
  rw [← hanswers]
  exact session_run_eq_answersAfresh hm ⟨0⟩ (by decide) fun hfree => hverdicts.mono
    fun b position hverdict => ⟨hverdict, Matcher.carriesOver hm hfree rfl hown rfl b.text⟩

end GrammarScan
