/-!
# Computations that may fail

Reading a pattern and compiling it are computations with a state that either fail or give a value.
`Ensures P x Q` says that from a state with `P` the computation can only end in a failure, or with a
value and a state for which `Q` holds. It is put together along the steps of the computation.
-/

namespace GrammarScan

variable {σ ε α β : Type}

/-- A value comes from both steps of a computation. -/
theorem exists_of_bind_eq_ok {x : Except ε α} {f : α → Except ε β} {b : β}
    (h : x >>= f = .ok b) : ∃ a, x = .ok a ∧ f a = .ok b := by
  cases x with
  | error fault => exact absurd h (by simp [bind, Except.bind])
  | ok a => exact ⟨a, rfl, h⟩

/-- A value that was mapped comes from a value. -/
theorem exists_of_map_eq_ok {x : Except ε α} {f : α → β} {b : β} (h : f <$> x = .ok b) :
    ∃ a, x = .ok a ∧ f a = b := by
  cases x with
  | error fault => exact absurd h (by simp [Functor.map, Except.map])
  | ok a => exact ⟨a, rfl, Except.ok.inj h⟩

/-- Mapping a list gives values just if mapping each of its members gives the value at its place. -/
theorem mapM_eq_ok_iff {f : α → Except ε β} {as : List α} {bs : List β} :
    as.mapM f = .ok bs ↔ as.map f = bs.map .ok := by
  induction as generalizing bs with
  | nil => cases bs <;> simp [pure, Except.pure]
  | cons a as ih =>
    rw [List.mapM_cons, List.map_cons]
    constructor
    · intro h
      obtain ⟨b, hb, h⟩ := exists_of_bind_eq_ok h
      obtain ⟨rest, hrest, h⟩ := exists_of_bind_eq_ok h
      obtain rfl := Except.ok.inj h
      rw [hb, ih.mp hrest, List.map_cons]
    · intro h
      cases bs with
      | nil => simp at h
      | cons b bs =>
        obtain ⟨hb, hrest⟩ := List.cons.inj h
        rw [hb, ih.mpr hrest]
        rfl

/-- If every value can be mapped then so can a list of them. -/
theorem exists_mapM_eq_ok {f : α → Except ε β} {as : List α} (h : ∀ a ∈ as, ∃ b, f a = .ok b) :
    ∃ bs, as.mapM f = .ok bs := by
  induction as with
  | nil => exact ⟨[], rfl⟩
  | cons a as ih =>
    obtain ⟨hfirst, hrest⟩ := List.forall_mem_cons.mp h
    obtain ⟨b, hb⟩ := hfirst
    obtain ⟨bs, hbs⟩ := ih hrest
    exact ⟨b :: bs, by simp [hb, hbs, bind, Except.bind, pure, Except.pure]⟩

/-- Mapping a list fails just if one of its members fails and all before it give values. -/
theorem mapM_eq_error_iff {f : α → Except ε β} {as : List α} {fault : ε} :
    as.mapM f = .error fault ↔ ∃ before a after, as = before ++ a :: after ∧
      (∀ a' ∈ before, ∃ b, f a' = .ok b) ∧ f a = .error fault := by
  constructor
  · intro h
    induction as with
    | nil => simp [pure, Except.pure] at h
    | cons a as ih =>
      rw [List.mapM_cons] at h
      cases ha : f a with
      | error first =>
        rw [ha] at h
        exact ⟨[], a, as, rfl, by simp, ha.trans (congrArg _ (Except.error.inj h))⟩
      | ok b =>
        cases hrest : as.mapM f with
        | error later =>
          rw [ha, hrest] at h
          obtain ⟨before, a', after, rfl, hbefore, hfault⟩ :=
            ih (hrest.trans (congrArg _ (Except.error.inj h)))
          exact ⟨a :: before, a', after, rfl, List.forall_mem_cons.mpr ⟨⟨b, ha⟩, hbefore⟩, hfault⟩
        | ok rest => simp [ha, hrest, bind, Except.bind, pure, Except.pure] at h
  · rintro ⟨before, a, after, rfl, hbefore, hfault⟩
    obtain ⟨bs, hbs⟩ := exists_mapM_eq_ok hbefore
    rw [List.mapM_append, hbs, List.mapM_cons, hfault]
    rfl

/-- What a list that was mapped has at a place is what the value there gives. -/
theorem exists_of_mapM_eq_ok {f : α → Except ε β} {as : List α} {bs : List β}
    (h : as.mapM f = .ok bs) {i : Nat} {b : β} (hb : bs[i]? = some b) :
    ∃ a, as[i]? = some a ∧ f a = .ok b := by
  have hplace := congrArg (·[i]?) (mapM_eq_ok_iff.mp h)
  simpa [hb] using hplace

/-- From a state with `P` a computation gives values and leaves states for which `Q` holds. -/
def Ensures (P : σ → Prop) (x : StateT σ (Except ε) α) (Q : α → σ → Prop) : Prop :=
  ∀ s, P s → ∀ a s', x s = .ok (a, s') → Q a s'

namespace Ensures

variable {P P' : σ → Prop} {x y : StateT σ (Except ε) α} {Q Q' : α → σ → Prop} {R : β → σ → Prop}

/-- Giving back a value ensures what holds of it already. -/
theorem pure {a : α} (h : ∀ s, P s → Q a s) : Ensures (ε := ε) P (Pure.pure a) Q := by
  intro s hs b s' heq
  obtain ⟨rfl, rfl⟩ := Prod.mk.inj (Except.ok.inj heq)
  exact h s hs

/-- What follows begins with what was ensured before it. -/
theorem bind {f : α → StateT σ (Except ε) β} (hx : Ensures P x Q)
    (hf : ∀ a, Ensures (Q a) (f a) R) : Ensures P (x >>= f) R := by
  intro s hs b s'' heq
  obtain ⟨⟨a, s'⟩, ha, hb⟩ := exists_of_bind_eq_ok heq
  exact hf a s' (hx s hs a s' ha) b s'' hb

/-- A result that is mapped ensures what holds of its image. -/
theorem map {f : α → β} (hx : Ensures P x fun a s => R (f a) s) : Ensures P (f <$> x) R := by
  intro s hs b s' heq
  obtain ⟨⟨a, s''⟩, ha, hb⟩ := exists_of_bind_eq_ok (x := x s) heq
  obtain ⟨rfl, rfl⟩ := Prod.mk.inj (Except.ok.inj hb)
  exact hx s hs a s'' ha

/-- A failure ensures everything. -/
theorem throw {fault : ε} : Ensures P (throw fault : StateT σ (Except ε) α) Q := by
  intro s _ a s' heq
  simp [MonadExcept.throw, throwThe, MonadExceptOf.throw, StateT.lift, Bind.bind, Except.bind]
    at heq

/-- Reading the state gives it back as it is. -/
theorem get : Ensures (ε := ε) P MonadState.get fun a s => P s ∧ a = s := by
  intro s hs a s' heq
  obtain ⟨rfl, rfl⟩ := Prod.mk.inj (Except.ok.inj heq)
  exact ⟨hs, rfl⟩

/-- Writing the state ensures what holds of the new one. -/
theorem set {s' : σ} {Q : PUnit → σ → Prop} (h : ∀ s, P s → Q ⟨⟩ s') :
    Ensures (ε := ε) P (MonadStateOf.set s') Q := by
  intro s hs a s'' heq
  obtain ⟨rfl, rfl⟩ := Prod.mk.inj (Except.ok.inj heq)
  exact h s hs

/-- Changing the state ensures what holds of the new one and of what is given back. -/
theorem modifyGet {f : σ → α × σ} (h : ∀ s, P s → Q (f s).1 (f s).2) :
    Ensures (ε := ε) P (MonadStateOf.modifyGet f) Q := by
  intro s hs a s' heq
  obtain ⟨rfl, rfl⟩ := Prod.mk.inj (Except.ok.inj heq)
  exact h s hs

/-- Changing the state ensures what holds of the new one. -/
theorem modify {f : σ → σ} {Q : PUnit → σ → Prop} (h : ∀ s, P s → Q ⟨⟩ (f s)) :
    Ensures (ε := ε) P (modify f) Q :=
  modifyGet h

/-- A value from outside leaves the state alone. -/
theorem lift {value : Except ε α} (h : ∀ a s, P s → value = .ok a → Q a s) :
    Ensures P (liftM value : StateT σ (Except ε) α) Q := by
  intro s hs a s' heq
  obtain ⟨b, hb, heq⟩ := exists_of_bind_eq_ok (x := value) heq
  obtain ⟨rfl, rfl⟩ := Prod.mk.inj (Except.ok.inj heq)
  exact h _ s hs hb

/-- A condition ensures what both of its sides do. -/
theorem ite {c : Prop} [Decidable c] (hx : c → Ensures P x Q) (hy : ¬ c → Ensures P y Q) :
    Ensures P (if c then x else y) Q := by
  split
  · next h => exact hx h
  · next h => exact hy h

/-- What is required may be more and what is ensured may be less. -/
theorem imp (h : Ensures P x Q) (hP : ∀ s, P' s → P s) (hQ : ∀ a s, Q a s → Q' a s) :
    Ensures P' x Q' :=
  fun s hs a s' heq => hQ a s' (h s (hP s hs) a s' heq)

/-- What does not depend on the state can be set apart. -/
theorem of_and {p : Prop} (h : p → Ensures P x Q) : Ensures (fun s => P s ∧ p) x Q :=
  fun s hs => h hs.2 s hs.1

end Ensures

end GrammarScan
