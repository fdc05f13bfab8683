/-
TowerOfHanoi/Proofs/Outcome.lean

Outcomes of checks.  Checks are made one after another and the first failure
is the result, so two things are worth knowing of each: which failures it can
end in, written

    FailsWith P check

for a property `P` that they all have, and what a success means.  Both are
chained as the checks are (`FailsWith.bind`, `bind_eq_ok_iff`).  Of checks that
do not depend on each other it can be said which failure it is: the first one
that there is (`failure?_bind_const`).

Some checks stand among changes that are made in place, where a failure does
not take back what has been done.  Such a change is run on a state, and leaves
one behind in any case (`run_bind`).
-/
import TowerOfHanoi.Error

namespace TowerOfHanoi

/-! ### Failures -/

/-- A check that succeeds, or fails in a way that has the property. -/
inductive FailsWith {α : Type} (P : Error → Prop) : Except Error α → Prop
  | ok (a : α) : FailsWith P (.ok a)
  | error {e : Error} : P e → FailsWith P (.error e)

namespace FailsWith

variable {α β : Type} {P Q : Error → Prop} {r : Except Error α}

theorem of_error {e : Error} (h : FailsWith P r) (he : r = .error e) : P e := by
  subst he
  cases h with
  | error hP => exact hP

theorem imp (h : FailsWith P r) (hPQ : ∀ e, P e → Q e) : FailsWith Q r := by
  cases h with
  | ok a => exact .ok a
  | error hP => exact .error (hPQ _ hP)

/-- Of two checks in a row, the second is made only if the first succeeds. -/
theorem bind {f : α → Except Error β} (h : FailsWith P r) (hf : ∀ a, FailsWith P (f a)) :
    FailsWith P (r >>= f) := by
  cases h with
  | ok a => exact hf a
  | error hP => exact .error hP

end FailsWith

/-- The failure that a check ends in, if it fails. -/
def failure? {ε α : Type} : Except ε α → Option ε
  | .error e => some e
  | .ok _ => none

@[simp] theorem failure?_error {ε α : Type} (e : ε) : failure? (.error e : Except ε α) = some e := rfl

@[simp] theorem failure?_ok {ε α : Type} (a : α) : failure? (.ok a : Except ε α) = none := rfl

theorem failure?_eq_some_iff {ε α : Type} {r : Except ε α} {e : ε} :
    failure? r = some e ↔ r = .error e := by
  cases r <;> simp

/-- Two checks that do not depend on each other fail like the first of them that does. -/
theorem failure?_bind_const {ε α β : Type} (r : Except ε α) (r' : Except ε β) :
    failure? (r >>= fun _ => r') = (failure? r).or (failure? r') := by
  cases r <;> rfl

/-- Two checks in a row fail if the first does, or if it succeeds and the second fails. -/
theorem bind_eq_error_iff {ε α β : Type} {r : Except ε α} {f : α → Except ε β} {e : ε} :
    (r >>= f) = .error e ↔ r = .error e ∨ ∃ a, r = .ok a ∧ f a = .error e := by
  constructor
  · intro h
    cases r with
    | error e' =>
      cases h
      exact .inl rfl
    | ok a => exact .inr ⟨a, rfl, h⟩
  · rintro (rfl | ⟨a, rfl, h⟩)
    · rfl
    · exact h

/-! ### Successes -/

/-- Two checks in a row succeed if both do. -/
theorem bind_eq_ok_iff {ε α β : Type} {r : Except ε α} {f : α → Except ε β} {b : β} :
    (r >>= f) = .ok b ↔ ∃ a, r = .ok a ∧ f a = .ok b := by
  constructor
  · intro h
    cases r with
    | error e => cases h
    | ok a => exact ⟨a, rfl, h⟩
  · rintro ⟨a, rfl, h⟩
    exact h

theorem eq_ok_of_toOption {ε α : Type} {r : Except ε α} {a : α} (h : r.toOption = some a) :
    r = .ok a := by
  cases r with
  | error e => cases h
  | ok b => exact congrArg Except.ok (Option.some.inj h)

/-! ### Changes in place -/

section InPlace

variable {ε σ α β : Type}

/-- Of two changes in a row, the second is made only if the first succeeds, and starts from what the
first has left. -/
theorem run_bind (change : ExceptT ε (StateM σ) α) (next : α → ExceptT ε (StateM σ) β) (s : σ) :
    (change >>= next).run s =
      match change.run s with
      | (.error e, s) => (.error e, s)
      | (.ok a, s) => (next a).run s := by
  show ExceptT.bindCont next (change.run s).1 (change.run s).2 = _
  rcases change.run s with ⟨e | a, s'⟩ <;> rfl

/-- Of two actions in a row over two states, the second is taken only if the first succeeds. -/
theorem run_run_bind {τ : Type} (action : ExceptT ε (StateT σ (StateM τ)) α)
    (next : α → ExceptT ε (StateT σ (StateM τ)) β) (s : σ) (u : τ) :
    ((action >>= next).run s).run u =
      match (action.run s).run u with
      | ((.error e, s), u) => ((.error e, s), u)
      | ((.ok a, s), u) => ((next a).run s).run u := by
  show ExceptT.bindCont next ((action.run s).run u).1.1 ((action.run s).run u).1.2
    ((action.run s).run u).2 = _
  rcases (action.run s).run u with ⟨⟨e | a, s'⟩, u'⟩ <;> rfl

/-- A check changes nothing. -/
theorem run_check (r : Except ε α) (s : σ) : (liftM r : ExceptT ε (StateM σ) α).run s = (r, s) :=
  rfl

/-- Looking at the state changes nothing. -/
theorem run_get (s : σ) : (get : ExceptT ε (StateM σ) σ).run s = (.ok s, s) :=
  rfl

end InPlace

end TowerOfHanoi
