import ImageRelease.Failure
/-!
Actions on a state that may fail.

An action ends with a value or a failure, and it leaves a state either way: what was done before a
failure stays done. Each way to build an action has a lemma `run_…` that says what it does to a
state; `run_bind_of_ok` and `run_bind_of_error` are the two ways in which a sequence goes on.
-/

namespace ImageRelease

structure Act (σ α : Type) where
  run : σ → Except Failure α × σ

namespace Act

variable {σ τ α β : Type}

def done (a : α) : Act σ α := ⟨fun s => (.ok a, s)⟩

def fail (e : Failure) : Act σ α := ⟨fun s => (.error e, s)⟩

def andThen (x : Act σ α) (f : α → Act σ β) : Act σ β := ⟨fun s =>
  match x.run s with
  | (.ok a, s) => (f a).run s
  | (.error e, s) => (.error e, s)⟩

instance : Monad (Act σ) where
  pure := done
  bind := andThen

def state : Act σ σ := ⟨fun s => (.ok s, s)⟩

def modify (f : σ → σ) : Act σ Unit := ⟨fun s => (.ok (), f s)⟩

def ofExcept : Except Failure α → Act σ α
  | .ok a => done a
  | .error e => fail e

def ofRejection : Except Rejection α → Act σ α
  | .ok a => done a
  | .error r => fail (.rejected r)

/-- Does something more when an action fails, and fails all the same. -/
def onFailure (x : Act σ α) (more : Failure → Act σ Unit) : Act σ α := ⟨fun s =>
  match x.run s with
  | (.ok a, s) => (.ok a, s)
  | (.error e, s) =>
    match (more e).run s with
    | (.ok (), s) => (.error e, s)
    | (.error e, s) => (.error e, s)⟩

/-- The failure of an action as a value. -/
def attempt (x : Act σ α) : Act σ (Except Failure α) := ⟨fun s =>
  (.ok (x.run s).1, (x.run s).2)⟩

/-- An action on a part of the state. -/
def within (get : σ → τ) (set : τ → σ → σ) (x : Act τ α) : Act σ α := ⟨fun s =>
  ((x.run (get s)).1, set (x.run (get s)).2 s)⟩

@[simp] theorem run_pure (a : α) (s : σ) : (pure a : Act σ α).run s = (.ok a, s) := rfl

@[simp] theorem run_done (a : α) (s : σ) : (done a : Act σ α).run s = (.ok a, s) := rfl

@[simp] theorem run_fail (e : Failure) (s : σ) : (fail e : Act σ α).run s = (.error e, s) := rfl

@[simp] theorem run_state (s : σ) : (state : Act σ σ).run s = (.ok s, s) := rfl

@[simp] theorem run_modify (f : σ → σ) (s : σ) : (modify f).run s = (.ok (), f s) := rfl

theorem run_bind (x : Act σ α) (f : α → Act σ β) (s : σ) :
    (x >>= f).run s = match x.run s with
      | (.ok a, s) => (f a).run s
      | (.error e, s) => (.error e, s) := rfl

theorem run_bind_of_ok {x : Act σ α} {f : α → Act σ β} {s t : σ} {a : α}
    (h : x.run s = (.ok a, t)) : (x >>= f).run s = (f a).run t := by
  simp [run_bind, h]

theorem run_bind_of_error {x : Act σ α} {f : α → Act σ β} {s t : σ} {e : Failure}
    (h : x.run s = (.error e, t)) : (x >>= f).run s = (.error e, t) := by
  simp [run_bind, h]

theorem ofExcept_ok_bind (a : α) (f : α → Act σ β) : (ofExcept (.ok a) >>= f) = f a := rfl

theorem ofExcept_error_bind (e : Failure) (f : α → Act σ β) :
    (ofExcept (.error e) >>= f) = fail e := rfl

theorem run_bind_pure (x : Act σ α) (f : α → β) (s : σ) :
    (x >>= fun a => pure (f a)).run s = ((x.run s).1.map f, (x.run s).2) := by
  rw [run_bind]
  rcases x.run s with ⟨_ | _, _⟩ <;> rfl

theorem run_bind_ofExcept (x : Act σ α) (f : α → Except Failure β) (s : σ) :
    (x >>= fun a => ofExcept (f a)).run s = ((x.run s).1.bind f, (x.run s).2) := by
  rw [run_bind]
  rcases x.run s with ⟨_ | a, _⟩
  · rfl
  · cases h : f a <;> simp [Except.bind, ofExcept, done, fail, h]

/-- A sequence ends with its first part, or goes on with what that gave. -/
theorem run_bind_cases (x : Act σ α) (f : α → Act σ β) (s : σ) :
    (∃ e t, x.run s = (.error e, t) ∧ (x >>= f).run s = (.error e, t)) ∨
      ∃ a t, x.run s = (.ok a, t) ∧ (x >>= f).run s = (f a).run t := by
  rcases h : x.run s with ⟨_ | _, t⟩
  · exact .inl ⟨_, t, rfl, run_bind_of_error h⟩
  · exact .inr ⟨_, t, rfl, run_bind_of_ok h⟩

/-- A sequence succeeds if both parts do. -/
theorem run_bind_eq_ok {x : Act σ α} {f : α → Act σ β} {s u : σ} {b : β} :
    (x >>= f).run s = (.ok b, u) ↔ ∃ a t, x.run s = (.ok a, t) ∧ (f a).run t = (.ok b, u) := by
  constructor
  · intro h
    rcases run_bind_cases x f s with ⟨e, t, hx, hb⟩ | ⟨a, t, hx, hb⟩
    · exact nomatch hb.symm.trans h
    · exact ⟨a, t, hx, hb.symm.trans h⟩
  · rintro ⟨a, t, hx, hf⟩
    rw [run_bind_of_ok hx, hf]

/-- Where the first part of a sequence goes on to something sure, a failure is one of the first
part. -/
theorem run_error_of_sure {x : Act σ α} {f : α → Act σ β} {s u : σ} {e : Failure}
    (sure : ∀ a t, x.run s = (.ok a, t) → ((f a).run t).1.isOk = true)
    (h : (x >>= f).run s = (.error e, u)) : x.run s = (.error e, u) := by
  rcases run_bind_cases x f s with ⟨e', t, hx, hb⟩ | ⟨a, t, hx, hb⟩
  · rw [hb] at h
    cases h
    exact hx
  · have ok := sure a t hx
    rw [← hb, h] at ok
    cases ok

theorem isOk_before_pure {x : Act σ α} {s : σ} (h : (x.run s).1.isOk = true) (f : α → β) :
    ((x >>= fun a => pure (f a)).run s).1.isOk = true := by
  rw [run_bind_pure]
  rcases hx : (x.run s).1 with e | a
  · rw [hx] at h
    cases h
  · rfl

@[ext] theorem ext {x y : Act σ α} (h : ∀ s, x.run s = y.run s) : x = y := by
  cases x; cases y; exact congrArg mk (funext h)

instance : LawfulMonad (Act σ) := by
  refine LawfulMonad.mk' _ (fun x => ext fun s => ?_) (fun _ _ => rfl)
    (fun x f g => ext fun s => ?_)
  · change (x >>= fun a => pure a).run s = _
    rcases run_bind_cases x (fun a => pure a) s with ⟨e, t, h, hb⟩ | ⟨a, t, h, hb⟩ <;> rw [hb, h]
    rfl
  · rcases run_bind_cases x f s with ⟨e, t, h, hb⟩ | ⟨a, t, h, hb⟩
    · rw [run_bind_of_error hb, run_bind_of_error h]
    · rw [run_bind_of_ok h, run_bind, hb]
      rfl

theorem run_onFailure_of_ok {x : Act σ α} {more : Failure → Act σ Unit} {s t : σ} {a : α}
    (h : x.run s = (.ok a, t)) : (x.onFailure more).run s = (.ok a, t) := by
  simp [onFailure, h]

/-- What more is done on a failure leaves it as it is, unless it fails itself. -/
theorem run_onFailure_of_error {x : Act σ α} {more : Failure → Act σ Unit} {s t : σ} {e : Failure}
    (h : x.run s = (.error e, t)) :
    (x.onFailure more).run s =
      match (more e).run t with
      | (.ok (), u) => (.error e, u)
      | (.error e, u) => (.error e, u) := by
  simp only [onFailure, h]

theorem run_onFailure_eq_ok {x : Act σ α} {more : Failure → Act σ Unit} {s t : σ} {a : α} :
    (x.onFailure more).run s = (.ok a, t) ↔ x.run s = (.ok a, t) := by
  rcases h : x.run s with ⟨e | b, u⟩
  · rw [run_onFailure_of_error h]
    rcases (more e).run u with ⟨_ | _, _⟩ <;> simp
  · rw [run_onFailure_of_ok h]

@[simp] theorem run_ofExcept (r : Except Failure α) (s : σ) :
    (ofExcept r : Act σ α).run s = (r, s) := by
  cases r <;> rfl

@[simp] theorem run_ofRejection (r : Except Rejection α) (s : σ) :
    (ofRejection r : Act σ α).run s = (r.mapError .rejected, s) := by
  cases r <;> rfl

@[simp] theorem run_attempt (x : Act σ α) (s : σ) :
    x.attempt.run s = (.ok (x.run s).1, (x.run s).2) := rfl

@[simp] theorem run_within (get : σ → τ) (set : τ → σ → σ) (x : Act τ α) (s : σ) :
    (x.within get set).run s = ((x.run (get s)).1, set (x.run (get s)).2 s) := rfl

end Act

end ImageRelease
