/-!
# Actions

Work on a state that may fail: the state keeps what was done to it before a failure. An action on
one part of a pair is an action on the pair.
-/

namespace Courier

/-- Work on a state `σ` that gives a value or fails with an error `ε`. -/
abbrev Action (ε σ : Type) : Type → Type := ExceptT ε (StateM σ)

namespace Action

variable {ε δ σ τ α : Type}

def runOn (a : Action ε σ α) (s : σ) : Except ε α × σ := StateT.run (ExceptT.run a) s

def make (f : σ → Except ε α × σ) : Action ε σ α := ExceptT.mk f

def look (f : σ → α) : Action ε σ α := make fun s => (.ok (f s), s)

def change (f : σ → σ) : Action ε σ Unit := make fun s => (.ok (), f s)

def mapError (f : ε → δ) (a : Action ε σ α) : Action δ σ α := make fun s =>
  let (r, s) := a.runOn s
  (r.mapError f, s)

/-- Does `cleanUp` if the work fails, and fails in the same way. -/
def onFailure (a : Action ε σ α) (cleanUp : σ → σ) : Action ε σ α := make fun s =>
  match a.runOn s with
  | (.ok v, s) => (.ok v, s)
  | (.error e, s) => (.error e, cleanUp s)

def onFirst (a : Action ε σ α) : Action ε (σ × τ) α := make fun (s, t) =>
  let (r, s) := a.runOn s
  (r, (s, t))

def onSecond (a : Action ε τ α) : Action ε (σ × τ) α := make fun (s, t) =>
  let (r, t) := a.runOn t
  (r, (s, t))

@[simp] theorem runOn_make (f : σ → Except ε α × σ) (s : σ) : (make f).runOn s = f s := rfl

@[simp] theorem runOn_pure (v : α) (s : σ) : (pure v : Action ε σ α).runOn s = (.ok v, s) := rfl

@[simp] theorem runOn_lift (r : Except ε α) (s : σ) :
    runOn (ExceptT.mk (pure r) : Action ε σ α) s = (r, s) := rfl

@[simp] theorem runOn_look (f : σ → α) (s : σ) :
    (look f : Action ε σ α).runOn s = (.ok (f s), s) := rfl

@[simp] theorem runOn_mapError (f : ε → δ) (a : Action ε σ α) (s : σ) :
    (a.mapError f).runOn s = ((a.runOn s).1.mapError f, (a.runOn s).2) := rfl

@[simp] theorem runOn_onFirst (a : Action ε σ α) (s : σ) (t : τ) :
    (a.onFirst : Action ε (σ × τ) α).runOn (s, t) = ((a.runOn s).1, ((a.runOn s).2, t)) := rfl

@[simp] theorem runOn_onSecond (a : Action ε τ α) (s : σ) (t : τ) :
    (a.onSecond : Action ε (σ × τ) α).runOn (s, t) = ((a.runOn t).1, (s, (a.runOn t).2)) := rfl

@[simp] theorem runOn_onFailure (a : Action ε σ α) (cleanUp : σ → σ) (s : σ) :
    (a.onFailure cleanUp).runOn s =
      match a.runOn s with
      | (.ok v, s) => (.ok v, s)
      | (.error e, s) => (.error e, cleanUp s) := rfl

theorem runOn_bind {β : Type} (a : Action ε σ α) (f : α → Action ε σ β) (s : σ) :
    (a >>= f).runOn s =
      match a.runOn s with
      | (.ok v, s) => (f v).runOn s
      | (.error e, s) => (.error e, s) := by
  show (ExceptT.bindCont f (a s).1 (a s).2 : Except ε β × σ) = _
  unfold runOn StateT.run ExceptT.run
  generalize (a s : Except ε α × σ) = r
  obtain ⟨v | e, t⟩ := r <;> rfl

theorem runOn_bind_of_ok {β : Type} {a : Action ε σ α} {f : α → Action ε σ β} {s t : σ} {v : α}
    (h : a.runOn s = (.ok v, t)) : (a >>= f).runOn s = (f v).runOn t := by
  rw [runOn_bind, h]

end Action

end Courier
