import PairedTls.World

namespace PairedTls

theorem bind_eq_ok {ε α β : Type} {x : Except ε α} {f : α → Except ε β} {b : β} (h : x >>= f = .ok b) :
    ∃ a, x = .ok a ∧ f a = .ok b := by
  cases x with
  | error e => cases h
  | ok a => exact ⟨a, rfl, h⟩

theorem bind_of_ok {ε α β : Type} {x : Except ε α} {f : α → Except ε β} {a : α} {r : Except ε β} (hx : x = .ok a)
    (hf : f a = r) : x >>= f = r := by
  rw [hx]
  exact hf

theorem bind_of_error {ε α β : Type} {x : Except ε α} {f : α → Except ε β} {e : ε} (hx : x = .error e) :
    x >>= f = .error e := by
  rw [hx]
  rfl

theorem mapError_eq_ok {ε ε' α : Type} {x : Except ε α} {f : ε → ε'} {a : α} : x.mapError f = .ok a ↔ x = .ok a := by
  constructor
  · intro h
    cases x with
    | error e => cases h
    | ok b =>
        cases h
        rfl
  · rintro rfl
    rfl

namespace Act

variable {ε α β : Type}

def exec (a : Act ε α) (w : World) : Except ε α × World :=
  a.run.run w

@[simp] theorem exec_pure (a : α) (w : World) : exec (pure a : Act ε α) w = (.ok a, w) := rfl

@[simp] theorem exec_throw (e : ε) (w : World) : exec (throw e : Act ε α) w = (.error e, w) := rfl

@[simp] theorem exec_get (w : World) : exec (get : Act ε World) w = (.ok w, w) := rfl

theorem exec_bind (a : Act ε α) (f : α → Act ε β) (w : World) :
    exec (a >>= f) w =
      match exec a w with
      | (.ok x, w') => exec (f x) w'
      | (.error e, w') => (.error e, w') := by
  change (ExceptT.bindCont f (exec a w).1) (exec a w).2 = _
  rcases exec a w with ⟨⟨e⟩ | ⟨x⟩, w'⟩ <;> rfl

theorem exec_bind_ok {a : Act ε α} {w w' : World} {x : α} (h : exec a w = (.ok x, w')) (f : α → Act ε β) :
    exec (a >>= f) w = exec (f x) w' := by
  rw [exec_bind, h]

theorem exec_bind_eq_ok {a : Act ε α} {f : α → Act ε β} {w w' : World} {y : β} (h : exec (a >>= f) w = (.ok y, w')) :
    ∃ x w₁, exec a w = (.ok x, w₁) ∧ exec (f x) w₁ = (.ok y, w') := by
  rw [exec_bind] at h
  rcases hexec : exec a w with ⟨⟨e⟩ | ⟨x⟩, w₁⟩
  · simp only [hexec] at h
    cases h
  · simp only [hexec] at h
    exact ⟨x, w₁, rfl, h⟩

theorem exec_tryCatch (a : Act ε α) (f : ε → Act ε α) (w : World) :
    exec (tryCatch a f) w =
      match exec a w with
      | (.ok x, w') => (.ok x, w')
      | (.error e, w') => exec (f e) w' := by
  simp only [exec, ExceptT.run, StateT.run, tryCatch, tryCatchThe, MonadExceptOf.tryCatch, ExceptT.tryCatch, ExceptT.mk,
    bind, StateT.bind]
  rcases a w with ⟨⟨e⟩ | ⟨x⟩, w'⟩ <;> rfl

def noted (event : Log.Event) (w : World) : World :=
  { w with log := w.log ++ [event] }

@[simp] theorem exec_log (event : Log.Event) (w : World) : exec (log event : Act ε Unit) w = (.ok (), noted event w) :=
  rfl

@[simp] theorem exec_ofExcept (r : Except ε α) (w : World) : exec (ofExcept r) w = (r, w) := by
  cases r <;> rfl

/-- Nothing but lines in the log came of it. -/
def OnlyLogged (w w' : World) : Prop :=
  ∃ log, w' = { w with log := log }

theorem onlyLogged_refl (w : World) : OnlyLogged w w := ⟨w.log, rfl⟩

theorem onlyLogged_noted (event : Log.Event) (w : World) : OnlyLogged w (noted event w) := ⟨w.log ++ [event], rfl⟩

theorem OnlyLogged.trans {w w' w'' : World} (h : OnlyLogged w w') (h' : OnlyLogged w' w'') : OnlyLogged w w'' := by
  obtain ⟨log, rfl⟩ := h
  obtain ⟨log', rfl⟩ := h'
  exact ⟨log', rfl⟩

def nextFault (w : World) : Option WriteFault :=
  w.writeFaults.head?.getD none

theorem exec_writeFile (path : String) (content : Bytes) (w : World) :
    exec (writeFile path content : Act ε Files.WriteOutcome) w =
      (.ok (w.files.write path content (nextFault w)).2,
        { w with files := (w.files.write path content (nextFault w)).1, writeFaults := w.writeFaults.tail }) := rfl

end Act
end PairedTls
