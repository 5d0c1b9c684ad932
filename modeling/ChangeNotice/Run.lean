import ChangeNotice.World

/-! # Runs

A run changes the world and either returns or unwinds; whatever it changed before
unwinding stays changed. Cleanup that is due in both cases is attached with
`ensuring`.
-/

namespace ChangeNotice

/-- Why a run did not return. -/
inductive Unwind where
  | panic (message : String)
  /-- Handlers called each other more deeply than was allowed for. -/
  | exhausted
deriving DecidableEq

def Run (α : Type) : Type := World → Except Unwind α × World

namespace Run

variable {α β : Type}

instance : Monad Run where
  pure a := fun w => (.ok a, w)
  bind m f := fun w =>
    match m w with
    | (.ok a, w) => f a w
    | (.error e, w) => (.error e, w)

def read (f : World → α) : Run α := fun w => (.ok (f w), w)

def change (f : World → World) : Run Unit := fun w => (.ok (), f w)

def note (m : Moment) : Run Unit := change (·.record m)

def unwind (e : Unwind) : Run α := fun w => (.error e, w)

def panic (message : String) : Run α := unwind (.panic message)

/-- Changes the world after the run, however the run ended. -/
def ensuring (run : Run α) (after : World → World) : Run α := fun w =>
  let (result, w) := run w
  (result, after w)

/-- Stops a panic, which becomes the message; a run that was cut short stays so. -/
def catching (run : Run Unit) : Run (Option String) := fun w =>
  match run w with
  | (.ok (), w) => (.ok none, w)
  | (.error (.panic message), w) => (.ok (some message), w)
  | (.error .exhausted, w) => (.error .exhausted, w)

def times : Nat → Run Unit → Run Unit
  | 0, _ => pure ()
  | n + 1, run => do
    run
    times n run

/-- Runs for every element in turn. -/
def each (run : β → Run Unit) : List β → Run Unit
  | [] => pure ()
  | b :: rest => do
    run b
    each run rest

/-- Holds an observer while the run lasts. -/
def holding (o : Name) (run : Run α) : Run α := do
  change (·.hold o)
  ensuring run (·.unhold o)

/-- Keeps a guard while the run lasts. -/
def keeping (guard : Nat) (run : Run α) : Run α := do
  change (·.keepGuard guard)
  ensuring run (·.leaveGuard guard)

@[simp]
theorem pure_apply (a : α) (w : World) : (pure a : Run α) w = (.ok a, w) := rfl

@[simp]
theorem read_apply (f : World → α) (w : World) : read f w = (.ok (f w), w) := rfl

@[simp]
theorem change_apply (f : World → World) (w : World) : change f w = (.ok (), f w) := rfl

theorem bind_apply (m : Run α) (f : α → Run β) (w : World) :
    (m >>= f) w =
      match m w with
      | (.ok a, w) => f a w
      | (.error e, w) => (.error e, w) := rfl

theorem bind_pure_apply (m : Run α) (f : α → β) (w : World) :
    (m >>= fun a => Pure.pure (f a)) w = ((m w).1.map f, (m w).2) := by
  rw [bind_apply]
  cases m w with
  | mk result v => cases result <;> rfl

theorem ensuring_apply (run : Run α) (after : World → World) (w : World) :
    ensuring run after w = ((run w).1, after (run w).2) := rfl

end Run

end ChangeNotice
