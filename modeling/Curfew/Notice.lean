/-!
Notices: what a run says about its work besides its result.

A told result is a result with the notices given on the way to it. The notices come first, so that a
fault keeps those that were given before it.
-/

namespace Curfew

inductive Level where
  | debug
  | info
  | warning
deriving DecidableEq

/-- The part of the program that gives a notice. -/
inductive Topic where
  | config
  | disk
  | tree
  | audit
deriving DecidableEq

structure Notice where
  level : Level
  topic : Topic
  text : String
deriving DecidableEq

/-- A result or a fault, with the notices given on the way to it. -/
structure Told (ε : Type) (α : Type) where
  notices : List Notice
  outcome : Except ε α

namespace Told

variable {ε α β : Type}

def ofExcept (outcome : Except ε α) : Told ε α := ⟨[], outcome⟩

/-- Gives one notice. -/
def tell (notice : Notice) : Told ε Unit := ⟨[notice], .ok ()⟩

/-- Goes on with a result, and not at all after a fault. -/
def andThen (t : Told ε α) (f : α → Told ε β) : Told ε β :=
  match t.outcome with
  | .error fault => ⟨t.notices, .error fault⟩
  | .ok a => ⟨t.notices ++ (f a).notices, (f a).outcome⟩

instance : Monad (Told ε) where
  pure a := ofExcept (.ok a)
  bind := andThen

/-- Stops with a fault. -/
def fail (fault : ε) : Told ε α := ofExcept (.error fault)

/-- The same with faults of another kind. -/
def mapFault {ε' : Type} (f : ε → ε') (t : Told ε α) : Told ε' α :=
  ⟨t.notices, t.outcome.mapError f⟩

@[simp]
theorem outcome_pure (a : α) : (pure a : Told ε α).outcome = .ok a := rfl

@[simp]
theorem outcome_ofExcept (x : Except ε α) : (ofExcept x).outcome = x := rfl

@[simp]
theorem outcome_tell (notice : Notice) : (tell notice : Told ε Unit).outcome = .ok () := rfl

@[simp]
theorem outcome_fail (fault : ε) : (fail fault : Told ε α).outcome = .error fault := rfl

/-- Notices do not bear on the outcome. -/
@[simp]
theorem outcome_bind (t : Told ε α) (f : α → Told ε β) :
    (t >>= f).outcome = t.outcome >>= fun a => (f a).outcome := by
  show (andThen t f).outcome = _
  unfold andThen
  cases t.outcome <;> rfl

end Told

end Curfew
