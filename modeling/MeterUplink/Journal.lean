namespace MeterUplink

/-! The journal of a computation: the records it emits, in order, whether it succeeds or fails.
A journaled computation is a plain value, so what it records can be compared between two runs. -/

inductive Level where
  | error
  | warn
  | info
  | debug
  | trace
deriving Repr, DecidableEq

namespace Level

def name : Level → String
  | error => "ERROR"
  | warn => "WARN"
  | info => "INFO"
  | debug => "DEBUG"
  | trace => "TRACE"

/-- Error is the most severe level, trace the least. -/
def rank : Level → Nat
  | error => 1
  | warn => 2
  | info => 3
  | debug => 4
  | trace => 5

end Level

/-- The part of the program that emits a record. -/
inductive Origin where
  | application
  | settings
  | registers
  | extraction
  | registerLine
  | encoding
  | chunking
  | session
  | serialLine
  /-- The driver of serial devices below the program. -/
  | deviceDriver
  | run
deriving Repr, DecidableEq

structure Record where
  level : Level
  origin : Origin
  text : String
deriving Repr, DecidableEq

/-- The outcome of a computation together with the records it emitted. -/
structure Journaled (ε α : Type) where
  records : List Record
  outcome : Except ε α

namespace Journaled

variable {ε ε' α β : Type}

def succeed (a : α) : Journaled ε α := ⟨[], .ok a⟩

def fail (e : ε) : Journaled ε α := ⟨[], .error e⟩

def ofExcept (outcome : Except ε α) : Journaled ε α := ⟨[], outcome⟩

/-- Emits one record. -/
def emit (level : Level) (origin : Origin) (text : String) : Journaled ε Unit :=
  ⟨[⟨level, origin, text⟩], .ok ()⟩

/-- The second computation starts only if the first one succeeded; its records come after. -/
def andThen (first : Journaled ε α) (next : α → Journaled ε β) : Journaled ε β :=
  match first.outcome with
  | .error e => ⟨first.records, .error e⟩
  | .ok a => ⟨first.records ++ (next a).records, (next a).outcome⟩

instance : Monad (Journaled ε) where
  pure := succeed
  bind := andThen

/-- Names the cause of a failure anew and keeps all else. -/
def mapError (rename : ε → ε') (computation : Journaled ε α) : Journaled ε' α :=
  ⟨computation.records, computation.outcome.mapError rename⟩

@[simp] theorem outcome_ofExcept (outcome : Except ε α) :
    (ofExcept outcome).outcome = outcome := rfl

/-- Outcomes compose as if nothing had been recorded. -/
@[simp] theorem outcome_bind (first : Journaled ε α) (next : α → Journaled ε β) :
    (first >>= next).outcome = first.outcome >>= fun a => (next a).outcome := by
  change (andThen first next).outcome = _
  unfold andThen
  cases first.outcome <;> rfl

end Journaled

end MeterUplink
