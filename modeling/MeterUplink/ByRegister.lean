import MeterUplink.Register

namespace MeterUplink

/-! Values kept one for each register, at most. -/

structure ByRegister (α : Type) where
  get? : Register → Option α

namespace ByRegister

variable {α : Type}

instance : EmptyCollection (ByRegister α) := ⟨⟨fun _ => none⟩⟩

/-- A value put under a register replaces the one that was there. -/
def insert (values : ByRegister α) (register : Register) (value : α) : ByRegister α :=
  ⟨fun other => if other = register then some value else values.get? other⟩

def contains (values : ByRegister α) (register : Register) : Bool := (values.get? register).isSome

/-- The values with their registers, in the order of all registers. -/
def entries (values : ByRegister α) : List (Register × α) :=
  Register.all.filterMap fun register => (values.get? register).map (register, ·)

def size (values : ByRegister α) : Nat := values.entries.length

/-- Later entries replace earlier ones. -/
def ofList (entries : List (Register × α)) : ByRegister α :=
  entries.foldl (fun values entry => values.insert entry.1 entry.2) ∅

@[ext] theorem ext {first second : ByRegister α}
    (same : ∀ register, first.get? register = second.get? register) : first = second := by
  cases first; cases second
  exact congrArg mk (funext same)

@[simp] theorem get?_empty (register : Register) :
    (∅ : ByRegister α).get? register = none := rfl

@[simp] theorem get?_insert (values : ByRegister α) (register other : Register) (value : α) :
    (values.insert register value).get? other =
      if other = register then some value else values.get? other := rfl

end ByRegister

end MeterUplink
