import MeterUplink.Json
import Mathlib.Data.List.Forall2

namespace MeterUplink

/-! Documents that are edited by hand. Members are taken out of the objects and unknown ones are
put in, and the values of two documents are compared path by path. -/

namespace Json

/-- The value that stands at a path of names. An object is no value of its own, its members stand
at longer paths. -/
def value? : List String → Json → Option Json
  | [], .object _ => none
  | [], value => some value
  | name :: path, .object members => (members.lookup name).bind (value? path)
  | _ :: _, _ => none

def isObject : Json → Bool
  | .object _ => true
  | _ => false

/-- A value that has no parts. -/
def isLeaf : Json → Bool
  | .object _ | .list _ => false
  | _ => true

theorem isObject_of_isLeaf {value : Json} (leaf : value.isLeaf = true) :
    value.isObject = false := by
  cases value <;> simp_all [isLeaf, isObject]

theorem value?_nil_of_not_isObject {value : Json} (single : value.isObject = false) :
    value.value? [] = some value := by
  cases value with
  | object members => cases single
  | _ => rfl

theorem value?_cons_of_not_isObject {value : Json} (single : value.isObject = false)
    (name : String) (path : List String) : value.value? (name :: path) = none := by
  cases value with
  | object members => cases single
  | _ => rfl

/-- None of the names stands at two members. Other names may. -/
def Once (names : List String) (members : List (String × Json)) : Prop :=
  ∀ name ∈ names, (members.filter (·.1 == name)).length ≤ 1

theorem mem_of_lookup {members : List (String × Json)} {name : String} {value : Json}
    (found : members.lookup name = some value) : (name, value) ∈ members := by
  obtain ⟨before, after, rfl, -⟩ := List.lookup_eq_some_iff.mp found
  simp

theorem Once.lookup {names : List String} {members : List (String × Json)} {name : String}
    {value : Json} (once : Once names members) (known : name ∈ names)
    (member : (name, value) ∈ members) : members.lookup name = some value := by
  cases found : members.lookup name with
  | none =>
    have different := List.lookup_eq_none_iff.mp found _ member
    simp at different
  | some other =>
    have first : (name, other) ∈ members.filter (·.1 == name) := by simp [mem_of_lookup found]
    have second : (name, value) ∈ members.filter (·.1 == name) := by simp [member]
    obtain ⟨single, only⟩ : ∃ single, members.filter (·.1 == name) = [single] :=
      List.length_eq_one_iff.mp
        (Nat.le_antisymm (once name known) (List.length_pos_of_mem first))
    rw [only, List.mem_singleton] at first second
    cases first.trans second.symm
    rfl

/-- An object that has kept its members and may have got more, under names of their own. -/
inductive Extended : Json → Json → Prop where
  | object {members edited : List (String × Json)} (once : Once (members.map Prod.fst) edited)
    (kept : members ⊆ edited) :
    Extended (.object members) (.object edited)

/-- A document after an edit of its objects. A member that is left has the name of one that was
there and holds the edited value of that one, or its name is unknown; objects in a list are only
extended. -/
inductive Edited : Json → Json → Prop where
  | leaf (value : Json) (leaf : value.isLeaf = true) : Edited value value
  | list {items edited : List Json} (extended : List.Forall₂ Extended items edited) :
    Edited (.list items) (.list edited)
  | object {members edited : List (String × Json)} (once : Once (members.map Prod.fst) edited)
    (below : ∀ original ∈ members, ∀ left ∈ edited, left.1 = original.1 →
      Edited original.2 left.2) :
    Edited (.object members) (.object edited)

theorem Extended.of_object {members : List (String × Json)} {value : Json}
    (extended : Extended (.object members) value) :
    ∃ edited, value = .object edited ∧ Once (members.map Prod.fst) edited ∧ members ⊆ edited := by
  cases extended with
  | object once kept => exact ⟨_, rfl, once, kept⟩

theorem Edited.eq_of_isLeaf {value edited : Json} (edit : Edited value edited)
    (leaf : value.isLeaf = true) : edited = value := by
  cases edit with
  | leaf => rfl
  | list | object => cases leaf

theorem Edited.of_object {members : List (String × Json)} {value : Json}
    (edit : Edited (.object members) value) :
    ∃ edited, value = .object edited ∧ Once (members.map Prod.fst) edited ∧
      ∀ original ∈ members, ∀ left ∈ edited, left.1 = original.1 →
        Edited original.2 left.2 := by
  cases edit with
  | leaf _ leaf => cases leaf
  | object once below => exact ⟨_, rfl, once, below⟩

/-- A result that has the original value where there still is one, and otherwise the default. -/
def Completes (present : Option Json) (original default result : Json) : Prop :=
  ∀ path, result.value? path =
    if (present.bind (value? path)).isSome then original.value? path else default.value? path

theorem completes_none (original default : Json) : Completes none original default default :=
  fun _ => rfl

theorem completes_of_not_isObject {value original default : Json}
    (value_single : value.isObject = false) (original_single : original.isObject = false)
    (default_single : default.isObject = false) :
    Completes (some value) original default original := by
  intro path
  cases path with
  | nil => simp [value?_nil_of_not_isObject value_single]
  | cons name path =>
    simp [value?_cons_of_not_isObject original_single,
      value?_cons_of_not_isObject default_single]

/-- The members of a result, name by name. -/
inductive CompletesMembers (edited : List (String × Json)) :
    (originals defaults results : List (String × Json)) → Prop where
  | nil : CompletesMembers edited [] [] []
  | cons {name : String} {original default result : Json}
    {originals defaults results : List (String × Json)}
    (head : Completes (edited.lookup name) original default result)
    (tail : CompletesMembers edited originals defaults results) :
    CompletesMembers edited ((name, original) :: originals) ((name, default) :: defaults)
      ((name, result) :: results)

theorem CompletesMembers.object {edited originals defaults results : List (String × Json)}
    (completes : CompletesMembers edited originals defaults results) :
    Completes (some (.object edited)) (.object originals) (.object defaults)
      (.object results) := by
  intro path
  cases path with
  | nil => rfl
  | cons name path =>
    show (results.lookup name).bind (value? path) =
      if ((edited.lookup name).bind (value? path)).isSome then
        (originals.lookup name).bind (value? path)
      else (defaults.lookup name).bind (value? path)
    induction completes with
    | nil => simp
    | @cons key original default result originals defaults results head tail ih =>
      by_cases same : name = key
      · subst same
        simpa only [List.lookup_cons_self, Option.bind_some] using head path
      · have different : (name == key) = false := by simpa using same
        simpa only [List.lookup_cons, different] using ih

end Json

end MeterUplink
