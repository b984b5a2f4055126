import Typeahead.Value

/-!
# Tables and registries

What is kept by number, and what is kept by key.
-/

namespace Typeahead

/-! ## Tables

A table hands out numbers for what is put into it. Every number has a row;
those not handed out yet hold a default.
-/

/-- Rows by number. -/
structure Table (α : Type) where
  row : Nat → α
  /-- How many rows have been handed out. -/
  size : Nat

namespace Table

variable {α : Type}

def filled (default : α) : Table α :=
  ⟨fun _ => default, 0⟩

def set (t : Table α) (id : Nat) (a : α) : Table α :=
  { t with row := fun other => if other = id then a else t.row other }

/-- Hands out the next row. -/
def push (t : Table α) (a : α) : Table α :=
  { t.set t.size a with size := t.size + 1 }

@[simp] theorem row_set_self (t : Table α) (id : Nat) (a : α) : (t.set id a).row id = a := by
  simp [set]

theorem row_set_of_ne (t : Table α) {id other : Nat} (a : α) (h : other ≠ id) :
    (t.set id a).row other = t.row other := by
  simp [set, h]

@[simp] theorem size_set (t : Table α) (id : Nat) (a : α) : (t.set id a).size = t.size := rfl

@[simp] theorem row_push_self (t : Table α) (a : α) : (t.push a).row t.size = a := by
  simp [push, set]

theorem row_push_of_ne (t : Table α) {other : Nat} (a : α) (h : other ≠ t.size) :
    (t.push a).row other = t.row other := by
  simp [push, set, h]

@[simp] theorem size_push (t : Table α) (a : α) : (t.push a).size = t.size + 1 := rfl

end Table

/-! ## Registries

A registry keeps what was last registered under each key.
-/

structure Registry (α : Type) where
  entries : List (Key × α) := []

namespace Registry

variable {α : Type}

def find? (r : Registry α) (key : Key) : Option α :=
  r.entries.lookup key

/-- What is registered under a value, which has to have a key. -/
def lookUp (r : Registry α) (v : Value) : Except Misfit (Option α) :=
  v.key.map r.find?

def register (r : Registry α) (key : Key) (a : α) : Registry α :=
  ⟨(key, a) :: r.entries.filter (·.1 ≠ key)⟩

@[simp] theorem lookUp_text (r : Registry α) (name : String) :
    r.lookUp (.text name) = .ok (r.find? (.text name)) := rfl

@[simp] theorem find?_register_self (r : Registry α) (key : Key) (a : α) :
    (r.register key a).find? key = some a := by
  simp [find?, register]

theorem find?_register_of_ne (r : Registry α) {key other : Key} (a : α) (h : other ≠ key) :
    (r.register key a).find? other = r.find? other := by
  have hkeep : ∀ entries : List (Key × α),
      (entries.filter (·.1 ≠ key)).lookup other = entries.lookup other := by
    intro entries
    induction entries with
    | nil => rfl
    | cons e rest ih =>
      obtain ⟨k, value⟩ := e
      by_cases hk : k = key
      · subst hk
        have hb : (other == k) = false := by simpa using h
        simpa [List.lookup_cons, hb] using ih
      · cases hb : other == k <;> simp_all [List.lookup_cons]
  have hb : (other == key) = false := by simpa using h
  simpa [find?, register, List.lookup_cons, hb] using hkeep r.entries

end Registry

end Typeahead
