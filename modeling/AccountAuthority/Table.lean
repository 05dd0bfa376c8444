/-!
# Tables

A table is a list of rows, oldest first, no two of which have the same key.  Its view is
`rows`: every operation is a list operation on it.  Since the rows carry their keys, replacing
a row keeps its place, and the order in which rows are listed is the order in which their keys
first came in.
-/

namespace AccountAuthority

/-- Rows of type `α` are told apart by a key of type `κ`. -/
class Keyed (α : Type) (κ : outParam Type) where
  key : α → κ

export Keyed (key)

/-- Rows with distinct keys, in the order in which the keys came in. -/
structure Table (α : Type) {κ : Type} [Keyed α κ] where
  rows : List α
  distinct : (rows.map key).Nodup

namespace Table

variable {α κ : Type} [Keyed α κ]

def empty : Table α := ⟨[], List.nodup_nil⟩

instance : EmptyCollection (Table α) := ⟨empty⟩
instance : Inhabited (Table α) := ⟨empty⟩
instance : Membership α (Table α) := ⟨fun t a => a ∈ t.rows⟩

/-- Change every row in place; a row keeps its key. -/
def map (t : Table α) (f : α → α) (h : ∀ a, key (f a) = key a) : Table α where
  rows := t.rows.map f
  distinct := by
    have : key ∘ f = key := funext h
    rw [List.map_map, this]
    exact t.distinct

def filter (t : Table α) (p : α → Bool) : Table α where
  rows := t.rows.filter p
  distinct := t.distinct.sublist (List.filter_sublist.map key)

/-- The oldest row that satisfies `p`. -/
def find? (t : Table α) (p : α → Bool) : Option α :=
  t.rows.find? p

variable [DecidableEq κ]

def get? (t : Table α) (k : κ) : Option α :=
  t.rows.find? fun a => key a = k

def contains (t : Table α) (k : κ) : Bool :=
  t.rows.any fun a => key a = k

/-- Put `a` in the place of the row with its key, or at the end if there is none. -/
def insert (t : Table α) (a : α) : Table α :=
  if h : key a ∈ t.rows.map key then
    { rows := t.rows.map fun b => if key b = key a then a else b
      distinct := by
        have keep : (t.rows.map fun b => if key b = key a then a else b).map key =
            t.rows.map key := by
          rw [List.map_map]
          refine List.map_congr_left fun b _ => ?_
          by_cases hb : key b = key a <;> simp [hb]
        rw [keep]
        exact t.distinct }
  else
    { rows := t.rows ++ [a]
      distinct := by
        rw [List.map_append]
        refine List.nodup_append.2 ⟨t.distinct, by simp, ?_⟩
        intro k hk l hl hkl
        simp only [List.map_cons, List.map_nil, List.mem_singleton] at hl
        exact h (by rw [← hl, ← hkl]; exact hk) }

/-- Change the row with the key `k` in place; it keeps its key. -/
def update (t : Table α) (k : κ) (f : α → α) (h : ∀ a, key (f a) = key a) : Table α :=
  t.map (fun a => if key a = k then f a else a) (by intro a; split <;> simp [h])

def erase (t : Table α) (k : κ) : Table α :=
  t.filter fun a => key a ≠ k

end Table

end AccountAuthority
