import AccountAuthority.Table
import Mathlib.Data.List.Nodup

/-!
# Reading tables after changes

A table is seen through two readings: which rows it lists, and which row has a
given key.  Each operation on tables gets one equation or equivalence for
either reading, so that later proofs never open a table.
-/

namespace AccountAuthority.Table

variable {α κ : Type} [Keyed α κ]

theorem eq_of_key_eq
    {t : Table α} {a b : α} (ha : a ∈ t.rows) (hb : b ∈ t.rows)
    (hkey : key a = key b) : a = b :=
  List.inj_on_of_nodup_map t.distinct ha hb hkey

@[simp] theorem rows_map
    (t : Table α) (f : α → α) (hf : ∀ a, key (f a) = key a) :
    (t.map f hf).rows = t.rows.map f := rfl

@[simp] theorem rows_filter (t : Table α) (p : α → Bool) :
    (t.filter p).rows = t.rows.filter p := rfl

theorem ext_rows {t u : Table α} (h : t.rows = u.rows) : t = u := by
  cases t
  cases u
  simpa using h

variable [DecidableEq κ]

theorem get?_eq_some_iff {t : Table α} {k : κ} {a : α} :
    t.get? k = some a ↔ a ∈ t.rows ∧ key a = k := by
  constructor
  · intro h
    exact ⟨List.mem_of_find?_eq_some h, by simpa using List.find?_some h⟩
  · rintro ⟨ha, rfl⟩
    cases h : t.get? (key a) with
    | none =>
        have hnone := List.find?_eq_none.mp h a ha
        simp at hnone
    | some b =>
        have hb : b ∈ t.rows := List.mem_of_find?_eq_some h
        have hkey : key b = key a := by simpa using List.find?_some h
        rw [eq_of_key_eq hb ha hkey]

theorem get?_key {t : Table α} {a : α} (ha : a ∈ t.rows) :
    t.get? (key a) = some a :=
  get?_eq_some_iff.mpr ⟨ha, rfl⟩

theorem get?_eq_none_iff {t : Table α} {k : κ} :
    t.get? k = none ↔ ∀ a ∈ t.rows, key a ≠ k := by
  simp [get?]

theorem get?_filter_eq_some {t : Table α} {p : α → Bool} {k : κ} {a : α} :
    (t.filter p).get? k = some a ↔ t.get? k = some a ∧ p a = true := by
  rw [get?_eq_some_iff, get?_eq_some_iff, rows_filter, List.mem_filter]
  exact and_right_comm

theorem get?_map
    (t : Table α) (f : α → α) (hf : ∀ a, key (f a) = key a) (k : κ) :
    (t.map f hf).get? k = (t.get? k).map f := by
  simp only [get?, rows_map, List.find?_map]
  congr 2
  funext a
  simp [hf]

@[simp] theorem rows_update
    (t : Table α) (k : κ) (f : α → α) (hf : ∀ a, key (f a) = key a) :
    (t.update k f hf).rows =
      t.rows.map fun a => if key a = k then f a else a := rfl

/-- Insertion under a new key appends the row. -/
theorem rows_insert_of_get?_eq_none
    {t : Table α} {a : α} (h : t.get? (key a) = none) :
    (t.insert a).rows = t.rows ++ [a] := by
  have hnot : key a ∉ t.rows.map key := by
    intro hmem
    obtain ⟨b, hb, hkey⟩ := List.mem_map.mp hmem
    exact get?_eq_none_iff.mp h b hb hkey
  simp [insert, hnot]

/-- Insertion under a key in use replaces the row that has it. -/
theorem rows_insert_of_mem
    {t : Table α} {a b : α} (hb : b ∈ t.rows) (hkey : key b = key a) :
    (t.insert a).rows =
      t.rows.map fun c => if key c = key a then a else c := by
  have hmem : key a ∈ t.rows.map key :=
    List.mem_map.mpr ⟨b, hb, hkey⟩
  simp only [insert, dif_pos hmem]

/-- Insertion of a row that is there changes nothing. -/
theorem insert_of_mem {t : Table α} {a : α} (ha : a ∈ t.rows) :
    t.insert a = t := by
  apply ext_rows
  rw [rows_insert_of_mem ha rfl]
  conv_rhs => rw [← List.map_id t.rows]
  refine List.map_congr_left fun b hb => ?_
  by_cases hkey : key b = key a
  · rw [if_pos hkey]
    exact eq_of_key_eq ha hb hkey.symm
  · rw [if_neg hkey]
    rfl

theorem mem_rows_insert {t : Table α} {a b : α} :
    b ∈ (t.insert a).rows ↔ b = a ∨ (b ∈ t.rows ∧ key b ≠ key a) := by
  cases h : t.get? (key a) with
  | none =>
      rw [rows_insert_of_get?_eq_none h, List.mem_append, List.mem_singleton]
      have hnew := get?_eq_none_iff.mp h
      constructor
      · rintro (hb | rfl)
        · exact Or.inr ⟨hb, hnew b hb⟩
        · exact Or.inl rfl
      · rintro (rfl | ⟨hb, -⟩)
        · exact Or.inr rfl
        · exact Or.inl hb
  | some c =>
      obtain ⟨hc, hkey⟩ := get?_eq_some_iff.mp h
      rw [rows_insert_of_mem hc hkey, List.mem_map]
      constructor
      · rintro ⟨d, hd, rfl⟩
        by_cases hda : key d = key a
        · exact Or.inl (by rw [if_pos hda])
        · rw [if_neg hda]
          exact Or.inr ⟨hd, hda⟩
      · rintro (rfl | ⟨hb, hba⟩)
        · exact ⟨c, hc, by rw [if_pos hkey]⟩
        · exact ⟨b, hb, by rw [if_neg hba]⟩

theorem get?_insert (t : Table α) (a : α) (k : κ) :
    (t.insert a).get? k = if k = key a then some a else t.get? k := by
  by_cases hk : k = key a
  · rw [if_pos hk]
    exact get?_eq_some_iff.mpr ⟨mem_rows_insert.mpr (Or.inl rfl), hk.symm⟩
  · rw [if_neg hk]
    apply Option.ext
    intro b
    rw [get?_eq_some_iff, get?_eq_some_iff, mem_rows_insert]
    constructor
    · rintro ⟨rfl | ⟨hb, -⟩, hbk⟩
      · exact absurd hbk.symm hk
      · exact ⟨hb, hbk⟩
    · rintro ⟨hb, hbk⟩
      exact ⟨Or.inr ⟨hb, fun hba => hk (hbk.symm.trans hba)⟩, hbk⟩

theorem get?_erase (t : Table α) (k k' : κ) :
    (t.erase k).get? k' = if k' = k then none else t.get? k' := by
  apply Option.ext
  intro a
  rw [erase, get?_filter_eq_some, get?_eq_some_iff]
  by_cases hk : k' = k
  · rw [if_pos hk]
    simp only [reduceCtorEq, iff_false]
    rintro ⟨⟨-, hkey⟩, hne⟩
    simp [hkey, hk] at hne
  · rw [if_neg hk, get?_eq_some_iff]
    constructor
    · exact And.left
    · rintro ⟨ha, hkey⟩
      exact ⟨⟨ha, hkey⟩, by simp [hkey, hk]⟩

/-- Changing the row of one key is inserting the changed row. -/
theorem update_eq_insert
    {t : Table α} {a : α} (ha : a ∈ t.rows) (f : α → α)
    (hf : ∀ a, key (f a) = key a) :
    t.update (key a) f hf = t.insert (f a) := by
  apply ext_rows
  rw [rows_update, rows_insert_of_mem ha (hf a).symm]
  refine List.map_congr_left fun b hb => ?_
  rw [hf a]
  by_cases hkey : key b = key a
  · rw [if_pos hkey, if_pos hkey, eq_of_key_eq hb ha hkey]
  · rw [if_neg hkey, if_neg hkey]

theorem mem_rows_update
    {t : Table α} {k : κ} {f : α → α} (hf : ∀ a, key (f a) = key a) {b : α} :
    b ∈ (t.update k f hf).rows ↔
      (∃ a ∈ t.rows, key a = k ∧ f a = b) ∨ (b ∈ t.rows ∧ key b ≠ k) := by
  rw [rows_update, List.mem_map]
  constructor
  · rintro ⟨a, ha, rfl⟩
    by_cases hkey : key a = k
    · exact Or.inl ⟨a, ha, hkey, (if_pos hkey).symm⟩
    · rw [if_neg hkey]
      exact Or.inr ⟨ha, hkey⟩
  · rintro (⟨a, ha, hkey, rfl⟩ | ⟨hb, hkey⟩)
    · exact ⟨a, ha, if_pos hkey⟩
    · exact ⟨b, hb, if_neg hkey⟩

/-- Rows with different keys that are inserted one after the other are there
afterwards, next to the rows that have other keys. -/
theorem mem_rows_foldl_insert
    {l : List α} (hl : (l.map key).Nodup) {t : Table α} {b : α} :
    b ∈ (l.foldl (fun t a => t.insert a) t).rows ↔
      b ∈ l ∨ (b ∈ t.rows ∧ key b ∉ l.map key) := by
  induction l generalizing t with
  | nil => simp
  | cons a l ih =>
      obtain ⟨ha, hl⟩ := List.nodup_cons.mp hl
      rw [List.foldl_cons, ih hl, mem_rows_insert, List.mem_cons, List.map_cons,
        List.mem_cons, not_or]
      constructor
      · rintro (hb | ⟨rfl | ⟨hb, hba⟩, hbl⟩)
        · exact Or.inl (Or.inr hb)
        · exact Or.inl (Or.inl rfl)
        · exact Or.inr ⟨hb, hba, hbl⟩
      · rintro ((rfl | hb) | ⟨hb, hba, hbl⟩)
        · exact Or.inr ⟨Or.inl rfl, ha⟩
        · exact Or.inl hb
        · exact Or.inr ⟨Or.inr ⟨hb, hba⟩, hbl⟩

end AccountAuthority.Table
