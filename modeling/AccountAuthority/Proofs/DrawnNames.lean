import AccountAuthority.Proofs.SessionHistory

/-!
# Names that are drawn once

The records of a store go by names that were in use before or were drawn since.
So when no name is drawn twice, every step of a run gives its new records names
that are not in use; what such steps keep, whole runs keep.
-/

namespace AccountAuthority

open Store

variable {N : List Name} {s s' : Store}

/-- A step brings no names into use but those it may give. -/
theorem SessionStep.uses
    (h : SessionStep N s s') {n : Name} (hn : s'.Uses n) :
    s.Uses n ∨ n ∈ N := by
  cases n with
  | session id =>
      obtain ⟨y, hy, rfl⟩ := hn
      rcases h.session_origin hy with hnew | ⟨x, hx, hxy⟩
      · exact Or.inr hnew
      · exact Or.inl ⟨x, hx, hxy.id.symm⟩
  | token id =>
      obtain ⟨u, hu, rfl⟩ := hn
      rcases h.token_origin hu with ⟨hnew, -⟩ | ⟨t, ht, htu⟩
      · exact Or.inr hnew
      · exact Or.inl ⟨t, ht, htu.id.symm⟩
  | tokenHash hash =>
      obtain ⟨u, hu, rfl⟩ := hn
      rcases h.token_origin hu with ⟨-, hnew⟩ | ⟨t, ht, htu⟩
      · exact Or.inr hnew
      · exact Or.inl ⟨t, ht, htu.hash.symm⟩

theorem Operation.uses
    {op : Operation} (hopen : op.request.OpensProperly) {n : Name}
    (hn : (op.apply s).Uses n) : s.Uses n ∨ n ∈ op.names := by
  obtain ⟨mid, hfirst, hsecond⟩ := op.apply_sessionSteps s hopen
  rcases hsecond.uses hn with hmid | hnew
  · exact Or.inl ((hfirst.uses hmid).resolve_right List.not_mem_nil)
  · exact Or.inr hnew

namespace Store

theorem uses_run
    {ops : List Operation} (hopen : ∀ op ∈ ops, op.request.OpensProperly)
    {n : Name} (hn : (s.run ops).Uses n) : s.Uses n ∨ n ∈ drawnNames ops := by
  induction ops using List.reverseRecOn with
  | nil => exact Or.inl hn
  | append_singleton ops op ih =>
      rw [run_concat] at hn
      simp only [List.mem_append, List.mem_singleton] at hopen
      rw [drawnNames_concat, List.mem_append]
      rcases Operation.uses (hopen op (Or.inr rfl)) hn with hold | hnew
      · exact (ih (fun o ho => hopen o (Or.inl ho)) hold).imp_right Or.inl
      · exact Or.inr (Or.inr hnew)

/-- When no name is drawn twice, an operation of a run draws names that are not
in use. -/
theorem not_uses_of_split
    {ops pre post : List Operation} {op : Operation}
    (hsplit : ops = pre ++ op :: post)
    (hopen : ∀ op ∈ ops, op.request.OpensProperly)
    (hnew : ∀ n ∈ drawnNames ops, ¬s.Uses n)
    (hnodup : (drawnNames ops).Nodup) :
    ∀ n ∈ op.names, ¬(s.run pre).Uses n := by
  subst hsplit
  have hnames : drawnNames (pre ++ op :: post) =
      drawnNames pre ++ (op.names ++ drawnNames post) :=
    drawnNames_append pre (op :: post)
  rw [hnames] at hnew hnodup
  intro n hn huses
  rcases uses_run (fun o ho => hopen o (by simp [ho])) huses with hold | hpre
  · exact hnew n (by simp [hn]) hold
  · exact (List.nodup_append.mp hnodup).2.2 n hpre n (by simp [hn]) rfl

/-- When no name is drawn twice, a second run draws names that are not in use
after the first one. -/
theorem not_uses_of_append
    {ops₀ ops₁ : List Operation}
    (hopen : ∀ op ∈ ops₀ ++ ops₁, op.request.OpensProperly)
    (hnodup : (drawnNames (ops₀ ++ ops₁)).Nodup) :
    ∀ n ∈ drawnNames ops₁, ¬(Store.empty.run ops₀).Uses n := by
  rw [drawnNames_append] at hnodup
  intro n hn huses
  rcases uses_run (fun o ho => hopen o (by simp [ho])) huses with hempty | hpre
  · exact not_uses_empty n hempty
  · exact (List.nodup_append.mp hnodup).2.2 n hpre n hn rfl

/-- What every step with new names keeps holds after a run that draws no name
twice. -/
theorem run_induction_on_steps
    {P : Store → Prop} {ops : List Operation} (hs : P s)
    (hopen : ∀ op ∈ ops, op.request.OpensProperly)
    (hnew : ∀ n ∈ drawnNames ops, ¬s.Uses n)
    (hnodup : (drawnNames ops).Nodup)
    (hstep : ∀ {N : List Name} {s s' : Store},
      (∀ n ∈ N, ¬s.Uses n) → SessionStep N s s' → P s → P s') :
    P (s.run ops) := by
  refine run_induction hs fun pre op post hsplit hpre => ?_
  obtain ⟨mid, hfirst, hsecond⟩ :=
    op.apply_sessionSteps (s.run pre) (hopen op (by simp [hsplit]))
  have hfresh := not_uses_of_split hsplit hopen hnew hnodup
  have hmid : P mid := hstep (by simp) hfirst hpre
  refine hstep (fun n hn huses => hfresh n hn ?_) hsecond hmid
  exact (hfirst.uses huses).resolve_right List.not_mem_nil

/-! ## Token hashes -/

/-- No two refresh tokens have the same hash. -/
def HashesDistinct (s : Store) : Prop :=
  (s.tokens.rows.map RefreshToken.hash).Nodup

theorem hashesDistinct_empty : Store.empty.HashesDistinct :=
  List.nodup_nil

theorem HashesDistinct.eq_of_hash_eq
    (h : s.HashesDistinct) {t u : RefreshToken} (ht : t ∈ s.tokens.rows)
    (hu : u ∈ s.tokens.rows) (hhash : t.hash = u.hash) : t = u :=
  List.inj_on_of_nodup_map h ht hu hhash

theorem HashesDistinct.tokenByHash?_eq_some
    (h : s.HashesDistinct) {t : RefreshToken} (ht : t ∈ s.tokens.rows) :
    s.tokenByHash? t.hash = some t := by
  cases hfind : s.tokenByHash? t.hash with
  | none =>
      have hnone := List.find?_eq_none.mp hfind t ht
      simp at hnone
  | some u =>
      have hhash : u.hash = t.hash := by simpa using List.find?_some hfind
      rw [h.eq_of_hash_eq (List.mem_of_find?_eq_some hfind) ht hhash]

end Store

/-- Putting in a token with a new identifier and a new hash keeps the hashes
distinct. -/
theorem nodup_hashes_insert
    {tokens : Table RefreshToken} {t : RefreshToken}
    (h : (tokens.rows.map RefreshToken.hash).Nodup)
    (hid : ∀ u ∈ tokens.rows, u.id ≠ t.id)
    (hhash : ∀ u ∈ tokens.rows, u.hash ≠ t.hash) :
    ((tokens.insert t).rows.map RefreshToken.hash).Nodup := by
  rw [Table.rows_insert_of_get?_eq_none (Table.get?_eq_none_iff.mpr hid),
    List.map_append, List.map_singleton, List.nodup_append]
  refine ⟨h, List.nodup_singleton _, ?_⟩
  intro a ha b hb
  obtain ⟨u, hu, rfl⟩ := List.mem_map.mp ha
  rw [List.mem_singleton.mp hb]
  exact hhash u hu

theorem SessionStep.hashesDistinct
    (hN : ∀ n ∈ N, ¬s.Uses n) (h : SessionStep N s s')
    (hs : s.HashesDistinct) : s'.HashesDistinct := by
  unfold HashesDistinct at hs ⊢
  cases h with
  | unchanged _ ht | pushed _ _ _ ht _ => rwa [ht]
  | revoked p reason now _ _ ht =>
      rw [ht, rows_tokens_revokeWhere, List.map_map]
      convert hs using 2
      funext t
      exact stamped_hash s p now t
  | opened x t _ _ hid hhash _ ht =>
      rw [ht]
      exact nodup_hashes_insert hs
        (fun u hu heq => hN _ hid ⟨u, hu, heq⟩)
        (fun u hu heq => hN _ hhash ⟨u, hu, heq⟩)
  | rotated x old new device now _ _ _ _ _ hid hhash _ ht =>
      rw [ht]
      have hmap : (s.replaceToken old.id new.id now).tokens.rows.map
          RefreshToken.hash = s.tokens.rows.map RefreshToken.hash := by
        rw [rows_replaceToken, List.map_map]
        refine List.map_congr_left fun t _ => ?_
        exact RefreshToken.replacing_hash old.id new.id now t
      refine nodup_hashes_insert (hmap ▸ hs) (fun u hu heq => ?_)
        (fun u hu heq => ?_)
      · obtain ⟨t, ht, rfl⟩ := List.mem_map.mp hu
        exact hN _ hid ⟨t, ht, (RefreshToken.replacing_id ..).symm.trans heq⟩
      · obtain ⟨t, ht, rfl⟩ := List.mem_map.mp hu
        exact hN _ hhash ⟨t, ht, (RefreshToken.replacing_hash ..).symm.trans heq⟩
  | removed user _ ht =>
      rw [ht]
      exact hs.sublist (List.filter_sublist.map _)

/-- Hashes stay distinct along a run that draws no name twice. -/
theorem Store.HashesDistinct.run
    {ops : List Operation} (hs : s.HashesDistinct)
    (hopen : ∀ op ∈ ops, op.request.OpensProperly)
    (hnew : ∀ n ∈ drawnNames ops, ¬s.Uses n)
    (hnodup : (drawnNames ops).Nodup) :
    (s.run ops).HashesDistinct :=
  run_induction_on_steps hs hopen hnew hnodup
    fun hN h hs => h.hashesDistinct hN hs

end AccountAuthority
