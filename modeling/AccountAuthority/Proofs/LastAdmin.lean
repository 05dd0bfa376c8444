import AccountAuthority.Proofs.UserSteps

/-!
# The last administrator stays

Three changes can take an active administrator away: a change of role, a change
of status, and a deletion.  Each asks the guard first, and the guard says no
exactly when its target is the only active administrator.  So no run of
operations takes the last one away, and no change is refused needlessly.
-/

namespace AccountAuthority

open Store

namespace Store

variable {s s' : Store}

/-- Somebody can administrate. -/
def HasActiveAdmin (s : Store) : Prop :=
  ∃ u ∈ s.users.rows, u.isActiveAdmin = true

/-- A user is the only one who can administrate. -/
def OnlyActiveAdmin (s : Store) (id : UserId) : Prop :=
  (∃ u ∈ s.users.rows, u.id = id ∧ u.isActiveAdmin = true) ∧
    ∀ u ∈ s.users.rows, u.isActiveAdmin = true → u.id = id

theorem mem_activeAdmins {id : UserId} :
    id ∈ s.activeAdmins ↔
      ∃ u ∈ s.users.rows, u.id = id ∧ u.isActiveAdmin = true := by
  simp only [activeAdmins, List.mem_map, List.mem_filter]
  constructor
  · rintro ⟨u, ⟨hu, hadmin⟩, hid⟩
    exact ⟨u, hu, hid, hadmin⟩
  · rintro ⟨u, hu, hid, hadmin⟩
    exact ⟨u, ⟨hu, hadmin⟩, hid⟩

theorem nodup_activeAdmins (s : Store) : s.activeAdmins.Nodup :=
  s.users.distinct.sublist (List.filter_sublist.map _)

theorem onlyActiveAdmin_iff {id : UserId} :
    s.OnlyActiveAdmin id ↔ s.activeAdmins = [id] := by
  constructor
  · rintro ⟨hmem, honly⟩
    have hall : ∀ a ∈ s.activeAdmins, a = id := by
      intro a ha
      obtain ⟨u, hu, rfl, hadmin⟩ := mem_activeAdmins.mp ha
      exact honly u hu hadmin
    have hid : id ∈ s.activeAdmins := mem_activeAdmins.mpr hmem
    have hperm : s.activeAdmins.Perm [id] := by
      rw [List.perm_ext_iff_of_nodup s.nodup_activeAdmins
        (List.nodup_singleton id)]
      intro a
      rw [List.mem_singleton]
      exact ⟨hall a, fun ha => ha ▸ hid⟩
    exact List.perm_singleton.mp hperm
  · intro h
    have hiff (a : UserId) : a ∈ s.activeAdmins ↔ a = id := by simp [h]
    refine ⟨mem_activeAdmins.mp ((hiff id).mpr rfl), fun u hu hadmin => ?_⟩
    exact (hiff u.id).mp (mem_activeAdmins.mpr ⟨u, hu, rfl, hadmin⟩)

/-- The guard blocks the change of the only active administrator and no other
change. -/
theorem blocks_iff {id : UserId} :
    s.blocks id = true ↔ s.OnlyActiveAdmin id := by
  rw [onlyActiveAdmin_iff]
  simp only [blocks, AdminGuard.evaluate]
  constructor
  · intro h
    split at h
    next hguard =>
      obtain ⟨hle, hmem⟩ := hguard
      match hadmins : s.activeAdmins with
      | [] => simp [hadmins] at hmem
      | [a] => simpa [hadmins, eq_comm] using hmem
      | a :: b :: rest => simp [hadmins] at hle
    · cases h
  · intro h
    simp [h]

/-- When the guard lets a change pass, somebody else can administrate. -/
theorem exists_other_admin
    {id : UserId} (hguard : s.blocks id = false) (hs : s.HasActiveAdmin) :
    ∃ u ∈ s.users.rows, u.isActiveAdmin = true ∧ u.id ≠ id := by
  by_contra hnone
  push Not at hnone
  obtain ⟨u, hu, hadmin⟩ := hs
  have honly : s.OnlyActiveAdmin id :=
    ⟨⟨u, hu, hnone u hu hadmin, hadmin⟩, hnone⟩
  rw [blocks_iff.mpr honly] at hguard
  cases hguard

/-! ## Every step leaves an administrator -/

theorem HasActiveAdmin.of_insert_other
    {u v : User} (hu : u ∈ s.users.rows) (hadmin : u.isActiveAdmin = true)
    (hne : u.id ≠ v.id) (h : s'.users = s.users.insert v) :
    s'.HasActiveAdmin := by
  refine ⟨u, ?_, hadmin⟩
  rw [h]
  exact Table.mem_rows_insert.mpr (Or.inr ⟨hu, hne⟩)

/-- A change that keeps a user an active administrator leaves one. -/
theorem HasActiveAdmin.of_insert
    (hs : s.HasActiveAdmin) {u v : User} (hu : s.users.get? u.id = some u)
    (h : s'.users = s.users.insert v) (hid : v.id = u.id)
    (hkeeps : u.isActiveAdmin = true → v.isActiveAdmin = true) :
    s'.HasActiveAdmin := by
  obtain ⟨w, hw, hadmin⟩ := hs
  by_cases hwid : w.id = u.id
  · have hwu : w = u :=
      Table.eq_of_key_eq hw (Table.get?_eq_some_iff.mp hu).1 hwid
    refine ⟨v, ?_, hkeeps (hwu ▸ hadmin)⟩
    rw [h]
    exact Table.mem_rows_insert.mpr (Or.inl rfl)
  · exact .of_insert_other hw hadmin (fun hwv => hwid (hwv.trans hid)) h

/-- A change that the guard has let pass leaves an administrator. -/
theorem HasActiveAdmin.of_guarded
    (hs : s.HasActiveAdmin) {v : User} (h : s'.users = s.users.insert v)
    (hguard : s.blocks v.id = false) : s'.HasActiveAdmin := by
  obtain ⟨w, hw, hadmin, hne⟩ := exists_other_admin hguard hs
  exact .of_insert_other hw hadmin hne h

end Store

theorem UserStep.hasActiveAdmin
    {N : List UserId} {A : List Status} {s s' : Store}
    (hN : ∀ id ∈ N, s.users.get? id = none) (h : UserStep N A s s')
    (hs : s.HasActiveAdmin) : s'.HasActiveAdmin := by
  cases h with
  | unchanged husers => rwa [HasActiveAdmin, husers]
  | created v hname husers =>
      obtain ⟨u, hu, hadmin⟩ := hs
      have hnew := Table.get?_eq_none_iff.mp (hN v.id hname)
      exact .of_insert_other hu hadmin (hnew u hu) husers
  | edited u v hu hid hrole hstatus husers =>
      refine hs.of_insert hu husers hid fun hadmin => ?_
      rwa [User.isActiveAdmin, hrole, hstatus]
  | roleChanged u role now hu hguard husers =>
      by_cases hrole : role = .admin
      · refine hs.of_insert hu husers rfl fun hadmin => ?_
        simp only [User.isActiveAdmin, Bool.and_eq_true] at hadmin ⊢
        exact ⟨by simp [hrole], hadmin.2⟩
      · exact hs.of_guarded husers (hguard hrole)
  | statusChanged u status now hu _ hguard _ husers =>
      by_cases hstatus : status = .active
      · refine hs.of_insert hu husers rfl fun hadmin => ?_
        simp only [User.isActiveAdmin, Bool.and_eq_true] at hadmin ⊢
        exact ⟨hadmin.1, by simp [hstatus]⟩
      · exact hs.of_guarded husers (hguard hstatus)
  | deleted u now hu hguard _ husers =>
      exact hs.of_guarded husers hguard

/-- No run in which every new user gets a new identifier takes the last active
administrator away. -/
theorem Store.HasActiveAdmin.run
    {s : Store} (hs : s.HasActiveAdmin) {ops : List Operation}
    (hnew : ∀ id ∈ drawnUsers ops, s.users.get? id = none)
    (hnodup : (drawnUsers ops).Nodup) : (s.run ops).HasActiveAdmin :=
  run_induction hs fun pre op _ hsplit hpre =>
    (op.apply_userStep (s.run pre)).hasActiveAdmin
      (get?_newUser_of_split hsplit hnew hnodup) hpre

/-! ## No change is refused needlessly -/

namespace Store

variable {s : Store} {target : UserId} {u : User}

/-- A role change that would take effect is refused exactly for the only active
administrator. -/
theorem changeRole_blocked_iff
    (hu : s.users.get? target = some u) (hlive : u.status ≠ .deleted)
    {role : Role} (hrole : u.role ≠ role) (actor : Actor) (now : Instant)
    (fresh : FreshIds) :
    (s.changeRole actor target role now fresh).1 = .blockedLastAdmin ↔
      s.OnlyActiveAdmin target := by
  unfold changeRole
  simp only [hu, if_neg hlive, if_neg hrole, ← blocks_iff]
  by_cases hguard : s.blocks target = true
  · -- The only administrator is one, so the new role is a lesser one.
    have hadmin : u.role = .admin := by
      obtain ⟨⟨v, hv, hid, hadmin⟩, -⟩ := blocks_iff.mp hguard
      obtain ⟨hmem, hkey⟩ := Table.get?_eq_some_iff.mp hu
      rw [Table.eq_of_key_eq hv hmem (hid.trans hkey.symm)] at hadmin
      simp only [User.isActiveAdmin, Bool.and_eq_true, decide_eq_true_eq] at hadmin
      exact hadmin.1
    have hlesser : role ≠ .admin := fun h => hrole (hadmin.trans h.symm)
    simp [hguard, hlesser]
  · simp [hguard]

/-- A suspension that would take effect is refused exactly for the only active
administrator. -/
theorem suspend_blocked_iff
    (hu : s.users.get? target = some u) (hlive : u.status ≠ .deleted)
    (hstatus : u.status ≠ .suspended) (actor : Actor) (reason : Option String)
    (now : Instant) (fresh : FreshIds) :
    (s.changeStatus actor target .suspended reason now fresh).1 =
        .blockedLastAdmin ↔
      s.OnlyActiveAdmin target := by
  unfold changeStatus
  simp only [hu, if_neg hlive, if_neg hstatus, ← blocks_iff]
  by_cases hguard : s.blocks target = true
  · simp [hguard]
  · simp [hguard]

/-- A deletion that is due is refused exactly for the only active
administrator. -/
theorem finalize_blocked_iff
    (hu : s.users.get? target = some u) (hlive : u.status ≠ .deleted)
    {scheduledFor now : Instant} (hscheduled : u.deletionScheduledFor = some scheduledFor)
    (hdue : ¬now < scheduledFor) (trace : Option String) (fresh : FreshIds) :
    (s.finalizeDeletion target trace now fresh).1 = .blockedLastAdmin ↔
      s.OnlyActiveAdmin target := by
  unfold finalizeDeletion
  simp only [hu, if_neg hlive, hscheduled, if_neg hdue, ← blocks_iff]
  by_cases hguard : s.blocks target = true
  · simp [hguard]
  · simp [hguard]

end Store

end AccountAuthority
