import AccountAuthority.Proofs.Interleaving
import AccountAuthority.Proofs.LastAdmin
import AccountAuthority.Service.Accounts

/-!
# All administrators step down at once

Every active administrator asks to be an ordinary user, and the requests are
performed in some order.  Each is granted as long as there is another active
administrator, so the request that is performed last is the one that is refused,
and whoever made it stays.
-/

namespace AccountAuthority

open Store

/-! ## One request -/

namespace Store

variable {s : Store} {id : UserId}

/-- The demotion of the only active administrator changes nothing. -/
theorem demote_of_blocks
    (hid : id ∈ s.activeAdmins) (hguard : s.blocks id = true) (actor : Actor)
    (now : Instant) (fresh : FreshIds) :
    s.changeRole actor id .user now fresh = (.blockedLastAdmin, s) := by
  obtain ⟨u, hu, rfl, hadmin⟩ := mem_activeAdmins.mp hid
  have hget : s.users.get? u.id = some u := Table.get?_key hu
  simp only [User.isActiveAdmin, Bool.and_eq_true, decide_eq_true_eq] at hadmin
  unfold changeRole
  simp [hget, hadmin, hguard]

/-- The demotion of another active administrator takes them, and nobody else,
from the active administrators. -/
theorem demote_of_not_blocks
    (hid : id ∈ s.activeAdmins) (hguard : s.blocks id = false) (actor : Actor)
    (now : Instant) (fresh : FreshIds) :
    ∃ u s', s.changeRole actor id .user now fresh = (.changed u, s') ∧
      ∀ a, a ∈ s'.activeAdmins ↔ a ∈ s.activeAdmins ∧ a ≠ id := by
  obtain ⟨u, hu, rfl, hadmin⟩ := mem_activeAdmins.mp hid
  have hget : s.users.get? u.id = some u := Table.get?_key hu
  simp only [User.isActiveAdmin, Bool.and_eq_true, decide_eq_true_eq] at hadmin
  unfold changeRole
  simp only [hget, hadmin, hguard]
  refine ⟨_, _, rfl, fun a => ?_⟩
  rw [mem_activeAdmins, mem_activeAdmins]
  constructor
  · rintro ⟨w, hw, rfl, hwadmin⟩
    rcases Table.mem_rows_insert.mp hw with rfl | ⟨hw, hne⟩
    · simp [User.isActiveAdmin] at hwadmin
    · exact ⟨⟨w, hw, rfl, hwadmin⟩, hne⟩
  · rintro ⟨⟨w, hw, rfl, hwadmin⟩, hne⟩
    exact ⟨w, Table.mem_rows_insert.mpr (Or.inr ⟨hw, hne⟩), rfl, hwadmin⟩

end Store

/-- The call by which a user is made an ordinary one, as the repository sees
it. -/
def demotion (o : Surroundings) (actor : Actor) (id : UserId) :
    Program RepositoryPort (Except ServiceError LifecycleOutcome) :=
  (Service.changeRole actor id .user).run.within o 0

theorem demotion_eq (o : Surroundings) (actor : Actor) (id : UserId) :
    demotion o actor id =
      .ask (.changeRole actor id .user (o 0 .now)) fun answer =>
        .done (.ok answer) := rfl

/-! ## All requests -/

section

variable {n : ℕ} (around : Fin n → Surroundings) (actor : Fin n → Actor)
  (ids : Fin n → UserId)

/-- The calls in which the users `ids` are demoted. -/
def demotions (s : Store) :
    Pool (Fin n) (Except ServiceError LifecycleOutcome) where
  calls i := demotion (around i) (actor i) (ids i)
  store := s

/-- While all administrators step down, each of them still waits and can
administrate, or is demoted and cannot, or is the one who has to stay. -/
structure SteppingDown
    (p : Pool (Fin n) (Except ServiceError LifecycleOutcome)) : Prop where
  phase : ∀ i,
    (p.calls i = demotion (around i) (actor i) (ids i) ∧
      ids i ∈ p.store.activeAdmins) ∨
    ((∃ u, p.calls i = .done (.ok (.changed u))) ∧
      ids i ∉ p.store.activeAdmins) ∨
    (p.calls i = .done (.ok .blockedLastAdmin) ∧
      p.store.activeAdmins = [ids i])
  among : ∀ id ∈ p.store.activeAdmins, ∃ i, ids i = id
  nonempty : p.store.activeAdmins ≠ []

variable {around actor ids}
  {p : Pool (Fin n) (Except ServiceError LifecycleOutcome)}

/-- The last administrator is refused. -/
theorem SteppingDown.turn_of_blocks
    (h : SteppingDown around actor ids p) {t : Turn (Fin n)}
    (hwaits : p.calls t.call =
      demotion (around t.call) (actor t.call) (ids t.call))
    (hadmin : ids t.call ∈ p.store.activeAdmins)
    (hguard : p.store.blocks (ids t.call) = true) :
    SteppingDown around actor ids (p.turn t) := by
  rw [demotion_eq] at hwaits
  have hself := Pool.turn_calls_self hwaits
  have hstore := Pool.turn_store hwaits
  have hblocked := demote_of_blocks hadmin hguard (actor t.call)
    (around t.call 0 .now) t.fresh
  simp only [perform, hblocked] at hself hstore
  refine ⟨fun i => ?_, hstore ▸ h.among, hstore ▸ h.nonempty⟩
  by_cases hi : i = t.call
  · subst hi
    refine Or.inr (Or.inr ⟨hself, ?_⟩)
    rw [hstore]
    exact onlyActiveAdmin_iff.mp (blocks_iff.mp hguard)
  · rw [Pool.turn_calls_of_ne p hi, hstore]
    exact h.phase i

/-- Any other administrator is demoted. -/
theorem SteppingDown.turn_of_not_blocks
    (hids : Function.Injective ids) (h : SteppingDown around actor ids p)
    {t : Turn (Fin n)}
    (hwaits : p.calls t.call =
      demotion (around t.call) (actor t.call) (ids t.call))
    (hadmin : ids t.call ∈ p.store.activeAdmins)
    (hguard : p.store.blocks (ids t.call) = false) :
    SteppingDown around actor ids (p.turn t) := by
  rw [demotion_eq] at hwaits
  have hself := Pool.turn_calls_self hwaits
  have hstore := Pool.turn_store hwaits
  obtain ⟨u, s', hchanged, hadmins⟩ := demote_of_not_blocks hadmin hguard
    (actor t.call) (around t.call 0 .now) t.fresh
  simp only [perform, hchanged] at hself hstore
  refine ⟨fun i => ?_, fun id hid => ?_, ?_⟩
  · by_cases hi : i = t.call
    · subst hi
      refine Or.inr (Or.inl ⟨⟨u, hself⟩, ?_⟩)
      rw [hstore, hadmins]
      exact fun hmem => hmem.2 rfl
    · have hne : ids i ≠ ids t.call := fun heq => hi (hids heq)
      rw [Pool.turn_calls_of_ne p hi, hstore, hadmins]
      rcases h.phase i with ⟨hwaits, hmem⟩ | ⟨hdone, hmem⟩ | ⟨-, honly⟩
      · exact Or.inl ⟨hwaits, hmem, hne⟩
      · exact Or.inr (Or.inl ⟨hdone, fun hmem' => hmem hmem'.1⟩)
      · -- Who has to stay is the last one to ask.
        rw [honly, List.mem_singleton] at hadmin
        exact absurd hadmin.symm hne
  · rw [hstore, hadmins] at hid
    exact h.among id hid.1
  · obtain ⟨a, ha⟩ := List.exists_mem_of_ne_nil _ h.nonempty
    obtain ⟨v, hv, -, hvadmin⟩ := mem_activeAdmins.mp ha
    obtain ⟨w, hw, hwadmin, hne⟩ :=
      exists_other_admin hguard ⟨v, hv, hvadmin⟩
    have hstays : w.id ∈ s'.activeAdmins :=
      (hadmins w.id).mpr ⟨mem_activeAdmins.mpr ⟨w, hw, rfl, hwadmin⟩, hne⟩
    rw [hstore]
    exact List.ne_nil_of_mem hstays

theorem SteppingDown.turn
    (hids : Function.Injective ids) (h : SteppingDown around actor ids p)
    (t : Turn (Fin n)) : SteppingDown around actor ids (p.turn t) := by
  rcases h.phase t.call with ⟨hwaits, hadmin⟩ | ⟨⟨u, hdone⟩, -⟩ | ⟨hdone, -⟩
  · cases hguard : p.store.blocks (ids t.call) with
    | true => exact h.turn_of_blocks hwaits hadmin hguard
    | false => exact h.turn_of_not_blocks hids hwaits hadmin hguard
  · rwa [Pool.turn_of_done hdone]
  · rwa [Pool.turn_of_done hdone]

variable (ids p) in
/-- Exactly one request has been refused, and who made it is the only active
administrator; the others have been demoted. -/
def OneStays : Prop :=
  ∃ i, p.result? i = some (.ok .blockedLastAdmin) ∧
    (∀ j, j ≠ i → ∃ u, p.result? j = some (.ok (.changed u))) ∧
    p.store.activeAdmins = [ids i]

theorem SteppingDown.oneStays
    (hids : Function.Injective ids) (h : SteppingDown around actor ids p)
    (hfinished : p.Finished) : OneStays ids p := by
  have hended (i : Fin n) (hwaits : p.calls i = demotion (around i) (actor i) (ids i)) :
      False := by
    obtain ⟨a, ha⟩ := Option.isSome_iff_exists.mp (hfinished i)
    rw [Pool.result?_eq_some_iff, hwaits] at ha
    cases ha
  obtain ⟨id, hid⟩ := List.exists_mem_of_ne_nil _ h.nonempty
  obtain ⟨i, rfl⟩ := h.among id hid
  rcases h.phase i with ⟨hwaits, -⟩ | ⟨-, hnot⟩ | ⟨hblocked, honly⟩
  · exact absurd hwaits (hended i)
  · exact absurd hid hnot
  refine ⟨i, Pool.result?_eq_some_iff.mpr hblocked, fun j hj => ?_, honly⟩
  rcases h.phase j with ⟨hwaits, -⟩ | ⟨⟨u, hdone⟩, -⟩ | ⟨-, honly'⟩
  · exact absurd hwaits (hended j)
  · exact ⟨u, Pool.result?_eq_some_iff.mpr hdone⟩
  · rw [honly] at honly'
    exact absurd (hids (List.singleton_inj.mp honly')).symm hj

/-- Whatever the order in which they ask, one turn each is enough, and in the
end exactly one of them stays. -/
theorem demotions_outcome
    {s : Store} (hn : 1 ≤ n) (hids : Function.Injective ids)
    (hadmins : ∀ id, id ∈ s.activeAdmins ↔ ∃ i, ids i = id)
    (around : Fin n → Surroundings) (actor : Fin n → Actor)
    (ts : List (Turn (Fin n))) :
    (∀ i, (1 ≤ ts.countP fun t => t.call = i) →
        (((demotions around actor ids s).run ts).result? i).isSome = true) ∧
      (((demotions around actor ids s).run ts).Finished →
        OneStays ids ((demotions around actor ids s).run ts)) := by
  constructor
  · intro i hturns
    exact Pool.isSome_result?_run (.ask _ fun _ => .done 0 _) hturns
  · have hstart : SteppingDown around actor ids (demotions around actor ids s) := by
      refine ⟨fun i => Or.inl ⟨rfl, (hadmins (ids i)).mpr ⟨i, rfl⟩⟩,
        fun id hid => (hadmins id).mp hid, ?_⟩
      exact List.ne_nil_of_mem ((hadmins (ids ⟨0, hn⟩)).mpr ⟨_, rfl⟩)
    have hend := Pool.run_induction hstart
      fun t (_ : t ∈ ts) p hp => hp.turn hids t
    exact hend.oneStays hids

end

/-! ## The invariant and its precision -/

/-- An active administrator stays along every run; a role change, a suspension
or a due deletion that would take effect is refused exactly for the only active
administrator; and when all active administrators step down at once, exactly
one of them is refused and stays. -/
theorem activeAdmin_stays (s : Store) :
    (s.HasActiveAdmin → ∀ ops : List Operation,
      (∀ id ∈ drawnUsers ops, s.users.get? id = none) →
      (drawnUsers ops).Nodup →
      ∀ pre, pre <+: ops → (s.run pre).HasActiveAdmin) ∧
    (∀ actor target role now fresh u,
      s.users.get? target = some u → u.status ≠ .deleted → u.role ≠ role →
      ((s.changeRole actor target role now fresh).1 = .blockedLastAdmin ↔
        s.OnlyActiveAdmin target)) ∧
    (∀ actor target reason now fresh u,
      s.users.get? target = some u → u.status ≠ .deleted →
      u.status ≠ .suspended →
      ((s.changeStatus actor target .suspended reason now fresh).1 =
          .blockedLastAdmin ↔
        s.OnlyActiveAdmin target)) ∧
    (∀ target trace now fresh u scheduledFor,
      s.users.get? target = some u → u.status ≠ .deleted →
      u.deletionScheduledFor = some scheduledFor → ¬now < scheduledFor →
      ((s.finalizeDeletion target trace now fresh).1 = .blockedLastAdmin ↔
        s.OnlyActiveAdmin target)) ∧
    (∀ (n : ℕ) (ids : Fin n → UserId),
      1 ≤ n → Function.Injective ids →
      (∀ id, id ∈ s.activeAdmins ↔ ∃ i, ids i = id) →
      ∀ around actor ts,
        (∀ i, (1 ≤ ts.countP fun t => t.call = i) →
          (((demotions around actor ids s).run ts).result? i).isSome = true) ∧
        (((demotions around actor ids s).run ts).Finished →
          OneStays ids ((demotions around actor ids s).run ts))) := by
  refine ⟨fun hs ops hnew hnodup pre hpre => ?_, ?_, ?_, ?_, ?_⟩
  · obtain ⟨post, rfl⟩ := hpre
    rw [drawnUsers_append] at hnew hnodup
    exact hs.run (fun id hid => hnew id (List.mem_append_left _ hid))
      hnodup.of_append_left
  · intro actor target role now fresh u hu hlive hrole
    exact changeRole_blocked_iff hu hlive hrole actor now fresh
  · intro actor target reason now fresh u hu hlive hstatus
    exact suspend_blocked_iff hu hlive hstatus actor reason now fresh
  · intro target trace now fresh u scheduledFor hu hlive hscheduled hdue
    exact finalize_blocked_iff hu hlive hscheduled hdue trace fresh
  · intro n ids hn hids hadmins around actor ts
    exact demotions_outcome hn hids hadmins around actor ts

/-- An administrator. -/
def sampleAdmin (id : UserId) (email : String) : User where
  id := id
  email := email
  role := .admin
  deletionScheduledFor := some ⟨0, 0⟩
  createdAt := ⟨0, 0⟩
  updatedAt := ⟨0, 0⟩

/-- The two administrators. -/
def sampleAdminIds : Fin 2 → UserId
  | 0 => ⟨1⟩
  | 1 => ⟨2⟩

theorem sampleAdminIds_injective : Function.Injective sampleAdminIds := by
  unfold Function.Injective
  decide

/-- A store with two administrators. -/
def twoAdmins : Store :=
  Store.empty.run [
    ⟨.createUser (sampleAdmin ⟨1⟩ "one") "", .zero⟩,
    ⟨.createUser (sampleAdmin ⟨2⟩ "two") "", .zero⟩]

theorem get?_twoAdmins :
    twoAdmins.users.get? ⟨1⟩ = some (sampleAdmin ⟨1⟩ "one") := by decide

theorem activeAdmins_twoAdmins : twoAdmins.activeAdmins = [⟨1⟩, ⟨2⟩] := by decide

theorem mem_twoAdmins_iff (id : UserId) :
    id ∈ twoAdmins.activeAdmins ↔ ∃ i, sampleAdminIds i = id := by
  rw [activeAdmins_twoAdmins, Fin.exists_fin_two]
  simp [sampleAdminIds, eq_comm]

/-- Two administrators who step down at once, each of them in one turn. -/
def bothStepDown : Pool (Fin 2) (Except ServiceError LifecycleOutcome) :=
  (demotions (fun _ => .still ⟨0, 0⟩ []) (fun _ => {}) sampleAdminIds
    twoAdmins).run ((List.finRange 2).map (⟨·, .zero⟩))

theorem activeAdmin_stays_of_two :
    twoAdmins.HasActiveAdmin ∧
      (twoAdmins.run
        [⟨.changeRole {} ⟨1⟩ .user ⟨0, 0⟩, .zero⟩,
          ⟨.finalizeDeletion ⟨2⟩ none ⟨0, 0⟩, .zero⟩]).HasActiveAdmin ∧
      ((twoAdmins.changeRole {} ⟨1⟩ .user ⟨0, 0⟩ .zero).1 =
          .blockedLastAdmin ↔ twoAdmins.OnlyActiveAdmin ⟨1⟩) ∧
      ((twoAdmins.changeStatus {} ⟨1⟩ .suspended none ⟨0, 0⟩ .zero).1 =
          .blockedLastAdmin ↔ twoAdmins.OnlyActiveAdmin ⟨1⟩) ∧
      ((twoAdmins.finalizeDeletion ⟨1⟩ none ⟨0, 0⟩ .zero).1 =
          .blockedLastAdmin ↔ twoAdmins.OnlyActiveAdmin ⟨1⟩) ∧
      OneStays sampleAdminIds bothStepDown := by
  obtain ⟨hstays, hrole, hsuspend, hfinalize, htogether⟩ :=
    activeAdmin_stays twoAdmins
  have hadmin : twoAdmins.HasActiveAdmin :=
    ⟨sampleAdmin ⟨1⟩ "one", by decide, rfl⟩
  refine ⟨hadmin, hstays hadmin _ (by decide) (by decide) _ List.prefix_rfl,
    hrole _ _ _ _ _ _ get?_twoAdmins (by decide) (by decide),
    hsuspend _ _ _ _ _ _ get?_twoAdmins (by decide) (by decide),
    hfinalize _ _ _ _ _ _ get?_twoAdmins (by decide) rfl (by decide), ?_⟩
  obtain ⟨hended, houtcome⟩ := htogether 2 sampleAdminIds (by decide)
    sampleAdminIds_injective mem_twoAdmins_iff
    (fun _ => .still ⟨0, 0⟩ []) (fun _ => {})
    ((List.finRange 2).map (⟨·, .zero⟩))
  exact houtcome fun i => hended i (by decide +revert)

end AccountAuthority
