import AccountAuthority.Proofs.ProperCalls
import AccountAuthority.Proofs.UuidText

/-!
# Who shares an address

An account is made only under an address that nobody has, and no account that
stays ever changes its address.  But the address of a deleted account becomes
its tombstone, and nobody asks whether somebody has registered that before.  So
two accounts may have one address, though only if exactly one of them is what is
left of a deleted account.
-/

namespace AccountAuthority

open Store

/-- What is left of a deleted account, under its tombstone. -/
structure User.IsTombstone (u : User) : Prop where
  deleted : u.status = .deleted
  email : u.email = Email.tombstone u.id

namespace RecordStep

variable {e : Exchange} {u v : User}

/-- A record keeps its address or becomes a tombstone. -/
theorem email (h : RecordStep e u v) : v.email = u.email ∨ v.IsTombstone := by
  cases h with
  | kept | noted | roleSet | statusSet | scheduled | withdrawn => exact Or.inl rfl
  | scrubbed => exact Or.inr ⟨rfl, rfl⟩

theorem isTombstone (h : RecordStep e u v) (hu : u.IsTombstone) :
    v.IsTombstone :=
  h.eq_of_deleted hu.deleted ▸ hu

end RecordStep

theorem RepositoryRequest.eq_of_mem_newAccounts
    {r : RepositoryRequest} {u v : User} (hu : u ∈ r.newAccounts)
    (hv : v ∈ r.newAccounts) : u = v := by
  cases r with
  | createUser w hash =>
      rw [List.mem_singleton.mp hu, List.mem_singleton.mp hv]
  | createExternalUser w identity =>
      rw [List.mem_singleton.mp hu, List.mem_singleton.mp hv]
  | _ => exact absurd hu List.not_mem_nil

namespace Store

/-- Users with the same address are one user, or one of them is a tombstone. -/
def AddressesApart (s : Store) : Prop :=
  ∀ u ∈ s.users.rows, ∀ v ∈ s.users.rows, u.email = v.email →
    u = v ∨ u.IsTombstone ∨ v.IsTombstone

theorem addressesApart_empty : Store.empty.AddressesApart :=
  fun _ hu => absurd hu List.not_mem_nil

theorem ne_email_of_not_taken
    {s : Store} {email : String} (h : s.emailTaken email = false) {u : User}
    (hu : u ∈ s.users.rows) : u.email ≠ email := by
  simpa using List.any_eq_false.mp h u hu

/-- Tombstones of different users are different. -/
theorem not_isTombstone_of_ne
    {s : Store} {u v : User} (hu : u ∈ s.users.rows) (hv : v ∈ s.users.rows)
    (hne : u ≠ v) (hemail : u.email = v.email) (htomb : u.IsTombstone) :
    ¬v.IsTombstone := by
  intro htomb'
  have hid : u.id = v.id := by
    refine Email.tombstone_injective ?_
    rw [← htomb.email, ← htomb'.email, hemail]
  exact hne (Table.eq_of_key_eq hu hv hid)

end Store

theorem Operation.addressesApart
    (op : Operation) {s : Store} (hs : s.AddressesApart) :
    (op.apply s).AddressesApart := by
  -- An address that was free is not that of a user who was there.
  have hfresh {u v w : User} (hfree : s.emailTaken u.email = false)
      (hw : w ∈ s.users.rows) (hstep : RecordStep (op.exchange s) w v)
      (hemail : u.email = v.email) : v.IsTombstone := by
    refine hstep.email.resolve_left fun hsame => ?_
    exact ne_email_of_not_taken hfree hw (hsame.symm.trans hemail.symm)
  intro u hu v hv hemail
  rcases op.user_origin hu with ⟨hnew, hfree⟩ | ⟨w, hw, hstep⟩
  · rcases op.user_origin hv with ⟨hnew', -⟩ | ⟨w', hw', hstep'⟩
    · exact Or.inl (RepositoryRequest.eq_of_mem_newAccounts hnew hnew')
    · exact Or.inr (Or.inr (hfresh hfree hw' hstep' hemail))
  rcases op.user_origin hv with ⟨-, hfree⟩ | ⟨w', hw', hstep'⟩
  · exact Or.inr (Or.inl (hfresh hfree hw hstep hemail.symm))
  rcases hstep.email with hsame | htomb
  · rcases hstep'.email with hsame' | htomb'
    · have hbefore : w.email = w'.email := by rw [← hsame, ← hsame', hemail]
      rcases hs w hw w' hw' hbefore with rfl | htomb | htomb'
      · exact Or.inl (Table.eq_of_key_eq hu hv
          (hstep.id_eq.trans hstep'.id_eq.symm))
      · exact Or.inr (Or.inl (hstep.isTombstone htomb))
      · exact Or.inr (Or.inr (hstep'.isTombstone htomb'))
    · exact Or.inr (Or.inr htomb')
  · exact Or.inr (Or.inl htomb)

theorem Store.AddressesApart.run
    {s : Store} (hs : s.AddressesApart) (ops : List Operation) :
    (s.run ops).AddressesApart :=
  run_induction hs fun _ op _ _ hpre => op.addressesApart hpre

/-- However calls run one after the other: of two users with the same address
exactly one is a tombstone, and any other user is found under their address. -/
theorem shared_address
    (c : ServiceSettings) (w : WorkerSettings) (errands : List Errand) :
    let s := (Books.empty.run c w errands).store
    (∀ u ∈ s.users.rows, ∀ v ∈ s.users.rows, u ≠ v → u.email = v.email →
      (u.IsTombstone ∧ ¬v.IsTombstone) ∨ (v.IsTombstone ∧ ¬u.IsTombstone)) ∧
    ∀ u ∈ s.users.rows,
      (∀ v ∈ s.users.rows, v.IsTombstone → v.email ≠ u.email) →
        s.userByEmail? u.email = some u := by
  intro s
  have hapart : s.AddressesApart := by
    change (Books.empty.run c w errands).store.AddressesApart
    rw [(Books.proper_run errands).store]
    exact addressesApart_empty.run _
  constructor
  · intro u hu v hv hne hemail
    rcases hapart u hu v hv hemail with rfl | htomb | htomb
    · exact absurd rfl hne
    · exact Or.inl ⟨htomb, not_isTombstone_of_ne hu hv hne hemail htomb⟩
    · exact Or.inr
        ⟨htomb, not_isTombstone_of_ne hv hu hne.symm hemail.symm htomb⟩
  · intro u hu hclear
    cases hfound : s.userByEmail? u.email with
    | none =>
        have hnone := List.find?_eq_none.mp hfound u hu
        simp at hnone
    | some v =>
        have hv := List.mem_of_find?_eq_some hfound
        have hemail : v.email = u.email := by simpa using List.find?_some hfound
        rcases hapart v hv u hu hemail with rfl | htomb | htomb
        · rfl
        · exact absurd hemail (hclear v hv htomb)
        · exact absurd rfl (hclear u hu htomb)

/-! ## A tombstone that is registered before the deletion -/

/-- A user with the identifier 1 asks to be deleted at once.  Before that is
done somebody registers what is to be their tombstone. -/
def tombstoneRegistered : List Errand := [
  ⟨.register "a@e.com" "correct horse battery" none {},
    .numbered 0 ⟨0, 0⟩⟩,
  ⟨.requestDeletion {} ⟨1⟩, .numbered 20 ⟨10, 0⟩⟩,
  ⟨.register "deleted+00000000-0000-0000-0000-000000000001@example.invalid"
    "correct horse battery" none {}, .numbered 40 ⟨20, 0⟩⟩,
  ⟨.poll, .numbered 60 ⟨30, 0⟩⟩]

/-- Two users may have the same address. -/
theorem not_addresses_distinct :
    ¬∀ (c : ServiceSettings) (w : WorkerSettings) (errands : List Errand),
      let s := (Books.empty.run c w errands).store
      ∀ u ∈ s.users.rows, ∀ v ∈ s.users.rows, u.email = v.email → u = v := by
  intro h
  have hrows : ∃ u ∈ (Books.empty.run plainSettings sampleWorker
        tombstoneRegistered).store.users.rows,
      ∃ v ∈ (Books.empty.run plainSettings sampleWorker
        tombstoneRegistered).store.users.rows,
      u.email = v.email ∧ u.id ≠ v.id := by decide +kernel
  obtain ⟨u, hu, v, hv, hemail, hid⟩ := hrows
  exact hid (congrArg User.id
    (h plainSettings sampleWorker tombstoneRegistered u hu v hv hemail))

end AccountAuthority
