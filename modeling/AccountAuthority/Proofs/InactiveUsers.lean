import AccountAuthority.Proofs.Refresh
import AccountAuthority.Proofs.RotationChains
import AccountAuthority.Proofs.ServiceCalls
import AccountAuthority.Proofs.UserSteps

/-!
# Sessions of users who are not active

A suspension revokes the sessions of a user and a deletion removes them.  But a
call that opens a session has looked at the status of the user at an earlier
turn, and the repository does not look again.  So a user who is not active may
have a live session, though only one that was opened by a call which had been
shown the user while active and was then overtaken.
-/

namespace AccountAuthority

namespace Store

/-- A user who may use the account. -/
def Active (s : Store) (id : UserId) : Prop :=
  ∃ u, s.users.get? id = some u ∧ u.status = .active

/-- A user who is suspended or deleted. -/
def Inactive (s : Store) (id : UserId) : Prop :=
  ∃ u, s.users.get? id = some u ∧ u.status ≠ .active

/-- Users who are not active have no live sessions. -/
def InactiveLoggedOut (s : Store) : Prop :=
  ∀ x ∈ s.sessions.rows, s.Inactive x.user → x.isRevoked = true

theorem Inactive.of_users_eq
    {s s' : Store} {id : UserId} (h : s'.Inactive id)
    (husers : s'.users = s.users) : s.Inactive id := by
  rwa [Inactive, husers] at h

/-- A user who comes to be put in as active is not one who is inactive. -/
theorem Inactive.of_insert
    {s s' : Store} {id : UserId} {u : User} (h : s'.Inactive id)
    (husers : s'.users = s.users.insert u) (hu : u.status = .active) :
    s.Inactive id := by
  obtain ⟨v, hv, hinactive⟩ := h
  rw [husers, Table.get?_insert] at hv
  split at hv
  · obtain rfl := Option.some.inj hv
    exact absurd hu hinactive
  · exact ⟨v, hv, hinactive⟩

end Store

open Store

/-! ## How users come to be inactive -/

/-- Whoever is not active after a change of the users in place was not active
before, or has no live session left. -/
theorem UserStep.inactive_origin
    {A : List Status} {s s' : Store} (h : UserStep [] A s s')
    (hA : .deleted ∉ A) {id : UserId} (hid : s'.Inactive id) :
    s.Inactive id ∨
      ∀ y ∈ s'.sessions.rows, y.user = id → y.isRevoked = true := by
  -- A user with the same status is put in for another.
  have hsame {u w : User} (hu : s.users.get? u.id = some u)
      (husers : s'.users = s.users.insert w) (hwid : w.id = u.id)
      (hstatus : w.status = u.status) : s.Inactive id := by
    obtain ⟨v, hv, hinactive⟩ := hid
    rw [husers, Table.get?_insert] at hv
    split at hv
    next heq =>
      obtain rfl := Option.some.inj hv
      have hidu : id = u.id := heq.trans hwid
      exact ⟨u, hidu ▸ hu, hstatus ▸ hinactive⟩
    · exact ⟨v, hv, hinactive⟩
  -- Only the status of one user is changed.
  have hother {u w : User} (husers : s'.users = s.users.insert w)
      (hwid : w.id = u.id) (hne : id ≠ u.id) : s.Inactive id := by
    obtain ⟨v, hv, hinactive⟩ := hid
    rw [husers, Table.get?_insert, if_neg fun heq => hne (heq.trans hwid)] at hv
    exact ⟨v, hv, hinactive⟩
  cases h with
  | unchanged husers => exact Or.inl (hid.of_users_eq husers)
  | created u hname husers => exact absurd hname List.not_mem_nil
  | edited u w hu hwid _ hstatus husers =>
      exact Or.inl (hsame hu husers hwid hstatus)
  | roleChanged u role now hu _ husers => exact Or.inl (hsame hu husers rfl rfl)
  | statusChanged u status now hu hmem _ hrevoked husers =>
      cases status with
      | active => exact Or.inl (hid.of_insert husers rfl)
      | deleted => exact absurd hmem hA
      | suspended =>
          by_cases hidu : id = u.id
          · subst hidu
            exact Or.inr (hrevoked rfl)
          · exact Or.inl (hother husers rfl hidu)
  | deleted u now hu _ hgone husers =>
      by_cases hidu : id = u.id
      · subst hidu
        exact Or.inr fun y hy huser => absurd huser (hgone y hy)
      · exact Or.inl (hother husers rfl hidu)

/-- Whoever is not active after an operation was not active before, or has no
live session left; for new users are active, and nobody is deleted by a change
of status. -/
theorem Operation.inactive_origin
    {op : Operation} {s : Store} {H : History}
    (hallowed : forActiveUsers H op.request) {id : UserId}
    (hid : (op.apply s).Inactive id) :
    s.Inactive id ∨
      ∀ y ∈ (op.apply s).sessions.rows, y.user = id → y.isRevoked = true := by
  have hstep := op.apply_userStep s
  obtain ⟨r, fresh⟩ := op
  cases r with
  | createUser u hash =>
      simp only [apply, perform, createUser] at hid
      split at hid
      · exact Or.inl hid
      · exact Or.inl (hid.of_insert rfl hallowed)
  | createExternalUser u identity =>
      simp only [apply, perform, createExternalUser] at hid
      split at hid
      · exact Or.inl hid
      split at hid
      · exact Or.inl hid
      · exact Or.inl (hid.of_insert rfl hallowed)
  | changeStatus actor target status reason now =>
      refine hstep.inactive_origin ?_ hid
      simpa [RepositoryRequest.statuses] using hallowed.symm
  | _ => exact hstep.inactive_origin List.not_mem_nil hid

/-! ## What a call has been shown -/

/-- The user who is shown is in the store when the answer is given. -/
theorem Exchange.get?_shownUser
    {e : Exchange} {s : Store} {fresh : FreshIds}
    (he : e.answer = (s.perform e.request fresh).1) {u : User}
    (hu : e.shownUser? = some u) :
    (Operation.apply ⟨e.request, fresh⟩ s).users.get? u.id = some u := by
  obtain ⟨r, answer⟩ := e
  change answer = (s.perform r fresh).1 at he
  subst he
  cases r with
  | findLogin email =>
      cases hfind : s.userByEmail? email with
      | none => simp [shownUser?, perform, findLogin, hfind] at hu
      | some v =>
          obtain rfl : v = u := by
            simpa [shownUser?, perform, findLogin, hfind] using hu
          exact Table.get?_key (List.mem_of_find?_eq_some hfind)
  | findExternalUser provider subject =>
      cases hfind : s.findExternalUser provider subject with
      | none => simp [shownUser?, perform, hfind] at hu
      | some v =>
          obtain rfl : v = u := by simpa [shownUser?, perform, hfind] using hu
          exact get?_of_findExternalUser hfind
  | createUser v hash =>
      simp only [Operation.apply, perform, createUser] at hu ⊢
      split at hu
      · cases hu
      next hfree =>
        obtain rfl : v = u := by simpa [shownUser?] using hu
        rw [if_neg hfree]
        simp [insertUser, Table.get?_insert]
  | createExternalUser v identity =>
      simp only [Operation.apply, perform, createExternalUser] at hu ⊢
      split at hu
      next w hfind =>
        obtain rfl : w = u := by simpa [shownUser?] using hu
        exact get?_of_findExternalUser hfind
      next hnone =>
        split at hu
        · cases hu
        next hfree =>
          obtain rfl : v = u := by simpa [shownUser?] using hu
          rw [if_neg hfree]
          simp [insertUser, Table.get?_insert]
  | _ => cases hu

/-! ## Overtaken calls -/

namespace Pool

variable {ι α : Type} [DecidableEq ι]

/-- A session was opened by a call that had been at its turn when the user was
still active; when the session was opened, the user no longer was. -/
def Overtaken (p : Pool ι α) (ts : List (Turn ι)) (y : Session) : Prop :=
  ∃ pre t₀ mid t post, ts = pre ++ t₀ :: mid ++ t :: post ∧ t₀.call = t.call ∧
    (p.run (pre ++ [t₀])).store.Active y.user ∧
    (p.run (pre ++ t₀ :: mid)).store.Inactive y.user ∧
    ∃ x token now next, (p.run (pre ++ t₀ :: mid)).calls t.call =
        .ask (.createSession x token now) next ∧
      x.id = y.id ∧ x.user = y.user

theorem Overtaken.concat
    {p : Pool ι α} {ts : List (Turn ι)} {x y : Session} (h : p.Overtaken ts x)
    (hxy : x.Later y) (u : Turn ι) : p.Overtaken (ts ++ [u]) y := by
  obtain ⟨pre, t₀, mid, t, post, rfl, hcall, hactive, hinactive, z, token, now,
    next, hask, hid, huser⟩ := h
  rw [← hxy.user] at hactive hinactive huser
  exact ⟨pre, t₀, mid, t, post ++ [u], by simp, hcall, hactive, hinactive, z,
    token, now, next, hask, hid.trans hxy.id.symm, huser⟩

theorem HasHeard.active
    {p : Pool ι α} {ts : List (Turn ι)} {i : ι} {e : Exchange}
    (h : p.HasHeard ts i e) {u : User} (hu : e.shownUser? = some u)
    (hactive : u.status = .active) :
    ∃ pre t post, ts = pre ++ t :: post ∧ t.call = i ∧
      (p.run (pre ++ [t])).store.Active u.id := by
  obtain ⟨pre, t, post, hsplit, hcall, hhears⟩ := h
  refine ⟨pre, t, post, hsplit, hcall, u, ?_, hactive⟩
  rw [hhears.store]
  exact Exchange.get?_shownUser hhears.answer hu

/-- A session that is opened for a user who is not active has been overtaken. -/
theorem overtaken_of_createSession
    {p : Pool ι α} {ψ : ι → History → α → Prop}
    (h : ∀ i, (p.calls i).Abides forActiveUsers (ψ i) [])
    {pre : List (Turn ι)} {t : Turn ι} {x : Session} {token : RefreshToken}
    {now : Instant} {answer : CreatedSession}
    (hhears : p.Hears pre t ⟨.createSession x token now, answer⟩)
    (hinactive : (p.run (pre ++ [t])).store.Inactive x.user) :
    p.Overtaken (pre ++ [t]) x := by
  have hbefore : (p.run pre).store.Inactive x.user := by
    refine hinactive.of_users_eq ?_
    rw [hhears.store]
    exact (createSession_sameAccounts _ x token now).users
  obtain ⟨H, ⟨-, e, he, u, hshown, hid, hactive⟩, hheard⟩ := hhears.allowed h
  obtain ⟨pre₀, t₀, mid, rfl, hcall, hwas⟩ := (hheard e he).active hshown hactive
  obtain ⟨next, hask⟩ := hhears.asks
  exact ⟨pre₀, t₀, mid, t, [], by simp, hcall, hid ▸ hwas, hbefore, x, token,
    now, next, hask, rfl, rfl⟩

end Pool

variable {ι : Type} [DecidableEq ι]

/-- The calls of some clients and workers over one store. -/
def accountPool
    (c : ServiceSettings) (o : ι → Surroundings) (calls : ι → AccountCall)
    (s : Store) : Pool ι AccountResult where
  calls i := (calls i).program c (o i)
  store := s

/-- However logins, registrations, exchanges and refreshes run together with
changes of status, deletions and changes of password: a live session of a user
who is not active has been opened by a call that was overtaken. -/
theorem live_session_of_inactive_user
    (c : ServiceSettings) (o : ι → Surroundings) (calls : ι → AccountCall)
    (s : Store) (hs : s.InactiveLoggedOut) (ts : List (Turn ι)) :
    let p := accountPool c o calls s
    ∀ y ∈ (p.run ts).store.sessions.rows, y.isRevoked = false →
      (p.run ts).store.Inactive y.user → p.Overtaken ts y := by
  intro p y hy
  have habides : ∀ i, (p.calls i).Abides forActiveUsers (fun _ _ => True) [] :=
    fun i => (calls i).abides_forActiveUsers c (o i)
  have hproper {pre t e} (hhears : p.Hears pre t e) :
      e.request.OpensProperly := by
    obtain ⟨H, hallowed, -⟩ := hhears.allowed habides
    exact opensProperly_of_forActiveUsers hallowed
  -- A session that is kept has been overtaken if the user was inactive before.
  refine Pool.session_induction
    (Q := fun ts y => y.isRevoked = false →
      (p.run ts).store.Inactive y.user → p.Overtaken ts y) hproper ?_ ?_ ?_ hy
  · intro x hx hlive hinactive
    rw [hs x hx hinactive] at hlive
    cases hlive
  · intro pre t x token now answer hhears _ hinactive
    exact Pool.overtaken_of_createSession habides hhears hinactive
  · intro pre t x y hx hy hxy hbefore hlive hinactive
    have hxlive : x.isRevoked = false := hxy.isRevoked_eq_false hlive
    suffices h : (p.run pre).store.Inactive x.user from
      (hbefore hxlive h).concat hxy t
    rw [hxy.user] at hinactive
    rcases Pool.store_concat p pre t with hsame | ⟨e, hhears⟩
    · rwa [hsame] at hinactive
    · obtain ⟨H, hallowed, -⟩ := hhears.allowed habides
      rw [hhears.store] at hinactive hy
      rcases Operation.inactive_origin hallowed hinactive with h | hrevoked
      · exact h
      · rw [hrevoked y hy hxy.user] at hlive
        cases hlive

/-! ## A login that is overtaken by a suspension -/

/-- Settings in which a password is stored as it is. -/
def plainSettings : ServiceSettings :=
  { sampleSettings with
    hasher := ⟨fun _ password => password, fun password stored => password = stored⟩ }

/-- The sample user with a password. -/
def userWithPassword : Store :=
  (Store.empty.createUser sampleUser "password").2

/-- One client logs in, and an administrator suspends the user. -/
def loginAndSuspension : Bool → AccountCall
  | false => .login sampleUser.email "password" {}
  | true => .changeStatus {} sampleUser.id .suspended none

/-- The login has read the user before the suspension and opens its session
after it. -/
def suspensionBetween : List (Turn Bool) :=
  [⟨false, .zero⟩, ⟨true, .zero⟩, ⟨false, .zero⟩]

/-- The two calls over the store with the user. -/
def loginOvertaken : Pool Bool AccountResult :=
  accountPool plainSettings (fun _ => .still ⟨0, 0⟩ []) loginAndSuspension
    userWithPassword

theorem userWithPassword_inactiveLoggedOut :
    userWithPassword.InactiveLoggedOut :=
  fun _ hx => absurd hx List.not_mem_nil

theorem exists_session_of_suspended :
    ∃ y ∈ (loginOvertaken.run suspensionBetween).store.sessions.rows,
      y.isRevoked = false ∧
        (loginOvertaken.run suspensionBetween).store.Inactive y.user := by
  have hrows : ∃ y ∈ (loginOvertaken.run suspensionBetween).store.sessions.rows,
      y.isRevoked = false ∧
        ∃ u ∈ (loginOvertaken.run suspensionBetween).store.users.rows,
          u.id = y.user ∧ u.status ≠ .active := by decide
  obtain ⟨y, hy, hlive, u, hu, hid, hstatus⟩ := hrows
  exact ⟨y, hy, hlive, u, Table.get?_eq_some_iff.mpr ⟨hu, hid⟩, hstatus⟩

/-- A user who is not active may have a live session. -/
theorem not_inactiveLoggedOut_run :
    ¬∀ (c : ServiceSettings) (o : Bool → Surroundings)
      (calls : Bool → AccountCall) (s : Store), s.InactiveLoggedOut →
        ∀ ts, ((accountPool c o calls s).run ts).store.InactiveLoggedOut := by
  intro h
  have hsample := h plainSettings (fun _ => .still ⟨0, 0⟩ []) loginAndSuspension
    userWithPassword userWithPassword_inactiveLoggedOut suspensionBetween
  obtain ⟨y, hy, hlive, hinactive⟩ := exists_session_of_suspended
  have hrevoked : y.isRevoked = true := hsample y hy hinactive
  rw [hlive] at hrevoked
  cases hrevoked

theorem live_session_of_suspended_sample :
    userWithPassword.InactiveLoggedOut ∧
      ∃ y ∈ (loginOvertaken.run suspensionBetween).store.sessions.rows,
        y.isRevoked = false ∧ loginOvertaken.Overtaken suspensionBetween y := by
  obtain ⟨y, hy, hlive, hinactive⟩ := exists_session_of_suspended
  refine ⟨userWithPassword_inactiveLoggedOut, y, hy, hlive, ?_⟩
  exact live_session_of_inactive_user plainSettings
    (fun _ => .still ⟨0, 0⟩ []) loginAndSuspension userWithPassword
    userWithPassword_inactiveLoggedOut suspensionBetween y hy hlive hinactive

end AccountAuthority
