import AccountAuthority.Proofs.InactiveUsers

/-!
# Passwords that have been replaced

A reset or a change of a password revokes the sessions of the user, but for one
that may be kept.  So a live session has been opened since, and by a login that
verified its password against the new hash or a later one; unless the login had
read the old hash before and was overtaken by the replacement.
-/

namespace AccountAuthority

open Store

/-! ## Replacing a password in the store -/

@[simp] theorem key_storedPassword (p : StoredPassword) : key p = p.user := rfl

namespace Store

variable {s : Store}

/-- The password of a user has been replaced, and no session is live but the
one to keep. -/
structure PasswordReplaced
    (s s' : Store) (user : UserId) (keep : Option SessionId) (hash : String) :
    Prop where
  stored : s'.passwordHash? user = some hash
  others : ∀ id, id ≠ user → s'.passwordHash? id = s.passwordHash? id
  revoked : ∀ x ∈ s'.sessions.rows, x.user = user → some x.id ≠ keep →
    x.isRevoked = true

theorem passwordReplaced_of_insert
    {s' : Store} {user : UserId} {keep : Option SessionId} {hash : String}
    (hpasswords : s'.passwords = s.passwords.insert ⟨user, hash⟩)
    (hrevoked : ∀ x ∈ s'.sessions.rows, x.user = user → some x.id ≠ keep →
      x.isRevoked = true) : s.PasswordReplaced s' user keep hash where
  stored := by
    rw [passwordHash?, hpasswords, Table.get?_insert]
    simp
  others id hid := by
    rw [passwordHash?, hpasswords, Table.get?_insert]
    simp [hid, passwordHash?]
  revoked := hrevoked

/-- A reset replaces the password of the owner of its token, or leaves all
passwords alone. -/
theorem resetPassword_cases (token hash : String) (now : Instant) :
    (∃ user revoked,
      (s.resetPassword token hash now).1 = .reset user revoked ∧
      s.PasswordReplaced (s.resetPassword token hash now).2 user none hash) ∨
    (∀ user revoked, (s.resetPassword token hash now).1 ≠ .reset user revoked) ∧
      (s.resetPassword token hash now).2.passwords = s.passwords := by
  unfold resetPassword
  split
  · exact Or.inr ⟨by simp, rfl⟩
  split
  · exact Or.inr ⟨by simp, rfl⟩
  split
  · exact Or.inr ⟨by simp, rfl⟩
  split
  · exact Or.inr ⟨by simp, rfl⟩
  split
  · exact Or.inr ⟨by simp, rfl⟩
  · refine Or.inl ⟨_, _, rfl, passwordReplaced_of_insert (passwords_revokeAll ..) ?_⟩
    intro x hx huser hkeep
    exact isRevoked_of_mem_revokeAll _ hx huser hkeep

/-- A change replaces the password of the user, or leaves all passwords
alone. -/
theorem changePassword_cases
    (user : UserId) (expected hash : String) (keep : Option SessionId)
    (now : Instant) :
    (∃ revoked, (s.changePassword user expected hash keep now).1 =
        .changed revoked ∧
      s.PasswordReplaced (s.changePassword user expected hash keep now).2 user
        keep hash) ∨
    (∀ revoked, (s.changePassword user expected hash keep now).1 ≠
        .changed revoked) ∧
      (s.changePassword user expected hash keep now).2.passwords =
        s.passwords := by
  unfold changePassword
  split
  · exact Or.inr ⟨by simp, rfl⟩
  split
  · exact Or.inr ⟨by simp, rfl⟩
  dsimp only
  split
  · exact Or.inr ⟨by simp, rfl⟩
  · refine Or.inl ⟨_, rfl, passwordReplaced_of_insert (passwords_revokeAll ..) ?_⟩
    intro x hx huser hkeep
    exact isRevoked_of_mem_revokeAll _ hx huser hkeep

end Store

/-! ## What the calls have to do with passwords -/

/-- The calls that verify passwords, and those that replace them. -/
def AccountCall.concernsPassword : AccountCall → Bool
  | login .. | confirmReset .. | changePassword .. => true
  | register .. | exchange .. | refresh .. | changeStatus .. | finalize .. =>
      false

/-- The answer by which a call is told that it has replaced the password of a
user, which session was kept, and what is stored now. -/
inductive AccountCall.Replaces
    (c : ServiceSettings) (user : UserId) :
    AccountCall → Option SessionId → String → Exchange → Prop
  | reset (rawToken password hash : String) (now : Instant) (revoked : ℕ) :
      Replaces c user (.confirmReset rawToken password) none hash
        ⟨.resetPassword (c.tokenHash rawToken) hash now, .reset user revoked⟩
  | change (keep : Option SessionId) (current new expected hash : String)
      (now : Instant) (revoked : ℕ) :
      Replaces c user (.changePassword user keep current new) keep hash
        ⟨.changePassword user expected hash keep now, .changed revoked⟩

/-- A call has read a hash of the user that belongs to the password. -/
def History.Verifies
    (c : ServiceSettings) (H : History) (password : String) (user : UserId) :
    Prop :=
  ∃ email record stored, ⟨.findLogin email, some record⟩ ∈ H ∧
    record.user.id = user ∧ record.passwordHash = some stored ∧
    c.hasher.verify password stored = true

/-- What calls that are about passwords may ask: a login opens a session after
it has verified its password, and each of the others replaces the password that
it is about. -/
def AccountCall.passwordRule (c : ServiceSettings) (call : AccountCall) : Rule
  | H, .createSession x t _ => MadeTogether x t ∧ ∃ email password device,
      call = .login email password device ∧ H.Verifies c password x.user
  | _, .resetPassword token _ _ => ∃ rawToken password,
      call = .confirmReset rawToken password ∧ token = c.tokenHash rawToken
  | _, .changePassword user _ _ keep _ => ∃ current new,
      call = .changePassword user keep current new
  | _, .findLogin _ | _, .findCredentials _ => True
  | _, _ => False

theorem AccountCall.opensProperly_of_passwordRule
    {c : ServiceSettings} {call : AccountCall} {H : History}
    {r : RepositoryRequest} (h : call.passwordRule c H r) :
    r.OpensProperly := by
  cases r with
  | createSession x t now => exact h.1
  | _ => trivial

/-- Whether a call has reset or changed a password. -/
def AccountResult.isReplacement : AccountResult → Bool
  | passwordReset (.ok _) | passwordChanged (.ok _) => true
  | _ => false

/-- A call that has replaced a password was told so. -/
def AccountCall.toldReplaced
    (c : ServiceSettings) (call : AccountCall) (H : History)
    (result : AccountResult) : Prop :=
  result.isReplacement = true →
    ∃ user keep hash, ∃ e ∈ H, call.Replaces c user keep hash e

theorem AccountCall.abides_passwordRule
    (c : ServiceSettings) (o : Surroundings) {call : AccountCall}
    (h : call.concernsPassword = true) :
    (call.program c o).Abides (call.passwordRule c) (call.toldReplaced c) [] := by
  cases call with
  | login email password device =>
      refine (Service.ensures_login trivial ?_).abides
        (fun _ _ _ h => by cases h) o 0
      intro record stored hstored hverify _ x t now hmade huser
      refine ⟨hmade, email, password, device, rfl, _, record, stored,
        List.mem_cons_self, huser.symm, hstored, hverify⟩
  | confirmReset rawToken password =>
      have hends : Service.Ensures
          ((AccountCall.confirmReset rawToken password).passwordRule c) []
          (Service.confirmReset c rawToken password) fun H _ =>
            ∃ user keep hash, ∃ e ∈ H, (AccountCall.confirmReset rawToken
              password).Replaces c user keep hash e := by
        refine Service.ensures_confirmReset
          (fun _ _ => ⟨rawToken, password, rfl, rfl⟩) fun hash now user revoked => ?_
        exact ⟨user, none, hash, _, List.mem_cons_self,
          .reset rawToken password hash now revoked⟩
      refine hends.abides (fun H result hresult hreplaced => ?_) o 0
      cases result with
      | ok done => exact hresult done rfl
      | error e => cases hreplaced
  | changePassword user keep current new =>
      have hends : Service.Ensures
          ((AccountCall.changePassword user keep current new).passwordRule c) []
          (Service.changePassword c user keep current new) fun H _ =>
            ∃ user' keep' hash, ∃ e ∈ H, (AccountCall.changePassword user keep
              current new).Replaces c user' keep' hash e := by
        refine Service.ensures_changePassword trivial
          (fun _ _ _ _ => ⟨current, new, rfl⟩)
          fun _ expected hash now revoked => ?_
        exact ⟨user, keep, hash, _, List.mem_cons_self,
          .change keep current new expected hash now revoked⟩
      refine hends.abides (fun H result hresult hreplaced => ?_) o 0
      cases result with
      | ok done => exact hresult done rfl
      | error e => cases hreplaced
  | register | exchange | refresh | changeStatus | finalize => cases h

/-! ## Replacements along a schedule -/

namespace Pool

variable {ι : Type} [DecidableEq ι]

/-- At its turn `t` after the schedule `pre` a call replaces the password of a
user. -/
def ReplacesAt
    (c : ServiceSettings) (calls : ι → AccountCall) (p : Pool ι AccountResult)
    (pre : List (Turn ι)) (t : Turn ι) (user : UserId)
    (keep : Option SessionId) (hash : String) : Prop :=
  ∃ e, p.Hears pre t e ∧ (calls t.call).Replaces c user keep hash e

variable {c : ServiceSettings} {calls : ι → AccountCall}
  {p : Pool ι AccountResult} {pre : List (Turn ι)} {t : Turn ι} {user : UserId}
  {keep : Option SessionId} {hash : String}

theorem ReplacesAt.store
    (h : p.ReplacesAt c calls pre t user keep hash) :
    (p.run pre).store.PasswordReplaced (p.run (pre ++ [t])).store user keep
      hash := by
  obtain ⟨e, hhears, hreplaces⟩ := h
  rw [hhears.store]
  have hanswer := hhears.answer
  generalize calls t.call = call at hreplaces
  cases hreplaces with
  | reset rawToken password _ now revoked =>
      rcases (p.run pre).store.resetPassword_cases (c.tokenHash rawToken) hash now with
        ⟨user', revoked', hreset, hreplaced⟩ | ⟨hnone, -⟩
      · have heq := hanswer.trans hreset
        cases heq
        exact hreplaced
      · exact absurd hanswer.symm (hnone user revoked)
  | change _ current new expected _ now revoked =>
      rcases (p.run pre).store.changePassword_cases user expected hash keep now with
        ⟨revoked', -, hreplaced⟩ | ⟨hnone, -⟩
      · exact hreplaced
      · exact absurd hanswer.symm (hnone revoked)

/-- Every turn replaces the password of a user or leaves it alone. -/
theorem Hears.replaces_or_same
    {ψ : ι → History → AccountResult → Prop}
    (habides : ∀ i, (p.calls i).Abides ((calls i).passwordRule c) (ψ i) [])
    {e : Exchange} (h : p.Hears pre t e) (user : UserId) :
    (∃ keep hash, p.ReplacesAt c calls pre t user keep hash) ∨
      (p.run (pre ++ [t])).store.passwordHash? user =
        (p.run pre).store.passwordHash? user := by
  obtain ⟨H, hallowed, -⟩ := h.allowed habides
  have hsame (hpasswords : (p.run (pre ++ [t])).store.passwords =
      (p.run pre).store.passwords) :
      (p.run (pre ++ [t])).store.passwordHash? user =
        (p.run pre).store.passwordHash? user := by
    rw [passwordHash?, hpasswords, passwordHash?]
  have hstore := h.store
  obtain ⟨r, answer⟩ := e
  have hanswer : answer = ((p.run pre).store.perform r t.fresh).1 := h.answer
  cases r with
  | findLogin email => exact Or.inr (hsame (hstore ▸ rfl))
  | findCredentials id => exact Or.inr (hsame (hstore ▸ rfl))
  | createSession x token now =>
      exact Or.inr (hsame (hstore ▸
        (createSession_sameAccounts _ x token now).passwords))
  | resetPassword token hash now =>
      obtain ⟨rawToken, password, hcall, rfl⟩ := hallowed
      rcases (p.run pre).store.resetPassword_cases (c.tokenHash rawToken) hash now with
        ⟨user', revoked, hreset, hreplaced⟩ | ⟨-, hpasswords⟩
      · by_cases huser : user' = user
        · subst huser
          refine Or.inl ⟨none, hash, _, h, ?_⟩
          rw [hcall, hanswer.trans hreset]
          exact .reset rawToken password hash now revoked
        · rw [hstore]
          exact Or.inr (hreplaced.others user fun heq => huser heq.symm)
      · exact Or.inr (hsame (hstore ▸ hpasswords))
  | changePassword user' expected hash keep now =>
      obtain ⟨current, new, hcall⟩ := hallowed
      rcases (p.run pre).store.changePassword_cases user' expected hash keep now with
        ⟨revoked, hchanged, hreplaced⟩ | ⟨-, hpasswords⟩
      · by_cases huser : user' = user
        · subst huser
          refine Or.inl ⟨keep, hash, _, h, ?_⟩
          rw [hcall, hanswer.trans hchanged]
          exact .change keep current new expected hash now revoked
        · rw [hstore]
          exact Or.inr (hreplaced.others user fun heq => huser heq.symm)
      · exact Or.inr (hsame (hstore ▸ hpasswords))
  | _ => exact absurd hallowed id

/-- The hash that is stored for a user after the turn `t` was stored by a
replacement at that turn or after it. -/
def StoredSince
    (c : ServiceSettings) (calls : ι → AccountCall) (p : Pool ι AccountResult)
    (pre : List (Turn ι)) (t : Turn ι) (ts : List (Turn ι)) (user : UserId)
    (stored : String) : Prop :=
  ∃ pre' t' keep, pre ++ [t] <+: pre' ++ [t'] ∧ pre' ++ [t'] <+: ts ∧
    p.ReplacesAt c calls pre' t' user keep stored

theorem exists_storedSince
    {ψ : ι → History → AccountResult → Prop}
    (habides : ∀ i, (p.calls i).Abides ((calls i).passwordRule c) (ψ i) [])
    (hreplaces : p.ReplacesAt c calls pre t user keep hash)
    {ts : List (Turn ι)} (hts : pre ++ [t] <+: ts) :
    ∃ stored, (p.run ts).store.passwordHash? user = some stored ∧
      p.StoredSince c calls pre t ts user stored := by
  induction ts using List.reverseRecOn with
  | nil => simp at hts
  | append_singleton ts u ih =>
      rcases List.prefix_concat_iff.mp hts with heq | hbefore
      · rw [← heq]
        exact ⟨hash, hreplaces.store.stored, pre, t, keep, List.prefix_rfl,
          List.prefix_rfl, hreplaces⟩
      · obtain ⟨stored, hstored, pre', t', keep', hfrom, hto, hwas⟩ := ih hbefore
        have hstays : p.StoredSince c calls pre t (ts ++ [u]) user stored :=
          ⟨pre', t', keep', hfrom, List.prefix_append_of_prefix hto, hwas⟩
        rcases store_concat p ts u with hsame | ⟨e, hhears⟩
        · exact ⟨stored, by rwa [hsame], hstays⟩
        · rcases hhears.replaces_or_same habides user with
            ⟨keep'', hash', hagain⟩ | hsame
          · exact ⟨hash', hagain.store.stored, ts, u, keep'', hts,
              List.prefix_rfl, hagain⟩
          · exact ⟨stored, by rwa [hsame], hstays⟩

/-! ## Sessions that logins open -/

/-- At its turn `q` a login has read the hash that was stored for the user, the
password belongs to it, and at the turn `r` the session was opened. -/
structure OpenedByLogin
    (c : ServiceSettings) (calls : ι → AccountCall) (p : Pool ι AccountResult)
    (ts : List (Turn ι)) (y : Session) (before : List (Turn ι)) (q : Turn ι)
    (mid : List (Turn ι)) (r : Turn ι) (stored : String) : Prop where
  within : before ++ q :: mid ++ [r] <+: ts
  same_call : q.call = r.call
  read : (p.run before).store.passwordHash? y.user = some stored
  verified : ∃ email password device,
    calls r.call = .login email password device ∧
      c.hasher.verify password stored = true
  opened : ∃ x token now next, (p.run (before ++ q :: mid)).calls r.call =
      .ask (.createSession x token now) next ∧ x.id = y.id ∧ x.user = y.user

theorem OpenedByLogin.concat
    {ts : List (Turn ι)} {x y : Session} {before : List (Turn ι)} {q : Turn ι}
    {mid : List (Turn ι)} {r : Turn ι} {stored : String}
    (h : p.OpenedByLogin c calls ts x before q mid r stored) (hxy : x.Later y)
    (u : Turn ι) :
    p.OpenedByLogin c calls (ts ++ [u]) y before q mid r stored where
  within := List.prefix_append_of_prefix h.within
  same_call := h.same_call
  read := hxy.user ▸ h.read
  verified := h.verified
  opened := by
    obtain ⟨z, token, now, next, hask, hid, huser⟩ := h.opened
    exact ⟨z, token, now, next, hask, hid.trans hxy.id.symm,
      huser.trans hxy.user.symm⟩

theorem passwordHash_of_findLogin
    {s : Store} {email : String} {record : LoginRecord}
    (h : s.findLogin email = some record) :
    record.passwordHash = s.passwordHash? record.user.id := by
  obtain ⟨u, -, rfl⟩ := Option.map_eq_some_iff.mp h
  rfl

theorem exists_openedByLogin
    {ψ : ι → History → AccountResult → Prop}
    (habides : ∀ i, (p.calls i).Abides ((calls i).passwordRule c) (ψ i) [])
    {ts : List (Turn ι)} {r : Turn ι} {x : Session} {token : RefreshToken}
    {now : Instant} {answer : CreatedSession}
    (h : p.Hears ts r ⟨.createSession x token now, answer⟩) :
    ∃ before q mid stored, ts = before ++ q :: mid ∧
      p.OpenedByLogin c calls (ts ++ [r]) x before q mid r stored := by
  obtain ⟨H, ⟨-, email, password, device, hcall, hverifies⟩, hheard⟩ :=
    h.allowed habides
  obtain ⟨email', record, stored, hmem, hid, hstored, hverify⟩ := hverifies
  obtain ⟨before, q, mid, rfl, hsame, hreads⟩ := hheard _ hmem
  obtain ⟨next, hask⟩ := h.asks
  refine ⟨before, q, mid, stored, rfl, List.prefix_rfl, hsame, ?_,
    ⟨email, password, device, hcall, hverify⟩, x, token, now, next, hask, rfl, rfl⟩
  have hrecord : (p.run before).store.findLogin email' = some record :=
    hreads.answer.symm
  rw [← hid, ← passwordHash_of_findLogin hrecord, hstored]

theorem ReplacesAt.not_login
    (h : p.ReplacesAt c calls pre t user keep hash) (email password : String)
    (device : Device) : calls t.call ≠ .login email password device := by
  obtain ⟨e, -, hreplaces⟩ := h
  intro hcall
  rw [hcall] at hreplaces
  cases hreplaces

/-- Of two different turns of a schedule one comes before the other. -/
theorem prefix_or_prefix_of_ne
    {α : Type} {l₁ l₂ l : List α} {a b : α} (h₁ : l₁ ++ [a] <+: l)
    (h₂ : l₂ ++ [b] <+: l) (hne : a ≠ b) :
    l₁ ++ [a] <+: l₂ ∨ l₂ ++ [b] <+: l₁ := by
  have hdiff (heq : l₁ ++ [a] = l₂ ++ [b]) : False :=
    hne (List.append_inj_right' heq rfl |> List.singleton_inj.mp)
  rcases List.prefix_or_prefix_of_prefix h₁ h₂ with h | h
  · rcases List.prefix_concat_iff.mp h with heq | h
    · exact absurd heq hdiff
    · exact Or.inl h
  · rcases List.prefix_concat_iff.mp h with heq | h
    · exact absurd heq.symm hdiff
    · exact Or.inr h

/-- A session was opened after the turn `t` by a login that had read a hash
before it, or else one that was stored then or later. -/
def OpenedSince
    (c : ServiceSettings) (calls : ι → AccountCall) (p : Pool ι AccountResult)
    (pre : List (Turn ι)) (t : Turn ι) (ts : List (Turn ι)) (y : Session) :
    Prop :=
  ∃ before q mid r stored, p.OpenedByLogin c calls ts y before q mid r stored ∧
    pre ++ [t] <+: before ++ q :: mid ∧
    (before ++ [q] <+: pre ∨
      pre ++ [t] <+: before ∧ p.StoredSince c calls pre t before y.user stored)

theorem OpenedSince.concat
    {ts : List (Turn ι)} {x y : Session} (h : p.OpenedSince c calls pre t ts x)
    (hxy : x.Later y) (u : Turn ι) :
    p.OpenedSince c calls pre t (ts ++ [u]) y := by
  obtain ⟨before, q, mid, r, stored, hopened, hafter, hread⟩ := h
  exact ⟨before, q, mid, r, stored, hopened.concat hxy u, hafter,
    hxy.user ▸ hread⟩

/-- A login that opens a session after the replacement has read the hash before
it or since. -/
theorem openedSince_of_createSession
    {ψ : ι → History → AccountResult → Prop}
    (habides : ∀ i, (p.calls i).Abides ((calls i).passwordRule c) (ψ i) [])
    (hreplaces : p.ReplacesAt c calls pre t user keep hash)
    {ts : List (Turn ι)} {r : Turn ι} (hts : pre ++ [t] <+: ts ++ [r])
    {x : Session} {token : RefreshToken} {now : Instant} {answer : CreatedSession}
    (h : p.Hears ts r ⟨.createSession x token now, answer⟩)
    (huser : x.user = user) : p.OpenedSince c calls pre t (ts ++ [r]) x := by
  obtain ⟨before, q, mid, stored, rfl, hopened⟩ := exists_openedByLogin habides h
  obtain ⟨email, password, device, hlogin, -⟩ := hopened.verified
  have hne (u : Turn ι) (hu : u.call = r.call) : u ≠ t := by
    rintro rfl
    exact hreplaces.not_login email password device (hu ▸ hlogin)
  have hafter : pre ++ [t] <+: before ++ q :: mid := by
    rcases List.prefix_concat_iff.mp hts with heq | hafter
    · have hlast : [t] = [r] := List.append_inj_right' heq rfl
      exact absurd (List.singleton_inj.mp hlast).symm (hne r rfl)
    · exact hafter
  refine ⟨before, q, mid, r, stored, hopened, hafter, ?_⟩
  have hread : before ++ [q] <+: before ++ q :: mid := by simp
  rcases prefix_or_prefix_of_ne hread hafter (hne q hopened.same_call) with
    hbefore | hsince
  · exact Or.inl hbefore
  · obtain ⟨stored', hstored', hwas⟩ := exists_storedSince habides hreplaces hsince
    rw [← huser, hopened.read] at hstored'
    obtain rfl := Option.some.inj hstored'
    exact Or.inr ⟨hsince, huser ▸ hwas⟩

/-- After the password of a user has been replaced, every live session but the
one that was kept has been opened since. -/
theorem openedSince_of_live
    {ψ : ι → History → AccountResult → Prop}
    (habides : ∀ i, (p.calls i).Abides ((calls i).passwordRule c) (ψ i) [])
    (hreplaces : p.ReplacesAt c calls pre t user keep hash)
    {ts : List (Turn ι)} (hts : pre ++ [t] <+: ts) {y : Session}
    (hy : y ∈ (p.run ts).store.sessions.rows) (hlive : y.isRevoked = false)
    (huser : y.user = user) (hkeep : some y.id ≠ keep) :
    p.OpenedSince c calls pre t ts y := by
  have hproper {pre t e} (hhears : p.Hears pre t e) :
      e.request.OpensProperly := by
    obtain ⟨H, hallowed, -⟩ := hhears.allowed habides
    exact AccountCall.opensProperly_of_passwordRule hallowed
  refine session_induction
    (Q := fun ts y => pre ++ [t] <+: ts → y.isRevoked = false → y.user = user →
      some y.id ≠ keep → p.OpenedSince c calls pre t ts y)
    hproper ?_ ?_ ?_ hy hts hlive huser hkeep
  · intro x _ hts
    simp at hts
  · intro ts r x token now answer hhears hts _ huser _
    exact openedSince_of_createSession habides hreplaces hts hhears huser
  · intro ts u x y _ hy hxy hbefore hts hlive huser hkeep
    rcases List.prefix_concat_iff.mp hts with heq | hts
    · rw [← heq] at hy
      rw [hreplaces.store.revoked y hy huser hkeep] at hlive
      cases hlive
    · rw [hxy.user] at huser
      rw [hxy.id] at hkeep
      exact (hbefore hts (hxy.isRevoked_eq_false hlive) huser hkeep).concat hxy u

end Pool

variable {ι : Type} [DecidableEq ι]

/-- However logins run together with resets and changes of passwords: once a
reset or a change has succeeded, every live session of the user, but for the
one that was kept, has been opened since by a login, whose password belongs to
a hash that was stored by this replacement or by a later one, or that the login
had read before the replacement. -/
theorem superseded_password
    (c : ServiceSettings) (o : ι → Surroundings) (calls : ι → AccountCall)
    (hcalls : ∀ i, (calls i).concernsPassword = true) (s : Store)
    (ts : List (Turn ι)) (k : ι) (result : AccountResult)
    (hresult : ((accountPool c o calls s).run ts).result? k = some result)
    (hdone : result.isReplacement = true) :
    let p := accountPool c o calls s
    ∃ user keep hash pre t post, ts = pre ++ t :: post ∧ t.call = k ∧
      p.ReplacesAt c calls pre t user keep hash ∧
      ∀ y ∈ (p.run ts).store.sessions.rows, y.isRevoked = false →
        y.user = user → some y.id ≠ keep →
          p.OpenedSince c calls pre t ts y := by
  intro p
  have habides : ∀ i, (p.calls i).Abides ((calls i).passwordRule c)
      ((calls i).toldReplaced c) [] :=
    fun i => AccountCall.abides_passwordRule c (o i) (hcalls i)
  obtain ⟨H, htold, hheard⟩ := Pool.ended_run habides hresult
  obtain ⟨user, keep, hash, e, he, hreplaces⟩ := htold hdone
  obtain ⟨pre, t, post, rfl, rfl, hhears⟩ := hheard e he
  have hat : p.ReplacesAt c calls pre t user keep hash := ⟨e, hhears, hreplaces⟩
  refine ⟨user, keep, hash, pre, t, post, rfl, rfl, hat, ?_⟩
  intro y hy hlive huser hkeep
  exact Pool.openedSince_of_live habides hat (by simp) hy hlive huser hkeep

/-! ## A login that is overtaken by a reset -/

/-- The sample user has asked for a reset of the password. -/
def userWithReset : Store :=
  userWithPassword.storeVerificationToken
    { id := ⟨9⟩, user := sampleUser.id, purpose := .passwordReset
      hash := "reset", expiresAt := ⟨100, 0⟩, createdAt := ⟨0, 0⟩ }

/-- One client logs in with the old password, another one sets a new one. -/
def loginAndReset : Bool → AccountCall
  | false => .login sampleUser.email "password" {}
  | true => .confirmReset "reset" "new password"

/-- The two calls over the store with the user. -/
def loginOutrun : Pool Bool AccountResult :=
  accountPool plainSettings (fun _ => .still ⟨0, 0⟩ []) loginAndReset
    userWithReset

theorem loginAndReset_concernsPassword :
    ∀ i, (loginAndReset i).concernsPassword = true := by
  decide

theorem reset_done :
    (loginOutrun.run suspensionBetween).result? true =
      some (.passwordReset (.ok ())) := by
  rfl

theorem exists_session_after_reset :
    ∃ y ∈ (loginOutrun.run suspensionBetween).store.sessions.rows,
      y.isRevoked = false ∧ y.user = sampleUser.id := by
  decide

/-- The reset has its turn between the two of the login. -/
theorem reset_turn
    {pre post : List (Turn Bool)} {t : Turn Bool}
    (hsplit : suspensionBetween = pre ++ t :: post) (hcall : t.call = true) :
    pre = [⟨false, .zero⟩] ∧ t = ⟨true, .zero⟩ := by
  rcases pre with _ | ⟨a, _ | ⟨b, _ | ⟨d, rest⟩⟩⟩
  · cases hsplit
    cases hcall
  · cases hsplit
    exact ⟨rfl, rfl⟩
  · cases hsplit
    cases hcall
  · simp [suspensionBetween] at hsplit

/-- The reset is one of the sample user's password, and keeps no session. -/
theorem reset_replaces
    {user : UserId} {keep : Option SessionId} {hash : String}
    (h : loginOutrun.ReplacesAt plainSettings loginAndReset [⟨false, .zero⟩]
      ⟨true, .zero⟩ user keep hash) : user = sampleUser.id ∧ keep = none := by
  constructor
  · by_contra hne
    have hsame := h.store.others sampleUser.id fun heq => hne heq.symm
    exact absurd hsame (by decide)
  · obtain ⟨e, -, hreplaces⟩ := h
    change (AccountCall.confirmReset _ _).Replaces _ _ _ _ _ at hreplaces
    cases hreplaces
    rfl

/-- A live session may have been opened by a login that verified its password
against a hash that had been replaced. -/
theorem not_verified_since_replacement :
    ¬∀ (c : ServiceSettings) (o : Bool → Surroundings)
      (calls : Bool → AccountCall),
      (∀ i, (calls i).concernsPassword = true) →
      ∀ (s : Store) (ts : List (Turn Bool)) (k : Bool) (result : AccountResult),
        ((accountPool c o calls s).run ts).result? k = some result →
        result.isReplacement = true →
        ∃ user keep hash pre t post, ts = pre ++ t :: post ∧ t.call = k ∧
          (accountPool c o calls s).ReplacesAt c calls pre t user keep hash ∧
          ∀ y ∈ ((accountPool c o calls s).run ts).store.sessions.rows,
            y.isRevoked = false → y.user = user → some y.id ≠ keep →
            ∃ before q mid r stored,
              (accountPool c o calls s).OpenedByLogin c calls ts y before q mid r
                stored ∧
              pre ++ [t] <+: before ∧
              (accountPool c o calls s).StoredSince c calls pre t before user
                stored := by
  intro h
  obtain ⟨user, keep, hash, pre, t, post, hsplit, hcall, hreplaces, hall⟩ :=
    h plainSettings (fun _ => .still ⟨0, 0⟩ []) loginAndReset
      loginAndReset_concernsPassword userWithReset suspensionBetween true _
      reset_done rfl
  obtain ⟨rfl, rfl⟩ := reset_turn hsplit hcall
  obtain ⟨rfl, rfl⟩ := reset_replaces hreplaces
  obtain ⟨y, hy, hlive, huser⟩ := exists_session_after_reset
  obtain ⟨before, q, mid, r, stored, hopened, hsince, -⟩ :=
    hall y hy hlive huser (by simp)
  -- The login would have had both of its turns after the reset.
  have hlength := hopened.within.length_le
  have hbefore := hsince.length_le
  simp only [suspensionBetween, List.length_append, List.length_cons,
    List.length_nil] at hlength hbefore
  omega

theorem superseded_password_sample :
    (∀ i, (loginAndReset i).concernsPassword = true) ∧
      (loginOutrun.run suspensionBetween).result? true =
        some (.passwordReset (.ok ())) ∧
      ∃ y ∈ (loginOutrun.run suspensionBetween).store.sessions.rows,
        y.isRevoked = false ∧
          loginOutrun.OpenedSince plainSettings loginAndReset [⟨false, .zero⟩]
            ⟨true, .zero⟩ suspensionBetween y := by
  refine ⟨loginAndReset_concernsPassword, reset_done, ?_⟩
  obtain ⟨user, keep, hash, pre, t, post, hsplit, hcall, hreplaces, hall⟩ :=
    superseded_password plainSettings (fun _ => .still ⟨0, 0⟩ []) loginAndReset
      loginAndReset_concernsPassword userWithReset suspensionBetween true _
      reset_done rfl
  obtain ⟨rfl, rfl⟩ := reset_turn hsplit hcall
  obtain ⟨rfl, rfl⟩ := reset_replaces hreplaces
  obtain ⟨y, hy, hlive, huser⟩ := exists_session_after_reset
  exact ⟨y, hy, hlive, hall y hy hlive huser (by simp)⟩

end AccountAuthority
