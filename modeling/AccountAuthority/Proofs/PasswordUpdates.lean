import AccountAuthority.Proofs.CallEndings
import AccountAuthority.Proofs.Refusals
import AccountAuthority.Proofs.SupersededPasswords
import AccountAuthority.Proofs.VerificationTokens

/-!
# Passwords that are set at the same time

Several calls may change or reset the password of one user at the same time.  A
change reads the stored hash, verifies the present password against it, and has
a new hash stored only if the stored one is still the one that it has read; a
reset has its hash stored whatever is there.  As every new hash is a hash that
nobody has seen, a hash that has been replaced never comes back, and so no
change overwrites a password that it has not verified.
-/

namespace AccountAuthority

open Store

/-! ## What the calls ask -/

/-- The hash that a request asks to store. -/
def RepositoryRequest.newHash? : RepositoryRequest → Option String
  | resetPassword _ hash _ | changePassword _ _ hash _ _ => some hash
  | _ => none

/-- The repository has replaced a password. -/
def Exchange.replacesPassword : Exchange → Bool
  | ⟨.resetPassword .., .reset ..⟩ | ⟨.changePassword .., .changed _⟩ => true
  | _ => false

/-- A hash of the new password that a call is given. -/
def AccountCall.HashesTo (c : ServiceSettings) (hash : String) : AccountCall → Prop
  | changePassword _ _ _ password | confirmReset _ password =>
      ∃ salt, hash = c.hasher.hash salt password
  | _ => False

/-- A call sets the password of a user: it changes it, or resets it by a token
that is not another user's. -/
def AccountCall.SetsPassword
    (c : ServiceSettings) (s : Store) (user : UserId) : AccountCall → Prop
  | changePassword id _ _ _ => id = user
  | confirmReset rawToken _ =>
      ∀ t ∈ s.verificationTokens.rows, t.hash = c.tokenHash rawToken → t.user = user
  | _ => False

/-- What a call that sets a password may ask: a change reads the credentials
first and then asks once to replace the hash that it has verified, and a reset
asks once. -/
def AccountCall.settingRule (c : ServiceSettings) (call : AccountCall) : Rule
  | H, .findCredentials user =>
      H = [] ∧ ∃ keep current new, call = .changePassword user keep current new
  | H, .changePassword user expected hash keep _ => ∃ current new record salt,
      call = .changePassword user keep current new ∧
        H = [⟨.findCredentials user, some record⟩] ∧
        record.passwordHash = some expected ∧
        c.hasher.verify current expected = true ∧ hash = c.hasher.hash salt new
  | H, .resetPassword token hash _ => H = [] ∧ ∃ rawToken password salt,
      call = .confirmReset rawToken password ∧ token = c.tokenHash rawToken ∧
        hash = c.hasher.hash salt password
  | _, _ => False

/-- A call ends well exactly if it has replaced a password. -/
def AccountResult.TellsReplacement (H : History) (result : AccountResult) : Prop :=
  result.isReplacement = H.any Exchange.replacesPassword

namespace Service

variable {c : ServiceSettings}

theorem ends_changePassword
    {user : UserId} {keep : Option SessionId} {current new : String} :
    Ends ((AccountCall.changePassword user keep current new).settingRule c) []
      (changePassword c user keep current new) fun H result =>
        (AccountResult.passwordChanged result).TellsReplacement H := by
  rw [changePassword, ends_bind]
  refine ends_refuseInvalid ?_ fun e => rfl
  rw [endsThen_ok, ends_bind, ends_repository]
  refine ⟨⟨rfl, keep, current, new, rfl⟩, fun found _ => ?_⟩
  rw [endsThen_ok]
  cases found with
  | none => exact ends_throw.mpr rfl
  | some record =>
    dsimp only
    split
    · exact ends_throw.mpr rfl
    split
    · exact ends_throw.mpr rfl
    next expected hexpected =>
      obtain ⟨hstored, hverify⟩ := Option.filter_eq_some_iff.mp hexpected
      rw [ends_bind, ends_hashPassword]
      intro salt
      rw [endsThen_ok, ends_bind, ends_now]
      intro time
      rw [endsThen_ok, ends_bind, ends_repository]
      refine ⟨⟨current, new, record, salt, rfl, rfl, hstored, hverify, rfl⟩,
        fun outcome _ => ?_⟩
      rw [endsThen_ok]
      cases outcome with
      | changed revoked => exact ends_pure.mpr rfl
      | credentialChanged | userNotFound => exact ends_throw.mpr rfl

theorem ends_confirmReset {rawToken password : String} :
    Ends ((AccountCall.confirmReset rawToken password).settingRule c) []
      (confirmReset c rawToken password) fun H result =>
        (AccountResult.passwordReset result).TellsReplacement H := by
  rw [confirmReset, ends_bind]
  refine ends_refuseInvalid ?_ fun e => rfl
  rw [endsThen_ok, ends_bind, ends_hashPassword]
  intro salt
  rw [endsThen_ok, ends_bind, ends_now]
  intro time
  rw [endsThen_ok, ends_bind, ends_repository]
  refine ⟨⟨rfl, rawToken, password, salt, rfl, rfl, rfl⟩, fun outcome _ => ?_⟩
  rw [endsThen_ok]
  cases outcome with
  | reset user revoked => exact ends_pure.mpr rfl
  | invalidToken | userInactive | expired => exact ends_throw.mpr rfl

end Service

theorem AccountCall.abides_settingRule
    {c : ServiceSettings} {s : Store} {user : UserId} {call : AccountCall}
    (h : call.SetsPassword c s user) (o : Surroundings) :
    (call.program c o).Abides (call.settingRule c)
      (fun H result => result.TellsReplacement H) [] := by
  cases call with
  | changePassword id keep current new =>
      exact Service.ends_changePassword.abides o 0
  | confirmReset rawToken password => exact Service.ends_confirmReset.abides o 0
  | login | register | exchange | refresh | changeStatus | finalize => cases h

/-! ## What a call has heard -/

/-- The credentials are read once. -/
theorem AccountCall.eq_of_mem_of_lawful
    {c : ServiceSettings} {call : AccountCall} {user : UserId} {H : History}
    (h : H.Lawful (call.settingRule c)) {found found' : Option LoginRecord}
    (hfound : ⟨.findCredentials user, found⟩ ∈ H)
    (hfound' : ⟨.findCredentials user, found'⟩ ∈ H) : found = found' := by
  induction h with
  | nil => cases hfound
  | cons _ allowed ih =>
      cases hfound with
      | head =>
          obtain ⟨rfl, -⟩ := allowed
          cases List.mem_singleton.mp hfound'
          rfl
      | tail _ hfound =>
          cases hfound' with
          | head =>
              obtain ⟨rfl, -⟩ := allowed
              cases hfound
          | tail _ hfound' => exact ih hfound hfound'

/-- Nothing is asked after a password has been replaced. -/
theorem AccountCall.any_replaces_of_allowed
    {c : ServiceSettings} {call : AccountCall} {H : History} {r : RepositoryRequest}
    (h : call.settingRule c H r) : H.any Exchange.replacesPassword = false := by
  cases r with
  | findCredentials id => rw [h.1]; rfl
  | changePassword id expected hash keep now =>
      obtain ⟨_, _, record, _, -, rfl, -⟩ := h
      rfl
  | resetPassword token hash now => rw [h.1]; rfl
  | _ => exact absurd h id

theorem Exchange.replacesPassword_reset
    {token hash : String} {now : Instant} {outcome : ResetPasswordOutcome} :
    replacesPassword ⟨.resetPassword token hash now, outcome⟩ = true ↔
      ∃ user n, outcome = .reset user n := by
  cases outcome <;> simp [replacesPassword]

theorem Exchange.replacesPassword_change
    {user : UserId} {expected hash : String} {keep : Option SessionId}
    {now : Instant} {outcome : ChangePasswordOutcome} :
    replacesPassword ⟨.changePassword user expected hash keep now, outcome⟩ = true ↔
      ∃ n, outcome = .changed n := by
  cases outcome <;> simp [replacesPassword]

/-! ## The hashes of a schedule -/

namespace Pool

section Hashes

variable {ι α : Type} [DecidableEq ι]

/-- The hash that a call asks to store at its next turn. -/
def newHash? (p : Pool ι α) (t : Turn ι) : Option String :=
  match p.calls t.call with
  | .ask r _ => r.newHash?
  | .done _ => none

/-- The hashes that calls ask to store in a schedule. -/
def newHashes (p : Pool ι α) : List (Turn ι) → List String
  | [] => []
  | t :: ts => (p.newHash? t).toList ++ (p.turn t).newHashes ts

/-- The hash that is stored at first, and those that calls ask to store in a
schedule. -/
def hashesSeen (p : Pool ι α) (user : UserId) (ts : List (Turn ι)) : List String :=
  (p.store.passwordHash? user).toList ++ p.newHashes ts

variable {p : Pool ι α} {user : UserId}

theorem newHashes_append (ts ts' : List (Turn ι)) :
    p.newHashes (ts ++ ts') = p.newHashes ts ++ (p.run ts).newHashes ts' := by
  induction ts generalizing p with
  | nil => rfl
  | cons t ts ih =>
      rw [List.cons_append, newHashes, newHashes, ih, List.append_assoc]
      rfl

theorem hashesSeen_concat (ts : List (Turn ι)) (t : Turn ι) :
    p.hashesSeen user (ts ++ [t]) =
      p.hashesSeen user ts ++ ((p.run ts).newHash? t).toList := by
  rw [hashesSeen, hashesSeen, newHashes_append, newHashes, newHashes,
    List.append_nil, List.append_assoc]

theorem hashesSeen_mono {ts ts' : List (Turn ι)} (h : ts <+: ts') :
    p.hashesSeen user ts <+: p.hashesSeen user ts' := by
  obtain ⟨post, rfl⟩ := h
  rw [hashesSeen, hashesSeen, newHashes_append, ← List.append_assoc]
  exact List.prefix_append _ _

theorem Hears.newHash?_eq
    {pre : List (Turn ι)} {t : Turn ι} {e : Exchange} (h : p.Hears pre t e) :
    (p.run pre).newHash? t = e.request.newHash? := by
  obtain ⟨next, hnext⟩ := h.asks
  rw [newHash?, hnext]

/-- A call that has ended stays as it has ended. -/
theorem result?_mono
    {pre ts : List (Turn ι)} {i : ι} {a : α} (h : pre <+: ts)
    (ha : (p.run pre).result? i = some a) : (p.run ts).result? i = some a := by
  obtain ⟨post, rfl⟩ := h
  induction post using List.reverseRecOn with
  | nil => rwa [List.append_nil]
  | append_singleton post t ih =>
      rw [← List.append_assoc, run_concat]
      rw [result?_eq_some_iff] at ih ⊢
      by_cases hcall : t.call = i
      · subst hcall
        rw [turn_of_done ih, ih]
      · rw [turn_calls_of_ne _ fun heq => hcall heq.symm, ih]

end Hashes

/-! ## Turns at which calls end well -/

variable {ι : Type} [DecidableEq ι]

/-- A call has ended, and has ended well. -/
def EndedWell (p : Pool ι AccountResult) (ts : List (Turn ι)) (i : ι) : Prop :=
  ∃ result, (p.run ts).result? i = some result ∧ result.isReplacement = true

/-- At its turn `t` after the schedule `pre` a call ends, and ends well. -/
def SucceedsAt (p : Pool ι AccountResult) (pre : List (Turn ι)) (t : Turn ι) :
    Prop :=
  (p.run pre).result? t.call = none ∧ p.EndedWell (pre ++ [t]) t.call

theorem endedWell_concat
    {p : Pool ι AccountResult} {ts : List (Turn ι)} {t : Turn ι} {i : ι}
    (h : p.EndedWell (ts ++ [t]) i) :
    p.EndedWell ts i ∨ t.call = i ∧ p.SucceedsAt ts t := by
  by_cases hcall : t.call = i
  · subst hcall
    cases hbefore : (p.run ts).result? t.call with
    | none => exact Or.inr ⟨rfl, hbefore, h⟩
    | some result =>
        obtain ⟨result', hafter, hgood⟩ := h
        rw [result?_mono (List.prefix_append ts [t]) hbefore] at hafter
        cases hafter
        exact Or.inl ⟨result, hbefore, hgood⟩
  · obtain ⟨result, hafter, hgood⟩ := h
    refine Or.inl ⟨result, ?_, hgood⟩
    rw [result?_eq_some_iff] at hafter ⊢
    rw [run_concat] at hafter
    rwa [turn_calls_of_ne _ fun heq => hcall heq.symm] at hafter

/-- All calls of the pool set passwords as they may. -/
def SetsPasswords
    (c : ServiceSettings) (calls : ι → AccountCall) (p : Pool ι AccountResult) :
    Prop :=
  ∀ i, (p.calls i).Abides ((calls i).settingRule c)
    (fun H result => result.TellsReplacement H) []

variable {c : ServiceSettings} {calls : ι → AccountCall}
  {p : Pool ι AccountResult} {pre ts : List (Turn ι)} {t : Turn ι} {user : UserId}

/-- A call ends well at the turn at which it is told that it has replaced a
password. -/
theorem succeedsAt_iff (hp : p.SetsPasswords c calls) :
    p.SucceedsAt pre t ↔ ∃ e, p.Hears pre t e ∧ e.replacesPassword = true := by
  obtain ⟨H, hremembers⟩ := exists_remembers hp pre t.call
  constructor
  · rintro ⟨hnone, result, hresult, hgood⟩
    cases hprogram : (p.run pre).calls t.call with
    | done a =>
        rw [result?_eq_some_iff.mpr hprogram] at hnone
        cases hnone
    | ask r next =>
        let e : Exchange := ⟨r, ((p.run pre).store.perform r t.fresh).1⟩
        have hhears : p.Hears pre t e := ⟨⟨next, hprogram⟩, rfl⟩
        obtain ⟨hallowed, hafter⟩ := hremembers.hears hhears
        have htold := hafter.abides
        rw [result?_eq_some_iff.mp hresult, Program.abides_done] at htold
        refine ⟨e, hhears, ?_⟩
        rw [AccountResult.TellsReplacement, hgood, List.any_cons,
          AccountCall.any_replaces_of_allowed hallowed, Bool.or_false] at htold
        exact htold.symm
  · rintro ⟨e, hhears, hreplaces⟩
    obtain ⟨-, hafter⟩ := hremembers.hears hhears
    have htold := hafter.abides
    have hany : (e :: H).any Exchange.replacesPassword = true := by
      rw [List.any_cons, hreplaces, Bool.true_or]
    refine ⟨?_, ?_⟩
    · obtain ⟨next, hnext⟩ := hhears.asks
      rw [result?, hnext]
    · cases hprogram : (p.run (pre ++ [t])).calls t.call with
      | done result =>
          rw [hprogram, Program.abides_done, AccountResult.TellsReplacement,
            hany] at htold
          exact ⟨result, result?_eq_some_iff.mpr hprogram, htold⟩
      | ask r next =>
          rw [hprogram, Program.abides_ask] at htold
          rw [AccountCall.any_replaces_of_allowed htold.1] at hany
          cases hany

theorem not_endedWell_nil (hp : p.SetsPasswords c calls) (i : ι) :
    ¬p.EndedWell [] i := by
  rintro ⟨result, hresult, hgood⟩
  have htold := hp i
  rw [show p.calls i = .done result from result?_eq_some_iff.mp hresult,
    Program.abides_done, AccountResult.TellsReplacement, hgood] at htold
  cases htold

theorem exists_succeedsAt
    (hp : p.SetsPasswords c calls) {i : ι} (h : p.EndedWell ts i) :
    ∃ pre t, pre ++ [t] <+: ts ∧ t.call = i ∧ p.SucceedsAt pre t := by
  induction ts using List.reverseRecOn with
  | nil => exact absurd h (not_endedWell_nil hp i)
  | append_singleton ts u ih =>
      rcases endedWell_concat h with hbefore | ⟨hcall, hsucceeds⟩
      · obtain ⟨pre, t, hts, hat⟩ := ih hbefore
        exact ⟨pre, t, List.prefix_append_of_prefix hts, hat⟩
      · exact ⟨ts, u, List.prefix_rfl, hcall, hsucceeds⟩

end Pool

/-! ## What a turn does to the store -/

/-- Passwords, sessions and refresh tokens are the same. -/
structure Store.SameAccess (s s' : Store) : Prop where
  passwords : s'.passwords = s.passwords
  sessions : s'.sessions = s.sessions
  tokens : s'.tokens = s.tokens

namespace Store

variable {s s' : Store}

theorem SameAccess.passwordHash?_eq (h : s.SameAccess s') (user : UserId) :
    s'.passwordHash? user = s.passwordHash? user := by
  rw [passwordHash?, passwordHash?, h.passwords]

/-- A change of password that is refused may count as a change of the user, but
of nothing else. -/
theorem sameAccess_changePassword
    {user : UserId} {expected hash : String} {keep : Option SessionId}
    {now : Instant}
    (h : ∀ n, (s.changePassword user expected hash keep now).1 ≠ .changed n) :
    s.SameAccess (s.changePassword user expected hash keep now).2 := by
  have hrefusal :
      (s.changePassword user expected hash keep now).1.isRefusal = true := by
    cases houtcome : (s.changePassword user expected hash keep now).1 with
    | changed n => exact absurd houtcome (h n)
    | credentialChanged | userNotFound => rfl
  rcases changePassword_of_refusal hrefusal with hsame | ⟨-, htouched⟩
  · rw [hsame]
    exact ⟨rfl, rfl, rfl⟩
  · rw [htouched]
    exact ⟨rfl, rfl, rfl⟩

/-- A reset that is refused changes nothing at all. -/
theorem sameAccess_resetPassword
    {token hash : String} {now : Instant}
    (h : ∀ user n, (s.resetPassword token hash now).1 ≠ .reset user n) :
    s.SameAccess (s.resetPassword token hash now).2 := by
  have hrefusal : (s.resetPassword token hash now).1.isRefusal = true := by
    cases houtcome : (s.resetPassword token hash now).1 with
    | reset user n => exact absurd houtcome (h user n)
    | invalidToken | userInactive | expired => rfl
  rw [(resetPassword_settled s token hash now).eq_of_refusal hrefusal]
  exact ⟨rfl, rfl, rfl⟩

/-- The stored hash is compared when it is replaced. -/
theorem passwordHash?_of_changed
    {user : UserId} {expected hash : String} {keep : Option SessionId}
    {now : Instant} {n : ℕ}
    (h : (s.changePassword user expected hash keep now).1 = .changed n) :
    s.passwordHash? user = some expected := by
  unfold changePassword at h
  split at h
  · cases h
  split at h
  · cases h
  dsimp only at h
  split at h
  · cases h
  next hstored => exact not_not.mp hstored

/-- A change is granted when the hash that it expects is stored. -/
theorem changePassword_of_stored
    {user : UserId} {u : User} {expected : String} (hu : s.users.get? user = some u)
    (hlive : u.status ≠ .deleted) (hstored : s.passwordHash? user = some expected)
    (hash : String) (keep : Option SessionId) (now : Instant) :
    ∃ n, (s.changePassword user expected hash keep now).1 = .changed n := by
  have htouched : (s.touchUser user now).passwordHash? user = some expected := hstored
  unfold changePassword
  simp only [hu, hlive, htouched, if_false, ne_eq, not_true_eq_false]
  exact ⟨_, rfl⟩

end Store

namespace Pool

variable {ι : Type} [DecidableEq ι] {c : ServiceSettings} {calls : ι → AccountCall}
  {p : Pool ι AccountResult} {pre ts : List (Turn ι)} {t : Turn ι} {user : UserId}

/-- No verification tokens are put in by calls that set passwords. -/
theorem verificationToken_origin
    (hp : p.SetsPasswords c calls) {v : VerificationToken}
    (hv : v ∈ (p.run ts).store.verificationTokens.rows) :
    ∃ w ∈ p.store.verificationTokens.rows, w.Later v := by
  induction ts using List.reverseRecOn generalizing v with
  | nil => exact ⟨v, hv, .refl v⟩
  | append_singleton ts t ih =>
      rcases store_concat p ts t with hsame | ⟨e, hhears⟩
      · exact ih (hsame ▸ hv)
      · rw [hhears.store] at hv
        have hnone : e.request.storedTokens = [] := by
          obtain ⟨H, hremembers⟩ := exists_remembers hp ts t.call
          have hallowed := (hremembers.hears hhears).1
          obtain ⟨r, answer⟩ := e
          cases r with
          | storeVerificationToken v => exact absurd hallowed id
          | _ => rfl
        rcases Operation.tokensStep ⟨e.request, t.fresh⟩ _ v hv with hnew | ⟨w, hw, hwv⟩
        · rw [show e.request.storedTokens = [] from hnone] at hnew
          exact absurd hnew List.not_mem_nil
        · obtain ⟨w₀, hw₀, hlater⟩ := ih hw
          exact ⟨w₀, hw₀, hlater.trans hwv⟩

/-- The token by which a password is reset is the user's own. -/
theorem user_of_reset
    (hp : p.SetsPasswords c calls)
    (hcalls : ∀ i, (calls i).SetsPassword c p.store user)
    {rawToken password hash : String} {now : Instant} {owner : UserId} {n : ℕ}
    (hcall : calls t.call = .confirmReset rawToken password)
    (hreset : ((p.run pre).store.resetPassword (c.tokenHash rawToken) hash now).1 =
      .reset owner n) : owner = user := by
  obtain ⟨v, -, hfound, -, -, -, rfl, -⟩ := resetPassword_found hreset
  obtain ⟨hmem, hhash, -⟩ := verificationToken?_eq_some hfound
  obtain ⟨w, hw, hlater⟩ := verificationToken_origin hp hmem
  have howner := hcalls t.call
  rw [hcall] at howner
  rw [hlater.user]
  exact howner w hw (hlater.hash.symm.trans hhash)

/-- When a password has been replaced, the new hash is stored; otherwise
passwords and sessions are left alone. -/
theorem Hears.replaces_cases
    (hp : p.SetsPasswords c calls)
    (hcalls : ∀ i, (calls i).SetsPassword c p.store user) {e : Exchange}
    (h : p.Hears pre t e) :
    (e.replacesPassword = true ∧ ∃ hash, e.request.newHash? = some hash ∧
      (calls t.call).HashesTo c hash ∧
      (p.run (pre ++ [t])).store.passwordHash? user = some hash) ∨
    (e.replacesPassword = false ∧
      (p.run pre).store.SameAccess (p.run (pre ++ [t])).store) := by
  obtain ⟨H, hremembers⟩ := exists_remembers hp pre t.call
  have hallowed := (hremembers.hears h).1
  have hanswer := h.answer
  rw [h.store]
  obtain ⟨r, answer⟩ := e
  dsimp only at hanswer
  subst hanswer
  cases r with
  | findCredentials id => exact Or.inr ⟨rfl, rfl, rfl, rfl⟩
  | resetPassword token hash now =>
      obtain ⟨-, rawToken, password, salt, hcall, rfl, hhash⟩ := hallowed
      rcases resetPassword_cases (s := (p.run pre).store) (c.tokenHash rawToken) hash
        now with ⟨owner, n, hreset, hreplaced⟩ | ⟨hrefused, -⟩
      · obtain rfl := user_of_reset hp hcalls hcall hreset
        exact Or.inl ⟨Exchange.replacesPassword_reset.mpr ⟨owner, n, hreset⟩, hash,
          rfl, hcall ▸ ⟨salt, hhash⟩, hreplaced.stored⟩
      · refine Or.inr ⟨Bool.eq_false_iff.mpr fun hreplaces => ?_,
          sameAccess_resetPassword hrefused⟩
        obtain ⟨owner, n, hreset⟩ := Exchange.replacesPassword_reset.mp hreplaces
        exact hrefused owner n hreset
  | changePassword id expected hash keep now =>
      obtain ⟨_, _, record, salt, hcall, rfl, hstored, hverified, rfl⟩ := hallowed
      have howner := hcalls t.call
      rw [hcall] at howner
      obtain rfl : id = user := howner
      rcases changePassword_cases (s := (p.run pre).store) id expected
        (c.hasher.hash salt _) keep now with ⟨n, hchanged, hreplaced⟩ | ⟨hrefused, -⟩
      · exact Or.inl ⟨Exchange.replacesPassword_change.mpr ⟨n, hchanged⟩, _, rfl,
          hcall ▸ ⟨salt, rfl⟩, hreplaced.stored⟩
      · refine Or.inr ⟨Bool.eq_false_iff.mpr fun hreplaces => ?_,
          sameAccess_changePassword hrefused⟩
        obtain ⟨n, hchanged⟩ := Exchange.replacesPassword_change.mp hreplaces
        exact hrefused n hchanged
  | _ => exact absurd hallowed not_false

/-- A turn at which a call ends well replaces the password by the hash that the
call asks to store, and any other turn leaves passwords and sessions alone. -/
theorem turn_cases
    (hp : p.SetsPasswords c calls)
    (hcalls : ∀ i, (calls i).SetsPassword c p.store user)
    (pre : List (Turn ι)) (t : Turn ι) :
    (p.SucceedsAt pre t ∧ ∃ hash, (p.run pre).newHash? t = some hash ∧
      (calls t.call).HashesTo c hash ∧
      (p.run (pre ++ [t])).store.passwordHash? user = some hash) ∨
    (¬p.SucceedsAt pre t ∧
      (p.run pre).store.SameAccess (p.run (pre ++ [t])).store) := by
  rw [succeedsAt_iff hp]
  cases hprogram : (p.run pre).calls t.call with
  | done a =>
      refine Or.inr ⟨?_, ?_⟩
      · rintro ⟨e, ⟨⟨next, hnext⟩, -⟩, -⟩
        rw [hprogram] at hnext
        cases hnext
      · rw [run_concat, turn_of_done hprogram]
        exact ⟨rfl, rfl, rfl⟩
  | ask r next =>
      let e : Exchange := ⟨r, ((p.run pre).store.perform r t.fresh).1⟩
      have hhears : p.Hears pre t e := ⟨⟨next, hprogram⟩, rfl⟩
      rcases hhears.replaces_cases hp hcalls with
        ⟨hreplaces, hash, hnew, hstored⟩ | ⟨hrefused, hsame⟩
      · exact Or.inl ⟨⟨e, hhears, hreplaces⟩, hash,
          hhears.newHash?_eq.trans hnew, hstored⟩
      · refine Or.inr ⟨?_, hsame⟩
        rintro ⟨e', hhears', hreplaces⟩
        rw [hhears'.unique hhears, hrefused] at hreplaces
        cases hreplaces

/-! ## Hashes do not come back -/

theorem mem_hashesSeen
    (hp : p.SetsPasswords c calls)
    (hcalls : ∀ i, (calls i).SetsPassword c p.store user) {hash : String}
    (h : (p.run ts).store.passwordHash? user = some hash) :
    hash ∈ p.hashesSeen user ts := by
  induction ts using List.reverseRecOn with
  | nil => exact List.mem_append_left _ (Option.mem_toList.mpr h)
  | append_singleton ts t ih =>
      rw [hashesSeen_concat, List.mem_append]
      rcases turn_cases hp hcalls ts t with ⟨-, new, hnew, -, hstored⟩ | ⟨-, hsame⟩
      · obtain rfl : new = hash := Option.some.inj (hstored.symm.trans h)
        exact Or.inr (Option.mem_toList.mpr hnew)
      · exact Or.inl (ih ((hsame.passwordHash?_eq user).symm.trans h))

theorem new_not_mem_hashesSeen
    (hnodup : (p.hashesSeen user (pre ++ [t])).Nodup) {hash : String}
    (h : (p.run pre).newHash? t = some hash) : hash ∉ p.hashesSeen user pre := by
  rw [hashesSeen_concat, h] at hnodup
  exact fun hmem =>
    List.disjoint_of_nodup_append hnodup hmem (Option.mem_toList.mpr rfl)

/-- A hash that has been replaced does not come back. -/
theorem stored_ne_of_replaced
    (hp : p.SetsPasswords c calls)
    (hcalls : ∀ i, (calls i).SetsPassword c p.store user)
    (hnodup : (p.hashesSeen user ts).Nodup) (hts : pre ++ [t] <+: ts)
    (h : p.SucceedsAt pre t) {old : String}
    (hold : old ∈ p.hashesSeen user pre) :
    (p.run ts).store.passwordHash? user ≠ some old := by
  induction ts using List.reverseRecOn with
  | nil => simp at hts
  | append_singleton ts u ih =>
      have hpre : pre <+: ts :=
        List.prefix_of_prefix_length_le ((List.prefix_append _ _).trans hts)
          (List.prefix_append _ _) (by simpa using hts.length_le)
      rcases turn_cases hp hcalls ts u with
        ⟨-, new, hnew, -, hstored⟩ | ⟨hnone, hsame⟩
      · -- The new hash has not been seen before, and the old one has.
        rw [hstored]
        rintro ⟨⟩
        exact new_not_mem_hashesSeen hnodup hnew ((hashesSeen_mono hpre).subset hold)
      · rcases List.prefix_concat_iff.mp hts with heq | hts
        · obtain ⟨rfl, hlast⟩ := List.append_inj' heq rfl
          obtain rfl := List.singleton_inj.mp hlast
          exact absurd h hnone
        · rw [hsame.passwordHash?_eq]
          have hseen : p.hashesSeen user ts <+: p.hashesSeen user (ts ++ [u]) :=
            hashesSeen_mono (List.prefix_append ts [u])
          exact ih (hnodup.sublist hseen.sublist) hts

/-! ## Changes of password -/

/-- A call has read a hash of the user and has verified a password against it. -/
def VerifiedAgainst
    (c : ServiceSettings) (p : Pool ι AccountResult) (ts : List (Turn ι)) (i : ι)
    (user : UserId) (current stored : String) : Prop :=
  ∃ record, p.HasHeard ts i ⟨.findCredentials user, some record⟩ ∧
    record.passwordHash = some stored ∧ c.hasher.verify current stored = true

/-- A change has its hash stored at a turn only if the hash that it has verified
is the stored one at this turn. -/
theorem verified_stored_of_succeedsAt
    (hp : p.SetsPasswords c calls) (h : p.SucceedsAt pre t)
    {keep : Option SessionId} {current new : String}
    (hcall : calls t.call = .changePassword user keep current new) :
    ∃ expected, p.VerifiedAgainst c pre t.call user current expected ∧
      (p.run pre).store.passwordHash? user = some expected := by
  obtain ⟨e, hhears, hreplaces⟩ := (succeedsAt_iff hp).mp h
  obtain ⟨H, hremembers⟩ := exists_remembers hp pre t.call
  have hallowed := (hremembers.hears hhears).1
  have hanswer := hhears.answer
  obtain ⟨r, answer⟩ := e
  dsimp only at hanswer
  subst hanswer
  cases r with
  | findCredentials id => cases hreplaces
  | resetPassword token hash now =>
      obtain ⟨-, _, _, _, hreset, -⟩ := hallowed
      rw [hcall] at hreset
      cases hreset
  | changePassword id expected hash keep' now =>
      obtain ⟨_, _, record, salt, hchange, rfl, hstored, hverified, -⟩ := hallowed
      rw [hcall] at hchange
      cases hchange
      obtain ⟨n, hchanged⟩ := Exchange.replacesPassword_change.mp hreplaces
      refine ⟨expected, ⟨record, ?_, hstored, hverified⟩,
        passwordHash?_of_changed hchanged⟩
      exact (hremembers.heard _).mp List.mem_cons_self
  | _ => exact absurd hallowed not_false

/-- A change ends well at the turn at which it asks to replace a hash that is
stored. -/
theorem succeedsAt_of_stored
    (hp : p.SetsPasswords c calls) {expected hash : String} {keep : Option SessionId}
    {now : Instant} {answer : ChangePasswordOutcome} {u : User}
    (hhears : p.Hears pre t ⟨.changePassword user expected hash keep now, answer⟩)
    (hu : (p.run pre).store.users.get? user = some u) (hlive : u.status ≠ .deleted)
    (hstored : (p.run pre).store.passwordHash? user = some expected) :
    p.SucceedsAt pre t := by
  obtain ⟨n, hchanged⟩ := changePassword_of_stored hu hlive hstored hash keep now
  refine (succeedsAt_iff hp).mpr ⟨_, hhears, ?_⟩
  exact Exchange.replacesPassword_change.mpr ⟨n, hhears.answer.trans hchanged⟩

/-- A call verifies its password against one hash. -/
theorem VerifiedAgainst.unique
    (hp : p.SetsPasswords c calls) {i : ι} {current current' stored stored' : String}
    (h : p.VerifiedAgainst c ts i user current stored)
    (h' : p.VerifiedAgainst c ts i user current' stored') : stored = stored' := by
  obtain ⟨H, hremembers⟩ := exists_remembers hp ts i
  obtain ⟨record, hheard, hstored, -⟩ := h
  obtain ⟨record', hheard', hstored', -⟩ := h'
  obtain rfl := Option.some.inj (AccountCall.eq_of_mem_of_lawful hremembers.lawful
    ((hremembers.heard _).mpr hheard) ((hremembers.heard _).mpr hheard'))
  exact Option.some.inj (hstored.symm.trans hstored')

theorem VerifiedAgainst.mono
    {i : ι} {current stored : String}
    (h : p.VerifiedAgainst c pre i user current stored) (hpre : pre <+: ts) :
    p.VerifiedAgainst c ts i user current stored := by
  obtain ⟨record, hheard, hstored, hverified⟩ := h
  exact ⟨record, hheard.mono hpre, hstored, hverified⟩

/-- A change that ends well has replaced the hash that it has verified. -/
theorem exists_succeedsAt_of_verified
    (hp : p.SetsPasswords c calls) {i : ι} {keep : Option SessionId}
    {current new stored : String}
    (hcall : calls i = .changePassword user keep current new)
    (hverified : p.VerifiedAgainst c ts i user current stored)
    (hwell : p.EndedWell ts i) :
    ∃ pre t, pre ++ [t] <+: ts ∧ t.call = i ∧ p.SucceedsAt pre t ∧
      (p.run pre).store.passwordHash? user = some stored := by
  obtain ⟨pre, t, hts, rfl, hsucceeds⟩ := exists_succeedsAt hp hwell
  obtain ⟨expected, hexpected, hstored⟩ :=
    verified_stored_of_succeedsAt hp hsucceeds hcall
  have hpre : pre <+: ts := (List.prefix_append _ _).trans hts
  obtain rfl := (hexpected.mono hpre).unique hp hverified
  exact ⟨pre, t, hts, rfl, hsucceeds, hstored⟩

/-- Of the changes that have verified the same hash, one ends well at most. -/
theorem eq_of_verified_of_endedWell
    (hp : p.SetsPasswords c calls)
    (hcalls : ∀ i, (calls i).SetsPassword c p.store user)
    (hnodup : (p.hashesSeen user ts).Nodup) {i j : ι}
    {keep keep' : Option SessionId} {current current' new new' stored : String}
    (hi : calls i = .changePassword user keep current new)
    (hj : calls j = .changePassword user keep' current' new')
    (hverified : p.VerifiedAgainst c ts i user current stored)
    (hverified' : p.VerifiedAgainst c ts j user current' stored)
    (hwell : p.EndedWell ts i) (hwell' : p.EndedWell ts j) : i = j := by
  obtain ⟨pre, t, hts, rfl, hsucceeds, hstored⟩ :=
    exists_succeedsAt_of_verified hp hi hverified hwell
  obtain ⟨pre', t', hts', rfl, hsucceeds', hstored'⟩ :=
    exists_succeedsAt_of_verified hp hj hverified' hwell'
  -- After the first of the two changes the hash is no longer stored.
  have hgone {pre pre' : List (Turn ι)} {t : Turn ι} (hpre : pre ++ [t] <+: pre')
      (hpre' : pre' <+: ts) (hsucceeds : p.SucceedsAt pre t)
      (hstored : (p.run pre).store.passwordHash? user = some stored) :
      (p.run pre').store.passwordHash? user ≠ some stored :=
    stored_ne_of_replaced hp hcalls
      (hnodup.sublist (hashesSeen_mono hpre').sublist) hpre hsucceeds
      (mem_hashesSeen hp hcalls hstored)
  by_contra hne
  rcases prefix_or_prefix_of_ne hts hts' fun heq => hne (congrArg Turn.call heq) with
    hbefore | hbefore
  · exact hgone hbefore ((List.prefix_append _ _).trans hts') hsucceeds hstored hstored'
  · exact hgone hbefore ((List.prefix_append _ _).trans hts) hsucceeds' hstored' hstored

/-- A change that has been refused leaves passwords and sessions alone at all of
its turns. -/
theorem sameAccess_of_refused
    (hp : p.SetsPasswords c calls)
    (hcalls : ∀ i, (calls i).SetsPassword c p.store user) {e : ServiceError}
    (hrefused : (p.run ts).result? t.call = some (.passwordChanged (.error e)))
    (hts : pre ++ [t] <+: ts) :
    (p.run pre).store.SameAccess (p.run (pre ++ [t])).store := by
  rcases turn_cases hp hcalls pre t with ⟨⟨-, result, hresult, hgood⟩, -⟩ | ⟨-, hsame⟩
  · rw [result?_mono hts hresult] at hrefused
    cases hrefused
    cases hgood
  · exact hsame

/-- The password that is stored in the end: that of the last call that has ended
well, or the one that was there at first if there is no such call. -/
inductive LastWritten
    (c : ServiceSettings) (calls : ι → AccountCall) (p : Pool ι AccountResult)
    (user : UserId) (ts : List (Turn ι)) : Prop
  | initial (none_well : ∀ i, ¬p.EndedWell ts i)
      (stored : (p.run ts).store.passwordHash? user = p.store.passwordHash? user) :
      LastWritten c calls p user ts
  | written (pre : List (Turn ι)) (t : Turn ι) (hash : String)
      (within : pre ++ [t] <+: ts) (succeeds : p.SucceedsAt pre t)
      (last : ∀ i, p.EndedWell ts i → p.EndedWell (pre ++ [t]) i)
      (asked : (p.run pre).newHash? t = some hash)
      (hashes : (calls t.call).HashesTo c hash)
      (stored : (p.run ts).store.passwordHash? user = some hash) :
      LastWritten c calls p user ts

theorem lastWritten
    (hp : p.SetsPasswords c calls)
    (hcalls : ∀ i, (calls i).SetsPassword c p.store user) (ts : List (Turn ι)) :
    p.LastWritten c calls user ts := by
  induction ts using List.reverseRecOn with
  | nil => exact .initial (not_endedWell_nil hp) rfl
  | append_singleton ts u ih =>
      rcases turn_cases hp hcalls ts u with
        ⟨hsucceeds, hash, hnew, hhashes, hstored⟩ | ⟨hnone, hsame⟩
      · exact .written ts u hash List.prefix_rfl hsucceeds (fun _ hi => hi) hnew
          hhashes hstored
      have hwell (i : ι) (hi : p.EndedWell (ts ++ [u]) i) : p.EndedWell ts i :=
        (endedWell_concat hi).resolve_right fun h => hnone h.2
      have hsame := hsame.passwordHash?_eq user
      cases ih with
      | initial none_well stored =>
          exact .initial (fun i hi => none_well i (hwell i hi)) (hsame.trans stored)
      | written pre t hash within succeeds last asked hashes stored =>
          exact .written pre t hash (List.prefix_append_of_prefix within) succeeds
            (fun i hi => last i (hwell i hi)) asked hashes (hsame.trans stored)

/-- No update of the password of the user is lost in a schedule. -/
structure LosesNoUpdate
    (c : ServiceSettings) (calls : ι → AccountCall) (p : Pool ι AccountResult)
    (user : UserId) (ts : List (Turn ι)) : Prop where
  /-- A change has its hash stored only in place of the one that it has
  verified. -/
  compares : ∀ pre t keep current new, pre ++ [t] <+: ts →
    calls t.call = .changePassword user keep current new →
    (p.run pre).store.SameAccess (p.run (pre ++ [t])).store ∨
      ∃ expected salt, p.VerifiedAgainst c pre t.call user current expected ∧
        (p.run pre).store.passwordHash? user = some expected ∧
        (p.run (pre ++ [t])).store.passwordHash? user =
          some (c.hasher.hash salt new)
  /-- It is granted if that hash is still stored, and the user has not been
  deleted. -/
  grants : ∀ pre t expected hash keep now answer u, pre ++ [t] <+: ts →
    p.Hears pre t ⟨.changePassword user expected hash keep now, answer⟩ →
    (p.run pre).store.users.get? user = some u → u.status ≠ .deleted →
    (p.run pre).store.passwordHash? user = some expected → p.SucceedsAt pre t
  /-- Of the changes that have verified the same hash, one succeeds at most. -/
  once : ∀ i j keep keep' current current' new new' stored n n',
    calls i = .changePassword user keep current new →
    calls j = .changePassword user keep' current' new' →
    p.VerifiedAgainst c ts i user current stored →
    p.VerifiedAgainst c ts j user current' stored →
    (p.run ts).result? i = some (.passwordChanged (.ok n)) →
    (p.run ts).result? j = some (.passwordChanged (.ok n')) → i = j
  /-- A change that is refused has no effect at any of its turns. -/
  refused : ∀ pre t e, pre ++ [t] <+: ts →
    (p.run ts).result? t.call = some (.passwordChanged (.error e)) →
    (p.run pre).store.SameAccess (p.run (pre ++ [t])).store
  last : p.LastWritten c calls user ts

end Pool

/-- However changes and resets of the password of one user run together, if every
new hash is one that has not been seen before: a change replaces the hash that it
has verified if it is still stored, and else none, so that one of those that have
verified the same hash succeeds at most; a change that is refused leaves passwords
and sessions alone; and the hash that is stored in the end is that of the last
call that has succeeded. -/
theorem no_lost_password_update
    {ι : Type} [DecidableEq ι] (c : ServiceSettings) (o : ι → Surroundings)
    (calls : ι → AccountCall) (s : Store) (user : UserId)
    (hcalls : ∀ i, (calls i).SetsPassword c s user) (ts : List (Turn ι))
    (hnew : ((accountPool c o calls s).hashesSeen user ts).Nodup) :
    (accountPool c o calls s).LosesNoUpdate c calls user ts := by
  have hp : (accountPool c o calls s).SetsPasswords c calls := fun i =>
    AccountCall.abides_settingRule (hcalls i) (o i)
  refine ⟨?_, ?_, ?_, ?_, Pool.lastWritten hp hcalls ts⟩
  · intro pre t keep current new _ hcall
    rcases Pool.turn_cases hp hcalls pre t with
      ⟨hsucceeds, hash, -, hhashes, hstored⟩ | ⟨-, hsame⟩
    · obtain ⟨expected, hverified, hcompared⟩ :=
        Pool.verified_stored_of_succeedsAt hp hsucceeds hcall
      rw [hcall] at hhashes
      obtain ⟨salt, rfl⟩ := hhashes
      exact Or.inr ⟨expected, salt, hverified, hcompared, hstored⟩
    · exact Or.inl hsame
  · intro pre t expected hash keep now answer u _ hhears hu hlive hstored
    exact Pool.succeedsAt_of_stored hp hhears hu hlive hstored
  · intro i j keep keep' current current' new new' stored n n' hi hj hverified
      hverified' hresult hresult'
    exact Pool.eq_of_verified_of_endedWell hp hcalls hnew hi hj hverified hverified'
      ⟨_, hresult, rfl⟩ ⟨_, hresult', rfl⟩
  · intro pre t e hts hrefused
    exact Pool.sameAccess_of_refused hp hcalls hrefused hts

/-! ## Two changes and a reset -/

/-- Two clients change the password at the same time, and a third one resets
it. -/
def changesAndReset : Fin 3 → AccountCall
  | 0 => .changePassword sampleUser.id none "password" "one new password"
  | 1 => .changePassword sampleUser.id none "password" "another new password"
  | 2 => .confirmReset "reset" "a third new password"

/-- Both changes have read the hash when the second one replaces it. -/
def secondChangeFirst : List (Turn (Fin 3)) :=
  [⟨0, .zero⟩, ⟨1, .zero⟩, ⟨1, .zero⟩, ⟨0, .zero⟩, ⟨2, .zero⟩]

/-- The three calls over the store with the user. -/
def changesOutrun : Pool (Fin 3) AccountResult :=
  accountPool plainSettings (fun _ => .still ⟨0, 0⟩ []) changesAndReset userWithReset

theorem changesAndReset_setsPassword :
    ∀ i, (changesAndReset i).SetsPassword plainSettings userWithReset sampleUser.id
  | 0 => rfl
  | 1 => rfl
  | 2 => by
      intro t ht _
      obtain rfl := List.mem_singleton.mp ht
      rfl

theorem no_lost_password_update_overtaken :
    (∀ i, (changesAndReset i).SetsPassword plainSettings userWithReset
        sampleUser.id) ∧
      (changesOutrun.hashesSeen sampleUser.id secondChangeFirst).Nodup ∧
      changesOutrun.LosesNoUpdate plainSettings changesAndReset sampleUser.id
        secondChangeFirst ∧
      (changesOutrun.run secondChangeFirst).result? 0 =
        some (.passwordChanged (.error .invalidCredentials)) ∧
      (changesOutrun.run secondChangeFirst).result? 1 =
        some (.passwordChanged (.ok 0)) := by
  have hnew : (changesOutrun.hashesSeen sampleUser.id secondChangeFirst).Nodup := by
    decide
  exact ⟨changesAndReset_setsPassword, hnew,
    no_lost_password_update plainSettings (fun _ => .still ⟨0, 0⟩ []) changesAndReset
      userWithReset sampleUser.id changesAndReset_setsPassword secondChangeFirst hnew,
    rfl, rfl⟩

end AccountAuthority
