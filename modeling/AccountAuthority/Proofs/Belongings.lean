import AccountAuthority.Proofs.AuditTrail
import AccountAuthority.Proofs.OneSessionPerDevice
import AccountAuthority.Proofs.SupersededPasswords
import AccountAuthority.Proofs.VerificationTokens

/-!
# What belongs to a user

The records of a store that belong to one user, in every table and in the audit
trail.  A change of the records of another user leaves them alone, and so does
an operation that is made of such changes.  Hashes and active keys have to lead
to the records of that other user, which is what most conditions here are about.
-/

namespace AccountAuthority

open Store

/-- The user of a session. -/
def Store.owner? (s : Store) (id : SessionId) : Option UserId :=
  (s.sessions.get? id).map Session.user

/-- All that belongs to a user. -/
@[ext]
structure Belongings where
  user : Option User
  passwordHash : Option String
  identities : List ExternalIdentity
  sessions : List Session
  tokens : List RefreshToken
  verificationTokens : List VerificationToken
  audit : List AuditEvent

/-- What belongs to a user in a store; entries of the audit trail belong to the
user that they are about. -/
def Store.belongings (s : Store) (user : UserId) : Belongings where
  user := s.users.get? user
  passwordHash := s.passwordHash? user
  identities := s.identities.filter fun i => i.user = user
  sessions := s.sessions.rows.filter fun x => x.user = user
  tokens := s.tokens.rows.filter fun t => s.owner? t.session = some user
  verificationTokens := s.verificationTokens.rows.filter fun t => t.user = user
  audit := s.listAudit user

/-- Changes that are not seen by a filter, and leave what passes it alone. -/
theorem filter_map_of_fixed
    {α : Type} {f : α → α} {p : α → Bool} {l : List α}
    (hp : ∀ a ∈ l, p (f a) = p a) (hf : ∀ a ∈ l, p a = true → f a = a) :
    (l.map f).filter p = l.filter p := by
  have hfilter : l.filter (p ∘ f) = l.filter p := List.filter_congr hp
  rw [List.filter_map, hfilter]
  conv_rhs => rw [← List.map_id (l.filter p)]
  refine List.map_congr_left fun a ha => ?_
  obtain ⟨hmem, hpa⟩ := List.mem_filter.mp ha
  exact hf a hmem hpa

/-! ## Changes of the records of one user -/

namespace Store

variable {s s' : Store} {w : UserId}

section Accounts

theorem get?_insert_user_of_ne
    {user : User} (h : w ≠ user.id) :
    (s.users.insert user).get? w = s.users.get? w := by
  rw [Table.get?_insert, key_user, if_neg h]

theorem get?_update_user_of_ne
    {user : UserId} (h : w ≠ user) (f : User → User)
    (hf : ∀ u, key (f u) = key u) :
    (s.users.update user f hf).get? w = s.users.get? w := by
  rw [Table.update, Table.get?_map]
  cases hw : s.users.get? w with
  | none => rfl
  | some u =>
      have hid := id_of_get?_user s hw
      simp [hid, h]

theorem passwordHash?_insert_of_ne
    {user : UserId} (h : w ≠ user) (hash : String) :
    { s with passwords := s.passwords.insert ⟨user, hash⟩ }.passwordHash? w =
      s.passwordHash? w := by
  unfold passwordHash?
  rw [Table.get?_insert, key_storedPassword, if_neg h]

theorem belongings_setPassword
    {user : UserId} (h : w ≠ user) (hash : String) :
    { s with passwords := s.passwords.insert ⟨user, hash⟩ }.belongings w =
      s.belongings w :=
  Belongings.ext rfl (passwordHash?_insert_of_ne h hash) rfl rfl rfl rfl rfl

theorem belongings_updateUser {user : User} (h : w ≠ user.id) :
    (s.updateUser user).belongings w = s.belongings w :=
  Belongings.ext (get?_insert_user_of_ne h) rfl rfl rfl rfl rfl rfl

theorem belongings_insertUser
    {user : User} (h : w ≠ user.id) (hash : Option String) :
    (s.insertUser user hash).belongings w = s.belongings w := by
  refine Belongings.ext (get?_insert_user_of_ne h) ?_ rfl rfl rfl rfl rfl
  cases hash with
  | none => rfl
  | some hash => exact passwordHash?_insert_of_ne h hash

theorem belongings_touchUser {user : UserId} (h : w ≠ user) (now : Instant) :
    (s.touchUser user now).belongings w = s.belongings w := by
  refine Belongings.ext ?_ rfl rfl rfl rfl rfl rfl
  exact get?_update_user_of_ne h (fun u => { u with updatedAt := now }) fun _ => rfl

theorem belongings_markVerified {user : UserId} (h : w ≠ user) (now : Instant) :
    (s.markVerified user now).belongings w = s.belongings w := by
  refine Belongings.ext ?_ rfl rfl rfl rfl rfl rfl
  exact get?_update_user_of_ne h
    (fun u => { u with emailVerifiedAt := some now, updatedAt := now }) fun _ => rfl

theorem belongings_record {event : AuditEvent} (h : event.target ≠ w) :
    (s.record event).belongings w = s.belongings w := by
  refine Belongings.ext rfl rfl rfl rfl rfl rfl ?_
  simp [belongings, listAudit, record, h]

theorem belongings_addIdentity {identity : ExternalIdentity} (h : identity.user ≠ w) :
    { s with identities := s.identities ++ [identity] }.belongings w =
      s.belongings w := by
  refine Belongings.ext rfl rfl ?_ rfl rfl rfl rfl
  simp [belongings, h]

theorem belongings_storeVerificationToken
    {t : VerificationToken} (h : t.user ≠ w)
    (hid : s.verificationTokens.get? t.id = none) :
    (s.storeVerificationToken t).belongings w = s.belongings w := by
  refine Belongings.ext rfl rfl rfl rfl rfl ?_ rfl
  simp only [belongings, storeVerificationToken]
  rw [Table.rows_insert_of_get?_eq_none hid, List.filter_append]
  simp [h]

theorem belongings_consumeResetTokens
    {user : UserId} (h : w ≠ user) (now : Instant) :
    (s.consumeResetTokens user now).belongings w = s.belongings w := by
  refine Belongings.ext rfl rfl rfl rfl rfl ?_ rfl
  refine filter_map_of_fixed (fun t _ => ?_) fun t _ ht => ?_
  · split <;> rfl
  · have hother : t.user ≠ user := fun heq => h ((of_decide_eq_true ht).symm.trans heq)
    simp [hother]

theorem belongings_consumeToken
    {t : VerificationToken} (ht : t ∈ s.verificationTokens.rows) (h : t.user ≠ w)
    (now : Instant) : (s.consumeToken t.id now).belongings w = s.belongings w := by
  refine Belongings.ext rfl rfl rfl rfl rfl ?_ rfl
  refine filter_map_of_fixed (fun u _ => ?_) fun u hu huw => ?_
  · split <;> rfl
  · have hother : u.id ≠ t.id := by
      intro hid
      obtain rfl := Table.eq_of_key_eq hu ht hid
      exact h (of_decide_eq_true huw)
    exact if_neg hother

end Accounts

section Sessions

theorem owner?_of_mem {x : Session} (hx : x ∈ s.sessions.rows) :
    s.owner? x.id = some x.user :=
  congrArg (Option.map Session.user) (Table.get?_key hx)

theorem get?_token_revokeWhere
    (p : Session → Bool) (reason : RevocationReason) (now : Instant) (id : TokenId) :
    (s.revokeWhere p reason now).tokens.get? id =
      (s.tokens.get? id).map (s.stamped p now) :=
  Table.get?_map s.tokens _ (s.stamped_id p now) id

theorem get?_token_replaceToken (old next : TokenId) (now : Instant) (id : TokenId) :
    (s.replaceToken old next now).tokens.get? id =
      (s.tokens.get? id).map (RefreshToken.replacing old next now) :=
  Table.get?_map s.tokens _ (RefreshToken.replacing_id old next now) id

/-- Sessions that are changed in place keep their users. -/
theorem owner?_of_map
    {f : Session → Session}
    (hsessions : s'.sessions.rows = s.sessions.rows.map f)
    (hid : ∀ x, (f x).id = x.id) (huser : ∀ x, (f x).user = x.user) :
    s'.owner? = s.owner? := by
  have hrows : s'.sessions = s.sessions.map f hid := Table.ext_rows hsessions
  funext id
  rw [owner?, hrows, Table.get?_map, Option.map_map, owner?]
  congr 1
  exact funext huser

/-- Sessions are changed in place, and the tokens of the user stay as they
are. -/
theorem belongings_of_map
    {f : Session → Session} {g : RefreshToken → RefreshToken}
    (hsame : SameAccounts s s')
    (hsessions : s'.sessions.rows = s.sessions.rows.map f)
    (hid : ∀ x, (f x).id = x.id) (huser : ∀ x, (f x).user = x.user)
    (htokens : s'.tokens.rows = s.tokens.rows.map g)
    (hsession : ∀ t, (g t).session = t.session)
    (hg : ∀ t ∈ s.tokens.rows, s.owner? t.session = some w → g t = t) :
    s'.belongings w =
      { s.belongings w with sessions := (s.belongings w).sessions.map f } := by
  refine Belongings.ext ?_ ?_ ?_ ?_ ?_ ?_ ?_
  · exact congrArg (·.get? w) hsame.users
  · exact congrArg (fun t => (t.get? w).map StoredPassword.hash) hsame.passwords
  · exact congrArg (List.filter _) hsame.identities
  · have hfilter : (fun x : Session => decide (x.user = w)) ∘ f =
        fun x => decide (x.user = w) := by
      funext x
      rw [Function.comp_apply, huser]
    change s'.sessions.rows.filter _ = (s.sessions.rows.filter _).map f
    rw [hsessions, List.filter_map, hfilter]
  · change s'.tokens.rows.filter _ = _
    rw [htokens, owner?_of_map hsessions hid huser]
    refine filter_map_of_fixed (fun t _ => by rw [hsession]) fun t ht htw => ?_
    exact hg t ht (of_decide_eq_true htw)
  · exact congrArg (fun t => t.rows.filter fun t => t.user = w)
      hsame.verificationTokens
  · exact congrArg (List.filter _) hsame.audit

/-- Sessions and tokens are changed in place, and those of the user stay as they
are. -/
theorem belongings_of_fixed
    {f : Session → Session} {g : RefreshToken → RefreshToken}
    (hsame : SameAccounts s s')
    (hsessions : s'.sessions.rows = s.sessions.rows.map f)
    (hid : ∀ x, (f x).id = x.id) (huser : ∀ x, (f x).user = x.user)
    (hf : ∀ x ∈ s.sessions.rows, x.user = w → f x = x)
    (htokens : s'.tokens.rows = s.tokens.rows.map g)
    (hsession : ∀ t, (g t).session = t.session)
    (hg : ∀ t ∈ s.tokens.rows, s.owner? t.session = some w → g t = t) :
    s'.belongings w = s.belongings w := by
  rw [belongings_of_map hsame hsessions hid huser htokens hsession hg]
  refine Belongings.ext rfl rfl rfl ?_ rfl rfl rfl
  change (s.belongings w).sessions.map f = (s.belongings w).sessions
  conv_rhs => rw [← List.map_id (s.belongings w).sessions]
  refine List.map_congr_left fun x hx => ?_
  obtain ⟨hmem, hxw⟩ := List.mem_filter.mp hx
  exact hf x hmem (of_decide_eq_true hxw)

theorem belongings_revokeWhere
    {p : Session → Bool} (hp : ∀ x ∈ s.sessions.rows, p x = true → x.user ≠ w)
    (reason : RevocationReason) (now : Instant) :
    (s.revokeWhere p reason now).belongings w = s.belongings w := by
  refine belongings_of_fixed (s := s) ⟨rfl, rfl, rfl, rfl, rfl⟩
    (s.rows_sessions_revokeWhere p reason now) (fun x => ?_) (fun x => ?_)
    (fun x hx hxw => if_neg fun hpx => hp x hx hpx hxw)
    (s.rows_tokens_revokeWhere p reason now) (s.stamped_session p now)
    fun t ht htw => if_neg ?_
  · split <;> rfl
  · split <;> rfl
  · rintro ⟨-, hany⟩
    obtain ⟨x, hx, hpx⟩ := List.any_eq_true.mp hany
    simp only [Bool.and_eq_true, decide_eq_true_eq] at hpx
    rw [← hpx.2, owner?_of_mem hx] at htw
    exact hp x hx hpx.1 (Option.some.inj htw)

theorem belongings_revokeAll
    {user : UserId} (h : w ≠ user) (except : Option SessionId)
    (reason : RevocationReason) (now : Instant) :
    (s.revokeAll user except reason now).2.belongings w = s.belongings w := by
  rw [revokeAll_eq]
  refine belongings_revokeWhere (fun x _ hx huser => ?_) reason now
  simp only [Bool.and_eq_true, decide_eq_true_eq] at hx
  exact h (huser.symm.trans hx.1.1)

theorem belongings_revoke
    {id : SessionId} (h : s.owner? id ≠ some w) (reason : RevocationReason)
    (now : Instant) :
    (s.revoke id reason now).2.belongings w = s.belongings w := by
  unfold revoke
  split
  · rfl
  split
  · rfl
  · refine belongings_revokeWhere (fun x hx hid huser => h ?_) reason now
    rw [← of_decide_eq_true hid, owner?_of_mem hx, huser]

theorem belongings_revokeFound
    {id : SessionId} (h : s.owner? id ≠ some w) (reason : RevocationReason)
    (now : Instant) :
    (s.revokeFound id reason now).2.belongings w = s.belongings w := by
  have hrevoke := belongings_revoke h reason now
  unfold revokeFound
  split
  next heq => rwa [heq] at hrevoke
  next heq => rwa [heq] at hrevoke

theorem belongings_insertSession
    {x : Session} (hx : x.user ≠ w) (hid : s.sessions.get? x.id = none) :
    { s with sessions := s.sessions.insert x }.belongings w = s.belongings w := by
  refine Belongings.ext rfl rfl rfl ?_ ?_ rfl rfl
  · simp only [belongings]
    rw [Table.rows_insert_of_get?_eq_none hid, List.filter_append]
    simp [hx]
  · refine List.filter_congr fun t _ => ?_
    rw [decide_eq_decide, owner?, owner?, Table.get?_insert, key_session]
    by_cases hsession : t.session = x.id
    · rw [if_pos hsession, hsession, hid]
      simp [hx]
    · rw [if_neg hsession]

theorem belongings_insertToken
    {t : RefreshToken} (ht : s.owner? t.session ≠ some w)
    (hid : s.tokens.get? t.id = none) :
    { s with tokens := s.tokens.insert t }.belongings w = s.belongings w := by
  refine Belongings.ext rfl rfl rfl rfl ?_ rfl rfl
  change (s.tokens.insert t).rows.filter _ = _
  rw [Table.rows_insert_of_get?_eq_none hid, List.filter_append]
  have hnone : [t].filter (fun t => s.owner? t.session = some w) = [] := by
    simp [ht]
  exact (congrArg _ hnone).trans (List.append_nil _)

/-- The head of a chain of another user is replaced. -/
theorem belongings_replaceToken
    {old : RefreshToken} (hold : old ∈ s.tokens.rows)
    (h : s.owner? old.session ≠ some w) (next : TokenId) (now : Instant) :
    (s.replaceToken old.id next now).belongings w = s.belongings w := by
  refine belongings_of_fixed (s := s) (f := id) ⟨rfl, rfl, rfl, rfl, rfl⟩
    (List.map_id _).symm (fun _ => rfl) (fun _ => rfl) (fun _ _ _ => rfl)
    (s.rows_replaceToken old.id next now)
    (RefreshToken.replacing_session old.id next now)
    fun t ht htw => RefreshToken.replacing_of_ne _ _ fun heq => ?_
  obtain rfl := Table.eq_of_key_eq ht hold heq
  exact h htw

theorem belongings_touchSession
    {x : Session} (hx : x ∈ s.sessions.rows) (h : x.user ≠ w) (device : Device)
    (now : Instant) :
    { s with
      sessions := s.sessions.update x.id (fun y => y.touch device now) (fun _ => rfl)
      }.belongings w = s.belongings w := by
  refine belongings_of_fixed (s := s) (g := id) ⟨rfl, rfl, rfl, rfl, rfl⟩
    rfl (fun y => ?_) (fun y => ?_)
    (fun y hy hyw => if_neg fun hyx => ?_) (List.map_id _).symm (fun _ => rfl)
    (fun _ _ _ => rfl)
  · split <;> rfl
  · split <;> rfl
  · obtain rfl := Table.eq_of_key_eq hy hx hyx
    exact h hyw

/-- What belongs to another user is removed. -/
theorem belongings_removeBelongings {user : UserId} (h : w ≠ user) :
    (s.removeBelongings user).belongings w = s.belongings w := by
  have howner (id : SessionId) :
      (s.removeBelongings user).owner? id = some w ↔ s.owner? id = some w := by
    simp only [owner?, Option.map_eq_some_iff, removeBelongings,
      Table.get?_filter_eq_some, decide_eq_true_eq]
    constructor
    · rintro ⟨x, ⟨hx, -⟩, hxw⟩
      exact ⟨x, hx, hxw⟩
    · rintro ⟨x, hx, hxw⟩
      exact ⟨x, ⟨hx, by rw [hxw]; exact h⟩, hxw⟩
  refine Belongings.ext rfl ?_ ?_ ?_ ?_ ?_ rfl
  · refine congrArg (Option.map StoredPassword.hash) (Option.ext fun p => ?_)
    change (s.passwords.filter _).get? w = some p ↔ _
    rw [Table.get?_filter_eq_some, and_iff_left_iff_imp]
    intro hp
    have hpw : p.user = w := (Table.get?_eq_some_iff.mp hp).2
    simpa [hpw] using h
  · change (s.identities.filter _).filter _ = _
    rw [List.filter_filter]
    refine List.filter_congr fun i _ => ?_
    by_cases hi : i.user = w <;> simp [hi, h]
  · change (s.sessions.rows.filter _).filter _ = _
    rw [List.filter_filter]
    refine List.filter_congr fun x _ => ?_
    by_cases hx : x.user = w <;> simp [hx, h]
  · change (s.tokens.rows.filter _).filter
      (fun t => (s.removeBelongings user).owner? t.session = some w) = _
    simp only [howner]
    rw [List.filter_filter]
    refine List.filter_congr fun t _ => ?_
    by_cases hown : s.owner? t.session = some w
    · obtain ⟨x, hx, hxw⟩ := Option.map_eq_some_iff.mp hown
      have hkept : t.session ∉
          (s.sessions.rows.filter fun x => x.user = user).map Session.id := by
        simp only [List.mem_map, List.mem_filter, decide_eq_true_eq, not_exists,
          not_and]
        rintro y ⟨hy, hyuser⟩ hid
        obtain ⟨hmem, hxid⟩ := Table.get?_eq_some_iff.mp hx
        obtain rfl := Table.eq_of_key_eq hy hmem (hid.trans hxid.symm)
        exact h (hxw.symm.trans hyuser)
      simp only [hown, List.contains_eq_mem, hkept, decide_false, Bool.not_false,
        decide_true, Bool.and_self]
    · simp only [hown, decide_false, Bool.false_and]
  · change (s.verificationTokens.rows.filter _).filter _ = _
    rw [List.filter_filter]
    refine List.filter_congr fun t _ => ?_
    by_cases ht : t.user = w <;> simp [ht, h]

end Sessions

/-! ## The operations -/

section Performing

variable (s)

theorem belongings_createUser {user : User} (h : w ≠ user.id) (hash : String) :
    (s.createUser user hash).2.belongings w = s.belongings w := by
  unfold createUser
  split
  · rfl
  · exact belongings_insertUser h (some hash)

theorem belongings_createExternalUser
    {user : User} {identity : ExternalIdentity} (h : w ≠ user.id)
    (hidentity : identity.user = user.id) :
    (s.createExternalUser user identity).2.belongings w = s.belongings w := by
  unfold createExternalUser
  split
  · rfl
  split
  · rfl
  · exact (belongings_addIdentity (hidentity ▸ h.symm)).trans
      (belongings_insertUser h none)

theorem belongings_linkIdentity
    {identity : ExternalIdentity} (h : w ≠ identity.user) :
    (s.linkIdentity identity).2.belongings w = s.belongings w := by
  unfold linkIdentity
  split
  · rfl
  split
  · rfl
  split
  · split <;> rfl
  split
  · rfl
  · exact belongings_addIdentity h.symm

theorem belongings_resetPassword
    {hash : String}
    (h : ∀ t, s.verificationToken? hash .passwordReset = some t → w ≠ t.user)
    (newHash : String) (now : Instant) :
    (s.resetPassword hash newHash now).2.belongings w = s.belongings w := by
  unfold resetPassword
  split
  · rfl
  next t ht =>
    have hw := h t ht
    split
    · rfl
    split
    · rfl
    split
    · rfl
    split
    · rfl
    · exact (belongings_revokeAll hw none .passwordReset now).trans
        ((belongings_consumeResetTokens hw now).trans
          ((belongings_setPassword hw newHash).trans (belongings_touchUser hw now)))

theorem belongings_verifyEmail
    {hash : String}
    (h : ∀ t, s.verificationToken? hash .emailVerification = some t → w ≠ t.user)
    (now : Instant) :
    (s.verifyEmail hash now).2.belongings w = s.belongings w := by
  unfold verifyEmail
  split
  · rfl
  next t ht =>
    have hw := h t ht
    have hmem := (verificationToken?_eq_some ht).1
    split
    · rfl
    split
    · rfl
    split
    · rfl
    split
    · rfl
    split
    · exact belongings_consumeToken hmem hw.symm now
    · exact (belongings_consumeToken (s := s.markVerified t.user now) hmem hw.symm
        now).trans (belongings_markVerified hw now)

theorem belongings_changePassword
    {user : UserId} (h : w ≠ user) (expected hash : String)
    (keep : Option SessionId) (now : Instant) :
    (s.changePassword user expected hash keep now).2.belongings w =
      s.belongings w := by
  unfold changePassword
  split
  · rfl
  split
  · rfl
  dsimp only
  split
  · exact belongings_touchUser h now
  · exact (belongings_revokeAll h keep .passwordChanged now).trans
      ((belongings_setPassword h hash).trans (belongings_touchUser h now))

/-- The session that makes way for a new one belongs to the same user. -/
theorem belongings_createSession
    {x : Session} {t : RefreshToken} (hs : s.KeysHeld) (hx : x.IsNew)
    (hxw : x.user ≠ w) (hid : s.sessions.get? x.id = none)
    (htoken : s.tokens.get? t.id = none) (ht : t.session = x.id)
    (now : Instant) :
    (s.createSession x t now).2.belongings w = s.belongings w := by
  let mid := s.revokeWhere x.sharesKey .deviceReplaced now
  have hmid : mid.belongings w = s.belongings w := by
    refine belongings_revokeWhere (fun y hy hshares => ?_) _ now
    obtain ⟨k, hxk, hyk⟩ := Session.sharesKey_iff.mp hshares
    rw [(hs.eq_of_activeKey hy (hx.activeKey ▸ hxk) hyk).1]
    exact hxw
  have hmidid : mid.sessions.get? x.id = none := by
    rw [get?_session_revokeWhere, hid]
    rfl
  have hmidtoken : mid.tokens.get? t.id = none := by
    rw [get?_token_revokeWhere, htoken]
    rfl
  rw [hs.createSession_eq fun y _ => Session.sharesKey_iff]
  let opened : Store := { mid with sessions := mid.sessions.insert x }
  have howner : opened.owner? t.session ≠ some w := by
    rw [ht, owner?_of_mem (Table.mem_rows_insert.mpr (Or.inl rfl))]
    simpa using hxw
  exact (belongings_insertToken (s := opened) howner hmidtoken).trans
    ((belongings_insertSession hxw hmidid).trans hmid)

theorem belongings_rotate
    {r : Rotation} {newId : TokenId}
    (h : ∀ t, s.tokenByHash? r.tokenHash = some t → s.owner? t.session ≠ some w)
    (hnew : s.tokens.get? newId = none) :
    (s.rotate r newId).2.belongings w = s.belongings w := by
  unfold rotate
  split
  · rfl
  next t ht =>
    have howner := h t ht
    have hmem := (mem_of_tokenByHash? ht).1
    split
    · rfl
    next x hx =>
      obtain ⟨hxmem, hid⟩ := Table.get?_eq_some_iff.mp hx
      have hxw : x.user ≠ w := by
        intro heq
        rw [← hid, key_session, owner?_of_mem hxmem, heq] at howner
        exact howner rfl
      split
      · rfl
      split
      · rfl
      split
      · refine belongings_revoke ?_ .tokenReuse r.now
        rw [owner?_of_mem hxmem]
        simpa using hxw
      · -- The old token is marked, the session is touched, the new token put in.
        let marked := s.replaceToken t.id newId r.now
        let touched : Store :=
          { marked with
            sessions := s.sessions.update x.id (fun y => y.touch r.device r.now)
              (fun _ => rfl) }
        have htouched : touched.owner? x.id ≠ some w := by
          have hxt : x.touch r.device r.now ∈ touched.sessions.rows :=
            List.mem_map.mpr ⟨x, hxmem, if_pos rfl⟩
          rw [show x.id = (x.touch r.device r.now).id from rfl, owner?_of_mem hxt]
          simpa [Session.touch] using hxw
        have hfree : touched.tokens.get? newId = none := by
          change (s.replaceToken t.id newId r.now).tokens.get? newId = none
          rw [get?_token_replaceToken, hnew]
          rfl
        exact (belongings_insertToken (s := touched) htouched hfree).trans
          ((belongings_touchSession (s := marked) hxmem hxw r.device r.now).trans
            (belongings_replaceToken hmem howner newId r.now))

theorem belongings_revokeByToken
    {hash : String}
    (h : ∀ t, s.tokenByHash? hash = some t → s.owner? t.session ≠ some w)
    (reason : RevocationReason) (now : Instant) :
    (s.revokeByToken hash reason now).2.belongings w = s.belongings w := by
  unfold revokeByToken
  split
  · rfl
  next t ht => exact belongings_revokeFound (h t ht) reason now

theorem belongings_revokeSession
    {user : UserId} {id : SessionId} (h : w ≠ user ∨ s.owner? id ≠ some w)
    (reason : RevocationReason) (now : Instant) :
    (s.revokeSession user id reason now).2.belongings w = s.belongings w := by
  unfold revokeSession
  split
  · rfl
  next x hx =>
    split
    next huser =>
      refine belongings_revokeFound ?_ reason now
      rcases h with hw | howner
      · rw [owner?, hx, Option.map_some, huser]
        simpa using hw.symm
      · exact howner
    · rfl

/-- The session that holds the key of a user belongs to the user. -/
theorem belongings_revokeDevice
    {user : UserId} (hs : s.KeysHeld) (h : w ≠ user) (device : String)
    (reason : RevocationReason) (now : Instant) :
    (s.revokeDevice user device reason now).2.belongings w = s.belongings w := by
  unfold revokeDevice
  split
  · rfl
  next x hx =>
    obtain ⟨k, hk, hfind⟩ := Option.bind_eq_some_iff.mp hx
    have hmem : x ∈ s.sessions.rows := List.mem_of_find?_eq_some hfind
    have hxk : x.activeKey = some k := by simpa using List.find?_some hfind
    refine belongings_revoke ?_ reason now
    rw [owner?_of_mem hmem, (hs.eq_of_activeKey hmem hk hxk).1]
    simpa using h.symm

theorem belongings_changeRole
    {target : UserId} (h : w ≠ target) (actor : Actor) (role : Role)
    (now : Instant) (fresh : FreshIds) :
    (s.changeRole actor target role now fresh).2.belongings w = s.belongings w := by
  unfold changeRole
  split
  · rfl
  next u hu =>
    obtain rfl := id_of_get?_user s hu
    split
    · rfl
    split
    · rfl
    split
    · rfl
    · exact (belongings_record h.symm).trans (belongings_updateUser h)

theorem belongings_changeStatus
    {target : UserId} (h : w ≠ target) (actor : Actor) (status : Status)
    (reason : Option String) (now : Instant) (fresh : FreshIds) :
    (s.changeStatus actor target status reason now fresh).2.belongings w =
      s.belongings w := by
  unfold changeStatus
  split
  · rfl
  next u hu =>
    obtain rfl := id_of_get?_user s hu
    split
    · rfl
    split
    · rfl
    split
    · rfl
    refine (belongings_record h.symm).trans ?_
    split
    · exact (belongings_revokeAll h none .userSuspended now).trans
        (belongings_updateUser h)
    · exact belongings_updateUser h

theorem belongings_requestDeletion
    {target : UserId} (h : w ≠ target) (actor : Actor) (scheduledFor now : Instant)
    (fresh : FreshIds) :
    (s.requestDeletion actor target scheduledFor now fresh).2.belongings w =
      s.belongings w := by
  unfold requestDeletion
  split
  · rfl
  next u hu =>
    obtain rfl := id_of_get?_user s hu
    split
    · rfl
    split
    · rfl
    · exact (belongings_record h.symm).trans (belongings_updateUser h)

theorem belongings_cancelDeletion
    {target : UserId} (h : w ≠ target) (actor : Actor) (now : Instant)
    (fresh : FreshIds) :
    (s.cancelDeletion actor target now fresh).2.belongings w = s.belongings w := by
  unfold cancelDeletion
  split
  · rfl
  next u hu =>
    obtain rfl := id_of_get?_user s hu
    split
    · rfl
    split
    · rfl
    · exact (belongings_record h.symm).trans (belongings_updateUser h)

theorem belongings_finalizeDeletion
    {user : UserId} (h : w ≠ user) (trace : Option String) (now : Instant)
    (fresh : FreshIds) :
    (s.finalizeDeletion user trace now fresh).2.belongings w = s.belongings w := by
  unfold finalizeDeletion
  split
  · rfl
  next u hu =>
    obtain rfl := id_of_get?_user s hu
    split
    · rfl
    split
    · rfl
    split
    · rfl
    dsimp only
    split
    · exact belongings_record h.symm
    · have hscrub : w ≠ (u.scrub now).id := h
      exact (belongings_record h.symm).trans ((belongings_record h.symm).trans
        ((belongings_updateUser hscrub).trans (belongings_removeBelongings h)))

end Performing

end Store

end AccountAuthority
