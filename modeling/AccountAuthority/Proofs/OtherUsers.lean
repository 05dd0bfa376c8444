import AccountAuthority.Proofs.Belongings

/-!
# What operations do to other users

Every operation looks through whole tables, by user, by session, by active key
or by the hash of a token, and yet it changes the records of one user only: the
one that it is about.  Hashes and active keys lead to the records of one user in
every store that is reached.  There is one exception, since a device has one
push token whoever is logged in on it: a session of another user may lose its
push token.
-/

namespace AccountAuthority

open Store

/-! ## Push tokens -/

/-- A session without the push token, if it has it. -/
def Session.withoutPush (token : String) (now : Instant) (x : Session) : Session :=
  if x.pushToken = some token then
    { x with pushToken := none, pushPlatform := none, pushUpdatedAt := some now }
  else x

/-- The same records, but the sessions have lost the push token. -/
def Belongings.withoutPush
    (b : Belongings) (token : String) (now : Instant) : Belongings :=
  { b with sessions := b.sessions.map (Session.withoutPush token now) }

namespace Store

variable {s : Store} {w user : UserId} {id : SessionId}

/-- What the sessions but one make of a push token that is taken away. -/
theorem rows_detachPushToken (token : String) (now : Instant) :
    (s.detachPushToken id token now).sessions.rows =
      s.sessions.rows.map fun x => if x.id = id then x else x.withoutPush token now := by
  refine List.map_congr_left fun x _ => ?_
  by_cases hid : x.id = id <;> simp [hid, Session.withoutPush]

theorem id_of_detached (token : String) (now : Instant) (x : Session) :
    (if x.id = id then x else x.withoutPush token now).id = x.id := by
  unfold Session.withoutPush
  repeat' split
  all_goals rfl

theorem user_of_detached (token : String) (now : Instant) (x : Session) :
    (if x.id = id then x else x.withoutPush token now).user = x.user := by
  unfold Session.withoutPush
  repeat' split
  all_goals rfl

theorem belongings_detachPushToken
    (h : s.owner? id ≠ some w) (token : String) (now : Instant) :
    (s.detachPushToken id token now).belongings w =
      (s.belongings w).withoutPush token now := by
  have hsame : SameAccounts s (s.detachPushToken id token now) :=
    ⟨rfl, rfl, rfl, rfl, rfl⟩
  rw [belongings_of_map hsame (rows_detachPushToken token now)
    (id_of_detached token now) (user_of_detached token now)
    (List.map_id s.tokens.rows).symm (fun _ => rfl) (fun _ _ _ => rfl)]
  refine Belongings.ext rfl rfl rfl ?_ rfl rfl rfl
  refine List.map_congr_left fun x hx => if_neg fun hid => h ?_
  obtain ⟨hmem, hxw⟩ := List.mem_filter.mp hx
  rw [← hid, owner?_of_mem hmem, of_decide_eq_true hxw]

theorem belongings_givePushToken
    (h : s.owner? id ≠ some w) (token : String) (platform : Option String)
    (now : Instant) :
    { s with
      sessions := s.sessions.update id
        (fun x => { x with
          pushToken := some token, pushPlatform := platform, pushUpdatedAt := some now })
        (fun _ => rfl) }.belongings w = s.belongings w := by
  refine belongings_of_fixed (s := s) (g := fun t => t) ⟨rfl, rfl, rfl, rfl, rfl⟩
    rfl (fun x => ?_) (fun x => ?_) (fun x hx hxw => if_neg fun hid => h ?_)
    (List.map_id _).symm (fun _ => rfl) (fun _ _ _ => rfl)
  · split <;> rfl
  · split <;> rfl
  · rw [← hid, key_session, owner?_of_mem hx, hxw]

/-- A session of another user may lose its push token. -/
theorem belongings_setPushToken
    (h : w ≠ user ∨ s.owner? id ≠ some w) (token : String)
    (platform : Option String) (now : Instant) :
    (s.setPushToken user id token platform now).2.belongings w = s.belongings w ∨
      (s.setPushToken user id token platform now).2.belongings w =
        (s.belongings w).withoutPush token now := by
  unfold setPushToken
  split
  · exact Or.inl rfl
  next x hx =>
    split
    next hlive =>
      have howner : s.owner? id ≠ some w := by
        rcases h with huser | howner
        · rw [owner?, hx, Option.map_some, hlive.1]
          simpa using huser.symm
        · exact howner
      have hdetached : (s.detachPushToken id token now).owner? id ≠ some w := by
        rwa [owner?_of_map (rows_detachPushToken token now) (id_of_detached token now)
          (user_of_detached token now)]
      exact Or.inr ((belongings_givePushToken hdetached token platform now).trans
        (belongings_detachPushToken howner token now))
    · exact Or.inl rfl

end Store

/-! ## Whom an operation is about -/

namespace Store

/-- A refresh token of a session of the user has the hash. -/
def HasToken (s : Store) (user : UserId) (hash : String) : Prop :=
  ∃ t ∈ s.tokens.rows, t.hash = hash ∧ s.owner? t.session = some user

/-- A verification token of the user has the hash. -/
def HasVerificationToken (s : Store) (user : UserId) (hash : String) : Prop :=
  ∃ t ∈ s.verificationTokens.rows, t.hash = hash ∧ t.user = user

end Store

/-- A request is about a user: by its identifier, by a refresh token or a
verification token of the user, by a session of the user, or because it makes
something for the user.  What is only read may be about anyone. -/
def RepositoryRequest.IsAbout (s : Store) (user : UserId) : RepositoryRequest → Prop
  | createUser x _ => x.id = user
  | createExternalUser x identity => x.id = user ∧ identity.user = user
  | linkIdentity identity => identity.user = user
  | storeVerificationToken t => t.user = user
  | resetPassword hash _ _ | verifyEmail hash _ => s.HasVerificationToken user hash
  | createSession x _ _ => x.user = user
  | rotate r => s.HasToken user r.tokenHash
  | revokeByToken hash _ _ => s.HasToken user hash
  | revokeSession id session _ _ | setPushToken id session _ _ _ =>
      id = user ∨ s.owner? session = some user
  | changePassword id _ _ _ _ | revokeDevice id _ _ _ | changeRole _ id _ _
  | changeStatus _ id _ _ _ | requestDeletion _ id _ _ | cancelDeletion _ id _
  | finalizeDeletion id _ _ => id = user
  | ping | findLogin _ | findCredentials _ | findUser _ | findExternalUser _ _
  | findRefreshContext _ | listSessions _ _ | listAudit _ => True

theorem RepositoryRequest.OpensProperly.isNew
    {r : RepositoryRequest} (h : r.OpensProperly) :
    ∀ x ∈ r.newSessions, x.IsNew := by
  cases r with
  | createSession x t now =>
      intro y hy
      rw [List.mem_singleton.mp hy]
      exact MadeTogether.session h
  | _ => exact fun _ hx => absurd hx List.not_mem_nil

namespace Store

variable {s : Store} {u w : UserId}

theorem HasToken.other
    {hash : String} (hs : s.HashesDistinct) (h : s.HasToken u hash) (hw : w ≠ u) :
    ∀ t, s.tokenByHash? hash = some t → s.owner? t.session ≠ some w := by
  rintro t ht howner
  obtain ⟨t', hmem', hhash', howner'⟩ := h
  obtain ⟨hmem, hhash⟩ := mem_of_tokenByHash? ht
  obtain rfl := hs.eq_of_hash_eq hmem hmem' (hhash.trans hhash'.symm)
  exact hw (Option.some.inj (howner.symm.trans howner'))

theorem HasVerificationToken.other
    {hash : String} (hs : s.VerificationHashesDistinct)
    (h : s.HasVerificationToken u hash) (hw : w ≠ u) (purpose : TokenPurpose) :
    ∀ t, s.verificationToken? hash purpose = some t → w ≠ t.user := by
  rintro t ht rfl
  obtain ⟨t', hmem', hhash', huser'⟩ := h
  obtain ⟨hmem, hhash, -⟩ := verificationToken?_eq_some ht
  obtain rfl := hs t hmem t' hmem' (hhash.trans hhash'.symm)
  exact hw huser'

theorem owner?_ne_of_about
    {id : UserId} {session : SessionId} (h : id = u ∨ s.owner? session = some u)
    (hw : w ≠ u) : w ≠ id ∨ s.owner? session ≠ some w := by
  rcases h with rfl | howner
  · exact Or.inl hw
  · rw [howner]
    exact Or.inr fun heq => hw (Option.some.inj heq).symm

end Store

/-- When the names that it draws are not in use, an operation leaves what belongs
to another user alone, or takes a push token away from them. -/
theorem Operation.belongings_of_other
    {op : Operation} {s : Store} (hkeys : s.KeysHeld) (hhashes : s.HashesDistinct)
    (hverification : s.VerificationHashesDistinct)
    (hopen : op.request.OpensProperly) (hnew : ∀ n ∈ op.names, ¬s.Uses n)
    (hstored : ∀ t ∈ op.request.storedTokens, s.verificationTokens.get? t.id = none)
    {u w : UserId} (habout : op.request.IsAbout s u) (hw : w ≠ u) :
    (op.apply s).belongings w = s.belongings w ∨
      ∃ user session token platform now,
        op.request = .setPushToken user session token platform now ∧
          (op.apply s).belongings w = (s.belongings w).withoutPush token now := by
  have unused {id : TokenId} (h : .token id ∈ op.names) : s.tokens.get? id = none :=
    Table.get?_eq_none_iff.mpr fun t ht hid => hnew (.token id) h ⟨t, ht, hid⟩
  have other {v : UserId} (h : v = u) : w ≠ v := fun heq => hw (heq.trans h)
  obtain ⟨r, fresh⟩ := op
  cases r with
  | setPushToken user session token platform now =>
      have h := owner?_ne_of_about habout hw
      rcases belongings_setPushToken h token platform now with hsame | hlost
      · exact Or.inl hsame
      · exact Or.inr ⟨user, session, token, platform, now, rfl, hlost⟩
  | createUser x hash =>
      exact Or.inl (belongings_createUser s (other habout) hash)
  | createExternalUser x identity =>
      exact Or.inl (belongings_createExternalUser s
        (other habout.1) (habout.2.trans habout.1.symm))
  | linkIdentity identity =>
      exact Or.inl (belongings_linkIdentity s (other habout))
  | storeVerificationToken t =>
      exact Or.inl (belongings_storeVerificationToken (other habout).symm
        (hstored t (List.mem_singleton_self t)))
  | resetPassword hash newHash now =>
      exact Or.inl (belongings_resetPassword s
        (HasVerificationToken.other hverification habout hw _) newHash now)
  | verifyEmail hash now =>
      exact Or.inl (belongings_verifyEmail s
        (HasVerificationToken.other hverification habout hw _) now)
  | changePassword user expected hash keep now =>
      exact Or.inl (belongings_changePassword s (other habout)
        expected hash keep now)
  | createSession x t now =>
      have hid : s.sessions.get? x.id = none :=
        Table.get?_eq_none_iff.mpr fun y hy heq =>
          hnew (.session x.id) (by simp [names]) ⟨y, hy, heq⟩
      have hsession : t.session = x.id := by
        have hmade : MadeTogether x t := hopen
        rw [hmade.token]
      exact Or.inl (belongings_createSession s hkeys (MadeTogether.session hopen)
        (other habout).symm hid (unused (by simp [names]))
        hsession now)
  | rotate r =>
      exact Or.inl (belongings_rotate s (HasToken.other hhashes habout hw)
        (unused (by simp [names])))
  | revokeByToken hash reason now =>
      exact Or.inl (belongings_revokeByToken s (HasToken.other hhashes habout hw)
        reason now)
  | revokeSession user session reason now =>
      exact Or.inl (belongings_revokeSession s (owner?_ne_of_about habout hw)
        reason now)
  | revokeDevice user device reason now =>
      exact Or.inl (belongings_revokeDevice s hkeys
        (other habout) device reason now)
  | changeRole actor target role now =>
      exact Or.inl (belongings_changeRole s (other habout)
        actor role now fresh)
  | changeStatus actor target status reason now =>
      exact Or.inl (belongings_changeStatus s (other habout)
        actor status reason now fresh)
  | requestDeletion actor target scheduledFor now =>
      exact Or.inl (belongings_requestDeletion s (other habout)
        actor scheduledFor now fresh)
  | cancelDeletion actor target now =>
      exact Or.inl (belongings_cancelDeletion s (other habout)
        actor now fresh)
  | finalizeDeletion user trace now =>
      exact Or.inl (belongings_finalizeDeletion s (other habout)
        trace now fresh)
  | ping | findLogin | findCredentials | findUser | findExternalUser
  | findRefreshContext | listSessions | listAudit => exact Or.inl rfl

namespace Store

theorem revokeSession_of_other
    {s : Store} {x : Session} (hx : x ∈ s.sessions.rows) {user : UserId}
    (h : user ≠ x.user) (reason : RevocationReason) (now : Instant) :
    s.revokeSession user x.id reason now = (.notFound, s) := by
  have hget : s.sessions.get? x.id = some x := Table.get?_key hx
  simp only [revokeSession, hget]
  exact if_neg h.symm

theorem setPushToken_of_other
    {s : Store} {x : Session} (hx : x ∈ s.sessions.rows) {user : UserId}
    (h : user ≠ x.user) (token : String) (platform : Option String)
    (now : Instant) :
    s.setPushToken user x.id token platform now = (.sessionNotFound, s) := by
  have hget : s.sessions.get? x.id = some x := Table.get?_key hx
  simp only [setPushToken, hget]
  exact if_neg fun hown => h hown.1.symm

/-- In every store that is reached by operations that draw no name twice, an
operation about one user leaves all that belongs to another user as it was, but
for the push token of a device that changes hands, and only adds to the audit
trail.  A session is neither revoked nor given a push token in the name of
another user. -/
theorem other_users_undisturbed
    (ops : List Operation) (op : Operation)
    (hopen : ∀ o ∈ ops ++ [op], o.request.OpensProperly)
    (hnames : (drawnNames (ops ++ [op])).Nodup)
    (hids : ((storedTokens (ops ++ [op])).map VerificationToken.id).Nodup)
    (hhashes : ((storedTokens (ops ++ [op])).map VerificationToken.hash).Nodup) :
    let s := Store.empty.run ops
    (∀ u w, op.request.IsAbout s u → w ≠ u →
      (op.apply s).belongings w = s.belongings w ∨
        ∃ user session token platform now,
          op.request = .setPushToken user session token platform now ∧
            (op.apply s).belongings w = (s.belongings w).withoutPush token now) ∧
    s.audit <+: (op.apply s).audit ∧
    ∀ x ∈ s.sessions.rows, ∀ user, user ≠ x.user →
      (∀ reason now, s.revokeSession user x.id reason now = (.notFound, s)) ∧
      ∀ token platform now,
        s.setPushToken user x.id token platform now = (.sessionNotFound, s) := by
  intro s
  have hops : ∀ o ∈ ops, o.request.OpensProperly :=
    fun o ho => hopen o (List.mem_append_left _ ho)
  have hkeys : s.KeysHeld := KeysHeld.empty.run fun o ho => (hops o ho).isNew
  have hdistinct : s.HashesDistinct := by
    refine hashesDistinct_empty.run hops (fun n _ => not_uses_empty n) ?_
    rw [drawnNames_append] at hnames
    exact (List.nodup_append.mp hnames).1
  have hverification : s.VerificationHashesDistinct := by
    refine verificationHashesDistinct_run ?_
    rw [storedTokens_append, List.map_append] at hhashes
    exact (List.nodup_append.mp hhashes).1
  have hnew : ∀ n ∈ op.names, ¬s.Uses n := by
    have hdrawn := not_uses_of_append hopen hnames
    simpa [drawnNames] using hdrawn
  have hstored : ∀ t ∈ op.request.storedTokens,
      s.verificationTokens.get? t.id = none := by
    intro t ht
    rw [Table.get?_eq_none_iff]
    intro v hv hid
    obtain ⟨v₀, hv₀, hlater⟩ := storedToken_of_mem hv
    rw [storedTokens_concat, List.map_append] at hids
    exact (List.nodup_append.mp hids).2.2 v₀.id (List.mem_map_of_mem hv₀) t.id
      (List.mem_map_of_mem ht) (hlater.id.symm.trans hid)
  refine ⟨fun u w habout hw => ?_, audit_grows_run s [op], fun x hx user huser => ?_⟩
  · exact Operation.belongings_of_other hkeys hdistinct hverification
      (hopen op (by simp)) hnew hstored habout hw
  · exact ⟨revokeSession_of_other hx huser, setPushToken_of_other hx huser⟩

/-- One of two users who share a tablet logs out on it. -/
theorem other_users_undisturbed_tablet :
    let s := Store.empty.run tabletRun
    let op : Operation := ⟨.revokeDevice ⟨0⟩ "a:b" .logout ⟨10, 0⟩, .zero⟩
    ((op.apply s).belongings ⟨0⟩).sessions.map Session.isRevoked = [true] ∧
      (op.apply s).belongings ⟨9⟩ = s.belongings ⟨9⟩ ∧
      s.revokeSession ⟨0⟩ ⟨3⟩ .userRevoked ⟨10, 0⟩ = (.notFound, s) := by
  let op : Operation := ⟨.revokeDevice ⟨0⟩ "a:b" .logout ⟨10, 0⟩, .zero⟩
  have hmade (id token : Uuid) (user : UserId) (device hash : String) :
      MadeTogether (tabletSession id user device) (tabletToken token id hash) :=
    ⟨tabletSession_isNew id user device, rfl⟩
  have hopen : ∀ o ∈ tabletRun ++ [op], o.request.OpensProperly := by
    simp only [tabletRun, List.cons_append, List.nil_append, List.forall_mem_cons,
      List.not_mem_nil, false_imp_iff, implies_true, and_true]
    exact ⟨hmade _ _ _ _ _, hmade _ _ _ _ _, trivial⟩
  obtain ⟨hsame, -, hforeign⟩ := other_users_undisturbed tabletRun op hopen
    (by decide) (by decide) (by decide)
  have hthird : tabletSession ⟨3⟩ ⟨9⟩ "a:b" ∈
      (Store.empty.run tabletRun).sessions.rows := by decide +kernel
  refine ⟨by decide +kernel, ?_, (hforeign _ hthird ⟨0⟩ (by decide)).1 _ _⟩
  rcases hsame ⟨0⟩ ⟨9⟩ rfl (by decide) with h | ⟨_, _, _, _, _, hpush, -⟩
  · exact h
  · cases hpush

end Store

end AccountAuthority
