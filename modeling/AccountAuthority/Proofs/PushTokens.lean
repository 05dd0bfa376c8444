import AccountAuthority.Proofs.OneSessionPerDevice
import AccountAuthority.Proofs.OtherUsers

/-!
# The holders of push tokens

A push token belongs to a device, and so whoever registers it last on one of its
sessions takes it from all others, whether or not they are revoked and whoever
their users are.  No other operation gives a push token to a session, and
sessions are opened without one; so no two sessions ever hold the same push token.
-/

namespace AccountAuthority

open Store

/-! ## One holder in every store -/

/-- No two sessions hold the same push token. -/
def Store.PushTokensApart (s : Store) : Prop :=
  ∀ x ∈ s.sessions.rows, ∀ y ∈ s.sessions.rows, ∀ token,
    x.pushToken = some token → y.pushToken = some token → x = y

theorem Session.IsNew.pushToken {x : Session} (h : x.IsNew) :
    x.pushToken = none := by
  obtain ⟨methods, device, expiresAt, now, heq⟩ := h
  rw [heq]
  rfl

namespace Store.PushTokensApart

variable {s s' : Store}

theorem empty : Store.empty.PushTokensApart :=
  fun _ hx => absurd hx List.not_mem_nil

/-- Sessions without push tokens may come in, and any sessions may go. -/
theorem of_mem
    (hs : s.PushTokensApart)
    (h : ∀ x ∈ s'.sessions.rows, x.pushToken ≠ none → x ∈ s.sessions.rows) :
    s'.PushTokensApart := by
  intro x hx y hy token hxt hyt
  have hxs := h x hx (by simp [hxt])
  have hys := h y hy (by simp [hyt])
  exact hs x hxs y hys token hxt hyt

/-- A push token may be given to a session that is then the only one to have
it. -/
theorem map
    (hs : s.PushTokensApart) {f : Session → Session}
    (hsessions : s'.sessions.rows = s.sessions.rows.map f)
    (hgiven : ∀ x ∈ s.sessions.rows, ∀ token, (f x).pushToken = some token →
      x.pushToken = some token ∨
        ∀ y ∈ s.sessions.rows, (f y).pushToken = some token → y = x) :
    s'.PushTokensApart := by
  intro y hy z hz token hyt hzt
  rw [hsessions] at hy hz
  obtain ⟨x, hx, rfl⟩ := List.mem_map.mp hy
  obtain ⟨w, hw, rfl⟩ := List.mem_map.mp hz
  rcases hgiven x hx token hyt with hxt | honly
  · rcases hgiven w hw token hzt with hwt | honly
    · rw [hs x hx w hw token hxt hwt]
    · rw [honly x hx hyt]
  · rw [honly w hw hzt]

theorem insert
    (hs : s.PushTokensApart) {x : Session}
    (hsessions : s'.sessions = s.sessions.insert x) (hx : x.pushToken = none) :
    s'.PushTokensApart := by
  refine hs.of_mem fun y hy htoken => ?_
  rw [hsessions] at hy
  rcases Table.mem_rows_insert.mp hy with rfl | ⟨hy, -⟩
  · exact absurd hx htoken
  · exact hy

end Store.PushTokensApart

/-- Push tokens stay apart in every step: only one kind of step gives them away,
and it gives each to one session. -/
theorem SessionStep.pushTokensApart
    {N : List Name} {s s' : Store} (h : SessionStep N s s')
    (hs : s.PushTokensApart) : s'.PushTokensApart := by
  cases h with
  | unchanged hsessions _ => exact hs.of_mem fun x hx _ => hsessions ▸ hx
  | pushed f _ hsessions _ hgiven => exact hs.map hsessions hgiven
  | revoked p reason now _ hsessions _ =>
      refine hs.map (hsessions ▸ rows_sessions_revokeWhere s p reason now) ?_
      intro x _ token htoken
      split at htoken <;> exact Or.inl htoken
  | opened x t hmade _ _ _ hsessions _ =>
      have hx : x.IsNew := hmade.session
      exact hs.insert hsessions hx.pushToken
  | rotated x old new device now _ _ _ _ _ _ _ hsessions _ =>
      refine hs.map hsessions fun y _ token htoken => ?_
      split at htoken <;> exact Or.inl htoken
  | removed user hsessions _ =>
      refine hs.of_mem fun x hx _ => ?_
      rw [hsessions] at hx
      exact (List.mem_filter.mp hx).1

theorem Store.PushTokensApart.createSession
    {s : Store} (hs : s.PushTokensApart) {x : Session} (hx : x.IsNew)
    (t : RefreshToken) (now : Instant) :
    (s.createSession x t now).2.PushTokensApart := by
  unfold Store.createSession
  dsimp only
  split
  next id _ =>
    have hstep : SessionStep [] s (s.revoke id .deviceReplaced now).2 :=
      revoke_sessionStep s id .deviceReplaced now
    exact (hstep.pushTokensApart hs).insert rfl hx.pushToken
  · exact hs.insert rfl hx.pushToken

theorem Operation.pushTokensApart
    {op : Operation} {s : Store} (hs : s.PushTokensApart)
    (hnew : ∀ x ∈ op.request.newSessions, x.IsNew) :
    (op.apply s).PushTokensApart := by
  have other (hopen : op.request.OpensProperly) : (op.apply s).PushTokensApart := by
    obtain ⟨mid, hfirst, hsecond⟩ := op.apply_sessionSteps s hopen
    exact hsecond.pushTokensApart (hfirst.pushTokensApart hs)
  obtain ⟨request, fresh⟩ := op
  cases request with
  | createSession x t now =>
      exact hs.createSession (hnew x (List.mem_singleton_self x)) t now
  | _ => exact other trivial

theorem Store.PushTokensApart.run
    {s : Store} {ops : List Operation} (hs : s.PushTokensApart)
    (hnew : ∀ op ∈ ops, ∀ x ∈ op.request.newSessions, x.IsNew) :
    (s.run ops).PushTokensApart :=
  run_induction hs fun _ op _ hsplit h =>
    Operation.pushTokensApart h (hnew op (by simp [hsplit]))

/-! ## Giving a push token to a session -/

/-- A session with a push token. -/
def Session.withPush
    (token : String) (platform : Option String) (now : Instant) (x : Session) :
    Session :=
  { x with
    pushToken := some token, pushPlatform := platform, pushUpdatedAt := some now }

theorem Session.key_withPush
    (token : String) (platform : Option String) (now : Instant) (x : Session) :
    key (x.withPush token platform now) = key x := rfl

theorem Session.sameButPush_withPush
    (token : String) (platform : Option String) (now : Instant) (x : Session) :
    x.SameButPush (x.withPush token platform now) :=
  ⟨_, _, _, rfl⟩

theorem Session.sameButPush_withoutPush
    (token : String) (now : Instant) (x : Session) :
    x.SameButPush (x.withoutPush token now) := by
  unfold withoutPush
  split
  · exact ⟨_, _, _, rfl⟩
  · exact ⟨_, _, _, rfl⟩

@[simp] theorem Session.id_withoutPush
    (token : String) (now : Instant) (x : Session) :
    (x.withoutPush token now).id = x.id := by
  unfold withoutPush
  split <;> rfl

theorem Session.pushToken_withoutPush_ne
    (token : String) (now : Instant) (x : Session) :
    (x.withoutPush token now).pushToken ≠ some token := by
  unfold withoutPush
  split
  · exact nofun
  next hother => exact hother

/-- What becomes of a store when a session of a user gets a push token.  The
session is not revoked and has the token afterwards, and no other session does.
Those that had it have lost it, and nothing else about any session or about the rest
of the store has changed. -/
structure Store.PushTokenGiven
    (s : Store) (user : UserId) (id : SessionId) (token : String)
    (platform : Option String) (now : Instant) (s' : Store) : Prop where
  holder : ∃ x ∈ s.sessions.rows,
    x.id = id ∧ x.user = user ∧ x.isRevoked = false ∧
      x.withPush token platform now ∈ s'.sessions.rows
  others : ∀ y ∈ s'.sessions.rows, y.pushToken = some token → y.id = id
  sessions : s'.sessions.rows = s.sessions.rows.map fun x =>
    if x.id = id then x.withPush token platform now else x.withoutPush token now
  same : List.Forall₂ Session.SameButPush s.sessions.rows s'.sessions.rows
  rest : s' = { s with sessions := s'.sessions }

namespace Store

variable {s : Store} {user : UserId} {id : SessionId}

/-- The session with the identifier is one of the user and is not revoked. -/
def HasUnrevoked (s : Store) (user : UserId) (id : SessionId) : Prop :=
  ∃ x ∈ s.sessions.rows, x.id = id ∧ x.user = user ∧ x.isRevoked = false

theorem setPushToken_of_not_hasUnrevoked
    (h : ¬s.HasUnrevoked user id) (token : String) (platform : Option String)
    (now : Instant) :
    s.setPushToken user id token platform now = (.sessionNotFound, s) := by
  unfold setPushToken
  split
  · rfl
  next x hget =>
    obtain ⟨hmem, hid⟩ := Table.get?_eq_some_iff.mp hget
    refine if_neg fun ⟨huser, hlive⟩ => h ⟨x, hmem, hid, huser, ?_⟩
    exact Bool.eq_false_iff.mpr hlive

theorem setPushToken_of_hasUnrevoked
    (h : s.HasUnrevoked user id) (token : String) (platform : Option String)
    (now : Instant) :
    ∃ s', s.setPushToken user id token platform now = (.updated, s') ∧
      s' = { s with sessions := s'.sessions } ∧
      s'.sessions.rows = s.sessions.rows.map fun x =>
        if x.id = id then x.withPush token platform now
        else x.withoutPush token now := by
  obtain ⟨x, hmem, hid, huser, hlive⟩ := h
  have hget : s.sessions.get? id = some x := Table.get?_eq_some_iff.mpr ⟨hmem, hid⟩
  have hgranted : x.user = user ∧ ¬x.isRevoked = true := by simp [huser, hlive]
  have hset : s.setPushToken user id token platform now =
      (.updated, { s with
        sessions := (s.detachPushToken id token now).sessions.update id
          (Session.withPush token platform now)
          (Session.key_withPush token platform now) }) := by
    simp only [setPushToken, hget, if_pos hgranted]
    rfl
  refine ⟨_, hset, rfl, ?_⟩
  dsimp only
  rw [Table.rows_update, rows_detachPushToken, List.map_map]
  refine List.map_congr_left fun y _ => ?_
  by_cases hy : y.id = id
  · simp [hy, Session.withPush]
  · simp [hy]

/-- Everything that is promised of a push token that is given. -/
theorem pushTokenGiven_of_rows
    (h : s.HasUnrevoked user id) {token : String} {platform : Option String}
    {now : Instant} {s' : Store}
    (hrest : s' = { s with sessions := s'.sessions })
    (hsessions : s'.sessions.rows = s.sessions.rows.map fun x =>
      if x.id = id then x.withPush token platform now
      else x.withoutPush token now) :
    s.PushTokenGiven user id token platform now s' where
  holder := by
    obtain ⟨x, hmem, hid, huser, hlive⟩ := h
    refine ⟨x, hmem, hid, huser, hlive, ?_⟩
    rw [hsessions]
    exact List.mem_map.mpr ⟨x, hmem, if_pos hid⟩
  others y hy htoken := by
    rw [hsessions] at hy
    obtain ⟨x, -, rfl⟩ := List.mem_map.mp hy
    split at htoken
    next hid => rw [if_pos hid]; exact hid
    next => exact absurd htoken (x.pushToken_withoutPush_ne token now)
  sessions := hsessions
  same := by
    rw [hsessions, List.forall₂_map_right_iff, List.forall₂_same]
    intro x _
    split
    · exact x.sameButPush_withPush token platform now
    · exact x.sameButPush_withoutPush token now
  rest := hrest

/-- In every store that is reached no two sessions hold the same push token,
whoever their users are and whether or not they are revoked.  A push token is given
exactly to a session of the user that is not revoked; it is then bound to that
session and gone from all others, and nothing else of any session has changed. -/
theorem one_holder_per_push_token :
    (∀ ops : List Operation,
      (∀ op ∈ ops, ∀ x ∈ op.request.newSessions, x.IsNew) →
        (Store.empty.run ops).PushTokensApart) ∧
    ∀ (s : Store) user id token platform now,
      let result := s.setPushToken user id token platform now
      (result.1 = .updated ↔ s.HasUnrevoked user id) ∧
      (result.1 = .updated →
        s.PushTokenGiven user id token platform now result.2) ∧
      (result.1 ≠ .updated → result.2 = s) := by
  refine ⟨fun ops hnew => PushTokensApart.empty.run hnew,
    fun s user id token platform now => ?_⟩
  dsimp only
  by_cases hlive : s.HasUnrevoked user id
  · obtain ⟨s', hset, hrest, hsessions⟩ :=
      setPushToken_of_hasUnrevoked hlive token platform now
    rw [hset]
    exact ⟨by simp [hlive], fun _ => pushTokenGiven_of_rows hlive hrest hsessions,
      fun h => absurd rfl h⟩
  · rw [setPushToken_of_not_hasUnrevoked hlive]
    exact ⟨by simp [hlive], nofun, fun _ => rfl⟩

end Store

/-- A session of one user gets a push token and is revoked, and then another user
logs in on the device. -/
def handedOnRun : List Operation := [
  ⟨.createSession (tabletSession ⟨1⟩ ⟨0⟩ "phone") (tabletToken ⟨2⟩ ⟨1⟩ "first")
    ⟨0, 0⟩, .zero⟩,
  ⟨.setPushToken ⟨0⟩ ⟨1⟩ "push" none ⟨1, 0⟩, .zero⟩,
  ⟨.revokeSession ⟨0⟩ ⟨1⟩ .logout ⟨2, 0⟩, .zero⟩,
  ⟨.createSession (tabletSession ⟨3⟩ ⟨9⟩ "phone") (tabletToken ⟨4⟩ ⟨3⟩ "second")
    ⟨3, 0⟩, .zero⟩]

theorem Store.one_holder_per_push_token_handed_on :
    let s := Store.empty.run handedOnRun
    let s' := (s.setPushToken ⟨9⟩ ⟨3⟩ "push" (some "ios") ⟨4, 0⟩).2
    s.PushTokensApart ∧
    (s.sessions.rows.map fun x => (x.isRevoked, x.pushToken)) =
      [(true, some "push"), (false, none)] ∧
    (s'.sessions.rows.map fun x => (x.isRevoked, x.pushToken)) =
      [(true, none), (false, some "push")] ∧
    List.Forall₂ Session.SameButPush s.sessions.rows s'.sessions.rows := by
  have hnew : ∀ op ∈ handedOnRun, ∀ x ∈ op.request.newSessions, x.IsNew := by
    simp only [handedOnRun, List.forall_mem_cons, List.not_mem_nil, false_imp_iff,
      implies_true, and_true, true_and, RepositoryRequest.newSessions]
    exact ⟨tabletSession_isNew _ _ _, tabletSession_isNew _ _ _⟩
  obtain ⟨hapart, hset⟩ := one_holder_per_push_token
  have hgiven := (hset (Store.empty.run handedOnRun) ⟨9⟩ ⟨3⟩ "push" (some "ios")
    ⟨4, 0⟩).2.1 (by decide +kernel)
  exact ⟨hapart handedOnRun hnew, by decide +kernel, by decide +kernel, hgiven.same⟩

end AccountAuthority
