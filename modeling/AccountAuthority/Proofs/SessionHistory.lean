import AccountAuthority.Proofs.SessionSteps

/-!
# What becomes of sessions and refresh tokens

Every session and every refresh token of a store is new or has come from one
that was there before.  What it has come from says who owns it and when it runs
out, and whether it is spent: a revocation or a replacement is never taken
back.  A refresh token stays as long as its session does.
-/

namespace AccountAuthority

open Store

/-! ## Later forms of a record -/

/-- What a session may have become: a revocation is final, and whose session
it is and when it runs out never changes. -/
structure Session.Later (x y : Session) : Prop where
  id : y.id = x.id
  user : y.user = x.user
  expiresAt : y.expiresAt = x.expiresAt
  revoked : x.isRevoked = true →
    y.revokedAt = x.revokedAt ∧ y.revokedReason = x.revokedReason ∧
      y.activeKey = x.activeKey

/-- What a refresh token may have become: it is revoked and replaced once. -/
structure RefreshToken.Later (t u : RefreshToken) : Prop where
  id : u.id = t.id
  session : u.session = t.session
  hash : u.hash = t.hash
  expiresAt : u.expiresAt = t.expiresAt
  revoked : t.revokedAt.isSome = true → u.revokedAt = t.revokedAt
  replaced : t.replacedBy.isSome = true → u.replacedBy = t.replacedBy

theorem Session.Later.refl (x : Session) : x.Later x :=
  ⟨rfl, rfl, rfl, fun _ => ⟨rfl, rfl, rfl⟩⟩

theorem RefreshToken.Later.refl (t : RefreshToken) : t.Later t :=
  ⟨rfl, rfl, rfl, rfl, fun _ => rfl, fun _ => rfl⟩

theorem Session.Later.isRevoked
    {x y : Session} (h : x.Later y) (hx : x.isRevoked = true) :
    y.isRevoked = true := by
  rw [Session.isRevoked, (h.revoked hx).1]
  exact hx

theorem Session.Later.isRevoked_eq_false
    {x y : Session} (h : x.Later y) (hy : y.isRevoked = false) :
    x.isRevoked = false := by
  by_contra hx
  rw [h.isRevoked (by simpa using hx)] at hy
  cases hy

theorem Session.Later.trans
    {x y z : Session} (h : x.Later y) (h' : y.Later z) : x.Later z where
  id := h'.id.trans h.id
  user := h'.user.trans h.user
  expiresAt := h'.expiresAt.trans h.expiresAt
  revoked hx := by
    obtain ⟨h₁, h₂, h₃⟩ := h.revoked hx
    obtain ⟨h₁', h₂', h₃'⟩ := h'.revoked (h.isRevoked hx)
    exact ⟨h₁'.trans h₁, h₂'.trans h₂, h₃'.trans h₃⟩

theorem RefreshToken.Later.trans
    {t u v : RefreshToken} (h : t.Later u) (h' : u.Later v) : t.Later v where
  id := h'.id.trans h.id
  session := h'.session.trans h.session
  hash := h'.hash.trans h.hash
  expiresAt := h'.expiresAt.trans h.expiresAt
  revoked ht := by
    have hu := h.revoked ht
    exact (h'.revoked (by rw [hu]; exact ht)).trans hu
  replaced ht := by
    have hu := h.replaced ht
    exact (h'.replaced (by rw [hu]; exact ht)).trans hu

theorem RefreshToken.Later.isChainHead
    {t u : RefreshToken} (h : t.Later u) (hu : u.isChainHead = true) :
    t.isChainHead = true := by
  simp only [RefreshToken.isChainHead, Bool.and_eq_true,
    Option.isNone_iff_eq_none] at hu ⊢
  constructor
  · cases hrevoked : t.revokedAt with
    | none => rfl
    | some time =>
        have hstill := h.revoked (by simp [hrevoked])
        simp [hu.1, hrevoked] at hstill
  · cases hreplaced : t.replacedBy with
    | none => rfl
    | some next =>
        have hstill := h.replaced (by simp [hreplaced])
        simp [hu.2, hreplaced] at hstill

/-! ## Origins over one step -/

namespace SessionStep

variable {N : List Name} {s s' : Store}

/-- A session is new, or it is related to one that was there by whatever
relation a push token, a revocation and a refresh leave intact. -/
theorem session_origin_of
    {R : Session → Session → Prop} (hrefl : ∀ x, R x x)
    (hpushed : ∀ x y, x.SameButPush y → R x y)
    (hrevoked : ∀ x reason now, x.isRevoked = false → R x (x.revoke reason now))
    (htouched : ∀ x device now, R x (x.touch device now))
    (h : SessionStep N s s') {y : Session} (hy : y ∈ s'.sessions.rows) :
    .session y.id ∈ N ∨ ∃ x ∈ s.sessions.rows, R x y := by
  cases h with
  | unchanged hs _ =>
      rw [hs] at hy
      exact Or.inr ⟨y, hy, hrefl y⟩
  | pushed f hsame hs _ _ =>
      rw [hs] at hy
      obtain ⟨x, hx, rfl⟩ := List.mem_map.mp hy
      exact Or.inr ⟨x, hx, hpushed x _ (hsame x)⟩
  | revoked p reason now hlive hs _ =>
      rw [hs] at hy
      obtain ⟨x, hx, rfl⟩ := List.mem_map.mp hy
      refine Or.inr ⟨x, hx, ?_⟩
      split
      next hp => exact hrevoked x reason now (hlive x hx hp)
      · exact hrefl x
  | opened x t _ hname _ _ hs _ =>
      rw [hs] at hy
      rcases Table.mem_rows_insert.mp hy with rfl | ⟨hy, -⟩
      · exact Or.inl hname
      · exact Or.inr ⟨y, hy, hrefl y⟩
  | rotated x old new device now _ _ _ _ _ _ _ hs _ =>
      rw [hs] at hy
      obtain ⟨z, hz, rfl⟩ := List.mem_map.mp hy
      refine Or.inr ⟨z, hz, ?_⟩
      split
      · exact htouched z device now
      · exact hrefl z
  | removed user hs _ =>
      rw [hs] at hy
      exact Or.inr ⟨y, (List.mem_filter.mp hy).1, hrefl y⟩

/-- A session is new, or it has come from one that was there. -/
theorem session_origin
    (h : SessionStep N s s') {y : Session} (hy : y ∈ s'.sessions.rows) :
    .session y.id ∈ N ∨ ∃ x ∈ s.sessions.rows, x.Later y := by
  refine h.session_origin_of .refl ?_ ?_ ?_ hy
  · rintro x _ ⟨token, platform, at?, rfl⟩
    exact ⟨rfl, rfl, rfl, fun _ => ⟨rfl, rfl, rfl⟩⟩
  · intro x reason now hlive
    refine ⟨rfl, rfl, rfl, fun hrevoked => ?_⟩
    rw [hlive] at hrevoked
    exact absurd hrevoked Bool.false_ne_true
  · exact fun x device now => ⟨rfl, rfl, rfl, fun _ => ⟨rfl, rfl, rfl⟩⟩

theorem later_stamped
    (s : Store) (p : Session → Bool) (now : Instant) (t : RefreshToken) :
    t.Later (s.stamped p now t) := by
  unfold stamped
  split
  next hstamp =>
    refine ⟨rfl, rfl, rfl, rfl, fun hrevoked => ?_, fun _ => rfl⟩
    rw [hstamp.1] at hrevoked
    exact absurd hrevoked Bool.false_ne_true
  · exact .refl t

/-- The head of a chain may be replaced, and no other token is changed then. -/
theorem later_replacing
    {old t : RefreshToken} (hhead : old.isChainHead = true)
    (heq : t.id = old.id → t = old) (next : TokenId) (now : Instant) :
    t.Later (t.replacing old.id next now) := by
  unfold RefreshToken.replacing
  split
  next hid =>
    obtain rfl := heq hid
    simp only [RefreshToken.isChainHead, Bool.and_eq_true,
      Option.isNone_iff_eq_none] at hhead
    refine ⟨rfl, rfl, rfl, rfl, fun h => ?_, fun h => ?_⟩
    · simp [hhead.1] at h
    · simp [hhead.2] at h
  · exact .refl t

/-- A refresh token is new, or it is related to one that was there by whatever
relation a revocation and a replacement leave intact. -/
theorem token_origin_of
    {R : RefreshToken → RefreshToken → Prop} (hrefl : ∀ t, R t t)
    (hstamped : ∀ s p now t, R t (stamped s p now t))
    (hreplaced : ∀ t next now, t.isChainHead = true →
      R t { t with revokedAt := some now, replacedBy := some next })
    (h : SessionStep N s s') {u : RefreshToken} (hu : u ∈ s'.tokens.rows) :
    (.token u.id ∈ N ∧ .tokenHash u.hash ∈ N) ∨ ∃ t ∈ s.tokens.rows, R t u := by
  cases h with
  | unchanged _ ht | pushed _ _ _ ht _ =>
      rw [ht] at hu
      exact Or.inr ⟨u, hu, hrefl u⟩
  | revoked p reason now _ _ ht =>
      rw [ht, rows_tokens_revokeWhere] at hu
      obtain ⟨t, hmem, rfl⟩ := List.mem_map.mp hu
      exact Or.inr ⟨t, hmem, hstamped s p now t⟩
  | opened x t _ _ hname hhash _ ht =>
      rw [ht] at hu
      rcases Table.mem_rows_insert.mp hu with rfl | ⟨hu, -⟩
      · exact Or.inl ⟨hname, hhash⟩
      · exact Or.inr ⟨u, hu, hrefl u⟩
  | rotated x old new device now _ _ hold hhead _ hname hhash _ ht =>
      rw [ht] at hu
      rcases Table.mem_rows_insert.mp hu with rfl | ⟨hu, -⟩
      · exact Or.inl ⟨hname, hhash⟩
      · rw [rows_replaceToken] at hu
        obtain ⟨t, hmem, rfl⟩ := List.mem_map.mp hu
        refine Or.inr ⟨t, hmem, ?_⟩
        unfold RefreshToken.replacing
        split
        next hid =>
          obtain rfl : t = old := Table.eq_of_key_eq hmem hold hid
          exact hreplaced t new.id now hhead
        · exact hrefl t
  | removed user _ ht =>
      rw [ht] at hu
      exact Or.inr ⟨u, (List.mem_filter.mp hu).1, hrefl u⟩

/-- A refresh token is new, or it has come from one that was there. -/
theorem token_origin
    (h : SessionStep N s s') {u : RefreshToken} (hu : u ∈ s'.tokens.rows) :
    (.token u.id ∈ N ∧ .tokenHash u.hash ∈ N) ∨
      ∃ t ∈ s.tokens.rows, t.Later u := by
  refine h.token_origin_of .refl later_stamped (fun t next now hhead => ?_) hu
  have hlater := later_replacing hhead (fun _ => rfl) next now
  rwa [RefreshToken.replacing_self] at hlater

/-- A refresh token stays as long as its session does. -/
theorem token_survives
    (h : SessionStep N s s') {t : RefreshToken} (hmem : t ∈ s.tokens.rows)
    (hname : .token t.id ∉ N) {y : Session} (hy : y ∈ s'.sessions.rows)
    (hid : y.id = t.session) :
    ∃ u ∈ s'.tokens.rows, t.Later u := by
  cases h with
  | unchanged _ ht | pushed _ _ _ ht _ =>
      rw [ht]
      exact ⟨t, hmem, .refl t⟩
  | revoked p reason now _ _ ht =>
      rw [ht, rows_tokens_revokeWhere]
      exact ⟨_, List.mem_map.mpr ⟨t, hmem, rfl⟩, later_stamped s p now t⟩
  | opened x new _ _ hnew _ _ ht =>
      rw [ht]
      refine ⟨t, Table.mem_rows_insert.mpr (Or.inr ⟨hmem, fun hkey => ?_⟩), .refl t⟩
      exact hname (by rw [show t.id = new.id from hkey]; exact hnew)
  | rotated x old new device now _ _ hold hhead _ hnew _ _ ht =>
      rw [ht]
      refine ⟨t.replacing old.id new.id now,
        Table.mem_rows_insert.mpr (Or.inr ⟨?_, fun hkey => ?_⟩),
        later_replacing hhead (Table.eq_of_key_eq hmem hold) new.id now⟩
      · rw [rows_replaceToken]
        exact List.mem_map.mpr ⟨t, hmem, rfl⟩
      · rw [key_refreshToken, RefreshToken.replacing_id] at hkey
        exact hname (hkey ▸ hnew)
  | removed user hs ht =>
      rw [hs, rows_sessions_removeBelongings, List.mem_filter] at hy
      rw [ht]
      exact ⟨t, (mem_tokens_removeBelongings hy.1 hid).mpr
        ⟨hmem, by simpa using hy.2⟩, .refl t⟩

end SessionStep

/-! ## Origins over operations and runs -/

namespace Operation

variable {op : Operation} {s : Store}

/-- What every step says of the origin of a session, with a relation that can be
followed over two steps, holds over an operation. -/
theorem session_origin_of
    {R : Session → Session → Prop} (htrans : ∀ {x y z}, R x y → R y z → R x z)
    (hstep : ∀ {N : List Name} {s s' : Store}, SessionStep N s s' →
      ∀ y ∈ s'.sessions.rows, .session y.id ∈ N ∨ ∃ x ∈ s.sessions.rows, R x y)
    (hopen : op.request.OpensProperly) {y : Session}
    (hy : y ∈ (op.apply s).sessions.rows) :
    .session y.id ∈ op.names ∨ ∃ x ∈ s.sessions.rows, R x y := by
  obtain ⟨mid, hfirst, hsecond⟩ := op.apply_sessionSteps s hopen
  rcases hstep hsecond y hy with hnew | ⟨x, hx, hxy⟩
  · exact Or.inl hnew
  rcases hstep hfirst x hx with hnone | ⟨w, hw, hwx⟩
  · exact absurd hnone List.not_mem_nil
  · exact Or.inr ⟨w, hw, htrans hwx hxy⟩

theorem session_origin
    (hopen : op.request.OpensProperly) {y : Session}
    (hy : y ∈ (op.apply s).sessions.rows) :
    .session y.id ∈ op.names ∨ ∃ x ∈ s.sessions.rows, x.Later y :=
  session_origin_of (R := Session.Later) (fun h h' => h.trans h')
    (fun h _ => h.session_origin) hopen hy

/-- The same for refresh tokens. -/
theorem token_origin_of
    {R : RefreshToken → RefreshToken → Prop}
    (htrans : ∀ {t u v}, R t u → R u v → R t v)
    (hstep : ∀ {N : List Name} {s s' : Store}, SessionStep N s s' →
      ∀ u ∈ s'.tokens.rows, (.token u.id ∈ N ∧ .tokenHash u.hash ∈ N) ∨
        ∃ t ∈ s.tokens.rows, R t u)
    (hopen : op.request.OpensProperly) {u : RefreshToken}
    (hu : u ∈ (op.apply s).tokens.rows) :
    (.token u.id ∈ op.names ∧ .tokenHash u.hash ∈ op.names) ∨
      ∃ t ∈ s.tokens.rows, R t u := by
  obtain ⟨mid, hfirst, hsecond⟩ := op.apply_sessionSteps s hopen
  rcases hstep hsecond u hu with hnew | ⟨t, ht, htu⟩
  · exact Or.inl hnew
  rcases hstep hfirst t ht with ⟨hnone, -⟩ | ⟨w, hw, hwt⟩
  · exact absurd hnone List.not_mem_nil
  · exact Or.inr ⟨w, hw, htrans hwt htu⟩

theorem token_origin
    (hopen : op.request.OpensProperly) {u : RefreshToken}
    (hu : u ∈ (op.apply s).tokens.rows) :
    (.token u.id ∈ op.names ∧ .tokenHash u.hash ∈ op.names) ∨
      ∃ t ∈ s.tokens.rows, t.Later u :=
  token_origin_of (R := RefreshToken.Later) (fun h h' => h.trans h')
    (fun h _ => h.token_origin) hopen hu

theorem token_survives
    (hopen : op.request.OpensProperly) {t : RefreshToken}
    (hmem : t ∈ s.tokens.rows) (htoken : .token t.id ∉ op.names)
    (hsession : .session t.session ∉ op.names) {y : Session}
    (hy : y ∈ (op.apply s).sessions.rows) (hid : y.id = t.session) :
    ∃ u ∈ (op.apply s).tokens.rows, t.Later u := by
  obtain ⟨mid, hfirst, hsecond⟩ := op.apply_sessionSteps s hopen
  rcases hsecond.session_origin hy with hnew | ⟨x, hx, hxy⟩
  · exact absurd (hid ▸ hnew) hsession
  have hxid : x.id = t.session := hxy.id.symm.trans hid
  obtain ⟨u, hu, htu⟩ := hfirst.token_survives hmem List.not_mem_nil hx hxid
  have hunew : .token u.id ∉ op.names := by
    rw [htu.id]
    exact htoken
  obtain ⟨v, hv, huv⟩ :=
    hsecond.token_survives hu hunew hy (hid.trans htu.session.symm)
  exact ⟨v, hv, htu.trans huv⟩

end Operation

namespace Store

variable {s : Store} {ops : List Operation}

theorem session_origin_run
    (hopen : ∀ op ∈ ops, op.request.OpensProperly) {y : Session}
    (hy : y ∈ (s.run ops).sessions.rows) :
    .session y.id ∈ drawnNames ops ∨ ∃ x ∈ s.sessions.rows, x.Later y := by
  induction ops using List.reverseRecOn generalizing y with
  | nil => exact Or.inr ⟨y, hy, .refl y⟩
  | append_singleton ops op ih =>
      rw [run_concat] at hy
      simp only [List.mem_append, List.mem_singleton] at hopen
      rw [drawnNames_concat, List.mem_append]
      rcases op.session_origin (hopen op (Or.inr rfl)) hy with
        hnew | ⟨x, hx, hxy⟩
      · exact Or.inl (Or.inr hnew)
      rcases ih (fun o ho => hopen o (Or.inl ho)) hx with hnew | ⟨w, hw, hwx⟩
      · exact Or.inl (Or.inl (hxy.id ▸ hnew))
      · exact Or.inr ⟨w, hw, hwx.trans hxy⟩

theorem token_origin_run
    (hopen : ∀ op ∈ ops, op.request.OpensProperly) {u : RefreshToken}
    (hu : u ∈ (s.run ops).tokens.rows) :
    (.token u.id ∈ drawnNames ops ∧ .tokenHash u.hash ∈ drawnNames ops) ∨
      ∃ t ∈ s.tokens.rows, t.Later u := by
  induction ops using List.reverseRecOn generalizing u with
  | nil => exact Or.inr ⟨u, hu, .refl u⟩
  | append_singleton ops op ih =>
      rw [run_concat] at hu
      simp only [List.mem_append, List.mem_singleton] at hopen
      rw [drawnNames_concat, List.mem_append, List.mem_append]
      rcases op.token_origin (hopen op (Or.inr rfl)) hu with
        ⟨hid, hhash⟩ | ⟨t, ht, htu⟩
      · exact Or.inl ⟨Or.inr hid, Or.inr hhash⟩
      rcases ih (fun o ho => hopen o (Or.inl ho)) ht with
        ⟨hid, hhash⟩ | ⟨w, hw, hwt⟩
      · exact Or.inl ⟨Or.inl (htu.id ▸ hid), Or.inl (htu.hash ▸ hhash)⟩
      · exact Or.inr ⟨w, hw, hwt.trans htu⟩

theorem token_survives_run
    (hopen : ∀ op ∈ ops, op.request.OpensProperly) {t : RefreshToken}
    (hmem : t ∈ s.tokens.rows) (htoken : .token t.id ∉ drawnNames ops)
    (hsession : .session t.session ∉ drawnNames ops) {y : Session}
    (hy : y ∈ (s.run ops).sessions.rows) (hid : y.id = t.session) :
    ∃ u ∈ (s.run ops).tokens.rows, t.Later u := by
  induction ops using List.reverseRecOn generalizing y with
  | nil => exact ⟨t, hmem, .refl t⟩
  | append_singleton ops op ih =>
      rw [run_concat] at hy ⊢
      simp only [List.mem_append, List.mem_singleton] at hopen
      rw [drawnNames_concat, List.mem_append, not_or] at htoken hsession
      have hop := hopen op (Or.inr rfl)
      rcases op.session_origin hop hy with hnew | ⟨x, hx, hxy⟩
      · exact absurd (hid ▸ hnew) hsession.2
      obtain ⟨u, hu, htu⟩ := ih (fun o ho => hopen o (Or.inl ho)) htoken.1
        hsession.1 hx (hxy.id.symm.trans hid)
      obtain ⟨v, hv, huv⟩ := op.token_survives hop hu (htu.id ▸ htoken.2)
        (htu.session ▸ hsession.2) hy (hid.trans htu.session.symm)
      exact ⟨v, hv, htu.trans huv⟩

end Store

end AccountAuthority
