import AccountAuthority.Proofs.RefreshRecords

/-!
# Spent tokens and revoked sessions

A refresh token can be used once, and a session that is revoked stays as it is
until it is removed.  Nothing that is done in a run brings either of them back:
a token comes from one that was no less used up, a new token belongs to a
session that is new or live, and every operation looks at the session before it
writes.
-/

namespace AccountAuthority

open Store

/-! ## Where new tokens belong -/

theorem SessionStep.token_added
    {N : List Name} {s s' : Store} (h : SessionStep N s s') {u : RefreshToken}
    (hu : u ∈ s'.tokens.rows) :
    (∃ t ∈ s.tokens.rows, t.Later u) ∨ .session u.session ∈ N ∨
      ∃ x ∈ s.sessions.rows, x.id = u.session ∧ x.isRevoked = false := by
  cases h with
  | unchanged _ ht | pushed _ _ _ ht _ =>
      rw [ht] at hu
      exact Or.inl ⟨u, hu, .refl u⟩
  | revoked p reason now _ _ ht =>
      rw [ht, rows_tokens_revokeWhere] at hu
      obtain ⟨t, hmem, rfl⟩ := List.mem_map.mp hu
      exact Or.inl ⟨t, hmem, later_stamped s p now t⟩
  | opened x t hmade hname _ _ _ ht =>
      rw [ht] at hu
      rcases Table.mem_rows_insert.mp hu with rfl | ⟨hu, -⟩
      · have hsession : u.session = x.id := by rw [hmade.token]
        exact Or.inr (Or.inl (hsession ▸ hname))
      · exact Or.inl ⟨u, hu, .refl u⟩
  | rotated x old new device now hx hlive hold hhead hmade _ _ _ ht =>
      rw [ht] at hu
      rcases Table.mem_rows_insert.mp hu with rfl | ⟨hu, -⟩
      · have hsession : u.session = x.id := by rw [hmade]
        have hmem := (Table.get?_eq_some_iff.mp hx).1
        exact Or.inr (Or.inr ⟨x, hmem, hsession.symm, hlive⟩)
      · rw [rows_replaceToken] at hu
        obtain ⟨t, hmem, rfl⟩ := List.mem_map.mp hu
        exact Or.inl ⟨t, hmem,
          later_replacing hhead (Table.eq_of_key_eq hmem hold) new.id now⟩
  | removed user _ ht =>
      rw [ht] at hu
      exact Or.inl ⟨u, (List.mem_filter.mp hu).1, .refl u⟩

theorem Operation.token_added
    {op : Operation} {s : Store} (hopen : op.request.OpensProperly)
    {u : RefreshToken} (hu : u ∈ (op.apply s).tokens.rows) :
    (∃ t ∈ s.tokens.rows, t.Later u) ∨ .session u.session ∈ op.names ∨
      ∃ x ∈ s.sessions.rows, x.id = u.session ∧ x.isRevoked = false := by
  obtain ⟨mid, hfirst, hsecond⟩ := op.apply_sessionSteps s hopen
  -- A live session after the first step has come from one before it.
  have hback {id : SessionId}
      (h : ∃ y ∈ mid.sessions.rows, y.id = id ∧ y.isRevoked = false) :
      ∃ x ∈ s.sessions.rows, x.id = id ∧ x.isRevoked = false := by
    obtain ⟨y, hy, hid, hlive⟩ := h
    rcases hfirst.session_origin hy with hnone | ⟨x, hx, hxy⟩
    · exact absurd hnone List.not_mem_nil
    · exact ⟨x, hx, hxy.id.symm.trans hid, hxy.isRevoked_eq_false hlive⟩
  rcases hsecond.token_added hu with ⟨w, hw, hwu⟩ | hname | hlive
  · rcases hfirst.token_added hw with ⟨t, ht, htw⟩ | hnone | hlive
    · exact Or.inl ⟨t, ht, htw.trans hwu⟩
    · exact absurd hnone List.not_mem_nil
    · exact Or.inr (Or.inr (hwu.session ▸ hlive))
  · exact Or.inr (Or.inl hname)
  · exact Or.inr (Or.inr (hback hlive))

/-! ## What becomes of a revoked session -/

namespace Store

section

variable {s : Store} {ops : List Operation}
  (hopen : ∀ op ∈ ops, op.request.OpensProperly) {x : Session}
  (hx : x ∈ s.sessions.rows) (hsession : .session x.id ∉ drawnNames ops)

include hopen hx hsession

/-- Whatever session goes by the identifier of another one after a run has come
from it. -/
theorem later_of_mem_sessions_run
    {y : Session} (hy : y ∈ (s.run ops).sessions.rows) (hid : y.id = x.id) :
    x.Later y := by
  rcases session_origin_run hopen hy with hname | ⟨w, hw, hwy⟩
  · exact absurd (hid ▸ hname) hsession
  · have hwx : w = x := Table.eq_of_key_eq hw hx (hwy.id.symm.trans hid)
    exact hwx ▸ hwy

/-- No token is ever added to a revoked session. -/
theorem token_origin_run_of_isRevoked
    (hrevoked : x.isRevoked = true) {u : RefreshToken}
    (hu : u ∈ (s.run ops).tokens.rows) (hux : u.session = x.id) :
    ∃ t ∈ s.tokens.rows, t.Later u := by
  induction ops using List.reverseRecOn generalizing u with
  | nil => exact ⟨u, hu, .refl u⟩
  | append_singleton ops op ih =>
      rw [run_concat] at hu
      simp only [List.mem_append, List.mem_singleton] at hopen
      rw [drawnNames_concat, List.mem_append, not_or] at hsession
      have hbefore : ∀ o ∈ ops, o.request.OpensProperly :=
        fun o ho => hopen o (Or.inl ho)
      rcases op.token_added (hopen op (Or.inr rfl)) hu with
        ⟨w, hw, hwu⟩ | hname | ⟨y, hy, hid, hlive⟩
      · obtain ⟨t, ht, htw⟩ :=
          ih hbefore hsession.1 hw (hwu.session.symm.trans hux)
        exact ⟨t, ht, htw.trans hwu⟩
      · exact absurd (hux ▸ hname) hsession.2
      · have hlater := later_of_mem_sessions_run hbefore hx hsession.1 hy
          (hid.trans hux)
        rw [hlater.isRevoked hrevoked] at hlive
        cases hlive

end

/-- A revoked session holds no active key. -/
def RevokedKeyless (s : Store) : Prop :=
  ∀ x ∈ s.sessions.rows, x.isRevoked = true → x.activeKey = none

theorem revokedKeyless_empty : Store.empty.RevokedKeyless :=
  fun _ hx => absurd hx List.not_mem_nil

end Store

theorem SessionStep.revokedKeyless
    {N : List Name} {s s' : Store} (h : SessionStep N s s')
    (hs : s.RevokedKeyless) : s'.RevokedKeyless := by
  intro y hy hrevoked
  cases h with
  | unchanged hsessions _ =>
      rw [hsessions] at hy
      exact hs y hy hrevoked
  | pushed f hsame hsessions _ _ =>
      rw [hsessions] at hy
      obtain ⟨x, hx, rfl⟩ := List.mem_map.mp hy
      obtain ⟨token, platform, at?, hf⟩ := hsame x
      rw [hf] at hrevoked ⊢
      exact hs x hx hrevoked
  | revoked p reason now _ hsessions _ =>
      rw [hsessions, rows_sessions_revokeWhere] at hy
      obtain ⟨x, hx, rfl⟩ := List.mem_map.mp hy
      split at hrevoked
      next hp => rw [if_pos hp]; rfl
      next hp => rw [if_neg hp]; exact hs x hx hrevoked
  | opened x t hmade _ _ _ hsessions _ =>
      rw [hsessions] at hy
      rcases Table.mem_rows_insert.mp hy with rfl | ⟨hy, -⟩
      · obtain ⟨methods, device, expiresAt, now, hcreate⟩ := hmade.session
        rw [hcreate] at hrevoked
        cases hrevoked
      · exact hs y hy hrevoked
  | rotated x old new device now _ _ _ _ _ _ _ hsessions _ =>
      rw [hsessions] at hy
      obtain ⟨z, hz, rfl⟩ := List.mem_map.mp hy
      split at hrevoked
      next hzx => rw [if_pos hzx]; exact hs z hz hrevoked
      next hzx => rw [if_neg hzx]; exact hs z hz hrevoked
  | removed user hsessions _ =>
      rw [hsessions] at hy
      exact hs y (List.mem_filter.mp hy).1 hrevoked

theorem Store.RevokedKeyless.run
    {s : Store} {ops : List Operation} (hs : s.RevokedKeyless)
    (hopen : ∀ op ∈ ops, op.request.OpensProperly)
    (hnew : ∀ n ∈ drawnNames ops, ¬s.Uses n)
    (hnodup : (drawnNames ops).Nodup) : (s.run ops).RevokedKeyless :=
  run_induction_on_steps hs hopen hnew hnodup
    fun _ h hs => h.revokedKeyless hs

/-! ## Hashes that are spent -/

/-- The hash of the token that an operation replaces by a new one. -/
def Operation.spentHash? (op : Operation) (s : Store) : Option String :=
  match op.request with
  | .rotate r =>
    match (s.rotate r op.fresh.token).1 with
    | .rotated .. => some r.tokenHash
    | _ => none
  | _ => none

namespace Store

/-- The hashes for which the rotations of a run have been answered with a new
token. -/
def spentHashes (s : Store) : List Operation → List String
  | [] => []
  | op :: ops => (op.spentHash? s).toList ++ (op.apply s).spentHashes ops

/-- No token with this hash can be used. -/
def HashSpent (s : Store) (hash : String) : Prop :=
  ∀ t ∈ s.tokens.rows, t.hash = hash → t.isChainHead = false

variable {s : Store} {hash : String}

theorem spentHashes_concat (s : Store) (ops : List Operation) (op : Operation) :
    s.spentHashes (ops ++ [op]) =
      s.spentHashes ops ++ (op.spentHash? (s.run ops)).toList := by
  induction ops generalizing s with
  | nil => simp [spentHashes]
  | cons o ops ih =>
      simp only [List.cons_append, spentHashes, ih, List.append_assoc]
      rfl

/-- A rotation that is granted is one by the head of the chain of a live
session. -/
theorem rotate_granted
    {r : Rotation} {newId : TokenId} {x : Session} {new : RefreshToken}
    (h : (s.rotate r newId).1 = .rotated x new) :
    ∃ t y, s.tokenByHash? r.tokenHash = some t ∧
      s.sessions.get? t.session = some y ∧ y.isRevoked = false ∧
      (t.isExpired r.now = false ∧ y.isExpired r.now = false) ∧
      t.isChainHead = true := by
  unfold rotate at h
  split at h
  · cases h
  next t ht =>
    split at h
    · cases h
    next y hy =>
      split at h
      · cases h
      next hlive =>
        split at h
        · cases h
        next htime =>
          split at h
          · cases h
          next hhead =>
            refine ⟨t, y, ht, hy, by simpa using hlive, ?_, by simpa using hhead⟩
            simpa using htime

/-- Only a hash that is not spent can be spent. -/
theorem not_hashSpent_of_spentHash?
    {op : Operation} (h : op.spentHash? s = some hash) :
    ¬s.HashSpent hash ∧ s.Uses (.tokenHash hash) := by
  unfold Operation.spentHash? at h
  split at h
  next r _ =>
    split at h
    next x new hgranted =>
      cases h
      obtain ⟨t, -, ht, -, -, -, hhead⟩ := rotate_granted hgranted
      obtain ⟨hmem, hhash⟩ := mem_of_tokenByHash? ht
      refine ⟨fun hspent => ?_, ⟨t, hmem, hhash⟩⟩
      rw [hspent t hmem hhash] at hhead
      cases hhead
    · cases h
  · cases h

/-- The operation that spends a hash leaves no token with it that could be
used. -/
theorem hashSpent_of_spentHash?
    {op : Operation} (hs : s.HashesDistinct)
    (hnew : ∀ n ∈ op.names, ¬s.Uses n) (h : op.spentHash? s = some hash) :
    (op.apply s).HashSpent hash := by
  have huses : s.Uses (.tokenHash hash) := (not_hashSpent_of_spentHash? h).2
  obtain ⟨request, fresh⟩ := op
  cases request with
  | rotate r =>
      simp only [Operation.spentHash?] at h
      split at h
      next x new hgranted =>
        cases h
        obtain ⟨t, y, ht, hy, hlive, htime, hhead⟩ := rotate_granted hgranted
        obtain ⟨hmem, hhash⟩ := mem_of_tokenByHash? ht
        obtain ⟨s', hrotate, -, -, htokens⟩ :=
          rotate_of_head fresh.token ht hy hlive htime hhead
        have happly : Operation.apply ⟨.rotate r, fresh⟩ s = s' :=
          congrArg Prod.snd hrotate
        intro u hu huhash
        rw [happly, htokens] at hu
        rcases Table.mem_rows_insert.mp hu with rfl | ⟨hu, -⟩
        · -- The hash of the new token was not in use.
          have hdrawn : Name.tokenHash r.newTokenHash ∈
              Operation.names ⟨.rotate r, fresh⟩ := by simp [Operation.names]
          have hsame : r.newTokenHash = r.tokenHash := huhash
          exact absurd huses (hsame ▸ hnew _ hdrawn)
        · rw [rows_replaceToken] at hu
          obtain ⟨w, hw, rfl⟩ := List.mem_map.mp hu
          rw [RefreshToken.replacing_hash] at huhash
          obtain rfl : w = t := hs.eq_of_hash_eq hw hmem (huhash.trans hhash.symm)
          rw [RefreshToken.replacing_self]
          rfl
      · cases h
  | _ => cases h

theorem HashSpent.run
    {ops : List Operation} (h : s.HashSpent hash)
    (hopen : ∀ op ∈ ops, op.request.OpensProperly)
    (hdrawn : .tokenHash hash ∉ drawnNames ops) : (s.run ops).HashSpent hash := by
  intro u hu hhash
  rcases token_origin_run hopen hu with ⟨-, hname⟩ | ⟨t, ht, hlater⟩
  · exact absurd (hhash ▸ hname) hdrawn
  · by_contra hhead
    have hspent := h t ht (hlater.hash.symm.trans hhash)
    rw [hlater.isChainHead (by simpa using hhead)] at hspent
    cases hspent

/-- A hash that is spent is not spent again. -/
theorem HashSpent.not_mem_spentHashes
    {ops : List Operation} (h : s.HashSpent hash)
    (hopen : ∀ op ∈ ops, op.request.OpensProperly)
    (hdrawn : .tokenHash hash ∉ drawnNames ops) : hash ∉ s.spentHashes ops := by
  induction ops using List.reverseRecOn with
  | nil => exact List.not_mem_nil
  | append_singleton ops op ih =>
      simp only [List.mem_append, List.mem_singleton] at hopen
      rw [drawnNames_concat, List.mem_append, not_or] at hdrawn
      have hbefore : ∀ o ∈ ops, o.request.OpensProperly :=
        fun o ho => hopen o (Or.inl ho)
      rw [spentHashes_concat, List.mem_append, not_or]
      refine ⟨ih hbefore hdrawn.1, fun hmem => ?_⟩
      have hspends : op.spentHash? (s.run ops) = some hash := by simpa using hmem
      exact (not_hashSpent_of_spentHash? hspends).1 (h.run hbefore hdrawn.1)

theorem not_uses_of_cons
    {op : Operation} {ops : List Operation}
    (hopen : op.request.OpensProperly)
    (hnew : ∀ n ∈ drawnNames (op :: ops), ¬s.Uses n)
    (hnodup : (drawnNames (op :: ops)).Nodup) :
    ∀ n ∈ drawnNames ops, ¬(op.apply s).Uses n := by
  have hnames : drawnNames (op :: ops) = op.names ++ drawnNames ops := rfl
  rw [hnames] at hnew hnodup
  intro n hn huses
  rcases Operation.uses hopen huses with hold | hdrawn
  · exact hnew n (List.mem_append_right _ hn) hold
  · exact (List.nodup_append.mp hnodup).2.2 n hdrawn n hn rfl

/-- No hash is spent twice in a run that draws no name twice. -/
theorem nodup_spentHashes
    {ops : List Operation} (hs : s.HashesDistinct)
    (hopen : ∀ op ∈ ops, op.request.OpensProperly)
    (hnew : ∀ n ∈ drawnNames ops, ¬s.Uses n) (hnodup : (drawnNames ops).Nodup) :
    (s.spentHashes ops).Nodup := by
  induction ops generalizing s with
  | nil => exact List.nodup_nil
  | cons op ops ih =>
      obtain ⟨hfirst, hopen'⟩ := List.forall_mem_cons.mp hopen
      have hsplit : op :: ops = [] ++ op :: ops := rfl
      have hop : ∀ n ∈ op.names, ¬s.Uses n :=
        not_uses_of_split hsplit hopen hnew hnodup
      have hrest := not_uses_of_cons hfirst hnew hnodup
      obtain ⟨hdistinct, hdistinct', -⟩ := List.nodup_append.mp hnodup
      have hnext : (s.run [op]).HashesDistinct :=
        hs.run (by simpa using hfirst) (by simpa [drawnNames] using hop)
          (by simpa [drawnNames] using hdistinct)
      refine List.Nodup.append (by cases op.spentHash? s <;> simp)
        (ih hnext hopen' hrest hdistinct') ?_
      intro hash hmem
      have hspends : op.spentHash? s = some hash := by simpa using hmem
      have huses := (not_hashSpent_of_spentHash? hspends).2
      refine (hashSpent_of_spentHash? hs hop hspends).not_mem_spentHashes hopen' ?_
      -- The hash of a token that is there is not drawn for another one.
      exact fun hdrawn => hnew _ (List.mem_append_right _ hdrawn) huses

/-! ## Revoked sessions for every operation -/

/-- What the operations make of a revoked session and its tokens. -/
structure Ended (s : Store) (x : Session) : Prop where
  keyless : x.activeKey = none
  rotate : ∀ t ∈ s.chainOf x.id, ∀ r newId, r.tokenHash = t.hash →
    s.rotate r newId = (.sessionRevoked x.revokedReason, s)
  setPushToken : ∀ user token platform now,
    s.setPushToken user x.id token platform now = (.sessionNotFound, s)
  revokeByToken : ∀ t ∈ s.chainOf x.id, ∀ reason now,
    s.revokeByToken t.hash reason now = (.alreadyRevoked, s)
  revokeSession : ∀ reason now,
    s.revokeSession x.user x.id reason now = (.alreadyRevoked, s)

theorem revokeFound_of_isRevoked
    {x : Session} (hx : s.sessions.get? x.id = some x)
    (hrevoked : x.isRevoked = true) (reason : RevocationReason)
    (now : Instant) : s.revokeFound x.id reason now = (.alreadyRevoked, s) := by
  rw [revokeFound, revoke_of_isRevoked hx hrevoked]

theorem ended_of_isRevoked
    (hs : s.HashesDistinct) (hkeyless : s.RevokedKeyless) {x : Session}
    (hx : x ∈ s.sessions.rows) (hrevoked : x.isRevoked = true) : s.Ended x := by
  have hget : s.sessions.get? x.id = some x := Table.get?_eq_some_iff.mpr ⟨hx, rfl⟩
  have hfind {t : RefreshToken} (ht : t ∈ s.chainOf x.id) :
      s.tokenByHash? t.hash = some t ∧ t.session = x.id := by
    obtain ⟨hmem, hsession⟩ := mem_chainOf.mp ht
    exact ⟨hs.tokenByHash?_eq_some hmem, hsession⟩
  constructor
  · exact hkeyless x hx hrevoked
  · intro t ht r newId hhash
    obtain ⟨htoken, hsession⟩ := hfind ht
    exact rotate_of_isRevoked newId (hhash ▸ htoken) (hsession ▸ hget) hrevoked
  · intro user token platform now
    simp [setPushToken, hget, hrevoked]
  · intro t ht reason now
    obtain ⟨htoken, hsession⟩ := hfind ht
    simp only [revokeByToken, htoken, hsession]
    exact revokeFound_of_isRevoked hget hrevoked reason now
  · intro reason now
    rw [revokeSession, hget]
    simp [revokeFound_of_isRevoked hget hrevoked reason now]

/-- The revocation of a session spends all its hashes. -/
theorem hashSpent_of_isRevoked
    (hs : s.HashesDistinct) (hchained : s.Chained) {x : Session}
    (hx : x ∈ s.sessions.rows) (hrevoked : x.isRevoked = true)
    {t : RefreshToken} (ht : t ∈ s.chainOf x.id) : s.HashSpent t.hash := by
  intro u hu hhash
  obtain rfl : u = t := hs.eq_of_hash_eq hu (mem_chainOf.mp ht).1 hhash
  obtain ⟨-, hall⟩ := hchained.rotationInvariant.revoked x hx hrevoked
  exact RefreshToken.isChainHead_of_revoked (hall u ht)

/-- A token that is used up costs a live session, whoever presents it. -/
theorem rotate_revokes
    (hs : s.HashesDistinct) {t : RefreshToken} (ht : t ∈ s.tokens.rows)
    {x : Session} (hx : s.sessions.get? t.session = some x)
    (hlive : x.isRevoked = false) {r : Rotation} (hhash : r.tokenHash = t.hash)
    (htime : t.isExpired r.now = false ∧ x.isExpired r.now = false)
    (hhead : t.isChainHead = false) (newId : TokenId) :
    (s.rotate r newId).1 = .revokedOrReused x.id ∧
      (s.rotate r newId).2.sessions.get? x.id =
        some (x.revoke .tokenReuse r.now) := by
  have hfind : s.tokenByHash? r.tokenHash = some t :=
    hhash ▸ hs.tokenByHash?_eq_some ht
  have hid : x.id = t.session := (Table.get?_eq_some_iff.mp hx).2
  have hget : s.sessions.get? x.id = some x := hid ▸ hx
  rw [rotate_of_not_head newId hfind hx hlive htime hhead]
  refine ⟨rfl, ?_⟩
  rw [revoke_of_live hget hlive, get?_session_revokeWhere, hget]
  simp

/-- Over a run from the empty store, which an arbitrary point divides in two,
no token is used twice; a session that is revoked by then stays revoked as it
is, for every operation, without further tokens or rotations; and a token that
is used up costs a live session. -/
theorem revocation_final
    (ops₀ ops₁ : List Operation)
    (hopen : ∀ op ∈ ops₀ ++ ops₁, op.request.OpensProperly)
    (hnodup : (drawnNames (ops₀ ++ ops₁)).Nodup) :
    let s₀ := Store.empty.run ops₀
    let s₁ := s₀.run ops₁
    (∀ hash, (Store.empty.spentHashes (ops₀ ++ ops₁)).count hash ≤ 1) ∧
    (∀ x ∈ s₀.sessions.rows, x.isRevoked = true →
      (∀ y ∈ s₁.sessions.rows, y.id = x.id →
        y.revokedAt = x.revokedAt ∧ y.revokedReason = x.revokedReason ∧
          s₁.Ended y) ∧
      (∀ t ∈ s₀.chainOf x.id, t.hash ∉ s₀.spentHashes ops₁) ∧
      ∀ u ∈ s₁.chainOf x.id, ∃ t ∈ s₀.chainOf x.id, t.Later u) ∧
    ∀ t ∈ s₁.tokens.rows, ∀ x, s₁.sessions.get? t.session = some x →
      x.isRevoked = false → ∀ r : Rotation, r.tokenHash = t.hash →
      t.isExpired r.now = false ∧ x.isExpired r.now = false →
      t.isChainHead = false → ∀ newId,
        (s₁.rotate r newId).1 = .revokedOrReused x.id ∧
          (s₁.rotate r newId).2.sessions.get? x.id =
            some (x.revoke .tokenReuse r.now) := by
  intro s₀ s₁
  have hsplit : drawnNames (ops₀ ++ ops₁) = drawnNames ops₀ ++ drawnNames ops₁ :=
    drawnNames_append ops₀ ops₁
  have hnodup₀ : (drawnNames ops₀).Nodup :=
    (List.nodup_append.mp (hsplit ▸ hnodup)).1
  have hopen₀ : ∀ op ∈ ops₀, op.request.OpensProperly :=
    fun o ho => hopen o (List.mem_append_left _ ho)
  have hopen₁ : ∀ op ∈ ops₁, op.request.OpensProperly :=
    fun o ho => hopen o (List.mem_append_right _ ho)
  have hnames : ∀ n ∈ drawnNames ops₁, ¬s₀.Uses n :=
    not_uses_of_append hopen hnodup
  have hnew (ops : List Operation) : ∀ n ∈ drawnNames ops, ¬Store.empty.Uses n :=
    fun n _ => not_uses_empty n
  have hrun : s₁ = Store.empty.run (ops₀ ++ ops₁) :=
    (run_append Store.empty ops₀ ops₁).symm
  have hdistinct : s₁.HashesDistinct :=
    hrun ▸ hashesDistinct_empty.run hopen (hnew _) hnodup
  have hkeyless : s₁.RevokedKeyless :=
    hrun ▸ revokedKeyless_empty.run hopen (hnew _) hnodup
  refine ⟨?_, ?_, ?_⟩
  · have hspent := nodup_spentHashes hashesDistinct_empty hopen (hnew _) hnodup
    exact fun hash => List.nodup_iff_count_le_one.mp hspent hash
  · intro x hx hrevoked
    have hsession : .session x.id ∉ drawnNames ops₁ :=
      fun hdrawn => hnames _ hdrawn ⟨x, hx, rfl⟩
    refine ⟨?_, ?_, ?_⟩
    · intro y hy hid
      have hlater := later_of_mem_sessions_run hopen₁ hx hsession hy hid
      obtain ⟨hat, hreason, -⟩ := hlater.revoked hrevoked
      exact ⟨hat, hreason,
        ended_of_isRevoked hdistinct hkeyless hy (hlater.isRevoked hrevoked)⟩
    · intro t ht
      have hdistinct₀ : s₀.HashesDistinct :=
        hashesDistinct_empty.run hopen₀ (hnew _) hnodup₀
      have hchained : s₀.Chained := chained_empty.run hopen₀ (hnew _) hnodup₀
      have hspent : s₀.HashSpent t.hash :=
        hashSpent_of_isRevoked hdistinct₀ hchained hx hrevoked ht
      have hdrawn : .tokenHash t.hash ∉ drawnNames ops₁ :=
        fun hdrawn => hnames _ hdrawn ⟨t, (mem_chainOf.mp ht).1, rfl⟩
      exact hspent.not_mem_spentHashes hopen₁ hdrawn
    · intro u hu
      obtain ⟨hmem, hux⟩ := mem_chainOf.mp hu
      obtain ⟨t, ht, hlater⟩ :=
        token_origin_run_of_isRevoked hopen₁ hx hsession hrevoked hmem hux
      exact ⟨t, mem_chainOf.mpr ⟨ht, hlater.session.symm.trans hux⟩, hlater⟩
  · intro t ht x hx hlive r hhash htime hhead newId
    exact rotate_revokes hdistinct ht hx hlive hhash htime hhead newId

/-- What may be tried on the sample session after its revocation. -/
def laterAttempts : List Operation := [
  ⟨.rotate ⟨"second", "fourth", ⟨400⟩, {}, ⟨30, 0⟩⟩, ⟨⟨5⟩, ⟨0⟩, ⟨0⟩⟩⟩,
  ⟨.setPushToken sampleUser.id sampleSession.id "push" none ⟨40, 0⟩, .zero⟩]

/-- The sample session at the end of the sample run. -/
def revokedSample : Session :=
  (sampleSession.touch {} ⟨10, 0⟩).revoke .tokenReuse ⟨20, 0⟩

theorem revocation_final_sampleRun :
    (∀ op ∈ sampleRun ++ laterAttempts, op.request.OpensProperly) ∧
      (drawnNames (sampleRun ++ laterAttempts)).Nodup ∧
      revokedSample ∈ (Store.empty.run sampleRun).sessions.rows ∧
      (Store.empty.run (sampleRun ++ laterAttempts)).Ended revokedSample ∧
      (Store.empty.spentHashes (sampleRun ++ laterAttempts)).count "first" = 1 ∧
      ((Store.empty.run (sampleRun.take 2)).rotate
        ⟨"first", "third", ⟨400⟩, {}, ⟨20, 0⟩⟩ ⟨4⟩).1 =
          .revokedOrReused sampleSession.id := by
  have hopen : ∀ op ∈ sampleRun ++ laterAttempts, op.request.OpensProperly := by
    intro op hop
    rcases List.mem_append.mp hop with hop | hop
    · exact sampleRun_opensProperly op hop
    · simp only [laterAttempts, List.mem_cons, List.not_mem_nil, or_false] at hop
      rcases hop with rfl | rfl <;> trivial
  obtain ⟨hcount, hrevoked, -⟩ :=
    revocation_final sampleRun laterAttempts hopen (by decide)
  obtain ⟨hstays, -, -⟩ := hrevoked revokedSample (by decide) rfl
  obtain ⟨-, -, hended⟩ := hstays revokedSample (by decide) rfl
  -- Before the attack the session is live, and its first token is used up.
  obtain ⟨-, -, hreuse⟩ := revocation_final (sampleRun.take 2) []
    (fun op hop => sampleRun_opensProperly op
      (List.mem_of_mem_take (by simpa using hop))) (by decide)
  have hattack := hreuse
    (sampleToken.replacing sampleToken.id ⟨3⟩ ⟨10, 0⟩) (by decide)
    (sampleSession.touch {} ⟨10, 0⟩) (by decide) rfl
    ⟨"first", "third", ⟨400⟩, {}, ⟨20, 0⟩⟩ rfl ⟨rfl, rfl⟩ rfl ⟨4⟩
  refine ⟨hopen, by decide, by decide, ?_, ?_, hattack.1⟩
  · rw [run_append]
    exact hended
  · exact le_antisymm (hcount "first")
      (List.count_pos_iff.mpr (by decide))

end Store

end AccountAuthority
