import AccountAuthority.Proofs.Tables
import AccountAuthority.Store.Basic

/-!
# Revocations

All sessions of a user are revoked one after the other.  Since no two of them have the
same identifier, each is found as it was at first, and what comes of all of them is one
revocation of the sessions that are meant.
-/

namespace AccountAuthority.Store

variable {s : Store} {p q : Session → Bool} {reason : RevocationReason} {now : Instant}

/-! ## What a revocation leaves -/

/-- What the revocation of the sessions that satisfy `p` makes of a token. -/
def stamped
    (s : Store) (p : Session → Bool) (now : Instant) (t : RefreshToken) :
    RefreshToken :=
  if t.revokedAt = none ∧ s.sessions.rows.any fun x => p x && x.id = t.session then
    { t with revokedAt := some now }
  else t

theorem rows_tokens_revokeWhere
    (s : Store) (p : Session → Bool) (reason : RevocationReason)
    (now : Instant) :
    (s.revokeWhere p reason now).tokens.rows =
      s.tokens.rows.map (s.stamped p now) := rfl

theorem rows_sessions_revokeWhere
    (s : Store) (p : Session → Bool) (reason : RevocationReason)
    (now : Instant) :
    (s.revokeWhere p reason now).sessions.rows =
      s.sessions.rows.map fun x => if p x then x.revoke reason now else x := rfl

theorem get?_session_revokeWhere
    (s : Store) (p : Session → Bool) (reason : RevocationReason)
    (now : Instant) (id : SessionId) :
    (s.revokeWhere p reason now).sessions.get? id =
      (s.sessions.get? id).map fun x => if p x then x.revoke reason now else x :=
  Table.get?_map s.sessions _ (by intro x; split <;> rfl) id

/-- Two revocations that leave the same sessions and tokens are the same. -/
theorem revokeWhere_ext
    {s' : Store} (hrest : { s with sessions := s'.sessions, tokens := s'.tokens } = s')
    (hsessions : (s.revokeWhere p reason now).sessions.rows = s'.sessions.rows)
    (htokens : (s.revokeWhere p reason now).tokens.rows = s'.tokens.rows) :
    s.revokeWhere p reason now = s' := by
  rw [← hrest]
  exact congrArg₂ (fun sessions tokens => { s with sessions, tokens })
    (Table.ext_rows hsessions) (Table.ext_rows htokens)

theorem revokeWhere_congr
    (h : ∀ x ∈ s.sessions.rows, p x = q x)
    (reason : RevocationReason) (now : Instant) :
    s.revokeWhere p reason now = s.revokeWhere q reason now := by
  refine revokeWhere_ext rfl ?_ ?_
  · rw [rows_sessions_revokeWhere, rows_sessions_revokeWhere]
    exact List.map_congr_left fun x hx => by rw [h x hx]
  · rw [rows_tokens_revokeWhere, rows_tokens_revokeWhere]
    refine List.map_congr_left fun t _ => ?_
    have hany : (s.sessions.rows.any fun x => p x && x.id = t.session) =
        s.sessions.rows.any fun x => q x && x.id = t.session := by
      rw [Bool.eq_iff_iff, List.any_eq_true, List.any_eq_true]
      exact exists_congr fun x => and_congr_right fun hx => by rw [h x hx]
    rw [stamped, stamped, hany]

theorem revokeWhere_false (s : Store) (reason : RevocationReason) (now : Instant) :
    s.revokeWhere (fun _ => false) reason now = s := by
  refine revokeWhere_ext rfl ?_ ?_
  · simp [rows_sessions_revokeWhere]
  · rw [rows_tokens_revokeWhere]
    exact List.map_id'' (fun t => by simp [stamped]) _

theorem any_session_revokeWhere
    (hq : ∀ x : Session, q (x.revoke reason now) = q x) (id : SessionId) :
    ((s.revokeWhere p reason now).sessions.rows.any fun x => q x && x.id = id) =
      s.sessions.rows.any fun x => q x && x.id = id := by
  rw [rows_sessions_revokeWhere, List.any_map]
  congr 1
  funext x
  by_cases hp : p x = true
  · simp only [Function.comp_apply, if_pos hp, hq]
    rfl
  · simp only [Function.comp_apply, if_neg hp]

theorem any_session_or (id : SessionId) :
    (s.sessions.rows.any fun x => (p x || q x) && x.id = id) =
      ((s.sessions.rows.any fun x => p x && x.id = id) ||
        s.sessions.rows.any fun x => q x && x.id = id) := by
  rw [Bool.eq_iff_iff]
  simp only [Bool.or_eq_true, List.any_eq_true, Bool.and_eq_true, or_and_right,
    and_or_left, exists_or]

/-- Two revocations, of which the second does not look at what the first one writes, are
one. -/
theorem revokeWhere_revokeWhere (hq : ∀ x : Session, q (x.revoke reason now) = q x) :
    (s.revokeWhere p reason now).revokeWhere q reason now =
      s.revokeWhere (fun x => p x || q x) reason now := by
  refine revokeWhere_ext rfl ?_ ?_
  · simp only [rows_sessions_revokeWhere, List.map_map]
    refine List.map_congr_left fun x _ => ?_
    cases hp : p x with
    | true =>
        simp only [Function.comp_apply, hq, hp, Bool.true_or, if_true]
        split <;> rfl
    | false => simp [hp]
  · simp only [rows_tokens_revokeWhere, List.map_map]
    refine List.map_congr_left fun t _ => ?_
    rw [Function.comp_apply]
    by_cases hlive : t.revokedAt = none
    · cases hp : s.sessions.rows.any fun x => p x && x.id = t.session with
      | true =>
          have hfirst : s.stamped p now t = { t with revokedAt := some now } :=
            if_pos ⟨hlive, hp⟩
          have hboth : s.stamped (fun x => p x || q x) now t =
              { t with revokedAt := some now } :=
            if_pos ⟨hlive, by rw [any_session_or, hp, Bool.true_or]⟩
          rw [hfirst, hboth]
          exact if_neg fun h => Option.some_ne_none now h.1
      | false =>
          have hfirst : s.stamped p now t = t := if_neg (by simp [hp])
          rw [hfirst, stamped, stamped, any_session_revokeWhere hq, any_session_or, hp,
            Bool.false_or]
    · have hfixed (s : Store) (p : Session → Bool) : s.stamped p now t = t :=
        if_neg fun h => hlive h.1
      rw [hfixed, hfixed, hfixed]

/-! ## One session after the other -/

theorem revoke_of_isRevoked
    {x : Session} (hx : s.sessions.get? x.id = some x)
    (hrevoked : x.isRevoked = true) (reason : RevocationReason)
    (now : Instant) : s.revoke x.id reason now = (false, s) := by
  simp [revoke, hx, hrevoked]

theorem revoke_of_live
    {x : Session} (hx : s.sessions.get? x.id = some x)
    (hlive : x.isRevoked = false) (reason : RevocationReason) (now : Instant) :
    s.revoke x.id reason now =
      (true, s.revokeWhere (fun y => y.id = x.id) reason now) := by
  simp [revoke, hx, hlive]

/-- By induction on the sessions: those that are left are still as they were, since none of
them is the one that is revoked first. -/
theorem revokeEach_eq
    {xs : List Session} (hnodup : (xs.map Session.id).Nodup)
    (hxs : ∀ x ∈ xs, x ∈ s.sessions.rows ∧ x.isRevoked = false) :
    s.revokeEach reason now (xs.map Session.id) =
      (xs.length,
        s.revokeWhere (fun y => (xs.map Session.id).contains y.id) reason now) := by
  induction xs generalizing s with
  | nil =>
      have hnone := revokeWhere_false s reason now
      exact congrArg (Prod.mk 0) hnone.symm
  | cons x xs ih =>
      obtain ⟨hfirst, hrest⟩ := List.nodup_cons.mp hnodup
      obtain ⟨hx, hlive⟩ := hxs x List.mem_cons_self
      have hleft : ∀ y ∈ xs, y ∈ (s.revokeWhere (fun y => y.id = x.id) reason
          now).sessions.rows ∧ y.isRevoked = false := by
        intro y hy
        obtain ⟨hmem, hyrevoked⟩ := hxs y (List.mem_cons_of_mem x hy)
        have hyx : y.id ≠ x.id := fun hid => hfirst (hid ▸ List.mem_map_of_mem hy)
        rw [rows_sessions_revokeWhere]
        exact ⟨List.mem_map.mpr ⟨y, hmem, by simp [hyx]⟩, hyrevoked⟩
      rw [List.map_cons, revokeEach, revoke_of_live (Table.get?_key hx) hlive]
      dsimp only
      rw [ih hrest hleft, revokeWhere_revokeWhere fun _ => rfl]
      simp only [List.length_cons, List.contains_cons, if_true]
      rfl

theorem mem_unrevoked
    {user : UserId} {except : Option SessionId} {x : Session} :
    x ∈ s.unrevoked user except ↔ x ∈ s.sessions.rows ∧
      (x.user = user && !x.isRevoked && some x.id ≠ except) = true :=
  List.mem_filter

/-- The sessions of a user are revoked at once, as it were. -/
theorem revokeAll_eq
    (s : Store) (user : UserId) (except : Option SessionId) (reason : RevocationReason)
    (now : Instant) :
    s.revokeAll user except reason now =
      ((s.unrevoked user except).length,
        s.revokeWhere (fun x => x.user = user && !x.isRevoked && some x.id ≠ except)
          reason now) := by
  have hdistinct : ((s.unrevoked user except).map Session.id).Nodup :=
    s.sessions.distinct.sublist (List.filter_sublist.map _)
  have hunrevoked : ∀ x ∈ s.unrevoked user except,
      x ∈ s.sessions.rows ∧ x.isRevoked = false := by
    intro x hx
    obtain ⟨hmem, hp⟩ := mem_unrevoked.mp hx
    simp only [Bool.and_eq_true, Bool.not_eq_true'] at hp
    exact ⟨hmem, hp.1.2⟩
  rw [revokeAll, revokeEach_eq hdistinct hunrevoked]
  congr 1
  refine revokeWhere_congr (fun x hx => ?_) reason now
  rw [Bool.eq_iff_iff, List.contains_iff_mem, List.mem_map]
  constructor
  · rintro ⟨y, hy, hid⟩
    obtain ⟨hmem, hp⟩ := mem_unrevoked.mp hy
    rwa [← Table.eq_of_key_eq hmem hx hid]
  · intro hp
    exact ⟨x, mem_unrevoked.mpr ⟨hx, hp⟩, rfl⟩

/-! ## What all revocations have in common -/

section Frame

variable (s : Store) (user : UserId) (except : Option SessionId)
  (reason : RevocationReason) (now : Instant)

@[simp] theorem users_revokeAll :
    (s.revokeAll user except reason now).2.users = s.users := by
  rw [revokeAll_eq]
  rfl

@[simp] theorem passwords_revokeAll :
    (s.revokeAll user except reason now).2.passwords = s.passwords := by
  rw [revokeAll_eq]
  rfl

@[simp] theorem verificationTokens_revokeAll :
    (s.revokeAll user except reason now).2.verificationTokens =
      s.verificationTokens := by
  rw [revokeAll_eq]
  rfl

@[simp] theorem audit_revokeAll :
    (s.revokeAll user except reason now).2.audit = s.audit := by
  rw [revokeAll_eq]
  rfl

end Frame

section Congr

variable {mid : Store} {user : UserId} {except : Option SessionId}

/-! What is revoked depends on the sessions alone, whatever else has been changed. -/

theorem fst_revokeAll_congr (hsessions : mid.sessions = s.sessions) :
    (mid.revokeAll user except reason now).1 =
      (s.revokeAll user except reason now).1 := by
  rw [revokeAll_eq, revokeAll_eq, unrevoked, unrevoked, hsessions]

theorem sessions_revokeAll_congr (hsessions : mid.sessions = s.sessions) :
    (mid.revokeAll user except reason now).2.sessions =
      (s.revokeAll user except reason now).2.sessions := by
  rw [revokeAll_eq, revokeAll_eq]
  apply Table.ext_rows
  rw [rows_sessions_revokeWhere, rows_sessions_revokeWhere, hsessions]

theorem tokens_revokeAll_congr
    (hsessions : mid.sessions = s.sessions) (htokens : mid.tokens = s.tokens) :
    (mid.revokeAll user except reason now).2.tokens =
      (s.revokeAll user except reason now).2.tokens := by
  rw [revokeAll_eq, revokeAll_eq]
  apply Table.ext_rows
  have hstamped (p : Session → Bool) : mid.stamped p now = s.stamped p now := by
    funext t
    rw [stamped, stamped, hsessions]
  rw [rows_tokens_revokeWhere, rows_tokens_revokeWhere, htokens, hstamped]

end Congr

end AccountAuthority.Store
