import AccountAuthority.Proofs.DrawnNames
import Mathlib.Data.List.Chain
import Mathlib.Logic.Relation

/-!
# Rotation chains

The refresh tokens of a session form one chain: every token but the last is
used up and names the next one as its replacement, and the last one is live as
long as the session is.  This is kept by each of the steps that operations are
made of, so it holds in every store that is reached from the empty one.  Since
the table of tokens lists them in the order in which they were made, the chain
of a session is read off it as it stands.
-/

namespace AccountAuthority

open Store

/-- A token that is used up, and the token that has replaced it. -/
structure RefreshToken.ReplacedBy (t u : RefreshToken) : Prop where
  revoked : t.revokedAt.isSome = true
  next : t.replacedBy = some u.id

/-- The refresh tokens of a session, in the order in which they were made. -/
def Store.chainOf (s : Store) (id : SessionId) : List RefreshToken :=
  s.tokens.rows.filter fun t => t.session = id

/-- The tokens of a session are a chain of spent ones and a last one, which is
revoked with the session. -/
structure RotationChain
    (x : Session) (spent : List RefreshToken) (last : RefreshToken) : Prop where
  linked : List.IsChain RefreshToken.ReplacedBy (spent ++ [last])
  unreplaced : last.replacedBy = none
  revoked : last.revokedAt.isSome = x.isRevoked

/-- Every token belongs to a session, and the tokens of every session form a
chain. -/
structure Store.Chained (s : Store) : Prop where
  owned : ∀ t ∈ s.tokens.rows, ∃ x ∈ s.sessions.rows, x.id = t.session
  chain : ∀ x ∈ s.sessions.rows, ∃ spent last,
    s.chainOf x.id = spent ++ [last] ∧ RotationChain x spent last

theorem Store.mem_chainOf {s : Store} {id : SessionId} {t : RefreshToken} :
    t ∈ s.chainOf id ↔ t ∈ s.tokens.rows ∧ t.session = id := by
  simp [chainOf]

theorem Store.nodup_rows_tokens (s : Store) : s.tokens.rows.Nodup :=
  List.Nodup.of_map _ s.tokens.distinct

theorem Store.nodup_chainOf (s : Store) (id : SessionId) :
    (s.chainOf id).Nodup :=
  s.nodup_rows_tokens.filter _

theorem Store.chained_empty : Store.empty.Chained :=
  ⟨fun _ ht => absurd ht List.not_mem_nil,
    fun _ hx => absurd hx List.not_mem_nil⟩

theorem RefreshToken.isChainHead_of_revoked
    {t : RefreshToken} (h : t.revokedAt.isSome = true) :
    t.isChainHead = false := by
  obtain ⟨now, hnow⟩ := Option.isSome_iff_exists.mp h
  simp [isChainHead, hnow]

theorem RefreshToken.map_replacing_of_ne
    {ts : List RefreshToken} {old : TokenId} (h : ∀ t ∈ ts, t.id ≠ old)
    (next : TokenId) (now : Instant) :
    ts.map (RefreshToken.replacing old next now) = ts := by
  conv_rhs => rw [← List.map_id ts]
  refine List.map_congr_left fun t ht => ?_
  exact RefreshToken.replacing_of_ne next now (h t ht)

/-! ## Changes of a chain -/

namespace RotationChain

variable {x y : Session} {spent : List RefreshToken} {last : RefreshToken}

/-- Every spent token is revoked. -/
theorem revoked_of_mem_spent
    (h : RotationChain x spent last) {t : RefreshToken} (ht : t ∈ spent) :
    t.revokedAt.isSome = true := by
  obtain ⟨i, hi, rfl⟩ := List.mem_iff_getElem.mp ht
  have hlink := h.linked.getElem i (by simpa using hi)
  rw [List.getElem_append_left hi] at hlink
  exact hlink.revoked

/-- The only token of a chain that may be its head is the last one. -/
theorem eq_last_of_isChainHead
    (h : RotationChain x spent last) {t : RefreshToken}
    (ht : t ∈ spent ++ [last]) (hhead : t.isChainHead = true) : t = last := by
  rcases List.mem_append.mp ht with hspent | hlast
  · have hspent := RefreshToken.isChainHead_of_revoked
      (h.revoked_of_mem_spent hspent)
    exact absurd (hspent.symm.trans hhead) Bool.false_ne_true
  · exact List.mem_singleton.mp hlast

/-- A chain of a session that changes without being revoked. -/
theorem of_isRevoked_eq
    (h : RotationChain x spent last) (hxy : y.isRevoked = x.isRevoked) :
    RotationChain y spent last :=
  ⟨h.linked, h.unreplaced, h.revoked.trans hxy.symm⟩

/-- Further revocations leave the chain linked. -/
theorem map
    (h : RotationChain x spent last) {f : RefreshToken → RefreshToken}
    (hid : ∀ t, (f t).id = t.id)
    (hnext : ∀ t, (f t).replacedBy = t.replacedBy)
    (hrevoked : ∀ t, t.revokedAt.isSome = true → (f t).revokedAt.isSome = true)
    (hlast : (f last).revokedAt.isSome = y.isRevoked) :
    RotationChain y (spent.map f) (f last) where
  linked := by
    rw [← List.map_singleton, ← List.map_append]
    refine List.isChain_map_of_isChain f (fun t u htu => ?_) h.linked
    exact ⟨hrevoked t htu.revoked, by rw [hnext, hid, htu.next]⟩
  unreplaced := by rw [hnext, h.unreplaced]
  revoked := hlast

/-- A new last token, by which the old one is replaced. -/
theorem extend
    (h : RotationChain x spent last) {new : RefreshToken} (now : Instant)
    (hnew : new.replacedBy = none)
    (hrevoked : new.revokedAt.isSome = y.isRevoked) :
    RotationChain y
      (spent ++
        [{ last with revokedAt := some now, replacedBy := some new.id }]) new where
  linked := by
    obtain ⟨hspent, -, hlink⟩ := List.isChain_append.mp h.linked
    refine List.isChain_append.mpr ⟨List.isChain_append.mpr
      ⟨hspent, List.isChain_singleton _, ?_⟩, List.isChain_singleton _, ?_⟩
    · intro t ht u hu
      obtain rfl : _ = u := by simpa using hu
      have htlast := hlink t ht last (by simp)
      exact ⟨htlast.revoked, htlast.next⟩
    · intro t ht u hu
      obtain rfl : _ = t := by simpa using ht
      obtain rfl : _ = u := by simpa using hu
      exact ⟨rfl, rfl⟩
  unreplaced := hnew
  revoked := hrevoked

/-- A rotation by the head of the chain. -/
theorem rotate
    (h : RotationChain x spent last) {old new : RefreshToken}
    (hold : old ∈ spent ++ [last]) (hhead : old.isChainHead = true)
    (hids : ∀ t ∈ spent, t.id = old.id → t = old) (now : Instant)
    (hnew : new.replacedBy = none)
    (hrevoked : new.revokedAt.isSome = y.isRevoked) :
    RotationChain y
      ((spent ++ [last]).map (RefreshToken.replacing old.id new.id now)) new := by
  -- The head can only be the last token, since all others are revoked.
  obtain rfl := h.eq_last_of_isChainHead hold hhead
  have hother (t : RefreshToken) (ht : t ∈ spent) : t.id ≠ old.id := by
    intro hid
    have hspent := RefreshToken.isChainHead_of_revoked (h.revoked_of_mem_spent ht)
    rw [hids t ht hid, hhead] at hspent
    cases hspent
  rw [List.map_append, RefreshToken.map_replacing_of_ne hother,
    List.map_singleton, RefreshToken.replacing_self]
  exact h.extend now hnew hrevoked

end RotationChain

/-! ## Every step keeps the chains -/

namespace Store.Chained

variable {s s' : Store}

theorem of_unchanged
    (hs : s.Chained) (hsessions : s'.sessions = s.sessions)
    (htokens : s'.tokens = s.tokens) : s'.Chained := by
  have hchain (id : SessionId) : s'.chainOf id = s.chainOf id := by
    rw [chainOf, htokens, chainOf]
  constructor
  · rw [hsessions, htokens]
    exact hs.owned
  · intro x hx
    rw [hsessions] at hx
    rw [hchain]
    exact hs.chain x hx

theorem of_pushed
    (hs : s.Chained) (f : Session → Session)
    (hsame : ∀ x : Session, x.SameButPush (f x))
    (hsessions : s'.sessions.rows = s.sessions.rows.map f)
    (htokens : s'.tokens = s.tokens) : s'.Chained := by
  have hkeeps (x : Session) :
      (f x).id = x.id ∧ (f x).isRevoked = x.isRevoked := by
    obtain ⟨token, platform, at?, hf⟩ := hsame x
    rw [hf]
    exact ⟨rfl, rfl⟩
  constructor
  · intro t ht
    rw [htokens] at ht
    obtain ⟨x, hx, hid⟩ := hs.owned t ht
    rw [hsessions]
    exact ⟨f x, List.mem_map.mpr ⟨x, hx, rfl⟩, (hkeeps x).1.trans hid⟩
  · intro y hy
    rw [hsessions] at hy
    obtain ⟨x, hx, rfl⟩ := List.mem_map.mp hy
    obtain ⟨spent, last, hchain, hlinked⟩ := hs.chain x hx
    refine ⟨spent, last, ?_, hlinked.of_isRevoked_eq (hkeeps x).2⟩
    rw [(hkeeps x).1, ← hchain, chainOf, htokens, chainOf]

/-- A change of the tokens one by one is seen in every chain. -/
theorem chainOf_map
    {f : RefreshToken → RefreshToken} (hf : ∀ t, (f t).session = t.session)
    (tokens : List RefreshToken) (id : SessionId) :
    (tokens.map f).filter (fun t => t.session = id) =
      (tokens.filter fun t => t.session = id).map f := by
  rw [List.filter_map]
  congr 2
  funext t
  simp [hf]

theorem of_revoked
    (hs : s.Chained) (p : Session → Bool) (reason : RevocationReason)
    (now : Instant)
    (hsessions : s'.sessions = (s.revokeWhere p reason now).sessions)
    (htokens : s'.tokens = (s.revokeWhere p reason now).tokens) :
    s'.Chained := by
  have hkeeps (x : Session) :
      (if p x then x.revoke reason now else x).id = x.id := by
    split <;> rfl
  constructor
  · intro t ht
    rw [htokens, rows_tokens_revokeWhere] at ht
    obtain ⟨u, hu, rfl⟩ := List.mem_map.mp ht
    obtain ⟨x, hx, hid⟩ := hs.owned u hu
    rw [hsessions, rows_sessions_revokeWhere, stamped_session]
    exact ⟨_, List.mem_map.mpr ⟨x, hx, rfl⟩, (hkeeps x).trans hid⟩
  · intro y hy
    rw [hsessions, rows_sessions_revokeWhere] at hy
    obtain ⟨x, hx, rfl⟩ := List.mem_map.mp hy
    obtain ⟨spent, last, hchain, hlinked⟩ := hs.chain x hx
    have hlast : last.session = x.id :=
      (mem_chainOf.mp (hchain ▸ by simp : last ∈ s.chainOf x.id)).2
    refine ⟨spent.map (s.stamped p now), s.stamped p now last, ?_,
      hlinked.map (by simp) (by simp) (fun t ht => ?_) ?_⟩
    · rw [hkeeps, chainOf, htokens, rows_tokens_revokeWhere,
        chainOf_map (stamped_session s p now), ← chainOf, hchain]
      simp
    · unfold stamped
      split
      · rfl
      · exact ht
    · -- The last token is stamped exactly when the session is revoked.
      rw [stamped_revokedAt_isSome s p now last hx hlast.symm, hlinked.revoked]
      cases hp : p x with
      | true => simp [Session.isRevoked, Session.revoke]
      | false => simp

theorem of_opened
    (hs : s.Chained) {x : Session} {t : RefreshToken}
    (hmade : MadeTogether x t) (hx : ¬s.Uses (.session x.id))
    (ht : ¬s.Uses (.token t.id))
    (hsessions : s'.sessions = s.sessions.insert x)
    (htokens : s'.tokens = s.tokens.insert t) : s'.Chained := by
  have hrows : s'.tokens.rows = s.tokens.rows ++ [t] := by
    rw [htokens]
    refine Table.rows_insert_of_get?_eq_none (Table.get?_eq_none_iff.mpr ?_)
    exact fun u hu hid => ht ⟨u, hu, hid⟩
  have hsession : t.session = x.id := by rw [hmade.token]
  have hold (id : SessionId) (hid : id ≠ x.id) :
      s'.chainOf id = s.chainOf id := by
    simp [chainOf, hrows, hsession, hid.symm]
  constructor
  · intro u hu
    rw [hrows, List.mem_append, List.mem_singleton] at hu
    rw [hsessions]
    rcases hu with hu | rfl
    · obtain ⟨y, hy, hid⟩ := hs.owned u hu
      refine ⟨y, Table.mem_rows_insert.mpr (Or.inr ⟨hy, ?_⟩), hid⟩
      exact fun hkey => hx ⟨y, hy, hkey⟩
    · exact ⟨x, Table.mem_rows_insert.mpr (Or.inl rfl), hsession.symm⟩
  · intro y hy
    rw [hsessions] at hy
    rcases Table.mem_rows_insert.mp hy with rfl | ⟨hy, hid⟩
    · have hnone : s.chainOf y.id = [] := by
        rw [List.eq_nil_iff_forall_not_mem]
        intro u hu
        obtain ⟨hu, huy⟩ := mem_chainOf.mp hu
        obtain ⟨z, hz, hzu⟩ := hs.owned u hu
        exact hx ⟨z, hz, hzu.trans huy⟩
      refine ⟨[], t, ?_, List.isChain_singleton t, ?_, ?_⟩
      · rw [chainOf, hrows, List.filter_append, ← chainOf, hnone]
        simp [hsession]
      · rw [hmade.token]
      · obtain ⟨methods, device, expiresAt, now, hcreate⟩ := hmade.session
        rw [hmade.token, hcreate]
        rfl
    · rw [hold y.id hid]
      exact hs.chain y hy

/-- The chains after a rotation: the new token comes last in the chain of its
session. -/
theorem chainOf_rotated
    {x : Session} {old new : RefreshToken} {now : Instant}
    (hsession : new.session = x.id) (hnew : ¬s.Uses (.token new.id))
    (htokens : s'.tokens =
      (s.replaceToken old.id new.id now).tokens.insert new) (id : SessionId) :
    s'.chainOf id =
      (s.chainOf id).map (RefreshToken.replacing old.id new.id now) ++
        if x.id = id then [new] else [] := by
  have hrows : s'.tokens.rows =
      s.tokens.rows.map (RefreshToken.replacing old.id new.id now) ++ [new] := by
    rw [htokens]
    refine Table.rows_insert_of_get?_eq_none (Table.get?_eq_none_iff.mpr ?_)
    intro u hu hid
    obtain ⟨t, ht, rfl⟩ := List.mem_map.mp (rows_replaceToken s .. ▸ hu)
    exact hnew ⟨t, ht, (RefreshToken.replacing_id ..).symm.trans hid⟩
  rw [chainOf, hrows, List.filter_append,
    chainOf_map (RefreshToken.replacing_session old.id new.id now), ← chainOf]
  simp [List.filter_cons, hsession]

theorem of_rotated
    (hs : s.Chained) {x : Session} {old new : RefreshToken} (device : Device)
    (now : Instant) (hx : s.sessions.get? old.session = some x)
    (hlive : x.isRevoked = false) (hmem : old ∈ s.tokens.rows)
    (hhead : old.isChainHead = true)
    (hmade : new =
      { id := new.id, session := x.id, hash := new.hash
        expiresAt := new.expiresAt, createdAt := new.createdAt })
    (hnew : ¬s.Uses (.token new.id))
    (hsessions : s'.sessions.rows = s.sessions.rows.map fun y =>
      if y.id = x.id then y.touch device now else y)
    (htokens : s'.tokens =
      (s.replaceToken old.id new.id now).tokens.insert new) :
    s'.Chained := by
  obtain ⟨hxmem, hxid⟩ := Table.get?_eq_some_iff.mp hx
  have hsession : new.session = x.id := by rw [hmade]
  have hkeeps (y : Session) :
      (if y.id = x.id then y.touch device now else y).id = y.id ∧
        (if y.id = x.id then y.touch device now else y).isRevoked =
          y.isRevoked := by
    split <;> exact ⟨rfl, rfl⟩
  constructor
  · have howner (id : SessionId) (h : ∃ y ∈ s.sessions.rows, y.id = id) :
        ∃ y ∈ s'.sessions.rows, y.id = id := by
      obtain ⟨y, hy, hid⟩ := h
      rw [hsessions]
      exact ⟨_, List.mem_map.mpr ⟨y, hy, rfl⟩, (hkeeps y).1.trans hid⟩
    intro u hu
    rw [htokens] at hu
    rcases Table.mem_rows_insert.mp hu with rfl | ⟨hu, -⟩
    · exact howner _ ⟨x, hxmem, hsession.symm⟩
    · rw [rows_replaceToken] at hu
      obtain ⟨t, ht, rfl⟩ := List.mem_map.mp hu
      rw [RefreshToken.replacing_session]
      exact howner _ (hs.owned t ht)
  · intro z hz
    rw [hsessions] at hz
    obtain ⟨y, hy, rfl⟩ := List.mem_map.mp hz
    obtain ⟨spent, last, hchain, hlinked⟩ := hs.chain y hy
    have hts (t : RefreshToken) (ht : t ∈ spent ++ [last]) :
        t.session = y.id ∧ (t.id = old.id → t = old) := by
      obtain ⟨htmem, htsession⟩ := mem_chainOf.mp (hchain ▸ ht)
      exact ⟨htsession, Table.eq_of_key_eq htmem hmem⟩
    rw [(hkeeps y).1, chainOf_rotated hsession hnew htokens, hchain]
    by_cases hyx : y.id = x.id
    · have hold : old ∈ spent ++ [last] :=
        hchain ▸ mem_chainOf.mpr ⟨hmem, hxid.symm.trans hyx.symm⟩
      rw [if_pos hyx.symm]
      refine ⟨_, new, rfl, hlinked.rotate hold hhead
        (fun t ht => (hts t (by simp [ht])).2) now (by rw [hmade]) ?_⟩
      obtain rfl : y = x := Table.eq_of_key_eq hy hxmem hyx
      rw [(hkeeps y).2, hlive, hmade]
      rfl
    · -- The token that is replaced is one of another chain.
      have hother (t : RefreshToken) (ht : t ∈ spent ++ [last]) :
          t.id ≠ old.id := by
        intro hid
        obtain ⟨htsession, heq⟩ := hts t ht
        exact hyx (htsession.symm.trans (heq hid ▸ hxid.symm))
      rw [RefreshToken.map_replacing_of_ne hother, if_neg fun h => hyx h.symm,
        List.append_nil]
      exact ⟨spent, last, rfl, hlinked.of_isRevoked_eq (hkeeps y).2⟩

theorem of_removed
    (hs : s.Chained) (user : UserId)
    (hsessions : s'.sessions = (s.removeBelongings user).sessions)
    (htokens : s'.tokens = (s.removeBelongings user).tokens) :
    s'.Chained := by
  constructor
  · intro t ht
    rw [htokens] at ht
    have hmem := (tokens_removeBelongings_sublist s user).subset ht
    obtain ⟨x, hx, hid⟩ := hs.owned t hmem
    have huser := ((mem_tokens_removeBelongings hx hid).mp ht).2
    rw [hsessions, rows_sessions_removeBelongings]
    exact ⟨x, List.mem_filter.mpr ⟨hx, by simpa using huser⟩, hid⟩
  · intro x hx
    rw [hsessions, rows_sessions_removeBelongings, List.mem_filter] at hx
    obtain ⟨hx, huser⟩ := hx
    have hchain : s'.chainOf x.id = s.chainOf x.id := by
      rw [chainOf, htokens]
      simp only [removeBelongings, Table.rows_filter, List.filter_filter]
      refine List.filter_congr fun t ht => ?_
      by_cases hid : t.session = x.id
      · have hkept := (mem_tokens_removeBelongings hx hid.symm).mpr
          ⟨ht, by simpa using huser⟩
        simpa [hid] using (List.mem_filter.mp hkept).2
      · simp [hid]
    rw [hchain]
    exact hs.chain x hx

end Store.Chained

theorem SessionStep.chained
    {N : List Name} {s s' : Store} (hN : ∀ n ∈ N, ¬s.Uses n)
    (h : SessionStep N s s') (hs : s.Chained) : s'.Chained := by
  cases h with
  | unchanged hsessions htokens => exact hs.of_unchanged hsessions htokens
  | pushed f hsame hsessions htokens _ =>
      exact hs.of_pushed f hsame hsessions htokens
  | revoked p reason now _ hsessions htokens =>
      exact hs.of_revoked p reason now hsessions htokens
  | opened x t hmade hx ht _ hsessions htokens =>
      exact hs.of_opened hmade (hN _ hx) (hN _ ht) hsessions htokens
  | rotated x old new device now hx hlive hold hhead hmade hnew _ hsessions
      htokens =>
      exact hs.of_rotated device now hx hlive hold hhead hmade (hN _ hnew)
        hsessions htokens
  | removed user hsessions htokens => exact hs.of_removed user hsessions htokens

/-- The chains are kept by every run that draws no name twice. -/
theorem Store.Chained.run
    {s : Store} {ops : List Operation} (hs : s.Chained)
    (hopen : ∀ op ∈ ops, op.request.OpensProperly)
    (hnew : ∀ n ∈ drawnNames ops, ¬s.Uses n)
    (hnodup : (drawnNames ops).Nodup) :
    (s.run ops).Chained :=
  run_induction_on_steps hs hopen hnew hnodup fun hN h hs => h.chained hN hs

/-! ## What the chains say -/

namespace Store

variable {s : Store}

/-- One token of a store is replaced by another. -/
def Replaced (s : Store) (t u : RefreshToken) : Prop :=
  t ∈ s.tokens.rows ∧ u ∈ s.tokens.rows ∧ t.replacedBy = some u.id

/-- The invariant of rotation, for sessions and for tokens. -/
structure RotationInvariant (s : Store) : Prop where
  /-- Every token belongs to a session. -/
  owned : ∀ t ∈ s.tokens.rows, ∃ x ∈ s.sessions.rows, x.id = t.session
  /-- The tokens of a session are one chain, and its last token is not
  replaced. -/
  linear : ∀ x ∈ s.sessions.rows, ∃ spent last,
    s.chainOf x.id = spent ++ [last] ∧ (spent ++ [last]).Nodup ∧
      List.IsChain RefreshToken.ReplacedBy (spent ++ [last]) ∧
      last.replacedBy = none
  /-- The last token of a live session is the only head of its chain. -/
  live : ∀ x ∈ s.sessions.rows, x.isRevoked = false →
    ∃ last, (s.chainOf x.id).getLast? = some last ∧
      (s.chainOf x.id).filter RefreshToken.isChainHead = [last]
  /-- All tokens of a revoked session are revoked, so none is a head. -/
  revoked : ∀ x ∈ s.sessions.rows, x.isRevoked = true →
    (s.chainOf x.id).filter RefreshToken.isChainHead = [] ∧
      ∀ t ∈ s.chainOf x.id, t.revokedAt.isSome = true
  /-- A replaced token is revoked. -/
  replaced_revoked : ∀ t ∈ s.tokens.rows, t.replacedBy.isSome = true →
    t.revokedAt.isSome = true
  /-- The replacement of a token exists, and in the same session. -/
  same_session : ∀ t ∈ s.tokens.rows, ∀ id, t.replacedBy = some id →
    ∃ u ∈ s.tokens.rows, u.id = id ∧ u.session = t.session
  /-- No token is the replacement of two. -/
  no_branch : ∀ t u v, s.Replaced t v → s.Replaced u v → t = u
  /-- No token replaces itself, by whatever detour. -/
  no_cycle : ∀ t, ¬Relation.TransGen s.Replaced t t

namespace Chained

/-- A token stands somewhere in the chain of its session. -/
theorem exists_getElem
    (hs : s.Chained) {t : RefreshToken} (ht : t ∈ s.tokens.rows) :
    ∃ x ∈ s.sessions.rows, x.id = t.session ∧
      ∃ i, ∃ hi : i < (s.chainOf x.id).length, (s.chainOf x.id)[i] = t := by
  obtain ⟨x, hx, hid⟩ := hs.owned t ht
  exact ⟨x, hx, hid,
    List.mem_iff_getElem.mp (mem_chainOf.mpr ⟨ht, hid.symm⟩)⟩

/-- A token that is replaced is revoked and followed by its replacement. -/
theorem getElem_succ
    (hs : s.Chained) {x : Session} (hx : x ∈ s.sessions.rows) {i : ℕ}
    (hi : i < (s.chainOf x.id).length) {id : TokenId}
    (hnext : (s.chainOf x.id)[i].replacedBy = some id) :
    (s.chainOf x.id)[i].revokedAt.isSome = true ∧
      ∃ hi' : i + 1 < (s.chainOf x.id).length,
        (s.chainOf x.id)[i + 1].id = id := by
  obtain ⟨spent, last, hchain, hlinked⟩ := hs.chain x hx
  generalize s.chainOf x.id = chain at *
  subst hchain
  by_cases hi' : i + 1 < (spent ++ [last]).length
  · have hlink := hlinked.linked.getElem i hi'
    refine ⟨hlink.revoked, hi', ?_⟩
    exact Option.some.inj (hlink.next.symm.trans hnext)
  · have hspent : spent.length ≤ i := by
      simp only [List.length_append, List.length_singleton] at hi'
      omega
    rw [List.getElem_append_right hspent] at hnext
    simp [hlinked.unreplaced] at hnext

/-- One replacement is one step along the chain. -/
theorem getElem_of_replaced
    (hs : s.Chained) {x : Session} (hx : x ∈ s.sessions.rows) {i : ℕ}
    (hi : i < (s.chainOf x.id).length) {u : RefreshToken}
    (hu : s.Replaced (s.chainOf x.id)[i] u) :
    ∃ hi' : i + 1 < (s.chainOf x.id).length, (s.chainOf x.id)[i + 1] = u := by
  obtain ⟨-, humem, hnext⟩ := hu
  obtain ⟨-, hi', hid⟩ := hs.getElem_succ hx hi hnext
  exact ⟨hi', Table.eq_of_key_eq
    (mem_chainOf.mp (List.getElem_mem hi')).1 humem hid⟩

/-- Replacements lead forward along the chain. -/
theorem getElem_of_transGen
    (hs : s.Chained) {x : Session} (hx : x ∈ s.sessions.rows) {i : ℕ}
    (hi : i < (s.chainOf x.id).length) {u : RefreshToken}
    (hu : Relation.TransGen s.Replaced (s.chainOf x.id)[i] u) :
    ∃ j, i < j ∧ ∃ hj : j < (s.chainOf x.id).length,
      (s.chainOf x.id)[j] = u := by
  induction hu with
  | single hu =>
      exact ⟨i + 1, Nat.lt_succ_self i, hs.getElem_of_replaced hx hi hu⟩
  | tail _ hu ih =>
      obtain ⟨j, hij, hj, rfl⟩ := ih
      exact ⟨j + 1, Nat.lt_succ_of_lt hij, hs.getElem_of_replaced hx hj hu⟩

theorem no_branch
    (hs : s.Chained) {t u v : RefreshToken} (ht : s.Replaced t v)
    (hu : s.Replaced u v) : t = u := by
  obtain ⟨x, hx, hxt, i, hi, rfl⟩ := hs.exists_getElem ht.1
  obtain ⟨y, hy, hyu, j, hj, rfl⟩ := hs.exists_getElem hu.1
  obtain ⟨hi', hiv⟩ := hs.getElem_of_replaced hx hi ht
  obtain ⟨hj', hjv⟩ := hs.getElem_of_replaced hy hj hu
  have hsession : x.id = y.id :=
    (mem_chainOf.mp (List.getElem_mem hi')).2.symm.trans
      (hiv.trans hjv.symm ▸ (mem_chainOf.mp (List.getElem_mem hj')).2)
  obtain rfl := Table.eq_of_key_eq hx hy hsession
  have hij : i + 1 = j + 1 :=
    ((s.nodup_chainOf x.id).getElem_inj_iff).mp (hiv.trans hjv.symm)
  obtain rfl := Nat.succ.inj hij
  rfl

theorem no_cycle
    (hs : s.Chained) (t : RefreshToken) :
    ¬Relation.TransGen s.Replaced t t := by
  intro h
  have ht : t ∈ s.tokens.rows := by
    obtain ⟨_, hstep, -⟩ := Relation.TransGen.head'_iff.mp h
    exact hstep.1
  obtain ⟨x, hx, -, i, hi, rfl⟩ := hs.exists_getElem ht
  obtain ⟨j, hij, hj, heq⟩ := hs.getElem_of_transGen hx hi h
  have hji : j = i := ((s.nodup_chainOf x.id).getElem_inj_iff).mp heq
  omega

theorem rotationInvariant (hs : s.Chained) : s.RotationInvariant where
  owned := hs.owned
  linear x hx := by
    obtain ⟨spent, last, hchain, hlinked⟩ := hs.chain x hx
    exact ⟨spent, last, hchain, hchain ▸ s.nodup_chainOf x.id,
      hlinked.linked, hlinked.unreplaced⟩
  live x hx hlive := by
    obtain ⟨spent, last, hchain, hlinked⟩ := hs.chain x hx
    refine ⟨last, by simp [hchain], ?_⟩
    have hlast : last.revokedAt = none := by
      simpa [hlive] using hlinked.revoked
    have hspent : spent.filter RefreshToken.isChainHead = [] := by
      refine List.filter_eq_nil_iff.mpr fun t ht => ?_
      rw [RefreshToken.isChainHead_of_revoked (hlinked.revoked_of_mem_spent ht)]
      exact Bool.false_ne_true
    rw [hchain, List.filter_append, hspent]
    simp [RefreshToken.isChainHead, hlast, hlinked.unreplaced]
  revoked x hx hrevoked := by
    obtain ⟨spent, last, hchain, hlinked⟩ := hs.chain x hx
    have hall (t : RefreshToken) (ht : t ∈ s.chainOf x.id) :
        t.revokedAt.isSome = true := by
      rw [hchain, List.mem_append, List.mem_singleton] at ht
      rcases ht with ht | rfl
      · exact hlinked.revoked_of_mem_spent ht
      · rw [hlinked.revoked, hrevoked]
    refine ⟨List.filter_eq_nil_iff.mpr fun t ht => ?_, hall⟩
    rw [RefreshToken.isChainHead_of_revoked (hall t ht)]
    exact Bool.false_ne_true
  replaced_revoked t ht hreplaced := by
    obtain ⟨x, hx, -, i, hi, rfl⟩ := hs.exists_getElem ht
    obtain ⟨id, hid⟩ := Option.isSome_iff_exists.mp hreplaced
    exact (hs.getElem_succ hx hi hid).1
  same_session t ht id hid := by
    obtain ⟨x, hx, hxt, i, hi, rfl⟩ := hs.exists_getElem ht
    obtain ⟨-, hi', hnext⟩ := hs.getElem_succ hx hi hid
    obtain ⟨hmem, hsession⟩ := mem_chainOf.mp (List.getElem_mem hi')
    exact ⟨_, hmem, hnext, hsession.trans hxt⟩
  no_branch _ _ _ ht hu := hs.no_branch ht hu
  no_cycle := hs.no_cycle

end Chained

/-- In every store that operations reach from the empty one, the tokens of
every session form one rotation chain. -/
theorem rotationInvariant_run_empty
    (ops : List Operation)
    (hopen : ∀ op ∈ ops, op.request.OpensProperly)
    (hnodup : (drawnNames ops).Nodup) :
    (Store.empty.run ops).RotationInvariant :=
  (chained_empty.run hopen (fun n _ => not_uses_empty n)
    hnodup).rotationInvariant

end Store

/-! ## One session that is refreshed and then attacked -/

/-- A session that is about to be opened. -/
def sampleSession : Session :=
  Session.create ⟨1⟩ ⟨0⟩ [.password] {} ⟨1000, 0⟩ ⟨0, 0⟩

/-- The user of the session. -/
def sampleUser : User where
  id := sampleSession.user
  email := "user"
  createdAt := ⟨0, 0⟩
  updatedAt := ⟨0, 0⟩

/-- The first refresh token of the session. -/
def sampleToken : RefreshToken where
  id := ⟨2⟩
  session := sampleSession.id
  hash := "first"
  expiresAt := ⟨500, 0⟩
  createdAt := ⟨0, 0⟩

theorem sample_madeTogether : MadeTogether sampleSession sampleToken where
  session := ⟨[.password], {}, ⟨1000, 0⟩, ⟨0, 0⟩, rfl⟩
  token := rfl

/-- A session is opened, refreshed, and refreshed with the old token again. -/
def sampleRun : List Operation := [
  ⟨.createSession sampleSession sampleToken ⟨0, 0⟩, .zero⟩,
  ⟨.rotate ⟨"first", "second", ⟨400⟩, {}, ⟨10, 0⟩⟩, ⟨⟨3⟩, ⟨0⟩, ⟨0⟩⟩⟩,
  ⟨.rotate ⟨"first", "third", ⟨400⟩, {}, ⟨20, 0⟩⟩, ⟨⟨4⟩, ⟨0⟩, ⟨0⟩⟩⟩]

theorem sampleRun_opensProperly :
    ∀ op ∈ sampleRun, op.request.OpensProperly := by
  simp only [sampleRun, List.forall_mem_cons, List.not_mem_nil, false_imp_iff,
    implies_true, and_true]
  exact ⟨sample_madeTogether, trivial, trivial⟩

theorem rotationInvariant_sampleRun :
    (∀ op ∈ sampleRun, op.request.OpensProperly) ∧
      (drawnNames sampleRun).Nodup ∧
      (Store.empty.run sampleRun).RotationInvariant ∧
      ((Store.empty.run sampleRun).chainOf sampleSession.id).map
        RefreshToken.isChainHead = [false, false] :=
  ⟨sampleRun_opensProperly, by decide,
    rotationInvariant_run_empty sampleRun sampleRun_opensProperly (by decide),
    by decide⟩

end AccountAuthority
