import AccountAuthority.Relational.Row

/-!
# Rows that cannot be read

The failure to read a row, or to understand its codes, is found on this side of
the wire.  It never looks like an answer of the server, and so it is never taken
for a conflict with another transaction.
-/

namespace AccountAuthority

/-- What a result fails with, if it does. -/
def FailsWith {ε α : Type} (P : ε → Prop) (x : Except ε α) : Prop :=
  ∀ e, x = .error e → P e

section

variable {ε ε' α β : Type} {P : ε → Prop}

theorem failsWith_pure {a : α} : FailsWith P (pure a : Except ε α) :=
  fun _ h => nomatch h

theorem failsWith_bind
    {x : Except ε α} {f : α → Except ε β} (hx : FailsWith P x)
    (hf : ∀ a, FailsWith P (f a)) : FailsWith P (x >>= f) := by
  cases x with
  | ok a => exact hf a
  | error e =>
      intro e' h
      cases h
      exact hx e rfl

theorem failsWith_mapError
    {x : Except ε' α} {f : ε' → ε} (h : ∀ e, P (f e)) : FailsWith P (x.mapError f) := by
  cases x with
  | ok a => exact failsWith_pure
  | error e =>
      rintro _ ⟨⟩
      exact h e

theorem failsWith_mapM
    {f : α → Except ε β} (hf : ∀ a, FailsWith P (f a)) (l : List α) :
    FailsWith P (l.mapM f) := by
  induction l with
  | nil => exact failsWith_pure
  | cons a l ih =>
      rw [List.mapM_cons]
      exact failsWith_bind (hf a) fun _ => failsWith_bind ih fun _ => failsWith_pure

theorem failsWith_mapM_option
    {f : α → Except ε β} (hf : ∀ a, FailsWith P (f a)) (o : Option α) :
    FailsWith P (o.mapM f) := by
  cases o with
  | none => exact failsWith_pure
  | some a => exact failsWith_bind (hf a) fun _ => failsWith_pure

theorem exists_mapM_option_iff
    {f : α → Except ε β} {o : Option α} {φ : β → Prop} :
    (∃ l, o.mapM f = .ok l ∧ ∀ b ∈ l, φ b) ↔ ∀ a ∈ o, ∃ b, f a = .ok b ∧ φ b := by
  cases o with
  | none => exact ⟨fun _ => nofun, fun _ => ⟨none, rfl, nofun⟩⟩
  | some a =>
      have hmapM (r : Except ε β) (hr : f a = r) :
          (some a).mapM f = r.map some := congrArg (Except.map some) hr
      cases ha : f a with
      | error e => simp [hmapM _ ha, ha, Except.map]
      | ok b => simp [hmapM _ ha, ha, Except.map]

end

/-! ## Columns -/

/-- The error is not an answer of the server. -/
def DatabaseError.IsLocal (e : DatabaseError) : Prop :=
  ∀ s, e ≠ .server s

theorem SqlType.failsWith_mismatch {α : Type} (c : Column) (v : SqlValue) :
    FailsWith DatabaseError.IsLocal (mismatch c v : Except DatabaseError α) := by
  intro e h
  unfold mismatch at h
  split at h <;> cases h <;> exact nofun

/-- A column that does not hold a value of the type is found out locally. -/
class LocalSqlType (α : Type) [SqlType α] : Prop where
  failsWith_ofSql (c : Column) (v : SqlValue) :
    FailsWith DatabaseError.IsLocal (SqlType.ofSql c v : Except DatabaseError α)

namespace LocalSqlType

instance : LocalSqlType Uuid where
  failsWith_ofSql c v := by
    cases v with
    | uuid id => exact failsWith_pure
    | _ => exact SqlType.failsWith_mismatch c _

instance : LocalSqlType String where
  failsWith_ofSql c v := by
    cases v with
    | text s => exact failsWith_pure
    | _ => exact SqlType.failsWith_mismatch c _

instance : LocalSqlType Instant where
  failsWith_ofSql c v := by
    cases v with
    | time t => exact failsWith_pure
    | _ => exact SqlType.failsWith_mismatch c _

instance : LocalSqlType (List String) where
  failsWith_ofSql c v := by
    cases v with
    | texts items =>
        change FailsWith _ (match items.mapM id with
          | some items => .ok items
          | none => .error (.unexpectedNull c) : Except DatabaseError (List String))
        split
        · exact failsWith_pure
        · rintro _ ⟨⟩
          exact nofun
    | _ => exact SqlType.failsWith_mismatch c _

instance {α : Type} [SqlType α] [LocalSqlType α] : LocalSqlType (Option α) where
  failsWith_ofSql c v := by
    cases v with
    | null => exact failsWith_pure
    | _ => exact failsWith_bind (failsWith_ofSql c _) fun _ => failsWith_pure

end LocalSqlType

namespace Row

variable {α : Type} [SqlType α] [LocalSqlType α] (row : Row)

theorem failsWith_get (name : String) :
    FailsWith DatabaseError.IsLocal (row.get name : Except DatabaseError α) := by
  unfold get
  split
  · exact LocalSqlType.failsWith_ofSql _ _
  · rintro _ ⟨⟩
    exact nofun

theorem failsWith_first :
    FailsWith DatabaseError.IsLocal (row.first : Except DatabaseError α) := by
  unfold first
  split
  · exact LocalSqlType.failsWith_ofSql _ _
  · rintro _ ⟨⟩
    exact nofun

end Row

/-! ## Rows -/

theorem UserRow.failsWith_read (row : Row) :
    FailsWith DatabaseError.IsLocal (UserRow.read row) := by
  unfold UserRow.read
  repeat refine failsWith_bind (row.failsWith_get _) fun _ => ?_
  exact failsWith_pure

theorem SessionRow.failsWith_read (row : Row) :
    FailsWith DatabaseError.IsLocal (SessionRow.read row) := by
  unfold SessionRow.read
  repeat refine failsWith_bind (row.failsWith_get _) fun _ => ?_
  exact failsWith_pure

theorem RefreshToken.failsWith_read (row : Row) :
    FailsWith DatabaseError.IsLocal (RefreshToken.read row) := by
  unfold RefreshToken.read
  repeat refine failsWith_bind (row.failsWith_get _) fun _ => ?_
  exact failsWith_pure

theorem VerificationTokenRow.failsWith_read (row : Row) :
    FailsWith DatabaseError.IsLocal (VerificationTokenRow.read row) := by
  unfold VerificationTokenRow.read
  repeat refine failsWith_bind (row.failsWith_get _) fun _ => ?_
  exact failsWith_pure

/-! ## Codes -/

namespace RepositoryError

/-- Trying again from scratch does not help. -/
def IsFinal (e : RepositoryError) : Prop :=
  e.isTransient = false

theorem failsWith_readCode {α : Type} [Coded α] (s : String) :
    FailsWith IsFinal (readCode s : Except RepositoryError α) :=
  failsWith_mapError fun _ => rfl

end RepositoryError

theorem UserRow.failsWith_toUser (row : UserRow) :
    FailsWith RepositoryError.IsFinal row.toUser :=
  failsWith_bind (RepositoryError.failsWith_readCode _) fun _ =>
    failsWith_bind (RepositoryError.failsWith_readCode _) fun _ => failsWith_pure

theorem SessionRow.failsWith_toSession (row : SessionRow) :
    FailsWith RepositoryError.IsFinal row.toSession :=
  failsWith_bind (failsWith_mapM RepositoryError.failsWith_readCode _) fun _ =>
    failsWith_bind (failsWith_mapM_option RepositoryError.failsWith_readCode _) fun _ =>
      failsWith_pure

end AccountAuthority
