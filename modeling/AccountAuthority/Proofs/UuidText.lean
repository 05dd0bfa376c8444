import AccountAuthority.Job.Basic
import AccountAuthority.Proofs.Tables
import Mathlib.Tactic.IntervalCases

/-!
# Identifiers as text

The canonical text of an identifier is read back as the identifier.  So what is
named after an identifier is named after no other one: the address that is left
of a deleted user, and the job that deletes a user.
-/

namespace AccountAuthority

theorem Json.hexDigit?_hexChar {n : ℕ} (h : n < 16) :
    Json.hexDigit? (Json.hexChar n) = some n := by
  interval_cases n <;> rfl

namespace Uuid

@[simp] theorem length_hexDigits (n value : ℕ) :
    (hexDigits n value).length = n := by
  induction n generalizing value with
  | zero => rfl
  | succ n ih => simp [hexDigits, ih]

/-- The digits of a number are read as the number. -/
theorem mapM_hexDigits (n value : ℕ) :
    ∃ ds, (hexDigits n value).mapM Json.hexDigit? = some ds ∧ ds.length = n ∧
      ds.foldl (fun n d => n * 16 + d) 0 = value % 16 ^ n := by
  induction n generalizing value with
  | zero => exact ⟨[], rfl, rfl, (Nat.mod_one value).symm⟩
  | succ n ih =>
      obtain ⟨ds, hread, hlength, hvalue⟩ := ih (value / 16)
      have hdigit := Json.hexDigit?_hexChar (Nat.mod_lt value (by decide : 0 < 16))
      refine ⟨ds ++ [value % 16], ?_, by simp [hlength], ?_⟩
      · simp [hexDigits, List.mapM_append, hread, hdigit]
      · rw [List.foldl_append, hvalue, List.foldl_cons, List.foldl_nil,
          Nat.pow_succ', Nat.mod_mul]
        omega

theorem ofDigits?_hexDigits (id : Uuid) :
    ofDigits? (hexDigits 32 id.bits.toNat) = some id := by
  obtain ⟨ds, hread, hlength, hvalue⟩ := mapM_hexDigits 32 id.bits.toNat
  have hbits : id.bits.toNat % 16 ^ 32 = id.bits.toNat :=
    Nat.mod_eq_of_lt id.bits.isLt
  rw [hbits] at hvalue
  simp [ofDigits?, hread, hlength, hvalue]

/-- Five groups of digits are read without the hyphens between them. -/
theorem ofGroups?_append
    {a b c d e : List Char} (ha : a.length = 8) (hb : b.length = 4)
    (hc : c.length = 4) (hd : d.length = 4) (he : e.length = 12) :
    ofGroups? (a ++ '-' :: b ++ '-' :: c ++ '-' :: d ++ '-' :: e) =
      ofDigits? (a ++ b ++ c ++ d ++ e) := by
  simp [ofGroups?, List.drop_append, List.getElem?_append,
    List.drop_eq_nil_of_le, ha, hb, hc, hd, he]

theorem length_toChars (id : Uuid) : id.toChars.length = 36 := by
  simp [toChars]

theorem ofChars?_toChars (id : Uuid) : ofChars? id.toChars = some id := by
  generalize hds : hexDigits 32 id.bits.toNat = ds
  have hlength : ds.length = 32 := by rw [← hds, length_hexDigits]
  have hrest (k m : ℕ) : (ds.drop k).take m ++ ds.drop (k + m) = ds.drop k := by
    rw [← List.drop_drop, List.take_append_drop]
  have hgroups : ofGroups? id.toChars = ofDigits? ds := by
    rw [toChars, hds, ofGroups?_append]
    · simp only [List.append_assoc]
      rw [hrest 16 4, hrest 12 4, hrest 8 4, List.take_append_drop]
    all_goals simp [hlength]
  rw [ofChars?, length_toChars, if_neg (by decide), if_pos rfl, hgroups, ← hds,
    ofDigits?_hexDigits]

/-- The text of an identifier is read as the identifier. -/
theorem parse?_toString (id : Uuid) : parse? (toString id) = some id := by
  have hchars : (toString id).toList = id.toChars := String.toList_ofList
  rw [parse?, hchars, ofChars?_toChars]

theorem parse_toString (id : Uuid) : parse (toString id) = .ok id := by
  rw [parse, parse?_toString]

theorem toString_injective : Function.Injective (toString : Uuid → String) := by
  intro a b hab
  have h := parse?_toString a
  rw [hab, parse?_toString] at h
  exact (Option.some.inj h).symm

end Uuid

/-- No two users have the same tombstone. -/
theorem Email.tombstone_injective : Function.Injective Email.tombstone := by
  intro a b hab
  have hnamed := (String.append_left_inj _).mp hab
  exact Uuid.toString_injective ((String.append_right_inj _).mp hnamed)

/-- No two users share a deletion job. -/
theorem Job.deletionId_injective : Function.Injective Job.deletionId := by
  intro a b hab
  exact Uuid.toString_injective ((String.append_right_inj _).mp hab)

end AccountAuthority
