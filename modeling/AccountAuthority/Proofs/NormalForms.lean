import AccountAuthority.Account.ExternalIdentity
import AccountAuthority.Email
import Mathlib.Data.List.Basic
import Mathlib.Data.List.TakeWhile

/-!
# Normal forms

Names of providers and addresses of users are stored and looked up without
blanks at the ends and in lowercase.  A text in this form is its own normal
form, so it does not matter how often a text is normalized on its way into the
store.

Of the table of lowercase forms only one thing is needed, which is checked run
by run: what a run maps to is left alone by all runs, and is not blank.
-/

namespace AccountAuthority.Text

open CaseTable

/-! ## What the table maps to -/

/-- The code points of blanks. -/
def blankRanges : List (ℕ × ℕ) := [
  (9, 13), (0x20, 0x20), (0x85, 0x85), (0xa0, 0xa0), (0x1680, 0x1680),
  (0x2000, 0x200a), (0x2028, 0x2029), (0x202f, 0x202f), (0x205f, 0x205f),
  (0x3000, 0x3000)]

theorem isBlank_eq_inRanges (c : Char) :
    isBlank c = inRanges blankRanges c.toNat := by
  unfold isBlank
  rw [Bool.eq_iff_iff]
  simp only [inRanges, blankRanges, List.any_cons, List.any_nil, Bool.or_eq_true,
    Bool.and_eq_true, decide_eq_true_eq, beq_iff_eq, Bool.false_eq_true, or_false]
  omega

/-- Whether the code points from `lo` to `hi`, or every other one of them if
`sparse` holds, are left alone by a run. -/
def clearOfRun (lo hi : ℕ) (sparse : Bool) : ℕ × ℕ × ℕ × ℤ → Bool
  | (first, last, stride, _) =>
      Nat.blt hi first || (Nat.blt last lo ||
        (sparse && Nat.beq stride 2 && Nat.beq ((lo + first) % 2) 1))

/-- Whether the code points from `lo` to `hi` lie outside of a range. -/
def clearOfRange (lo hi : ℕ) : ℕ × ℕ → Bool
  | (first, last) => Nat.blt hi first || Nat.blt last lo

/-- Whether what a run maps to is left alone by all runs, is not the one capital
that the runs do not cover, and is not blank. -/
def settles : ℕ × ℕ × ℕ × ℤ → Bool
  | (first, last, stride, offset) =>
      let lo := (first + offset).toNat
      let hi := lo + (last - first)
      decide (0 ≤ first + offset) &&
        ((0x130, 0x130) :: blankRanges).all (clearOfRange lo hi) &&
        lowercaseRuns.all
          (clearOfRun lo hi (Nat.beq stride 2 || Nat.beq first last))

theorem lowercaseRuns_settle : lowercaseRuns.all settles = true := by
  decide +kernel

/-- A code point that the table maps to another one is settled from then on. -/
theorem applyRuns_settled
    {n : ℕ} (hn : applyRuns lowercaseRuns n ≠ n) :
    applyRuns lowercaseRuns (applyRuns lowercaseRuns n) =
        applyRuns lowercaseRuns n ∧
      applyRuns lowercaseRuns n ≠ 0x130 ∧
      inRanges blankRanges (applyRuns lowercaseRuns n) = false := by
  have himage : ∃ first last stride offset,
      (first, last, stride, offset) ∈ lowercaseRuns ∧ first ≤ n ∧ n ≤ last ∧
        (n - first) % stride = 0 ∧
        applyRuns lowercaseRuns n = (n + offset : ℤ).toNat := by
    unfold applyRuns at hn ⊢
    split at hn
    next first last stride offset hfind =>
      have hcovers := List.find?_some hfind
      simp only [Bool.and_eq_true, decide_eq_true_eq, beq_iff_eq] at hcovers
      exact ⟨first, last, stride, offset, List.mem_of_find?_eq_some hfind,
        hcovers.1.1, hcovers.1.2, hcovers.2, rfl⟩
    · exact absurd rfl hn
  obtain ⟨first, last, stride, offset, hmem, hfirst, hlast, hstride, himage⟩ := himage
  have hsettles := List.all_eq_true.mp lowercaseRuns_settle _ hmem
  simp only [settles, Bool.and_eq_true, decide_eq_true_eq, List.all_eq_true] at hsettles
  obtain ⟨⟨hpositive, hranges⟩, hruns⟩ := hsettles
  rw [himage]
  generalize hm : (n + offset : ℤ).toNat = m
  generalize hlo : (first + offset : ℤ).toNat = lo at hranges hruns
  have hplace : m = lo + (n - first) := by omega
  have hclear : ∀ lo' hi', (lo', hi') ∈ (0x130, 0x130) :: blankRanges →
      ¬(lo' ≤ m ∧ m ≤ hi') := by
    intro lo' hi' hmem'
    have := hranges _ hmem'
    simp only [clearOfRange, Bool.or_eq_true, Nat.blt_eq] at this
    omega
  refine ⟨?_, ?_, ?_⟩
  · have hnone : lowercaseRuns.find? (fun (first, last, stride, _) =>
        first ≤ m && m ≤ last && (m - first) % stride == 0) = none := by
      rw [List.find?_eq_none]
      rintro ⟨first', last', stride', offset'⟩ hmem' hcovers
      simp only [Bool.and_eq_true, decide_eq_true_eq, beq_iff_eq] at hcovers
      obtain ⟨⟨hfirst', hlast'⟩, hstride'⟩ := hcovers
      have hapart := hruns _ hmem'
      simp only [clearOfRun, Bool.or_eq_true, Bool.and_eq_true, Nat.blt_eq,
        Nat.beq_eq] at hapart
      -- two runs of every other code point may interleave
      rcases hapart with hapart | hapart | ⟨⟨rfl | rfl, rfl⟩, hparity⟩ <;> omega
    rw [applyRuns, hnone]
  · intro h
    exact hclear 0x130 0x130 (List.mem_cons_self ..) ⟨h.ge, h.le⟩
  · rw [inRanges, List.any_eq_false]
    rintro ⟨lo', hi'⟩ hmem' hin
    simp only [Bool.and_eq_true, decide_eq_true_eq] at hin
    exact hclear lo' hi' (List.mem_cons_of_mem _ hmem') hin

/-! ## Lowercase texts -/

theorem toNat_ofNat_or (n : ℕ) :
    (Char.ofNat n).toNat = n ∨ Char.ofNat n = Char.ofNat 0 := by
  by_cases hn : n.isValidChar
  · left
    rw [Char.ofNat, dif_pos hn]
    rfl
  · right
    rw [Char.ofNat, dif_neg hn]
    rfl

/-- A character of a lowercase form is the character itself, which has no other
one, or it is settled and not blank. -/
theorem mem_lowercaseChar
    {c d : Char} (hd : d ∈ lowercaseChar c) :
    d = c ∧ lowercaseChar c = [c] ∨ lowercaseChar d = [d] ∧ isBlank d = false := by
  unfold lowercaseChar at hd
  split at hd
  next hdotted =>
    right
    simp only [List.mem_cons, List.not_mem_nil, or_false] at hd
    rcases hd with rfl | rfl <;> decide
  next hdotted =>
    rw [List.mem_singleton] at hd
    by_cases hfixed : applyRuns lowercaseRuns c.toNat = c.toNat
    · left
      rw [hfixed, Char.ofNat_toNat] at hd
      refine ⟨hd, ?_⟩
      rw [lowercaseChar, if_neg hdotted, hfixed, Char.ofNat_toNat]
    right
    obtain ⟨hruns, hdotted', hblank⟩ := applyRuns_settled hfixed
    rcases toNat_ofNat_or (applyRuns lowercaseRuns c.toNat) with hnat | hzero
    · rw [← hd] at hnat
      rw [isBlank_eq_inRanges, lowercaseChar, hnat, if_neg hdotted', hruns, ← hd]
      exact ⟨rfl, hblank⟩
    · rw [hd, hzero]
      decide

theorem lowercaseChar_of_mem_lowercaseChar
    {c d : Char} (hd : d ∈ lowercaseChar c) : lowercaseChar d = [d] := by
  rcases mem_lowercaseChar hd with ⟨rfl, h⟩ | ⟨h, -⟩
  · exact h
  · exact h

theorem isBlank_of_mem_lowercaseChar
    {c d : Char} (hd : d ∈ lowercaseChar c) (hc : isBlank c = false) :
    isBlank d = false := by
  rcases mem_lowercaseChar hd with ⟨rfl, -⟩ | ⟨-, h⟩
  · exact hc
  · exact h

/-- The lowercase form of a character between others. -/
def lowercaseAt (before : List Char) (c : Char) (rest : List Char) : List Char :=
  if c = 'Σ' then [if startsCased before && !startsCased rest then 'ς' else 'σ']
  else lowercaseChar c

theorem lowercaseAfter_cons (before : List Char) (c : Char) (rest : List Char) :
    lowercaseAfter before (c :: rest) =
      lowercaseAt before c rest ++ lowercaseAfter (c :: before) rest :=
  rfl

section

variable {before rest cs : List Char} {c d : Char}

theorem lowercaseAt_ne_nil : lowercaseAt before c rest ≠ [] := by
  unfold lowercaseAt lowercaseChar
  split
  · simp
  · split <;> simp

theorem lowercaseChar_of_mem_lowercaseAt (hd : d ∈ lowercaseAt before c rest) :
    lowercaseChar d = [d] := by
  unfold lowercaseAt at hd
  split at hd
  · rw [List.mem_singleton] at hd
    split at hd <;> subst hd <;> decide
  · exact lowercaseChar_of_mem_lowercaseChar hd

theorem isBlank_of_mem_lowercaseAt
    (hd : d ∈ lowercaseAt before c rest) (hc : isBlank c = false) :
    isBlank d = false := by
  unfold lowercaseAt at hd
  split at hd
  · rw [List.mem_singleton] at hd
    split at hd <;> subst hd <;> decide
  · exact isBlank_of_mem_lowercaseChar hd hc

theorem lowercaseAt_of_settled (hc : lowercaseChar c = [c]) :
    lowercaseAt before c rest = [c] := by
  have hsigma : c ≠ 'Σ' := by
    rintro rfl
    exact absurd hc (by decide)
  rw [lowercaseAt, if_neg hsigma, hc]

theorem lowercaseAfter_of_settled (hcs : ∀ c ∈ cs, lowercaseChar c = [c]) :
    lowercaseAfter before cs = cs := by
  induction cs generalizing before with
  | nil => rfl
  | cons c cs ih =>
      rw [lowercaseAfter_cons, lowercaseAt_of_settled (hcs c (List.mem_cons_self ..)),
        ih fun d hd => hcs d (List.mem_cons_of_mem c hd)]
      rfl

theorem lowercaseChar_of_mem_lowercaseAfter (hd : d ∈ lowercaseAfter before cs) :
    lowercaseChar d = [d] := by
  induction cs generalizing before with
  | nil => exact absurd hd List.not_mem_nil
  | cons c cs ih =>
      rw [lowercaseAfter_cons, List.mem_append] at hd
      rcases hd with hd | hd
      · exact lowercaseChar_of_mem_lowercaseAt hd
      · exact ih hd

end

theorem lowercase_lowercase (s : String) :
    lowercase (lowercase s) = lowercase s := by
  rw [lowercase, lowercase, String.toList_ofList]
  exact congrArg String.ofList
    (lowercaseAfter_of_settled fun _ => lowercaseChar_of_mem_lowercaseAfter)

/-! ## Texts without blanks at the ends -/

/-- No blank stands at either end. -/
structure Trimmed (cs : List Char) : Prop where
  head : ∀ c ∈ cs.head?, isBlank c = false
  last : ∀ c ∈ cs.getLast?, isBlank c = false

section

variable {cs : List Char}

theorem trimStartChars_of_head
    (h : ∀ c ∈ cs.head?, isBlank c = false) : trimStartChars cs = cs := by
  cases cs with
  | nil => rfl
  | cons c cs =>
      rw [trimStartChars, List.dropWhile_cons_of_neg]
      rw [h c rfl]
      decide

theorem isBlank_of_head_trimStartChars
    {c : Char} (hc : c ∈ (trimStartChars cs).head?) : isBlank c = false := by
  have hhead := List.head?_dropWhile_not isBlank cs
  rw [Option.mem_def, trimStartChars] at hc
  rwa [hc] at hhead

theorem Trimmed.trimChars_eq (h : Trimmed cs) : trimChars cs = cs := by
  rw [trimChars, trimStartChars_of_head h.head, trimStartChars_of_head,
    List.reverse_reverse]
  rw [List.head?_reverse]
  exact h.last

theorem trimmed_trimChars (cs : List Char) : Trimmed (trimChars cs) := by
  constructor
  · intro c hc
    rw [trimChars, List.head?_reverse] at hc
    -- what is left at the back was the front already
    obtain ⟨dropped, hdropped⟩ : trimStartChars (trimStartChars cs).reverse <:+
        (trimStartChars cs).reverse := List.dropWhile_suffix _
    have hback : (trimStartChars cs).reverse.getLast? = some c := by
      rw [← hdropped, List.getLast?_append, hc]
      rfl
    rw [List.getLast?_reverse] at hback
    exact isBlank_of_head_trimStartChars hback
  · intro c hc
    rw [trimChars, List.getLast?_reverse] at hc
    exact isBlank_of_head_trimStartChars hc

theorem isBlank_of_last_lowercaseAfter
    {before : List Char} {c d : Char} (hc : isBlank c = false)
    (hd : d ∈ (lowercaseAfter before (cs ++ [c])).getLast?) :
    isBlank d = false := by
  induction cs generalizing before with
  | nil =>
      rw [List.nil_append, lowercaseAfter_cons, lowercaseAfter, List.append_nil] at hd
      exact isBlank_of_mem_lowercaseAt (List.mem_of_getLast? hd) hc
  | cons a cs ih =>
      have hne : lowercaseAfter (a :: before) (cs ++ [c]) ≠ [] := by
        cases cs <;> simp [lowercaseAfter_cons, lowercaseAt_ne_nil]
      rw [List.cons_append, lowercaseAfter_cons,
        List.getLast?_append_of_ne_nil _ hne] at hd
      exact ih hd

theorem Trimmed.lowercaseAfter (h : Trimmed cs) (before : List Char) :
    Trimmed (lowercaseAfter before cs) := by
  constructor
  · intro d hd
    cases cs with
    | nil => cases hd
    | cons c cs =>
        rw [lowercaseAfter_cons,
          List.head?_append_of_ne_nil _ lowercaseAt_ne_nil] at hd
        exact isBlank_of_mem_lowercaseAt (List.mem_of_mem_head? hd) (h.head c rfl)
  · intro d hd
    rcases List.eq_nil_or_concat cs with rfl | ⟨front, c, rfl⟩
    · cases hd
    · rw [List.concat_eq_append] at hd h
      exact isBlank_of_last_lowercaseAfter (h.last c (by simp)) hd

end

/-- A text that has been trimmed and put into lowercase is its own normal form. -/
theorem lowercase_trim_idem (s : String) :
    lowercase (trim (lowercase (trim s))) = lowercase (trim s) := by
  have htrim : trim (lowercase (trim s)) = lowercase (trim s) := by
    have htrimmed := (trimmed_trimChars s.toList).lowercaseAfter []
    rw [trim, lowercase, trim, String.toList_ofList, String.toList_ofList,
      htrimmed.trimChars_eq]
  rw [htrim, lowercase_lowercase]

end AccountAuthority.Text

namespace AccountAuthority

theorem normalizeProvider_normalizeProvider (provider : String) :
    normalizeProvider (normalizeProvider provider) = normalizeProvider provider :=
  Text.lowercase_trim_idem provider

theorem Email.normalize_normalize (address : String) :
    normalize (normalize address) = normalize address :=
  Text.lowercase_trim_idem address

end AccountAuthority
