import AccountAuthority.Proofs.Instants
import AccountAuthority.Proofs.Tables
import AccountAuthority.RateLimit

/-!
# Limits that are kept apart

Failed logins are counted for a source: an address, and the internet address if
it is known.  The windows are kept under texts, in which the two parts of a
source stand with a bar between them and a dash stands for a missing internet
address.  What a window says of one source can therefore be heard by another one
if and only if both are written as the same text, which happens when one names a
dash where the other names nothing, or when a bar belongs to the address in one
of them and to the internet address in the other.
-/

namespace AccountAuthority

/-- Whom failed logins are counted for. -/
structure LoginSource where
  email : String
  ip : Option String
  deriving DecidableEq

namespace LoginSource

/-- The text that the windows of the source are kept under. -/
def key (s : LoginSource) : String :=
  RateLimiter.keyOf s.email s.ip

/-- What is written after the bar. -/
def ipText (s : LoginSource) : String :=
  s.ip.getD "-"

/-- The other address goes on, after this one and a bar, with what opens the
internet address of this source. -/
def RunsInto (s s' : LoginSource) : Prop :=
  ∃ t, s'.email = s.email ++ "|" ++ t ∧ s.ipText = t ++ "|" ++ s'.ipText

/-- Both sources are written as the same text. -/
def IsMistakenFor (s s' : LoginSource) : Prop :=
  (s.email = s'.email ∧ s.ipText = s'.ipText) ∨ s.RunsInto s' ∨ s'.RunsInto s

theorem toList_key (s : LoginSource) :
    s.key.toList = s.email.toList ++ '|' :: s.ipText.toList := by
  simp [key, RateLimiter.keyOf, ipText]

theorem RunsInto.key_eq {s s' : LoginSource} (h : s.RunsInto s') : s.key = s'.key := by
  obtain ⟨t, hemail, hip⟩ := h
  rw [← String.toList_inj, toList_key, toList_key, hemail, hip]
  simp

/-- What follows the shorter address opens with the bar, so that the longer one
is the same or goes on with the bar. -/
theorem eq_or_runsInto_of_append
    {s s' : LoginSource} {rest : List Char}
    (hemail : s'.email.toList = s.email.toList ++ rest)
    (hrest : '|' :: s.ipText.toList = rest ++ '|' :: s'.ipText.toList) :
    (s.email = s'.email ∧ s.ipText = s'.ipText) ∨ s.RunsInto s' := by
  cases rest with
  | nil =>
      refine Or.inl ⟨?_, ?_⟩
      · rw [← String.toList_inj, hemail, List.append_nil]
      · rw [← String.toList_inj]
        exact (List.cons.inj hrest).2
  | cons c rest =>
      obtain ⟨rfl, htail⟩ := List.cons.inj hrest
      refine Or.inr ⟨String.ofList rest, ?_, ?_⟩
      · rw [← String.toList_inj, hemail]
        simp
      · rw [← String.toList_inj, htail]
        simp

theorem key_eq_iff {s s' : LoginSource} : s.key = s'.key ↔ s.IsMistakenFor s' := by
  constructor
  · intro h
    rw [← String.toList_inj, toList_key, toList_key] at h
    rcases List.append_eq_append_iff.mp h with ⟨rest, hemail, hrest⟩ | ⟨rest, hemail, hrest⟩
    · rcases eq_or_runsInto_of_append hemail hrest with hsame | hruns
      · exact Or.inl hsame
      · exact Or.inr (Or.inl hruns)
    · rcases eq_or_runsInto_of_append hemail hrest with ⟨hemail, hip⟩ | hruns
      · exact Or.inl ⟨hemail.symm, hip.symm⟩
      · exact Or.inr (Or.inr hruns)
  · rintro (⟨hemail, hip⟩ | hruns | hruns)
    · rw [← String.toList_inj, toList_key, toList_key, hemail, hip]
    · exact hruns.key_eq
    · exact hruns.key_eq.symm

/-- The text tells the source: the address holds no bar, and no internet address
is named a dash. -/
def IsPlain (s : LoginSource) : Prop :=
  '|' ∉ s.email.toList ∧ s.ip ≠ some "-"

theorem RunsInto.mem_email {s s' : LoginSource} (h : s.RunsInto s') :
    '|' ∈ s'.email.toList := by
  obtain ⟨t, hemail, -⟩ := h
  simp [hemail]

theorem eq_of_isMistakenFor
    {s s' : LoginSource} (hs : s.IsPlain) (hs' : s'.IsPlain) (h : s.IsMistakenFor s') :
    s = s' := by
  obtain ⟨email, ip⟩ := s
  obtain ⟨email', ip'⟩ := s'
  rcases h with ⟨hemail, hip⟩ | hruns | hruns
  · have hdash := hs.2
    have hdash' := hs'.2
    simp only [ipText] at hemail hip hdash hdash'
    cases ip <;> cases ip' <;> simp_all
  · exact absurd hruns.mem_email hs'.1
  · exact absurd hruns.mem_email hs.1

end LoginSource

/-- A call of the limiter. -/
inductive LimiterCall where
  | check (s : LoginSource) (now : Instant)
  | failure (s : LoginSource) (now : Instant)
  | success (s : LoginSource)

namespace LimiterCall

/-- The source that the call is made for. -/
def source : LimiterCall → LoginSource
  | check s _ | failure s _ | success s => s

/-- The limiter after the call. -/
def apply : LimiterCall → RateLimiter → RateLimiter
  | check s now, l => (l.check s.email s.ip now).2
  | failure s now, l => l.recordFailure s.email s.ip now
  | success s, l => l.recordSuccess s.email s.ip

/-- What the source is told, if it is the one that asks. -/
def answer? (s : LoginSource) (l : RateLimiter) : LimiterCall → Option (Except ℕ Unit)
  | check s' now => if s' = s then some (l.check s.email s.ip now).1 else none
  | failure .. | success _ => none

theorem answer?_of_ne
    {s : LoginSource} {l : RateLimiter} {c : LimiterCall} (h : c.source ≠ s) :
    c.answer? s l = none := by
  cases c with
  | check s' now => exact if_neg h
  | failure | success => rfl

end LimiterCall

namespace RateLimiter

/-- The limiter after calls. -/
def run (l : RateLimiter) (calls : List LimiterCall) : RateLimiter :=
  calls.foldl (fun l c => c.apply l) l

/-- What a source is told in the course of calls. -/
def answersTo (s : LoginSource) : RateLimiter → List LimiterCall → List (Except ℕ Unit)
  | _, [] => []
  | l, c :: calls => (c.answer? s l).toList ++ (c.apply l).answersTo s calls

variable {l l' : RateLimiter} {email : String} {ip : Option String} {now : Instant}
  {key : String}

/-! ## Open windows -/

/-- The window that is kept under a text, if it is open. -/
def openWindow? (l : RateLimiter) (key : String) (now : Instant) : Option FailureWindow :=
  (l.windows.get? key).filter fun w => ¬l.closesAt w ≤ now

theorem openWindow?_of_none (h : l.windows.get? key = none) :
    l.openWindow? key now = none := by
  simp [openWindow?, h]

theorem openWindow?_of_some {w : FailureWindow} (h : l.windows.get? key = some w) :
    l.openWindow? key now = if l.closesAt w ≤ now then none else some w := by
  by_cases hcloses : l.closesAt w ≤ now
  · simp [openWindow?, h, hcloses]
  · simp [openWindow?, h, hcloses]

theorem openWindow?_eq_some_iff {w : FailureWindow} :
    l.openWindow? key now = some w ↔
      l.windows.get? key = some w ∧ now < l.closesAt w := by
  simp only [openWindow?, Option.filter_eq_some_iff, decide_eq_true_eq, Instant.not_le]

/-- The answer to a check depends on the open window alone. -/
theorem check_answer (l : RateLimiter) (email : String) (ip : Option String) (now : Instant) :
    (l.check email ip now).1 =
      match l.openWindow? (keyOf email ip) now with
      | none => .ok ()
      | some w =>
        if l.maxFailures ≤ w.failures then .error (secondsUntil (l.closesAt w) now)
        else .ok () := by
  unfold check
  cases hget : l.windows.get? (keyOf email ip) with
  | none => rw [openWindow?_of_none hget]
  | some w =>
      rw [openWindow?_of_some hget]
      by_cases hcloses : l.closesAt w ≤ now
      · simp only [if_pos hcloses]
      · simp only [if_neg hcloses]
        split <;> rfl

theorem check_eq_error_iff {seconds : ℕ} :
    (l.check email ip now).1 = .error seconds ↔
      ∃ w, l.openWindow? (keyOf email ip) now = some w ∧ l.maxFailures ≤ w.failures ∧
        secondsUntil (l.closesAt w) now = seconds := by
  rw [check_answer]
  cases l.openWindow? (keyOf email ip) now with
  | none => simp
  | some w => by_cases hfull : l.maxFailures ≤ w.failures <;> simp [hfull]

theorem check_eq_ok_iff :
    (l.check email ip now).1 = .ok () ↔
      ∀ w, l.openWindow? (keyOf email ip) now = some w → w.failures < l.maxFailures := by
  rw [check_answer]
  cases l.openWindow? (keyOf email ip) now with
  | none => simp
  | some w => simp

/-- A check leaves a source its window as long as that is open. -/
theorem get?_check (l : RateLimiter) (email : String) (ip : Option String) (now : Instant)
    (key : String) :
    (l.check email ip now).2.windows.get? key =
      if key = keyOf email ip then l.openWindow? key now else l.windows.get? key := by
  unfold check
  cases hget : l.windows.get? (keyOf email ip) with
  | none =>
      by_cases hkey : key = keyOf email ip
      · rw [if_pos hkey, hkey, openWindow?_of_none hget, hget]
      · rw [if_neg hkey]
  | some w =>
      have hw : w.key = keyOf email ip := (Table.get?_eq_some_iff.mp hget).2
      by_cases hkey : key = keyOf email ip
      · subst hkey
        rw [if_pos rfl, openWindow?_of_some hget]
        by_cases hcloses : l.closesAt w ≤ now
        · simp only [if_pos hcloses]
          rw [Table.get?_erase, if_pos hw.symm]
        · simp only [if_neg hcloses]
          split <;> exact hget
      · rw [if_neg hkey]
        dsimp only
        split
        · rw [Table.get?_erase, hw, if_neg hkey]
        · split <;> rfl

/-- A failure is counted in the open window, or else in a new one. -/
theorem recordFailure_eq (l : RateLimiter) (email : String) (ip : Option String)
    (now : Instant) :
    l.recordFailure email ip now =
      let w := (l.openWindow? (keyOf email ip) now).getD ⟨keyOf email ip, now, 0⟩
      { l with windows := l.windows.insert { w with failures := w.failures + 1 } } := by
  unfold recordFailure
  cases hget : l.windows.get? (keyOf email ip) with
  | none => simp only [hget, openWindow?_of_none hget, Option.getD_none]
  | some w =>
      rw [openWindow?_of_some hget]
      by_cases hcloses : l.closesAt w ≤ now
      · simp only [hget, if_pos hcloses, Option.getD_none]
      · simp only [hget, if_neg hcloses, Option.getD_some]

theorem get?_recordFailure (l : RateLimiter) (email : String) (ip : Option String)
    (now : Instant) (key : String) :
    (l.recordFailure email ip now).windows.get? key =
      if key = keyOf email ip then
        let w := (l.openWindow? key now).getD ⟨key, now, 0⟩
        some { w with failures := w.failures + 1 }
      else l.windows.get? key := by
  have hkeyed : ((l.openWindow? (keyOf email ip) now).getD
      ⟨keyOf email ip, now, 0⟩).key = keyOf email ip := by
    cases hopen : l.openWindow? (keyOf email ip) now with
    | none => rfl
    | some w => exact (Table.get?_eq_some_iff.mp (openWindow?_eq_some_iff.mp hopen).1).2
  rw [recordFailure_eq, Table.get?_insert]
  by_cases hkey : key = keyOf email ip
  · subst hkey
    rw [if_pos rfl]
    exact if_pos hkeyed.symm
  · rw [if_neg hkey]
    exact if_neg fun h => hkey (h.trans hkeyed)

theorem get?_recordSuccess (l : RateLimiter) (email : String) (ip : Option String)
    (key : String) :
    (l.recordSuccess email ip).windows.get? key =
      if key = keyOf email ip then none else l.windows.get? key :=
  Table.get?_erase ..

/-! ## Calls for other sources -/

/-- Both limiters lock and close alike, and keep the same window under a text. -/
structure AgreeAt (key : String) (l l' : RateLimiter) : Prop where
  maxFailures : l'.maxFailures = l.maxFailures
  window : l'.window = l.window
  kept : l'.windows.get? key = l.windows.get? key

theorem AgreeAt.openWindow? (h : AgreeAt key l l') (now : Instant) :
    l'.openWindow? key now = l.openWindow? key now := by
  apply Option.ext
  intro w
  rw [openWindow?_eq_some_iff, openWindow?_eq_some_iff, h.kept, closesAt, closesAt,
    h.window]

theorem AgreeAt.check_answer
    {s : LoginSource} (h : AgreeAt s.key l l') (now : Instant) :
    (l'.check s.email s.ip now).1 = (l.check s.email s.ip now).1 := by
  have hopen := h.openWindow? now
  rw [LoginSource.key] at hopen
  rw [RateLimiter.check_answer, RateLimiter.check_answer, hopen]
  simp only [closesAt, h.maxFailures, h.window]

@[simp] theorem maxFailures_apply (c : LimiterCall) (l : RateLimiter) :
    (c.apply l).maxFailures = l.maxFailures := by
  cases c with
  | check s now =>
      simp only [LimiterCall.apply, check]
      repeat' split
      all_goals rfl
  | failure | success => rfl

@[simp] theorem window_apply (c : LimiterCall) (l : RateLimiter) :
    (c.apply l).window = l.window := by
  cases c with
  | check s now =>
      simp only [LimiterCall.apply, check]
      repeat' split
      all_goals rfl
  | failure | success => rfl

@[simp] theorem maxFailures_run (l : RateLimiter) (calls : List LimiterCall) :
    (l.run calls).maxFailures = l.maxFailures := by
  induction calls generalizing l with
  | nil => rfl
  | cons c calls ih => exact (ih (c.apply l)).trans (maxFailures_apply c l)

@[simp] theorem window_run (l : RateLimiter) (calls : List LimiterCall) :
    (l.run calls).window = l.window := by
  induction calls generalizing l with
  | nil => rfl
  | cons c calls ih => exact (ih (c.apply l)).trans (window_apply c l)

/-- What a call leaves under the text of its source depends on what was there. -/
theorem AgreeAt.apply (h : AgreeAt key l l') (c : LimiterCall) :
    AgreeAt key (c.apply l) (c.apply l') where
  maxFailures := by rw [maxFailures_apply, maxFailures_apply, h.maxFailures]
  window := by rw [window_apply, window_apply, h.window]
  kept := by
    cases c with
    | check s now =>
        simp only [LimiterCall.apply, get?_check, h.openWindow?, h.kept]
    | failure s now =>
        simp only [LimiterCall.apply, get?_recordFailure, h.openWindow?, h.kept]
    | success s => simp only [LimiterCall.apply, get?_recordSuccess, h.kept]

/-- A call leaves alone what is kept under another text. -/
theorem agreeAt_apply {c : LimiterCall} (hc : c.source.key ≠ key) (l : RateLimiter) :
    AgreeAt key l (c.apply l) where
  maxFailures := maxFailures_apply c l
  window := window_apply c l
  kept := by
    cases c with
    | check s now => exact (get?_check ..).trans (if_neg hc.symm)
    | failure s now => exact (get?_recordFailure ..).trans (if_neg hc.symm)
    | success s => exact (get?_recordSuccess ..).trans (if_neg hc.symm)

theorem AgreeAt.trans
    {l'' : RateLimiter} (h : AgreeAt key l l') (h' : AgreeAt key l' l'') :
    AgreeAt key l l'' :=
  ⟨h'.maxFailures.trans h.maxFailures, h'.window.trans h.window, h'.kept.trans h.kept⟩

theorem agreeAt_run
    {calls : List LimiterCall} (hcalls : ∀ c ∈ calls, c.source.key ≠ key)
    (l : RateLimiter) : AgreeAt key l (l.run calls) := by
  induction calls generalizing l with
  | nil => exact ⟨rfl, rfl, rfl⟩
  | cons c calls ih =>
      obtain ⟨hc, hcalls⟩ := List.forall_mem_cons.mp hcalls
      exact (agreeAt_apply hc l).trans (ih hcalls (c.apply l))

/-- Calls that are made under other texts may be left out, whatever else is left
out with them. -/
theorem answersTo_filter
    {s : LoginSource} {calls : List LimiterCall} {p : LimiterCall → Bool}
    (hagree : AgreeAt s.key l l')
    (hcalls : ∀ c ∈ calls, p c = false → c.source.key ≠ s.key) :
    l'.answersTo s (calls.filter p) = l.answersTo s calls := by
  induction calls generalizing l l' with
  | nil => rfl
  | cons c calls ih =>
      obtain ⟨hc, hcalls⟩ := List.forall_mem_cons.mp hcalls
      by_cases hp : p c = true
      · have hanswer : c.answer? s l' = c.answer? s l := by
          cases c with
          | check s' now => simp only [LimiterCall.answer?, hagree.check_answer]
          | failure | success => rfl
        rw [List.filter_cons_of_pos hp, answersTo, answersTo, hanswer,
          ih (hagree.apply c) hcalls]
      · have hother : c.source.key ≠ s.key := hc (by simpa using hp)
        have hne : c.source ≠ s := fun heq => hother (by rw [heq])
        -- The call is not heard, and the limiters still agree after it.
        have hafter : AgreeAt s.key (c.apply l) l' :=
          ⟨by rw [maxFailures_apply, hagree.maxFailures],
            by rw [window_apply, hagree.window],
            by rw [(agreeAt_apply hother l).kept, hagree.kept]⟩
        rw [List.filter_cons_of_neg hp, answersTo, LimiterCall.answer?_of_ne hne,
          ih hafter hcalls]
        rfl

/-- One failure is enough to lock everybody out whose source is written alike. -/
theorem check_after_failure {s s' : LoginSource} (hkey : s.key = s'.key) :
    (((create 1 60).recordFailure s'.email s'.ip ⟨0, 0⟩).check s.email s.ip ⟨0, 0⟩).1 =
      .error 60 := by
  have hkept : ((create 1 60).recordFailure s'.email s'.ip ⟨0, 0⟩).windows.get? s.key =
      some ⟨s.key, ⟨0, 0⟩, 1⟩ :=
    (get?_recordFailure ..).trans (if_pos hkey)
  have hcloses : ((create 1 60).recordFailure s'.email s'.ip ⟨0, 0⟩).closesAt
      ⟨s.key, ⟨0, 0⟩, 1⟩ = ⟨60, 0⟩ := by
    change (⟨0, 0⟩ : Instant) + Span.seconds 60 = _
    decide
  refine check_eq_error_iff.mpr
    ⟨_, openWindow?_eq_some_iff.mpr ⟨hkept, ?_⟩, Nat.le_refl 1, ?_⟩
  · rw [hcloses]
    decide
  · rw [hcloses]
    rfl

end RateLimiter

/-- What a source is told does not depend on the calls for another one, unless the
two are written as the same text; and then it does.  Two sources are told apart by
their texts if no address holds a bar and no internet address is named a dash. -/
theorem sources_isolated_iff (s s' : LoginSource) :
    ((∀ (l : RateLimiter) (calls : List LimiterCall),
        l.answersTo s (calls.filter fun c => c.source ≠ s') = l.answersTo s calls) ↔
      ¬s.IsMistakenFor s') ∧
    (s.IsPlain → s'.IsPlain → s ≠ s' → ¬s.IsMistakenFor s') := by
  refine ⟨⟨fun h hmistaken => ?_, fun hnot l calls => ?_⟩, ?_⟩
  · have hlocked := RateLimiter.check_after_failure (LoginSource.key_eq_iff.mpr hmistaken)
    have hsame := h (.create 1 60) [.failure s' ⟨0, 0⟩, .check s ⟨0, 0⟩]
    simp only [RateLimiter.answersTo, LimiterCall.answer?, LimiterCall.apply, if_true,
      hlocked] at hsame
    by_cases heq : s = s'
    · simp [heq, LimiterCall.source, RateLimiter.answersTo] at hsame
    · simp [heq, LimiterCall.source, RateLimiter.answersTo, LimiterCall.answer?,
        RateLimiter.check_answer] at hsame
      cases hsame
  · refine RateLimiter.answersTo_filter ⟨rfl, rfl, rfl⟩ fun c _ hc hkey => hnot ?_
    have hsource : c.source = s' := by simpa using hc
    rw [← LoginSource.key_eq_iff, ← hkey, hsource]
  · exact fun hs hs' hne h => hne (LoginSource.eq_of_isMistakenFor hs hs' h)

/-- The same user at two internet addresses, one of which is locked out. -/
theorem sources_isolated_iff_two_addresses :
    let s : LoginSource := ⟨"a@e.com", some "10.0.0.1"⟩
    let s' : LoginSource := ⟨"a@e.com", some "10.0.0.2"⟩
    let calls : List LimiterCall :=
      [.failure s' ⟨0, 0⟩, .check s ⟨1, 0⟩, .success s', .check s' ⟨1, 0⟩]
    s.IsPlain ∧ s'.IsPlain ∧ s ≠ s' ∧ ¬s.IsMistakenFor s' ∧
      (RateLimiter.create 1 60).answersTo s (calls.filter fun c => c.source ≠ s') =
        (RateLimiter.create 1 60).answersTo s calls := by
  intro s s' calls
  have hs : s.IsPlain := ⟨by decide, by decide⟩
  have hs' : s'.IsPlain := ⟨by decide, by decide⟩
  have hne : s ≠ s' := by decide
  obtain ⟨hisolated, hapart⟩ := sources_isolated_iff s s'
  have hnot := hapart hs hs' hne
  exact ⟨hs, hs', hne, hnot, hisolated.mpr hnot _ calls⟩

/-- A client that names a dash for its internet address locks out those who name
none. -/
theorem not_sources_isolated :
    ¬∀ s s' : LoginSource, s ≠ s' → ∀ (l : RateLimiter) (calls : List LimiterCall),
      l.answersTo s (calls.filter fun c => c.source ≠ s') = l.answersTo s calls := by
  intro h
  have hsame := h ⟨"a@e.com", none⟩ ⟨"a@e.com", some "-"⟩ (by decide) (.create 1 60)
    [.failure ⟨"a@e.com", some "-"⟩ ⟨0, 0⟩, .check ⟨"a@e.com", none⟩ ⟨0, 0⟩]
  revert hsame
  decide +kernel

end AccountAuthority
