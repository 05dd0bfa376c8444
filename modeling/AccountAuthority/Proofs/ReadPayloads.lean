import AccountAuthority.Proofs.AcceptedTokens
import AccountAuthority.Proofs.DeletionBatches
import AccountAuthority.Proofs.QueuedJobs
import Mathlib.Data.List.TakeWhile

/-!
# Payloads that are read back

A worker reads every payload that has been written for a user and an instant,
whatever the length of its fraction, the sign of its year or the leap second that
it lies in.  What it reads from a text in another form, be it the array, another
spelling of the user or an offset, is an instant that a clock can show, in a year
that the calendar reaches; so the payload is read back once it has been written
anew.
-/

namespace AccountAuthority

/-! ## What numbers are read -/

/-- A number is less than its count of digits allows. -/
theorem Json.digitsValue_lt
    {ds : List Char} (hds : ∀ c ∈ ds, c.isDigit = true) :
    Json.digitsValue ds < 10 ^ ds.length := by
  rw [Json.digitsValue_eq]
  induction ds with
  | nil => simp
  | cons d ds ih =>
      have hd : d.toNat - '0'.toNat ≤ 9 := by
        have hhi : d.toNat ≤ 57 := (Char.isDigit_iff_toNat.mp (hds d List.mem_cons_self)).2
        have hzero : '0'.toNat = 48 := rfl
        omega
      have hrest := ih fun c hc => hds c (List.mem_cons_of_mem d hc)
      rw [Nat.ofDigitChars_cons, Nat.mul_zero, Nat.zero_add,
        Nat.ofDigitChars_eq_ofDigitChars_zero, List.length_cons, Nat.pow_succ]
      have hfirst := Nat.mul_le_mul_left (10 ^ ds.length) hd
      omega

namespace Instant

theorem lt_of_fraction
    {n : ℕ} {cs rest : List Char} (h : fraction cs = .ok (n, rest)) :
    n < 1000000000 := by
  unfold fraction at h
  split at h
  next cs =>
    dsimp only at h
    split at h
    · cases h
    · have hdigits : ∀ c ∈ (cs.takeWhile Char.isDigit).take 9, c.isDigit = true :=
        fun c hc => List.mem_takeWhile_imp (List.mem_of_mem_take hc)
      have hlength : ((cs.takeWhile Char.isDigit).take 9).length ≤ 9 :=
        List.length_take_le 9 _
      cases h
      generalize (cs.takeWhile Char.isDigit).take 9 = kept at *
      calc
        Json.digitsValue kept * 10 ^ (9 - kept.length)
            < 10 ^ kept.length * 10 ^ (9 - kept.length) :=
          Nat.mul_lt_mul_of_pos_right (Json.digitsValue_lt hdigits) (by positivity)
        _ = 10 ^ 9 := by rw [← Nat.pow_add, Nat.add_sub_cancel' hlength]
  · cases h
    decide

/-- Offsets are whole minutes. -/
theorem offset_emod_of_hoursAndMinutes
    {negative : Bool} {z : ℤ} {cs rest : List Char}
    (h : hoursAndMinutes negative cs = .ok (z, rest)) : z % 60 = 0 := by
  obtain ⟨⟨hours, _⟩, -, h⟩ := Except.bind_eq_ok h
  obtain ⟨⟨minutes, _⟩, -, h⟩ := Except.bind_eq_ok h
  dsimp only at h
  split at h
  · cases h
  · cases h
    split <;> omega

theorem offset_emod_of_zone
    {z : ℤ} {cs rest : List Char} (h : zone cs = .ok (z, rest)) : z % 60 = 0 := by
  unfold zone offset at h
  repeat' split at h
  all_goals first
    | exact offset_emod_of_hoursAndMinutes h
    | cases h; rfl
    | cases h

/-- Second 60 is read as a leap second in second 59, at any offset. -/
theorem isProper_of_ofLocal
    {date : CivilDate} {hour minute second nanos : ℕ} {offset : ℤ} {t : Instant}
    (h : ofLocal date hour minute second nanos offset = .ok t)
    (hnanos : nanos < 1000000000) (hoffset : offset % 60 = 0) :
    t.IsProper ∧ t.InRange := by
  rw [ofLocal] at h
  split at h
  · by_cases hsecond : second = 60
    · simp only [if_pos hsecond] at h
      split at h
      next hyear =>
        cases h
        refine ⟨⟨?_, fun _ => ?_⟩, hyear⟩
        · dsimp only
          omega
        · dsimp only
          omega
      · cases h
    · simp only [if_neg hsecond] at h
      split at h
      next hyear =>
        cases h
        exact ⟨IsPlain.isProper hnanos, hyear⟩
      · cases h
  · cases h

theorem isProper_of_ofChars
    {cs : List Char} {t : Instant} (h : ofChars cs = .ok t) :
    t.IsProper ∧ t.InRange := by
  rw [ofChars] at h
  obtain ⟨⟨year, _⟩, -, h⟩ := Except.bind_eq_ok h
  obtain ⟨_, -, h⟩ := Except.bind_eq_ok h
  obtain ⟨⟨month, _⟩, -, h⟩ := Except.bind_eq_ok h
  obtain ⟨_, -, h⟩ := Except.bind_eq_ok h
  obtain ⟨⟨day, _⟩, -, h⟩ := Except.bind_eq_ok h
  obtain ⟨_, -, h⟩ := Except.bind_eq_ok h
  obtain ⟨⟨hour, _⟩, -, h⟩ := Except.bind_eq_ok h
  obtain ⟨_, -, h⟩ := Except.bind_eq_ok h
  obtain ⟨⟨minute, _⟩, -, h⟩ := Except.bind_eq_ok h
  obtain ⟨_, -, h⟩ := Except.bind_eq_ok h
  obtain ⟨⟨second, _⟩, -, h⟩ := Except.bind_eq_ok h
  obtain ⟨⟨nanos, _⟩, hfraction, h⟩ := Except.bind_eq_ok h
  obtain ⟨⟨offset, _⟩, hzone, h⟩ := Except.bind_eq_ok h
  dsimp only at h
  split at h
  · exact isProper_of_ofLocal h (lt_of_fraction hfraction)
      (offset_emod_of_zone hzone)
  · cases h

/-- What is read is the instant that a text writes. -/
theorem isProper_of_parse
    {s : String} {t : Instant} (h : parse s = .ok t) : t.IsProper ∧ t.InRange :=
  isProper_of_ofChars h

end Instant

/-! ## What payloads are read -/

namespace DeletionPayload

theorem isProper_of_readTime
    {j : Json} {t : Instant} (h : readTime j = .ok t) : t.IsProper ∧ t.InRange := by
  unfold readTime at h
  split at h
  next text =>
    cases hparse : Instant.parse text with
    | error e =>
        rw [hparse] at h
        cases h
    | ok u =>
        rw [hparse] at h
        cases h
        exact Instant.isProper_of_parse hparse
  · cases h

theorem exists_of_readField
    {α : Type} {name : String} {read : Json → Except ReadError α}
    {fields : List (String × Json)} {a : α}
    (h : readField name read fields = .ok (some a)) : ∃ j, read j = .ok a := by
  unfold readField at h
  split at h
  · cases h
  next f _ =>
    cases hread : read f.2 with
    | error e =>
        rw [hread] at h
        cases h
    | ok b =>
        rw [hread] at h
        cases h
        exact ⟨f.2, hread⟩
  · cases h

/-- The instant in a payload has been read from a text. -/
theorem exists_readTime_of_read
    {j : Json} {p : DeletionPayload} (h : read j = .ok p) :
    ∃ text, readTime text = .ok p.scheduledFor := by
  unfold read at h
  split at h
  · cases h
  · obtain ⟨_, -, h⟩ := Except.bind_eq_ok h
    cases h
  next time _ =>
    obtain ⟨user, -, h⟩ := Except.bind_eq_ok h
    obtain ⟨t, htime, h⟩ := Except.bind_eq_ok h
    split at h
    · cases h
      exact ⟨time, htime⟩
    · cases h
  next fields =>
    obtain ⟨time, htime, h⟩ := Except.bind_eq_ok h
    obtain ⟨user, -, h⟩ := Except.bind_eq_ok h
    split at h
    · cases h
      exact exists_of_readField htime
    · cases h
    · cases h
  · cases h

end DeletionPayload

/-! ## What payloads are written -/

namespace Service

section

variable {σ α : Type} (answer : Backend.Respondent σ) (s : σ)

theorem dialogue_now (k : Instant → Service α) :
    (now >>= k).run.dialogue answer s =
      let rest := (k (answer .now s).1).run.dialogue answer (answer .now s).2
      ⟨⟨.now, (answer .now s).1⟩ :: rest.asked, rest.result, rest.state⟩ := rfl

/-- After an error the repository is not asked anything else. -/
theorem dialogue_repository (r : RepositoryRequest) (k : r.Answer → Service α) :
    (repository r >>= k).run.dialogue answer s =
      match (answer (.repository r) s).1 with
      | .ok a =>
          let rest := (k a).run.dialogue answer (answer (.repository r) s).2
          ⟨⟨.repository r, .ok a⟩ :: rest.asked, rest.result, rest.state⟩
      | .error e =>
          ⟨[⟨.repository r, .error e⟩], .error (.repository e),
            (answer (.repository r) s).2⟩ := by
  change (ask (.repository r) >>= _).dialogue answer s = _
  rw [dialogue_ask]
  generalize answer (.repository r) s = answered
  obtain ⟨found, s'⟩ := answered
  cases found <;> rfl

theorem asked_queue (r : QueueRequest) (a : α) :
    ((queue r >>= fun _ => (pure a : Service α)).run.dialogue answer s).asked =
      [⟨.queue r, (answer (.queue r) s).1⟩] := by
  change ((ask (.queue r) >>= _).dialogue answer s).asked = _
  rw [dialogue_ask]
  generalize answer (.queue r) s = answered
  obtain ⟨taken, s'⟩ := answered
  cases taken <;> rfl

/-- A request for a deletion asks for the time, tells the repository, and puts in the
job for the instant that is announced. -/
theorem asked_requestDeletion
    (c : ServiceSettings) (actor : Actor) (target : UserId) :
    ∃ (now : Instant) (found : Except RepositoryError DeletionRequestOutcome)
      (entered : List Backend.Answered),
      ((requestDeletion c actor target).run.dialogue answer s).asked =
        ⟨.now, now⟩ ::
        ⟨.repository (.requestDeletion actor target
          (User.deletionDue c.gracePeriod now) now), found⟩ :: entered ∧
      ((entered = [] ∧ found.toOption.bind DeletionRequestOutcome.announced? = none) ∨
        ∃ (announced : Instant) (taken : Except QueueError String),
          found.toOption.bind DeletionRequestOutcome.announced? = some announced ∧
          entered = [⟨.queue (deletionJob c target announced now), taken⟩]) := by
  rw [requestDeletion, dialogue_now]
  dsimp only
  rw [dialogue_repository]
  generalize answer (.repository _) _ = answered
  obtain ⟨found, s'⟩ := answered
  cases found with
  | error e => exact ⟨_, _, _, rfl, Or.inl ⟨rfl, rfl⟩⟩
  | ok outcome =>
      refine ⟨_, _, _, rfl, ?_⟩
      cases outcome with
      | requested user | alreadyRequested user =>
          cases hdue : user.deletionScheduledFor with
          | none =>
              refine Or.inl ⟨?_, hdue⟩
              simp only [hdue]
              rfl
          | some due =>
              let job := deletionJob c target due (answer .now s).1
              refine Or.inr ⟨due, (answer (.queue job) s').1, hdue, ?_⟩
              simp only [hdue]
              exact asked_queue answer s' job _
      | userNotFound | userDeleted => exact Or.inl ⟨rfl, rfl⟩

end

end Service

/-! ## The whole way -/

/-- The payload that is put in with a job. -/
def ServiceRequest.payload? : ServiceRequest → Option Json
  | .queue (.enqueue _ payload ..) => some payload
  | _ => none

/-- Every payload that a request for a deletion puts in is written for the user and
an instant.  Whoever the user is, it is read back if a clock can show the instant
and the calendar reaches its year, be it in a leap second.  Whatever is read from a
JSON value, in either form, with other fields, and with any spelling of the user and
any offset, is what is read from the payload once it is written anew. -/
theorem DeletionPayload.read_back :
    (∀ user (announced : Instant), announced.IsProper → announced.InRange →
      read (toJson ⟨user, announced⟩) = .ok ⟨user, announced⟩) ∧
    (∀ j p, read j = .ok p → read p.toJson = .ok p) ∧
    (∀ {σ : Type} (answer : Backend.Respondent σ) (s : σ) (c : ServiceSettings)
        (actor : Actor) (target : UserId),
      let asked := ((Service.requestDeletion c actor target).run.dialogue answer s).asked
      ∀ question ∈ asked, ∀ payload, question.1.payload? = some payload →
        ∃ (now : Instant) (found : Except RepositoryError DeletionRequestOutcome)
          (announced : Instant),
          (⟨.repository (.requestDeletion actor target
            (User.deletionDue c.gracePeriod now) now), found⟩ : Backend.Answered) ∈
              asked ∧
          found.toOption.bind DeletionRequestOutcome.announced? = some announced ∧
          payload = toJson ⟨target, announced⟩) := by
  refine ⟨fun user _ hproper hrange => read_toJson user hproper hrange, ?_, ?_⟩
  · intro j p hread
    obtain ⟨text, htime⟩ := exists_readTime_of_read hread
    obtain ⟨hproper, hrange⟩ := isProper_of_readTime htime
    exact read_toJson p.user hproper hrange
  · intro σ answer s c actor target asked question hasked payload hpayload
    obtain ⟨now, found, entered, heq, hentered⟩ :=
      Service.asked_requestDeletion answer s c actor target
    have hrequest : (⟨.repository (.requestDeletion actor target
        (User.deletionDue c.gracePeriod now) now), found⟩ : Backend.Answered) ∈ asked := by
      simp [asked, heq]
    rw [show asked = _ from heq] at hasked
    rcases List.mem_cons.mp hasked with rfl | hasked
    · cases hpayload
    rcases List.mem_cons.mp hasked with rfl | hasked
    · cases hpayload
    rcases hentered with ⟨rfl, -⟩ | ⟨announced, taken, hannounced, rfl⟩
    · cases hasked
    · obtain rfl := List.mem_singleton.mp hasked
      exact ⟨now, found, announced, hrequest, hannounced,
        (Option.some.inj hpayload).symm⟩

/-- The last leap second that an instant can lie in, and a payload in another form
with a leap second at an offset. -/
theorem DeletionPayload.read_back_leap_seconds :
    let last : DeletionPayload := ⟨⟨7⟩, ⟨8210266876799, 1000000001⟩⟩
    let j : Json := .arr [.str "{00000000-0000-0000-0000-00000000000A}",
      .str "2016-12-31 23:59:60.5+05:30"]
    let p : DeletionPayload := ⟨⟨10⟩, ⟨1483208999, 1500000000⟩⟩
    read last.toJson = .ok last ∧ read j = .ok p ∧ read p.toJson = .ok p := by
  have hproper : Instant.IsProper ⟨8210266876799, 1000000001⟩ :=
    ⟨by decide, fun _ => by decide⟩
  have hrange : Instant.InRange ⟨8210266876799, 1000000001⟩ := by
    unfold Instant.InRange
    decide +kernel
  have hother : read (.arr [.str "{00000000-0000-0000-0000-00000000000A}",
      .str "2016-12-31 23:59:60.5+05:30"]) = .ok ⟨⟨10⟩, ⟨1483208999, 1500000000⟩⟩ :=
    Except.eq_ok_of_toOption (by decide +kernel)
  obtain ⟨hwritten, hread, -⟩ := read_back
  exact ⟨hwritten ⟨7⟩ _ hproper hrange, hother, hread _ _ hother⟩

end AccountAuthority
