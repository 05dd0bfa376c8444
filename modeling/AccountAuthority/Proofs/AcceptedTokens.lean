import AccountAuthority.Oidc
import Mathlib.Data.List.Forall2

/-!
# Accepted identity tokens

Whatever an identity token looks like, if it is accepted then it is signed with
the pinned key of the provider, has not run out, and says what the identity that
comes out of it says.  An issuer and an audience that it names are the expected
ones.  It need not name them.
-/

namespace AccountAuthority

/-! ## The parts of a token -/

namespace Text

variable {α : Type} [DecidableEq α] {sep : α} {before after xs : List α}

theorem takeWhile_ne_append (hxs : sep ∉ xs) (ys : List α) :
    (xs ++ ys).takeWhile (· ≠ sep) = xs ++ ys.takeWhile (· ≠ sep) := by
  refine List.takeWhile_append_of_pos fun x hx => ?_
  rw [decide_eq_true_eq]
  rintro rfl
  exact hxs hx

theorem splitLast?_append (before : List α) (hafter : sep ∉ after) :
    splitLast? sep (before ++ sep :: after) = some (before, after) := by
  have htake : ((before ++ sep :: after).reverse.takeWhile (· ≠ sep)).reverse =
      after := by
    rw [List.reverse_append, List.reverse_cons, List.append_assoc,
      takeWhile_ne_append fun h => hafter (List.mem_reverse.mp h)]
    simp
  have hlength : (before ++ sep :: after).length - after.length - 1 =
      before.length := by
    rw [List.length_append, List.length_cons]
    omega
  rw [splitLast?, htake, if_neg]
  · rw [hlength, List.take_left]
  · rw [List.length_append, List.length_cons]
    omega

theorem splitLast?_of_notMem (hxs : sep ∉ xs) : splitLast? sep xs = none := by
  have htake : (xs.reverse.takeWhile (· ≠ sep)).reverse = xs := by
    rw [← List.append_nil xs.reverse,
      takeWhile_ne_append fun h => hxs (List.mem_reverse.mp h)]
    simp
  rw [splitLast?, htake, if_pos rfl]

theorem splitLast?_eq_some_iff :
    splitLast? sep xs = some (before, after) ↔
      xs = before ++ sep :: after ∧ sep ∉ after := by
  constructor
  · intro h
    by_cases hmem : sep ∈ xs
    · obtain ⟨as, bs, hxs, hbs⟩ :=
        List.eq_append_cons_of_mem (List.mem_reverse.mpr hmem)
      have hsplit : xs = bs.reverse ++ sep :: as.reverse := by
        rw [← List.reverse_reverse xs, hxs]
        simp
      have hlast : sep ∉ as.reverse := fun h => hbs (List.mem_reverse.mp h)
      rw [hsplit, splitLast?_append _ hlast] at h
      cases h
      exact ⟨hsplit, hlast⟩
    · rw [splitLast?_of_notMem hmem] at h
      cases h
  · rintro ⟨rfl, hafter⟩
    exact splitLast?_append before hafter

end Text

theorem Except.bind_eq_ok
    {ε α β : Type} {x : Except ε α} {f : α → Except ε β} {b : β}
    (h : x >>= f = .ok b) : ∃ a, x = .ok a ∧ f a = .ok b := by
  cases x with
  | error _ => cases h
  | ok a => exact ⟨a, rfl, h⟩

theorem Except.eq_ok_of_toOption
    {ε α : Type} {x : Except ε α} {a : α} (h : x.toOption = some a) : x = .ok a := by
  cases x with
  | error _ => cases h
  | ok b => exact congrArg Except.ok (Option.some.inj h)

namespace Jwt

/-- The three parts of a token, as they are written. -/
structure Parts where
  head : List Char
  body : List Char
  signature : List Char
  body_undotted : '.' ∉ body
  signature_undotted : '.' ∉ signature

namespace Parts

/-- What is signed. -/
def message (p : Parts) : List Char :=
  p.head ++ '.' :: p.body

/-- The token that is made of the parts. -/
def text (p : Parts) : String :=
  String.ofList (p.message ++ '.' :: p.signature)

/-- The parts hold a header, claims and a signature of the two by a key. -/
structure SignedBy
    (p : Parts) (key : Rsa.PublicKey) (header claims : Json) : Prop where
  header : decodePart p.head = .ok header
  claims : decodePart p.body = .ok claims
  signature : ∃ bytes, Base64.url.decodeChars? p.signature = some bytes ∧
    key.verifies (Bytes.ofString (String.ofList p.message)) bytes = true

/-- Tokens that are alike have the same claims in them. -/
theorem body_eq_of_text_eq {p q : Parts} (h : p.text = q.text) : p.body = q.body := by
  have houter := Text.splitLast?_append p.message p.signature_undotted
  rw [String.ofList_injective h, Text.splitLast?_append _ q.signature_undotted] at houter
  have hmessage : q.message = p.message := congrArg Prod.fst (Option.some.inj houter)
  have hinner := Text.splitLast?_append p.head p.body_undotted
  rw [message, message] at hmessage
  rw [← hmessage, Text.splitLast?_append _ q.body_undotted] at hinner
  exact congrArg Prod.snd (Option.some.inj hinner.symm)

end Parts

/-! ## What is checked -/

/-- A claim that holds an instant is a number. -/
theorem timeClaim_eq_value
    {value : Option Json} {t : ℕ} (h : timeClaim value = .ok (.value t)) :
    value.bind seconds? = some t := by
  unfold timeClaim at h
  split at h
  · cases h
  · cases h
  · cases h
  next j _ _ =>
    split at h
    next n hn =>
      cases h
      exact hn
    · cases h

/-- The registered claims pass the check at an instant. -/
structure Admissible (e : Expectation) (now : Instant) (claims : Json) : Prop where
  unexpired : ∃ t, (claims.get? "exp").bind seconds? = some t ∧ now.seconds - leeway ≤ t
  issuer : ∀ names, namesClaim (claims.get? "iss") = .value names → e.issuer ∈ names
  audience : ∀ names, namesClaim (claims.get? "aud") = .value names →
    ∃ audience, e.audience = some audience ∧ audience ∈ names

end Jwt

theorem Json.get?_of_filter
    {fields : List (String × Json)} {name : String} {found : List (String × Json)}
    (h : fields.filter (fun f => f.1 == name) = found) :
    (Json.obj fields).get? name = found.getLast?.map (·.2) := by
  rw [get?, ← h, ← List.head?_filter, List.filter_reverse, List.head?_reverse]

theorem Json.members?_obj
    {fields : List (String × Json)} {names : List String} {values : List (Option Json)}
    (h : (Json.obj fields).members? names = some values) :
    values = names.map (Json.obj fields).get? := by
  rw [members?] at h
  induction names generalizing values with
  | nil =>
      cases h
      rfl
  | cons name names ih =>
      rw [List.mapM_cons] at h
      obtain ⟨value, hvalue, h⟩ := Option.bind_eq_some_iff.mp h
      obtain ⟨rest, hrest, h⟩ := Option.bind_eq_some_iff.mp h
      cases h
      rw [List.map_cons, ← ih hrest]
      congr 1
      split at hvalue
      next hfilter =>
        cases hvalue
        rw [Json.get?_of_filter hfilter]
        rfl
      next f hfilter =>
        cases hvalue
        rw [Json.get?_of_filter hfilter]
        rfl
      · cases hvalue

/-- A value that is read as records of different sizes is an object. -/
theorem Json.eq_obj_of_members?
    {j : Json} {names names' : List String} {values values' : List (Option Json)}
    (h : j.members? names = some values) (h' : j.members? names' = some values')
    (hlength : names.length ≠ names'.length) : ∃ fields, j = .obj fields := by
  cases j with
  | obj fields => exact ⟨fields, rfl⟩
  | arr items =>
      simp only [members?, Option.ite_none_right_eq_some] at h h'
      exact absurd (h.1.symm.trans h'.1) hlength
  | _ => cases h

namespace Jwt

variable {e : Expectation} {now : Instant}

theorem validate_members {claims : Json} (h : validate e now claims = .ok ()) :
    ∃ values, claims.members? ["exp", "nbf", "sub", "iss", "aud"] = some values := by
  unfold validate at h
  split at h
  next hmembers => exact ⟨_, hmembers⟩
  · cases h

theorem validate_obj
    {fields : List (String × Json)} (h : validate e now (.obj fields) = .ok ()) :
    Admissible e now (.obj fields) := by
  unfold validate at h
  split at h
  next exp nbf sub iss aud hmembers =>
    have hfields := Json.members?_obj hmembers
    simp only [List.map_cons, List.map_nil, List.cons.injEq, and_true] at hfields
    obtain ⟨rfl, rfl, rfl, rfl, rfl⟩ := hfields
    obtain ⟨expiry, hexpiry, h⟩ := Except.bind_eq_ok h
    obtain ⟨start, hstart, h⟩ := Except.bind_eq_ok h
    cases expiry with
    | absent => cases h
    | unreadable => cases h
    | value t =>
        simp only [bind, Except.bind] at h
        split at h
        · cases h
        next hlive =>
          refine ⟨⟨t, timeClaim_eq_value hexpiry, Int.not_lt.mp hlive⟩, ?_, ?_⟩
          · intro names hnames
            rw [hnames] at h
            dsimp only at h
            split at h
            · cases h
            next hissuer => exact List.contains_iff_mem.mp (not_not.mp hissuer)
          · intro names hnames
            cases hexpected : e.audience with
            | none =>
                rw [hnames, hexpected] at h
                split at h
                · split at h <;> cases h
                · cases h
            | some audience =>
                refine ⟨audience, rfl, List.contains_iff_mem.mp ?_⟩
                by_contra hmissing
                rw [hnames, hexpected] at h
                simp only [if_pos hmissing] at h
                split at h
                · split at h <;> cases h
                · cases h
  · cases h

/-- What is known of a token that is accepted, and of which a value was read. -/
theorem decode_eq_ok
    {α : Type} {key : Option Rsa.PublicKey} {read : Json → Option α} {token : String}
    {value : α} (h : decode key e now read token = .ok value) :
    ∃ pinned parts header claims, key = some pinned ∧ token = Parts.text parts ∧
      parts.SignedBy pinned header claims ∧ headerAlgorithm? header = some "RS256" ∧
      read claims = some value ∧ validate e now claims = .ok () := by
  unfold decode at h
  split at h
  · cases h
  next message signature hmessage =>
    obtain ⟨htoken, hsignature⟩ := Text.splitLast?_eq_some_iff.mp hmessage
    split at h
    · cases h
    next head body hhead =>
      obtain ⟨rfl, hbody⟩ := Text.splitLast?_eq_some_iff.mp hhead
      obtain ⟨header, hheader, h⟩ := Except.bind_eq_ok h
      split at h
      · cases h
      next algorithm halgorithm =>
        split at h
        · cases h
        next hrs256 =>
          rw [not_not] at hrs256
          subst hrs256
          split at h
          · cases h
          next bytes hbytes =>
            cases key with
            | none => cases h
            | some pinned =>
                dsimp only at h
                split at h
                · cases h
                next hverified =>
                  obtain ⟨claims, hclaims, h⟩ := Except.bind_eq_ok h
                  split at h
                  · cases h
                  next value' hread =>
                    obtain ⟨⟨⟩, hvalid, h⟩ := Except.bind_eq_ok h
                    obtain rfl := Except.ok.inj h
                    refine ⟨pinned, ⟨head, body, signature, hbody, hsignature⟩, header,
                      claims, rfl, ?_, ⟨hheader, hclaims, bytes, hbytes, ?_⟩,
                      halgorithm, hread, hvalid⟩
                    · rw [Parts.text, Parts.message, ← htoken, String.ofList_toList]
                    · exact not_not.mp hverified

theorem decode_text
    {α : Type} {key : Rsa.PublicKey} {read : Json → Option α} {parts : Parts}
    {bytes : Bytes} {value : α}
    (hhead : (decodePart parts.head).toOption.bind headerAlgorithm? = some "RS256")
    (hbytes : Base64.url.decodeChars? parts.signature = some bytes)
    (hverifies :
      key.verifies (Bytes.ofString (String.ofList parts.message)) bytes = true)
    (hbody : (decodePart parts.body).toOption.bind (fun claims =>
      (validate e now claims).toOption.bind fun _ => read claims) = some value) :
    decode (some key) e now read parts.text = .ok value := by
  obtain ⟨header, hheader, halgorithm⟩ := Option.bind_eq_some_iff.mp hhead
  obtain ⟨claims, hclaims, hvalid⟩ := Option.bind_eq_some_iff.mp hbody
  obtain ⟨⟨⟩, hvalidated, hread⟩ := Option.bind_eq_some_iff.mp hvalid
  unfold decode
  rw [Parts.text, String.toList_ofList, Text.splitLast?_append _ parts.signature_undotted]
  dsimp only
  rw [Parts.message, Text.splitLast?_append _ parts.body_undotted]
  dsimp only
  rw [Except.eq_ok_of_toOption hheader]
  simp only [bind, Except.bind]
  rw [halgorithm, hbytes]
  dsimp only
  rw [if_neg (by simp), ← Parts.message, hverifies, if_neg (by simp),
    Except.eq_ok_of_toOption hclaims]
  dsimp only
  rw [hread]
  dsimp only
  rw [Except.eq_ok_of_toOption hvalidated]

end Jwt

/-! ## What is read -/

namespace IdClaims

/-- A value that stands for the truth. -/
def Affirms (value : Json) : Prop :=
  value = .bool true ∨ ∃ text, value = .str text ∧ text.map Char.toLower = "true"

theorem flag?_eq_true_iff {value : Json} :
    flag? value = some true ↔ Affirms value := by
  cases value <;> simp [flag?, Affirms]

end IdClaims

/-- The claims of a token say what an identity says. -/
structure ProviderIdentity.StatedBy (identity : ProviderIdentity) (claims : Json) :
    Prop where
  subject : claims.get? "sub" = some (.str identity.subject)
  email : ∀ email, identity.email = some email ↔ claims.get? "email" = some (.str email)
  emailVerified : identity.emailVerified = true ↔
    ∃ value, claims.get? "email_verified" = some value ∧ IdClaims.Affirms value

theorem Json.text?_eq_some_iff {j : Json} {text : String} :
    j.text? = some text ↔ j = .str text := by
  cases j <;> simp [text?]

theorem Json.optional?_text?_eq_some
    {value : Option Json} {text? : Option String}
    (h : Json.optional? Json.text? value = some text?) (text : String) :
    text? = some text ↔ value = some (.str text) := by
  unfold optional? at h
  split at h
  · cases h
    simp
  · cases h
    simp
  next j _ =>
    obtain ⟨t, ht, rfl⟩ := Option.map_eq_some_iff.mp h
    rw [Json.text?_eq_some_iff.mp ht]
    simp

theorem Jwt.field?_obj
    {α : Type} {fields : List (String × Json)} {name : String} {read : Json → Option α}
    {value : α} (h : field? (.obj fields) name read = some value) :
    ∃ j, (Json.obj fields).get? name = some j ∧ read j = some value := by
  unfold field? at h
  obtain ⟨values, hvalues, h⟩ := Option.bind_eq_some_iff.mp h
  obtain rfl := Json.members?_obj hvalues
  rw [List.map_singleton] at h
  split at h
  next j hj =>
    rw [List.cons.injEq] at hj
    exact ⟨j, hj.1, h⟩
  · cases h

theorem Jwt.optionalField?_obj
    {α : Type} {fields : List (String × Json)} {name : String} {read : Json → Option α}
    {value : Option α} (h : optionalField? (.obj fields) name read = some value) :
    Json.optional? read ((Json.obj fields).get? name) = some value := by
  unfold optionalField? at h
  obtain ⟨values, hvalues, h⟩ := Option.bind_eq_some_iff.mp h
  obtain rfl := Json.members?_obj hvalues
  exact h

theorem IdClaims.flagField?_obj
    {fields : List (String × Json)} {name : String} {value : Bool}
    (h : flagField? (.obj fields) name = some value) :
    value = true ↔ ∃ j, (Json.obj fields).get? name = some j ∧ Affirms j := by
  unfold flagField? at h
  obtain ⟨values, hvalues, h⟩ := Option.bind_eq_some_iff.mp h
  obtain rfl := Json.members?_obj hvalues
  rw [List.map_singleton] at h
  split at h
  next hj =>
    rw [List.cons.injEq] at hj
    cases h
    simp [hj.1]
  next j hj =>
    rw [List.cons.injEq] at hj
    rw [hj.1]
    simp [← flag?_eq_true_iff, h]
  · cases h

theorem IdClaims.ofJson?_members
    {claims : Json} {c : IdClaims} (h : ofJson? claims = some c) :
    ∃ values, claims.members? ["sub"] = some values := by
  obtain ⟨subject, hsubject, h⟩ := Option.bind_eq_some_iff.mp h
  obtain ⟨values, hvalues, -⟩ := Option.bind_eq_some_iff.mp hsubject
  exact ⟨values, hvalues⟩

theorem IdClaims.ofJson?_obj
    {fields : List (String × Json)} {c : IdClaims} (provider : String)
    (h : ofJson? (.obj fields) = some c) :
    ProviderIdentity.StatedBy ⟨provider, c.subject, c.email, c.emailVerified⟩
      (.obj fields) := by
  obtain ⟨subject, hsubject, h⟩ := Option.bind_eq_some_iff.mp h
  obtain ⟨email, hemail, h⟩ := Option.bind_eq_some_iff.mp h
  obtain ⟨emailVerified, hverified, h⟩ := Option.bind_eq_some_iff.mp h
  cases h
  obtain ⟨j, hj, htext⟩ := Jwt.field?_obj hsubject
  refine ⟨hj.trans (congrArg some (Json.text?_eq_some_iff.mp htext)), fun text => ?_,
    flagField?_obj hverified⟩
  exact Json.optional?_text?_eq_some (Jwt.optionalField?_obj hemail) text

/-! ## The configured providers -/

namespace OidcProvider

/-- The key that is pinned for a provider. -/
def Pins (p : OidcProvider) (key : Rsa.PublicKey) : Prop :=
  ∃ text content, p.key = .text text ∧ Jwt.keyContent? text = some content ∧
    Rsa.PublicKey.ofDer? content = some key

/-- What the verifier expects of the tokens of a provider. -/
def expectation (p : OidcProvider) : Jwt.Expectation :=
  ⟨p.issuer, some p.audience⟩

end OidcProvider

namespace OidcVerifier

theorem pin_eq_ok {p : OidcProvider} {pinned : PinnedProvider} (h : pin p = .ok pinned) :
    pinned.name = normalizeProvider p.name ∧ pinned.expectation = p.expectation ∧
      ∀ key, Rsa.PublicKey.ofDer? pinned.key = some key → p.Pins key := by
  obtain ⟨text, htext, h⟩ := Except.bind_eq_ok h
  split at h
  · cases h
  next content hcontent =>
    obtain rfl := Except.ok.inj h
    refine ⟨rfl, rfl, fun key hkey => ⟨text, content, ?_, hcontent, hkey⟩⟩
    cases hp : p.key with
    | text s =>
        rw [hp] at htext
        cases htext
        rfl
    | missing path =>
        rw [hp] at htext
        cases htext

theorem pin_of_content
    {p : OidcProvider} {text : String} {content : Bytes} (htext : p.key = .text text)
    (hcontent : Jwt.keyContent? text = some content) :
    pin p = .ok ⟨normalizeProvider p.name, p.expectation, content⟩ := by
  rw [pin, htext]
  simp only [Jwt.KeyFile.read, bind, Except.bind]
  rw [hcontent]
  rfl

theorem forall₂_pin
    {providers : List OidcProvider} {pinned : List PinnedProvider}
    (h : providers.mapM pin = .ok pinned) :
    List.Forall₂ (fun p q => pin p = .ok q) providers pinned := by
  induction providers generalizing pinned with
  | nil =>
      cases h
      exact .nil
  | cons p providers ih =>
      rw [List.mapM_cons] at h
      obtain ⟨q, hq, h⟩ := Except.bind_eq_ok h
      obtain ⟨qs, hqs, h⟩ := Except.bind_eq_ok h
      cases h
      exact .cons hq (ih hqs)

theorem find?_of_forall₂_pin
    {providers : List OidcProvider} {pinned : List PinnedProvider} {name : String}
    {q : PinnedProvider} (h : List.Forall₂ (fun p q => pin p = .ok q) providers pinned)
    (hq : pinned.find? (fun q => q.name = name) = some q) :
    ∃ p, providers.find? (fun p => normalizeProvider p.name = name) = some p ∧
      pin p = .ok q := by
  induction h with
  | nil => cases hq
  | @cons p q' providers pinned hpin _ ih =>
      rw [List.find?_cons, ← (pin_eq_ok hpin).1]
      rw [List.find?_cons] at hq
      cases hname : decide (q'.name = name) with
      | true =>
          rw [hname] at hq
          obtain rfl := Option.some.inj hq
          exact ⟨p, rfl, hpin⟩
      | false =>
          rw [hname] at hq
          exact ih hq

theorem verify_of_decode
    {v : OidcVerifier} {provider token : String} {now : Instant} {p : PinnedProvider}
    {key : Rsa.PublicKey} {claims : IdClaims}
    (hp : v.providers.find? (fun p => p.name = normalizeProvider provider) = some p)
    (hkey : Rsa.PublicKey.ofDer? p.key = some key)
    (hdecode : Jwt.decode (some key) p.expectation now IdClaims.ofJson? token =
      .ok claims) :
    v.verify provider token now = .verified ⟨normalizeProvider provider,
      claims.subject, claims.email, claims.emailVerified⟩ := by
  unfold verify
  dsimp only
  rw [hp]
  dsimp only
  rw [hkey, hdecode]

end OidcVerifier

/-! ## A signed token -/

theorem ByteArray.toList_loop (bs : ByteArray) (i : ℕ) (front : List UInt8) :
    ByteArray.toList.loop bs i front = front.reverse ++ bs.data.toList.drop i := by
  induction hrest : bs.size - i generalizing i front with
  | zero =>
      rw [ByteArray.toList.loop, if_neg (by omega), List.drop_eq_nil_of_le,
        List.append_nil]
      rw [Array.length_toList]
      exact Nat.sub_eq_zero_iff_le.mp hrest
  | succ n ih =>
      have hi : i < bs.data.toList.length := by
        rw [Array.length_toList]
        exact Nat.lt_of_sub_eq_succ hrest
      rw [ByteArray.toList.loop, if_pos (Nat.lt_of_sub_eq_succ hrest),
        ih _ _ (by omega), List.reverse_cons, List.append_assoc,
        List.drop_eq_getElem_cons hi, List.singleton_append]
      congr 2
      exact getElem!_pos bs.data i hi

theorem Bytes.ofString_eq_flatMap (s : String) :
    ofString s = s.toList.flatMap String.utf8EncodeChar := by
  rw [ofString, ByteArray.toList, ByteArray.toList_loop, List.drop_zero]
  rw [String.toUTF8_eq_toByteArray, ← String.utf8Encode_toList, List.utf8Encode,
    List.data_toByteArray]
  rfl

theorem Base64.dot_notMem_encodeChars (bs : Bytes) : '.' ∉ url.encodeChars bs := by
  have hchar : ∀ n, '.' ≠ url.charOf n := by
    intro n
    unfold charOf
    split
    next hn => exact (by decide : ∀ n < 26, '.' ≠ Char.ofNat ('A'.toNat + n)) n hn
    split
    next hn => exact (by decide : ∀ n < 52, '.' ≠ Char.ofNat ('a'.toNat + n - 26)) n hn
    split
    next hlow hn =>
      exact (by decide : ∀ n < 62, ¬n < 52 → '.' ≠ Char.ofNat ('0'.toNat + n - 52))
        n hn hlow
    split <;> decide
  fun_induction encodeChars url bs with
  | case1 a b c rest n ih => simp [hchar, ih]
  | case2 a b n => simpa [padding] using ⟨hchar _, hchar _, hchar _⟩
  | case3 a n => simpa [padding] using ⟨hchar _, hchar _⟩
  | case4 => simp

/-- The bytes of 64-bit words, the most significant ones first. -/
def ofWords (words : List ℕ) : Bytes :=
  words.flatMap (Bytes.ofNat 8)

def samplePinnedKey : Rsa.PublicKey where
  modulus := Bytes.toNat (ofWords [
    0x9acc09e2ab438b89, 0x2b023a143e1d5ca9, 0xb6bc0c11a583e582, 0x73cf623eca308570,
    0xb456710df48fdc67, 0xc993bd471b76958b, 0xdeaa51f403bdfec3, 0x74adfa5cd99a1b37,
    0x1e7ae97565083e01, 0x710761223fd1dfea, 0xdcb6fdedbd09dc40, 0x0943f1eda1a1e4cd,
    0x9588048e77391e15, 0x43d834e16462ec59, 0x4c63463131f62734, 0xf03e901abef71799,
    0x9f7de0e3bf049c76, 0xe480610d22beb203, 0xe087535c7a28226a, 0x47cbe8bc13c0879e,
    0x9e43d56aeb3d1a2d, 0x468b652b98bde1af, 0xfa3930cbf834070d, 0xfa703322f647565c,
    0xa43a7d5c8ba3e6f7, 0x7f4b0d2616895654, 0xa23ed6d1d15eea49, 0x4bf57b2759a5113a,
    0xc6f95bd2102a5c09, 0x0cc7c2b3b1470e31, 0x113e834257045df7, 0xf5448f820fbb591d])
  exponent := 65537

def sampleKeyText : List Char :=
  "-----BEGIN RSA PUBLIC KEY-----\n".toList ++
    Base64.standard.encodeChars samplePinnedKey.toDer ++
    "\n-----END RSA PUBLIC KEY-----\n".toList

def sampleProvider : OidcProvider where
  name := "google"
  issuer := "https://accounts.example.test"
  audience := "identity-service-test"
  key := .text (String.ofList sampleKeyText)

def sampleVerifier : OidcVerifier :=
  ⟨[⟨"google", sampleProvider.expectation, samplePinnedKey.toDer⟩]⟩

def sampleClaims : Json := .obj [
  ("sub", .str "s-1"), ("email", .str "a@b.c"), ("email_verified", .bool true),
  ("exp", .int 4102444800)]

/-- What the provider has signed. -/
def sampleSignature : Bytes := ofWords [
  0x8415cdbddb24d0a2, 0x53d2761c10d88b30, 0x8bdec741375a81a4, 0x51e98c87cb1ab5a0,
  0xb2ec90420d2d5dbf, 0x4dcd85548123c2b0, 0x504a23b95c45a1e8, 0x39141a274bc4e1a0,
  0x8dd3f5846c69227d, 0xdb76af4f5b656756, 0x5643e296eb3cbffd, 0x712ed6cbad184288,
  0x49ffef831c01b21d, 0x5dc78ce7a62d72b0, 0xce924ca9ff6d0a35, 0x697c8ef75276aa11,
  0x7440f0be02191edb, 0xfdf4566324daf96d, 0x2cc6453b482def01, 0x5d2c227757e47a64,
  0x8248982f5d6196e0, 0x46784f9dd9996639, 0x1f387f1917a2fbe2, 0x91ca1976e809621b,
  0x79a7330d360ff55b, 0x8f9d77d234bed90e, 0xb90beab272672a82, 0x55e66e80300b5501,
  0xc5a25d8b966778d7, 0x4c0804dc580bad5b, 0x46934750eb86af2c, 0x61ee9935cdb0b5e4]

/-- A token that names neither an issuer nor an audience. -/
def sampleIdToken : Jwt.Parts where
  head := Base64.url.encodeChars (Bytes.ofString (Json.obj [("alg", .str "RS256")]).render)
  body := Base64.url.encodeChars (Bytes.ofString sampleClaims.render)
  signature := Base64.url.encodeChars sampleSignature
  body_undotted := Base64.dot_notMem_encodeChars _
  signature_undotted := Base64.dot_notMem_encodeChars _

/-- The bytes that are signed. -/
def sampleMessage : Bytes := ofWords [
  0x65794a6862476369, 0x4f694a53557a4931, 0x4e694a392e65794a, 0x7a645749694f694a,
  0x7a4c5445694c434a, 0x6c62574670624349, 0x36496d4641596935, 0x6a496977695a5731,
  0x6861577866646d56, 0x7961575a705a5751, 0x694f6e5279645755, 0x73496d5634634349,
  0x364e4445774d6a51, 0x304e4467774d4830]

def sampleIdentity : ProviderIdentity :=
  ⟨"google", "s-1", some "a@b.c", true⟩

theorem samplePinnedKey_verifies :
    samplePinnedKey.verifies (Bytes.ofString (String.ofList sampleIdToken.message))
      sampleSignature = true := by
  have hmessage : Bytes.ofString (String.ofList sampleIdToken.message) =
      sampleMessage := by
    rw [Bytes.ofString_eq_flatMap, String.toList_ofList]
    decide +kernel
  have hdigest : sha256 sampleMessage = ofWords [
      0xf9e0c5a24d413fc9, 0xa0a15b1a13cb273d, 0xa8469473c0a791b9,
      0x46ca8b99483c3be0] := by
    decide +kernel
  rw [hmessage, Rsa.PublicKey.verifies, Rsa.padded, hdigest]
  decide +kernel

/-- The header, the signature and the claims of the token are read back. -/
theorem sampleIdToken_reads :
    (Jwt.decodePart sampleIdToken.head).toOption.bind Jwt.headerAlgorithm? =
        some "RS256" ∧
      Base64.url.decodeChars? sampleIdToken.signature = some sampleSignature ∧
      (Jwt.decodePart sampleIdToken.body).toOption.bind (fun claims =>
        (Jwt.validate sampleProvider.expectation ⟨0, 0⟩ claims).toOption.bind fun _ =>
          IdClaims.ofJson? claims) = some ⟨"s-1", some "a@b.c", true⟩ := by
  decide +kernel

theorem normalizeProvider_google : normalizeProvider "google" = "google" := by
  decide

theorem sampleVerifier_verify :
    sampleVerifier.verify "google" sampleIdToken.text ⟨0, 0⟩ =
      .verified sampleIdentity := by
  have hkey : Rsa.PublicKey.ofDer? samplePinnedKey.toDer = some samplePinnedKey := by
    decide +kernel
  have hp : sampleVerifier.providers.find?
      (fun p => p.name = normalizeProvider "google") =
        some ⟨"google", sampleProvider.expectation, samplePinnedKey.toDer⟩ := by
    rw [normalizeProvider_google]
    exact List.find?_cons_of_pos rfl
  obtain ⟨hhead, hsignature, hbody⟩ := sampleIdToken_reads
  have hverified := OidcVerifier.verify_of_decode hp hkey
    (Jwt.decode_text hhead hsignature samplePinnedKey_verifies hbody)
  rw [normalizeProvider_google] at hverified
  exact hverified

theorem create_sampleProvider :
    OidcVerifier.create [sampleProvider] = .ok sampleVerifier := by
  have hcontent : Jwt.keyContent? (String.ofList sampleKeyText) =
      some samplePinnedKey.toDer := by
    unfold Jwt.keyContent? Pem.parse?
    rw [String.toList_ofList]
    decide +kernel
  have hpin := OidcVerifier.pin_of_content (p := sampleProvider) rfl hcontent
  rw [show sampleProvider.name = "google" from rfl, normalizeProvider_google] at hpin
  rw [OidcVerifier.create, List.mapM_cons, hpin]
  rfl

/-- A token that is accepted is signed with RS256 by the key of the last provider
that is configured under the name, up to its form; it has not run out, and the
issuer and the audience that it names, if it names them, are those of the
provider.  The identity is the one that the token states, and carries the name of
the provider in normal form. -/
theorem verified_identity
    {providers : List OidcProvider} {v : OidcVerifier} {provider token : String}
    {now : Instant} {identity : ProviderIdentity}
    (hcreate : OidcVerifier.create providers = .ok v)
    (hverified : v.verify provider token now = .verified identity) :
    ∃ p key parts header claims,
      providers.reverse.find?
          (fun p => normalizeProvider p.name = normalizeProvider provider) = some p ∧
        p.Pins key ∧ token = Jwt.Parts.text parts ∧ parts.SignedBy key header claims ∧
        Jwt.headerAlgorithm? header = some "RS256" ∧
        Jwt.Admissible p.expectation now claims ∧ identity.StatedBy claims ∧
        identity.provider = normalizeProvider provider := by
  obtain ⟨pinned, hpinned, h⟩ := Except.bind_eq_ok hcreate
  obtain rfl := Except.ok.inj h
  unfold OidcVerifier.verify at hverified
  dsimp only at hverified
  split at hverified
  · cases hverified
  next q hq =>
    obtain ⟨p, hp, hpin⟩ := OidcVerifier.find?_of_forall₂_pin
      (List.forall₂_reverse_iff.mpr (OidcVerifier.forall₂_pin hpinned)) hq
    obtain ⟨-, hexpectation, hkey⟩ := OidcVerifier.pin_eq_ok hpin
    split at hverified
    · cases hverified
    next c hdecode =>
      obtain rfl := OidcVerification.verified.inj hverified
      obtain ⟨key, parts, header, claims, hpinnedKey, htoken, hsigned, hheader, hread,
        hvalid⟩ := Jwt.decode_eq_ok hdecode
      obtain ⟨values, hvalues⟩ := Jwt.validate_members hvalid
      obtain ⟨values', hvalues'⟩ := IdClaims.ofJson?_members hread
      obtain ⟨fields, rfl⟩ := Json.eq_obj_of_members? hvalues hvalues' (by decide)
      refine ⟨p, key, parts, header, .obj fields, hp, hkey key hpinnedKey, htoken,
        hsigned, hheader, ?_, IdClaims.ofJson?_obj _ hread, rfl⟩
      rw [← hexpectation]
      exact Jwt.validate_obj hvalid

theorem verified_identity_sample :
    OidcVerifier.create [sampleProvider] = .ok sampleVerifier ∧
      sampleVerifier.verify "google" sampleIdToken.text ⟨0, 0⟩ =
        .verified sampleIdentity ∧
      ∃ p key parts header claims,
        [sampleProvider].reverse.find?
            (fun p => normalizeProvider p.name = normalizeProvider "google") = some p ∧
          p.Pins key ∧ sampleIdToken.text = Jwt.Parts.text parts ∧
          parts.SignedBy key header claims ∧
          Jwt.headerAlgorithm? header = some "RS256" ∧
          Jwt.Admissible p.expectation ⟨0, 0⟩ claims ∧ sampleIdentity.StatedBy claims ∧
          sampleIdentity.provider = normalizeProvider "google" :=
  ⟨create_sampleProvider, sampleVerifier_verify,
    verified_identity create_sampleProvider sampleVerifier_verify⟩

/-- A token need not name an issuer, nor an audience. -/
theorem not_issuer_and_audience_named :
    ¬∀ (providers : List OidcProvider) (v : OidcVerifier) (provider token : String)
        (now : Instant) (identity : ProviderIdentity),
      OidcVerifier.create providers = .ok v →
      v.verify provider token now = .verified identity →
      ∃ p key parts header claims,
        providers.reverse.find?
            (fun p => normalizeProvider p.name = normalizeProvider provider) = some p ∧
          token = Jwt.Parts.text parts ∧ parts.SignedBy key header claims ∧
          (∃ names, Jwt.namesClaim (claims.get? "iss") = .value names ∧
            p.issuer ∈ names) ∧
          ∃ names, Jwt.namesClaim (claims.get? "aud") = .value names ∧
            p.audience ∈ names := by
  intro hnamed
  obtain ⟨p, key, parts, header, claims, -, htoken, hsigned, ⟨names, hissuer, -⟩, -⟩ :=
    hnamed _ _ _ _ _ _ create_sampleProvider sampleVerifier_verify
  have hread : Jwt.decodePart sampleIdToken.body = .ok claims := by
    rw [Jwt.Parts.body_eq_of_text_eq htoken]
    exact hsigned.claims
  have hmissing : ((Jwt.decodePart sampleIdToken.body).toOption.map
      fun claims => (claims.get? "iss").isNone) = some true := by
    decide +kernel
  rw [hread] at hmissing
  have hnone : claims.get? "iss" = none := by simpa [Except.toOption] using hmissing
  rw [hnone] at hissuer
  cases hissuer

end AccountAuthority
