import Dbmail.Auth.Validate

/-!
Contract: which replies a CRAM-MD5 login accepts.

Owns the composition of `Cram_decode` with `db_user_validate` for one fetched
password column, the exact set of accepted replies, and the condition under
which acceptance means possession of the complete digest.

Does not own: the account lookups around the password check.
-/

namespace Dbmail.Auth

open Dbmail.Lib

/-- A CRAM-MD5 login against one stored secret: the reply is decoded into the
exchange object that holds the challenge, and the object is validated. A reply
that does not decode ends the exchange. -/
def cramLogin (digests : Digests) (base64 : Bytes → Bytes) (challenge reply : Bytes)
    (fetched : Fetch (Bytes × Bytes)) : Except Fault Int :=
  match cramDecode base64 { cramNew with challenge := some challenge } reply with
  | none => .ok 0
  | some cram => dbUserValidate digests (some cram) fetched none

def digestPart (base64 : Bytes → Bytes) (reply : Bytes) : Option Bytes :=
  (cramDecode base64 cramNew reply).bind Cram.response

private theorem truth_eq_one {passed : Bool} : truth passed = 1 ↔ passed = true := by
  cases passed <;> simp [truth]

/-- Validation of an exchange object accepts a prefix of the HMAC text under
the part of the secret that the column buffer keeps. -/
theorem dbUserValidate_cram_iff (digests : Digests) {cram : Cram}
    {challenge digest : Bytes} (secret encryption : Bytes)
    (challenged : cram.challenge = some challenge) (answered : cram.response = some digest) :
    dbUserValidate digests (some cram) (.row (secret, encryption)) none = .ok 1 ↔
      secret ≠ [] ∧ encryption = [] ∧
        digest <+: digests.hmacMd5 (secret.take columnWidth) challenge := by
  have returned : cramVerify digests cram (secret.take columnWidth) = .ok (strncmpEq digest
      (digests.hmacMd5 (secret.take columnWidth) challenge) digest.length) := by
    rw [cramVerify, challenged, answered]
  have noEncode : strcasecmpEq (encryption.take columnWidth) [] = true ↔ encryption = [] := by
    simp [strcasecmpEq, columnWidth]
  by_cases empty : secret = []
  · simp [dbUserValidate, empty]
  · have kept : secret.take columnWidth ≠ [] := by
      simp [columnWidth, empty]
    by_cases plain : encryption = []
    · subst plain
      simp only [dbUserValidate, kept, returned]
      change Except.ok (truth _) = Except.ok 1 ↔ _
      rw [Except.ok.injEq, truth_eq_one, strncmpEq_length_iff]
      simp [empty]
    · have encoded : strcasecmpEq (encryption.take columnWidth) [] = false := by
        rw [Bool.eq_false_iff]
        exact fun matched => plain (noEncode.mp matched)
      simp [dbUserValidate, kept, encoded, plain]

/-- The replies a CRAM-MD5 login accepts. -/
theorem cramLogin_ok_iff (digests : Digests) (base64 : Bytes → Bytes)
    (challenge reply secret encryption : Bytes) :
    cramLogin digests base64 challenge reply (.row (secret, encryption)) = .ok 1 ↔
      secret ≠ [] ∧ encryption = [] ∧ ∃ digest, digestPart base64 reply = some digest ∧
        digest <+: digests.hmacMd5 (secret.take columnWidth) challenge := by
  have digestPart_eq : digestPart base64 reply =
      (cramDecode base64 { cramNew with challenge := some challenge } reply).bind
        Cram.response := by
    simp only [digestPart, cramDecode]
    split <;> rfl
  rw [digestPart_eq, cramLogin]
  cases decode : cramDecode base64 { cramNew with challenge := some challenge } reply with
  | none => simp
  | some cram =>
    obtain ⟨challenged, -, digest, answered⟩ := cramDecode_some decode
    simp [dbUserValidate_cram_iff digests secret encryption challenged answered, answered]

/-! ## Exactness -/

/-- The digest part passes the comparison without being the complete HMAC text
of the challenge under the secret: it is a proper prefix, or the secret is
longer than the column buffer. -/
def ShortDigest (digests : Digests) (challenge secret digest : Bytes) : Prop :=
  digest <+: digests.hmacMd5 (secret.take columnWidth) challenge ∧
    digest ≠ digests.hmacMd5 secret challenge

/-- A CRAM-MD5 login demands the complete digest exactly when the password is
not usable for CRAM-MD5, the reply does not decode, or its digest part is not
a short digest. -/
theorem cramLogin_exact_iff (digests : Digests) (base64 : Bytes → Bytes)
    (challenge reply secret encryption : Bytes) :
    (cramLogin digests base64 challenge reply (.row (secret, encryption)) = .ok 1 →
        digestPart base64 reply = some (digests.hmacMd5 secret challenge)) ↔
      (secret = [] ∨ encryption ≠ [] ∨ digestPart base64 reply = none ∨
        ∃ digest, digestPart base64 reply = some digest ∧
          ¬ ShortDigest digests challenge secret digest) := by
  rw [cramLogin_ok_iff]
  cases part : digestPart base64 reply with
  | none => simp
  | some digest =>
    simp only [Option.some.injEq, exists_eq_left', ShortDigest]
    tauto

/-- The digest functions at two exchanges: CRAM-MD5 with the secret and the
challenge of the source's own test (`tanstaaftanstaaf`,
`<1896.697170952@postoffice.reston.mci.net>`), and APOP with the password
`tanstaaf` and the stamp `<1896.697170952@dbc.mtview.ca.us>`. -/
def testDigests : Digests where
  hmacMd5 := fun _ _ => lit "b913a602c7eda7a495b4e6e7334d3890"
  md5 := fun _ => lit "c4c9334bac560ecc979e58001b3e22fb"
  md5Base64 := fun _ => []
  whirlpool := fun _ => []
  sha512 := fun _ => []
  sha256 := fun _ => []
  sha1 := fun _ => []
  tiger := fun _ => []
  crypt := fun _ _ => []
  hmacMd5_length := fun _ _ => by decide

/-- The reply `dGltIA==`, which is `tim` and an empty digest part, logs in. -/
theorem cramLogin_accepts_empty_digest : ¬ (cramLogin testDigests (fun _ => lit "tim ")
          (lit "<1896.697170952@postoffice.reston.mci.net>") (lit "dGltIA==")
          (.row (lit "tanstaaftanstaaf", [])) = .ok 1 →
        digestPart (fun _ => lit "tim ") (lit "dGltIA==") =
          some (testDigests.hmacMd5 (lit "tanstaaftanstaaf")
            (lit "<1896.697170952@postoffice.reston.mci.net>"))) := by
  intro exact
  have accepted := exact (by rfl)
  revert accepted
  decide

end Dbmail.Auth
