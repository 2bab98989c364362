import Dbmail.Lib.CRuntime

/-!
Contract: the CRAM-MD5 exchange object of `dm_cram.c`.

Owns the object with its three pointers, the decoder that splits a reply into
user name and digest, and the verifier. `NULL` pointers are `none`; reading
through one stops the run with a `Fault`.

Does not own: HMAC, hashing and base64, which are fixed functions supplied
from outside, or the life time of the object on the client.
-/

namespace Dbmail.Auth

open Dbmail.Lib

/-- The digest functions of libmhash and `crypt(3)` as the code uses them, each
returning the text it is compared with. The HMAC text has 32 characters. -/
structure Digests where
  hmacMd5 : Bytes → Bytes → Bytes
  md5 : Bytes → Bytes
  md5Base64 : Bytes → Bytes
  whirlpool : Bytes → Bytes
  sha512 : Bytes → Bytes
  sha256 : Bytes → Bytes
  sha1 : Bytes → Bytes
  tiger : Bytes → Bytes
  crypt : Bytes → Bytes → Bytes
  hmacMd5_length : ∀ key message, (hmacMd5 key message).length = 32

/-- `struct Cram_T`. -/
structure Cram where
  challenge : Option Bytes
  username : Option Bytes
  response : Option Bytes
deriving DecidableEq, Repr

/-- All pointers are `NULL`. -/
def cramNew : Cram := ⟨none, none, none⟩

/-- A missing challenge is created from `fresh`, the text
`init_challenge` generates. -/
def cramGetChallenge (fresh : Bytes) (cram : Cram) : Cram × Bytes :=
  match cram.challenge with
  | some challenge => (cram, challenge)
  | none => ({ cram with challenge := some fresh }, fresh)

/-- With its assertion. -/
def cramGetUsername (cram : Cram) : Except Fault Bytes :=
  match cram.username with
  | some username => .ok username
  | none => .error .assertion

/-- The NUL-padded copy of the decoded bytes and their
number. -/
def dmBase64Decode (base64 : Bytes → Bytes) (text : Bytes) : Bytes × Nat :=
  let decoded := base64 text
  (cstr decoded ++ List.replicate (decoded.length + 1 - (cstr decoded).length) 0, decoded.length)

/-- `stridx(s, c)`: the index of the first `c`, or the string length. -/
def stridx (text : Bytes) (char : UInt8) : Nat :=
  (text.takeWhile fun byte => byte ≠ 0 && byte ≠ char).length

/-- `Cram_decode`: `none` is the `FALSE` return, which leaves the object as it
was. -/
def cramDecode (base64 : Bytes → Bytes) (cram : Cram) (response : Bytes) : Option Cram :=
  let text := (dmBase64Decode base64 response).1
  let len := (dmBase64Decode base64 response).2
  let space := stridx text 32
  if space = len then none
  else some { cram with
    username := some (gStrndup text space)
    response := some (gStrndup (text.drop (space + 1)) (len - (space + 1))) }

/-- `Cram_verify`. The comparison runs over `strlen(C->response)` characters. -/
def cramVerify (digests : Digests) (cram : Cram) (credentials : Bytes) : Except Fault Bool :=
  match cram.challenge, cram.response with
  | some challenge, some response =>
    .ok (strncmpEq response (digests.hmacMd5 credentials challenge) response.length)
  | _, _ => .error .nullPointer

/-! ## What decoding and verification establish -/

/-- A decoded object has the challenge it had, a user name and a digest part. -/
theorem cramDecode_some {base64 : Bytes → Bytes} {cram decoded : Cram} {response : Bytes}
    (accepted : cramDecode base64 cram response = some decoded) :
    decoded.challenge = cram.challenge ∧
      (∃ username, decoded.username = some username) ∧
      ∃ digest, decoded.response = some digest := by
  simp only [cramDecode] at accepted
  split at accepted
  · contradiction
  · cases accepted
    exact ⟨rfl, ⟨_, rfl⟩, ⟨_, rfl⟩⟩

end Dbmail.Auth
