/-
ProxyClient/Proofs/Message/Login.lean

Opening a session with credentials.  In the request the user ends with a zero byte, and
the password stands behind its length:

    version   user 0   length password

A user without the zero character is read as it is, and so is the password then, whatever
it holds.  Any other user ends too early, and what stands behind its zero is taken for the
password; so a request may be that of other credentials.
-/
import ProxyClient.Proofs.Message.Writing
import ProxyClient.Proofs.Wire.Layout

namespace ProxyClient

open Wire

/-! ### The request -/

/-- The credentials that a server finds in a request. -/
structure Login where
  /-- The version of the protocol. -/
  version : UInt16
  /-- The user. -/
  user : String
  /-- The bytes of the password. -/
  password : Bytes
  deriving DecidableEq, Repr

/-- Reads the credentials. -/
def Login.decoder : Decoder Login := do
  let version ← u16
  let user ← name
  let password ← counted
  return { version, user, password }

namespace Request

/-- The payload that opens a session. -/
def startupPayload (user password : String) : Bytes :=
  encodeU16 protocolVersion ++ encodeName user ++ encodeText password

/-- It is written behind what is in the buffer, as one frame. -/
theorem write_startup (user password : String) (buffer : Bytes) :
    write (.startup user password) buffer =
      (.ok (), buffer ++ ('S'.toUInt8 ::
        (Bytes.bigEndian 4 ((startupPayload user password).length + 4) ++
          startupPayload user password))) := by
  show (Except.ok (), Frame.write ⟨'S'.toUInt8, startupPayload user password⟩ buffer) = _
  rw [Frame.write_eq, Frame.encode_cons]

/-- Equal requests have equal payloads. -/
theorem startupPayload_eq_of_write {user password user' password' : String} {buffer : Bytes}
    (same : (write (.startup user password) buffer).2 =
      (write (.startup user' password') buffer).2) :
    startupPayload user password = startupPayload user' password' := by
  rw [write_startup, write_startup] at same
  have frames := List.append_cancel_left same
  exact (List.append_inj (List.cons.inj frames).2
    (by rw [Bytes.length_bigEndian, Bytes.length_bigEndian])).2

end Request

/-! ### What is read -/

namespace Login

open Request (startupPayload)

variable {user password user' password' : String}

theorem decoder_startupPayload (named : IsName user)
    (short : (Bytes.ofText password).length < 2 ^ 32) :
    decoder (startupPayload user password) =
      .ok (⟨protocolVersion, user, Bytes.ofText password⟩, []) := by
  have counted := counted_encodeCounted short []
  rw [List.append_nil] at counted
  rw [decoder, startupPayload, List.append_assoc, bind_eq (u16_encodeU16 protocolVersion _),
    bind_eq (name_encodeName named _), encodeText, bind_eq counted]
  rfl

/-- The user that is read is a name, whatever was written. -/
theorem isName_of_decoder {payload rest : Bytes} {login : Login}
    (read : decoder payload = .ok (login, rest)) : IsName login.user := by
  obtain ⟨version, behindVersion, -, readUser⟩ := exists_of_bind_eq_ok read
  obtain ⟨user, behindUser, named, readPassword⟩ := exists_of_bind_eq_ok readUser
  obtain ⟨password, behind, -, made⟩ := exists_of_bind_eq_ok readPassword
  obtain ⟨rfl, -⟩ := Prod.mk.inj (Except.ok.inj made)
  exact isName_of_name named

/-- Equal payloads carry the same credentials, if the users are names. -/
theorem eq_of_startupPayload_eq (named : IsName user) (named' : IsName user')
    (same : startupPayload user password = startupPayload user' password') :
    user = user' ∧ password = password' := by
  rw [startupPayload, startupPayload, List.append_assoc, List.append_assoc] at same
  have fields := List.append_cancel_left same
  have read := name_encodeName named (encodeText password)
  rw [fields, name_encodeName named'] at read
  obtain ⟨users, passwords⟩ := Prod.mk.inj (Except.ok.inj read)
  rw [encodeText, encodeText, encodeCounted, encodeCounted] at passwords
  -- the two lengths need not be compared: each takes four bytes
  have bytes := (List.append_inj passwords
    (by rw [Bytes.length_bigEndian, Bytes.length_bigEndian])).2
  exact ⟨users.symm, (Bytes.ofText_inj.mp bytes).symm⟩

end Login

/-! ### The headline -/

namespace Request

/-- **The credentials are read as they are given if the user holds no zero character**, to
the last byte of the payload, and only then; and no two such credentials make the same
request. -/
theorem startup_decodes {user password : String}
    (short : (Bytes.ofText password).length < 2 ^ 32) (buffer : Bytes) :
    (∃ payload,
      write (.startup user password) buffer =
        (.ok (), buffer ++
          ('S'.toUInt8 :: (Bytes.bigEndian 4 (payload.length + 4) ++ payload))) ∧
      (Login.decoder payload = .ok (⟨protocolVersion, user, Bytes.ofText password⟩, []) ↔
        IsName user)) ∧
    ∀ user' password', IsName user → IsName user' →
      (write (.startup user password) buffer).2 = (write (.startup user' password') buffer).2 →
      user = user' ∧ password = password' := by
  refine ⟨⟨startupPayload user password, write_startup user password buffer, ?_⟩, ?_⟩
  · exact ⟨Login.isName_of_decoder, fun named => Login.decoder_startupPayload named short⟩
  · intro user' password' named named' same
    exact Login.eq_of_startupPayload_eq named named' (startupPayload_eq_of_write same)

/-- A user with a letter of two bytes, and a password with a zero. -/
theorem startup_decodes_accented :
    (Bytes.ofText "a\x00b").length < 2 ^ 32 ∧ IsName "jörg" ∧
      ∃ payload,
        write (.startup "jörg" "a\x00b") [7] =
          (.ok (), [7] ++
            ('S'.toUInt8 :: (Bytes.bigEndian 4 (payload.length + 4) ++ payload))) ∧
        Login.decoder payload = .ok (⟨protocolVersion, "jörg", [97, 0, 98]⟩, []) := by
  have short : (Bytes.ofText "a\x00b").length < 2 ^ 32 := by decide
  have named : IsName "jörg" := by decide
  obtain ⟨payload, written, read⟩ := (@startup_decodes "jörg" _ short [7]).1
  exact ⟨short, named, payload, written, read.mpr named⟩

/-- A user that goes on behind a zero is read without the rest, and the request is that of
a shorter user with another password. -/
theorem startup_confuses :
    ¬ ∀ (user password user' password' : String),
      (Bytes.ofText user).length < 2 ^ 32 → (Bytes.ofText password).length < 2 ^ 32 →
      (Bytes.ofText user').length < 2 ^ 32 → (Bytes.ofText password').length < 2 ^ 32 →
      (∃ login, Login.decoder (startupPayload user password) = .ok (login, []) ∧
        login.user = user ∧ login.password = Bytes.ofText password) ∧
      (write (.startup user password) [] = write (.startup user' password') [] →
        user = user' ∧ password = password') := by
  intro carries
  have same : startupPayload "u\x00\x00\x00\x00\x05" "" =
    startupPayload "u" "\x00\x00\x00\x00\x00" := by decide +kernel
  have carried := (carries "u\x00\x00\x00\x00\x05" "" "u" "\x00\x00\x00\x00\x00" (by decide)
    (by decide) (by decide) (by decide)).2 (by rw [write_startup, write_startup, same])
  exact absurd carried.1 (by decide)

end Request

end ProxyClient
