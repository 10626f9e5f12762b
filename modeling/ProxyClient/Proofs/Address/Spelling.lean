/-
ProxyClient/Proofs/Address/Spelling.lean

Addresses as texts.  A token is spelled `host:port/id` and an endpoint `host:port`.  The
separators are looked for from opposite ends: the identifier begins behind the first
slash, the port behind the last colon in front of it.  So a token may have colons in its
host, and anything in its identifier, and an endpoint any host at all:

    parse token.toText = .ok token  ↔  token.host ≠ "" ∧ '/' ∉ token.host ∧ token.id ≠ ""
    Endpoint.parse endpoint.toText = .ok endpoint

The port may be spelled with a plus sign and zeros in front, and is printed without them,
so texts are read back only as the tokens that they spell.
-/
import ProxyClient.Address.SuspendToken
import ProxyClient.Proofs.Text.Digits
import ProxyClient.Proofs.Text.Splitting

namespace ProxyClient

open Text

/-! ### Ports -/

theorem natural?_port (port : UInt16) : natural? 65536 (decimal port.toNat) = some port.toNat :=
  natural?_decimal port.toNat_lt

/-! ### Endpoints -/

namespace Endpoint

/-- Every endpoint is read back. -/
theorem parse_toText (endpoint : Endpoint) : parse endpoint.toText = .ok endpoint := by
  have read := natural?_port endpoint.port
  have spelt : endpoint.toText.toList =
      endpoint.host.toList ++ ':' :: (decimal endpoint.port.toNat).toList := by
    simp [toText]
  rw [← String.ofList_toList (s := decimal _)] at read
  rw [parse, spelt, splitLast_append _ (notMem_of_natural? read (by decide))]
  dsimp only
  rw [read]
  dsimp only
  rw [String.ofList_toList, UInt16.ofNat_toNat]

end Endpoint

/-! ### Tokens -/

namespace SuspendToken

/-- A text spells a token if it is made of its parts, the port in any spelling. -/
theorem parse?_eq_some_iff {text : String} {token : SuspendToken} :
    parse? text = some token ↔ ∃ numeral : List Char,
      text.toList = token.host.toList ++ ':' :: (numeral ++ '/' :: token.id.toList) ∧
        natural? 65536 (String.ofList numeral) = some token.port.toNat ∧
        token.host ≠ "" ∧ '/' ∉ token.host.toList ∧ token.id ≠ "" := by
  constructor
  · intro parsed
    rw [parse?] at parsed
    -- what was read: the three parts, and none of them empty
    obtain ⟨⟨address, id⟩, atSlash, parsed⟩ := Option.bind_eq_some_iff.mp parsed
    obtain ⟨⟨host, numeral⟩, atColon, parsed⟩ := Option.bind_eq_some_iff.mp parsed
    obtain ⟨n, read, made⟩ := Option.bind_eq_some_iff.mp parsed
    obtain ⟨whole, unslashed⟩ := splitFirst_eq_some_iff.mp atSlash
    obtain ⟨rfl, -⟩ := splitLast_eq_some_iff.mp atColon
    split at made
    · contradiction
    · next given =>
      obtain rfl := Option.some.inj made
      rw [List.isEmpty_iff, List.isEmpty_iff, not_or] at given
      refine ⟨numeral, ?_, ?_, ?_, ?_, ?_⟩
      · rw [whole, String.toList_ofList, String.toList_ofList, List.append_assoc,
          List.cons_append]
      · rw [read, UInt16.toNat_ofNat', Nat.mod_eq_of_lt (natural?_lt read)]
      · exact fun empty => given.1 (String.ofList_eq_empty_iff.mp empty)
      · rw [String.toList_ofList]
        exact fun member => unslashed (List.mem_append_left _ member)
      · exact fun empty => given.2 (String.ofList_eq_empty_iff.mp empty)
  · rintro ⟨numeral, spelt, read, hosted, unslashed, named⟩
    -- what is spelt so: the first slash and the last colon are found again
    have atSlash : splitFirst '/' text.toList =
        some (token.host.toList ++ ':' :: numeral, token.id.toList) := by
      refine splitFirst_eq_some_iff.mpr ⟨?_, fun member => ?_⟩
      · rw [spelt, List.append_assoc, List.cons_append]
      · rcases List.mem_append.mp member with inHost | behind
        · exact unslashed inHost
        · rcases List.mem_cons.mp behind with colon | inNumeral
          · exact absurd colon (by decide)
          · exact notMem_of_natural? read (by decide) inNumeral
    have atColon : splitLast ':' (token.host.toList ++ ':' :: numeral) =
        some (token.host.toList, numeral) :=
      splitLast_append _ (notMem_of_natural? read (by decide))
    have given : ¬ (token.host.toList.isEmpty = true ∨ token.id.toList.isEmpty = true) := by
      rw [List.isEmpty_iff, List.isEmpty_iff, String.toList_eq_nil_iff, String.toList_eq_nil_iff]
      exact not_or.mpr ⟨hosted, named⟩
    refine Option.bind_eq_some_iff.mpr ⟨_, atSlash, Option.bind_eq_some_iff.mpr
      ⟨_, atColon, Option.bind_eq_some_iff.mpr ⟨_, read, (if_neg given).trans ?_⟩⟩⟩
    rw [String.ofList_toList, String.ofList_toList, UInt16.ofNat_toNat]

/-- A token is read back if its host and identifier are given, and its host has no slash. -/
theorem parse?_toText_iff (token : SuspendToken) :
    parse? token.toText = some token ↔
      token.host ≠ "" ∧ '/' ∉ token.host.toList ∧ token.id ≠ "" := by
  rw [parse?_eq_some_iff]
  refine ⟨fun ⟨_, _, _, given⟩ => given, fun given => ?_⟩
  refine ⟨(decimal token.port.toNat).toList, ?_, ?_, given⟩
  · simp [toText]
  · rw [String.ofList_toList, natural?_port]

theorem parse_eq_ok_iff {text : String} {token : SuspendToken} :
    parse text = .ok token ↔ parse? text = some token := by
  rw [parse]
  cases parse? text <;> simp

/-- The token that a text spells can be spelled, and so it is read back. -/
theorem parse?_toText_of_parse? {text : String} {token : SuspendToken}
    (read : parse? text = some token) : parse? token.toText = some token := by
  obtain ⟨-, -, -, given⟩ := parse?_eq_some_iff.mp read
  exact (parse?_toText_iff token).mpr given

/-! ### The headline -/

/-- **Addresses survive as texts**: a token with an identifier and a host, which holds no
slash, and no other; every token that was read from a text; and every endpoint. -/
theorem texts_read_back :
    (∀ token : SuspendToken, parse token.toText = .ok token ↔
      token.host ≠ "" ∧ '/' ∉ token.host.toList ∧ token.id ≠ "") ∧
    (∀ (text : String) (token : SuspendToken), parse text = .ok token →
      parse token.toText = .ok token) ∧
    ∀ endpoint : Endpoint, Endpoint.parse endpoint.toText = .ok endpoint := by
  refine ⟨fun token => ?_, fun text token read => ?_, Endpoint.parse_toText⟩
  · rw [parse_eq_ok_iff, parse?_toText_iff]
  · rw [parse_eq_ok_iff] at read ⊢
    exact parse?_toText_of_parse? read

/-- A host of eight pieces and an identifier with both separators; a port with a sign and
zeros. -/
theorem texts_read_back_colons :
    (let token : SuspendToken := ⟨"fe80::1", 9000, "a/b:c"⟩
     parse token.toText = .ok token) ∧
    (let token : SuspendToken := ⟨"h", 7, "i"⟩
     parse "h:+007/i" = .ok token ∧ token.toText = "h:7/i" ∧ parse token.toText = .ok token) := by
  refine ⟨?_, ?_⟩
  · exact (texts_read_back.1 ⟨"fe80::1", 9000, "a/b:c"⟩).mpr ⟨by decide, by decide, by decide⟩
  · have read : parse "h:+007/i" = .ok ⟨"h", 7, "i"⟩ := by decide +kernel
    exact ⟨read, by decide +kernel, texts_read_back.2.1 _ _ read⟩

end SuspendToken

end ProxyClient
