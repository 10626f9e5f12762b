/-
ProxyClient/Proofs/Cursor/Outputs.lean

Where the value of an output variable is found.  A variable is declared under a text that
is made a key, and the server sends its value back under the name of that key.  To read
the value the text is given again, and now only its sigil is taken off:

    text          key            name in messages    looked for
    :out          name "out"     out                 out
    @12           position 12    12                  12
    012, +12      position 12    12                  012, +12

The two names are the same unless the text is the number of a position behind a plus sign
or zeros.  No variable has such a name, so the value is not found then.
-/
import ProxyClient.Cursor.Variables
import ProxyClient.Proofs.Bind.Order
import ProxyClient.Proofs.Cursor.Deeds

namespace ProxyClient

/-! ### Names that differ from their keys -/

namespace BindKey

/-- The text is the number of a position with a plus sign or zeros in front. -/
def IsPadded (text : String) : Prop :=
  (∃ n, 0 < n ∧ Text.natural? 65536 (withoutSigil text) = some n) ∧
    ((withoutSigil text).toList.head? = some '+' ∨ (withoutSigil text).toList.head? = some '0')

/-- Any other text is the name of its key, but for the sigil. -/
theorem wireName_ofText {text : String} (unpadded : ¬ IsPadded text) :
    (ofText text).wireName = withoutSigil text := by
  by_cases number : ∃ n, 0 < n ∧ Text.natural? 65536 (withoutSigil text) = some n
  · have bare := not_or.mp fun padded => unpadded ⟨number, padded⟩
    obtain ⟨n, positive, read⟩ := number
    rw [ofText_of_positive positive read, (Text.eq_decimal_iff read positive).mpr bare, wireName,
      UInt16.toNat_ofNat', Nat.mod_eq_of_lt (Text.natural?_lt read)]
  · rw [ofText_of_not_positive fun n positive read => number ⟨n, positive, read⟩]
    rfl

/-- A text that is kept as a name is not read as a position. -/
theorem IsProper.unread {name : String} (proper : (BindKey.name name).IsProper) {n : Nat}
    (positive : 0 < n) : Text.natural? 65536 name ≠ some n := by
  rcases proper with ⟨text, kept⟩ | ⟨m, -, same⟩
  · by_cases number : ∃ n, 0 < n ∧ Text.natural? 65536 (withoutSigil text) = some n
    · obtain ⟨m, positive', read⟩ := number
      rw [ofText_of_positive positive' read] at kept
      contradiction
    · rw [ofText_of_not_positive fun n positive read => number ⟨n, positive, read⟩] at kept
      obtain rfl := BindKey.name.inj kept
      exact fun read => number ⟨n, positive, read⟩
  · contradiction

/-- No key has the name that a padded text spells. -/
theorem IsPadded.not_wireName {text : String} (padded : IsPadded text) {key : BindKey}
    (proper : key.IsProper) : Text.sameName key.wireName (withoutSigil text) = false := by
  obtain ⟨⟨n, positive, read⟩, first⟩ := padded
  refine Bool.eq_false_iff.mpr fun same => ?_
  -- a number has no letters, so that case makes no difference
  have early : ∀ c ∈ (withoutSigil text).toList, c.toNat < 65 := by
    intro c member
    rcases Text.sign_or_isDigit_of_natural? read member with rfl | isDigit
    · decide
    · exact Text.toNat_lt_of_isDigit isDigit
  have spelt : key.wireName = withoutSigil text :=
    Text.eq_of_fold_eq early (Text.sameName_iff.mp same)
  rw [← spelt] at read first
  cases key with
  | name name => exact proper.unread positive read
  | position m =>
    -- of a position the decimal is sent, and it has no zeros in front
    have decimal : (position m).wireName = Text.decimal n := by
      rw [wireName, Text.natural?_decimal m.toNat_lt] at read
      rw [wireName, Option.some.inj read]
    obtain ⟨unsigned, unpadded⟩ := (Text.eq_decimal_iff read positive).mp decimal
    exact first.elim unsigned unpadded

end BindKey

/-! ### The headline -/

namespace Cursor

open BindKey (IsPadded)

variable {ν : Type}

/-- The cursor behind a message with the values of output variables. -/
def afterOutputs (cursor : Cursor ν) (binds : List OutputBind) : Cursor ν :=
  { cursor with result := cursor.result.apply (.outputBinds binds) }

/-- **The value of a variable is found under the text that it was declared with**, unless
this is the number of a position behind a plus sign or zeros: then nothing is found in a
message that names its values as variables are named. -/
theorem finds_declared (text : String) (binds : List OutputBind) (cursor : Cursor ν) :
    (¬ IsPadded text → ∀ returned,
      binds.find? (Text.sameName ·.name (BindKey.ofText text).wireName) = some returned →
      (cursor.afterOutputs binds).result.output text = some returned ∧
        (cursor.afterOutputs binds).outputBytes text = returned.value ∧
        (cursor.afterOutputs binds).outputText text = returned.value.map Text.decodeLossy ∧
        (cursor.afterOutputs binds).outputLength text =
          (returned.value.map List.length).getD 0) ∧
    (IsPadded text →
      (∀ bind ∈ binds, ∃ key : BindKey, key.IsProper ∧ Text.sameName bind.name key.wireName) →
      (cursor.afterOutputs binds).result.output text = none) := by
  refine ⟨fun unpadded returned first => ?_, fun padded named => ?_⟩
  · -- the text is looked up as it was declared
    rw [BindKey.wireName_ofText unpadded] at first
    have found : (cursor.afterOutputs binds).result.output text = some returned := first
    have bytes : (cursor.afterOutputs binds).outputBytes text = returned.value := by
      rw [outputBytes, found, Option.bind_some]
    refine ⟨found, bytes, ?_, ?_⟩
    · rw [outputText, bytes]
    · rw [outputLength, bytes]
  · -- the zeros in front are not in what was declared
    refine List.find?_eq_none.mpr fun bind member same => ?_
    obtain ⟨key, proper, alike⟩ := named bind member
    have other := padded.not_wireName proper
    rw [Text.sameName, ← Text.sameName_iff.mp alike] at other
    exact absurd same (Bool.eq_false_iff.mp other)

/-- A cursor without a past. -/
def freshCursor : Cursor ScriptedNetwork :=
  onSession (Session.scripted [] []) {} 0

/-- The value of `:out` comes back as that of `OUT`, and the one of `@+05` as that of `5`. -/
theorem finds_declared_renamed :
    (¬ IsPadded ":out" ∧
      (freshCursor.afterOutputs
        [⟨"x", .integer, none⟩, ⟨"OUT", .string, some [104, 105]⟩]).outputText ":out" =
          some "hi") ∧
    (IsPadded "@+05" ∧
      (freshCursor.afterOutputs [⟨"5", .string, some [104, 105]⟩]).result.output "@+05" = none) := by
  have unpadded : ¬ IsPadded ":out" := fun padded => absurd padded.2 (by decide +kernel)
  have padded : IsPadded "@+05" := ⟨⟨5, by decide, by decide +kernel⟩, .inl (by decide +kernel)⟩
  have found := (finds_declared ":out" [⟨"x", .integer, none⟩, ⟨"OUT", .string, some [104, 105]⟩]
    freshCursor).1 unpadded ⟨"OUT", .string, some [104, 105]⟩ (by decide +kernel)
  refine ⟨⟨unpadded, found.2.2.1.trans (by decide +kernel)⟩, padded, ?_⟩
  refine (finds_declared "@+05" [⟨"5", .string, some [104, 105]⟩] freshCursor).2 padded ?_
  intro bind member
  obtain rfl := List.mem_singleton.mp member
  exact ⟨.position 5, .inr ⟨5, by decide, rfl⟩, by decide +kernel⟩

/-- The value of `05` comes back as that of `5`, and is not found. -/
theorem padded_position_unfound :
    ¬ ∀ (text : String) (binds : List OutputBind) (returned : OutputBind)
        (cursor : Cursor ScriptedNetwork),
      binds.find? (Text.sameName ·.name (BindKey.ofText text).wireName) = some returned →
      (cursor.afterOutputs binds).result.output text = some returned := by
  intro finds
  have found := finds "05" [⟨"5", .string, some [104, 105]⟩] ⟨"5", .string, some [104, 105]⟩
    freshCursor (by decide +kernel)
  have missed : (freshCursor.afterOutputs [⟨"5", .string, some [104, 105]⟩]).result.output "05" =
    none := by decide +kernel
  exact absurd (missed.symm.trans found) (by simp)

end Cursor

end ProxyClient
