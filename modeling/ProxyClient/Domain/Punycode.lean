/-
ProxyClient/Domain/Punycode.lean

Labels of any alphabet written in ASCII.  The ASCII characters of a label
come first; behind the last hyphen numbers follow, each of which says how
far to go for the next character, counting through all characters at all
places of the label.

The digits of a number are letters and digits, the lowest first, and a digit
below the limit of its place is the last.  The limits follow the size of the
numbers seen so far, so that a label stays short.
-/
import ProxyClient.Text.Split

namespace ProxyClient.Domain.Punycode

/-- The value of a digit: letters of either case count from 0 and digits from 26 on. -/
def digit? (c : Char) : Option Nat :=
  if 'a' ≤ c ∧ c ≤ 'z' then some (c.toNat - 'a'.toNat)
  else if 'A' ≤ c ∧ c ≤ 'Z' then some (c.toNat - 'A'.toNat)
  else if c.isDigit then some (c.toNat - '0'.toNat + 26)
  else none

/-- The limit at a place, where places are 36 apart. -/
def limit (bias place : Nat) : Nat :=
  max 1 (min 26 (place - bias))

/-- Divides a number by 35 until it is small, counting up by 36. -/
def scaleDown (n places : Nat) : Nat × Nat :=
  if 455 < n then scaleDown (n / 35) (places + 36) else (n, places)
termination_by n

/-- The bias that a number leaves behind, which brought a label to some length. -/
def adapt (number length : Nat) (isFirst : Bool) : Nat :=
  let halved := if isFirst then number / 700 else number / 2
  let (n, places) := scaleDown (halved + halved / length) 0
  places + 36 * n / (n + 38)

/-- Numbers fit into 32 bits. -/
def numberBound : Nat := 2 ^ 32

/-- Reads the digits of a number from a place on, and adds it to `value`. -/
def number? (bias : Nat) (place weight value : Nat) : List Char → Option (Nat × List Char)
  | [] => none
  | c :: rest =>
    match digit? c with
    | none => none
    | some digit =>
      let value := value + digit * weight
      let bound := limit bias place
      if numberBound ≤ value then none
      else if digit < bound then some (value, rest)
      else if numberBound ≤ weight * (36 - bound) then none
      else number? bias (place + 36) (weight * (36 - bound)) value rest

theorem length_lt_of_number? {bias place weight value n : Nat} {chars rest : List Char}
    (h : number? bias place weight value chars = some (n, rest)) :
    rest.length < chars.length := by
  induction chars generalizing place weight value with
  | nil => simp [number?] at h
  | cons c more ih =>
    unfold number? at h
    split at h
    · exact absurd h (by simp)
    · dsimp only at h
      split at h
      · -- the number is too large
        exact absurd h (by simp)
      · split at h
        · -- the last digit
          obtain ⟨-, rfl⟩ := Prod.mk.inj (Option.some.inj h)
          simp
        · split at h
          · exact absurd h (by simp)
          · -- one more digit is read
            have := ih h
            simp only [List.length_cons]
            omega

/-- Places the characters that the numbers of a label stand for.  `code` and `place` are where
counting goes on. -/
def insertAll (bias code place : Nat) (label : List Char) (numbers : List Char) :
    Option (List Char) :=
  if numbers.isEmpty then some label
  else
    match h : number? bias 36 1 place numbers with
    | none => none
    | some (count, rest) =>
      have := length_lt_of_number? h
      let length := label.length + 1
      let code := code + count / length
      if code.isValidChar then
        insertAll (adapt (count - place) length (place = 0)) code (count % length + 1)
          (label.insertIdx (count % length) (Char.ofNat code)) rest
      else none
termination_by numbers.length

/-- The label that an ASCII text stands for. -/
def decode? (text : List Char) : Option (List Char) :=
  let (plain, numbers) := match Text.splitLast '-' text with
    | some (c :: plain, numbers) => (c :: plain, numbers)
    | _ => ([], text)
  if plain.all (·.toNat < 0x80) then insertAll 72 0x80 0 plain numbers else none

end ProxyClient.Domain.Punycode
