/-
ProxyClient/Proofs/Text/Expansion.lean

What the substitutions make of a statement.  `reference` scans a text once
from left to right: at a `$(` that a `)` follows, and with a name between
them that has a value, it writes the text of the value and goes on behind the
`)`; otherwise it copies one letter.  A name has the value that was set last
and not cleared since.  The headline is

    (after changes).expand template = reference changes template

for all calls that set and clear, and all templates.  What expands a
statement does not scan it: it goes through the places of all `$(`, skips
those that a value has consumed, copies what lies between in one piece, and
does all this in bytes.  So the same scan is made over letters and over bytes
(`scan`).  Over bytes it is what the places come to (`expandFrom_openings`);
over letters it comes to the same, as no byte of another letter is one of the
three that mark a token (`scan_encode`).
-/
import ProxyClient.Substitution

namespace ProxyClient

namespace Substitutions

/-! ### The calls that change a set -/

/-- A call that changes the substitutions. -/
inductive Change where
  /-- A name is given a value. -/
  | set (name : String) (value : Value)
  /-- Every name loses its value. -/
  | clear

/-- The substitutions after a call. -/
def Change.apply (subs : Substitutions) : Change → Substitutions
  | .set name value => subs.set name value
  | .clear => subs.clear

/-- The substitutions after some calls. -/
def after (changes : List Change) : Substitutions :=
  changes.foldl Change.apply {}

/-- The value of a name after a call, from the one that it had before. -/
def Change.valueOf (name : String) (old : Option Value) : Change → Option Value
  | .set other value => if other = name then some value else old
  | .clear => none

/-- The value that was set last for a name, and not cleared since. -/
def latest? (changes : List Change) (name : String) : Option Value :=
  changes.foldl (Change.valueOf name) none

theorem get?_ofText (subs : Substitutions) (name : String) :
    subs.get? (Bytes.ofText name) = (subs.entries.find? fun entry => entry.1 == name).map (·.2) := by
  have same : (fun entry : String × Value => Bytes.ofText entry.1 == Bytes.ofText name) =
      fun entry => entry.1 == name := by
    funext entry
    rw [Bool.eq_iff_iff, beq_iff_eq, beq_iff_eq]
    exact Bytes.ofText_inj
  rw [get?, same]

/-- A call does to the value that is found what it says. -/
theorem get?_apply (subs : Substitutions) (change : Change) (name : String) :
    (change.apply subs).get? (Bytes.ofText name) =
      change.valueOf name (subs.get? (Bytes.ofText name)) := by
  cases change with
  | set other value =>
    have found := @BindSet.find?_replaceFirst _ _ (other, value) _ Prod.fst name subs.entries
    rw [get?_ofText, get?_ofText]
    exact (congrArg (Option.map (·.2)) found).trans (apply_ite ..)
  | clear => rfl

/-- The value that is found is the one that was set last. -/
theorem get?_after (changes : List Change) (name : String) :
    (after changes).get? (Bytes.ofText name) = latest? changes name :=
  (List.foldl_hom (fun subs : Substitutions => subs.get? (Bytes.ofText name))
    fun subs change => (get?_apply subs change name).symm).symm

/-! ### Scanning from left to right -/

/-- The three letters that mark a token, in some spelling. -/
structure Marks (α : Type) where
  /-- `$`. -/
  dollar : α
  /-- `(`. -/
  opening : α
  /-- `)`. -/
  closing : α

/-- The letters themselves. -/
def Marks.letters : Marks Char := ⟨'$', '(', ')'⟩

/-- The bytes that spell them. -/
def Marks.bytes : Marks UInt8 := ⟨Substitutions.dollar, Substitutions.opening, Substitutions.closing⟩

section Scan

variable {α : Type} [DecidableEq α] (marks : Marks α) (value? : List α → Option (List α))

/-- The value of the token at the head of a text, and what follows the token.
There is none without a closing bracket, and none for a name without a
value. -/
def token? : List α → Option (List α × List α)
  | first :: second :: rest =>
    if first = marks.dollar ∧ second = marks.opening ∧ marks.closing ∈ rest then
      (value? (rest.takeWhile (· ≠ marks.closing))).map fun value =>
        (value, (rest.dropWhile (· ≠ marks.closing)).tail)
    else none
  | _ => none

variable {marks value?}

theorem length_lt_of_token? {text value behind : List α}
    (found : token? marks value? text = some (value, behind)) : behind.length < text.length := by
  rw [token?.eq_def] at found
  split at found
  · next first second rest =>
    split at found
    · obtain ⟨_, -, same⟩ := Option.map_eq_some_iff.mp found
      have shorter := (List.dropWhile_sublist (l := rest) (· ≠ marks.closing)).length_le
      rw [← (Prod.mk.inj same).2, List.length_tail, List.length_cons, List.length_cons]
      omega
    · exact absurd found (by simp)
  · exact absurd found (by simp)

variable (marks value?)

/-- Scans a text from left to right. -/
def scan (text : List α) : List α :=
  match text with
  | [] => []
  | letter :: rest =>
    match found : token? marks value? (letter :: rest) with
    | some (value, behind) =>
      have := length_lt_of_token? found
      -- the value is written, and not looked at again
      value ++ scan behind
    | none => letter :: scan rest
termination_by text.length
decreasing_by all_goals simp only [List.length_cons] at *; omega

variable {marks value?}

@[simp] theorem scan_nil : scan marks value? [] = [] := by rw [scan]

theorem scan_of_token {text value behind : List α}
    (found : token? marks value? text = some (value, behind)) :
    scan marks value? text = value ++ scan marks value? behind := by
  cases text with
  | nil => exact absurd found (by simp [token?])
  | cons letter rest =>
    rw [scan]
    split
    · next value' behind' found' =>
      obtain ⟨rfl, rfl⟩ := Prod.mk.inj (Option.some.inj (found'.symm.trans found))
      rfl
    · next none => exact absurd (none.symm.trans found) (by simp)

theorem scan_of_no_token {letter : α} {rest : List α}
    (none : token? marks value? (letter :: rest) = none) :
    scan marks value? (letter :: rest) = letter :: scan marks value? rest := by
  rw [scan]
  split
  · next found => exact absurd (found.symm.trans none) (by simp)
  · rfl

theorem token?_of_not_opens {letter : α} {rest : List α}
    (other : ¬ (letter = marks.dollar ∧ rest.head? = some marks.opening)) :
    token? marks value? (letter :: rest) = none := by
  cases rest with
  | nil => rfl
  | cons second rest => exact if_neg fun opens => other ⟨opens.1, congrArg some opens.2.1⟩

/-- A token ends at the first closing bracket. -/
theorem token?_closed {name : List α} (inside : marks.closing ∉ name) (behind : List α) :
    token? marks value? (marks.dollar :: marks.opening :: (name ++ marks.closing :: behind)) =
      (value? name).map fun value => (value, behind) := by
  have before : ∀ letter ∈ name, decide (letter ≠ marks.closing) = true := by
    intro letter member
    exact decide_eq_true (ne_of_mem_of_not_mem member inside)
  rw [token?, if_pos ⟨rfl, rfl, List.mem_append_right _ List.mem_cons_self⟩]
  rw [List.takeWhile_append_of_pos before, List.dropWhile_append_of_pos before]
  simp

/-- An opening without an end is no token. -/
theorem token?_unclosed {rest : List α} (unclosed : marks.closing ∉ rest) :
    token? marks value? (marks.dollar :: marks.opening :: rest) = none := by
  rw [token?, if_neg fun closed => unclosed closed.2.2]

/-- Nothing in front of a `$` is changed. -/
theorem scan_append_of_notMem {front : List α} (plain : marks.dollar ∉ front) (rest : List α) :
    scan marks value? (front ++ rest) = front ++ scan marks value? rest := by
  induction front with
  | nil => rfl
  | cons letter front ih =>
    have other : letter ≠ marks.dollar := fun same => plain (same ▸ List.mem_cons_self)
    rw [List.cons_append, scan_of_no_token (token?_of_not_opens fun opens => other opens.1),
      ih fun member => plain (List.mem_cons_of_mem _ member), List.cons_append]

/-- Without a `)` nothing is changed. -/
theorem scan_of_unclosed {text : List α} (unclosed : marks.closing ∉ text) :
    scan marks value? text = text := by
  induction text with
  | nil => exact scan_nil
  | cons letter rest ih =>
    have none : token? marks value? (letter :: rest) = none := by
      by_cases opens : letter = marks.dollar ∧ rest.head? = some marks.opening
      · obtain ⟨rfl, head⟩ := opens
        obtain ⟨rest, rfl⟩ := List.head?_eq_some_iff.mp head
        refine token?_unclosed fun member => unclosed ?_
        exact List.mem_cons_of_mem _ (List.mem_cons_of_mem _ member)
      · exact token?_of_not_opens opens
    rw [scan_of_no_token none, ih fun member => unclosed (List.mem_cons_of_mem _ member)]

/-- Without values nothing is changed. -/
theorem scan_of_valueless (none : ∀ name, value? name = none) (text : List α) :
    scan marks value? text = text := by
  induction text with
  | nil => exact scan_nil
  | cons letter rest ih =>
    have valueless : token? marks value? (letter :: rest) = Option.none := by
      rw [token?.eq_def]
      split
      · split
        · rw [none]
          rfl
        · rfl
      · rfl
    rw [scan_of_no_token valueless, ih]

end Scan

/-! ### The places of the tokens -/

/-- The bytes of the value of a name. -/
def bytesOf (subs : Substitutions) (name : Bytes) : Option Bytes :=
  (subs.get? name).map fun value => Bytes.ofText value.toText

/-- The first closing bracket cuts a text into a name and what is behind. -/
theorem cut_at_closing {rest : Bytes} {length : Nat} (found : rest.idxOf? closing = some length) :
    ∃ name behind, rest = name ++ closing :: behind ∧ closing ∉ name ∧ name.length = length := by
  induction rest generalizing length with
  | nil => exact absurd found (by simp)
  | cons byte rest ih =>
    rw [List.idxOf?_cons] at found
    by_cases ends : byte = closing
    · obtain rfl : 0 = length := by simpa [ends] using found
      exact ⟨[], rest, by rw [ends]; rfl, List.not_mem_nil, rfl⟩
    · rw [if_neg (by simpa using ends)] at found
      obtain ⟨length, later, rfl⟩ := Option.map_eq_some_iff.mp found
      obtain ⟨name, behind, rfl, inside, rfl⟩ := ih later
      refine ⟨byte :: name, behind, rfl, ?_, rfl⟩
      exact List.not_mem_cons_of_ne_of_not_mem (Ne.symm ends) inside

/-- The token of a place, by the place of its end. -/
theorem token?_of_ends (value? : Bytes → Option Bytes) {rest : Bytes} {length : Nat}
    (ends : rest.idxOf? closing = some length) :
    token? .bytes value? (dollar :: opening :: rest) =
      (value? (rest.take length)).map fun value => (value, rest.drop (length + 1)) := by
  obtain ⟨name, behind, rfl, inside, rfl⟩ := cut_at_closing ends
  have token : token? .bytes value? (dollar :: opening :: (name ++ closing :: behind)) = _ :=
    token?_closed inside behind
  have behindEnd : (name ++ closing :: behind).drop (name.length + 1) = behind := by
    rw [List.drop_append, List.drop_eq_nil_of_le (Nat.le_succ _), Nat.add_sub_cancel_left]
    rfl
  rw [token, List.take_left, behindEnd]

/-- At a place that has not been consumed a token is written, or passed over, or
else the rest is copied. -/
theorem expandFrom_place (subs : Substitutions) {done text : Bytes} {written : Nat}
    (left : written ≤ done.length) (out : Bytes) (starts : List Nat) :
    subs.expandFrom (done ++ text) written out (done.length :: starts) =
      match (text.drop 2).idxOf? closing with
      | none => out ++ done.drop written ++ text
      | some length =>
        match subs.bytesOf ((text.drop 2).take length) with
        | none => subs.expandFrom (done ++ text) written out starts
        | some value =>
          subs.expandFrom (done ++ text) (done.length + (length + 3))
            (out ++ done.drop written ++ value) starts := by
  have behind : (done ++ text).drop (done.length + 2) = text.drop 2 := by
    rw [List.drop_append]
    simp
  rw [expandFrom, if_neg (Nat.not_lt.mpr left), behind]
  simp only [bytesOf]
  cases (text.drop 2).idxOf? closing with
  | none => simp only [List.drop_append_of_le_length left, List.append_assoc]
  | some length =>
    simp only
    cases subs.get? ((text.drop 2).take length) with
    | none => rfl
    | some value =>
      simp only [Option.map_some, List.take_left]
      rw [show done.length + 2 + length + 1 = done.length + (length + 3) by omega]

/-- What goes through the places of the tokens writes what the scan of the
bytes writes.  The places from `done.length` on are still to come; up to
`written` everything has been written, which is behind that place if a value
has consumed it. -/
theorem expandFrom_openings (subs : Substitutions) (done rest : Bytes) (written : Nat)
    (out : Bytes) :
    subs.expandFrom (done ++ rest) written out (openings done.length rest) =
      out ++ done.drop written ++ scan .bytes subs.bytesOf (rest.drop (written - done.length)) := by
  induction rest generalizing done written out with
  | nil => simp [openings, expandFrom]
  | cons byte rest ih =>
    -- the places behind the byte, when the byte has joined those that are done
    have next (written : Nat) (out : Bytes) :
        subs.expandFrom (done ++ byte :: rest) written out (openings (done.length + 1) rest) =
          out ++ (done ++ [byte]).drop written ++
            scan .bytes subs.bytesOf (rest.drop (written - (done.length + 1))) := by
      have behind := ih (done ++ [byte]) written out
      rwa [List.append_assoc, List.singleton_append, List.length_append] at behind
    have passed {written : Nat} (ahead : done.length < written) (out : Bytes) :
        subs.expandFrom (done ++ byte :: rest) written out (openings (done.length + 1) rest) =
          out ++ scan .bytes subs.bytesOf ((byte :: rest).drop (written - done.length)) := by
      have front : (done ++ [byte]).length ≤ written := by
        rw [List.length_append]
        exact ahead
      rw [next, List.drop_eq_nil_of_le front, List.append_nil,
        show written - done.length = written - (done.length + 1) + 1 by omega, List.drop_succ_cons]
    by_cases ahead : done.length < written
    · -- a value has consumed the byte, so no token begins here
      have skipped : subs.expandFrom (done ++ byte :: rest) written out
          (openings done.length (byte :: rest)) =
          subs.expandFrom (done ++ byte :: rest) written out (openings (done.length + 1) rest) := by
        rw [openings]
        split
        · rw [expandFrom, if_pos ahead]
        · rfl
      rw [skipped, passed ahead, List.drop_eq_nil_of_le (Nat.le_of_lt ahead),
        List.append_nil]
    · have left : written ≤ done.length := Nat.not_lt.mp ahead
      rw [Nat.sub_eq_zero_of_le left, List.drop_zero]
      -- without a token the byte is copied with those in front of it
      have copied (none : token? .bytes subs.bytesOf (byte :: rest) = none) :
          subs.expandFrom (done ++ byte :: rest) written out (openings (done.length + 1) rest) =
            out ++ done.drop written ++ scan .bytes subs.bytesOf (byte :: rest) := by
        rw [next, scan_of_no_token none, List.drop_append_of_le_length left,
          Nat.sub_eq_zero_of_le (Nat.le_succ_of_le left), List.drop_zero]
        simp only [List.append_assoc, List.singleton_append]
      by_cases opens : byte = dollar ∧ rest.head? = some opening
      · rw [openings, if_pos opens, expandFrom_place subs left]
        obtain ⟨rfl, head⟩ := opens
        obtain ⟨tail, rfl⟩ := List.head?_eq_some_iff.mp head
        simp only [List.drop_succ_cons, List.drop_zero]
        cases ends : tail.idxOf? closing with
        | none =>
          have unclosed : closing ∉ dollar :: opening :: tail := by
            simpa [dollar, opening, closing] using List.idxOf?_eq_none_iff.mp ends
          exact congrArg _ (scan_of_unclosed unclosed).symm
        | some length =>
          have token := token?_of_ends subs.bytesOf ends
          simp only
          cases named : subs.bytesOf (tail.take length) with
          | none =>
            rw [named] at token
            exact copied token
          | some value =>
            rw [named] at token
            -- the places go on behind the token, as the scan does
            have gone : (dollar :: opening :: tail).drop (done.length + (length + 3) - done.length) =
                tail.drop (length + 1) := by
              rw [Nat.add_sub_cancel_left, List.drop_succ_cons, List.drop_succ_cons]
            simp only
            rw [passed (by omega), gone, scan_of_token token]
            simp only [List.append_assoc]
      · rw [openings, if_neg opens]
        exact copied (token?_of_not_opens opens)

/-! ### Letters and bytes -/

/-- The bytes of some letters. -/
def spelled (letters : List Char) : Bytes :=
  letters.flatMap String.utf8EncodeChar

theorem spelled_append (front back : List Char) :
    spelled (front ++ back) = spelled front ++ spelled back :=
  List.flatMap_append

/-- A mark that is spelled by one byte is not hidden in another letter. -/
theorem mem_spelled_iff {mark : Char} (single : mark.toNat < 128) {letters : List Char} :
    mark.toUInt8 ∈ spelled letters ↔ mark ∈ letters := by
  constructor
  · intro member
    obtain ⟨letter, member, spells⟩ := List.mem_flatMap.mp member
    rwa [(Bytes.mem_utf8EncodeChar_iff single).mp spells] at member
  · intro member
    exact List.mem_flatMap.mpr ⟨mark, member, (Bytes.mem_utf8EncodeChar_iff single).mpr rfl⟩

section Spelled

variable {value? : List Char → Option (List Char)} {bytes? : Bytes → Option Bytes}

/-- The tokens of a text are spelled by those of its bytes. -/
theorem token?_spelled (agree : ∀ name, bytes? (spelled name) = (value? name).map spelled)
    (rest : List Char) :
    token? .bytes bytes? (dollar :: spelled rest) =
      (token? .letters value? ('$' :: rest)).map fun p => (spelled p.1, spelled p.2) := by
  by_cases opens : rest.head? = some '('
  · obtain ⟨rest, rfl⟩ := List.head?_eq_some_iff.mp opens
    show token? .bytes bytes? (dollar :: opening :: spelled rest) = _
    by_cases closed : ')' ∈ rest
    · obtain ⟨name, behind, rfl, inside⟩ := List.eq_append_cons_of_mem closed
      have letters : token? .letters value? ('$' :: '(' :: (name ++ ')' :: behind)) = _ :=
        token?_closed inside behind
      have bytes : token? .bytes bytes?
          (dollar :: opening :: (spelled name ++ closing :: spelled behind)) = _ :=
        token?_closed (fun member => inside ((mem_spelled_iff (by decide)).mp member))
          (spelled behind)
      rw [letters, spelled_append]
      show token? .bytes bytes?
        (dollar :: opening :: (spelled name ++ closing :: spelled behind)) = _
      rw [bytes, agree, Option.map_map, Option.map_map]
      rfl
    · have letters : token? .letters value? ('$' :: '(' :: rest) = none := token?_unclosed closed
      rw [letters]
      exact token?_unclosed fun member => closed ((mem_spelled_iff (by decide)).mp member)
  · have letters : token? .letters value? ('$' :: rest) = none :=
      token?_of_not_opens fun both => opens both.2
    rw [letters]
    refine token?_of_not_opens fun both => opens ?_
    cases rest with
    | nil => exact absurd both.2 (by simp [spelled])
    | cons letter rest =>
      -- the byte behind the dollar belongs to the letter behind it
      have first : opening ∈ String.utf8EncodeChar letter := by
        have head : (String.utf8EncodeChar letter ++ spelled rest).head? = some opening := both.2
        cases spelt : String.utf8EncodeChar letter with
        | nil => exact absurd spelt String.utf8EncodeChar_ne_nil
        | cons byte bytes =>
          rw [spelt] at head
          exact List.mem_cons.mpr (.inl (Option.some.inj head).symm)
      exact congrArg some ((Bytes.mem_utf8EncodeChar_iff (by decide)).mp first)

/-- The scan of a text is spelled by that of its bytes. -/
theorem scan_spelled (agree : ∀ name, bytes? (spelled name) = (value? name).map spelled)
    (text : List Char) :
    scan .bytes bytes? (spelled text) = spelled (scan .letters value? text) := by
  -- the induction follows the letters, of which a dollar alone opens a token
  induction text using scan.induct Marks.letters value? with
  | case1 => simp [spelled]
  | case2 letter rest value behind found shorter ih =>
    have dollared : letter = '$' := by
      refine Decidable.byContradiction fun other => ?_
      have none : token? .letters value? (letter :: rest) = none :=
        token?_of_not_opens fun both => other both.1
      exact absurd (none.symm.trans found) (by simp)
    subst dollared
    have spelt := token?_spelled agree rest
    rw [found] at spelt
    show scan .bytes bytes? (dollar :: spelled rest) = _
    rw [scan_of_token spelt, scan_of_token found, spelled_append, ih]
  | case3 letter rest none ih =>
    rw [scan_of_no_token none]
    by_cases dollared : letter = '$'
    · subst dollared
      have spelt := token?_spelled agree rest
      rw [none] at spelt
      show scan .bytes bytes? (dollar :: spelled rest) = dollar :: spelled _
      rw [scan_of_no_token spelt, ih]
    · have plain : Marks.bytes.dollar ∉ String.utf8EncodeChar letter := fun member =>
        dollared ((Bytes.mem_utf8EncodeChar_iff (by decide)).mp member)
      show scan .bytes bytes? (String.utf8EncodeChar letter ++ spelled rest) =
        String.utf8EncodeChar letter ++ spelled _
      rw [scan_append_of_notMem plain, ih]

end Spelled

/-! ### Expanding a statement -/

/-- The text of the value of a name, letter by letter. -/
def textOf (changes : List Change) (name : List Char) : Option (List Char) :=
  (latest? changes (String.ofList name)).map (·.toText.toList)

/-- A template with its tokens expanded, by one scan from left to right. -/
def reference (changes : List Change) (template : String) : String :=
  String.ofList (scan .letters (textOf changes) template.toList)

variable {changes : List Change}

theorem bytesOf_spelled (name : List Char) :
    (after changes).bytesOf (spelled name) = (textOf changes name).map spelled := by
  have text : spelled name = Bytes.ofText (String.ofList name) := by
    rw [Bytes.ofText_eq_flatMap, String.toList_ofList]
    rfl
  rw [text, bytesOf, get?_after, textOf, Option.map_map]
  exact congrArg (fun f => (latest? changes (String.ofList name)).map f)
    (funext fun value => Bytes.ofText_eq_flatMap _)

/-- The bytes that are written are those of a text. -/
theorem expandBytes_ofText (template : String) :
    (after changes).expandBytes (Bytes.ofText template) =
      Bytes.ofText (reference changes template) := by
  have places := expandFrom_openings (after changes) [] (Bytes.ofText template) 0 []
  rw [expandBytes]
  refine places.trans ?_
  show scan .bytes (after changes).bytesOf (Bytes.ofText template) = _
  rw [Bytes.ofText_eq_flatMap, Bytes.ofText_eq_flatMap, reference, String.toList_ofList]
  exact scan_spelled bytesOf_spelled template.toList

/-- Without values the text is left as it is. -/
theorem reference_of_isEmpty (empty : (after changes).entries.isEmpty = true) (template : String) :
    reference changes template = template := by
  have valueless (name : List Char) : textOf changes name = none := by
    rw [textOf, ← get?_after, get?, List.isEmpty_iff.mp empty]
    rfl
  rw [reference, scan_of_valueless valueless, String.ofList_toList]

/-- What expands a statement is the scan. -/
theorem expand_eq_reference (changes : List Change) (template : String) :
    (after changes).expand template = reference changes template := by
  rw [expand]
  split
  · next empty => exact (reference_of_isEmpty empty template).symm
  · rw [expandBytes_ofText, Bytes.toText?_ofText]
    rfl

/-! ### What follows from the scan -/

/-- What the scan makes of a text is read off its letters. -/
theorem reference_eq_iff {template written : String} :
    reference changes template = written ↔
      scan .letters (textOf changes) template.toList = written.toList := by
  rw [← String.toList_inj, reference, String.toList_ofList]

theorem toList_token (name rest : String) :
    ("$(" ++ name ++ ")" ++ rest).toList = '$' :: '(' :: (name.toList ++ ')' :: rest.toList) := by
  simp only [String.toList_append]
  simp

/-- The value is written and not looked at again. -/
theorem reference_of_value {name : String} {value : Value} (inside : ')' ∉ name.toList)
    (set : latest? changes name = some value) (rest : String) :
    reference changes ("$(" ++ name ++ ")" ++ rest) =
      value.toText ++ reference changes rest := by
  have token : token? .letters (textOf changes) ('$' :: '(' :: (name.toList ++ ')' :: rest.toList)) =
      some (value.toText.toList, rest.toList) := by
    refine (token?_closed inside rest.toList).trans ?_
    rw [textOf, String.ofList_toList, set]
    rfl
  rw [reference_eq_iff, toList_token, scan_of_token token, String.toList_append, reference,
    String.toList_ofList]

/-- A token without a value stays, and what is inside may still be one. -/
theorem reference_of_unknown {name : String} (inside : ')' ∉ name.toList)
    (unset : latest? changes name = none) (rest : String) :
    reference changes ("$(" ++ name ++ ")" ++ rest) =
      "$(" ++ reference changes (name ++ ")" ++ rest) := by
  have token : token? .letters (textOf changes) ('$' :: '(' :: (name.toList ++ ')' :: rest.toList)) =
      none := by
    refine (token?_closed inside rest.toList).trans ?_
    rw [textOf, String.ofList_toList, unset]
    rfl
  have bracket : token? .letters (textOf changes) ('(' :: (name.toList ++ ')' :: rest.toList)) = none :=
    token?_of_not_opens fun opens => absurd opens.1 (by decide)
  rw [reference_eq_iff, toList_token, scan_of_no_token token, scan_of_no_token bracket]
  simp [reference]

/-- Without a closing bracket nothing is changed. -/
theorem reference_of_unclosed {template : String} (unclosed : ')' ∉ template.toList) :
    reference changes template = template :=
  reference_eq_iff.mpr (scan_of_unclosed unclosed)

/-- What has no `$` is written as it is. -/
theorem reference_append_of_plain {front : String} (plain : '$' ∉ front.toList) (rest : String) :
    reference changes (front ++ rest) = front ++ reference changes rest := by
  rw [reference_eq_iff, String.toList_append, String.toList_append, reference, String.toList_ofList]
  exact scan_append_of_notMem plain rest.toList

/-- Of two names the one that is set last may also be set first. -/
theorem latest?_swap {a b : String} (distinct : a ≠ b) (x y : Value) (front back : List Change)
    (name : String) :
    latest? (front ++ .set a x :: .set b y :: back) name =
      latest? (front ++ .set b y :: .set a x :: back) name := by
  simp only [latest?, List.foldl_append, List.foldl_cons, Change.valueOf]
  by_cases first : a = name
  · have second : b ≠ name := fun same => distinct (first.trans same.symm)
    simp only [if_pos first, if_neg second]
  · simp only [if_neg first]

theorem reference_congr {changes changes' : List Change}
    (same : ∀ name, latest? changes name = latest? changes' name) (template : String) :
    reference changes template = reference changes' template := by
  have texts : textOf changes = textOf changes' := by
    funext name
    rw [textOf, textOf, same]
  rw [reference, reference, texts]

/-- **Expanding a statement is one scan from left to right**, whatever was set
and cleared before.  So the text of a value is not expanded again; a name
without a value stays, with its brackets, while an opening between them is
still seen; an opening without an end stays; and it does not matter in which
order two names were set. -/
theorem expand_after (changes : List Change) (template : String) :
    (after changes).expand template = reference changes template ∧
    (∀ name value rest, ')' ∉ name.toList → latest? changes name = some value →
      (after changes).expand ("$(" ++ name ++ ")" ++ rest) =
        value.toText ++ (after changes).expand rest) ∧
    (∀ name rest, ')' ∉ name.toList → latest? changes name = none →
      (after changes).expand ("$(" ++ name ++ ")" ++ rest) =
        "$(" ++ (after changes).expand (name ++ ")" ++ rest)) ∧
    (∀ rest, ')' ∉ rest.toList → (after changes).expand rest = rest) ∧
    (∀ front rest, '$' ∉ front.toList →
      (after changes).expand (front ++ rest) = front ++ (after changes).expand rest) ∧
    ∀ front back a b x y, changes = front ++ .set a x :: .set b y :: back → a ≠ b →
      (after changes).expand template =
        (after (front ++ .set b y :: .set a x :: back)).expand template := by
  simp only [expand_eq_reference]
  refine ⟨trivial, ?values, ?unknown, ?unclosed, ?plain, ?order⟩
  case values => exact fun name value rest inside set => reference_of_value inside set rest
  case unknown => exact fun name rest inside unset => reference_of_unknown inside unset rest
  case unclosed => exact fun rest unclosed => reference_of_unclosed unclosed
  case plain => exact fun front rest plain => reference_append_of_plain plain rest
  case order =>
    rintro front back a b x y rfl distinct
    exact reference_congr (latest?_swap distinct x y front back) template

/-- A value that looks like a token, a name that was set before all were
cleared, an opening inside the brackets of an unknown name, an adjacent token
and one without an end. -/
theorem expand_after_nested :
    (let changes : List Change :=
      [.set "x" (.string "old"), .clear, .set "ä" (.string "$(b)"), .set "b" (.integer 1),
        .set "b" (.integer 2)]
     latest? changes "ä" = some (.string "$(b)") ∧ latest? changes "x" = none ∧
     latest? changes "x$(b" = none ∧
     (after changes).expand "é $(ä)$(x$(b))$(b" = "é $(b)$(x2)$(b" ∧
     (after changes).expand ("$(" ++ "ä" ++ ")" ++ "$(b)") =
        "$(b)" ++ (after changes).expand "$(b)" ∧
     (after changes).expand ("$(" ++ "x$(b" ++ ")" ++ "$(b)") =
        "$(" ++ (after changes).expand ("x$(b" ++ ")" ++ "$(b)") ∧
     (after changes).expand "$(b" = "$(b" ∧
     (after changes).expand ("é " ++ "$(b)") = "é " ++ (after changes).expand "$(b)" ∧
     (after changes).expand "é $(ä)" =
        (after [.set "x" (.string "old"), .clear, .set "b" (.integer 1), .set "ä" (.string "$(b)"),
          .set "b" (.integer 2)]).expand "é $(ä)") := by
  intro changes
  obtain ⟨-, values, unknown, unclosed, plain, -⟩ := expand_after changes ""
  obtain ⟨-, -, -, -, -, order⟩ := expand_after changes "é $(ä)"
  refine ⟨by decide, by decide, by decide, by decide +kernel, ?_, ?_, ?_, ?_, ?_⟩
  · exact values "ä" (.string "$(b)") "$(b)" (by decide) (by decide)
  · exact unknown "x$(b" "$(b)" (by decide) (by decide)
  · exact unclosed "$(b" (by decide)
  · exact plain "é " "$(b)" (by decide)
  · exact order [.set "x" (.string "old"), .clear] [.set "b" (.integer 2)] "ä" "b"
      (.string "$(b)") (.integer 1) rfl (by decide)

end Substitutions

end ProxyClient
