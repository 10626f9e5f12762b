/-
ProxyClient/Proofs/Bind/Scanning.lean

What the scan of a statement finds is what stands in its reading:

    scan? sql = some (summary pieces)    where    Reads sql.toList pieces

The scan goes through the bytes of the text, with the quote that it waits for, and
cuts names out by their places.  It has the places right because it reaches every
piece of the reading with as many bytes behind it as the pieces before have
(`scanFrom_of_reads`); a byte of a letter that is no byte of its own is never one
that the scan looks for, and a name has no such letters.  So nothing is cut in two.

What is in a literal does not matter, as it is one piece of the reading.
-/
import ProxyClient.Proofs.Bind.Reading
import ProxyClient.Proofs.Text.Digits

namespace ProxyClient

namespace Statement

open Placeholders (isNameChar isNameByte isQuoteByte isSigilByte Progress scanFrom scan? scan)

/-! ### What a reading holds -/

/-- The position that an identifier stands for: the number below 65536 that it
spells in digits. -/
def position? (ident : List Char) : Option Nat :=
  if ident.all Char.isDigit ∧ Nat.ofDigitChars 10 ident 0 < 65536 then
    some (Nat.ofDigitChars 10 ident 0)
  else none

/-- The position that a piece names. -/
def Piece.position? : Piece → Option Nat
  | placeholder _ ident => Statement.position? ident
  | _ => none

/-- The name that a piece brings. -/
def Piece.name? : Piece → Option String
  | placeholder sigil ident =>
    if sigil = '$' ∨ (Statement.position? ident).isSome then none else some (String.ofList ident)
  | _ => none

/-- The highest position of a statement: that of the last `?`, as far as it can be
told, or a higher one that is named. -/
def highest (pieces : List Piece) : Nat :=
  max (min (pieces.count .anonymous) 65535) ((pieces.filterMap Piece.position?).foldr max 0)

/-- The placeholders of a statement that is read. -/
def summary (pieces : List Piece) : Placeholders :=
  ⟨pieces.filterMap Piece.name?, highest pieces⟩

/-- An identifier is read as the position that it stands for. -/
theorem natural?_eq_position? {ident : List Char} (nonempty : ident ≠ [])
    (named : ∀ c ∈ ident, isNameChar c = true) :
    Text.natural? 65536 (String.ofList ident) = position? ident := by
  refine Text.natural?_ofList nonempty fun signed => ?_
  exact absurd (named '+' (List.mem_of_head? signed)) (by decide)

/-! ### Bytes of letters -/

/-- The letters of names are bytes. -/
theorem lt_of_isNameChar {c : Char} (named : isNameChar c = true) : c.toNat < 128 := by
  rcases Bool.or_eq_true_iff.mp named with alphanumeric | underscore
  · rcases Bool.or_eq_true_iff.mp alphanumeric with alphabetic | digit
    · rcases Bool.or_eq_true_iff.mp alphabetic with upper | lower
      · have within : c.val ≥ 'A'.val ∧ c.val ≤ 'Z'.val := of_decide_eq_true upper
        have last : c.toNat ≤ 90 := within.2
        omega
      · have within : (decide (c.val ≥ 'a'.val) && decide (c.val ≤ 'z'.val)) = true := lower
        have last : c.toNat ≤ 122 := of_decide_eq_true (Bool.and_eq_true_iff.mp within).2
        omega
    · have last := (Text.toNat_of_isDigit digit).2
      omega
  · rw [beq_iff_eq.mp underscore]
    decide

theorem toUInt8_ofUInt8 (byte : UInt8) : (Char.ofUInt8 byte).toUInt8 = byte :=
  UInt8.toNat_inj.mp (Nat.mod_eq_of_lt byte.toNat_lt)

theorem ofUInt8_toUInt8 {c : Char} (single : c.toNat < 128) : Char.ofUInt8 c.toUInt8 = c := by
  refine Char.ext (UInt32.toNat_inj.mp ?_)
  show c.toNat % 256 = c.toNat
  omega

/-- A byte of a letter is that of a letter of one byte if the letters are the same. -/
theorem eq_toUInt8_iff {byte : UInt8} {letter c : Char} (single : letter.toNat < 128)
    (spells : byte ∈ String.utf8EncodeChar c) : byte = letter.toUInt8 ↔ c = letter := by
  constructor
  · rintro rfl
    exact (Bytes.mem_utf8EncodeChar_iff single).mp spells
  · rintro rfl
    rwa [Bytes.utf8EncodeChar_of_lt single, List.mem_singleton] at spells

theorem toUInt8_mem_utf8EncodeChar {c : Char} (single : c.toNat < 128) :
    c.toUInt8 ∈ String.utf8EncodeChar c :=
  (Bytes.mem_utf8EncodeChar_iff single).mpr rfl

theorem isQuoteByte_iff {byte : UInt8} {c : Char} (spells : byte ∈ String.utf8EncodeChar c) :
    isQuoteByte byte = isQuote c := by
  rw [Bool.eq_iff_iff, isQuoteByte, isQuote]
  simp only [Bool.or_eq_true, beq_iff_eq]
  rw [eq_toUInt8_iff (by decide) spells, eq_toUInt8_iff (by decide) spells]

theorem isSigilByte_iff {byte : UInt8} {c : Char} (spells : byte ∈ String.utf8EncodeChar c) :
    isSigilByte byte = isSigil c := by
  rw [Bool.eq_iff_iff, isSigilByte, isSigil]
  simp only [Bool.or_eq_true, beq_iff_eq]
  rw [eq_toUInt8_iff (by decide) spells, eq_toUInt8_iff (by decide) spells,
    eq_toUInt8_iff (by decide) spells]

theorem isNameByte_iff {byte : UInt8} {c : Char} (spells : byte ∈ String.utf8EncodeChar c) :
    isNameByte byte = isNameChar c := by
  rw [Bool.eq_iff_iff]
  constructor
  · intro named
    have single := lt_of_isNameChar named
    rw [← toUInt8_ofUInt8 byte] at spells
    rwa [(Bytes.mem_utf8EncodeChar_iff single).mp spells]
  · intro named
    have single := lt_of_isNameChar named
    rw [Bytes.utf8EncodeChar_of_lt single, List.mem_singleton] at spells
    rwa [spells, isNameByte, ofUInt8_toUInt8 single]

theorem ofText_cons (c : Char) (rest : List Char) :
    Bytes.ofText (String.ofList (c :: rest)) =
      String.utf8EncodeChar c ++ Bytes.ofText (String.ofList rest) := by
  rw [Bytes.ofText_eq_flatMap, Bytes.ofText_eq_flatMap, String.toList_ofList, String.toList_ofList,
    List.flatMap_cons]

theorem ofText_cons_of_lt {c : Char} (single : c.toNat < 128) (rest : List Char) :
    Bytes.ofText (String.ofList (c :: rest)) =
      c.toUInt8 :: Bytes.ofText (String.ofList rest) := by
  rw [ofText_cons, Bytes.utf8EncodeChar_of_lt single]
  rfl

/-- The first byte of a text is one of its first letter. -/
theorem exists_ofText_cons (c : Char) (rest : List Char) :
    ∃ byte ∈ String.utf8EncodeChar c, ∃ more,
      Bytes.ofText (String.ofList (c :: rest)) = byte :: more := by
  obtain ⟨byte, bytes, spelt⟩ := List.exists_cons_of_ne_nil (@String.utf8EncodeChar_ne_nil c)
  refine ⟨byte, spelt ▸ List.mem_cons_self, bytes ++ Bytes.ofText (String.ofList rest), ?_⟩
  rw [ofText_cons, spelt, List.cons_append]

/-- A text begins with the byte of a letter if it begins with the letter. -/
theorem head?_ofText_iff {letter : Char} (single : letter.toNat < 128) {text : List Char} :
    (Bytes.ofText (String.ofList text)).head? = some letter.toUInt8 ↔ text.head? = some letter := by
  cases text with
  | nil => simp [Bytes.ofText]
  | cons c text =>
    obtain ⟨byte, spells, more, bytes⟩ := exists_ofText_cons c text
    rw [bytes, List.head?_cons, List.head?_cons, Option.some_inj, Option.some_inj,
      eq_toUInt8_iff single spells]

/-- A name ends in bytes where it ends in letters. -/
theorem takeWhile_isNameByte {ident rest : List Char} (named : ∀ c ∈ ident, isNameChar c = true)
    (ends : EndsName rest) :
    (Bytes.ofText (String.ofList (ident ++ rest))).takeWhile isNameByte =
      Bytes.ofText (String.ofList ident) := by
  have inside : ∀ byte ∈ Bytes.ofText (String.ofList ident), isNameByte byte = true := by
    intro byte member
    rw [Bytes.ofText_eq_flatMap, String.toList_ofList] at member
    obtain ⟨c, member, spells⟩ := List.mem_flatMap.mp member
    rw [isNameByte_iff spells]
    exact named c member
  have behind : (Bytes.ofText (String.ofList rest)).takeWhile isNameByte = [] := by
    cases rest with
    | nil => rfl
    | cons c rest =>
      obtain ⟨byte, spells, more, bytes⟩ := exists_ofText_cons c rest
      rw [bytes, List.takeWhile_cons, isNameByte_iff spells, ends c rfl]
      rfl
  rw [String.ofList_append, Bytes.ofText_append, List.takeWhile_append_of_pos inside, behind,
    List.append_nil]

/-! ### Going on -/

section Run

variable {sql : String} {p p' : Progress}

theorem scanFrom_of_step {place more : Nat} {byte : UInt8} {rest : Bytes}
    (step : p.step sql place byte rest = some (p', more)) :
    scanFrom sql p place (byte :: rest) = scanFrom sql p' (place + 1 + more) (rest.drop more) := by
  rw [scanFrom, step]

/-- Bytes that mean nothing where the scan stands are passed over. -/
theorem scanFrom_of_inert {front : Bytes}
    (inert : ∀ byte ∈ front, ∀ place rest, p.step sql place byte rest = some (p, 0))
    (place : Nat) (rest : Bytes) :
    scanFrom sql p place (front ++ rest) = scanFrom sql p (place + front.length) rest := by
  induction front generalizing place with
  | nil => rfl
  | cons byte front ih =>
    rw [List.cons_append, scanFrom_of_step (inert byte List.mem_cons_self place _), List.drop_zero,
      ih fun byte member => inert byte (List.mem_cons_of_mem _ member), List.length_cons]
    congr 1
    omega

theorem step_of_inside {quote : UInt8} (inside : p.quote = some quote) {place : Nat}
    {byte : UInt8} {rest : Bytes} :
    p.step sql place byte rest =
      some (if byte = quote then { p with quote := none } else p, 0) := by
  rw [Progress.step, inside]

/-- Quoted text is passed over to the next quote of its kind. -/
theorem scanFrom_quoted (outside : p.quote = none) {quote : Char} {text : List Char}
    (quoted : isQuote quote = true) (notMem : quote ∉ text) (place : Nat) (rest : Bytes) :
    scanFrom sql p place (Bytes.ofText (String.ofList (quote :: text)) ++ rest) =
      scanFrom sql { p with quote := some quote.toUInt8 }
        (place + (Bytes.ofText (String.ofList (quote :: text))).length) rest := by
  have single := lt_of_isQuote quoted
  have opens (bytes : Bytes) : p.step sql place quote.toUInt8 bytes =
      some ({ p with quote := some quote.toUInt8 }, 0) := by
    rw [Progress.step, outside]
    exact if_pos ((isQuoteByte_iff (toUInt8_mem_utf8EncodeChar single)).trans quoted)
  -- only the quote itself would end the literal
  have inert : ∀ byte ∈ Bytes.ofText (String.ofList text), ∀ place rest,
      ({ p with quote := some quote.toUInt8 } : Progress).step sql place byte rest =
        some ({ p with quote := some quote.toUInt8 }, 0) := by
    intro byte member place rest
    rw [Bytes.ofText_eq_flatMap, String.toList_ofList] at member
    obtain ⟨c, member, spells⟩ := List.mem_flatMap.mp member
    have other : byte ≠ quote.toUInt8 := fun same =>
      notMem ((eq_toUInt8_iff single spells).mp same ▸ member)
    rw [step_of_inside rfl, if_neg other]
  rw [ofText_cons_of_lt single, List.cons_append, scanFrom_of_step (opens _), List.drop_zero,
    scanFrom_of_inert inert, List.length_cons]
  congr 1
  omega

/-- Outside of quoted text only some bytes mean something. -/
theorem step_of_plain (outside : p.quote = none) {place : Nat} {byte : UInt8} {rest : Bytes}
    (unquoted : isQuoteByte byte = false) (unmarked : byte ≠ '?'.toUInt8)
    (unsigiled : isSigilByte byte = false) : p.step sql place byte rest = some (p, 0) := by
  have single : byte ≠ ':'.toUInt8 := fun same => by simp [isSigilByte, same] at unsigiled
  rw [Progress.step, outside]
  simp only
  rw [if_neg (by simp [unquoted]), if_neg unmarked, if_neg fun both => single both.1,
    if_neg (by simp [unsigiled])]

/-- Behind a sigil stands a name, which may be empty. -/
theorem step_of_sigil (outside : p.quote = none) {place : Nat} {c : Char} {ident rest : List Char}
    (sigil : isSigil c = true) (single : ¬ (c = ':' ∧ (ident ++ rest).head? = some ':'))
    (named : ∀ c ∈ ident, isNameChar c = true) (ends : EndsName rest) :
    p.step sql place c.toUInt8 (Bytes.ofText (String.ofList (ident ++ rest))) =
      let length := (Bytes.ofText (String.ofList ident)).length
      if length = 0 then some (p, 0)
      else
        (Text.cut? sql (place + 1) (place + 1 + length)).map fun ident =>
          ({ p with found := p.found.add c.toUInt8 ident }, length) := by
  obtain ⟨unquoted, unmarked⟩ := not_isQuote_of_isSigil sigil
  have spells := toUInt8_mem_utf8EncodeChar (lt_of_isSigil sigil)
  have unmarked' : c.toUInt8 ≠ '?'.toUInt8 := fun same =>
    unmarked ((eq_toUInt8_iff (by decide) spells).mp same)
  have single' : ¬ (c.toUInt8 = ':'.toUInt8 ∧
      (Bytes.ofText (String.ofList (ident ++ rest))).head? = some ':'.toUInt8) := fun both =>
    single ⟨(eq_toUInt8_iff (by decide) spells).mp both.1,
      (head?_ofText_iff (by decide)).mp both.2⟩
  rw [Progress.step, outside]
  simp only
  rw [if_neg (by simp [isQuoteByte_iff spells, unquoted]), if_neg unmarked', if_neg single',
    if_pos ((isSigilByte_iff spells).trans sigil), takeWhile_isNameByte named ends]

/-- A literal is passed over with both its quotes. -/
theorem scanFrom_literal (outside : p.quote = none) {quote : Char} {text : List Char}
    (quoted : isQuote quote = true) (notMem : quote ∉ text) (place : Nat) (rest : List Char) :
    scanFrom sql p place (Bytes.ofText (String.ofList (quote :: (text ++ [quote]) ++ rest))) =
      scanFrom sql p
        (place + (Bytes.ofText (String.ofList (quote :: (text ++ [quote])))).length)
        (Bytes.ofText (String.ofList rest)) := by
  have single := lt_of_isQuote quoted
  have spelt : Bytes.ofText (String.ofList (quote :: (text ++ [quote]) ++ rest)) =
      Bytes.ofText (String.ofList (quote :: text)) ++
        quote.toUInt8 :: Bytes.ofText (String.ofList rest) := by
    rw [← ofText_cons_of_lt single, ← Bytes.ofText_append, ← String.ofList_append]
    simp
  -- the second quote brings back the progress from before the first
  have closes (place : Nat) : ({ p with quote := some quote.toUInt8 } : Progress).step sql place
      quote.toUInt8 (Bytes.ofText (String.ofList rest)) = some (p, 0) := by
    rw [step_of_inside rfl, if_pos rfl, ← outside]
  have length : (Bytes.ofText (String.ofList (quote :: (text ++ [quote])))).length =
      (Bytes.ofText (String.ofList (quote :: text))).length + 1 := by
    rw [← List.cons_append, String.ofList_append, Bytes.ofText_append, List.length_append,
      ofText_cons_of_lt single []]
    rfl
  rw [spelt, scanFrom_quoted outside quoted notMem, scanFrom_of_step (closes _), length]
  rfl

/-- The identifier is cut out behind the sigil, which is one byte. -/
theorem cut?_ident (front : String) {sigil : Char} (single : sigil.toNat < 128)
    (ident rest : List Char) :
    Text.cut? (front ++ String.ofList (sigil :: ident) ++ String.ofList rest)
        ((Bytes.ofText front).length + 1)
        ((Bytes.ofText front).length + 1 + (Bytes.ofText (String.ofList ident)).length) =
      some (String.ofList ident) := by
  have spelt : String.ofList (sigil :: ident) = String.ofList [sigil] ++ String.ofList ident := by
    rw [← String.ofList_append]
    rfl
  have begins : (front ++ String.ofList [sigil]).utf8ByteSize = (Bytes.ofText front).length + 1 := by
    rw [← Bytes.length_ofText, Bytes.ofText_append, List.length_append,
      ofText_cons_of_lt single []]
    rfl
  rw [spelt, ← String.append_assoc, ← begins, Bytes.length_ofText]
  exact Text.cut?_append ..

/-- A sigil and an identifier behind it are noted. -/
theorem step_of_placeholder (outside : p.quote = none) {sigil : Char} {ident rest : List Char}
    (fits : (Piece.placeholder sigil ident).Fits rest) {front : String}
    (whole : sql = front ++ String.ofList (sigil :: ident) ++ String.ofList rest) :
    p.step sql (Bytes.ofText front).length sigil.toUInt8
        (Bytes.ofText (String.ofList (ident ++ rest))) =
      some ({ p with found := p.found.add sigil.toUInt8 (String.ofList ident) },
        (Bytes.ofText (String.ofList ident)).length) := by
  obtain ⟨sigiled, nonempty, named, ends⟩ := fits
  obtain ⟨first, others, rfl⟩ := List.exists_cons_of_ne_nil nonempty
  have first_named := named first List.mem_cons_self
  have uncast : ¬ (sigil = ':' ∧ (first :: others ++ rest).head? = some ':') := by
    rintro ⟨-, head⟩
    rw [Option.some.inj head] at first_named
    exact absurd first_named (by decide)
  have length : (Bytes.ofText (String.ofList (first :: others))).length ≠ 0 := by
    rw [ofText_cons_of_lt (lt_of_isNameChar first_named)]
    exact Nat.succ_ne_zero _
  rw [step_of_sigil outside sigiled uncast named ends]
  simp only
  rw [if_neg length, whole, cut?_ident front (lt_of_isSigil sigiled)]
  rfl

/-- A placeholder is gone through as a whole. -/
theorem scanFrom_placeholder (outside : p.quote = none) {sigil : Char} {ident rest : List Char}
    (fits : (Piece.placeholder sigil ident).Fits rest) {front : String}
    (whole : sql = front ++ String.ofList (sigil :: ident) ++ String.ofList rest) :
    scanFrom sql p (Bytes.ofText front).length
        (Bytes.ofText (String.ofList (sigil :: ident ++ rest))) =
      scanFrom sql { p with found := p.found.add sigil.toUInt8 (String.ofList ident) }
        ((Bytes.ofText front).length + (Bytes.ofText (String.ofList (sigil :: ident))).length)
        (Bytes.ofText (String.ofList rest)) := by
  have single := lt_of_isSigil fits.1
  rw [List.cons_append, ofText_cons_of_lt single, ofText_cons_of_lt single,
    scanFrom_of_step (step_of_placeholder outside fits whole), String.ofList_append,
    Bytes.ofText_append, List.drop_left, List.length_cons]
  congr 1
  omega

/-- Any other letter is passed over. -/
theorem scanFrom_letter (outside : p.quote = none) {c : Char} {rest : List Char}
    (fits : (Piece.letter c).Fits rest) (place : Nat) :
    scanFrom sql p place (Bytes.ofText (String.ofList (c :: rest))) =
      scanFrom sql p (place + (Bytes.ofText (String.ofList [c])).length)
        (Bytes.ofText (String.ofList rest)) := by
  obtain ⟨unquoted, unmarked, uncast, alone⟩ := fits
  by_cases sigil : isSigil c = true
  · -- a sigil without a name behind it
    have step : p.step sql place c.toUInt8 (Bytes.ofText (String.ofList rest)) = some (p, 0) :=
      @step_of_sigil sql p outside place c [] rest sigil uncast (by simp) (alone sigil)
    rw [ofText_cons_of_lt (lt_of_isSigil sigil), ofText_cons_of_lt (lt_of_isSigil sigil),
      scanFrom_of_step step]
    rfl
  · -- of a letter of several bytes none looks like a letter that means something
    have inert : ∀ byte ∈ String.utf8EncodeChar c, ∀ place rest,
        p.step sql place byte rest = some (p, 0) := by
      intro byte spells place rest
      refine step_of_plain outside ((isQuoteByte_iff spells).trans unquoted) ?_ ?_
      · exact fun same => unmarked ((eq_toUInt8_iff (by decide) spells).mp same)
      · exact (isSigilByte_iff spells).trans (Bool.eq_false_iff.mpr sigil)
    have alone : Bytes.ofText (String.ofList [c]) = String.utf8EncodeChar c :=
      (ofText_cons c []).trans (List.append_nil _)
    rw [ofText_cons, scanFrom_of_inert inert, alone]

/-- What the scan knows behind a piece. -/
def taking (p : Progress) : Piece → Progress
  | .anonymous => p.addAnonymous
  | .placeholder sigil ident => { p with found := p.found.add sigil.toUInt8 (String.ofList ident) }
  | _ => p

theorem quote_taking (p : Progress) (piece : Piece) : (taking p piece).quote = p.quote := by
  cases piece <;> rfl

/-- **A piece is gone through as what it is.** -/
theorem scanFrom_piece (outside : p.quote = none) {piece : Piece} {rest : List Char}
    (fits : piece.Fits rest) (closed : ∀ quote text, piece ≠ .unclosed quote text) {front : String}
    (whole : sql = front ++ String.ofList piece.spelling ++ String.ofList rest) :
    scanFrom sql p (Bytes.ofText front).length
        (Bytes.ofText (String.ofList (piece.spelling ++ rest))) =
      scanFrom sql (taking p piece)
        ((Bytes.ofText front).length + (Bytes.ofText (String.ofList piece.spelling)).length)
        (Bytes.ofText (String.ofList rest)) := by
  cases piece with
  | literal quote text => exact scanFrom_literal outside fits.1 fits.2 _ rest
  | unclosed quote text => exact absurd rfl (closed quote text)
  | cast =>
    have step : p.step sql (Bytes.ofText front).length ':'.toUInt8
        (':'.toUInt8 :: Bytes.ofText (String.ofList rest)) = some (p, 1) := by
      rw [Progress.step, outside]
      rfl
    -- the second colon is passed over
    show scanFrom sql p _ (Bytes.ofText (String.ofList (':' :: ':' :: rest))) = _
    rw [ofText_cons_of_lt (by decide), ofText_cons_of_lt (by decide), scanFrom_of_step step]
    rfl
  | anonymous =>
    have step : p.step sql (Bytes.ofText front).length '?'.toUInt8
        (Bytes.ofText (String.ofList rest)) = some (p.addAnonymous, 0) := by
      rw [Progress.step, outside]
      rfl
    show scanFrom sql p _ (Bytes.ofText (String.ofList ('?' :: rest))) = _
    rw [ofText_cons_of_lt (by decide), scanFrom_of_step step]
    rfl
  | placeholder sigil ident => exact scanFrom_placeholder outside fits whole
  | letter c => exact scanFrom_letter outside fits _

/-- **The scan goes through a text as it is read.** -/
theorem scanFrom_of_reads {text : List Char} {pieces : List Piece} (h : Reads text pieces)
    (outside : p.quote = none) {front : String} (whole : sql = front ++ String.ofList text) :
    scanFrom sql p (Bytes.ofText front).length (Bytes.ofText (String.ofList text)) =
      some (pieces.foldl taking p).found := by
  induction h generalizing p front with
  | done =>
    show scanFrom sql p _ [] = _
    rw [scanFrom]
    rfl
  | @piece piece rest pieces fits reads ih =>
    rw [String.ofList_append, ← String.append_assoc] at whole
    by_cases closed : ∀ quote text, piece ≠ .unclosed quote text
    · rw [scanFrom_piece outside fits closed whole, ← List.length_append, ← Bytes.ofText_append,
        ih ((quote_taking p piece).trans outside) whole, List.foldl_cons]
    · -- nothing is behind a literal without an end
      obtain ⟨quote, text, rfl⟩ : ∃ quote text, piece = .unclosed quote text := by
        simpa using closed
      obtain ⟨quoted, notMem, rfl⟩ := fits
      obtain rfl : pieces = [] := reads.unique .done
      have passed : scanFrom sql p (Bytes.ofText front).length
          (Bytes.ofText (String.ofList (quote :: text)) ++ []) = _ :=
        scanFrom_quoted outside quoted notMem _ []
      rw [List.append_nil, scanFrom] at passed
      show scanFrom sql p _ (Bytes.ofText (String.ofList (quote :: text ++ []))) = _
      rw [List.append_nil, passed]
      rfl

end Run

/-! ### What is found -/

/-- An identifier is noted as a position or as a name, as its piece says. -/
theorem add_placeholder {sigil : Char} {ident rest : List Char}
    (fits : (Piece.placeholder sigil ident).Fits rest) (found : Placeholders) :
    found.add sigil.toUInt8 (String.ofList ident) =
      ⟨found.names ++ (Piece.placeholder sigil ident).name?.toList,
        max found.maxPosition ((Piece.placeholder sigil ident).position?.getD 0)⟩ := by
  obtain ⟨sigiled, nonempty, named, -⟩ := fits
  rw [Placeholders.add, natural?_eq_position? nonempty named, Piece.name?, Piece.position?]
  cases number : position? ident with
  | some n => simp
  | none =>
    have spells := toUInt8_mem_utf8EncodeChar (lt_of_isSigil sigiled)
    by_cases dollar : sigil = '$'
    · simp [dollar]
    · have other : sigil.toUInt8 ≠ '$'.toUInt8 := fun same =>
        dollar ((eq_toUInt8_iff (by decide) spells).mp same)
      simp [dollar, other]

/-- What a piece brings. -/
theorem taking_spec {piece : Piece} {rest : List Char} (fits : piece.Fits rest) {p : Progress}
    (counted : p.anonymous ≤ p.found.maxPosition) (few : p.anonymous ≤ 65535) :
    (taking p piece).found.names = p.found.names ++ piece.name?.toList ∧
      (taking p piece).anonymous =
        min (p.anonymous + if piece = .anonymous then 1 else 0) 65535 ∧
      (taking p piece).found.maxPosition =
        max (max p.found.maxPosition (taking p piece).anonymous) (piece.position?.getD 0) := by
  -- what the pieces say that count nothing
  have unchanged : p.anonymous = min (p.anonymous + 0) 65535 := by omega
  have level : p.found.maxPosition = max (max p.found.maxPosition p.anonymous) 0 := by omega
  have nameless : p.found.names = p.found.names ++ [] := (List.append_nil _).symm
  cases piece with
  | anonymous => exact ⟨nameless, rfl, (Nat.max_zero _).symm⟩
  | placeholder sigil ident =>
    have added := add_placeholder fits p.found
    have names := congrArg Placeholders.names added
    have maxPosition := congrArg Placeholders.maxPosition added
    refine ⟨names, unchanged, maxPosition.trans ?_⟩
    show max p.found.maxPosition _ = max (max p.found.maxPosition p.anonymous) _
    rw [Nat.max_eq_left counted]
  | literal quote text => exact ⟨nameless, unchanged, level⟩
  | unclosed quote text => exact ⟨nameless, unchanged, level⟩
  | cast => exact ⟨nameless, unchanged, level⟩
  | letter c => exact ⟨nameless, unchanged, level⟩

theorem names_cons (piece : Piece) (pieces : List Piece) :
    (piece :: pieces).filterMap Piece.name? =
      piece.name?.toList ++ pieces.filterMap Piece.name? := by
  cases named : piece.name? <;> simp [named]

theorem positions_cons (piece : Piece) (pieces : List Piece) :
    ((piece :: pieces).filterMap Piece.position?).foldr max 0 =
      max (piece.position?.getD 0) ((pieces.filterMap Piece.position?).foldr max 0) := by
  cases numbered : piece.position? <;> simp [numbered]

/-- The count of the `?` shows in the highest position at the last of them. -/
theorem max_count (old count more later named others most : Nat) :
    max (max (max old (min (count + more) most)) named)
        (max (min (min (count + more) most + later) most) others) =
      max old (max (min (count + (later + more)) most) (max named others)) := by
  have last : min (min (count + more) most + later) most = min (count + (later + more)) most := by
    omega
  have grows : min (count + more) most ≤ min (count + (later + more)) most := by omega
  rw [last]
  generalize min (count + (later + more)) most = behind at grows ⊢
  generalize min (count + more) most = before at grows ⊢
  calc max (max (max old before) named) (max behind others)
      = max old (max (max before behind) (max named others)) := by ac_rfl
    _ = max old (max behind (max named others)) := by rw [Nat.max_eq_right grows]

/-- What is found behind a reading, from what was found before. -/
theorem found_of_reads {text : List Char} {pieces : List Piece} (h : Reads text pieces)
    {p : Progress} (counted : p.anonymous ≤ p.found.maxPosition) (few : p.anonymous ≤ 65535) :
    (pieces.foldl taking p).found.names = p.found.names ++ pieces.filterMap Piece.name? ∧
      (pieces.foldl taking p).found.maxPosition =
        max p.found.maxPosition
          (max (min (p.anonymous + pieces.count .anonymous) 65535)
            ((pieces.filterMap Piece.position?).foldr max 0)) := by
  induction h generalizing p with
  | done =>
    refine ⟨(List.append_nil _).symm, ?_⟩
    show p.found.maxPosition = max p.found.maxPosition (max (min (p.anonymous + 0) 65535) 0)
    omega
  | @piece piece rest pieces fits reads ih =>
    -- the count of the `?` is never above the highest position, so that it is lost nowhere
    obtain ⟨names, anonymous, maxPosition⟩ := taking_spec fits counted few
    have counted' : (taking p piece).anonymous ≤ (taking p piece).found.maxPosition := by omega
    have few' : (taking p piece).anonymous ≤ 65535 := by omega
    obtain ⟨later, highest⟩ := ih counted' few'
    rw [List.foldl_cons, later, highest, names, names_cons, positions_cons, List.append_assoc,
      List.count_cons, maxPosition, anonymous]
    refine ⟨rfl, ?_⟩
    simp only [beq_iff_eq]
    exact max_count ..

/-- **The scan finds what is read**, and cuts no letter in two. -/
theorem scan?_of_reads {sql : String} {pieces : List Piece} (h : Reads sql.toList pieces) :
    scan? sql = some (summary pieces) := by
  have whole : sql = "" ++ String.ofList sql.toList := by simp
  have scanned : scan? sql = some (pieces.foldl taking {}).found := by
    have run := scanFrom_of_reads h (show ({} : Progress).quote = none from rfl) whole
    rwa [String.ofList_toList] at run
  obtain ⟨names, maxPosition⟩ :=
    found_of_reads h (show ({} : Progress).anonymous ≤ 0 from Nat.le_refl 0) (Nat.zero_le 65535)
  rw [scanned]
  generalize (pieces.foldl taking {}).found = found at names maxPosition ⊢
  obtain ⟨foundNames, foundPosition⟩ := found
  refine congrArg some (Placeholders.mk.injEq .. ▸ ⟨names, maxPosition.trans ?_⟩)
  rw [Nat.zero_max, Nat.zero_add, highest]

theorem scan_of_reads {sql : String} {pieces : List Piece} (h : Reads sql.toList pieces) :
    scan sql = summary pieces := by
  rw [scan, scan?_of_reads h]
  rfl

/-! ### Literals -/

/-- A literal adds nothing. -/
theorem summary_literal (before behind : List Piece) (quote : Char) (text : List Char) :
    summary (before ++ .literal quote text :: behind) = summary (before ++ behind) := by
  have names : (.literal quote text :: behind).filterMap Piece.name? =
      behind.filterMap Piece.name? := List.filterMap_cons_none rfl
  have positions : (.literal quote text :: behind).filterMap Piece.position? =
      behind.filterMap Piece.position? := List.filterMap_cons_none rfl
  have others : (.literal quote text :: behind).count .anonymous = behind.count .anonymous :=
    List.count_cons_of_ne (by simp)
  rw [summary, summary, highest, highest]
  simp only [List.filterMap_append, List.count_append, names, positions, others]

/-- A closed literal is one piece between what stands in front of it and behind it. -/
theorem Reads.literal_between {front back : List Char} {before behind : List Piece}
    (h : Reads front before) (h' : Reads back behind) (closed : openQuote front = none)
    {quote : Char} {text : List Char} (quoted : isQuote quote = true) (notMem : quote ∉ text) :
    Reads (front ++ quote :: (text ++ quote :: back)) (before ++ .literal quote text :: behind) := by
  obtain ⟨unnamed, uncast⟩ := not_isNameChar_of_isQuote quoted
  have spelt : quote :: (text ++ quote :: back) = (Piece.literal quote text).spelling ++ back := by
    simp [Piece.spelling]
  have ends : EndsName ((Piece.literal quote text).spelling ++ back) := by
    intro c head
    rw [← Option.some.inj head]
    exact unnamed
  rw [spelt]
  exact h.between h' closed ⟨quoted, notMem⟩ ends fun _ head => uncast (Option.some.inj head)

end Statement

namespace Placeholders

open Statement

/-- **The scan finds what stands in the reading of a statement.**  Every text has one
reading; the names that are found are those of its pieces, in order and as often as
they stand there, and the highest position is that of its pieces.  No letter is cut
in two.  What stands in a literal that is closed may be changed, and the same is
found. -/
theorem scan_follows_reading (sql : String) :
    (∃ pieces, Reads sql.toList pieces ∧
      (∀ pieces', Reads sql.toList pieces' → pieces' = pieces) ∧
      scan? sql = some (summary pieces) ∧ scan sql = summary pieces) ∧
    ∀ front quote text text' back, sql.toList = front ++ quote :: (text ++ quote :: back) →
      openQuote front = none → isQuote quote = true → quote ∉ text → quote ∉ text' →
      scan (String.ofList (front ++ quote :: (text' ++ quote :: back))) = scan sql := by
  refine ⟨?_, ?_⟩
  · obtain ⟨pieces, reads⟩ := exists_reads sql.toList
    exact ⟨pieces, reads, fun _ reads' => reads'.unique reads, scan?_of_reads reads,
      scan_of_reads reads⟩
  · intro front quote text text' back whole closed quoted notMem notMem'
    obtain ⟨before, readsFront⟩ := exists_reads front
    obtain ⟨behind, readsBack⟩ := exists_reads back
    have here : Reads sql.toList (before ++ .literal quote text :: behind) := by
      rw [whole]
      exact readsFront.literal_between readsBack closed quoted notMem
    have changed : Reads (String.ofList (front ++ quote :: (text' ++ quote :: back))).toList
        (before ++ .literal quote text' :: behind) := by
      rw [String.toList_ofList]
      exact readsFront.literal_between readsBack closed quoted notMem'
    rw [scan_of_reads here, scan_of_reads changed, summary_literal, summary_literal]

/-- Behind a letter of two bytes a literal with a letter of two bytes; then a name, a
cast, a number that `$` introduces, one with zeros in front, and a `?` that is not the
last position. -/
theorem scan_follows_reading_mixed :
    scan "é'?:ä' :a_1::b $3@007 ?" = ⟨["a_1"], 7⟩ ∧
      scan "é'x' :a_1::b $3@007 ?" = scan "é'?:ä' :a_1::b $3@007 ?" := by
  refine ⟨by decide +kernel, ?_⟩
  exact (scan_follows_reading "é'?:ä' :a_1::b $3@007 ?").2 ['é'] '\'' ['?', ':', 'ä'] ['x']
    " :a_1::b $3@007 ?".toList (by decide) (by decide) (by decide) (by decide) (by decide)

end Placeholders

end ProxyClient
