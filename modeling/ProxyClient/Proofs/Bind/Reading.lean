/-
ProxyClient/Proofs/Bind/Reading.lean

How a statement is read, from left to right and without looking at what scans
it.  A text falls into pieces,

    select :a, '?:b', x::int, ?
    →  letters, placeholder : a, letters, literal, letters, cast, letters, anonymous

and each piece says what it needs of the text behind it (`Piece.Fits`): a literal
runs to the next quote of its kind, or to the end if there is none, and a name
takes all the letters, digits and underscores there are.  A text has one reading
(`exists_reads`, `Reads.unique`).  Readings can be put one behind the other where
no piece runs over the seam (`Reads.append`).
-/
import ProxyClient.Bind.Placeholders
import Mathlib.Data.List.TakeWhile

namespace ProxyClient

namespace Statement

open Placeholders (isNameChar)

/-! ### Pieces -/

/-- The letters that begin and end quoted text. -/
def isQuote (c : Char) : Bool :=
  c == '\'' || c == '"'

/-- The letters that introduce a placeholder. -/
def isSigil (c : Char) : Bool :=
  c == ':' || c == '@' || c == '$'

/-- No name goes on into the text. -/
def EndsName (rest : List Char) : Prop :=
  ∀ c ∈ rest.head?, isNameChar c = false

theorem endsName_iff {rest : List Char} : EndsName rest ↔ rest.takeWhile isNameChar = [] := by
  cases rest with
  | nil => simp [EndsName]
  | cons c rest => cases named : isNameChar c <;> simp [EndsName, named]

instance (rest : List Char) : Decidable (EndsName rest) :=
  decidable_of_iff _ endsName_iff.symm

theorem EndsName.append {rest back : List Char} (h : EndsName rest) (h' : EndsName back) :
    EndsName (rest ++ back) := by
  cases rest with
  | nil => exact h'
  | cons c rest => exact h

theorem EndsName.takeWhile_append {ident rest : List Char} (h : EndsName rest)
    (named : ∀ c ∈ ident, isNameChar c = true) :
    (ident ++ rest).takeWhile isNameChar = ident := by
  rw [List.takeWhile_append_of_pos named, endsName_iff.mp h, List.append_nil]

theorem endsName_dropWhile (text : List Char) : EndsName (text.dropWhile isNameChar) := by
  induction text with
  | nil => simp [EndsName]
  | cons c text ih =>
    rw [List.dropWhile_cons]
    split
    · exact ih
    · next unnamed => simpa [EndsName] using unnamed

/-- A sigil is no quote, and no `?`. -/
theorem not_isQuote_of_isSigil {c : Char} (sigil : isSigil c = true) :
    isQuote c = false ∧ c ≠ '?' := by
  obtain (rfl | rfl) | rfl : (c = ':' ∨ c = '@') ∨ c = '$' := by simpa [isSigil] using sigil
  all_goals exact ⟨rfl, by decide⟩

theorem lt_of_isSigil {c : Char} (sigil : isSigil c = true) : c.toNat < 128 := by
  obtain (rfl | rfl) | rfl : (c = ':' ∨ c = '@') ∨ c = '$' := by simpa [isSigil] using sigil
  all_goals decide

theorem lt_of_isQuote {c : Char} (quoted : isQuote c = true) : c.toNat < 128 := by
  obtain rfl | rfl : c = '\'' ∨ c = '"' := by simpa [isQuote] using quoted
  all_goals decide

theorem not_isQuote_of_isNameChar {c : Char} (named : isNameChar c = true) : isQuote c = false := by
  refine Bool.eq_false_iff.mpr fun quoted => ?_
  obtain rfl | rfl : c = '\'' ∨ c = '"' := by simpa [isQuote] using quoted
  all_goals exact absurd named (by decide)

/-- A quote ends a name, and is no sigil. -/
theorem not_isNameChar_of_isQuote {c : Char} (quoted : isQuote c = true) :
    isNameChar c = false ∧ c ≠ ':' := by
  obtain rfl | rfl : c = '\'' ∨ c = '"' := by simpa [isQuote] using quoted
  all_goals exact ⟨rfl, by decide⟩

/-- A piece of a statement. -/
inductive Piece where
  /-- Quoted text. -/
  | literal (quote : Char) (text : List Char)
  /-- Quoted text without a quote at its end. -/
  | unclosed (quote : Char) (text : List Char)
  /-- `::`, in front of a type. -/
  | cast
  /-- `?`. -/
  | anonymous
  /-- A sigil and what follows it. -/
  | placeholder (sigil : Char) (ident : List Char)
  /-- Any other letter. -/
  | letter (c : Char)
  deriving DecidableEq, Repr

namespace Piece

/-- The text of a piece. -/
def spelling : Piece → List Char
  | literal quote text => quote :: (text ++ [quote])
  | unclosed quote text => quote :: text
  | cast => [':', ':']
  | anonymous => ['?']
  | placeholder sigil ident => sigil :: ident
  | letter c => [c]

/-- The text of the piece is read as this piece when `rest` follows it. -/
def Fits (rest : List Char) : Piece → Prop
  | literal quote text => isQuote quote = true ∧ quote ∉ text
  | unclosed quote text => isQuote quote = true ∧ quote ∉ text ∧ rest = []
  | cast => True
  | anonymous => True
  | placeholder sigil ident =>
    isSigil sigil = true ∧ ident ≠ [] ∧ (∀ c ∈ ident, isNameChar c = true) ∧ EndsName rest
  | letter c =>
    isQuote c = false ∧ c ≠ '?' ∧ ¬ (c = ':' ∧ rest.head? = some ':') ∧
      (isSigil c = true → EndsName rest)

instance (rest : List Char) (piece : Piece) : Decidable (piece.Fits rest) :=
  match piece with
  | literal .. | unclosed .. | cast | anonymous | letter .. => by unfold Fits; infer_instance
  | placeholder sigil ident =>
    decidable_of_iff
      (isSigil sigil = true ∧ ident ≠ [] ∧ ident.all isNameChar = true ∧ EndsName rest)
      (by rw [List.all_eq_true]; rfl)

/-- The piece at the head of a text, from its first letter and the others. -/
def ahead (c : Char) (rest : List Char) : Piece :=
  if isQuote c then
    if c ∈ rest then literal c (rest.takeWhile (· ≠ c)) else unclosed c rest
  else if c = '?' then anonymous
  else if c = ':' ∧ rest.head? = some ':' then cast
  else if isSigil c ∧ ¬ EndsName rest then placeholder c (rest.takeWhile isNameChar)
  else letter c

/-- There is a piece at the head of every text. -/
theorem exists_fits (c : Char) (text : List Char) :
    ∃ rest, (ahead c text).Fits rest ∧ c :: text = (ahead c text).spelling ++ rest := by
  rw [ahead]
  by_cases quoted : isQuote c = true
  · -- a quote: the literal goes up to the next one, or is never closed
    rw [if_pos quoted]
    by_cases closed : c ∈ text
    · obtain ⟨inside, rest, rfl, notMem⟩ := List.eq_append_cons_of_mem closed
      have plain : ∀ letter ∈ inside, decide (letter ≠ c) = true := fun letter member =>
        decide_eq_true (ne_of_mem_of_not_mem member notMem)
      rw [if_pos closed, List.takeWhile_append_of_pos plain]
      refine ⟨rest, ?_, ?_⟩
      · simpa [Fits, quoted] using notMem
      · simp [spelling]
    · rw [if_neg closed]
      exact ⟨[], ⟨quoted, closed, rfl⟩, by simp [spelling]⟩
  · rw [if_neg quoted]
    by_cases mark : c = '?'
    · -- a question mark
      rw [if_pos mark]
      exact ⟨text, trivial, by simp [spelling, mark]⟩
    · rw [if_neg mark]
      by_cases doubled : c = ':' ∧ text.head? = some ':'
      · -- a cast
        obtain ⟨rfl, head⟩ := doubled
        obtain ⟨rest, rfl⟩ := List.head?_eq_some_iff.mp head
        rw [if_pos ⟨rfl, head⟩]
        exact ⟨rest, trivial, rfl⟩
      · rw [if_neg doubled]
        by_cases named : isSigil c = true ∧ ¬ EndsName text
        · -- a sigil with a name behind it
          rw [if_pos named]
          refine ⟨text.dropWhile isNameChar, ⟨named.1, ?_, ?_, ?_⟩, ?_⟩
          · exact fun empty => named.2 (endsName_iff.mpr empty)
          · exact fun letter member => List.mem_takeWhile_imp member
          · exact endsName_dropWhile text
          · simp [spelling]
        · -- a letter
          rw [if_neg named]
          refine ⟨text, ⟨Bool.eq_false_iff.mpr quoted, mark, doubled, fun sigil => ?_⟩, rfl⟩
          exact Decidable.byContradiction fun goes => named ⟨sigil, goes⟩

/-- No other piece is. -/
theorem Fits.eq_ahead {piece : Piece} {rest text : List Char} {c : Char} (h : piece.Fits rest)
    (same : c :: text = piece.spelling ++ rest) : piece = ahead c text := by
  -- a piece tells with which character it begins
  cases piece with
  | literal quote inside =>
    obtain ⟨quoted, notMem⟩ := h
    obtain ⟨rfl, rfl⟩ : c = quote ∧ text = inside ++ quote :: rest := by
      simpa [spelling] using same
    have plain : ∀ letter ∈ inside, decide (letter ≠ c) = true := fun letter member =>
      decide_eq_true (ne_of_mem_of_not_mem member notMem)
    rw [ahead, if_pos quoted, if_pos (by simp), List.takeWhile_append_of_pos plain]
    simp
  | unclosed quote inside =>
    obtain ⟨quoted, notMem, rfl⟩ := h
    obtain ⟨rfl, rfl⟩ : c = quote ∧ text = inside := by simpa [spelling] using same
    rw [ahead, if_pos quoted, if_neg notMem]
  | cast =>
    obtain ⟨rfl, rfl⟩ : c = ':' ∧ text = ':' :: rest := by simpa [spelling] using same
    rfl
  | anonymous =>
    obtain ⟨rfl, rfl⟩ : c = '?' ∧ text = rest := by simpa [spelling] using same
    rfl
  | placeholder sigil ident =>
    obtain ⟨sigiled, nonempty, named, ends⟩ := h
    obtain ⟨rfl, rfl⟩ : c = sigil ∧ text = ident ++ rest := by simpa [spelling] using same
    obtain ⟨unquoted, unmarked⟩ := not_isQuote_of_isSigil sigiled
    obtain ⟨first, others, rfl⟩ := List.exists_cons_of_ne_nil nonempty
    have first_named := named first List.mem_cons_self
    have single : ¬ (c = ':' ∧ (first :: others ++ rest).head? = some ':') := by
      rintro ⟨-, head⟩
      rw [Option.some.inj head] at first_named
      exact absurd first_named (by decide)
    have goes : ¬ EndsName (first :: others ++ rest) := fun ends =>
      absurd (ends first rfl) (by simp [first_named])
    rw [ahead, if_neg (by simp [unquoted]), if_neg unmarked, if_neg single, if_pos ⟨sigiled, goes⟩,
      ends.takeWhile_append named]
  | letter letter =>
    obtain ⟨unquoted, unmarked, single, alone⟩ := h
    obtain ⟨rfl, rfl⟩ : c = letter ∧ text = rest := by simpa [spelling] using same
    rw [ahead, if_neg (by simp [unquoted]), if_neg unmarked, if_neg single, if_neg]
    exact fun named => named.2 (alone named.1)

end Piece

/-! ### Readings -/

/-- A statement with its pieces. -/
inductive Reads : List Char → List Piece → Prop
  /-- Nothing is left. -/
  | done : Reads [] []
  /-- A piece is read, and then what follows it. -/
  | piece {piece : Piece} {rest : List Char} {pieces : List Piece} :
      piece.Fits rest → Reads rest pieces → Reads (piece.spelling ++ rest) (piece :: pieces)

theorem Piece.spelling_ne_nil (piece : Piece) : piece.spelling ≠ [] := by
  cases piece <;> simp [spelling]

/-- Every text has a reading. -/
theorem exists_reads (text : List Char) : ∃ pieces, Reads text pieces := by
  match text with
  | [] => exact ⟨[], .done⟩
  | c :: text =>
    obtain ⟨rest, fits, same⟩ := Piece.exists_fits c text
    have shorter : rest.length < (c :: text).length := by
      have nonempty := List.length_pos_iff.mpr (Piece.ahead c text).spelling_ne_nil
      rw [same, List.length_append]
      omega
    obtain ⟨pieces, reads⟩ := exists_reads rest
    rw [same]
    exact ⟨_, .piece fits reads⟩
termination_by text.length
decreasing_by exact shorter

/-- And no more than one. -/
theorem Reads.unique {text : List Char} {pieces pieces' : List Piece} (h : Reads text pieces)
    (h' : Reads text pieces') : pieces = pieces' := by
  -- the characters ahead decide on the first piece, so both readings have it
  induction h generalizing pieces' with
  | done =>
    generalize nothing : ([] : List Char) = text at h'
    cases h' with
    | done => rfl
    | piece fits _ => exact absurd (List.append_eq_nil_iff.mp nothing.symm).1 (Piece.spelling_ne_nil _)
  | @piece piece rest pieces fits reads ih =>
    generalize whole : piece.spelling ++ rest = text at h'
    cases h' with
    | done => exact absurd (List.append_eq_nil_iff.mp whole).1 piece.spelling_ne_nil
    | @piece piece' rest' pieces' fits' reads' =>
      obtain ⟨c, others, spelt⟩ := List.exists_cons_of_ne_nil piece.spelling_ne_nil
      have head : c :: (others ++ rest) = piece.spelling ++ rest := by rw [spelt]; rfl
      obtain rfl : piece = piece' :=
        (fits.eq_ahead head).trans (fits'.eq_ahead (head.trans whole)).symm
      obtain rfl := List.append_cancel_left whole
      rw [ih reads']

/-- Every piece of a reading fits what follows it. -/
theorem Reads.exists_fits {text : List Char} {pieces : List Piece} (h : Reads text pieces)
    {piece : Piece} (member : piece ∈ pieces) : ∃ rest, piece.Fits rest := by
  induction h with
  | done => exact absurd member List.not_mem_nil
  | piece fits reads ih =>
    rcases List.mem_cons.mp member with rfl | later
    · exact ⟨_, fits⟩
    · exact ih later

/-! ### Readings behind one another -/

/-- A piece stays as it is when more text follows, if neither a literal nor a name
nor a cast runs over the seam. -/
theorem Piece.Fits.append {piece : Piece} {rest back : List Char} (h : piece.Fits rest)
    (closed : ∀ quote text, piece ≠ .unclosed quote text) (ends : EndsName back)
    (uncast : (piece.spelling ++ rest).getLast? = some ':' → back.head? ≠ some ':') :
    piece.Fits (rest ++ back) := by
  cases piece with
  | literal quote text => exact h
  | unclosed quote text => exact absurd rfl (closed quote text)
  | cast => trivial
  | anonymous => trivial
  | placeholder sigil ident =>
    obtain ⟨sigiled, nonempty, named, unnamed⟩ := h
    exact ⟨sigiled, nonempty, named, unnamed.append ends⟩
  | letter c =>
    obtain ⟨unquoted, unmarked, single, alone⟩ := h
    refine ⟨unquoted, unmarked, ?_, fun sigil => (alone sigil).append ends⟩
    -- a colon is no half of a cast, behind the rest or in it
    rintro ⟨rfl, doubled⟩
    cases rest with
    | nil => exact uncast rfl doubled
    | cons next rest => exact single ⟨rfl, doubled⟩

/-- **Readings can be put behind one another** where no piece runs over the seam. -/
theorem Reads.append {front back : List Char} {pieces pieces' : List Piece}
    (h : Reads front pieces) (h' : Reads back pieces')
    (closed : ∀ quote text, .unclosed quote text ∉ pieces) (ends : EndsName back)
    (uncast : front.getLast? = some ':' → back.head? ≠ some ':') :
    Reads (front ++ back) (pieces ++ pieces') := by
  induction h with
  | done => exact h'
  | @piece piece rest pieces fits reads ih =>
    have later : rest.getLast? = some ':' → back.head? ≠ some ':' := by
      intro last
      refine uncast ?_
      rw [List.getLast?_append, last]
      rfl
    have first : ∀ quote text, piece ≠ .unclosed quote text := fun quote text same =>
      closed quote text (same ▸ List.mem_cons_self)
    rw [List.append_assoc]
    exact .piece (fits.append first ends uncast)
      (ih (fun quote text member => closed quote text (List.mem_cons_of_mem _ member)) later)

/-! ### Open literals -/

/-- The quote that ends the text at a place, from the one at the letter before. -/
def quoteBehind (quote : Option Char) (c : Char) : Option Char :=
  match quote with
  | none => if isQuote c then some c else none
  | some quote => if c = quote then none else some quote

/-- The quote of the literal that a text leaves open, if it leaves one open. -/
def openQuote (text : List Char) : Option Char :=
  text.foldl quoteBehind none

/-- Letters that are no quotes leave everything as it is. -/
theorem foldl_quoteBehind_of_plain {quote : Option Char} {text : List Char}
    (plain : ∀ c ∈ text, quoteBehind quote c = quote) : text.foldl quoteBehind quote = quote := by
  induction text with
  | nil => rfl
  | cons c text ih =>
    rw [List.foldl_cons, plain c List.mem_cons_self]
    exact ih fun c member => plain c (List.mem_cons_of_mem _ member)

theorem foldl_quoteBehind_of_notMem {quote : Char} {text : List Char} (inside : quote ∉ text) :
    text.foldl quoteBehind (some quote) = some quote :=
  foldl_quoteBehind_of_plain fun _ member => if_neg (ne_of_mem_of_not_mem member inside)

/-- A piece leaves no literal open unless it is one. -/
theorem Piece.Fits.openQuote_spelling {piece : Piece} {rest : List Char} (h : piece.Fits rest)
    (closed : ∀ quote text, piece ≠ .unclosed quote text) : openQuote piece.spelling = none := by
  cases piece with
  | literal quote text =>
    obtain ⟨quoted, inside⟩ := h
    show (text ++ [quote]).foldl quoteBehind (if isQuote quote then some quote else none) = none
    rw [if_pos quoted, List.foldl_append, foldl_quoteBehind_of_notMem inside]
    exact if_pos rfl
  | unclosed quote text => exact absurd rfl (closed quote text)
  | cast => rfl
  | anonymous => rfl
  | placeholder sigil ident =>
    obtain ⟨sigiled, -, named, -⟩ := h
    refine foldl_quoteBehind_of_plain fun c member => if_neg ?_
    rcases List.mem_cons.mp member with rfl | inside
    · simp [(not_isQuote_of_isSigil sigiled).1]
    · simp [not_isQuote_of_isNameChar (named c inside)]
  | letter c => exact if_neg (by simp [h.1])

/-- Where no literal is left open, none is read. -/
theorem Reads.closed {text : List Char} {pieces : List Piece} (h : Reads text pieces)
    (closed : openQuote text = none) : ∀ quote inside, .unclosed quote inside ∉ pieces := by
  induction h with
  | done => exact fun _ _ => List.not_mem_nil
  | @piece piece rest pieces fits reads ih =>
    -- a literal that is never closed would leave its quote open
    have first : ∀ quote inside, piece ≠ .unclosed quote inside := by
      rintro quote inside rfl
      obtain ⟨quoted, notMem, rfl⟩ := fits
      have opened : openQuote (quote :: inside ++ []) = some quote := by
        show (inside ++ []).foldl quoteBehind (if isQuote quote then some quote else none) = _
        rw [if_pos quoted, List.append_nil, foldl_quoteBehind_of_notMem notMem]
      exact absurd (opened.symm.trans closed) (by simp)
    have others : openQuote rest = none := by
      rw [openQuote, List.foldl_append] at closed
      rwa [← openQuote, fits.openQuote_spelling first] at closed
    intro quote inside member
    rcases List.mem_cons.mp member with same | later
    · exact first quote inside same.symm
    · exact ih others quote inside later

/-- A piece stands between two readings if nothing runs over the seam in front of it. -/
theorem Reads.between {front back : List Char} {before behind : List Piece} {piece : Piece}
    (h : Reads front before) (h' : Reads back behind) (closed : openQuote front = none)
    (fits : piece.Fits back) (ends : EndsName (piece.spelling ++ back))
    (uncast : front.getLast? = some ':' → (piece.spelling ++ back).head? ≠ some ':') :
    Reads (front ++ (piece.spelling ++ back)) (before ++ piece :: behind) :=
  h.append (.piece fits h') (h.closed closed) ends uncast

end Statement

end ProxyClient
