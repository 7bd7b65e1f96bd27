import Mathlib.Algebra.Order.Ring.Nat
import Mathlib.Data.List.DropRight
import Mathlib.Data.List.Infix
import Mathlib.Tactic.Common

/-!
# Text in lines and in fields

A stream of text is read piece by piece up to a delimiter, and the end of the stream ends the
last piece.  Pieces that are written with the delimiter behind each come back as they are;
joined pieces do so if they are not empty.

Numbers are read as by `std::stoul`: blanks and a sign may stand before the digits, and what
comes after the digits is not looked at.
-/

namespace UeSim

/-! ## Pieces -/

/-- What `std::getline` reads, up to the end of the stream. -/
def getlines (delimiter : Char) : List Char → List (List Char)
  | [] => []
  | c :: rest =>
    if c = delimiter then [] :: getlines delimiter rest
    else match getlines delimiter rest with
      | [] => [[c]]
      | piece :: pieces => (c :: piece) :: pieces

/-- Pieces with a delimiter between them. -/
def joined (delimiter : Char) : List (List Char) → List Char
  | [] => []
  | [piece] => piece
  | piece :: pieces => piece ++ delimiter :: joined delimiter pieces

/-- Pieces with a delimiter behind each. -/
def terminated (delimiter : Char) (pieces : List (List Char)) : List Char :=
  pieces.flatMap fun piece => piece ++ [delimiter]

/-- A delimiter ends the first piece. -/
theorem getlines_append {delimiter : Char} {piece : List Char} (hpiece : delimiter ∉ piece)
    (rest : List Char) :
    getlines delimiter (piece ++ delimiter :: rest) = piece :: getlines delimiter rest := by
  induction piece with
  | nil => simp [getlines]
  | cons c piece ih =>
      have hc : c ≠ delimiter := fun h => hpiece (by simp [h])
      have hrest : delimiter ∉ piece := fun h => hpiece (by simp [h])
      rw [List.cons_append, getlines, if_neg hc, ih hrest]

/-- Text without the delimiter is one piece. -/
theorem getlines_of_not_mem {delimiter : Char} {piece : List Char} (hne : piece ≠ [])
    (hpiece : delimiter ∉ piece) : getlines delimiter piece = [piece] := by
  induction piece with
  | nil => exact absurd rfl hne
  | cons c piece ih =>
      have hc : c ≠ delimiter := fun h => hpiece (by simp [h])
      have hrest : delimiter ∉ piece := fun h => hpiece (by simp [h])
      rw [getlines, if_neg hc]
      cases piece with
      | nil => rfl
      | cons d piece => rw [ih (by simp) hrest]

/-- Joined pieces that are not empty come back. -/
theorem getlines_joined {delimiter : Char} {pieces : List (List Char)}
    (hne : ∀ piece ∈ pieces, piece ≠ []) (hpieces : ∀ piece ∈ pieces, delimiter ∉ piece) :
    getlines delimiter (joined delimiter pieces) = pieces := by
  induction pieces with
  | nil => rfl
  | cons piece pieces ih =>
      cases pieces with
      | nil => exact getlines_of_not_mem (hne piece (by simp)) (hpieces piece (by simp))
      | cons next pieces =>
          have hrest := ih (fun p hp => hne p (List.mem_cons_of_mem _ hp))
            (fun p hp => hpieces p (List.mem_cons_of_mem _ hp))
          have hjoined : joined delimiter (piece :: next :: pieces) =
              piece ++ delimiter :: joined delimiter (next :: pieces) := rfl
          rw [hjoined, getlines_append (hpieces piece (by simp)), hrest]

/-- Terminated pieces come back. -/
theorem getlines_terminated {delimiter : Char} {pieces : List (List Char)}
    (hpieces : ∀ piece ∈ pieces, delimiter ∉ piece) :
    getlines delimiter (terminated delimiter pieces) = pieces := by
  induction pieces with
  | nil => rfl
  | cons piece pieces ih =>
      have hterminated : terminated delimiter (piece :: pieces) =
          piece ++ delimiter :: terminated delimiter pieces := by simp [terminated]
      rw [hterminated, getlines_append (hpieces piece (by simp)),
        ih fun p hp => hpieces p (List.mem_cons_of_mem _ hp)]

/-- What joined pieces consist of. -/
theorem mem_joined {delimiter c : Char} {pieces : List (List Char)}
    (hc : c ∈ joined delimiter pieces) : c = delimiter ∨ ∃ piece ∈ pieces, c ∈ piece := by
  induction pieces with
  | nil => simp [joined] at hc
  | cons piece pieces ih =>
      cases pieces with
      | nil => exact Or.inr ⟨piece, by simp, hc⟩
      | cons next pieces =>
          have hjoined : joined delimiter (piece :: next :: pieces) =
              piece ++ delimiter :: joined delimiter (next :: pieces) := rfl
          rw [hjoined, List.mem_append, List.mem_cons] at hc
          rcases hc with hc | hc | hc
          · exact Or.inr ⟨piece, by simp, hc⟩
          · exact Or.inl hc
          · rcases ih hc with h | ⟨p, hp, hcp⟩
            · exact Or.inl h
            · exact Or.inr ⟨p, List.mem_cons_of_mem _ hp, hcp⟩

/-! ## Blanks -/

/-- A piece without the blanks at both ends. -/
def trimmed (blank : Char → Bool) (piece : List Char) : List Char :=
  (piece.dropWhile blank).rdropWhile blank

/-- Blanks around a text are taken off. -/
theorem trimmed_padded {blank : Char → Bool} {left right text : List Char}
    (hleft : ∀ c ∈ left, blank c = true) (hright : ∀ c ∈ right, blank c = true)
    (hne : text ≠ []) (htext : ∀ c ∈ text, blank c = false) :
    trimmed blank (left ++ text ++ right) = text := by
  have hfront : (left ++ text ++ right).dropWhile blank = text ++ right := by
    rw [List.append_assoc, List.dropWhile_append_of_pos hleft]
    cases text with
    | nil => exact absurd rfl hne
    | cons c text => rw [List.cons_append, List.dropWhile_cons_of_neg (by simp [htext c])]
  have hback : (text ++ right).reverse.dropWhile blank = text.reverse := by
    rw [List.reverse_append, List.dropWhile_append_of_pos (by simpa using hright)]
    cases hrev : text.reverse with
    | nil => rfl
    | cons c rest =>
        have hc : c ∈ text := by
          rw [← List.mem_reverse, hrev]
          exact List.mem_cons_self
        rw [List.dropWhile_cons_of_neg (by simp [htext c hc])]
  rw [trimmed, hfront, List.rdropWhile, hback, List.reverse_reverse]

/-! ## Numbers -/

/-- The blanks that `std::stoul` passes over. -/
def isSpace (c : Char) : Bool :=
  c = ' ' ∨ c = '\t' ∨ c = '\n' ∨ c = '\r' ∨ c = '\x0b' ∨ c = '\x0c'

/-- A sign and what follows it. -/
def splitSign : List Char → Bool × List Char
  | '-' :: rest => (true, rest)
  | '+' :: rest => (false, rest)
  | text => (false, text)

/-- `std::stoul`, for an `unsigned long` of 64 bits; `none` if it throws. -/
def stoul (token : List Char) : Option ℕ :=
  let signed := splitSign (token.dropWhile isSpace)
  let digits := signed.2.takeWhile Char.isDigit
  if digits = [] then none
  else if Nat.ofDigitChars 10 digits 0 ≥ 2 ^ 64 then none
  else if signed.1 then some ((2 ^ 64 - Nat.ofDigitChars 10 digits 0) % 2 ^ 64)
  else some (Nat.ofDigitChars 10 digits 0)

/-- A number in digits. -/
def decimalText (n : ℕ) : List Char := Nat.toDigits 10 n

/-- A number has digits only. -/
theorem isDigit_of_mem_decimalText {n : ℕ} {c : Char} (hc : c ∈ decimalText n) :
    c.isDigit = true :=
  Nat.isDigit_of_mem_toDigits (by decide) (by decide) hc

theorem decimalText_ne_nil (n : ℕ) : decimalText n ≠ [] := Nat.toDigits_ne_nil

/-- A digit is not a blank. -/
theorem isSpace_of_isDigit {c : Char} (hc : c.isDigit = true) : isSpace c = false := by
  rw [← Bool.not_eq_true]
  intro hspace
  simp only [isSpace, decide_eq_true_eq] at hspace
  rcases hspace with rfl | rfl | rfl | rfl | rfl | rfl <;> exact absurd hc (by decide)

/-- A digit is not a sign. -/
theorem splitSign_of_isDigit {c : Char} {rest : List Char} (hc : c.isDigit = true) :
    splitSign (c :: rest) = (false, c :: rest) := by
  have hminus : c ≠ '-' := by
    rintro rfl
    exact absurd hc (by decide)
  have hplus : c ≠ '+' := by
    rintro rfl
    exact absurd hc (by decide)
  simp [splitSign, hminus, hplus]

/-- Digits are read back up to the first other character. -/
theorem takeWhile_decimalText (n : ℕ) (rest : List Char)
    (hrest : ∀ c ∈ rest.head?, c.isDigit = false) :
    (decimalText n ++ rest).takeWhile Char.isDigit = decimalText n := by
  rw [List.takeWhile_append_of_pos fun c hc => isDigit_of_mem_decimalText hc]
  cases rest with
  | nil => simp
  | cons c rest => simp [hrest c (by simp)]

/-- A number below 2^64 is read back. -/
theorem stoul_decimalText {n : ℕ} (hn : n < 2 ^ 64) : stoul (decimalText n) = some n := by
  have hdigits := takeWhile_decimalText n [] (by simp)
  rw [List.append_nil] at hdigits
  have hvalue : Nat.ofDigitChars 10 (decimalText n) 0 = n := Nat.ofDigitChars_ten_toDigits
  obtain ⟨c, rest, htext⟩ := List.exists_cons_of_ne_nil (decimalText_ne_nil n)
  have hc : c.isDigit = true := isDigit_of_mem_decimalText (n := n) (by simp [htext])
  have hspace : (decimalText n).dropWhile isSpace = decimalText n := by
    rw [htext, List.dropWhile_cons_of_neg (by simp [isSpace_of_isDigit hc])]
  have hsign : splitSign (decimalText n) = (false, decimalText n) := by
    rw [htext]
    exact splitSign_of_isDigit hc
  simp only [stoul, hspace, hsign, hdigits, hvalue]
  rw [if_neg (decimalText_ne_nil n), if_neg (by omega), if_neg (by simp)]

end UeSim
