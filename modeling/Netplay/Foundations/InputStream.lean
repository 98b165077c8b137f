import Mathlib.Algebra.Ring.Int.Defs
import Mathlib.Data.List.Basic

/-!
# Character input streams

A `std::istream` on a finite input: the characters still to come, and the flags
`eofbit` and `failbit`.  Extractors follow the library: a formatted one skips
white space first, reading past the end sets `eofbit`, and a stream that is not
good only sets `failbit`.

A loop that extracts a word and a character in each round ends, because a round
that leaves the stream good has shortened it (`length_readWord_ignore_lt`).  What was
written is read back (`readWord_append`, `readInt64_printInt64`).
-/

structure InputStream where
  chars : List Char
  eof : Bool := false
  fail : Bool := false
deriving DecidableEq

namespace InputStream

/-- `good()`. -/
def good (s : InputStream) : Bool := !s.eof && !s.fail

/-- `std::isspace` in the classic locale. -/
def isSpace (c : Char) : Bool :=
  c == ' ' || c == '\t' || c == '\n' || c == '\r' || c.val == 11 || c.val == 12

/-- The sentry of a formatted extractor: whether there is something to extract. -/
def skipSpace (s : InputStream) : Bool × InputStream :=
  if s.good = false then
    (false, { s with fail := true })
  else
    match s.chars.dropWhile isSpace with
    | [] => (false, { chars := [], eof := true, fail := true })
    | c :: rest => (true, { s with chars := c :: rest })

/-- `operator>>` for a string that holds `word` before. -/
def readWord (s : InputStream) (word : List Char) : List Char × InputStream :=
  match s.skipSpace with
  | (false, s) => (word, s)
  | (true, s) =>
      let rest := s.chars.dropWhile fun c => !isSpace c
      (s.chars.takeWhile fun c => !isSpace c, { s with chars := rest, eof := rest.isEmpty })

/-- An optional sign, and what follows it. -/
def readSign : List Char → Bool × List Char
  | '-' :: rest => (true, rest)
  | '+' :: rest => (false, rest)
  | chars => (false, chars)

/-- The number that decimal digits stand for. -/
def digitsValue (digits : List Char) : Int :=
  digits.foldl (fun value c => 10 * value + (c.toNat - '0'.toNat : Nat)) 0

/-- `operator>>` for an `int64_t` that holds `value` before: what does not fit is
clamped and sets `failbit`, as does input that is no number. -/
def readInt64 (s : InputStream) (value : Int) : Int × InputStream :=
  match s.skipSpace with
  | (false, s) => (value, s)
  | (true, s) =>
      let (negative, unsigned) := readSign s.chars
      let digits := unsigned.takeWhile Char.isDigit
      let rest := unsigned.dropWhile Char.isDigit
      let s := { s with chars := rest, eof := rest.isEmpty }
      let number := if negative then -digitsValue digits else digitsValue digits
      if digits = [] then (0, { s with fail := true })
      else if number < -2 ^ 63 then (-2 ^ 63, { s with fail := true })
      else if 2 ^ 63 ≤ number then (2 ^ 63 - 1, { s with fail := true })
      else (number, s)

/-- `ignore()`. -/
def ignore (s : InputStream) : InputStream :=
  if s.good = false then { s with fail := true }
  else
    match s.chars with
    | [] => { s with eof := true }
    | _ :: rest => { s with chars := rest }

/-- `ignore(max, '\n')`. -/
def ignoreLine (s : InputStream) : InputStream :=
  if s.good = false then { s with fail := true }
  else
    match s.chars.dropWhile fun c => c != '\n' with
    | [] => { s with chars := [], eof := true }
    | _ :: rest => { s with chars := rest }

theorem length_skipSpace_le (s : InputStream) : s.skipSpace.2.chars.length ≤ s.chars.length := by
  unfold skipSpace
  split_ifs
  · exact Nat.le_refl _
  · have hle := (s.chars.dropWhile_suffix isSpace).length_le
    cases hdrop : s.chars.dropWhile isSpace with
    | nil => exact Nat.zero_le _
    | cons c rest =>
        rw [hdrop] at hle
        exact hle

theorem ignore_of_bad {s : InputStream} (h : s.good = false) : s.ignore.good = false := by
  unfold ignore
  rw [if_pos h]
  simp [good]

/-- If there was nothing to extract, the stream stays bad. -/
theorem ignore_skipSpace_of_false {s s' : InputStream} (h : s.skipSpace = (false, s')) :
    s'.ignore.good = false := by
  apply ignore_of_bad
  unfold skipSpace at h
  split_ifs at h with hgood
  · cases h
    simp [good]
  · cases hdrop : s.chars.dropWhile isSpace with
    | nil =>
        rw [hdrop] at h
        cases h
        rfl
    | cons c rest =>
        rw [hdrop] at h
        cases h

/-- `ignore()` leaves a stream good only by extracting a character. -/
theorem length_ignore_lt {s : InputStream} (hgood : s.ignore.good = true) :
    s.ignore.chars.length < s.chars.length := by
  cases hbefore : s.good with
  | false =>
      rw [ignore_of_bad hbefore] at hgood
      cases hgood
  | true =>
      unfold ignore at hgood ⊢
      rw [hbefore] at hgood ⊢
      cases hchars : s.chars with
      | nil => simp [hchars, good] at hgood
      | cons c rest => simp

/-- A word and the character after it have been extracted if the stream is still
good. -/
theorem length_readWord_ignore_lt {s : InputStream} {word : List Char}
    (hgood : (s.readWord word).2.ignore.good = true) :
    (s.readWord word).2.ignore.chars.length < s.chars.length := by
  have hle : (s.readWord word).2.chars.length ≤ s.chars.length := by
    have hskip := s.length_skipSpace_le
    unfold readWord
    generalize s.skipSpace = skipped at hskip
    obtain ⟨ok, s'⟩ := skipped
    cases ok with
    | false => exact hskip
    | true => exact Nat.le_trans (s'.chars.dropWhile_suffix _).length_le hskip
  exact Nat.lt_of_lt_of_le (length_ignore_lt hgood) hle

/-! ### Reading back what was written -/

/-- `operator<<` for an `int64_t`. -/
def printInt64 (number : Int) : List Char :=
  if number < 0 then '-' :: Nat.toDigits 10 number.natAbs else Nat.toDigits 10 number.natAbs

/-- White space is skipped up to the first other character. -/
theorem skipSpace_append {before : List Char} (hbefore : ∀ c ∈ before, isSpace c = true)
    {c : Char} (hc : isSpace c = false) (rest : List Char) :
    skipSpace { chars := before ++ c :: rest } = (true, { chars := c :: rest }) := by
  have hdrop : (before ++ c :: rest).dropWhile isSpace = c :: rest := by
    rw [List.dropWhile_append_of_pos hbefore, List.dropWhile_cons_of_neg (by simp [hc])]
  simp only [skipSpace, hdrop]
  rfl

/-- A word is read back up to the white space behind it. -/
theorem readWord_append {before word : List Char} (hbefore : ∀ c ∈ before, isSpace c = true)
    (hne : word ≠ []) (hword : ∀ c ∈ word, isSpace c = false) {after : Char}
    (hafter : isSpace after = true) (rest held : List Char) :
    readWord { chars := before ++ (word ++ after :: rest) } held =
      (word, { chars := after :: rest }) := by
  have hnot : ∀ c ∈ word, (!isSpace c) = true := fun c hc => by rw [hword c hc]; rfl
  have htake : (after :: rest).takeWhile (fun c => !isSpace c) = [] :=
    List.takeWhile_cons_of_neg (by simp [hafter])
  have hdrop : (after :: rest).dropWhile (fun c => !isSpace c) = after :: rest :=
    List.dropWhile_cons_of_neg (by simp [hafter])
  obtain ⟨first, others, rfl⟩ := List.exists_cons_of_ne_nil hne
  have hskip := skipSpace_append hbefore (hword first List.mem_cons_self)
    (others ++ after :: rest)
  rw [readWord, List.cons_append, hskip]
  simp only
  rw [← List.cons_append, List.takeWhile_append_of_pos hnot, List.dropWhile_append_of_pos hnot,
    htake, hdrop, List.append_nil]
  rfl

theorem digitsValue_toDigits (n : Nat) : digitsValue (Nat.toDigits 10 n) = n := by
  have hvalue : ∀ (digits : List Char) (value : Nat),
      digits.foldl (fun value c => 10 * value + ((c.toNat - '0'.toNat : Nat) : Int)) value =
        Nat.ofDigitChars 10 digits value := by
    intro digits
    induction digits with
    | nil => exact fun value => rfl
    | cons c digits ih =>
        intro value
        rw [List.foldl_cons, Nat.ofDigitChars_cons, ← ih]
        rfl
  rw [digitsValue]
  exact (hvalue _ 0).trans (congrArg Nat.cast Nat.ofDigitChars_ten_toDigits)

theorem isSpace_of_isDigit {c : Char} (hdigit : c.isDigit = true) : isSpace c = false := by
  rw [Bool.eq_false_iff]
  intro hspace
  simp only [isSpace, Bool.or_eq_true, beq_iff_eq] at hspace
  rcases hspace with ((((rfl | rfl) | rfl) | rfl) | hval) | hval
  · cases hdigit
  · cases hdigit
  · cases hdigit
  · cases hdigit
  · simp [Char.isDigit, hval] at hdigit
  · simp [Char.isDigit, hval] at hdigit

theorem readSign_of_isDigit {c : Char} (hdigit : c.isDigit = true) (rest : List Char) :
    readSign (c :: rest) = (false, c :: rest) := by
  unfold readSign
  split
  next heq =>
    cases heq
    cases hdigit
  next heq =>
    cases heq
    cases hdigit
  next => rfl

/-- What was written for a number is read back as this number, up to a character that is no
digit. -/
theorem readInt64_printInt64 {number : Int} (hlow : -2 ^ 63 ≤ number) (hhigh : number < 2 ^ 63)
    {before : List Char} (hbefore : ∀ c ∈ before, isSpace c = true) {after : Char}
    (hafter : after.isDigit = false) (rest : List Char) (held : Int) :
    readInt64 { chars := before ++ (printInt64 number ++ after :: rest) } held =
      (number, { chars := after :: rest }) := by
  have hdigits : ∀ c ∈ Nat.toDigits 10 number.natAbs, c.isDigit = true := fun c hc =>
    Nat.isDigit_of_mem_toDigits (by decide) (by decide) hc
  have hne : Nat.toDigits 10 number.natAbs ≠ [] := Nat.toDigits_ne_nil
  have hvalue := digitsValue_toDigits number.natAbs
  rw [printInt64]
  generalize Nat.toDigits 10 number.natAbs = digits at hdigits hne hvalue
  have htake : (digits ++ after :: rest).takeWhile Char.isDigit = digits := by
    rw [List.takeWhile_append_of_pos hdigits, List.takeWhile_cons_of_neg (by simp [hafter]),
      List.append_nil]
  have hdrop : (digits ++ after :: rest).dropWhile Char.isDigit = after :: rest := by
    rw [List.dropWhile_append_of_pos hdigits, List.dropWhile_cons_of_neg (by simp [hafter])]
  unfold readInt64
  by_cases hneg : number < 0
  · rw [if_pos hneg, List.cons_append, skipSpace_append hbefore (by decide)]
    have hnumber : -(number.natAbs : Int) = number := by omega
    simp only [readSign, htake, hdrop, hvalue, if_true, if_neg hne, hnumber]
    rw [if_neg (by omega), if_neg (by omega)]
    rfl
  · rw [if_neg hneg]
    have hnumber : (number.natAbs : Int) = number := by omega
    obtain ⟨first, others, rfl⟩ := List.exists_cons_of_ne_nil hne
    have hfirst := hdigits first List.mem_cons_self
    rw [List.cons_append, skipSpace_append hbefore (isSpace_of_isDigit hfirst)]
    simp only [readSign_of_isDigit hfirst]
    rw [← List.cons_append]
    simp only [htake, hdrop, hvalue, Bool.false_eq_true, if_false, if_neg hne, hnumber]
    rw [if_neg (by omega), if_neg (by omega)]
    rfl

end InputStream
