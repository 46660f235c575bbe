import Tombstone.Proofs.JsonGrammar

/-!
# The tokens of written texts

Cutting a text into tokens goes over blanks, and takes each piece of a written text off its front as
one token, whatever follows. Only a number needs to know what follows: it ends where nothing more of
it comes, so a blank, a comma, a closing bracket or the end of the text has to stand there.
-/

namespace Tombstone.Json

/-- What may stand behind a value. -/
def enders : List Char := [' ', '\t', '\n', '\r', ',', ']', '\x7d']

/-- The text ends, or goes on with something that no value goes on with. -/
def Ends (text : List Char) : Prop := ∀ char ∈ text.head?, char ∈ enders

theorem ends_nil : Ends [] := by simp [Ends]

theorem ends_cons {char : Char} (text : List Char) (ender : char ∈ enders) :
    Ends (char :: text) := by
  simpa [Ends] using ender

/-- What ends a value is different from whatever a value goes on with. -/
theorem Ends.avoids {text : List Char} {goesOn : Char → Bool} (ends : Ends text)
    (apart : enders.any goesOn = false) : text.head?.any goesOn = false := by
  cases text with
  | nil => rfl
  | cons char more =>
      simp only [List.head?_cons, Option.any_some]
      exact Bool.eq_false_iff.mpr (List.any_eq_false.mp apart char (ends char rfl))

theorem IsBlanks.ends {blanks text : List Char} (isBlanks : IsBlanks blanks) (ends : Ends text) :
    Ends (blanks ++ text) := by
  cases blanks with
  | nil => exact ends
  | cons char more =>
      apply ends_cons
      have blank := isBlanks char List.mem_cons_self
      simp only [enders, List.mem_cons, List.not_mem_nil, or_false] at blank ⊢
      rcases blank with rfl | rfl | rfl | rfl <;> simp

/-! ## Tokens from the front -/

@[simp]
theorem tokens_nil : tokens [] = [] := by rw [tokens]

/-- The first token of a text, and then the tokens of what is left. -/
theorem tokens_cons {char : Char} {rest after : List Char} {token : Token}
    (not_blank : isBlank char = false) (found : firstToken char rest = (token, some after)) :
    tokens (char :: rest) = token :: tokens after := by
  rw [tokens]
  simp only [not_blank, Bool.false_eq_true, if_false]
  split
  · next none_left => simp [found] at none_left
  · next some_left =>
      simp only [found, Prod.mk.injEq, Option.some.injEq] at some_left
      rw [some_left.1, some_left.2]

@[simp]
theorem tokens_openBracket (rest : List Char) :
    tokens ('[' :: rest) = .openBracket :: tokens rest := tokens_cons rfl rfl

@[simp]
theorem tokens_closeBracket (rest : List Char) :
    tokens (']' :: rest) = .closeBracket :: tokens rest := tokens_cons rfl rfl

@[simp]
theorem tokens_openBrace (rest : List Char) :
    tokens ('\x7b' :: rest) = .openBrace :: tokens rest := tokens_cons rfl rfl

@[simp]
theorem tokens_closeBrace (rest : List Char) :
    tokens ('\x7d' :: rest) = .closeBrace :: tokens rest := tokens_cons rfl rfl

@[simp]
theorem tokens_comma (rest : List Char) : tokens (',' :: rest) = .comma :: tokens rest :=
  tokens_cons rfl rfl

@[simp]
theorem tokens_colon (rest : List Char) : tokens (':' :: rest) = .colon :: tokens rest :=
  tokens_cons rfl rfl

theorem tokens_blanks {blanks : List Char} (isBlanks : IsBlanks blanks) (text : List Char) :
    tokens (blanks ++ text) = tokens text := by
  induction blanks with
  | nil => rfl
  | cons char more ih =>
      rcases List.forall_mem_cons.mp isBlanks with ⟨blank, isBlanks_more⟩
      have is_blank : isBlank char = true := by
        simp only [List.mem_cons, List.not_mem_nil, or_false] at blank
        rcases blank with rfl | rfl | rfl | rfl <;> rfl
      rw [List.cons_append, tokens]
      simp only [is_blank, if_true]
      exact ih isBlanks_more

/-! ## Numbers -/

theorem IsDigits.scan {digits rest : List Char} (isDigits : IsDigits digits)
    (no_digit : rest.head?.any Char.isDigit = false) :
    scanDigits (digits ++ rest) = .ok (digits, rest) := by
  have taken : rest.takeWhile Char.isDigit = [] ∧ rest.dropWhile Char.isDigit = rest := by
    cases rest with
    | nil => simp
    | cons char more =>
        have stops : char.isDigit = false := by simpa using no_digit
        simp [stops]
  rw [scanDigits, List.takeWhile_append_of_pos isDigits.isDigit,
    List.dropWhile_append_of_pos isDigits.isDigit, taken.1, taken.2, List.append_nil]
  cases digits with
  | nil => exact absurd rfl isDigits.ne_nil
  | cons char more => rfl

theorem IsDigits.first_isDigit {digits rest more : List Char} {char : Char}
    (isDigits : IsDigits digits) (text_eq : digits ++ rest = char :: more) :
    char.isDigit = true := by
  cases digits with
  | nil => exact absurd rfl isDigits.ne_nil
  | cons first others =>
      cases text_eq
      exact isDigits.isDigit char List.mem_cons_self

theorem IsWhole.scan {whole rest : List Char} (isWhole : IsWhole whole)
    (no_digit : rest.head?.any Char.isDigit = false) :
    scanWhole (whole ++ rest) = .ok (whole, rest) := by
  have digits := isWhole.toIsDigits.scan no_digit
  unfold scanWhole
  split
  · next next_char more text_eq =>
      -- Only a lone zero starts with a zero, so the character behind it is not part of the number.
      have whole_eq : whole = ['0'] := by
        apply isWhole.lone_zero
        cases whole with
        | nil => exact absurd rfl isWhole.ne_nil
        | cons char others =>
            simp only [List.cons_append, List.cons.injEq] at text_eq
            rw [List.head?_cons, text_eq.1]
      subst whole_eq
      simp only [List.cons_append, List.nil_append, List.cons.injEq, true_and] at text_eq
      subst text_eq
      simp only [List.head?_cons, Option.any_some] at no_digit
      simp [no_digit]
  · exact digits

theorem scanFraction_absent {rest : List Char} (no_point : rest.head?.any (· == '.') = false) :
    scanFraction rest = .ok (none, rest) := by
  unfold scanFraction
  split
  · simp at no_point
  · rfl

theorem scanExponent_absent {rest : List Char}
    (no_letter : rest.head?.any (fun char => char = 'e' || char = 'E') = false) :
    scanExponent rest = .ok (none, rest) := by
  cases rest with
  | nil => rfl
  | cons char more =>
      simp only [List.head?_cons, Option.any_some] at no_letter
      simp only [scanExponent, no_letter, Bool.false_eq_true, if_false]
      rfl

theorem IsFraction.scan {fraction rest : List Char} (isFraction : IsFraction fraction)
    (no_digit : rest.head?.any Char.isDigit = false)
    (no_point : rest.head?.any (· == '.') = false) :
    ∃ found, scanFraction (fraction ++ rest) = .ok (found, rest) := by
  cases isFraction with
  | absent => exact ⟨none, scanFraction_absent no_point⟩
  | present isDigits =>
      simp only [List.cons_append, scanFraction, isDigits.scan no_digit]
      exact ⟨_, rfl⟩

theorem scanSign_digits {digits rest : List Char} (isDigits : IsDigits digits) :
    scanSign (digits ++ rest) = (false, digits ++ rest) := by
  unfold scanSign
  split
  · next text_eq => cases isDigits.first_isDigit text_eq
  · next text_eq => cases isDigits.first_isDigit text_eq
  · rfl

theorem IsExponent.scan {exponent rest : List Char} (isExponent : IsExponent exponent)
    (ends : Ends rest) : ∃ found, scanExponent (exponent ++ rest) = .ok (found, rest) := by
  cases isExponent with
  | absent => exact ⟨none, scanExponent_absent (ends.avoids (by decide))⟩
  | @present letter sign digits letter_mem sign_mem isDigits =>
      have is_letter : (letter = 'e' || letter = 'E') = true := by
        simpa using letter_mem
      have scanned := isDigits.scan (ends.avoids (by decide))
      simp only [List.cons_append, List.append_assoc, scanExponent, is_letter, if_true]
      simp only [List.mem_cons, List.not_mem_nil, or_false] at sign_mem
      rcases sign_mem with rfl | signed
      · rw [List.nil_append, scanSign_digits isDigits]
        simp only [scanned]
        exact ⟨_, rfl⟩
      · rcases signed with rfl | rfl <;>
          simp only [List.cons_append, List.nil_append, scanSign, scanned] <;>
          exact ⟨_, rfl⟩

/-- What comes behind the digits before the point is no digit. -/
theorem no_digit_behind_whole {fraction exponent rest : List Char}
    (isFraction : IsFraction fraction) (isExponent : IsExponent exponent) (ends : Ends rest) :
    (fraction ++ (exponent ++ rest)).head?.any Char.isDigit = false := by
  cases isFraction with
  | present isDigits => rfl
  | absent =>
      cases isExponent with
      | present letter_mem =>
          simp only [List.mem_cons, List.not_mem_nil, or_false] at letter_mem
          rcases letter_mem with rfl | rfl <;> rfl
      | absent => exact ends.avoids (by decide)

/-- What comes behind the fraction is neither a digit nor a point. -/
theorem no_point_behind_fraction {exponent rest : List Char} (isExponent : IsExponent exponent)
    (ends : Ends rest) :
    (exponent ++ rest).head?.any Char.isDigit = false ∧
      (exponent ++ rest).head?.any (· == '.') = false := by
  cases isExponent with
  | present letter_mem =>
      simp only [List.mem_cons, List.not_mem_nil, or_false] at letter_mem
      rcases letter_mem with rfl | rfl <;> exact ⟨rfl, rfl⟩
  | absent => exact ⟨ends.avoids (by decide), ends.avoids (by decide)⟩

theorem IsWhole.scanNumber_eq {whole : List Char} (isWhole : IsWhole whole) (rest : List Char) :
    scanNumber (whole ++ rest) = scanMagnitude false (whole ++ rest) := by
  unfold scanNumber
  split
  · next text_eq => cases isWhole.first_isDigit text_eq
  · rfl

theorem IsNumber.scan {text rest : List Char} (isNumber : IsNumber text) (ends : Ends rest) :
    ∃ number, scanNumber (text ++ rest) = .ok (number, rest) := by
  cases isNumber with
  | @intro sign whole fraction exponent sign_mem isWhole isFraction isExponent =>
      have behind_whole := no_digit_behind_whole isFraction isExponent ends
      have behind_fraction := no_point_behind_fraction isExponent ends
      rcases isFraction.scan behind_fraction.1 behind_fraction.2 with ⟨_, scan_fraction⟩
      rcases isExponent.scan ends with ⟨_, scan_exponent⟩
      have magnitude (negative : Bool) : ∃ number,
          scanMagnitude negative (whole ++ (fraction ++ (exponent ++ rest))) =
            .ok (number, rest) := by
        simp only [scanMagnitude, isWhole.scan behind_whole, bind, Except.bind, scan_fraction,
          scan_exponent]
        exact ⟨_, rfl⟩
      simp only [List.append_assoc]
      simp only [List.mem_cons, List.not_mem_nil, or_false] at sign_mem
      rcases sign_mem with rfl | rfl
      · rw [List.nil_append, isWhole.scanNumber_eq]
        exact magnitude false
      · exact magnitude true

/-- Digits alone are a number without sign, fraction and exponent. -/
theorem IsWhole.scan_plain {whole rest : List Char} (isWhole : IsWhole whole) (ends : Ends rest) :
    scanNumber (whole ++ rest) =
      .ok ({ negative := false, whole, fraction := none, exponent := none }, rest) := by
  rw [isWhole.scanNumber_eq, scanMagnitude, isWhole.scan (ends.avoids (by decide))]
  simp only [bind, Except.bind, scanFraction_absent (ends.avoids (by decide)),
    scanExponent_absent (ends.avoids (by decide))]
  rfl

/-- A token of a number starts with a sign or a digit. -/
theorem firstToken_number {char : Char} (rest : List Char)
    (starts : (char = '-' || char.isDigit) = true) :
    firstToken char rest = numberToken (scanNumber (char :: rest)) := by
  unfold firstToken
  split
  case h_11 => rw [if_pos starts]
  all_goals simp at starts

/-! ## Strings -/

theorem IsHexDigit.value_eq {char : Char} {value : Nat} (isHexDigit : IsHexDigit char value) :
    hexValue? char = some value := by
  have digits : ∀ value < 16, hexValue? (Nat.digitChar value) = some value ∧
      hexValue? (Nat.digitChar value).toUpper = some value := by decide
  rcases isHexDigit with ⟨value_lt, rfl | rfl⟩
  · exact (digits value value_lt).1
  · exact (digits value value_lt).2

theorem IsHexUnit.scan {digits rest : List Char} {number : Nat} (isUnit : IsHexUnit digits number) :
    scanHex (digits ++ rest) = .ok (number, rest) := by
  cases isUnit with
  | intro isFirst isSecond isThird isFourth =>
      simp [scanHex, hexUnit?, isFirst.value_eq, isSecond.value_eq, isThird.value_eq,
        isFourth.value_eq]

theorem stringPiece_plain {escape : List Char → StringPiece} {char : Char} (isPlain : IsPlain char)
    (rest : List Char) : stringPiece escape (char :: rest) = .char char rest := by
  have not_control := isPlain.not_control
  unfold stringPiece
  split
  · next text_eq => cases text_eq
  · next text_eq =>
      cases text_eq
      exact absurd rfl isPlain.not_quote
  · next text_eq =>
      cases text_eq
      exact absurd rfl isPlain.not_backslash
  · next text_eq =>
      cases text_eq
      rw [if_neg (Nat.not_lt.mpr not_control)]

theorem stringPiece_short {letter char : Char} (escapes : (letter, char) ∈ shortEscapes)
    (rest : List Char) :
    stringPiece escapePiece ('\\' :: letter :: rest) = .char char rest ∧
      stringPiece skippedEscapePiece ('\\' :: letter :: rest) = .char char rest := by
  simp only [shortEscapes, List.mem_cons, Prod.mk.injEq, List.not_mem_nil, or_false] at escapes
  rcases escapes with same | same | same | same | same | same | same | same <;>
    rcases same with ⟨rfl, rfl⟩ <;> exact ⟨rfl, rfl⟩

theorem stringPiece_skipped_unit {digits : List Char} {number : Nat}
    (isUnit : IsHexUnit digits number) (rest : List Char) :
    stringPiece skippedEscapePiece ('\\' :: 'u' :: (digits ++ rest)) = .char 'u' rest := by
  simp [stringPiece, skippedEscapePiece, isUnit.scan]

theorem stringPiece_unit {digits : List Char} {number : Nat} (isUnit : IsHexUnit digits number)
    (not_surrogate : number < 0xD800 ∨ 0xDFFF < number) (rest : List Char) :
    stringPiece escapePiece ('\\' :: 'u' :: (digits ++ rest)) =
      .char (Char.ofNat number) rest := by
  have not_low : isLowSurrogate number = false := by
    simp only [isLowSurrogate, Bool.and_eq_false_iff, decide_eq_false_iff_not]
    omega
  have not_high : isHighSurrogate number = false := by
    simp only [isHighSurrogate, Bool.and_eq_false_iff, decide_eq_false_iff_not]
    omega
  simp [stringPiece, escapePiece, isUnit.scan, not_low, not_high]

theorem stringPiece_pair {highDigits lowDigits : List Char} {high low : Nat}
    (isHigh : IsHexUnit highDigits (0xD800 + high)) (high_lt : high < 0x400)
    (isLow : IsHexUnit lowDigits (0xDC00 + low)) (low_lt : low < 0x400) (rest : List Char) :
    stringPiece escapePiece
        ('\\' :: 'u' :: (highDigits ++ '\\' :: 'u' :: (lowDigits ++ rest))) =
      .char (Char.ofNat (0x10000 + high * 0x400 + low)) rest := by
  have high_not_low : isLowSurrogate (0xD800 + high) = false := by
    simp only [isLowSurrogate, Bool.and_eq_false_iff, decide_eq_false_iff_not]
    omega
  have high_is_high : isHighSurrogate (0xD800 + high) = true := by
    simp only [isHighSurrogate, Bool.and_eq_true, decide_eq_true_eq]
    omega
  have low_is_low : isLowSurrogate (0xDC00 + low) = true := by
    simp only [isLowSurrogate, Bool.and_eq_true, decide_eq_true_eq]
    omega
  have number_eq : (0xD800 + high - 0xD800) * 1024 + (0xDC00 + low - 0xDC00) + 0x10000 =
      0x10000 + high * 0x400 + low := by omega
  simp only [stringPiece, escapePiece, isHigh.scan, high_not_low, high_is_high, lowSurrogatePiece,
    isLow.scan, low_is_low, number_eq, Bool.false_eq_true, if_false, if_true]

theorem skipString_close (rest : List Char) : skipString ('"' :: rest) = .ok rest := by
  rw [skipString]
  rfl

theorem skipString_char {text rest : List Char} {char : Char}
    (piece : stringPiece skippedEscapePiece text = .char char rest) :
    skipString text = skipString rest := by
  rw [skipString]
  split
  · next closes => simp [piece] at closes
  · next fails => simp [piece] at fails
  · next goes_on =>
      rw [piece] at goes_on
      cases goes_on
      rfl

/-- A string is skipped up to its closing quote. -/
theorem IsContent.skip {content : List Char} (isContent : IsContent content) (rest : List Char) :
    skipString (content ++ '"' :: rest) = .ok rest := by
  induction isContent with
  | nil => exact skipString_close rest
  | plain isPlain more ih => exact (skipString_char (stringPiece_plain isPlain _)).trans ih
  | short escapes more ih =>
      exact (skipString_char (stringPiece_short escapes _).2).trans ih
  | unit isUnit more ih =>
      simp only [List.cons_append, List.append_assoc]
      exact (skipString_char (stringPiece_skipped_unit isUnit _)).trans ih

theorem scanString_close (rest : List Char) : scanString ('"' :: rest) = .ok [] := by
  rw [scanString]
  rfl

theorem scanString_char {text rest chars : List Char} {char : Char}
    (piece : stringPiece escapePiece text = .char char rest) (more : scanString rest = .ok chars) :
    scanString text = .ok (char :: chars) := by
  rw [scanString]
  split
  · next closes => simp [piece] at closes
  · next fails => simp [piece] at fails
  · next goes_on =>
      rw [piece] at goes_on
      cases goes_on
      rw [more]
      rfl

/-- Reading a string gives the characters that it spells. -/
theorem Spells.scan {content chars : List Char} (spells : Spells content chars)
    (rest : List Char) : scanString (content ++ '"' :: rest) = .ok chars := by
  induction spells with
  | nil => exact scanString_close rest
  | plain isPlain more ih => exact scanString_char (stringPiece_plain isPlain _) ih
  | short escapes more ih => exact scanString_char (stringPiece_short escapes _).1 ih
  | unit isUnit not_surrogate more ih =>
      simp only [List.cons_append, List.append_assoc]
      exact scanString_char (stringPiece_unit isUnit not_surrogate _) ih
  | pair isHigh high_lt isLow low_lt more ih =>
      simp only [List.cons_append, List.append_assoc]
      exact scanString_char (stringPiece_pair isHigh high_lt isLow low_lt _) ih

/-- What can be read can be skipped. -/
theorem Spells.isContent {content chars : List Char} (spells : Spells content chars) :
    IsContent content := by
  induction spells with
  | nil => exact .nil
  | plain isPlain more ih => exact .plain isPlain ih
  | short escapes more ih => exact .short escapes ih
  | unit isUnit not_surrogate more ih => exact .unit isUnit ih
  | pair isHigh high_lt isLow low_lt more ih => exact .unit isHigh (.unit isLow ih)

/-! ## The tokens of numbers, words and strings -/

theorem tokens_numeral {text rest : List Char} {number : NumberText}
    (starts : text.head?.any (fun char => char = '-' || char.isDigit) = true)
    (scanned : scanNumber (text ++ rest) = .ok (number, rest)) :
    tokens (text ++ rest) = .number (.ok number) :: tokens rest := by
  cases text with
  | nil => simp at starts
  | cons char more =>
      simp only [List.head?_cons, Option.any_some] at starts
      have not_blank : isBlank char = false := by
        rw [Bool.eq_false_iff]
        intro blank
        simp only [isBlank, Bool.or_eq_true, decide_eq_true_eq] at blank
        rcases blank with ((rfl | rfl) | rfl) | rfl <;> simp at starts
      apply tokens_cons not_blank
      simp only [firstToken_number _ starts, List.append_eq, ← List.cons_append, scanned]
      rfl

theorem IsWhole.starts {whole : List Char} (isWhole : IsWhole whole) (rest : List Char) :
    (whole ++ rest).head?.any (fun char => char = '-' || char.isDigit) = true := by
  cases whole with
  | nil => exact absurd rfl isWhole.ne_nil
  | cons char more => simp [isWhole.isDigit char List.mem_cons_self]

theorem IsNumber.starts {text : List Char} (isNumber : IsNumber text) :
    text.head?.any (fun char => char = '-' || char.isDigit) = true := by
  cases isNumber with
  | @intro sign whole fraction exponent sign_mem isWhole =>
      simp only [List.mem_cons, List.not_mem_nil, or_false] at sign_mem
      rcases sign_mem with rfl | rfl
      · exact isWhole.starts _
      · rfl

theorem tokens_number {text rest : List Char} (isNumber : IsNumber text) (ends : Ends rest) :
    ∃ number, tokens (text ++ rest) = .number (.ok number) :: tokens rest := by
  rcases isNumber.scan ends with ⟨number, scanned⟩
  exact ⟨number, tokens_numeral isNumber.starts scanned⟩

theorem tokens_word {word : Word} {first : Char} {letters rest : List Char}
    (spelled : (first, letters, word) ∈
      [('n', ['u', 'l', 'l'], Word.null), ('t', ['r', 'u', 'e'], Word.true),
        ('f', ['a', 'l', 's', 'e'], Word.false)]) :
    tokens (first :: (letters ++ rest)) = .word (.ok word) :: tokens rest := by
  simp only [List.mem_cons, Prod.mk.injEq, List.not_mem_nil, or_false] at spelled
  rcases spelled with ⟨rfl, rfl, rfl⟩ | ⟨rfl, rfl, rfl⟩ | ⟨rfl, rfl, rfl⟩ <;>
    exact tokens_cons rfl rfl

/-- A string is one token, which carries the characters that the string spells. -/
theorem tokens_quoted {content : List Char} (isContent : IsContent content) (rest : List Char) :
    ∃ read, tokens (quoted content ++ rest) = .quoted read (.ok ()) :: tokens rest ∧
      ∀ chars, Spells content chars → read = .ok chars := by
  refine ⟨scanString (content ++ '"' :: rest), ?_, fun chars spells => spells.scan rest⟩
  simp only [quoted, List.cons_append, List.append_assoc, List.nil_append]
  apply tokens_cons rfl
  simp [firstToken, stringToken, isContent.skip]

/-- The name of a member, with blanks around it, and the colon behind it. -/
theorem tokens_name {content left : List Char} (isContent : IsContent content)
    (padded : Padded (quoted content) left) (rest : List Char) :
    ∃ read, tokens (left ++ ':' :: rest) = .quoted read (.ok ()) :: .colon :: tokens rest ∧
      ∀ chars, Spells content chars → read = .ok chars := by
  cases padded with
  | @intro before behind before_blank behind_blank =>
      rcases tokens_quoted isContent (behind ++ ':' :: rest) with ⟨read, tokens_eq, spelled⟩
      refine ⟨read, ?_, spelled⟩
      simp only [List.append_assoc]
      rw [tokens_blanks before_blank, tokens_eq, tokens_blanks behind_blank, tokens_colon]

end Tombstone.Json
