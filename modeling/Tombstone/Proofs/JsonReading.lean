import Tombstone.Proofs.JsonTokens

/-!
# Reading and skipping written texts

A reader that is given the tokens of a text reads the written value at its front, and leaves just the
tokens of what follows. Every written value can be skipped, however deeply it is nested: by induction
on how it is written, skipping gets from the place before it to the place behind it, whatever encloses
it.
-/

namespace Tombstone.Json

namespace Reader

/-- A reader takes a text off the front and gives a value for it. -/
def Reads {α : Type} (reader : Reader α) (text : List Char) (value : α) : Prop :=
  ∀ rest, Ends rest → reader (tokens (text ++ rest)) = .ok (value, tokens rest)

section Reads

variable {α β : Type} {reader : Reader α} {text around : List Char} {value : α}

theorem Reads.padded (reads : reader.Reads text value) (isPadded : Padded text around) :
    reader.Reads around value := by
  intro rest ends
  cases isPadded with
  | intro before_blank behind_blank =>
      simp only [List.append_assoc]
      rw [tokens_blanks before_blank, reads _ (behind_blank.ends ends), tokens_blanks behind_blank]

theorem Reads.map (reads : reader.Reads text value) (change : α → β) :
    (reader.map change).Reads text (change value) := by
  intro rest ends
  simp only [Reader.map, reads rest ends]
  rfl

/-- A text that is a value with nothing but blanks around it is read as a whole. -/
theorem Reads.document {whole : String} (reads : reader.Reads text value)
    (isPadded : Padded text whole.toList) : reader.document whole = .ok value := by
  have read := reads.padded isPadded [] ends_nil
  rw [List.append_nil, tokens_nil] at read
  simp only [Reader.document, read]
  rfl

end Reads

/-! ## Skipping -/

theorem skipFrom_go {place following : SkipPlace} {enclosures outer : List Enclosure} {token : Token}
    (step : skipStep place enclosures token = .go following outer) (rest : List Token) :
    skipFrom place enclosures (token :: rest) = skipFrom following outer rest := by
  rw [skipFrom.eq_def]
  split
  · simp [skipStep] at step
  · next nothing => cases nothing
  · next same =>
      cases same
      rw [step]

theorem skipFrom_end (rest : List Token) : skipFrom .next [] rest = .ok rest := by
  rw [skipFrom.eq_def]

theorem length_le_of_skipFrom {place : SkipPlace} {enclosures : List Enclosure}
    {text rest : List Token} (skipped : skipFrom place enclosures text = .ok rest) :
    rest.length ≤ text.length := by
  fun_induction skipFrom place enclosures text with
  | case1 text =>
      cases skipped
      exact Nat.le_refl _
  | case2 => cases skipped
  | case3 place enclosures token more _ following outer step ih =>
      have shorter := ih skipped
      simp only [List.length_cons]
      omega
  | case4 => cases skipped

/-- Where skipping gets past a value, the value is also the first item of a list. -/
theorem skipFrom_firstItem {enclosures outer : List Enclosure} {text rest : List Token}
    (skipped : skipFrom .value outer text = .ok rest) :
    skipFrom .firstItem enclosures text = skipFrom .value enclosures text := by
  cases text with
  | nil => simp [skipFrom] at skipped
  | cons token more =>
      cases token
      case closeBracket => simp [skipFrom, skipStep, skipValueStart] at skipped
      all_goals rfl

/-- Where skipping gets past a name, the name is also the first one of an object. -/
theorem skipFrom_firstKey {enclosures outer : List Enclosure} {text rest : List Token}
    (skipped : skipFrom .key outer text = .ok rest) :
    skipFrom .firstKey enclosures text = skipFrom .key enclosures text := by
  cases text with
  | nil => simp [skipFrom] at skipped
  | cons token more =>
      cases token
      case closeBrace => simp [skipFrom, skipStep, skipKey] at skipped
      all_goals rfl

/-- Whatever encloses it, skipping a text from a place gets behind a value. -/
def SkippedAt (place : SkipPlace) (text : List Char) : Prop :=
  ∀ enclosures rest, Ends rest →
    skipFrom place enclosures (tokens (text ++ rest)) = skipFrom .next enclosures (tokens rest)

theorem SkippedAt.padded {place : SkipPlace} {text around : List Char}
    (skipped : SkippedAt place text) (isPadded : Padded text around) : SkippedAt place around := by
  intro enclosures rest ends
  cases isPadded with
  | intro before_blank behind_blank =>
      simp only [List.append_assoc]
      rw [tokens_blanks before_blank, skipped _ _ (behind_blank.ends ends),
        tokens_blanks behind_blank]

/-- What skipping does with a part of a text. The items of a list and the members of an object are
skipped together with the bracket that closes them. -/
def IsSkipped : Part → List Char → Prop
  | .value, text => SkippedAt .value text
  | .items, text => ∀ outer rest,
      skipFrom .value (.list :: outer) (tokens (text ++ ']' :: rest)) =
        skipFrom .next outer (tokens rest)
  | .member, text => SkippedAt .key text
  | .members, text => ∀ outer rest,
      skipFrom .key (.object :: outer) (tokens (text ++ '\x7d' :: rest)) =
        skipFrom .next outer (tokens rest)

theorem skippedAt_word (word : Word) {first : Char} {letters : List Char}
    (spelled : (first, letters, word) ∈
      [('n', ['u', 'l', 'l'], Word.null), ('t', ['r', 'u', 'e'], Word.true),
        ('f', ['a', 'l', 's', 'e'], Word.false)]) :
    SkippedAt .value (first :: letters) := by
  intro enclosures rest _
  rw [List.cons_append, tokens_word spelled]
  exact skipFrom_go rfl _

/-- Every part of a text is skipped. Induction on how the part is written: each constructor takes
the skipping from the place before its text to the place behind it. -/
theorem isSkipped_of_written {part : Part} {text : List Char} (written : Written part text) :
    IsSkipped part text := by
  induction written with
  | null => exact skippedAt_word .null (by simp)
  | true => exact skippedAt_word .true (by simp)
  | false => exact skippedAt_word .false (by simp)
  | number isNumber =>
      intro enclosures rest ends
      rcases tokens_number isNumber ends with ⟨number, tokens_eq⟩
      rw [tokens_eq]
      exact skipFrom_go rfl _
  | string isContent =>
      intro enclosures rest _
      rcases tokens_quoted isContent rest with ⟨read, tokens_eq, _⟩
      rw [tokens_eq]
      exact skipFrom_go rfl _
  | emptyList isBlanks =>
      intro enclosures rest _
      simp only [List.cons_append, List.append_assoc, List.nil_append]
      rw [tokens_openBracket, tokens_blanks isBlanks, tokens_closeBracket]
      exact (skipFrom_go rfl _).trans (skipFrom_go rfl _)
  | list items ih =>
      intro enclosures rest _
      simp only [List.cons_append, List.append_assoc, List.nil_append]
      rw [tokens_openBracket]
      refine (skipFrom_go rfl _).trans ?_
      rw [skipFrom_firstItem ((ih [] rest).trans (skipFrom_end _))]
      exact ih enclosures rest
  | emptyObject isBlanks =>
      intro enclosures rest _
      simp only [List.cons_append, List.append_assoc, List.nil_append]
      rw [tokens_openBrace, tokens_blanks isBlanks, tokens_closeBrace]
      exact (skipFrom_go rfl _).trans (skipFrom_go rfl _)
  | object members ih =>
      intro enclosures rest _
      simp only [List.cons_append, List.append_assoc, List.nil_append]
      rw [tokens_openBrace]
      refine (skipFrom_go rfl _).trans ?_
      rw [skipFrom_firstKey ((ih [] rest).trans (skipFrom_end _))]
      exact ih enclosures rest
  | lastItem written isPadded ih =>
      intro outer rest
      rw [ih.padded isPadded _ _ (ends_cons _ (by decide)), tokens_closeBracket]
      exact skipFrom_go rfl _
  | moreItems written isPadded more ih ih_more =>
      intro outer rest
      simp only [List.append_assoc, List.cons_append]
      rw [ih.padded isPadded _ _ (ends_cons _ (by decide)), tokens_comma]
      exact (skipFrom_go rfl _).trans (ih_more outer rest)
  | member isContent padded_name written padded_value ih =>
      intro enclosures rest ends
      simp only [List.append_assoc, List.cons_append]
      rcases tokens_name isContent padded_name _ with ⟨read, tokens_eq, _⟩
      rw [tokens_eq]
      refine (skipFrom_go rfl _).trans ((skipFrom_go rfl _).trans ?_)
      exact ih.padded padded_value enclosures rest ends
  | lastMember member ih =>
      intro outer rest
      rw [ih _ _ (ends_cons _ (by decide)), tokens_closeBrace]
      exact skipFrom_go rfl _
  | moreMembers member more ih ih_more =>
      intro outer rest
      simp only [List.append_assoc, List.cons_append]
      rw [ih _ _ (ends_cons _ (by decide)), tokens_comma]
      exact (skipFrom_go rfl _).trans (ih_more outer rest)

theorem reads_skip {text : List Char} (written : Written .value text) : skip.Reads text () := by
  intro rest ends
  have skipped : SkippedAt .value text := isSkipped_of_written written
  simp only [skip, skipped [] rest ends, skipFrom_end]
  rfl

end Reader

/-! ## Members -/

section Member

variable {text : List Char} {entry : Entry}

theorem MemberText.written (member : MemberText text entry) : Written .value entry.2 := by
  cases member with
  | intro spells padded_name written padded_value => exact written

/-- The tokens of a member up to its value. -/
theorem MemberText.exists_tokens (member : MemberText text entry) :
    ∃ right, Padded entry.2 right ∧ ∀ rest,
      tokens (text ++ rest) =
        .quoted (.ok entry.1.toList) (.ok ()) :: .colon :: tokens (right ++ rest) := by
  cases member with
  | intro spells padded_name written padded_value =>
      refine ⟨_, padded_value, ?_⟩
      intro rest
      rcases tokens_name spells.isContent padded_name _ with ⟨read, tokens_eq, spelled⟩
      simp only [List.append_assoc, List.cons_append]
      rw [tokens_eq, spelled _ spells]

theorem MemberText.length_lt {rest : List Char} (member : MemberText text entry)
    (ends : Ends rest) : (tokens rest).length < (tokens (text ++ rest)).length := by
  rcases member.exists_tokens with ⟨right, padded, tokens_eq⟩
  have skipped : Reader.SkippedAt .value entry.2 := Reader.isSkipped_of_written member.written
  have past := (skipped.padded padded [] rest ends).trans (Reader.skipFrom_end _)
  have shorter := Reader.length_le_of_skipFrom past
  rw [tokens_eq]
  simp only [List.length_cons]
  omega

end Member

end Tombstone.Json
