import Tombstone.Proofs.JsonReading

/-!
# Reading written objects

A plain numeral is read as its number, and a name as what it stands for. A layout reads an object
member by member: each member of a field changes the record, and a member of no field is skipped. So
what is read is the start of the layout with the changes of all members made to it in order, whatever
stands between them.
-/

namespace Tombstone.Json

/-! ## Numerals -/

theorem head?_toDigits_ne_zero {number : Nat} (positive : 0 < number) :
    (Nat.toDigits 10 number).head? ≠ some '0' := by
  induction number using Nat.strongRecOn with
  | ind number ih =>
      by_cases small : number < 10
      · rw [Nat.toDigits_of_lt_base small, List.head?_cons, ne_eq, Option.some.injEq,
          Nat.digitChar_eq_zero]
        omega
      · have fewer := ih (number / 10) (by omega) (by omega)
        rw [Nat.toDigits_of_base_le (by decide) (by omega), List.head?_append]
        cases first : (Nat.toDigits 10 (number / 10)).head? with
        | none => exact absurd (List.head?_eq_none_iff.mp first) Nat.toDigits_ne_nil
        | some char => simpa [first] using fewer

/-- A number is written without a superfluous leading zero. -/
theorem isWhole_toDigits (number : Nat) : IsWhole (Nat.toDigits 10 number) where
  ne_nil := Nat.toDigits_ne_nil
  isDigit _ char_mem := Nat.isDigit_of_mem_toDigits (by decide) (by decide) char_mem
  lone_zero := by
    intro zero_first
    rcases Nat.eq_zero_or_pos number with rfl | positive
    · rfl
    · exact absurd zero_first (head?_toDigits_ne_zero positive)

theorem isNumber_toDigits (number : Nat) : IsNumber (Nat.toDigits 10 number) := by
  have isNumber := IsNumber.intro (List.mem_cons_self : [] ∈ [[], ['-']])
    (isWhole_toDigits number) .absent .absent
  simpa using isNumber

namespace Reader

theorem reads_natBelow {bound number : Nat} (number_lt : number < bound) :
    (natBelow bound).Reads (Nat.toDigits 10 number) number := by
  intro rest ends
  have isWhole := isWhole_toDigits number
  have starts := (isNumber_toDigits number).starts
  rw [tokens_numeral starts (isWhole.scan_plain ends)]
  simp [natBelow, NumberText.plain?, NumberText.decimal, Nat.ofDigitChars_ten_toDigits, number_lt]

namespace Layout

variable {α : Type} {layout : Layout α} {progress after : Progress α} {entry : Entry}

/-! ## Members -/

/-- Reading the member `entry`, whatever stands around its value, leads to the progress `after`. -/
def Takes (layout : Layout α) (entry : Entry) (progress after : Progress α) : Prop :=
  ∀ right rest, Padded entry.2 right → Ends rest →
    layout.member progress.1 progress.2 entry.1 (.colon :: tokens (right ++ rest)) =
      .ok (after, tokens rest)

theorem takes_known {field : Field α} {change : α → α}
    (found : layout.find? entry.1 = some field) (fresh : entry.1 ∉ progress.1)
    (reads : field.read.Reads entry.2 change) :
    layout.Takes entry progress (entry.1 :: progress.1, change progress.2) := by
  intro right rest padded ends
  simp [member, found, fresh, colon, reads.padded padded rest ends, bind, Except.bind, pure,
    Except.pure]

theorem takes_unknown (absent : layout.find? entry.1 = none) (skips : layout.skipsUnknown = true)
    (written : Written .value entry.2) : layout.Takes entry progress progress := by
  intro right rest padded ends
  simp [member, absent, skips, colon, (reads_skip written).padded padded rest ends, bind,
    Except.bind, pure, Except.pure]

/-- What stands before a name: a comma, unless the name is the first one. -/
def separator (isFirst : Bool) : List Token := if isFirst then [] else [.comma]

theorem nextKey_quoted (isFirst : Bool) (chars : List Char) (skipping : Except Fault Unit)
    (rest : List Token) :
    nextKey isFirst (separator isFirst ++ .quoted (.ok chars) skipping :: rest) =
      .ok (some chars, rest) := by
  cases isFirst <;> rfl

theorem members_cons {text rest : List Char} (member : MemberText text entry)
    (takes : layout.Takes entry progress after) (ends : Ends rest) (bound : Nat) (isFirst : Bool) :
    layout.members (bound + 1) isFirst progress (separator isFirst ++ tokens (text ++ rest)) =
      layout.members bound false after (tokens rest) := by
  rcases member.exists_tokens with ⟨right, padded, tokens_eq⟩
  rw [tokens_eq, members]
  simp [nextKey_quoted, takes right rest padded ends, bind, Except.bind]

/-- Takes a change of a record that a member with a name makes. -/
def take (progress : Progress α) (change : String × (α → α)) : Progress α :=
  (change.1 :: progress.1, change.2 progress.2)

/-- What members change in a record: those of a field by what its reader gives, those of no field
nothing. -/
inductive Means (layout : Layout α) : List Entry → List (String × (α → α)) → Prop where
  | nil : Means layout [] []
  | known {entry : Entry} {entries : List Entry} {field : Field α} {change : α → α}
      {changes : List (String × (α → α))} (found : layout.find? entry.1 = some field)
      (reads : field.read.Reads entry.2 change) (more : Means layout entries changes) :
      Means layout (entry :: entries) ((entry.1, change) :: changes)
  | unknown {entry : Entry} {entries : List Entry} {changes : List (String × (α → α))}
      (absent : layout.find? entry.1 = none) (more : Means layout entries changes) :
      Means layout (entry :: entries) changes

/-- Reading one member leads to a progress from which the other changes lead on. -/
theorem Means.exists_takes {entries : List Entry} {changes : List (String × (α → α))}
    (means : layout.Means (entry :: entries) changes) (skips : layout.skipsUnknown = true)
    (written : Written .value entry.2) (fresh : ∀ change ∈ changes, change.1 ∉ progress.1)
    (distinct : (changes.map Prod.fst).Nodup) :
    ∃ after later, layout.Takes entry progress after ∧ layout.Means entries later ∧
      (∀ change ∈ later, change.1 ∉ after.1) ∧ (later.map Prod.fst).Nodup ∧
      changes.foldl take progress = later.foldl take after := by
  cases means with
  | unknown absent more =>
      exact ⟨progress, changes, takes_unknown absent skips written, more, fresh, distinct, rfl⟩
  | @known _ _ field change later found reads more =>
      rcases List.forall_mem_cons.mp fresh with ⟨fresh_first, fresh_later⟩
      rcases List.nodup_cons.mp distinct with ⟨not_later, distinct_later⟩
      refine ⟨take progress (entry.1, change), later, takes_known found fresh_first reads, more,
        ?_, distinct_later, rfl⟩
      intro other other_mem
      simp only [take, List.mem_cons, not_or]
      refine ⟨?_, fresh_later other other_mem⟩
      intro same
      exact not_later (List.mem_map.mpr ⟨other, other_mem, same⟩)

/-- The end of an object ends the reading, unless the bound has been used up. -/
theorem members_close (bound : Nat) (isFirst : Bool) (rest : List Token) :
    layout.members (bound + 1) isFirst progress (.closeBrace :: rest) =
      layout.finish progress rest := rfl

/-- Reading goes through all members, as each of them uses up at least one token. Induction on the
members, with whatever has been read before them. -/
theorem members_texts {text : List Char} {entries : List Entry} (texts : MemberTexts text entries)
    (skips : layout.skipsUnknown = true) {changes : List (String × (α → α))}
    (means : layout.Means entries changes) (fresh : ∀ change ∈ changes, change.1 ∉ progress.1)
    (distinct : (changes.map Prod.fst).Nodup) (rest : List Char) (isFirst : Bool) {bound : Nat}
    (enough : (tokens (text ++ '\x7d' :: rest)).length < bound) :
    layout.members bound isFirst progress
        (separator isFirst ++ tokens (text ++ '\x7d' :: rest)) =
      layout.finish (changes.foldl take progress) (tokens rest) := by
  induction texts generalizing changes progress isFirst bound with
  | last member =>
      have ends : Ends ('\x7d' :: rest) := ends_cons rest (by decide)
      have shorter := member.length_lt ends
      rcases means.exists_takes skips member.written fresh distinct with
        ⟨after, later, takes, none_later, _, _, foldl_eq⟩
      cases none_later
      rw [tokens_closeBrace, List.length_cons] at shorter
      obtain ⟨bound, rfl⟩ : ∃ left, bound = left + 2 := ⟨bound - 2, by omega⟩
      rw [members_cons member takes ends, tokens_closeBrace, members_close, foldl_eq]
      rfl
  | @more text texts entry entries member more ih =>
      have ends : Ends (',' :: (texts ++ '\x7d' :: rest)) := ends_cons _ (by decide)
      have shorter := member.length_lt ends
      rcases means.exists_takes skips member.written fresh distinct with
        ⟨after, later, takes, means_later, fresh_later, distinct_later, foldl_eq⟩
      simp only [List.append_assoc, List.cons_append] at enough ⊢
      rw [tokens_comma, List.length_cons] at shorter
      obtain ⟨bound, rfl⟩ : ∃ left, bound = left + 1 := ⟨bound - 1, by omega⟩
      rw [members_cons member takes ends, tokens_comma, foldl_eq]
      exact ih means_later fresh_later distinct_later false (by omega)

/-- An object is read by the changes that its members make, in order. -/
theorem reads_object {text : List Char} {entries : List Entry} (object : ObjectText text entries)
    (skips : layout.skipsUnknown = true) {changes : List (String × (α → α))}
    (means : layout.Means entries changes) (distinct : (changes.map Prod.fst).Nodup)
    (complete : layout.isComplete (changes.foldl take ([], layout.start)).1 = true)
    (valid : layout.isValid (changes.foldl take ([], layout.start)).2 = true) :
    layout.read.Reads text (changes.foldl take ([], layout.start)).2 := by
  intro rest _
  have finished : layout.finish (changes.foldl take ([], layout.start)) (tokens rest) =
      .ok ((changes.foldl take ([], layout.start)).2, tokens rest) := by
    simp only [finish, complete, valid, Bool.and_self, if_true]
  cases object with
  | empty isBlanks =>
      cases means
      simp only [List.cons_append, List.append_assoc, List.nil_append]
      rw [tokens_openBrace, tokens_blanks isBlanks, tokens_closeBrace]
      exact finished
  | members texts =>
      simp only [List.cons_append, List.append_assoc, List.nil_append]
      rw [tokens_openBrace]
      exact (members_texts texts skips means (by simp) distinct rest true
        (Nat.lt_succ_self _)).trans finished

end Layout

/-! ## Choices -/

section Choice

variable {α : Type} {variants : List (String × Variant α)} {name : String} {value : α}

theorem reads_null : null.Reads ['n', 'u', 'l', 'l'] () := by
  intro rest _
  rw [List.cons_append, tokens_word (.head _)]
  rfl

/-- However a name is chosen, it is read as the value that it stands for. -/
theorem reads_choice {text : List Char}
    (found : findVariant variants name = some (.plain value)) (chosen : ChoiceText name text) :
    (choice variants).Reads text value := by
  intro rest _
  cases chosen with
  | @string content spells =>
      rcases tokens_quoted spells.isContent rest with ⟨read, tokens_eq, spelled⟩
      rw [tokens_eq, spelled _ spells]
      simp only [choice, String.ofList_toList, found]
  | object object =>
      cases object with
      | members texts =>
          cases texts with
          | more member none_more => cases none_more
          | last member =>
              rcases member.exists_tokens with ⟨right, padded, tokens_eq⟩
              have read_null := reads_null.padded padded ('\x7d' :: rest) (ends_cons _ (by decide))
              simp only [List.cons_append, List.append_assoc, List.nil_append]
              rw [tokens_openBrace, tokens_eq]
              simp [choice, key, found, colon, variantContent, Reader.map, read_null, bind,
                Except.bind, pure, Except.pure]

end Choice

end Reader

end Tombstone.Json
