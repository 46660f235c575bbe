import Tombstone.Proofs.JsonObjects

/-!
# What is written can be read

The text that is written for a value follows the grammar, and the text of an object has the members
of the object in their order. The blanks in it may be chosen freely.
-/

namespace Tombstone.Json

theorem isBlanks_nil : IsBlanks [] := by simp [IsBlanks]

/-! ## Written parts -/

theorem MemberText.isWritten {text : List Char} {entry : Entry} (member : MemberText text entry) :
    Written .member text := by
  cases member with
  | intro spells padded_name written padded_value =>
      exact .member spells.isContent padded_name written padded_value

theorem MemberTexts.isWritten {text : List Char} {entries : List Entry}
    (texts : MemberTexts text entries) : Written .members text := by
  induction texts with
  | last member => exact .lastMember member.isWritten
  | more member more ih => exact .moreMembers member.isWritten ih

/-- An object is a value. -/
theorem ObjectText.isWritten {text : List Char} {entries : List Entry}
    (object : ObjectText text entries) : Written .value text := by
  cases object with
  | empty isBlanks => exact .emptyObject isBlanks
  | members texts => exact .object texts.isWritten

namespace Value

/-! ## Strings -/

theorem isHexUnit_control {char : Char} (control : char.toNat < 0x20) :
    IsHexUnit ['0', '0', Nat.digitChar (char.toNat / 16), Nat.digitChar (char.toNat % 16)]
      char.toNat := by
  have zero : IsHexDigit '0' 0 := ⟨by decide, Or.inl rfl⟩
  have third : IsHexDigit (Nat.digitChar (char.toNat / 16)) (char.toNat / 16) :=
    ⟨by omega, Or.inl rfl⟩
  have fourth : IsHexDigit (Nat.digitChar (char.toNat % 16)) (char.toNat % 16) :=
    ⟨by omega, Or.inl rfl⟩
  have number_eq : ((0 * 16 + 0) * 16 + char.toNat / 16) * 16 + char.toNat % 16 = char.toNat := by
    omega
  have isUnit := IsHexUnit.intro zero zero third fourth
  rwa [number_eq] at isUnit

/-- A character as it is written spells itself. -/
theorem spells_escape (char : Char) {content chars : List Char} (more : Spells content chars) :
    Spells (escape char ++ content) (char :: chars) := by
  unfold escape
  split
  case h_8 not_quote not_backslash _ _ _ _ _ =>
    split
    · next control =>
        have spells := Spells.unit (isHexUnit_control control) (Or.inl (by omega)) more
        rwa [Char.ofNat_toNat] at spells
    · next printable => exact .plain ⟨not_quote, not_backslash, by omega⟩ more
  all_goals exact .short (by simp [shortEscapes]) more

theorem spells_flatMap_escape (chars : List Char) : Spells (chars.flatMap escape) chars := by
  induction chars with
  | nil => exact .nil
  | cons char more ih => exact spells_escape char ih

theorem quote_eq (text : String) : quote text = quoted (text.toList.flatMap escape) := rfl

/-! ## Objects -/

/-- Nothing but blanks stands between the members of an object, and around them. -/
structure Spacing.IsBlank (spacing : Spacing) : Prop where
  indent_blank : ∀ depth, IsBlanks (spacing.indent depth)
  afterColon_blank : IsBlanks spacing.afterColon

theorem isBlank_prettySpacing : prettySpacing.IsBlank where
  indent_blank depth := by
    intro char char_mem
    simp only [prettySpacing, List.mem_cons, List.mem_replicate] at char_mem
    rcases char_mem with rfl | ⟨_, rfl⟩ <;> simp
  afterColon_blank := by
    intro char char_mem
    simp only [prettySpacing, List.mem_singleton] at char_mem
    simp [char_mem]

section Object

variable {spacing : Spacing} (isBlank : spacing.IsBlank) {depth : Nat}

/-- The entry that is written for a member. -/
def entry (spacing : Spacing) (depth : Nat) (member : String × Value) : Entry :=
  (member.1, member.2.chars spacing depth)

include isBlank

theorem memberText_chars {member : String × Value} {behind : List Char}
    (written : Written .value (member.2.chars spacing depth)) (isBlanks : IsBlanks behind) :
    MemberText (spacing.indent depth ++ (memberChars spacing depth member ++ behind))
      (entry spacing depth member) := by
  rcases member with ⟨name, value⟩
  have name_padded : Padded (quoted (name.toList.flatMap escape))
      (spacing.indent depth ++ quoted (name.toList.flatMap escape) ++ []) :=
    .intro (isBlank.indent_blank depth) isBlanks_nil
  have value_padded : Padded (value.chars spacing depth)
      (spacing.afterColon ++ value.chars spacing depth ++ behind) :=
    .intro isBlank.afterColon_blank isBlanks
  have text := MemberText.intro (spells_flatMap_escape name.toList) name_padded written
    value_padded
  simpa only [memberChars, quote_eq, entry, List.append_assoc, List.nil_append,
    List.cons_append] using text

/-- The members of an object, the last of them up to the closing bracket. -/
theorem memberTexts_chars {member : String × Value} {members : List (String × Value)}
    {behind : List Char}
    (written : ∀ other ∈ member :: members, Written .value (other.2.chars spacing depth))
    (isBlanks : IsBlanks behind) :
    MemberTexts
      (spacing.indent depth ++
        (memberChars spacing depth member ++ (moreChars spacing depth members ++ behind)))
      ((member :: members).map (entry spacing depth)) := by
  induction members generalizing member with
  | nil => exact .last (memberText_chars isBlank (written member List.mem_cons_self) isBlanks)
  | cons next members ih =>
      have first := memberText_chars isBlank (written member List.mem_cons_self) isBlanks_nil
      have written_more : ∀ other ∈ next :: members,
          Written .value (other.2.chars spacing depth) := by
        intro other other_mem
        exact written other (List.mem_cons_of_mem member other_mem)
      have more := ih written_more
      simpa only [moreChars, List.map_cons, List.append_assoc, List.cons_append, List.append_nil]
        using MemberTexts.more first more

theorem objectText_chars {members : List (String × Value)}
    (written : ∀ member ∈ members, Written .value (member.2.chars spacing (depth + 1))) :
    ObjectText (chars spacing depth (.object members))
      (members.map (entry spacing (depth + 1))) := by
  cases members with
  | nil => simpa only [chars, List.map_nil, List.nil_append] using ObjectText.empty isBlanks_nil
  | cons member members =>
      have texts := memberTexts_chars isBlank written (isBlank.indent_blank depth)
      simpa only [chars, List.append_assoc, List.cons_append, List.nil_append]
        using ObjectText.members texts

/-- The text of a value follows the grammar. -/
theorem written_chars (depth : Nat) (value : Value) :
    Written .value (value.chars spacing depth) := by
  cases value with
  | null => simpa only [chars] using Written.null
  | number count => simpa only [chars] using Written.number (isNumber_toDigits count)
  | string text =>
      simpa only [chars, quote_eq] using
        Written.string (spells_flatMap_escape text.toList).isContent
  | object members =>
      have written : ∀ member ∈ members, Written .value (member.2.chars spacing (depth + 1)) := by
        intro member member_mem
        have smaller : sizeOf member.2 < 1 + sizeOf members := by
          have member_lt := List.sizeOf_lt_of_mem member_mem
          rcases member with ⟨name, value⟩
          simp only [Prod.mk.sizeOf_spec] at member_lt ⊢
          omega
        exact written_chars (depth + 1) member.2
      exact (objectText_chars isBlank written).isWritten
termination_by sizeOf value

end Object

end Value

end Tombstone.Json
