import Tombstone.ConfigText
import Tombstone.Proofs.ConfigChanges
import Tombstone.Proofs.JsonWriting

/-!
# Configurations and their texts

The text of a configuration is an object in which every field may be given once, in any order, with
blanks around it and with other members between the fields. Reading it makes the changes that the
text gives to the default configuration. So it leads to the same settings, or to the same error, as
building the configuration does, and a configuration that is written is read as it was.
-/

namespace Tombstone.Config

open Json

/-- The name of a field in texts. -/
def Field.key : Field → String
  | skewTolerance => "skew_tolerance_us"
  | maxPacketBytes => "max_packet_bytes"
  | packetFlags => "packet_flags"
  | dispatchInterval => "dispatch_interval_ms"
  | pruneInterval => "prune_interval_ms"
  | stallWarningAfter => "stall_warning_after_ms"
  | emptyRegistryPolicy => "empty_registry_policy"

/-- The texts of the value that a change sets. -/
def Change.IsText : Change → List Char → Prop
  | skewTolerance number, text | maxPacketBytes number, text | dispatchInterval number, text
  | pruneInterval number, text | stallWarningAfter number, text =>
      text = Nat.toDigits 10 number.toNat
  | packetFlags flags, text => text = Nat.toDigits 10 flags.toNat
  | emptyRegistryPolicy policy, text => ChoiceText policy.name text

/-- The changes that members give: those of a field its value, others nothing. -/
inductive Gives : List Entry → List Change → Prop where
  | nil : Gives [] []
  | known {change : Change} {text : List Char} {entries : List Entry} {given : List Change}
      (isText : change.IsText text) (more : Gives entries given) :
      Gives ((change.field.key, text) :: entries) (change :: given)
  | unknown {entry : Entry} {entries : List Entry} {given : List Change}
      (no_key : ∀ field : Field, field.key ≠ entry.1) (more : Gives entries given) :
      Gives (entry :: entries) given

/-- A text is an object, with blanks around it, whose members give these changes. -/
inductive TextGives (text : String) (given : List Change) : Prop where
  | intro {object : List Char} {entries : List Entry} (padded : Padded object text.toList)
      (isObject : ObjectText object entries) (gives : Gives entries given)

/-! ## Reading fields -/

theorem key_injective : Function.Injective Field.key := by
  intro field other same
  cases field <;> cases other <;> first | rfl | simp [Field.key] at same

theorem reads_word (number : UInt64) :
    wordFormat.read.Reads (Nat.toDigits 10 number.toNat) number := by
  have reads := (Reader.reads_natBelow number.toNat_lt).map UInt64.ofNat
  rwa [UInt64.ofNat_toNat] at reads

theorem reads_flags (flags : UInt8) :
    flagsFormat.read.Reads (Nat.toDigits 10 flags.toNat) flags := by
  have reads := (Reader.reads_natBelow flags.toNat_lt).map UInt8.ofNat
  rwa [UInt8.ofNat_toNat] at reads

theorem reads_policy {policy : EmptyRegistryPolicy} {text : List Char}
    (chosen : ChoiceText policy.name text) :
    EmptyRegistryPolicy.format.read.Reads text policy := by
  cases policy <;> exact Reader.reads_choice rfl chosen

theorem reads_valueMember {β : Type} {name : String} {format : Format β} {change : β → Change}
    {take : Config → β} {text : List Char} {value : β} (reads : format.read.Reads text value) :
    (valueMember name format change take).field.read.Reads text
      fun config => config.apply (change value) :=
  reads.map fun (value : β) (config : Config) => config.apply (change value)

/-- The field of a change is in the layout, and its reader makes the change. -/
theorem exists_find?_key (change : Change) :
    ∃ field, layout.find? change.field.key = some field ∧
      ∀ text, change.IsText text → field.read.Reads text fun config => config.apply change := by
  cases change
  case skewTolerance number | maxPacketBytes number | dispatchInterval number
      | pruneInterval number | stallWarningAfter number =>
    refine ⟨_, rfl, ?_⟩
    rintro _ rfl
    exact reads_valueMember (reads_word number)
  case packetFlags flags =>
    refine ⟨_, rfl, ?_⟩
    rintro _ rfl
    exact reads_valueMember (reads_flags flags)
  case emptyRegistryPolicy policy =>
    refine ⟨_, rfl, ?_⟩
    intro text chosen
    exact reads_valueMember (reads_policy chosen)

theorem names_layout : layout.fields.map (·.name) = Field.all.map Field.key := rfl

theorem find?_eq_none {name : String} (no_key : ∀ field : Field, field.key ≠ name) :
    layout.find? name = none := by
  simp only [Reader.Layout.find?, List.find?_eq_none, decide_eq_true_eq]
  intro field field_mem same
  have name_mem : field.name ∈ layout.fields.map (·.name) := List.mem_map_of_mem field_mem
  rw [names_layout] at name_mem
  rcases List.mem_map.mp name_mem with ⟨key, _, key_eq⟩
  exact no_key key (key_eq.trans same)

/-! ## Reading texts -/

/-- The changes that a text gives, each with the name of its field, as reading makes them. -/
def readChange (change : Change) : String × (Config → Config) :=
  (change.field.key, fun config => config.apply change)

theorem Gives.means {entries : List Entry} {given : List Change} (gives : Gives entries given) :
    layout.Means entries (given.map readChange) := by
  induction gives with
  | nil => exact .nil
  | @known change text entries given isText more ih =>
      rcases exists_find?_key change with ⟨field, found, reads⟩
      exact .known found (reads text isText) ih
  | unknown no_key more ih => exact .unknown (find?_eq_none no_key) ih

theorem foldl_take (given : List Change) (progress : Reader.Layout.Progress Config) :
    ((given.map readChange).foldl Reader.Layout.take progress).2 =
      given.foldl apply progress.2 := by
  induction given generalizing progress with
  | nil => rfl
  | cons change later ih => exact ih _

/-- What is read from a text are the defaults with the changes that it gives. -/
theorem readSettings_of_gives {text : String} {given : List Change}
    (gives : TextGives text given) (distinct : (given.map Change.field).Nodup) :
    readSettings text = (given.foldl apply {}).check := by
  rcases gives with ⟨padded, isObject, gives⟩
  have distinct_keys : ((given.map readChange).map Prod.fst).Nodup := by
    have mapped := distinct.map key_injective
    simpa [readChange, Function.comp_def] using mapped
  have reads := Reader.Layout.reads_object isObject rfl gives.means distinct_keys (by rfl) (by rfl)
  rw [foldl_take] at reads
  have read : ofText text = .ok (given.foldl apply {}) := by
    simp only [ofText, Format.parse, format, reads.document padded]
    rfl
  rw [readSettings, read]
  rfl

/-! ## Writing -/

/-- What is written for the value of a field. -/
def fieldValue (config : Config) : Field → Value
  | .skewTolerance => .number config.skewTolerance.toNat
  | .maxPacketBytes => .number config.maxPacketBytes.toNat
  | .packetFlags => .number config.packetFlags.toNat
  | .dispatchInterval => .number config.dispatchInterval.toNat
  | .pruneInterval => .number config.pruneInterval.toNat
  | .stallWarningAfter => .number config.stallWarningAfter.toNat
  | .emptyRegistryPolicy => .string config.emptyRegistryPolicy.name

/-- The members of the object that is written for a configuration. -/
def fieldValues (config : Config) (fields : List Field) : List (String × Value) :=
  fields.map fun field => (field.key, config.fieldValue field)

theorem write_eq (config : Config) :
    format.write config = .object (config.fieldValues Field.all) := rfl

theorem isText_fieldValue (config : Config) (field : Field) (spacing : Value.Spacing)
    (depth : Nat) : (config.held field).IsText ((config.fieldValue field).chars spacing depth) := by
  cases field
  case emptyRegistryPolicy =>
    rw [fieldValue, Value.chars, Value.quote_eq]
    exact .string (Value.spells_flatMap_escape _)
  all_goals rw [fieldValue, Value.chars, held, Change.IsText]

theorem gives_held (config : Config) (spacing : Value.Spacing) (depth : Nat)
    (fields : List Field) :
    Gives ((config.fieldValues fields).map (Value.entry spacing depth))
      (fields.map config.held) := by
  induction fields with
  | nil => exact .nil
  | cons field fields ih =>
      have known := Gives.known (config.isText_fieldValue field spacing depth) ih
      rwa [field_held] at known

theorem textGives_pretty (config : Config) :
    TextGives (pretty config) (Field.all.map config.held) := by
  have written : ∀ member ∈ config.fieldValues Field.all,
      Written .value (member.2.chars Value.prettySpacing 1) := by
    intro member _
    exact Value.written_chars Value.isBlank_prettySpacing 1 member.2
  have isObject := Value.objectText_chars Value.isBlank_prettySpacing written
  refine .intro ?_ isObject (config.gives_held _ _ _)
  rw [pretty, Format.pretty, Value.pretty, String.toList_ofList, write_eq]
  simpa using Padded.intro isBlanks_nil isBlanks_nil

/-! ## Checking -/

theorem ofBytes_eq_error {bytes : Nat} {error : CapacityError}
    (refused : Capacity.ofBytes bytes = .error error) :
    bytes < 29 ∧ error = .tooSmall bytes ∨ 1048573 < bytes ∧ error = .tooLarge bytes := by
  unfold Capacity.ofBytes at refused
  split at refused
  · next holds_one =>
      split at refused
      · cases refused
      · next uncountable =>
          cases refused
          exact Or.inr ⟨Nat.lt_of_not_le uncountable, rfl⟩
  · next too_small =>
      cases refused
      exact Or.inl ⟨Nat.lt_of_not_le too_small, rfl⟩

/-- What is checked, in this order. -/
theorem map_check (config : Config) :
    config.check.map (·.config) =
      if config.maxPacketBytes.toNat < 29 then
        .error (.capacity (.tooSmall config.maxPacketBytes.toNat))
      else if 1048573 < config.maxPacketBytes.toNat then
        .error (.capacity (.tooLarge config.maxPacketBytes.toNat))
      else if config.skewTolerance = 0 then .error .zeroSkewTolerance
      else if config.dispatchInterval = 0 then .error .zeroDispatchInterval
      else if config.pruneInterval = 0 then .error .zeroPruneInterval
      else .ok config := by
  rw [check]
  split
  · next error refused =>
      rcases ofBytes_eq_error refused with ⟨small, rfl⟩ | ⟨large, rfl⟩
      · rw [if_pos small]
        rfl
      · rw [if_neg (by omega), if_pos large]
        rfl
  · next capacity found =>
      have bytes_eq := Capacity.bytes_of_ofBytes found
      have holds_one : 29 ≤ capacity.bytes := capacity.holds_one
      have countable : capacity.bytes ≤ 1048573 := capacity.countable
      rw [if_neg (by omega), if_neg (by omega)]
      split
      · rfl
      split
      · rfl
      split <;> rfl

theorem config_of_check {config : Config} {settings : Settings}
    (accepted : config.check = .ok settings) : settings.config = config := by
  have mapped := config.map_check
  rw [accepted] at mapped
  simp only [Except.map] at mapped
  split_ifs at mapped
  exact Except.ok.inj mapped

/-! ## Written configurations -/

/-- A configuration that is written is read as it was if it can drive a service. If it cannot, the
first reason against it is found, of which the size of the packets comes before the others. -/
theorem readSettings_pretty (config : Config) :
    readSettings (pretty config) = config.check ∧
      (readSettings (pretty config)).map (·.config) =
        if config.maxPacketBytes.toNat < 29 then
          .error (.capacity (.tooSmall config.maxPacketBytes.toNat))
        else if 1048573 < config.maxPacketBytes.toNat then
          .error (.capacity (.tooLarge config.maxPacketBytes.toNat))
        else if config.skewTolerance = 0 then .error .zeroSkewTolerance
        else if config.dispatchInterval = 0 then .error .zeroDispatchInterval
        else if config.pruneInterval = 0 then .error .zeroPruneInterval
        else .ok config := by
  have read := readSettings_of_gives config.textGives_pretty config.nodup_held
  rw [foldl_apply_held] at read
  exact ⟨read, read ▸ map_check config⟩

/-! ## Built configurations -/

/-- However the calls that build a configuration are ordered and whichever of them are overridden, a
text that gives the values of the calls that stand leads to the same settings or the same error. The
settings have the values that are given, and the defaults elsewhere. -/
theorem readSettings_eq_build {text : String} {given calls : List Change}
    (gives : TextGives text given) (stands : (standing calls).Perm given) :
    readSettings text = build calls ∧
      ∀ settings, readSettings text = .ok settings → ∀ field,
        settings.config.held field =
          (given.find? (·.field = field)).getD (({} : Config).held field) := by
  have distinct : (given.map Change.field).Nodup :=
    (stands.map Change.field).nodup_iff.mp (nodup_standing calls)
  have read := readSettings_of_gives gives distinct
  have same : calls.foldl apply {} = given.foldl apply {} := by
    rw [← foldl_apply_standing, foldl_apply_perm {} stands (nodup_standing calls)]
  refine ⟨?_, ?_⟩
  · rw [read, build, same]
  · intro settings succeeded field
    rw [config_of_check (read ▸ succeeded), held_foldl_apply {} distinct]

/-- A text that gives two values, with a key of no field between them. The calls set one of them
twice, and come to its value last. -/
theorem readSettings_eq_build_overridden :
    let text :=
      "\n\x7b\n  \"max_packet_bytes\": 512,\n  \"notes\": \x7b\n    \"by\": null\n  \x7d,\n" ++
        "  \"empty_registry_policy\": \"retain_all\"\n\x7d"
    let given : List Change := [.maxPacketBytes 512, .emptyRegistryPolicy .retainAll]
    let calls : List Change :=
      [.maxPacketBytes 20, .emptyRegistryPolicy .retainAll, .maxPacketBytes 512]
    TextGives text given ∧ (standing calls).Perm given ∧
      readSettings text = build calls ∧
      ∀ settings, readSettings text = .ok settings → ∀ field,
        settings.config.held field =
          (given.find? (·.field = field)).getD (({} : Config).held field) := by
  intro text given calls
  let notes : String × Value := ("notes", .object [("by", .null)])
  let members : List (String × Value) :=
    [("max_packet_bytes", .number 512), notes, ("empty_registry_policy", .string "retain_all")]
  have padded : Padded (Value.chars Value.prettySpacing 0 (.object members)) text.toList := by
    have text_eq : text.toList =
        ['\n'] ++ Value.chars Value.prettySpacing 0 (.object members) ++ [] := by decide +kernel
    rw [text_eq]
    exact .intro (by simp [IsBlanks]) isBlanks_nil
  have isObject := Value.objectText_chars Value.isBlank_prettySpacing
    fun member (_ : member ∈ members) => Value.written_chars Value.isBlank_prettySpacing 1 member.2
  have gives : Gives (members.map (Value.entry Value.prettySpacing 1)) given := by
    have bytes_text : (Change.maxPacketBytes 512).IsText (Nat.toDigits 10 512) := rfl
    have policy_text : (Change.emptyRegistryPolicy .retainAll).IsText (Value.quote "retain_all") :=
      .string (Value.spells_flatMap_escape _)
    have no_key (field : Field) : field.key ≠ (Value.entry Value.prettySpacing 1 notes).1 := by
      cases field <;> decide
    have known := Gives.known bytes_text (.unknown no_key (.known policy_text .nil))
    simpa [members, given, Change.field, Field.key, Value.entry, Value.chars] using known
  have textGives : TextGives text given := .intro padded isObject gives
  have stands : (standing calls).Perm given := by decide
  exact ⟨textGives, stands, readSettings_eq_build textGives stands⟩

end Tombstone.Config
