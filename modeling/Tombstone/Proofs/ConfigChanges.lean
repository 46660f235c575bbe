import Mathlib.Data.List.Nodup
import Mathlib.Logic.Function.Basic
import Tombstone.Config

/-!
# Changes of configurations

Every change sets the value of one field and leaves the others as they are. So changes of different
fields may be made in any order, and a change of a field undoes any earlier one. Of a list of
changes just the last one of each field counts.
-/

namespace Tombstone.Config

/-- The values of a configuration. -/
inductive Field where
  | skewTolerance
  | maxPacketBytes
  | packetFlags
  | dispatchInterval
  | pruneInterval
  | stallWarningAfter
  | emptyRegistryPolicy
  deriving DecidableEq

/-- The fields in the order in which they are written. -/
def Field.all : List Field :=
  [.skewTolerance, .maxPacketBytes, .packetFlags, .dispatchInterval, .pruneInterval,
    .stallWarningAfter, .emptyRegistryPolicy]

/-- The field that a change sets. -/
def Change.field : Change → Field
  | skewTolerance _ => .skewTolerance
  | maxPacketBytes _ => .maxPacketBytes
  | packetFlags _ => .packetFlags
  | dispatchInterval _ => .dispatchInterval
  | pruneInterval _ => .pruneInterval
  | stallWarningAfter _ => .stallWarningAfter
  | emptyRegistryPolicy _ => .emptyRegistryPolicy

/-- The change that would set the value that a field already has. -/
def held (config : Config) : Field → Change
  | .skewTolerance => .skewTolerance config.skewTolerance
  | .maxPacketBytes => .maxPacketBytes config.maxPacketBytes
  | .packetFlags => .packetFlags config.packetFlags
  | .dispatchInterval => .dispatchInterval config.dispatchInterval
  | .pruneInterval => .pruneInterval config.pruneInterval
  | .stallWarningAfter => .stallWarningAfter config.stallWarningAfter
  | .emptyRegistryPolicy => .emptyRegistryPolicy config.emptyRegistryPolicy

theorem held_injective : Function.Injective held := by
  intro config other same
  cases config
  cases other
  rw [Config.mk.injEq]
  exact ⟨Change.skewTolerance.inj (congrFun same .skewTolerance),
    Change.maxPacketBytes.inj (congrFun same .maxPacketBytes),
    Change.packetFlags.inj (congrFun same .packetFlags),
    Change.dispatchInterval.inj (congrFun same .dispatchInterval),
    Change.pruneInterval.inj (congrFun same .pruneInterval),
    Change.stallWarningAfter.inj (congrFun same .stallWarningAfter),
    Change.emptyRegistryPolicy.inj (congrFun same .emptyRegistryPolicy)⟩

theorem field_held (config : Config) (field : Field) : (config.held field).field = field := by
  cases field <;> rfl

theorem nodup_held (config : Config) :
    ((Field.all.map config.held).map Change.field).Nodup := by
  simp only [List.map_map, Function.comp_def, field_held, List.map_id']
  decide

/-- What a change makes of the values. -/
theorem held_apply (config : Config) (change : Change) :
    (config.apply change).held = Function.update config.held change.field change := by
  funext field
  cases change <;> cases field <;> rfl

theorem apply_comm (config : Config) {first second : Change}
    (different : first.field ≠ second.field) :
    (config.apply first).apply second = (config.apply second).apply first := by
  apply held_injective
  simp only [held_apply]
  exact Function.update_comm different _ _ _

theorem apply_override (config : Config) {first second : Change}
    (same : first.field = second.field) :
    (config.apply first).apply second = config.apply second := by
  apply held_injective
  simp only [held_apply, same, Function.update_idem]

/-! ## Lists of changes -/

/-- The calls that no later call for the same field overrides. -/
def standing : List Change → List Change
  | [] => []
  | call :: later =>
      if ∃ other ∈ later, other.field = call.field then standing later
      else call :: standing later

theorem mem_of_mem_standing {call : Change} {calls : List Change} (stands : call ∈ standing calls) :
    call ∈ calls := by
  fun_induction standing calls with
  | case1 => exact stands
  | case2 first later overridden ih => exact List.mem_cons_of_mem first (ih stands)
  | case3 first later stays ih =>
      rcases List.mem_cons.mp stands with rfl | stands
      · exact List.mem_cons_self
      · exact List.mem_cons_of_mem first (ih stands)

theorem nodup_standing (calls : List Change) : ((standing calls).map Change.field).Nodup := by
  fun_induction standing calls with
  | case1 => exact List.nodup_nil
  | case2 first later overridden ih => exact ih
  | case3 first later stays ih =>
      refine List.nodup_cons.mpr ⟨?_, ih⟩
      intro field_mem
      rcases List.mem_map.mp field_mem with ⟨other, stands, same⟩
      exact stays ⟨other, mem_of_mem_standing stands, same⟩

/-- A call that is overridden later makes no difference. Induction on the later calls, of which the
call may change places with those for other fields. -/
theorem foldl_apply_overridden {call : Change} {later : List Change} (config : Config)
    (overridden : ∃ other ∈ later, other.field = call.field) :
    later.foldl apply (config.apply call) = later.foldl apply config := by
  induction later generalizing config with
  | nil => simp at overridden
  | cons next later ih =>
      by_cases same : call.field = next.field
      · rw [List.foldl_cons, List.foldl_cons, apply_override config same]
      · have overridden_later : ∃ other ∈ later, other.field = call.field := by
          rcases overridden with ⟨other, other_mem, other_same⟩
          rcases List.mem_cons.mp other_mem with rfl | other_mem
          · exact absurd other_same.symm same
          · exact ⟨other, other_mem, other_same⟩
        rw [List.foldl_cons, List.foldl_cons, apply_comm config same, ih _ overridden_later]

theorem foldl_apply_standing (config : Config) (calls : List Change) :
    (standing calls).foldl apply config = calls.foldl apply config := by
  fun_induction standing calls generalizing config with
  | case1 => rfl
  | case2 call later overridden ih =>
      rw [ih, List.foldl_cons, foldl_apply_overridden config overridden]
  | case3 call later stays ih => rw [List.foldl_cons, List.foldl_cons, ih]

/-- Changes of different fields may be made in any order. -/
theorem foldl_apply_perm {changes others : List Change} (config : Config)
    (perm : changes.Perm others) (distinct : (changes.map Change.field).Nodup) :
    changes.foldl apply config = others.foldl apply config := by
  refine perm.foldl_eq' ?_ config
  intro first first_mem second second_mem config
  by_cases same : first.field = second.field
  · rw [List.inj_on_of_nodup_map distinct first_mem second_mem same]
  · exact apply_comm config same

/-- Each field holds what the last change of it has set, or what it held before. -/
theorem held_foldl_apply {changes : List Change} (config : Config)
    (distinct : (changes.map Change.field).Nodup) (field : Field) :
    (changes.foldl apply config).held field =
      (changes.find? (·.field = field)).getD (config.held field) := by
  induction changes generalizing config with
  | nil => rfl
  | cons change later ih =>
      rcases List.nodup_cons.mp distinct with ⟨not_later, distinct_later⟩
      rw [List.foldl_cons, ih _ distinct_later, held_apply]
      by_cases same : change.field = field
      · subst same
        have none_later : later.find? (·.field = change.field) = none := by
          simpa [List.find?_eq_none] using not_later
        rw [none_later, List.find?_cons_of_pos (by simp), Option.getD_none, Function.update_self,
          Option.getD_some]
      · rw [List.find?_cons_of_neg (by simpa using same), Function.update_of_ne (Ne.symm same)]

/-- All the values that a configuration holds make it out of any other. -/
theorem foldl_apply_held (config start : Config) :
    (Field.all.map config.held).foldl apply start = config := by
  apply held_injective
  funext field
  have found : (Field.all.map config.held).find? (·.field = field) = some (config.held field) := by
    simp only [List.find?_map, Function.comp_def, field_held, Option.map_eq_some_iff]
    exact ⟨field, by cases field <;> rfl, rfl⟩
  rw [held_foldl_apply start config.nodup_held, found, Option.getD_some]

end Tombstone.Config
