import Rulebook.Config.Settings

/-!
# Layers, place by place

What a stack of layers has at a place is made of what its layers give for that place, the lowest one
first, and of nothing else.  This is so up to the outline of values, which is all that the reading
of settings looks at: negative indices count from the end of the list below, so that the elements of
a list may depend on where its layer is laid.
-/

namespace Rulebook.Config

/-- A place where a setting stands: a key of the configuration or of one of its sections. -/
structure Place where
  sectionName? : Option Text
  key : Text
deriving DecidableEq

namespace Value

/-- What the reading of settings looks at: a scalar as it is, the keys of a table, and of a list
that it is one. -/
def outline : Value → Value
  | .list _ => .list []
  | .table entries => .table ((entries.map Prod.fst).map fun key => (key, .nothing))
  | value => value

/-- The value that has a given value where some steps lead, and nothing else. -/
def within (steps : List Step) (value : Value) : Value :=
  modifyAt (fun _ => value) steps .nothing

def IsTable (value : Value) : Prop :=
  ∃ entries, value = .table entries

instance : DecidablePred IsTable
  | .table entries => .isTrue ⟨entries, rfl⟩
  | .nothing | .text _ | .integer _ | .float _ | .flag _ | .list _ => .isFalse nofun

/-- Lay a value over another one, if there is any. -/
def overAny (lower : Option Value) (upper : Value) : Option Value :=
  some (upper.over (lower.getD .nothing))

/-- Lay values over each other, the lowest one first. -/
def merged (values : List Value) : Option Value :=
  values.foldl overAny none

end Value

namespace Table

/-- The values of a key, in their order. A table in which each key stands once has one at most. -/
def valuesOf (key : Text) (table : Table) : List Value :=
  table.filterMap fun (other, value) => if key = other then some value else none

/-- The values for a place, in their order. -/
def valuesAt (place : Place) (table : Table) : List Value :=
  match place.sectionName? with
  | none => table.valuesOf place.key
  | some name => (table.valuesOf name).flatMap fun value => valuesOf place.key value.entries

def at? (place : Place) (table : Table) : Option Value :=
  match place.sectionName? with
  | none => table.get? place.key
  | some name => get? place.key (table.value name).entries

end Table

namespace Layer

/-- The table that a layer gives on its own. -/
def table (layer : Layer) : Table :=
  layer.map fun (path, value) => (path.key, value.within path.steps)

end Layer

/-! ## Outlines -/

namespace Table

variable {key : Text} {value : Value} {table : Table}

theorem value_set_self : (table.set key value).value key = value := by
  rw [Table.value, get?_set, if_pos rfl, Option.getD_some]

theorem value_set_of_ne {other : Text} (different : key ≠ other) :
    (table.set other value).value key = table.value key := by
  rw [Table.value, get?_set, if_neg different, Table.value]

theorem valuesOf_cons {other : Text} {rest : Table} :
    valuesOf key ((other, value) :: rest) =
      (if key = other then [value] else []) ++ valuesOf key rest := by
  by_cases same : key = other <;> simp [valuesOf, same]

theorem at?_nil {place : Place} : at? place [] = none := by
  unfold at?
  split <;> rfl

theorem valuesAt_nil {place : Place} : valuesAt place [] = [] := by
  unfold valuesAt
  split <;> rfl

theorem valuesOf_append {first second : Table} :
    valuesOf key (first ++ second) = valuesOf key first ++ valuesOf key second :=
  List.filterMap_append

theorem valuesAt_append {place : Place} {first second : Table} :
    valuesAt place (first ++ second) = valuesAt place first ++ valuesAt place second := by
  unfold valuesAt
  split <;> rw [valuesOf_append]
  rw [List.flatMap_append]

theorem keys_set_congr {other : Value} {first second : Table}
    (same : first.map Prod.fst = second.map Prod.fst) :
    (first.set key value).map Prod.fst = (second.set key other).map Prod.fst := by
  induction first generalizing second with
  | nil =>
      rw [List.map_nil, eq_comm, List.map_eq_nil_iff] at same
      rw [same]
      rfl
  | cons entry rest induction =>
      obtain ⟨name, old⟩ := entry
      cases second with
      | nil => cases same
      | cons secondEntry secondRest =>
          obtain ⟨secondName, secondOld⟩ := secondEntry
          rw [List.map_cons, List.map_cons, List.cons.injEq] at same
          obtain ⟨rfl, same⟩ := same
          by_cases found : key = name
          · simp [set, found, same]
          · simp [set, found, induction same]

/-- The keys of a table that is laid over another do not depend on the values of that one. -/
theorem keys_overlay_congr {upper first second : Table}
    (same : first.map Prod.fst = second.map Prod.fst) :
    (overlay upper first).map Prod.fst = (overlay upper second).map Prod.fst := by
  induction upper generalizing first second with
  | nil => rwa [overlay, overlay]
  | cons entry rest induction =>
      rw [overlay, overlay]
      exact induction (keys_set_congr same)

theorem get?_overlay {upper lower : Table} :
    get? key (overlay upper lower) = (valuesOf key upper).foldl Value.overAny (get? key lower) := by
  induction upper generalizing lower with
  | nil => rw [overlay]; rfl
  | cons entry rest induction =>
      obtain ⟨other, value⟩ := entry
      rw [overlay, induction, valuesOf_cons, List.foldl_append, get?_set]
      by_cases same : key = other
      · rw [if_pos same, if_pos same, same]
        rfl
      · rw [if_neg same, if_neg same]
        rfl

end Table

namespace Value

variable {steps : List Step} {value lower first second : Value}

theorem outline_table_congr {firstEntries secondEntries : Table}
    (same : firstEntries.map Prod.fst = secondEntries.map Prod.fst) :
    (table firstEntries).outline = (table secondEntries).outline := by
  rw [outline, outline, same]

theorem keys_entries_congr (same : first.outline = second.outline) :
    first.entries.map Prod.fst = second.entries.map Prod.fst := by
  have keys_outline (value : Value) :
      value.outline.entries.map Prod.fst = value.entries.map Prod.fst := by
    cases value <;> simp [outline, entries, Function.comp_def]
  rw [← keys_outline first, same, keys_outline]

theorem outline_over_congr (same : first.outline = second.outline) :
    (value.over first).outline = (value.over second).outline := by
  cases value with
  | table upper =>
      rw [Value.over, Value.over]
      exact outline_table_congr (Table.keys_overlay_congr (keys_entries_congr same))
  | _ => rfl

theorem overAny_congr {first second : Option Value}
    (same : first.map outline = second.map outline) :
    (overAny first value).map outline = (overAny second value).map outline := by
  have same_outline : (first.getD .nothing).outline = (second.getD .nothing).outline := by
    cases first <;> cases second <;> simp_all
  exact congrArg some (outline_over_congr same_outline)

theorem foldl_overAny_congr {values : List Value} {first second : Option Value}
    (same : first.map outline = second.map outline) :
    (values.foldl overAny first).map outline = (values.foldl overAny second).map outline := by
  induction values generalizing first second with
  | nil => exact same
  | cons value rest induction => exact induction (overAny_congr same)

theorem within_entry {key : Text} :
    value.within (.entry key :: steps) = .table [(key, value.within steps)] :=
  rfl

theorem table_over {upper : Table} :
    (table upper).over lower = .table (overlay upper lower.entries) := by
  rw [Value.over]

/-- Changing the part of a value where some steps lead is laying a value with that part over it, up
to the outline. -/
theorem outline_modifyAt_over :
    (modifyAt value.over steps lower).outline = ((value.within steps).over lower).outline := by
  match steps with
  | [] => rfl
  | .entry key :: steps =>
      rw [modifyAt, within_entry, table_over, overlay, overlay]
      exact outline_table_congr (Table.keys_set_congr rfl)
  | .element index :: steps =>
      rw [modifyAt, within, modifyAt, Value.over]
      rfl

theorem outline_get?_modifyAt_over {key : Text} (isTable : (value.within steps).IsTable) :
    (Table.get? key (modifyAt value.over steps lower).entries).map outline =
      ((Table.valuesOf key (value.within steps).entries).foldl overAny
        (Table.get? key lower.entries)).map outline := by
  obtain ⟨upper, within_eq⟩ := isTable
  match steps with
  | [] =>
      rw [within, modifyAt] at within_eq
      subst within_eq
      rw [modifyAt, table_over, entries, Table.get?_overlay, within, modifyAt, entries]
  | .entry other :: steps =>
      rw [modifyAt, within_entry, entries, entries, Table.get?_set, Table.valuesOf_cons]
      by_cases same : key = other
      · rw [if_pos same, if_pos same, same]
        exact congrArg some outline_modifyAt_over
      · rw [if_neg same, if_neg same]
        rfl
  | .element index :: steps => cases within_eq

end Value

/-! ## Layers -/

namespace Table

variable {place : Place} {lower : Table}

/-- What an entry of a layer does at a place, up to the outline: the values that it gives there are
laid over the value that was there. -/
theorem outline_at?_modifyAt {path : Path} {value : Value}
    (sectioned : place.sectionName? = some path.key → (value.within path.steps).IsTable) :
    (at? place (lower.modifyAt value.over path)).map Value.outline =
      ((valuesAt place [(path.key, value.within path.steps)]).foldl Value.overAny
        (at? place lower)).map Value.outline := by
  obtain ⟨sectionName?, key⟩ := place
  obtain ⟨other, steps⟩ := path
  cases sectionName? with
  | none =>
      rw [at?, at?, valuesAt]
      dsimp only
      rw [modifyAt, get?_set, valuesOf_cons]
      by_cases same : key = other
      · rw [if_pos same, if_pos same, same]
        exact congrArg some Value.outline_modifyAt_over
      · rw [if_neg same, if_neg same]
        rfl
  | some name =>
      rw [at?, at?, valuesAt]
      dsimp only
      rw [modifyAt, valuesOf_cons]
      by_cases same : name = other
      · subst same
        rw [if_pos rfl, value_set_self, Value.outline_get?_modifyAt_over (sectioned rfl)]
        simp [valuesOf]
      · rw [if_neg same, value_set_of_ne same]
        rfl

end Table

variable {place : Place}

/-- Whether nothing but tables is given for a key. -/
def Table.GivesTables (key : Text) (table : Table) : Prop :=
  ∀ value ∈ table.valuesOf key, value.IsTable

instance {key : Text} : DecidablePred (Table.GivesTables key) := fun table =>
  inferInstanceAs (Decidable (∀ value ∈ table.valuesOf key, value.IsTable))

theorem Table.givesTables_append {key : Text} {first second : Table} :
    Table.GivesTables key (first ++ second) ↔ first.GivesTables key ∧ second.GivesTables key := by
  rw [GivesTables, valuesOf_append, List.forall_mem_append]
  rfl

namespace Layer

theorem table_cons {path : Path} {value : Value} {rest : Layer} :
    Layer.table ((path, value) :: rest) = [(path.key, value.within path.steps)] ++ rest.table :=
  rfl

theorem outline_at?_onto {layer : Layer} {lower : Table}
    (sectioned : ∀ name ∈ place.sectionName?, layer.table.GivesTables name) :
    ((layer.onto lower).at? place).map Value.outline =
      ((layer.table.valuesAt place).foldl Value.overAny (lower.at? place)).map Value.outline := by
  induction layer generalizing lower with
  | nil => rw [onto, List.foldl_nil, table, List.map_nil, Table.valuesAt_nil, List.foldl_nil]
  | cons entry rest induction =>
      obtain ⟨path, value⟩ := entry
      simp only [table_cons, Table.givesTables_append] at sectioned
      rw [table_cons, Table.valuesAt_append, List.foldl_append, onto, List.foldl_cons]
      refine (induction fun name found => (sectioned name found).2).trans
        (Value.foldl_overAny_congr ?_)
      refine Table.outline_at?_modifyAt fun found => ?_
      exact (sectioned path.key found).1 _ (by simp [Table.valuesOf])

end Layer

theorem outline_at?_stack_onto {layers : List Layer} {lower : Table}
    (sectioned : ∀ name ∈ place.sectionName?, ∀ layer ∈ layers, layer.table.GivesTables name) :
    ((stack layers lower).at? place).map Value.outline =
      ((layers.flatMap (·.table.valuesAt place)).foldl Value.overAny (lower.at? place)).map
        Value.outline := by
  induction layers generalizing lower with
  | nil => rfl
  | cons layer rest induction =>
      simp only [List.forall_mem_cons] at sectioned
      rw [List.flatMap_cons, List.foldl_append, stack, List.foldl_cons]
      refine (induction fun name found => (sectioned name found).2).trans
        (Value.foldl_overAny_congr ?_)
      exact Layer.outline_at?_onto fun name found => (sectioned name found).1

/-- What a stack of layers has at a place, up to the outline: the values that the layers give there,
laid over each other. -/
theorem outline_at?_stack {layers : List Layer}
    (sectioned : ∀ name ∈ place.sectionName?, ∀ layer ∈ layers, layer.table.GivesTables name) :
    ((stack layers []).at? place).map Value.outline =
      (Value.merged (layers.flatMap (·.table.valuesAt place))).map Value.outline := by
  rw [outline_at?_stack_onto sectioned, Table.at?_nil, Value.merged]

namespace Value

theorem merged_concat {before : List Value} {last : Value} :
    merged (before ++ [last]) = some (last.over ((merged before).getD .nothing)) := by
  rw [merged, List.foldl_append]
  rfl

theorem IsTable.of_outline {first second : Value} (isTable : first.IsTable)
    (same : first.outline = second.outline) : second.IsTable := by
  obtain ⟨entries, rfl⟩ := isTable
  cases second with
  | table entries => exact ⟨entries, rfl⟩
  | _ => cases same

theorem isTable_of_merged {values : List Value} {value : Value}
    (areTables : ∀ value ∈ values, value.IsTable) (merged_eq : merged values = some value) :
    value.IsTable := by
  rcases List.eq_nil_or_concat values with rfl | ⟨before, last, rfl⟩
  · cases merged_eq
  · rw [List.concat_eq_append] at areTables merged_eq
    rw [merged_concat] at merged_eq
    cases merged_eq
    obtain ⟨entries, rfl⟩ := areTables last List.mem_concat_self
    exact ⟨_, table_over⟩

end Value

/-- If the layers give nothing but tables for a section, the stack has a table there if anything. -/
theorem isTable_of_get?_stack {layers : List Layer} {name : Text} {value : Value}
    (sectioned : ∀ layer ∈ layers, layer.table.GivesTables name)
    (found : (stack layers []).get? name = some value) : value.IsTable := by
  have areTables : ∀ value ∈ layers.flatMap (·.table.valuesOf name), value.IsTable := by
    intro value member
    obtain ⟨layer, layer_member, member⟩ := List.mem_flatMap.mp member
    exact sectioned layer layer_member value member
  have outside : ∀ other ∈ (Place.mk none name).sectionName?, ∀ layer ∈ layers,
      layer.table.GivesTables other := nofun
  have outline_eq : ((stack layers []).get? name).map Value.outline =
      (Value.merged (layers.flatMap (·.table.valuesOf name))).map Value.outline :=
    outline_at?_stack outside
  rw [found] at outline_eq
  cases merged_eq : Value.merged (layers.flatMap (·.table.valuesOf name)) with
  | none =>
      rw [merged_eq] at outline_eq
      cases outline_eq
  | some whole =>
      rw [merged_eq, Option.map_some, Option.map_some, Option.some.injEq] at outline_eq
      exact (Value.isTable_of_merged areTables merged_eq).of_outline outline_eq.symm

end Rulebook.Config
