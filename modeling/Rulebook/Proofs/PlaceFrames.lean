import Rulebook.Proofs.LastLayers

/-!
# What a layer does at a place and beside it

A layer works on each key of a table on its own, and on a section, as far as it gives tables for it,
like a layer of its own on the table of the section.  So what a layer does at a place can be told
from the parts that it gives there, and two tables that differ at one place only still do so under
the same layer, or under two layers that differ at that place only.
-/

namespace Rulebook.Config

namespace Value

/-- Lay a part over a value, if there is any: a value where some steps lead. -/
def laid (lower : Option Value) (part : List Step × Value) : Option Value :=
  some (modifyAt part.2.over part.1 (lower.getD .nothing))

end Value

namespace Layer

/-- The parts that a layer gives for a key, each with the steps below the key. -/
def about (key : Text) (layer : Layer) : List (List Step × Value) :=
  layer.filterMap fun (path, value) => if path.key = key then some (path.steps, value) else none

/-- What a part of a section gives for its keys. -/
def ofPart : List Step × Value → Layer
  | ([], .table entries) => entries.map fun (key, value) => (⟨key, []⟩, value)
  | (.entry key :: steps, value) => [(⟨key, steps⟩, value)]
  | _ => []

/-- What a layer gives in a section, as a layer of its own. -/
def inSection (name : Text) (layer : Layer) : Layer :=
  (layer.about name).flatMap ofPart

/-- The parts that a layer gives at a place. -/
def partsAt (place : Place) (layer : Layer) : List (List Step × Value) :=
  match place.sectionName? with
  | none => layer.about place.key
  | some name => (layer.inSection name).about place.key

variable {layer : Layer} {table : Table} {key name : Text}

theorem about_cons {path : Path} {value : Value} {rest : Layer} :
    about key ((path, value) :: rest) =
      (if path.key = key then [(path.steps, value)] else []) ++ about key rest := by
  by_cases same : path.key = key <;> simp [about, same]

theorem about_append {first second : Layer} :
    about key (first ++ second) = about key first ++ about key second :=
  List.filterMap_append

theorem onto_cons {path : Path} {value : Value} {rest : Layer} :
    onto ((path, value) :: rest) table = onto rest (table.modifyAt value.over path) :=
  rfl

theorem onto_append {first second : Layer} :
    onto (first ++ second) table = second.onto (first.onto table) :=
  List.foldl_append

theorem get?_onto :
    (layer.onto table).get? key = (layer.about key).foldl Value.laid (table.get? key) := by
  induction layer generalizing table with
  | nil => rfl
  | cons entry rest induction =>
      obtain ⟨path, value⟩ := entry
      rw [onto_cons, induction, about_cons, List.foldl_append, Table.modifyAt, Table.get?_set]
      by_cases same : path.key = key
      · rw [if_pos same, if_pos same.symm, same]
        rfl
      · rw [if_neg same, if_neg (Ne.symm same)]
        rfl

theorem overlay_eq_onto {upper lower : Table} :
    overlay upper lower = (ofPart ([], .table upper)).onto lower := by
  induction upper generalizing lower with
  | nil => rw [overlay]; rfl
  | cons entry rest induction =>
      obtain ⟨key, value⟩ := entry
      rw [overlay, induction]
      rfl

/-- A part that makes a table works on the entries of a section as a layer of its own. -/
theorem entries_modifyAt {steps : List Step} {value lower : Value}
    (isTable : (value.within steps).IsTable) :
    (Value.modifyAt value.over steps lower).entries =
      (ofPart (steps, value)).onto lower.entries := by
  obtain ⟨upper, within_eq⟩ := isTable
  match steps with
  | [] =>
      rw [Value.within, Value.modifyAt] at within_eq
      subst within_eq
      rw [Value.modifyAt, Value.table_over, Value.entries, overlay_eq_onto]
  | .entry key :: steps => rfl
  | .element index :: steps => cases within_eq

/-- A layer that gives nothing but tables for a section works on it as a layer of its own. -/
theorem entries_onto (sectioned : layer.table.GivesTables name) :
    ((layer.onto table).value name).entries =
      (layer.inSection name).onto (table.value name).entries := by
  induction layer generalizing table with
  | nil => rfl
  | cons entry rest induction =>
      obtain ⟨path, value⟩ := entry
      rw [table_cons, Table.givesTables_append] at sectioned
      rw [onto_cons, induction sectioned.2, inSection, inSection, about_cons, List.flatMap_append,
        onto_append, Table.modifyAt]
      by_cases same : path.key = name
      · have isTable : (value.within path.steps).IsTable :=
          sectioned.1 _ (by simp [Table.valuesOf, same])
        rw [if_pos same, same, Table.value_set_self, entries_modifyAt isTable,
          List.flatMap_singleton]
      · rw [if_neg same, Table.value_set_of_ne (Ne.symm same)]
        rfl

theorem at?_onto {place : Place}
    (sectioned : ∀ name ∈ place.sectionName?, layer.table.GivesTables name) :
    (layer.onto table).at? place = (layer.partsAt place).foldl Value.laid (table.at? place) := by
  obtain ⟨sectionName?, key⟩ := place
  cases sectionName? with
  | none => exact get?_onto
  | some name =>
      rw [Table.at?, Table.at?, partsAt]
      dsimp only
      rw [entries_onto (sectioned name rfl), get?_onto]

end Layer

/-! ## Tables that differ at one place -/

/-- Whether two tables have the same values for all keys but one. -/
def Table.AgreeApart (key : Text) (first second : Table) : Prop :=
  ∀ other, other ≠ key → first.get? other = second.get? other

/-- Whether two tables differ at one place at most: a key of the configuration, or of a section. -/
structure Table.AgreeBeside (place : Place) (first second : Table) : Prop where
  keys : AgreeApart place.path.key first second
  entries : ∀ name ∈ place.sectionName?,
    AgreeApart place.key (first.value name).entries (second.value name).entries

/-- Whether two layers give the same for all keys but one. -/
def Layer.AgreeApart (key : Text) (first second : Layer) : Prop :=
  ∀ other, other ≠ key → first.about other = second.about other

/-- Whether a layer sets the value at a place where another one, which differs from it at no other
place, may give anything.  Both give nothing but tables for the section of the place. -/
structure Layer.Sets (place : Place) (value : Value) (without layer : Layer) : Prop where
  parts : layer.partsAt place = [([], value)]
  keys : AgreeApart place.path.key without layer
  entries : ∀ name ∈ place.sectionName?,
    AgreeApart place.key (without.inSection name) (layer.inSection name)
  sectioned : ∀ name ∈ place.sectionName?, layer.table.GivesTables name
  sectioned_without : ∀ name ∈ place.sectionName?, without.table.GivesTables name

/-- Whether a layer gives nothing at a place, and nothing but tables for its section. -/
structure Layer.LeavesAlone (place : Place) (layer : Layer) : Prop where
  parts : layer.partsAt place = []
  sectioned : ∀ name ∈ place.sectionName?, layer.table.GivesTables name

namespace Table

variable {place : Place} {first second : Table} {layer without : Layer} {key name : Text}

theorem AgreeApart.refl (table : Table) : AgreeApart key table table := fun _ _ => rfl

theorem AgreeApart.symm (agree : AgreeApart key first second) : AgreeApart key second first :=
  fun other different => (agree other different).symm

theorem AgreeBeside.refl (table : Table) : AgreeBeside place table table :=
  ⟨.refl table, fun _ _ => .refl _⟩

theorem AgreeBeside.symm (agree : AgreeBeside place first second) :
    AgreeBeside place second first :=
  ⟨agree.keys.symm, fun name found => (agree.entries name found).symm⟩

theorem AgreeApart.onto (agree : AgreeApart key first second)
    (layers_agree : Layer.AgreeApart key without layer) :
    AgreeApart key (without.onto first) (layer.onto second) := by
  intro other different
  rw [Layer.get?_onto, Layer.get?_onto, agree other different, layers_agree other different]

/-- Whatever a part does to the entries of a section, it does to each key on its own. -/
theorem AgreeApart.entries_modifyAt {steps : List Step} {value lower otherLower : Value}
    (agree : AgreeApart key lower.entries otherLower.entries) :
    AgreeApart key (Value.modifyAt value.over steps lower).entries
      (Value.modifyAt value.over steps otherLower).entries := by
  by_cases isTable : (value.within steps).IsTable
  · rw [Layer.entries_modifyAt isTable, Layer.entries_modifyAt isTable]
    exact agree.onto fun _ _ => rfl
  · -- What is no table hides the entries of both.
    match steps with
    | [] =>
        cases value with
        | table entries => exact absurd ⟨entries, rfl⟩ isTable
        | _ => exact .refl _
    | .entry key :: steps => exact absurd ⟨_, rfl⟩ isTable
    | .element index :: steps => exact .refl _

/-- Tables that differ at one place still do so under the same layer. -/
theorem AgreeBeside.onto (agree : AgreeBeside place first second) (layer : Layer) :
    AgreeBeside place (layer.onto first) (layer.onto second) := by
  refine ⟨agree.keys.onto fun _ _ => rfl, fun name found => ?_⟩
  have entries_agree := agree.entries name found
  clear agree
  induction layer generalizing first second with
  | nil => exact entries_agree
  | cons entry rest induction =>
      obtain ⟨path, value⟩ := entry
      rw [Layer.onto_cons, Layer.onto_cons]
      refine induction ?_
      rw [modifyAt, modifyAt]
      by_cases same : name = path.key
      · subst same
        rw [value_set_self, value_set_self]
        exact entries_agree.entries_modifyAt
      · rw [value_set_of_ne same, value_set_of_ne same]
        exact entries_agree

/-- Tables that differ at one place still do so under two layers that differ there. -/
theorem AgreeBeside.onto_sets {value : Value} (agree : AgreeBeside place first second)
    (sets : Layer.Sets place value without layer) :
    AgreeBeside place (without.onto first) (layer.onto second) := by
  refine ⟨agree.keys.onto sets.keys, fun name found => ?_⟩
  rw [Layer.entries_onto (sets.sectioned_without name found),
    Layer.entries_onto (sets.sectioned name found)]
  exact (agree.entries name found).onto (sets.entries name found)

end Table

namespace Layer

variable {place : Place} {layer without : Layer} {value : Value}

theorem Sets.at?_onto (sets : Sets place value without layer)
    (covers : ∀ lower, value.over lower = value) (table : Table) :
    (layer.onto table).at? place = some value := by
  rw [Layer.at?_onto sets.sectioned, sets.parts, List.foldl_cons, List.foldl_nil, Value.laid,
    Value.modifyAt, covers]

theorem partsAt_append {first second : Layer} :
    (first ++ second).partsAt place = first.partsAt place ++ second.partsAt place := by
  unfold partsAt
  split
  · exact about_append
  · rw [inSection, about_append, List.flatMap_append, about_append]
    rfl

/-- What comes last in a layer that leaves a place alone leaves it alone. -/
theorem LeavesAlone.of_append {first second : Layer} (alone : LeavesAlone place (first ++ second)) :
    LeavesAlone place second := by
  refine ⟨(List.append_eq_nil_iff.mp (partsAt_append ▸ alone.parts)).2, fun name found => ?_⟩
  have sectioned := alone.sectioned name found
  rw [table, List.map_append, Table.givesTables_append] at sectioned
  exact sectioned.2

theorem LeavesAlone.at?_onto (alone : LeavesAlone place layer) (table : Table) :
    (layer.onto table).at? place = table.at? place := by
  rw [Layer.at?_onto alone.sectioned, alone.parts, List.foldl_nil]

end Layer

end Rulebook.Config
