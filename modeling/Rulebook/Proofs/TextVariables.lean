import Mathlib.Data.List.Nodup
import Rulebook.Proofs.PlaceFrames

/-!
# Texts from environment variables

A setting that is a text may be given in the file of the service or by an environment variable.  The
text of a variable is read as a truth value, an integer or a number where it looks like one, and is
written anew for the setting, so the two ways give the same settings up to this normal form of the
text, and just the same ones if the text is its own normal form.
-/

namespace Rulebook.Config

/-! ## Normal forms -/

namespace Value

/-- The text that the text of a variable stands for where a text is wanted: a truth value, an
integer or a number is written anew, and anything else stands for itself. -/
def normalText (text : Text) : Text :=
  if Text.lower text = "true".toList then "true".toList
  else if Text.lower text = "false".toList then "false".toList
  else
    match (Numeral.int? text).filter Range.isSigned64 with
    | some n => Numeral.ofInt n
    | none =>
        match Extended.ofText? text with
        | some x => x.text
        | none => text

theorem asText?_ofVariable (text : Text) : (ofVariable text).asText? = some (normalText text) := by
  unfold ofVariable normalText
  split
  · rfl
  split
  · rfl
  cases (Numeral.int? text).filter Range.isSigned64 with
  | some n => rfl
  | none => cases Extended.ofText? text <;> rfl

end Value

/-! ## Settings at other places -/

namespace Setting

variable {place : Place} {first second : Table}

theorem eq_of_place_eq {setting other : Setting} (member : setting ∈ all)
    (other_member : other ∈ all) (same : setting.place = other.place) : setting = other := by
  have places_nodup : (all.map Setting.place).Nodup := by decide
  exact List.inj_on_of_nodup_map places_nodup member other_member same

/-- No setting is named like the stage or the directory of the files. -/
theorem ne_of_named {setting : Setting} (member : setting ∈ all) {name : Text}
    (named : Text.lower name = setting.place.variableName) :
    name ≠ "RULES_ENV".toList ∧ name ≠ "CONFIG_DIR".toList := by
  have all_names : ∀ place ∈ all.map Setting.place,
      Text.lower "RULES_ENV".toList ≠ place.variableName ∧
        Text.lower "CONFIG_DIR".toList ≠ place.variableName := by
    decide
  obtain ⟨not_stage, not_directory⟩ := all_names _ (List.mem_map_of_mem member)
  constructor
  · rintro rfl
    exact not_stage named
  · rintro rfl
    exact not_directory named

theorem place_cases {setting other : Setting} (member : setting ∈ all) (other_member : other ∈ all)
    (different : other.place ≠ setting.place) :
    other.place.path.key ≠ setting.place.path.key ∨
      ∃ name, setting.place.sectionName? = some name ∧ other.place.sectionName? = some name ∧
        other.place.key ≠ setting.place.key := by
  have all_places : ∀ place ∈ all.map Setting.place, ∀ other ∈ all.map Setting.place,
      other ≠ place → other.path.key ≠ place.path.key ∨
        ∃ name ∈ place.sectionName?, other.sectionName? = some name ∧ other.key ≠ place.key := by
    decide
  exact all_places _ (List.mem_map_of_mem member) _ (List.mem_map_of_mem other_member) different

theorem named?_of_at? {name : Text} {root : Table} {value : Value}
    (sectioned : place.sectionName? = some name) (found : root.at? place = some value) :
    root.named? name = some (root.value name).entries := by
  refine Table.named?_eq fun section_value get_eq => ?_
  rw [Table.at?, sectioned] at found
  dsimp only at found
  rw [Table.value, get_eq, Option.getD_some] at found
  cases section_value with
  | table entries => exact ⟨entries, rfl⟩
  | _ => cases found

theorem readIn?_of_at? {setting : Setting} {root : Table} {value : Value}
    (found : root.at? setting.place = some value) : setting.readIn? root = setting.read? value := by
  unfold readIn?
  cases sectioned : setting.place.sectionName? with
  | none =>
      rw [Table.at?, sectioned] at found
      dsimp only at found ⊢
      rw [found]
      rfl
  | some name =>
      dsimp only
      rw [named?_of_at? sectioned found, Option.bind_some]
      rw [Table.at?, sectioned] at found
      dsimp only at found
      rw [found]
      rfl

/-- Tables that differ at one place alone, where both have a value, give the same for all settings
with other places. -/
theorem readIn?_congr {setting other : Setting} (member : setting ∈ all)
    (other_member : other ∈ all) (different : other.place ≠ setting.place)
    (agree : Table.AgreeBeside setting.place first second) {value otherValue : Value}
    (found : first.at? setting.place = some value)
    (other_found : second.at? setting.place = some otherValue) :
    other.readIn? first = other.readIn? second := by
  rcases place_cases member other_member different with apart | ⟨name, sectioned, inside, apart⟩
  · have same := agree.keys other.place.path.key apart
    unfold readIn? Table.named?
    unfold Place.path at same
    cases inside : other.place.sectionName? <;> rw [inside] at same <;> dsimp only at same ⊢ <;>
      rw [same]
  · unfold readIn?
    rw [inside]
    dsimp only
    rw [named?_of_at? sectioned found, named?_of_at? sectioned other_found, Option.bind_some,
      Option.bind_some, agree.entries name sectioned other.place.key apart]

theorem eq_of_settings {settings others : Settings}
    (same : ∀ setting ∈ all, setting.of settings = setting.of others) : settings = others := by
  obtain ⟨_, _, ⟨_, _⟩, ⟨_, _, _, _, _⟩, _, ⟨_, _, _, _, _⟩⟩ := settings
  obtain ⟨_, _, ⟨_, _⟩, ⟨_, _, _, _, _⟩, _, ⟨_, _, _, _, _⟩⟩ := others
  simp only [all, List.forall_mem_cons, text, natural, choice, flag] at same
  simp only [Settings.mk.injEq, Server.mk.injEq, Database.mk.injEq, Observability.mk.injEq]
  grind

end Setting

/-! ## Two versions -/

namespace Layer

variable {name key text : Text} {value : Value} {layer : Layer}

/-- A layer that gives a value for one key of a section and nothing else. -/
theorem sets_of_inSection (keys : ∀ other, other ≠ name → layer.about other = [])
    (inside : layer.inSection name = [(⟨key, []⟩, value)])
    (sectioned : layer.table.GivesTables name) : Sets ⟨some name, key⟩ value [] layer where
  parts := by simp [partsAt, inside, about]
  keys other different := (keys other different).symm
  entries := by
    rintro _ ⟨⟩ other different
    rw [inside, about_cons, if_neg (different ·.symm)]
    rfl
  sectioned := by
    rintro _ ⟨⟩
    exact sectioned
  sectioned_without _ _ := nofun

theorem sets_path (place : Place) (value : Value) :
    Sets place value [] [(place.path, value)] := by
  obtain ⟨sectionName?, key⟩ := place
  cases sectionName? with
  | none =>
      exact {
        parts := by simp [partsAt, about, Place.path]
        keys := fun other different => by
          rw [about_cons, if_neg different.symm]
          rfl
        entries := nofun
        sectioned := nofun
        sectioned_without := nofun }
  | some name =>
      have keys : ∀ other, other ≠ name → about other [(⟨name, [.entry key]⟩, value)] = [] := by
        intro other different
        rw [about_cons, if_neg different.symm]
        rfl
      refine sets_of_inSection keys (by simp [inSection, ofPart, about, Place.path]) ?_
      simp [table, Table.GivesTables, Table.valuesOf, Place.path, Value.within, Value.modifyAt,
        Value.IsTable]

/-- The section, the key and the text of a layer that gives one text of a section and nothing
else. -/
def sectionText? : Layer → Option (Text × Text × Text)
  | [(⟨name, []⟩, .table [(key, .text text)])] => some (name, key, text)
  | _ => none

theorem sets_of_sectionText? (given : layer.sectionText? = some (name, key, text)) :
    Sets ⟨some name, key⟩ (.text text) [] layer := by
  unfold sectionText? at given
  split at given
  case h_1 =>
    cases given
    refine sets_of_inSection ?_ (by simp [inSection, ofPart, about]) ?_
    · intro other different
      rw [about_cons, if_neg different.symm]
      rfl
    · simp [table, Table.GivesTables, Table.valuesOf, Value.within, Value.modifyAt, Value.IsTable]
  case h_2 => cases given

end Layer

namespace Environment

variable {before after : Environment} {name text : Text}

theorem get?_insert {other : String} (different : name ≠ other.toList) :
    get? (before ++ (name, text) :: after) other = get? (before ++ after) other := by
  simp [get?, List.find?_append, different]

theorem layer_insert {path : Path} (sets : variablePath? name = some path) :
    Environment.layer (before ++ (name, text) :: after) =
      Environment.layer before ++ ([(path, .ofVariable text)] ++ Environment.layer after) := by
  simp [Environment.layer, sets]

end Environment

/-- Whether files set a value at a place, in the one with a name in a directory, and there give
nothing else than other files do. -/
def Files.SetsIn (place : Place) (value : Value) (without files : Files)
    (directory name : Text) : Prop :=
  ∃ layerWithout layer, without.layer? directory name = some layerWithout ∧
    files.layer? directory name = some layer ∧ Layer.Sets place value layerWithout layer

namespace Files

variable {files others : Files} {directory file : Text}

theorem layer?_congr (same : files.configuration? (pathOf directory file) =
      others.configuration? (pathOf directory file)) :
    files.layer? directory file = others.layer? directory file := by
  rw [layer?, layer?, same]

theorem setsIn_of_sectionText? {name key text : Text}
    (absent : files.configuration? (pathOf directory file) = none)
    (given : (others.layer? directory file).bind Layer.sectionText? = some (name, key, text)) :
    SetsIn ⟨some name, key⟩ (.text text) files others directory file := by
  obtain ⟨layer, read, given⟩ := Option.bind_eq_some_iff.mp given
  exact ⟨[], layer, by rw [layer?, absent], read, Layer.sets_of_sectionText? given⟩

end Files

/-- Two versions of what a service is configured with.  The first one gives a text for a place by an
environment variable; the second one is without that variable, gives the text in the file of the
service, and differs in nothing else.  No other variable is about that place. -/
structure IsFileVersion (place : Place) (text service : Text) (environment : Environment)
    (files : Files) (fileEnvironment : Environment) (fileFiles : Files) : Prop where
  exchanged : ∃ before name after, environment = before ++ (name, text) :: after ∧
    fileEnvironment = before ++ after ∧ Text.lower name = place.variableName
  alone : fileEnvironment.layer.LeavesAlone place
  written :
    Files.SetsIn place (.text text) files fileFiles (Settings.directory fileEnvironment) service
  others : ∀ name ∈ ["default".toList, Settings.stage fileEnvironment],
    fileFiles.layer? (Settings.directory fileEnvironment) name =
        files.layer? (Settings.directory fileEnvironment) name ∨
      Files.SetsIn place (.text text) files fileFiles (Settings.directory fileEnvironment) name

namespace Settings

variable {place : Place} {text service : Text} {environment fileEnvironment : Environment}
  {files fileFiles : Files}

theorem layers?_eq_some_iff {layers : List Layer} :
    layers? service files environment = some layers ↔
      ∃ first second third,
        files.layer? (directory environment) "default".toList = some first ∧
        files.layer? (directory environment) (stage environment) = some second ∧
        files.layer? (directory environment) service = some third ∧
        layers = [first, second, third, environment.layer] := by
  simp only [layers?, List.mapM_cons, List.mapM_nil, Option.bind_eq_bind, Option.pure_def]
  cases files.layer? (directory environment) "default".toList <;>
  cases files.layer? (directory environment) (stage environment) <;>
  cases files.layer? (directory environment) service <;>
    simp [eq_comm]

/-- A layer of the second version goes with one of the first version. -/
theorem exists_layer_without {value : Value} {directory name : Text} {layer : Layer}
    (related : fileFiles.layer? directory name = files.layer? directory name ∨
      Files.SetsIn place value files fileFiles directory name)
    (read : fileFiles.layer? directory name = some layer) :
    ∃ without, files.layer? directory name = some without ∧
      ∀ {first second : Table}, first.AgreeBeside place second →
        (without.onto first).AgreeBeside place (layer.onto second) := by
  rcases related with same | ⟨without, written, read_without, read_written, sets⟩
  · exact ⟨layer, same ▸ read, fun agree => agree.onto layer⟩
  · cases read_written.symm.trans read
    exact ⟨without, read_without, fun agree => agree.onto_sets sets⟩

/-- Two tables that differ at the place of a text setting alone, where both have a text, make the
same settings but for this one. -/
theorem ofTable?_of_agreeBeside {standard : Text} {of : Settings → Text}
    (member : Setting.text place standard of ∈ Setting.all) {first second : Table}
    (agree : first.AgreeBeside place second) {value otherValue : Value} {otherText : Text}
    (found : first.at? place = some value) (isText : value.asText? = some text)
    (other_found : second.at? place = some otherValue)
    (other_isText : otherValue.asText? = some otherText)
    {settings : Settings} (read : ofTable? second = some settings) :
    of settings = otherText ∧
      ∃ result, ofTable? first = some result ∧ of result = text ∧
        (∀ other ∈ Setting.all, other.place ≠ place → other.of result = other.of settings) ∧
        (result = settings ↔ text = otherText) := by
  rw [ofTable?_eq_some_iff_readIn?] at read
  have own (root : Table) {value : Value} (found : root.at? place = some value) :
      (Setting.text place standard of).readIn? root = value.asText? :=
    @Setting.readIn?_of_at? (Setting.text place standard of) root value found
  have unchanged : ∀ other ∈ Setting.all, other.place ≠ place →
      other.readIn? first = some (other.of settings) := by
    intro other other_member different
    rw [← read other other_member]
    exact Setting.readIn?_congr member other_member different agree found other_found
  have readable : ∀ other ∈ Setting.all, ∃ result, other.readIn? first = some result := by
    intro other other_member
    by_cases same : other.place = place
    · rw [Setting.eq_of_place_eq other_member member same]
      exact ⟨text, (own first found).trans isText⟩
    · exact ⟨_, unchanged other other_member same⟩
  obtain ⟨result, result_read⟩ := exists_of_results readable
  have of_settings : of settings = otherText :=
    Option.some.inj ((read _ member).symm.trans ((own second other_found).trans other_isText))
  have of_result : of result = text :=
    Option.some.inj ((result_read _ member).symm.trans ((own first found).trans isText))
  have rest_same : ∀ other ∈ Setting.all, other.place ≠ place →
      other.of result = other.of settings := fun other other_member different =>
    Option.some.inj ((result_read other other_member).symm.trans
      (unchanged other other_member different))
  refine ⟨of_settings, result, ofTable?_eq_some_iff_readIn?.mpr result_read, of_result, rest_same,
    ?_⟩
  constructor
  · rintro rfl
    exact of_result.symm.trans of_settings
  · intro same
    refine Setting.eq_of_settings fun other other_member => ?_
    by_cases place_same : other.place = place
    · rw [Setting.eq_of_place_eq other_member member place_same]
      exact of_result.trans (same.trans of_settings.symm)
    · exact rest_same other other_member place_same

/-- The variable of the first version does over a table what the file of the second version has
done already. -/
theorem agreeBeside_environment {before after : Environment} {name : Text}
    (path_eq : variablePath? name = some place.path)
    (alone : (Environment.layer (before ++ after)).LeavesAlone place) {lower upper : Table}
    (agree : lower.AgreeBeside place upper) (given : upper.at? place = some (.text text)) :
    let first := (Environment.layer (before ++ (name, text) :: after)).onto lower
    let second := (Environment.layer (before ++ after)).onto upper
    first.AgreeBeside place second ∧ first.at? place = some (.ofVariable text) ∧
      second.at? place = some (.text text) := by
  have layer_append : Environment.layer (before ++ after) =
      Environment.layer before ++ Environment.layer after := List.filterMap_append
  have sets := Layer.sets_path place (.ofVariable text)
  have alone_after : (Environment.layer after).LeavesAlone place :=
    Layer.LeavesAlone.of_append (layer_append ▸ alone)
  intro first second
  have first_eq : first = (Environment.layer after).onto
      (Layer.onto [(place.path, .ofVariable text)] ((Environment.layer before).onto lower)) := by
    rw [← Layer.onto_append, ← Layer.onto_append, ← Environment.layer_insert path_eq]
  have second_eq : second = (Environment.layer after).onto
      (Layer.onto [] ((Environment.layer before).onto upper)) := by
    rw [← Layer.onto_append, ← Layer.onto_append, List.nil_append, ← layer_append]
  refine ⟨?_, ?_, (alone.at?_onto upper).trans given⟩
  · rw [first_eq, second_eq]
    exact ((agree.onto _).symm.onto_sets sets).symm.onto _
  · rw [first_eq, alone_after.at?_onto]
    exact sets.at?_onto (fun _ => Value.ofVariable_over) _

/-- Below the environment, the tables of two versions differ at the place alone. -/
theorem exists_below_environment {environment fileEnvironment : Environment}
    (stage_eq : stage environment = stage fileEnvironment)
    (directory_eq : directory environment = directory fileEnvironment)
    (version : IsFileVersion place text service environment files fileEnvironment fileFiles)
    {layers : List Layer} (read : layers? service fileFiles fileEnvironment = some layers) :
    ∃ layersWithout lower upper, layers? service files environment = some layersWithout ∧
      stack layersWithout (base service environment) = environment.layer.onto lower ∧
      stack layers (base service fileEnvironment) = fileEnvironment.layer.onto upper ∧
      lower.AgreeBeside place upper ∧ upper.at? place = some (.text text) := by
  obtain ⟨first, second, third, first_read, second_read, third_read, rfl⟩ :=
    layers?_eq_some_iff.mp read
  obtain ⟨firstWithout, first_without, first_agree⟩ :=
    exists_layer_without (version.others _ (by simp)) first_read
  obtain ⟨secondWithout, second_without, second_agree⟩ :=
    exists_layer_without (version.others _ (by simp)) second_read
  obtain ⟨thirdWithout, third_without, third_agree⟩ :=
    exists_layer_without (.inr version.written) third_read
  obtain ⟨_, _, _, written_read, third_sets⟩ := version.written
  cases written_read.symm.trans third_read
  let start := base service fileEnvironment
  refine ⟨[firstWithout, secondWithout, thirdWithout, environment.layer],
    thirdWithout.onto (secondWithout.onto (firstWithout.onto start)),
    third.onto (second.onto (first.onto start)), ?_, ?_, rfl, ?_, ?_⟩
  · rw [layers?_eq_some_iff, stage_eq, directory_eq]
    exact ⟨_, _, _, first_without, second_without, third_without, rfl⟩
  · rw [base, stage_eq]
    rfl
  · exact third_agree (second_agree (first_agree (.refl start)))
  · exact third_sets.at?_onto (fun _ => by rw [Value.over]) _

/-- A text setting that is given by an environment variable, against the same text in the file of
the service: whenever the version with the file can be loaded, so can the one with the variable, and
what is loaded differs only in that the setting has the normal form of the text.  So it is the same
exactly if the text is its own normal form. -/
theorem variable_gives_normal_text {standard : Text} {of : Settings → Text}
    (member : Setting.text place standard of ∈ Setting.all)
    {environment fileEnvironment : Environment}
    (version : IsFileVersion place text service (effective files environment) files
      (effective fileFiles fileEnvironment) fileFiles)
    {settings : Settings} (loaded : load? service fileFiles fileEnvironment = some settings) :
    of settings = text ∧
      ∃ result, load? service files environment = some result ∧
        of result = Value.normalText text ∧
        (∀ other ∈ Setting.all, other.place ≠ place → other.of result = other.of settings) ∧
        (result = settings ↔ Value.normalText text = text) := by
  obtain ⟨before, name, after, environment_eq, fileEnvironment_eq, named⟩ := version.exchanged
  obtain ⟨not_stage, not_directory⟩ := Setting.ne_of_named member named
  have stage_eq : stage (effective files environment) =
      stage (effective fileFiles fileEnvironment) := by
    rw [stage, stage, environment_eq, fileEnvironment_eq, Environment.get?_insert not_stage]
  have directory_eq : directory (effective files environment) =
      directory (effective fileFiles fileEnvironment) := by
    rw [directory, directory, environment_eq, fileEnvironment_eq,
      Environment.get?_insert not_directory]
  rw [load?, Option.bind_eq_bind, Option.bind_eq_some_iff] at loaded
  obtain ⟨layers, layers_read, read⟩ := loaded
  obtain ⟨layersWithout, lower, upper, without_read, lower_eq, upper_eq, agree, given⟩ :=
    exists_below_environment stage_eq directory_eq version layers_read
  have loads_eq : load? service files environment =
      ofTable? ((effective files environment).layer.onto lower) := by
    rw [load?, without_read, ← lower_eq]
    rfl
  have path_eq := Setting.variablePath?_eq member named
  have alone := version.alone
  rw [fileEnvironment_eq] at alone
  obtain ⟨whole_agree, found, other_found⟩ :=
    agreeBeside_environment path_eq alone agree given
  rw [loads_eq, environment_eq]
  rw [upper_eq, fileEnvironment_eq] at read
  exact ofTable?_of_agreeBeside member whole_agree found (Value.asText?_ofVariable text) other_found
    rfl read

/-- A text that reads as a number is written without its exponent. -/
theorem variable_gives_normal_text_of_number :
    let place : Place := ⟨some "server".toList, "host".toList⟩
    let service := "rule-engine".toList
    let files : Files := [("config/default.toml".toList, "[server]\nport = \"many\"\n".toList)]
    let fileFiles :=
      ("config/rule-engine.toml".toList, "[server]\nhost = \"1e3\"\n".toList) :: files
    let fileEnvironment : Environment := [("RULES_SERVER__PORT".toList, "80".toList)]
    let environment := ("RULES_SERVER__HOST".toList, "1e3".toList) :: fileEnvironment
    IsFileVersion place "1e3".toList service (effective files environment) files
      (effective fileFiles fileEnvironment) fileFiles ∧
      ∃ settings result, load? service fileFiles fileEnvironment = some settings ∧
        settings.server.host = "1e3".toList ∧ load? service files environment = some result ∧
        result.server.host = "1000".toList ∧
        ∀ other ∈ Setting.all, other.place ≠ place → other.of result = other.of settings := by
  intro place service files fileFiles fileEnvironment environment
  have member : Setting.text place Server.standard.host (·.server.host) ∈ Setting.all :=
    .tail _ (.tail _ (.head _))
  have normal : Value.normalText "1e3".toList = "1000".toList := by decide +kernel
  have loads : (load? service fileFiles fileEnvironment).isSome := by decide +kernel
  have environment_eq : effective files environment = environment := by decide +kernel
  have fileEnvironment_eq : effective fileFiles fileEnvironment = fileEnvironment := by
    decide +kernel
  have version : IsFileVersion place "1e3".toList service (effective files environment) files
      (effective fileFiles fileEnvironment) fileFiles := by
    rw [environment_eq, fileEnvironment_eq]
    exact {
      exchanged := ⟨[], _, _, rfl, rfl, by decide +kernel⟩
      alone := ⟨List.isEmpty_iff.mp (by decide +kernel), by decide +kernel⟩
      written := Files.setsIn_of_sectionText? (by decide +kernel) (by decide +kernel)
      others := fun name file => .inl <| Files.layer?_congr <| by
        revert name
        decide +kernel }
  clear_value files environment fileFiles fileEnvironment
  obtain ⟨settings, loaded⟩ := Option.isSome_iff_exists.mp loads
  obtain ⟨host_eq, result, result_loaded, result_host_eq, rest_same, -⟩ :=
    variable_gives_normal_text member version loaded
  exact ⟨version, settings, result, loaded, host_eq, result_loaded, result_host_eq.trans normal,
    rest_same⟩

/-- The text of a variable does not come through as it is. -/
theorem variable_is_not_verbatim :
    let service := "rule-engine".toList
    let fileFiles : Files :=
      [("config/rule-engine.toml".toList, "[server]\nhost = \"007\"\n".toList)]
    let environment : Environment := [("RULES_SERVER__HOST".toList, "007".toList)]
    IsFileVersion ⟨some "server".toList, "host".toList⟩ "007".toList service
      (effective [] environment) [] (effective fileFiles []) fileFiles ∧
      (load? service fileFiles []).map (·.server.host) = some "007".toList ∧
      (load? service [] environment).map (·.server.host) = some "7".toList := by
  intro service fileFiles environment
  have environment_eq : effective [] environment = environment := by decide +kernel
  have fileEnvironment_eq : effective fileFiles [] = [] := by decide +kernel
  refine ⟨?_, by decide +kernel, by decide +kernel⟩
  rw [environment_eq, fileEnvironment_eq]
  exact {
    exchanged := ⟨[], _, [], rfl, rfl, by decide +kernel⟩
    alone := ⟨rfl, nofun⟩
    written := Files.setsIn_of_sectionText? (by decide +kernel) (by decide +kernel)
    others := fun name file => .inl <| Files.layer?_congr <| by
      revert name
      decide +kernel }

end Settings

end Rulebook.Config
