import Rulebook.Proofs.Layering

/-!
# Settings follow the last layer

Each setting is decided at its own place: by the last layer that gives a value there, whatever the
layers before it give and whatever stands at other places.  Settings that name one of several
choices are the exception, since a table with one entry names a choice as well and tables are
merged.
-/

namespace Rulebook.Config

namespace Value

variable {value upper lower : Value}

theorem asText?_outline : value.outline.asText? = value.asText? := by
  cases value <;> rfl

theorem asNat?_outline {greatest : Nat} :
    value.outline.asNat? greatest = value.asNat? greatest := by
  cases value <;> rfl

theorem asFlag?_outline : value.outline.asFlag? = value.asFlag? := by
  cases value <;> rfl

theorem asName?_outline : value.outline.asName? = value.asName? := by
  match value with
  | .table [] | .table [_] | .table (_ :: _ :: _) => rfl
  | .nothing | .text _ | .integer _ | .float _ | .flag _ | .list _ => rfl

theorem asText?_over : (upper.over lower).asText? = upper.asText? := by
  cases upper with
  | table entries => rw [table_over]; rfl
  | _ => rfl

theorem asNat?_over {greatest : Nat} :
    (upper.over lower).asNat? greatest = upper.asNat? greatest := by
  cases upper with
  | table entries => rw [table_over]; rfl
  | _ => rfl

theorem asFlag?_over : (upper.over lower).asFlag? = upper.asFlag? := by
  cases upper with
  | table entries => rw [table_over]; rfl
  | _ => rfl

end Value

/-- A setting: where it stands, how its values are read, what it is if it is not given, and which of
the settings of a service it is. -/
structure Setting where
  place : Place
  Result : Type
  read? : Value → Option Result
  standard : Result
  of : Settings → Result
  /-- Whether it names one of several choices. A table may do so, too. -/
  isChoice : Bool
  read_outline (value : Value) : read? value.outline = read? value
  read_over (upper lower : Value) : isChoice = false → read? (upper.over lower) = read? upper

namespace Setting

def text (place : Place) (standard : Text) (of : Settings → Text) : Setting where
  place
  Result := Text
  read? := Value.asText?
  standard
  of
  isChoice := false
  read_outline _ := Value.asText?_outline
  read_over _ _ _ := Value.asText?_over

/-- A setting that is a natural number. -/
def natural (place : Place) (greatest standard : Nat) (of : Settings → Nat) : Setting where
  place
  Result := Nat
  read? := Value.asNat? greatest
  standard
  of
  isChoice := false
  read_outline _ := Value.asNat?_outline
  read_over _ _ _ := Value.asNat?_over

def flag (place : Place) (standard : Bool) (of : Settings → Bool) : Setting where
  place
  Result := Bool
  read? := Value.asFlag?
  standard
  of
  isChoice := false
  read_outline _ := Value.asFlag?_outline
  read_over _ _ _ := Value.asFlag?_over

/-- A setting that names one of several choices. -/
def choice {α : Type} (place : Place) (ofName? : Text → Option α) (standard : α)
    (of : Settings → α) : Setting where
  place
  Result := α
  read? value := value.asName? >>= ofName?
  standard
  of
  isChoice := true
  read_outline value := by rw [Value.asName?_outline]
  read_over _ _ := nofun

def all : List Setting :=
  let root (key : String) : Place := ⟨none, key.toList⟩
  let server (key : String) : Place := ⟨some "server".toList, key.toList⟩
  let database (key : String) : Place := ⟨some "database".toList, key.toList⟩
  let storage (key : String) : Place := ⟨some "storage".toList, key.toList⟩
  let observability (key : String) : Place := ⟨some "observability".toList, key.toList⟩
  [text (root "service_name") [] (·.serviceName),
    text (root "environment") [] (·.environment),
    text (server "host") Server.standard.host (·.server.host),
    natural (server "port") maxPort Server.standard.port (·.server.port),
    text (database "url") Database.standard.url (·.database.url),
    natural (database "max_connections") maxConnectionLimit Database.standard.maxConnections
      (·.database.maxConnections),
    natural (database "min_connections") maxConnectionLimit Database.standard.minConnections
      (·.database.minConnections),
    natural (database "connect_timeout_seconds") maxSeconds
      Database.standard.connectTimeoutSeconds (·.database.connectTimeoutSeconds),
    natural (database "idle_timeout_seconds") maxSeconds Database.standard.idleTimeoutSeconds
      (·.database.idleTimeoutSeconds),
    choice (storage "backend") Backend.ofName? .memory (·.backend),
    text (observability "service_name") Observability.standard.serviceName
      (·.observability.serviceName),
    text (observability "log_level") Observability.standard.logLevel (·.observability.logLevel),
    choice (observability "log_format") Log.Format.ofName? Observability.standard.logFormat
      (·.observability.logFormat),
    flag (observability "metrics_enabled") Observability.standard.metricsEnabled
      (·.observability.metricsEnabled),
    natural (observability "metrics_port") maxPort Observability.standard.metricsPort
      (·.observability.metricsPort)]

def sections : List Text :=
  ["server".toList, "database".toList, "storage".toList, "observability".toList]

/-- What a setting becomes, given the value for it if there is any. -/
def result? (setting : Setting) : Option Value → Option setting.Result
  | none => some setting.standard
  | some value => setting.read? value

/-- The value that decides a setting: the last one that the tables give, or for a choice all of them
merged. -/
def deciding? (setting : Setting) (tables : List Table) : Option Value :=
  let given := tables.flatMap (·.valuesAt setting.place)
  if setting.isChoice then Value.merged given else given.getLast?

variable {setting : Setting}

theorem result?_map_outline {value : Option Value} :
    setting.result? (value.map Value.outline) = setting.result? value := by
  cases value with
  | none => rfl
  | some value => exact setting.read_outline value

theorem result?_congr {first second : Option Value}
    (same : first.map Value.outline = second.map Value.outline) :
    setting.result? first = setting.result? second := by
  rw [← result?_map_outline, same, result?_map_outline]

theorem result?_merged {values : List Value} (isScalar : setting.isChoice = false) :
    setting.result? (Value.merged values) = setting.result? values.getLast? := by
  rcases List.eq_nil_or_concat values with rfl | ⟨before, last, rfl⟩
  · rfl
  · rw [List.concat_eq_append, List.getLast?_concat, Value.merged_concat]
    exact setting.read_over last _ isScalar

theorem result?_deciding? {tables : List Table} :
    setting.result? (setting.deciding? tables) =
      setting.result? (Value.merged (tables.flatMap (·.valuesAt setting.place))) := by
  unfold deciding?
  cases decides : setting.isChoice with
  | true => rfl
  | false => exact (result?_merged decides).symm

theorem mem_sections {setting : Setting} (member : setting ∈ all) {name : Text}
    (section_eq : setting.place.sectionName? = some name) : name ∈ sections := by
  have all_places : ∀ place ∈ all.map Setting.place,
      ∀ name ∈ place.sectionName?, name ∈ sections := by
    decide
  exact all_places _ (List.mem_map_of_mem member) name section_eq

/-- The keys of a section, in their order. -/
def keysOf (name : Text) : List Text :=
  (all.filter fun setting => setting.place.sectionName? = some name).map fun setting =>
    setting.place.key

end Setting

namespace Table

/-- The table of a section.  A list gives the settings of the section in their order. -/
def named? (root : Table) (name : Text) : Option Table :=
  match root.get? name with
  | none => some []
  | some (.table entries) => some entries
  | some (.list elements) => some ((Setting.keysOf name).zip elements)
  | some _ => none

theorem section?_eq_named? {root : Table} {key : String} {settings : List String}
    (keys_eq : Setting.keysOf key.toList = settings.map String.toList) :
    root.section? key settings = root.named? key.toList := by
  unfold named?
  rw [keys_eq]
  rfl

/-- Whether the value of a key is a table if there is any. -/
def IsSection (table : Table) (key : Text) : Prop :=
  ∀ value, table.get? key = some value → value.IsTable

theorem named?_eq {root : Table} {name : Text} (isSection : root.IsSection name) :
    root.named? name = some (root.value name).entries := by
  unfold named? Table.value
  cases found : root.get? name with
  | none => rfl
  | some value =>
      obtain ⟨entries, rfl⟩ := isSection value found
      rfl

theorem setting?_eq {table : Table} {key : String} {setting : Setting} :
    table.setting? key setting.read? setting.standard =
      setting.result? (table.get? key.toList) := by
  unfold setting? Setting.result?
  cases table.get? key.toList <;> rfl

end Table

namespace Setting

def readIn? (setting : Setting) (root : Table) : Option setting.Result :=
  match setting.place.sectionName? with
  | none => setting.result? (root.get? setting.place.key)
  | some name =>
      (root.named? name).bind fun table => setting.result? (table.get? setting.place.key)

theorem readIn?_eq {setting : Setting} {root : Table}
    (isSection : ∀ name ∈ setting.place.sectionName?, root.IsSection name) :
    setting.readIn? root = setting.result? (root.at? setting.place) := by
  unfold readIn? Table.at?
  cases found : setting.place.sectionName? with
  | none => rfl
  | some name =>
      dsimp only
      rw [Table.named?_eq (isSection name found), Option.bind_some]

end Setting

/-! ## Sections -/

def Table.settingIn? {α : Type} (root : Table) (name key : String) (read? : Value → Option α)
    (standard : α) : Option α :=
  (root.named? name.toList).bind fun table => table.setting? key read? standard

variable {root : Table}

namespace Server

theorem ofTable?_eq_some_iff {server : Server} :
    ofTable? root = some server ↔
      root.settingIn? "server" "host" Value.asText? standard.host = some server.host ∧
        root.settingIn? "server" "port" (Value.asNat? maxPort) standard.port =
          some server.port := by
  have keys : Setting.keysOf "server".toList = ["host", "port"].map String.toList := rfl
  obtain ⟨host, port⟩ := server
  simp only [Table.settingIn?]
  rw [ofTable?, Table.section?_eq_named? keys]
  cases root.named? "server".toList with
  | none => simp
  | some table =>
      simp only [Option.bind_eq_bind, Option.bind_some, Option.bind_eq_some_iff, Option.some.injEq,
        mk.injEq]
      grind

end Server

namespace Database

theorem ofTable?_eq_some_iff {database : Database} :
    ofTable? root = some database ↔
      root.settingIn? "database" "url" Value.asText? standard.url = some database.url ∧
        root.settingIn? "database" "max_connections" (Value.asNat? maxConnectionLimit)
          standard.maxConnections = some database.maxConnections ∧
        root.settingIn? "database" "min_connections" (Value.asNat? maxConnectionLimit)
          standard.minConnections = some database.minConnections ∧
        root.settingIn? "database" "connect_timeout_seconds" (Value.asNat? maxSeconds)
          standard.connectTimeoutSeconds = some database.connectTimeoutSeconds ∧
        root.settingIn? "database" "idle_timeout_seconds" (Value.asNat? maxSeconds)
          standard.idleTimeoutSeconds = some database.idleTimeoutSeconds := by
  have keys : Setting.keysOf "database".toList = ["url", "max_connections", "min_connections",
      "connect_timeout_seconds", "idle_timeout_seconds"].map String.toList := rfl
  obtain ⟨url, maximum, minimum, connect, idle⟩ := database
  simp only [Table.settingIn?]
  rw [ofTable?, Table.section?_eq_named? keys]
  cases root.named? "database".toList with
  | none => simp
  | some table =>
      simp only [Option.bind_eq_bind, Option.bind_some, Option.bind_eq_some_iff, Option.some.injEq,
        mk.injEq]
      grind

end Database

theorem Backend.ofTable?_eq :
    ofTable? root =
      root.settingIn? "storage" "backend" (fun value => value.asName? >>= ofName?) .memory := by
  have keys : Setting.keysOf "storage".toList = ["backend"].map String.toList := rfl
  rw [ofTable?, Table.section?_eq_named? keys]
  rfl

theorem observability?_eq_some_iff {observability : Observability} :
    observability? root = some observability ↔
      root.settingIn? "observability" "service_name" Value.asText?
          Observability.standard.serviceName = some observability.serviceName ∧
        root.settingIn? "observability" "log_level" Value.asText?
          Observability.standard.logLevel = some observability.logLevel ∧
        root.settingIn? "observability" "log_format"
          (fun value => value.asName? >>= Log.Format.ofName?)
          Observability.standard.logFormat = some observability.logFormat ∧
        root.settingIn? "observability" "metrics_enabled" Value.asFlag?
          Observability.standard.metricsEnabled = some observability.metricsEnabled ∧
        root.settingIn? "observability" "metrics_port" (Value.asNat? maxPort)
          Observability.standard.metricsPort = some observability.metricsPort := by
  have keys : Setting.keysOf "observability".toList = ["service_name", "log_level", "log_format",
      "metrics_enabled", "metrics_port"].map String.toList := rfl
  obtain ⟨serviceName, logLevel, logFormat, metricsEnabled, metricsPort⟩ := observability
  simp only [Table.settingIn?]
  rw [observability?, Table.section?_eq_named? keys]
  cases root.named? "observability".toList with
  | none => simp
  | some table =>
      simp only [Option.bind_eq_bind, Option.bind_some, Option.bind_eq_some_iff, Option.some.injEq,
        Observability.mk.injEq]
      grind

namespace Settings

theorem ofTable?_eq_some_iff_sections {settings : Settings} :
    ofTable? root = some settings ↔
      root.setting? "service_name" Value.asText? [] = some settings.serviceName ∧
        root.setting? "environment" Value.asText? [] = some settings.environment ∧
        Server.ofTable? root = some settings.server ∧
        Database.ofTable? root = some settings.database ∧
        Backend.ofTable? root = some settings.backend ∧
        observability? root = some settings.observability := by
  obtain ⟨serviceName, environment, server, database, backend, observability⟩ := settings
  simp only [ofTable?, Option.bind_eq_bind, Option.bind_eq_some_iff, Option.some.injEq, mk.injEq]
  grind

theorem ofTable?_eq_some_iff_readIn? {settings : Settings} :
    ofTable? root = some settings ↔
      ∀ setting ∈ Setting.all, setting.readIn? root = some (setting.of settings) := by
  rw [ofTable?_eq_some_iff_sections, Server.ofTable?_eq_some_iff, Database.ofTable?_eq_some_iff,
    Backend.ofTable?_eq, observability?_eq_some_iff]
  simp only [Setting.all, List.forall_mem_cons, List.not_mem_nil, false_implies, implies_true,
    and_true]
  simp only [Setting.readIn?, Setting.text, Setting.natural, Setting.flag, Setting.choice]
  simp only [← Table.setting?_eq, Table.settingIn?, and_assoc]

theorem ofTable?_eq_some_iff {settings : Settings}
    (sectioned : ∀ name ∈ Setting.sections, root.IsSection name) :
    ofTable? root = some settings ↔
      ∀ setting ∈ Setting.all,
        setting.result? (root.at? setting.place) = some (setting.of settings) := by
  rw [ofTable?_eq_some_iff_readIn?]
  refine forall₂_congr fun setting member => ?_
  rw [Setting.readIn?_eq fun name found => sectioned name (Setting.mem_sections member found)]

theorem exists_of_results {result? : (setting : Setting) → Option setting.Result}
    (read : ∀ setting ∈ Setting.all, ∃ result, result? setting = some result) :
    ∃ settings, ∀ setting ∈ Setting.all, result? setting = some (setting.of settings) := by
  simp only [Setting.all, List.forall_mem_cons] at read ⊢
  obtain ⟨⟨serviceName, serviceName_read⟩, ⟨environment, environment_read⟩, ⟨host, host_read⟩,
    ⟨port, port_read⟩, ⟨url, url_read⟩, ⟨maximum, maximum_read⟩, ⟨minimum, minimum_read⟩,
    ⟨connect, connect_read⟩, ⟨idle, idle_read⟩, ⟨backend, backend_read⟩, ⟨ownName, ownName_read⟩,
    ⟨level, level_read⟩, ⟨format, format_read⟩, ⟨enabled, enabled_read⟩,
    ⟨metricsPort, metricsPort_read⟩, _⟩ := read
  exact ⟨⟨serviceName, environment, ⟨host, port⟩, ⟨url, maximum, minimum, connect, idle⟩, backend,
    ⟨ownName, level, format, enabled, metricsPort⟩⟩, serviceName_read, environment_read, host_read,
    port_read, url_read, maximum_read, minimum_read, connect_read, idle_read, backend_read,
    ownName_read, level_read, format_read, enabled_read, metricsPort_read, nofun⟩

end Settings

/-- Whether a text is a plain key: as the name of a setting, it is no path. -/
def Path.IsPlain (key : Text) : Prop :=
  ofName key = ⟨key, []⟩

instance : DecidablePred Path.IsPlain := fun key =>
  inferInstanceAs (Decidable (Path.ofName key = ⟨key, []⟩))

theorem Layer.table_ofSettings {settings : Table}
    (plain : ∀ entry ∈ settings, Path.IsPlain entry.1) :
    (Layer.ofSettings settings).table = settings := by
  rw [table, ofSettings, List.map_map]
  refine (List.map_congr_left fun entry member => ?_).trans (List.map_id settings)
  obtain ⟨name, value⟩ := entry
  have name_eq : Path.ofName name = ⟨name, []⟩ := plain (name, value) member
  dsimp only [Function.comp_apply]
  rw [name_eq]
  rfl

namespace Files

/-- The table of the configuration file with a name in a directory. -/
def table? (files : Files) (directory name : Text) : Option Table :=
  match files.configuration? (pathOf directory name) with
  | none => some []
  | some (format, text) => format.read? (Text.dropMark text)

theorem layer?_eq {files : Files} {directory name : Text} :
    files.layer? directory name = (files.table? directory name).map Layer.ofSettings := by
  unfold layer? table?
  cases files.configuration? (pathOf directory name) <;> rfl

end Files

namespace Settings

variable {service : Text} {files : Files} {environment : Environment}

/-- The tables of the configuration files, the lowest one first. -/
def fileTables? (service : Text) (files : Files) (environment : Environment) :
    Option (List Table) :=
  ["default".toList, stage environment, service].mapM (files.table? (directory environment))

theorem layers?_eq :
    layers? service files environment =
      (fileTables? service files environment).map fun tables =>
        tables.map Layer.ofSettings ++ [environment.layer] := by
  unfold layers? fileTables?
  simp only [List.mapM_cons, List.mapM_nil, Files.layer?_eq]
  cases files.table? (directory environment) "default".toList <;>
  cases files.table? (directory environment) (stage environment) <;>
  cases files.table? (directory environment) service <;> rfl

variable {fileTables : List Table}

/-- The tables of all layers, the lowest one first: what is known beforehand, those of the files,
and that of the environment. -/
def layerTables (service : Text) (environment : Environment) (fileTables : List Table) :
    List Table :=
  base service environment :: fileTables ++ [environment.layer.table]

/-- All layers, given the tables of the files. -/
def layersOf (service : Text) (environment : Environment) (fileTables : List Table) : List Layer :=
  Layer.ofSettings (base service environment) ::
    fileTables.map Layer.ofSettings ++ [environment.layer]

theorem map_table_layersOf
    (plain : ∀ table ∈ fileTables, ∀ entry ∈ table, Path.IsPlain entry.1) :
    (layersOf service environment fileTables).map Layer.table =
      layerTables service environment fileTables := by
  have files_eq : (fileTables.map Layer.ofSettings).map Layer.table = fileTables := by
    rw [List.map_map]
    refine (List.map_congr_left fun table member => ?_).trans (List.map_id fileTables)
    exact Layer.table_ofSettings (plain table member)
  rw [layersOf, layerTables, List.cons_append, List.map_cons, List.map_append, files_eq]
  rfl

/-- Loading reads the stack of all layers. -/
theorem load?_eq
    (read : fileTables? service files (effective files environment) = some fileTables) :
    load? service files environment =
      ofTable? (stack (layersOf service (effective files environment) fileTables) []) := by
  rw [load?, layers?_eq, read]
  rfl

end Settings

/-! ## Deciding values -/

namespace Place

/-- The name of the environment variable for a place, in lower case. -/
def variableName (place : Place) : Text :=
  "rules_".toList ++ (place.sectionName?.map (· ++ "__".toList)).getD [] ++ place.key

def path (place : Place) : Path :=
  match place.sectionName? with
  | none => ⟨place.key, []⟩
  | some name => ⟨name, [.entry place.key]⟩

theorem valuesAt_within_path {place : Place} {value : Value} :
    Table.valuesAt place [(place.path.key, value.within place.path.steps)] = [value] := by
  obtain ⟨sectionName?, key⟩ := place
  cases sectionName? <;>
    simp [Table.valuesAt, Table.valuesOf, path, Value.within, Value.modifyAt, Value.entries,
      Table.set]

end Place

namespace Setting

/-- An environment variable with the name for a setting sets the path to its place. -/
theorem variablePath?_eq {setting : Setting} (member : setting ∈ all) {name : Text}
    (named : Text.lower name = setting.place.variableName) :
    variablePath? name = some setting.place.path := by
  have all_places : ∀ place ∈ all.map Setting.place,
      (Text.after? "rules_".toList place.variableName).map
        (fun key => Path.ofName (pointLevels key)) = some place.path := by
    decide +kernel
  rw [variablePath?, named]
  exact all_places _ (List.mem_map_of_mem member)

/-- An environment variable with the name for a setting gives its value there. -/
theorem valuesAt_layer {setting : Setting} (member : setting ∈ all) {name text : Text}
    (named : Text.lower name = setting.place.variableName) :
    (Environment.layer [(name, text)]).table.valuesAt setting.place = [.ofVariable text] := by
  have layer_eq : Environment.layer [(name, text)] = [(setting.place.path, .ofVariable text)] := by
    simp [Environment.layer, variablePath?_eq member named]
  rw [layer_eq]
  exact Place.valuesAt_within_path

end Setting

theorem Value.ofVariable_over {text : Text} {lower : Value} :
    (ofVariable text).over lower = ofVariable text := by
  unfold ofVariable
  split
  · rw [Value.over]
  · split
    · rw [Value.over]
    · split
      · rw [Value.over]
      · split <;> rw [Value.over]

namespace Settings

variable {service : Text} {environment : Environment} {fileTables : List Table}

theorem result?_of_variable {setting : Setting} (member : setting ∈ Setting.all)
    {before after : Environment} {name text : Text}
    (environment_eq : environment = before ++ (name, text) :: after)
    (named : Text.lower name = setting.place.variableName)
    (last : (Environment.layer after).table.valuesAt setting.place = []) :
    setting.result? (setting.deciding? (layerTables service environment fileTables)) =
      setting.read? (.ofVariable text) := by
  have table_eq : environment.layer.table = (Environment.layer before).table ++
      ((Environment.layer [(name, text)]).table ++ (Environment.layer after).table) := by
    rw [environment_eq, ← List.singleton_append, Environment.layer, List.filterMap_append,
      List.filterMap_append, Layer.table, List.map_append, List.map_append]
    rfl
  rw [Setting.result?_deciding?, layerTables, List.flatMap_append, List.flatMap_singleton, table_eq,
    Table.valuesAt_append, Table.valuesAt_append, last, Setting.valuesAt_layer member named,
    List.append_nil, ← List.append_assoc, Value.merged_concat, Value.ofVariable_over]
  rfl

/-- The result of each setting of a stack of layers is the one that the layers decide, if they give
nothing but tables for the sections. -/
theorem result?_at?_stack {layers : List Layer}
    (sectioned : ∀ name ∈ Setting.sections, ∀ layer ∈ layers, layer.table.GivesTables name)
    {setting : Setting} (member : setting ∈ Setting.all) :
    setting.result? ((stack layers []).at? setting.place) =
      setting.result? (setting.deciding? (layers.map Layer.table)) := by
  rw [Setting.result?_deciding?, List.flatMap_map]
  refine Setting.result?_congr (outline_at?_stack fun name found => ?_)
  exact sectioned name (Setting.mem_sections member found)

theorem ofTable?_stack_eq_some_iff {layers : List Layer} {settings : Settings}
    (sectioned : ∀ name ∈ Setting.sections, ∀ layer ∈ layers, layer.table.GivesTables name) :
    ofTable? (stack layers []) = some settings ↔
      ∀ setting ∈ Setting.all,
        setting.result? (setting.deciding? (layers.map Layer.table)) =
          some (setting.of settings) := by
  rw [ofTable?_eq_some_iff fun name member value => isTable_of_get?_stack (sectioned name member)]
  exact forall₂_congr fun setting member => by rw [result?_at?_stack sectioned member]

theorem ofTable?_stack_eq_none_iff {layers : List Layer}
    (sectioned : ∀ name ∈ Setting.sections, ∀ layer ∈ layers, layer.table.GivesTables name) :
    ofTable? (stack layers []) = none ↔
      ∃ setting ∈ Setting.all,
        setting.result? (setting.deciding? (layers.map Layer.table)) = none := by
  constructor
  · intro failed
    apply Classical.byContradiction
    intro readable
    obtain ⟨settings, accepted⟩ := exists_of_results fun setting member =>
      Option.ne_none_iff_exists'.mp fun refused => readable ⟨setting, member, refused⟩
    rw [(ofTable?_stack_eq_some_iff sectioned).mpr accepted] at failed
    cases failed
  · rintro ⟨setting, member, refused⟩
    rw [Option.eq_none_iff_forall_ne_some]
    intro settings loaded
    rw [(ofTable?_stack_eq_some_iff sectioned).mp loaded setting member] at refused
    cases refused

/-- Each setting follows the last layer.

The layers are what is known beforehand, the configuration files `default`, that of the stage and
that of the service, and the environment variables.  If the keys of the files are plain, and what a
layer gives for a section is a table, then a setting is what the last layer that gives a value at
its place says, or its standard value; for a choice, a table is merged with the tables before.
Loading fails if a file cannot be read, or if the value that decides some setting cannot.  The last
environment variable for a setting decides it. -/
theorem load_follows_last_layers (service : Text) (files : Files) (environment : Environment) :
    let whole := effective files environment
    match fileTables? service files whole with
    | none => load? service files environment = none
    | some fileTables =>
        (∀ table ∈ fileTables, ∀ entry ∈ table, Path.IsPlain entry.1) →
        (∀ table ∈ layerTables service whole fileTables, ∀ name ∈ Setting.sections,
          table.GivesTables name) →
        (∀ settings, load? service files environment = some settings ↔
          ∀ setting ∈ Setting.all,
            setting.result? (setting.deciding? (layerTables service whole fileTables)) =
              some (setting.of settings)) ∧
        (load? service files environment = none ↔
          ∃ setting ∈ Setting.all,
            setting.result? (setting.deciding? (layerTables service whole fileTables)) =
              none) ∧
        ∀ setting ∈ Setting.all, ∀ before name text after,
          whole = before ++ (name, text) :: after →
            Text.lower name = setting.place.variableName →
            (Environment.layer after).table.valuesAt setting.place = [] →
            setting.result? (setting.deciding? (layerTables service whole fileTables)) =
              setting.read? (.ofVariable text) := by
  intro whole
  cases read : fileTables? service files whole with
  | none => rw [load?, layers?_eq, read]; rfl
  | some fileTables =>
      intro plain sectioned
      have tables_eq : (layersOf service whole fileTables).map Layer.table =
          layerTables service whole fileTables := map_table_layersOf plain
      have sectioned_layers : ∀ name ∈ Setting.sections,
          ∀ layer ∈ layersOf service whole fileTables, layer.table.GivesTables name := by
        intro name name_member layer member
        refine sectioned layer.table ?_ name name_member
        rw [← tables_eq]
        exact List.mem_map_of_mem member
      refine ⟨?_, ?_, fun setting member _ _ _ _ => result?_of_variable member⟩
      · rw [load?_eq read, ← tables_eq]
        exact fun settings => ofTable?_stack_eq_some_iff sectioned_layers
      · rw [load?_eq read, ← tables_eq]
        exact ofTable?_stack_eq_none_iff sectioned_layers

/-- A port that cannot be read does not count below another one. -/
theorem load_follows_last_layers_above_unreadable_port :
    let files : Files :=
      [("config/default.toml".toList,
          "server = \x7bhost = \"here\", port = \"many\"\x7d".toList),
        ("config/development.toml".toList, "server.port = \"80\"".toList)]
    let environment : Environment := [("RULES_SERVER__HOST".toList, "there".toList)]
    ∃ fileTables settings,
      fileTables? [] files (effective files environment) = some fileTables ∧
      load? [] files environment = some settings ∧ settings.server = ⟨"there".toList, 80⟩ ∧
      ∀ setting ∈ Setting.all,
        setting.result?
          (setting.deciding? (layerTables [] (effective files environment) fileTables)) =
            some (setting.of settings) := by
  intro files environment
  have regular : ∀ fileTables ∈ fileTables? [] files (effective files environment),
      (∀ table ∈ fileTables, ∀ entry ∈ table, Path.IsPlain entry.1) ∧
        ∀ table ∈ layerTables [] (effective files environment) fileTables,
          ∀ name ∈ Setting.sections, table.GivesTables name := by
    decide +kernel
  have reads : (fileTables? [] files (effective files environment)).isSome := by decide +kernel
  have loads : (load? [] files environment).map server = some ⟨"there".toList, 80⟩ := by
    decide +kernel
  clear_value files environment
  obtain ⟨fileTables, read⟩ := Option.isSome_iff_exists.mp reads
  obtain ⟨settings, loaded, server_eq⟩ := Option.map_eq_some_iff.mp loads
  obtain ⟨plain, sectioned⟩ := regular fileTables read
  have follows := load_follows_last_layers [] files environment
  dsimp only at follows
  rw [read] at follows
  exact ⟨fileTables, settings, read, loaded, server_eq,
    ((follows plain sectioned).1 settings).mp loaded⟩

/-- A table for a choice is merged with the table below: the last one names nothing on its own. -/
theorem choice_of_merged_tables :
    let service := "rule-engine".toList
    let files : Files :=
      [("config/default.toml".toList, "[storage.backend]\nmemory = 1\n".toList),
        ("config/rule-engine.toml".toList, "[storage]\nbackend = \x7b\x7d\n".toList)]
    ∃ fileTables, fileTables? service files (effective files []) = some fileTables ∧
      (∀ table ∈ fileTables, ∀ entry ∈ table, Path.IsPlain entry.1) ∧
      (∀ table ∈ layerTables service (effective files []) fileTables, ∀ name ∈ Setting.sections,
        table.GivesTables name) ∧
      (load? service files []).map backend = some .memory ∧
      ∃ setting ∈ Setting.all,
        let given := (layerTables service (effective files []) fileTables).flatMap
          (·.valuesAt setting.place)
        (setting.result? given.getLast?).isNone := by
  intro service files
  have regular : ∀ fileTables ∈ fileTables? service files (effective files []),
      (∀ table ∈ fileTables, ∀ entry ∈ table, Path.IsPlain entry.1) ∧
        ∀ table ∈ layerTables service (effective files []) fileTables, ∀ name ∈ Setting.sections,
          table.GivesTables name := by
    decide +kernel
  have reads : (fileTables? service files (effective files [])).isSome := by decide +kernel
  have loads : (load? service files []).map backend = some .memory := by decide +kernel
  have refused : ∀ fileTables ∈ fileTables? service files (effective files []),
      let given := (layerTables service (effective files []) fileTables).flatMap
        (·.valuesAt (Setting.all[9]).place)
      ((Setting.all[9]).result? given.getLast?).isNone := by
    decide +kernel
  clear_value files service
  obtain ⟨fileTables, read⟩ := Option.isSome_iff_exists.mp reads
  obtain ⟨plain, sectioned⟩ := regular fileTables read
  exact ⟨fileTables, read, plain, sectioned, loads, _, List.getElem_mem _, refused fileTables read⟩

end Settings

end Rulebook.Config
