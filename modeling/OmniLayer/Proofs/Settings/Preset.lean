import OmniLayer.Proofs.Settings
import OmniLayer.Proofs.Settings.Agreement

/-! # A preset that is chosen beside a file

A preset that is chosen replaces the one in the settings after these were loaded, and settings are
loaded only if their network is accepted as it stands. Files that differ in nothing but their preset
therefore lead to the same settings, and to the same runs, wherever both can be loaded; a file whose
own preset is refused stops the choice even where the chosen one would be accepted. -/

namespace OmniLayer

open Setting SettingsChoice

/-! ## Settings that are the same but for the preset -/

namespace Setting

variable {path : List String} {key first : String} {fs gs : List (String × Setting)}

/-- Under any other key than the first of the path there is the same. -/
theorem SameFields.find?_eq_of_ne (h : SameFields (first :: path) fs gs)
    (hkey : Text.lower key = key) (hne : key ≠ first) :
    Setting.find? key fs = Setting.find? key gs := by
  have hrel := h.find? hkey
  generalize Setting.find? key fs = a, Setting.find? key gs = b at hrel ⊢
  cases hrel with
  | none => rfl
  | some hvw => rw [hvw.eq_of_ne hne]

end Setting

namespace Settings

section Sections

variable (name shape : String) (size index : Nat) {first field : String} {v w : Setting}

/-- Sections that are the same but for one field have the same other fields. -/
theorem Section.field?_congr (h : SameBut [first] v w) (hfield : Text.lower field = field)
    (hne : field ≠ first) :
    Section.field? ⟨name, shape, size, v⟩ field index
      = Section.field? ⟨name, shape, size, w⟩ field index := by
  have hfields := h.fields
  obtain rfl | ⟨fs, gs, rfl, rfl, -⟩ := h
  · rfl
  · have hfind : Setting.find? field fs = Setting.find? field gs :=
      hfields.find?_eq_of_ne hfield hne
    simp only [Section.field?, hfind]

/-- Sections that are the same but for the text of a field fail alike to have it, or both have it,
with one text and another. -/
theorem Section.required_toText? (h : SameBut [field] v w) (hfield : Text.lower field = field) :
    Section.required ⟨name, shape, size, v⟩ toText? field index
        = Section.required ⟨name, shape, size, w⟩ toText? field index ∨
      ∃ s t, Section.required ⟨name, shape, size, v⟩ toText? field index = .ok s ∧
        Section.required ⟨name, shape, size, w⟩ toText? field index = .ok t := by
  have hfields := h.fields
  obtain rfl | ⟨fs, gs, rfl, rfl, -⟩ := h
  · exact .inl rfl
  have hrel := hfields.find? hfield
  simp only [Section.required, Section.field?, Setting.fields] at hrel ⊢
  generalize Setting.find? field fs = a, Setting.find? field gs = b at hrel ⊢
  cases hrel with
  | none => exact .inl rfl
  | some hvw =>
    obtain rfl | ⟨s, t, rfl, rfl⟩ := sameUnder_cons_self_iff.1 hvw
    · exact .inl rfl
    · exact .inr ⟨s, t, rfl, rfl⟩

/-- A result is what it is with its own preset. -/
theorem exists_preset_eq_map (r : Except SettingsError NetworkSettings) :
    ∃ preset, r = (fun network : NetworkSettings => { network with preset := preset }) <$> r := by
  cases r with
  | error e => exact ⟨"", rfl⟩
  | ok network => exact ⟨network.preset, rfl⟩

/-- Network sections that are the same but for the preset are read as settings that are. -/
theorem networkOf_sameBut (h : SameBut ["preset"] v w) :
    ∃ preset, networkOf ⟨name, shape, size, w⟩ =
      (fun network : NetworkSettings => { network with preset := preset }) <$>
        networkOf ⟨name, shape, size, v⟩ := by
  -- Every field but the first stands under another key, where both sections have the same.
  have hoptional {α : Type} (convert : Setting → Option α) (field : String) (index : Nat)
      (hfield : Text.lower field = field ∧ field ≠ "preset") :
      Section.optional ⟨name, shape, size, w⟩ convert field index
        = Section.optional ⟨name, shape, size, v⟩ convert field index := by
    rw [Section.optional, Section.optional,
      Section.field?_congr name shape size index h hfield.1 hfield.2]
  have hlist {α : Type} (convert : Setting → Option α) (field : String) (index : Nat)
      (hfield : Text.lower field = field ∧ field ≠ "preset") :
      Section.optionalList ⟨name, shape, size, w⟩ convert field index
        = Section.optionalList ⟨name, shape, size, v⟩ convert field index := by
    rw [Section.optionalList, Section.optionalList,
      Section.field?_congr name shape size index h hfield.1 hfield.2]
  have hpreset := Section.required_toText? name shape size 0 h (by decide)
  simp only [networkOf, hoptional toText? "marker" 1 (by decide),
    hoptional longWord? "packet_size" 2 (by decide),
    hoptional longWord? "max_packets" 3 (by decide),
    hoptional longWord? "max_push_size" 4 (by decide),
    hoptional longWord? "dust_value" 5 (by decide),
    hoptional toText? "exodus_address" 6 (by decide),
    hoptional byte? "pubkey_hash_version" 7 (by decide),
    hoptional byte? "script_hash_version" 8 (by decide),
    hlist byte? "legacy_script_hash_versions" 9 (by decide),
    hoptional word? "null_data_height" 10 (by decide),
    hoptional word? "script_hash_height" 11 (by decide),
    hoptional word? "multisig_height" 12 (by decide)]
  obtain hsame | ⟨s, t, hs, ht⟩ := hpreset
  · rw [hsame]
    exact exists_preset_eq_map _
  · refine ⟨t, ?_⟩
    rw [hs, ht]
    simp only [map_bind, map_pure]
    rfl

end Sections

/-- The path of the preset. -/
def presetPath : List String := ["network", "preset"]

/-- Trees that are the same but for the preset hold settings that are. -/
theorem ofTree_sameBut {tree tree' : Setting} (h : SameBut presetPath tree tree') :
    ∃ preset, ofTree tree' = (withPreset · preset) <$> ofTree tree := by
  have hnetwork : SameBut ["preset"] ((Setting.find? "network" tree.fields).getD .missing)
      ((Setting.find? "network" tree'.fields).getD .missing) :=
    sameUnder_cons_self_iff.1 (h.fields.find?_getD (by decide) .missing)
  have hprocessing : Setting.find? "processing" tree.fields
      = Setting.find? "processing" tree'.fields :=
    h.fields.find?_eq_of_ne (by decide) (by decide)
  have hrpc : Setting.find? "bitcoin_rpc" tree.fields
      = Setting.find? "bitcoin_rpc" tree'.fields :=
    h.fields.find?_eq_of_ne (by decide) (by decide)
  obtain ⟨preset, hpreset⟩ :=
    networkOf_sameBut "network" "NetworkConfig" 13 hnetwork
  refine ⟨preset, ?_⟩
  simp only [ofTree, sectionOf, hpreset, hprocessing, hrpc, map_bind, map_pure, bind_map_left]
  rfl

/-! ## Loading two files -/

/-- Settings whose network is **accepted**; others are refused. -/
def accepted (settings : Settings) : Except SettingsError Settings :=
  match settings.network.params with
  | .ok _ => .ok settings
  | .error cause => .error (.refused cause)

/-- Settings are accepted exactly when their network stands for parameters. -/
@[simp] theorem accepted_eq_ok_iff {settings settings' : Settings} :
    settings.accepted = .ok settings' ↔
      settings' = settings ∧ ∃ params, settings.network.params = .ok params := by
  unfold accepted
  cases settings.network.params with
  | ok params => simp [eq_comm]
  | error cause => simp

/-- Settings **can be loaded** from the file at a path. -/
def Loads (host : Host) (path : String) : Prop :=
  ∃ settings, loadFrom host path = .ok settings

/-- They cannot where loading fails. -/
theorem not_loads_of_error {host : Host} {path : String} {e : SettingsError}
    (h : loadFrom host path = .error e) : ¬ Loads host path := by
  rintro ⟨settings, hsettings⟩
  rw [h] at hsettings
  cases hsettings

/-- Settings from a file are those that its source makes. -/
theorem loadFrom_of_fileSource {host : Host} {path text : String}
    {source : List (String × Setting)} (htext : host.file path = some text)
    (hsource : fileSource text = .ok source) :
    loadFrom host path = ofSources host source := by
  simp only [loadFrom, htext, hsource]
  rfl

/-- Sources make the settings that are read from their tree, if these are accepted. -/
theorem ofSources_eq (host : Host) (file : List (String × Setting)) :
    ofSources host file =
      ofTree (writeSource (builtInTree host) (givenTree host file).fields) >>= fun settings =>
        accepted { settings with rpc := overrideRpc host settings.rpc } := rfl

/-- **Sources that are the same but for the preset** make settings that are the same but for it, as
far as these are accepted; where the one cannot be read, the other cannot for the same reason. -/
theorem ofSources_sameSource (host : Host) {source source' : List (String × Setting)}
    (h : SameSource presetPath source source') :
    (∃ e, ofSources host source = .error e ∧ ofSources host source' = .error e) ∨
      ∃ settings preset, ofSources host source = accepted settings ∧
        ofSources host source' = (withPreset settings preset).accepted := by
  -- The file is written below the environment, and both together over the built-in tree.
  have hgiven : SameBut presetPath (givenTree host source) (givenTree host source') :=
    sameBut_writeSource (.refl presetPath _) (sameBut_writeSource h (.refl presetPath _))
  have hfields : SameSource presetPath (givenTree host source).fields
      (givenTree host source').fields :=
    hgiven.fields.toSource (by decide) (by decide)
  obtain ⟨preset, hread⟩ := ofTree_sameBut (sameBut_writeSource hfields
    (.refl presetPath (builtInTree host)))
  rw [ofSources_eq, ofSources_eq, hread]
  cases ofTree (writeSource (builtInTree host) (givenTree host source).fields) with
  | error e => exact .inl ⟨e, rfl, rfl⟩
  | ok settings =>
    exact .inr ⟨{ settings with rpc := overrideRpc host settings.rpc }, preset, rfl, rfl⟩

/-- Only the number of workers and the environment of a host matter beside a file. -/
theorem ofSources_congr {host host' : Host} (hworkers : host.workers = host'.workers)
    (henvironment : host.environment = host'.environment) (file : List (String × Setting)) :
    ofSources host file = ofSources host' file := by
  obtain ⟨workers, environment, file⟩ := host
  obtain ⟨workers', environment', file'⟩ := host'
  cases hworkers
  cases henvironment
  rfl

end Settings

/-- Hosts on which the files at a path **differ in nothing but the preset** that they give. The
environment is the same, whatever it says. -/
structure Host.SameButPreset (path : String) (host host' : Host) : Prop where
  /-- The machines run as many threads. -/
  workers : host.workers = host'.workers
  /-- The environment variables are the same. -/
  environment : host.environment = host'.environment
  /-- The files at the path are the same but for the preset. -/
  file : ∃ text text' source source', host.file path = some text ∧ host'.file path = some text' ∧
    Settings.fileSource text = .ok source ∧ Settings.fileSource text' = .ok source' ∧
    SameSource Settings.presetPath source source'

/-- Settings from two files that differ in nothing but the preset: neither can be read, or each is
accepted or refused as it stands. -/
theorem Host.SameButPreset.loadFrom {path : String} {host host' : Host}
    (h : SameButPreset path host host') :
    (∃ e, Settings.loadFrom host path = .error e ∧ Settings.loadFrom host' path = .error e) ∨
      ∃ settings preset, Settings.loadFrom host path = settings.accepted ∧
        Settings.loadFrom host' path = (withPreset settings preset).accepted := by
  obtain ⟨text, text', source, source', htext, htext', hsource, hsource', hsame⟩ := h.file
  rw [Settings.loadFrom_of_fileSource htext hsource,
    Settings.loadFrom_of_fileSource htext' hsource',
    ← Settings.ofSources_congr h.workers h.environment]
  exact Settings.ofSources_sameSource host hsame

/-- Results that are **the same, or failures** both. -/
def SameOrFail {ε α : Type} (r r' : Except ε α) : Prop :=
  r = r' ∨ (∃ e, r = .error e) ∧ ∃ e, r' = .error e

/-- A result that fails is the same as another, or fails with it, when that fails, too. -/
@[simp] theorem sameOrFail_error_iff {ε α : Type} {e : ε} {r : Except ε α} :
    SameOrFail r (.error e) ↔ ∃ e', r = .error e' := by
  constructor
  · rintro (rfl | ⟨h, -⟩)
    · exact ⟨e, rfl⟩
    · exact h
  · exact fun h => .inr ⟨h, e, rfl⟩

/-- It does not matter which of two results is named first. -/
theorem sameOrFail_comm {ε α : Type} {r r' : Except ε α} : SameOrFail r r' ↔ SameOrFail r' r :=
  ⟨fun h => h.imp Eq.symm And.symm, fun h => h.imp Eq.symm And.symm⟩

namespace SettingsChoice

variable {choice : SettingsChoice} {path name : String} {host host' : Host}

/-- Settings that a named file gives get the preset that was chosen. -/
theorem load_of_loadFrom {settings : Settings} (hpath : choice.path = some path)
    (hnetwork : choice.network = some name) (h : Settings.loadFrom host path = .ok settings) :
    choice.load host = .ok (withPreset settings name) := by
  simp only [load, hpath, hnetwork, h]
  rfl

/-- Settings that a named file gives lead to parameters unless the network is refused under the
chosen preset. -/
theorem loadParams_eq_error_iff {settings : Settings} (hpath : choice.path = some path)
    (hnetwork : choice.network = some name) (h : Settings.loadFrom host path = .ok settings) :
    (∃ e, choice.loadParams host = .error e) ↔
      ∃ cause, (withPreset settings name).network.params = .error cause := by
  rw [loadParams_of_load (load_of_loadFrom hpath hnetwork h)]
  cases (withPreset settings name).network.params with
  | ok params => simp [Except.map, Except.mapError]
  | error cause => simp [Except.map, Except.mapError]

/-- A named file that cannot be loaded leaves nothing to put a preset in. -/
theorem loadParams_of_loadFrom_error {e : SettingsError} (hpath : choice.path = some path)
    (h : Settings.loadFrom host path = .error e) :
    choice.loadParams host = .error (.settings path e) := by
  simp only [loadParams, load, hpath, h]
  rfl

/-- What a choice of a preset beside either of two files comes to. -/
structure ReplacesPreset (choice : SettingsChoice) (path name : String) (host host' : Host) :
    Prop where
  /-- Neither file can be read, or both are read as the same settings but for the preset, and each
  is loaded if its network is accepted under the preset that the file gives. -/
  loadFrom : (∃ e, Settings.loadFrom host path = .error e ∧
      Settings.loadFrom host' path = .error e) ∨
    ∃ settings preset, Settings.loadFrom host path = settings.accepted ∧
      Settings.loadFrom host' path = (withPreset settings preset).accepted
  /-- Where both files can be loaded, the choice leads to the same settings. -/
  load_eq : Settings.Loads host path → Settings.Loads host' path →
    choice.load host = choice.load host'
  /-- There every command runs the same, too. -/
  run_eq : Settings.Loads host path → Settings.Loads host' path →
    ∀ command reach, command.choice = choice →
      Command.run host reach command = Command.run host' reach command
  /-- The choice leads to the same parameters, or to none from either file, **exactly when** both
  files can be loaded or neither can, or the network is refused under the chosen preset. -/
  sameOrFail_iff : SameOrFail (choice.loadParams host) (choice.loadParams host') ↔
    (Settings.Loads host path ↔ Settings.Loads host' path) ∨
    ∀ settings, (Settings.loadFrom host path = .ok settings ∨
      Settings.loadFrom host' path = .ok settings) →
        ∃ cause, (withPreset settings name).network.params = .error cause

/-- **A preset chosen beside a file** replaces the one that the file gives, if the file can be
loaded with its own. -/
theorem replacesPreset (hpath : choice.path = some path) (hnetwork : choice.network = some name)
    (h : Host.SameButPreset path host host') : choice.ReplacesPreset path name host host' := by
  have hload : Settings.Loads host path → Settings.Loads host' path →
      choice.load host = choice.load host' := by
    rintro ⟨s, hs⟩ ⟨s', hs'⟩
    rw [load_of_loadFrom hpath hnetwork hs, load_of_loadFrom hpath hnetwork hs']
    obtain ⟨e, he, -⟩ | ⟨settings, preset, hread, hread'⟩ := h.loadFrom
    · rw [he] at hs
      cases hs
    · rw [hread, Settings.accepted_eq_ok_iff] at hs
      rw [hread', Settings.accepted_eq_ok_iff] at hs'
      rw [hs.1, hs'.1]
      rfl
  refine ⟨h.loadFrom, hload, fun hl hl' command reach hchoice => ?_, ?_⟩
  · subst hchoice
    exact Command.run_congr (hload hl hl') reach
  · -- Where one file is loaded and the other is not, the results can agree as failures only.
    cases hs : Settings.loadFrom host path with
    | ok s =>
      have hl : Settings.Loads host path := ⟨s, hs⟩
      cases hs' : Settings.loadFrom host' path with
      | ok s' =>
        have hl' : Settings.Loads host' path := ⟨s', hs'⟩
        have heq : choice.loadParams host = choice.loadParams host' := by
          rw [loadParams, loadParams, hload hl hl']
        exact iff_of_true (.inl heq) (.inl (iff_of_true hl hl'))
      | error e =>
        have hl' : ¬ Settings.Loads host' path := Settings.not_loads_of_error hs'
        rw [loadParams_of_loadFrom_error hpath hs', sameOrFail_error_iff,
          loadParams_eq_error_iff hpath hnetwork hs]
        simp [hl, hl']
    | error e =>
      have hl : ¬ Settings.Loads host path := Settings.not_loads_of_error hs
      have hfail := loadParams_of_loadFrom_error hpath hs
      cases hs' : Settings.loadFrom host' path with
      | ok s' =>
        have hl' : Settings.Loads host' path := ⟨s', hs'⟩
        rw [hfail, sameOrFail_comm, sameOrFail_error_iff,
          loadParams_eq_error_iff hpath hnetwork hs']
        simp [hl, hl']
      | error e' =>
        have hl' : ¬ Settings.Loads host' path := Settings.not_loads_of_error hs'
        have hfail' := loadParams_of_loadFrom_error hpath hs'
        exact iff_of_true (.inr ⟨⟨_, hfail⟩, _, hfail'⟩) (.inl (iff_of_false hl hl'))

/-- An Exodus address of the test network. -/
def testExodus : String := "mpexoDuSkGGqvqrkrjiFng38QPkJQVFyqv"

/-- A file that gives a preset and that Exodus address. -/
def presetFile (preset : String) : String :=
  "[network]\npreset = \"" ++ preset ++ "\"\nexodus_address = \"" ++ testExodus ++ "\"\n"

/-- A host with that file. -/
def presetHost (preset : String) : Host :=
  ⟨1, [], fun path => if path = "settings.toml" then some (presetFile preset) else none⟩

/-- The source that the file makes. -/
def presetSource (preset : String) : List (String × Setting) :=
  [("network", .table [("preset", .text preset), ("exodus_address", .text testExodus)])]

/-- Whether a source is the one of that file. -/
def isPresetSource (preset : String) : List (String × Setting) → Bool
  | [(network, .table [(key, .text value), (key', .text value')])] =>
    network = "network" ∧ key = "preset" ∧ value = preset ∧ key' = "exodus_address" ∧
      value' = testExodus
  | _ => false

/-- A source that passes for the one of the file is it. -/
theorem eq_presetSource_of_isPresetSource {preset : String} {source : List (String × Setting)}
    (h : isPresetSource preset source = true) : source = presetSource preset := by
  unfold isPresetSource at h
  split at h
  · obtain ⟨rfl, rfl, rfl, rfl, rfl⟩ := of_decide_eq_true h
    rfl
  · cases h

/-- The file makes its source, wherever reading it shows so. -/
theorem fileSource_presetFile {preset : String}
    (h : ((Settings.fileSource (presetFile preset)).toOption.any (isPresetSource preset)) = true) :
    Settings.fileSource (presetFile preset) = .ok (presetSource preset) := by
  cases hsource : Settings.fileSource (presetFile preset) with
  | error e =>
    rw [hsource] at h
    cases h
  | ok source =>
    rw [hsource] at h
    exact congrArg Except.ok (eq_presetSource_of_isPresetSource h)

/-- Hosts with such files differ in the preset only. -/
theorem sameButPreset_presetHost {preset preset' : String}
    (h : Settings.fileSource (presetFile preset) = .ok (presetSource preset))
    (h' : Settings.fileSource (presetFile preset') = .ok (presetSource preset')) :
    Host.SameButPreset "settings.toml" (presetHost preset) (presetHost preset') := by
  have hkey : Text.lower "preset" = "preset" := by decide
  have hpath : SettingPath.ofKey "network" = ["network"].map Step.key := by decide
  have hpreset : SameBut [] (.text preset) (.text preset') := .inr ⟨_, _, rfl, rfl⟩
  have hnetwork : SameBut ["preset"]
      (.table [("preset", .text preset), ("exodus_address", .text testExodus)])
      (.table [("preset", .text preset'), ("exodus_address", .text testExodus)]) :=
    .inr ⟨_, _, rfl, rfl, .cons ⟨rfl, .inr ⟨hkey, hpreset⟩⟩ (.cons ⟨rfl, .inl rfl⟩ .nil)⟩
  have hsource : SameSource Settings.presetPath (presetSource preset) (presetSource preset') :=
    .cons ⟨rfl, .inr ⟨["network"], ["preset"], hpath, rfl, hnetwork⟩⟩ .nil
  exact ⟨rfl, rfl, presetFile preset, presetFile preset', _, _, rfl, rfl, h, h', hsource⟩

/-- The settings that the file gives. -/
def presetSettings (preset : String) : Settings :=
  { network := { preset := preset, exodusAddress := some testExodus }, threads := 1, rpc := {} }

/-- With the preset of a test network these settings are accepted. -/
theorem params_presetSettings {preset : String}
    (hpreset : Params.ofPreset? preset = some Params.testnet) :
    (presetSettings preset).network.params = .ok Params.testnet :=
  NetworkSettings.params_eq_ok_iff.2
    ⟨.testnet, Params.testnet.marker, hpreset, rfl, rfl, Params.check_of_ofPreset? hpreset⟩

/-- The file is loaded with the preset of a test network. -/
theorem loadFrom_presetHost {preset : String}
    (hsource : Settings.fileSource (presetFile preset) = .ok (presetSource preset))
    (hread : Settings.ofTree (Settings.writeSource (Settings.builtInTree (presetHost preset))
      (Settings.givenTree (presetHost preset) (presetSource preset)).fields)
        = .ok (presetSettings preset))
    (hpreset : Params.ofPreset? preset = some Params.testnet) :
    Settings.loadFrom (presetHost preset) "settings.toml" = .ok (presetSettings preset) := by
  have hfile : (presetHost preset).file "settings.toml" = some (presetFile preset) := rfl
  rw [Settings.loadFrom_of_fileSource hfile hsource]
  exact (Settings.ofSources_eq_ok_iff _).2 ⟨⟨_, hread, rfl⟩, _, params_presetSettings hpreset⟩

/-- The file for the test network. -/
theorem fileSource_testnet :
    Settings.fileSource (presetFile "testnet") = .ok (presetSource "testnet") :=
  fileSource_presetFile (by decide +kernel)

/-- It is loaded as it stands. -/
theorem loadFrom_presetHost_testnet :
    Settings.loadFrom (presetHost "testnet") "settings.toml" = .ok (presetSettings "testnet") :=
  loadFrom_presetHost fileSource_testnet (by decide +kernel) (by decide)

/-- The choice of that file, and of the test network. -/
def testChoice : SettingsChoice := ⟨some "settings.toml", some "testnet"⟩

/-- Where the file is for the test network already, the choice changes nothing. -/
theorem loadParams_presetHost_testnet :
    testChoice.loadParams (presetHost "testnet")
      = .ok (presetSettings "testnet", Params.testnet) := by
  have hload : testChoice.load (presetHost "testnet") = .ok (presetSettings "testnet") :=
    load_of_loadFrom rfl rfl loadFrom_presetHost_testnet
  rw [loadParams_of_load hload, params_presetSettings (by decide)]
  rfl

/-- Files for the test network and for a private one lead to the same parameters if the test network
is chosen. -/
theorem replacesPreset_presetHost :
    Host.SameButPreset "settings.toml" (presetHost "testnet") (presetHost "regtest") ∧
      testChoice.loadParams (presetHost "testnet")
        = .ok (presetSettings "testnet", Params.testnet) ∧
      SameOrFail (testChoice.loadParams (presetHost "testnet"))
        (testChoice.loadParams (presetHost "regtest")) := by
  have hsource : Settings.fileSource (presetFile "regtest") = .ok (presetSource "regtest") :=
    fileSource_presetFile (by decide +kernel)
  have hsame : Host.SameButPreset "settings.toml" (presetHost "testnet") (presetHost "regtest") :=
    sameButPreset_presetHost fileSource_testnet hsource
  have hregtest : Settings.loadFrom (presetHost "regtest") "settings.toml"
      = .ok (presetSettings "regtest") :=
    loadFrom_presetHost hsource (by decide +kernel) (by decide)
  have hchoice : testChoice.ReplacesPreset "settings.toml" "testnet" (presetHost "testnet")
      (presetHost "regtest") := replacesPreset rfl rfl hsame
  exact ⟨hsame, loadParams_presetHost_testnet, hchoice.sameOrFail_iff.2
    (.inl (iff_of_true ⟨_, loadFrom_presetHost_testnet⟩ ⟨_, hregtest⟩))⟩

/-- A file for the main network with an address of the test network **is refused**, although the
test network is chosen and the same file for that leads to its parameters. -/
theorem not_sameOrFail_presetHost :
    Host.SameButPreset "settings.toml" (presetHost "bitcoin") (presetHost "testnet") ∧
      testChoice.loadParams (presetHost "bitcoin")
        = .error (.settings "settings.toml" (.refused (.exodusAddress testExodus))) ∧
      testChoice.loadParams (presetHost "testnet")
        = .ok (presetSettings "testnet", Params.testnet) ∧
      ¬ SameOrFail (testChoice.loadParams (presetHost "bitcoin"))
        (testChoice.loadParams (presetHost "testnet")) := by
  have hsame : Host.SameButPreset "settings.toml" (presetHost "bitcoin") (presetHost "testnet") :=
    sameButPreset_presetHost (fileSource_presetFile (by decide +kernel)) fileSource_testnet
  have hrefused : Settings.loadFrom (presetHost "bitcoin") "settings.toml"
      = .error (.refused (.exodusAddress testExodus)) := by
    decide +kernel
  have hfails : testChoice.loadParams (presetHost "bitcoin")
      = .error (.settings "settings.toml" _) :=
    loadParams_of_loadFrom_error rfl hrefused
  refine ⟨hsame, hfails, loadParams_presetHost_testnet, ?_⟩
  rw [hfails, loadParams_presetHost_testnet, sameOrFail_comm, sameOrFail_error_iff]
  rintro ⟨e, he⟩
  cases he

end SettingsChoice

end OmniLayer
