import OmniLayer.Command.Run
import OmniLayer.Proofs.Network

/-! # Which settings a command runs under

A command takes nothing from its host but its settings (`Command.run_congr`), and a file that is
named for these must be good (`Command.run_of_loadFrom_error`). Where no file is named, the settings
that can be loaded are used with the preset that was chosen, and settings that cannot be loaded are
not used at all: the built-in ones stand in for them without a word, so that the command runs as on
a bare host, which has no file and no environment variables (`SettingsChoice.fallsBack`). -/

namespace OmniLayer

/-- The same machine **without any settings**: with no environment variables and no files. -/
def Host.bare (host : Host) : Host := ⟨host.workers, [], fun _ => none⟩

/-! ## The built-in settings -/

namespace Settings

/-- A number is read back as a word when it fits in one. -/
@[simp] theorem longWord?_natCast (n : Nat) :
    longWord? (.integer n) = if n ≤ wordMax then some (UInt64.ofNat n) else none := by
  by_cases h : n ≤ wordMax
  · simp [longWord?, Setting.toNat?, h]
  · simp [longWord?, Setting.toNat?, h]

variable (host : Host)

/-- The network of the built-in tree is the main network with nothing replaced. -/
@[simp] theorem networkOf_builtInTree :
    networkOf (sectionOf (builtInTree host) "network" "NetworkConfig" 13) = .ok {} := by
  have hsection : sectionOf (builtInTree host) "network" "NetworkConfig" 13
      = ⟨"network", "NetworkConfig", 13, .table [("preset", .text "bitcoin")]⟩ := by
    simp [sectionOf, builtInTree, builtIn, Setting.fields, Setting.find?]
  rw [hsection]
  decide +kernel

/-- The node of the built-in tree is the usual one. -/
@[simp] theorem rpcOf_builtInTree :
    rpcOf (sectionOf (builtInTree host) "bitcoin_rpc" "BitcoinRpcConfig" 9) = .ok {} := by
  have hsection : sectionOf (builtInTree host) "bitcoin_rpc" "BitcoinRpcConfig" 9
      = ⟨"bitcoin_rpc", "BitcoinRpcConfig", 9, rpcTree {}⟩ := by
    simp [sectionOf, builtInTree, builtIn, Setting.fields, Setting.find?]
  rw [hsection]
  decide +kernel

/-- The workers of the built-in tree are those of the machine, if their number fits in a word. -/
theorem threads_builtInTree :
    (sectionOf (builtInTree host) "processing" "ProcessingConfig" 1).required longWord? "threads" 0
      = if host.workers ≤ wordMax then .ok (builtIn host).threads
        else .error (.wrongType "processing.threads") := by
  have hfield : (sectionOf (builtInTree host) "processing" "ProcessingConfig" 1).field? "threads" 0
      = some ("processing.threads", .integer host.workers) := by
    simp [Section.field?, sectionOf, builtInTree, Setting.fields, Setting.find?]
  unfold Section.required
  rw [hfield]
  dsimp only
  rw [longWord?_natCast]
  by_cases h : host.workers ≤ wordMax
  · rw [if_pos h, if_pos h]
    rfl
  · rw [if_neg h, if_neg h]
    rfl

/-- Settings are made from sources when the tree can be read and its network is **accepted**. -/
theorem ofSources_eq_ok_iff {file : List (String × Setting)} {settings : Settings} :
    ofSources host file = .ok settings ↔
      (∃ read, ofTree (writeSource (builtInTree host) (givenTree host file).fields) = .ok read ∧
        settings = { read with rpc := overrideRpc host read.rpc }) ∧
      ∃ params, settings.network.params = .ok params := by
  unfold ofSources
  rw [bind_eq_ok_iff]
  constructor
  · rintro ⟨read, hread, h⟩
    dsimp only at h
    split at h
    · next params hparams =>
      cases h
      exact ⟨⟨read, hread, rfl⟩, params, hparams⟩
    · cases h
  · rintro ⟨⟨read, hread, rfl⟩, params, hparams⟩
    refine ⟨read, hread, ?_⟩
    dsimp only at hparams ⊢
    rw [hparams]
    rfl

/-- The built-in settings are for the **main network**. -/
@[simp] theorem params_builtIn : (builtIn host).network.params = .ok Params.bitcoin :=
  NetworkSettings.params_default

/-- The built-in tree reads as the built-in settings, unless there are more workers than a word can
count. -/
theorem ofTree_builtInTree :
    ofTree (builtInTree host) = if host.workers ≤ wordMax then .ok (builtIn host)
      else .error (.wrongType "processing.threads") := by
  rw [ofTree, networkOf_builtInTree, threads_builtInTree, rpcOf_builtInTree]
  by_cases h : host.workers ≤ wordMax
  · rw [if_pos h, if_pos h]
    rfl
  · rw [if_neg h, if_neg h]
    rfl

/-- Settings that can be loaded are used. -/
theorem loadOrBuiltIn_of_ok {settings : Settings} (h : load host = .ok settings) :
    loadOrBuiltIn host = settings := by
  rw [loadOrBuiltIn, h]

/-- Settings that cannot be loaded give way to the built-in ones. -/
theorem loadOrBuiltIn_of_error {e : SettingsError} (h : load host = .error e) :
    loadOrBuiltIn host = builtIn host := by
  rw [loadOrBuiltIn, h]

/-- On a **bare host** the built-in settings are used. -/
@[simp] theorem loadOrBuiltIn_bare : loadOrBuiltIn host.bare = builtIn host := by
  -- No source is written over the built-in tree.
  have htree : writeSource (builtInTree host.bare) (givenTree host.bare []).fields
      = builtInTree host := rfl
  have hload : load host.bare = ofSources host.bare [] := rfl
  cases h : load host.bare with
  | error e =>
    rw [loadOrBuiltIn_of_error _ h]
    rfl
  | ok settings =>
    rw [loadOrBuiltIn_of_ok _ h]
    rw [hload, ofSources_eq_ok_iff, htree, ofTree_builtInTree] at h
    obtain ⟨⟨read, hread, rfl⟩, -⟩ := h
    split at hread
    · cases hread
      rfl
    · cases hread

end Settings

/-! ## Commands and their settings -/

/-- The settings that a command **chooses**. -/
def Command.choice : Command → SettingsChoice
  | .decode _ _ _ _ _ settings => settings
  | .decodeRaw _ _ _ _ _ settings => settings
  | .inspect _ _ _ _ settings => settings
  | .encode _ settings => settings
  | .testNode _ settings => settings
  | .showSettings settings => settings

/-- Where a command loads the same settings it **runs the same**. -/
theorem Command.run_congr {host host' : Host} {command : Command}
    (h : command.choice.load host = command.choice.load host') (reach : RpcSettings → Node) :
    command.run host reach = command.run host' reach := by
  have hparams : command.choice.loadParams host = command.choice.loadParams host' := by
    rw [SettingsChoice.loadParams, SettingsChoice.loadParams, h]
  -- The test of the node alone takes the settings without the parameters of their network.
  cases command with
  | testNode node settings =>
    change settings.load host = settings.load host' at h
    simp only [run, runTestNode, h]
  | decode txids height time format node settings =>
    change settings.loadParams host = settings.loadParams host' at hparams
    simp only [run, runDecode, decodeReports, hparams]
  | decodeRaw raw height time prevouts format settings =>
    change settings.loadParams host = settings.loadParams host' at hparams
    simp only [run, runDecodeRaw, hparams]
  | inspect txid height format node settings =>
    change settings.loadParams host = settings.loadParams host' at hparams
    simp only [run, runInspect, hparams]
  | encode request settings =>
    change settings.loadParams host = settings.loadParams host' at hparams
    simp only [run, runEncode, hparams]
  | showSettings settings =>
    change settings.loadParams host = settings.loadParams host' at hparams
    simp only [run, runShowSettings, hparams]

/-- A file that is **named** for the settings must be good: no command runs where it is not. -/
theorem Command.run_of_loadFrom_error {host : Host} {command : Command} {path : String}
    {e : SettingsError} (hpath : command.choice.path = some path)
    (h : Settings.loadFrom host path = .error e) (reach : RpcSettings → Node) :
    command.run host reach = ⟨"", some (.settings path e)⟩ := by
  have hload : command.choice.load host = .error (.settings path e) := by
    simp only [SettingsChoice.load, hpath, h]
    rfl
  have hparams : command.choice.loadParams host = .error (.settings path e) := by
    rw [SettingsChoice.loadParams, hload]
    rfl
  cases command with
  | testNode node settings =>
    change settings.load host = _ at hload
    simp only [run, runTestNode, hload]
  | decode txids height time format node settings =>
    change settings.loadParams host = _ at hparams
    rw [run, runDecode, decodeReports, hparams]
    rfl
  | decodeRaw raw height time prevouts format settings =>
    change settings.loadParams host = _ at hparams
    rw [run, runDecodeRaw, hparams]
    rfl
  | inspect txid height format node settings =>
    change settings.loadParams host = _ at hparams
    rw [run, runInspect, hparams]
    rfl
  | encode request settings =>
    change settings.loadParams host = _ at hparams
    rw [run, runEncode, hparams]
    rfl
  | showSettings settings =>
    change settings.loadParams host = _ at hparams
    rw [run, runShowSettings, hparams]
    rfl

namespace SettingsChoice

variable {choice : SettingsChoice} {host : Host}

/-- Settings with the preset that was **chosen**, if one was. -/
def apply (choice : SettingsChoice) (settings : Settings) : Settings :=
  (choice.network.map (withPreset settings)).getD settings

/-- A choice without a preset leaves settings as they are. -/
theorem apply_of_network_eq_none (h : choice.network = none) (settings : Settings) :
    choice.apply settings = settings := by
  rw [apply, h]
  rfl

/-- A preset that was chosen replaces that of the settings. -/
theorem apply_of_network_eq_some {name : String} (h : choice.network = some name)
    (settings : Settings) : choice.apply settings = withPreset settings name := by
  rw [apply, h]
  rfl

/-- Without a file of its own, a choice always finds settings. -/
theorem load_of_path_eq_none (hpath : choice.path = none) (host : Host) :
    choice.load host = .ok (choice.apply (Settings.loadOrBuiltIn host)) := by
  rw [load, hpath]
  rfl

/-- The parameters behind settings are those of their network, and none if that is refused. -/
theorem loadParams_of_load {settings : Settings} (h : choice.load host = .ok settings) :
    choice.loadParams host = (settings.network.params.mapError CommandError.network).map
      fun params => (settings, params) := by
  rw [loadParams, h]
  show (settings.network.params.mapError CommandError.network >>= _) = _
  cases settings.network.params with
  | ok params => rfl
  | error e => rfl

/-- What comes of a choice of settings without a file of its own. -/
structure FallsBack (choice : SettingsChoice) (host : Host) : Prop where
  /-- Settings that can be loaded are used, with the preset that was chosen. -/
  load_of_ok : ∀ settings, Settings.load host = .ok settings →
    choice.load host = .ok (choice.apply settings)
  /-- So are the parameters that these stand for. -/
  loadParams_of_ok : ∀ settings, Settings.load host = .ok settings →
    choice.loadParams host =
      ((choice.apply settings).network.params.mapError CommandError.network).map
        fun params => (choice.apply settings, params)
  /-- The built-in settings are used instead of settings that cannot be loaded. -/
  load_of_error : ∀ e, Settings.load host = .error e →
    choice.load host = .ok (choice.apply (Settings.builtIn host))
  /-- With them comes the main network, if no other was chosen. -/
  loadParams_of_error : ∀ e, Settings.load host = .error e → choice.network = none →
    choice.loadParams host = .ok (Settings.builtIn host, Params.bitcoin)
  /-- A preset that was chosen comes without anything that the settings replace in it. -/
  loadParams_of_preset : ∀ e, Settings.load host = .error e → ∀ name params,
    choice.network = some name → Params.ofPreset? name = some params →
      choice.loadParams host = .ok (withPreset (Settings.builtIn host) name, params)
  /-- Only a preset that there is not makes the parameters fail. -/
  loadParams_of_unknown : ∀ e, Settings.load host = .error e → ∀ name,
    choice.network = some name → Params.ofPreset? name = none →
      choice.loadParams host = .error (.network (.unknownPreset name))
  /-- A command runs as on a bare host where its settings cannot be loaded. -/
  run_of_error : ∀ e, Settings.load host = .error e → ∀ command reach, command.choice = choice →
    Command.run host reach command = Command.run host.bare reach command

/-- **Without a file of its own a choice of settings falls back** on the built-in ones: what can be
loaded is used as it is, and what cannot be loaded never stops a command. -/
theorem fallsBack (hpath : choice.path = none) (host : Host) : choice.FallsBack host := by
  have hload := load_of_path_eq_none hpath host
  have hbuiltIn {e : SettingsError} (h : Settings.load host = .error e) :
      choice.load host = .ok (choice.apply (Settings.builtIn host)) := by
    rw [hload, Settings.loadOrBuiltIn_of_error host h]
  constructor
  case load_of_ok =>
    intro settings h
    rw [hload, Settings.loadOrBuiltIn_of_ok host h]
  case loadParams_of_ok =>
    intro settings h
    rw [Settings.loadOrBuiltIn_of_ok host h] at hload
    exact loadParams_of_load hload
  case load_of_error =>
    intro e h
    exact hbuiltIn h
  case loadParams_of_error =>
    intro e h hnetwork
    rw [loadParams_of_load (hbuiltIn h), apply_of_network_eq_none hnetwork,
      Settings.params_builtIn]
    rfl
  case loadParams_of_preset =>
    intro e h name params hnetwork hpreset
    have haccepted : (withPreset (Settings.builtIn host) name).network.params = .ok params :=
      NetworkSettings.params_preset hpreset
    rw [loadParams_of_load (hbuiltIn h), apply_of_network_eq_some hnetwork, haccepted]
    rfl
  case loadParams_of_unknown =>
    intro e h name hnetwork hpreset
    have hrefused : (withPreset (Settings.builtIn host) name).network.params
        = .error (.unknownPreset name) := by
      simp only [NetworkSettings.params, withPreset, hpreset]
    rw [loadParams_of_load (hbuiltIn h), apply_of_network_eq_some hnetwork, hrefused]
    rfl
  case run_of_error =>
    rintro e h command reach rfl
    -- On both hosts the built-in settings are all that the command is given.
    apply Command.run_congr
    rw [hbuiltIn h, load_of_path_eq_none hpath, Settings.loadOrBuiltIn_bare]

/-- A host whose environment asks for another marker. -/
def markedHost : Host := ⟨1, [("OMNI_NETWORK__MARKER", "deadbeef")], fun _ => none⟩

/-- The settings with that marker and no other change. -/
def markedSettings : Settings :=
  { network := { marker := some "deadbeef" }, threads := 1, rpc := {} }

/-- The main network with that marker. -/
def markedParams : Params := { Params.bitcoin with marker := ⟨[0xde, 0xad, 0xbe, 0xef], rfl⟩ }

/-- A host whose environment asks for that marker, and for packets that no key has room for. -/
def refusedHost : Host :=
  ⟨1, [("OMNI_NETWORK__MARKER", "deadbeef"), ("OMNI_NETWORK__PACKET_SIZE", "64")], fun _ => none⟩

/-- Such packets are refused. -/
theorem refusedHost_unloadable :
    Settings.load refusedHost = .error (.refused (.packetSize 64)) := by
  decide +kernel

/-- The settings that the first environment asks for are used; those of the second are refused, and
every command that chooses nothing runs there as without any. -/
theorem fallsBack_refusedHost :
    (Settings.load markedHost = .ok markedSettings ∧ load {} markedHost = .ok markedSettings ∧
      loadParams {} markedHost = .ok (markedSettings, markedParams)) ∧
    Settings.load refusedHost = .error (.refused (.packetSize 64)) ∧
    loadParams {} refusedHost = .ok (Settings.builtIn refusedHost, Params.bitcoin) ∧
    ∀ command reach, command.choice = {} →
      Command.run refusedHost reach command = Command.run refusedHost.bare reach command := by
  have hparams : markedSettings.network.params = .ok markedParams := by
    have hcheck : markedParams.check = .ok () :=
      Params.check_eq_ok_iff.2
        ⟨by decide, by decide, by decide, _, Params.exodusDestination?_bitcoin⟩
    exact NetworkSettings.params_eq_ok_iff.2
      ⟨.bitcoin, markedParams.marker, by decide, by decide +kernel, rfl, hcheck⟩
  have hread : Settings.ofTree (Settings.writeSource (Settings.builtInTree markedHost)
      (Settings.givenTree markedHost []).fields) = .ok markedSettings := by
    decide +kernel
  have hloaded : Settings.load markedHost = .ok markedSettings :=
    (Settings.ofSources_eq_ok_iff markedHost).2
      ⟨⟨markedSettings, hread, rfl⟩, markedParams, hparams⟩
  have hrefused := refusedHost_unloadable
  have hmarked : FallsBack {} markedHost := fallsBack rfl markedHost
  have hfalls : FallsBack {} refusedHost := fallsBack rfl refusedHost
  have hused : loadParams {} markedHost = .ok (markedSettings, markedParams) := by
    rw [hmarked.loadParams_of_ok _ hloaded, apply_of_network_eq_none rfl, hparams]
    rfl
  exact ⟨⟨hloaded, hmarked.load_of_ok _ hloaded, hused⟩, hrefused,
    hfalls.loadParams_of_error _ hrefused rfl, hfalls.run_of_error _ hrefused⟩

/-- The settings are refused, and a payload is laid out all the same, exactly as on a bare host:
with the marker of the main network and not with the one that the environment asks for. -/
theorem load_refusedHost :
    Settings.load refusedHost = .error (.refused (.packetSize 64)) ∧
    load {} refusedHost = .ok (Settings.builtIn refusedHost) ∧
    loadParams {} refusedHost = .ok (Settings.builtIn refusedHost, Params.bitcoin) ∧
    Command.runEncode refusedHost (.nullData none "00000000") {}
      = Command.runEncode refusedHost.bare (.nullData none "00000000") {} ∧
    (Command.runEncode refusedHost (.nullData none "00000000") {}).isOk = true := by
  have hrefused := refusedHost_unloadable
  have hload : load {} refusedHost = .ok (Settings.builtIn refusedHost) := by
    rw [load_of_path_eq_none rfl, Settings.loadOrBuiltIn_of_error _ hrefused]
    rfl
  have hbare : load {} refusedHost.bare = .ok (Settings.builtIn refusedHost) := by
    rw [load_of_path_eq_none rfl, Settings.loadOrBuiltIn_bare]
    rfl
  have hparams {host : Host} (h : load {} host = .ok (Settings.builtIn refusedHost)) :
      loadParams {} host = .ok (Settings.builtIn refusedHost, Params.bitcoin) := by
    rw [loadParams_of_load h, Settings.params_builtIn]
    rfl
  refine ⟨hrefused, hload, hparams hload, ?_, ?_⟩
  · rw [Command.runEncode, Command.runEncode, hparams hload, hparams hbare]
  · rw [Command.runEncode, hparams hload]
    decide +kernel

end SettingsChoice

end OmniLayer
