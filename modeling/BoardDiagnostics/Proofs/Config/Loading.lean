import BoardDiagnostics.Config.Loaded
import BoardDiagnostics.Orchestrator

/-!
# What comes of a configuration file

A file gives its configuration if it can be read as text, the text is that of a configuration, and
the diagnostics can work with that configuration.  In every other case the standard configuration
takes its place, and nothing of the file is left but the reason.
-/

set_option autoImplicit false

namespace BoardDiagnostics

/-- The octets of a text in UTF-8. -/
def octetsOfText (text : String) : Octets := text.toUTF8.data.toList

/-- A file holds a text under a name that the system accepts. -/
structure FileState.Holds (state : FileState) (name text : String) : Prop where
  no_nul : '\x00' ∉ name.toList
  short : isLongName name = false
  content : state = .holds (octetsOfText text)

/-- Octets are read as a text exactly if they are the octets of that text. -/
theorem fromUTF8?_eq_some_iff {content : Octets} {text : String} :
    String.fromUTF8? (ByteArray.mk content.toArray) = some text ↔ content = octetsOfText text := by
  unfold String.fromUTF8? octetsOfText
  constructor
  · intro decoded
    split at decoded
    · obtain rfl := Option.some.inj decoded
      simp [String.fromUTF8, String.toUTF8]
    · cases decoded
  · intro same
    have whole : ByteArray.mk content.toArray = text.toByteArray := by
      rw [same]
      simp [String.toUTF8]
    rw [whole, dif_pos text.isValidUTF8]
    rfl

namespace FileState

/-- A text is read from a file exactly if the file holds it under a name that the system accepts. -/
theorem readText_eq_ok_iff {state : FileState} {name text : String} :
    state.readText name = .ok text ↔ state.Holds name text := by
  unfold readText
  by_cases nul : '\x00' ∈ name.toList
  · rw [if_pos nul]
    exact ⟨nofun, fun holds => absurd nul holds.no_nul⟩
  by_cases long : isLongName name = true
  · rw [if_neg nul, if_pos long]
    exact ⟨nofun, fun holds => absurd long (Bool.eq_false_iff.mp holds.short)⟩
  rw [if_neg nul, if_neg long]
  have short : isLongName name = false := Bool.eq_false_iff.mpr long
  cases state with
  | absent => exact ⟨nofun, fun holds => nomatch holds.content⟩
  | directory => exact ⟨nofun, fun holds => nomatch holds.content⟩
  | holds content =>
    cases decoded : String.fromUTF8? (ByteArray.mk content.toArray) with
    | none =>
      refine ⟨fun read => ?_, fun holds => ?_⟩
      · simp only [decoded] at read
        cases read
      · have := fromUTF8?_eq_some_iff.mpr (FileState.holds.inj holds.content)
        rw [decoded] at this
        cases this
    | some found =>
      have same := fromUTF8?_eq_some_iff.mp decoded
      simp only [decoded]
      refine ⟨fun read => ?_, fun holds => ?_⟩
      · obtain rfl := Except.ok.inj read
        exact ⟨nul, short, congrArg FileState.holds same⟩
      · have := fromUTF8?_eq_some_iff.mpr (FileState.holds.inj holds.content)
        rw [decoded] at this
        exact congrArg Except.ok (Option.some.inj this)

end FileState

namespace Config

/-- The standard configuration passes. -/
theorem validate_standard : standard.validate = .ok () := rfl

/-- A configuration is refused as invalid, and for no other fault. -/
theorem exists_reason_of_validate {config : Config} {fault : Fault}
    (refused : config.validate = .error fault) : ∃ reason, fault = .invalidConfig reason := by
  unfold validate at refused
  split at refused
  · cases refused
  · next reason _ => exact ⟨reason, (Except.error.inj refused).symm⟩

/-- A configuration passes exactly if its allocation stress has runs, chunks and an octet for each
chunk, and if nothing is read or sampled in empty portions. -/
theorem validate_eq_ok_iff {config : Config} :
    config.validate = .ok () ↔
      1 ≤ config.allocation.runs.toNat ∧ 1 ≤ config.allocation.chunksMax.toNat ∧
        config.allocation.chunksMax.toNat ≤ config.allocation.fillBytes.toNat ∧
        1 ≤ config.media.startupReadChunk.toNat ∧ 1 ≤ config.media.rerunReadChunk.toNat ∧
        1 ≤ config.randomness.sampleSize.toNat := by
  have zero_iff : ∀ word : UInt64, word = 0 ↔ word.toNat = 0 := fun _ => UInt64.toNat_inj.symm
  have passes : config.validate = .ok () ↔ config.problem? = none := by
    unfold validate
    split
    · next none_found => simp [none_found]
    · next reason found => simp [found]
  rw [passes]
  unfold problem?
  simp only [zero_iff, UInt64.lt_iff_toNat_lt]
  repeat' split
  all_goals simp only [reduceCtorEq, false_iff, true_iff]
  all_goals omega

/-- A file gives a configuration exactly if it holds the text of one that passes. -/
theorem ofFile_eq_ok_iff {name : String} {state : FileState} {config : Config} :
    ofFile name state = .ok config ↔
      ∃ text, state.Holds name text ∧ ofText text = .ok config ∧ config.validate = .ok () := by
  unfold ofFile
  constructor
  · intro gives
    split at gives
    · cases gives
    · next text read =>
      split at gives
      · cases gives
      · next parsed told =>
        split at gives
        · cases gives
        · next valid =>
          obtain rfl := Except.ok.inj gives
          exact ⟨text, FileState.readText_eq_ok_iff.mp read, told, valid⟩
  · rintro ⟨text, holds, told, valid⟩
    rw [FileState.readText_eq_ok_iff.mpr holds]
    simp only [told, valid]

/-- A file is rejected with an invalid configuration, whatever is wrong with it. -/
theorem exists_reason_of_ofFile {name : String} {state : FileState} {fault : Fault}
    (rejected : ofFile name state = .error fault) : ∃ reason, fault = .invalidConfig reason := by
  unfold ofFile at rejected
  split at rejected
  · exact ⟨_, (Except.error.inj rejected).symm⟩
  · split at rejected
    · exact ⟨_, (Except.error.inj rejected).symm⟩
    · split at rejected
      · next refused =>
        obtain rfl := Except.error.inj rejected
        exact exists_reason_of_validate refused
      · cases rejected

end Config

/-- A configuration that passes makes an orchestrator that stands before its first stage. -/
theorem Orchestrator.create_of_valid {σ : Type} {config : Config} (valid : config.validate = .ok ())
    (build : Build) (start : σ) :
    create config build start = .ok ⟨config, build, .standard, ⟨.probing, .ofBoard start⟩⟩ := by
  unfold create
  rw [valid]

namespace Loaded

variable {name : String} {state : FileState}

/-- The configuration of a file that gives one is loaded without a fallback. -/
theorem fromFile_of_ok {config : Config} (gives : Config.ofFile name state = .ok config) :
    fromFile name state = ⟨config, some name, none⟩ := by
  unfold fromFile
  rw [gives]

/-- A file that is rejected leaves the standard configuration and the fault. -/
theorem fromFile_of_error {fault : Fault} (rejected : Config.ofFile name state = .error fault) :
    fromFile name state = ⟨.standard, some name, some fault⟩ := by
  unfold fromFile
  rw [rejected]

/-- Whatever is found in a file, the loaded configuration passes. -/
theorem valid_fromFile (name : String) (state : FileState) :
    (fromFile name state).config.validate = .ok () := by
  cases read : Config.ofFile name state with
  | ok config =>
    obtain ⟨-, -, -, valid⟩ := Config.ofFile_eq_ok_iff.mp read
    rw [fromFile_of_ok read]
    exact valid
  | error fault =>
    rw [fromFile_of_error read]
    exact Config.validate_standard

end Loaded

/-- Whatever is found under a name, loading gives a configuration that an orchestrator accepts, and
all loaders agree on it: the configuration that the file's text stands for, if it holds one that is
valid, and otherwise the standard one together with the fault of the file. -/
theorem Loaded.usable_from_any_file (name : String) (state : FileState) :
    let loaded := fromFile name state
    loaded.config.validate = .ok () ∧
      (∀ (σ : Type) (build : Build) (start : σ),
        ∃ orchestrator, Orchestrator.create loaded.config build start = .ok orchestrator) ∧
      (Config.load name state).2 = loaded.config ∧
      loaded.path = some name ∧
      (∀ config, Config.ofFile name state = .ok config ↔
        loaded.fallback = none ∧ loaded.config = config) ∧
      (∀ config, Config.ofFile name state = .ok config ↔ ∃ text, state.Holds name text ∧
        Config.ofText text = .ok config ∧ config.validate = .ok ()) ∧
      (∀ fault, Config.ofFile name state = .error fault ↔ loaded.fallback = some fault) ∧
      ∀ fault, loaded.fallback = some fault →
        loaded.config = .standard ∧ ∃ reason, fault = .invalidConfig reason := by
  intro loaded
  have valid := valid_fromFile name state
  refine ⟨valid, fun σ build start => ⟨_, Orchestrator.create_of_valid valid build start⟩, rfl, ?_⟩
  cases read : Config.ofFile name state with
  | ok config =>
    have whole : loaded = ⟨config, some name, none⟩ := fromFile_of_ok read
    rw [whole]
    refine ⟨rfl, fun other => ?_, fun other => ?_, fun fault => ⟨nofun, nofun⟩, nofun⟩
    · exact ⟨fun same => ⟨rfl, Except.ok.inj same⟩, fun same => congrArg Except.ok same.2⟩
    · rw [← read]
      exact Config.ofFile_eq_ok_iff
  | error fault =>
    have whole : loaded = ⟨.standard, some name, some fault⟩ := fromFile_of_error read
    rw [whole]
    refine ⟨rfl, fun other => ⟨nofun, nofun⟩, fun other => ?_, fun other => ?_, fun other told => ?_⟩
    · rw [← read]
      exact Config.ofFile_eq_ok_iff
    · exact ⟨fun same => congrArg some (Except.error.inj same),
        fun same => congrArg Except.error (Option.some.inj same)⟩
    · obtain rfl := Option.some.inj told
      exact ⟨rfl, Config.exists_reason_of_ofFile read⟩

end BoardDiagnostics
