import BoardDiagnostics.Config.Writer
import BoardDiagnostics.Proofs.Config.Loading
import BoardDiagnostics.Proofs.Config.Meaning
import BoardDiagnostics.Proofs.Json.Writing

/-!
# Writing a configuration and reading it back

A configuration that is written names every field once and gives it the value that it has, so what
is read is the configuration that was written.  The main statement, `ofText_toText`, says so of
every configuration, whether or not the diagnostics can work with it.
-/

set_option autoImplicit false

namespace BoardDiagnostics

open Json

/-! ### What is written under each key -/

/-- The members of a written timing section. -/
def TimingConfig.written (config : TimingConfig) : List (String × Written) :=
  [("sleep_ms", .natural config.sleepMs.toNat)]

/-- The members of a written randomness section. -/
def RandomnessConfig.written (config : RandomnessConfig) : List (String × Written) :=
  [("sample_size", .natural config.sampleSize.toNat),
    ("samples_logged", .natural config.samplesLogged.toNat),
    ("throughput_draws", .natural config.throughputDraws.toNat)]

/-- A number, or `null`. -/
def writtenSeed (seed : Option UInt64) : Written :=
  match seed with
  | none => .null
  | some n => .natural n.toNat

/-- The members of a written allocation section. -/
def AllocationConfig.written (config : AllocationConfig) : List (String × Written) :=
  [("runs", .natural config.runs.toNat),
    ("chunks_max", .natural config.chunksMax.toNat),
    ("fill_bytes", .natural config.fillBytes.toNat),
    ("seed", writtenSeed config.seed)]

/-- The members of a written media section. -/
def MediaConfig.written (config : MediaConfig) : List (String × Written) :=
  [("byte_count", .natural config.byteCount.toNat),
    ("pre_device_mode_read_chunk", .natural config.startupReadChunk.toNat),
    ("post_device_mode_read_chunk", .natural config.rerunReadChunk.toNat),
    ("targets", .list (config.targets.map .string))]

/-- The members of a written configuration, with those of its sections inside. -/
def Config.written (config : Config) : List (String × Written) :=
  [("verbose", .truth config.verbose),
    ("target_cpu_mhz", .natural config.targetCpuMhz.toNat),
    ("timing", .object config.timing.written),
    ("rng", .object config.randomness.written),
    ("alloc", .object config.allocation.written),
    ("media", .object config.media.written)]

/-- The members that are written. -/
def membersOf (written : List (String × Written)) : List (Option String × Value) :=
  written.map fun member => (some member.1, member.2.value)

/-- All members that are written have a name. -/
theorem named_membersOf (written : List (String × Written)) :
    ∀ member ∈ membersOf written, member.1.isSome = true := by
  intro member inside
  obtain ⟨own, -, rfl⟩ := List.mem_map.mp inside
  rfl

/-! ### The text -/

/-- A seed is written as its number, and none as the word for nothing. -/
theorem text_writtenSeed (seed : Option UInt64) :
    (writtenSeed seed).text = writeOptional (seed.map writeWord) := by
  cases seed with
  | none => rfl
  | some n => rfl

/-- The allocation section is written member by member. -/
theorem AllocationConfig.toChars_eq (config : AllocationConfig) :
    config.toChars = (Written.object config.written).text := by
  rw [toChars, ← text_writtenSeed]
  rfl

/-- The media section is written member by member. -/
theorem MediaConfig.toChars_eq (config : MediaConfig) :
    config.toChars = (Written.object config.written).text := by
  have targets : config.targets.map writeString =
      (config.targets.map Written.string).map Written.text := by
    rw [List.map_map]
    rfl
  rw [toChars, targets]
  rfl

/-- A written configuration spells the object of its fields. -/
theorem Config.spells_toChars (config : Config) :
    Spells (.object (membersOf config.written)) config.toChars := by
  have text : config.toChars = (Written.object config.written).text := by
    rw [toChars, AllocationConfig.toChars_eq, MediaConfig.toChars_eq]
    rfl
  rw [text]
  exact (Written.object config.written).spells

/-! ### What is read -/

/-- A number that is written is read back by anything wide enough for it. -/
theorem natural?_written (n bits : Nat) (fits : n < 1 <<< bits) :
    (Written.natural n).value.natural? bits = some n :=
  Value.natural?_eq_some_iff.mpr ⟨.ofNatural n, rfl, NumberLiteral.natural?_ofNatural n, fits⟩

/-- A word is read back from its number. -/
theorem natural?_word (word : UInt64) :
    (Written.natural word.toNat).value.natural? 64 = some word.toNat :=
  natural?_written _ 64 word.toNat_lt

/-- A seed is read back, and so is the lack of one. -/
theorem optional?_writtenSeed (seed : Option UInt64) :
    (writtenSeed seed).value.optional? (Value.natural? 64) = some (seed.map UInt64.toNat) := by
  cases seed with
  | none => rfl
  | some n => exact congrArg (Option.map some) (natural?_word n)

/-- A list of texts is read back text by text. -/
theorem list?_texts (texts : List String) :
    (Written.list (texts.map .string)).value.list? Value.text? = some texts := by
  refine Value.mapM_text?_eq_some_iff.mpr ?_
  rw [List.map_map]
  rfl

namespace Config

/-- The timing section is read back as it was written. -/
theorem timingSchema_written (config : TimingConfig) :
    timingSchema.ofMembers? (membersOf config.written) = some config := by
  refine Schema.ofMembers?_of_given (named_membersOf _) ?_
  simp only [timingSchema, List.forall_mem_cons]
  exact ⟨⟨_, rfl, natural?_word _⟩, List.forall_mem_nil _⟩

/-- The randomness section is read back as it was written. -/
theorem randomnessSchema_written (config : RandomnessConfig) :
    randomnessSchema.ofMembers? (membersOf config.written) = some config := by
  refine Schema.ofMembers?_of_given (named_membersOf _) ?_
  simp only [randomnessSchema, List.forall_mem_cons]
  exact ⟨⟨_, rfl, natural?_word _⟩, ⟨_, rfl, natural?_word _⟩, ⟨_, rfl, natural?_word _⟩,
    List.forall_mem_nil _⟩

/-- The allocation section is read back as it was written. -/
theorem allocationSchema_written (config : AllocationConfig) :
    allocationSchema.ofMembers? (membersOf config.written) = some config := by
  refine Schema.ofMembers?_of_given (named_membersOf _) ?_
  simp only [allocationSchema, List.forall_mem_cons]
  exact ⟨⟨_, rfl, natural?_word _⟩, ⟨_, rfl, natural?_word _⟩, ⟨_, rfl, natural?_word _⟩,
    ⟨_, rfl, optional?_writtenSeed _⟩, List.forall_mem_nil _⟩

/-- The media section is read back as it was written. -/
theorem mediaSchema_written (config : MediaConfig) :
    mediaSchema.ofMembers? (membersOf config.written) = some config := by
  refine Schema.ofMembers?_of_given (named_membersOf _) ?_
  simp only [mediaSchema, List.forall_mem_cons]
  exact ⟨⟨_, rfl, natural?_word _⟩, ⟨_, rfl, natural?_word _⟩, ⟨_, rfl, natural?_word _⟩,
    ⟨_, rfl, list?_texts _⟩, List.forall_mem_nil _⟩

/-- A configuration is read back as it was written, section by section. -/
theorem schema_written (config : Config) :
    schema.ofMembers? (membersOf config.written) = some config := by
  refine Schema.ofMembers?_of_given (named_membersOf _) ?_
  simp only [schema, List.forall_mem_cons]
  refine ⟨⟨_, rfl, ?_⟩, ⟨_, rfl, natural?_written _ 32 config.targetCpuMhz.toNat_lt⟩,
    ⟨_, rfl, timingSchema_written _⟩, ⟨_, rfl, randomnessSchema_written _⟩,
    ⟨_, rfl, allocationSchema_written _⟩, ⟨_, rfl, mediaSchema_written _⟩, List.forall_mem_nil _⟩
  rfl

/-- No section is written as an array. -/
theorem noArraySection_written (config : Config) : NoArraySection (membersOf config.written) := by
  intro key known value inside
  simp only [List.mem_cons, List.not_mem_nil, or_false] at known
  rcases known with rfl | rfl | rfl | rfl
  all_goals
    obtain rfl := List.mem_singleton.mp inside
    rfl

/-- The text of a configuration is a document, from which the reader takes that configuration. -/
theorem ofText_written (config : Config) : ofText config.toText = .ok config := by
  have document : IsDocument (.object (membersOf config.written)) config.toText.toList := by
    refine ⟨⟨.none, _, config.toChars, .none⟩, rfl, ?_, config.spells_toChars⟩
    simp [Element.chars, Blanks.none, toText]
  have reads := toOption_ofText document (noArraySection_written config)
  rw [schema_written] at reads
  exact eq_ok_of_toOption reads

/-- Every configuration is read back from its text as it was written, whatever its numbers and
strings are and whether or not it is valid.  So no two configurations have the same text, and a file
with the text of a valid configuration is loaded as that configuration, without a fallback. -/
theorem ofText_toText (config : Config) :
    ofText config.toText = .ok config ∧
      (∀ other : Config, other.toText = config.toText → other = config) ∧
      ∀ (name : String) (state : FileState), config.validate = .ok () →
        state.Holds name config.toText →
          Loaded.fromFile name state = ⟨config, some name, none⟩ := by
  have reads := ofText_written config
  refine ⟨reads, fun other same => ?_, fun name state valid holds => ?_⟩
  · have other_reads := ofText_written other
    rw [same, reads] at other_reads
    exact (Except.ok.inj other_reads).symm
  · exact Loaded.fromFile_of_ok (ofFile_eq_ok_iff.mpr ⟨config.toText, holds, reads, valid⟩)

/-- A seed at the limit, a target without characters, and one with characters of every kind: two
that have to be escaped, two controls, and one beyond ASCII. -/
theorem ofText_toText_of_hostile_targets :
    let config : Config := {
      allocation := { seed := some 18446744073709551615 }
      media := { targets := ["", "\"\\\n\x01é"] } }
    let file : FileState := .holds (octetsOfText config.toText)
    config.media.toChars = ("\x7b\"byte_count\":10485760,\"pre_device_mode_read_chunk\":32767," ++
        "\"post_device_mode_read_chunk\":130560," ++
        "\"targets\":[\"\",\"\\\"\\\\\\n\\u0001é\"]\x7d").toList ∧
      ofText config.toText = .ok config ∧
      config.validate = .ok () ∧ file.Holds "settings.json" config.toText ∧
      Loaded.fromFile "settings.json" file = ⟨config, some "settings.json", none⟩ := by
  intro config file
  have valid : config.validate = .ok () := rfl
  have holds : file.Holds "settings.json" config.toText := ⟨by decide, by decide, rfl⟩
  obtain ⟨reads, -, loads⟩ := ofText_toText config
  exact ⟨by decide +kernel, reads, valid, holds, loads _ _ valid holds⟩

end Config

end BoardDiagnostics
