import BoardDiagnostics.Config.Reader
import BoardDiagnostics.Proofs.Json.Slots

/-!
# The meaning of a configuration file

Which JSON objects are configurations, and what each of their members sets.  A field has the value
that is written under its key in its section; without one it has its standard value.
-/

set_option autoImplicit false

namespace BoardDiagnostics

open Json

attribute [ext] TimingConfig RandomnessConfig AllocationConfig MediaConfig Config

/-! ### What the members of an object set -/

/-- The members of a timing section set its field. -/
structure TimingConfig.IsGivenBy (members : List (Option String × Value)) (config : TimingConfig) :
    Prop where
  sleepMs : Given (Value.natural? 64) 100 (under "sleep_ms" members) config.sleepMs.toNat

/-- The members of a randomness section set its fields. -/
structure RandomnessConfig.IsGivenBy (members : List (Option String × Value))
    (config : RandomnessConfig) : Prop where
  sampleSize : Given (Value.natural? 64) 32 (under "sample_size" members) config.sampleSize.toNat
  samplesLogged :
    Given (Value.natural? 64) 10 (under "samples_logged" members) config.samplesLogged.toNat
  throughputDraws :
    Given (Value.natural? 64) 1000 (under "throughput_draws" members) config.throughputDraws.toNat

/-- The members of an allocation section set its fields. -/
structure AllocationConfig.IsGivenBy (members : List (Option String × Value))
    (config : AllocationConfig) : Prop where
  runs : Given (Value.natural? 64) 9 (under "runs" members) config.runs.toNat
  chunksMax : Given (Value.natural? 64) 50 (under "chunks_max" members) config.chunksMax.toNat
  fillBytes :
    Given (Value.natural? 64) 167772160 (under "fill_bytes" members) config.fillBytes.toNat
  seed : Given (Value.optional? (Value.natural? 64)) none (under "seed" members)
    (config.seed.map UInt64.toNat)

/-- The members of a media section set its fields. -/
structure MediaConfig.IsGivenBy (members : List (Option String × Value)) (config : MediaConfig) :
    Prop where
  byteCount : Given (Value.natural? 64) 10485760 (under "byte_count" members) config.byteCount.toNat
  startupReadChunk : Given (Value.natural? 64) 32767 (under "pre_device_mode_read_chunk" members)
    config.startupReadChunk.toNat
  rerunReadChunk : Given (Value.natural? 64) 130560 (under "post_device_mode_read_chunk" members)
    config.rerunReadChunk.toNat
  targets : Given (Value.list? Value.text?) ["usdhc1", "usdhc2"] (under "targets" members)
    config.targets

/-- The members of an object set the fields of a configuration, those of a section in the object
under the key of the section. -/
structure Config.IsGivenBy (members : List (Option String × Value)) (config : Config) : Prop where
  verbose : Given Value.truth? true (under "verbose" members) config.verbose
  targetCpuMhz :
    Given (Value.natural? 32) 900 (under "target_cpu_mhz" members) config.targetCpuMhz.toNat
  timing : config.timing.IsGivenBy (membersUnder "timing" members)
  randomness : config.randomness.IsGivenBy (membersUnder "rng" members)
  allocation : config.allocation.IsGivenBy (membersUnder "alloc" members)
  media : config.media.IsGivenBy (membersUnder "media" members)

namespace Config

/-- The kind of the objects that are configurations. -/
def kind : Kind :=
  .record [
    ("verbose", .truth),
    ("target_cpu_mhz", .natural 32),
    ("timing", .record [("sleep_ms", .natural 64)]),
    ("rng", .record [
      ("sample_size", .natural 64),
      ("samples_logged", .natural 64),
      ("throughput_draws", .natural 64)]),
    ("alloc", .record [
      ("runs", .natural 64),
      ("chunks_max", .natural 64),
      ("fill_bytes", .natural 64),
      ("seed", .optional 64)]),
    ("media", .record [
      ("byte_count", .natural 64),
      ("pre_device_mode_read_chunk", .natural 64),
      ("post_device_mode_read_chunk", .natural 64),
      ("targets", .texts)])]

/-- No section is written as an array. -/
def NoArraySection (members : List (Option String × Value)) : Prop :=
  ∀ key ∈ ["timing", "rng", "alloc", "media"], ∀ value ∈ under key members, value.isArray = false

/-! ### Schemas -/

/-- A slot for a number of 64 bits. -/
def wordSlot {ρ : Type} (key : String) (get : ρ → UInt64) (set : UInt64 → ρ → ρ)
    (get_set : ∀ word record, get (set word record) = word) : Slot ρ :=
  naturalSlot key 64 (fun record => (get record).toNat) (fun n => set (UInt64.ofNat n))
    fun n fits record => by
      rw [get_set]
      exact UInt64.toNat_ofNat_of_lt fits

/-- The field of a word reads what its slot means. -/
theorem matches_wordSlot {ρ : Type} (key : String) (get : ρ → UInt64) (set : UInt64 → ρ → ρ)
    (get_set : ∀ word record, get (set word record) = word) :
    (sizeField key set).Matches (wordSlot key get set get_set) :=
  matches_naturalSlot key (by decide) _ _ _

/-- The slots of the timing section. -/
def timingSchema : Schema TimingConfig where
  standard := {}
  slots := [wordSlot "sleep_ms" (·.sleepMs) (fun n c => { c with sleepMs := n }) fun _ _ => rfl]
  distinct := List.nodup_singleton _
  get_set_of_ne := by
    intro slot slot_mem other other_mem ne
    rw [List.mem_singleton.mp slot_mem, List.mem_singleton.mp other_mem] at ne
    exact absurd rfl ne
  ext record other same := TimingConfig.ext (UInt64.toNat_inj.mp (same _ List.mem_cons_self))

/-- The reader of the timing section follows its schema. -/
theorem timingForm_follows : timingForm.Follows timingSchema :=
  ⟨rfl, .cons (matches_naturalSlot "sleep_ms" (by decide) _ _ _) .nil⟩

/-- The slots of the randomness section. -/
def randomnessSchema : Schema RandomnessConfig where
  standard := {}
  slots := [
    wordSlot "sample_size" (·.sampleSize) (fun n c => { c with sampleSize := n }) fun _ _ => rfl,
    wordSlot "samples_logged" (·.samplesLogged) (fun n c => { c with samplesLogged := n })
      fun _ _ => rfl,
    wordSlot "throughput_draws" (·.throughputDraws) (fun n c => { c with throughputDraws := n })
      fun _ _ => rfl]
  distinct := by decide
  get_set_of_ne := by
    intro slot slot_mem other other_mem ne
    simp only [List.mem_cons, List.not_mem_nil, or_false] at slot_mem other_mem
    rcases slot_mem with rfl | rfl | rfl <;> rcases other_mem with rfl | rfl | rfl
    all_goals first | exact absurd rfl ne | exact fun _ _ => rfl
  ext := by
    intro record other same
    simp only [List.forall_mem_cons] at same
    obtain ⟨size, logged, draws, -⟩ := same
    exact RandomnessConfig.ext (UInt64.toNat_inj.mp size) (UInt64.toNat_inj.mp logged)
      (UInt64.toNat_inj.mp draws)

/-- The reader of the randomness section follows its schema. -/
theorem randomnessForm_follows : randomnessForm.Follows randomnessSchema :=
  ⟨rfl, .cons (matches_wordSlot _ _ _ _) <| .cons (matches_wordSlot _ _ _ _) <|
    .cons (matches_wordSlot _ _ _ _) .nil⟩

/-- An optional number of 64 bits is kept as it is. -/
theorem map_toNat_map_ofNat (n : Option Nat) (fits : ∀ m, n = some m → m < 1 <<< 64) :
    (n.map UInt64.ofNat).map UInt64.toNat = n := by
  cases n with
  | none => rfl
  | some m => exact congrArg some (UInt64.toNat_ofNat_of_lt (fits m rfl))

/-- The slots of the allocation section. -/
def allocationSchema : Schema AllocationConfig where
  standard := {}
  slots := [
    wordSlot "runs" (·.runs) (fun n c => { c with runs := n }) fun _ _ => rfl,
    wordSlot "chunks_max" (·.chunksMax) (fun n c => { c with chunksMax := n }) fun _ _ => rfl,
    wordSlot "fill_bytes" (·.fillBytes) (fun n c => { c with fillBytes := n }) fun _ _ => rfl,
    optionalSlot "seed" 64 (fun c => c.seed.map UInt64.toNat)
      (fun n c => { c with seed := n.map UInt64.ofNat }) fun n fits _ => map_toNat_map_ofNat n fits]
  distinct := by decide
  get_set_of_ne := by
    intro slot slot_mem other other_mem ne
    simp only [List.mem_cons, List.not_mem_nil, or_false] at slot_mem other_mem
    rcases slot_mem with rfl | rfl | rfl | rfl <;> rcases other_mem with rfl | rfl | rfl | rfl
    all_goals first | exact absurd rfl ne | exact fun _ _ => rfl
  ext := by
    intro record other same
    simp only [List.forall_mem_cons] at same
    obtain ⟨runs, chunks, fill, seed, -⟩ := same
    have toNat_injective : Function.Injective UInt64.toNat := fun _ _ => UInt64.toNat_inj.mp
    exact AllocationConfig.ext (UInt64.toNat_inj.mp runs) (UInt64.toNat_inj.mp chunks)
      (UInt64.toNat_inj.mp fill) (Option.map_injective toNat_injective seed)

/-- The reader of the allocation section follows its schema. -/
theorem allocationForm_follows : allocationForm.Follows allocationSchema :=
  ⟨rfl, .cons (matches_wordSlot _ _ _ _) <| .cons (matches_wordSlot _ _ _ _) <|
    .cons (matches_wordSlot _ _ _ _) <| .cons (matches_optionalSlot _ (by decide) _ _ _) .nil⟩

/-- The slots of the media section. -/
def mediaSchema : Schema MediaConfig where
  standard := {}
  slots := [
    wordSlot "byte_count" (·.byteCount) (fun n c => { c with byteCount := n }) fun _ _ => rfl,
    wordSlot "pre_device_mode_read_chunk" (·.startupReadChunk)
      (fun n c => { c with startupReadChunk := n }) fun _ _ => rfl,
    wordSlot "post_device_mode_read_chunk" (·.rerunReadChunk)
      (fun n c => { c with rerunReadChunk := n }) fun _ _ => rfl,
    textsSlot "targets" (·.targets) (fun names c => { c with targets := names }) fun _ _ => rfl]
  distinct := by decide
  get_set_of_ne := by
    intro slot slot_mem other other_mem ne
    simp only [List.mem_cons, List.not_mem_nil, or_false] at slot_mem other_mem
    rcases slot_mem with rfl | rfl | rfl | rfl <;> rcases other_mem with rfl | rfl | rfl | rfl
    all_goals first | exact absurd rfl ne | exact fun _ _ => rfl
  ext := by
    intro record other same
    simp only [List.forall_mem_cons] at same
    obtain ⟨count, startup, rerun, targets, -⟩ := same
    exact MediaConfig.ext (UInt64.toNat_inj.mp count) (UInt64.toNat_inj.mp startup)
      (UInt64.toNat_inj.mp rerun) targets

/-- The reader of the media section follows its schema. -/
theorem mediaForm_follows : mediaForm.Follows mediaSchema :=
  ⟨rfl, .cons (matches_wordSlot _ _ _ _) <| .cons (matches_wordSlot _ _ _ _) <|
    .cons (matches_wordSlot _ _ _ _) <| .cons (matches_textsSlot _ _ _ _) .nil⟩

/-- The slots of a configuration, its sections among them. -/
def schema : Schema Config where
  standard := .standard
  slots := [
    truthSlot "verbose" (·.verbose) (fun b c => { c with verbose := b }) fun _ _ => rfl,
    naturalSlot "target_cpu_mhz" 32 (·.targetCpuMhz.toNat)
      (fun n c => { c with targetCpuMhz := UInt32.ofNat n })
      fun _ fits _ => UInt32.toNat_ofNat_of_lt fits,
    sectionSlot "timing" timingSchema (·.timing) (fun t c => { c with timing := t })
      fun _ _ => rfl,
    sectionSlot "rng" randomnessSchema (·.randomness) (fun r c => { c with randomness := r })
      fun _ _ => rfl,
    sectionSlot "alloc" allocationSchema (·.allocation) (fun a c => { c with allocation := a })
      fun _ _ => rfl,
    sectionSlot "media" mediaSchema (·.media) (fun m c => { c with media := m }) fun _ _ => rfl]
  distinct := by decide
  get_set_of_ne := by
    intro slot slot_mem other other_mem ne
    simp only [List.mem_cons, List.not_mem_nil, or_false] at slot_mem other_mem
    rcases slot_mem with rfl | rfl | rfl | rfl | rfl | rfl <;>
      rcases other_mem with rfl | rfl | rfl | rfl | rfl | rfl
    all_goals first | exact absurd rfl ne | exact fun _ _ => rfl
  ext := by
    intro record other same
    simp only [List.forall_mem_cons] at same
    obtain ⟨verbose, clock, timing, randomness, allocation, media, -⟩ := same
    exact Config.ext verbose (UInt32.toNat_inj.mp clock) timing randomness allocation media

/-- The reader of a configuration follows its schema, section by section. -/
theorem form_follows : form.Follows schema := by
  refine ⟨rfl, .cons (matches_truthSlot _ _ _ _) <|
    .cons (matches_naturalSlot "target_cpu_mhz" (by decide) _ _ _) <|
    .cons (matches_sectionSlot _ timingForm_follows ?_ _ _ _) <|
    .cons (matches_sectionSlot _ randomnessForm_follows ?_ _ _ _) <|
    .cons (matches_sectionSlot _ allocationForm_follows ?_ _ _ _) <|
    .cons (matches_sectionSlot _ mediaForm_follows ?_ _ _ _) .nil⟩
  · simp only [timingSchema, List.forall_mem_cons]
    exact ⟨rfl, nofun⟩
  · simp only [randomnessSchema, List.forall_mem_cons]
    exact ⟨rfl, rfl, rfl, nofun⟩
  · simp only [allocationSchema, List.forall_mem_cons]
    exact ⟨rfl, rfl, rfl, rfl, nofun⟩
  · simp only [mediaSchema, List.forall_mem_cons]
    exact ⟨rfl, rfl, rfl, rfl, nofun⟩

/-- The schema of a configuration names the kind that the reader names. -/
theorem schema_kind : schema.kind = kind := rfl

/-! ### What the schemas make of members -/

section

variable {members : List (Option String × Value)}

/-- What the schema makes of the timing section is given by its members and the standard values. -/
theorem timing_isGivenBy {config : TimingConfig}
    (made : timingSchema.ofMembers? members = some config) : config.IsGivenBy members := by
  have given := Schema.given_of_ofMembers? made
  simp only [timingSchema, List.forall_mem_cons] at given
  obtain ⟨sleep, -⟩ := given
  exact ⟨sleep⟩

/-- What the schema makes of the randomness section is given by its members and the standard values.
-/
theorem randomness_isGivenBy {config : RandomnessConfig}
    (made : randomnessSchema.ofMembers? members = some config) : config.IsGivenBy members := by
  have given := Schema.given_of_ofMembers? made
  simp only [randomnessSchema, List.forall_mem_cons] at given
  obtain ⟨size, logged, draws, -⟩ := given
  exact ⟨size, logged, draws⟩

/-- What the schema makes of the allocation section is given by its members and the standard values.
-/
theorem allocation_isGivenBy {config : AllocationConfig}
    (made : allocationSchema.ofMembers? members = some config) : config.IsGivenBy members := by
  have given := Schema.given_of_ofMembers? made
  simp only [allocationSchema, List.forall_mem_cons] at given
  obtain ⟨runs, chunks, fill, seed, -⟩ := given
  exact ⟨runs, chunks, fill, seed⟩

/-- What the schema makes of the media section is given by its members and the standard values. -/
theorem media_isGivenBy {config : MediaConfig}
    (made : mediaSchema.ofMembers? members = some config) : config.IsGivenBy members := by
  have given := Schema.given_of_ofMembers? made
  simp only [mediaSchema, List.forall_mem_cons] at given
  obtain ⟨count, startup, rerun, targets, -⟩ := given
  exact ⟨count, startup, rerun, targets⟩

/-- What the schema makes of a document is given by its members and the standard values. -/
theorem isGivenBy_of_ofMembers? {config : Config}
    (made : schema.ofMembers? members = some config) : config.IsGivenBy members := by
  have given := Schema.given_of_ofMembers? made
  simp only [schema, List.forall_mem_cons] at given
  obtain ⟨verbose, clock, timing, randomness, allocation, media, -⟩ := given
  refine ⟨verbose, clock, ?_, ?_, ?_, ?_⟩
  · exact timing_isGivenBy (Schema.ofMembers?_membersUnder timing)
  · exact randomness_isGivenBy (Schema.ofMembers?_membersUnder randomness)
  · exact allocation_isGivenBy (Schema.ofMembers?_membersUnder allocation)
  · exact media_isGivenBy (Schema.ofMembers?_membersUnder media)

/-- A text is read as the schema takes up the members of the object that it spells. -/
theorem toOption_ofText {text : String} (document : IsDocument (.object members) text.toList)
    (sections : NoArraySection members) :
    (ofText text).toOption = schema.ofMembers? members := by
  have plain : ∀ slot ∈ schema.slots, ∀ value ∈ under slot.key members,
      slot.kind.isRecord = true → value.isArray = false := by
    simp only [schema, List.forall_mem_cons]
    -- The first two slots are no records.
    refine ⟨fun _ _ => nofun, fun _ _ => nofun, ?_, ?_, ?_, ?_, nofun⟩
    · exact fun value inside _ => sections "timing" (by decide) value inside
    · exact fun value inside _ => sections "rng" (by decide) value inside
    · exact fun value inside _ => sections "alloc" (by decide) value inside
    · exact fun value inside _ => sections "media" (by decide) value inside
  have reads := readWhole_document (RecordForm.understands_object form_follows members plain)
    document
  unfold ofText readChars
  rw [← reads]
  cases readWhole form.read text.toList with
  | error failure => rfl
  | ok config => rfl

end

/-- The meaning of a configuration file.  For every JSON text of an object none of whose sections is
an array: it is read exactly if no known key is repeated in its object and the value under every
known key is of the kind of its field; what is read has in each field the value under its key in its
section, or the standard value if there is none; and objects that differ in the order of members and
in unknown members alone are read alike, however they are spelled. -/
theorem ofText_means {text : String} {members : List (Option String × Value)}
    (document : IsDocument (.object members) text.toList) (sections : NoArraySection members) :
    ((∃ config, ofText text = .ok config) ↔ Fits kind (.object members)) ∧
    (∀ config, ofText text = .ok config → config.IsGivenBy members) ∧
    ∀ (otherText : String) (others : List (Option String × Value)),
      IsDocument (.object others) otherText.toList → NoArraySection others →
      Alike kind (.object members) (.object others) →
      (ofText text).toOption = (ofText otherText).toOption := by
  have reads := toOption_ofText document sections
  refine ⟨?_, ?_, ?_⟩
  · rw [← schema_kind, ← Schema.ofMembers?_isSome_iff, ← reads]
    cases ofText text with
    | error reason => exact ⟨nofun, nofun⟩
    | ok config => exact ⟨fun _ => rfl, fun _ => ⟨config, rfl⟩⟩
  · intro config read
    rw [read] at reads
    exact isGivenBy_of_ofMembers? reads.symm
  · intro otherText others other_document other_sections alike
    rw [reads, toOption_ofText other_document other_sections]
    rw [← schema_kind] at alike
    exact Schema.ofValue?_congr alike

/-! ### A file with one section -/

/-- A file that sets one field of one section, with a member that nobody knows. -/
def partialFile : String := "\x7b\"rng\":\x7b\"sample_size\":7\x7d,\"note\":[]\x7d"

/-- The same file without that member. -/
def shorterFile : String := "\x7b\"rng\":\x7b\"sample_size\":7\x7d\x7d"

/-- A member without blanks, whose name is written without escapes. -/
def bareMember (name : List Char)
    (bare : ∀ c ∈ name, c ≠ '"' ∧ c ≠ '\\' ∧ 0x20 ≤ c.toNat) (value : Value) (text : List Char) :
    Member where
  before := .none
  name := name.pmap (fun c plain => .plain c plain.1 plain.2.1 plain.2.2) bare
  gap := .none
  element := ⟨.none, value, text, .none⟩

/-- The number of the file as it is written. -/
def seven : NumberLiteral := ⟨false, ⟨['7'], by simp, by simp⟩, by simp, none, none⟩

/-- The field that the file sets. -/
def sampleSizeMember : Member :=
  bareMember "sample_size".toList (by simp) (.number seven) ['7']

/-- The section that the file has. -/
def randomnessMember : Member :=
  bareMember "rng".toList (by simp) (.object [sampleSizeMember.meant])
    ('{' :: (sampleSizeMember.chars ++ ['}']))

/-- The member that nobody knows. -/
def noteMember : Member := bareMember "note".toList (by simp) (.array []) ['[', ']']

/-- The section of the file below is a spelling of its value. -/
theorem spells_randomnessMember :
    Spells randomnessMember.element.value randomnessMember.element.text := by
  refine .object sampleSizeMember [] ?_
  intro member inside
  rw [List.mem_singleton.mp inside]
  exact .number seven

/-- The file sets the field it names and leaves the others at their standard values, and the member
that nobody knows makes no difference. -/
theorem ofText_means_in_partial_file :
    ∃ config, ofText partialFile = .ok config ∧ config.randomness.sampleSize.toNat = 7 ∧
      config.randomness.samplesLogged.toNat = 10 ∧ config.targetCpuMhz.toNat = 900 ∧
      ofText shorterFile = .ok config := by
  have document :
      IsDocument (.object [randomnessMember.meant, noteMember.meant]) partialFile.toList := by
    refine ⟨⟨.none, _, _, .none⟩, rfl, rfl, .object randomnessMember [noteMember] ?_⟩
    intro member inside
    simp only [List.mem_cons, List.not_mem_nil, or_false] at inside
    rcases inside with rfl | rfl
    · exact spells_randomnessMember
    · exact .emptyArray .none
  have sections : NoArraySection [randomnessMember.meant, noteMember.meant] := by
    unfold NoArraySection
    decide
  have other_sections : NoArraySection [randomnessMember.meant] := by
    unfold NoArraySection
    decide
  obtain ⟨reads_iff, given, alike_reads⟩ := ofText_means document sections
  have fits : Fits kind (.object [randomnessMember.meant, noteMember.meant]) := by
    rw [← schema_kind, ← Schema.ofMembers?_isSome_iff]
    decide
  obtain ⟨config, read⟩ := reads_iff.mpr fits
  have fields := given config read
  have size := Given.unique (.refl _) fields.randomness.sampleSize (.present rfl)
  have logged := Given.unique (.refl _) fields.randomness.samplesLogged .absent
  have clock := Given.unique (.refl _) fields.targetCpuMhz .absent
  refine ⟨config, read, size, logged, clock, ?_⟩
  have other_document : IsDocument (.object [randomnessMember.meant]) shorterFile.toList := by
    refine ⟨⟨.none, _, _, .none⟩, rfl, rfl, .object randomnessMember [] ?_⟩
    intro member inside
    rw [List.mem_singleton.mp inside]
    exact spells_randomnessMember
  have alike : Alike kind (.object [randomnessMember.meant, noteMember.meant])
      (.object [randomnessMember.meant]) :=
    .trans (.order _ (.swap noteMember.meant randomnessMember.meant []))
      (.unknown (by decide) _ _)
  have same := alike_reads _ _ other_document other_sections alike
  rw [read] at same
  exact eq_ok_of_toOption same.symm

end Config

end BoardDiagnostics
