import BoardDiagnostics.Checks.Run
import BoardDiagnostics.Config.Basic
import BoardDiagnostics.Duration
import BoardDiagnostics.Memory

/-!
# The randomness check

A few samples of the random source are shown, none of which may be all zeros, and a burst of
further draws is timed.  All samples are drawn into one buffer and each draw of the burst into one
of its own; these buffers and the texts in which the samples are shown are demanded of the memory.
The buffer of the samples is the first demand; a draw has one demand of its own, for its text or
for its buffer, and the numbers of the demands follow those of the draws.  The texts are made and
the octets are counted whatever the verbosity, which only decides whether the console shows them.
Lines and reasons that do not grow with the sizes of the check are taken for granted, and so is what
a console makes of them.
-/

set_option autoImplicit false

namespace BoardDiagnostics.RandomnessCheck

/-- A random source: what each draw of so many octets gives, or why it fails. -/
abbrev Source := (size draw : Nat) → Except String Octets

/-- A failure of the source. -/
def sourceFailure (reason : String) : Reasons :=
  (Reasons.of reason).within "reading OS random source"

/-- The room for the digits of a sample, which is that for eight of them at least. -/
def textSize (size : Nat) : Nat := max 8 (2 * size)

/-- The panic of a product that does not fit 64 bits, where arithmetic is checked for that. -/
def productOverflow : Panic := .text "attempt to multiply with overflow"

/-- Take so many samples, beginning with the draw of a number: the lines about them, and how that
ends. -/
def samples (memory : Memory) (source : Source) (size : Nat) :
    Nat → Nat → List Line × Ending CheckResult
  | 0, _ => ([], .ok (.ok ()))
  | count + 1, draw =>
    match source size draw with
    | .error reason => ([], .ok (.error (sourceFailure reason)))
    | .ok sample =>
      if sample.all (· = 0) then
        ([], .ok (.error (.of "random source returned an all-zero sample")))
      else
        match memory.demand (draw + 1) (textSize size) with
        | .error breakoff => ([], .error breakoff)
        | .ok () =>
          let (lines, ending) := samples memory source size count (draw + 1)
          (.info (Text.hex sample) :: lines, ending)

/-- Make so many draws, beginning with the draw of a number, and look only at whether they fail. -/
def draws (memory : Memory) (source : Source) (size : Nat) : Nat → Nat → Ending CheckResult
  | 0, _ => .ok (.ok ())
  | count + 1, draw =>
    match memory.demand (draw + 1) size with
    | .error breakoff => .error breakoff
    | .ok () =>
      match source size draw with
      | .error reason => .ok (.error (sourceFailure reason))
      | .ok _ => draws memory source size count (draw + 1)

/-- The line about a burst of so many octets. -/
def burstLine (octets : Nat) (elapsed : Duration) : Line :=
  .info ("retrieved " ++ toString octets ++ " random bytes in " ++ elapsed.text)

/-- Attempt to check a random source with the memory that there is; the burst took a measured
time. -/
def attempt (memory : Memory) (config : RandomnessConfig) (source : Source) (elapsed : Duration) :
    CheckAttempt :=
  let size := config.sampleSize.toNat
  let shown := config.samplesLogged.toNat
  let timed := config.throughputDraws.toNat
  match memory.demand 0 size with
  | .error breakoff => ⟨[], .error breakoff⟩
  | .ok () =>
    match samples memory source size shown 0 with
    | (lines, .error breakoff) => ⟨lines, .error breakoff⟩
    | (lines, .ok (.error reasons)) => ⟨lines, .ok (.error reasons)⟩
    | (lines, .ok (.ok ())) =>
      match draws memory source size timed shown with
      | .error breakoff => ⟨lines, .error breakoff⟩
      | .ok (.error reasons) => ⟨lines, .ok (.error reasons)⟩
      | .ok (.ok ()) =>
        if 0xffffffffffffffff < size * timed then ⟨lines, .error (.panic productOverflow)⟩
        else ⟨lines ++ [burstLine (size * timed) elapsed], .ok (.ok ())⟩

/-! ## With all the memory that it demands -/

/-- A machine that never runs out aborts no sample. -/
theorem samples_boundless_ne_abort (source : Source) (size count draw : Nat) :
    (samples .boundless source size count draw).2 ≠ .error .abort := by
  induction count generalizing draw with
  | zero => exact nofun
  | succ count ih =>
    unfold samples
    cases source size draw with
    | error reason => exact nofun
    | ok sample =>
      dsimp only
      split
      · exact nofun
      · cases demanded : Memory.boundless.demand (draw + 1) (textSize size) with
        | error breakoff =>
          rintro ⟨⟩
          exact Memory.demand_boundless_ne_abort _ _ demanded
        | ok _ => exact ih (draw + 1)

/-- A machine that never runs out aborts no burst. -/
theorem draws_boundless_ne_abort (source : Source) (size count draw : Nat) :
    draws .boundless source size count draw ≠ .error .abort := by
  induction count generalizing draw with
  | zero => exact nofun
  | succ count ih =>
    unfold draws
    cases demanded : Memory.boundless.demand (draw + 1) size with
    | error breakoff =>
      rintro ⟨⟩
      exact Memory.demand_boundless_ne_abort _ _ demanded
    | ok _ =>
      cases source size draw with
      | error reason => exact nofun
      | ok _ => exact ih (draw + 1)

/-- A machine that never runs out aborts no attempt at the check. -/
theorem attempt_boundless_ne_abort (config : RandomnessConfig) (source : Source)
    (elapsed : Duration) : (attempt .boundless config source elapsed).ending ≠ .error .abort := by
  unfold attempt
  dsimp only
  split
  · next breakoff demanded =>
    rintro ⟨⟩
    exact Memory.demand_boundless_ne_abort _ _ demanded
  split
  · next lines breakoff sampled =>
    rintro ⟨⟩
    exact samples_boundless_ne_abort source _ _ _ (congrArg Prod.snd sampled)
  · exact nofun
  split
  · next breakoff drawn =>
    rintro ⟨⟩
    exact draws_boundless_ne_abort source _ _ _ drawn
  · exact nofun
  split
  · exact nofun
  · exact nofun

/-- Check a random source in a process that is not aborted. -/
def run (config : RandomnessConfig) (source : Source) (elapsed : Duration) : CheckRun :=
  (attempt .boundless config source elapsed).run (attempt_boundless_ne_abort config source elapsed)

end BoardDiagnostics.RandomnessCheck
