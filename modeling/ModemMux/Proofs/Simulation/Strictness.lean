import ModemMux.CommandLine
import ModemMux.Proofs.Simulation.Failure

/-!
# Strict runs

A plain run takes every step of a scenario, and so the outcome of each is what the step does after
those before it (`Rig.getElem?_performAll`). A strict run does with its steps what the plain run
does (`Rig.performStrict_eq_ok`), but only up to the first one that fails
(`Rig.performStrict_eq_error`). A failure is reported with the word by which the scenario itself
calls the step (`Step.named_label`). `CommandLine.play_agrees` draws the consequence for what the
program prints and for its exit code.
-/

namespace ModemMux

namespace Rig

variable {rig : Rig} {memory : Memory} {index : Nat} {step : Step} {steps : List Step}

/-! ## Every step -/

/-- There is an outcome for every step, whether it fails or not. -/
theorem length_performAll (memory : Memory) (index : Nat) (steps : List Step) (rig : Rig) :
    (rig.performAll memory index steps).1.length = steps.length := by
  have hsteps := congrArg List.length (map_step_performAll memory index steps rig)
  rwa [List.length_map] at hsteps

theorem performAll_cons (memory : Memory) (index : Nat) (step : Step) (steps : List Step)
    (rig : Rig) :
    rig.performAll memory index (step :: steps) =
      (⟨index, step, (rig.perform memory step).1⟩ ::
        ((rig.perform memory step).2.performAll memory (index + 1) steps).1,
        ((rig.perform memory step).2.performAll memory (index + 1) steps).2) := rfl

/-- The first steps do in a run what they do on their own. -/
theorem performAll_take (memory : Memory) (index i : Nat) (steps : List Step) (rig : Rig) :
    (rig.performAll memory index (steps.take i)).1 =
      (rig.performAll memory index steps).1.take i := by
  induction steps generalizing rig index i with
  | nil => simp [performAll]
  | cons step steps ih =>
    cases i with
    | zero => rfl
    | succ i => simp only [List.take_succ_cons, performAll, ih]

/-- An outcome bears its number and its step, and says what the step does after those before it. -/
theorem getElem?_performAll (memory : Memory) (index i : Nat) (steps : List Step) (rig : Rig) :
    (rig.performAll memory index steps).1[i]? = steps[i]?.map fun step ↦
      ⟨index + i, step,
        ((rig.performAll memory index (steps.take i)).2.perform memory step).1⟩ := by
  induction steps generalizing rig index i with
  | nil => rfl
  | cons step steps ih =>
    cases i with
    | zero => rfl
    | succ i =>
      simp only [List.take_succ_cons, performAll, List.getElem?_cons_succ, ih]
      rw [Nat.add_assoc, Nat.add_comm 1]

/-! ## Steps up to one that fails -/

/-- A strict run ends at the first step that fails. -/
theorem performStrict_cons_of_error {failure : StepFailure}
    (h : (rig.perform memory step).1 = .error failure) (index : Nat) (steps : List Step) :
    rig.performStrict memory index (step :: steps) = .error ⟨index, step, failure⟩ := by
  have hpair : rig.perform memory step = (.error failure, (rig.perform memory step).2) :=
    Prod.ext h rfl
  rw [performStrict, hpair]

/-- A strict run goes on behind a step that does not fail. -/
theorem performStrict_cons_of_ok {result : StepResult}
    (h : (rig.perform memory step).1 = .ok result) (index : Nat) (steps : List Step) :
    rig.performStrict memory index (step :: steps) =
      ((rig.perform memory step).2.performStrict memory (index + 1) steps).map
        fun rest ↦ (⟨index, step, .ok result⟩ :: rest.1, rest.2) := by
  have hpair : rig.perform memory step = (.ok result, (rig.perform memory step).2) :=
    Prod.ext h rfl
  rw [performStrict, hpair]
  dsimp only
  cases (rig.perform memory step).2.performStrict memory (index + 1) steps <;> rfl

theorem exists_of_isOk (h : (⟨index, step, (rig.perform memory step).1⟩ : Outcome).isOk) :
    ∃ result, (rig.perform memory step).1 = .ok result := by
  cases hanswer : (rig.perform memory step).1 with
  | error failure =>
    rw [hanswer] at h
    cases h
  | ok result => exact ⟨result, rfl⟩

/-- Where no step fails, each is taken. -/
theorem performStrict_eq_ok (h : ∀ o ∈ (rig.performAll memory index steps).1, o.isOk) :
    rig.performStrict memory index steps = .ok (rig.performAll memory index steps) := by
  induction steps generalizing rig index with
  | nil => rfl
  | cons step steps ih =>
    rw [performAll_cons] at h ⊢
    obtain ⟨hfirst, hrest⟩ := List.forall_mem_cons.1 h
    obtain ⟨result, hresult⟩ := exists_of_isOk hfirst
    rw [performStrict_cons_of_ok hresult, ih hrest, hresult]
    rfl

/-- The first step that fails ends the run, whatever steps come later. -/
theorem performStrict_eq_error {before : List Step} {failure : StepFailure}
    (hbefore : ∀ o ∈ (rig.performAll memory index before).1, o.isOk)
    (hfail : ((rig.performAll memory index before).2.perform memory step).1 = .error failure)
    (later : List Step) :
    rig.performStrict memory index (before ++ step :: later) =
      .error ⟨index + before.length, step, failure⟩ := by
  induction before generalizing rig index with
  | nil => exact performStrict_cons_of_error hfail index later
  | cons first before ih =>
    rw [performAll_cons] at hbefore hfail
    obtain ⟨hfirst, hrest⟩ := List.forall_mem_cons.1 hbefore
    obtain ⟨result, hresult⟩ := exists_of_isOk hfirst
    rw [List.cons_append, performStrict_cons_of_ok hresult, ih hrest hfail, List.length_cons,
      Nat.add_assoc, Nat.add_comm 1]
    rfl

end Rig

/-! ## Reports -/

/-- A report counts no failed steps if none failed. -/
theorem SimulationReport.failedSteps_eq_zero_iff {report : SimulationReport} :
    report.failedSteps = 0 ↔ ∀ o ∈ report.outcomes, o.isOk := by
  simp [failedSteps, List.countP_eq_zero]

/-- Where there is a step that failed there is a first one. -/
theorem Outcome.exists_first {outcomes : List Outcome} (h : ¬ ∀ o ∈ outcomes, o.isOk) :
    ∃ i o failure, outcomes[i]? = some o ∧ o.answer = .error failure ∧
      ∀ o' ∈ outcomes.take i, o'.isOk := by
  induction outcomes with
  | nil => exact absurd (fun _ ho ↦ absurd ho List.not_mem_nil) h
  | cons outcome outcomes ih =>
    cases hanswer : outcome.answer with
    | error failure => exact ⟨0, outcome, failure, rfl, hanswer, fun _ ho' ↦ nomatch ho'⟩
    | ok result =>
      have hfirst : outcome.isOk := by rw [isOk, hanswer]; rfl
      have hrest : ¬ ∀ o ∈ outcomes, o.isOk := fun hall ↦
        h (List.forall_mem_cons.2 ⟨hfirst, hall⟩)
      obtain ⟨i, o, failure, ho, hfailure, hbefore⟩ := ih hrest
      exact ⟨i + 1, o, failure, ho, hfailure, List.forall_mem_cons.2 ⟨hfirst, hbefore⟩⟩

namespace Scenario

variable {s : Scenario} {memory : Memory} {spare : Mac} {rig : Rig}

/-- A strict run in which no step fails has the report of the plain run. -/
theorem runStrict_eq_ok (hstart : s.start spare = .ok rig)
    (hok : ∀ o ∈ (rig.performAll memory 0 s.steps).1, o.isOk) :
    s.runStrict memory spare =
      .ok (.ofRig (rig.performAll memory 0 s.steps).1 (rig.performAll memory 0 s.steps).2) := by
  simp only [runStrict, hstart, Rig.performStrict_eq_ok hok]

/-- A strict run with a step that fails takes the steps before the first of these as the plain run
does, and ends at that step, whatever steps come later. -/
theorem exists_runStrict_eq_error (hstart : s.start spare = .ok rig)
    (h : ¬ ∀ o ∈ (rig.performAll memory 0 s.steps).1, o.isOk) :
    ∃ (i : Nat) (o : Outcome) (failure : StepFailure),
      let outcomes := (rig.performAll memory 0 s.steps).1
      outcomes[i]? = some o ∧ o.answer = .error failure ∧ (∀ o' ∈ outcomes.take i, o'.isOk) ∧
      (∃ report, (s.withSteps (s.steps.take i)).runStrict memory spare = .ok report ∧
        report.outcomes = outcomes.take i) ∧
      (∀ later, (s.withSteps (s.steps.take i ++ o.step :: later)).runStrict memory spare =
        .error (.stepFailed ⟨i, o.step, failure⟩)) ∧
      s.runStrict memory spare = .error (.stepFailed ⟨i, o.step, failure⟩) := by
  obtain ⟨i, o, failure, ho, hfailure, hbefore⟩ := Outcome.exists_first h
  refine ⟨i, o, failure, ho, hfailure, hbefore, ?_⟩
  rw [← Rig.performAll_take] at hbefore ⊢
  rw [Rig.getElem?_performAll, Option.map_eq_some_iff] at ho
  obtain ⟨step, hstep, rfl⟩ := ho
  obtain ⟨hi, hget⟩ := List.getElem?_eq_some_iff.1 hstep
  have hlater (later : List Step) :
      (s.withSteps (s.steps.take i ++ step :: later)).runStrict memory spare =
        .error (.stepFailed ⟨i, step, failure⟩) := by
    have hstart' : (s.withSteps (s.steps.take i ++ step :: later)).start spare = .ok rig := hstart
    have hstrict := Rig.performStrict_eq_error hbefore hfailure later
    rw [List.length_take_of_le (Nat.le_of_lt hi), Nat.zero_add] at hstrict
    simp only [runStrict, hstart']
    rw [withSteps, hstrict]
  refine ⟨⟨_, runStrict_eq_ok (s := s.withSteps (s.steps.take i)) hstart hbefore, rfl⟩, hlater, ?_⟩
  have hsteps : s.steps.take i ++ step :: s.steps.drop (i + 1) = s.steps := by
    rw [← hget, List.getElem_cons_drop, List.take_append_drop]
  have hwhole := hlater (s.steps.drop (i + 1))
  rwa [hsteps] at hwhole

end Scenario

/-! ## The words of steps -/

namespace Step

variable {fields value : Json} {step : Step}

/-- What a step is called in JSON: the head of an array, or the one member of an object that is
there to tell. -/
inductive Named : Json → String → Prop
  | array {head : Json} {fields : List Json} {word : String} (h : head.string? = some word) :
      Named (.array (head :: fields)) word
  | object {members : List (JsonText × Json)} {member : JsonText × Json} {word : String}
      (hmember : members.filter isWord = [member]) (h : member.2.string? = some word) :
      Named (.object members) word

theorem label_of_ofTag? {make : Tag → Step} {word : String}
    (hmake : ∀ tag, (make tag).label = word) (h : ofTag? make fields = some step) :
    step.label = word := by
  unfold ofTag? at h
  split at h
  next tag _ =>
    obtain ⟨tag, -, rfl⟩ := Option.map_eq_some_iff.1 h
    exact hmake tag
  next => cases h

theorem label_of_bare? {bare : Step} (h : bare? bare fields = some step) :
    step.label = bare.label := by
  unfold bare? at h
  split at h <;> cases h <;> rfl

/-- A step is read under its own word and no other. -/
theorem label_of_ofFields? {word : String} (h : ofFields? word fields = some step) :
    step.label = word := by
  unfold ofFields? at h
  -- one case for each word, in the order in which they are tried
  split at h
  · exact label_of_ofTag? (fun _ ↦ rfl) h
  · exact label_of_ofTag? (fun _ ↦ rfl) h
  · exact label_of_ofTag? (fun _ ↦ rfl) h
  · split at h
    · simp only [bind, Option.bind_eq_some_iff] at h
      obtain ⟨tag, -, payload, -, inBand, -, h⟩ := h
      cases h
      rfl
    · cases h
  · split at h
    · simp only [bind, Option.bind_eq_some_iff] at h
      obtain ⟨id, -, payload, -, control, -, h⟩ := h
      cases h
      rfl
    · cases h
  · split at h
    · simp only [bind, Option.bind_eq_some_iff] at h
      obtain ⟨id, -, engage, -, h⟩ := h
      cases h
      rfl
    · cases h
  · split at h
    · obtain ⟨mtu, -, rfl⟩ := Option.map_eq_some_iff.1 h
      rfl
    · cases h
  · exact label_of_bare? h
  · exact label_of_bare? h
  · cases h

/-- A step that is read from JSON has there the word that reports give it. -/
theorem named_label (h : ofJson? value = some step) : Named value step.label := by
  unfold ofJson? at h
  split at h
  · split at h
    next head fields =>
      obtain ⟨word, hword, hstep⟩ := Option.bind_eq_some_iff.1 h
      rw [label_of_ofFields? hstep]
      exact .array hword
    next members =>
      split at h
      next member hmember =>
        obtain ⟨word, hword, hstep⟩ := Option.bind_eq_some_iff.1 h
        rw [label_of_ofFields? hstep]
        exact .object hmember hword
      next => cases h
    next => cases h
  · cases h

end Step

/-! ## What the program prints -/

namespace CommandLine

theorem append_of_eq {a b ab : String} (h : a ++ b = ab) (c : String) :
    a ++ (b ++ c) = ab ++ c := by
  rw [← String.append_assoc, h]

/-- What went wrong with a step, in words that follow those for the step. -/
theorem context_append (i : Nat) (label detail : String) :
    s!"step {i} ({label})" ++ ": " ++ detail = s!"step {i} ({label}): {detail}" := by
  simp only [toString, String.append_assoc, append_of_eq (show ")" ++ ": " = "): " from rfl)]

/-- The failure of a strict run names the step, and its exit code is that of what went wrong, which
is never the one for success. -/
theorem exists_simulationFailure (failed : FailedStep) :
    ∃ (code : ExitCode) (detail : String), simulationFailure (.stepFailed failed) =
        ⟨code, s!"step {failed.index} ({failed.step.label}): {detail}"⟩ ∧ code ≠ .success ∧
      code.toNat = match failed.failure with
        | .refused source => source.exitCode.toNat
        | .badPayload _ => 60 := by
  rcases failed with ⟨i, step, source | fault⟩
  · exact ⟨source.exitCode, source.message,
      congrArg (Failure.mk source.exitCode) (context_append i step.label source.message),
      source.exitCode_ne_success, rfl⟩
  · refine ⟨.invalidData, s!"invalid hex: {fault.message}", congrArg (Failure.mk _) ?_, nofun, rfl⟩
    rw [← context_append]
    simp only [toString, String.append_assoc,
      append_of_eq (show ": " ++ "invalid hex: " = ": invalid hex: " from rfl)]

section Play

variable {format : OutputFormat} {memory : Memory} {spare : Mac} {s : Scenario}

/-- A run that is not ended early prints its report, strict or not. -/
theorem play_eq_ok (strict : Bool) {report : SimulationReport}
    (h : (if strict then s.runStrict memory spare else s.run memory spare) = .ok report) :
    play format strict memory spare s = .ok (finished (report.render format)) := by
  rw [play, h]

/-- A run that is ended early fails with what ended it, strict or not. -/
theorem play_eq_error (strict : Bool) {e : SimulationError}
    (h : (if strict then s.runStrict memory spare else s.run memory spare) = .error e) :
    play format strict memory spare s = .error (simulationFailure e) := by
  rw [play, h]

/-- Where the device cannot be set up, a run fails with what went wrong, strict or not. -/
theorem play_of_init_error {source : MuxError} {left : Testbed}
    (h : Device.init s.config spare (⟨{ config := s.loopback }, {}⟩ : Testbed) =
      .error (source, left)) (strict : Bool) :
    play format strict memory spare s = .error (source.failure "device init failed") := by
  have hstart : s.start spare = .error (.initFailed source) := by simp only [Scenario.start, h]
  apply play_eq_error strict (e := .initFailed source)
  cases strict with
  | false => simp only [Bool.false_eq_true, if_false, Scenario.run, hstart]
  | true => simp only [if_true, Scenario.runStrict, hstart]

end Play

/-- A strict run of a scenario agrees with the plain one, where both have the same address to spare
and the same memory. If the device cannot be set up, both end with the same failure. Otherwise it
comes up, and the plain run ends well, with an outcome for each step in order, under the word by
which the scenario calls the step. The strict run ends well if and only if no step of the plain run
fails, and then it has the same report. If a step fails, the strict run ends at the first that does:
it takes the steps before it with the outcomes that they have in the plain run, it takes none of
those after it, and its failure names that step and has the exit code for what went wrong. The exit
code of a failure is never that of a run that ends well. -/
theorem play_agrees (format : OutputFormat) (memory : Memory) (octets : Mac) (s : Scenario) :
    let spare := octets.toLocal
    let first := Device.init s.config spare (⟨{ config := s.loopback }, {}⟩ : Testbed)
    (∀ source left, first = .error (source, left) → source.exitCode ≠ .success ∧ ∀ strict,
      play format strict memory spare s = .error (source.failure "device init failed")) ∧
    ∀ device, first = .ok device →
      device.openUp.1 = .ok () ∧
      ∃ report : SimulationReport, s.run memory spare = .ok report ∧
        play format false memory spare s = .ok (finished (report.render format)) ∧
        (finished (report.render format)).code.toNat = 0 ∧
        report.outcomes.length = s.steps.length ∧
        (∀ (k : Nat) (o : Outcome), report.outcomes[k]? = some o →
          o.index = k ∧ s.steps[k]? = some o.step ∧
          ∀ value, Step.ofJson? value = some o.step → Step.Named value o.step.label) ∧
        ((∃ transcript, play format true memory spare s = .ok transcript) ↔
          report.failedSteps = 0) ∧
        (report.failedSteps = 0 → s.runStrict memory spare = .ok report ∧
          play format true memory spare s = play format false memory spare s) ∧
        (0 < report.failedSteps → ∃ (i : Nat) (o : Outcome) (failure : StepFailure),
          report.outcomes[i]? = some o ∧ o.answer = .error failure ∧
          (∀ o' ∈ report.outcomes.take i, o'.isOk) ∧
          (∃ report', (s.withSteps (s.steps.take i)).runStrict memory spare = .ok report' ∧
            report'.outcomes = report.outcomes.take i) ∧
          (∀ later, (s.withSteps (s.steps.take i ++ o.step :: later)).runStrict memory spare =
            .error (.stepFailed ⟨i, o.step, failure⟩)) ∧
          ∃ (code : ExitCode) (detail : String), play format true memory spare s =
              .error ⟨code, s!"step {i} ({o.step.label}): {detail}"⟩ ∧ code ≠ .success ∧
            code.toNat = match failure with
              | .refused source => source.exitCode.toNat
              | .badPayload _ => 60) := by
  intro spare first
  constructor
  · intro source left hfirst
    exact ⟨source.exitCode_ne_success, play_of_init_error hfirst⟩
  · intro device hfirst
    have hspare : spare.isValidUnicast := Mac.isValidUnicast_toLocal octets
    have hup : device.openUp.1 = .ok () := by
      rw [Device.openUp, if_pos (Device.isValidUnicast_of_init hfirst hspare)]
    have hstart := Scenario.start_eq_ok hspare hfirst
    generalize ({ device := { device with up := true } } : Rig) = rig at hstart
    have hrun := Scenario.run_of_start hstart memory
    generalize hreport : SimulationReport.ofRig (rig.performAll memory 0 s.steps).1
      (rig.performAll memory 0 s.steps).2 = report at hrun
    have houtcomes : report.outcomes = (rig.performAll memory 0 s.steps).1 := by rw [← hreport]; rfl
    have hplain : play format false memory spare s = .ok (finished (report.render format)) :=
      play_eq_ok false hrun
    have hok (h : report.failedSteps = 0) : s.runStrict memory spare = .ok report := by
      rw [SimulationReport.failedSteps_eq_zero_iff, houtcomes] at h
      rw [← hreport]
      exact Scenario.runStrict_eq_ok hstart h
    have hstrict (h : report.failedSteps = 0) :
        play format true memory spare s = .ok (finished (report.render format)) :=
      play_eq_ok true (hok h)
    have hstop (h : report.failedSteps ≠ 0) := by
      rw [Ne, SimulationReport.failedSteps_eq_zero_iff, houtcomes] at h
      exact Scenario.exists_runStrict_eq_error hstart h
    refine ⟨hup, report, hrun, hplain, rfl, ?_, ?_, ⟨?_, fun hzero ↦ ⟨_, hstrict hzero⟩⟩,
      fun hzero ↦ ⟨hok hzero, (hstrict hzero).trans hplain.symm⟩, fun hsome ↦ ?_⟩
    · rw [houtcomes, Rig.length_performAll]
    · intro k o ho
      rw [houtcomes, Rig.getElem?_performAll, Option.map_eq_some_iff] at ho
      obtain ⟨step, hstep, rfl⟩ := ho
      exact ⟨Nat.zero_add k, hstep, fun value ↦ Step.named_label⟩
    · rintro ⟨transcript, htranscript⟩
      by_contra hne
      obtain ⟨i, o, failure, -, -, -, -, -, hwhole⟩ := hstop hne
      rw [play_eq_error true hwhole] at htranscript
      cases htranscript
    · obtain ⟨i, o, failure, ho, hfailure, hbefore, hfirst, hlater, hwhole⟩ :=
        hstop (Nat.ne_of_gt hsome)
      obtain ⟨code, detail, hcause, hfails, hcode⟩ := exists_simulationFailure ⟨i, o.step, failure⟩
      rw [houtcomes]
      refine ⟨i, o, failure, ho, hfailure, hbefore, hfirst, hlater, code, detail, ?_, hfails,
        hcode⟩
      rw [play_eq_error true hwhole, hcause]

/-- Of two runs with a step that fails only the strict one fails. -/
theorem play_stumbling :
    (∃ transcript, play .json false .ample Mac.zero.toLocal .stumbling = .ok transcript) ∧
    ¬ ∃ transcript, play .json true .ample Mac.zero.toLocal .stumbling = .ok transcript := by
  obtain ⟨device, hinit⟩ : ∃ device, Device.init Scenario.stumbling.config Mac.zero.toLocal
      (⟨{ config := Scenario.stumbling.loopback }, {}⟩ : Testbed) = .ok device := ⟨_, rfl⟩
  obtain ⟨-, hruns⟩ := play_agrees .json .ample .zero .stumbling
  obtain ⟨-, report, hrun, hplain, -, -, -, hstrict, -⟩ := hruns device hinit
  obtain ⟨r, hr, hthree⟩ : ∃ r, Scenario.stumbling.run .ample Mac.zero.toLocal = .ok r ∧
      r.failedSteps = 3 := ⟨_, rfl, by decide⟩
  obtain rfl : r = report := Except.ok.inj (hr.symm.trans hrun)
  refine ⟨⟨_, hplain⟩, fun hok ↦ ?_⟩
  have hnone := hstrict.1 hok
  omega

end CommandLine

end ModemMux
