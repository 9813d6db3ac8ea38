import BookRelay.Cli.Run

/-!
# Starting the program

Once its configuration passed the check, a run stops after the check when only a check was
asked, fails when its REST client cannot be built, or runs its pipeline. The pipeline makes
its queue before any task starts, and the queue counts its slots in a word with three bits to
spare: a capacity above `Queue.maxSlots` is a panic, and the only way a run can panic.

The check refuses a zero capacity and sets no upper bound, so a configuration that passed it
can still make the program panic as it starts.

Main statements: `proceed_ending` (how a checked run ends, and exactly when it panics) and
`checked_capacity_panics` (a checked configuration whose pipeline panics).
-/

namespace BookRelay.Cli

open BookRelay.Config BookRelay.Exchange BookRelay.Scenario BookRelay.Feed

theorem Queue.create?_of_le {n : Nat} (h : n ≤ Queue.maxSlots) :
    Queue.create? n = .ok (Queue.bounded n) := by
  have hmax : max n 1 ≤ Queue.maxSlots := by
    have : 1 ≤ Queue.maxSlots := by decide
    omega
  simp [Queue.create?, hmax]

theorem Queue.create?_of_lt {n : Nat} (h : Queue.maxSlots < n) :
    Queue.create? n = .error Queue.tooManySlots := by
  have hmax : ¬ max n 1 ≤ Queue.maxSlots := by omega
  simp [Queue.create?, hmax]

/-- A pipeline starts exactly when its queue can count the slots asked for; otherwise it
panics with the queue's message. -/
theorem PipelineSetup.launch_eq (s : PipelineSetup) :
    s.launch = if Queue.maxSlots < s.config.queueCapacity then .error Queue.tooManySlots
      else .ok s.start := by
  unfold PipelineSetup.launch
  by_cases h : Queue.maxSlots < s.config.queueCapacity
  · simp [h, Queue.create?_of_lt h, Except.map]
  · simp [h, Queue.create?_of_le (Nat.le_of_not_lt h), Except.map]

theorem pipelineScenario_panic (s : PipelineSetup) :
    (pipelineScenario s).panic =
      if Queue.maxSlots < s.config.queueCapacity then some Queue.tooManySlots else none := by
  unfold pipelineScenario
  rw [PipelineSetup.launch_eq]
  by_cases h : Queue.maxSlots < s.config.queueCapacity <;> simp [h]

/-- The pipeline part of a run panics exactly for a capacity above `Queue.maxSlots`, and then
with the queue's message. -/
theorem runPipeline_panicked_iff (inv : Invocation) (filter : Log.Filter) (c : RelayConfig)
    (signal : Option String) (horizon : Nat) (m : String) :
    runPipeline inv filter c signal horizon = .panicked m ↔
      Queue.maxSlots < c.queueCapacity ∧ m = Queue.tooManySlots := by
  unfold runPipeline
  simp only [pipelineScenario_panic]
  by_cases h : Queue.maxSlots < c.queueCapacity
  · simp only [h, if_true, true_and]
    exact ⟨fun hm => by cases hm; rfl, fun hm => by rw [hm]⟩
  · simp only [h, if_false, false_and, iff_false]
    split <;> simp_all

/-- How a run goes on once its configuration passed the check: it ends cleanly, with a
failure, or not by the time given, unless it panics; and it panics, with the queue's message,
exactly when a pipeline was to start and its queue was asked for more slots than it can
count. -/
theorem proceed_ending (inv : Invocation) (filter : Log.Filter) (c : RelayConfig)
    (signal : Option String) (horizon : Nat) :
    let o := proceed inv filter c signal horizon
    (o.ending = .exited panicExitCode ↔
      inv.dryRun = false ∧ (∃ r, RestClient.ofBase c.restUrl = .ok r) ∧
        Queue.maxSlots < c.queueCapacity) ∧
    (o.ending = .exited panicExitCode → o.stderr = panicText Queue.tooManySlots) ∧
    (o.ending ≠ .exited panicExitCode →
      o.ending = .exited 0 ∨ o.ending = .exited 1 ∨ o.ending = .timedOut) := by
  intro o
  have hpanic := runPipeline_panicked_iff inv filter c signal horizon
  -- the exit codes a run can reach, by the branches of `proceed`
  unfold o proceed
  cases hd : inv.dryRun with
  | true => simp [panicExitCode]
  | false =>
    cases hr : RestClient.ofBase c.restUrl with
    | error e => simp [failedRun, panicExitCode]
    | ok r =>
      cases hp : runPipeline inv filter c signal horizon with
      | clean => simpa [panicExitCode, hp] using hpanic
      | failed chain => simpa [failedRun, panicExitCode, hp] using hpanic
      | panicked m =>
        obtain ⟨hcap, rfl⟩ := (hpanic m).1 hp
        simp [hcap]
      | unfinished => simpa [panicExitCode, hp] using hpanic

/-- A configuration that passes the check, with a queue of `2^61` slots, whose pipeline panics
as it starts. -/
theorem checked_capacity_panics :
    let c : RelayConfig := { symbol := "BTCUSDT", queueCapacity := Nat.pow 2 61 }
    c.validate = .ok () ∧ (pipelineScenario { config := c }).panic = some Queue.tooManySlots := by
  intro c
  have hchecked : c.problem? = none := by decide +kernel
  refine ⟨by simp [RelayConfig.validate, hchecked], ?_⟩
  rw [pipelineScenario_panic]
  have h : Queue.maxSlots < c.queueCapacity := by
    show Queue.maxSlots < Nat.pow 2 61
    decide
  simp [h]

end BookRelay.Cli
