import Teardown.Session
import Teardown.Proofs.Evaluation

/-!
# Use of a guard

How far a visit has come with a guard, read off its course, and the discipline that every visit
keeps: it enters its own guard once, calls nodes only inside, leaves before it ends, and has nothing
to do with other guards.
-/

namespace Teardown

set_option autoImplicit false

/-- How a program stands to a guard. -/
inductive Phase where
  | outside
  | inside
  | released
  | refused
  deriving DecidableEq

namespace Phase

def after (guard : GuardId) (phase : Phase) : Exchange → Phase
  | ⟨.enter other, entered⟩ =>
      if other = guard then (if entered then .inside else .refused) else phase
  | ⟨.leave other, _⟩ => if other = guard then .released else phase
  | _ => phase

def afterAll (guard : GuardId) (phase : Phase) (course : List Exchange) : Phase :=
  course.foldl (after guard) phase

/-- The guard was never got hold of. -/
def Untaken (phase : Phase) : Prop := phase = .outside ∨ phase = .refused

theorem after_all_append (guard : GuardId) (phase : Phase) (first last : List Exchange) :
    phase.afterAll guard (first ++ last) = (phase.afterAll guard first).afterAll guard last := by
  exact List.foldl_append

theorem after_enter (guard : GuardId) (phase : Phase) (entered : Bool) :
    phase.after guard ⟨.enter guard, entered⟩ = if entered then .inside else .refused :=
  if_pos rfl

theorem after_leave (guard : GuardId) (phase : Phase) :
    phase.after guard ⟨.leave guard, ()⟩ = .released :=
  if_pos rfl

theorem after_of_spares (guard : GuardId) (phase : Phase) {exchange : Exchange}
    (spares : exchange.guard? ≠ some guard) : phase.after guard exchange = phase := by
  obtain ⟨request, answer⟩ := exchange
  cases request with
  | enter other => exact if_neg fun same => spares (congrArg some same)
  | leave other => exact if_neg fun same => spares (congrArg some same)
  | _ => rfl

end Phase

/-- A program that has come to a phase may enter the guard only if it has not tried before, leave it
only from inside, and call nodes only where the rule for calls says so. -/
def Request.Allowed (guard : GuardId) (mayCall : Phase → Prop) (phase : Phase) : Request → Prop
  | .call _ _ => mayCall phase
  | .enter other => other = guard → phase = .outside
  | .leave other => other = guard → phase = .inside
  | _ => True

namespace Program

variable {Result First Second : Type} {guard : GuardId} {mayCall : Phase → Prop}

/-- Whatever it is answered, the program makes only requests that are allowed, and is settled when
it ends. -/
def Disciplined (guard : GuardId) (mayCall : Phase → Prop) (settled : Phase → Result → Prop) :
    Phase → Program Result → Prop
  | phase, .done result => settled phase result
  | phase, .ask request next =>
      request.Allowed guard mayCall phase ∧
        ∀ answer, Disciplined guard mayCall settled (phase.after guard ⟨request, answer⟩)
          (next answer)

theorem disciplined_bind {middle : Phase → First → Prop} {settled : Phase → Second → Prop}
    {phase : Phase} {program : Program First} {next : First → Program Second}
    (first : program.Disciplined guard mayCall middle phase)
    (last : ∀ reached value, middle reached value →
      (next value).Disciplined guard mayCall settled reached) :
    (program.bind next).Disciplined guard mayCall settled phase := by
  induction program generalizing phase with
  | done value => exact last phase value first
  | ask request rest ih => exact ⟨first.1, fun answer => ih answer (first.2 answer)⟩

theorem disciplined_of_spares {phase : Phase} {program : Program Result}
    (spares : ∀ course result, program.Follows course (.done result) →
      ∀ exchange ∈ course,
        exchange.guard? ≠ some guard ∧ (exchange.isReply = true → mayCall phase)) :
    program.Disciplined guard mayCall (fun reached _ => reached = phase) phase := by
  induction program with
  | done result => exact rfl
  | ask request next ih =>
      -- Every answer can occur: what follows it comes to an end somehow.
      have unused : ∀ answer, Exchange.guard? ⟨request, answer⟩ ≠ some guard ∧
          (Exchange.isReply ⟨request, answer⟩ = true → mayCall phase) := by
        intro answer
        obtain ⟨course, result, ended⟩ := (next answer).exists_follows_done
        exact spares _ _ (.further ended) _ (List.mem_cons_self ..)
      constructor
      · cases request with
        | call node method => exact (unused (Request.someAnswer (.call node method))).2 rfl
        | enter other => exact fun same => ((unused true).1 (congrArg some same)).elim
        | leave other => exact fun same => ((unused ()).1 (congrArg some same)).elim
        | _ => trivial
      · intro answer
        rw [Phase.after_of_spares guard phase (unused answer).1]
        apply ih answer
        intro course result ended exchange present
        exact spares _ _ (.further ended) exchange (List.mem_cons_of_mem _ present)

/-- What a program has still before it is as disciplined as the whole. -/
theorem disciplined_of_follows {settled : Phase → Result → Prop} {phase : Phase}
    {program rest : Program Result} {course : List Exchange}
    (disciplined : program.Disciplined guard mayCall settled phase)
    (followed : program.Follows course rest) :
    rest.Disciplined guard mayCall settled (phase.afterAll guard course) := by
  induction followed generalizing phase with
  | here => exact disciplined
  | further later ih => exact ih (disciplined.2 _)

theorem untaken_of_after {phase : Phase} {request : Request} {answer : request.Answer}
    (allowed : request.Allowed guard mayCall phase)
    (later : (phase.after guard ⟨request, answer⟩).Untaken) : phase.Untaken := by
  cases request with
  | enter other =>
      by_cases same : other = guard
      · exact .inl (allowed same)
      · rwa [Phase.after, if_neg same] at later
  | leave other =>
      by_cases same : other = guard
      · rw [Phase.after, if_pos same] at later
        exact absurd later (by simp [Phase.Untaken])
      · rwa [Phase.after, if_neg same] at later
  | _ => exact later

theorem untaken_of_follows {settled : Phase → Result → Prop} {phase : Phase}
    {program rest : Program Result} {course : List Exchange}
    (disciplined : program.Disciplined guard mayCall settled phase)
    (followed : program.Follows course rest)
    (later : (phase.afterAll guard course).Untaken) : phase.Untaken := by
  induction followed generalizing phase with
  | here => exact later
  | further _ ih => exact untaken_of_after disciplined.1 (ih (disciplined.2 _) later)

/-- Who calls nodes only inside has called none before coming there. -/
theorem answered_calls_of_untaken {settled : Phase → Result → Prop} {phase : Phase}
    {program rest : Program Result} {course : List Exchange}
    (disciplined : program.Disciplined guard (· = .inside) settled phase)
    (followed : program.Follows course rest)
    (later : (phase.afterAll guard course).Untaken) : answeredCalls course = [] := by
  induction followed generalizing phase with
  | here => rfl
  | @further request next answer course rest followed ih =>
      have outside : phase.Untaken := untaken_of_follows disciplined (.further followed) later
      have rest := ih (disciplined.2 answer) later
      cases request with
      | call node method =>
          obtain rfl : phase = .inside := disciplined.1
          exact absurd outside (by simp [Phase.Untaken])
      | _ => exact rest

end Program

namespace Attempt

variable {Result First Second : Type} {guard : GuardId} {mayCall : Phase → Prop}

def Disciplined (guard : GuardId) (mayCall : Phase → Prop)
    (settled : Phase → Except Failure Result → Prop) (phase : Phase)
    (attempt : Attempt Result) : Prop :=
  attempt.run.Disciplined guard mayCall settled phase

theorem disciplined_bind {middle : Phase → Except Failure First → Prop}
    {settled : Phase → Except Failure Second → Prop} {phase : Phase} {attempt : Attempt First}
    {next : First → Attempt Second}
    (first : attempt.Disciplined guard mayCall middle phase)
    (failed : ∀ reached failure, middle reached (.error failure) →
      settled reached (.error failure))
    (last : ∀ reached value, middle reached (.ok value) →
      (next value).Disciplined guard mayCall settled reached) :
    (attempt >>= next).Disciplined guard mayCall settled phase := by
  apply Program.disciplined_bind first
  intro reached result middling
  cases result with
  | error failure => exact failed reached failure middling
  | ok value => exact last reached value middling

theorem disciplined_outcome {settled : Phase → Except Failure Result → Prop} {phase : Phase}
    {attempt : Attempt Result} (disciplined : attempt.Disciplined guard mayCall settled phase) :
    attempt.outcome.Disciplined guard mayCall
      (fun reached result => ∃ outcome, result = .ok outcome ∧ settled reached outcome) phase := by
  apply Program.disciplined_bind disciplined
  intro reached outcome settling
  exact ⟨outcome, rfl, settling⟩

def Spares (guard : GuardId) (attempt : Attempt Result) : Prop :=
  attempt.Within (fun exchange => exchange.guard? ≠ some guard) fun _ => True

theorem spares_pure (guard : GuardId) (value : Result) : Spares guard (pure value) :=
  within_pure trivial

theorem spares_throw (guard : GuardId) (failure : Failure) :
    Spares guard (throw failure : Attempt Result) :=
  within_throw failure _

theorem spares_perform {request : Request}
    (other : ∀ answer, Exchange.guard? ⟨request, answer⟩ ≠ some guard) :
    Spares guard (perform request) :=
  within_perform other

theorem spares_call (guard : GuardId) (node : NodeId) (method : NodeCall) :
    (call node method).Spares guard := by
  intro course result ended
  obtain rfl := (ends_call_iff _ _ _ _).mp ended
  simp [Exchange.reply, Exchange.guard?]

theorem spares_bind {attempt : Attempt First} {next : First → Attempt Second}
    (first : attempt.Spares guard) (last : ∀ value, (next value).Spares guard) :
    (attempt >>= next).Spares guard :=
  within_bind first fun value _ => last value

theorem spares_outcome {attempt : Attempt Result} (spares : attempt.Spares guard) :
    attempt.outcome.Spares guard :=
  within_mono (within_outcome spares) (fun _ allowed => allowed) fun _ _ => trivial

theorem disciplined_of_spares {phase : Phase} {attempt : Attempt Result}
    (calls : mayCall phase) (spares : attempt.Spares guard) :
    attempt.Disciplined guard mayCall (fun reached _ => reached = phase) phase := by
  apply Program.disciplined_of_spares
  intro course result ended exchange present
  exact ⟨(spares course result ended).1 exchange present, fun _ => calls⟩

/-- An attempt that calls no node is disciplined in every phase. -/
theorem disciplined_of_silent {attempt : Attempt Result} {expected : Result → Prop}
    (silent : attempt.Within Exchange.Silent expected) (phase : Phase) :
    attempt.Disciplined guard mayCall (fun reached _ => reached = phase) phase := by
  apply Program.disciplined_of_spares
  intro course result ended exchange present
  have quiet := (silent course result ended).1 exchange present
  exact ⟨by simp [quiet.2.2], by simp [quiet.1]⟩

end Attempt

namespace Strategy

theorem name_of_within (node : Option NodeId) :
    (nameOf node).Within Exchange.Silent fun _ => True := by
  cases node with
  | none => exact Attempt.within_pure trivial
  | some present =>
      apply Attempt.within_bind (Attempt.within_perform fun answer => ⟨rfl, rfl, rfl⟩)
      intro name _
      exact Attempt.within_pure trivial

theorem report_failure_within (node : Option NodeId) (failure : Failure) :
    (reportFailure node failure).Within Exchange.Silent fun _ => True := by
  unfold reportFailure
  split
  · apply Attempt.within_bind (name_of_within node)
    intro name _
    apply Attempt.within_bind (Attempt.within_ofExcept failure.text)
    intro text _
    exact Attempt.within_perform fun answer => ⟨rfl, rfl, rfl⟩
  · exact Attempt.within_throw failure _

theorem evaluate_spares (guard : GuardId) (strategy : Strategy) (node : Option NodeId) :
    (strategy.evaluate node).Spares guard := by
  cases node with
  | none => exact Attempt.spares_pure guard _
  | some present =>
      intro course result ended
      have spared := evaluation_course_spares_guards (evaluate_present_course ended)
      refine ⟨?_, fun _ _ => trivial⟩
      intro exchange used
      simp [spared exchange used]

/-- How a visit stands when it ends: it was refused and comes to what skipped visits come to, or it
has left the guard. -/
def Settled {Result : Type} (skipped evaluated : Result → Prop) (phase : Phase)
    (result : Except Failure Result) : Prop :=
  (phase = .refused ∧ ∃ value, result = .ok value ∧ skipped value) ∨
    (phase = .released ∧ ∀ value, result = .ok value → evaluated value)

/-- However the evaluation ends, the guard is left after it. -/
theorem evaluate_and_leave_disciplined (guard : GuardId) {evaluation : Attempt Decision}
    (spares : evaluation.Spares guard) :
    Attempt.Disciplined guard (· = .inside) (Settled (· = .skipped) (· ≠ .skipped)) .inside (do
      let result ← evaluation.outcome
      Attempt.perform (.leave guard)
      return Outcome.evaluated (← Attempt.ofExcept result)) := by
  have evaluated : evaluation.Disciplined guard (· = .inside) (fun reached _ => reached = .inside)
      .inside :=
    Attempt.disciplined_of_spares rfl spares
  apply Attempt.disciplined_bind (Attempt.disciplined_outcome evaluated)
  · intro reached failure given
    obtain ⟨outcome, ⟨⟩, -⟩ := given
  intro reached result given
  obtain ⟨outcome, -, stayed⟩ := given
  refine ⟨fun _ => stayed, ?_⟩
  intro _
  rw [Phase.after_leave]
  cases result with
  | error failure => exact .inr ⟨rfl, by simp⟩
  | ok decision => exact .inr ⟨rfl, by intro _ same skipped; cases same; cases skipped⟩

theorem guarded_disciplined (guard : GuardId) (name : Option String)
    {evaluation : Attempt Decision} (spares : evaluation.Spares guard) :
    (guarded guard name evaluation).Disciplined guard (· = .inside)
      (Settled (· = .skipped) (· ≠ .skipped)) .outside := by
  refine ⟨fun _ => rfl, ?_⟩
  intro entered
  rw [Phase.after_enter]
  cases entered with
  | false => exact ⟨trivial, fun _ => .inl ⟨rfl, .skipped, rfl, rfl⟩⟩
  | true => exact evaluate_and_leave_disciplined guard spares

theorem try_evaluate_disciplined (strategy : Strategy) (node : Option NodeId) :
    (strategy.tryEvaluate node).Disciplined strategy.guard (· = .inside)
      (Settled (· = .skipped) (· ≠ .skipped)) .outside := by
  have named : (nameOf node).Disciplined strategy.guard (· = .inside)
      (fun reached result => reached = .outside ∧ ∃ name, result = .ok name) .outside := by
    cases node with
    | none => exact ⟨rfl, none, rfl⟩
    | some present => exact ⟨trivial, fun name => ⟨rfl, some name, rfl⟩⟩
  apply Attempt.disciplined_bind named
  · intro reached failure given
    obtain ⟨-, name, ⟨⟩⟩ := given
  · intro reached name given
    obtain ⟨rfl, -⟩ := given
    exact guarded_disciplined strategy.guard name (evaluate_spares strategy.guard strategy node)

theorem check_disciplined (strategy : Strategy) (node : Option NodeId) :
    (strategy.check node).Disciplined strategy.guard (· = .inside)
      (Settled (· = recheckMinutes) (· = recheckMinutes)) .outside := by
  apply Attempt.disciplined_bind
    (Attempt.disciplined_outcome (try_evaluate_disciplined strategy node))
  · intro reached failure given
    obtain ⟨outcome, ⟨⟩, -⟩ := given
  intro reached result given
  obtain ⟨outcome, ⟨⟩, settled⟩ := given
  cases result with
  | ok known =>
      rcases settled with ⟨rfl, -⟩ | ⟨rfl, -⟩
      · exact .inl ⟨rfl, recheckMinutes, rfl, rfl⟩
      · exact .inr ⟨rfl, by intro _ same; cases same; rfl⟩
  | error failure =>
      obtain rfl : reached = .released := by
        rcases settled with ⟨-, value, ⟨⟩, -⟩ | ⟨left, -⟩
        exact left
      apply Attempt.disciplined_bind
        (Attempt.disciplined_of_silent (report_failure_within node failure) .released)
      · intro reached raised same
        subst same
        exact .inr ⟨rfl, by simp⟩
      · intro reached reported same
        subst same
        exact .inr ⟨rfl, by intro _ same; cases same; rfl⟩

end Strategy

namespace Operation

def skipResult : Operation → Option CallResult
  | .check => some (.recheck Strategy.recheckMinutes)
  | .tryEvaluate => some (.outcome .skipped)
  | .evaluate | .start => none

theorem attempt_disciplined {operation : Operation} (guarded : operation.skipResult ≠ none)
    (strategy : Strategy) (node : Option NodeId) :
    (operation.attempt strategy node).Disciplined strategy.guard (· = .inside)
      (Strategy.Settled (fun value => operation.skipResult = some value)
        (· ≠ .outcome .skipped)) .outside := by
  cases operation with
  | evaluate => exact (guarded rfl).elim
  | start => exact (guarded rfl).elim
  | check =>
      apply Attempt.disciplined_bind (Strategy.check_disciplined strategy node)
      · intro reached failure given
        rcases given with ⟨-, value, ⟨⟩, -⟩ | ⟨rfl, -⟩
        exact .inr ⟨rfl, by simp⟩
      · intro reached minutes given
        rcases given with ⟨rfl, value, ⟨⟩, rfl⟩ | ⟨rfl, -⟩
        · exact .inl ⟨rfl, _, rfl, rfl⟩
        · exact .inr ⟨rfl, by intro _ same skipped; cases same; cases skipped⟩
  | tryEvaluate =>
      apply Attempt.disciplined_bind (Strategy.try_evaluate_disciplined strategy node)
      · intro reached failure given
        rcases given with ⟨-, value, ⟨⟩, -⟩ | ⟨rfl, -⟩
        exact .inr ⟨rfl, by simp⟩
      · intro reached outcome given
        rcases given with ⟨rfl, value, ⟨⟩, rfl⟩ | ⟨rfl, evaluated⟩
        · exact .inl ⟨rfl, _, rfl, rfl⟩
        · refine .inr ⟨rfl, ?_⟩
          intro _ same equal
          cases same
          cases equal
          exact evaluated _ rfl rfl

end Operation

end Teardown
