import Teardown.Program

/-!
# Courses

A course is the list of the requests that a program has made, each with the answer it got. The
answers are free: what is shown of every course holds whatever the nodes answer, raise or change,
and whatever other visits do between two requests.
-/

namespace Teardown

set_option autoImplicit false

/-- A request together with its answer. -/
structure Exchange where
  request : Request
  answer : request.Answer

namespace Exchange

def reply (node : NodeId) (method : NodeCall) (result : Except Failure method.Answer) :
    Exchange :=
  ⟨.call node method, result⟩

def isReply : Exchange → Bool
  | ⟨.call _ _, _⟩ => true
  | _ => false

def call? : Exchange → Option (NodeId × NodeCall)
  | ⟨.call node method, _⟩ => some (node, method)
  | _ => none

end Exchange

def replies (course : List Exchange) : List Exchange := course.filter Exchange.isReply

def answeredCalls (course : List Exchange) : List (NodeId × NodeCall) :=
  course.filterMap Exchange.call?

theorem answered_calls_append (first last : List Exchange) :
    answeredCalls (first ++ last) = answeredCalls first ++ answeredCalls last := by
  exact List.filterMap_append

namespace Program

variable {Result First Second : Type}

/-- The program goes through the course and has the rest still before it. -/
inductive Follows : Program Result → List Exchange → Program Result → Prop where
  | here (program : Program Result) : Follows program [] program
  | further {request : Request} {next : request.Answer → Program Result}
      {answer : request.Answer} {course : List Exchange} {rest : Program Result}
      (later : Follows (next answer) course rest) :
      Follows (.ask request next) (⟨request, answer⟩ :: course) rest

/-- The call on a node that a program waits for, if it has come to one. -/
def awaited : Program Result → List (NodeId × NodeCall)
  | .ask (.call node method) _ => [(node, method)]
  | _ => []

theorem follows_append {program middle last : Program Result} {first later : List Exchange}
    (before : program.Follows first middle) (after : middle.Follows later last) :
    program.Follows (first ++ later) last := by
  induction before with
  | here => exact after
  | further _ ih => exact .further (ih after)

theorem done_follows_iff (result : Result) (course : List Exchange) (rest : Program Result) :
    (done result).Follows course rest ↔ course = [] ∧ rest = done result := by
  constructor
  · intro followed
    cases followed with
    | here => exact ⟨rfl, rfl⟩
  · intro given
    obtain ⟨rfl, rfl⟩ := given
    exact .here _

theorem ask_follows_iff (request : Request) (next : request.Answer → Program Result)
    (course : List Exchange) (rest : Program Result) :
    (ask request next).Follows course rest ↔
      (course = [] ∧ rest = ask request next) ∨
        ∃ answer later, course = ⟨request, answer⟩ :: later ∧ (next answer).Follows later rest := by
  constructor
  · intro followed
    cases followed with
    | here => exact .inl ⟨rfl, rfl⟩
    | further later => exact .inr ⟨_, _, rfl, later⟩
  · intro given
    rcases given with ⟨rfl, rfl⟩ | ⟨answer, later, rfl, followed⟩
    · exact .here _
    · exact .further followed

theorem ask_follows_done_iff (request : Request) (next : request.Answer → Program Result)
    (course : List Exchange) (result : Result) :
    (ask request next).Follows course (done result) ↔
      ∃ answer later, course = ⟨request, answer⟩ :: later ∧
        (next answer).Follows later (done result) := by
  constructor
  · intro followed
    cases followed with
    | further later => exact ⟨_, _, rfl, later⟩
  · intro given
    obtain ⟨answer, later, rfl, followed⟩ := given
    exact .further followed

theorem bind_follows_done_iff (program : Program First) (next : First → Program Second)
    (course : List Exchange) (result : Second) :
    (program.bind next).Follows course (done result) ↔
      ∃ first value last, course = first ++ last ∧ program.Follows first (done value) ∧
        (next value).Follows last (done result) := by
  induction program generalizing course with
  | done value =>
      constructor
      · intro followed
        exact ⟨[], value, course, rfl, .here _, followed⟩
      · intro given
        obtain ⟨first, other, last, rfl, ended, followed⟩ := given
        obtain ⟨rfl, same⟩ := (done_follows_iff _ _ _).mp ended
        cases same
        exact followed
  | ask request rest ih =>
      simp only [bind, ask_follows_done_iff]
      constructor
      · intro given
        obtain ⟨answer, later, rfl, followed⟩ := given
        obtain ⟨first, value, last, rfl, ended, continued⟩ := (ih answer later).mp followed
        exact ⟨⟨request, answer⟩ :: first, value, last, rfl, ⟨answer, first, rfl, ended⟩,
          continued⟩
      · intro given
        obtain ⟨_, value, last, rfl, ⟨answer, first, rfl, ended⟩, continued⟩ := given
        exact ⟨answer, first ++ last, rfl, (ih answer _).mpr ⟨first, value, last, rfl, ended,
          continued⟩⟩

/-- A program in two parts is still in the first one, or has gone through it and is in the
second. -/
theorem bind_follows_cases {program : Program First} {next : First → Program Second}
    {course : List Exchange} {rest : Program Second}
    (followed : (program.bind next).Follows course rest) :
    (∃ middle, program.Follows course middle ∧ rest = middle.bind next) ∨
      ∃ first value last, course = first ++ last ∧ program.Follows first (done value) ∧
        (next value).Follows last rest := by
  induction program generalizing course with
  | done value => exact .inr ⟨[], value, course, rfl, .here _, followed⟩
  | ask request after ih =>
      rcases (ask_follows_iff _ _ _ _).mp followed with
        ⟨rfl, rfl⟩ | ⟨answer, later, rfl, continued⟩
      · exact .inl ⟨_, .here _, rfl⟩
      rcases ih answer continued with
        ⟨middle, inFirst, rfl⟩ | ⟨first, value, last, rfl, ended, inLast⟩
      · exact .inl ⟨middle, .further inFirst, rfl⟩
      · exact .inr ⟨⟨request, answer⟩ :: first, value, last, rfl, .further ended, inLast⟩

def CallsNobody (program : Program Result) : Prop :=
  ∀ course rest, program.Follows course rest → rest.awaited = []

theorem calls_nobody_done (result : Result) : CallsNobody (done result) := by
  intro course rest followed
  rw [((done_follows_iff _ _ _).mp followed).2]
  rfl

theorem calls_nobody_ask {request : Request} {next : request.Answer → Program Result}
    (other : (ask request next).awaited = []) (later : ∀ answer, (next answer).CallsNobody) :
    CallsNobody (ask request next) := by
  intro course rest followed
  rcases (ask_follows_iff _ _ _ _).mp followed with ⟨-, rfl⟩ | ⟨answer, after, -, continued⟩
  · exact other
  · exact later answer after rest continued

theorem awaited_bind {program : Program First} {next : First → Program Second}
    (first : program.awaited = []) (last : ∀ value, (next value).awaited = []) :
    (program.bind next).awaited = [] := by
  cases program with
  | done value => exact last value
  | ask request after =>
      cases request with
      | call node method => cases first
      | _ => rfl

theorem calls_nobody_bind {program : Program First} {next : First → Program Second}
    (first : program.CallsNobody) (last : ∀ value, (next value).CallsNobody) :
    (program.bind next).CallsNobody := by
  intro course rest followed
  rcases bind_follows_cases followed with
    ⟨middle, inFirst, rfl⟩ | ⟨before, value, after, rfl, -, inLast⟩
  · exact awaited_bind (first course middle inFirst) fun value => last value [] _ (.here _)
  · exact last value after rest inLast

theorem bind_awaits {program : Program First} {next : First → Program Second}
    {course : List Exchange} {node : NodeId} {method : NodeCall}
    {after : Except Failure method.Answer → Program Second}
    (awaiting : (program.bind next).Follows course (.ask (.call node method) after))
    (uncalled : ∀ value, (next value).CallsNobody) :
    ∃ middle, program.Follows course (.ask (.call node method) middle) ∧
      after = fun reply => (middle reply).bind next := by
  rcases bind_follows_cases awaiting with
    ⟨middle, inFirst, same⟩ | ⟨first, value, last, rfl, -, inLast⟩
  · cases middle with
    | done value =>
        have nobody := uncalled value [] _ (.here _)
        rw [show next value = ask (.call node method) after from same.symm] at nobody
        cases nobody
    | ask request rest =>
        cases same
        exact ⟨rest, inFirst, rfl⟩
  · cases uncalled value last _ inLast

end Program

namespace Request

def someAnswer : (request : Request) → request.Answer
  | .call _ _ => .error .cancelled
  | .nodeName _ => ""
  | .cancelRequested | .enter _ => false
  | .log _ | .noteNode _ _ | .leave _ => ()

end Request

namespace Program

variable {Result : Type}

theorem exists_follows_done (program : Program Result) :
    ∃ course result, program.Follows course (done result) := by
  induction program with
  | done result => exact ⟨[], result, .here _⟩
  | ask request next ih =>
      obtain ⟨course, result, ended⟩ := ih request.someAnswer
      exact ⟨_, result, .further ended⟩

/-- A course can be continued to the end of the program; the call that is waited for comes first. -/
theorem exists_continuation (program : Program Result) :
    ∃ course result, program.Follows course (done result) ∧
      program.awaited <+: answeredCalls course := by
  cases program with
  | done result => exact ⟨[], result, .here _, List.prefix_rfl⟩
  | ask request next =>
      obtain ⟨course, result, ended⟩ := exists_follows_done (next request.someAnswer)
      refine ⟨⟨request, request.someAnswer⟩ :: course, result, .further ended, ?_⟩
      cases request with
      | call node method => simp [awaited, answeredCalls, Exchange.call?]
      | _ => exact List.nil_prefix

end Program

namespace Attempt

variable {Result First Second : Type}

/-- The attempt goes through the course and ends in the result, or in a failure. -/
def Ends (attempt : Attempt Result) (course : List Exchange) (result : Except Failure Result) :
    Prop :=
  attempt.run.Follows course (.done result)

theorem ends_pure_iff (value : Result) (course : List Exchange)
    (result : Except Failure Result) :
    Ends (pure value) course result ↔ course = [] ∧ result = .ok value := by
  refine (Program.done_follows_iff (.ok value) course (.done result)).trans ?_
  simp

theorem ends_throw_iff (failure : Failure) (course : List Exchange)
    (result : Except Failure Result) :
    Ends (throw failure) course result ↔ course = [] ∧ result = .error failure := by
  refine (Program.done_follows_iff (.error failure) course (.done result)).trans ?_
  simp

theorem ends_ofExcept_iff (given : Except Failure Result) (course : List Exchange)
    (result : Except Failure Result) :
    Ends (ofExcept given) course result ↔ course = [] ∧ result = given := by
  refine (Program.done_follows_iff given course (.done result)).trans ?_
  simp

theorem ends_ofExcept_map_iff (given : Except Failure First) (change : First → Second)
    (course : List Exchange) (result : Except Failure Second) :
    Ends (do return change (← ofExcept given)) course result ↔
      course = [] ∧ result = given.map change := by
  cases given with
  | error failure => exact ends_throw_iff failure course result
  | ok value => exact ends_pure_iff (change value) course result

theorem ends_perform_iff (request : Request) (course : List Exchange)
    (result : Except Failure request.Answer) :
    Ends (perform request) course result ↔
      ∃ answer, course = [⟨request, answer⟩] ∧ result = .ok answer := by
  refine (Program.ask_follows_done_iff request (fun answer => .done (.ok answer)) course
    result).trans ?_
  constructor
  · intro given
    obtain ⟨answer, later, rfl, ended⟩ := given
    obtain ⟨rfl, same⟩ := (Program.done_follows_iff _ _ _).mp ended
    cases same
    exact ⟨answer, rfl, rfl⟩
  · intro given
    obtain ⟨answer, rfl, rfl⟩ := given
    exact ⟨answer, [], rfl, .here _⟩

theorem ends_call_iff (node : NodeId) (method : NodeCall) (course : List Exchange)
    (result : Except Failure method.Answer) :
    Ends (call node method) course result ↔ course = [.reply node method result] := by
  refine (Program.ask_follows_done_iff (.call node method) .done course result).trans ?_
  constructor
  · intro given
    obtain ⟨answer, later, rfl, ended⟩ := given
    obtain ⟨rfl, same⟩ := (Program.done_follows_iff _ _ _).mp ended
    cases same
    rfl
  · intro same
    subst same
    exact ⟨result, [], rfl, .here _⟩

/-- An attempt that goes on with a value ends in its first failure, or where the second part of it
ends. -/
theorem ends_bind_iff (attempt : Attempt First) (next : First → Attempt Second)
    (course : List Exchange) (result : Except Failure Second) :
    Ends (attempt >>= next) course result ↔
      (∃ failure, attempt.Ends course (.error failure) ∧ result = .error failure) ∨
        ∃ first value last, course = first ++ last ∧ attempt.Ends first (.ok value) ∧
          (next value).Ends last result := by
  refine (Program.bind_follows_done_iff attempt.run _ course result).trans ?_
  constructor
  · intro given
    obtain ⟨first, value, last, rfl, ended, continued⟩ := given
    cases value with
    | error failure =>
        obtain ⟨rfl, same⟩ := (Program.done_follows_iff _ _ _).mp continued
        cases same
        rw [List.append_nil]
        exact .inl ⟨failure, ended, rfl⟩
    | ok value => exact .inr ⟨first, value, last, rfl, ended, continued⟩
  · intro given
    rcases given with ⟨failure, ended, rfl⟩ | ⟨first, value, last, rfl, ended, continued⟩
    · exact ⟨course, .error failure, [], by simp, ended, .here _⟩
    · exact ⟨first, .ok value, last, rfl, ended, continued⟩

theorem ends_call_bind_iff (node : NodeId) (method : NodeCall)
    (next : method.Answer → Attempt Result) (course : List Exchange)
    (result : Except Failure Result) :
    Ends (call node method >>= next) course result ↔
      (∃ failure, course = [.reply node method (.error failure)] ∧ result = .error failure) ∨
        ∃ value later, course = .reply node method (.ok value) :: later ∧
          (next value).Ends later result := by
  rw [ends_bind_iff]
  constructor
  · intro given
    rcases given with ⟨failure, failed, rfl⟩ | ⟨first, value, later, rfl, called, continued⟩
    · exact .inl ⟨failure, (ends_call_iff _ _ _ _).mp failed, rfl⟩
    · obtain rfl := (ends_call_iff _ _ _ _).mp called
      exact .inr ⟨value, later, rfl, continued⟩
  · intro given
    rcases given with ⟨failure, rfl, rfl⟩ | ⟨value, later, rfl, continued⟩
    · exact .inl ⟨failure, (ends_call_iff _ _ _ _).mpr rfl, rfl⟩
    · exact .inr ⟨_, value, later, rfl, (ends_call_iff _ _ _ _).mpr rfl, continued⟩

theorem ends_perform_bind_iff (request : Request) (next : request.Answer → Attempt Result)
    (course : List Exchange) (result : Except Failure Result) :
    Ends (perform request >>= next) course result ↔
      ∃ answer later, course = ⟨request, answer⟩ :: later ∧ (next answer).Ends later result := by
  exact Program.ask_follows_done_iff request (fun answer => (next answer).run) course result

theorem ends_outcome_iff (attempt : Attempt Result) (course : List Exchange)
    (result : Except Failure (Except Failure Result)) :
    Ends attempt.outcome course result ↔
      ∃ outcome, attempt.Ends course outcome ∧ result = .ok outcome := by
  refine (Program.bind_follows_done_iff attempt.run _ course result).trans ?_
  constructor
  · intro given
    obtain ⟨first, outcome, last, rfl, ended, continued⟩ := given
    obtain ⟨rfl, same⟩ := (Program.done_follows_iff _ _ _).mp continued
    cases same
    rw [List.append_nil]
    exact ⟨outcome, ended, rfl⟩
  · intro given
    obtain ⟨outcome, ended, rfl⟩ := given
    exact ⟨course, outcome, [], by simp, ended, .here _⟩

theorem ends_outcome_bind_iff (attempt : Attempt First)
    (next : Except Failure First → Attempt Second) (course : List Exchange)
    (result : Except Failure Second) :
    Ends (attempt.outcome >>= next) course result ↔
      ∃ first outcome last, course = first ++ last ∧ attempt.Ends first outcome ∧
        (next outcome).Ends last result := by
  rw [ends_bind_iff]
  constructor
  · intro given
    rcases given with ⟨failure, failed, -⟩ | ⟨first, outcome, last, rfl, reached, continued⟩
    · obtain ⟨outcome, -, ⟨⟩⟩ := (ends_outcome_iff _ _ _).mp failed
    · obtain ⟨_, ended, ⟨⟩⟩ := (ends_outcome_iff _ _ _).mp reached
      exact ⟨first, outcome, last, rfl, ended, continued⟩
  · intro given
    obtain ⟨first, outcome, last, rfl, ended, continued⟩ := given
    exact .inr ⟨first, outcome, last, rfl, (ends_outcome_iff _ _ _).mpr ⟨outcome, ended, rfl⟩,
      continued⟩

theorem run_outcome_bind (attempt : Attempt First)
    (next : Except Failure First → Attempt Second) :
    (attempt.outcome >>= next).run = attempt.run.bind fun result => (next result).run :=
  Program.bind_assoc attempt.run _ _

/-- An attempt that begins with a call is still at the call, has ended in its failure, or goes on
with its value. -/
theorem call_bind_follows_cases {node : NodeId} {method : NodeCall}
    {next : method.Answer → Attempt Result} {course : List Exchange}
    {rest : Program (Except Failure Result)}
    (followed : (call node method >>= next).run.Follows course rest) :
    (course = [] ∧ rest = (call node method >>= next).run) ∨
      (∃ failure, rest = .done (.error failure)) ∨
        ∃ value later, course = .reply node method (.ok value) :: later ∧
          (next value).run.Follows later rest := by
  rcases (Program.ask_follows_iff _ _ _ _).mp followed with
    ⟨rfl, same⟩ | ⟨answer, later, rfl, answered⟩
  · exact .inl ⟨rfl, same⟩
  cases answer with
  | error failure =>
      exact .inr (.inl ⟨failure, ((Program.done_follows_iff _ _ _).mp answered).2⟩)
  | ok value => exact .inr (.inr ⟨value, later, rfl, answered⟩)

/-- Every exchange of the attempt is allowed, and a value that it ends in is an expected one. -/
def Within (attempt : Attempt Result) (allowed : Exchange → Prop) (expected : Result → Prop) :
    Prop :=
  ∀ course result, attempt.Ends course result →
    (∀ exchange ∈ course, allowed exchange) ∧ ∀ value, result = .ok value → expected value

variable {allowed : Exchange → Prop}

theorem within_pure {expected : Result → Prop} {value : Result} (holds : expected value) :
    Within (pure value) allowed expected := by
  intro course result ended
  obtain ⟨rfl, rfl⟩ := (ends_pure_iff _ _ _).mp ended
  exact ⟨by simp, by intro _ same; cases same; exact holds⟩

theorem within_throw (failure : Failure) (expected : Result → Prop) :
    Within (throw failure) allowed expected := by
  intro course result ended
  obtain ⟨rfl, rfl⟩ := (ends_throw_iff _ _ _).mp ended
  exact ⟨by simp, by intro _ same; cases same⟩

theorem within_ofExcept (given : Except Failure Result) :
    Within (ofExcept given) allowed fun value => given = .ok value := by
  intro course result ended
  obtain ⟨rfl, rfl⟩ := (ends_ofExcept_iff _ _ _).mp ended
  exact ⟨by simp, fun value same => same⟩

theorem within_perform {request : Request} (holds : ∀ answer, allowed ⟨request, answer⟩) :
    Within (perform request) allowed fun _ => True := by
  intro course result ended
  obtain ⟨answer, rfl, rfl⟩ := (ends_perform_iff _ _ _).mp ended
  exact ⟨by simpa using holds answer, by simp⟩

theorem within_bind {attempt : Attempt First} {next : First → Attempt Second}
    {middle : First → Prop} {expected : Second → Prop}
    (first : attempt.Within allowed middle)
    (last : ∀ value, middle value → (next value).Within allowed expected) :
    (attempt >>= next).Within allowed expected := by
  intro course result ended
  rcases (ends_bind_iff _ _ _ _).mp ended with
    ⟨failure, failed, rfl⟩ | ⟨before, value, after, rfl, reached, continued⟩
  · exact ⟨(first _ _ failed).1, by intro _ same; cases same⟩
  · have early := first _ _ reached
    have late := last value (early.2 value rfl) _ _ continued
    refine ⟨?_, late.2⟩
    intro exchange present
    rcases List.mem_append.mp present with inFirst | inLast
    · exact early.1 exchange inFirst
    · exact late.1 exchange inLast

theorem calls_nobody_of_within {attempt : Attempt Result} {expected : Result → Prop}
    (within : attempt.Within allowed expected)
    (uncalled : ∀ exchange, allowed exchange → exchange.call? = none) :
    attempt.run.CallsNobody := by
  intro course rest followed
  obtain ⟨later, result, ended, awaited⟩ := rest.exists_continuation
  have kept := (within _ _ (Program.follows_append followed ended)).1
  have silent : answeredCalls later = [] := by
    apply List.filterMap_eq_nil_iff.mpr
    intro exchange present
    exact uncalled exchange (kept exchange (List.mem_append_right course present))
  rw [silent] at awaited
  exact List.prefix_nil.mp awaited

theorem within_outcome {attempt : Attempt Result} {expected : Result → Prop}
    (within : attempt.Within allowed expected) :
    attempt.outcome.Within allowed fun outcome =>
      ∀ value, outcome = .ok value → expected value := by
  intro course result ended
  obtain ⟨outcome, reached, rfl⟩ := (ends_outcome_iff _ _ _).mp ended
  have kept := within _ _ reached
  exact ⟨kept.1, by intro _ same; cases same; exact kept.2⟩

theorem within_mono {attempt : Attempt Result} {more : Exchange → Prop}
    {expected known : Result → Prop} (within : attempt.Within allowed expected)
    (allows : ∀ exchange, allowed exchange → more exchange)
    (expects : ∀ value, expected value → known value) : attempt.Within more known := by
  intro course result ended
  have kept := within _ _ ended
  exact ⟨fun exchange present => allows exchange (kept.1 exchange present),
    fun value same => expects value (kept.2 value same)⟩

end Attempt

end Teardown
