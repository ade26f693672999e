import Teardown.Log.Root
import Teardown.Proofs.Disturbance
import Teardown.Proofs.Fleet
import Teardown.Proofs.Restoration

/-!
# Settings that are read once

A process changes its environment, builds strategies, sets up its log and makes visits, in any order.
What it keeps of its settings is what came of the first reading that succeeded, and everything that
asks for the settings of the process gets these. Settings given explicitly pass by what is kept, and
visits know of none of it.
-/

namespace Teardown

set_option autoImplicit false

variable {State : Type}

theorem bind_eq_ok {First Second : Type} {given : Except Failure First}
    {next : First → Except Failure Second} {value : Second}
    (succeeded : (given >>= next) = .ok value) :
    ∃ first, given = .ok first ∧ next first = .ok value := by
  cases given with
  | error failure => cases succeeded
  | ok first => exact ⟨first, rfl, succeeded⟩

/-- The settings that a source is given; given nothing, it takes those of the process. Sources that
take no settings have none at all. -/
def Source.settings? : Source → Option (Option (List (String × Value)))
  | .minutes _ _ _ | .copy _ => none
  | .config _ _ settings | .definition _ settings | .snapshot _ settings
  | .restored _ settings => some settings

namespace Deployment

def keep (deployment : Deployment) (kept : Option Settings) : Deployment :=
  { deployment with cached := kept }

/-- Asking for the settings of a process gives what is kept, or keeps what is read. -/
theorem settings_cases (deployment : Deployment) :
    (∃ settings, deployment.settings = (deployment.keep (some settings), .ok settings) ∧
        (deployment.cached = some settings ∨
          deployment.cached = none ∧ deployment.load [] = .ok settings)) ∨
      ∃ failure, deployment.settings = (deployment, .error failure) ∧ deployment.cached = none ∧
        deployment.load [] = .error failure := by
  obtain ⟨environment, file, cached⟩ := deployment
  cases cached with
  | some known => exact .inl ⟨known, rfl, .inl rfl⟩
  | none =>
      simp only [settings]
      cases read : Deployment.load ⟨environment, file, none⟩ [] with
      | error failure => exact .inr ⟨failure, rfl, trivial, rfl⟩
      | ok loaded => exact .inl ⟨loaded, rfl, .inr ⟨trivial, rfl⟩⟩

end Deployment

namespace Session

variable {session : Session State} {source : Source}

def keep (session : Session State) (kept : Option Settings) : Session State :=
  { session with deployment := session.deployment.keep kept }

/-- What is kept plays no part in what a source yields by itself. -/
theorem read_keep (session : Session State) (source : Source) (kept : Option Settings) :
    (session.keep kept).read source = session.read source := by
  cases source <;> rfl

/-- A source that takes settings yields them, and no strategy by itself. -/
theorem read_of_takes {settings : Option (List (String × Value))}
    (takes : source.settings? = some settings) {reading : Reading}
    (yielded : session.read source = .ok reading) :
    ∃ given parsed, session.givenSettings settings = .ok given ∧ reading = .parsed given parsed := by
  cases source with
  | minutes idle cycle disabled => cases takes
  | copy id => cases takes
  | config idle cycle explicit =>
      cases takes
      obtain ⟨given, known, rest⟩ := bind_eq_ok yielded
      cases rest
      exact ⟨given, _, known, rfl⟩
  | definition stored explicit =>
      cases takes
      obtain ⟨definition, -, rest⟩ := bind_eq_ok yielded
      obtain ⟨given, known, rest⟩ := bind_eq_ok rest
      cases rest
      exact ⟨given, _, known, rfl⟩
  | snapshot stored explicit =>
      cases takes
      obtain ⟨given, known, rest⟩ := bind_eq_ok yielded
      obtain ⟨policy, -, rest⟩ := bind_eq_ok rest
      cases rest
      exact ⟨given, _, known, rfl⟩
  | restored id explicit =>
      cases takes
      obtain ⟨strategy, -, rest⟩ := bind_eq_ok yielded
      obtain ⟨given, known, rest⟩ := bind_eq_ok rest
      obtain ⟨policy, -, rest⟩ := bind_eq_ok rest
      cases rest
      exact ⟨given, _, known, rfl⟩

def asks (session : Session State) (source : Source) : Bool :=
  match session.read source with
  | .ok (.parsed none _) => true
  | _ => false

theorem asks_iff : session.asks source = true ↔
    ∃ parsed, session.read source = .ok (.parsed none parsed) := by
  unfold asks
  split
  · next parsed yielded => exact iff_of_true rfl ⟨parsed, yielded⟩
  · next other =>
      refine iff_of_false Bool.noConfusion ?_
      rintro ⟨parsed, yielded⟩
      exact other parsed yielded

theorem not_asks_of_explicit {given : List (String × Value)}
    (explicit : source.settings? = some (some given)) : ¬ session.asks source = true := by
  intro asking
  obtain ⟨parsed, yielded⟩ := asks_iff.mp asking
  obtain ⟨settings, same, known, yields⟩ := read_of_takes explicit yielded
  cases yields
  cases givenSettings_none known

theorem asks_or_fails_of_implicit (session : Session State) (implicit : source.settings? = some none) :
    session.asks source = true ∨ ∃ failure, session.construct source = (session, .error failure) := by
  cases yielded : session.read source with
  | error failure =>
      refine .inr ⟨failure, ?_⟩
      rw [construct, yielded]
  | ok reading =>
      obtain ⟨given, parsed, known, rfl⟩ := read_of_takes implicit yielded
      cases known
      exact .inl (asks_iff.mpr ⟨parsed, yielded⟩)

theorem construct_of_asks (asking : session.asks source = true) :
    (session.construct source).1.deployment = session.deployment.settings.1 ∧
      (session.construct source).2.map (·.evaluationDisabled) =
        session.deployment.settings.2.map (·.retentionDisabled) := by
  obtain ⟨parsed, yielded⟩ := asks_iff.mp asking
  have warned : (session.logWarnings parsed.2).deployment = session.deployment := rfl
  rw [construct, yielded]
  simp only [strategyFrom, warned]
  rcases session.deployment.settings with ⟨deployment, failure | settings⟩
  · exact ⟨rfl, rfl⟩
  · exact ⟨rfl, rfl⟩

theorem construct_of_not_asks (spared : ¬ session.asks source = true) :
    (session.construct source).1.deployment = session.deployment ∧
      ∀ kept, (session.keep kept).construct source =
        ((session.construct source).1.keep kept, (session.construct source).2) := by
  simp only [construct, read_keep]
  cases yielded : session.read source with
  | error failure => exact ⟨rfl, fun _ => rfl⟩
  | ok reading =>
      cases reading with
      | complete policy disabled => exact ⟨rfl, fun _ => rfl⟩
      | parsed given parsed =>
          cases given with
          | none => exact absurd (asks_iff.mpr ⟨parsed, yielded⟩) spared
          | some settings => exact ⟨rfl, fun _ => rfl⟩

theorem build_result (session : Session State) (id : String) (source : Source) :
    (session.build id source).1.deployment = (session.construct source).1.deployment ∧
      (session.build id source).2 = (session.construct source).2 := by
  unfold build
  rcases session.construct source with ⟨built, failure | strategy⟩
  · exact ⟨rfl, rfl⟩
  · exact ⟨rfl, rfl⟩

theorem build_of_not_asks (spared : ¬ session.asks source = true) (id : String)
    (kept : Option Settings) :
    (session.keep kept).build id source =
      ((session.build id source).1.keep kept, (session.build id source).2) := by
  simp only [build, (construct_of_not_asks spared).2 kept]
  rcases session.construct source with ⟨built, failure | strategy⟩
  · rfl
  · rfl

theorem strategy_of_build_other (session : Session State) {id other : String}
    (distinct : id ≠ other) (source : Source) :
    (session.build other source).1.strategy? id = session.strategy? id := by
  have built := (session.construct_builds source).1.strategies
  unfold build
  generalize session.construct source = made at built
  obtain ⟨next, result⟩ := made
  simp only at built
  cases result with
  | error failure => simp only [strategy?, built]
  | ok strategy =>
      have unmatched : (id == other) = false := beq_false_of_ne distinct
      simp only [strategy?, built, List.lookup_cons, unmatched, lookup_filter_of_ne distinct]

end Session

theorem setup_of_given (root : Log.Root) (deployment : Deployment) (given : List (String × Value))
    (kept : Option Settings) :
    root.setupFromDeployment (deployment.keep kept) (some given) =
      (deployment.keep kept, (root.setupFromDeployment deployment (some given)).2) := by
  have read : (deployment.keep kept).load given = deployment.load given := rfl
  simp only [Log.Root.setupFromDeployment, read]
  cases deployment.load given with
  | error failure => rfl
  | ok settings => rfl

theorem setup_deployment (root : Log.Root) (deployment : Deployment)
    (given : Option (List (String × Value))) :
    (root.setupFromDeployment deployment given).1 =
      if given = none then deployment.settings.1 else deployment := by
  cases given with
  | none =>
      simp only [Log.Root.setupFromDeployment, if_true]
      rcases deployment.settings with ⟨read, failure | settings⟩
      · rfl
      · rfl
  | some given =>
      simp only [Log.Root.setupFromDeployment]
      cases deployment.load given with
      | error failure => rfl
      | ok settings => rfl

theorem setup_of_settings {deployment read : Deployment} {settings : Settings}
    (known : deployment.settings = (read, .ok settings)) (root : Log.Root) :
    (root.setupFromDeployment deployment none).2 = root.setupFrom settings := by
  simp only [Log.Root.setupFromDeployment, known]

/-- A turn of a visit, or a change of the world between turns. -/
inductive Move (State : Type) where
  | start (strategy : Strategy) (operation : Operation) (node : Option NodeId) (threaded : Bool)
      (cancelRequests : Nat)
  | resume (task : TaskId)
  | cancel (task : TaskId)
  | askToStop (task : TaskId) (cancelRequests : Nat)
  | change (nodes : NodeId → State) (noted : List (ErrorId × String)) (told : List Log.Record)

def Watch.move (behaviour : Behaviour State) (watch : Watch State) : Move State → Watch State
  | .start strategy operation node threaded cancelRequests =>
      watch.start behaviour strategy operation node threaded cancelRequests
  | .resume task => watch.resume behaviour task
  | .cancel task => watch.cancel behaviour task
  | .askToStop task cancelRequests => watch.setCancelRequests task cancelRequests
  | .change nodes noted told => watch.setWorld (watch.host.world.change nodes noted told)

inductive Deed (State : Type) where
  | setEnvironment (environment : List (String × String))
  | setFile (file : Option String)
  | build (id : String) (source : Source)
  | setup (given : Option (List (String × Value)))
  | visit (move : Move State)

namespace Deed

def move? : Deed State → Option (Move State)
  | .visit move => some move
  | _ => none

end Deed

/-- All that one process does: its strategies and their visits, and its log. -/
structure Process (State : Type) where
  fleet : Fleet State
  root : Log.Root := .initial

namespace Process

def deployment (process : Process State) : Deployment := process.fleet.session.deployment

def redeploy (process : Process State) (deployment : Deployment) : Process State :=
  { process with fleet := process.fleet.redeploy deployment }

def act (behaviour : Behaviour State) (process : Process State) : Deed State → Process State
  | .setEnvironment environment =>
      process.redeploy (process.deployment.setEnvironment environment)
  | .setFile file => process.redeploy { process.deployment with file := file }
  | .build id source => { process with fleet := process.fleet.build id source }
  | .setup given =>
      let (deployment, root, _) := process.root.setupFromDeployment process.deployment given
      { process.redeploy deployment with root := root }
  | .visit move =>
      { process with fleet := process.fleet.setWatch (process.fleet.watch.move behaviour move) }

def after (behaviour : Behaviour State) (process : Process State) (deeds : List (Deed State)) :
    Process State :=
  deeds.foldl (act behaviour) process

/-- What reading the settings would give, if the deed comes to need those of the process. What is kept
plays no part here. -/
def reading? (process : Process State) : Deed State → Option Settings
  | .build _ source =>
      if process.fleet.session.asks source then (process.deployment.load []).toOption else none
  | .setup none => (process.deployment.load []).toOption
  | _ => none

/-- The settings that came of the first reading that succeeded. -/
def firstRead (behaviour : Behaviour State) (process : Process State) :
    List (Deed State) → Option Settings
  | [] => none
  | deed :: deeds =>
      (process.reading? deed).or ((process.act behaviour deed).firstRead behaviour deeds)

section Keeping

variable {behaviour : Behaviour State} {process : Process State}

theorem deployment_build (process : Process State) (id : String) (source : Source) :
    (process.act behaviour (.build id source)).deployment =
      (process.fleet.session.construct source).1.deployment := by
  have built := (process.fleet.session.build_result id source).1
  rw [← built]
  simp only [act, deployment, Fleet.build]
  rcases process.fleet.session.build id source with ⟨session, failure | strategy⟩
  · rfl
  · rfl

theorem cached_settings (deployment : Deployment) :
    deployment.settings.1.cached = deployment.cached.or (deployment.load []).toOption := by
  rcases deployment.settings_cases with
    ⟨settings, asked, kept | ⟨fresh, read⟩⟩ | ⟨failure, asked, fresh, read⟩
  · rw [asked, kept]
    rfl
  · rw [asked, fresh, read]
    rfl
  · rw [asked, fresh, read]
    rfl

theorem cached_act (process : Process State) (deed : Deed State) :
    (process.act behaviour deed).deployment.cached =
      process.deployment.cached.or (process.reading? deed) := by
  cases deed with
  | setEnvironment environment => exact (Option.or_none).symm
  | setFile file => exact (Option.or_none).symm
  | visit move => exact (Option.or_none).symm
  | build id source =>
      rw [deployment_build]
      by_cases asking : process.fleet.session.asks source = true
      · rw [(Session.construct_of_asks asking).1, cached_settings]
        simp only [reading?, if_pos asking]
        rfl
      · rw [(Session.construct_of_not_asks asking).1]
        simp only [reading?, if_neg asking, Option.or_none]
        rfl
  | setup given =>
      change (process.root.setupFromDeployment process.deployment given).1.cached = _
      rw [setup_deployment]
      cases given with
      | none => exact cached_settings process.deployment
      | some given => exact (Option.or_none).symm

/-- Whatever a process does, it keeps what was kept, or else what came of the first reading. -/
theorem cached_after (behaviour : Behaviour State) (process : Process State) (deeds : List (Deed State)) :
    (process.after behaviour deeds).deployment.cached =
      process.deployment.cached.or (process.firstRead behaviour deeds) := by
  induction deeds generalizing process with
  | nil => exact (Option.or_none).symm
  | cons deed deeds ih =>
      change ((process.act behaviour deed).after behaviour deeds).deployment.cached = _
      rw [ih, cached_act, Option.or_assoc]
      rfl

theorem first_read_append (process : Process State) (before later : List (Deed State)) :
    process.firstRead behaviour (before ++ later) =
      (process.firstRead behaviour before).or
        ((process.after behaviour before).firstRead behaviour later) := by
  induction before generalizing process with
  | nil => rfl
  | cons deed before ih =>
      simp only [List.cons_append, firstRead, ih, Option.or_assoc]
      rfl

/-- What is kept after a deed is what was read first, however the process goes on. -/
theorem first_read_of_kept (fresh : process.deployment.cached = none)
    {before : List (Deed State)} {deed : Deed State} {settings : Settings}
    (kept : ((process.after behaviour before).act behaviour deed).deployment.cached = some settings)
    (later : List (Deed State)) :
    process.firstRead behaviour (before ++ deed :: later) = some settings := by
  have cached := cached_after behaviour process before
  rw [fresh, Option.none_or] at cached
  rw [cached_act, cached] at kept
  rw [first_read_append, firstRead, ← Option.or_assoc, kept, Option.some_or]

end Keeping

section Staying

variable {behaviour : Behaviour State}

/-- The later process has every strategy and visit of the earlier one. -/
structure Extends (process later : Process State) : Prop where
  built : process.fleet.built <+: later.fleet.built
  visits : ∀ (task : TaskId) (visit : Visit), process.fleet.visits[task]? = some visit →
    ∃ other, later.fleet.visits[task]? = some other ∧ other.strategy = visit.strategy

theorem extends_self (process : Process State) : process.Extends process where
  built := List.prefix_rfl
  visits := fun _ visit present => ⟨visit, present, rfl⟩

theorem extends_trans {first second third : Process State} (early : first.Extends second)
    (late : second.Extends third) : first.Extends third where
  built := early.built.trans late.built
  visits := by
    intro task visit present
    obtain ⟨middle, presentMiddle, same⟩ := early.visits task visit present
    obtain ⟨last, presentLast, sameLast⟩ := late.visits task middle presentMiddle
    exact ⟨last, presentLast, sameLast.trans same⟩

theorem visits_of_extended {visits later : List Visit} {task : TaskId} {course : List Exchange}
    (same : later = visits.modify task (·.extend course)) (other : TaskId) (visit : Visit)
    (present : visits[other]? = some visit) :
    ∃ shown, later[other]? = some shown ∧ shown.strategy = visit.strategy := by
  rw [same, List.getElem?_modify, present]
  by_cases this : task = other
  · exact ⟨visit.extend course, by simp [this], rfl⟩
  · exact ⟨visit, by simp [this], rfl⟩

theorem extends_move (process : Process State) (move : Move State) :
    process.Extends (process.act behaviour (.visit move)) where
  built := List.prefix_rfl
  visits := by
    cases move with
    | start strategy operation node threaded cancelRequests =>
        intro task visit present
        refine ⟨visit, ?_, rfl⟩
        exact (List.getElem?_append_left (List.getElem?_eq_some_iff.mp present).1).trans present
    | resume task =>
        obtain ⟨course, same⟩ := Watch.visits_resume behaviour process.fleet.watch task
        exact visits_of_extended same
    | cancel task =>
        obtain ⟨course, same⟩ := Watch.visits_cancel behaviour process.fleet.watch task
        exact visits_of_extended same
    | askToStop task cancelRequests => exact fun _ visit present => ⟨visit, present, rfl⟩
    | change nodes noted told => exact fun _ visit present => ⟨visit, present, rfl⟩

theorem extends_act (process : Process State) (deed : Deed State) :
    process.Extends (process.act behaviour deed) := by
  cases deed with
  | setEnvironment environment =>
      exact ⟨List.prefix_rfl, fun _ visit present => ⟨visit, present, rfl⟩⟩
  | setFile file => exact ⟨List.prefix_rfl, fun _ visit present => ⟨visit, present, rfl⟩⟩
  | setup given => exact ⟨List.prefix_rfl, fun _ visit present => ⟨visit, present, rfl⟩⟩
  | visit move => exact extends_move process move
  | build id source =>
      have visits : (process.act behaviour (.build id source)).fleet.visits =
          process.fleet.visits := by
        simp only [act, Fleet.build]
        rcases process.fleet.session.build id source with ⟨session, failure | strategy⟩
        · rfl
        · rfl
      constructor
      · rcases (Fleet.build_cases process.fleet id source).2 with ⟨same, -⟩ | ⟨strategy, same, -⟩
        · exact same ▸ List.prefix_rfl
        · exact same ▸ List.prefix_append _ _
      · rw [visits]
        exact fun _ visit present => ⟨visit, present, rfl⟩

theorem extends_after (process : Process State) (deeds : List (Deed State)) :
    process.Extends (process.after behaviour deeds) := by
  induction deeds generalizing process with
  | nil => exact extends_self process
  | cons deed deeds ih => exact extends_trans (extends_act process deed) (ih _)

end Staying

end Process

def Host.withJournal {Result : Type} (host : Host State Result) (journal : List Log.Record) :
    Host State Result :=
  { host with world := host.world.withJournal journal }

namespace Watch

variable {behaviour : Behaviour State}

def withJournal (watch : Watch State) (journal : List Log.Record) : Watch State :=
  { watch with host := watch.host.withJournal journal }

theorem start_with_journal (watch : Watch State) (journal : List Log.Record) (strategy : Strategy)
    (operation : Operation) (node : Option NodeId) (threaded : Bool) (cancelRequests : Nat) :
    ∃ told, (watch.withJournal journal).start behaviour strategy operation node threaded
        cancelRequests =
      (watch.start behaviour strategy operation node threaded cancelRequests).withJournal
        (journal ++ told) := by
  let turn : World.Turn := { threaded := threaded, cancelRequested := 0 < cancelRequests }
  let program := (operation.attempt strategy node).run
  have ran := World.run_with_journal behaviour turn program watch.host.world journal
  have asked := World.exchanges_with_journal behaviour turn program watch.host.world journal
  have world : (watch.withJournal journal).host.world = watch.host.world.withJournal journal := rfl
  refine ⟨records (watch.host.world.exchanges behaviour turn program), ?_⟩
  simp only [start, world, program, turn] at ran asked ⊢
  rw [ran, asked]
  rfl

theorem advance_with_journal (watch : Watch State) (journal : List Log.Record) (task : TaskId)
    (cancelRequests : Nat) (node : NodeId) (method : NodeCall)
    (reply : World State × Except Failure method.Answer)
    (next : Except Failure method.Answer → Program (Except Failure CallResult)) :
    ∃ told, (watch.withJournal journal).advance behaviour task cancelRequests node method
        (reply.1.withJournal journal, reply.2) next =
      (watch.advance behaviour task cancelRequests node method reply next).withJournal
        (journal ++ told) := by
  let turn : World.Turn := { cancelRequested := 0 < cancelRequests }
  have ran := World.run_with_journal behaviour turn (next reply.2) reply.1 journal
  have asked := World.exchanges_with_journal behaviour turn (next reply.2) reply.1 journal
  refine ⟨records (reply.1.exchanges behaviour turn (next reply.2)), ?_⟩
  simp only [advance, Host.advance, turn] at ran asked ⊢
  rw [ran, asked]
  rfl

/-- A visit goes the same way whatever else has been logged. -/
theorem move_with_journal (behaviour : Behaviour State) (watch : Watch State)
    (journal : List Log.Record) (move : Move State) :
    ∃ told, (watch.withJournal journal).move behaviour move =
      (watch.move behaviour move).withJournal (journal ++ told) := by
  cases move with
  | start strategy operation node threaded cancelRequests =>
      exact start_with_journal watch journal strategy operation node threaded cancelRequests
  | resume task =>
      have tasks : (watch.withJournal journal).host.tasks = watch.host.tasks := rfl
      simp only [Watch.move, resume, tasks]
      rcases watch.host.tasks[task]? with _ | ⟨cancelRequests, _ | ⟨node, method, _, next⟩⟩
      · exact ⟨[], by rw [List.append_nil]⟩
      · exact ⟨[], by rw [List.append_nil]⟩
      · exact advance_with_journal watch journal task cancelRequests node method
          (watch.host.world.answer behaviour node method) next
  | cancel task =>
      have tasks : (watch.withJournal journal).host.tasks = watch.host.tasks := rfl
      simp only [Watch.move, cancel, tasks]
      rcases watch.host.tasks[task]? with _ | ⟨cancelRequests, _ | ⟨node, method, _, next⟩⟩
      · exact ⟨[], by rw [List.append_nil]⟩
      · exact ⟨[], by rw [List.append_nil]⟩
      · exact advance_with_journal watch journal task (cancelRequests + 1) node method
          (watch.host.world.breakOff behaviour node method) next
  | askToStop task cancelRequests => exact ⟨[], by rw [List.append_nil]; rfl⟩
  | change nodes noted told => exact ⟨told, rfl⟩

theorem moves_with_journal (behaviour : Behaviour State) (moves : List (Move State)) (watch : Watch State)
    (journal : List Log.Record) :
    ∃ told, moves.foldl (move behaviour) (watch.withJournal journal) =
      (moves.foldl (move behaviour) watch).withJournal (journal ++ told) := by
  induction moves generalizing watch journal with
  | nil => exact ⟨[], by rw [List.append_nil]; rfl⟩
  | cons first moves ih =>
      obtain ⟨told, same⟩ := move_with_journal behaviour watch journal first
      obtain ⟨more, rest⟩ := ih (watch.move behaviour first) (journal ++ told)
      refine ⟨told ++ more, ?_⟩
      rw [List.foldl_cons, same, rest, List.append_assoc]
      rfl

end Watch

namespace Session

theorem host_logWarnings (session : Session State) (warnings : List Policy.MalformedMinutes) :
    ∃ told, (session.logWarnings warnings).host =
      session.host.withJournal (session.host.world.journal ++ told) := by
  induction warnings generalizing session with
  | nil => exact ⟨[], by rw [List.append_nil]; rfl⟩
  | cons warning warnings ih =>
      obtain ⟨told, same⟩ := ih (session.logWarnings [warning])
      let record : Log.Record :=
        { logger := Strategy.loggerName
          level := Log.warningLevel
          template := warning.text }
      refine ⟨record :: told, ?_⟩
      rw [List.append_cons]
      exact same

/-- Building a strategy only logs, as far as visits can see. -/
theorem host_construct (session : Session State) (source : Source) :
    ∃ told, (session.construct source).1.host =
      session.host.withJournal (session.host.world.journal ++ told) := by
  unfold construct
  have unchanged : ∃ told, session.host =
      session.host.withJournal (session.host.world.journal ++ told) :=
    ⟨[], by rw [List.append_nil]; rfl⟩
  rcases session.read source with failure | ⟨policy, disabled⟩ | ⟨given, parsed⟩
  · exact unchanged
  · exact unchanged
  · cases given with
    | some settings => exact host_logWarnings session parsed.2
    | none =>
        simp only [strategyFrom]
        rcases (session.logWarnings parsed.2).deployment.settings with ⟨deployment, failure | settings⟩
        · exact host_logWarnings session parsed.2
        · exact host_logWarnings session parsed.2

end Session

namespace Process

variable {behaviour : Behaviour State}

theorem watch_build (behaviour : Behaviour State) (process : Process State) (id : String)
    (source : Source) :
    ∃ journal, (process.act behaviour (.build id source)).fleet.watch =
      process.fleet.watch.withJournal journal := by
  obtain ⟨told, built⟩ := process.fleet.session.host_construct source
  refine ⟨process.fleet.session.host.world.journal ++ told, ?_⟩
  have watched : (process.act behaviour (.build id source)).fleet.watch =
      ⟨(process.fleet.session.construct source).1.host, process.fleet.visits⟩ := by
    simp only [act, Fleet.build, Session.build]
    rcases process.fleet.session.construct source with ⟨session, failure | strategy⟩
    · rfl
    · rfl
  rw [watched, built]
  rfl

/-- The visits of a process go as if there were nothing else, up to what is logged. -/
theorem watch_after (behaviour : Behaviour State) (process : Process State) (deeds : List (Deed State)) :
    ∃ journal, (process.after behaviour deeds).fleet.watch =
      ((deeds.filterMap Deed.move?).foldl (Watch.move behaviour) process.fleet.watch).withJournal
        journal := by
  induction deeds generalizing process with
  | nil => exact ⟨process.fleet.watch.host.world.journal, rfl⟩
  | cons deed deeds ih =>
      obtain ⟨journal, same⟩ := ih (process.act behaviour deed)
      cases deed with
      | visit move => exact ⟨journal, same⟩
      | setEnvironment environment => exact ⟨journal, same⟩
      | setFile file => exact ⟨journal, same⟩
      | setup given => exact ⟨journal, same⟩
      | build id source =>
          obtain ⟨told, built⟩ := watch_build behaviour process id source
          obtain ⟨more, rest⟩ := Watch.moves_with_journal behaviour
            (deeds.filterMap Deed.move?) process.fleet.watch told
          rw [built, rest] at same
          exact ⟨journal, same⟩

theorem strategy_of_act (process : Process State) {deed : Deed State} {id : String}
    (unbuilt : ∀ source, deed ≠ .build id source) :
    (process.act behaviour deed).fleet.session.strategy? id =
      process.fleet.session.strategy? id := by
  cases deed with
  | build other source =>
      have distinct : id ≠ other := by
        rintro rfl
        exact unbuilt source rfl
      have kept := process.fleet.session.strategy_of_build_other distinct source
      simp only [act, Fleet.build]
      rcases made : process.fleet.session.build other source with ⟨session, failure | strategy⟩
      · rw [made] at kept
        exact kept
      · rw [made] at kept
        exact kept
  | _ => rfl

theorem strategy_of_after (process : Process State) {deeds : List (Deed State)} {id : String}
    (unbuilt : ∀ source, .build id source ∉ deeds) :
    (process.after behaviour deeds).fleet.session.strategy? id =
      process.fleet.session.strategy? id := by
  induction deeds generalizing process with
  | nil => rfl
  | cons deed deeds ih =>
      refine (ih _ fun source present => unbuilt source (List.mem_cons_of_mem _ present)).trans ?_
      apply strategy_of_act
      rintro source rfl
      exact unbuilt source List.mem_cons_self

theorem build_uses_first_read {process : Process State} (fresh : process.deployment.cached = none)
    (before : List (Deed State)) {id : String} {source : Source}
    (implicit : source.settings? = some none) (later : List (Deed State)) :
    let here := (process.after behaviour before).fleet.session
    (∀ strategy, (here.build id source).2 = .ok strategy → ∃ settings,
        process.firstRead behaviour (before ++ .build id source :: later) = some settings ∧
          strategy.evaluationDisabled = settings.retentionDisabled) ∧
      ∀ failure, (here.build id source).2 = .error failure →
        (here.build id source).1.deployment = here.deployment := by
  intro here
  obtain ⟨deployed, resulted⟩ := here.build_result id source
  rw [deployed, resulted]
  rcases here.asks_or_fails_of_implicit implicit with asking | ⟨failure, failed⟩
  · obtain ⟨read, flagged⟩ := Session.construct_of_asks asking
    rcases here.deployment.settings_cases with ⟨settings, asked, -⟩ | ⟨failure, asked, -, -⟩
    · rw [asked] at read flagged
      have kept : ((process.after behaviour before).act behaviour (.build id source)).deployment.cached
          = some settings := by
        rw [deployment_build, read]
        rfl
      constructor
      · intro strategy made
        rw [made] at flagged
        exact ⟨settings, first_read_of_kept fresh kept later, Except.ok.inj flagged⟩
      · intro failure made
        rw [made] at flagged
        cases flagged
    · rw [asked] at read flagged
      constructor
      · intro strategy made
        rw [made] at flagged
        cases flagged
      · exact fun _ _ => read
  · rw [failed]
    exact ⟨fun _ made => (nomatch made), fun _ _ => rfl⟩

theorem setup_uses_first_read {process : Process State} (fresh : process.deployment.cached = none)
    (before later : List (Deed State)) :
    let here := process.after behaviour before
    let made := here.root.setupFromDeployment here.deployment none
    (∃ settings, process.firstRead behaviour (before ++ .setup none :: later) = some settings ∧
        made.2 = here.root.setupFrom settings) ∨
      ∃ failure, here.deployment.load [] = .error failure ∧
        made = (here.deployment, here.root, .error failure) := by
  intro here made
  rcases here.deployment.settings_cases with ⟨settings, asked, -⟩ | ⟨failure, asked, -, unread⟩
  · refine .inl ⟨settings, ?_, setup_of_settings asked here.root⟩
    apply first_read_of_kept fresh
    change (here.root.setupFromDeployment here.deployment none).1.cached = _
    rw [setup_deployment, if_pos rfl, asked]
    rfl
  · refine .inr ⟨failure, unread, ?_⟩
    simp only [made, Log.Root.setupFromDeployment, asked]

/-- Whatever a process does, in whatever order: what it keeps is what came of the first reading of its
settings that succeeded. Every strategy built and every set-up of the log without settings of its own
that gets settings gets these; one that fails for want of them keeps nothing. What is given settings
neither reads nor fills what is kept. Strategies stay as they were built, and the visits go the same
way whatever else the processes do and have kept, up to what else was logged. -/
theorem settings_are_read_once (behaviour : Behaviour State) {process : Process State}
    (fresh : process.deployment.cached = none) (deeds : List (Deed State)) :
    (process.after behaviour deeds).deployment.cached = process.firstRead behaviour deeds ∧
      (∀ before id source later, deeds = before ++ .build id source :: later →
        source.settings? = some none →
          let here := (process.after behaviour before).fleet.session
          (∀ strategy, (here.build id source).2 = .ok strategy → ∃ settings,
              process.firstRead behaviour deeds = some settings ∧
                strategy.evaluationDisabled = settings.retentionDisabled) ∧
            ∀ failure, (here.build id source).2 = .error failure →
              (here.build id source).1.deployment = here.deployment) ∧
      (∀ before later, deeds = before ++ .setup none :: later →
        let here := process.after behaviour before
        let made := here.root.setupFromDeployment here.deployment none
        (∃ settings, process.firstRead behaviour deeds = some settings ∧
            made.2 = here.root.setupFrom settings) ∨
          ∃ failure, here.deployment.load [] = .error failure ∧
            made = (here.deployment, here.root, .error failure)) ∧
      (∀ (session : Session State) (id : String) (source : Source) (given : List (String × Value)),
        source.settings? = some (some given) →
          (session.build id source).1.deployment = session.deployment ∧
            ∀ kept, (session.keep kept).build id source =
              ((session.build id source).1.keep kept, (session.build id source).2)) ∧
      (∀ (root : Log.Root) (deployment : Deployment) (given : List (String × Value)) kept,
        root.setupFromDeployment (deployment.keep kept) (some given) =
          (deployment.keep kept, (root.setupFromDeployment deployment (some given)).2)) ∧
      process.Extends (process.after behaviour deeds) ∧
      (∀ id, (∀ source, .build id source ∉ deeds) →
        (process.after behaviour deeds).fleet.session.strategy? id =
          process.fleet.session.strategy? id) ∧
      ∀ (other : Process State) (journal : List Log.Record) (otherDeeds : List (Deed State)),
        other.fleet.watch = process.fleet.watch.withJournal journal →
        otherDeeds.filterMap Deed.move? = deeds.filterMap Deed.move? →
          ∃ otherJournal, (other.after behaviour otherDeeds).fleet.watch =
            (process.after behaviour deeds).fleet.watch.withJournal otherJournal := by
  refine ⟨?_, ?_, ?_, ?_, setup_of_given, extends_after process deeds, ?_, ?_⟩
  · rw [cached_after, fresh, Option.none_or]
  · rintro before id source later rfl implicit
    exact build_uses_first_read fresh before implicit later
  · rintro before later rfl
    exact setup_uses_first_read fresh before later
  · intro session id source given explicit
    have spared : ¬ session.asks source = true := Session.not_asks_of_explicit explicit
    refine ⟨?_, Session.build_of_not_asks spared id⟩
    rw [(session.build_result id source).1, (Session.construct_of_not_asks spared).1]
  · exact fun id unbuilt => strategy_of_after process unbuilt
  · intro other journal otherDeeds same moves
    obtain ⟨told, goes⟩ := watch_after behaviour process deeds
    obtain ⟨otherTold, otherGoes⟩ := watch_after behaviour other otherDeeds
    obtain ⟨more, alike⟩ := Watch.moves_with_journal behaviour
      (deeds.filterMap Deed.move?) process.fleet.watch journal
    refine ⟨otherTold, ?_⟩
    rw [otherGoes, goes, moves, same, alike]
    rfl

def fresh : Process Script := { fleet := { session := Session.opened } }

/-- The environment cannot be read at first, then it can, and then it says the opposite. -/
def changes : List (Deed Script) :=
  [ .setEnvironment [("RETENTION_DISABLED", "maybe")],
    .build "first" (.config none none none),
    .setEnvironment [("RETENTION_DISABLED", "true")],
    .setup none,
    .setEnvironment [("RETENTION_DISABLED", "false")] ]

theorem later_strategy_gets_earlier_settings :
    fresh.deployment.cached = none ∧
      (fresh.after Script.behaviour changes).deployment.environment =
        [("RETENTION_DISABLED", "false")] ∧
      ∃ strategy, ((fresh.after Script.behaviour changes).fleet.session.build "second"
          (.config none none none)).2 = .ok strategy ∧ strategy.evaluationDisabled = true := by
  have unread : fresh.deployment.cached = none := rfl
  have disabled : (fresh.firstRead Script.behaviour
      (changes ++ [.build "second" (.config none none none)])).map (·.retentionDisabled) =
        some true := by
    decide +kernel
  have built : (((fresh.after Script.behaviour changes).fleet.session.build "second"
      (.config none none none)).2.toOption).isSome = true := by
    decide +kernel
  obtain ⟨strategy, made⟩ := Option.isSome_iff_exists.mp built
  have made := ok_of_toOption made
  obtain ⟨-, builds, -⟩ := settings_are_read_once Script.behaviour unread
    (changes ++ [.build "second" (.config none none none)])
  obtain ⟨settings, read, flagged⟩ := (builds changes "second" _ [] rfl rfl).1 strategy made
  refine ⟨unread, by decide +kernel, strategy, made, ?_⟩
  rw [read] at disabled
  rw [flagged]
  exact Option.some.inj disabled

end Process

end Teardown
