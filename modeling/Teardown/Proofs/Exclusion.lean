import Teardown.Script
import Teardown.Proofs.Parts
import Teardown.Proofs.Turn

/-!
# Exclusion of overlapping visits

Any number of visits may start, wait, be answered, fail and be cancelled in any order. In every
state that they can reach, each guard is held exactly as often as there are visits inside it, and no
two visits are inside one guard. A visit is skipped just when another one was under way as it
started.
-/

namespace Teardown

set_option autoImplicit false

namespace Phase

def holds : Phase → Nat
  | .inside => 1
  | _ => 0

/-- Only while nobody else holds the guard can a visit have got hold of it, and only while somebody
does can it have been refused. -/
def Fits (others : Nat) : Phase → Prop
  | .outside => True
  | .inside | .released => others = 0
  | .refused => 0 < others

end Phase

/-- A visit in a phase and others together account for every time that the guard is held. -/
structure Stands (guard : GuardId) (others : Nat) (phase : Phase) (held : List GuardId) : Prop where
  counted : held.count guard = phase.holds + others
  fits : phase.Fits others

section Turns

variable {guard : GuardId} {others : Nat} {phase : Phase} {held : List GuardId}

theorem stands_refused (stands : Stands guard others .outside held) (taken : guard ∈ held) :
    Stands guard others .refused held where
  counted := stands.counted
  fits := by
    have positive := List.count_pos_iff.mpr taken
    have counted := stands.counted
    simp only [Phase.holds] at counted
    simp only [Phase.Fits]
    omega

theorem stands_entered (stands : Stands guard others .outside held) (free : guard ∉ held) :
    Stands guard others .inside (guard :: held) := by
  have none := List.count_eq_zero.mpr free
  have counted := stands.counted
  simp only [Phase.holds] at counted
  constructor
  · rw [List.count_cons_self]
    simp only [Phase.holds]
    omega
  · simp only [Phase.Fits]
    omega

theorem stands_left (stands : Stands guard others .inside held) :
    Stands guard others .released (held.erase guard) where
  counted := by
    have counted := stands.counted
    rw [List.count_erase_self]
    simp only [Phase.holds] at counted ⊢
    omega
  fits := stands.fits

theorem stands_of_count_eq {same : List GuardId} (stands : Stands guard others phase held)
    (equal : same.count guard = held.count guard) : Stands guard others phase same where
  counted := equal.trans stands.counted
  fits := stands.fits

theorem stands_after_enter {other : GuardId} (stands : Stands guard others phase held)
    (allowed : other = guard → phase = .outside) :
    Stands guard others (phase.after guard ⟨.enter other, decide (other ∉ held)⟩)
      (if other ∈ held then held else other :: held) := by
  by_cases same : other = guard
  · subst same
    obtain rfl := allowed rfl
    rw [Phase.after_enter]
    by_cases taken : other ∈ held
    · simpa [taken] using stands_refused stands taken
    · simpa [taken] using stands_entered stands taken
  · rw [Phase.after, if_neg same]
    by_cases taken : other ∈ held
    · rw [if_pos taken]
      exact stands
    · rw [if_neg taken]
      exact stands_of_count_eq stands (List.count_cons_of_ne same)

theorem stands_after_leave {other : GuardId} (stands : Stands guard others phase held)
    (allowed : other = guard → phase = .inside) :
    Stands guard others (phase.after guard ⟨.leave other, ()⟩) (held.erase other) := by
  by_cases same : other = guard
  · subst same
    obtain rfl := allowed rfl
    rw [Phase.after_leave]
    exact stands_left stands
  · rw [Phase.after, if_neg same]
    exact stands_of_count_eq stands (List.count_erase_of_ne (Ne.symm same))

theorem stands_le_one (stands : Stands guard others phase held) (few : others ≤ 1) :
    phase.holds + others ≤ 1 := by
  have fits := stands.fits
  cases phase with
  | inside =>
      simp only [Phase.Fits] at fits
      simp only [Phase.holds]
      omega
  | _ =>
      simp only [Phase.holds]
      omega

theorem run_stands {State Result : Type} {mayCall : Phase → Prop}
    {settled : Phase → Result → Prop} (behaviour : Behaviour State) (turn : World.Turn)
    {program : Program Result} {world : World State}
    (disciplined : program.Disciplined guard mayCall settled phase)
    (stands : Stands guard others phase world.held) :
    Stands guard others (phase.afterAll guard (world.exchanges behaviour turn program))
      (world.run behaviour turn program).1.held := by
  -- Only entering and leaving change what is held; the discipline says in which phase they come.
  induction program generalizing phase world with
  | done result => exact stands
  | ask request next ih =>
      cases request with
      | call node method =>
          simp only [World.exchanges, World.run]
          cases ticket : (world.noteCall behaviour node method).ticket? behaviour turn node
              method with
          | some ticket => exact stands
          | none => exact ih _ (disciplined.2 _) stands
      | enter other =>
          have after := stands_after_enter stands disciplined.1
          simp only [World.exchanges, World.run]
          by_cases held : other ∈ world.held
          · simp only [held, not_true_eq_false, decide_false] at after ⊢
            exact ih _ (disciplined.2 false) after
          · simp only [held, not_false_eq_true, decide_true] at after ⊢
            exact ih _ (disciplined.2 true) after
      | leave other =>
          exact ih _ (disciplined.2 ()) (stands_after_leave stands disciplined.1)
      | _ => exact ih _ (disciplined.2 _) stands

end Turns

/-- A visit as its host sees it: what was asked for, whether another visit of the same guard was
under way when it started, and its course so far. -/
structure Visit where
  strategy : Strategy
  operation : Operation
  node : Option NodeId
  overlapped : Prop
  course : List Exchange

namespace Visit

def program (visit : Visit) : Program (Except Failure CallResult) :=
  (visit.operation.attempt visit.strategy visit.node).run

/-- The visit takes the guard, or is skipped for it. -/
def Uses (guard : GuardId) (visit : Visit) : Prop :=
  visit.operation.skipResult ≠ none ∧ visit.strategy.guard = guard

def phase (guard : GuardId) (visit : Visit) : Phase := Phase.outside.afterAll guard visit.course

def isInside (guard : GuardId) (visit : Visit) : Bool := decide (visit.phase guard = .inside)

def extend (visit : Visit) (later : List Exchange) : Visit :=
  { visit with course := visit.course ++ later }

theorem phase_extend (guard : GuardId) (visit : Visit) (later : List Exchange) :
    (visit.extend later).phase guard = (visit.phase guard).afterAll guard later :=
  Phase.after_all_append guard .outside visit.course later

theorem toNat_is_inside (guard : GuardId) (visit : Visit) :
    (visit.isInside guard).toNat = (visit.phase guard).holds := by
  unfold isInside
  cases visit.phase guard <;> rfl

variable {guard : GuardId} {visit : Visit} {progress : Progress (Except Failure CallResult)}

/-- Of the visits that use the guard, those that wait are inside, and those that have ended were
refused or have left it. -/
theorem phase_of_uses (uses : visit.Uses guard)
    (followed : visit.program.Follows visit.course progress.remaining) :
    (progress.isWaiting = true ∧ visit.phase guard = .inside) ∨
      ∃ result, progress = .finished result ∧
        Strategy.Settled (fun value => visit.operation.skipResult = some value)
          (· ≠ .outcome .skipped) (visit.phase guard) result := by
  obtain ⟨taken, rfl⟩ := uses
  have rest := Program.disciplined_of_follows
    (Operation.attempt_disciplined taken visit.strategy visit.node) followed
  cases progress with
  | finished result => exact .inr ⟨result, rfl, rest⟩
  | waiting node method ticket next => exact .inl ⟨rfl, rest.1⟩

theorem stays_outside_of_not_uses (other : ¬ visit.Uses guard) :
    visit.program.Disciplined guard (· = .outside) (fun reached _ => reached = .outside)
      .outside := by
  have spares : (visit.operation.attempt visit.strategy visit.node).Spares guard := by
    apply Operation.attempt_spares
    by_cases taken : visit.operation.skipResult = none
    · exact .inl taken
    · exact .inr fun same => other ⟨taken, same⟩
  exact Attempt.disciplined_of_spares rfl spares

theorem phase_of_not_uses (other : ¬ visit.Uses guard)
    (followed : visit.program.Follows visit.course progress.remaining) :
    visit.phase guard = .outside := by
  have rest := Program.disciplined_of_follows (stays_outside_of_not_uses other) followed
  cases progress with
  | finished result => exact rest
  | waiting node method ticket next => exact rest.1

theorem exists_disciplined (guard : GuardId) (visit : Visit) :
    ∃ mayCall settled, visit.program.Disciplined guard mayCall settled .outside := by
  by_cases uses : visit.Uses guard
  · obtain ⟨taken, rfl⟩ := uses
    exact ⟨_, _, Operation.attempt_disciplined taken visit.strategy visit.node⟩
  · exact ⟨_, _, stays_outside_of_not_uses uses⟩

theorem is_inside_iff (followed : visit.program.Follows visit.course progress.remaining) :
    visit.isInside guard = true ↔ visit.Uses guard ∧ progress.isWaiting = true := by
  rw [isInside, decide_eq_true_iff]
  by_cases uses : visit.Uses guard
  · rcases phase_of_uses uses followed with ⟨waits, inside⟩ | ⟨result, rfl, settled⟩
    · exact iff_of_true inside ⟨uses, waits⟩
    · refine iff_of_false ?_ fun given => Bool.noConfusion given.2
      rcases settled with ⟨refused, -⟩ | ⟨released, -⟩
      · rw [refused]
        exact Phase.noConfusion
      · rw [released]
        exact Phase.noConfusion
  · rw [phase_of_not_uses uses followed]
    exact iff_of_false Phase.noConfusion fun given => uses given.1

/-- At the end of a turn, a visit that uses the guard was refused just when others hold it. -/
theorem refused_iff_of_stands {others : Nat} {held : List GuardId} (uses : visit.Uses guard)
    (followed : visit.program.Follows visit.course progress.remaining)
    (stands : Stands guard others (visit.phase guard) held) :
    visit.phase guard = .refused ↔ 0 < others := by
  have fits := stands.fits
  rcases phase_of_uses uses followed with
    ⟨-, inside⟩ | ⟨result, -, ⟨refused, -⟩ | ⟨released, -⟩⟩
  · rw [inside] at fits ⊢
    exact iff_of_false Phase.noConfusion (by simp only [Phase.Fits] at fits; omega)
  · rw [refused] at fits ⊢
    exact iff_of_true rfl fits
  · rw [released] at fits ⊢
    exact iff_of_false Phase.noConfusion (by simp only [Phase.Fits] at fits; omega)

end Visit

theorem getElem?_concat_cases {First Second : Type} {firsts : List First} {seconds : List Second}
    {first lastFirst : First} {second lastSecond : Second} {index : Nat}
    (aligned : firsts.length = seconds.length)
    (inFirsts : (firsts ++ [lastFirst])[index]? = some first)
    (inSeconds : (seconds ++ [lastSecond])[index]? = some second) :
    (firsts[index]? = some first ∧ seconds[index]? = some second) ∨
      (first = lastFirst ∧ second = lastSecond) := by
  rcases Nat.lt_or_ge index firsts.length with early | late
  · rw [List.getElem?_append_left early] at inFirsts
    rw [List.getElem?_append_left (by omega)] at inSeconds
    exact .inl ⟨inFirsts, inSeconds⟩
  · rw [List.getElem?_append_right late] at inFirsts
    rw [List.getElem?_append_right (by omega)] at inSeconds
    have sameFirst := List.mem_singleton.mp (List.mem_of_getElem? inFirsts)
    have sameSecond := List.mem_singleton.mp (List.mem_of_getElem? inSeconds)
    exact .inr ⟨sameFirst, sameSecond⟩

theorem lookup_filter_of_ne {Key Item : Type} [BEq Key] [LawfulBEq Key] {key other : Key}
    (distinct : key ≠ other) (entries : List (Key × Item)) :
    (entries.filter fun entry => entry.1 != other).lookup key = entries.lookup key := by
  induction entries with
  | nil => rfl
  | cons entry rest ih =>
      obtain ⟨found, item⟩ := entry
      by_cases same : found = other
      · subst same
        have unmatched : (key == found) = false := beq_false_of_ne distinct
        rw [List.filter_cons_of_neg (by simp), List.lookup_cons, unmatched, ih]
      · rw [List.filter_cons_of_pos (by simp [same]), List.lookup_cons, List.lookup_cons, ih]

/-- Changing one item takes it out of a count as it was and back in as it is. -/
theorem countP_modify {Item : Type} (counts : Item → Bool) (change : Item → Item)
    {items : List Item} {index : Nat} {item : Item} (present : items[index]? = some item) :
    (items.modify index change).countP counts + (counts item).toNat =
      items.countP counts + (counts (change item)).toNat := by
  induction items generalizing index with
  | nil => simp at present
  | cons first rest ih =>
      cases index with
      | zero =>
          obtain rfl : first = item := by simpa using present
          rw [List.modify_zero_cons, List.countP_cons, List.countP_cons]
          cases counts first <;> cases counts (change first) <;> simp
      | succ index =>
          have later := ih (by simpa using present)
          rw [List.modify_succ_cons, List.countP_cons, List.countP_cons]
          omega

theorem index_unique_of_countP_le_one {Item : Type} {counts : Item → Bool} {items : List Item}
    (few : items.countP counts ≤ 1) {first second : Nat} {one other : Item}
    (atFirst : items[first]? = some one) (oneCounts : counts one = true)
    (atSecond : items[second]? = some other) (otherCounts : counts other = true) :
    first = second := by
  induction items generalizing first second with
  | nil => simp at atFirst
  | cons head rest ih =>
      rw [List.countP_cons] at few
      have alone : ∀ item, counts head = true → item ∈ rest → counts item = true → False := by
        intro item headCounts present itemCounts
        have positive := List.countP_pos_iff.mpr ⟨item, present, itemCounts⟩
        rw [if_pos headCounts] at few
        omega
      cases first with
      | zero =>
          obtain rfl : head = one := by simpa using atFirst
          cases second with
          | zero => rfl
          | succ second =>
              exact (alone other oneCounts (List.mem_of_getElem? atSecond) otherCounts).elim
      | succ first =>
          cases second with
          | zero =>
              obtain rfl : head = other := by simpa using atSecond
              exact (alone one otherCounts (List.mem_of_getElem? atFirst) oneCounts).elim
          | succ second =>
              exact congrArg Nat.succ (ih (by omega) atFirst atSecond)

/-- A host together with what its tasks' visits went through. -/
structure Watch (State : Type) where
  host : Host State (Except Failure CallResult)
  visits : List Visit := []

namespace Watch

variable {State : Type}

def InFlight (guard : GuardId) (watch : Watch State) (task : TaskId) : Prop :=
  ∃ visit known, watch.visits[task]? = some visit ∧ watch.host.tasks[task]? = some known ∧
    visit.Uses guard ∧ known.progress.isWaiting = true

def Inside (guard : GuardId) (watch : Watch State) (task : TaskId) : Prop :=
  ∃ visit, watch.visits[task]? = some visit ∧ visit.phase guard = .inside

def start (behaviour : Behaviour State) (watch : Watch State) (strategy : Strategy)
    (operation : Operation) (node : Option NodeId) (threaded : Bool) (cancelRequests : Nat) :
    Watch State :=
  let turn : World.Turn := { threaded := threaded, cancelRequested := 0 < cancelRequests }
  let program := (operation.attempt strategy node).run
  let ran := watch.host.world.run behaviour turn program
  let task := watch.host.tasks.length
  { host :=
      { world := ran.1
        tasks := watch.host.tasks ++ [{ cancelRequests := cancelRequests, progress := ran.2 }]
        arrivals := Host.arrive watch.host.arrivals task ran.2 }
    visits := watch.visits ++
      [{ strategy := strategy
         operation := operation
         node := node
         overlapped := ∃ other, watch.InFlight strategy.guard other
         course := watch.host.world.exchanges behaviour turn program }] }

/-- Gives a task another turn with the reply to the call that it waited for. -/
def advance (behaviour : Behaviour State) (watch : Watch State) (task : TaskId)
    (cancelRequests : Nat) (node : NodeId) (method : NodeCall)
    (reply : World State × Except Failure method.Answer)
    (next : Except Failure method.Answer → Program (Except Failure CallResult)) : Watch State where
  host := watch.host.advance behaviour task cancelRequests reply.1 (next reply.2)
  visits := watch.visits.modify task (·.extend (.reply node method reply.2 ::
    reply.1.exchanges behaviour { cancelRequested := 0 < cancelRequests } (next reply.2)))

def resume (behaviour : Behaviour State) (watch : Watch State) (task : TaskId) : Watch State :=
  match watch.host.tasks[task]? with
  | some ⟨cancelRequests, .waiting node method _ next⟩ =>
      watch.advance behaviour task cancelRequests node method
        (watch.host.world.answer behaviour node method) next
  | _ => watch

def cancel (behaviour : Behaviour State) (watch : Watch State) (task : TaskId) : Watch State :=
  match watch.host.tasks[task]? with
  | some ⟨cancelRequests, .waiting node method _ next⟩ =>
      watch.advance behaviour task (cancelRequests + 1) node method
        (watch.host.world.breakOff behaviour node method) next
  | _ => watch

/-- Sets how often a task was asked to stop, without breaking its call off. -/
def setCancelRequests (watch : Watch State) (task : TaskId) (cancelRequests : Nat) :
    Watch State :=
  { watch with host :=
    { watch.host with tasks := watch.host.tasks.modify task fun known =>
        { known with cancelRequests := cancelRequests } } }

def setWorld (watch : Watch State) (world : World State) : Watch State :=
  { watch with host := { watch.host with world := world } }

theorem host_start (behaviour : Behaviour State) (watch : Watch State) (strategy : Strategy)
    (operation : Operation) (node : Option NodeId) (threaded : Bool) :
    (watch.start behaviour strategy operation node threaded 0).host =
      (watch.host.launch behaviour threaded (operation.attempt strategy node).run).1 := rfl

theorem host_resume (behaviour : Behaviour State) (watch : Watch State) (task : TaskId) :
    (watch.resume behaviour task).host = watch.host.resume behaviour task := by
  simp only [resume, Host.resume]
  generalize watch.host.tasks[task]? = known
  rcases known with _ | ⟨cancelRequests, _ | _⟩ <;> rfl

theorem host_cancel (behaviour : Behaviour State) (watch : Watch State) (task : TaskId) :
    (watch.cancel behaviour task).host = watch.host.cancel behaviour task := by
  simp only [cancel, Host.cancel]
  generalize watch.host.tasks[task]? = known
  rcases known with _ | ⟨cancelRequests, _ | _⟩ <;> rfl

/-- The states of a host in which no guard is held at first. Visits of any strategies may be
started, answered and cancelled in any order, and between their turns the world may change as it
likes, but for the guards. -/
inductive Reached (behaviour : Behaviour State) : Watch State → Prop where
  | opened (nodes : NodeId → State) : Reached behaviour { host := { world := { nodes := nodes } } }
  | started {watch : Watch State} (strategy : Strategy) (operation : Operation)
      (node : Option NodeId) (threaded : Bool) (cancelRequests : Nat)
      (reached : Reached behaviour watch) :
      Reached behaviour (watch.start behaviour strategy operation node threaded cancelRequests)
  | resumed {watch : Watch State} (task : TaskId) (reached : Reached behaviour watch) :
      Reached behaviour (watch.resume behaviour task)
  | cancelled {watch : Watch State} (task : TaskId) (reached : Reached behaviour watch) :
      Reached behaviour (watch.cancel behaviour task)
  | askedToStop {watch : Watch State} (task : TaskId) (cancelRequests : Nat)
      (reached : Reached behaviour watch) :
      Reached behaviour (watch.setCancelRequests task cancelRequests)
  | moved {watch : Watch State} (world : World State)
      (same : world.held = watch.host.world.held) (reached : Reached behaviour watch) :
      Reached behaviour (watch.setWorld world)

/-- Releasing a ticket answers several calls in a row. -/
theorem reached_release {behaviour : Behaviour State} {watch : Watch State}
    (reached : Reached behaviour watch) (node : NodeId) (ticket : Nat) :
    ∃ visits, Reached behaviour ⟨watch.host.release behaviour node ticket, visits⟩ := by
  unfold Host.release
  generalize watch.host.arrivals.filter (watch.host.waitsFor node ticket) = tasks
  induction tasks generalizing watch with
  | nil => exact ⟨watch.visits, reached⟩
  | cons task tasks ih =>
      have later := ih (reached.resumed task)
      rwa [host_resume] at later

/-- Each task has gone through the course that is recorded for it, each guard is held by the visits
inside it and by nobody else, no two visits are inside one guard, and those were refused that
started while another was under way. -/
structure Ordered (watch : Watch State) : Prop where
  aligned : watch.visits.length = watch.host.tasks.length
  followed : ∀ (task : TaskId) (visit : Visit) (known : Task (Except Failure CallResult)),
    watch.visits[task]? = some visit → watch.host.tasks[task]? = some known →
      visit.program.Follows visit.course known.progress.remaining
  counted : ∀ guard, watch.host.world.held.count guard = watch.visits.countP (·.isInside guard)
  exclusive : ∀ guard, watch.visits.countP (·.isInside guard) ≤ 1
  refused : ∀ visit ∈ watch.visits, visit.operation.skipResult ≠ none →
    (visit.phase visit.strategy.guard = .refused ↔ visit.overlapped)

theorem ordered_opened (nodes : NodeId → State) :
    Ordered { host := { world := { nodes := nodes } } } where
  aligned := rfl
  followed := by
    intro task visit known present
    simp at present
  counted := fun guard => rfl
  exclusive := fun guard => Nat.zero_le 1
  refused := by simp

theorem ordered_setWorld {watch : Watch State} (ordered : watch.Ordered) {world : World State}
    (same : world.held = watch.host.world.held) : (watch.setWorld world).Ordered where
  aligned := ordered.aligned
  followed := ordered.followed
  counted := by
    intro guard
    change world.held.count guard = _
    rw [same]
    exact ordered.counted guard
  exclusive := ordered.exclusive
  refused := ordered.refused

theorem ordered_setCancelRequests {watch : Watch State} (ordered : watch.Ordered) (task : TaskId)
    (cancelRequests : Nat) : (watch.setCancelRequests task cancelRequests).Ordered where
  aligned := by
    simpa [setCancelRequests] using ordered.aligned
  followed := by
    intro other visit known present found
    simp only [setCancelRequests, List.getElem?_modify, Option.map_eq_map, Option.map_eq_some_iff]
      at found
    obtain ⟨former, found, rfl⟩ := found
    have followed := ordered.followed other visit former present found
    split <;> exact followed
  counted := ordered.counted
  exclusive := ordered.exclusive
  refused := ordered.refused

theorem inside_iff_in_flight {watch : Watch State} (ordered : watch.Ordered) (guard : GuardId)
    (task : TaskId) : watch.Inside guard task ↔ watch.InFlight guard task := by
  constructor
  · intro given
    obtain ⟨visit, present, inside⟩ := given
    have bound : task < watch.host.tasks.length := by
      rw [← ordered.aligned]
      exact (List.getElem?_eq_some_iff.mp present).1
    have found := List.getElem?_eq_getElem bound
    have followed := ordered.followed task visit _ present found
    obtain ⟨uses, waits⟩ := (Visit.is_inside_iff followed).mp (decide_eq_true inside)
    exact ⟨visit, _, present, found, uses, waits⟩
  · intro given
    obtain ⟨visit, known, present, found, uses, waits⟩ := given
    have followed := ordered.followed task visit known present found
    exact ⟨visit, present, of_decide_eq_true ((Visit.is_inside_iff followed).mpr ⟨uses, waits⟩)⟩

theorem in_flight_iff_pos {watch : Watch State} (ordered : watch.Ordered) (guard : GuardId) :
    (∃ task, watch.InFlight guard task) ↔ 0 < watch.visits.countP (·.isInside guard) := by
  rw [List.countP_pos_iff]
  constructor
  · intro given
    obtain ⟨task, flying⟩ := given
    obtain ⟨visit, present, inside⟩ := (inside_iff_in_flight ordered guard task).mpr flying
    exact ⟨visit, List.mem_of_getElem? present, decide_eq_true inside⟩
  · intro given
    obtain ⟨visit, present, inside⟩ := given
    obtain ⟨task, present⟩ := List.mem_iff_getElem?.mp present
    exact ⟨task, (inside_iff_in_flight ordered guard task).mp
      ⟨visit, present, of_decide_eq_true inside⟩⟩

theorem ordered_start {behaviour : Behaviour State} {watch : Watch State}
    (ordered : watch.Ordered) (strategy : Strategy) (operation : Operation)
    (node : Option NodeId) (threaded : Bool) (cancelRequests : Nat) :
    (watch.start behaviour strategy operation node threaded cancelRequests).Ordered := by
  let turn : World.Turn := { threaded := threaded, cancelRequested := 0 < cancelRequests }
  let program := (operation.attempt strategy node).run
  let ran := watch.host.world.run behaviour turn program
  let visit : Visit := ⟨strategy, operation, node, ∃ other, watch.InFlight strategy.guard other,
    watch.host.world.exchanges behaviour turn program⟩
  have followed : visit.program.Follows visit.course ran.2.remaining :=
    World.run_follows_exchanges behaviour turn program watch.host.world
  -- To a visit that starts, all visits so far are the others.
  have stands : ∀ guard, Stands guard (watch.visits.countP (·.isInside guard))
      (visit.phase guard) ran.1.held := by
    intro guard
    obtain ⟨mayCall, settled, disciplined⟩ := visit.exists_disciplined guard
    apply run_stands behaviour turn disciplined
    exact ⟨by rw [ordered.counted]; exact (Nat.zero_add _).symm, trivial⟩
  have total : ∀ guard, (watch.visits ++ [visit]).countP (·.isInside guard) =
      (visit.phase guard).holds + watch.visits.countP (·.isInside guard) := by
    intro guard
    rw [List.countP_append, List.countP_singleton, ← Visit.toNat_is_inside, Nat.add_comm]
    cases visit.isInside guard <;> rfl
  constructor
  · change (watch.visits ++ [visit]).length = (watch.host.tasks ++ [_]).length
    rw [List.length_append, List.length_append, ordered.aligned]
    rfl
  · intro task other known present found
    rcases getElem?_concat_cases ordered.aligned present found with
      ⟨former, known⟩ | ⟨rfl, rfl⟩
    · exact ordered.followed task other _ former known
    · exact followed
  · intro guard
    exact (stands guard).counted.trans (total guard).symm
  · intro guard
    exact Nat.le_trans (Nat.le_of_eq (total guard))
      (stands_le_one (stands guard) (ordered.exclusive guard))
  · intro other present taken
    rcases List.mem_append.mp present with former | last
    · exact ordered.refused other former taken
    · obtain rfl := List.mem_singleton.mp last
      rw [Visit.refused_iff_of_stands ⟨taken, rfl⟩ followed (stands strategy.guard)]
      exact (in_flight_iff_pos ordered strategy.guard).symm

/-- A visit that waits, and all others together, account for every guard. -/
theorem stands_of_waiting {watch : Watch State} (ordered : watch.Ordered) {task : TaskId}
    {visit : Visit} {progress : Progress (Except Failure CallResult)}
    (present : watch.visits[task]? = some visit)
    (followed : visit.program.Follows visit.course progress.remaining)
    (waits : progress.isWaiting = true) (guard : GuardId) :
    Stands guard (watch.visits.countP (·.isInside guard) - (visit.phase guard).holds)
      (visit.phase guard) watch.host.world.held := by
  have counted := ordered.counted guard
  by_cases uses : visit.Uses guard
  · have inside : visit.isInside guard = true := (Visit.is_inside_iff followed).mpr ⟨uses, waits⟩
    have positive : 0 < watch.visits.countP (·.isInside guard) :=
      List.countP_pos_iff.mpr ⟨visit, List.mem_of_getElem? present, inside⟩
    have few := ordered.exclusive guard
    rw [of_decide_eq_true inside]
    constructor
    · simp only [Phase.holds]
      omega
    · simp only [Phase.holds, Phase.Fits]
      omega
  · rw [Visit.phase_of_not_uses uses followed]
    constructor
    · simp only [Phase.holds]
      omega
    · trivial

section Advance

variable {behaviour : Behaviour State} {watch : Watch State} {task : TaskId} {former ticket : Nat}
  {node : NodeId} {method : NodeCall}
  {next : Except Failure method.Answer → Program (Except Failure CallResult)} {visit : Visit}

def turnCourse (behaviour : Behaviour State) (cancelRequests : Nat) (node : NodeId)
    (method : NodeCall) (reply : World State × Except Failure method.Answer)
    (next : Except Failure method.Answer → Program (Except Failure CallResult)) : List Exchange :=
  .reply node method reply.2 ::
    reply.1.exchanges behaviour { cancelRequested := 0 < cancelRequests } (next reply.2)

theorem exists_visit_of_task (ordered : watch.Ordered) {known : Task (Except Failure CallResult)}
    (found : watch.host.tasks[task]? = some known) : ∃ visit, watch.visits[task]? = some visit := by
  have bound : task < watch.visits.length := by
    rw [ordered.aligned]
    exact (List.getElem?_eq_some_iff.mp found).1
  exact ⟨_, List.getElem?_eq_getElem bound⟩

theorem aligned_advance (ordered : watch.Ordered) (cancelRequests : Nat)
    (reply : World State × Except Failure method.Answer) :
    (watch.advance behaviour task cancelRequests node method reply next).visits.length =
      (watch.advance behaviour task cancelRequests node method reply next).host.tasks.length := by
  change (watch.visits.modify task _).length = (watch.host.tasks.set task _).length
  rw [List.length_modify, List.length_set]
  exact ordered.aligned

theorem extended_follows
    (waited : visit.program.Follows visit.course (.ask (.call node method) next))
    (cancelRequests : Nat) (reply : World State × Except Failure method.Answer) :
    let turned := visit.extend (turnCourse behaviour cancelRequests node method reply next)
    turned.program.Follows turned.course
      (reply.1.run behaviour { cancelRequested := 0 < cancelRequests }
        (next reply.2)).2.remaining :=
  Program.follows_append waited (.further (World.run_follows_exchanges behaviour _ _ reply.1))

theorem followed_advance (ordered : watch.Ordered)
    (found : watch.host.tasks[task]? = some ⟨former, .waiting node method ticket next⟩)
    (present : watch.visits[task]? = some visit) (cancelRequests : Nat)
    (reply : World State × Except Failure method.Answer) {later : Watch State}
    (turned : watch.advance behaviour task cancelRequests node method reply next = later)
    {other : TaskId} {shown : Visit} {known : Task (Except Failure CallResult)}
    (presentLater : later.visits[other]? = some shown)
    (foundLater : later.host.tasks[other]? = some known) :
    shown.program.Follows shown.course known.progress.remaining := by
  subst turned
  change (watch.visits.modify task _)[other]? = some shown at presentLater
  change (watch.host.tasks.set task _)[other]? = some known at foundLater
  by_cases same : task = other
  · subst same
    rw [List.getElem?_modify_eq, present] at presentLater
    rw [List.getElem?_set_self (List.getElem?_eq_some_iff.mp found).1] at foundLater
    cases presentLater
    cases foundLater
    exact extended_follows (ordered.followed task visit _ present found) cancelRequests reply
  · rw [List.getElem?_modify_ne _ _ same] at presentLater
    rw [List.getElem?_set_ne same] at foundLater
    exact ordered.followed other shown known presentLater foundLater

variable (behaviour) in
/-- The others are counted before the turn, and do not change in it. -/
theorem stands_advance (ordered : watch.Ordered)
    (found : watch.host.tasks[task]? = some ⟨former, .waiting node method ticket next⟩)
    (present : watch.visits[task]? = some visit) (cancelRequests : Nat)
    {reply : World State × Except Failure method.Answer}
    (same : reply.1.held = watch.host.world.held) (guard : GuardId) :
    Stands guard (watch.visits.countP (·.isInside guard) - (visit.phase guard).holds)
      ((visit.extend (turnCourse behaviour cancelRequests node method reply next)).phase guard)
      (watch.advance behaviour task cancelRequests node method reply next).host.world.held := by
  have waited := ordered.followed task visit _ present found
  obtain ⟨mayCall, settled, disciplined⟩ := visit.exists_disciplined guard
  have rest := (Program.disciplined_of_follows disciplined waited).2 reply.2
  have before := stands_of_waiting ordered present waited rfl guard
  rw [← same] at before
  rw [Visit.phase_extend]
  exact run_stands behaviour { cancelRequested := 0 < cancelRequests } rest before

theorem countP_advance (ordered : watch.Ordered)
    (found : watch.host.tasks[task]? = some ⟨former, .waiting node method ticket next⟩)
    (present : watch.visits[task]? = some visit) (later : List Exchange) (guard : GuardId) :
    (watch.visits.modify task (·.extend later)).countP (·.isInside guard) =
      ((visit.extend later).phase guard).holds +
        (watch.visits.countP (·.isInside guard) - (visit.phase guard).holds) := by
  have waited := ordered.followed task visit _ present found
  have changed := countP_modify (·.isInside guard) (·.extend later) present
  have before := (stands_of_waiting ordered present waited rfl guard).counted
  have counted := ordered.counted guard
  simp only [Visit.toNat_is_inside] at changed
  omega

/-- A visit that waits is inside, so it was not refused as it started and cannot be refused now. -/
theorem refused_of_turned (ordered : watch.Ordered)
    (found : watch.host.tasks[task]? = some ⟨former, .waiting node method ticket next⟩)
    (present : watch.visits[task]? = some visit) (cancelRequests : Nat)
    {reply : World State × Except Failure method.Answer}
    (same : reply.1.held = watch.host.world.held) (taken : visit.operation.skipResult ≠ none) :
    (visit.extend (turnCourse behaviour cancelRequests node method reply next)).phase
      visit.strategy.guard = .refused ↔ visit.overlapped := by
  have waited := ordered.followed task visit _ present found
  have uses : visit.Uses visit.strategy.guard := ⟨taken, rfl⟩
  have inside : visit.phase visit.strategy.guard = .inside := by
    rcases Visit.phase_of_uses uses waited with ⟨-, inside⟩ | ⟨result, ⟨⟩, -⟩
    exact inside
  have alone : ¬ 0 < watch.visits.countP (·.isInside visit.strategy.guard) -
      (visit.phase visit.strategy.guard).holds := by
    have few := ordered.exclusive visit.strategy.guard
    rw [inside]
    simp only [Phase.holds]
    omega
  have refused := ordered.refused visit (List.mem_of_getElem? present) taken
  rw [inside] at refused
  have still : (visit.extend
      (turnCourse behaviour cancelRequests node method reply next)).Uses visit.strategy.guard :=
    uses
  rw [Visit.refused_iff_of_stands still (extended_follows waited cancelRequests reply)
    (stands_advance behaviour ordered found present cancelRequests same _)]
  exact (iff_of_false alone Phase.noConfusion).trans refused

theorem refused_advance (ordered : watch.Ordered)
    (found : watch.host.tasks[task]? = some ⟨former, .waiting node method ticket next⟩)
    (present : watch.visits[task]? = some visit) (cancelRequests : Nat)
    {reply : World State × Except Failure method.Answer}
    (same : reply.1.held = watch.host.world.held) {shown : Visit}
    (member : shown ∈ (watch.advance behaviour task cancelRequests node method reply next).visits)
    (taken : shown.operation.skipResult ≠ none) :
    shown.phase shown.strategy.guard = .refused ↔ shown.overlapped := by
  obtain ⟨other, presentLater⟩ := List.mem_iff_getElem?.mp member
  change (watch.visits.modify task _)[other]? = some shown at presentLater
  by_cases this : task = other
  · subst this
    rw [List.getElem?_modify_eq, present] at presentLater
    cases presentLater
    exact refused_of_turned ordered found present cancelRequests same taken
  · rw [List.getElem?_modify_ne _ _ this] at presentLater
    exact ordered.refused shown (List.mem_of_getElem? presentLater) taken

theorem ordered_advance (ordered : watch.Ordered)
    (found : watch.host.tasks[task]? = some ⟨former, .waiting node method ticket next⟩)
    (cancelRequests : Nat) {reply : World State × Except Failure method.Answer}
    (same : reply.1.held = watch.host.world.held) :
    (watch.advance behaviour task cancelRequests node method reply next).Ordered := by
  obtain ⟨visit, present⟩ := exists_visit_of_task ordered found
  have stands := stands_advance behaviour ordered found present cancelRequests same
  have total := countP_advance ordered found present
    (turnCourse behaviour cancelRequests node method reply next)
  constructor
  · exact aligned_advance ordered cancelRequests reply
  · exact fun _ _ _ presentLater foundLater =>
      followed_advance ordered found present cancelRequests reply rfl presentLater foundLater
  · exact fun guard => (stands guard).counted.trans (total guard).symm
  · intro guard
    apply Nat.le_trans (Nat.le_of_eq (total guard))
    apply stands_le_one (stands guard)
    exact Nat.le_trans (Nat.sub_le _ _) (ordered.exclusive guard)
  · exact fun _ member taken =>
      refused_advance ordered found present cancelRequests same member taken

end Advance

theorem ordered_resume {behaviour : Behaviour State} {watch : Watch State}
    (ordered : watch.Ordered) (task : TaskId) : (watch.resume behaviour task).Ordered := by
  unfold resume
  split
  · next found => exact ordered_advance ordered found _ (World.held_answer behaviour _ _ _)
  · exact ordered

theorem ordered_cancel {behaviour : Behaviour State} {watch : Watch State}
    (ordered : watch.Ordered) (task : TaskId) : (watch.cancel behaviour task).Ordered := by
  unfold cancel
  split
  · next found => exact ordered_advance ordered found _ (World.held_breakOff behaviour _ _ _)
  · exact ordered

/-- Every state that can be reached is ordered. -/
theorem ordered_of_reached {behaviour : Behaviour State} {watch : Watch State}
    (reached : Reached behaviour watch) : watch.Ordered := by
  induction reached with
  | opened nodes => exact ordered_opened nodes
  | started strategy operation node threaded cancelRequests _ ordered =>
      exact ordered_start ordered strategy operation node threaded cancelRequests
  | resumed task _ ordered => exact ordered_resume ordered task
  | cancelled task _ ordered => exact ordered_cancel ordered task
  | askedToStop task cancelRequests _ ordered =>
      exact ordered_setCancelRequests ordered task cancelRequests
  | moved world same _ ordered => exact ordered_setWorld ordered same

theorem held_iff_in_flight {watch : Watch State} (ordered : watch.Ordered) (guard : GuardId) :
    guard ∈ watch.host.world.held ↔ ∃ task, watch.InFlight guard task := by
  rw [in_flight_iff_pos ordered, ← ordered.counted, List.count_pos_iff]

theorem inside_unique {watch : Watch State} (ordered : watch.Ordered) {guard : GuardId}
    {first second : TaskId} (firstInside : watch.Inside guard first)
    (secondInside : watch.Inside guard second) : first = second := by
  obtain ⟨one, atFirst, oneInside⟩ := firstInside
  obtain ⟨other, atSecond, otherInside⟩ := secondInside
  exact index_unique_of_countP_le_one (ordered.exclusive guard) atFirst
    (decide_eq_true oneInside) atSecond (decide_eq_true otherInside)

/-- A refused visit has called no node, and has ended as skipped visits do. -/
theorem ended_of_refused {visit : Visit} {guard : GuardId}
    {progress : Progress (Except Failure CallResult)} (uses : visit.Uses guard)
    (followed : visit.program.Follows visit.course progress.remaining)
    (refused : visit.phase guard = .refused) :
    answeredCalls visit.course = [] ∧ ∃ result, visit.operation.skipResult = some result ∧
      progress = .finished (.ok result) := by
  constructor
  · obtain ⟨taken, rfl⟩ := uses
    exact Program.answered_calls_of_untaken
      (Operation.attempt_disciplined taken visit.strategy visit.node) followed (.inr refused)
  · rcases Visit.phase_of_uses uses followed with
      ⟨-, inside⟩ | ⟨result, rfl, ⟨-, value, rfl, skipped⟩ | ⟨released, -⟩⟩
    · rw [refused] at inside
      cases inside
    · exact ⟨value, skipped, rfl⟩
    · rw [refused] at released
      cases released

theorem refused_of_skipped {visit : Visit} {guard : GuardId}
    {progress : Progress (Except Failure CallResult)} (uses : visit.Uses guard)
    (followed : visit.program.Follows visit.course progress.remaining)
    (skipped : progress = .finished (.ok (.outcome .skipped))) :
    visit.phase guard = .refused := by
  subst skipped
  rcases Visit.phase_of_uses uses followed with
    ⟨⟨⟩, -⟩ | ⟨_, ⟨⟩, ⟨refused, -⟩ | ⟨-, evaluated⟩⟩
  · exact refused
  · exact (evaluated _ rfl rfl).elim

/-- Whatever visits are started, answered, failed and cancelled in whatever order: a guard is held
just when exactly one visit is inside it; the visits inside are those in flight, so at most one is
in flight; a visit is refused just when another was in flight as it started, and then it has called
no node, has not waited, and has ended as skipped; and when none is in flight, the guard is free. -/
theorem overlapping_visits_are_skipped {behaviour : Behaviour State} {watch : Watch State}
    (reached : Reached behaviour watch) (guard : GuardId) :
    (guard ∈ watch.host.world.held ↔
        ∃ task, watch.Inside guard task ∧ ∀ other, watch.Inside guard other → other = task) ∧
      (∀ task, watch.Inside guard task ↔ watch.InFlight guard task) ∧
      (∀ first second, watch.InFlight guard first → watch.InFlight guard second →
        first = second) ∧
      (∀ (task : TaskId) (visit : Visit) (known : Task (Except Failure CallResult)),
        watch.visits[task]? = some visit → watch.host.tasks[task]? = some known →
        visit.Uses guard →
          (visit.phase guard = .refused ↔ visit.overlapped) ∧
            (visit.phase guard = .refused → answeredCalls visit.course = [] ∧
              ∃ result, visit.operation.skipResult = some result ∧
                known.progress = .finished (.ok result)) ∧
            (known.progress = .finished (.ok (.outcome .skipped)) →
              visit.phase guard = .refused)) ∧
      ((∀ task, ¬ watch.InFlight guard task) → guard ∉ watch.host.world.held) := by
  have ordered := ordered_of_reached reached
  refine ⟨?_, inside_iff_in_flight ordered guard, ?_, ?_, ?_⟩
  · rw [held_iff_in_flight ordered]
    constructor
    · intro given
      obtain ⟨task, flying⟩ := given
      have inside := (inside_iff_in_flight ordered guard task).mpr flying
      exact ⟨task, inside, fun other others => inside_unique ordered others inside⟩
    · intro given
      obtain ⟨task, inside, -⟩ := given
      exact ⟨task, (inside_iff_in_flight ordered guard task).mp inside⟩
  · intro first second firstFlies secondFlies
    exact inside_unique ordered ((inside_iff_in_flight ordered guard first).mpr firstFlies)
      ((inside_iff_in_flight ordered guard second).mpr secondFlies)
  · intro task visit known present found uses
    have followed := ordered.followed task visit known present found
    refine ⟨?_, ended_of_refused uses followed, refused_of_skipped uses followed⟩
    obtain ⟨taken, rfl⟩ := uses
    exact ordered.refused visit (List.mem_of_getElem? present) taken
  · intro idle held
    obtain ⟨task, flying⟩ := (held_iff_in_flight ordered guard).mp held
    exact idle task flying

def slowNodes : Watch Script where
  host := { world := { nodes := fun id => { Script.initial id with gated := [.uptime] } } }

def slowVisit : Watch Script :=
  slowNodes.start Script.behaviour Strategy.cautious .tryEvaluate (some "a") false 0

def twoVisits : Watch Script :=
  (slowNodes.start Script.behaviour Strategy.cautious .tryEvaluate (some "a") false 0).start
    Script.behaviour Strategy.cautious .check (some "b") false 0

theorem second_of_two_visits_is_skipped :
    Reached Script.behaviour twoVisits ∧ twoVisits.InFlight 0 0 ∧
      0 ∈ twoVisits.host.world.held ∧
      ∃ visit known, twoVisits.visits[1]? = some visit ∧ twoVisits.host.tasks[1]? = some known ∧
        visit.Uses 0 ∧ visit.phase 0 = .refused ∧ answeredCalls visit.course = [] ∧
        known.progress = .finished (.ok (.recheck Strategy.recheckMinutes)) := by
  have reached : Reached Script.behaviour twoVisits :=
    .started Strategy.cautious .check (some "b") false 0
      (.started Strategy.cautious .tryEvaluate (some "a") false 0 (.opened _))
  have firstUses : Operation.tryEvaluate.skipResult ≠ none := by simp [Operation.skipResult]
  have secondUses : Operation.check.skipResult ≠ none := by simp [Operation.skipResult]
  have flying : twoVisits.InFlight 0 0 :=
    ⟨_, _, rfl, rfl, ⟨firstUses, rfl⟩, by decide +kernel⟩
  obtain ⟨held, inside, unique, visits, -⟩ := overlapping_visits_are_skipped reached 0
  have second := visits 1 _ _ rfl rfl ⟨secondUses, rfl⟩
  have refused := second.1.mpr ⟨0, _, _, rfl, rfl, ⟨firstUses, rfl⟩, by decide +kernel⟩
  obtain ⟨uncalled, result, skipped, ended⟩ := second.2.1 refused
  cases skipped
  refine ⟨reached, flying, ?_, _, _, rfl, rfl, ⟨secondUses, rfl⟩, refused, uncalled, ended⟩
  refine held.mpr ⟨0, (inside 0).mpr flying, ?_⟩
  intro other others
  exact unique other 0 ((inside other).mp others) flying

end Watch

end Teardown
