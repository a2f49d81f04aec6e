/-
# Proofs.SearchCounters -- what a search counts, at every moment

The loop of a search goes from moment to moment (`Moment`).  Between two nodes it asks for an
interruption and takes the next node off the queue; at a node it deals with one candidate after
the other (`advance`).  A search ends where this loop ends (`run_reaches`).

What a moment keeps, all moments keep (`moment_keeps`):

* the queue is never longer than it was in the beginning or than the frontier may be, and the
  search has room for another chain until it ends with enough of them (`Moment.Bounded`);
* the counters are those of the questions that were asked (`Progress.Counted`).

The questions are counted in a log.  A view that keeps one (`ProgramView.logged`) answers as
before, and the search does not notice it (`run_logged`).
-/
import ChainCompletion.Proofs.SearchQueue

namespace ChainCompletion

set_option autoImplicit false

variable {σ : Type}

/-! ## A log of questions -/

/-- A question that a search asks. -/
inductive Question where
  | members (type : TypeId) (site : CallSite)
  | assignable (source target : TypeId)
  deriving DecidableEq

/-- A question and whether it was answered. -/
structure Call where
  question : Question
  answered : Bool
  deriving DecidableEq

/-- Whether a call asked for the members of a type. -/
def Call.asksMembers (call : Call) : Bool :=
  match call.question with
  | .members _ _ => true
  | .assignable _ _ => false

/-- The view that answers as before, and writes down what a search asks. -/
def ProgramView.logged (view : ProgramView σ) : ProgramView (σ × List Call) where
  arena state := view.arena state.1
  withArena state arena := (view.withArena state.1 arena, state.2)
  expected state := view.expected state.1
  bindings state := view.bindings state.1
  namesNewType state := view.namesNewType state.1
  callSite state := view.callSite state.1
  members state type site :=
    let (answer, after) := view.members state.1 type site
    (answer, (after, state.2 ++ [⟨.members type site, answer.isOk⟩]))
  assignable state source target :=
    let (answer, after) := view.assignable state.1 source target
    (answer, (after, state.2 ++ [⟨.assignable source target, answer.isOk⟩]))
  lookup state name :=
    let (answer, after) := view.lookup state.1 name
    (answer, (after, state.2))
  arena_withArena state := view.arena_withArena state.1

namespace ProgramView

variable {view : ProgramView σ} {state after : σ × List Call}

theorem logged_members (view : ProgramView σ) (state : σ × List Call) (type : TypeId)
    (site : CallSite) : view.logged.members state type site =
      ((view.members state.1 type site).1, (view.members state.1 type site).2,
        state.2 ++ [⟨.members type site, (view.members state.1 type site).1.isOk⟩]) := rfl

theorem logged_assignable (view : ProgramView σ) (state : σ × List Call) (source target : TypeId) :
    view.logged.assignable state source target =
      ((view.assignable state.1 source target).1, (view.assignable state.1 source target).2,
        state.2 ++ [⟨.assignable source target,
          (view.assignable state.1 source target).1.isOk⟩]) := rfl

theorem log_of_members {type : TypeId} {site : CallSite} {answer : Except LookupError (List Member)}
    (asked : view.logged.members state type site = (answer, after)) :
    after.2 = state.2 ++ [⟨.members type site, answer.isOk⟩] := by
  cases asked
  rfl

theorem log_of_assignable {source target : TypeId} {answer : Except LookupError Bool}
    (asked : view.logged.assignable state source target = (answer, after)) :
    after.2 = state.2 ++ [⟨.assignable source target, answer.isOk⟩] := by
  cases asked
  rfl

end ProgramView

namespace Search

/-! ## The loop -/

/-- Where the loop of a search stands. -/
inductive Stage where
  /-- Before the next node is taken off the queue. -/
  | between
  /-- At a node, with these candidates left. -/
  | dealing (node : Node) (left : List Member)
  | ended (reason : StopReason)
  deriving DecidableEq

/-- A moment of a search; all nodes that wait are in the queue, `next`. -/
structure Moment (σ : Type) where
  progress : Progress σ
  stage : Stage

/-- The progress of a search that has taken a node off its queue, of which `rest` is left. -/
def Progress.takeOff (progress : Progress σ) (rest : List Node) (state : σ) : Progress σ :=
  { progress with
    state := state
    next := rest.toArray
    waiting := rest.length
    expanded := progress.expanded + 1 }

section Loop

variable (view : ProgramView σ) (signals : Signals) (limits : Limits) (request : Request)

/-- The next moment of a search; it stays at its end. -/
def advance (moment : Moment σ) : Moment σ :=
  let progress := moment.progress
  match moment.stage with
  | .ended _ => moment
  | .dealing _ [] => ⟨progress, .between⟩
  | .dealing node (member :: left) =>
      match visitMember view limits request.target (foldName request.typed) node progress member with
      | (after, some reason) => ⟨after, .ended reason⟩
      | (after, none) => ⟨after, .dealing node left⟩
  | .between =>
      match signals.interruption? limits progress.expanded with
      | some reason => ⟨progress, .ended reason⟩
      | none =>
          match progress.next.toList with
          | [] => ⟨progress, .ended .exhausted⟩
          | node :: rest =>
              match candidates view request.callSite progress.state node with
              | (.error _, state) =>
                  ⟨{ progress.takeOff rest state with pruned := progress.pruned + 1 }, .between⟩
              | (.ok members, state) => ⟨progress.takeOff rest state, .dealing node members⟩

/-- The ways from one moment of a search to the next. -/
inductive MomentStep : Moment σ → Moment σ → Prop
  | ended {progress : Progress σ} {reason : StopReason} :
      MomentStep ⟨progress, .ended reason⟩ ⟨progress, .ended reason⟩
  | left {progress : Progress σ} {node : Node} :
      MomentStep ⟨progress, .dealing node []⟩ ⟨progress, .between⟩
  | dealt {progress after : Progress σ} {node : Node} {member : Member} {left : List Member}
      (step : MemberStep view limits request.target (foldName request.typed) node progress member
        (after, none)) :
      MomentStep ⟨progress, .dealing node (member :: left)⟩ ⟨after, .dealing node left⟩
  | enough {progress after : Progress σ} {node : Node} {member : Member} {left : List Member}
      {reason : StopReason}
      (step : MemberStep view limits request.target (foldName request.typed) node progress member
        (after, some reason)) :
      MomentStep ⟨progress, .dealing node (member :: left)⟩ ⟨after, .ended reason⟩
  | interrupted {progress : Progress σ} {reason : StopReason}
      (stops : signals.interruption? limits progress.expanded = some reason) :
      MomentStep ⟨progress, .between⟩ ⟨progress, .ended reason⟩
  | exhausted {progress : Progress σ} :
      MomentStep ⟨progress, .between⟩ ⟨progress, .ended .exhausted⟩
  | unanswered {progress : Progress σ} {node : Node} {rest : List Node} {error : LookupError}
      {state : σ} (first : progress.next.toList = node :: rest)
      (asked : view.members progress.state node.type request.callSite = (.error error, state)) :
      MomentStep ⟨progress, .between⟩
        ⟨{ progress.takeOff rest state with pruned := progress.pruned + 1 }, .between⟩
  | expanded {progress : Progress σ} {node : Node} {rest : List Node} {members : List Member}
      {state : σ} (first : progress.next.toList = node :: rest)
      (asked : view.members progress.state node.type request.callSite = (.ok members, state)) :
      MomentStep ⟨progress, .between⟩
        ⟨progress.takeOff rest (node.stateAfter view state),
          .dealing node (node.choices (view.arena state) members)⟩

/-- A search goes on in one of these ways. -/
theorem advance_step (moment : Moment σ) :
    MomentStep view signals limits request moment (advance view signals limits request moment) := by
  obtain ⟨progress, stage⟩ := moment
  cases stage with
  | ended reason => exact .ended
  | dealing node left =>
      cases left with
      | nil => exact .left
      | cons member left =>
          have step := visitMember_step view limits request.target (foldName request.typed) node
            progress member
          rw [advance]
          simp only
          split
          · next dealt =>
              rw [dealt] at step
              exact .enough step
          · next dealt =>
              rw [dealt] at step
              exact .dealt step
  | between =>
      rw [advance]
      simp only [candidates_eq]
      split
      · next reason stops => exact .interrupted stops
      · split
        · exact .exhausted
        · next node rest first =>
            cases asked : view.members progress.state node.type request.callSite with
            | mk answer state =>
                cases answer with
                | error error => exact .unanswered first asked
                | ok members => exact .expanded first asked

/-- The moment after so many steps of a search. -/
def moment (state : σ) (steps : Nat) : Moment σ :=
  (advance view signals limits request)^[steps] ⟨firstQueue limits request state, .between⟩

/-- Whether the loop comes from one moment to another. -/
def Reaches (before after : Moment σ) : Prop :=
  ∃ steps, (advance view signals limits request)^[steps] before = after

variable {view signals limits request}

theorem Reaches.step {before after : Moment σ}
    (rest : Reaches view signals limits request (advance view signals limits request before) after) :
    Reaches view signals limits request before after := by
  obtain ⟨steps, reached⟩ := rest
  exact ⟨steps + 1, reached⟩

theorem Reaches.trans {before middle after : Moment σ}
    (early : Reaches view signals limits request before middle)
    (late : Reaches view signals limits request middle after) :
    Reaches view signals limits request before after := by
  obtain ⟨steps, rfl⟩ := early
  obtain ⟨more, rfl⟩ := late
  exact ⟨more + steps, Function.iterate_add_apply _ _ _ _⟩

/-- The moment after a node, or after the candidate that ended the search. -/
def afterNode : Progress σ × Option StopReason → Moment σ
  | (progress, none) => ⟨progress, .between⟩
  | (progress, some reason) => ⟨progress, .ended reason⟩

/-- The loop deals with the candidates of a node one after the other. -/
theorem reaches_afterNode (node : Node) (members : List Member) (progress : Progress σ) :
    Reaches view signals limits request ⟨progress, .dealing node members⟩
      (afterNode (workOff
        (visitMember view limits request.target (foldName request.typed) node) progress members)) := by
  induction members generalizing progress with
  | nil => exact ⟨1, rfl⟩
  | cons member left ih =>
      refine Reaches.step ?_
      rw [advance, workOff]
      simp only
      generalize visitMember view limits request.target (foldName request.typed) node progress
        member = result
      obtain ⟨after, stop⟩ := result
      cases stop with
      | some reason => exact ⟨0, rfl⟩
      | none => exact ih after

/-- The loop deals with a node as it is taken off a queue. -/
theorem reaches_dequeued {progress : Progress σ} {node : Node} {rest : List Node}
    (goes : signals.interruption? limits progress.expanded = none)
    (first : progress.next.toList = node :: rest) :
    Reaches view signals limits request ⟨progress, .between⟩
      (afterNode (dequeue view signals limits request progress node rest)) := by
  refine Reaches.step ?_
  rw [advance, dequeue, visitNode]
  simp only [goes, first, Nat.add_sub_cancel]
  generalize candidates view request.callSite progress.state node = result
  obtain ⟨answer, state⟩ := result
  cases answer with
  | error error => exact ⟨0, rfl⟩
  | ok members => exact reaches_afterNode node members _

/-- A queue is worked off from moment to moment. -/
theorem QueueRun.reaches {progress : Progress σ} {dequeued : List Node} {outcome : Outcome × σ}
    (queueRun : QueueRun view signals limits request progress dequeued outcome) :
    ∃ last reason, Reaches view signals limits request ⟨progress, .between⟩ ⟨last, .ended reason⟩ ∧
      outcome = last.outcome reason := by
  induction queueRun with
  | @interrupted progress reason stops =>
      refine ⟨progress, reason, ⟨1, ?_⟩, rfl⟩
      simp [advance, stops]
  | @exhausted progress goes empty =>
      refine ⟨progress, .exhausted, ⟨1, ?_⟩, rfl⟩
      simp only [Function.iterate_one, advance, goes, empty]
  | @ended progress after node rest reason goes first taken =>
      have reached := @reaches_dequeued _ view signals limits request _ _ _ goes first
      rw [taken] at reached
      exact ⟨after, reason, reached, rfl⟩
  | @goOn progress after node rest dequeued outcome goes first taken later ih =>
      have reached := @reaches_dequeued _ view signals limits request _ _ _ goes first
      rw [taken] at reached
      obtain ⟨last, reason, rest, isOutcome⟩ := ih
      exact ⟨last, reason, reached.trans rest, isOutcome⟩

variable (view signals limits request)

/-- A search ends where its loop does. -/
theorem run_reaches (state : σ) :
    ∃ steps last reason, moment view signals limits request state steps = ⟨last, .ended reason⟩ ∧
      run view signals limits request state = last.outcome reason := by
  obtain ⟨dequeued, queueRun⟩ := run_queueRun view signals limits request state
  obtain ⟨last, reason, ⟨steps, reached⟩, isOutcome⟩ := queueRun.reaches
  exact ⟨steps, last, reason, reached, isOutcome⟩

variable {view signals limits request}

/-- What a step keeps holds at every moment. -/
theorem moment_keeps {keep : Moment σ → Prop}
    (step : ∀ before after, MomentStep view signals limits request before after →
      keep before → keep after)
    {state : σ} (start : keep ⟨firstQueue limits request state, .between⟩) (steps : Nat) :
    keep (moment view signals limits request state steps) := by
  induction steps with
  | zero => exact start
  | succ steps ih =>
      rw [moment, Function.iterate_succ_apply']
      exact step _ _ (advance_step view signals limits request _) ih

/-- The search stays at its end. -/
theorem moment_ended {state : σ} {steps : Nat} {last : Progress σ} {reason : StopReason}
    (ended : moment view signals limits request state steps = ⟨last, .ended reason⟩) (more : Nat) :
    moment view signals limits request state (more + steps) = ⟨last, .ended reason⟩ := by
  have stays : (advance view signals limits request)^[more] ⟨last, .ended reason⟩ =
      ⟨last, .ended reason⟩ := Function.iterate_fixed rfl more
  rw [moment, Function.iterate_add_apply]
  rw [moment] at ended
  rw [ended, stays]

/-! ## Bounds -/

/-- Whether no more nodes wait than may, where `most` waited in the beginning, and there is room
for another chain unless the search has ended with enough of them. -/
structure Moment.Bounded (limits : Limits) (most : Nat) (moment : Moment σ) : Prop where
  counted : moment.progress.waiting = moment.progress.next.size
  queued : moment.progress.next.size ≤ max most limits.maxFrontier
  room : moment.stage ≠ .ended .resultLimit → HasRoom limits moment.progress
  full : moment.stage = .ended .resultLimit → moment.progress.chains.size = limits.mostChains

/-- A candidate joins a queue that has room, or the queue stays as it is. -/
theorem MemberStep.queued {node : Node} {progress : Progress σ} {member : Member} {most : Nat}
    {target : TypeId} {typed : List Char} {result : Progress σ × Option StopReason}
    (step : MemberStep view limits target typed node progress member result)
    (counted : progress.waiting = progress.next.size)
    (queued : progress.next.size ≤ max most limits.maxFrontier) :
    result.1.waiting = result.1.next.size ∧
      result.1.next.size ≤ max most limits.maxFrontier := by
  cases step with
  | waits asked grows room =>
      simp only [Array.size_push]
      omega
  | _ => exact ⟨counted, queued⟩

/-- What is left of a queue is no longer than the queue. -/
theorem length_rest_le {progress : Progress σ} {node : Node} {rest : List Node}
    (first : progress.next.toList = node :: rest) : rest.length ≤ progress.next.size := by
  rw [← Array.length_toList, first]
  exact Nat.le_succ _

/-- A step keeps the bounds. -/
theorem MomentStep.bounded {most : Nat} {before after : Moment σ}
    (step : MomentStep view signals limits request before after)
    (bounded : before.Bounded limits most) : after.Bounded limits most := by
  obtain ⟨counted, queued, room, full⟩ := bounded
  cases step with
  | ended => exact ⟨counted, queued, room, full⟩
  | left => exact ⟨counted, queued, fun _ => room (by simp), by simp⟩
  | dealt step =>
      obtain ⟨counted, queued⟩ := step.queued counted queued
      rcases step.chains_size (room (by simp)) with ⟨-, left⟩ | ⟨stops, -⟩
      · exact ⟨counted, queued, fun _ => left, by simp⟩
      · cases stops
  | enough step =>
      obtain ⟨counted, queued⟩ := step.queued counted queued
      rcases step.chains_size (room (by simp)) with ⟨goes, -⟩ | ⟨stops, enough⟩
      · cases goes
      · cases stops
        exact ⟨counted, queued, fun other => absurd rfl other, fun _ => enough⟩
  | interrupted stops =>
      refine ⟨counted, queued, fun _ => room (by simp), ?_⟩
      rintro ⟨⟩
      exact absurd (signals.interruption?_reason stops) (by simp)
  | exhausted => exact ⟨counted, queued, fun _ => room (by simp), by simp⟩
  | unanswered first asked =>
      exact ⟨rfl, Nat.le_trans (length_rest_le first) queued, fun _ => room (by simp), by simp⟩
  | expanded first asked =>
      exact ⟨rfl, Nat.le_trans (length_rest_le first) queued, fun _ => room (by simp), by simp⟩

/-- The bounds are kept at every moment. -/
theorem moment_bounded (state : σ) (steps : Nat) :
    (moment view signals limits request state steps).Bounded limits
      (request.roots.length + request.companions.length) := by
  refine moment_keeps (fun _ _ step bounded => step.bounded bounded) ?_ steps
  have queue : (request.firstNodes limits).length =
      request.roots.length + request.companions.length := by
    simp [Request.firstNodes]
  refine ⟨rfl, ?_, fun _ => ?_, by simp⟩
  · rw [← queue]
    exact Nat.le_max_left _ _
  · exact Nat.lt_of_lt_of_le Nat.one_pos (Nat.le_max_left _ _)

theorem Moment.Bounded.chains_size_le {most : Nat} {moment : Moment σ}
    (bounded : moment.Bounded limits most) : moment.progress.chains.size ≤ limits.mostChains := by
  by_cases enough : moment.stage = .ended .resultLimit
  · exact Nat.le_of_eq (bounded.full enough)
  · exact Nat.le_of_lt (bounded.room enough)

theorem Moment.Bounded.full_iff {most : Nat} {moment : Moment σ}
    (bounded : moment.Bounded limits most) :
    moment.progress.chains.size = limits.mostChains ↔ moment.stage = .ended .resultLimit := by
  refine ⟨fun full => ?_, bounded.full⟩
  by_contra room
  exact absurd full (Nat.ne_of_lt (bounded.room room))

/-! ## Counts -/

/-- Whether the counters are those of the calls in the log. -/
structure Progress.Counted (progress : Progress (σ × List Call)) : Prop where
  expanded : progress.expanded = progress.state.2.countP Call.asksMembers
  pruned : progress.pruned = progress.state.2.countP (!·.answered)

/-- A call is counted as a node if it asks for members, and as a failure if it has no answer. -/
theorem Progress.Counted.call {progress after : Progress (σ × List Call)} (counted : progress.Counted)
    {call : Call} (log : after.state.2 = progress.state.2 ++ [call])
    (expanded : after.expanded = progress.expanded + if call.asksMembers then 1 else 0)
    (pruned : after.pruned = progress.pruned + if call.answered then 0 else 1) : after.Counted := by
  constructor
  · rw [log, expanded, counted.expanded, List.countP_append, List.countP_singleton]
  · rw [log, pruned, counted.pruned, List.countP_append, List.countP_singleton]
    cases call.answered <;> rfl

/-- Asking for the entries of a type is no question to the program. -/
theorem Node.log_stateAfter (node : Node) (state : σ × List Call) :
    (node.stateAfter view.logged state).2 = state.2 := by
  rw [Node.stateAfter]
  split <;> rfl

/-- A candidate is dealt with by one call. -/
theorem MemberStep.counted {node : Node} {progress : Progress (σ × List Call)}
    {member : Member} {target : TypeId} {typed : List Char}
    {result : Progress (σ × List Call) × Option StopReason}
    (step : MemberStep view.logged limits target typed node progress member result)
    (counted : progress.Counted) : result.1.Counted := by
  cases step with
  | _ asked => exact counted.call (ProgramView.log_of_assignable asked) rfl rfl

/-- The questions of a step are counted. -/
theorem MomentStep.counted {before after : Moment (σ × List Call)}
    (step : MomentStep view.logged signals limits request before after)
    (counted : before.progress.Counted) : after.progress.Counted := by
  cases step with
  | ended => exact counted
  | left => exact counted
  | dealt step => exact step.counted counted
  | enough step => exact step.counted counted
  | interrupted stops => exact counted
  | exhausted => exact counted
  | unanswered first asked => exact counted.call (ProgramView.log_of_members asked) rfl rfl
  | @expanded progress node rest members state first asked =>
      have log := (@Node.log_stateAfter _ view node state).trans (ProgramView.log_of_members asked)
      exact counted.call log rfl rfl

/-! ## Without the log -/

/-- The progress of a search without its log. -/
def Progress.unlogged (progress : Progress (σ × List Call)) : Progress σ :=
  { progress with state := progress.state.1 }

/-- A moment of a search without its log. -/
def Moment.unlogged (moment : Moment (σ × List Call)) : Moment σ :=
  ⟨moment.progress.unlogged, moment.stage⟩

theorem visitMember_unlogged {target : TypeId} {typed : List Char} (node : Node)
    (progress : Progress (σ × List Call)) (member : Member) :
    visitMember view limits target typed node progress.unlogged member =
      ((visitMember view.logged limits target typed node progress member).1.unlogged,
        (visitMember view.logged limits target typed node progress member).2) := by
  simp only [visitMember, ProgramView.logged_assignable, Progress.unlogged]
  generalize view.assignable progress.state.1 member.result target = asked
  obtain ⟨answer, state⟩ := asked
  cases answer with
  | error error => rfl
  | ok fits =>
      cases fits with
      | true =>
          simp only
          split <;> rfl
      | false =>
          by_cases grows : node.mayExtend member = true
          · by_cases room : progress.waiting < limits.maxFrontier <;> simp [grows, room]
          · simp [grows]

theorem candidates_unlogged (site : CallSite) (node : Node) (state : σ × List Call) :
    candidates view site state.1 node =
      ((candidates view.logged site state node).1, (candidates view.logged site state node).2.1) := by
  simp only [candidates, ProgramView.logged_members]
  generalize view.members state.1 node.type site = asked
  obtain ⟨answer, after⟩ := asked
  cases answer with
  | error error => rfl
  | ok members =>
      simp only
      split <;> rfl

/-- A step takes no notice of the log. -/
theorem advance_unlogged (moment : Moment (σ × List Call)) :
    (advance view.logged signals limits request moment).unlogged =
      advance view signals limits request moment.unlogged := by
  obtain ⟨progress, stage⟩ := moment
  cases stage with
  | ended reason => rfl
  | dealing node left =>
      cases left with
      | nil => rfl
      | cons member left =>
          simp only [advance, Moment.unlogged, visitMember_unlogged]
          generalize visitMember view.logged limits request.target (foldName request.typed) node
            progress member = result
          obtain ⟨after, stop⟩ := result
          cases stop <;> rfl
  | between =>
      have sameCount : progress.unlogged.expanded = progress.expanded := rfl
      have sameQueue : progress.unlogged.next = progress.next := rfl
      have sameState : progress.unlogged.state = progress.state.1 := rfl
      simp only [advance, Moment.unlogged, sameCount, sameQueue, sameState, candidates_unlogged]
      split
      · rfl
      · split
        · rfl
        · next node rest first =>
            generalize candidates view.logged request.callSite progress.state node = result
            obtain ⟨answer, state⟩ := result
            cases answer <;> rfl

variable (view signals limits request)

/-- The moments of a search with a log are its moments. -/
theorem moment_logged (state : σ) (log : List Call) (steps : Nat) :
    (moment view.logged signals limits request (state, log) steps).unlogged =
      moment view signals limits request state steps :=
  Function.Semiconj.iterate_right
    (show Function.Semiconj Moment.unlogged _ _ from advance_unlogged) steps
    (⟨firstQueue limits request (state, log), .between⟩ : Moment (σ × List Call))


/-- At every moment the counters are those of the log. -/
theorem moment_counted (state : σ) (steps : Nat) :
    (moment view.logged signals limits request (state, []) steps).progress.Counted :=
  @moment_keeps _ view.logged signals limits request (fun moment => moment.progress.Counted)
    (fun _ _ step counted => step.counted counted) (state, []) ⟨rfl, rfl⟩ steps

/-- A search with a log finds what it finds without. -/
theorem run_logged (state : σ) :
    (run view.logged signals limits request (state, [])).1 =
        (run view signals limits request state).1 ∧
      (run view.logged signals limits request (state, [])).2.1 =
        (run view signals limits request state).2 := by
  obtain ⟨steps, last, reason, reached, isRun⟩ := run_reaches view signals limits request state
  obtain ⟨steps', last', reason', reached', isRun'⟩ :=
    run_reaches view.logged signals limits request (state, [])
  have unlogged := moment_logged view signals limits request state [] steps'
  rw [reached'] at unlogged
  -- both loops have ended after the steps of the two together
  have same : (⟨last, .ended reason⟩ : Moment σ) = ⟨last'.unlogged, .ended reason'⟩ := by
    rw [← moment_ended reached steps', ← moment_ended unlogged.symm steps, Nat.add_comm]
  obtain ⟨rfl, sameReason⟩ := Moment.mk.inj same
  obtain rfl := Stage.ended.inj sameReason
  rw [isRun, isRun']
  exact ⟨rfl, rfl⟩

/-- **A search keeps its bounds and counts its questions.**  Whatever the program answers and
whatever the limits are, at every moment of its loop no more nodes wait than there were roots
and companions or than the frontier may hold; no more chains are recorded than asked for, where
at least one may be, and just as many exactly if the search has ended with enough results.  The
loop comes to the end of the search, and there the number of nodes looked at is that of the
questions for members, and the number of those given up is that of questions without an
answer; writing the questions down changes nothing else. -/
theorem run_keeps_count (state : σ) :
    (∀ steps,
      (moment view signals limits request state steps).progress.next.size ≤
        max (request.roots.length + request.companions.length) limits.maxFrontier ∧
      (moment view signals limits request state steps).progress.chains.size ≤
        max 1 limits.maxResults ∧
      ((moment view signals limits request state steps).progress.chains.size =
          max 1 limits.maxResults ↔
        (moment view signals limits request state steps).stage = .ended .resultLimit)) ∧
    (∃ steps last reason,
      moment view signals limits request state steps = ⟨last, .ended reason⟩ ∧
      run view signals limits request state = last.outcome reason) ∧
    ((run view signals limits request state).1.chains.length = max 1 limits.maxResults ↔
      (run view signals limits request state).1.reason = .resultLimit) ∧
    ∃ log, run view.logged signals limits request (state, []) =
        ((run view signals limits request state).1, (run view signals limits request state).2, log) ∧
      (run view signals limits request state).1.expanded = log.countP Call.asksMembers ∧
      (run view signals limits request state).1.pruned = log.countP (!·.answered) := by
  refine ⟨?_, run_reaches view signals limits request state, ?_, ?_⟩
  · intro steps
    have bounded := @moment_bounded _ view signals limits request state steps
    exact ⟨bounded.queued, bounded.chains_size_le, bounded.full_iff⟩
  · obtain ⟨steps, last, reason, reached, isRun⟩ := run_reaches view signals limits request state
    have bounded := @moment_bounded _ view signals limits request state steps
    rw [reached] at bounded
    rw [isRun]
    simpa [Progress.outcome, Limits.mostChains] using bounded.full_iff
  · obtain ⟨steps, last, reason, reached, isRun⟩ :=
      run_reaches view.logged signals limits request (state, [])
    have counted := moment_counted view signals limits request state steps
    rw [reached] at counted
    obtain ⟨sameOutcome, sameState⟩ := run_logged view signals limits request state
    refine ⟨last.state.2, ?_, ?_, ?_⟩
    · rw [← sameOutcome, ← sameState, isRun]
      rfl
    · rw [← sameOutcome, isRun]
      exact counted.expanded
    · rw [← sameOutcome, isRun]
      exact counted.pruned

end Loop

end Search

end ChainCompletion
