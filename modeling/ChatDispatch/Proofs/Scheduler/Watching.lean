import Mathlib.Data.List.Nodup
import Mathlib.Data.List.Perm.Subperm
import ChatDispatch.Proofs.Scheduler.Punctual

/-!
# Watching jobs

A watch over the jobs of a punctual queue ends: each of them has finished or is to begin, and
there is only so much that the wakeups lead to.

The queue is first in, first out, so a job has been struck off before the watch is told that it
has finished.  Therefore a watch over all scheduled jobs that ends well leaves none of them.
-/

namespace ChatDispatch

namespace Scheduler

variable {scheduler : Scheduler} {wakeup : Wakeup} {rest : List Wakeup}

/-- A watch is only told that a scheduled job has finished after it has been struck off. -/
def Timely (number : Nat) (scheduled : List Nat) (ready : List Wakeup) : Prop :=
  ∀ front back job, ready = front ++ .noticed job number :: back → job ∈ scheduled →
    .settled job ∈ front

/-- A watch over jobs is under way: it will be told about each of those that remain, and each
of those that are still scheduled remains. -/
structure Waits (jobs : List Nat) (watch : Watch) (scheduler : Scheduler) : Prop where
  client : scheduler.client = .watching watch
  same : watch.jobs = jobs
  undecided : watch.outcome = none
  remains : watch.remaining ≠ []
  distinct : watch.remaining.Nodup
  within : ∀ job ∈ watch.remaining, job ∈ jobs
  coming : ∀ job ∈ watch.remaining,
    .begin job ∈ scheduler.ready ∨ .noticed job watch.number ∈ scheduler.ready
  unreleased : .released watch.number ∉ scheduler.ready
  timely : Timely watch.number scheduler.scheduled scheduler.ready
  struck : ∀ job ∈ jobs, job ∈ scheduler.scheduled → job ∈ watch.remaining

/-- A watch over jobs has an outcome, and the client will be released.  If it is a good one,
none of the jobs is scheduled any more. -/
structure Decided (jobs : List Nat) (watch : Watch) (scheduler : Scheduler) : Prop where
  client : scheduler.client = .watching watch
  released : .released watch.number ∈ scheduler.ready
  outcome : ∃ outcome, watch.outcome = some outcome ∧
    (outcome = .ok () → ∀ job ∈ jobs, job ∉ scheduler.scheduled)

/-- The client has been told the outcome of a watch over jobs. -/
def Watched (jobs : List Nat) (scheduler : Scheduler) : Prop :=
  ∃ outcome, scheduler.client = .watched outcome ∧
    (outcome = .ok () → ∀ job ∈ jobs, job ∉ scheduler.scheduled)

/-- How much a wakeup leads to at most while a watch of the given number is under way. -/
def weightFor (number : Nat) : Wakeup → Nat
  | .begin _ => 4
  | .noticed _ watch => if watch = number then 2 else 1
  | _ => 1

/-- How much some wakeups lead to at most while a watch of the given number is under way. -/
def weightsFor (number : Nat) : List Wakeup → Nat
  | [] => 0
  | wakeup :: rest => weightFor number wakeup + weightsFor number rest

variable {number : Nat} {scheduled jobs : List Nat} {ready : List Wakeup} {watch : Watch}

namespace Timely

theorem of_cons (timely : Timely number scheduled (wakeup :: rest))
    (apart : ∀ job ∈ scheduled, wakeup ≠ .settled job) : Timely number scheduled rest := by
  intro front back job split member
  have settled := timely (wakeup :: front) back job (by rw [split]; rfl) member
  exact (List.mem_cons.mp settled).resolve_left (apart job member).symm

theorem of_subset (timely : Timely number scheduled ready) {fewer : List Nat}
    (subset : fewer ⊆ scheduled) : Timely number fewer ready :=
  fun front back job split member => timely front back job split (subset member)

theorem push (timely : Timely number scheduled ready)
    (after : ∀ job ∈ scheduled, wakeup = .noticed job number → .settled job ∈ ready) :
    Timely number scheduled (ready ++ [wakeup]) := by
  intro front back job split member
  rcases List.eq_nil_or_concat back with rfl | ⟨before, last, rfl⟩
  · obtain ⟨same, noticed⟩ := List.append_inj' split rfl
    subst same
    exact after job member (List.cons.inj noticed).1
  · rw [List.concat_eq_append, ← List.cons_append, ← List.append_assoc] at split
    obtain ⟨same, -⟩ := List.append_inj' split rfl
    exact timely front before job same member

end Timely

theorem weightsFor_cons (number : Nat) (wakeup : Wakeup) (rest : List Wakeup) :
    weightsFor number (wakeup :: rest) = weightFor number wakeup + weightsFor number rest :=
  rfl

theorem weightsFor_append (number : Nat) (front back : List Wakeup) :
    weightsFor number (front ++ back) = weightsFor number front + weightsFor number back := by
  induction front with
  | nil => rw [List.nil_append, weightsFor, Nat.zero_add]
  | cons wakeup rest induction =>
      rw [List.cons_append, weightsFor_cons, induction, weightsFor_cons, Nat.add_assoc]

theorem weightFor_pos (number : Nat) (wakeup : Wakeup) : 0 < weightFor number wakeup := by
  unfold weightFor
  split
  · exact Nat.succ_pos _
  · split <;> exact Nat.succ_pos _
  · exact Nat.succ_pos _

theorem watchNumbered?_of_watching (client : scheduler.client = .watching watch) (number : Nat) :
    scheduler.watchNumbered? number = if watch.number = number then some watch else none := by
  unfold watchNumbered?
  rw [client]

/-- Only the watch of the number is told about a job, and not after its end. -/
theorem notice_of_ne (client : scheduler.client = .watching watch)
    (other : watch.number ≠ number) (job : Nat) : scheduler.notice job number = scheduler := by
  rw [notice, watchNumbered?_of_watching client, if_neg other]

theorem notice_of_outcome (client : scheduler.client = .watching watch)
    {outcome : Except Fault Unit} (hasOutcome : watch.outcome = some outcome) (job number : Nat) :
    scheduler.notice job number = scheduler := by
  rw [notice, watchNumbered?_of_watching client]
  split
  · rfl
  · rename_i found
    split at found
    · cases found
      simp only [hasOutcome]
    · cases found

theorem letGo_of_ne (client : scheduler.client = .watching watch)
    (other : watch.number ≠ number) : scheduler.letGo number = scheduler := by
  rw [letGo, watchNumbered?_of_watching client, if_neg other]

theorem wakesOf_of_watching (scheduler : Scheduler)
    (client : scheduler.client = .watching watch) (job : Nat) :
    scheduler.wakesOf job =
      (if scheduler.scheduled.contains job then [.settled job] else []) ++
        (if watch.jobs.contains job then [.noticed job watch.number] else []) := by
  unfold wakesOf watchOver?
  rw [client]
  cases seen : watch.jobs.contains job <;> simp only [seen] <;> rfl

/-- What has still to happen weighs less after any wakeup that leads to no others. -/
theorem weightsFor_rest_lt (ready : scheduler.ready = wakeup :: rest) (number : Nat) :
    weightsFor number rest < weightsFor number scheduler.ready := by
  rw [ready, weightsFor_cons]
  exact Nat.lt_add_of_pos_left (weightFor_pos _ _)

/-- What a job wakes when it finishes weighs less than its beginning. -/
theorem weightsFor_finish_lt (client : scheduler.client = .watching watch) {job : Nat}
    (ready : scheduler.ready = .begin job :: rest) (outcome : Except Fault Nat) :
    weightsFor watch.number ((scheduler.behind rest).finish job outcome).ready <
      weightsFor watch.number scheduler.ready := by
  have weight : weightsFor watch.number ((scheduler.behind rest).wakesOf job) ≤ 3 := by
    rw [wakesOf_of_watching (scheduler.behind rest) client, weightsFor_append]
    split <;> split <;> simp [weightsFor, weightFor]
  rw [finish_eq]
  change weightsFor watch.number (rest ++ (scheduler.behind rest).wakesOf job) < _
  rw [ready, weightsFor_cons, weightsFor_append, weightFor]
  omega

theorem Waits.ready_ne_nil (waits : Waits jobs watch scheduler) : scheduler.ready ≠ [] := by
  obtain ⟨job, others, remaining⟩ := List.exists_cons_of_ne_nil waits.remains
  have member : job ∈ watch.remaining := by simp [remaining]
  rcases waits.coming job member with begins | noticed
  · exact List.ne_nil_of_mem begins
  · exact List.ne_nil_of_mem noticed

/-- A watch is told about a job that finishes after the job is due to be struck off. -/
theorem Waits.timely_finish (waits : Waits jobs watch scheduler) {job : Nat}
    (ready : scheduler.ready = .begin job :: rest) :
    Timely watch.number scheduler.scheduled (rest ++ (scheduler.behind rest).wakesOf job) := by
  have wakes := wakesOf_of_watching (scheduler.behind rest) waits.client job
  have timely := waits.timely
  rw [ready] at timely
  have before := timely.of_cons (by simp)
  rw [wakes, ← List.append_assoc]
  have settling : Timely watch.number scheduler.scheduled
      (rest ++ if (scheduler.behind rest).scheduled.contains job then [.settled job] else []) := by
    split
    · exact before.push fun _ _ same => by cases same
    · rwa [List.append_nil]
  by_cases seen : watch.jobs.contains job = true
  · rw [if_pos seen]
    refine settling.push fun other member same => ?_
    cases same
    exact List.mem_append_right _ (by simp [behind, member])
  · rwa [if_neg seen, List.append_nil]

/-- A job that begins has finished; if it is watched, the watch will be told. -/
theorem Waits.begin (waits : Waits jobs watch scheduler) {job : Nat}
    (ready : scheduler.ready = .begin job :: rest) (outcome : Except Fault Nat) :
    Waits jobs watch ((scheduler.behind rest).finish job outcome) := by
  have wakes := wakesOf_of_watching (scheduler.behind rest) waits.client job
  rw [waits.same] at wakes
  have timely := waits.timely_finish ready
  have unreleased : .released watch.number ∉ rest ++ (scheduler.behind rest).wakesOf job := by
    intro member
    rcases List.mem_append.mp member with earlier | woken
    · exact waits.unreleased (by rw [ready]; exact List.mem_cons_of_mem _ earlier)
    · rcases mem_wakesOf woken with settled | ⟨_, -, noticed⟩
      · cases settled
      · cases noticed
  have coming : ∀ other ∈ watch.remaining,
      .begin other ∈ rest ++ (scheduler.behind rest).wakesOf job ∨
        .noticed other watch.number ∈ rest ++ (scheduler.behind rest).wakesOf job := by
    intro other member
    have coming := waits.coming other member
    rw [ready] at coming
    by_cases same : other = job
    · subst same
      have contained : jobs.contains other = true :=
        List.contains_iff_mem.mpr (waits.within other member)
      refine .inr (List.mem_append_right _ ?_)
      rw [wakes, if_pos contained]
      exact List.mem_append_right _ List.mem_cons_self
    · refine coming.imp (fun begins => ?_) (fun noticed => ?_)
      · refine List.mem_append_left _ ((List.mem_cons.mp begins).resolve_left fun begun => ?_)
        exact same (Wakeup.begin.inj begun)
      · exact List.mem_append_left _ ((List.mem_cons.mp noticed).resolve_left (by simp))
  rw [finish_eq]
  exact { waits with coming := coming, unreleased := unreleased, timely := timely }

/-- A wakeup that concerns neither the watch nor its jobs leaves it as it is. -/
theorem Waits.behind (waits : Waits jobs watch scheduler)
    (ready : scheduler.ready = wakeup :: rest) (notBegun : ∀ job, wakeup ≠ .begin job)
    (notSettled : ∀ job, wakeup ≠ .settled job)
    (notNoticed : ∀ job, wakeup ≠ .noticed job watch.number) :
    Waits jobs watch (scheduler.behind rest) := by
  have timely := waits.timely
  rw [ready] at timely
  refine { waits with
    coming := ?_
    unreleased := ?_
    timely := timely.of_cons fun job _ => notSettled job }
  · intro job member
    have coming := waits.coming job member
    rw [ready] at coming
    exact coming.imp
      (fun begins => (List.mem_cons.mp begins).resolve_left (notBegun job).symm)
      (fun noticed => (List.mem_cons.mp noticed).resolve_left (notNoticed job).symm)
  · intro member
    exact waits.unreleased (by rw [ready]; exact List.mem_cons_of_mem _ member)

theorem Waits.settle (waits : Waits jobs watch scheduler) (punctual : scheduler.Punctual)
    {job : Nat} (ready : scheduler.ready = .settled job :: rest) :
    Waits jobs watch ((scheduler.behind rest).settle job) := by
  have timely := waits.timely.of_subset (List.erase_subset (a := job))
  rw [ready] at timely
  refine { waits with
    coming := ?_
    unreleased := ?_
    timely := timely.of_cons ?_
    struck := ?_ }
  · intro other member
    have coming := waits.coming other member
    rw [ready] at coming
    exact coming.imp
      (fun begins => (List.mem_cons.mp begins).resolve_left (by simp))
      (fun noticed => (List.mem_cons.mp noticed).resolve_left (by simp))
  · intro member
    exact waits.unreleased (by rw [ready]; exact List.mem_cons_of_mem _ member)
  · intro other member same
    exact (punctual.distinct.mem_erase_iff.mp member).1 (Wakeup.settled.inj same).symm
  · exact fun other member listed => waits.struck other member (List.mem_of_mem_erase listed)

/-- A job has been struck off before the watch is told about it, as the queue is first in, first
out. -/
theorem Waits.not_mem_scheduled (waits : Waits jobs watch scheduler) {job : Nat}
    (ready : scheduler.ready = .noticed job watch.number :: rest) :
    job ∉ scheduler.scheduled := by
  have timely := waits.timely
  rw [ready] at timely
  intro member
  cases timely [] rest job rfl member

/-- Without the job that the watch is told about all scheduled jobs remain. -/
theorem Waits.struck_erase (waits : Waits jobs watch scheduler) {job : Nat}
    (ready : scheduler.ready = .noticed job watch.number :: rest) :
    ∀ other ∈ jobs, other ∈ scheduler.scheduled → other ∈ watch.remaining.erase job := by
  intro other member listed
  have apart : other ≠ job := by
    rintro rfl
    exact waits.not_mem_scheduled ready listed
  exact (List.mem_erase_of_ne apart).mpr (waits.struck other member listed)

/-- A watch that has been told about a job goes on with the others. -/
theorem Waits.goOn (waits : Waits jobs watch scheduler) {job : Nat}
    (ready : scheduler.ready = .noticed job watch.number :: rest)
    (others : watch.remaining.erase job ≠ []) :
    let later : Watch := { watch with remaining := watch.remaining.erase job }
    Waits jobs later ((scheduler.behind rest).setClient (.watching later)) := by
  have timely := waits.timely
  rw [ready] at timely
  exact {
    client := rfl
    same := waits.same
    undecided := waits.undecided
    remains := others
    distinct := waits.distinct.erase job
    within := fun other member => waits.within other (List.mem_of_mem_erase member)
    coming := by
      intro other member
      obtain ⟨apart, listed⟩ := waits.distinct.mem_erase_iff.mp member
      have coming := waits.coming other listed
      rw [ready] at coming
      refine coming.imp
        (fun begins => (List.mem_cons.mp begins).resolve_left (by simp))
        (fun noticed => (List.mem_cons.mp noticed).resolve_left ?_)
      intro same
      exact apart (Wakeup.noticed.inj same).1
    unreleased := by
      intro member
      exact waits.unreleased (by rw [ready]; exact List.mem_cons_of_mem _ member)
    timely := timely.of_cons (by simp)
    struck := waits.struck_erase ready }

theorem decided_endWatch (scheduler : Scheduler) {outcome : Except Fault Unit}
    (struck : outcome = .ok () → ∀ job ∈ jobs, job ∉ scheduler.scheduled) :
    Decided jobs { watch with outcome := some outcome } (scheduler.endWatch watch outcome) where
  client := rfl
  released := List.mem_append_right _ List.mem_cons_self
  outcome := ⟨outcome, rfl, struck⟩

/-- A watch that is told of a job goes on, or has an outcome. -/
theorem Waits.notice (waits : Waits jobs watch scheduler) (punctual : scheduler.Punctual)
    {job : Nat} (ready : scheduler.ready = .noticed job watch.number :: rest) :
    ∃ later : Watch, later.number = watch.number ∧
      (Waits jobs later ((scheduler.behind rest).notice job watch.number) ∨
        Decided jobs later ((scheduler.behind rest).notice job watch.number)) ∧
      weightsFor watch.number ((scheduler.behind rest).notice job watch.number).ready <
        weightsFor watch.number scheduler.ready := by
  have finished : scheduler.hasFinished job = true :=
    (punctual.told job watch.number (by rw [ready]; exact List.mem_cons_self)).1
  obtain ⟨result, found⟩ := Option.isSome_iff_exists.mp finished
  have client : (scheduler.behind rest).client = .watching watch := waits.client
  have numbered := watchNumbered?_of_watching client watch.number
  rw [if_pos rfl] at numbered
  have known : (scheduler.behind rest).result? job = some result := found
  have lighter : weightsFor watch.number (rest ++ [.released watch.number]) <
      weightsFor watch.number scheduler.ready := by
    rw [ready, weightsFor_cons, weightsFor_append]
    simp only [weightsFor, weightFor, if_true]
    omega
  cases result with
  | error fault =>
      have noticed : (scheduler.behind rest).notice job watch.number =
          (scheduler.behind rest).endWatch watch (.error fault) := by
        simp only [Scheduler.notice, numbered, waits.undecided, known]
      rw [noticed]
      refine ⟨{ watch with outcome := some (.error fault) }, rfl, .inr ?_, lighter⟩
      exact decided_endWatch _ fun good => by cases good
  | ok count =>
      let later : Watch := { watch with remaining := watch.remaining.erase job }
      cases empty : (watch.remaining.erase job).isEmpty with
      | true =>
          have noticed : (scheduler.behind rest).notice job watch.number =
              (scheduler.behind rest).endWatch later (.ok ()) := by
            simp only [Scheduler.notice, numbered, waits.undecided, known, empty, if_true, later]
          rw [noticed]
          refine ⟨{ later with outcome := some (.ok ()) }, rfl, .inr ?_, lighter⟩
          refine decided_endWatch _ fun _ other member listed => ?_
          have remains := waits.struck_erase ready other member listed
          rw [List.isEmpty_iff.mp empty] at remains
          cases remains
      | false =>
          have noticed : (scheduler.behind rest).notice job watch.number =
              (scheduler.behind rest).setClient (.watching later) := by
            simp only [Scheduler.notice, numbered, waits.undecided, known, empty,
              Bool.false_eq_true, if_false, later]
          rw [noticed]
          exact ⟨later, rfl, .inl (waits.goOn ready (List.isEmpty_eq_false_iff.mp empty)),
            weightsFor_rest_lt ready watch.number⟩

theorem Waits.advance (waits : Waits jobs watch scheduler) (punctual : scheduler.Punctual)
    (ready : scheduler.ready = wakeup :: rest) (outcome : Except Fault Nat) :
    ∃ later : Watch, later.number = watch.number ∧
      (Waits jobs later ((scheduler.behind rest).advance outcome wakeup) ∨
        Decided jobs later ((scheduler.behind rest).advance outcome wakeup)) ∧
      weightsFor watch.number ((scheduler.behind rest).advance outcome wakeup).ready <
        weightsFor watch.number scheduler.ready := by
  have first : wakeup ∈ scheduler.ready := by
    rw [ready]
    exact List.mem_cons_self
  have lighter := weightsFor_rest_lt ready watch.number
  have client : (scheduler.behind rest).client = .watching watch := waits.client
  cases wakeup with
  | begin job =>
      exact ⟨watch, rfl, .inl (waits.begin ready outcome),
        weightsFor_finish_lt waits.client ready outcome⟩
  | granted party =>
      obtain ⟨job, same⟩ := punctual.early _ first rfl
      cases same
  | answered party =>
      obtain ⟨job, same⟩ := punctual.early _ first rfl
      cases same
  | settled job => exact ⟨watch, rfl, .inl (waits.settle punctual ready), lighter⟩
  | noticed job number =>
      by_cases own : number = watch.number
      · subst own
        exact waits.notice punctual ready
      · rw [Scheduler.advance, notice_of_ne client (Ne.symm own)]
        refine ⟨watch, rfl, .inl (waits.behind ready (by simp) (by simp) ?_), lighter⟩
        intro noticed same
        exact own (Wakeup.noticed.inj same).2
  | released number =>
      have own : watch.number ≠ number := by
        rintro rfl
        exact waits.unreleased first
      rw [Scheduler.advance, letGo_of_ne client own]
      exact ⟨watch, rfl, .inl (waits.behind ready (by simp) (by simp) (by simp)), lighter⟩

/-- A wakeup brings the client nearer to the outcome of its watch, or tells it. -/
theorem Decided.advance (decided : Decided jobs watch scheduler) (punctual : scheduler.Punctual)
    (ready : scheduler.ready = wakeup :: rest) (outcome : Except Fault Nat) :
    (Decided jobs watch ((scheduler.behind rest).advance outcome wakeup) ∨
        Watched jobs ((scheduler.behind rest).advance outcome wakeup)) ∧
      weightsFor watch.number ((scheduler.behind rest).advance outcome wakeup).ready <
        weightsFor watch.number scheduler.ready := by
  have first : wakeup ∈ scheduler.ready := by
    rw [ready]
    exact List.mem_cons_self
  have lighter := weightsFor_rest_lt ready watch.number
  have client : (scheduler.behind rest).client = .watching watch := decided.client
  have released := decided.released
  obtain ⟨told, hasOutcome, struck⟩ := decided.outcome
  rw [ready] at released
  have later (apart : .released watch.number ≠ wakeup) : .released watch.number ∈ rest :=
    (List.mem_cons.mp released).resolve_left apart
  cases wakeup with
  | begin job =>
      refine ⟨.inl ?_, weightsFor_finish_lt decided.client ready outcome⟩
      rw [Scheduler.advance, finish_eq]
      exact ⟨client, List.mem_append_left _ (later (by simp)), decided.outcome⟩
  | granted party =>
      obtain ⟨job, same⟩ := punctual.early _ first rfl
      cases same
  | answered party =>
      obtain ⟨job, same⟩ := punctual.early _ first rfl
      cases same
  | settled job =>
      refine ⟨.inl ⟨client, later (by simp), told, hasOutcome, ?_⟩, lighter⟩
      exact fun good other member listed =>
        struck good other member (List.mem_of_mem_erase listed)
  | noticed job number =>
      rw [Scheduler.advance, notice_of_outcome client hasOutcome]
      exact ⟨.inl ⟨client, later (by simp), decided.outcome⟩, lighter⟩
  | released number =>
      by_cases own : watch.number = number
      · have goes : (scheduler.behind rest).letGo number =
            (scheduler.behind rest).setClient (.watched told) := by
          rw [letGo, watchNumbered?_of_watching client, if_pos own]
          simp only [hasOutcome, Option.getD_some]
        rw [Scheduler.advance, goes]
        exact ⟨.inr ⟨told, rfl, struck⟩, lighter⟩
      · rw [Scheduler.advance, letGo_of_ne client own]
        refine ⟨.inl ⟨client, later ?_, decided.outcome⟩, lighter⟩
        intro same
        exact own (Wakeup.released.inj same)

theorem scheduled_notice (scheduler : Scheduler) (job number : Nat) :
    (scheduler.notice job number).scheduled = scheduler.scheduled := by
  unfold notice
  split
  · rfl
  · split
    · rfl
    · dsimp only
      split <;> rfl
    · rfl

theorem scheduled_letGo (scheduler : Scheduler) (number : Nat) :
    (scheduler.letGo number).scheduled = scheduler.scheduled := by
  unfold letGo
  split <;> rfl

theorem scheduled_advance_subset (scheduler : Scheduler) (outcome : Except Fault Nat)
    (wakeup : Wakeup) : (scheduler.advance outcome wakeup).scheduled ⊆ scheduler.scheduled := by
  cases wakeup with
  | begin job =>
      rw [advance, finish_eq]
      exact List.Subset.refl _
  | granted party => exact List.Subset.refl _
  | answered party => exact List.Subset.refl _
  | settled job => exact List.erase_subset
  | noticed job number =>
      rw [advance, scheduled_notice]
      exact List.Subset.refl _
  | released number =>
      rw [advance, scheduled_letGo]
      exact List.Subset.refl _

/-- How far a watch has got: it is under way, or has an outcome, which the client may have been
told. -/
inductive Attends (jobs : List Nat) (number : Nat) (scheduler : Scheduler) : Prop where
  | waits (watch : Watch) (same : watch.number = number) (waits : Waits jobs watch scheduler)
  | decided (watch : Watch) (same : watch.number = number)
      (decided : Decided jobs watch scheduler)
  | watched (watched : Watched jobs scheduler)

namespace Attends

theorem watched_of_resting (attends : Attends jobs number scheduler)
    (resting : scheduler.isSuspended = false) : Watched jobs scheduler := by
  cases attends with
  | waits watch same waits =>
      rw [isSuspended, waits.client] at resting
      cases resting
  | decided watch same decided =>
      rw [isSuspended, decided.client] at resting
      cases resting
  | watched watched => exact watched

theorem ready_ne_nil (attends : Attends jobs number scheduler)
    (suspended : scheduler.isSuspended = true) : scheduler.ready ≠ [] := by
  cases attends with
  | waits watch same waits => exact waits.ready_ne_nil
  | decided watch same decided => exact List.ne_nil_of_mem decided.released
  | watched watched =>
      obtain ⟨outcome, client, -⟩ := watched
      rw [isSuspended, client] at suspended
      cases suspended

theorem advance (attends : Attends jobs number scheduler)
    (suspended : scheduler.isSuspended = true) (punctual : scheduler.Punctual)
    (ready : scheduler.ready = wakeup :: rest) (outcome : Except Fault Nat) :
    Attends jobs number ((scheduler.behind rest).advance outcome wakeup) ∧
      weightsFor number ((scheduler.behind rest).advance outcome wakeup).ready <
        weightsFor number scheduler.ready := by
  cases attends with
  | waits watch same waits =>
      subst same
      obtain ⟨later, same, still | decided, lighter⟩ := waits.advance punctual ready outcome
      · exact ⟨.waits later same still, lighter⟩
      · exact ⟨.decided later same decided, lighter⟩
  | decided watch same decided =>
      subst same
      obtain ⟨still | watched, lighter⟩ := decided.advance punctual ready outcome
      · exact ⟨.decided watch rfl still, lighter⟩
      · exact ⟨.watched watched, lighter⟩
  | watched watched =>
      obtain ⟨outcome, client, -⟩ := watched
      rw [isSuspended, client] at suspended
      cases suspended

end Attends

/-- Jobs that a watch can be over: each has finished or is to begin. -/
structure Watchable (jobs : List Nat) (scheduler : Scheduler) : Prop where
  some : jobs ≠ []
  distinct : jobs.Nodup
  numbered : ∀ job ∈ jobs, job < scheduler.jobs
  live : ∀ job ∈ jobs, scheduler.hasFinished job = true ∨ .begin job ∈ scheduler.ready

theorem watchable_scheduled (punctual : scheduler.Punctual) (some : scheduler.scheduled ≠ []) :
    Watchable scheduler.scheduled scheduler where
  some := some
  distinct := punctual.distinct
  numbered := fun _ member => punctual.lt_of_mem_scheduled member
  live := by
    intro job member
    have due := punctual.due job member
    unfold next at due
    split at due
    · exact .inl ‹_›
    · exact .inr due

theorem jobs_beginJobs (scheduler : Scheduler) (count : Nat) :
    (scheduler.beginJobs count).jobs = scheduler.jobs + count := by
  induction count generalizing scheduler with
  | zero => rfl
  | succ count induction =>
      have one : scheduler.beginJob.jobs = scheduler.jobs + 1 := rfl
      rw [beginJobs, induction, one]
      omega

theorem client_beginJobs (scheduler : Scheduler) (count : Nat) :
    (scheduler.beginJobs count).client = scheduler.client := by
  induction count generalizing scheduler with
  | zero => rfl
  | succ count induction => exact induction scheduler.beginJob

theorem subset_ready_beginJobs (scheduler : Scheduler) (count : Nat) :
    scheduler.ready ⊆ (scheduler.beginJobs count).ready := by
  induction count generalizing scheduler with
  | zero => exact List.Subset.refl _
  | succ count induction =>
      exact List.Subset.trans (List.subset_append_left _ _) (induction scheduler.beginJob)

theorem begin_mem_ready_beginJobs (scheduler : Scheduler) {count index : Nat}
    (less : index < count) :
    .begin (scheduler.jobs + index) ∈ (scheduler.beginJobs count).ready := by
  induction count generalizing scheduler index with
  | zero => cases less
  | succ count induction =>
      cases index with
      | zero =>
          exact subset_ready_beginJobs scheduler.beginJob count
            (List.mem_append_right _ List.mem_cons_self)
      | succ index =>
          have later := induction scheduler.beginJob (Nat.lt_of_succ_lt_succ less)
          have one : scheduler.beginJob.jobs = scheduler.jobs + 1 := rfl
          rwa [one, Nat.add_right_comm] at later

theorem watchable_beginJobs (scheduler : Scheduler) {count : Nat} (some : count ≠ 0) :
    Watchable ((List.range count).map (scheduler.jobs + ·)) (scheduler.beginJobs count) where
  some := by simpa using some
  distinct := List.Nodup.map (fun _ _ => Nat.add_left_cancel) List.nodup_range
  numbered := by
    intro job member
    obtain ⟨index, listed, rfl⟩ := List.mem_map.mp member
    rw [jobs_beginJobs]
    exact Nat.add_lt_add_left (List.mem_range.mp listed) _
  live := by
    intro job member
    obtain ⟨index, listed, rfl⟩ := List.mem_map.mp member
    exact .inr (begin_mem_ready_beginJobs scheduler (List.mem_range.mp listed))

theorem Watchable.length_le (watchable : Watchable jobs scheduler) :
    jobs.length ≤ scheduler.jobs := by
  have among : jobs ⊆ List.range scheduler.jobs :=
    fun job member => List.mem_range.mpr (watchable.numbered job member)
  have fewer := (watchable.distinct.subperm among).length_le
  rwa [List.length_range] at fewer

theorem beginWatch_eq (scheduler : Scheduler) (jobs : List Nat) :
    scheduler.beginWatch jobs =
      { scheduler with
        client := .watching ⟨scheduler.watches, jobs, jobs, none⟩
        watches := scheduler.watches + 1
        ready := scheduler.ready ++
          (jobs.filter scheduler.hasFinished).map fun job => .noticed job scheduler.watches } := by
  suffices pushed : ∀ (finished : List Nat) (number : Nat) (begun : Scheduler),
      finished.foldl (fun scheduler job => scheduler.push (.noticed job number)) begun =
        { begun with ready := begun.ready ++ finished.map fun job => .noticed job number } from
    pushed _ _ _
  intro finished number
  induction finished with
  | nil =>
      intro begun
      rw [List.map_nil, List.append_nil]
      rfl
  | cons job rest induction =>
      intro begun
      rw [List.foldl_cons, induction, List.map_cons]
      simp [push]

theorem Timely.append_noticed (timely : Timely number scheduled ready) {finished : List Nat}
    (settled : ∀ job ∈ finished, job ∈ scheduled → .settled job ∈ ready) :
    Timely number scheduled (ready ++ finished.map fun job => .noticed job number) := by
  induction finished generalizing ready with
  | nil => simpa using timely
  | cons job rest induction =>
      obtain ⟨here, later⟩ := List.forall_mem_cons.mp settled
      have pushed : Timely number scheduled (ready ++ [.noticed job number]) := by
        refine timely.push fun other member same => ?_
        cases same
        exact here member
      have tail := induction pushed fun other member listed =>
        List.mem_append_left _ (later other member listed)
      rwa [List.append_assoc, List.singleton_append] at tail

theorem Punctual.not_noticed (punctual : scheduler.Punctual) (job : Nat) :
    .noticed job scheduler.watches ∉ scheduler.ready :=
  fun member => Nat.lt_irrefl _ (punctual.told _ _ member).2

theorem punctual_beginWatch (punctual : scheduler.Punctual) (jobs : List Nat) :
    (scheduler.beginWatch jobs).Punctual := by
  have begun : Punctual { scheduler with
      client := .watching ⟨scheduler.watches, jobs, jobs, none⟩
      watches := scheduler.watches + 1 } := by
    refine { punctual with
      told := fun job number member => ?_
      released := fun number member => Nat.lt_succ_of_lt (punctual.released number member)
      current := fun watch same => ?_ }
    · obtain ⟨finished, less⟩ := punctual.told job number member
      exact ⟨finished, Nat.lt_succ_of_lt less⟩
    · cases same
      exact Nat.lt_succ_self _
  suffices pushed : ∀ (finished : List Nat) (begun : Scheduler), begun.Punctual →
      scheduler.watches < begun.watches → (∀ job ∈ finished, begun.hasFinished job = true) →
        (finished.foldl (fun begun job => begun.push (.noticed job scheduler.watches))
          begun).Punctual from
    pushed _ _ begun (Nat.lt_succ_self _) fun job member => (List.mem_filter.mp member).2
  intro finished
  induction finished with
  | nil => exact fun _ punctual _ _ => punctual
  | cons job rest induction =>
      intro begun punctual less done
      obtain ⟨here, later⟩ := List.forall_mem_cons.mp done
      refine induction _ ?_ less later
      refine punctual.push rfl (fun other number same => ?_) fun _ same => by cases same
      cases same
      exact ⟨here, less⟩

theorem waits_beginWatch (punctual : scheduler.Punctual) (watchable : Watchable jobs scheduler) :
    Waits jobs ⟨scheduler.watches, jobs, jobs, none⟩ (scheduler.beginWatch jobs) := by
  have settled : ∀ job ∈ jobs.filter scheduler.hasFinished, job ∈ scheduler.scheduled →
      .settled job ∈ scheduler.ready := by
    intro job member listed
    have due := punctual.due job listed
    rwa [next, if_pos (List.mem_filter.mp member).2] at due
  have before : Timely scheduler.watches scheduler.scheduled scheduler.ready := by
    intro front back job split _
    exact absurd (by rw [split]; simp) (punctual.not_noticed job)
  rw [beginWatch_eq]
  exact {
    client := rfl
    same := rfl
    undecided := rfl
    remains := watchable.some
    distinct := watchable.distinct
    within := fun _ member => member
    coming := by
      intro job member
      rcases watchable.live job member with finished | begins
      · refine .inr (List.mem_append_right _ (List.mem_map.mpr ⟨job, ?_, rfl⟩))
        exact List.mem_filter.mpr ⟨member, finished⟩
      · exact .inl (List.mem_append_left _ begins)
    unreleased := by
      intro member
      rcases List.mem_append.mp member with earlier | new
      · exact Nat.lt_irrefl _ (punctual.released _ earlier)
      · obtain ⟨job, -, same⟩ := List.mem_map.mp new
        cases same
    timely := before.append_noticed settled
    struck := fun _ member _ => member }

theorem weightsFor_le (absent : ∀ job, .noticed job number ∉ ready) :
    weightsFor number ready ≤ ready.length + 3 * ready.countP Wakeup.isPending := by
  induction ready with
  | nil => exact Nat.le_refl 0
  | cons wakeup rest induction =>
      have tail := induction fun job member => absent job (List.mem_cons_of_mem _ member)
      rw [weightsFor_cons, List.length_cons, List.countP_cons]
      cases wakeup with
      | noticed job watch =>
          have other : watch ≠ number := by
            rintro rfl
            exact absent job List.mem_cons_self
          simp only [weightFor, if_neg other, Wakeup.isPending, Bool.false_eq_true, if_false]
          omega
      | begin job =>
          simp only [weightFor, Wakeup.isPending, if_true]
          omega
      | _ =>
          simp only [weightFor, Wakeup.isPending, Bool.false_eq_true, if_false, if_true]
          omega

/-- There is not more to happen than a client that drives the wakeups allows for. -/
theorem weightsFor_beginWatch_le (punctual : scheduler.Punctual)
    (watchable : Watchable jobs scheduler) :
    weightsFor scheduler.watches (scheduler.beginWatch jobs).ready ≤
      8 * ((scheduler.beginWatch jobs).jobs + 1) + (scheduler.beginWatch jobs).ready.length := by
  have before := weightsFor_le punctual.not_noticed
  have few := punctual.few
  have most := watchable.length_le
  have fewer := List.length_filter_le scheduler.hasFinished jobs
  have new : ∀ finished : List Nat,
      weightsFor scheduler.watches
          (finished.map fun job => .noticed job scheduler.watches) = 2 * finished.length := by
    intro finished
    induction finished with
    | nil => rfl
    | cons job rest induction =>
        rw [List.map_cons, weightsFor_cons, induction, weightFor, if_pos rfl, List.length_cons]
        omega
  rw [beginWatch_eq]
  dsimp only
  rw [weightsFor_append, new, List.length_append, List.length_map]
  omega

end Scheduler

end ChatDispatch
