import ChatDispatch.Scheduler

/-!
# The lock of the refreshes

Whoever holds the lock waits for the source to answer, and while nobody holds it, it is on its
way to the first of those who wait.  `Orderly` says this of the queue: there is one answer for
a lock that is held, and one grant for a lock that others wait for.  So refreshes run one at a
time, and none is stuck: when no wakeup of a refresh is left, the lock is free.
-/

namespace ChatDispatch

namespace Wakeup

/-- Whether a refresh goes on with a wakeup. -/
def ofRefresh : Wakeup → Bool
  | .begin _ => true
  | .granted _ => true
  | .answered _ => true
  | _ => false

def isGrant : Wakeup → Bool
  | .granted _ => true
  | _ => false

/-- Whether a wakeup is an answer of the source. -/
def isAnswer : Wakeup → Bool
  | .answered _ => true
  | _ => false

end Wakeup

namespace Scheduler

/-- No refresh goes on or is about to begin. -/
def Idle (scheduler : Scheduler) : Prop :=
  ∀ wakeup ∈ scheduler.ready, wakeup.ofRefresh = false

instance (scheduler : Scheduler) : Decidable scheduler.Idle :=
  inferInstanceAs (Decidable (∀ wakeup ∈ scheduler.ready, wakeup.ofRefresh = false))

/-- A lock that is held is about to be released, and one that others wait for is about to be
granted, each by one wakeup. -/
structure Orderly (scheduler : Scheduler) : Prop where
  answers : scheduler.ready.countP Wakeup.isAnswer = scheduler.held.toNat
  grants :
    scheduler.ready.countP Wakeup.isGrant =
      (!scheduler.held && !scheduler.waiting.isEmpty).toNat

/-- A refresh is about to begin, or waits for the lock. -/
def Underway (scheduler : Scheduler) : Prop :=
  (∃ job, .begin job ∈ scheduler.ready) ∨ scheduler.waiting ≠ []

/-- Some wakeup in the queue happens; these are before and after it. -/
def take (scheduler : Scheduler) (front back : List Wakeup) : Scheduler :=
  { scheduler with ready := front ++ back }

/-- A change of the schedule that concerns no refresh. -/
structure Tends (before after : Scheduler) : Prop where
  held : after.held = before.held
  waiting : after.waiting = before.waiting
  ready : after.ready.filter Wakeup.ofRefresh = before.ready.filter Wakeup.ofRefresh

variable {scheduler before middle after : Scheduler} {front back : List Wakeup} {party : Party}

theorem isFree_iff : scheduler.isFree = true ↔ scheduler.held = false ∧ scheduler.waiting = [] := by
  simp [isFree]

theorem countP_isGrant_of_filter (wakeups : List Wakeup) :
    (wakeups.filter Wakeup.ofRefresh).countP Wakeup.isGrant = wakeups.countP Wakeup.isGrant := by
  rw [List.countP_filter]
  apply List.countP_congr
  intro wakeup _
  cases wakeup <;> simp [Wakeup.isGrant, Wakeup.ofRefresh]

theorem countP_isAnswer_of_filter (wakeups : List Wakeup) :
    (wakeups.filter Wakeup.ofRefresh).countP Wakeup.isAnswer =
      wakeups.countP Wakeup.isAnswer := by
  rw [List.countP_filter]
  apply List.countP_congr
  intro wakeup _
  cases wakeup <;> simp [Wakeup.isAnswer, Wakeup.ofRefresh]

namespace Tends

theorem refl (scheduler : Scheduler) : Tends scheduler scheduler :=
  ⟨rfl, rfl, rfl⟩

theorem trans (first : Tends before middle) (second : Tends middle after) :
    Tends before after where
  held := second.held.trans first.held
  waiting := second.waiting.trans first.waiting
  ready := second.ready.trans first.ready

theorem orderly (tends : Tends before after) (orderly : before.Orderly) : after.Orderly where
  answers := by
    rw [← countP_isAnswer_of_filter, tends.ready, countP_isAnswer_of_filter, tends.held]
    exact orderly.answers
  grants := by
    rw [← countP_isGrant_of_filter, tends.ready, countP_isGrant_of_filter, tends.held,
      tends.waiting]
    exact orderly.grants

theorem mem_ready (tends : Tends before after) {wakeup : Wakeup}
    (ofRefresh : wakeup.ofRefresh = true) :
    wakeup ∈ after.ready ↔ wakeup ∈ before.ready := by
  have filtered (wakeups : List Wakeup) :
      wakeup ∈ wakeups.filter Wakeup.ofRefresh ↔ wakeup ∈ wakeups := by
    simp [List.mem_filter, ofRefresh]
  rw [← filtered, tends.ready, filtered]

end Tends

theorem tends_push (scheduler : Scheduler) {wakeup : Wakeup}
    (other : wakeup.ofRefresh = false) : Tends scheduler (scheduler.push wakeup) :=
  ⟨rfl, rfl, by simp [push, List.filter_append, other]⟩

theorem tends_setClient (scheduler : Scheduler) (client : ClientState) :
    Tends scheduler (scheduler.setClient client) :=
  ⟨rfl, rfl, rfl⟩

theorem tends_settle (scheduler : Scheduler) (job : Nat) : Tends scheduler (scheduler.settle job) :=
  ⟨rfl, rfl, rfl⟩

theorem tends_endWatch (scheduler : Scheduler) (watch : Watch) (outcome : Except Fault Unit) :
    Tends scheduler (scheduler.endWatch watch outcome) :=
  (tends_setClient scheduler _).trans (tends_push _ rfl)

theorem tends_notice (scheduler : Scheduler) (job number : Nat) :
    Tends scheduler (scheduler.notice job number) := by
  unfold notice
  split
  · exact .refl scheduler
  · split
    · exact tends_endWatch scheduler _ _
    · dsimp only
      split
      · exact tends_endWatch scheduler _ _
      · exact tends_setClient scheduler _
    · exact .refl scheduler

theorem tends_letGo (scheduler : Scheduler) (number : Nat) :
    Tends scheduler (scheduler.letGo number) := by
  unfold letGo
  split
  · exact .refl scheduler
  · exact tends_setClient scheduler _

theorem tends_finish (scheduler : Scheduler) (job : Nat) (outcome : Except Fault Nat) :
    Tends scheduler (scheduler.finish job outcome) := by
  have noted :
      Tends scheduler { scheduler with results := scheduler.results ++ [(job, outcome)] } :=
    ⟨rfl, rfl, rfl⟩
  have settling : Tends scheduler
      (if scheduler.scheduled.contains job then
        push { scheduler with results := scheduler.results ++ [(job, outcome)] } (.settled job)
      else { scheduler with results := scheduler.results ++ [(job, outcome)] }) := by
    split
    · exact noted.trans (tends_push _ rfl)
    · exact noted
  unfold finish
  dsimp only
  split
  · exact settling.trans (tends_push _ rfl)
  · exact settling

theorem tends_tell (scheduler : Scheduler) (party : Party) (outcome : Except Fault Nat) :
    Tends scheduler (scheduler.tell party outcome) := by
  cases party with
  | client => exact tends_setClient scheduler _
  | job job => exact tends_finish scheduler job outcome

theorem tends_beginWatch (scheduler : Scheduler) (jobs : List Nat) :
    Tends scheduler (scheduler.beginWatch jobs) := by
  suffices noticed : ∀ (finished : List Nat) (number : Nat) (begun : Scheduler),
      Tends begun
        (finished.foldl (fun scheduler job => scheduler.push (.noticed job number)) begun) by
    have begun : Tends scheduler
        { scheduler with
          client := .watching ⟨scheduler.watches, jobs, jobs, none⟩
          watches := scheduler.watches + 1 } :=
      ⟨rfl, rfl, rfl⟩
    exact begun.trans (noticed _ _ _)
  intro finished number
  induction finished with
  | nil => exact Tends.refl
  | cons job rest induction =>
      intro begun
      exact (tends_push begun rfl).trans (induction _)

theorem tends_take {wakeup : Wakeup} (ready : scheduler.ready = front ++ wakeup :: back)
    (other : wakeup.ofRefresh = false) : Tends scheduler (scheduler.take front back) :=
  ⟨rfl, rfl, by simp [take, ready, other]⟩

theorem orderly_begins (orderly : before.Orderly) (held : after.held = before.held)
    (waiting : after.waiting = before.waiting) {begun : List Nat}
    (ready : after.ready = before.ready ++ begun.map .begin) : after.Orderly where
  answers := by
    rw [ready, List.countP_append, orderly.answers, held]
    simp [List.countP_map, Function.comp_def, Wakeup.isAnswer]
  grants := by
    rw [ready, List.countP_append, orderly.grants, held, waiting]
    simp [List.countP_map, Function.comp_def, Wakeup.isGrant]

theorem orderly_take_begin (orderly : scheduler.Orderly) {job : Nat}
    (ready : scheduler.ready = front ++ .begin job :: back) :
    (scheduler.take front back).Orderly where
  answers := by
    have answers := orderly.answers
    rw [ready] at answers
    simpa [take, Wakeup.isAnswer] using answers
  grants := by
    have grants := orderly.grants
    rw [ready] at grants
    simpa [take, Wakeup.isGrant] using grants

theorem orderly_ask (orderly : scheduler.Orderly) (free : scheduler.isFree = true)
    (party : Party) : (scheduler.hold.push (.answered party)).Orderly where
  answers := by
    obtain ⟨unheld, -⟩ := isFree_iff.mp free
    have answers := orderly.answers
    rw [unheld] at answers
    simp [hold, push, answers, Wakeup.isAnswer]
  grants := by
    obtain ⟨unheld, nobody⟩ := isFree_iff.mp free
    have grants := orderly.grants
    rw [unheld, nobody] at grants
    simp [hold, push, grants, Wakeup.isGrant]

theorem orderly_enqueue (orderly : scheduler.Orderly) (busy : scheduler.isFree = false)
    (party : Party) : (scheduler.enqueue party).Orderly where
  answers := orderly.answers
  grants := by
    have grants := orderly.grants
    simp only [isFree, Bool.and_eq_false_iff, Bool.not_eq_false'] at busy
    cases held : scheduler.held with
    | true => simpa [enqueue, held] using grants
    | false =>
        have some : scheduler.waiting.isEmpty = false := by simpa [held] using busy
        have more : (scheduler.waiting ++ [party]).isEmpty = false := by simp
        simpa only [enqueue, held, some, more] using grants

/-- The lock is only granted while nobody holds it and somebody waits. -/
theorem of_mem_granted (orderly : scheduler.Orderly) (granted : .granted party ∈ scheduler.ready) :
    scheduler.held = false ∧ scheduler.waiting ≠ [] := by
  have some : 0 < scheduler.ready.countP Wakeup.isGrant :=
    List.countP_pos_iff.mpr ⟨_, granted, rfl⟩
  rw [orderly.grants] at some
  cases held : scheduler.held <;> cases waiting : scheduler.waiting <;> simp_all

theorem held_of_mem_answered (orderly : scheduler.Orderly)
    (answered : .answered party ∈ scheduler.ready) : scheduler.held = true := by
  have some : 0 < scheduler.ready.countP Wakeup.isAnswer :=
    List.countP_pos_iff.mpr ⟨_, answered, rfl⟩
  rw [orderly.answers] at some
  cases held : scheduler.held with
  | true => rfl
  | false => simp [held] at some

theorem orderly_grant (orderly : scheduler.Orderly)
    (ready : scheduler.ready = front ++ .granted party :: back) :
    (((scheduler.take front back).grant party).push (.answered party)).Orderly := by
  have granted : .granted party ∈ scheduler.ready := by simp [ready]
  obtain ⟨unheld, waiting⟩ := of_mem_granted orderly granted
  have answers := orderly.answers
  have grants := orderly.grants
  rw [ready, unheld] at answers grants
  constructor
  · simp only [List.countP_append, List.countP_cons, Wakeup.isAnswer, Bool.false_eq_true,
      if_false, Bool.toNat_false, Nat.add_zero] at answers
    simp only [push, grant, hold, take, List.countP_append, List.countP_cons, List.countP_nil,
      Wakeup.isAnswer, if_true, Bool.toNat_true]
    omega
  · simp only [List.countP_append, List.countP_cons, Wakeup.isGrant, if_true] at grants
    simp only [push, grant, hold, take, List.countP_append, List.countP_cons, List.countP_nil,
      Wakeup.isGrant, Bool.false_eq_true, if_false, Bool.not_true, Bool.false_and,
      Bool.toNat_false]
    have most := Bool.toNat_le (!false && !scheduler.waiting.isEmpty)
    omega

theorem release_waiting (scheduler : Scheduler) :
    scheduler.release.waiting = scheduler.waiting := by
  unfold release
  split <;> rfl

theorem release_held (scheduler : Scheduler) : scheduler.release.held = false := by
  unfold release
  split <;> rfl

theorem mem_release_of_mem {wakeup : Wakeup} (member : wakeup ∈ scheduler.ready) :
    wakeup ∈ scheduler.release.ready := by
  unfold release
  split
  · exact member
  · exact List.mem_append_left _ member

theorem release_hold_of_isFree (free : scheduler.isFree = true) :
    scheduler.hold.release = scheduler := by
  obtain ⟨unheld, nobody⟩ := isFree_iff.mp free
  cases scheduler
  simp_all [release, hold]

theorem orderly_release (orderly : scheduler.Orderly)
    (ready : scheduler.ready = front ++ .answered party :: back) :
    (scheduler.take front back).release.Orderly := by
  have answered : .answered party ∈ scheduler.ready := by simp [ready]
  have held := held_of_mem_answered orderly answered
  have answers := orderly.answers
  have grants := orderly.grants
  rw [ready, held] at answers grants
  simp only [List.countP_append, List.countP_cons, Wakeup.isAnswer, Wakeup.isGrant, if_true,
    Bool.toNat_true, Bool.false_eq_true, if_false, Bool.not_true, Bool.false_and,
    Bool.toNat_false, Nat.add_zero] at answers grants
  unfold release take
  cases waiting : scheduler.waiting with
  | nil =>
      constructor
      · simp only [List.countP_append, Bool.toNat_false]
        omega
      · simpa [waiting] using grants
  | cons first rest =>
      constructor
      · simp only [push, List.countP_append, List.countP_cons, List.countP_nil, Wakeup.isAnswer,
          Bool.false_eq_true, if_false, Bool.toNat_false]
        omega
      · simp only [push, List.countP_append, List.countP_cons, List.countP_nil, Wakeup.isGrant,
          if_true, List.isEmpty_cons, Bool.not_false, Bool.and_self, Bool.toNat_true]
        omega

/-- No refresh is stuck: the lock is free when none can go on. -/
theorem isFree_of_idle (orderly : scheduler.Orderly) (idle : scheduler.Idle) :
    scheduler.isFree = true := by
  have noAnswer : scheduler.ready.countP Wakeup.isAnswer = 0 := by
    rw [List.countP_eq_zero]
    intro wakeup member
    have other := idle wakeup member
    cases wakeup <;> simp_all [Wakeup.isAnswer, Wakeup.ofRefresh]
  have noGrant : scheduler.ready.countP Wakeup.isGrant = 0 := by
    rw [List.countP_eq_zero]
    intro wakeup member
    have other := idle wakeup member
    cases wakeup <;> simp_all [Wakeup.isGrant, Wakeup.ofRefresh]
  have unheld : scheduler.held = false := by
    have answers := orderly.answers
    rw [noAnswer] at answers
    simpa using answers.symm
  have nobody : scheduler.waiting = [] := by
    have grants := orderly.grants
    rw [noGrant, unheld] at grants
    simpa using grants.symm
  exact isFree_iff.mpr ⟨unheld, nobody⟩

end Scheduler

end ChatDispatch
