import ChatDispatch.Proofs.Scheduler.Turns
import ChatDispatch.Proofs.Table

/-!
# Punctual queues

Where plugins are read at once, the lock is never held while somebody else runs, and each job
finishes in the turn in which it begins.  `Punctual` is what the queue is like then: a scheduled
job is to begin, or has finished and is to be struck off.  Whichever wakeup comes first, the
queue stays so.
-/

namespace ChatDispatch

namespace Scheduler

def hasFinished (scheduler : Scheduler) (job : Nat) : Bool :=
  (scheduler.result? job).isSome

/-- What a scheduled job waits for: to begin, or to be struck off. -/
def next (scheduler : Scheduler) (job : Nat) : Wakeup :=
  if scheduler.hasFinished job then .settled job else .begin job

/-- No refresh has got further than to its beginning, and every scheduled job will be struck
off. -/
structure Punctual (scheduler : Scheduler) : Prop where
  free : scheduler.isFree = true
  early : ∀ wakeup ∈ scheduler.ready, wakeup.ofRefresh = true → ∃ job, wakeup = .begin job
  few : scheduler.ready.countP Wakeup.isPending ≤ scheduler.jobs
  begun : ∀ job, .begin job ∈ scheduler.ready → job < scheduler.jobs
  past : ∀ job, scheduler.hasFinished job = true → job < scheduler.jobs
  distinct : scheduler.scheduled.Nodup
  due : ∀ job ∈ scheduler.scheduled, scheduler.next job ∈ scheduler.ready
  told : ∀ job number, .noticed job number ∈ scheduler.ready →
    scheduler.hasFinished job = true ∧ number < scheduler.watches
  released : ∀ number, .released number ∈ scheduler.ready → number < scheduler.watches
  current : ∀ watch, scheduler.client = .watching watch → watch.number < scheduler.watches

/-- What a wakeup does to the schedule where plugins are read at once. -/
def advance (scheduler : Scheduler) (outcome : Except Fault Nat) : Wakeup → Scheduler
  | .begin job => scheduler.finish job outcome
  | .granted _ => scheduler
  | .answered _ => scheduler
  | .settled job => scheduler.settle job
  | .noticed job watch => scheduler.notice job watch
  | .released watch => scheduler.letGo watch

def behind (scheduler : Scheduler) (rest : List Wakeup) : Scheduler :=
  { scheduler with ready := rest }

variable {scheduler : Scheduler} {wakeup : Wakeup} {rest : List Wakeup}

theorem punctual_idle : idle.Punctual where
  free := rfl
  early := fun _ member => by cases member
  few := Nat.le_refl 0
  begun := fun _ member => by cases member
  past := fun _ finished => by cases finished
  distinct := List.nodup_nil
  due := fun _ member => by cases member
  told := fun _ _ member => by cases member
  released := fun _ member => by cases member
  current := fun _ watching => by cases watching

theorem Punctual.setClient (punctual : scheduler.Punctual) {client : ClientState}
    (current : ∀ watch, client = .watching watch → watch.number < scheduler.watches) :
    (scheduler.setClient client).Punctual :=
  ⟨punctual.free, punctual.early, punctual.few, punctual.begun, punctual.past,
    punctual.distinct, punctual.due, punctual.told, punctual.released, current⟩

theorem isPending_of_ofRefresh (other : wakeup.ofRefresh = false) : wakeup.isPending = false := by
  cases wakeup <;> first | rfl | cases other

/-- Something that concerns no refresh may be put into the queue. -/
theorem Punctual.push (punctual : scheduler.Punctual) (other : wakeup.ofRefresh = false)
    (told : ∀ job number, wakeup = .noticed job number →
      scheduler.hasFinished job = true ∧ number < scheduler.watches)
    (released : ∀ number, wakeup = .released number → number < scheduler.watches) :
    (scheduler.push wakeup).Punctual := by
  have mem {sought : Wakeup} (member : sought ∈ (scheduler.push wakeup).ready) :
      sought ∈ scheduler.ready ∨ sought = wakeup :=
    (List.mem_append.mp member).imp_right List.mem_singleton.mp
  refine ⟨punctual.free, ?_, ?_, ?_, punctual.past, punctual.distinct, ?_, ?_, ?_,
    punctual.current⟩
  · intro sought member ofRefresh
    rcases mem member with earlier | rfl
    · exact punctual.early sought earlier ofRefresh
    · cases other.symm.trans ofRefresh
  · have idle := isPending_of_ofRefresh other
    have few := punctual.few
    simpa [Scheduler.push, List.countP_append, idle] using few
  · intro job member
    rcases mem member with earlier | rfl
    · exact punctual.begun job earlier
    · cases other
  · exact fun job member => List.mem_append_left _ (punctual.due job member)
  · intro job number member
    rcases mem member with earlier | same
    · exact punctual.told job number earlier
    · exact told job number same.symm
  · intro number member
    rcases mem member with earlier | same
    · exact punctual.released number earlier
    · exact released number same.symm

theorem Punctual.lt_of_mem_scheduled (punctual : scheduler.Punctual) {job : Nat}
    (member : job ∈ scheduler.scheduled) : job < scheduler.jobs := by
  have due := punctual.due job member
  unfold next at due
  split at due
  · exact punctual.past job ‹_›
  · exact punctual.begun job due

theorem punctual_beginJob (punctual : scheduler.Punctual) : scheduler.beginJob.Punctual where
  free := punctual.free
  early := by
    intro wakeup member ofRefresh
    rcases List.mem_append.mp member with earlier | new
    · exact punctual.early wakeup earlier ofRefresh
    · exact ⟨scheduler.jobs, List.mem_singleton.mp new⟩
  few := by
    have few := punctual.few
    simpa [beginJob, push, Wakeup.isPending] using few
  begun := by
    intro job member
    rcases List.mem_append.mp member with earlier | new
    · exact Nat.lt_succ_of_lt (punctual.begun job earlier)
    · cases List.mem_singleton.mp new
      exact Nat.lt_succ_self _
  past := fun job finished => Nat.lt_succ_of_lt (punctual.past job finished)
  distinct := punctual.distinct
  due := fun job member => List.mem_append_left _ (punctual.due job member)
  told := by
    intro job number member
    rcases List.mem_append.mp member with earlier | new
    · exact punctual.told job number earlier
    · cases List.mem_singleton.mp new
  released := by
    intro number member
    rcases List.mem_append.mp member with earlier | new
    · exact punctual.released number earlier
    · cases List.mem_singleton.mp new
  current := punctual.current

theorem punctual_schedule (punctual : scheduler.Punctual) : scheduler.schedule.Punctual := by
  have begun := punctual_beginJob punctual
  have new : scheduler.jobs ∉ scheduler.scheduled := fun member =>
    Nat.lt_irrefl _ (punctual.lt_of_mem_scheduled member)
  refine ⟨begun.free, begun.early, begun.few, begun.begun, begun.past, ?_, ?_, begun.told,
    begun.released, begun.current⟩
  · refine List.nodup_append.mpr ⟨punctual.distinct, List.pairwise_singleton _ _, ?_⟩
    rintro job member other last rfl
    exact new (List.mem_singleton.mp last ▸ member)
  · intro job member
    rcases List.mem_append.mp member with earlier | last
    · exact begun.due job earlier
    · cases List.mem_singleton.mp last
      have unfinished : scheduler.schedule.hasFinished scheduler.jobs = false := by
        rw [Bool.eq_false_iff]
        intro finished
        exact Nat.lt_irrefl _ (punctual.past _ finished)
      rw [next, unfinished, if_neg Bool.false_ne_true]
      exact List.mem_append_right _ List.mem_cons_self

theorem punctual_beginJobs (punctual : scheduler.Punctual) (count : Nat) :
    (scheduler.beginJobs count).Punctual := by
  induction count generalizing scheduler with
  | zero => exact punctual
  | succ count induction => exact induction (punctual_beginJob punctual)

def wakesOf (scheduler : Scheduler) (job : Nat) : List Wakeup :=
  (if scheduler.scheduled.contains job then [.settled job] else []) ++
    (match scheduler.watchOver? job with
    | some watch => [.noticed job watch.number]
    | none => [])

theorem finish_eq (scheduler : Scheduler) (job : Nat) (outcome : Except Fault Nat) :
    scheduler.finish job outcome =
      { scheduler with
        results := scheduler.results ++ [(job, outcome)]
        ready := scheduler.ready ++ scheduler.wakesOf job } := by
  unfold finish wakesOf
  cases scheduler.scheduled.contains job <;> cases scheduler.watchOver? job <;> simp [push]

theorem hasFinished_finish (scheduler : Scheduler) (job other : Nat)
    (outcome : Except Fault Nat) :
    (scheduler.finish job outcome).hasFinished other =
      (scheduler.hasFinished other || job == other) := by
  rw [finish_eq, hasFinished, result?, Table.lookup_append, hasFinished, result?]
  cases Table.lookup other scheduler.results with
  | some found => rfl
  | none => cases same : job == other <;> simp [Table.lookup, same]

theorem mem_wakesOf {job : Nat} (member : wakeup ∈ scheduler.wakesOf job) :
    wakeup = .settled job ∨
      ∃ watch, scheduler.client = .watching watch ∧ wakeup = .noticed job watch.number := by
  unfold wakesOf watchOver? at member
  rcases List.mem_append.mp member with settled | noticed
  · split at settled
    · exact .inl (List.mem_singleton.mp settled)
    · cases settled
  · right
    cases client : scheduler.client with
    | watching watch =>
        rw [client] at noticed
        dsimp only at noticed
        split at noticed
        · rename_i seen found
          split at found
          · cases found
            exact ⟨_, rfl, List.mem_singleton.mp noticed⟩
          · cases found
        · cases noticed
    | _ =>
        rw [client] at noticed
        cases noticed

theorem ofRefresh_of_mem_wakesOf {job : Nat} (member : wakeup ∈ scheduler.wakesOf job) :
    wakeup.ofRefresh = false := by
  rcases mem_wakesOf member with rfl | ⟨watch, -, rfl⟩ <;> rfl

/-- A job that has finished is to be struck off, and nothing else becomes of any job. -/
theorem next_finish (scheduler : Scheduler) (job other : Nat) (outcome : Except Fault Nat) :
    (scheduler.finish job outcome).next other =
      if job = other then .settled other else scheduler.next other := by
  unfold next
  rw [hasFinished_finish]
  by_cases same : job = other
  · rw [beq_iff_eq.mpr same, Bool.or_true, if_pos rfl, if_pos same]
  · rw [beq_eq_false_iff_ne.mpr same, Bool.or_false, if_neg same]

/-- What scheduled jobs wait for is in the queue after one job has finished. -/
theorem Punctual.due_finish (punctual : scheduler.Punctual) {job : Nat}
    (ready : scheduler.ready = .begin job :: rest) (outcome : Except Fault Nat) :
    ∀ other ∈ scheduler.scheduled,
      ((scheduler.behind rest).finish job outcome).next other ∈
        rest ++ scheduler.wakesOf job := by
  intro other member
  have due := punctual.due other member
  rw [next_finish]
  split
  · rename_i same
    subst same
    refine List.mem_append_right _ (List.mem_append_left _ ?_)
    rw [if_pos (List.contains_iff_mem.mpr member)]
    exact List.mem_cons_self
  · rename_i apart
    rw [ready] at due
    refine List.mem_append_left _ ((List.mem_cons.mp due).resolve_left ?_)
    unfold next
    split
    · simp
    · exact fun begins => apart (Wakeup.begin.inj begins).symm

/-- A watch is only told about jobs that have finished, also when one more job has. -/
theorem Punctual.told_finish (punctual : scheduler.Punctual) {job : Nat}
    (ready : scheduler.ready = .begin job :: rest) (outcome : Except Fault Nat) :
    ∀ other number, .noticed other number ∈ rest ++ scheduler.wakesOf job →
      ((scheduler.behind rest).finish job outcome).hasFinished other = true ∧
        number < scheduler.watches := by
  intro other number member
  rw [hasFinished_finish, Bool.or_eq_true]
  rcases List.mem_append.mp member with earlier | woken
  · have told := punctual.told other number (by rw [ready]; exact List.mem_cons_of_mem _ earlier)
    exact ⟨.inl told.1, told.2⟩
  · rcases mem_wakesOf woken with settled | ⟨watch, watching, noticed⟩
    · cases settled
    · cases noticed
      exact ⟨.inr (beq_self_eq_true _), punctual.current watch watching⟩

theorem punctual_begin (punctual : scheduler.Punctual) {job : Nat}
    (ready : scheduler.ready = .begin job :: rest) (outcome : Except Fault Nat) :
    ((scheduler.behind rest).finish job outcome).Punctual := by
  have wakes : (scheduler.behind rest).wakesOf job = scheduler.wakesOf job := rfl
  have ofRest {sought : Wakeup} (member : sought ∈ rest) : sought ∈ scheduler.ready := by
    rw [ready]
    exact List.mem_cons_of_mem _ member
  have finished (other : Nat) :
      ((scheduler.behind rest).finish job outcome).hasFinished other =
        (scheduler.hasFinished other || job == other) :=
    hasFinished_finish _ _ _ _
  have known : job < scheduler.jobs := punctual.begun job (by rw [ready]; exact List.mem_cons_self)
  have due := punctual.due_finish ready outcome
  have told := punctual.told_finish ready outcome
  rw [finish_eq] at finished due told ⊢
  rw [wakes] at finished due told ⊢
  exact {
    free := punctual.free
    early := by
      intro sought member ofRefresh
      rcases List.mem_append.mp member with earlier | woken
      · exact punctual.early sought (ofRest earlier) ofRefresh
      · cases (ofRefresh_of_mem_wakesOf woken).symm.trans ofRefresh
    few := by
      have few := punctual.few
      have idle : (scheduler.wakesOf job).countP Wakeup.isPending = 0 := by
        rw [List.countP_eq_zero]
        intro sought woken
        simp [isPending_of_ofRefresh (ofRefresh_of_mem_wakesOf woken)]
      rw [ready, List.countP_cons] at few
      change (rest ++ scheduler.wakesOf job).countP Wakeup.isPending ≤ scheduler.jobs
      rw [List.countP_append, idle]
      omega
    begun := by
      intro other member
      rcases List.mem_append.mp member with earlier | woken
      · exact punctual.begun other (ofRest earlier)
      · cases ofRefresh_of_mem_wakesOf woken
    past := by
      intro other done
      rw [finished, Bool.or_eq_true] at done
      rcases done with before | same
      · exact punctual.past other before
      · exact eq_of_beq same ▸ known
    distinct := punctual.distinct
    due := due
    told := told
    released := by
      intro number member
      rcases List.mem_append.mp member with earlier | woken
      · exact punctual.released number (ofRest earlier)
      · rcases mem_wakesOf woken with settled | ⟨watch, -, noticed⟩
        · cases settled
        · cases noticed
    current := punctual.current }

/-- A wakeup that nobody is due to wait for may be taken out of the queue. -/
theorem Punctual.behind (punctual : scheduler.Punctual)
    (ready : scheduler.ready = wakeup :: rest)
    (idle : ∀ job ∈ scheduler.scheduled, scheduler.next job ≠ wakeup) :
    (scheduler.behind rest).Punctual := by
  have ofRest {sought : Wakeup} (member : sought ∈ rest) : sought ∈ scheduler.ready := by
    rw [ready]
    exact List.mem_cons_of_mem _ member
  exact {
    free := punctual.free
    early := fun sought member => punctual.early sought (ofRest member)
    few := by
      have few := punctual.few
      rw [ready, List.countP_cons] at few
      exact Nat.le_trans (Nat.le_add_right _ _) few
    begun := fun job member => punctual.begun job (ofRest member)
    past := punctual.past
    distinct := punctual.distinct
    due := by
      intro job member
      have due := punctual.due job member
      rw [ready] at due
      exact (List.mem_cons.mp due).resolve_left (idle job member)
    told := fun job number member => punctual.told job number (ofRest member)
    released := fun number member => punctual.released number (ofRest member)
    current := punctual.current }

theorem punctual_settle (punctual : scheduler.Punctual) {job : Nat}
    (ready : scheduler.ready = .settled job :: rest) :
    ((scheduler.behind rest).settle job).Punctual := by
  have struck : (scheduler.settle job).Punctual := by
    refine { punctual with
      distinct := punctual.distinct.erase job
      due := fun other member => punctual.due other (List.mem_of_mem_erase member) }
  refine struck.behind ready ?_
  intro other member waits
  have apart : other ≠ job := (punctual.distinct.mem_erase_iff.mp member).1
  unfold next at waits
  split at waits
  · exact apart (Wakeup.settled.inj waits)
  · cases waits

theorem punctual_endWatch (punctual : scheduler.Punctual) {watch : Watch}
    (number : watch.number < scheduler.watches) (outcome : Except Fault Unit) :
    (scheduler.endWatch watch outcome).Punctual := by
  have changed : (scheduler.setClient
      (.watching { watch with outcome := some outcome })).Punctual := by
    refine punctual.setClient fun other same => ?_
    cases same
    exact number
  refine changed.push rfl (fun _ _ noticed => by cases noticed) fun other released => ?_
  cases released
  exact number

theorem client_of_watchNumbered? {number : Nat} {watch : Watch}
    (found : scheduler.watchNumbered? number = some watch) :
    scheduler.client = .watching watch ∧ watch.number = number := by
  unfold watchNumbered? at found
  split at found
  · rename_i current client
    split at found
    · cases found
      exact ⟨client, ‹_›⟩
    · cases found
  · cases found

theorem punctual_notice (punctual : scheduler.Punctual) (job number : Nat) :
    (scheduler.notice job number).Punctual := by
  unfold notice
  split
  · exact punctual
  · rename_i watch found
    obtain ⟨client, -⟩ := client_of_watchNumbered? found
    have less := punctual.current watch client
    split
    · exact punctual_endWatch punctual less _
    · dsimp only
      split
      · refine punctual_endWatch punctual ?_ _
        exact less
      · refine punctual.setClient fun other same => ?_
        cases same
        exact less
    · exact punctual

theorem punctual_letGo (punctual : scheduler.Punctual) (number : Nat) :
    (scheduler.letGo number).Punctual := by
  unfold letGo
  split
  · exact punctual
  · exact punctual.setClient fun _ same => by cases same

theorem punctual_advance (punctual : scheduler.Punctual)
    (ready : scheduler.ready = wakeup :: rest) (outcome : Except Fault Nat) :
    ((scheduler.behind rest).advance outcome wakeup).Punctual := by
  have first : wakeup ∈ scheduler.ready := by
    rw [ready]
    exact List.mem_cons_self
  have apart {sought : Wakeup} (notSettled : ∀ job, sought ≠ .settled job)
      (notBegun : ∀ job, sought ≠ .begin job) :
      ∀ job ∈ scheduler.scheduled, scheduler.next job ≠ sought := by
    intro job _
    unfold next
    split
    · exact (notSettled job).symm
    · exact (notBegun job).symm
  cases wakeup with
  | begin job => exact punctual_begin punctual ready outcome
  | granted party =>
      obtain ⟨job, same⟩ := punctual.early _ first rfl
      cases same
  | answered party =>
      obtain ⟨job, same⟩ := punctual.early _ first rfl
      cases same
  | settled job => exact punctual_settle punctual ready
  | noticed job number =>
      exact punctual_notice (punctual.behind ready (apart (by simp) (by simp))) job number
  | released number =>
      exact punctual_letGo (punctual.behind ready (apart (by simp) (by simp))) number

/-- A client that waits for nothing is not concerned by a wakeup. -/
theorem client_advance (resting : scheduler.isSuspended = false) (outcome : Except Fault Nat)
    (wakeup : Wakeup) : (scheduler.advance outcome wakeup).client = scheduler.client := by
  have unwatched : scheduler.Unwatched := by
    intro watch watching
    rw [isSuspended, watching] at resting
    cases resting
  cases wakeup with
  | begin job => rw [advance, finish_eq]
  | granted party => rfl
  | answered party => rfl
  | settled job => rfl
  | noticed job number => rw [advance, notice, watchNumbered?_of_unwatched unwatched]
  | released number => rw [advance, letGo, watchNumbered?_of_unwatched unwatched]

end Scheduler

end ChatDispatch
