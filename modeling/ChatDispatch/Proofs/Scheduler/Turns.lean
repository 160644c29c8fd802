import ChatDispatch.Proofs.Scheduler

/-!
# Every refresh gets its turn

A turn is what happens to the schedule when one wakeup does: a job begins and waits for the lock
or asks the source, a party that waited asks the source, or the source answers and the lock is
released.  A wakeup that reads plugins at once takes two turns.

There is only so much that the wakeups of a schedule can lead to.  Its `load` decreases with
every turn, and no refresh is lost on the way, so a client that waits for its own refresh is
told the outcome in the end.
-/

namespace ChatDispatch

/-- How much a wakeup leads to at most, itself included. -/
def Wakeup.weight : Wakeup → Nat
  | .begin _ => 4
  | .answered _ => 3
  | _ => 1

/-- Whether a refresh goes on with a wakeup without having waited for the lock. -/
def Wakeup.isPending : Wakeup → Bool
  | .begin _ => true
  | .answered _ => true
  | _ => false

def Wakeup.weights : List Wakeup → Nat
  | [] => 0
  | wakeup :: rest => wakeup.weight + weights rest

theorem Wakeup.weights_append (front back : List Wakeup) :
    weights (front ++ back) = weights front + weights back := by
  induction front with
  | nil => exact (Nat.zero_add _).symm
  | cons wakeup rest induction =>
      rw [List.cons_append, weights, weights, induction, Nat.add_assoc]

namespace Scheduler

/-- How much the schedule leads to at most, as long as nobody begins another refresh. -/
def load (scheduler : Scheduler) : Nat :=
  Wakeup.weights scheduler.ready + 3 * scheduler.waiting.length

/-- The number of refreshes that have not come to their end. -/
def unfinished (scheduler : Scheduler) : Nat :=
  scheduler.ready.countP Wakeup.isPending + scheduler.waiting.length

/-- The number of refreshes that the client waits for. -/
def ofClient (scheduler : Scheduler) : Nat :=
  match scheduler.client with
  | .refreshing => 1
  | _ => 0

def Unwatched (scheduler : Scheduler) : Prop :=
  ∀ watch, scheduler.client ≠ .watching watch

/-- The client waits for its refresh, which waits for the lock or for the source. -/
structure Awaits (scheduler : Scheduler) : Prop where
  refreshing : scheduler.client = .refreshing
  underway : .client ∈ scheduler.waiting ∨ .answered .client ∈ scheduler.ready

/-- The lock is only granted to those who wait for it, and a refresh that has not come to its
end is one of a job or of the client. -/
structure Served (scheduler : Scheduler) : Prop where
  orderly : scheduler.Orderly
  granted : ∀ party, .granted party ∈ scheduler.ready → party ∈ scheduler.waiting
  accounted : scheduler.unfinished ≤ scheduler.jobs + scheduler.ofClient

/-- All that a wakeup can do to the schedule while the client watches no jobs. -/
inductive Turn (before : Scheduler) : Scheduler → Prop where
  /-- A job begins its refresh and has to wait for the lock. -/
  | waits {front back : List Wakeup} {job : Nat}
      (ready : before.ready = front ++ .begin job :: back) (busy : before.isFree = false) :
      Turn before ((before.take front back).enqueue (.job job))
  /-- A job begins its refresh with the lock, and asks the source. -/
  | asks {front back : List Wakeup} {job : Nat}
      (ready : before.ready = front ++ .begin job :: back) (free : before.isFree = true) :
      Turn before ((before.take front back).hold.push (.answered (.job job)))
  /-- A party that waited gets the lock, and asks the source. -/
  | grants {front back : List Wakeup} {party : Party}
      (ready : before.ready = front ++ .granted party :: back) :
      Turn before (((before.take front back).grant party).push (.answered party))
  /-- The source has answered, and the refresh ends. -/
  | answers {front back : List Wakeup} {party : Party}
      (ready : before.ready = front ++ .answered party :: back)
      (outcome : Except Fault Nat) :
      Turn before ((before.take front back).release.tell party outcome)
  /-- No refresh is concerned. -/
  | passes {front back : List Wakeup} {wakeup : Wakeup}
      (ready : before.ready = front ++ wakeup :: back) (other : wakeup.ofRefresh = false)
      (scheduled : List Nat) :
      Turn before { before.take front back with scheduled }

variable {scheduler before after : Scheduler} {party : Party}

theorem load_le (scheduler : Scheduler) :
    scheduler.load ≤ scheduler.ready.length + 3 * scheduler.unfinished := by
  have wakeups (ready : List Wakeup) :
      Wakeup.weights ready ≤ ready.length + 3 * ready.countP Wakeup.isPending := by
    induction ready with
    | nil => simp [Wakeup.weights]
    | cons wakeup rest induction =>
        cases wakeup <;>
          simp only [Wakeup.weights, List.length_cons, List.countP_cons, Wakeup.weight,
            Wakeup.isPending, if_true, Bool.false_eq_true, if_false] <;>
          omega
  have bound := wakeups scheduler.ready
  simp only [load, unfinished]
  omega

theorem load_push (scheduler : Scheduler) (wakeup : Wakeup) :
    (scheduler.push wakeup).load = scheduler.load + wakeup.weight := by
  simp only [load, push, Wakeup.weights_append, Wakeup.weights]
  omega

theorem load_release (scheduler : Scheduler) : scheduler.release.load ≤ scheduler.load + 1 := by
  unfold release
  split
  · exact Nat.le_succ _
  · exact Nat.le_of_eq (load_push { scheduler with held := false } _)

theorem client_release (scheduler : Scheduler) : scheduler.release.client = scheduler.client := by
  unfold release
  split <;> rfl

theorem jobs_release (scheduler : Scheduler) : scheduler.release.jobs = scheduler.jobs := by
  unfold release
  split <;> rfl

theorem watchOver?_of_unwatched (unwatched : scheduler.Unwatched) (job : Nat) :
    scheduler.watchOver? job = none := by
  unfold watchOver?
  split
  · rename_i watch watching
    exact absurd watching (unwatched watch)
  · rfl

theorem watchNumbered?_of_unwatched (unwatched : scheduler.Unwatched) (number : Nat) :
    scheduler.watchNumbered? number = none := by
  unfold watchNumbered?
  split
  · rename_i watch watching
    exact absurd watching (unwatched watch)
  · rfl

theorem load_tell (unwatched : scheduler.Unwatched) (party : Party)
    (outcome : Except Fault Nat) : (scheduler.tell party outcome).load ≤ scheduler.load + 1 := by
  cases party with
  | client => exact Nat.le_succ _
  | job job =>
      simp only [tell, finish, watchOver?_of_unwatched unwatched]
      split
      · let noted := { scheduler with results := scheduler.results ++ [(job, outcome)] }
        exact Nat.le_of_eq (load_push noted _)
      · exact Nat.le_succ _

theorem client_tell_job (scheduler : Scheduler) (job : Nat) (outcome : Except Fault Nat) :
    (scheduler.tell (.job job) outcome).client = scheduler.client := by
  simp only [tell, finish]
  split <;> split <;> rfl

theorem jobs_tell (scheduler : Scheduler) (party : Party) (outcome : Except Fault Nat) :
    (scheduler.tell party outcome).jobs = scheduler.jobs := by
  cases party with
  | client => rfl
  | job job =>
      simp only [tell, finish]
      split <;> split <;> rfl

theorem unfinished_of_tends (tends : Tends before after) :
    after.unfinished = before.unfinished := by
  have pending (wakeups : List Wakeup) :
      (wakeups.filter Wakeup.ofRefresh).countP Wakeup.isPending =
        wakeups.countP Wakeup.isPending := by
    rw [List.countP_filter]
    apply List.countP_congr
    intro wakeup _
    cases wakeup <;> simp [Wakeup.isPending, Wakeup.ofRefresh]
  rw [unfinished, ← pending, tends.ready, pending, tends.waiting, unfinished]

theorem unfinished_release (scheduler : Scheduler) :
    scheduler.release.unfinished = scheduler.unfinished := by
  unfold release
  split
  · rfl
  · simp [unfinished, push, List.countP_append, Wakeup.isPending]

theorem load_take {front back : List Wakeup} {wakeup : Wakeup}
    (ready : scheduler.ready = front ++ wakeup :: back) :
    scheduler.load = (scheduler.take front back).load + wakeup.weight := by
  simp only [load, take, ready, Wakeup.weights_append, Wakeup.weights]
  omega

theorem mem_of_mem_take {front back : List Wakeup} {wakeup other : Wakeup}
    (ready : scheduler.ready = front ++ wakeup :: back)
    (member : other ∈ (scheduler.take front back).ready) : other ∈ scheduler.ready := by
  rw [ready]
  exact List.mem_append.mpr ((List.mem_append.mp member).imp_right (List.mem_cons_of_mem _))

theorem unfinished_take {front back : List Wakeup} {wakeup : Wakeup}
    (ready : scheduler.ready = front ++ wakeup :: back) :
    scheduler.unfinished = (scheduler.take front back).unfinished + wakeup.isPending.toNat := by
  simp only [unfinished, take, ready, List.countP_append, List.countP_cons]
  cases wakeup.isPending with
  | true =>
      rw [if_pos rfl, Bool.toNat_true]
      omega
  | false =>
      rw [if_neg Bool.false_ne_true, Bool.toNat_false]
      omega

theorem unfinished_push (scheduler : Scheduler) (wakeup : Wakeup) :
    (scheduler.push wakeup).unfinished = scheduler.unfinished + wakeup.isPending.toNat := by
  simp only [unfinished, push, List.countP_append, List.countP_singleton]
  cases wakeup.isPending with
  | true =>
      rw [if_pos rfl, Bool.toNat_true]
      omega
  | false =>
      rw [if_neg Bool.false_ne_true, Bool.toNat_false]
      omega

theorem length_waiting_grant (member : party ∈ scheduler.waiting) :
    (scheduler.grant party).waiting.length + 1 = scheduler.waiting.length := by
  have some : 0 < scheduler.waiting.length := List.length_pos_of_mem member
  simp only [grant, hold, List.length_erase_of_mem member]
  omega

theorem Served.granted_mem (served : before.Served) {front back : List Wakeup}
    (ready : before.ready = front ++ .granted party :: back) : party ∈ before.waiting :=
  served.granted party (by simp [ready])

theorem load_of_turn (served : before.Served) (unwatched : before.Unwatched)
    (turn : Turn before after) : after.load < before.load := by
  cases turn with
  | waits ready busy =>
      -- The beginning weighed four, the place in the queue weighs three.
      rw [load_take ready]
      simp only [load, enqueue, take, Wakeup.weight, List.length_append, List.length_singleton]
      omega
  | asks ready free =>
      rw [load_take ready, load_push]
      simp only [load, hold, take, Wakeup.weight]
      omega
  | @grants front back party ready =>
      have fewer : ((before.take front back).grant party).waiting.length + 1 =
          before.waiting.length :=
        length_waiting_grant (served.granted_mem ready)
      rw [load_take ready, load_push]
      simp only [load, Wakeup.weight]
      simp only [grant, hold, take] at fewer ⊢
      omega
  | @answers front back party ready outcome =>
      -- The answer weighed three: releasing the lock and telling a job can cost one each.
      have released : (before.take front back).release.Unwatched := by
        intro watch
        rw [client_release]
        exact unwatched watch
      have told := load_tell released party outcome
      have freed := load_release (before.take front back)
      rw [load_take ready]
      simp only [Wakeup.weight]
      omega
  | @passes front back wakeup ready other scheduled =>
      have some : 0 < wakeup.weight := by cases wakeup <;> exact Nat.succ_pos _
      rw [load_take ready]
      exact Nat.lt_add_of_pos_right some

theorem jobs_of_turn (turn : Turn before after) : after.jobs = before.jobs := by
  cases turn with
  | waits => rfl
  | asks => rfl
  | grants => rfl
  | answers => rw [jobs_tell, jobs_release, take]
  | passes => rfl

/-- A turn leaves the client as it is, or tells it the outcome of its refresh. -/
theorem client_of_turn (turn : Turn before after) :
    after.client = before.client ∨ ∃ outcome, after.client = .refreshed outcome := by
  cases turn with
  | waits => exact .inl rfl
  | asks => exact .inl rfl
  | grants => exact .inl rfl
  | @answers front back party ready outcome =>
      cases party with
      | client => exact .inr ⟨outcome, rfl⟩
      | job job =>
          left
          rw [client_tell_job, client_release, take]
  | passes => exact .inl rfl

theorem unwatched_of_turn (unwatched : before.Unwatched) (turn : Turn before after) :
    after.Unwatched := by
  intro watch watching
  rcases client_of_turn turn with same | ⟨outcome, told⟩
  · exact unwatched watch (same.symm.trans watching)
  · cases told.symm.trans watching

theorem orderly_of_turn (orderly : before.Orderly) (turn : Turn before after) :
    after.Orderly := by
  cases turn with
  | waits ready busy => exact orderly_enqueue (orderly_take_begin orderly ready) busy _
  | asks ready free => exact orderly_ask (orderly_take_begin orderly ready) free _
  | grants ready => exact orderly_grant orderly ready
  | answers ready outcome =>
      exact (tends_tell _ _ outcome).orderly (orderly_release orderly ready)
  | @passes front back wakeup ready other scheduled =>
      have settled :
          Tends (before.take front back) { before.take front back with scheduled } :=
        ⟨rfl, rfl, rfl⟩
      exact ((tends_take ready other).trans settled).orderly orderly

theorem not_granted_of_held (orderly : scheduler.Orderly) (held : scheduler.held = true) :
    .granted party ∉ scheduler.ready := by
  intro granted
  cases held.symm.trans (of_mem_granted orderly granted).1

theorem mem_release {wakeup : Wakeup} (member : wakeup ∈ scheduler.release.ready) :
    wakeup ∈ scheduler.ready ∨ ∃ party ∈ scheduler.waiting, wakeup = .granted party := by
  unfold release at member
  split at member
  · exact .inl member
  · rename_i party rest waiting
    rcases List.mem_append.mp member with earlier | new
    · exact .inl earlier
    · exact .inr ⟨party, by simp [waiting], List.mem_singleton.mp new⟩

theorem granted_of_turn (served : before.Served) (turn : Turn before after) :
    ∀ party, .granted party ∈ after.ready → party ∈ after.waiting := by
  intro other granted
  have orderly := orderly_of_turn served.orderly turn
  cases turn with
  | @waits front back job ready busy =>
      exact List.mem_append_left _ (served.granted other (mem_of_mem_take ready granted))
  | asks ready free => exact absurd granted (not_granted_of_held orderly rfl)
  | grants ready => exact absurd granted (not_granted_of_held orderly rfl)
  | @answers front back party ready outcome =>
      have tends := tends_tell (before.take front back).release party outcome
      have answered : .answered party ∈ before.ready := by simp [ready]
      have held := held_of_mem_answered served.orderly answered
      rw [tends.waiting, release_waiting]
      rcases mem_release ((tends.mem_ready rfl).mp granted) with taken | ⟨next, member, same⟩
      · exact absurd (mem_of_mem_take ready taken) (not_granted_of_held served.orderly held)
      · cases same
        exact member
  | @passes front back wakeup ready passing scheduled =>
      exact served.granted other (mem_of_mem_take ready granted)

/-- A refresh that comes to its end is one less; if it is that of the client, the client has
been told. -/
theorem accounted_of_turn (served : before.Served) (turn : Turn before after) :
    after.unfinished ≤ after.jobs + after.ofClient := by
  have accounted := served.accounted
  rw [jobs_of_turn turn]
  cases turn with
  | @waits front back job ready busy =>
      rw [unfinished_take ready] at accounted
      simpa [unfinished, enqueue, take, ofClient, Wakeup.isPending, Nat.add_assoc] using accounted
  | @asks front back job ready free =>
      rw [unfinished_take ready] at accounted
      rw [unfinished_push]
      exact accounted
  | @grants front back party ready =>
      have fewer : ((before.take front back).grant party).waiting.length + 1 =
          before.waiting.length :=
        length_waiting_grant (served.granted_mem ready)
      rw [unfinished_take ready] at accounted
      simp only [unfinished, push, ofClient, grant, hold, take, List.countP_append,
        List.countP_cons, List.countP_nil, Wakeup.isPending, if_true,
        Bool.toNat_false] at accounted fewer ⊢
      omega
  | @answers front back party ready outcome =>
      have tends := tends_tell (before.take front back).release party outcome
      rw [unfinished_take ready] at accounted
      rw [unfinished_of_tends tends, unfinished_release]
      simp only [Wakeup.isPending, Bool.toNat_true] at accounted
      cases party with
      | client =>
          have most : before.ofClient ≤ 1 := by
            unfold ofClient
            split <;> omega
          omega
      | job job =>
          have same : ((before.take front back).release.tell (.job job) outcome).ofClient =
              before.ofClient := by
            simp only [ofClient, client_tell_job, client_release, take]
          omega
  | @passes front back wakeup ready other scheduled =>
      rw [unfinished_take ready] at accounted
      exact Nat.le_trans (Nat.le_add_right _ _) accounted

theorem served_of_turn (served : before.Served) (turn : Turn before after) : after.Served where
  orderly := orderly_of_turn served.orderly turn
  granted := granted_of_turn served turn
  accounted := accounted_of_turn served turn

/-- The client goes on waiting for its refresh until it is told the outcome. -/
theorem awaits_of_turn (awaits : before.Awaits) (turn : Turn before after) :
    after.Awaits ∨ ∃ outcome, after.client = .refreshed outcome := by
  obtain ⟨refreshing, underway⟩ := awaits
  have kept {front back : List Wakeup} {wakeup : Wakeup}
      (ready : before.ready = front ++ wakeup :: back) (apart : .answered .client ≠ wakeup)
      (answered : .answered .client ∈ before.ready) : .answered .client ∈ front ++ back := by
    rw [ready, List.mem_append, List.mem_cons] at answered
    exact List.mem_append.mpr (answered.imp_right fun later => later.resolve_left apart)
  cases turn with
  | waits ready busy =>
      refine .inl ⟨refreshing, ?_⟩
      exact underway.imp (List.mem_append_left _) (kept ready (by simp))
  | asks ready free =>
      refine .inl ⟨refreshing, underway.imp_right fun answered => ?_⟩
      exact List.mem_append_left _ (kept ready (by simp) answered)
  | @grants front back party ready =>
      refine .inl ⟨refreshing, ?_⟩
      by_cases own : party = .client
      · rw [own]
        exact .inr (List.mem_append_right _ List.mem_cons_self)
      · refine underway.imp (fun waits => ?_) (fun answered => ?_)
        · exact (List.mem_erase_of_ne (Ne.symm own)).mpr waits
        · exact List.mem_append_left _ (kept ready (by simp) answered)
  | @answers front back party ready outcome =>
      cases party with
      | client => exact .inr ⟨outcome, rfl⟩
      | job job =>
          have tends := tends_tell (before.take front back).release (.job job) outcome
          refine .inl ⟨?_, ?_⟩
          · rw [client_tell_job, client_release]
            exact refreshing
          · rw [tends.waiting, release_waiting, tends.mem_ready rfl]
            exact underway.imp_right fun answered =>
              mem_release_of_mem (kept ready (by simp) answered)
  | passes ready other scheduled =>
      refine .inl ⟨refreshing, underway.imp_right (kept ready ?_)⟩
      rintro rfl
      cases other

theorem ready_ne_nil_of_awaits (served : scheduler.Served) (awaits : scheduler.Awaits) :
    scheduler.ready ≠ [] := by
  intro empty
  have idle : scheduler.Idle := by
    intro wakeup member
    rw [empty] at member
    cases member
  obtain ⟨-, nobody⟩ := isFree_iff.mp (isFree_of_idle served.orderly idle)
  rcases awaits.underway with waits | answered
  · rw [nobody] at waits
    cases waits
  · rw [empty] at answered
    cases answered

end Scheduler

end ChatDispatch
