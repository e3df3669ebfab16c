import HttpAudit.Proofs.Delivery.Interleaving
import Mathlib.Data.List.Perm.Basic

set_option relaxedAutoImplicit false
set_option autoImplicit false

/-!
# The accounts of a pipeline

Whatever becomes of the messages for a collector shows in two counters. Here it is shown, over all
interleavings, that the counters add up: each delivery that got a permit either runs or has been
counted once, and never do more run than there are permits. Draining asks for all permits, so it
is done only when nothing runs.

## Main definitions

* `HttpAudit.Process.submitted`, `HttpAudit.Process.admitted`, `HttpAudit.Process.withdrawn`,
  `HttpAudit.Process.answers` — what a log says of deliveries.
* `HttpAudit.Process.Accounts` — the state of a pipeline agrees with a log.
* `HttpAudit.Process.Entry` — what a step does to the counters and to the deliveries that run.

## Main results

* `HttpAudit.Process.Accounts.step` — steps keep the accounts.
* `HttpAudit.Process.Step.entry` — steps do what their events say.
* `HttpAudit.Process.accounts_of_interleaving` — the accounts of every interleaving.
-/

namespace HttpAudit

/-- The delivery that somebody waits for, if it is one. -/
def Waiter.request? : Waiter → Option Request
  | delivery request => some request
  | drain => none

namespace Process

/-! ## Logs -/

namespace Event

/-- The delivery that gets in line, if one does. -/
def submits? : Event → Option Request
  | joined waiter => waiter.request?
  | _ => none

/-- The delivery that leaves the line without a permit, if one does. -/
def withdraws? : Event → Option Request
  | gaveUp waiter => waiter.request?
  | _ => none

/-- The delivery that gets a permit, if one does. -/
def admits? : Event → Option Request
  | served waiter => waiter.request?
  | _ => none

/-- The delivery that the network replies to, with the reply, if it does. -/
def answers? : Event → Option (Request × Reply)
  | answered request reply => some (request, reply)
  | _ => none

end Event

/-- The deliveries that got in line, in order. -/
def submitted (log : List Event) : List Request := log.filterMap Event.submits?

/-- The deliveries that left the line without a permit, in order. -/
def withdrawn (log : List Event) : List Request := log.filterMap Event.withdraws?

/-- The deliveries that got a permit, in order. -/
def admitted (log : List Event) : List Request := log.filterMap Event.admits?

/-- The deliveries that the network replied to, with the replies, in order. -/
def answers (log : List Event) : List (Request × Reply) := log.filterMap Event.answers?

/-- What a list with one more element in front is mapped to. -/
lemma filterMap_cons_eq {α β : Type} (f : α → Option β) (a : α) (l : List α) :
    (a :: l).filterMap f = (f a).toList ++ l.filterMap f := by
  cases h : f a <;> simp [h]

/-- What a list with one more element at the end is mapped to. -/
lemma filterMap_concat {α β : Type} (f : α → Option β) (l : List α) (a : α) :
    (l ++ [a]).filterMap f = l.filterMap f ++ (f a).toList := by
  rw [List.filterMap_append, filterMap_cons_eq, List.filterMap_nil, List.append_nil]

/-! ## What a step does -/

/-- Neither the deliveries that run nor the counters are different. -/
def Untouched (p q : Pipeline) : Prop :=
  q.running = p.running ∧ q.ended = p.ended ∧ q.successes = p.successes ∧ q.failures = p.failures

/-- What an event does to the deliveries that run, to the counters, to the line, and to the permits
that have yet to be given back. -/
def Entry (p q : Pipeline) : Event → Prop
  | .joined waiter =>
    Untouched p q ∧ q.waiting = p.waiting ++ [waiter] ∧ q.returning = p.returning
  | .gaveUp waiter =>
    Untouched p q ∧ p.waiting.Perm (waiter :: q.waiting) ∧ q.returning = p.returning
  | .served (.delivery request) =>
    p.taken + 1 ≤ p.maxInFlight ∧ q.running = p.running ++ [request] ∧ q.ended = p.ended ∧
      q.successes = p.successes ∧ q.failures = p.failures ∧
      p.waiting.Perm (.delivery request :: q.waiting) ∧ q.returning = p.returning
  | .served .drain =>
    p.taken + min p.maxInFlight Pipeline.maxPermits ≤ p.maxInFlight ∧ Untouched p q ∧
      p.waiting.Perm (.drain :: q.waiting) ∧
      q.returning = p.returning ++ [min p.maxInFlight Pipeline.maxPermits]
  | .answered request reply =>
    p.running.Perm (request :: q.running) ∧ q.ended = p.ended ++ [(request, reply)] ∧
      (q.successes, q.failures) =
        (if reply = .status 204 then (p.successes + 1, p.failures)
        else (p.successes, p.failures + 1)) ∧
      q.waiting = p.waiting ∧ q.returning = p.returning ++ [1]
  | .returned permits =>
    Untouched p q ∧ q.waiting = p.waiting ∧ p.returning.Perm (permits :: q.returning)
  | .ignored | .looked _ | .passed _ | .toggled | .switched =>
    Untouched p q ∧ q.waiting = p.waiting ∧ q.returning = p.returning

/-- A pipeline is like itself. -/
lemma Untouched.refl (p : Pipeline) : Untouched p p := ⟨rfl, rfl, rfl, rfl⟩

/-- An element in front of the list without it is the list, up to the order. -/
lemma perm_cons_eraseIdx {α : Type} {l : List α} {i : Nat} {a : α} (h : l[i]? = some a) :
    l.Perm (a :: l.eraseIdx i) := by
  obtain ⟨hi, rfl⟩ := List.getElem?_eq_some_iff.mp h
  exact (List.getElem_cons_eraseIdx_perm hi).symm

/-- The one reply that means success. -/
lemma isSuccess_eq (reply : Reply) : reply.isSuccess = decide (reply = .status 204) := by
  cases reply with
  | status code =>
    by_cases h : code = 204 <;> simp [Reply.isSuccess, Reply.error?, Reply.noContent, h]
  | unreachable reason => simp [Reply.isSuccess, Reply.error?]

/-- Every step does what its event says. -/
lemma Step.entry {s t : Process} {e : Event} (h : Step s e t) : Entry s.pipeline t.pipeline e := by
  cases h with
  | serve place h hfree =>
    rename_i waiter
    simp only [Pipeline.canServe, decide_eq_true_eq] at hfree
    have hline := perm_cons_eraseIdx h
    cases waiter <;> simp only [put, Pipeline.serve, h]
    case delivery request => exact ⟨hfree, rfl, rfl, rfl, rfl, hline, rfl⟩
    case drain => exact ⟨hfree, .refl _, hline, rfl⟩
  | answer place reply h =>
    simp only [put, Pipeline.answer, h, isSuccess_eq, decide_eq_true_eq]
    refine ⟨perm_cons_eraseIdx h, rfl, ?_, rfl, rfl⟩
    split <;> simp
  | giveUp place h => exact ⟨.refl _, perm_cons_eraseIdx h, rfl⟩
  | giveBack place h => exact ⟨.refl _, rfl, perm_cons_eraseIdx h⟩
  | enable =>
    unfold put Pipeline.enable
    split <;> exact ⟨.refl _, rfl, rfl⟩
  | _ => exact ⟨.refl _, rfl, rfl⟩

/-! ## The accounts -/

/-- The state of a pipeline agrees with the log of what has happened to it. -/
structure Accounts (log : List Event) (p : Pipeline) : Prop where
  /-- There is a permit. -/
  one_le : 1 ≤ p.maxInFlight
  /-- All permits can be asked for at once. -/
  le_maxPermits : p.maxInFlight ≤ Pipeline.maxPermits
  /-- No more permits are taken than there are. -/
  taken_le : p.taken ≤ p.maxInFlight
  /-- Who got in line got a permit, left the line or still waits. -/
  submitted_perm : (submitted log).Perm
    (admitted log ++ (withdrawn log ++ p.waiting.filterMap Waiter.request?))
  /-- Who got a permit is being delivered or has been. -/
  admitted_perm : (admitted log).Perm (p.running ++ (answers log).map Prod.fst)
  /-- All replies are kept. -/
  ended_eq : p.ended = answers log
  /-- The messages that were taken are counted. -/
  successes_eq : p.successes = (answers log).countP fun answer => answer.2 = .status 204
  /-- The messages that were not taken are counted. -/
  failures_eq : p.failures = (answers log).countP fun answer => answer.2 ≠ .status 204

/-- The number of permits is at least one, and all can be asked for at once. -/
lemma clampPermits_bounds (n : Nat) :
    1 ≤ Pipeline.clampPermits n ∧ Pipeline.clampPermits n ≤ Pipeline.maxPermits := by
  unfold Pipeline.clampPermits Pipeline.maxPermits
  rw [Nat.pow_eq]
  omega

/-- The accounts of a new pipeline. -/
lemma accounts_create (target : Target) (fallback : Option String) (settings : DeliverySettings) :
    Accounts [] (Pipeline.create target fallback settings) where
  one_le := (clampPermits_bounds _).1
  le_maxPermits := (clampPermits_bounds _).2
  taken_le := Nat.zero_le _
  submitted_perm := .refl _
  admitted_perm := .refl _
  ended_eq := rfl
  successes_eq := rfl
  failures_eq := rfl

/-- The permits that are taken stay within those there are. -/
lemma Accounts.taken_le_step {log : List Event} {p q : Pipeline} {e : Event} (h : Accounts log p)
    (hentry : Entry p q e) : q.taken ≤ p.maxInFlight := by
  have htaken : p.running.length + p.returning.sum ≤ p.maxInFlight := h.taken_le
  show q.running.length + q.returning.sum ≤ p.maxInFlight
  cases e with
  | served waiter =>
    cases waiter with
    | delivery request =>
      obtain ⟨hfree, hrunning, -, -, -, -, hreturning⟩ := hentry
      replace hfree : p.running.length + p.returning.sum + 1 ≤ p.maxInFlight := hfree
      rw [hrunning, hreturning, List.length_append, List.length_singleton]
      omega
    | drain =>
      obtain ⟨hfree, ⟨hrunning, -⟩, -, hreturning⟩ := hentry
      replace hfree : p.running.length + p.returning.sum +
        min p.maxInFlight Pipeline.maxPermits ≤ p.maxInFlight := hfree
      rw [hrunning, hreturning, List.sum_append, List.sum_singleton]
      omega
  | answered request reply =>
    obtain ⟨hrunning, -, -, -, hreturning⟩ := hentry
    have hlength := hrunning.length_eq
    rw [hreturning, List.sum_append, List.sum_singleton]
    rw [List.length_cons] at hlength
    omega
  | returned permits =>
    obtain ⟨⟨hrunning, -⟩, -, hreturning⟩ := hentry
    have hsum := hreturning.sum_nat
    rw [List.sum_cons] at hsum
    rw [hrunning]
    omega
  | _ =>
    obtain ⟨⟨hrunning, -⟩, -, hreturning⟩ := hentry
    rw [hrunning, hreturning]
    exact htaken

/-- Whoever gets permits leaves the line. -/
lemma Entry.waiting_of_served {p q : Pipeline} {waiter : Waiter}
    (h : Entry p q (.served waiter)) : p.waiting.Perm (waiter :: q.waiting) := by
  cases waiter with
  | delivery request => exact h.2.2.2.2.2.1
  | drain => exact h.2.2.1

/-- Who got in line is not lost and not doubled. -/
lemma Accounts.submitted_perm_step {log : List Event} {p q : Pipeline} {e : Event}
    (h : Accounts log p) (hentry : Entry p q e) :
    (submitted (log ++ [e])).Perm (admitted (log ++ [e]) ++
      (withdrawn (log ++ [e]) ++ q.waiting.filterMap Waiter.request?)) := by
  have hlog := h.submitted_perm
  unfold submitted admitted withdrawn at *
  simp only [filterMap_concat]
  cases e <;> simp only [Event.submits?, Event.admits?, Event.withdraws?, Option.toList_none,
    List.append_nil]
  case joined waiter =>
    obtain ⟨-, hwaiting, -⟩ := hentry
    rw [hwaiting, filterMap_concat]
    simpa only [List.append_assoc] using hlog.append_right waiter.request?.toList
  case gaveUp waiter =>
    obtain ⟨-, hwaiting, -⟩ := hentry
    have hline := hwaiting.filterMap Waiter.request?
    rw [filterMap_cons_eq] at hline
    rw [List.append_assoc]
    exact hlog.trans ((hline.append_left _).append_left _)
  case served waiter =>
    have hline := (Entry.waiting_of_served hentry).filterMap Waiter.request?
    rw [filterMap_cons_eq] at hline
    rw [List.append_assoc]
    exact hlog.trans (((hline.append_left _).trans (List.perm_append_comm_assoc ..)).append_left _)
  case answered request reply =>
    obtain ⟨-, -, -, hwaiting, -⟩ := hentry
    rwa [hwaiting]
  all_goals
    obtain ⟨-, hwaiting, -⟩ := hentry
    rwa [hwaiting]

/-- Who got a permit is delivered once. -/
lemma Accounts.admitted_perm_step {log : List Event} {p q : Pipeline} {e : Event}
    (h : Accounts log p) (hentry : Entry p q e) :
    (admitted (log ++ [e])).Perm (q.running ++ (answers (log ++ [e])).map Prod.fst) := by
  have hlog := h.admitted_perm
  unfold admitted answers at *
  simp only [filterMap_concat]
  cases e <;> simp only [Event.admits?, Event.answers?, Option.toList_none, List.append_nil]
  case served waiter =>
    cases waiter with
    | delivery request =>
      obtain ⟨-, hrunning, -⟩ := hentry
      rw [hrunning, List.append_assoc]
      refine (hlog.append_right [request]).trans ?_
      rw [List.append_assoc]
      exact List.perm_append_comm.append_left p.running
    | drain =>
      obtain ⟨-, ⟨hrunning, -⟩, -⟩ := hentry
      rw [hrunning]
      simpa [Waiter.request?] using hlog
  case answered request reply =>
    obtain ⟨hrunning, -⟩ := hentry
    rw [List.map_append, ← List.append_assoc]
    refine (hlog.trans (hrunning.append_right _)).trans ?_
    exact (List.perm_append_singleton request _).symm
  all_goals
    obtain ⟨⟨hrunning, -⟩, -⟩ := hentry
    rwa [hrunning]

/-- Replies are counted once. -/
lemma Accounts.counters_step {log : List Event} {p q : Pipeline} {e : Event}
    (h : Accounts log p) (hentry : Entry p q e) :
    q.ended = answers (log ++ [e]) ∧
      q.successes = (answers (log ++ [e])).countP (fun answer => answer.2 = .status 204) ∧
      q.failures = (answers (log ++ [e])).countP (fun answer => answer.2 ≠ .status 204) := by
  have hconcat : answers (log ++ [e]) = answers log ++ e.answers?.toList := filterMap_concat ..
  rw [hconcat, List.countP_append, List.countP_append, ← h.successes_eq, ← h.failures_eq,
    ← h.ended_eq]
  cases e <;> simp only [Event.answers?, Option.toList_none, List.append_nil, List.countP_nil,
    Nat.add_zero]
  case answered request reply =>
    obtain ⟨-, hended, hcounters, -⟩ := hentry
    refine ⟨hended, ?_⟩
    by_cases hreply : reply = .status 204 <;> simpa [hreply] using hcounters
  case served waiter =>
    cases waiter with
    | delivery request =>
      obtain ⟨-, -, hended, hsuccesses, hfailures, -⟩ := hentry
      exact ⟨hended, hsuccesses, hfailures⟩
    | drain => exact hentry.2.1.2
  all_goals exact hentry.1.2

/-- Steps keep the accounts. -/
lemma Accounts.step {log : List Event} {s t : Process} {e : Event} (h : Accounts log s.pipeline)
    (hstep : Step s e t) : Accounts (log ++ [e]) t.pipeline := by
  have hmax := hstep.settings.2
  have hentry := hstep.entry
  obtain ⟨hended, hsuccesses, hfailures⟩ := h.counters_step hentry
  exact {
    one_le := hmax ▸ h.one_le
    le_maxPermits := hmax ▸ h.le_maxPermits
    taken_le := hmax ▸ h.taken_le_step hentry
    submitted_perm := h.submitted_perm_step hentry
    admitted_perm := h.admitted_perm_step hentry
    ended_eq := hended
    successes_eq := hsuccesses
    failures_eq := hfailures }

/-- Interleavings keep the accounts. -/
lemma Run.accounts {s t : Process} {log : List Event} (h : Run s log t)
    (hstart : Accounts [] s.pipeline) : Accounts log t.pipeline := by
  induction h with
  | nil => exact hstart
  | snoc _ hstep ih => exact ih.step hstep

/-! ## What the accounts say -/

/-- No more deliveries run than may. -/
lemma Accounts.running_le {log : List Event} {p : Pipeline} (h : Accounts log p) :
    p.running.length ≤ p.maxInFlight := by
  have htaken : p.running.length + p.returning.sum ≤ p.maxInFlight := h.taken_le
  omega

/-- Every delivery that got a permit runs or has been counted once. -/
lemma Accounts.counters_add_running {log : List Event} {p : Pipeline} (h : Accounts log p) :
    p.successes + p.failures + p.running.length = (admitted log).length := by
  have hanswers : (answers log).length = p.successes + p.failures := by
    rw [h.successes_eq, h.failures_eq,
      List.length_eq_countP_add_countP fun answer => decide (answer.2 = Reply.status 204)]
    simp
  have hadmitted := h.admitted_perm.length_eq
  rw [List.length_append, List.length_map] at hadmitted
  omega

/-- When draining gets its permits nothing runs, since it asks for all there are. -/
lemma Accounts.drained {log : List Event} {p q : Pipeline} (h : Accounts log p)
    (hentry : Entry p q (.served .drain)) :
    p.running = [] ∧ q.running = [] ∧ (admitted log).Perm ((answers log).map Prod.fst) := by
  obtain ⟨hfree, ⟨hrunning, -⟩, -⟩ := hentry
  have hall : min p.maxInFlight Pipeline.maxPermits = p.maxInFlight :=
    Nat.min_eq_left h.le_maxPermits
  have hnone : p.running = [] := by
    rw [hall] at hfree
    replace hfree : p.running.length + p.returning.sum + p.maxInFlight ≤ p.maxInFlight := hfree
    exact List.length_eq_zero_iff.mp (by omega)
  exact ⟨hnone, hrunning.trans hnone, by simpa [hnone] using h.admitted_perm⟩

/-- A process with a new pipeline, in which nothing is under way. -/
def fresh (target : Target) (fallback : Option String) (settings : DeliverySettings)
    (switch : Switch) : Process where
  pipeline := Pipeline.create target fallback settings
  switch := switch

/-- **The counters add up.** For a pipeline with a collector, told to run any number of deliveries
at once, the following holds after every interleaving of calls, replies and changes of the flags.
At most as many deliveries run as there are permits, of which there is one at least. The two
counters and the number of deliveries that run give the number of those that got a permit; each of
them runs or has been replied to, and not twice. A reply moves one of the counters by one, and
nothing but a permit or a reply touches the deliveries that run or the counters. When draining gets
its permits nothing runs, so the counters are the numbers of those among all deliveries with a
permit that were answered with 204, and that were not. Whole operations are such interleavings.

**Proof sketch.** The accounts are kept by every step (`Accounts.step`), by cases over what the
steps do (`Step.entry`). The permits in use are those of the deliveries that run and those that
have yet to be given back, so they bound the deliveries that run; and since the number of permits
can be asked for at once, draining gets its permits only when none is in use. -/
theorem accounts_of_interleaving {target : Target} {fallback : Option String}
    {settings : DeliverySettings} {endpoint : Endpoint}
    (hto : (Pipeline.create target fallback settings).destination = .collector endpoint)
    (switch : Switch) :
    (∀ log s, Run (fresh target fallback settings switch) log s →
      1 ≤ Pipeline.clampPermits settings.maxInFlight ∧
        s.pipeline.running.length ≤ Pipeline.clampPermits settings.maxInFlight ∧
        s.pipeline.successes + s.pipeline.failures + s.pipeline.running.length =
          (admitted log).length ∧
        Accounts log s.pipeline ∧
        ∀ e t, Step s e t → Entry s.pipeline t.pipeline e ∧
          (e = .served .drain →
            s.pipeline.running = [] ∧ t.pipeline.running = [] ∧
              (admitted log).Perm ((answers log).map Prod.fst) ∧
              t.pipeline.successes =
                (answers log).countP (fun answer => answer.2 = .status 204) ∧
              t.pipeline.failures =
                (answers log).countP (fun answer => answer.2 ≠ .status 204))) ∧
      ∀ operations : List Operation, Reaches (fresh target fallback settings switch)
        (operations.foldl perform (fresh target fallback settings switch)) := by
  refine ⟨fun log s hrun => ?_, reaches_performAll hto⟩
  have haccounts := hrun.accounts (accounts_create target fallback settings)
  have hmax : s.pipeline.maxInFlight = Pipeline.clampPermits settings.maxInFlight :=
    hrun.settings.2
  refine ⟨(clampPermits_bounds _).1, hmax ▸ haccounts.running_le,
    haccounts.counters_add_running, haccounts, fun e t hstep => ⟨hstep.entry, ?_⟩⟩
  rintro rfl
  have hentry := hstep.entry
  obtain ⟨hbefore, hafter, hall⟩ := haccounts.drained hentry
  obtain ⟨-, ⟨-, -, hsuccesses, hfailures⟩, -⟩ := hentry
  exact ⟨hbefore, hafter, hall, hsuccesses.trans haccounts.successes_eq,
    hfailures.trans haccounts.failures_eq⟩

/-- A pipeline that is told to run no delivery at all has one permit. Of two messages the first one
is taken, then the second one runs, and draining waits for it. -/
theorem accounts_of_interleaving_one_permit :
    ∃ log s, Run (fresh (.url "https://[::1]/") none { maxInFlight := 0, skipCompression := true }
        {}) log s ∧
      s.pipeline.running.length = 1 ∧ s.pipeline.waiting = [.drain] ∧ s.pipeline.successes = 1 ∧
      (admitted log).length = 2 := by
  let start := fresh (.url "https://[::1]/") none { maxInFlight := 0, skipCompression := true } {}
  let operations : List Operation :=
    [.submit (some "a"), .submit (some "b"), .await, .complete 0 (.status 204)]
  have hend : ((operations.foldl perform start).pipeline.running.length,
      (operations.foldl perform start).pipeline.waiting,
      (operations.foldl perform start).pipeline.successes,
      (operations.foldl perform start).pipeline.failures) = (1, [.drain], 1, 0) := by
    decide +kernel
  simp only [Prod.mk.injEq] at hend
  obtain ⟨hrunning, hwaiting, hsuccesses, hfailures⟩ := hend
  cases hto : start.pipeline.destination with
  | queue => exact absurd hto (by decide +kernel)
  | unusable => exact absurd hto (by decide +kernel)
  | collector endpoint =>
    obtain ⟨hruns, hreaches⟩ := accounts_of_interleaving hto {}
    obtain ⟨log, hlog⟩ := hreaches operations
    obtain ⟨-, -, hcounters, -⟩ := hruns log _ hlog
    refine ⟨log, _, hlog, hrunning, hwaiting, hsuccesses, ?_⟩
    rw [← hcounters]
    exact congrArg₂ (· + ·) (congrArg₂ (· + ·) hsuccesses hfailures) hrunning

end Process

end HttpAudit
