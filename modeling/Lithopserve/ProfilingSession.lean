import Lithopserve.ProfilingLoop

/-! `profiling_context` and the monitor process it starts, joined by `Pipe()`. The owner's
`_send_stop_signal(parent_conn)` puts `"stop"` on the pipe, and after each round the monitor's
`_check_stop_signal(conn)` polls `child_conn` and reads the first message waiting. A session
is one interleaving of the monitor's rounds with the owner's sends and `terminate()`. The
monitor keeps its own copy of `parent_conn` open, so `poll()` is true exactly when a message
waits. -/

namespace Lithopserve.Profiling

/-- A profiling session so far: the monitor's `start_profiling`, whether the owner has
terminated the monitor process, and what the owner sent on `parent_conn` that the monitor has
not read from `child_conn`. -/
structure Session where
  monitor : ProfilingRun
  terminated : Bool
  pipe : List String

/-- What happens next in a session: a round of the monitor's loop, with what `psutil` and the
sleep that ends it answer; the owner's `parent_conn.send("stop")` returning; or the owner's
`terminate()`. -/
inductive SessionEvent
  | round (collect : RoundEnv) (sleep : Except PyExc Unit)
  | send
  | terminate

namespace Session

/-- What `conn.poll()` and `conn.recv()` answer on `child_conn`; `recv()` is called only when
`poll()` found a message. -/
def connInput (pipe : List String) (collect : RoundEnv) (sleep : Except PyExc Unit) :
    RoundInput :=
  ⟨collect, .ok !pipe.isEmpty, .ok (pipe.headD ""), sleep⟩

/-- Whether a round takes a message off the pipe: `_check_stop_signal` runs when
`_collect_and_send_metrics` returns, and `recv()` when `poll()` finds a message. -/
def reads (monitored_process_pid : ℕ) (s : Session) (collect : RoundEnv) : Bool :=
  match s.monitor.phase with
  | .running index =>
    match Profiler.collectMetrics monitored_process_pid index collect
        s.monitor.profiler.metrics with
    | .ok () _ => !s.pipe.isEmpty
    | .error _ _ => false
  | _ => false

def step (monitored_process_pid : ℕ) (profiling_data : List (String × String)) (s : Session) :
    SessionEvent → Session
  | .round collect sleep =>
    if s.terminated then s
    else { s with
      monitor := ProfilingRun.step monitored_process_pid profiling_data s.monitor
        (connInput s.pipe collect sleep)
      pipe := if reads monitored_process_pid s collect then s.pipe.tail else s.pipe }
  | .send => { s with pipe := s.pipe ++ ["stop"] }
  | .terminate => { s with terminated := true }

/-- `profiling_context` up to its `yield`: `Pipe()` and the started monitor, whose
`_initialize_process` answers `init`. -/
def start (init : Except PyExc Unit) : Session := ⟨ProfilingRun.start init, false, []⟩

def run (monitored_process_pid : ℕ) (profiling_data : List (String × String)) (s : Session)
    (events : List SessionEvent) : Session :=
  events.foldl (step monitored_process_pid profiling_data) s

/-- `monitoring_process.is_alive()`: not terminated, and `start_profiling` still in its loop. -/
def alive (s : Session) : Bool :=
  !s.terminated && match s.monitor.phase with
    | .running _ => true
    | _ => false

/-- Every message in flight is the owner's `"stop"`. -/
def OnlyStop (s : Session) : Prop := ∀ m ∈ s.pipe, m = "stop"

variable {monitored_process_pid : ℕ} {profiling_data : List (String × String)} {s : Session}

theorem run_append (s : Session) (events₁ events₂ : List SessionEvent) :
    run monitored_process_pid profiling_data s (events₁ ++ events₂) =
      run monitored_process_pid profiling_data (run monitored_process_pid profiling_data s events₁)
        events₂ :=
  List.foldl_append _ _ _ _

theorem step_round_of_terminated (h : s.terminated = true) (c : RoundEnv)
    (sl : Except PyExc Unit) : step monitored_process_pid profiling_data s (.round c sl) = s := by
  simp [step, h]

theorem step_round (h : s.terminated = false) (c : RoundEnv) (sl : Except PyExc Unit) :
    step monitored_process_pid profiling_data s (.round c sl) = { s with
      monitor := ProfilingRun.step monitored_process_pid profiling_data s.monitor
        (connInput s.pipe c sl)
      pipe := if reads monitored_process_pid s c then s.pipe.tail else s.pipe } := by
  simp [step, h]

@[simp] theorem step_send :
    step monitored_process_pid profiling_data s .send = { s with pipe := s.pipe ++ ["stop"] } :=
  rfl

@[simp] theorem step_terminate :
    step monitored_process_pid profiling_data s .terminate = { s with terminated := true } :=
  rfl

theorem alive_eq_false_iff :
    s.alive = false ↔ s.terminated = true ∨ ∀ index, s.monitor.phase ≠ .running index := by
  unfold alive
  split <;> simp_all

theorem step_onlyStop (h : OnlyStop s) :
    ∀ e, OnlyStop (step monitored_process_pid profiling_data s e)
  | .round c sl => by
    cases ht : s.terminated
    · rw [step_round ht]
      split
      · exact fun m hm => h m (List.mem_of_mem_tail hm)
      · exact h
    · rwa [step_round_of_terminated ht]
  | .send => fun m hm => (List.mem_append.mp hm).elim (h m) List.eq_of_mem_singleton
  | .terminate => h

theorem run_onlyStop :
    ∀ (events : List SessionEvent) {s : Session}, OnlyStop s →
      OnlyStop (run monitored_process_pid profiling_data s events)
  | [], _, h => h
  | e :: events, _, h => run_onlyStop events (step_onlyStop h e)

/-- Once the monitor process is gone, no event changes what it collected or handed over. -/
theorem step_of_not_alive (h : s.alive = false) (e : SessionEvent) :
    (step monitored_process_pid profiling_data s e).monitor = s.monitor ∧
      (step monitored_process_pid profiling_data s e).alive = false := by
  cases e with
  | round c sl =>
    cases ht : s.terminated
    · rw [step_round ht,
        ProfilingRun.step_of_ended ((alive_eq_false_iff.mp h).resolve_left (by simp [ht]))]
      exact ⟨rfl, h⟩
    · rw [step_round_of_terminated ht]
      exact ⟨rfl, h⟩
  | send => exact ⟨rfl, h⟩
  | terminate => exact ⟨rfl, alive_eq_false_iff.mpr (.inl rfl)⟩

theorem run_of_not_alive :
    ∀ (events : List SessionEvent) {s : Session}, s.alive = false →
      (run monitored_process_pid profiling_data s events).monitor = s.monitor ∧
        (run monitored_process_pid profiling_data s events).alive = false
  | [], _, h => ⟨rfl, h⟩
  | e :: events, _, h => by
    obtain ⟨hm, ha⟩ := @step_of_not_alive monitored_process_pid profiling_data _ h e
    obtain ⟨hm', ha'⟩ := run_of_not_alive events ha
    exact ⟨hm'.trans hm, ha'⟩

/-- A round that starts with the owner's `"stop"` waiting ends the monitor's loop whatever
`psutil` answers: collection raises, and the loop's `except` ends it, or the round reaches
`_check_stop_signal`, which reads the `"stop"`. -/
theorem step_round_of_waiting (hs : OnlyStop s) (hp : s.pipe ≠ []) (c : RoundEnv)
    (sl : Except PyExc Unit) :
    (step monitored_process_pid profiling_data s (.round c sl)).alive = false := by
  cases ht : s.terminated
  · rw [step_round ht, alive_eq_false_iff]
    refine .inr fun i => ?_
    rcases hph : s.monitor.phase with index | _ | _
    · obtain ⟨m, rest, hpipe⟩ := List.exists_cons_of_ne_nil hp
      have hm : m = "stop" := hs m (by rw [hpipe]; exact List.mem_cons_self _ _)
      rw [(@ProfilingRun.step_stop monitored_process_pid profiling_data _ _ hph
        (connInput s.pipe c sl) (by simp [connInput, hpipe]) (by simp [connInput, hpipe, hm])).1]
      exact nofun
    all_goals
      rw [ProfilingRun.step_of_ended (by simp [hph]), hph]
      exact nofun
  · rw [step_round_of_terminated ht, alive_eq_false_iff]
    exact .inl ht

/-- From the owner's send on: every message in flight is a `"stop"`, and the monitor is gone or
one of them waits for it. -/
def StopPending (s : Session) : Prop := OnlyStop s ∧ (s.alive = false ∨ s.pipe ≠ [])

theorem step_stopPending (h : StopPending s) (e : SessionEvent) :
    StopPending (step monitored_process_pid profiling_data s e) := by
  refine ⟨step_onlyStop h.1 e, ?_⟩
  rcases h.2 with ha | hp
  · exact .inl (step_of_not_alive ha e).2
  · cases e with
    | round c sl => exact .inl (step_round_of_waiting h.1 hp c sl)
    | send => exact .inr (by simp)
    | terminate => exact .inr hp

theorem run_stopPending :
    ∀ (events : List SessionEvent) {s : Session}, StopPending s →
      StopPending (run monitored_process_pid profiling_data s events)
  | [], _, h => h
  | e :: events, _, h => run_stopPending events (step_stopPending h e)

/-- The monitor of a session whose `_initialize_process` returned keeps the invariant of
`start_profiling`'s runs. -/
theorem step_invariant {job : Job} (h : ∃ n, ProfilingRun.Invariant job n s.monitor)
    (e : SessionEvent) :
    ∃ n, ProfilingRun.Invariant job n (step monitored_process_pid (prepareProfilingData job) s e).monitor := by
  obtain ⟨n, hn⟩ := h
  cases e with
  | round c sl =>
    cases ht : s.terminated
    · exact ⟨n+1, by rw [step_round ht]; exact hn.step monitored_process_pid _⟩
    · exact ⟨n, by rwa [step_round_of_terminated ht]⟩
  | send => exact ⟨n, hn⟩
  | terminate => exact ⟨n, hn⟩

theorem run_invariant {job : Job} :
    ∀ (events : List SessionEvent) {s : Session}, (∃ n, ProfilingRun.Invariant job n s.monitor) →
      ∃ n, ProfilingRun.Invariant job n
        (run monitored_process_pid (prepareProfilingData job) s events).monitor
  | [], _, h => h
  | e :: events, _, h => run_invariant events (step_invariant h e)

/-- From the owner's `"stop"` on, the first round the monitor starts is its last, in every
interleaving and whatever `psutil` answers: after it the monitor process is gone, its loop has
returned with `child_conn` closed unless the owner terminated it, and nothing that happens later
changes what it collected or handed to the exporter. -/
theorem stop_ends_monitor (job : Job) (pre post later : List SessionEvent) (c : RoundEnv)
    (sl : Except PyExc Unit) :
    let s := run monitored_process_pid (prepareProfilingData job) (start (.ok ()))
      (pre ++ .send :: post ++ [.round c sl])
    s.alive = false ∧
      (s.terminated = false → s.monitor.phase = .returned ∧ s.monitor.conn_closed = true) ∧
      (run monitored_process_pid (prepareProfilingData job) s later).monitor = s.monitor := by
  intro s
  have h₀ : OnlyStop (run monitored_process_pid (prepareProfilingData job) (start (.ok ())) pre) :=
    run_onlyStop pre fun m h => absurd h (List.not_mem_nil m)
  have h₁ : StopPending (run monitored_process_pid (prepareProfilingData job)
      (step monitored_process_pid (prepareProfilingData job)
        (run monitored_process_pid (prepareProfilingData job) (start (.ok ())) pre) .send) post) :=
    run_stopPending post ⟨step_onlyStop h₀ .send, .inr (by simp)⟩
  have ha : s.alive = false := by
    simp only [s, run, List.foldl_append, List.foldl_cons, List.foldl_nil]
    rcases h₁.2 with ha | hp
    · exact (step_of_not_alive ha _).2
    · exact step_round_of_waiting h₁.1 hp c sl
  obtain ⟨n, hn⟩ := @run_invariant monitored_process_pid job (pre ++ .send :: post ++ [.round c sl])
    (start (.ok ())) ⟨0, ProfilingRun.Invariant.start job⟩
  refine ⟨ha, fun ht => ?_, (run_of_not_alive later ha).1⟩
  have hr := (alive_eq_false_iff.mp ha).resolve_left (by simp [ht])
  exact (hn.phase.resolve_left fun h => hr n h.1)

end Session

end Lithopserve.Profiling
