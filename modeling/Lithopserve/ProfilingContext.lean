import Lithopserve.ProfilingCollectors

/-! `profiling_context` of `worker/profiler_context.py`: the release sequence in its
`finally` block, under every pattern of failures of the calls it makes. The world holds
the monitor's liveness, the two ends of the owner–monitor pipe, what was sent on each
channel, and, as ghost state, which of the four release steps were entered. -/

namespace Lithopserve.Profiling

/-- The calls of the release sequence that can raise, one per call site. -/
inductive Site
  | parent_send | jobrunner_poll | jobrunner_recv | jobrunner_send
  | join_timeout | is_alive | terminate | join
  | handler_is_alive | handler_terminate | handler_join
  | parent_close | child_close
  deriving DecidableEq, Repr

/-- The four statements of the `finally` block. -/
inductive ReleaseStep
  | send_stop | jobrunner_signal | finalize | close_connections
  deriving DecidableEq, Repr

/-- What the environment does during the release: which calls raise, what the job runner
has sent, whether its end is writable, and whether the monitor exits within
`join(timeout=5)`. -/
structure ReleaseEnv where
  raises : Site → Bool
  jobrunner_message : Option String
  jobrunner_writable : Bool
  exits_within_timeout : Bool

structure ReleaseWorld where
  monitor_alive : Bool
  parent_open : Bool
  child_open : Bool
  to_monitor : List String
  to_jobrunner : List String
  entered : List ReleaseStep
  deriving DecidableEq, Repr

namespace Release

variable (env : ReleaseEnv)

/-- A call at `site` that, unless it raises, does `effect` and returns `result`. -/
def call (site : Site) (effect : ReleaseWorld → ReleaseWorld) (result : ReleaseWorld → α) :
    EStateM PyExc ReleaseWorld α := fun w =>
  if env.raises site then .error (.Other "OSError") w else .ok (result w) (effect w)

/-- `conn.close()`: CPython drops the handle in a `finally`, so the end is closed even when
the call raises. -/
def close (site : Site) (effect : ReleaseWorld → ReleaseWorld) : EStateM PyExc ReleaseWorld Unit :=
  fun w => if env.raises site then .error (.Other "OSError") (effect w) else .ok () (effect w)

/-- `_send_stop_signal(conn)`, where `writable` is the end's `writable` and `record` notes
the message sent. -/
def sendStopSignal (site : Site) (writable : Bool) (record : ReleaseWorld → ReleaseWorld) :
    EStateM PyExc ReleaseWorld Unit :=
  if writable then call env site record fun _ => () else pure ()

/-- `_handle_jobrunner_signal(jobrunner_conn)`: reads a message when one waits, and answers
`"Finished"` with `"stop"`. -/
def handleJobrunnerSignal : EStateM PyExc ReleaseWorld Unit := do
  if ← call env .jobrunner_poll id fun _ => env.jobrunner_message.isSome then
    let message ← call env .jobrunner_recv id fun _ => env.jobrunner_message.getD ""
    if message = "Finished" then
      sendStopSignal env .jobrunner_send env.jobrunner_writable
        fun w => { w with to_jobrunner := w.to_jobrunner ++ ["stop"] }

/-- `monitoring_process.join(timeout=5)`: the monitor is gone afterwards only when it exits
within the timeout. -/
def joinTimeout : EStateM PyExc ReleaseWorld Unit :=
  call env .join_timeout
    (fun w => if env.exits_within_timeout then { w with monitor_alive := false } else w)
    fun _ => ()

def isAlive (site : Site) : EStateM PyExc ReleaseWorld Bool := call env site id (·.monitor_alive)

/-- `terminate()` sends `SIGTERM`; the monitor is gone once a `join()` returns. -/
def terminate (site : Site) : EStateM PyExc ReleaseWorld Unit := call env site id fun _ => ()

def join (site : Site) : EStateM PyExc ReleaseWorld Unit :=
  call env site (fun w => { w with monitor_alive := false }) fun _ => ()

/-- `_finalize_process`: a monitor still alive after the timed join is terminated and joined,
and the `except` handler does the same unguarded. -/
def finalizeProcess : EStateM PyExc ReleaseWorld Unit :=
  try
    joinTimeout env
    if ← isAlive env .is_alive then
      terminate env .terminate
      join env .join
  catch _ =>
    if ← isAlive env .handler_is_alive then
      terminate env .handler_terminate
      join env .handler_join

/-- `_close_connections(parent_conn, child_conn)`: both closes in one `try`, so a raise of the
first skips the second. -/
def closeConnections : EStateM PyExc ReleaseWorld Unit :=
  try
    close env .parent_close fun w => { w with parent_open := false }
    close env .child_close fun w => { w with child_open := false }
  catch _ => pure ()

/-- Ghost: note that a release step starts. -/
def enter (step : ReleaseStep) : EStateM PyExc ReleaseWorld Unit :=
  modify fun w => { w with entered := w.entered ++ [step] }

/-- The `finally` block of `profiling_context`. -/
def release : EStateM PyExc ReleaseWorld Unit := do
  enter .send_stop
  try sendStopSignal env .parent_send true fun w => { w with to_monitor := w.to_monitor ++ ["stop"] }
  catch _ => pure ()
  enter .jobrunner_signal
  try handleJobrunnerSignal env catch _ => pure ()
  enter .finalize
  finalizeProcess env
  enter .close_connections
  closeConnections env

end Release

/-- `with profiling_context(...)`: `Pipe()` and a started monitor, then the scope's body with
outcome `body`, then the release, whose exception replaces the body's. `monitor_alive` says
whether the monitor still runs when the body ends. -/
def profilingContext (env : ReleaseEnv) (monitor_alive : Bool) (body : Except PyExc α) :
    EStateM PyExc ReleaseWorld α := do
  set (⟨monitor_alive, true, true, [], [], []⟩ : ReleaseWorld)
  Release.release env
  liftExcept body

/-- Two failures the release does not survive. When `parent_conn.close()` raises,
`child_conn.close()` is never called. When `join(timeout=5)` and then the handler's
`is_alive()` raise, `_finalize_process` raises, `_close_connections` never runs, the monitor
is left running, and the exception leaves the scope in place of the body's outcome. -/
theorem release_skips_closing :
    let w : ReleaseWorld := ⟨true, true, true, [], [], []⟩
    let e₁ : ReleaseEnv := ⟨fun s => s == .parent_close, none, true, true⟩
    let e₂ : ReleaseEnv := ⟨fun s => s == .join_timeout || s == .handler_is_alive, none, true, false⟩
    let r₁ := profilingContext e₁ true (.ok ()) w
    let r₂ := profilingContext e₂ true (.ok ()) w
    (resultState r₁).entered = [.send_stop, .jobrunner_signal, .finalize, .close_connections] ∧
      (resultState r₁).child_open = true ∧
      resultExc r₂ = some (.Other "OSError") ∧
      (resultState r₂).entered = [.send_stop, .jobrunner_signal, .finalize] ∧
      (resultState r₂).monitor_alive = true ∧ (resultState r₂).parent_open = true ∧
      (resultState r₂).child_open = true := by
  decide

namespace Release

/-- `w'` is `w` with at most the monitor's liveness changed. -/
def MonitorOnly (w w' : ReleaseWorld) : Prop := ∃ b, w' = { w with monitor_alive := b }

/-- `w'` differs from `w` at most in what was sent on the channels. -/
def SameEnds (w w' : ReleaseWorld) : Prop :=
  w'.monitor_alive = w.monitor_alive ∧ w'.parent_open = w.parent_open ∧
    w'.child_open = w.child_open ∧ w'.entered = w.entered

instance instIsReflMonitorOnly : IsRefl ReleaseWorld MonitorOnly :=
  ⟨fun w => ⟨w.monitor_alive, rfl⟩⟩

instance instIsTransMonitorOnly : IsTrans ReleaseWorld MonitorOnly :=
  ⟨fun _ _ _ ⟨_, h₁⟩ ⟨c, h₂⟩ => ⟨c, by rw [h₂, h₁]⟩⟩

instance instIsReflSameEnds : IsRefl ReleaseWorld SameEnds := ⟨fun _ => ⟨rfl, rfl, rfl, rfl⟩⟩

instance instIsTransSameEnds : IsTrans ReleaseWorld SameEnds :=
  ⟨fun _ _ _ ⟨a₁, b₁, c₁, d₁⟩ ⟨a₂, b₂, c₂, d₂⟩ =>
    ⟨a₂.trans a₁, b₂.trans b₁, c₂.trans c₁, d₂.trans d₁⟩⟩

/-- A part of `_finalize_process` that changes nothing but the monitor, and returns only once
the monitor is gone. -/
def Stops (x : EStateM PyExc ReleaseWorld Unit) : Prop :=
  ∀ w, ∃ b, resultState (x w) = { w with monitor_alive := b } ∧ (resultExc (x w) = none → b = false)

variable {env : ReleaseEnv}

theorem Stops.bind {x : EStateM PyExc ReleaseWorld α} {f : α → EStateM PyExc ReleaseWorld Unit}
    (hx : Keeps MonitorOnly x) (hf : ∀ a, Stops (f a)) : Stops (x >>= f) := fun w => by
  obtain ⟨b, hb⟩ := hx w
  simp only [Bind.bind, EStateM.bind]
  cases hr : x w with
  | ok a w' =>
    rw [hr] at hb
    obtain rfl : w' = { w with monitor_alive := b } := hb
    exact hf a _
  | error e w' =>
    rw [hr] at hb
    exact ⟨b, hb, nofun⟩

theorem Stops.tryCatch {x : EStateM PyExc ReleaseWorld Unit}
    {h : PyExc → EStateM PyExc ReleaseWorld Unit} (hx : Stops x) (hh : ∀ e, Stops (h e)) :
    Stops (tryCatch x h) := by
  change Stops (EStateM.tryCatch x h)
  intro w
  obtain ⟨b, hb, hd⟩ := hx w
  simp only [EStateM.tryCatch]
  cases hr : x w with
  | ok a w' => rw [hr] at hb hd; exact ⟨b, hb, hd⟩
  | error e w' =>
    rw [hr] at hb
    obtain rfl : w' = { w with monitor_alive := b } := hb
    exact hh e _

theorem joinTimeout_keeps : Keeps MonitorOnly (joinTimeout env) := fun w => by
  unfold joinTimeout call
  split
  · exact refl_of MonitorOnly w
  · split
    · exact ⟨false, rfl⟩
    · exact refl_of MonitorOnly w

/-- The check that both `_finalize_process` blocks make: `terminate()` and `join()` when
`is_alive()`. -/
theorem stops_if_alive (a t j : Site) :
    Stops (do
      if ← isAlive env a then
        terminate env t
        join env j) := fun w => by
  simp only [isAlive, terminate, join, call, bind, EStateM.bind]
  by_cases ha : env.raises a
  · exact ⟨w.monitor_alive, by simp [ha]⟩
  rcases w with ⟨_ | _, po, co, tm, tj, en⟩
  · exact ⟨false, by simp [ha, pure, EStateM.pure]⟩
  by_cases ht : env.raises t
  · exact ⟨true, by simp [ha, ht, call, EStateM.bind]⟩
  by_cases hj : env.raises j <;>
    simp [ha, ht, hj, call, EStateM.bind]

/-- `_finalize_process` changes nothing but the monitor, and returns only once the monitor is
gone. -/
theorem finalizeProcess_stops : Stops (finalizeProcess env) := by
  unfold finalizeProcess
  exact .tryCatch (.bind joinTimeout_keeps fun _ => stops_if_alive _ _ _)
    fun _ => stops_if_alive _ _ _

theorem call_keeps {R : ReleaseWorld → ReleaseWorld → Prop} [IsRefl ReleaseWorld R] (site : Site)
    {effect : ReleaseWorld → ReleaseWorld} (he : ∀ w, R w (effect w)) (result : ReleaseWorld → α) :
    Keeps R (call env site effect result) := fun w => by
  unfold call
  split
  · exact refl_of R w
  · exact he w

theorem sendStopSignal_keeps (site : Site) (writable : Bool) {record : ReleaseWorld → ReleaseWorld}
    (hr : ∀ w, SameEnds w (record w)) :
    Keeps SameEnds (sendStopSignal env site writable record) := by
  unfold sendStopSignal
  split
  · exact call_keeps site hr _
  · exact .pure ()

theorem handleJobrunnerSignal_keeps : Keeps SameEnds (handleJobrunnerSignal env) := by
  unfold handleJobrunnerSignal
  refine .bind (call_keeps _ (refl_of _) _) fun polled => ?_
  split
  · exact .bind (call_keeps _ (refl_of _) _) fun message => by
      split
      · exact sendStopSignal_keeps _ _ fun _ => ⟨rfl, rfl, rfl, rfl⟩
      · exact .pure ()
  · exact .pure ()

/-- A statement under `try: ... except Exception as e: logger.error(...)` returns, keeping what
it did before any exception. -/
theorem tryCatch_log (x : EStateM PyExc ReleaseWorld Unit) (w : ReleaseWorld) :
    (try x catch _ => pure () : EStateM PyExc ReleaseWorld Unit) w =
      .ok () (resultState (x w)) := by
  change EStateM.tryCatch x _ w = _
  simp only [EStateM.tryCatch]
  cases x w <;> rfl

/-- `_close_connections` returns: `parent_conn` is closed, and `child_conn` too unless
`parent_conn.close()` raised. -/
theorem closeConnections_eq (w : ReleaseWorld) :
    closeConnections env w = .ok ()
      { w with parent_open := false, child_open := w.child_open && env.raises .parent_close } := by
  rw [closeConnections, tryCatch_log]
  by_cases hp : env.raises .parent_close
  · simp [close, hp, bind, EStateM.bind]
  · by_cases hc : env.raises .child_close <;> simp [close, hp, hc, bind, EStateM.bind]

/-- The release is `_finalize_process` on a world that the first two statements changed only
on the channels, then, if it returns, `_close_connections`. -/
theorem release_eq (w : ReleaseWorld) :
    ∃ w₁ : ReleaseWorld,
      SameEnds { w with entered := w.entered ++ [.send_stop, .jobrunner_signal, .finalize] } w₁ ∧
      release env w = match finalizeProcess env w₁ with
        | .ok () s => .ok () { s with
            entered := s.entered ++ [.close_connections]
            parent_open := false
            child_open := s.child_open && env.raises .parent_close }
        | .error e s => .error e s := by
  simp only [release, enter, bind, EStateM.bind, modify, modifyGet, MonadStateOf.modifyGet,
    EStateM.modifyGet, tryCatch_log]
  have h₁ := @sendStopSignal_keeps env .parent_send true
    (fun w => { w with to_monitor := w.to_monitor ++ ["stop"] }) (fun _ => ⟨rfl, rfl, rfl, rfl⟩)
    { w with entered := w.entered ++ [.send_stop] }
  generalize resultState (sendStopSignal env .parent_send true
    (fun w => { w with to_monitor := w.to_monitor ++ ["stop"] })
    { w with entered := w.entered ++ [.send_stop] }) = w₁ at h₁ ⊢
  have h₂ :=
    @handleJobrunnerSignal_keeps env { w₁ with entered := w₁.entered ++ [.jobrunner_signal] }
  generalize resultState (handleJobrunnerSignal env
    { w₁ with entered := w₁.entered ++ [.jobrunner_signal] }) = w₂ at h₂ ⊢
  refine ⟨{ w₂ with entered := w₂.entered ++ [.finalize] }, ?_, ?_⟩
  · obtain ⟨a₁, b₁, c₁, d₁⟩ := h₁
    obtain ⟨a₂, b₂, c₂, d₂⟩ := h₂
    exact ⟨a₂.trans a₁, b₂.trans b₁, c₂.trans c₁, by simp [d₂, d₁]⟩
  · cases finalizeProcess env { w₂ with entered := w₂.entered ++ [.finalize] } <;>
      simp only [closeConnections_eq]

/-- Whatever fails, the release enters its first three steps, and it returns exactly when
`_finalize_process` does. When it returns, it has entered the fourth step, the monitor is gone,
`parent_conn` is closed, and `child_conn` is closed unless `parent_conn.close()` raised; when it
raises, neither end of the pipe has been closed. -/
theorem release_spec (w : ReleaseWorld) :
    let r := release env w
    ∃ rest,
      (resultState r).entered = w.entered ++ [.send_stop, .jobrunner_signal, .finalize] ++ rest ∧
      (resultExc r = none → rest = [.close_connections] ∧ (resultState r).monitor_alive = false ∧
        (resultState r).parent_open = false ∧
        (resultState r).child_open = (w.child_open && env.raises .parent_close)) ∧
      (resultExc r ≠ none → rest = [] ∧ (resultState r).parent_open = w.parent_open ∧
        (resultState r).child_open = w.child_open) := by
  obtain ⟨w₁, ⟨-, hp, hc, he⟩, hr⟩ := @release_eq env w
  obtain ⟨b, hb, hd⟩ := @finalizeProcess_stops env w₁
  dsimp only
  rw [hr]
  cases hf : finalizeProcess env w₁ with
  | ok _ s =>
    rw [hf] at hb hd
    obtain rfl : s = { w₁ with monitor_alive := b } := hb
    exact ⟨[.close_connections], by simp [he], fun _ => ⟨rfl, hd rfl, rfl, by
      simp [hc]⟩, fun h => absurd rfl h⟩
  | error e s =>
    rw [hf] at hb
    obtain rfl : s = { w₁ with monitor_alive := b } := hb
    exact ⟨[], by simp [he], nofun, fun _ => ⟨rfl, hp, hc⟩⟩

end Release

end Lithopserve.Profiling
