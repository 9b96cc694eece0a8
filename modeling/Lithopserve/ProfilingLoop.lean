import Mathlib.Data.List.Basic
import Lithopserve.ProfilingAggregator
import Lithopserve.ProfilingExporter

/-! `Profiler` of `worker/profiler.py`: the loop of `start_profiling` as a state machine over
rounds. Each round gets the answers of `psutil`, of the control channel `conn` and of the
sleep before the next round; the calls of `prometheus.send_metric` are kept in order. -/

namespace Lithopserve.Profiling

/-- `Profiler.METRIC_COLLECTIONS_FIELDS`, in the dict's order. -/
def METRIC_COLLECTIONS_FIELDS : List (String × List String) :=
  [("cpu_metrics", ["cpu_usage", "user_time", "system_time", "children_user_time",
      "children_system_time", "iowait_time"]),
    ("memory_metrics", ["memory_usage"]),
    ("disk_metrics", ["disk_read_mb", "disk_write_mb", "disk_read_rate", "disk_write_rate"]),
    ("network_metrics", ["net_read_mb", "net_write_mb", "net_read_rate", "net_write_rate"])]

/-- `getattr(self.metrics, metric_type, [])`. -/
def MetricCollector.getattr (mc : MetricCollector) : String → List MetricBase
  | "cpu_metrics" => mc.cpu_metrics
  | "memory_metrics" => mc.memory_metrics
  | "disk_metrics" => mc.disk_metrics
  | "network_metrics" => mc.network_metrics
  | _ => []

/-- The job descriptor's attributes that `_prepare_profiling_data` reads. -/
structure Job where
  job_id : String
  executor_id : String
  call_id : String
  deriving DecidableEq, Repr

/-- `Profiler._prepare_profiling_data`, a dict kept as its items in insertion order. -/
def prepareProfilingData (job : Job) : List (String × String) :=
  [("job_id", job.job_id), ("executor_id", job.executor_id), ("call_id", job.call_id)]

/-- `d[key] = value` on a dict kept as its items in insertion order. -/
def dictSet (d : List (String × String)) (key value : String) : List (String × String) :=
  if d.any (·.1 == key) then d.map fun kv => if kv.1 = key then (key, value) else kv
  else d ++ [(key, value)]

/-- `d.update(other)`: each pair of `other` in turn assigned in `d`. -/
def dictUpdate (d other : List (String × String)) : List (String × String) :=
  other.foldl (fun d kv => dictSet d kv.1 kv.2) d

/-- `str(x)` of an `Optional[int]`. -/
def pyStr : Option ℕ → String
  | some n => toString n
  | none => "None"

/-- A call `prometheus.send_metric(name=key, value=value, type=metric_type, labels=labels)`. -/
structure SentMetric where
  name : String
  value : ℚ
  type : String
  labels : List (String × String)
  deriving DecidableEq

/-- What a profiler holds across rounds: the collectors' lists, and the metrics handed to
the exporter so far. -/
structure Profiler where
  metrics : MetricCollector
  sent : List SentMetric
  deriving DecidableEq

namespace Profiler

/-- `_send_metrics_to_prometheus`: one call per key the record has, labelled with the job
and, except for the network, the record's process. A failing call is logged and skipped. -/
def sendMetricsToPrometheus (metric : MetricBase) (metric_type : String) (keys : List String)
    (profiling_data : List (String × String)) : List SentMetric :=
  keys.filterMap fun key => (metric.attr key).map fun metric_value =>
    let labels_dict := if metric_type ≠ "network_metrics" then
        dictUpdate profiling_data [("pid", pyStr metric.pid), ("parent_pid", pyStr metric.parent_pid)]
      else profiling_data
    ⟨key, metric_value, "gauge", labels_dict⟩

/-- `send_metric_to_prometheus`: the request the exporter `prometheus` posts for a metric, if
any; an exception is logged. The value is a `float`, and the labels a dict. -/
def sendMetricToPrometheus (prometheus : PrometheusExporter) (str : ℚ → String) (m : SentMetric) :
    Option PostRequest :=
  match prometheus.sendMetric m.name (some m.value) m.type (.dict m.labels) none str with
  | .ok request => request
  | .error _ => none

/-- `_send_metrics`: of each list, the record at position `index`, if there is one. -/
def sendMetrics (mc : MetricCollector) (profiling_data : List (String × String)) (index : ℕ) :
    List SentMetric :=
  METRIC_COLLECTIONS_FIELDS.flatMap fun (metric_type, keys) =>
    let metric_list := mc.getattr metric_type
    if h : index < metric_list.length then
      sendMetricsToPrometheus metric_list[index] metric_type keys profiling_data
    else []

/-- `_collect_metrics`: `NoSuchProcess` out of `collect_all_metrics` is logged and ends the
call. -/
def collectMetrics (monitored_process_pid index : ℕ) (env : RoundEnv) :
    EStateM PyExc MetricCollector Unit := fun mc =>
  match MetricCollector.collectAllMetrics monitored_process_pid index env mc with
  | .error e mc' => if e.isNoSuchProcess then .ok () mc' else .error e mc'
  | r => r

/-- `_check_stop_signal`, where `poll` and `recv` answer `conn.poll()` and `conn.recv()`. -/
def checkStopSignal (poll : Except PyExc Bool) (recv : Except PyExc String) : Except PyExc Bool := do
  if ← poll then
    let message ← recv
    if message = "stop" then return true
  return false

end Profiler

/-- What one round of the loop is answered: `psutil` during `collect_all_metrics`, then
`conn.poll()` and `conn.recv()`, then `_sleep_until_next_interval`, which raises when
`time.sleep` overflows (`OverflowError`, an interval of about `1e10` s) or `profiler_timeout` is
not a number (`TypeError`). -/
structure RoundInput where
  collect : RoundEnv
  poll : Except PyExc Bool
  recv : Except PyExc String
  sleep : Except PyExc Unit

namespace Profiler

/-- The round after `_collect_and_send_metrics`: `_check_stop_signal`, and unless it breaks,
`_sleep_until_next_interval`. -/
def endRound (inp : RoundInput) : Except PyExc Bool := do
  if ← checkStopSignal inp.poll inp.recv then return true
  inp.sleep
  return false

theorem endRound_of_stop {inp : RoundInput} (h : checkStopSignal inp.poll inp.recv = .ok true) :
    endRound inp = .ok true := by
  rw [endRound, h]
  rfl

theorem endRound_of_continue {inp : RoundInput}
    (hc : checkStopSignal inp.poll inp.recv = .ok false) (hs : inp.sleep = .ok ()) :
    endRound inp = .ok false := by
  rw [endRound, hc, hs]
  rfl

/-- The body of `while True` in `start_profiling`: `_collect_and_send_metrics`, then the end
of the round, giving whether the loop breaks, or the exception that leaves it. -/
def loopBody (self : Profiler) (monitored_process_pid index : ℕ)
    (profiling_data : List (String × String)) (inp : RoundInput) : Profiler × Except PyExc Bool :=
  match collectMetrics monitored_process_pid index inp.collect self.metrics with
  | .error e mc => ({ self with metrics := mc }, .error e)
  | .ok () mc =>
    (⟨mc, self.sent ++ sendMetrics mc profiling_data index⟩, endRound inp)

end Profiler

/-- Where `start_profiling` is: looping with the next round's `index`, returned, or raised. -/
inductive LoopPhase
  | running (index : ℕ)
  | returned
  | raised (e : PyExc)
  deriving DecidableEq, Repr

/-- A run of `start_profiling(conn, monitored_process_pid, prometheus, job)` so far. -/
structure ProfilingRun where
  profiler : Profiler
  phase : LoopPhase
  conn_closed : Bool

namespace ProfilingRun

/-- `start_profiling` up to its loop, where `init` answers `_initialize_process`
(`psutil.Process(pid).cpu_percent()`), which is outside the `try`. -/
def start (init : Except PyExc Unit) : ProfilingRun :=
  match init with
  | .ok () => ⟨⟨MetricCollector.init, []⟩, .running 0, false⟩
  | .error e => ⟨⟨MetricCollector.init, []⟩, .raised e, false⟩

/-- One round of the loop. Both a `NoSuchProcess` (the inner `except`, which breaks) and any
other exception (the outer `except`, which logs) end the loop normally, and `finally`
closes `conn`; a run that has ended stays as it is. -/
def step (monitored_process_pid : ℕ) (profiling_data : List (String × String))
    (s : ProfilingRun) (inp : RoundInput) : ProfilingRun :=
  match s.phase with
  | .running index =>
    match s.profiler.loopBody monitored_process_pid index profiling_data inp with
    | (p, .ok false) => ⟨p, .running (index+1), false⟩
    | (p, _) => ⟨p, .returned, true⟩
  | _ => s

end ProfilingRun

/-- `start_profiling` over the rounds answered by `inputs`. -/
def runProfiling (monitored_process_pid : ℕ) (job : Job) (init : Except PyExc Unit)
    (inputs : List RoundInput) : ProfilingRun :=
  inputs.foldl (ProfilingRun.step monitored_process_pid (prepareProfilingData job))
    (ProfilingRun.start init)

namespace Profiler

variable (self : Profiler) (monitored_process_pid index : ℕ)
  (profiling_data : List (String × String)) (inp : RoundInput)

theorem resultState_collectMetrics (env : RoundEnv) (mc : MetricCollector) :
    resultState (collectMetrics monitored_process_pid index env mc) =
      resultState (MetricCollector.collectAllMetrics monitored_process_pid index env mc) := by
  unfold collectMetrics
  cases MetricCollector.collectAllMetrics monitored_process_pid index env mc with
  | ok _ _ => rfl
  | error e _ => dsimp only; split <;> rfl

/-- The lists a round leaves are those `collect_all_metrics` leaves, returning or raising. -/
theorem loopBody_metrics :
    (self.loopBody monitored_process_pid index profiling_data inp).1.metrics =
      resultState (MetricCollector.collectAllMetrics monitored_process_pid index inp.collect
        self.metrics) := by
  rw [← resultState_collectMetrics, loopBody]
  cases collectMetrics monitored_process_pid index inp.collect self.metrics <;> rfl

theorem loopBody_wellFormed (h : self.metrics.WellFormed) :
    (self.loopBody monitored_process_pid index profiling_data inp).1.metrics.WellFormed := by
  rw [loopBody_metrics]
  exact (MetricCollector.collectAllMetrics_keeps _ _ _ _).wellFormed h

/-- A round hands the exporter nothing, or the records at position `index` of the lists it
leaves. -/
theorem loopBody_sent :
    let p := (self.loopBody monitored_process_pid index profiling_data inp).1
    p.sent = self.sent ∨ p.sent = self.sent ++ sendMetrics p.metrics profiling_data index := by
  simp only [loopBody]
  cases collectMetrics monitored_process_pid index inp.collect self.metrics <;> simp

variable {self monitored_process_pid index profiling_data inp} in
/-- A round whose `_collect_metrics` returns hands the exporter the records at position `index`
of the lists it leaves, then reads `conn` and sleeps. -/
theorem loopBody_of_collectMetrics {mc : MetricCollector}
    (h : collectMetrics monitored_process_pid index inp.collect self.metrics = .ok () mc) :
    self.loopBody monitored_process_pid index profiling_data inp =
      (⟨mc, self.sent ++ sendMetrics mc profiling_data index⟩, endRound inp) := by
  rw [loopBody, h]

variable {monitored_process_pid index} in
theorem collectMetrics_of_collectAllMetrics {env : RoundEnv} {mc mc' : MetricCollector}
    (h : MetricCollector.collectAllMetrics monitored_process_pid index env mc = .ok () mc') :
    collectMetrics monitored_process_pid index env mc = .ok () mc' := by
  rw [collectMetrics, h]

end Profiler

namespace ProfilingRun

variable {monitored_process_pid : ℕ} {profiling_data : List (String × String)}

/-- Once the loop has ended, a round changes nothing. -/
theorem step_of_ended {s : ProfilingRun} (hs : ∀ index, s.phase ≠ .running index)
    (inp : RoundInput) : step monitored_process_pid profiling_data s inp = s := by
  unfold step
  split
  · next index h => exact absurd h (hs index)
  · rfl

/-- A round of a running loop: the body runs with the loop's `index`, and the loop goes on,
with `conn` open, exactly when the body returns `False`, and else returns with `conn`
closed. -/
theorem step_running (monitored_process_pid : ℕ) (profiling_data : List (String × String))
    {s : ProfilingRun} {index : ℕ} (hs : s.phase = .running index) (inp : RoundInput) :
    let body := s.profiler.loopBody monitored_process_pid index profiling_data inp
    let s' := step monitored_process_pid profiling_data s inp
    s'.profiler = body.1 ∧
      (body.2 = .ok false ∧ s'.phase = .running (index+1) ∧ s'.conn_closed = false ∨
        body.2 ≠ .ok false ∧ s'.phase = .returned ∧ s'.conn_closed = true) := by
  simp only [step, hs]
  rcases s.profiler.loopBody monitored_process_pid index profiling_data inp with
    ⟨p, e | _ | _⟩ <;> simp

/-- A run that has ended stays as it is whatever comes after. -/
theorem foldl_step_of_ended {s : ProfilingRun} (hs : ∀ index, s.phase ≠ .running index) :
    ∀ inputs : List RoundInput, inputs.foldl (step monitored_process_pid profiling_data) s = s
  | [] => rfl
  | inp :: inputs => by rw [List.foldl_cons, step_of_ended hs, foldl_step_of_ended hs inputs]

/-- A `"stop"` on `conn` ends the loop, with `conn` closed, in the round that polls it,
whatever `psutil` answers in that round. -/
theorem step_stop {s : ProfilingRun} {index : ℕ} (hs : s.phase = .running index)
    {inp : RoundInput} (hpoll : inp.poll = .ok true) (hrecv : inp.recv = .ok "stop") :
    (step monitored_process_pid profiling_data s inp).phase = .returned ∧
      (step monitored_process_pid profiling_data s inp).conn_closed = true := by
  obtain ⟨-, ⟨hb, -⟩ | ⟨-, h⟩⟩ := step_running monitored_process_pid profiling_data hs inp
  · have he : Profiler.endRound inp = .ok true := Profiler.endRound_of_stop (by
      simp [Profiler.checkStopSignal, hpoll, hrecv, bind, Except.bind, pure, Except.pure])
    revert hb
    simp only [Profiler.loopBody]
    cases Profiler.collectMetrics monitored_process_pid index inp.collect s.profiler.metrics <;>
      simp [he]
  · exact h

/-- When the monitored process is gone as a round resolves the tree, `_collect_metrics` logs and
returns with the lists as they were, so the loop goes on to the next round with `conn` open
unless a `"stop"` is read or the sleep raises. -/
theorem step_of_root_gone {s : ProfilingRun} {index : ℕ} (hs : s.phase = .running index)
    {inp : RoundInput} {p : ℕ} (hr : inp.collect.root = .error (.NoSuchProcess p))
    (hc : Profiler.endRound inp = .ok false) :
    let s' := step monitored_process_pid profiling_data s inp
    s'.phase = .running (index+1) ∧ s'.conn_closed = false ∧
      s'.profiler.metrics = s.profiler.metrics := by
  have hm : Profiler.collectMetrics monitored_process_pid index inp.collect s.profiler.metrics =
      .ok () s.profiler.metrics := by
    simp [Profiler.collectMetrics, MetricCollector.collectAllMetrics,
      MetricCollector.getProcessList, hr, bind, Except.bind, liftExcept, EStateM.bind, throw,
      throwThe, MonadExceptOf.throw, EStateM.throw, PyExc.isNoSuchProcess]
  obtain ⟨hp, hphase⟩ := step_running monitored_process_pid profiling_data hs inp
  rw [Profiler.loopBody_of_collectMetrics hm, hc] at hp hphase
  obtain ⟨-, h₁, h₂⟩ := hphase.resolve_right fun h => h.1 rfl
  exact ⟨h₁, h₂, by rw [hp]⟩

end ProfilingRun

/-- When `_initialize_process` raises, the exception leaves `start_profiling` before its
`try`: no round runs and `conn` is left open. -/
theorem runProfiling_of_init_error (monitored_process_pid : ℕ) (job : Job) (e : PyExc)
    (inputs : List RoundInput) :
    runProfiling monitored_process_pid job (.error e) inputs =
      ⟨⟨MetricCollector.init, []⟩, .raised e, false⟩ :=
  ProfilingRun.foldl_step_of_ended (fun _ h => by cases h) inputs

theorem dictUpdate_prepareProfilingData (job : Job) (pid parent_pid : String) :
    dictUpdate (prepareProfilingData job) [("pid", pid), ("parent_pid", parent_pid)] =
      prepareProfilingData job ++ [("pid", pid), ("parent_pid", parent_pid)] := by
  simp [dictUpdate, dictSet, prepareProfilingData]

/-- Every metric a round hands the exporter is a gauge whose labels start with the job's. -/
theorem sendMetrics_labels (mc : MetricCollector) (job : Job) (index : ℕ) :
    ∀ m ∈ Profiler.sendMetrics mc (prepareProfilingData job) index,
      m.type = "gauge" ∧ prepareProfilingData job <+: m.labels := by
  intro m hm
  simp only [Profiler.sendMetrics, List.mem_flatMap] at hm
  obtain ⟨⟨metric_type, keys⟩, -, hm⟩ := hm
  split at hm
  · simp only [Profiler.sendMetricsToPrometheus, List.mem_filterMap, Option.map_eq_some'] at hm
    obtain ⟨key, -, v, -, rfl⟩ := hm
    refine ⟨rfl, ?_⟩
    split_ifs
    · rw [dictUpdate_prepareProfilingData]
      exact List.prefix_append _ _
    · exact List.prefix_refl _
  · simp at hm

namespace ProfilingRun

/-- What holds of a run after `n` rounds once `_initialize_process` has returned: the lists
keep their invariant, every metric handed to the exporter is a gauge labelled first with the
job, and the loop is either at round `n` with `conn` open or has returned with `conn` closed. -/
structure Invariant (job : Job) (n : ℕ) (s : ProfilingRun) : Prop where
  metrics : s.profiler.metrics.WellFormed
  sent : ∀ m ∈ s.profiler.sent, m.type = "gauge" ∧ prepareProfilingData job <+: m.labels
  phase : s.phase = .running n ∧ s.conn_closed = false ∨ s.phase = .returned ∧ s.conn_closed = true

namespace Invariant

variable {job : Job} {n : ℕ} {s : ProfilingRun}

theorem start (job : Job) : Invariant job 0 (ProfilingRun.start (.ok ())) :=
  ⟨MetricCollector.wellFormed_init, fun _ h => (nomatch h), .inl ⟨rfl, rfl⟩⟩

theorem step (hs : Invariant job n s) (monitored_process_pid : ℕ) (inp : RoundInput) :
    Invariant job (n+1)
      (ProfilingRun.step monitored_process_pid (prepareProfilingData job) s inp) := by
  rcases hs.phase with ⟨hr, -⟩ | ⟨hr, hc⟩
  · obtain ⟨hp, hphase⟩ := step_running monitored_process_pid (prepareProfilingData job) hr inp
    refine ⟨?_, ?_, hphase.imp And.right And.right⟩
    · rw [hp]
      exact s.profiler.loopBody_wellFormed _ _ _ _ hs.metrics
    · rw [hp]
      rcases Profiler.loopBody_sent s.profiler monitored_process_pid n
        (prepareProfilingData job) inp with h | h <;> rw [h]
      · exact hs.sent
      · exact List.forall_mem_append.mpr ⟨hs.sent, sendMetrics_labels _ job n⟩
  · rw [step_of_ended (by simp [hr]) inp]
    exact ⟨hs.metrics, hs.sent, .inr ⟨hr, hc⟩⟩

theorem foldl (monitored_process_pid : ℕ) :
    ∀ (inputs : List RoundInput) {n : ℕ} {s : ProfilingRun}, Invariant job n s →
      Invariant job (n + inputs.length)
        (inputs.foldl (ProfilingRun.step monitored_process_pid (prepareProfilingData job)) s)
  | [], _, _, hs => hs
  | inp :: inputs, n, _, hs => by
    rw [List.foldl_cons, List.length_cons, ← Nat.add_assoc, Nat.add_right_comm]
    exact foldl monitored_process_pid inputs (hs.step monitored_process_pid inp)

end Invariant

end ProfilingRun

/-- At every point of a run whose `_initialize_process` returned: the lists keep their
invariant, so every disk and network record obeys the rate law; every metric handed to the
exporter is a gauge labelled first with the job; `start_profiling` has not raised; and either
it is in its loop, with `index` the number of rounds so far and `conn` open, or it has returned
with `conn` closed. -/
theorem runProfiling_invariant (monitored_process_pid : ℕ) (job : Job) (inputs : List RoundInput) :
    ProfilingRun.Invariant job inputs.length
      (runProfiling monitored_process_pid job (.ok ()) inputs) := by
  simpa using ProfilingRun.Invariant.foldl monitored_process_pid inputs
    (ProfilingRun.Invariant.start job)

/-- In every run whose `_initialize_process` returned, every metric handed to an exporter that
is enabled with a gateway is posted: the URL string handed to `requests.post` starts with the
gateway's `metrics/` path and the job's labels. -/
theorem runProfiling_posts_under_job (monitored_process_pid : ℕ) (job : Job)
    (inputs : List RoundInput) {prometheus : PrometheusExporter} {gw : String}
    (hg : prometheus.apigateway = some gw) (he : prometheus.enabled = true) (hgw : gw ≠ "")
    (str : ℚ → String) :
    ∀ m ∈ (runProfiling monitored_process_pid job (.ok ()) inputs).profiler.sent,
      ∃ r, Profiler.sendMetricToPrometheus prometheus str m = some r ∧
        ("/".intercalate [gw, "metrics", labelPath prometheus.job prometheus.«instance»
          (prepareProfilingData job)]).data <+: r.url.data := by
  intro m hm
  obtain ⟨-, rest, hl⟩ := (runProfiling_invariant monitored_process_pid job inputs).sent m hm
  obtain ⟨data, hd⟩ := sendMetric_dict hg he hgw m.name m.type m.value m.labels none str
  refine ⟨_, by rw [Profiler.sendMetricToPrometheus, hd], ?_⟩
  rw [← hl]
  simp only [String.intercalate, String.intercalate.go, String.data_append, labelPath_data,
    labelSegments, List.flatMap_append]
  exact ⟨labelSegments rest, by simp only [labelSegments, List.append_assoc]⟩

/-- An exporter enabled with a gateway, over a run with one round. -/
theorem runProfiling_posts_under_job_example :
    let prometheus : PrometheusExporter := ⟨true, some "gateway", "lithops", "s0"⟩
    let job : Job := ⟨"job", "executor", "0"⟩
    let a : ProcessAnswers := ⟨.ok 1, 0, .ok 0, 0, .ok ⟨0, ⟨0, 0, none, none, none⟩⟩, 0, .ok ⟨0, 0⟩⟩
    let inp : RoundInput := ⟨⟨.ok a, .ok [], 0, .ok ⟨0, 0⟩⟩, .ok false, .ok "", .ok ()⟩
    prometheus.apigateway = some "gateway" ∧ prometheus.enabled = true ∧ "gateway" ≠ "" ∧
      ∀ m ∈ (runProfiling 7 job (.ok ()) [inp]).profiler.sent,
        ∃ r, Profiler.sendMetricToPrometheus prometheus (fun _ => "0") m = some r ∧
          ("/".intercalate ["gateway", "metrics", labelPath prometheus.job prometheus.«instance»
            (prepareProfilingData job)]).data <+: r.url.data :=
  have hg : (⟨true, some "gateway", "lithops", "s0"⟩ : PrometheusExporter).apigateway =
    some "gateway" := rfl
  have he : (⟨true, some "gateway", "lithops", "s0"⟩ : PrometheusExporter).enabled = true := rfl
  have hgw : "gateway" ≠ "" := by decide
  ⟨hg, he, hgw, runProfiling_posts_under_job 7 _ _ hg he hgw _⟩

/-- A round that leaves the loop going: every process of the tree snapshot answers
`proc.ppid()`, `psutil` raises nothing but `NoSuchProcess`, `conn` holds no `"stop"`, and the
sleep returns. -/
structure RoundInput.Quiet (monitored_process_pid : ℕ) (inp : RoundInput) : Prop where
  tree : ∃ process_list, MetricCollector.getProcessList monitored_process_pid inp.collect =
    .ok process_list ∧ ∀ p ∈ process_list, p.2.NoFault
  net_io_counters : inp.collect.net_io_counters.isOk
  check : Profiler.checkStopSignal inp.poll inp.recv = .ok false
  sleep : inp.sleep = .ok ()

namespace ProfilingRun

variable {monitored_process_pid : ℕ} {profiling_data : List (String × String)}

/-- A quiet round of a running loop, over lists that keep their invariant, goes on to the next
round with `conn` open. -/
theorem step_of_quiet {s : ProfilingRun} {index : ℕ} (hs : s.phase = .running index)
    (hw : s.profiler.metrics.WellFormed) {inp : RoundInput}
    (hq : inp.Quiet monitored_process_pid) :
    let s' := step monitored_process_pid profiling_data s inp
    s'.phase = .running (index+1) ∧ s'.conn_closed = false := by
  obtain ⟨⟨_, hl, hp⟩, hn, hc, hsl⟩ := hq
  obtain ⟨mc', hm, -⟩ :=
    MetricCollector.collectAllMetrics_of_noFatal monitored_process_pid index hl hp hn hw
  obtain ⟨-, ⟨-, h⟩ | ⟨hb, -⟩⟩ := step_running monitored_process_pid profiling_data hs inp
  · exact h
  · rw [Profiler.loopBody_of_collectMetrics (Profiler.collectMetrics_of_collectAllMetrics hm),
      Profiler.endRound_of_continue hc hsl] at hb
    exact absurd rfl hb

theorem foldl_of_quiet {job : Job} :
    ∀ (inputs : List RoundInput) {n : ℕ} {s : ProfilingRun}, Invariant job n s →
      s.phase = .running n → (∀ inp ∈ inputs, inp.Quiet monitored_process_pid) →
      (inputs.foldl (step monitored_process_pid (prepareProfilingData job)) s).phase =
        .running (n + inputs.length)
  | [], _, _, _, hr, _ => hr
  | inp :: inputs, n, _, hs, hr, h => by
    rw [List.foldl_cons, List.length_cons, ← Nat.add_assoc, Nat.add_right_comm]
    exact foldl_of_quiet inputs (hs.step monitored_process_pid inp)
      (step_of_quiet hr hs.metrics (h inp (List.mem_cons_self _ _))).1
      fun i hi => h i (List.mem_cons_of_mem _ hi)

end ProfilingRun

namespace ProfilingRun

variable {monitored_process_pid : ℕ} {job : Job}

/-- A round only extends the lists and what was handed to the exporter, and leaves the lists
in the order of their collections. -/
theorem step_extends {n : ℕ} {s : ProfilingRun} (hs : Invariant job n s)
    (ho : s.profiler.metrics.Ordered n) (inp : RoundInput) :
    s.profiler.metrics.Extends
        (step monitored_process_pid (prepareProfilingData job) s inp).profiler.metrics ∧
      s.profiler.sent <+: (step monitored_process_pid (prepareProfilingData job) s inp).profiler.sent ∧
      (step monitored_process_pid (prepareProfilingData job) s inp).profiler.metrics.Ordered (n+1) := by
  rcases hs.phase with ⟨hr, -⟩ | ⟨hr, -⟩
  · obtain ⟨hp, -⟩ := step_running monitored_process_pid (prepareProfilingData job) hr inp
    have hk := MetricCollector.collectAllMetrics_keeps monitored_process_pid n inp.collect
      s.profiler.metrics
    rw [← Profiler.loopBody_metrics s.profiler monitored_process_pid n (prepareProfilingData job)
      inp] at hk
    obtain ⟨he, ho'⟩ := hk.extends_ordered hs.metrics ho
    rw [hp]
    refine ⟨he, ?_, ho'⟩
    rcases Profiler.loopBody_sent s.profiler monitored_process_pid n (prepareProfilingData job)
      inp with h | h
    · exact h ▸ List.prefix_refl _
    · exact h ▸ List.prefix_append _ _
  · rw [step_of_ended (by simp [hr]) inp]
    exact ⟨.refl _, List.prefix_refl _, ho.mono⟩

theorem foldl_extends :
    ∀ (inputs : List RoundInput) {n : ℕ} {s : ProfilingRun}, Invariant job n s →
      s.profiler.metrics.Ordered n →
      s.profiler.metrics.Extends (inputs.foldl
          (step monitored_process_pid (prepareProfilingData job)) s).profiler.metrics ∧
        s.profiler.sent <+: (inputs.foldl
          (step monitored_process_pid (prepareProfilingData job)) s).profiler.sent ∧
        (inputs.foldl (step monitored_process_pid (prepareProfilingData job)) s).profiler.metrics.Ordered
          (n + inputs.length)
  | [], _, _, _, ho => ⟨.refl _, List.prefix_refl _, ho⟩
  | inp :: inputs, n, _, hs, ho => by
    obtain ⟨e₁, p₁, o₁⟩ := step_extends hs ho inp
    obtain ⟨e₂, p₂, o₂⟩ := foldl_extends inputs (hs.step monitored_process_pid inp) o₁
    rw [List.foldl_cons, List.length_cons, ← Nat.add_assoc, Nat.add_right_comm]
    exact ⟨e₁.trans e₂, p₁.trans p₂, o₂⟩

/-- Rounds that find the monitored process gone, read no `"stop"` and sleep go on without
collecting. -/
theorem foldl_of_root_gone :
    ∀ (inputs : List RoundInput) {n : ℕ} {s : ProfilingRun}, s.phase = .running n →
      s.conn_closed = false →
      (∀ inp ∈ inputs, (∃ p, inp.collect.root = .error (.NoSuchProcess p)) ∧
        Profiler.checkStopSignal inp.poll inp.recv = .ok false ∧ inp.sleep = .ok ()) →
      let s' := inputs.foldl (step monitored_process_pid (prepareProfilingData job)) s
      s'.phase = .running (n + inputs.length) ∧ s'.conn_closed = false ∧
        s'.profiler.metrics = s.profiler.metrics
  | [], _, _, hr, hc, _ => ⟨hr, hc, rfl⟩
  | inp :: inputs, n, _, hr, _, h => by
    obtain ⟨⟨p, hp⟩, hk, hsl⟩ := h inp (List.mem_cons_self _ _)
    obtain ⟨hr', hc', hm'⟩ := @step_of_root_gone monitored_process_pid (prepareProfilingData job)
      _ _ hr _ _ hp (Profiler.endRound_of_continue hk hsl)
    obtain ⟨h₁, h₂, h₃⟩ := foldl_of_root_gone inputs hr' hc'
      fun i hi => h i (List.mem_cons_of_mem _ hi)
    rw [List.foldl_cons, List.length_cons, ← Nat.add_assoc, Nat.add_right_comm]
    exact ⟨h₁, h₂, h₃.trans hm'⟩

end ProfilingRun

theorem runProfiling_ordered (monitored_process_pid : ℕ) (job : Job) (inputs : List RoundInput) :
    (runProfiling monitored_process_pid job (.ok ()) inputs).profiler.metrics.Ordered
      inputs.length := by
  simpa using (ProfilingRun.foldl_extends inputs (ProfilingRun.Invariant.start job)
    (MetricCollector.ordered_init 0)).2.2

/-- `start_profiling` never removes or changes a collected record or a metric handed to the
exporter: at every later point of a run, each list and the metrics sent so far extend what
they were. -/
theorem runProfiling_append_only (monitored_process_pid : ℕ) (job : Job)
    (init : Except PyExc Unit) (inputs more : List RoundInput) :
    let p := (runProfiling monitored_process_pid job init inputs).profiler
    let p' := (runProfiling monitored_process_pid job init (inputs ++ more)).profiler
    p.metrics.Extends p'.metrics ∧ p.sent <+: p'.sent := by
  cases init with
  | error e =>
    simp only [runProfiling_of_init_error]
    exact ⟨.refl _, List.prefix_refl _⟩
  | ok u =>
    obtain ⟨e, p, -⟩ := ProfilingRun.foldl_extends more
      (runProfiling_invariant monitored_process_pid job inputs)
      (runProfiling_ordered monitored_process_pid job inputs)
    simp only [runProfiling, List.foldl_append] at e p ⊢
    exact ⟨e, p⟩

/-- In every run, each list holds its records in the order of their collections, and all of
them were collected in the rounds run so far. -/
theorem runProfiling_collection_ids (monitored_process_pid : ℕ) (job : Job)
    (init : Except PyExc Unit) (inputs : List RoundInput) :
    (runProfiling monitored_process_pid job init inputs).profiler.metrics.Ordered
      inputs.length := by
  cases init with
  | error e =>
    rw [runProfiling_of_init_error]
    exact MetricCollector.ordered_init _
  | ok u => exact runProfiling_ordered monitored_process_pid job inputs

/-- In every run, whatever `psutil` answered and however rounds were cut short, every
`DiskMetric` obeys the rate law against the last earlier record of its process, and every
`NetworkMetric` against the record before it. -/
theorem runProfiling_rate_law (monitored_process_pid : ℕ) (job : Job) (init : Except PyExc Unit)
    (inputs : List RoundInput) :
    RateStore .disk samePid
        (runProfiling monitored_process_pid job init inputs).profiler.metrics.disk_metrics ∧
      RateStore .network sameSystem
        (runProfiling monitored_process_pid job init inputs).profiler.metrics.network_metrics := by
  cases init with
  | error e =>
    rw [runProfiling_of_init_error]
    exact ⟨.nil, .nil⟩
  | ok u =>
    have h := (runProfiling_invariant monitored_process_pid job inputs).metrics
    exact ⟨h.disk, h.network⟩

/-- Once the monitored process is gone, `start_profiling` does not notice: each later round
finds `psutil.Process(pid)` raising `NoSuchProcess`, `_collect_metrics` logs it, and as long
as no `"stop"` is read and the sleep returns, the loop goes on, round after round, collecting
nothing. -/
theorem runProfiling_spins_after_exit (monitored_process_pid : ℕ) (job : Job)
    (inputs gone : List RoundInput)
    (hr : (runProfiling monitored_process_pid job (.ok ()) inputs).phase = .running inputs.length)
    (hg : ∀ inp ∈ gone, (∃ p, inp.collect.root = .error (.NoSuchProcess p)) ∧
      Profiler.checkStopSignal inp.poll inp.recv = .ok false ∧ inp.sleep = .ok ()) :
    let run := runProfiling monitored_process_pid job (.ok ()) (inputs ++ gone)
    run.phase = .running (inputs.length + gone.length) ∧ run.conn_closed = false ∧
      run.profiler.metrics = (runProfiling monitored_process_pid job (.ok ()) inputs).profiler.metrics := by
  have hc := ((runProfiling_invariant monitored_process_pid job inputs).phase.resolve_right
    fun h => by rw [hr] at h; cases h.1).2
  have := @ProfilingRun.foldl_of_root_gone monitored_process_pid job gone _ _ hr hc hg
  simp only [runProfiling, List.foldl_append] at this ⊢
  exact this

/-- Two rounds after the monitored process has exited, before any round was run. -/
theorem runProfiling_spins_after_exit_example :
    let job : Job := ⟨"job", "executor", "0"⟩
    let gone : RoundInput := ⟨⟨.error (.NoSuchProcess 7), .ok [], 0, .ok ⟨0, 0⟩⟩, .ok false, .ok "", .ok ()⟩
    (runProfiling 7 job (.ok ()) []).phase = .running ([] : List RoundInput).length ∧
      (∀ inp ∈ [gone, gone], (∃ p, inp.collect.root = .error (.NoSuchProcess p)) ∧
        Profiler.checkStopSignal inp.poll inp.recv = .ok false ∧ inp.sleep = .ok ()) ∧
      let run := runProfiling 7 job (.ok ()) ([] ++ [gone, gone])
      run.phase = .running (([] : List RoundInput).length + [gone, gone].length) ∧
        run.conn_closed = false ∧
        run.profiler.metrics = (runProfiling 7 job (.ok ()) []).profiler.metrics := by
  intro job gone
  have hr : (runProfiling 7 job (.ok ()) []).phase = .running ([] : List RoundInput).length := rfl
  have hg : ∀ inp ∈ [gone, gone], (∃ p, inp.collect.root = .error (.NoSuchProcess p)) ∧
      Profiler.checkStopSignal inp.poll inp.recv = .ok false ∧ inp.sleep = .ok () := by
    intro inp hi
    simp only [List.mem_cons, List.not_mem_nil, or_false, or_self] at hi
    exact hi ▸ ⟨⟨7, rfl⟩, rfl, rfl⟩
  exact ⟨hr, hg, runProfiling_spins_after_exit 7 _ [] _ hr hg⟩

/-- What `_send_metrics` is for: in round `i`, every field of every record of collection `i`,
list after list, with the job's labels and, except for the network, the record's process. -/
def exportedInRound (mc : MetricCollector) (profiling_data : List (String × String)) (i : ℕ) :
    List SentMetric :=
  METRIC_COLLECTIONS_FIELDS.flatMap fun (metric_type, keys) =>
    ((mc.getattr metric_type).filter (·.collection_id == i)).flatMap fun metric =>
      Profiler.sendMetricsToPrometheus metric metric_type keys profiling_data

/-- Each list holds one record of each of the collections `0, …, n-1`, in order. -/
def Aligned (n : ℕ) (mc : MetricCollector) : Prop :=
  ∀ kv ∈ METRIC_COLLECTIONS_FIELDS, (mc.getattr kv.1).map (·.collection_id) = List.range n

/-- In a list holding the collections `0, …, n-1` in order, the records of collection `i` are
the one at position `i`, if there is one. -/
theorem filter_collection_id {n : ℕ} {l : List MetricBase}
    (hl : l.map (·.collection_id) = List.range n) (i : ℕ) :
    l.filter (·.collection_id == i) = l[i]?.toList := by
  induction n generalizing l with
  | zero => simp_all
  | succ n ih =>
    rw [List.range_succ, List.map_eq_append_iff] at hl
    obtain ⟨l₁, l₂, rfl, h₁, h₂⟩ := hl
    obtain ⟨r, rfl, hr⟩ : ∃ r, l₂ = [r] ∧ r.collection_id = n := by
      rcases l₂ with _ | ⟨r, _ | _⟩ <;> simp_all
    have hlen : l₁.length = n := by simpa using congrArg List.length h₁
    rw [List.filter_append, ih h₁]
    rcases Nat.lt_trichotomy i n with hi | rfl | hi
    · simp [List.getElem?_append_left (hlen ▸ hi), hr, hi.ne']
    · simp [← hlen, hr, List.getElem?_concat_length, List.getElem?_eq_none (le_refl _)]
    · rw [List.getElem?_eq_none (by omega), List.getElem?_eq_none (by simp; omega)]
      simp [hr, hi.ne]

/-- On aligned lists, what `_send_metrics` hands the exporter in round `i` is what it is for. -/
theorem exportedInRound_of_aligned {n : ℕ} {mc : MetricCollector} (h : Aligned n mc)
    (profiling_data : List (String × String)) (i : ℕ) :
    exportedInRound mc profiling_data i = Profiler.sendMetrics mc profiling_data i := by
  refine List.flatMap_congr fun ⟨metric_type, keys⟩ hkv => ?_
  dsimp only
  rw [filter_collection_id (h _ hkv)]
  split
  · next hi => rw [List.getElem?_eq_getElem hi]; simp
  · next hi => rw [List.getElem?_eq_none (Nat.le_of_not_lt hi)]; rfl

theorem aligned_init : Aligned 0 MetricCollector.init := fun kv hkv => by
  simp only [METRIC_COLLECTIONS_FIELDS, List.mem_cons, List.mem_singleton,
    List.not_mem_nil, or_false] at hkv
  rcases hkv with rfl | rfl | rfl | rfl <;> rfl

theorem getattr_oneMore {index : ℕ} {mc mc' : MetricCollector}
    (h : MetricCollector.OneMore index mc mc') {kv : String × List String}
    (hkv : kv ∈ METRIC_COLLECTIONS_FIELDS) :
    ∃ r, mc'.getattr kv.1 = mc.getattr kv.1 ++ [r] ∧ r.collection_id = index := by
  simp only [METRIC_COLLECTIONS_FIELDS, List.mem_cons, List.mem_singleton,
    List.not_mem_nil, or_false] at hkv
  rcases hkv with rfl | rfl | rfl | rfl
  exacts [h.cpu, h.memory, h.disk, h.network]

theorem Aligned.oneMore {n : ℕ} {mc mc' : MetricCollector} (ha : Aligned n mc)
    (h : MetricCollector.OneMore n mc mc') : Aligned (n+1) mc' := fun kv hkv => by
  obtain ⟨r, hr, hid⟩ := getattr_oneMore h hkv
  rw [hr, List.map_append, ha kv hkv, List.range_succ, List.map_singleton, hid]

/-- A round that appends one record to each aligned list leaves the earlier positions, and so
what `_send_metrics` hands the exporter for them, as they were. -/
theorem sendMetrics_oneMore {n : ℕ} {mc mc' : MetricCollector} (ha : Aligned n mc)
    (h : MetricCollector.OneMore n mc mc') (profiling_data : List (String × String)) {i : ℕ}
    (hi : i < n) :
    Profiler.sendMetrics mc' profiling_data i = Profiler.sendMetrics mc profiling_data i := by
  refine List.flatMap_congr fun ⟨metric_type, keys⟩ hkv => ?_
  obtain ⟨r, hr, -⟩ := getattr_oneMore h hkv
  have hlen : (mc.getattr metric_type).length = n := by
    simpa using congrArg List.length (ha _ hkv)
  dsimp only
  rw [hr, dif_pos (by simp; omega), dif_pos (by omega), List.getElem_append_left]

namespace ProfilingRun

/-- What holds of a run over a monitored process without children where `psutil` answers
every call, after `m` rounds: each list holds the records of collections `0, …, m-1`, the
exporter got the records at positions `0, …, m-1` round after round, and a loop still running
is at round `m`. -/
structure Exports (profiling_data : List (String × String)) (m : ℕ) (s : ProfilingRun) :
    Prop where
  metrics : s.profiler.metrics.WellFormed
  aligned : Aligned m s.profiler.metrics
  sent : s.profiler.sent =
    (List.range m).flatMap (Profiler.sendMetrics s.profiler.metrics profiling_data)
  index_eq : ∀ index, s.phase = .running index → index = m

namespace Exports

variable {profiling_data : List (String × String)} {m : ℕ} {s : ProfilingRun}

theorem step (hs : Exports profiling_data m s) (monitored_process_pid : ℕ) {inp : RoundInput}
    (h : inp.collect.solo) :
    ∃ m' ≤ m + 1, Exports profiling_data m'
      (ProfilingRun.step monitored_process_pid profiling_data s inp) := by
  by_cases hr : ∃ index, s.phase = .running index
  swap
  · exact ⟨m, m.le_succ, by rw [step_of_ended (fun i h => hr ⟨i, h⟩)]; exact hs⟩
  obtain ⟨index, hi⟩ := hr
  obtain rfl := hs.index_eq index hi
  obtain ⟨hp, hphase⟩ := step_running monitored_process_pid profiling_data hi inp
  have hw := s.profiler.loopBody_wellFormed monitored_process_pid index profiling_data inp
    hs.metrics
  obtain ⟨mc', hc, hone⟩ :=
    MetricCollector.collectAllMetrics_solo monitored_process_pid index h hs.metrics
  rw [Profiler.loopBody_of_collectMetrics (Profiler.collectMetrics_of_collectAllMetrics hc)]
    at hp hw
  refine ⟨index+1, le_refl _, by rwa [hp], by rw [hp]; exact hs.aligned.oneMore hone, ?_, ?_⟩
  · rw [hp, hs.sent, List.range_succ, List.flatMap_append, List.flatMap_singleton]
    exact congrArg (· ++ _) (List.flatMap_congr fun i hi =>
      (sendMetrics_oneMore hs.aligned hone profiling_data (List.mem_range.mp hi)).symm)
  · intro j hj
    rcases hphase with ⟨-, h, -⟩ | ⟨-, h, -⟩ <;> rw [h] at hj
    · exact (LoopPhase.running.inj hj).symm
    · cases hj

theorem foldl (monitored_process_pid : ℕ) :
    ∀ (inputs : List RoundInput), (∀ inp ∈ inputs, inp.collect.solo) →
      ∀ {m : ℕ} {s : ProfilingRun}, Exports profiling_data m s →
        ∃ m' ≤ m + inputs.length, Exports profiling_data m'
          (inputs.foldl (ProfilingRun.step monitored_process_pid profiling_data) s)
  | [], _, m, _, hs => ⟨m, le_refl _, hs⟩
  | inp :: inputs, h, m, _, hs => by
    obtain ⟨m₁, hm₁, hs₁⟩ := hs.step monitored_process_pid (h inp (List.mem_cons_self _ _))
    obtain ⟨m₂, hm₂, hs₂⟩ :=
      foldl monitored_process_pid inputs (fun i hi => h i (List.mem_cons_of_mem _ hi)) hs₁
    exact ⟨m₂, by simp only [List.length_cons]; omega, hs₂⟩

end Exports

end ProfilingRun

/-- In a run over a monitored process that never has children and for which `psutil` answers
every call, each list holds one record of each of the `m` rounds run, the exporter got, round
after round, exactly the records collected in that round, and a loop still running has run one
round per input. -/
theorem solo_run_exports_each_round (monitored_process_pid : ℕ) (job : Job)
    (inputs : List RoundInput) (h : ∀ inp ∈ inputs, inp.collect.solo) :
    let run := runProfiling monitored_process_pid job (.ok ()) inputs
    ∃ m ≤ inputs.length, Aligned m run.profiler.metrics ∧ run.profiler.sent =
      (List.range m).flatMap (exportedInRound run.profiler.metrics (prepareProfilingData job)) ∧
      ∀ index, run.phase = .running index → m = inputs.length := by
  obtain ⟨m, hm, hs⟩ := ProfilingRun.Exports.foldl monitored_process_pid inputs h
    (⟨MetricCollector.wellFormed_init, aligned_init, rfl,
      fun _ h => (LoopPhase.running.inj h).symm⟩ :
      ProfilingRun.Exports (prepareProfilingData job) 0 (ProfilingRun.start (.ok ())))
  refine ⟨m, by simpa using hm, hs.aligned, hs.sent.trans
    (List.flatMap_congr fun i _ => (exportedInRound_of_aligned hs.aligned _ i).symm),
    fun index hr => ?_⟩
  have hi := ((runProfiling_invariant monitored_process_pid job inputs).phase.resolve_right
    fun h => by rw [hr] at h; cases h.1).1
  rw [hr] at hi
  exact (hs.index_eq index hr).symm.trans (LoopPhase.running.inj hi)

/-- Two rounds over a monitored process without children where `psutil` answers every call. -/
theorem solo_run_exports_each_round_example :
    let a : ProcessAnswers := ⟨.ok 1, 0, .ok 0, 0, .ok ⟨0, ⟨0, 0, none, none, none⟩⟩, 0, .ok ⟨0, 0⟩⟩
    let inp : RoundInput := ⟨⟨.ok a, .ok [], 0, .ok ⟨0, 0⟩⟩, .ok false, .ok "", .ok ()⟩
    (∀ i ∈ [inp, inp], i.collect.solo) ∧
      let run := runProfiling 7 ⟨"job", "executor", "0"⟩ (.ok ()) [inp, inp]
      ∃ m ≤ [inp, inp].length, Aligned m run.profiler.metrics ∧ run.profiler.sent =
        (List.range m).flatMap
          (exportedInRound run.profiler.metrics (prepareProfilingData ⟨"job", "executor", "0"⟩)) ∧
        ∀ index, run.phase = .running index → m = [inp, inp].length := by
  intro a inp
  have h : ∀ i ∈ [inp, inp], i.collect.solo := by
    intro i hi
    simp only [List.mem_cons, List.not_mem_nil, or_false, or_self] at hi
    exact hi ▸ rfl
  exact ⟨h, solo_run_exports_each_round 7 _ _ h⟩

/-- A root with one child, both alive through one round that ends on `"stop"`: the child's
records of round 0 are appended, but none is handed to the exporter in that round. -/
theorem child_records_not_exported :
    let a : ProcessAnswers := ⟨.ok 0, 0, .ok 0, 0, .ok ⟨0, ⟨0, 0, none, none, none⟩⟩, 0, .ok ⟨0, 0⟩⟩
    let env : RoundEnv := ⟨.ok a, .ok [(2, a)], 0, .ok ⟨0, 0⟩⟩
    let run := runProfiling 1 ⟨"j", "e", "c"⟩ (.ok ()) [⟨env, .ok true, .ok "stop", .ok ()⟩]
    run.phase = .returned ∧
      (∃ m ∈ run.profiler.metrics.memory_metrics, m.pid = some 2 ∧ m.collection_id = 0) ∧
      ∀ s ∈ run.profiler.sent, ("pid", "2") ∉ s.labels := by
  decide

/-- The root is gone when round 0 resolves the tree, yet the loop goes on to further rounds
with `conn` open; and a root gone at initialization propagates out of `start_profiling`
with `conn` open. -/
theorem root_exit_does_not_stop_profiling :
    let gone : RoundEnv := ⟨.error (.NoSuchProcess 1), .error (.NoSuchProcess 1), 0, .ok ⟨0, 0⟩⟩
    let inp : RoundInput := ⟨gone, .ok false, .error (.Other "no message"), .ok ()⟩
    let job : Job := ⟨"j", "e", "c"⟩
    (runProfiling 1 job (.ok ()) [inp]).phase = .running 1 ∧
      (runProfiling 1 job (.ok ()) [inp, inp]).phase = .running 2 ∧
      (runProfiling 1 job (.ok ()) [inp, inp]).conn_closed = false ∧
      (runProfiling 1 job (.error (.NoSuchProcess 1)) []).phase = .raised (.NoSuchProcess 1) ∧
      (runProfiling 1 job (.error (.NoSuchProcess 1)) []).conn_closed = false := by
  decide

end Lithopserve.Profiling
