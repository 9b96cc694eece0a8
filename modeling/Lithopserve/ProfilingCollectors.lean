import Lithopserve.ProfilingMetrics

/-! The collectors of `worker/metrics_collectors.py`. A collector keeps its records in
`self.metrics`; its `_collect` reads `psutil`, builds a record and appends it, and
`@handle_psutil_error` turns `psutil.NoSuchProcess` into `None`. What `psutil` and
`time.time()` answer is an input of each call. -/

namespace Lithopserve.Profiling

/-- `psutil.Process(pid).io_counters()`, the fields the disk collector reads. -/
structure IoCounters where
  read_bytes : ℕ
  write_bytes : ℕ
  deriving DecidableEq, Repr

/-- `psutil.net_io_counters(pernic=False)`, the fields the network collector reads. -/
structure NetIoCounters where
  bytes_recv : ℕ
  bytes_sent : ℕ
  deriving DecidableEq, Repr

/-- `process.cpu_times()`. The last three fields exist on some platforms only, and the
collector reads them with the default `0`. -/
structure CpuTimes where
  user : ℚ
  system : ℚ
  children_user : Option ℚ
  children_system : Option ℚ
  iowait : Option ℚ
  deriving DecidableEq, Repr

/-- What `CPUMetricCollector._collect` reads: `process.cpu_percent(interval=0.01)` and
`process.cpu_times()`. -/
structure CpuSample where
  cpu_percent : ℚ
  cpu_times : CpuTimes
  deriving DecidableEq, Repr

def CPUMetric (timestamp : ℚ) (pid parent_pid : Option ℕ) (cpu_usage user_time system_time
    children_user_time children_system_time iowait_time : ℚ) (collection_id : ℕ) : MetricBase :=
  ⟨.cpu, timestamp, collection_id, pid, parent_pid, [cpu_usage, user_time, system_time,
    children_user_time, children_system_time, iowait_time], rfl, fun h => nomatch h⟩

def MemoryMetric (timestamp : ℚ) (pid parent_pid : Option ℕ) (memory_usage : ℚ)
    (collection_id : ℕ) : MetricBase :=
  ⟨.memory, timestamp, collection_id, pid, parent_pid, [memory_usage], rfl, fun h => nomatch h⟩

def DiskMetric (timestamp : ℚ) (pid parent_pid : Option ℕ) (disk_read_mb disk_write_mb
    disk_read_rate disk_write_rate : ℚ) (collection_id : ℕ) : MetricBase :=
  ⟨.disk, timestamp, collection_id, pid, parent_pid,
    [disk_read_mb, disk_write_mb, disk_read_rate, disk_write_rate], rfl, fun h => nomatch h⟩

def NetworkMetric (timestamp : ℚ) (net_read_mb net_write_mb net_read_rate net_write_rate : ℚ)
    (collection_id : ℕ) : MetricBase :=
  ⟨.network, timestamp, collection_id, none, none,
    [net_read_mb, net_write_mb, net_read_rate, net_write_rate], rfl, fun _ => ⟨rfl, rfl⟩⟩

/-- `IMetricCollector._calculate_rates`: the change per second, or 0 when no time has passed. -/
def calculateRates (current_value previous_value time_diff : ℚ) : Except PyExc ℚ :=
  if time_diff > 0 then pyTrueDiv (current_value-previous_value) time_diff else pure 0

/-- `BaseMetricCollector._find_previous_metric`: the last record about `pid`. -/
def BaseMetricCollector.findPreviousMetric (metrics : List MetricBase) (pid : ℕ) :
    Option MetricBase :=
  metrics.reverse.find? fun m => m.pid == some pid

/-- `GlobalMetricCollector._find_previous_metric`: the last record. -/
def GlobalMetricCollector.findPreviousMetric (metrics : List MetricBase) : Option MetricBase :=
  metrics.getLast?

/-- The `if prev_metric is None` block shared by `DiskMetricCollector._collect` and
`NetworkMetricCollector._collect`, which read the totals `read_field` and `write_field` of
the previous record. -/
def ratesFromPrevious (read_field write_field : String) (prev_metric : Option MetricBase)
    (timestamp read_mb write_mb : ℚ) : Except PyExc (ℚ × ℚ) :=
  match prev_metric with
  | none => pure (0, 0)
  | some prev => do
    let time_diff := timestamp-prev.timestamp
    let read_rate ← calculateRates read_mb (← prev.getattr read_field) time_diff
    let write_rate ← calculateRates write_mb (← prev.getattr write_field) time_diff
    pure (read_rate, write_rate)

/-- `self.metrics.append(record); return record` once a `_collect` has built `record`, under
`@handle_psutil_error`: `NoSuchProcess` gives `None`, any other exception propagates, and
nothing is appended unless the record was built. -/
def appendCollected (built : Except PyExc MetricBase) :
    EStateM PyExc (List MetricBase) (Option MetricBase) := fun metrics =>
  match built with
  | .ok record => .ok (some record) (metrics ++ [record])
  | .error e => if e.isNoSuchProcess then .ok none metrics else .error e metrics

/-- `IMetricCollector.collect_metric` of each collector, where `time.time()` answers
`timestamp`, then `_collect` under `@handle_psutil_error`. -/
def CPUMetricCollector.collectMetric (pid : ℕ) (parent_pid : Option ℕ) (timestamp : ℚ)
    (collection_id : ℕ) (sample : Except PyExc CpuSample) :
    EStateM PyExc (List MetricBase) (Option MetricBase) :=
  appendCollected do
    let s ← sample
    pure (CPUMetric timestamp (some pid) parent_pid s.cpu_percent s.cpu_times.user
      s.cpu_times.system (s.cpu_times.children_user.getD 0) (s.cpu_times.children_system.getD 0)
      (s.cpu_times.iowait.getD 0) collection_id)

/-- Here `rss` answers `psutil.Process(pid).memory_info().rss`. -/
def MemoryMetricCollector.collectMetric (pid : ℕ) (parent_pid : Option ℕ) (timestamp : ℚ)
    (collection_id : ℕ) (rss : Except PyExc ℕ) :
    EStateM PyExc (List MetricBase) (Option MetricBase) :=
  appendCollected do
    let memory_usage := (← rss) >>> 20
    pure (MemoryMetric timestamp (some pid) parent_pid memory_usage collection_id)

def DiskMetricCollector.collectMetric (pid : ℕ) (parent_pid : Option ℕ) (timestamp : ℚ)
    (collection_id : ℕ) (io_counters : Except PyExc IoCounters) :
    EStateM PyExc (List MetricBase) (Option MetricBase) := fun metrics =>
  appendCollected (do
    let io ← io_counters
    let disk_read_mb : ℚ := io.read_bytes/1024^2
    let disk_write_mb : ℚ := io.write_bytes/1024^2
    let (disk_read_rate, disk_write_rate) ← ratesFromPrevious "disk_read_mb" "disk_write_mb"
      (BaseMetricCollector.findPreviousMetric metrics pid) timestamp disk_read_mb disk_write_mb
    pure (DiskMetric timestamp (some pid) parent_pid disk_read_mb disk_write_mb disk_read_rate
      disk_write_rate collection_id)) metrics

def NetworkMetricCollector.collectMetric (timestamp : ℚ) (collection_id : ℕ)
    (net_counters : Except PyExc NetIoCounters) :
    EStateM PyExc (List MetricBase) (Option MetricBase) := fun metrics =>
  appendCollected (do
    let c ← net_counters
    let net_read_mb : ℚ := c.bytes_recv/1024^2
    let net_write_mb : ℚ := c.bytes_sent/1024^2
    let (net_read_rate, net_write_rate) ← ratesFromPrevious "net_read_mb" "net_write_mb"
      (GlobalMetricCollector.findPreviousMetric metrics) timestamp net_read_mb net_write_mb
    pure (NetworkMetric timestamp net_read_mb net_write_mb net_read_rate net_write_rate
      collection_id)) metrics

namespace MetricBase

/-- The additive fields of a `DiskMetric` or a `NetworkMetric`, which both list them as
read total, write total, read rate and write rate. -/
def readTotal (r : MetricBase) : ℚ := r.values.getD 0 0
def writeTotal (r : MetricBase) : ℚ := r.values.getD 1 0
def readRate (r : MetricBase) : ℚ := r.values.getD 2 0
def writeRate (r : MetricBase) : ℚ := r.values.getD 3 0

end MetricBase

/-- The rates of a sample at `timestamp` with totals `read_mb` and `write_mb` after `prev`,
the previous sample of the same subject: the change over the elapsed time when that time is
positive, and `0` otherwise or for a first sample. -/
def expectedRates (prev : Option MetricBase) (timestamp read_mb write_mb : ℚ) : ℚ × ℚ :=
  match prev with
  | some p =>
    if p.timestamp < timestamp then
      ((read_mb-p.readTotal)/(timestamp-p.timestamp), (write_mb-p.writeTotal)/(timestamp-p.timestamp))
    else (0, 0)
  | none => (0, 0)

/-- The rate law of a record `r` whose previous sample of the same subject is `prev`. -/
def RateLaw (prev : Option MetricBase) (r : MetricBase) : Prop :=
  (r.readRate, r.writeRate) = expectedRates prev r.timestamp r.readTotal r.writeTotal

/-- The last record of `earlier` about the subject of `r`. -/
def lastEarlier (same : MetricBase → MetricBase → Bool) (earlier : List MetricBase)
    (r : MetricBase) : Option MetricBase :=
  earlier.reverse.find? (same r)

/-- A disk record is about its process. -/
def samePid (r m : MetricBase) : Bool := m.pid == r.pid

/-- A network record is about the whole system. -/
def sameSystem (_ _ : MetricBase) : Bool := true

/-- The invariant of a rate collector's append-only list: every record is of the
collector's class and obeys the rate law with respect to the last earlier record about its
subject. -/
structure RateStore (cls : MetricClass) (same : MetricBase → MetricBase → Bool)
    (metrics : List MetricBase) : Prop where
  cls_eq : ∀ m ∈ metrics, m.cls = cls
  rates_derived : ∀ i (hi : i < metrics.length),
    RateLaw (lastEarlier same (metrics.take i) metrics[i]) metrics[i]

namespace RateStore

variable {cls : MetricClass} {same : MetricBase → MetricBase → Bool}

theorem nil : RateStore cls same [] := ⟨by simp, by simp⟩

/-- Appending a record that obeys the law keeps the invariant; earlier records and what
precedes them are unchanged. -/
theorem append {metrics : List MetricBase} {r : MetricBase} (hs : RateStore cls same metrics)
    (hc : r.cls = cls) (hr : RateLaw (lastEarlier same metrics r) r) :
    RateStore cls same (metrics ++ [r]) := by
  refine ⟨fun m hm => ?_, fun i hi => ?_⟩
  · rcases List.mem_append.mp hm with hm | hm
    · exact hs.cls_eq m hm
    · rw [List.mem_singleton.mp hm, hc]
  · rw [List.length_append, List.length_singleton] at hi
    rcases Nat.lt_succ_iff_lt_or_eq.mp hi with hi | rfl
    · rw [List.take_append_of_le_length hi.le, List.getElem_append_left hi]
      exact hs.rates_derived i hi
    · rw [List.take_append_of_le_length le_rfl, List.take_length,
        List.getElem_concat_length metrics r _ rfl]
      exact hr

end RateStore

theorem calculateRates_eq (current_value previous_value time_diff : ℚ) :
    calculateRates current_value previous_value time_diff =
      pure (if 0 < time_diff then (current_value-previous_value)/time_diff else 0) := by
  unfold calculateRates
  split_ifs with h
  · exact pyTrueDiv_of_ne_zero h.ne'
  · rfl

/-- With a previous record of a class whose first two fields are `read_field` and
`write_field`, the rates are the expected ones: no attribute is missing and no division by
zero occurs. -/
theorem ratesFromPrevious_eq {k : MetricClass} {read_field write_field : String}
    (hk : 2 ≤ k.METRIC_TYPES_FIELDS.length) (hr : read_field = k.METRIC_TYPES_FIELDS.getD 0 "")
    (hw : write_field = k.METRIC_TYPES_FIELDS.getD 1 "") {prev : Option MetricBase}
    (hp : ∀ p ∈ prev, p.cls = k) (timestamp read_mb write_mb : ℚ) :
    ratesFromPrevious read_field write_field prev timestamp read_mb write_mb =
      pure (expectedRates prev timestamp read_mb write_mb) := by
  cases prev with
  | none => rfl
  | some p =>
    have hpk : p.cls = k := hp p rfl
    have hread : p.getattr read_field = pure p.readTotal := by
      rw [hr, ← hpk]
      exact p.getattr_getD (by rw [hpk]; omega)
    have hwrite : p.getattr write_field = pure p.writeTotal := by
      rw [hw, ← hpk]
      exact p.getattr_getD (by rw [hpk]; omega)
    simp only [ratesFromPrevious, hread, hwrite, calculateRates_eq, expectedRates, sub_pos]
    split_ifs <;> rfl

/-- What a collector call does: with an answer of `psutil` it appends one record and returns
it; `NoSuchProcess` gives `None` and any other exception propagates, both with the list
unchanged. In no case is an earlier record changed. -/
def CollectOutcome (answer : Except PyExc α) (metrics : List MetricBase)
    (res : EStateM.Result PyExc (List MetricBase) (Option MetricBase))
    (P : MetricBase → Prop) : Prop :=
  match answer with
  | .ok _ => ∃ r, res = .ok (some r) (metrics ++ [r]) ∧ P r
  | .error e => res = if e.isNoSuchProcess then .ok none metrics else .error e metrics

/-- The last earlier network record is the last record. -/
theorem lastEarlier_sameSystem (earlier : List MetricBase) (r : MetricBase) :
    lastEarlier sameSystem earlier r = earlier.getLast? := by
  rw [List.getLast?_eq_head?_reverse, lastEarlier]
  cases earlier.reverse <;> rfl

theorem DiskMetricCollector.collectMetric_spec {metrics : List MetricBase}
    (hs : RateStore .disk samePid metrics) (pid : ℕ) (parent_pid : Option ℕ) (timestamp : ℚ)
    (collection_id : ℕ) (io_counters : Except PyExc IoCounters) :
    CollectOutcome io_counters metrics
      (DiskMetricCollector.collectMetric pid parent_pid timestamp collection_id io_counters metrics)
      (fun r => r.cls = .disk ∧ r.pid = some pid ∧ r.collection_id = collection_id ∧
        RateLaw (lastEarlier samePid metrics r) r) := by
  cases io_counters with
  | error e => rfl
  | ok io =>
    have hp : ∀ p ∈ BaseMetricCollector.findPreviousMetric metrics pid, p.cls = .disk :=
      fun p hp => hs.cls_eq p (List.mem_reverse.mp (List.mem_of_find?_eq_some hp))
    simp only [DiskMetricCollector.collectMetric, CollectOutcome,
      @ratesFromPrevious_eq .disk "disk_read_mb" "disk_write_mb" (by decide) rfl rfl _ hp]
    exact ⟨_, rfl, rfl, rfl, rfl, rfl⟩

theorem NetworkMetricCollector.collectMetric_spec {metrics : List MetricBase}
    (hs : RateStore .network sameSystem metrics) (timestamp : ℚ) (collection_id : ℕ)
    (net_counters : Except PyExc NetIoCounters) :
    CollectOutcome net_counters metrics
      (NetworkMetricCollector.collectMetric timestamp collection_id net_counters metrics)
      (fun r => r.cls = .network ∧ r.collection_id = collection_id ∧
        RateLaw (lastEarlier sameSystem metrics r) r) := by
  cases net_counters with
  | error e => rfl
  | ok c =>
    have hp : ∀ p ∈ GlobalMetricCollector.findPreviousMetric metrics, p.cls = .network :=
      fun p hp => hs.cls_eq p (List.mem_of_getLast?_eq_some hp)
    simp only [NetworkMetricCollector.collectMetric, CollectOutcome,
      @ratesFromPrevious_eq .network "net_read_mb" "net_write_mb" (by decide) rfl rfl _ hp]
    refine ⟨_, rfl, rfl, rfl, ?_⟩
    rw [RateLaw, lastEarlier_sameSystem]
    rfl

theorem CPUMetricCollector.collectMetric_spec (metrics : List MetricBase) (pid : ℕ)
    (parent_pid : Option ℕ) (timestamp : ℚ) (collection_id : ℕ) (sample : Except PyExc CpuSample) :
    CollectOutcome sample metrics
      (CPUMetricCollector.collectMetric pid parent_pid timestamp collection_id sample metrics)
      (fun r => r.cls = .cpu ∧ r.pid = some pid ∧ r.collection_id = collection_id) := by
  cases sample with
  | error e => rfl
  | ok s => exact ⟨_, rfl, rfl, rfl, rfl⟩

theorem MemoryMetricCollector.collectMetric_spec (metrics : List MetricBase) (pid : ℕ)
    (parent_pid : Option ℕ) (timestamp : ℚ) (collection_id : ℕ) (rss : Except PyExc ℕ) :
    CollectOutcome rss metrics
      (MemoryMetricCollector.collectMetric pid parent_pid timestamp collection_id rss metrics)
      (fun r => r.cls = .memory ∧ r.pid = some pid ∧ r.collection_id = collection_id) := by
  cases rss with
  | error e => rfl
  | ok n => exact ⟨_, rfl, rfl, rfl, rfl⟩

/-- An answer of `psutil` that is a value or `NoSuchProcess`: the process may have exited, but
nothing else failed. -/
def NoFatal (answer : Except PyExc α) : Prop := ∀ e, answer = .error e → e.isNoSuchProcess = true

/-- A collector call whose answer is a value or `NoSuchProcess` returns what it appended: a
record exactly when `psutil` answered. -/
theorem CollectOutcome.of_noFatal {answer : Except PyExc α} {metrics : List MetricBase}
    {res : EStateM.Result PyExc (List MetricBase) (Option MetricBase)} {P : MetricBase → Prop}
    (ho : CollectOutcome answer metrics res P) (hn : NoFatal answer) :
    ∃ o : Option MetricBase, res = .ok o (metrics ++ o.toList) ∧ (∀ r ∈ o, P r) ∧
      o.isSome = answer.isOk := by
  cases answer with
  | ok _ =>
    obtain ⟨r, rfl, hr⟩ := ho
    exact ⟨some r, rfl, fun _ h => Option.some_inj.mp h ▸ hr, rfl⟩
  | error e =>
    rw [CollectOutcome, if_pos (hn e rfl)] at ho
    exact ⟨none, by rw [ho, Option.toList_none, List.append_nil], fun _ h => (nomatch h), rfl⟩

theorem CollectOutcome.mono {answer : Except PyExc α} {metrics : List MetricBase}
    {res : EStateM.Result PyExc (List MetricBase) (Option MetricBase)} {P Q : MetricBase → Prop}
    (h : CollectOutcome answer metrics res P) (hPQ : ∀ r, P r → Q r) :
    CollectOutcome answer metrics res Q := by
  cases answer with
  | ok _ =>
    obtain ⟨r, hr, hp⟩ := h
    exact ⟨r, hr, hPQ r hp⟩
  | error _ => exact h

/-- The state a call leaves, whether it returned or raised. -/
def resultState : EStateM.Result PyExc σ α → σ
  | .ok _ s => s
  | .error _ s => s

/-- The exception a call raised, if any. -/
def resultExc : EStateM.Result PyExc σ α → Option PyExc
  | .ok _ _ => none
  | .error e _ => some e

@[simp] theorem resultState_ok (a : α) (s : σ) :
    resultState (.ok a s : EStateM.Result PyExc σ α) = s := rfl

@[simp] theorem resultState_error (e : PyExc) (s : σ) :
    resultState (.error e s : EStateM.Result PyExc σ α) = s := rfl

@[simp] theorem resultExc_ok (a : α) (s : σ) :
    resultExc (.ok a s : EStateM.Result PyExc σ α) = none := rfl

@[simp] theorem resultExc_error (e : PyExc) (s : σ) :
    resultExc (.error e s : EStateM.Result PyExc σ α) = some e := rfl

/-- What a collector call leaves: its list, or its list with one record obeying `P`. -/
theorem CollectOutcome.resultState_cases {answer : Except PyExc α} {metrics : List MetricBase}
    {res : EStateM.Result PyExc (List MetricBase) (Option MetricBase)} {P : MetricBase → Prop}
    (ho : CollectOutcome answer metrics res P) :
    resultState res = metrics ∨ ∃ r, resultState res = metrics ++ [r] ∧ P r := by
  cases answer with
  | ok _ =>
    obtain ⟨r, rfl, hr⟩ := ho
    exact .inr ⟨r, rfl, hr⟩
  | error e =>
    rw [CollectOutcome] at ho
    subst ho
    exact .inl (by split <;> rfl)

/-- A computation that, returning or raising, moves the state along `R`. -/
def Keeps (R : σ → σ → Prop) (x : EStateM PyExc σ α) : Prop := ∀ s, R s (resultState (x s))

namespace Keeps

variable {R : σ → σ → Prop}

theorem pure [IsRefl σ R] (a : α) : Keeps R (Pure.pure a : EStateM PyExc σ α) := refl_of R

theorem liftExcept [IsRefl σ R] (e : Except PyExc α) :
    Keeps R (liftExcept e : EStateM PyExc σ α) := fun s => by
  cases e <;> exact refl_of R s

theorem bind [IsTrans σ R] {x : EStateM PyExc σ α} {f : α → EStateM PyExc σ β}
    (hx : Keeps R x) (hf : ∀ a, Keeps R (f a)) : Keeps R (x >>= f) := fun s => by
  have h := hx s
  simp only [Bind.bind, EStateM.bind]
  cases hr : x s with
  | ok a s' => rw [hr] at h; exact trans_of R h (hf a s')
  | error e s' => rw [hr] at h; exact h

end Keeps

/-- A collector's list after a sequence of calls, each made on what the one before left. -/
def runCollector (call : γ → EStateM PyExc (List MetricBase) (Option MetricBase)) :
    List MetricBase → List γ → List MetricBase
  | metrics, [] => metrics
  | metrics, c :: cs => runCollector call (resultState (call c metrics)) cs

theorem runCollector_induction {Inv : List MetricBase → Prop}
    {call : γ → EStateM PyExc (List MetricBase) (Option MetricBase)}
    (step : ∀ c metrics, Inv metrics → Inv (resultState (call c metrics))) :
    ∀ (cs : List γ) {metrics}, Inv metrics → Inv (runCollector call metrics cs)
  | [], _, h => h
  | c :: cs, _, h => runCollector_induction step cs (step c _ h)

/-- A call that obeys its outcome keeps the store invariant. -/
theorem RateStore.of_outcome {cls : MetricClass} {same : MetricBase → MetricBase → Bool}
    {metrics : List MetricBase} {answer : Except PyExc α}
    {res : EStateM.Result PyExc (List MetricBase) (Option MetricBase)} {P : MetricBase → Prop}
    (hs : RateStore cls same metrics) (ho : CollectOutcome answer metrics res P)
    (hP : ∀ r, P r → r.cls = cls ∧ RateLaw (lastEarlier same metrics r) r) :
    RateStore cls same (resultState res) := by
  rcases ho.resultState_cases with h | ⟨r, h, hr⟩ <;> rw [h]
  · exact hs
  · exact hs.append (hP r hr).1 (hP r hr).2

/-- A list whose records are in the order of their collections, all before collection `n`. -/
def IdsBelow (n : ℕ) (l : List MetricBase) : Prop :=
  (l.map (·.collection_id)).Pairwise (· ≤ ·) ∧ ∀ r ∈ l, r.collection_id < n

theorem IdsBelow.mono {n : ℕ} {l : List MetricBase} (h : IdsBelow n l) : IdsBelow (n+1) l :=
  ⟨h.1, fun r hr => Nat.lt_succ_of_lt (h.2 r hr)⟩

theorem IdsBelow.append {n : ℕ} {l new : List MetricBase} (h : IdsBelow n l)
    (hn : ∀ r ∈ new, r.collection_id = n) : IdsBelow (n+1) (l ++ new) := by
  refine ⟨?_, fun r hr => ?_⟩
  · rw [List.map_append, List.pairwise_append]
    refine ⟨h.1, List.pairwise_of_forall_mem_list ?_, ?_⟩ <;> simp only [List.mem_map] <;>
      rintro _ ⟨a, ha, rfl⟩ _ ⟨b, hb, rfl⟩
    · rw [hn a ha, hn b hb]
    · rw [hn b hb]
      exact (h.2 a ha).le
  · rcases List.mem_append.mp hr with hr | hr
    · exact Nat.lt_succ_of_lt (h.2 r hr)
    · rw [hn r hr]
      exact Nat.lt_succ_self n

/-- A list across part of the round of collection `index`, from a list where `Inv` holds:
`Inv` still holds, and only records of that collection were appended. -/
def ListStep (index : ℕ) (Inv : List MetricBase → Prop) (l l' : List MetricBase) : Prop :=
  Inv l → Inv l' ∧ ∃ new, l' = l ++ new ∧ ∀ r ∈ new, r.collection_id = index

namespace ListStep

variable {index : ℕ} {Inv : List MetricBase → Prop} {l₁ l₂ l₃ : List MetricBase}

theorem refl (l : List MetricBase) : ListStep index Inv l l :=
  fun h => ⟨h, [], (List.append_nil l).symm, fun _ h => nomatch h⟩

theorem trans (h₁ : ListStep index Inv l₁ l₂) (h₂ : ListStep index Inv l₂ l₃) :
    ListStep index Inv l₁ l₃ := fun h => by
  obtain ⟨h, n₁, rfl, hn₁⟩ := h₁ h
  obtain ⟨h, n₂, rfl, hn₂⟩ := h₂ h
  exact ⟨h, n₁ ++ n₂, List.append_assoc .., fun r hr =>
    (List.mem_append.mp hr).elim (hn₁ r) (hn₂ r)⟩

theorem extends_idsBelow {index : ℕ} {Inv : List MetricBase → Prop}
    {l l' : List MetricBase} (h : ListStep index Inv l l') (hi : Inv l) (ho : IdsBelow index l) :
    l <+: l' ∧ IdsBelow (index+1) l' := by
  obtain ⟨-, new, rfl, hn⟩ := h hi
  exact ⟨List.prefix_append _ _, ho.append hn⟩

end ListStep

/-- A collector call of the round `index` that appends only records keeping `Inv`. -/
theorem CollectOutcome.listStep {index : ℕ} {Inv : List MetricBase → Prop}
    {metrics : List MetricBase} {answer : Except PyExc α}
    {res : EStateM.Result PyExc (List MetricBase) (Option MetricBase)} {P : MetricBase → Prop}
    (ho : CollectOutcome answer metrics res P)
    (hP : ∀ r, P r → r.collection_id = index ∧ (Inv metrics → Inv (metrics ++ [r]))) :
    ListStep index Inv metrics (resultState res) := by
  rcases ho.resultState_cases with h | ⟨r, h, hr⟩ <;> rw [h]
  · exact ListStep.refl _
  · exact fun h => ⟨(hP r hr).2 h, [r], rfl, by simpa using (hP r hr).1⟩

/-- The invariant of the CPU and memory collectors' lists: every record is of class `k`. -/
def OfClass (k : MetricClass) (metrics : List MetricBase) : Prop := ∀ m ∈ metrics, m.cls = k

theorem OfClass.append {k : MetricClass} {metrics : List MetricBase} {r : MetricBase}
    (hs : OfClass k metrics) (hr : r.cls = k) : OfClass k (metrics ++ [r]) := by
  simpa [OfClass, or_imp, forall_and, hr] using hs

/-- One `collect_metric` of the disk collector, with what `time.time()` and
`psutil.Process(pid).io_counters()` answer. -/
structure DiskCall where
  pid : ℕ
  parent_pid : Option ℕ
  collection_id : ℕ
  timestamp : ℚ
  io_counters : Except PyExc IoCounters

def DiskCall.run (c : DiskCall) : EStateM PyExc (List MetricBase) (Option MetricBase) :=
  DiskMetricCollector.collectMetric c.pid c.parent_pid c.timestamp c.collection_id c.io_counters

/-- One `collect_metric` of the network collector, with what `time.time()` and
`psutil.net_io_counters()` answer. -/
structure NetworkCall where
  collection_id : ℕ
  timestamp : ℚ
  net_io_counters : Except PyExc NetIoCounters

def NetworkCall.run (c : NetworkCall) : EStateM PyExc (List MetricBase) (Option MetricBase) :=
  NetworkMetricCollector.collectMetric c.timestamp c.collection_id c.net_io_counters

theorem disk_runs_rateStore (calls : List DiskCall) :
    RateStore .disk samePid (runCollector DiskCall.run [] calls) :=
  runCollector_induction (fun c _ hs => hs.of_outcome
    (DiskMetricCollector.collectMetric_spec hs c.pid c.parent_pid c.timestamp c.collection_id
      c.io_counters) fun _ hr => ⟨hr.1, hr.2.2.2⟩) calls RateStore.nil

theorem network_runs_rateStore (calls : List NetworkCall) :
    RateStore .network sameSystem (runCollector NetworkCall.run [] calls) :=
  runCollector_induction (fun c _ hs => hs.of_outcome
    (NetworkMetricCollector.collectMetric_spec hs c.timestamp c.collection_id c.net_io_counters)
    fun _ hr => ⟨hr.1, hr.2.2⟩) calls RateStore.nil

/-- Over every sequence of calls to a fresh disk or network collector, each call appends one
record or nothing and never changes an earlier one, every record obeys the rate law with
respect to the last earlier record about its subject, and no call raises what `psutil` did
not raise. -/
theorem rate_collectors_derive_rates :
    (∀ (calls : List DiskCall) (c : DiskCall),
      let metrics := runCollector DiskCall.run [] calls
      RateStore .disk samePid metrics ∧
        CollectOutcome c.io_counters metrics (c.run metrics)
          (fun r => RateLaw (lastEarlier samePid metrics r) r)) ∧
    (∀ (calls : List NetworkCall) (c : NetworkCall),
      let metrics := runCollector NetworkCall.run [] calls
      RateStore .network sameSystem metrics ∧
        CollectOutcome c.net_io_counters metrics (c.run metrics)
          (fun r => RateLaw (lastEarlier sameSystem metrics r) r)) := by
  refine ⟨fun calls c => ⟨disk_runs_rateStore calls, ?_⟩,
    fun calls c => ⟨network_runs_rateStore calls, ?_⟩⟩
  · exact (DiskMetricCollector.collectMetric_spec (disk_runs_rateStore calls) c.pid
      c.parent_pid c.timestamp c.collection_id c.io_counters).mono fun _ hr => hr.2.2.2
  · exact (NetworkMetricCollector.collectMetric_spec (network_runs_rateStore calls) c.timestamp
      c.collection_id c.net_io_counters).mono fun _ hr => hr.2.2

end Lithopserve.Profiling
