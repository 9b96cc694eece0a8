import Lithopserve.ProfilingCollectors

/-! `MetricCollector` of `worker/metrics_collectors.py`: one round walks the process tree
of the monitored process and drives the four collectors. The round's answers of `psutil`
and `time.time()` are an input; the collectors' lists keep what was appended before an
exception. -/

namespace Lithopserve.Profiling

/-- The lists of the four collectors (`self.cpu_metrics` is `self.cpu_collector.metrics`,
and so on). -/
structure MetricCollector where
  cpu_metrics : List MetricBase
  memory_metrics : List MetricBase
  disk_metrics : List MetricBase
  network_metrics : List MetricBase
  deriving DecidableEq

/-- A new `MetricCollector()`: four empty lists. -/
def MetricCollector.init : MetricCollector := ⟨[], [], [], []⟩

/-- What `psutil` and `time.time()` answer about one process of the tree during a round:
`proc.ppid()`, then each collector's clock and readings. -/
structure ProcessAnswers where
  ppid : Except PyExc ℕ
  memory_time : ℚ
  rss : Except PyExc ℕ
  cpu_time : ℚ
  cpu : Except PyExc CpuSample
  disk_time : ℚ
  io_counters : Except PyExc IoCounters

/-- What the environment answers during one `collect_all_metrics`: `psutil.Process` of the
root, its `children(recursive=True)` as pids with their answers, and the network
collector's clock and counters. -/
structure RoundEnv where
  root : Except PyExc ProcessAnswers
  children : Except PyExc (List (ℕ × ProcessAnswers))
  network_time : ℚ
  net_io_counters : Except PyExc NetIoCounters

namespace MetricCollector

/-- A call of one collector, on its own list. -/
def focus (get : MetricCollector → List MetricBase)
    (set : MetricCollector → List MetricBase → MetricCollector)
    (x : EStateM PyExc (List MetricBase) α) : EStateM PyExc MetricCollector α := fun mc =>
  match x (get mc) with
  | .ok a l => .ok a (set mc l)
  | .error e l => .error e (set mc l)

def onCpu : EStateM PyExc (List MetricBase) α → EStateM PyExc MetricCollector α :=
  focus (·.cpu_metrics) fun mc l => { mc with cpu_metrics := l }

def onMemory : EStateM PyExc (List MetricBase) α → EStateM PyExc MetricCollector α :=
  focus (·.memory_metrics) fun mc l => { mc with memory_metrics := l }

def onDisk : EStateM PyExc (List MetricBase) α → EStateM PyExc MetricCollector α :=
  focus (·.disk_metrics) fun mc l => { mc with disk_metrics := l }

def onNetwork : EStateM PyExc (List MetricBase) α → EStateM PyExc MetricCollector α :=
  focus (·.network_metrics) fun mc l => { mc with network_metrics := l }

/-- `MetricCollector._get_process_list`: the root, then its descendants. -/
def getProcessList (parent_pid : ℕ) (env : RoundEnv) :
    Except PyExc (List (ℕ × ProcessAnswers)) := do
  let current_process ← env.root
  let children ← env.children
  pure ((parent_pid, current_process) :: children)

/-- `MetricCollector._collect_metrics_for_process`: the memory, CPU and disk collectors in
turn, each on its own list; what they return is dropped. -/
def collectMetricsForProcess (pid parent_pid index : ℕ) (a : ProcessAnswers) :
    EStateM PyExc MetricCollector Unit := do
  let _ ← onMemory (MemoryMetricCollector.collectMetric pid (some parent_pid) a.memory_time index
    a.rss)
  let _ ← onCpu (CPUMetricCollector.collectMetric pid (some parent_pid) a.cpu_time index a.cpu)
  let _ ← onDisk (DiskMetricCollector.collectMetric pid (some parent_pid) a.disk_time index
    a.io_counters)

/-- The loop `for proc in process_list` of `collect_all_metrics`. -/
def collectProcesses (index : ℕ) : List (ℕ × ProcessAnswers) → EStateM PyExc MetricCollector Unit
  | [] => pure ()
  | (pid, a) :: rest => do
    let parent_pid ← liftExcept a.ppid
    collectMetricsForProcess pid parent_pid index a
    collectProcesses index rest

/-- `MetricCollector.collect_all_metrics(parent_pid, index)`: every process of the tree
snapshot in order, then one call of the network collector. -/
def collectAllMetrics (parent_pid index : ℕ) (env : RoundEnv) :
    EStateM PyExc MetricCollector Unit := do
  let process_list ← liftExcept (getProcessList parent_pid env)
  collectProcesses index process_list
  let _ ← onNetwork (NetworkMetricCollector.collectMetric env.network_time index
    env.net_io_counters)

/-- A child that exits between the tree snapshot and its `proc.ppid()` aborts the round: the
exception escapes `collect_all_metrics`, and no `NetworkMetric` is collected. -/
theorem descendant_exit_aborts_round :
    let alive : ProcessAnswers :=
      ⟨.ok 0, 0, .ok 0, 0, .ok ⟨0, ⟨0, 0, none, none, none⟩⟩, 0, .ok ⟨0, 0⟩⟩
    let exited : ProcessAnswers := ⟨.error (.NoSuchProcess 2), 0, .error (.NoSuchProcess 2), 0,
      .error (.NoSuchProcess 2), 0, .error (.NoSuchProcess 2)⟩
    let res := collectAllMetrics 1 0 ⟨.ok alive, .ok [(2, exited)], 0, .ok ⟨0, 0⟩⟩ init
    resultExc res = some (.NoSuchProcess 2) ∧ (resultState res).network_metrics = [] := by
  decide

/-- The invariant of the four lists: each holds records of its collector's class, and the
disk and network lists obey the rate law. -/
structure WellFormed (mc : MetricCollector) : Prop where
  cpu : OfClass .cpu mc.cpu_metrics
  memory : OfClass .memory mc.memory_metrics
  disk : RateStore .disk samePid mc.disk_metrics
  network : RateStore .network sameSystem mc.network_metrics

theorem wellFormed_init : WellFormed init :=
  ⟨fun _ h => (nomatch h), fun _ h => (nomatch h), .nil, .nil⟩

/-- The four lists across part of the round of collection `index`. -/
structure RoundStep (index : ℕ) (mc mc' : MetricCollector) : Prop where
  cpu : ListStep index (OfClass .cpu) mc.cpu_metrics mc'.cpu_metrics
  memory : ListStep index (OfClass .memory) mc.memory_metrics mc'.memory_metrics
  disk : ListStep index (RateStore .disk samePid) mc.disk_metrics mc'.disk_metrics
  network : ListStep index (RateStore .network sameSystem) mc.network_metrics mc'.network_metrics

namespace RoundStep

variable {index : ℕ} {mc₁ mc₂ mc₃ : MetricCollector}

theorem refl (mc : MetricCollector) : RoundStep index mc mc :=
  ⟨.refl _, .refl _, .refl _, .refl _⟩

theorem trans (h₁ : RoundStep index mc₁ mc₂) (h₂ : RoundStep index mc₂ mc₃) :
    RoundStep index mc₁ mc₃ :=
  ⟨h₁.cpu.trans h₂.cpu, h₁.memory.trans h₂.memory, h₁.disk.trans h₂.disk,
    h₁.network.trans h₂.network⟩

theorem wellFormed (h : RoundStep index mc₁ mc₂) (hw : WellFormed mc₁) : WellFormed mc₂ :=
  ⟨(h.cpu hw.cpu).1, (h.memory hw.memory).1, (h.disk hw.disk).1, (h.network hw.network).1⟩

end RoundStep

instance instIsReflRoundStep (index : ℕ) : IsRefl MetricCollector (RoundStep index) :=
  ⟨RoundStep.refl⟩

instance instIsTransRoundStep (index : ℕ) : IsTrans MetricCollector (RoundStep index) :=
  ⟨fun _ _ _ => RoundStep.trans⟩

theorem resultState_focus (get : MetricCollector → List MetricBase)
    (set : MetricCollector → List MetricBase → MetricCollector)
    (x : EStateM PyExc (List MetricBase) α) (mc : MetricCollector) :
    resultState (focus get set x mc) = set mc (resultState (x (get mc))) := by
  unfold focus
  cases x (get mc) <;> rfl

theorem resultExc_focus (get : MetricCollector → List MetricBase)
    (set : MetricCollector → List MetricBase → MetricCollector)
    (x : EStateM PyExc (List MetricBase) α) (mc : MetricCollector) :
    resultExc (focus get set x mc) = resultExc (x (get mc)) := by
  unfold focus
  cases x (get mc) <;> rfl

/-- A collector call on one list keeps the round's invariant when it steps that list and
leaves the others as they are. -/
theorem focus_keeps {index : ℕ} {get : MetricCollector → List MetricBase}
    {set : MetricCollector → List MetricBase → MetricCollector}
    {x : EStateM PyExc (List MetricBase) α}
    (h : ∀ mc, RoundStep index mc (set mc (resultState (x (get mc))))) :
    Keeps (RoundStep index) (focus get set x) := fun mc =>
  (resultState_focus get set x mc).symm ▸ h mc

theorem collectMetricsForProcess_keeps (pid parent_pid index : ℕ) (a : ProcessAnswers) :
    Keeps (RoundStep index) (collectMetricsForProcess pid parent_pid index a) := by
  unfold collectMetricsForProcess
  refine .bind (focus_keeps fun _ => ⟨.refl _, ?_, .refl _, .refl _⟩) fun _ =>
    .bind (focus_keeps fun _ => ⟨?_, .refl _, .refl _, .refl _⟩) fun _ =>
    .bind (focus_keeps fun _ => ⟨.refl _, .refl _, fun hl => ?_, .refl _⟩) fun _ => .pure ()
  · exact (MemoryMetricCollector.collectMetric_spec _ pid _ _ index a.rss).listStep
      fun r hr => ⟨hr.2.2, fun h => h.append hr.1⟩
  · exact (CPUMetricCollector.collectMetric_spec _ pid _ _ index a.cpu).listStep
      fun r hr => ⟨hr.2.2, fun h => h.append hr.1⟩
  · exact (DiskMetricCollector.collectMetric_spec hl pid _ _ index a.io_counters).listStep
      (fun r hr => ⟨hr.2.2.1, fun h => h.append hr.1 hr.2.2.2⟩) hl

theorem collectProcesses_keeps (index : ℕ) :
    ∀ process_list, Keeps (RoundStep index) (collectProcesses index process_list)
  | [] => .pure ()
  | (pid, a) :: rest => by
    rw [collectProcesses]
    exact .bind (.liftExcept a.ppid) fun parent_pid =>
      .bind (collectMetricsForProcess_keeps pid parent_pid index a) fun _ =>
        collectProcesses_keeps index rest

/-- Whatever `psutil` answers, and whether it returns or raises, a round of collection `index`
keeps the invariant of the four lists and only appends records of that collection. -/
theorem collectAllMetrics_keeps (parent_pid index : ℕ) (env : RoundEnv) :
    Keeps (RoundStep index) (collectAllMetrics parent_pid index env) := by
  unfold collectAllMetrics
  refine .bind (.liftExcept _) fun process_list =>
    .bind (collectProcesses_keeps index _) fun _ =>
    .bind (focus_keeps fun _ => ⟨.refl _, .refl _, .refl _, fun hl => ?_⟩) fun _ => .pure ()
  exact (NetworkMetricCollector.collectMetric_spec hl _ index _).listStep
    (fun r hr => ⟨hr.2.1, fun h => h.append hr.1 hr.2.2⟩) hl

/-- Each list of `mc'` extends the same list of `mc`. -/
structure Extends (mc mc' : MetricCollector) : Prop where
  cpu : mc.cpu_metrics <+: mc'.cpu_metrics
  memory : mc.memory_metrics <+: mc'.memory_metrics
  disk : mc.disk_metrics <+: mc'.disk_metrics
  network : mc.network_metrics <+: mc'.network_metrics

theorem Extends.refl (mc : MetricCollector) : Extends mc mc :=
  ⟨List.prefix_refl _, List.prefix_refl _, List.prefix_refl _, List.prefix_refl _⟩

theorem Extends.trans {mc₁ mc₂ mc₃ : MetricCollector} (h₁ : Extends mc₁ mc₂)
    (h₂ : Extends mc₂ mc₃) : Extends mc₁ mc₃ :=
  ⟨h₁.cpu.trans h₂.cpu, h₁.memory.trans h₂.memory, h₁.disk.trans h₂.disk,
    h₁.network.trans h₂.network⟩

/-- The four lists are in the order of their collections, all before collection `n`. -/
structure Ordered (n : ℕ) (mc : MetricCollector) : Prop where
  cpu : IdsBelow n mc.cpu_metrics
  memory : IdsBelow n mc.memory_metrics
  disk : IdsBelow n mc.disk_metrics
  network : IdsBelow n mc.network_metrics

theorem Ordered.mono {n : ℕ} {mc : MetricCollector} (h : Ordered n mc) : Ordered (n+1) mc :=
  ⟨h.cpu.mono, h.memory.mono, h.disk.mono, h.network.mono⟩

theorem ordered_init (n : ℕ) : Ordered n init :=
  ⟨⟨.nil, nofun⟩, ⟨.nil, nofun⟩, ⟨.nil, nofun⟩, ⟨.nil, nofun⟩⟩

/-- Part of the round of collection `index`, on valid lists ordered before it, only extends the
lists, and leaves them ordered before the next collection. -/
theorem RoundStep.extends_ordered {index : ℕ} {mc mc' : MetricCollector}
    (h : RoundStep index mc mc') (hw : WellFormed mc) (ho : Ordered index mc) :
    Extends mc mc' ∧ Ordered (index+1) mc' := by
  obtain ⟨c₁, c₂⟩ := h.cpu.extends_idsBelow hw.cpu ho.cpu
  obtain ⟨m₁, m₂⟩ := h.memory.extends_idsBelow hw.memory ho.memory
  obtain ⟨d₁, d₂⟩ := h.disk.extends_idsBelow hw.disk ho.disk
  obtain ⟨n₁, n₂⟩ := h.network.extends_idsBelow hw.network ho.network
  exact ⟨⟨c₁, m₁, d₁, n₁⟩, ⟨c₂, m₂, d₂, n₂⟩⟩

end MetricCollector

/-- A round about a monitored process without children, in which `psutil` answers every
call. -/
def RoundEnv.solo (env : RoundEnv) : Bool :=
  match env.root, env.children with
  | .ok a, .ok [] => a.ppid.isOk && a.rss.isOk && a.cpu.isOk && a.io_counters.isOk &&
      env.net_io_counters.isOk
  | _, _ => false

theorem except_isOk_iff {e : Except PyExc α} : e.isOk = true ↔ ∃ a, e = .ok a := by
  cases e <;> simp [Except.isOk, Except.toBool]

/-- `psutil` answers `proc.ppid()` about the process, and raises nothing but `NoSuchProcess`
when its collectors read it. -/
structure ProcessAnswers.NoFault (a : ProcessAnswers) : Prop where
  ppid : a.ppid.isOk
  rss : NoFatal a.rss
  cpu : NoFatal a.cpu
  io_counters : NoFatal a.io_counters

theorem noFatal_of_isOk {e : Except PyExc α} (h : e.isOk) : NoFatal e := by
  rintro _ rfl
  cases h

namespace MetricCollector

/-- What a round appends to one collector's list: for the processes of `process_list` in
order, a record about each one the collector's reading of which `answered`, all of collection
`index`. -/
def Appended (index : ℕ) (answered : ProcessAnswers → Bool)
    (process_list : List (ℕ × ProcessAnswers)) (l l' : List MetricBase) : Prop :=
  ∃ new, l' = l ++ new ∧ new.map (·.pid) = (process_list.filter (answered ·.2)).map (some ·.1) ∧
    ∀ r ∈ new, r.collection_id = index

namespace Appended

variable {index : ℕ} {answered : ProcessAnswers → Bool}

theorem nil (l : List MetricBase) : Appended index answered [] l l :=
  ⟨[], (List.append_nil l).symm, rfl, fun _ h => (nomatch h)⟩

theorem append {ps₁ ps₂ : List (ℕ × ProcessAnswers)} {l₁ l₂ l₃ : List MetricBase}
    (h₁ : Appended index answered ps₁ l₁ l₂) (h₂ : Appended index answered ps₂ l₂ l₃) :
    Appended index answered (ps₁ ++ ps₂) l₁ l₃ := by
  obtain ⟨n₁, rfl, hp₁, hi₁⟩ := h₁
  obtain ⟨n₂, rfl, hp₂, hi₂⟩ := h₂
  refine ⟨n₁ ++ n₂, List.append_assoc .., ?_, fun r hr => (List.mem_append.mp hr).elim (hi₁ r) (hi₂ r)⟩
  rw [List.map_append, hp₁, hp₂, List.filter_append, List.map_append]

/-- One collector call about process `pid` that returned the record `o` it appended. -/
theorem single {pid : ℕ} {a : ProcessAnswers} {l : List MetricBase} {o : Option MetricBase}
    (ho : ∀ r ∈ o, r.pid = some pid ∧ r.collection_id = index) (hs : o.isSome = answered a) :
    Appended index answered [(pid, a)] l (l ++ o.toList) := by
  refine ⟨o.toList, rfl, ?_, fun r hr => (ho r (Option.mem_toList.mp hr)).2⟩
  cases o with
  | none => simp [← hs]
  | some r => simp [← hs, (ho r rfl).1]

/-- About a process that answered, exactly one record is appended. -/
theorem single_answered {pid : ℕ} {a : ProcessAnswers} {l l' : List MetricBase}
    (h : Appended index answered [(pid, a)] l l') (ha : answered a) :
    ∃ r, l' = l ++ [r] ∧ r.collection_id = index := by
  obtain ⟨new, rfl, hp, hi⟩ := h
  rcases new with _ | ⟨r, _ | _⟩ <;> simp [ha] at hp
  exact ⟨r, rfl, hi r (List.mem_singleton_self r)⟩

end Appended

/-- The three per-process lists of `mc'` are those of `mc` with what a round appends for the
processes of `process_list`. -/
structure ProcessesAppended (index : ℕ) (process_list : List (ℕ × ProcessAnswers))
    (mc mc' : MetricCollector) : Prop where
  cpu : Appended index (·.cpu.isOk) process_list mc.cpu_metrics mc'.cpu_metrics
  memory : Appended index (·.rss.isOk) process_list mc.memory_metrics mc'.memory_metrics
  disk : Appended index (·.io_counters.isOk) process_list mc.disk_metrics mc'.disk_metrics

theorem ProcessesAppended.append {index : ℕ} {ps₁ ps₂ : List (ℕ × ProcessAnswers)}
    {mc₁ mc₂ mc₃ : MetricCollector} (h₁ : ProcessesAppended index ps₁ mc₁ mc₂)
    (h₂ : ProcessesAppended index ps₂ mc₂ mc₃) : ProcessesAppended index (ps₁ ++ ps₂) mc₁ mc₃ :=
  ⟨h₁.cpu.append h₂.cpu, h₁.memory.append h₂.memory, h₁.disk.append h₂.disk⟩

theorem collectMetricsForProcess_of_noFatal (pid parent_pid index : ℕ) {a : ProcessAnswers}
    (ha : a.NoFault) {mc : MetricCollector} (hw : WellFormed mc) :
    ∃ mc', collectMetricsForProcess pid parent_pid index a mc = .ok () mc' ∧
      ProcessesAppended index [(pid, a)] mc mc' ∧ mc'.network_metrics = mc.network_metrics := by
  obtain ⟨o₁, h₁, p₁, s₁⟩ := (MemoryMetricCollector.collectMetric_spec mc.memory_metrics pid
    (some parent_pid) a.memory_time index a.rss).of_noFatal ha.rss
  obtain ⟨o₂, h₂, p₂, s₂⟩ := (CPUMetricCollector.collectMetric_spec mc.cpu_metrics pid
    (some parent_pid) a.cpu_time index a.cpu).of_noFatal ha.cpu
  obtain ⟨o₃, h₃, p₃, s₃⟩ := (DiskMetricCollector.collectMetric_spec hw.disk pid
    (some parent_pid) a.disk_time index a.io_counters).of_noFatal ha.io_counters
  refine ⟨⟨mc.cpu_metrics ++ o₂.toList, mc.memory_metrics ++ o₁.toList,
    mc.disk_metrics ++ o₃.toList, mc.network_metrics⟩, ?_,
    ⟨.single (fun r hr => (p₂ r hr).2) s₂, .single (fun r hr => (p₁ r hr).2) s₁,
      .single (fun r hr => ⟨(p₃ r hr).2.1, (p₃ r hr).2.2.1⟩) s₃⟩, rfl⟩
  simp only [collectMetricsForProcess, bind, EStateM.bind, onMemory, onCpu, onDisk, focus,
    h₁, h₂, h₃, pure, EStateM.pure]

/-- A process that answers `proc.ppid()`, and about which `psutil` raises nothing but
`NoSuchProcess`, gets its records and hands the rest of the loop valid lists. -/
theorem collectProcesses_cons (index pid : ℕ) {a : ProcessAnswers} (ha : a.NoFault)
    (rest : List (ℕ × ProcessAnswers)) {mc : MetricCollector} (hw : WellFormed mc) :
    ∃ mc₁, collectProcesses index ((pid, a) :: rest) mc = collectProcesses index rest mc₁ ∧
      WellFormed mc₁ ∧ ProcessesAppended index [(pid, a)] mc mc₁ ∧
      mc₁.network_metrics = mc.network_metrics := by
  obtain ⟨pp, hpp⟩ := except_isOk_iff.mp ha.ppid
  obtain ⟨mc₁, h₁, a₁, n₁⟩ := collectMetricsForProcess_of_noFatal pid pp index ha hw
  have hw₁ : WellFormed mc₁ := by
    have h := (collectMetricsForProcess_keeps pid pp index a mc).wellFormed hw
    rwa [h₁] at h
  refine ⟨mc₁, ?_, hw₁, a₁, n₁⟩
  simp only [collectProcesses, bind, EStateM.bind, liftExcept, hpp, pure, EStateM.pure, h₁]

theorem collectProcesses_of_noFatal (index : ℕ) :
    ∀ process_list : List (ℕ × ProcessAnswers), (∀ p ∈ process_list, p.2.NoFault) →
      ∀ {mc : MetricCollector}, WellFormed mc →
        ∃ mc', collectProcesses index process_list mc = .ok () mc' ∧
          ProcessesAppended index process_list mc mc' ∧ mc'.network_metrics = mc.network_metrics
  | [], _, mc, _ => ⟨mc, rfl, ⟨.nil _, .nil _, .nil _⟩, rfl⟩
  | (pid, _) :: rest, h, _, hw => by
    obtain ⟨mc₁, h₁, hw₁, a₁, n₁⟩ :=
      collectProcesses_cons index pid (h _ (List.mem_cons_self _ _)) rest hw
    obtain ⟨mc₂, h₂, a₂, n₂⟩ :=
      collectProcesses_of_noFatal index rest (fun p hp => h p (List.mem_cons_of_mem _ hp)) hw₁
    exact ⟨mc₂, h₁.trans h₂, a₁.append a₂, n₂.trans n₁⟩

theorem collectProcesses_of_ppid_error (index pid : ℕ) {a : ProcessAnswers} {e : PyExc}
    (he : a.ppid = .error e) (post : List (ℕ × ProcessAnswers)) :
    ∀ pre : List (ℕ × ProcessAnswers), (∀ p ∈ pre, p.2.NoFault) →
      ∀ {mc : MetricCollector}, WellFormed mc →
        ∃ mc', collectProcesses index (pre ++ (pid, a) :: post) mc = .error e mc' ∧
          ProcessesAppended index pre mc mc' ∧ mc'.network_metrics = mc.network_metrics
  | [], _, mc, _ => ⟨mc, by simp [collectProcesses, he, liftExcept, bind, EStateM.bind, throw,
      throwThe, MonadExceptOf.throw, EStateM.throw], ⟨.nil _, .nil _, .nil _⟩, rfl⟩
  | (pid', _) :: pre, h, _, hw => by
    obtain ⟨mc₁, h₁, hw₁, a₁, n₁⟩ :=
      collectProcesses_cons index pid' (h _ (List.mem_cons_self _ _)) (pre ++ (pid, a) :: post) hw
    obtain ⟨mc₂, h₂, a₂, n₂⟩ := collectProcesses_of_ppid_error index pid he post pre
      (fun p hp => h p (List.mem_cons_of_mem _ hp)) hw₁
    exact ⟨mc₂, h₁.trans h₂, a₁.append a₂, n₂.trans n₁⟩

/-- A round in which every process of the tree snapshot answers `proc.ppid()`, and `psutil`
raises nothing but `NoSuchProcess`, returns. For the processes of the snapshot in order it
appends a `CPUMetric`, a `MemoryMetric` and a `DiskMetric` about each one whose reading
`psutil` answered, then one `NetworkMetric`, all of collection `index`. -/
theorem collectAllMetrics_of_noFatal (parent_pid index : ℕ) {env : RoundEnv}
    {process_list : List (ℕ × ProcessAnswers)}
    (hl : getProcessList parent_pid env = .ok process_list)
    (hp : ∀ p ∈ process_list, p.2.NoFault) (hn : env.net_io_counters.isOk)
    {mc : MetricCollector} (hw : WellFormed mc) :
    ∃ mc', collectAllMetrics parent_pid index env mc = .ok () mc' ∧
      ProcessesAppended index process_list mc mc' ∧
      ∃ r, mc'.network_metrics = mc.network_metrics ++ [r] ∧ r.collection_id = index := by
  obtain ⟨mc₁, h₁, a₁, n₁⟩ := collectProcesses_of_noFatal index process_list hp hw
  have hw₁ : WellFormed mc₁ := by
    have h := (collectProcesses_keeps index process_list mc).wellFormed hw
    rwa [h₁] at h
  obtain ⟨c, hc⟩ := except_isOk_iff.mp hn
  obtain ⟨r, h₂, -, hi, -⟩ :=
    NetworkMetricCollector.collectMetric_spec hw₁.network env.network_time index (.ok c)
  refine ⟨{ mc₁ with network_metrics := mc₁.network_metrics ++ [r] }, ?_, ⟨a₁.cpu, a₁.memory, a₁.disk⟩, r,
    by rw [n₁], hi⟩
  simp only [collectAllMetrics, hl, liftExcept, bind, EStateM.bind, h₁, onNetwork, focus, hc,
    h₂, pure, EStateM.pure]

/-- A process of the tree snapshot whose `proc.ppid()` raises aborts the round with that
exception: the processes before it, which answer and about which `psutil` raises nothing but
`NoSuchProcess`, got their records; no later process does, and no `NetworkMetric` is
collected. -/
theorem collectAllMetrics_of_ppid_error (parent_pid index : ℕ) {env : RoundEnv}
    {pre post : List (ℕ × ProcessAnswers)} {pid : ℕ} {a : ProcessAnswers} {e : PyExc}
    (hl : getProcessList parent_pid env = .ok (pre ++ (pid, a) :: post))
    (hp : ∀ p ∈ pre, p.2.NoFault) (he : a.ppid = .error e) {mc : MetricCollector}
    (hw : WellFormed mc) :
    ∃ mc', collectAllMetrics parent_pid index env mc = .error e mc' ∧
      ProcessesAppended index pre mc mc' ∧ mc'.network_metrics = mc.network_metrics := by
  obtain ⟨mc', h, hpa, hn⟩ := collectProcesses_of_ppid_error index pid he post pre hp hw
  refine ⟨mc', ?_, hpa, hn⟩
  simp only [collectAllMetrics, hl, liftExcept, bind, EStateM.bind, pure, EStateM.pure, h]

/-- A child that exits between the tree snapshot and its `proc.ppid()`, after its parent
answered. -/
theorem collectAllMetrics_of_ppid_error_example :
    let alive : ProcessAnswers :=
      ⟨.ok 0, 0, .ok 0, 0, .ok ⟨0, ⟨0, 0, none, none, none⟩⟩, 0, .ok ⟨0, 0⟩⟩
    let exited : ProcessAnswers := ⟨.error (.NoSuchProcess 2), 0, .error (.NoSuchProcess 2), 0,
      .error (.NoSuchProcess 2), 0, .error (.NoSuchProcess 2)⟩
    let env : RoundEnv := ⟨.ok alive, .ok [(2, exited)], 0, .ok ⟨0, 0⟩⟩
    getProcessList 1 env = .ok ([(1, alive)] ++ (2, exited) :: []) ∧
      (∀ p ∈ [(1, alive)], p.2.NoFault) ∧ exited.ppid = .error (.NoSuchProcess 2) ∧
      WellFormed init ∧
      ∃ mc', collectAllMetrics 1 0 env init = .error (.NoSuchProcess 2) mc' ∧
        ProcessesAppended 0 [(1, alive)] init mc' ∧ mc'.network_metrics = init.network_metrics := by
  intro alive exited env
  have hl : getProcessList 1 env = .ok ([(1, alive)] ++ (2, exited) :: []) := rfl
  have hp : ∀ p ∈ [(1, alive)], p.2.NoFault := fun p hp => by
    obtain rfl := List.mem_singleton.mp hp
    exact ⟨rfl, noFatal_of_isOk rfl, noFatal_of_isOk rfl, noFatal_of_isOk rfl⟩
  exact ⟨hl, hp, rfl, wellFormed_init,
    collectAllMetrics_of_ppid_error 1 0 hl hp rfl wellFormed_init⟩

/-- Each list of `mc'` is that of `mc` with one record of collection `index` appended. -/
structure OneMore (index : ℕ) (mc mc' : MetricCollector) : Prop where
  cpu : ∃ r, mc'.cpu_metrics = mc.cpu_metrics ++ [r] ∧ r.collection_id = index
  memory : ∃ r, mc'.memory_metrics = mc.memory_metrics ++ [r] ∧ r.collection_id = index
  disk : ∃ r, mc'.disk_metrics = mc.disk_metrics ++ [r] ∧ r.collection_id = index
  network : ∃ r, mc'.network_metrics = mc.network_metrics ++ [r] ∧ r.collection_id = index

/-- In a round of a monitored process without children where `psutil` answers every call, the
round returns and each list gains exactly one record, of collection `index`. -/
theorem collectAllMetrics_solo (parent_pid index : ℕ) {env : RoundEnv} (h : env.solo)
    {mc : MetricCollector} (hw : WellFormed mc) :
    ∃ mc', collectAllMetrics parent_pid index env mc = .ok () mc' ∧ OneMore index mc mc' := by
  rcases hroot : env.root with _ | a <;> rcases hchildren : env.children with _ | _ | ⟨_, _⟩ <;>
    simp only [RoundEnv.solo, hroot, hchildren, Bool.false_eq_true, Bool.and_eq_true] at h
  obtain ⟨⟨⟨⟨hpp, hrss⟩, hcpu⟩, hio⟩, hnet⟩ := h
  have hl : getProcessList parent_pid env = .ok [(parent_pid, a)] := by
    simp only [getProcessList, hroot, hchildren]
    rfl
  have ha : ∀ p ∈ [(parent_pid, a)], p.2.NoFault := fun p hp => by
    obtain rfl := List.mem_singleton.mp hp
    exact ⟨hpp, noFatal_of_isOk hrss, noFatal_of_isOk hcpu, noFatal_of_isOk hio⟩
  obtain ⟨mc', h', hs, hn⟩ := collectAllMetrics_of_noFatal parent_pid index hl ha hnet hw
  exact ⟨mc', h', hs.cpu.single_answered hcpu, hs.memory.single_answered hrss,
    hs.disk.single_answered hio, hn⟩

end MetricCollector

end Lithopserve.Profiling
