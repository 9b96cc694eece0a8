import Mathlib.Algebra.Order.Field.Rat

/-! The metric records of `worker/metrics.py`: the four dataclasses, their additive fields,
and the arithmetic of `MetricBase`, whose result is rebuilt by `self.__class__(**new_data)`.
Numbers are read over exact arithmetic. -/

namespace Lithopserve.Profiling

/-- The exceptions the modelled code raises or catches. `Other` is any exception of the
environment that no handler of the source names (`psutil.AccessDenied`, `OSError`, ...). -/
inductive PyExc
  | NoSuchProcess (pid : ℕ)
  | TypeError (msg : String)
  | ValueError (msg : String)
  | AttributeError (msg : String)
  | ZeroDivisionError
  | Other (what : String)
  deriving DecidableEq, Repr

instance instDecidableEqExcept {ε α : Type} [DecidableEq ε] [DecidableEq α] :
    DecidableEq (Except ε α)
  | .error x, .error y => decidable_of_iff (x = y) (by simp)
  | .ok x, .ok y => decidable_of_iff (x = y) (by simp)
  | .error _, .ok _ => isFalse nofun
  | .ok _, .error _ => isFalse nofun

/-- The test of `except psutil.NoSuchProcess`. -/
def PyExc.isNoSuchProcess : PyExc → Bool
  | .NoSuchProcess _ => true
  | _ => false

/-- Python's `a / b` on numbers: a zero divisor raises. -/
def pyTrueDiv (a b : ℚ) : Except PyExc ℚ :=
  if b = 0 then .error .ZeroDivisionError else pure (a/b)

theorem pyTrueDiv_of_ne_zero {a b : ℚ} (hb : b ≠ 0) : pyTrueDiv a b = pure (a/b) := by
  simp [pyTrueDiv, hb]

/-- The concrete metric dataclasses `CPUMetric`, `MemoryMetric`, `DiskMetric` and
`NetworkMetric`. No one of them subclasses another, so `isinstance(other, type(self))` is
equality of classes. -/
inductive MetricClass
  | cpu | memory | disk | network
  deriving DecidableEq, Repr

namespace MetricClass

/-- `type(self).__name__`, which the messages of `__add__`, `__sub__` and the generated
`__init__` name. -/
def name : MetricClass → String
  | cpu => "CPUMetric"
  | memory => "MemoryMetric"
  | disk => "DiskMetric"
  | network => "NetworkMetric"

def METRIC_TYPES_FIELDS : MetricClass → List String
  | cpu => ["cpu_usage", "user_time", "system_time", "children_user_time",
      "children_system_time", "iowait_time"]
  | memory => ["memory_usage"]
  | disk => ["disk_read_mb", "disk_write_mb", "disk_read_rate", "disk_write_rate"]
  | network => ["net_read_mb", "net_write_mb", "net_read_rate", "net_write_rate"]

/-- The subclasses of `ProcessMetric`. -/
def isProcessMetric : MetricClass → Bool
  | network => false
  | _ => true

/-- The parameters of the generated `__init__`, in order: the fields of `MetricBase`, of
`ProcessMetric`, then the class's own annotations, which list `METRIC_TYPES_FIELDS`. -/
def dataclassFields (k : MetricClass) : List String :=
  ["timestamp", "collection_id"] ++ (if k.isProcessMetric then ["pid", "parent_pid"] else []) ++
    k.METRIC_TYPES_FIELDS

/-- The keys of `new_data` in `__add__`, `__sub__` and `__truediv__`. -/
def newDataKeys (k : MetricClass) : List String :=
  "timestamp" :: "collection_id" :: k.METRIC_TYPES_FIELDS

/-- The parameters of `__init__` that `**new_data` leaves unbound. -/
def unboundFields (k : MetricClass) : List String :=
  k.dataclassFields.filter (· ∉ k.newDataKeys)

theorem unboundFields_of_isProcessMetric {k : MetricClass} (hk : k.isProcessMetric = true) :
    k.unboundFields = ["pid", "parent_pid"] := by
  cases k <;> first | rfl | cases hk

theorem unboundFields_network : network.unboundFields = [] := rfl

theorem METRIC_TYPES_FIELDS_nodup (k : MetricClass) : k.METRIC_TYPES_FIELDS.Nodup := by
  cases k <;> decide

end MetricClass

open MetricClass

/-- An instance of a metric dataclass. `values` holds the additive fields in
`METRIC_TYPES_FIELDS` order; a `NetworkMetric` has no `pid` or `parent_pid`. -/
structure MetricBase where
  cls : MetricClass
  timestamp : ℚ
  collection_id : ℕ
  pid : Option ℕ
  parent_pid : Option ℕ
  values : List ℚ
  values_length : values.length = cls.METRIC_TYPES_FIELDS.length
  ids_absent : cls.isProcessMetric = false → pid = none ∧ parent_pid = none
  deriving DecidableEq

namespace MetricBase

/-- `getattr(self, name, None)` on an additive field, the only attributes the source reads
by name. -/
def attr (m : MetricBase) (name : String) : Option ℚ :=
  (m.cls.METRIC_TYPES_FIELDS.zip m.values).lookup name

/-- The attribute read `self.name` on an additive field. -/
def getattr (m : MetricBase) (name : String) : Except PyExc ℚ :=
  match m.attr name with
  | some v => pure v
  | none => .error (.AttributeError ("\x27" ++ m.cls.name ++ "\x27 object has no attribute \x27" ++
      name ++ "\x27"))

/-- `MetricBase.__lt__`: records are ordered by timestamp alone. -/
def lt (a b : MetricBase) : Prop := a.timestamp < b.timestamp

end MetricBase

/-- CPython's text naming the unbound parameters of a call. -/
def quoteNames : List String → String
  | [] => ""
  | [a] => "\x27" ++ a ++ "\x27"
  | [a, b] => "\x27" ++ a ++ "\x27 and \x27" ++ b ++ "\x27"
  | a :: rest => "\x27" ++ a ++ "\x27, " ++ quoteNames rest

/-- The `TypeError` of a generated `__init__` called without the parameters `missing`. -/
def missingArgumentsMessage (k : MetricClass) (missing : List String) : String :=
  k.name ++ ".__init__() missing " ++ toString missing.length ++
    (if missing.length = 1 then " required positional argument: "
      else " required positional arguments: ") ++ quoteNames missing

/-- `self.__class__(**new_data)`, where `new_data` binds `timestamp`, `collection_id` and
the additive fields to `values`. -/
def MetricClass.fromNewData (k : MetricClass) (timestamp : ℚ) (collection_id : ℕ)
    (values : List ℚ) (h : values.length = k.METRIC_TYPES_FIELDS.length) :
    Except PyExc MetricBase :=
  match k.unboundFields with
  | [] => pure ⟨k, timestamp, collection_id, none, none, values, h, fun _ => ⟨rfl, rfl⟩⟩
  | missing => .error (.TypeError (missingArgumentsMessage k missing))

/-- The loop `for field_name in fields: new_data[field_name] = compute(field_name)`. -/
def newDataValues (compute : String → Except PyExc ℚ) :
    (fields : List String) → Except PyExc {vs : List ℚ // vs.length = fields.length}
  | [] => pure ⟨[], rfl⟩
  | f :: fs => do
    let v ← compute f
    let vs ← newDataValues compute fs
    pure ⟨v :: vs.1, by simp [vs.2]⟩

namespace MetricBase

/-- `__add__` and `__sub__`, which differ only in the operator `op` and the `verb` of
their error. -/
def combine (verb : String) (op : ℚ → ℚ → ℚ) (self other : MetricBase) :
    Except PyExc MetricBase :=
  if other.cls ≠ self.cls then
    .error (.TypeError ("Cannot " ++ verb ++ " different metric types: " ++ self.cls.name ++
      " and " ++ other.cls.name))
  else do
    let vs ← newDataValues (fun f => pure (op ((self.attr f).getD 0) ((other.attr f).getD 0)))
      self.cls.METRIC_TYPES_FIELDS
    self.cls.fromNewData (max self.timestamp other.timestamp) self.collection_id vs.1 vs.2

/-- `MetricBase.__add__`: field-wise sums, rebuilt with `self.__class__(**new_data)`. -/
def add : MetricBase → MetricBase → Except PyExc MetricBase := combine "add" (·+·)

/-- `MetricBase.__sub__`: field-wise differences, rebuilt like `__add__`. -/
def sub : MetricBase → MetricBase → Except PyExc MetricBase := combine "subtract" (·-·)

/-- `MetricBase.__truediv__` by a number: each field divided, a zero divisor refused first. -/
def truediv (self : MetricBase) (number : ℚ) : Except PyExc MetricBase :=
  if number = 0 then .error (.ValueError "Cannot divide by zero.")
  else do
    let vs ← newDataValues (fun f => pyTrueDiv ((self.attr f).getD 0) number)
      self.cls.METRIC_TYPES_FIELDS
    self.cls.fromNewData self.timestamp self.collection_id vs.1 vs.2

theorem lookup_zip_getD {ks : List String} {vs : List ℚ} (hn : ks.Nodup)
    (hl : vs.length = ks.length) {i : ℕ} (hi : i < ks.length) :
    (ks.zip vs).lookup (ks.getD i "") = some (vs.getD i 0) := by
  induction ks generalizing vs i with
  | nil => simp at hi
  | cons k ks ih =>
    cases vs with
    | nil => simp at hl
    | cons v vs =>
      rw [List.nodup_cons] at hn
      cases i with
      | zero => simp [List.lookup_cons]
      | succ i =>
        have hi' : i < ks.length := by simpa using hi
        have hmem : ks.getD i "" ∈ ks := by
          rw [List.getD_eq_getElem?_getD, List.getElem?_eq_getElem hi']
          exact List.getElem_mem hi'
        have hne : (ks.getD i "" == k) = false := beq_eq_false_iff_ne.mpr fun h => hn.1 (h ▸ hmem)
        rw [List.getD_cons_succ, List.getD_cons_succ, List.zip_cons_cons, List.lookup_cons, hne]
        exact ih hn.2 (by simpa using hl) hi'

theorem map_lookup_zip {ks : List String} {vs : List ℚ} (d : ℚ) (hn : ks.Nodup)
    (hl : vs.length = ks.length) : ks.map (fun k => ((ks.zip vs).lookup k).getD d) = vs := by
  refine List.ext_getElem (by rw [List.length_map, hl]) fun i h₁ h₂ => ?_
  rw [List.length_map] at h₁
  have h := lookup_zip_getD hn hl h₁
  simp only [List.getD_eq_getElem?_getD, List.getElem?_eq_getElem h₁,
    List.getElem?_eq_getElem h₂, Option.getD_some] at h
  rw [List.getElem_map, h, Option.getD_some]

/-- The `i`-th additive field of a record reads as its `i`-th stored value. -/
theorem getattr_getD (m : MetricBase) {i : ℕ} (hi : i < m.cls.METRIC_TYPES_FIELDS.length) :
    m.getattr (m.cls.METRIC_TYPES_FIELDS.getD i "") = pure (m.values.getD i 0) := by
  rw [getattr, attr, lookup_zip_getD (METRIC_TYPES_FIELDS_nodup m.cls) m.values_length hi]

/-- Reading every additive field by name gives back the stored values. -/
theorem map_attr_eq_values (m : MetricBase) :
    m.cls.METRIC_TYPES_FIELDS.map (fun f => (m.attr f).getD 0) = m.values :=
  map_lookup_zip 0 (METRIC_TYPES_FIELDS_nodup m.cls) m.values_length

end MetricBase

theorem newDataValues_pure (g : String → ℚ) (fields : List String) :
    newDataValues (fun f => pure (g f)) fields = pure ⟨fields.map g, by simp⟩ := by
  induction fields with
  | nil => rfl
  | cons f fs ih => simp only [newDataValues, ih]; rfl

theorem fromNewData_of_isProcessMetric {k : MetricClass} (hk : k.isProcessMetric = true)
    (timestamp : ℚ) (collection_id : ℕ) (values : List ℚ) h :
    k.fromNewData timestamp collection_id values h =
      .error (.TypeError (missingArgumentsMessage k ["pid", "parent_pid"])) := by
  rw [MetricClass.fromNewData, unboundFields_of_isProcessMetric hk]

namespace MetricBase

theorem combine_of_cls_ne {verb : String} {op : ℚ → ℚ → ℚ} {a b : MetricBase}
    (h : b.cls ≠ a.cls) :
    combine verb op a b = .error (.TypeError ("Cannot " ++ verb ++
      " different metric types: " ++ a.cls.name ++ " and " ++ b.cls.name)) := by
  simp [combine, h]

/-- The values `new_data` gets in `__add__` and `__sub__` are the field-wise results. -/
theorem combine_eq_fromNewData {verb : String} {op : ℚ → ℚ → ℚ} {a b : MetricBase}
    (h : b.cls = a.cls) :
    combine verb op a b = a.cls.fromNewData (max a.timestamp b.timestamp) a.collection_id
      (List.zipWith op a.values b.values) (by simp [a.values_length, b.values_length, h]) := by
  have hv : a.cls.METRIC_TYPES_FIELDS.map (fun f => op ((a.attr f).getD 0) ((b.attr f).getD 0)) =
      List.zipWith op a.values b.values := by
    rw [← map_attr_eq_values a, ← map_attr_eq_values b, h, List.zipWith_map, List.zipWith_same]
  simp only [combine, h, ne_eq, not_true_eq_false, if_false, newDataValues_pure]
  simp only [hv]
  rfl

theorem truediv_eq_fromNewData {a : MetricBase} {n : ℚ} (hn : n ≠ 0) :
    a.truediv n = a.cls.fromNewData a.timestamp a.collection_id (a.values.map (·/n))
      (by simp [a.values_length]) := by
  have hv : a.cls.METRIC_TYPES_FIELDS.map (fun f => (a.attr f).getD 0/n) = a.values.map (·/n) := by
    rw [← map_attr_eq_values a, List.map_map]
    rfl
  simp only [truediv, hn, if_false, pyTrueDiv_of_ne_zero hn, newDataValues_pure]
  simp only [hv]
  rfl

/-- `+`, `-` and `/` on a `ProcessMetric` class always raise: `new_data` binds neither
`pid` nor `parent_pid`, which the generated `__init__` requires. -/
theorem combine_of_isProcessMetric {verb : String} {op : ℚ → ℚ → ℚ} {a b : MetricBase}
    (hk : a.cls.isProcessMetric = true) (h : b.cls = a.cls) :
    combine verb op a b = .error (.TypeError (missingArgumentsMessage a.cls ["pid", "parent_pid"])) := by
  rw [combine_eq_fromNewData h, fromNewData_of_isProcessMetric hk]

/-- Two `MemoryMetric` samples of one process cannot be added. -/
theorem memory_metric_add_raises_type_error :
    MetricBase.add ⟨.memory, 1, 0, some 7, some 1, [100], rfl, by decide⟩
        ⟨.memory, 2, 0, some 7, some 1, [50], rfl, by decide⟩ =
      .error (.TypeError ("MemoryMetric.__init__() missing 2 required positional arguments: " ++
        "\x27pid\x27 and \x27parent_pid\x27")) := by
  decide

theorem truediv_of_isProcessMetric {a : MetricBase} {n : ℚ} (hk : a.cls.isProcessMetric = true)
    (hn : n ≠ 0) :
    a.truediv n = .error (.TypeError (missingArgumentsMessage a.cls ["pid", "parent_pid"])) := by
  rw [truediv_eq_fromNewData hn, fromNewData_of_isProcessMetric hk]

theorem truediv_zero (a : MetricBase) :
    a.truediv 0 = .error (.ValueError "Cannot divide by zero.") := by
  simp [truediv]

theorem fromNewData_network {k : MetricClass} (hk : k = network) (timestamp : ℚ)
    (collection_id : ℕ) (values : List ℚ) h :
    ∃ r, k.fromNewData timestamp collection_id values h = .ok r ∧ r.cls = network ∧
      r.timestamp = timestamp ∧ r.collection_id = collection_id ∧ r.values = values := by
  subst hk
  exact ⟨_, rfl, rfl, rfl, rfl, rfl⟩

/-- On `NetworkMetric`, `+` and `-` give the field-wise results, the later timestamp and
the left operand's round. -/
theorem combine_network {verb : String} {op : ℚ → ℚ → ℚ} {a b : MetricBase}
    (ha : a.cls = network) (hb : b.cls = network) :
    ∃ r, combine verb op a b = .ok r ∧ r.cls = network ∧
      r.timestamp = max a.timestamp b.timestamp ∧ r.collection_id = a.collection_id ∧
      r.values = List.zipWith op a.values b.values := by
  rw [combine_eq_fromNewData (hb.trans ha.symm)]
  exact fromNewData_network ha _ _ _ _

theorem truediv_network {a : MetricBase} {n : ℚ} (ha : a.cls = network) (hn : n ≠ 0) :
    ∃ r, a.truediv n = .ok r ∧ r.cls = network ∧ r.timestamp = a.timestamp ∧
      r.collection_id = a.collection_id ∧ r.values = a.values.map (·/n) := by
  rw [truediv_eq_fromNewData hn]
  exact fromNewData_network ha _ _ _ _

/-- On `CPUMetric`, `MemoryMetric` and `DiskMetric`, `+` and `-` of two records of the class
and `/` by any nonzero number always raise the generated `__init__`'s `TypeError` for the
missing `pid` and `parent_pid`. -/
theorem processMetric_arithmetic_raises {a b : MetricBase} {n : ℚ}
    (hk : a.cls.isProcessMetric = true) (h : b.cls = a.cls) (hn : n ≠ 0) :
    let e : Except PyExc MetricBase :=
      .error (.TypeError (missingArgumentsMessage a.cls ["pid", "parent_pid"]))
    a.add b = e ∧ a.sub b = e ∧ a.truediv n = e :=
  ⟨combine_of_isProcessMetric hk h, combine_of_isProcessMetric hk h,
    truediv_of_isProcessMetric hk hn⟩

/-- Two `DiskMetric` samples of one process, and a division by two. -/
theorem processMetric_arithmetic_raises_disk :
    let a : MetricBase := ⟨.disk, 1, 0, some 7, some 1, [1, 2, 0, 0], rfl, by decide⟩
    let b : MetricBase := ⟨.disk, 2, 1, some 7, some 1, [3, 4, 1, 1], rfl, by decide⟩
    a.cls.isProcessMetric = true ∧ b.cls = a.cls ∧ (2 : ℚ) ≠ 0 ∧
      let e : Except PyExc MetricBase :=
        .error (.TypeError (missingArgumentsMessage a.cls ["pid", "parent_pid"]))
      a.add b = e ∧ a.sub b = e ∧ a.truediv 2 = e :=
  ⟨rfl, rfl, two_ne_zero, processMetric_arithmetic_raises rfl rfl two_ne_zero⟩

/-- On `NetworkMetric`, the one class whose arithmetic returns, `+` and `-` give the field-wise
sum and difference with the later timestamp and the left operand's collection, and `/` by a
nonzero number divides every field and keeps the timestamp and the collection. -/
theorem network_arithmetic {a b : MetricBase} {n : ℚ} (ha : a.cls = network)
    (hb : b.cls = network) (hn : n ≠ 0) :
    (∃ r, a.add b = .ok r ∧ r.cls = network ∧ r.timestamp = max a.timestamp b.timestamp ∧
      r.collection_id = a.collection_id ∧ r.values = List.zipWith (·+·) a.values b.values) ∧
    (∃ r, a.sub b = .ok r ∧ r.cls = network ∧ r.timestamp = max a.timestamp b.timestamp ∧
      r.collection_id = a.collection_id ∧ r.values = List.zipWith (·-·) a.values b.values) ∧
    (∃ r, a.truediv n = .ok r ∧ r.cls = network ∧ r.timestamp = a.timestamp ∧
      r.collection_id = a.collection_id ∧ r.values = a.values.map (·/n)) :=
  ⟨@combine_network "add" (·+·) a b ha hb, @combine_network "subtract" (·-·) a b ha hb,
    truediv_network ha hn⟩

/-- Two `NetworkMetric` samples, and a division by two. -/
theorem network_arithmetic_samples :
    let a : MetricBase := ⟨network, 1, 0, none, none, [1, 2, 0, 0], rfl, fun _ => ⟨rfl, rfl⟩⟩
    let b : MetricBase := ⟨network, 2, 1, none, none, [3, 4, 1, 1], rfl, fun _ => ⟨rfl, rfl⟩⟩
    a.cls = network ∧ b.cls = network ∧ (2 : ℚ) ≠ 0 ∧
    (∃ r, a.add b = .ok r ∧ r.cls = network ∧ r.timestamp = max a.timestamp b.timestamp ∧
      r.collection_id = a.collection_id ∧ r.values = List.zipWith (·+·) a.values b.values) ∧
    (∃ r, a.sub b = .ok r ∧ r.cls = network ∧ r.timestamp = max a.timestamp b.timestamp ∧
      r.collection_id = a.collection_id ∧ r.values = List.zipWith (·-·) a.values b.values) ∧
    (∃ r, a.truediv 2 = .ok r ∧ r.cls = network ∧ r.timestamp = a.timestamp ∧
      r.collection_id = a.collection_id ∧ r.values = a.values.map (·/2)) :=
  ⟨rfl, rfl, two_ne_zero, network_arithmetic rfl rfl two_ne_zero⟩

end MetricBase

end Lithopserve.Profiling
