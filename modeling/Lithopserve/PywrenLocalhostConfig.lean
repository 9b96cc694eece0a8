import Mathlib.Data.List.Infix
import Mathlib.Logic.Function.Basic

/-! `load_config` of `pywren_ibm_cloud/compute/backends/localhost/config.py`: the localhost
backend's defaults, written into the configuration in place. `config_data` and its sections are
mapping objects of a heap, by id, so that a section may be `config_data` itself or another
section. A mapping is the items its `[]`, `[]=` and `in` present: a `dict` or a subclass of it,
a `UserDict` and a `ChainMap` alike, and `d[key] = value` replaces the value of a present key
where it stands or appends a new one. The id Python gives the `{}` of line 25 and
`multiprocessing.cpu_count()` are inputs. -/

namespace Lithopserve.Pywren

/-- A Python value of a configuration, as far as `load_config` tells values apart: `mapping` is
a mapping object by its id, `object` an object whose type has none of `__getitem__`,
`__setitem__`, `__contains__` and `__iter__`, by the name of its type. -/
inductive PyValue
  | none
  | int (n : ℤ)
  | str (s : String)
  | list (items : List PyValue)
  | mapping (id : ℕ)
  | object (type_name : String)

/-- The exceptions `load_config` raises. -/
inductive ConfigError
  | KeyError (key : String)
  | TypeError (msg : String)
  deriving DecidableEq, Repr

/-- `d[key]` on the items of a mapping, if `key` is present. -/
def dictGet : List (String × PyValue) → String → Option PyValue
  | [], _ => none
  | (k, v) :: rest, key => if k = key then some v else dictGet rest key

/-- `d[key] = value` on the items of a mapping. -/
def dictSet : List (String × PyValue) → String → PyValue → List (String × PyValue)
  | [], key, value => [(key, value)]
  | (k, v) :: rest, key, value =>
    if k = key then (key, value) :: rest else (k, v) :: dictSet rest key value

@[simp] theorem dictGet_nil (key : String) : dictGet [] key = none := rfl

@[simp] theorem dictGet_dictSet (d : List (String × PyValue)) (key key' : String)
    (value : PyValue) :
    dictGet (dictSet d key value) key' = if key = key' then some value else dictGet d key' := by
  induction d with
  | nil => rfl
  | cons kv rest ih =>
    obtain ⟨k, v⟩ := kv
    by_cases hk : k = key
    · subst hk
      by_cases hk' : k = key' <;> simp [dictSet, dictGet, hk']
    · simp only [dictSet, dictGet, hk, if_false, ih]
      split_ifs <;> simp_all

/-- Setting a key to the value it already has leaves the items as they are. -/
theorem dictSet_of_dictGet {d : List (String × PyValue)} {key : String} {value : PyValue}
    (h : dictGet d key = some value) : dictSet d key value = d := by
  induction d with
  | nil => cases h
  | cons kv rest ih =>
    obtain ⟨k, v⟩ := kv
    by_cases hk : k = key <;> simp_all [dictGet, dictSet]

theorem dictGet_mem : ∀ {d : List (String × PyValue)} {key : String} {v : PyValue},
    dictGet d key = some v → (key, v) ∈ d
  | [], _, _, h => by cases h
  | (k, w) :: rest, key, v, h => by
    unfold dictGet at h
    split_ifs at h with hk
    · cases h
      subst hk
      exact List.mem_cons_self _ _
    · exact List.mem_cons_of_mem _ (dictGet_mem h)

/-- The items of each mapping object, by id. -/
abbrev Objs := ℕ → List (String × PyValue)

/-- The heap after `d[key] = value` on the mapping `id`. -/
def write (objs : Objs) (id : ℕ) (key : String) (value : PyValue) : Objs :=
  Function.update objs id (dictSet (objs id) key value)

/-- `target[key]` with a string key. -/
def getItem (target : PyValue) (key : String) : EStateM ConfigError Objs PyValue := fun objs =>
  match target with
  | .mapping id => match dictGet (objs id) key with
    | some v => .ok v objs
    | none => .error (.KeyError key) objs
  | .list _ => .error (.TypeError "list indices must be integers or slices, not str") objs
  | .str _ => .error (.TypeError "string indices must be integers") objs
  | .none => .error (.TypeError "\x27NoneType\x27 object is not subscriptable") objs
  | .int _ => .error (.TypeError "\x27int\x27 object is not subscriptable") objs
  | .object type_name =>
    .error (.TypeError ("\x27" ++ type_name ++ "\x27 object is not subscriptable")) objs

/-- `target[key] = value` with a string key. -/
def setItem (target : PyValue) (key : String) (value : PyValue) :
    EStateM ConfigError Objs Unit := fun objs =>
  match target with
  | .mapping id => .ok () (write objs id key value)
  | .list _ => .error (.TypeError "list indices must be integers or slices, not str") objs
  | .none => .error (.TypeError "\x27NoneType\x27 object does not support item assignment") objs
  | .int _ => .error (.TypeError "\x27int\x27 object does not support item assignment") objs
  | .str _ => .error (.TypeError "\x27str\x27 object does not support item assignment") objs
  | .object type_name =>
    .error (.TypeError ("\x27" ++ type_name ++ "\x27 object does not support item assignment"))
      objs

/-- `key in target`: a key of a mapping, a substring of a string, an item of a list. -/
def contains (target : PyValue) (key : String) : EStateM ConfigError Objs Bool := fun objs =>
  match target with
  | .mapping id => .ok (dictGet (objs id) key).isSome objs
  | .str s => .ok (decide (key.data <:+: s.data)) objs
  | .list items => .ok (items.any fun | .str s => s = key | _ => false) objs
  | .none => .error (.TypeError "argument of type \x27NoneType\x27 is not iterable") objs
  | .int _ => .error (.TypeError "argument of type \x27int\x27 is not iterable") objs
  | .object type_name =>
    .error (.TypeError ("argument of type \x27" ++ type_name ++ "\x27 is not iterable")) objs

/-- `{}`: a new, empty dict, whose id is `fresh`. -/
def newDict (fresh : ℕ) : EStateM ConfigError Objs PyValue := fun objs =>
  .ok (.mapping fresh) (Function.update objs fresh [])

/-- `config_data[name][key] = value`. -/
def setInSection (config_data : PyValue) (name key : String) (value : PyValue) :
    EStateM ConfigError Objs Unit := do
  setItem (← getItem config_data name) key value

/-- `if key not in config_data[name]: config_data[name][key] = value`. -/
def setDefaultInSection (config_data : PyValue) (name key : String) (value : PyValue) :
    EStateM ConfigError Objs Unit := do
  if !(← contains (← getItem config_data name) key) then
    setInSection config_data name key value

/-- `if name not in config_data: config_data[name] = {}`. -/
def setDefaultSection (fresh : ℕ) (config_data : PyValue) (name : String) :
    EStateM ConfigError Objs Unit := do
  if !(← contains config_data name) then
    setItem config_data name (← newDict fresh)

/-- The `workers` of both sections: the one of `pywren`, or else `multiprocessing.cpu_count()`.
Line 28 reads its right-hand side before its target. -/
def setWorkers (total_cores : ℕ) (config_data : PyValue) : EStateM ConfigError Objs Unit := do
  if ← contains (← getItem config_data "pywren") "workers" then
    let workers ← getItem (← getItem config_data "pywren") "workers"
    setInSection config_data "localhost" "workers" workers
  else
    setInSection config_data "pywren" "workers" (.int total_cores)
    setInSection config_data "localhost" "workers" (.int total_cores)

def RUNTIME_NAME_DEFAULT : String := "localhost"

def RUNTIME_TIMEOUT_DEFAULT : ℤ := 600

/-- `load_config(config_data)`, where `multiprocessing.cpu_count()` answers `total_cores` and
the `{}` of line 25 gets the id `fresh`. -/
def loadConfig (total_cores fresh : ℕ) (config_data : PyValue) :
    EStateM ConfigError Objs Unit := do
  setInSection config_data "pywren" "runtime" (.str RUNTIME_NAME_DEFAULT)
  setInSection config_data "pywren" "runtime_memory" .none
  setDefaultInSection config_data "pywren" "runtime_timeout" (.int RUNTIME_TIMEOUT_DEFAULT)
  setDefaultInSection config_data "pywren" "storage_backend" (.str "localhost")
  setDefaultSection fresh config_data "localhost"
  setWorkers total_cores config_data

/-- The ids of the mappings among the values of `d`. -/
def mappingIds (d : List (String × PyValue)) : List ℕ :=
  d.filterMap fun | (_, .mapping id) => some id | _ => none

/-- What Python guarantees of the id `fresh` of a new `{}`: it is neither `config_data`'s nor
that of a mapping `config_data` holds. -/
def Fresh (objs : Objs) (cfg fresh : ℕ) : Prop :=
  fresh ≠ cfg ∧ fresh ∉ mappingIds (objs cfg)

instance (objs : Objs) (cfg fresh : ℕ) : Decidable (Fresh objs cfg fresh) :=
  inferInstanceAs (Decidable (_ ∧ _))

theorem Fresh.ne_section {objs : Objs} {cfg fresh id : ℕ} {name : String}
    (hf : Fresh objs cfg fresh) (h : dictGet (objs cfg) name = some (.mapping id)) : fresh ≠ id := by
  rintro rfl
  exact hf.2 (List.mem_filterMap.2 ⟨_, dictGet_mem h, rfl⟩)

/-- The heap after `if name not in config_data: config_data[name] = {}`, the new dict's id
being `fresh`. -/
def addSection (fresh cfg : ℕ) (name : String) (objs : Objs) : Objs :=
  if (dictGet (objs cfg) name).isSome then objs
  else write (Function.update objs fresh []) cfg name (.mapping fresh)

section Heap

variable {objs : Objs} {id cfg p fresh j : ℕ} {key name : String} {value v : PyValue}

/-- An assignment changes one key of one mapping, whichever objects are one. -/
@[simp] theorem dictGet_write (objs : Objs) (id : ℕ) (key : String) (value : PyValue) (j : ℕ)
    (name : String) :
    dictGet (write objs id key value j) name =
      if j = id ∧ key = name then some value else dictGet (objs j) name := by
  rcases eq_or_ne j id with rfl | hj
  · simp [write]
  · simp [write, hj]

@[simp] theorem dictGet_alloc (objs : Objs) (fresh j : ℕ) (name : String) :
    dictGet (Function.update objs fresh [] j) name =
      if j = fresh then none else dictGet (objs j) name := by
  rcases eq_or_ne j fresh with rfl | hj <;> simp [*]

theorem write_of_dictGet (h : dictGet (objs id) key = some value) : write objs id key value = objs := by
  rw [write, dictSet_of_dictGet h, Function.update_eq_self]

/-- Writing items whose lookup of `name` is the old one keeps that lookup in every object. -/
theorem dictGet_update_of_eq {A : List (String × PyValue)}
    (h : dictGet A name = dictGet (objs p) name) (j : ℕ) :
    dictGet (Function.update objs p A j) name = dictGet (objs j) name := by
  rcases eq_or_ne j p with rfl | hj
  · rw [Function.update_same, h]
  · rw [Function.update_noteq hj]

theorem dictGet_addSection (hj : j ≠ fresh) (key : String) :
    dictGet (addSection fresh cfg name objs j) key =
      if j = cfg ∧ name = key then some ((dictGet (objs cfg) name).getD (.mapping fresh))
      else dictGet (objs j) key := by
  unfold addSection
  cases h : dictGet (objs cfg) name with
  | none => simp [hj]
  | some w =>
    simp only [Option.isSome_some, if_true, Option.getD_some]
    split_ifs with hk
    · rw [hk.1, ← hk.2, h]
    · rfl

theorem addSection_of_isSome (h : (dictGet (objs cfg) name).isSome) :
    addSection fresh cfg name objs = objs :=
  if_pos h

theorem addSection_of_none (h : dictGet (objs cfg) name = none) :
    addSection fresh cfg name objs = write (Function.update objs fresh []) cfg name (.mapping fresh) :=
  if_neg (by simp [h])

end Heap

section Steps

variable {objs : Objs} {cfg p fresh : ℕ} {name key : String} {value v L : PyValue}
  {A : List (String × PyValue)}

theorem bind_of_ok {ε σ α β : Type} {x : EStateM ε σ α} {f : α → EStateM ε σ β} {s s' : σ}
    {a : α} (h : x s = .ok a s') : (x >>= f) s = f a s' := by
  simp only [bind, EStateM.bind, h]

theorem bind_of_error {ε σ α β : Type} {x : EStateM ε σ α} {f : α → EStateM ε σ β} {s s' : σ}
    {e : ε} (h : x s = .error e s') : (x >>= f) s = .error e s' := by
  simp only [bind, EStateM.bind, h]

theorem getItem_of_dictGet (h : dictGet (objs cfg) name = some v) :
    getItem (.mapping cfg) name objs = .ok v objs := by
  simp only [getItem, h]

theorem contains_mapping (objs : Objs) (cfg : ℕ) (name : String) :
    contains (.mapping cfg) name objs = .ok (dictGet (objs cfg) name).isSome objs :=
  rfl

theorem setInSection_eq (h : dictGet (objs cfg) name = some v) :
    setInSection (.mapping cfg) name key value objs = setItem v key value objs := by
  rw [setInSection, bind_of_ok (getItem_of_dictGet h)]

theorem setItem_mapping (objs : Objs) (id : ℕ) (key : String) (value : PyValue) :
    setItem (.mapping id) key value objs = .ok () (write objs id key value) :=
  rfl

theorem setInSection_of_mapping (h : dictGet (objs cfg) name = some (.mapping p)) :
    setInSection (.mapping cfg) name key value objs = .ok () (write objs p key value) :=
  setInSection_eq h

theorem setInSection_of_none (h : dictGet (objs cfg) name = none) :
    setInSection (.mapping cfg) name key value objs = .error (.KeyError name) objs := by
  simp only [setInSection, getItem, h, bind, EStateM.bind]

theorem setDefaultInSection_of_mapping (h : dictGet (objs cfg) name = some (.mapping p)) :
    setDefaultInSection (.mapping cfg) name key value objs =
      .ok () (write objs p key ((dictGet (objs p) key).getD value)) := by
  rw [setDefaultInSection, bind_of_ok (getItem_of_dictGet h), bind_of_ok (contains_mapping ..)]
  cases hk : dictGet (objs p) key with
  | none => exact setInSection_of_mapping h
  | some w => rw [Option.getD_some, write_of_dictGet hk]; rfl

theorem setDefaultSection_eq (fresh cfg : ℕ) (name : String) (objs : Objs) :
    setDefaultSection fresh (.mapping cfg) name objs = .ok () (addSection fresh cfg name objs) := by
  unfold setDefaultSection addSection
  cases h : dictGet (objs cfg) name <;>
    simp [contains, h, bind, EStateM.bind, newDict, setItem, pure, EStateM.pure]

/-- Both branches of lines 27–32 end in one assignment to the `localhost` section: of the
`workers` the `pywren` section has, or else of the core count, written to `pywren` first. -/
theorem setWorkers_eq (n : ℕ) (hp : dictGet (objs cfg) "pywren" = some (.mapping p))
    (hl : dictGet (objs cfg) "localhost" = some L) :
    setWorkers n (.mapping cfg) objs =
      setItem L "workers" ((dictGet (objs p) "workers").getD (.int n))
        (write objs p "workers" ((dictGet (objs p) "workers").getD (.int n))) := by
  rw [setWorkers, bind_of_ok (getItem_of_dictGet hp), bind_of_ok (contains_mapping ..)]
  cases hw : dictGet (objs p) "workers" with
  | none =>
    have hl' : dictGet (write objs p "workers" (.int n) cfg) "localhost" = some L := by simpa using hl
    simp only [Option.isSome_none, Bool.false_eq_true, ↓reduceIte, Option.getD_none]
    rw [bind_of_ok (setInSection_of_mapping hp)]
    exact setInSection_eq hl'
  | some w =>
    simp only [Option.isSome_some, ↓reduceIte, Option.getD_some, write_of_dictGet hw]
    rw [bind_of_ok (getItem_of_dictGet hp), bind_of_ok (getItem_of_dictGet hw)]
    exact setInSection_eq hl

/-- A write to the `pywren` section `p` through `config_data`, on a heap whose `p` has already
been given the items `A`. -/
theorem setInSection_pywren (hp : dictGet (objs cfg) "pywren" = some (.mapping p))
    (hA : dictGet A "pywren" = dictGet (objs p) "pywren") :
    setInSection (.mapping cfg) "pywren" key value (Function.update objs p A) =
      .ok () (Function.update objs p (dictSet A key value)) := by
  rw [setInSection_eq ((dictGet_update_of_eq hA cfg).trans hp)]
  simp [setItem, write]

theorem setDefaultInSection_pywren (hp : dictGet (objs cfg) "pywren" = some (.mapping p))
    (hA : dictGet A "pywren" = dictGet (objs p) "pywren") :
    setDefaultInSection (.mapping cfg) "pywren" key value (Function.update objs p A) =
      .ok () (Function.update objs p (dictSet A key ((dictGet A key).getD value))) := by
  rw [setDefaultInSection_of_mapping ((dictGet_update_of_eq hA cfg).trans hp)]
  simp [write]

/-- Item assignment with a string key works on a mapping and raises on every other value. -/
theorem setItem_mapping_or_error (v : PyValue) :
    (∃ id, v = .mapping id) ∨ ∃ e, ∀ key value objs, setItem v key value objs = .error e objs := by
  cases v with
  | mapping id => exact .inl ⟨id, rfl⟩
  | _ => exact .inr ⟨_, fun _ _ _ => rfl⟩

end Steps

/-- The items that lines 16–22 leave in the `pywren` section whose items were `p`. -/
def pywrenAfterDefaults (p : List (String × PyValue)) : List (String × PyValue) :=
  let p₂ := dictSet (dictSet p "runtime" (.str RUNTIME_NAME_DEFAULT)) "runtime_memory" .none
  let p₃ := dictSet p₂ "runtime_timeout"
    ((dictGet p₂ "runtime_timeout").getD (.int RUNTIME_TIMEOUT_DEFAULT))
  dictSet p₃ "storage_backend" ((dictGet p₃ "storage_backend").getD (.str "localhost"))

/-- The keys of the `pywren` section that `load_config` writes. -/
def pywrenKeys : List String :=
  ["runtime", "runtime_memory", "runtime_timeout", "storage_backend", "workers"]

theorem dictGet_pywrenAfterDefaults (p : List (String × PyValue)) {key : String}
    (hk : key ∉ pywrenKeys) : dictGet (pywrenAfterDefaults p) key = dictGet p key := by
  simp only [pywrenKeys, List.mem_cons, List.not_mem_nil, or_false, not_or] at hk
  simp [pywrenAfterDefaults, Ne.symm hk.1, Ne.symm hk.2.1, Ne.symm hk.2.2.1, Ne.symm hk.2.2.2.1]

@[simp] theorem dictGet_pywrenAfterDefaults_workers (p : List (String × PyValue)) :
    dictGet (pywrenAfterDefaults p) "workers" = dictGet p "workers" := by
  simp [pywrenAfterDefaults]

/-- What `load_config` makes of the items `p` of the `pywren` section, seen through lookups: `p'`
is what it leaves. A key that is present keeps its value, even `None`. -/
structure PywrenLoaded (total_cores : ℕ) (p p' : List (String × PyValue)) : Prop where
  runtime : dictGet p' "runtime" = some (.str RUNTIME_NAME_DEFAULT)
  runtime_memory : dictGet p' "runtime_memory" = some .none
  runtime_timeout : dictGet p' "runtime_timeout" =
    some ((dictGet p "runtime_timeout").getD (.int RUNTIME_TIMEOUT_DEFAULT))
  storage_backend :
    dictGet p' "storage_backend" = some ((dictGet p "storage_backend").getD (.str "localhost"))
  workers : dictGet p' "workers" = some ((dictGet p "workers").getD (.int total_cores))
  other : ∀ key ∉ pywrenKeys, dictGet p' key = dictGet p key

theorem pywrenLoaded_pywrenAfterDefaults (n : ℕ) (p : List (String × PyValue)) :
    PywrenLoaded n p (dictSet (pywrenAfterDefaults p) "workers"
      ((dictGet p "workers").getD (.int n))) where
  runtime := by simp [pywrenAfterDefaults]
  runtime_memory := by simp [pywrenAfterDefaults]
  runtime_timeout := by simp [pywrenAfterDefaults]
  storage_backend := by simp [pywrenAfterDefaults]
  workers := by simp
  other key hk := by
    have hw : "workers" ≠ key := by
      rintro rfl
      exact hk (by decide)
    rw [dictGet_dictSet, if_neg hw, dictGet_pywrenAfterDefaults p hk]

/-- The heap lines 16–25 leave: the `pywren` section `p` with its defaults, and a `localhost`
section added when there was none. -/
def defaultsWritten (fresh cfg p : ℕ) (objs : Objs) : Objs :=
  addSection fresh cfg "localhost" (Function.update objs p (pywrenAfterDefaults (objs p)))

section Run

variable {objs : Objs} {cfg p fresh : ℕ}

theorem dictGet_update_pywrenAfterDefaults {key : String} (hk : key ∉ pywrenKeys) (j : ℕ) :
    dictGet (Function.update objs p (pywrenAfterDefaults (objs p)) j) key = dictGet (objs j) key :=
  dictGet_update_of_eq (dictGet_pywrenAfterDefaults _ hk) j

/-- What `load_config` reads of `defaultsWritten` after line 25: `config_data`'s two sections
and the keys of `pywren`. -/
theorem dictGet_defaultsWritten (hp : dictGet (objs cfg) "pywren" = some (.mapping p))
    (hf : Fresh objs cfg fresh) :
    dictGet (defaultsWritten fresh cfg p objs cfg) "pywren" = some (.mapping p) ∧
      dictGet (defaultsWritten fresh cfg p objs cfg) "localhost" =
        some ((dictGet (objs cfg) "localhost").getD (.mapping fresh)) ∧
      ∀ key, key ≠ "localhost" →
        dictGet (defaultsWritten fresh cfg p objs p) key = dictGet (pywrenAfterDefaults (objs p)) key := by
  have hfp := hf.ne_section hp
  refine ⟨?_, ?_, fun key hk => ?_⟩
  all_goals simp [defaultsWritten, dictGet_addSection (Ne.symm hf.1),
    dictGet_addSection (Ne.symm hfp), dictGet_update_pywrenAfterDefaults, pywrenKeys, hp]
  simp [Ne.symm hk]

/-- With a `pywren` mapping, `load_config` comes down to one assignment to the `localhost`
section, made once the `pywren` section is complete. -/
theorem loadConfig_of_pywren (n : ℕ) (hp : dictGet (objs cfg) "pywren" = some (.mapping p))
    (hf : Fresh objs cfg fresh) :
    loadConfig n fresh (.mapping cfg) objs =
      setItem ((dictGet (objs cfg) "localhost").getD (.mapping fresh)) "workers"
        ((dictGet (objs p) "workers").getD (.int n))
        (write (defaultsWritten fresh cfg p objs) p "workers"
          ((dictGet (objs p) "workers").getD (.int n))) := by
  obtain ⟨hp₅, hl₅, hw₅⟩ := dictGet_defaultsWritten hp hf
  conv_lhs => rw [← Function.update_eq_self p objs]
  rw [loadConfig, bind_of_ok (setInSection_pywren hp rfl),
    bind_of_ok (setInSection_pywren hp (by simp)), bind_of_ok (setDefaultInSection_pywren hp (by simp)),
    bind_of_ok (setDefaultInSection_pywren hp (by simp)), bind_of_ok (setDefaultSection_eq ..)]
  change setWorkers n (.mapping cfg) (defaultsWritten fresh cfg p objs) = _
  rw [setWorkers_eq n hp₅ hl₅, hw₅ _ (by decide), dictGet_pywrenAfterDefaults_workers]

/-- Without a `pywren` mapping, line 16 raises and nothing has been written. -/
theorem loadConfig_of_not_mapping (n : ℕ) (h : ∀ p, dictGet (objs cfg) "pywren" ≠ some (.mapping p)) :
    ∃ e, loadConfig n fresh (.mapping cfg) objs = .error e objs ∧
      (dictGet (objs cfg) "pywren" = none → e = .KeyError "pywren") := by
  cases hv : dictGet (objs cfg) "pywren" with
  | none => exact ⟨_, bind_of_error (setInSection_of_none hv), fun _ => rfl⟩
  | some v =>
    obtain ⟨id, rfl⟩ | ⟨e, he⟩ := setItem_mapping_or_error v
    · exact absurd hv (h id)
    · exact ⟨e, bind_of_error ((setInSection_eq hv).trans (he _ _ _)), fun h => by cases h⟩

/-- `load_config` returns only on a `pywren` mapping and a `localhost` mapping or none. -/
theorem sections_of_loadConfig_ok {objs' : Objs} {n : ℕ} (hf : Fresh objs cfg fresh)
    (h : loadConfig n fresh (.mapping cfg) objs = .ok () objs') :
    ∃ p l, dictGet (objs cfg) "pywren" = some (.mapping p) ∧
      (dictGet (objs cfg) "localhost").getD (.mapping fresh) = .mapping l := by
  by_cases hp : ∃ p, dictGet (objs cfg) "pywren" = some (.mapping p)
  · obtain ⟨p, hp⟩ := hp
    obtain ⟨l, hl⟩ | ⟨e, he⟩ :=
      setItem_mapping_or_error ((dictGet (objs cfg) "localhost").getD (.mapping fresh))
    · exact ⟨p, l, hp, hl⟩
    · rw [loadConfig_of_pywren n hp hf, he] at h
      cases h
  · obtain ⟨e, he, -⟩ := loadConfig_of_not_mapping n (fun p h => hp ⟨p, h⟩)
    rw [he] at h
    cases h

/-- What `load_config` leaves, `objs'`, of the heap `objs` it was given, where `config_data` is
`cfg`, its `pywren` section `p` and its `localhost` section `l`, the new `{}` when there was
none. -/
structure Loads (total_cores : ℕ) (objs : Objs) (cfg p l : ℕ) (objs' : Objs) : Prop where
  pywren : PywrenLoaded total_cores (objs p) (objs' p)
  localhost_workers :
    dictGet (objs' l) "workers" = some ((dictGet (objs p) "workers").getD (.int total_cores))
  localhost_other : ∀ key, key ≠ "workers" → dictGet (objs' l) key =
    if (dictGet (objs cfg) "localhost").isSome then dictGet (objs l) key else none
  config_localhost : dictGet (objs' cfg) "localhost" = some (.mapping l)
  config_other : ∀ name, name ≠ "localhost" → dictGet (objs' cfg) name = dictGet (objs cfg) name
  other : ∀ id, id ≠ cfg → id ≠ p → id ≠ l → objs' id = objs id

/-- With `config_data` and its two sections three objects, lines 16–25 change the `pywren`
section, `config_data`'s `localhost` entry, and the `localhost` section only when it is new. -/
theorem defaultsWritten_apply {l : ℕ}
    (hl : (dictGet (objs cfg) "localhost").getD (.mapping fresh) = .mapping l)
    (hpc : p ≠ cfg) (hlc : l ≠ cfg) (hlp : l ≠ p) (j : ℕ) :
    defaultsWritten fresh cfg p objs j =
      if j = p then pywrenAfterDefaults (objs p)
      else if j = cfg then dictSet (objs cfg) "localhost" (.mapping l)
      else if j = l then (if (dictGet (objs cfg) "localhost").isSome then objs l else [])
      else objs j := by
  have hL' : dictGet (Function.update objs p (pywrenAfterDefaults (objs p)) cfg) "localhost" =
      dictGet (objs cfg) "localhost" := dictGet_update_pywrenAfterDefaults (by decide) cfg
  cases hL : dictGet (objs cfg) "localhost" with
  | none =>
    rw [hL, Option.getD_none, PyValue.mapping.injEq] at hl
    subst hl
    rw [defaultsWritten, addSection_of_none (hL'.trans hL)]
    by_cases h₁ : j = p <;> by_cases h₂ : j = cfg <;> by_cases h₃ : j = fresh <;>
      simp_all [write, Function.update_apply]
  | some v =>
    rw [hL, Option.getD_some] at hl
    subst hl
    rw [defaultsWritten, addSection_of_isSome (by rw [hL', hL]; rfl), dictSet_of_dictGet hL]
    by_cases h₁ : j = p <;> by_cases h₂ : j = cfg <;> by_cases h₃ : j = l <;>
      simp_all [Function.update_apply]

/-- A configuration that `load_config` has seen: `p` and `l` are its two sections. -/
structure Loaded (objs : Objs) (cfg p l : ℕ) : Prop where
  pywren : dictGet (objs cfg) "pywren" = some (.mapping p)
  localhost : dictGet (objs cfg) "localhost" = some (.mapping l)
  runtime : dictGet (objs p) "runtime" = some (.str RUNTIME_NAME_DEFAULT)
  runtime_memory : dictGet (objs p) "runtime_memory" = some .none
  runtime_timeout : (dictGet (objs p) "runtime_timeout").isSome
  storage_backend : (dictGet (objs p) "storage_backend").isSome
  workers : (dictGet (objs p) "workers").isSome
  localhost_workers : dictGet (objs l) "workers" = dictGet (objs p) "workers"

theorem setInSection_of_present {name key : String} {value : PyValue}
    (h : dictGet (objs cfg) name = some (.mapping p)) (hk : dictGet (objs p) key = some value) :
    setInSection (.mapping cfg) name key value objs = .ok () objs := by
  rw [setInSection_of_mapping h, write_of_dictGet hk]

theorem setDefaultInSection_of_present {name key : String} {value : PyValue}
    (h : dictGet (objs cfg) name = some (.mapping p)) (hk : (dictGet (objs p) key).isSome) :
    setDefaultInSection (.mapping cfg) name key value objs = .ok () objs := by
  obtain ⟨w, hw⟩ := Option.isSome_iff_exists.mp hk
  rw [setDefaultInSection_of_mapping h, hw, Option.getD_some, write_of_dictGet hw]

/-- On a configuration it has seen, every step of `load_config` writes what is there. -/
theorem loadConfig_of_loaded {l : ℕ} (h : Loaded objs cfg p l) (n fresh : ℕ) :
    loadConfig n fresh (.mapping cfg) objs = .ok () objs := by
  obtain ⟨w, hw⟩ := Option.isSome_iff_exists.mp h.workers
  have hl : (dictGet (objs cfg) "localhost").isSome := by simp [h.localhost]
  rw [loadConfig, bind_of_ok (setInSection_of_present h.pywren h.runtime),
    bind_of_ok (setInSection_of_present h.pywren h.runtime_memory),
    bind_of_ok (setDefaultInSection_of_present h.pywren h.runtime_timeout),
    bind_of_ok (setDefaultInSection_of_present h.pywren h.storage_backend),
    bind_of_ok (setDefaultSection_eq ..), addSection_of_isSome hl,
    setWorkers_eq n h.pywren h.localhost, hw, Option.getD_some, write_of_dictGet hw,
    setItem_mapping, write_of_dictGet (h.localhost_workers.trans hw)]

/-- What `load_config` returns is a configuration it has seen. -/
theorem loaded_of_loadConfig {objs' : Objs} {n : ℕ} (hf : Fresh objs cfg fresh)
    (h : loadConfig n fresh (.mapping cfg) objs = .ok () objs') : ∃ p l, Loaded objs' cfg p l := by
  obtain ⟨p, l, hp, hl⟩ := sections_of_loadConfig_ok hf h
  obtain ⟨hp₅, hl₅, hw₅⟩ := dictGet_defaultsWritten hp hf
  rw [loadConfig_of_pywren n hp hf, hl, setItem_mapping] at h
  cases h
  refine ⟨p, l, ?_⟩
  constructor <;> simp [hp₅, hl₅, hl, hw₅, pywrenAfterDefaults]

/-- Running `load_config` on its own result changes nothing, whatever the core count and
whatever id a new dict would get. -/
theorem loadConfig_idempotent {objs' : Objs} {n : ℕ} (hf : Fresh objs cfg fresh)
    (h : loadConfig n fresh (.mapping cfg) objs = .ok () objs') (m fresh' : ℕ) :
    loadConfig m fresh' (.mapping cfg) objs' = .ok () objs' := by
  obtain ⟨p, l, hc⟩ := loaded_of_loadConfig hf h
  exact loadConfig_of_loaded hc m fresh'

/-- A second run, with another core count, leaves the first one's result as it is. -/
theorem loadConfig_idempotent_twice :
    let objs : Objs := fun | 0 => [("pywren", .mapping 1)] | _ => []
    Fresh objs 0 2 ∧ ∃ objs', loadConfig 4 2 (.mapping 0) objs = .ok () objs' ∧
      loadConfig 8 3 (.mapping 0) objs' = .ok () objs' := by
  intro objs
  have h : loadConfig 4 2 (.mapping 0) objs = .ok () _ := rfl
  exact ⟨by decide, _, h, loadConfig_idempotent (by decide) h 8 3⟩

/-- The configurations `load_config` leaves as they are are those it has seen. -/
theorem loadConfig_fixed_iff (n : ℕ) (hf : Fresh objs cfg fresh) :
    loadConfig n fresh (.mapping cfg) objs = .ok () objs ↔ ∃ p l, Loaded objs cfg p l :=
  ⟨loaded_of_loadConfig hf, fun ⟨_, _, h⟩ => loadConfig_of_loaded h n fresh⟩

/-- A configuration whose `pywren` section is empty is not yet loaded. -/
theorem loadConfig_fixed_iff_empty :
    let objs : Objs := fun | 0 => [("pywren", .mapping 1), ("localhost", .mapping 1)] | _ => []
    Fresh objs 0 2 ∧ (loadConfig 4 2 (.mapping 0) objs = .ok () objs ↔ ∃ p l, Loaded objs 0 p l) :=
  ⟨by decide, loadConfig_fixed_iff 4 (by decide)⟩

end Run

end Lithopserve.Pywren
