import Lithopserve.ProfilingMetrics

/-! `PrometheusExporter` of `util/metrics.py`. A call of `send_metric` is modelled by the
request it posts; the gateway's answer and any failure of `requests.post` are only logged,
so they change nothing the caller sees. -/

namespace Lithopserve.Profiling

/-- The attributes `PrometheusExporter.__init__` sets. -/
structure PrometheusExporter where
  enabled : Bool
  apigateway : Option String
  job : String
  «instance» : String
  deriving DecidableEq, Repr

/-- `PrometheusExporter(enabled, config)`, where `session_id` is
`os.environ['__LITHOPS_SESSION_ID']` and `config` is `None` or a dict. -/
def PrometheusExporter.init (enabled : Bool) (config : Option (List (String × String)))
    (session_id : String) : PrometheusExporter where
  enabled := enabled
  apigateway := match config with
    | some c => if c.isEmpty then none else c.lookup "apigateway"
    | none => none
  job := "lithops"
  «instance» := (session_id.splitOn "-").headD ""

/-- The `labels` argument: a dict, by its `items()`, or a list or tuple of pairs, or
anything else. -/
inductive Labels
  | dict (items : List (String × String))
  | seq (items : List (String × String))
  | other
  deriving DecidableEq, Repr

def Labels.items : Labels → Except PyExc (List (String × String))
  | .dict items => pure items
  | .seq items => pure items
  | .other => .error (.TypeError "Labels should be a dict or a list/tuple of tuples")

/-- The loop `for key, val in items: dim += '/%s/%s' % (key, val)`. -/
def labelPath (job «instance» : String) (items : List (String × String)) : String :=
  items.foldl (fun dim kv => dim ++ "/" ++ kv.1 ++ "/" ++ kv.2)
    ("job/" ++ job ++ "/instance/" ++ «instance»)

/-- `int(x)`, which rounds toward zero. -/
def pyInt (x : ℚ) : ℤ := x.num.tdiv x.den

/-- A `requests.post(url, data=payload, headers={"Content-Type": "text/plain"})`: `url` is the
string handed to `requests.post`, before `requests` prepares it (drops a `#` fragment, decodes
unreserved `%`-escapes, removes dot segments). -/
structure PostRequest where
  url : String
  data : String
  deriving DecidableEq, Repr

/-- `PrometheusExporter.send_metric(name, value, type, labels, timestamp)`: the request it
posts, if any. `value` is `none` when it is not an `int` or a `float`, and `str` renders a
number as `'%s' % value` does. -/
def PrometheusExporter.sendMetric (self : PrometheusExporter) (name : String) (value : Option ℚ)
    (type : String) (labels : Labels) (timestamp : Option ℚ) (str : ℚ → String) :
    Except PyExc (Option PostRequest) :=
  match self.apigateway with
  | some apigateway =>
    if self.enabled ∧ apigateway ≠ "" then
      match value with
      | none => pure none
      | some value => do
        let items ← labels.items
        let dim := labelPath self.job self.«instance» items
        let url := "/".intercalate [apigateway, "metrics", dim]
        let payload := "# TYPE " ++ name ++ " " ++ type ++ "\n"
        let metric_line := name ++ " " ++ str value ++
          match timestamp with
          | some t => if t ≠ 0 then " " ++ toString (pyInt (t*1000)) else ""
          | none => ""
        pure (some ⟨url, payload ++ metric_line ++ "\n"⟩)
    else pure none
  | none => pure none

/-- A `/` inside a label makes two different label lists hand `requests.post` the same
request. -/
theorem slash_labels_share_url :
    let e : PrometheusExporter := ⟨true, some "http://gateway", "lithops", "s0"⟩
    let post (l : Labels) := e.sendMetric "cpu_usage" (some 1) "gauge" l none fun _ => "1.0"
    [("a/b", "c")] ≠ [("a", "b/c")] ∧ post (.dict [("a/b", "c")]) = post (.dict [("a", "b/c")]) := by
  decide

/-- No key and no value of `items` contains `/`. -/
def SlashFree (items : List (String × String)) : Prop :=
  ∀ kv ∈ items, '/' ∉ kv.1.data ∧ '/' ∉ kv.2.data

/-- The characters `dim` gains from `items`. -/
def labelSegments (items : List (String × String)) : List Char :=
  items.flatMap fun kv => '/' :: kv.1.data ++ '/' :: kv.2.data

theorem labelPath_data (job «instance» : String) (items : List (String × String)) :
    (labelPath job «instance» items).data =
      ("job/" ++ job ++ "/instance/" ++ «instance»).data ++ labelSegments items := by
  rw [labelPath]
  generalize "job/" ++ job ++ "/instance/" ++ «instance» = dim
  induction items generalizing dim with
  | nil => simp [labelSegments]
  | cons kv items ih => simp [ih, labelSegments]

/-- A `/` ends a `/`-free segment, so it splits an equation of joined segments. -/
theorem append_slash_inj :
    ∀ {a b x y : List Char}, '/' ∉ a → '/' ∉ b → a ++ '/' :: x = b ++ '/' :: y → a = b ∧ x = y
  | [], [], _, _, _, _, h => ⟨rfl, by simpa using h⟩
  | [], c :: b, _, _, _, hb, h => by
    simp only [List.nil_append, List.cons_append, List.cons.injEq] at h
    exact absurd (h.1 ▸ List.mem_cons_self c b) hb
  | c :: a, [], _, _, ha, _, h => by
    simp only [List.nil_append, List.cons_append, List.cons.injEq] at h
    exact absurd (h.1 ▸ List.mem_cons_self c a) ha
  | c :: a, d :: b, _, _, ha, hb, h => by
    simp only [List.cons_append, List.cons.injEq] at h
    obtain ⟨rfl, h⟩ := h
    obtain ⟨rfl, rfl⟩ := append_slash_inj (fun h' => ha (List.mem_cons_of_mem c h'))
      (fun h' => hb (List.mem_cons_of_mem c h')) h
    exact ⟨rfl, rfl⟩

theorem append_labelSegments_inj {a b : List Char} {r₁ r₂ : List (String × String)}
    (ha : '/' ∉ a) (hb : '/' ∉ b) (h : a ++ labelSegments r₁ = b ++ labelSegments r₂) :
    a = b ∧ labelSegments r₁ = labelSegments r₂ := by
  cases r₁ with
  | nil =>
    cases r₂ with
    | nil => simpa [labelSegments] using h
    | cons kv r₂ =>
      simp only [labelSegments, List.flatMap_nil, List.append_nil, List.flatMap_cons] at h
      exact absurd (h ▸ List.mem_append_right b (List.mem_cons_self _ _)) ha
  | cons kv r₁ =>
    cases r₂ with
    | nil =>
      simp only [labelSegments, List.flatMap_nil, List.append_nil, List.flatMap_cons] at h
      exact absurd (h.symm ▸ List.mem_append_right a (List.mem_cons_self _ _)) hb
    | cons kv' r₂ =>
      simp only [labelSegments, List.flatMap_cons, List.cons_append] at h ⊢
      obtain ⟨rfl, ht⟩ := append_slash_inj ha hb h
      exact ⟨rfl, by rw [ht]⟩

theorem labelSegments_injective :
    ∀ {items₁ items₂ : List (String × String)}, SlashFree items₁ → SlashFree items₂ →
      labelSegments items₁ = labelSegments items₂ → items₁ = items₂
  | [], [], _, _, _ => rfl
  | [], _ :: _, _, _, h => by simp [labelSegments] at h
  | _ :: _, [], _, _, h => by simp [labelSegments] at h
  | (k₁, v₁) :: r₁, (k₂, v₂) :: r₂, h₁, h₂, h => by
    have f₁ := h₁ (k₁, v₁) (List.mem_cons_self _ _)
    have f₂ := h₂ (k₂, v₂) (List.mem_cons_self _ _)
    simp only [labelSegments, List.flatMap_cons, List.cons_append, List.cons.injEq, true_and,
      List.append_assoc] at h
    obtain ⟨hk, hkt⟩ := append_slash_inj f₁.1 f₂.1 h
    obtain ⟨hv, hvt⟩ := append_labelSegments_inj f₁.2 f₂.2 hkt
    have hr := labelSegments_injective (fun kv hkv => h₁ kv (List.mem_cons_of_mem _ hkv))
      (fun kv hkv => h₂ kv (List.mem_cons_of_mem _ hkv)) hvt
    have hk' : k₁ = k₂ := String.ext hk
    have hv' : v₁ = v₂ := String.ext hv
    rw [hk', hv', hr]

/-- The URL string `send_metric` hands to `requests.post` is the gateway's `metrics/` path built
from the labels. -/
theorem sendMetric_url {e : PrometheusExporter} {name type : String} {value timestamp : Option ℚ}
    {labels : Labels} {str : ℚ → String} {r : PostRequest}
    (h : e.sendMetric name value type labels timestamp str = .ok (some r)) :
    ∃ gw items, e.apigateway = some gw ∧ labels.items = .ok items ∧
      r.url = "/".intercalate [gw, "metrics", labelPath e.job e.«instance» items] := by
  unfold PrometheusExporter.sendMetric at h
  split at h
  · rename_i gw hg
    split_ifs at h
    · rcases value with _ | value
      · exact absurd h (by simp [pure, Except.pure])
      · rcases hl : labels.items with e' | items
        · simp [hl, bind, Except.bind] at h
        · simp only [hl, bind, Except.bind, pure, Except.pure, Except.ok.injEq,
            Option.some.injEq] at h
          exact ⟨gw, items, hg, rfl, by rw [← h]⟩
    · exact absurd h (by simp [pure, Except.pure])
  · exact absurd h (by simp [pure, Except.pure])

/-- An exporter enabled with a gateway posts every number with dict labels, to the gateway's
`metrics/` path built from the labels. -/
theorem sendMetric_dict {e : PrometheusExporter} {gw : String} (hg : e.apigateway = some gw)
    (he : e.enabled = true) (hgw : gw ≠ "") (name type : String) (value : ℚ)
    (items : List (String × String)) (timestamp : Option ℚ) (str : ℚ → String) :
    ∃ data, e.sendMetric name (some value) type (.dict items) timestamp str =
      .ok (some ⟨"/".intercalate [gw, "metrics", labelPath e.job e.«instance» items], data⟩) := by
  simp [PrometheusExporter.sendMetric, hg, he, hgw, Labels.items, bind, Except.bind, pure,
    Except.pure]

/-- For labels with no `/` in a key or a value, the URL string handed to `requests.post`
determines the label pairs, in order. -/
theorem posted_url_determines_labels {e : PrometheusExporter} {name₁ name₂ type₁ type₂ : String}
    {value₁ value₂ timestamp₁ timestamp₂ : Option ℚ} {str : ℚ → String} {l₁ l₂ : Labels}
    {items₁ items₂ : List (String × String)} {r₁ r₂ : PostRequest}
    (hi₁ : l₁.items = .ok items₁) (hi₂ : l₂.items = .ok items₂)
    (hs₁ : SlashFree items₁) (hs₂ : SlashFree items₂)
    (hp₁ : e.sendMetric name₁ value₁ type₁ l₁ timestamp₁ str = .ok (some r₁))
    (hp₂ : e.sendMetric name₂ value₂ type₂ l₂ timestamp₂ str = .ok (some r₂))
    (hu : r₁.url = r₂.url) : items₁ = items₂ := by
  obtain ⟨gw, i₁, hg₁, hl₁, hr₁⟩ := sendMetric_url hp₁
  obtain ⟨gw', i₂, hg₂, hl₂, hr₂⟩ := sendMetric_url hp₂
  obtain rfl : gw = gw' := Option.some.inj (hg₁.symm.trans hg₂)
  obtain rfl : items₁ = i₁ := by simpa [hi₁] using hl₁
  obtain rfl : items₂ = i₂ := by simpa [hi₂] using hl₂
  have hd := congrArg String.data (hr₁.symm.trans (hu.trans hr₂))
  simp only [String.intercalate, String.intercalate.go, String.data_append, labelPath_data,
    List.append_assoc, List.append_cancel_left_eq] at hd
  exact labelSegments_injective hs₁ hs₂ hd

theorem posted_url_determines_labels_example :
    let e : PrometheusExporter := ⟨true, some "http://gateway", "lithops", "s0"⟩
    let items : List (String × String) := [("job_id", "j1"), ("pid", "7")]
    let url := "http://gateway/metrics/job/lithops/instance/s0/job_id/j1/pid/7"
    (Labels.dict items).items = .ok items ∧ (Labels.seq items).items = .ok items ∧
      SlashFree items ∧
      e.sendMetric "cpu_usage" (some 1) "gauge" (.dict items) none (fun _ => "1") =
        .ok (some ⟨url, "# TYPE cpu_usage gauge\ncpu_usage 1\n"⟩) ∧
      e.sendMetric "memory_usage" (some 1) "gauge" (.seq items) none (fun _ => "1") =
        .ok (some ⟨url, "# TYPE memory_usage gauge\nmemory_usage 1\n"⟩) ∧
      items = items := by
  intro e items url
  have hs : SlashFree items := by
    simp only [items, SlashFree, List.mem_cons, List.mem_singleton, forall_eq_or_imp, forall_eq]
    decide
  have h₁ : e.sendMetric "cpu_usage" (some 1) "gauge" (.dict items) none (fun _ => "1") =
      .ok (some ⟨url, "# TYPE cpu_usage gauge\ncpu_usage 1\n"⟩) := by decide
  have h₂ : e.sendMetric "memory_usage" (some 1) "gauge" (.seq items) none (fun _ => "1") =
      .ok (some ⟨url, "# TYPE memory_usage gauge\nmemory_usage 1\n"⟩) := by decide
  have hd : (Labels.dict items).items = .ok items := rfl
  have hq : (Labels.seq items).items = .ok items := rfl
  exact ⟨hd, hq, hs, h₁, h₂, posted_url_determines_labels hd hq hs hs h₁ h₂ rfl⟩

end Lithopserve.Profiling
