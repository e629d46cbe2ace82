import RtcAsr.Audio.RawPcm
import RtcAsr.Server.ConnReadiness
import RtcAsr.Server.LegacyReadiness

/-!
# Client input and readiness

The connections of all routes share `services.preload_error`.  With a model that loads and runs
without failure, the service stays ready throughout a run exactly when, as long as the model is not
loaded, no client sends extreme input or audio that `load_audio` refuses, and every write that fails
does so with a disconnect or a protocol error (`ready_iff`).
-/

namespace RtcAsr

/-! ## The service -/

/-- A service with its connections, by number.  All of them share the services. -/
structure SharedService where
  services : Services := {}
  /-- The v1 connections, on a websocket or on the raw-UDS socket. -/
  v1 : ℕ → Conn := fun _ => {}
  /-- What the client of a v1 connection sent last. -/
  input : ℕ → Option ClientInput := fun _ => none
  /-- The connections of the legacy route. -/
  legacy : ℕ → LegacyConn := fun _ => {}

/-- The steps of a service. -/
inductive SharedAct
  /-- A v1 connection receives what its client sent. -/
  | input (i : ℕ) (input : ClientInput)
  /-- Another step of a v1 connection. -/
  | v1 (i : ℕ) (a : Act)
  | legacy (i : ℕ) (a : LegacyAct)

namespace SharedService

/-- A v1 connection with the shared services. -/
def conn (w : SharedService) (i : ℕ) : Conn := { w.v1 i with services := w.services }

/-- A connection of the legacy route with the shared services. -/
def route (w : SharedService) (i : ℕ) : LegacyConn := { w.legacy i with services := w.services }

/-- A v1 connection made a step. -/
def setConn (w : SharedService) (i : ℕ) (c : Conn) : SharedService :=
  { w with services := c.services, v1 := Function.update w.v1 i c }

/-- A connection of the legacy route made a step. -/
def setRoute (w : SharedService) (i : ℕ) (l : LegacyConn) : SharedService :=
  { w with services := l.services, legacy := Function.update w.legacy i l }

/-- One step of the service. -/
def step (env : ServerEnv) (loads : Bytes → JsonText) (config : LegacyConfig) (w : SharedService) :
    SharedAct → Option SharedService
  | .input i input =>
    ((w.conn i).step env (.receive (receiveClientInput loads input))).map fun c =>
      { w.setConn i c with input := Function.update w.input i (some input) }
  | .v1 i a =>
    match a with
    | .receive _ => none
    | a => ((w.conn i).step env a).map (w.setConn i)
  | .legacy i a => ((w.route i).step config a).map (w.setRoute i)

/-- The service is as ready as with clients that send nothing (`ready_of_silent`): no failure is
recorded, and traffic is accepted. -/
def Ready (asrPreloadModel : Bool) (w : SharedService) : Prop :=
  w.services.preloadError = none ∧ w.services.acceptingTraffic asrPreloadModel = true

/-- The model loads and its inference returns, in the calls of the step. -/
def BackendWorks (processor : AudioProcessor) (w : SharedService) : SharedAct → Prop
  | .input _ _ => True
  | .v1 i a => a.BackendWorks processor (w.conn i)
  | .legacy i a => (w.route i).BackendWorks processor a

/-- As long as the model is not loaded, no handler acts on extreme input or on audio that
`load_audio` refuses, and every write that fails does so with an expected exception. -/
def KeepsReady (processor : AudioProcessor) (loads : Bytes → JsonText) (config : LegacyConfig)
    (w : SharedService) : SharedAct → Prop
  | .input _ _ => True
  | .v1 i a => (w.conn i).KeepsReady processor loads (w.input i) a
  | .legacy i a => (w.route i).KeepsReady processor config a

/-- The invariant of the service: a model that is preloaded is loaded. -/
structure Backed (processor : AudioProcessor) (loads : Bytes → JsonText) (asrPreloadModel : Bool)
    (w : SharedService) : Prop where
  preloaded : asrPreloadModel = true → w.services.loaded = true
  v1 : ∀ i, (w.conn i).Backed processor loads (w.input i)

end SharedService

/-- The service as a step system. -/
def sharedService (env : ServerEnv) (loads : Bytes → JsonText) (config : LegacyConfig) :
    StepSystem SharedService SharedAct := ⟨SharedService.step env loads config⟩

namespace SharedService

variable {env : ServerEnv} {processor : AudioProcessor} {loads : Bytes → JsonText}
  {config : LegacyConfig} {asrPreloadModel : Bool} {w w' : SharedService}

/-- A step of a v1 connection that is no receipt. -/
lemma step_v1 {i : ℕ} {a : Act} (ha : ∀ result, a ≠ .receive result) :
    step env loads config w (.v1 i a) = ((w.conn i).step env a).map (w.setConn i) := by
  cases a with
  | receive result => exact absurd rfl (ha result)
  | _ => rfl

/-- Traffic is accepted as long as no failure is recorded. -/
lemma Backed.preloaded_iff (hw : w.Backed processor loads asrPreloadModel) :
    w.Ready asrPreloadModel ↔ w.services.preloadError = none := by
  refine ⟨And.left, fun hnone => ⟨hnone, ?_⟩⟩
  cases asrPreloadModel with
  | false => simp [Services.acceptingTraffic, hnone]
  | true => simp [Services.acceptingTraffic, hnone, hw.preloaded rfl]

/-- The other connections see at most that the model got loaded. -/
lemma backed_of_loaded {input : Option ClientInput} {c : Conn} {s : Services}
    (hc : c.Backed processor loads input) (h : c.services.loaded = true → s.loaded = true) :
    ({ c with services := s } : Conn).Backed processor loads input :=
  ⟨hc.phase, fun r hr => (hc.stream r hr).mono h, hc.pending, hc.received⟩

/-- A v1 connection made a step. -/
lemma Backed.setConn {i : ℕ} {c : Conn} {input : Option ClientInput}
    (hw : w.Backed processor loads asrPreloadModel) (hc : c.Backed processor loads input)
    (hloaded : w.services.loaded = true → c.services.loaded = true) :
    Backed processor loads asrPreloadModel
      { w.setConn i c with input := Function.update w.input i input } := by
  refine ⟨fun hpreload => hloaded (hw.preloaded hpreload), fun j => ?_⟩
  by_cases hj : j = i
  · subst hj
    simp only [conn, SharedService.setConn, Function.update_self]
    exact hc
  · simp only [conn, SharedService.setConn, Function.update_of_ne hj]
    exact backed_of_loaded (c := w.conn j) (hw.v1 j) hloaded

/-- A connection of the legacy route made a step. -/
lemma Backed.setRoute {i : ℕ} {l : LegacyConn} (hw : w.Backed processor loads asrPreloadModel)
    (hloaded : w.services.loaded = true → l.services.loaded = true) :
    (w.setRoute i l).Backed processor loads asrPreloadModel :=
  ⟨fun hpreload => hloaded (hw.preloaded hpreload),
    fun j => backed_of_loaded (c := w.conn j) (hw.v1 j) hloaded⟩

/-- **One step.** A step from a ready service keeps it ready exactly when it meets the condition. -/
theorem step_ready {a : SharedAct} (hw : w.Backed processor loads asrPreloadModel)
    (hready : w.Ready asrPreloadModel) (hworks : BackendWorks processor w a)
    (h : (sharedService env loads config).step w a = some w') :
    w'.Backed processor loads asrPreloadModel ∧
      (w'.Ready asrPreloadModel ↔ KeepsReady processor loads config w a) := by
  change step env loads config w a = some w' at h
  suffices hsuffices : w'.Backed processor loads asrPreloadModel ∧
      (w'.services.preloadError = none ↔ KeepsReady processor loads config w a) from
    ⟨hsuffices.1, hsuffices.1.preloaded_iff.trans hsuffices.2⟩
  cases a with
  | input i input =>
    obtain ⟨c, hc, rfl⟩ := Option.map_eq_some_iff.mp h
    obtain ⟨hbacked, hservices⟩ := (hw.v1 i).receive hc
    have hsame : c.services = w.services := hservices
    refine ⟨hw.setConn hbacked (by rw [hsame]; exact id), iff_of_true ?_ trivial⟩
    show c.services.preloadError = none
    rw [hsame]
    exact hready.1
  | v1 i a =>
    have hreceive : ∀ result, a ≠ .receive result := by
      rintro result rfl
      cases h
    rw [step_v1 hreceive] at h
    obtain ⟨c, hc, rfl⟩ := Option.map_eq_some_iff.mp h
    obtain ⟨hbacked, hloaded, hiff⟩ := (hw.v1 i).step hready.1 hworks hreceive hc
    refine ⟨?_, hiff⟩
    have hset := hw.setConn (i := i) hbacked hloaded
    rwa [Function.update_eq_self] at hset
  | legacy i a =>
    obtain ⟨l, hl, rfl⟩ := Option.map_eq_some_iff.mp h
    obtain ⟨hloaded, hiff⟩ := LegacyConn.step_leads (l := w.route i) hready.1 hworks hl
    exact ⟨hw.setRoute hloaded, hiff⟩

/-- The state after the start of the service: a model that is preloaded is loaded. -/
def started (asrPreloadModel : Bool) : SharedService :=
  { services := { loaded := asrPreloadModel } }

lemma backed_started (processor : AudioProcessor) (loads : Bytes → JsonText)
    (asrPreloadModel : Bool) :
    (started asrPreloadModel).Backed processor loads asrPreloadModel :=
  ⟨id, fun _ => ⟨Conn.phase_init, by simp [conn, started], rfl, by simp [conn, started]⟩⟩

/-- A service whose clients send nothing stays ready. -/
lemma ready_of_silent {as : List SharedAct} (hsilent : ∀ a ∈ as, ∃ i, a = .v1 i .modelLoaded)
    (hw : w.Ready asrPreloadModel) (hrun : (sharedService env loads config).run w as = some w') :
    w'.Ready asrPreloadModel := by
  refine StepSystem.invariant_along (C := fun _ a => ∃ i, a = .v1 i .modelLoaded) ?_ hw
    (StepSystem.along_of_mem fun a ha _ => hsilent a ha) hrun
  rintro s _ s' hs ⟨i, rfl⟩ h
  cases h
  exact ⟨hs.1, by simp [setConn, conn, Services.acceptingTraffic, hs.1]⟩

/-- **Client input and readiness.** With a model that loads and runs without failure, a run leaves
the service ready exactly when, as long as the model is not loaded, no handler acts on extreme input
or on audio that `load_audio` refuses, and every write that fails does so with an expected
exception. -/
theorem ready_iff {as : List SharedAct}
    (hworks : (sharedService env loads config).Along (BackendWorks processor)
      (started asrPreloadModel) as)
    (hrun : (sharedService env loads config).run (started asrPreloadModel) as = some w) :
    (sharedService env loads config).Throughout (Ready asrPreloadModel)
        (started asrPreloadModel) as ↔
      (sharedService env loads config).Along (KeepsReady processor loads config)
        (started asrPreloadModel) as :=
  have hbacked := backed_started processor loads asrPreloadModel
  StepSystem.throughout_iff_along_under (fun _ _ _ hJ hI hD h => step_ready hJ hI hD h) hbacked
    (hbacked.preloaded_iff.mpr rfl) hworks hrun

/-- The settings of the service, without `soundfile`. -/
def plainProcessor : AudioProcessor := { lib := withoutSoundfile }

/-- A start message with a window of `10 ** 400` seconds. -/
def extremeWindowStart : ClientInput :=
  .webSocket (.text (.value (.obj
    [("type", .str "start"), ("version", .str PROTOCOL_VERSION),
      ("audio", .obj
        [("sample_rate", .int HOT_PATH_SAMPLE_RATE), ("channels", .int HOT_PATH_CHANNELS),
          ("format", .str HOT_PATH_PCM_FORMAT)]),
      ("partial_window_seconds", .int (10 ^ 400))])))

/-- The same message when the model is loaded. -/
def extremeWindowLoaded : List SharedAct :=
  [.v1 1 .modelLoaded, .input 0 extremeWindowStart, .v1 0 .wake]

/-- A test for the condition: the model is loaded, or the step is a receipt. -/
def keepsReady (w : SharedService) : SharedAct → Bool
  | .input _ _ => true
  | .v1 _ .modelLoaded => true
  | .v1 _ .wake => w.services.loaded
  | _ => false

/-- The test is right. -/
lemma keepsReady_of_test {a : SharedAct} (h : keepsReady w a = true) :
    KeepsReady processor loads config w a := by
  unfold keepsReady at h
  split at h
  · trivial
  · trivial
  · exact Or.inl h
  · cases h

/-- The service stays ready. -/
theorem ready_extremeWindowLoaded :
    (sharedService defaultEnv (fun _ => .malformed) {}).Throughout (Ready false) (started false)
      extremeWindowLoaded := by
  have hrun : ∃ w, (sharedService defaultEnv (fun _ => .malformed) {}).run (started false)
      extremeWindowLoaded = some w ∧ w.services.loaded = true :=
    StepSystem.exists_run_of_map (f := fun w : SharedService => w.services.loaded)
      (by decide +kernel)
  obtain ⟨w, hrun, -⟩ := hrun
  have hworks : (sharedService defaultEnv (fun _ => .malformed) {}).Along
      (BackendWorks plainProcessor) (started false) extremeWindowLoaded := by
    refine StepSystem.along_of_mem fun a ha s => ?_
    simp only [extremeWindowLoaded, List.mem_cons, List.not_mem_nil, or_false] at ha
    obtain rfl | rfl | rfl := ha <;> trivial
  refine (ready_iff hworks hrun).mpr ?_
  exact StepSystem.along_of_check (fun _ _ => keepsReady_of_test) (by decide +kernel)

/-- A client of an idle service sends the message. -/
def extremeWindow : List SharedAct := [.input 0 extremeWindowStart, .v1 0 .wake]

/-- The message is recorded as a failure of the service. -/
theorem not_ready_extremeWindow :
    ¬ ∀ as, (sharedService defaultEnv (fun _ => .malformed) {}).Along
          (BackendWorks plainProcessor) (started false) as →
        (sharedService defaultEnv (fun _ => .malformed) {}).Throughout (Ready false)
          (started false) as := by
  intro hlaw
  have hrun : ∃ w, (sharedService defaultEnv (fun _ => .malformed) {}).run (started false)
      extremeWindow = some w ∧ w.services.preloadError.isNone = false :=
    StepSystem.exists_run_of_map (f := fun w : SharedService => w.services.preloadError.isNone)
      (by decide +kernel)
  obtain ⟨w, hrun, hfailed⟩ := hrun
  have hworks : (sharedService defaultEnv (fun _ => .malformed) {}).Along
      (BackendWorks plainProcessor) (started false) extremeWindow := by
    refine StepSystem.along_of_mem fun a ha s => ?_
    simp only [extremeWindow, List.mem_cons, List.not_mem_nil, or_false] at ha
    obtain rfl | rfl := ha <;> trivial
  rw [((hlaw extremeWindow hworks).last hrun).1] at hfailed
  cases hfailed

end SharedService
end RtcAsr
