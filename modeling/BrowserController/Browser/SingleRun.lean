import BrowserController.Browser.StatusSync

/-!
# One reconciliation, run alone

What one `reconcile` does when every call succeeds and no other party acts. Each result follows
the calls stage by stage. One lemma per stage says what the stage stores and that it leaves the
pod, the configuration store and the clock as they were (`World.BrowserOnly`). Each result is
then a chain of those stages.

* The set-up (`reconcile_setUp`): a stored Browser that is neither marked for deletion nor
  Failed passes `ensureFinalizer`, `ensureLabels` and `ensurePending`, which store the
  finalizer and the Pending phase.
* A failed pod is force-deleted and the Browser marked Failed. The Go code does not return
  there: it goes on to `updateBrowserStatus` with the Browser as read at the start. A terminated
  browser or seleniferous container then drops the finalizer and deletes the Browser
  (`failed_pod_removes_browser`).
* A Pending pod whose first container status is terminated, or waiting past the creation
  timeout, marks the Browser Failed and is not deleted (`pending_terminated_keeps_pod`).
* A Pending pod that reports no container status leaves the Browser Pending, however old the
  pod is (`pending_without_statuses_stays_pending`).
* A missing pod is created from the Browser as read at the start, not from the copy whose
  labels `ensureLabels` has just patched (`missing_pod_built_from_read_copy`).
-/

namespace BrowserController

/-! ## Stages -/

/-- `w'` differs from `w` at most in the Browser and its history: the same pod, configuration
store and clock. -/
def World.BrowserOnly (w w' : World) : Prop :=
  w'.pod = w.pod ∧ w'.store = w.store ∧ w'.clock = w.clock

/-- A world differs from itself in nothing. -/
theorem World.BrowserOnly.refl (w : World) : w.BrowserOnly w := ⟨rfl, rfl, rfl⟩

/-- Stages compose. -/
theorem World.BrowserOnly.trans {w₁ w₂ w₃ : World} (h₁ : w₁.BrowserOnly w₂)
    (h₂ : w₂.BrowserOnly w₃) : w₁.BrowserOnly w₃ :=
  ⟨h₂.1.trans h₁.1, h₂.2.1.trans h₁.2.1, h₂.2.2.trans h₁.2.2⟩

/-- Storing the Browser changes nothing else. -/
theorem World.browserOnly_commitBrowser (w : World) (b : Option Browser) :
    w.BrowserOnly (w.commitBrowser b) := ⟨rfl, rfl, rfl⟩

/-- The stored Browser exists, is not marked for deletion, and satisfies `P`. -/
def Stored (P : Browser → Prop) (w : World) : Prop :=
  ∃ c, w.browser = some c ∧ c.deletionTimestamp = none ∧ P c

/-- Storing the pod keeps the stored Browser. -/
theorem Stored.commitPod {P : Browser → Prop} {w : World} (h : Stored P w) (p : Option Pod) :
    Stored P (w.commitPod p) := h

/-- A metadata update of a stored Browser not marked for deletion succeeds and stores the
update's labels, annotations and finalizers; the Browser stays unmarked. -/
theorem retryUpdate_stored {P Q : Browser → Prop} {w : World} (f : Browser → Browser)
    (hf : ∀ c, P c → Q { c with labels := (f c).labels, annotations := (f c).annotations,
                                finalizers := (f c).finalizers })
    (h : Stored P w) :
    ∃ w', (retryUpdate f).runOk w = (w', none) ∧ w.BrowserOnly w' ∧ Stored Q w' := by
  obtain ⟨c, hc, hd, hp⟩ := h
  exact ⟨_, retryUpdate_alone f hc, w.browserOnly_commitBrowser _, _,
    settleBrowser_of_not_marked hd, hd, hf c hp⟩

/-- A status update of a stored Browser not marked for deletion succeeds and stores the update's
status. -/
theorem retryStatusUpdate_stored {P Q : Browser → Prop} {w : World} (f : Browser → Browser)
    (hf : ∀ c, P c → Q { c with status := (f c).status }) (h : Stored P w) :
    ∃ w', (retryStatusUpdate f).runOk w = (w', none) ∧ w.BrowserOnly w' ∧ Stored Q w' := by
  obtain ⟨c, hc, hd, hp⟩ := h
  exact ⟨_, retryStatusUpdate_alone f hc, w.browserOnly_commitBrowser _, _, rfl, hd, hf c hp⟩

/-- Alone, `deletePod` deletes the stored pod with zero grace and succeeds. -/
theorem deletePod_runOk {w : World} {p : Pod} (hp : w.pod = some p) :
    deletePod.runOk w = (w.commitPod (p.delete w.clock true), none) := by
  simp [deletePod, exec, hp, World.deletePodWith]

/-! ## Setting up -/

/-- The Browser the set-up stages store for the Browser `b` read at the start: the finalizer
added, the identity labels set when `b` does not carry its name under `selenosis.io/browser`,
and the Pending phase set when it had none. -/
def setUpBrowser (b : Browser) : Browser :=
  { b with
    finalizers := (addFinalizer browserPodFinalizer b).finalizers
    labels := if (b.labels "selenosis.io/browser").getD "" ≠ b.name then
      (setBrowserLabels b).labels else b.labels
    status := if b.status.phase = .unset then (setPending b).status else b.status }

/-- What the set-up stages store for the Browser `b` read at the start: its finalizers with
`browserPodFinalizer` added, and its status with the Pending phase set when it had none. -/
def SetUpFrom (b c : Browser) : Prop :=
  c.finalizers = (addFinalizer browserPodFinalizer b).finalizers ∧
    c.status = if b.status.phase = .unset then (setPending b).status else b.status

/-- `ensureFinalizer` over the Browser it was handed, stored and unmarked: the finalizer is
stored, added when missing. -/
theorem ensureFinalizer_runOk {w : World} {b : Browser} (hb : w.browser = some b)
    (hdel : b.deletionTimestamp = none) (k : Prog ReconcileResult) :
    ∃ w', (ensureFinalizer b k).runOk w = k.runOk w' ∧ w.BrowserOnly w' ∧
      w'.browser = some { b with finalizers := (setUpBrowser b).finalizers } := by
  unfold ensureFinalizer
  split
  · -- the finalizer is missing: `retryUpdate` adds it to the Browser it reads, `b`
    have hpatch :
        { b with labels := (addFinalizer browserPodFinalizer b).labels,
                 annotations := (addFinalizer browserPodFinalizer b).annotations,
                 finalizers := (addFinalizer browserPodFinalizer b).finalizers } =
          { b with finalizers := (setUpBrowser b).finalizers } := by
      unfold setUpBrowser addFinalizer; split <;> rfl
    refine ⟨_, ?_, w.browserOnly_commitBrowser _, rfl⟩
    simp [retryUpdate_alone _ hb, hpatch,
      settleBrowser_of_not_marked (b := { b with finalizers := (setUpBrowser b).finalizers }) hdel]
  · next hfin =>
    have hfin : browserPodFinalizer ∈ b.finalizers := by simpa [containsFinalizer] using hfin
    exact ⟨w, by simp, .refl w, by simp [hb, setUpBrowser, addFinalizer, hfin]⟩

/-- `ensureLabels` after `ensureFinalizer`: the identity labels are stored when `b` lacks
them. -/
theorem ensureLabels_runOk {w : World} {b : Browser}
    (hb : w.browser = some { b with finalizers := (setUpBrowser b).finalizers })
    (hdel : b.deletionTimestamp = none) (k : Prog ReconcileResult) :
    ∃ w', (ensureLabels b k).runOk w = k.runOk w' ∧ w.BrowserOnly w' ∧
      w'.browser = some { b with finalizers := (setUpBrowser b).finalizers,
                                 labels := (setUpBrowser b).labels } := by
  unfold ensureLabels
  split
  · next hl =>
    refine ⟨_, ?_, w.browserOnly_commitBrowser _, rfl⟩
    simp [retryUpdate_alone _ hb, settleBrowser, hdel, setUpBrowser, hl]
    rfl
  · next hl => exact ⟨w, by simp, .refl w, by simp only [hb, setUpBrowser, if_neg hl]⟩

/-- `ensurePending` after `ensureLabels`: the Pending phase is stored when `b` had none, and the
stored Browser is `setUpBrowser b`. -/
theorem ensurePending_runOk {w : World} {b : Browser}
    (hb : w.browser = some { b with finalizers := (setUpBrowser b).finalizers,
                                    labels := (setUpBrowser b).labels })
    (k : Prog ReconcileResult) :
    ∃ w', (ensurePending b k).runOk w = k.runOk w' ∧ w.BrowserOnly w' ∧
      w'.browser = some (setUpBrowser b) := by
  unfold ensurePending
  split
  · next hu =>
    refine ⟨_, ?_, w.browserOnly_commitBrowser _, rfl⟩
    simp [retryStatusUpdate_alone _ hb, setUpBrowser, hu]
    rfl
  · next hu => exact ⟨w, by simp, .refl w, by simp only [hb, setUpBrowser, if_neg hu]⟩

/-- A stored Browser that is neither marked for deletion nor Failed passes the set-up stages:
the reconciliation goes on to the pod with the Browser as read, over a world that stores the
same pod, configuration and clock, and stores `setUpBrowser b`. -/
theorem reconcile_setUp_browser (decode : String → Except String SelenosisOptions) {w : World}
    {b : Browser} (hb : w.browser = some b) (hdel : b.deletionTimestamp = none)
    (hph : b.status.phase ≠ .failed) :
    ∃ w', (reconcile decode).runOk w = (reconcileFromPod decode b).runOk w' ∧
      w.BrowserOnly w' ∧ w'.browser = some (setUpBrowser b) := by
  obtain ⟨w₁, h₁, hw₁, hb₁⟩ :=
    ensureFinalizer_runOk hb hdel (ensureLabels b (ensurePending b (reconcileFromPod decode b)))
  obtain ⟨w₂, h₂, hw₂, hb₂⟩ := ensureLabels_runOk hb₁ hdel (ensurePending b (reconcileFromPod decode b))
  obtain ⟨w₃, h₃, hw₃, hb₃⟩ := ensurePending_runOk hb₂ (reconcileFromPod decode b)
  refine ⟨w₃, ?_, hw₁.trans (hw₂.trans hw₃), hb₃⟩
  simp [reconcile, reconcileBrowser, World.readBrowser, hb, hdel, hph, h₁, h₂, h₃]

/-- A stored Browser that is neither marked for deletion nor Failed passes the set-up stages:
the reconciliation goes on to the pod with the Browser as read, over a world that stores the
same pod, configuration and clock, and stores the Browser set up. -/
theorem reconcile_setUp (decode : String → Except String SelenosisOptions) {w : World}
    {b : Browser} (hb : w.browser = some b) (hdel : b.deletionTimestamp = none)
    (hph : b.status.phase ≠ .failed) :
    ∃ w', (reconcile decode).runOk w = (reconcileFromPod decode b).runOk w' ∧
      w.BrowserOnly w' ∧ Stored (SetUpFrom b) w' := by
  obtain ⟨w', h, hw, hb'⟩ := reconcile_setUp_browser decode hb hdel hph
  exact ⟨w', h, hw, _, hb', hdel, rfl, rfl⟩

/-! ## A failed pod -/

/-- From a stored Browser that is not marked for deletion and holds the finalizers of the copy
read, a failed pod with a terminated browser or seleniferous container is deleted with zero
grace, and the fall-through to `updateBrowserStatus` drops the finalizer and deletes the
Browser. -/
theorem reconcileFromPod_failed (decode : String → Except String SelenosisOptions)
    {w : World} {b : Browser} {pod : Pod}
    (hw : Stored (·.finalizers = b.finalizers) w) (hpod : w.pod = some pod)
    (hfin : browserPodFinalizer ∈ b.finalizers) (hph : b.status.phase ≠ .failed)
    (hfailed : pod.status.phase = .failed) (hpdel : pod.deletionTimestamp = none)
    (hcrit : pod.status.containerStatuses.any criticalTerminated = true) :
    ((reconcileFromPod decode b).runOk w).1.pod = pod.delete w.clock true ∧
      ∀ b', ((reconcileFromPod decode b).runOk w).1.browser = some b' →
        b'.deletionTimestamp.isSome ∧ browserPodFinalizer ∉ b'.finalizers := by
  -- the three writes: the Failed message, the Failed reason, the finalizer removal
  obtain ⟨w₁, h₁, ⟨hp₁, -⟩, hs₁⟩ := retryStatusUpdate_stored (Q := (·.finalizers = b.finalizers))
    (setFailedMessage
      ("pod has failed with reason: " ++ pod.status.reason ++ " - " ++ pod.status.message))
    (fun _ h => h) (hw.commitPod (pod.delete w.clock true))
  obtain ⟨w₂, h₂, ⟨hp₂, -⟩, hs₂⟩ := retryStatusUpdate_stored (Q := (·.finalizers = b.finalizers))
    (setFailedReason pod.status.reason pod.status.message) (fun _ h => h) hs₁
  obtain ⟨w₃, h₃, ⟨hp₃, -⟩, c, hc, -, hfs⟩ :=
    retryUpdate_stored (Q := (·.finalizers = b.finalizers.filter (· ≠ browserPodFinalizer)))
      (removeFinalizer browserPodFinalizer) (fun _ h => by rw [removeFinalizer, h]) hs₂
  rw [List.any_eq_true] at hcrit
  simp only [reconcileFromPod, reconcilePod, Option.isNone_iff_eq_none, deleteBrowser,
    containsFinalizer, hfin, decide_True, ↓reduceIte, Prog.pure_eq, Prog.ret_bind,
    handleFailedPod, updateBrowserStatus, List.any_eq_true, ne_eq, hph, not_false_eq_true,
    Bool.or_eq_true, Prog.runOk_bind, getPod_runOk, World.readPod, hpod, hpdel,
    Option.isSome_none, Bool.false_eq_true, false_and, hfailed, reduceCtorEq, hcrit,
    deletePod_runOk hpod, h₁, h₂, h₃, deleteBrowserCall_runOk, World.writeBrowser, hc,
    Prog.runOk_ret, World.commitBrowser_pod, World.commitBrowser_browser]
  refine ⟨by simp [hp₃, hp₂, hp₁], fun b' h => ?_⟩
  obtain ⟨hmark, hf⟩ := markDeleted_marks h
  simp [hmark, hf, hfs]

/-- Every Browser set up by earlier reconciliations (the finalizer held, not marked for
deletion, not Failed), with a failed pod whose browser or seleniferous container terminated, is
deleted by one reconciliation in which every call succeeds: the pod is deleted with zero grace
(removed, unless another party's finalizer holds it), and the Browser is marked for deletion, or
removed, without the finalizer. -/
theorem failed_pod_removes_browser (decode : String → Except String SelenosisOptions)
    {w : World} {b : Browser} {pod : Pod}
    (hb : w.browser = some b) (hpod : w.pod = some pod)
    (hdel : b.deletionTimestamp = none) (hfin : browserPodFinalizer ∈ b.finalizers)
    (hph : b.status.phase ≠ .failed)
    (hfailed : pod.status.phase = .failed) (hpdel : pod.deletionTimestamp = none)
    (hcrit : pod.status.containerStatuses.any criticalTerminated = true) :
    ((reconcile decode).runOk w).1.pod = pod.delete w.clock true ∧
      ∀ b', ((reconcile decode).runOk w).1.browser = some b' →
        b'.deletionTimestamp.isSome ∧ browserPodFinalizer ∉ b'.finalizers := by
  obtain ⟨w', hrun, ⟨hp, -, hclock⟩, c, hc, hd, hfs, -⟩ := reconcile_setUp decode hb hdel hph
  rw [hrun, ← hclock]
  exact reconcileFromPod_failed decode ⟨c, hc, hd, by simpa [addFinalizer, hfin] using hfs⟩
    (hp.trans hpod) hfin hph hfailed hpdel hcrit

/-- A running Browser, set up by earlier reconciliations. -/
def runningBrowser : Browser :=
  { chromeBrowser with
    finalizers := [browserPodFinalizer],
    labels := ((GoMap.empty.set "selenosis.io/browser" "b1").set "selenosis.io/browser.name"
      "chrome").set "selenosis.io/browser.version" "120",
    status := { phase := .running, podIP := "10.0.0.1", startTime := some 5 } }

/-- Its pod, failed with the browser container terminated. -/
def crashedPod : Pod :=
  { name := "b1", ns := "ns",
    status := { phase := .failed, reason := "Error", message := "container crashed",
                containerStatuses :=
                  [⟨"browser", { terminated := some ⟨1, 0, "Error", "", 5, 90, ""⟩ }, false, 0,
                    "chrome:120"⟩] } }

/-- The world storing `runningBrowser` and `crashedPod`. -/
def crashedWorld : World :=
  { createdWorld chromeStore with
    browser := some runningBrowser, pod := some crashedPod, clock := 100,
    browserLog := [runningBrowser], podLog := [some crashedPod], podCreates := 1,
    finalized := true }

/-- `runningBrowser` and `crashedPod` meet every hypothesis: the reconciliation deletes the pod
with zero grace, which removes it, and deletes the Browser. -/
theorem failed_pod_removes_crashed_browser :
    crashedWorld.browser = some runningBrowser ∧ crashedWorld.pod = some crashedPod ∧
      runningBrowser.deletionTimestamp = none ∧ browserPodFinalizer ∈ runningBrowser.finalizers ∧
      runningBrowser.status.phase ≠ .failed ∧ crashedPod.status.phase = .failed ∧
      crashedPod.deletionTimestamp = none ∧
      crashedPod.status.containerStatuses.any criticalTerminated = true ∧
      ((reconcile rejectOptions).runOk crashedWorld).1.pod = crashedPod.delete crashedWorld.clock true ∧
      (∀ b', ((reconcile rejectOptions).runOk crashedWorld).1.browser = some b' →
        b'.deletionTimestamp.isSome ∧ browserPodFinalizer ∉ b'.finalizers) ∧
      crashedPod.delete crashedWorld.clock true = none :=
  have h := failed_pod_removes_browser rejectOptions rfl rfl rfl (by decide) (by decide) rfl rfl
    (by decide)
  ⟨rfl, rfl, rfl, by decide, by decide, rfl, rfl, by decide, h.1, h.2, rfl⟩

/-! ## A Pending pod -/

/-- Every Browser neither marked for deletion nor Failed, with a Pending pod not marked for
deletion whose first container status is terminated, or is waiting while the pod is older than
`podCreationTimeout`: one reconciliation in which every call succeeds marks the Browser Failed
and leaves the pod as it was, not deleted. -/
theorem pending_terminated_keeps_pod (decode : String → Except String SelenosisOptions)
    {w : World} {b : Browser} {pod : Pod} {cs : ContainerStatus} {rest : List ContainerStatus}
    (hb : w.browser = some b) (hpod : w.pod = some pod)
    (hdel : b.deletionTimestamp = none) (hph : b.status.phase ≠ .failed)
    (hpdel : pod.deletionTimestamp = none) (hpend : pod.status.phase = .pending)
    (hcs : pod.status.containerStatuses = cs :: rest)
    (hfirst : cs.state.terminated.isSome ∨ cs.state.waiting.isSome ∧
      ∃ t, pod.creationTimestamp = some t ∧ w.clock - t > podCreationTimeout) :
    ((reconcile decode).runOk w).1.pod = some pod ∧
      ∃ b', ((reconcile decode).runOk w).1.browser = some b' ∧ b'.status.phase = .failed := by
  obtain ⟨w', hrun, ⟨hp, -, hclock⟩, hs⟩ := reconcile_setUp decode hb hdel hph
  -- the only write, in either branch: a Failed message
  have hfail : ∀ msg, ∃ w'', (retryStatusUpdate (setFailedMessage msg)).runOk w' = (w'', none) ∧
      w''.pod = w'.pod ∧ ∃ c, w''.browser = some c ∧ c.status.phase = .failed := fun msg => by
    obtain ⟨w'', h, ⟨hp', -⟩, c, hc, -, hf⟩ := retryStatusUpdate_stored
      (Q := (·.status.phase = .failed)) (setFailedMessage msg) (fun _ _ => rfl) hs
    exact ⟨w'', h, hp', c, hc, hf⟩
  rw [hrun]
  by_cases hterm : cs.state.terminated.isSome
  · -- terminated while Pending
    obtain ⟨w'', h₁, hp', c, hc, hfailed⟩ := hfail ("pod container " ++ cs.name ++ " terminated")
    simp [reconcileFromPod, reconcilePod, handleFailedPod, pendingChecks, World.readPod, hp, hpod,
      hpdel, hpend, hcs, hterm, h₁, hp', hc, hfailed]
  · -- waiting past the creation timeout
    obtain ⟨hwait, t, hcreated, hold⟩ := hfirst.resolve_left hterm
    obtain ⟨waiting, hw⟩ := Option.isSome_iff_exists.1 hwait
    obtain ⟨w'', h₁, hp', c, hc, hfailed⟩ := hfail "pod creation timeout exceeded after 5m0s"
    simp [reconcileFromPod, reconcilePod, handleFailedPod, pendingChecks, checkCreationTimeout,
      World.readPod, hp, hpod, hpdel, hpend, hcs, hterm, hw, hcreated, hclock, hold, h₁, hp', hc,
      hfailed]

/-- `chromeBrowser`'s pod, Pending with its browser container terminated. -/
def terminatedPod : Pod :=
  { name := "b1", ns := "ns", creationTimestamp := some 0, status := terminatedPending }

/-- The world in which `chromeBrowser` has just been created and its pod reports
`terminatedPending`. -/
def terminatedWorld : World :=
  { createdWorld chromeStore with
    pod := some terminatedPod, podLog := [some terminatedPod], podCreates := 1 }

/-- On `terminatedWorld` the reconciliation marks the Browser Failed and keeps the pod. -/
theorem pending_terminated_keeps_chrome_pod :
    chromeBrowser.status.phase ≠ .failed ∧ terminatedPod.status.phase = .pending ∧
      ((reconcile rejectOptions).runOk terminatedWorld).1.pod = some terminatedPod ∧
      ∃ b', ((reconcile rejectOptions).runOk terminatedWorld).1.browser = some b' ∧
        b'.status.phase = .failed :=
  ⟨by decide, rfl,
    pending_terminated_keeps_pod rejectOptions rfl rfl rfl (by decide) rfl rfl rfl (.inl rfl)⟩

/-- Every Browser neither marked for deletion nor Failed, with a Pending pod not marked for
deletion that reports no container status: one reconciliation in which every call succeeds
leaves the Browser Pending, whatever the pod's creation time and the clock. -/
theorem pending_without_statuses_stays_pending (decode : String → Except String SelenosisOptions)
    {w : World} {b : Browser} {pod : Pod}
    (hb : w.browser = some b) (hpod : w.pod = some pod)
    (hdel : b.deletionTimestamp = none) (hph : b.status.phase ≠ .failed)
    (hpdel : pod.deletionTimestamp = none) (hpend : pod.status.phase = .pending)
    (hcs : pod.status.containerStatuses = []) :
    ∃ b', ((reconcile decode).runOk w).1.browser = some b' ∧ b'.status.phase = .pending := by
  obtain ⟨w', hrun, ⟨hp, -⟩, c, hc, -, -, hst⟩ := reconcile_setUp decode hb hdel hph
  -- the loop over the container statuses runs out at once: on to `updateBrowserStatus`
  have hupd : (reconcileFromPod decode b).runOk w' = (updateBrowserStatus b pod).runOk w' := by
    simp [reconcileFromPod, reconcilePod, handleFailedPod, pendingChecks, World.readPod, hp, hpod,
      hpdel, hpend, hcs]
  rw [hrun, hupd, updateBrowserStatus_runOk hc (by simp [hcs])]
  split
  · -- a check fired: the phase is mirrored from the pod
    exact ⟨_, rfl, hpend⟩
  · -- none fired: the Browser read was already Pending, and so is the copy stored
    next hquiet =>
    have hquiet : browserStatusChanged b pod = false :=
      (Bool.or_eq_false_iff.1 (Bool.eq_false_iff.2 hquiet)).1
    have hphase : b.status.phase = .pending := (browserStatusChanged_eq_false.1 hquiet).1.trans hpend
    exact ⟨c, hc, by simp [hst, hphase]⟩

/-- `chromeBrowser`'s pod, Pending and reporting no container, created at time 0. -/
def unscheduledPod : Pod :=
  { name := "b1", ns := "ns", creationTimestamp := some 0, status := { phase := .pending } }

/-- The world at time 1000 in which `chromeBrowser`'s pod is `unscheduledPod`. -/
def unscheduledWorld : World :=
  { createdWorld chromeStore with
    pod := some unscheduledPod, podLog := [some unscheduledPod], podCreates := 1, clock := 1000 }

/-- On `unscheduledWorld` the pod is older than `podCreationTimeout`, and the reconciliation
leaves the Browser Pending. -/
theorem unscheduled_pod_stays_pending :
    (∃ t, unscheduledPod.creationTimestamp = some t ∧ unscheduledWorld.clock - t > podCreationTimeout) ∧
      ∃ b', ((reconcile rejectOptions).runOk unscheduledWorld).1.browser = some b' ∧
        b'.status.phase = .pending :=
  ⟨⟨0, rfl, by decide⟩,
    pending_without_statuses_stays_pending rejectOptions rfl rfl rfl (by decide) rfl rfl rfl⟩

/-! ## A missing pod -/

/-- Every Browser neither marked for deletion nor Failed and without a pod, whose configuration
the store holds and whose options annotation decodes: one reconciliation in which every call
succeeds creates the pod `buildBrowserPod` builds from the Browser as read at the start, and
asks to be called again. The labels the set-up stage has just patched onto the stored Browser
do not reach the pod. -/
theorem missing_pod_built_from_read_copy (decode : String → Except String SelenosisOptions)
    {w : World} {b : Browser} {spec : BrowserVersionConfigSpec} {opts : Option SelenosisOptions}
    (hb : w.browser = some b) (hdel : b.deletionTimestamp = none) (hph : b.status.phase ≠ .failed)
    (hpod : w.pod = none)
    (hspec : w.store.get b.ns b.spec.browserName b.spec.browserVersion = some (some spec))
    (hopts : parseSelenosisOptions decode b.annotations = .ok opts) :
    ((reconcile decode).runOk w).1.pod = some (w.created (buildBrowserPod b spec opts)) ∧
      ((reconcile decode).runOk w).2 = (⟨quickCheck⟩, none) := by
  obtain ⟨w', hrun, ⟨hp, hst, hclock⟩, -⟩ := reconcile_setUp decode hb hdel hph
  rw [hrun]
  simp [reconcileFromPod, handleMissingPod, exec, World.readPod, World.created, hp, hpod, hst,
    hspec, hopts, hph, hclock]

/-- On the world in which `chromeBrowser`, created without labels, has just been created, the
reconciliation stores the Browser with the identity label `selenosis.io/browser` and creates a
pod without it. -/
theorem missing_pod_lacks_identity_label :
    (((reconcile rejectOptions).runOk (createdWorld chromeStore)).1.browser.bind
        (·.labels "selenosis.io/browser")) = some "b1" ∧
      ∃ p, ((reconcile rejectOptions).runOk (createdWorld chromeStore)).1.pod = some p ∧
        p.labels "selenosis.io/browser" = none :=
  ⟨by decide, _,
    (missing_pod_built_from_read_copy rejectOptions (w := createdWorld chromeStore)
      (b := chromeBrowser) rfl rfl (by decide) rfl rfl rfl).1, rfl⟩

end BrowserController
