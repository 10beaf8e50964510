import BrowserController.Browser.SingleRun

/-!
# A running Browser settles

`Reconcile` (`controllers/browser`) is called again every `periodicReconcile` for as long as the
Browser lives, so it must not write on every call. This module proves that it does not: for a
pod that runs (neither Pending nor Failed, not marked for deletion, with no browser or
seleniferous container terminated), one reconciliation in which every call succeeds leaves a
world that the next reconciliation does not change at all (`reconcile_converges`).

Two facts make it up.

* A settled Browser is a fixpoint (`reconcile_settled`): one that holds the finalizer, carries
  its name under `selenosis.io/browser`, has a phase that is neither empty nor Failed, and
  whose status the change checks of `updateBrowserStatus` find equal to the pod.
* One round settles it. The set-up stages store `setUpBrowser b`, and `updateBrowserStatus`
  stores over it the mirror its checks ask for. What the checks compare is what the mirror
  writes, so the checks find nothing left to write (`mirrorStatus_quiet`). This needs
  `containerStateEqual` to be reflexive (`containerStateEqual_self`).

The pod must report a phase. For one that reports none, `ensurePending` sets Pending and the
mirror puts the empty phase back, so each call would write again.
-/

namespace BrowserController

/-! ## The change checks after a mirror -/

/-- `containerStateEqual` finds every state equal to itself. -/
@[simp] theorem containerStateEqual_self (a : ContainerState) : containerStateEqual a a = true := by
  unfold containerStateEqual
  cases a.running <;> cases a.terminated <;> cases a.waiting <;> simp

/-- The loop of `updateBrowserStatus` finds no difference between a list and itself. -/
@[simp] theorem statusesDiffer_self (l : List BrowserContainerStatus) : statusesDiffer l l = false := by
  induction l with
  | nil => rfl
  | cons s l ih => simp [statusesDiffer, ih]

/-- `browserStatusChanged` reads only the status. -/
theorem browserStatusChanged_congr {b c : Browser} (h : c.status = b.status) (pod : Pod) :
    browserStatusChanged c pod = browserStatusChanged b pod := by
  simp only [browserStatusChanged, h]

/-- `containersStatusChanged` reads only the container statuses. -/
theorem containersStatusChanged_congr {b c : Browser}
    (h : c.status.containerStatuses = b.status.containerStatuses) (pod : Pod) :
    containersStatusChanged c pod = containersStatusChanged b pod := by
  simp only [containersStatusChanged, h]

/-- The container statuses the mirror writes are seen as unchanged. -/
theorem containersStatusChanged_of_new {c : Browser} {pod : Pod}
    (h : c.status.containerStatuses = newContainerStatuses pod) :
    containersStatusChanged c pod = false := by
  simp [containersStatusChanged, h]

/-- After `updateBrowserStatus` has written the mirror its checks computed from `b` onto a
Browser whose pod IP, start time and container statuses are `b`'s, neither check fires again.
Reference: `controllers/browser`, `updateBrowserStatus`. -/
theorem mirrorStatus_quiet {b c : Browser} {pod : Pod} (hip : c.status.podIP = b.status.podIP)
    (hst : c.status.startTime = b.status.startTime)
    (hcs : c.status.containerStatuses = b.status.containerStatuses) :
    browserStatusChanged
        (mirrorStatus (browserStatusChanged b pod) (containersStatusChanged b pod) pod c) pod =
      false ∧
    containersStatusChanged
        (mirrorStatus (browserStatusChanged b pod) (containersStatusChanged b pod) pod c) pod =
      false := by
  constructor
  · rw [browserStatusChanged_eq_false]
    cases hch : browserStatusChanged b pod with
    | true => exact ⟨rfl, rfl, fun t ht => ht⟩
    | false =>
      -- nothing to copy: the Browser already had the pod's IP and start time
      obtain ⟨-, hip', hst'⟩ := browserStatusChanged_eq_false.1 hch
      exact ⟨rfl, hip.trans hip', fun t ht => hst.trans (hst' t ht)⟩
  · cases hcc : containersStatusChanged b pod with
    | true => exact containersStatusChanged_of_new rfl
    | false => exact (containersStatusChanged_congr hcs pod).trans hcc

/-! ## A settled Browser is a fixpoint -/

/-- A stored Browser that is not marked, holds the finalizer, carries its name under
`selenosis.io/browser`, has a phase neither empty nor Failed, and whose status the change
checks find equal to a running pod's: a reconciliation in which every call succeeds writes
nothing and asks for the periodic requeue. -/
theorem reconcile_settled (decode : String → Except String SelenosisOptions) {w : World}
    {c : Browser} {pod : Pod} (hc : w.browser = some c) (hpod : w.pod = some pod)
    (hdel : c.deletionTimestamp = none) (hfin : browserPodFinalizer ∈ c.finalizers)
    (hlabel : (c.labels "selenosis.io/browser").getD "" = c.name)
    (hset : c.status.phase ≠ .unset) (hph : c.status.phase ≠ .failed)
    (hpdel : pod.deletionTimestamp = none) (hpp : pod.status.phase ≠ .pending)
    (hpf : pod.status.phase ≠ .failed)
    (hcrit : pod.status.containerStatuses.any criticalTerminated = false)
    (hquiet : browserStatusChanged c pod = false) (hcq : containersStatusChanged c pod = false) :
    (reconcile decode).runOk w = (w, (⟨periodicReconcile⟩, none)) := by
  simp only [reconcile, reconcileBrowser, Prog.pure_eq, containsFinalizer, decide_eq_true_eq,
    Prog.ret_bind, ensureFinalizer, Bool.not_eq_eq_eq_not, Bool.not_true, decide_eq_false_iff_not,
    ensureLabels, ne_eq, ensurePending, reconcileFromPod, reconcilePod, Option.isNone_iff_eq_none,
    handleFailedPod, ite_not, Prog.runOk_bind, getBrowser_runOk, World.readBrowser, hc, hdel,
    Option.isSome_none, Bool.false_eq_true, ↓reduceIte, hph, hfin, hlabel, hset, and_true,
    getPod_runOk, World.readPod, hpod, hpdel, hpf, hpp, updateBrowserStatus_runOk hc hcrit, hquiet,
    hcq, Bool.or_self]

/-! ## One round settles -/

/-- The identity label the set-up stages store names the Browser. -/
theorem setUpBrowser_label (b : Browser) :
    ((setUpBrowser b).labels "selenosis.io/browser").getD "" = b.name := by
  unfold setUpBrowser
  split
  · simp [setBrowserLabels]
  · next h => exact not_not.1 h

/-- The set-up stages change no field of the status but the phase. -/
theorem setUpBrowser_status (b : Browser) :
    (setUpBrowser b).status.podIP = b.status.podIP ∧
      (setUpBrowser b).status.startTime = b.status.startTime ∧
      (setUpBrowser b).status.containerStatuses = b.status.containerStatuses := by
  by_cases h : b.status.phase = .unset <;> simp [setUpBrowser, setPending, h]

/-- Every stored Browser neither marked for deletion nor Failed, with a running pod (not
Pending, not Failed, a phase reported, not marked for deletion, no browser or seleniferous
container terminated): after one reconciliation in which every call succeeds, the next one
changes nothing and asks for the periodic requeue. -/
theorem reconcile_converges (decode : String → Except String SelenosisOptions) {w : World}
    {b : Browser} {pod : Pod} (hb : w.browser = some b) (hpod : w.pod = some pod)
    (hdel : b.deletionTimestamp = none) (hph : b.status.phase ≠ .failed)
    (hpdel : pod.deletionTimestamp = none) (hpp : pod.status.phase ≠ .pending)
    (hpf : pod.status.phase ≠ .failed) (hpu : pod.status.phase ≠ .unset)
    (hcrit : pod.status.containerStatuses.any criticalTerminated = false) :
    (reconcile decode).runOk ((reconcile decode).runOk w).1 =
      (((reconcile decode).runOk w).1, (⟨periodicReconcile⟩, none)) := by
  obtain ⟨w', hrun, ⟨hp, -⟩, hc⟩ := reconcile_setUp_browser decode hb hdel hph
  -- the first round reads the pod and ends in `updateBrowserStatus`
  have hupd : (reconcileFromPod decode b).runOk w' = (updateBrowserStatus b pod).runOk w' := by
    simp only [reconcileFromPod, reconcilePod, Option.isNone_iff_eq_none, Prog.pure_eq,
      handleFailedPod, Prog.ret_bind, Prog.runOk_bind, getPod_runOk, World.readPod, hp.trans hpod,
      hpdel, Option.isSome_none, Bool.false_eq_true, false_and, ↓reduceIte, hpf, hpp]
  -- what the second round finds stored: `setUpBrowser b` with some status `s`
  have settled : ∀ {w₁ : World} {s : BrowserStatus},
      w₁.browser = some { setUpBrowser b with status := s } → w₁.pod = some pod →
      s.phase = pod.status.phase →
      browserStatusChanged { setUpBrowser b with status := s } pod = false →
      containersStatusChanged { setUpBrowser b with status := s } pod = false →
      (reconcile decode).runOk w₁ = (w₁, (⟨periodicReconcile⟩, none)) :=
    fun h₁ hp₁ hs hq hcq => reconcile_settled decode h₁ hp₁ hdel
      (mem_addFinalizer browserPodFinalizer b) (setUpBrowser_label b) (hs ▸ hpu) (hs ▸ hpf)
      hpdel hpp hpf hcrit hq hcq
  rw [hrun, hupd, updateBrowserStatus_runOk hc hcrit]
  split
  · -- the checks fired: the mirror is stored, and the checks are quiet on it
    obtain ⟨hip, hst, hcs⟩ := setUpBrowser_status b
    obtain ⟨hq, hcq⟩ := @mirrorStatus_quiet b (setUpBrowser b) pod hip hst hcs
    exact settled rfl (hp.trans hpod) rfl hq hcq
  · -- nothing fired: `b` already mirrored the pod, and its phase was not empty
    next hquiet =>
    have hquiet' := Bool.or_eq_false_iff.1 (Bool.eq_false_iff.2 hquiet)
    have hphase : b.status.phase = pod.status.phase := (browserStatusChanged_eq_false.1 hquiet'.1).1
    have hst : (setUpBrowser b).status = b.status := by simp [setUpBrowser, hphase, hpu]
    exact settled (s := (setUpBrowser b).status) hc (hp.trans hpod) (by rw [hst]; exact hphase)
      ((browserStatusChanged_congr hst pod).trans hquiet'.1)
      ((containersStatusChanged_congr (congrArg BrowserStatus.containerStatuses hst) pod).trans
        hquiet'.2)

/-- `chromeBrowser`'s pod, running. -/
def runningPod : Pod :=
  { name := "b1", ns := "ns", creationTimestamp := some 0, status := runningStatus }

/-- The world in which `chromeBrowser` has just been created and its pod is running. -/
def runningWorld : World :=
  { createdWorld chromeStore with
    pod := some runningPod, podLog := [some runningPod], podCreates := 1 }

/-- On `runningWorld` the first reconciliation sets the Browser up and mirrors the pod, and the
second changes nothing. -/
theorem chrome_browser_converges :
    runningPod.status.phase ≠ .pending ∧ runningPod.status.phase ≠ .failed ∧
      runningPod.status.phase ≠ .unset ∧
      (reconcile rejectOptions).runOk ((reconcile rejectOptions).runOk runningWorld).1 =
        (((reconcile rejectOptions).runOk runningWorld).1, (⟨periodicReconcile⟩, none)) :=
  ⟨by decide, by decide, by decide,
    reconcile_converges rejectOptions rfl rfl rfl (by decide) rfl (by decide) (by decide)
      (by decide) (by decide)⟩

end BrowserController
