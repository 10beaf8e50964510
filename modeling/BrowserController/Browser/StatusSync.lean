import BrowserController.Browser.Finalizer

/-!
# What a reconciliation stores from the pod

`updateBrowserStatus` writes only when its change checks fire. Run alone, with no browser or
seleniferous container terminated, it stores the pod's full mirror (`fullMirror`) except in two
places (`updateBrowserStatus_mirror_except`): a start time the pod no longer reports is kept,
and the container statuses are rewritten only when `containersStatusChanged` sees a change of
length, restart count or state. A change of image, name or ports alone is never written
(`updateBrowserStatus_skips_image_change`).
-/

namespace BrowserController

/-! ## Mirroring -/

/-- `updateBrowserStatus` handed `b`, run alone against a world storing `c`, with no browser or
seleniferous container terminated: the checks compare `b` with the pod, the update applies to
`c`, and the periodic requeue follows. -/
theorem updateBrowserStatus_runOk {w : World} {c b : Browser} {pod : Pod} (hc : w.browser = some c)
    (hcrit : pod.status.containerStatuses.any criticalTerminated = false) :
    (updateBrowserStatus b pod).runOk w =
      (if browserStatusChanged b pod || containersStatusChanged b pod then
        w.commitBrowser (some { c with status :=
          (mirrorStatus (browserStatusChanged b pod) (containersStatusChanged b pod) pod c).status })
       else w, (⟨periodicReconcile⟩, none)) := by
  simp only [updateBrowserStatus, hcrit, Bool.false_eq_true, if_false, Prog.pure_eq, Prog.ret_bind]
  split
  · rw [Prog.runOk_bind, retryStatusUpdate_alone _ hc]; simp [*]
  · simp [*]

/-- Run alone against the Browser it was handed, with no browser or seleniferous container
terminated, `updateBrowserStatus` returns without error and stores the full mirror of the pod
except for the start time, kept when the pod reports none, and the container statuses, written
only when `containersStatusChanged`. -/
theorem updateBrowserStatus_mirror_except {w : World} {b : Browser} {pod : Pod}
    (hb : w.browser = some b)
    (hcrit : pod.status.containerStatuses.any criticalTerminated = false) :
    ((updateBrowserStatus b pod).runOk w).2 = (⟨periodicReconcile⟩, none) ∧
    ∃ st : BrowserStatus, ((updateBrowserStatus b pod).runOk w).1.browser =
        some { b with status := st } ∧
      st.phase = (fullMirror pod b).status.phase ∧ st.podIP = (fullMirror pod b).status.podIP ∧
      st.message = (fullMirror pod b).status.message ∧
      st.reason = (fullMirror pod b).status.reason ∧
      (st.startTime = (fullMirror pod b).status.startTime ∨
        pod.status.startTime = none ∧ st.startTime = b.status.startTime) ∧
      st.containerStatuses = if containersStatusChanged b pod then
        (fullMirror pod b).status.containerStatuses else b.status.containerStatuses := by
  rw [updateBrowserStatus_runOk hb hcrit]
  refine ⟨rfl, ?_⟩
  have start : ∀ ch : Bool, (ch = false → browserStatusChanged b pod = false) →
      (if ch then pod.status.startTime else b.status.startTime) = pod.status.startTime ∨
        pod.status.startTime = none ∧
          (if ch then pod.status.startTime else b.status.startTime) = b.status.startTime := by
    intro ch hch
    cases ch with
    | true => exact .inl rfl
    | false =>
      obtain ⟨-, -, ht⟩ := browserStatusChanged_eq_false.1 (hch rfl)
      cases h : pod.status.startTime with
      | none => exact .inr ⟨rfl, rfl⟩
      | some t => exact .inl (ht t h)
  split
  · rename_i hfire
    refine ⟨_, rfl, rfl, ?_, rfl, rfl, start _ id, rfl⟩
    cases hch : browserStatusChanged b pod
    · exact (browserStatusChanged_eq_false.1 hch).2.1
    · rfl
  · rename_i hquiet
    simp only [Bool.or_eq_true, not_or, Bool.not_eq_true] at hquiet
    obtain ⟨hph, hip, -⟩ := browserStatusChanged_eq_false.1 hquiet.1
    refine ⟨b.status, by simp [hb], hph, hip, rfl, rfl, ?_, by simp [hquiet.2]⟩
    simpa using start false fun _ => hquiet.1

/-- A Browser mirroring its running pod of chrome 119. -/
def mirroredBrowser : Browser :=
  { chromeBrowser with
    finalizers := [browserPodFinalizer],
    status := { phase := .running, podIP := "10.0.0.1", startTime := some 5,
                containerStatuses := [⟨"browser", { running := some ⟨5⟩ }, "chrome:119", 0, []⟩] } }

/-- Its pod once the browser container's image is chrome 120, state and restart count
unchanged. -/
def upgradedPod : Pod :=
  { name := "b1", ns := "ns",
    status := { phase := .running, podIP := "10.0.0.1", startTime := some 5,
                containerStatuses := [⟨"browser", { running := some ⟨5⟩ }, true, 0, "chrome:120"⟩] } }

/-- The world storing `mirroredBrowser` and `upgradedPod`. -/
def mirroredWorld : World :=
  { createdWorld chromeStore with
    browser := some mirroredBrowser, pod := some upgradedPod, browserLog := [mirroredBrowser],
    podLog := [some upgradedPod], podCreates := 1, finalized := true }

theorem updateBrowserStatus_skips_image_change :
    upgradedPod.status.containerStatuses.any criticalTerminated = false ∧
    ((updateBrowserStatus mirroredBrowser upgradedPod).runOk mirroredWorld).2 =
      (⟨periodicReconcile⟩, none) ∧
    ((updateBrowserStatus mirroredBrowser upgradedPod).runOk mirroredWorld).1.browser.map
      (·.status) = some mirroredBrowser.status ∧
    (fullMirror upgradedPod mirroredBrowser).status.containerStatuses ≠
      mirroredBrowser.status.containerStatuses := by
  decide

/-- `mirroredWorld` stores the Browser handed over, and no browser or seleniferous container of
`upgradedPod` is terminated: the status check returns the periodic requeue. -/
theorem updateBrowserStatus_mirror_except_upgraded :
    mirroredWorld.browser = some mirroredBrowser ∧
      upgradedPod.status.containerStatuses.any criticalTerminated = false ∧
      ((updateBrowserStatus mirroredBrowser upgradedPod).runOk mirroredWorld).2 =
        (⟨periodicReconcile⟩, none) :=
  ⟨rfl, by decide, (updateBrowserStatus_mirror_except rfl (by decide)).1⟩

end BrowserController
