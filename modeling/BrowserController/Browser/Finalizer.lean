import BrowserController.Browser.Lifecycle

/-!
# The finalizer and the pod

`browserPodFinalizer` is meant to hold a Browser while its pod may exist
(`FinalizerGuardsPod`). The reconciler breaks this in two ways.

* Its own branches: a Pending pod whose container has terminated marks the Browser Failed
  without deleting the pod (unlike the failed-pod and bad-waiting-reason branches, which delete
  it first), and the next reconciliation takes the Failed branch and drops the finalizer while
  the pod runs on (`finalizer_dropped_with_live_pod`).
* Its writes: `retryUpdate` and `retryStatusUpdate` are atomic when nothing happens between
  their read and their patch (`retryUpdate_alone`, `retryStatusUpdate_alone`), but the patch
  `client.MergeFrom` computes carries no resource version, so the server never reports a
  conflict, and the finalizer list computed from the read replaces the stored one: a finalizer
  another client added in between is lost (`retryUpdate_drops_concurrent_finalizer`).
-/

namespace BrowserController

/-! ## The invariant -/

/-- A stored Browser without the finalizer either never carried it and has had no pod, or its
pod is absent or marked for deletion. -/
def FinalizerGuardsPod (w : World) : Prop :=
  ∀ b, w.browser = some b → browserPodFinalizer ∉ b.finalizers →
    (w.finalized = false ∧ w.podCreates = 0) ∨ ∀ p, w.pod = some p → p.deletionTimestamp.isSome

/-- The stored Browser once carried the finalizer and no longer does, while its pod exists
and is not marked for deletion. -/
def orphanedPod (w : World) : Bool :=
  match w.browser, w.pod with
  | some b, some p =>
    !decide (browserPodFinalizer ∈ b.finalizers) && w.finalized && p.deletionTimestamp.isNone
  | _, _ => false

theorem not_finalizerGuardsPod_of_orphanedPod {w : World} (h : orphanedPod w = true) :
    ¬ FinalizerGuardsPod w := by
  unfold orphanedPod at h
  split at h
  · rename_i b p hb hp
    simp only [Bool.and_eq_true, Bool.not_eq_true', decide_eq_false_iff_not,
      Option.isNone_iff_eq_none] at h
    obtain ⟨⟨hfin, hfz⟩, hdel⟩ := h
    intro hg
    rcases hg b hb hfin with ⟨hf, -⟩ | hpod
    · rw [hfz] at hf; cases hf
    · simpa [hdel] using hpod p hp
  · cases h

/-- The kubelet's report of a Pending pod whose browser container has terminated. -/
def terminatedPending : PodStatus :=
  { phase := .pending,
    containerStatuses :=
      [⟨"browser", { terminated := some ⟨1, 0, "Error", "", 0, 10, ""⟩ }, false, 0, "chrome:120"⟩] }

/-- The pod created, its browser container terminated while Pending, the Browser marked
Failed, and the next reconciliation's Failed branch. -/
def orphaningRun : List Step :=
  reconcileOk 10 ++ [.env (.podStatus terminatedPending)] ++ reconcileOk 4 ++ reconcileOk 3

theorem finalizer_dropped_with_live_pod :
    ∃ s, Reachable rejectOptions s ∧ ¬ FinalizerGuardsPod s.world := by
  obtain ⟨s, hs, hp⟩ := @ReachableBy.of_run rejectOptions (fun _ => True)
    (orphanedPod ·.world) _ orphaningRun (.init _ (createdWorld_initial chromeStore))
    (fun _ _ => trivial) (by decide)
  exact ⟨s, hs, not_finalizerGuardsPod_of_orphanedPod hp⟩

/-! ## Optimistic writes -/

/-- Alone, one attempt reads the Browser and stores its patch over that same Browser. -/
theorem retryPatch_runOk (status : Bool) (exhausted : String) (f : Browser → Browser) (n : Nat)
    {w : World} {b : Browser} (hb : w.browser = some b) :
    (retryPatch status exhausted f (n + 1)).runOk w =
      (w.commitBrowser (patchResult status b (f b) b), none) := by
  cases status <;> simp [retryPatch, patchCall, patchBrowser, patchBrowserStatus, getBrowser,
    Prog.op, Prog.runOk, exec, World.readBrowser, World.writeBrowser, hb, patchResult]

/-- With nothing between its read and its patch, `retryUpdate` stores the update's labels,
annotations and finalizers over the Browser it read, and succeeds. -/
theorem retryUpdate_alone (f : Browser → Browser) {w : World} {b : Browser}
    (hb : w.browser = some b) :
    (retryUpdate f).runOk w =
      (w.commitBrowser (settleBrowser
        { b with labels := (f b).labels, annotations := (f b).annotations,
                 finalizers := (f b).finalizers }), none) := by
  rw [retryUpdate, maxRetries, retryPatch_runOk false _ f 4 hb]
  simp only [patchResult, Bool.false_eq_true, if_false, mergePatchMeta, patchField_base]

/-- With nothing between its read and its patch, `retryStatusUpdate` stores the update's
status over the Browser it read, and succeeds. -/
theorem retryStatusUpdate_alone (f : Browser → Browser) {w : World} {b : Browser}
    (hb : w.browser = some b) :
    (retryStatusUpdate f).runOk w =
      (w.commitBrowser (some { b with status := (f b).status }), none) := by
  rw [retryStatusUpdate, maxRetries, retryPatch_runOk true _ f 4 hb]
  simp only [patchResult, if_true, mergePatchStatus, patchField_base]

/-- A finalizer of another client. -/
def otherFinalizer : String := "example.com/other"

/-- A Failed Browser that still holds the finalizer, as the reconciler finds it before its
Failed branch drops the finalizer. -/
def failedHeld : Browser :=
  { chromeBrowser with finalizers := [browserPodFinalizer], status := { phase := .failed } }

/-- The world storing `failedHeld`. -/
def failedHeldWorld : World :=
  { createdWorld chromeStore with browser := some failedHeld, browserLog := [failedHeld] }

/-- The Failed branch's `retryUpdate`, with another client adding its finalizer between the
read and the patch: just before the patch the stored Browser holds both finalizers, and the
update applied to it would keep the other one; the call succeeds, and the stored Browser holds
none. -/
theorem retryUpdate_drops_concurrent_finalizer :
    ((envStep failedHeldWorld (.addFinalizer otherFinalizer)).browser.map fun b =>
        (b.finalizers, (removeFinalizer browserPodFinalizer b).finalizers)) =
      some ([browserPodFinalizer, otherFinalizer], [otherFinalizer]) ∧
    ((retryUpdate (removeFinalizer browserPodFinalizer)).runWith
        [([], .ok), ([.addFinalizer otherFinalizer], .ok)] failedHeldWorld).map
      (fun r => (r.1.browser.map (·.finalizers), r.2)) = some (some [], none) := by
  decide

end BrowserController
