import BrowserController.Browser.Deletion

/-!
# A pod that never starts

`podCreationTimeout` (`controllers/browser`) is what ends a pod that never starts. A Pending
pod whose containers wait to be created (`ContainerCreating`, `PodInitializing`) is checked on
every reconciliation. Once it is older than the timeout, the Browser is marked Failed. This
module follows such a pod through rounds of the work queue in which no other party acts
(`requeueRounds`).

While the pod is young, a round mirrors it into the Browser and asks for `periodicReconcile`
(`Stuck.round_waiting`). The loop over the container statuses passes
(`pendingChecks_passes`), because a waiting container is checked against the timeout and then
against its reason, and both let it through. Once the pod is old, the first waiting container
marks the Browser Failed (`pendingChecks_timesOut`, `Stuck.round_timeout`). The round after
that takes the Failed branch of `Reconcile`, which drops the finalizer and looks at nothing else
(`reconcile_failed_held`). From then on every round is a no-op (`reconcile_failed_free`).

So a stuck pod fails its Browser within one round more than it takes `podCreationTimeout` to
pass at `periodicReconcile` a round, and a round later the finalizer is gone. The pod is never
deleted: it is still there, as it was, after any number of rounds (`reachable_stuck_pod_fails`).
-/

namespace BrowserController

/-! ## The loop over the container statuses -/

/-- A container status that `Reconcile`'s Pending loop lets through while the pod is young: not
terminated, and, when waiting, waiting to be created or initialized. -/
def StartingContainer (cs : ContainerStatus) : Prop :=
  cs.state.terminated = none ∧
    ∀ wt ∈ cs.state.waiting, wt.reason = "ContainerCreating" ∨ wt.reason = "PodInitializing"

instance : DecidablePred StartingContainer := fun _ => inferInstanceAs (Decidable (_ ∧ _))

/-- A young pod passes the creation timeout check. -/
theorem checkCreationTimeout_runOk {w : World} {pod : Pod} (k : Prog (Option ReconcileResult))
    (hnew : ∀ t, pod.creationTimestamp = some t → ¬ w.clock - t > podCreationTimeout) :
    (checkCreationTimeout pod k).runOk w = k.runOk w := by
  cases hc : pod.creationTimestamp with
  | none => simp [checkCreationTimeout, hc]
  | some t => simp [checkCreationTimeout, hc, hnew t hc]

/-- A container waiting to be created or initialized passes the reason check. -/
theorem checkWaitingReason_of_starting {cs : ContainerStatus} {wt : ContainerStateWaiting}
    (k : Prog (Option ReconcileResult))
    (hr : wt.reason = "ContainerCreating" ∨ wt.reason = "PodInitializing") :
    checkWaitingReason cs wt k = k := by
  rcases hr with hr | hr <;> simp [checkWaitingReason, hr]

/-- While the pod is young, the loop over starting containers runs out without a call. -/
theorem pendingChecks_passes {w : World} {pod : Pod}
    (hnew : ∀ t, pod.creationTimestamp = some t → ¬ w.clock - t > podCreationTimeout) :
    ∀ l : List ContainerStatus, (∀ cs ∈ l, StartingContainer cs) →
      (pendingChecks pod l).runOk w = (w, none)
  | [], _ => rfl
  | cs :: rest, h => by
    obtain ⟨hterm, hwait⟩ := h cs (List.mem_cons_self _ _)
    have ih := pendingChecks_passes hnew rest fun c hc => h c (List.mem_cons_of_mem _ hc)
    cases hw : cs.state.waiting with
    | none => simp [pendingChecks, hterm, hw, ih]
    | some wt =>
      simp [pendingChecks, hterm, hw, checkWaitingReason_of_starting _ (hwait wt hw),
        checkCreationTimeout_runOk _ hnew, ih]

/-- Once the pod is old, the first waiting container among starting ones marks the stored
Browser Failed and ends the reconciliation. -/
theorem pendingChecks_timesOut {w : World} {pod : Pod} {t : Nat} {P : Browser → Prop}
    (hc : pod.creationTimestamp = some t) (hold : w.clock - t > podCreationTimeout)
    (hs : Stored P w) :
    ∀ l : List ContainerStatus, (∀ cs ∈ l, StartingContainer cs) →
      (∃ cs ∈ l, cs.state.waiting.isSome) →
      ∃ w', (pendingChecks pod l).runOk w = (w', some ({}, none)) ∧ w.BrowserOnly w' ∧
        Stored (·.status.phase = .failed) w'
  | [], _, ⟨_, hmem, _⟩ => by cases hmem
  | cs :: rest, h, ⟨cw, hmem, hcw⟩ => by
    obtain ⟨hterm, -⟩ := h cs (List.mem_cons_self _ _)
    cases hw : cs.state.waiting with
    | none =>
      -- a running container: the waiting one comes later
      rcases List.mem_cons.1 hmem with rfl | hmem
      · rw [hw] at hcw; cases hcw
      · obtain ⟨w', hrun, hw', hs'⟩ := pendingChecks_timesOut hc hold hs rest
          (fun c hc => h c (List.mem_cons_of_mem _ hc)) ⟨cw, hmem, hcw⟩
        exact ⟨w', by simp [pendingChecks, hterm, hw, hrun], hw', hs'⟩
    | some wt =>
      obtain ⟨w', hrun, hw', hs'⟩ := retryStatusUpdate_stored (Q := (·.status.phase = .failed))
        (setFailedMessage "pod creation timeout exceeded after 5m0s") (fun _ _ => rfl) hs
      exact ⟨w', by simp [pendingChecks, checkCreationTimeout, hterm, hw, hc, hold, hrun], hw', hs'⟩

/-! ## One round -/

/-- A pod that never starts: Pending, not marked for deletion, created, every container starting,
and one of them waiting. -/
def Stuck (pod : Pod) : Prop :=
  pod.status.phase = .pending ∧ pod.deletionTimestamp = none ∧ pod.creationTimestamp.isSome ∧
    (∀ cs ∈ pod.status.containerStatuses, StartingContainer cs) ∧
    ∃ cs ∈ pod.status.containerStatuses, cs.state.waiting.isSome

instance : DecidablePred Stuck := fun _ => inferInstanceAs (Decidable (_ ∧ _ ∧ _ ∧ _ ∧ _))

/-- No container of a stuck pod has terminated. -/
theorem Stuck.noCritical {pod : Pod} (h : Stuck pod) :
    pod.status.containerStatuses.any criticalTerminated = false :=
  List.any_eq_false.2 fun cs hcs => by simp [criticalTerminated, (h.2.2.2.1 cs hcs).1]

/-- The set-up stages leave a phase that is not Failed. -/
theorem setUpBrowser_phase_ne_failed {b : Browser} (hph : b.status.phase ≠ .failed) :
    (setUpBrowser b).status.phase ≠ .failed := by
  by_cases h : b.status.phase = .unset <;> simp [setUpBrowser, setPending, h, hph]

/-- While the pod is young, a round over a Browser neither marked nor Failed leaves the pod and
the clock as they were, stores a Browser still neither marked nor Failed, and asks for
`periodicReconcile`. -/
theorem Stuck.round_waiting (decode : String → Except String SelenosisOptions) {pod : Pod}
    (hstuck : Stuck pod) {w : World} {b : Browser} (hb : w.browser = some b)
    (hdel : b.deletionTimestamp = none) (hph : b.status.phase ≠ .failed) (hp : w.pod = some pod)
    (hnew : ∀ t, pod.creationTimestamp = some t → ¬ w.clock - t > podCreationTimeout) :
    ((reconcile decode).runOk w).2 = (⟨periodicReconcile⟩, none) ∧
      ((reconcile decode).runOk w).1.pod = some pod ∧
      ((reconcile decode).runOk w).1.clock = w.clock ∧
      ∃ b', ((reconcile decode).runOk w).1.browser = some b' ∧ b'.deletionTimestamp = none ∧
        b'.status.phase ≠ .failed := by
  have hcrit := hstuck.noCritical
  obtain ⟨hpend, hpdel, -, hstart, -⟩ := hstuck
  obtain ⟨w', hrun, ⟨hp', -, hclock⟩, hc⟩ := reconcile_setUp_browser decode hb hdel hph
  have hupd : (reconcileFromPod decode b).runOk w' = (updateBrowserStatus b pod).runOk w' := by
    simp only [reconcileFromPod, reconcilePod, Option.isNone_iff_eq_none, Prog.pure_eq,
      handleFailedPod, Prog.ret_bind, Prog.runOk_bind, getPod_runOk, World.readPod, hp'.trans hp,
      hpdel, Option.isSome_none, Bool.false_eq_true, false_and, ↓reduceIte, hpend, reduceCtorEq,
      pendingChecks_passes (w := w') (by rw [hclock]; exact hnew) _ hstart]
  rw [hrun, hupd, updateBrowserStatus_runOk hc hcrit]
  refine ⟨rfl, ?_⟩
  split
  · -- the pod is mirrored: its phase, Pending, is stored
    exact ⟨hp'.trans hp, hclock, _, rfl, hdel, by simp [mirrorStatus, hpend]⟩
  · exact ⟨hp'.trans hp, hclock, _, hc, hdel, setUpBrowser_phase_ne_failed hph⟩

/-- Once the pod is old, a round over a Browser neither marked nor Failed marks it Failed and
leaves the pod as it was. -/
theorem Stuck.round_timeout (decode : String → Except String SelenosisOptions) {pod : Pod}
    (hstuck : Stuck pod) {w : World} {b : Browser} {t : Nat} (hb : w.browser = some b)
    (hdel : b.deletionTimestamp = none) (hph : b.status.phase ≠ .failed) (hp : w.pod = some pod)
    (hc : pod.creationTimestamp = some t) (hold : w.clock - t > podCreationTimeout) :
    ((reconcile decode).runOk w).2 = ({}, none) ∧ ((reconcile decode).runOk w).1.pod = some pod ∧
      ∃ b', ((reconcile decode).runOk w).1.browser = some b' ∧ b'.deletionTimestamp = none ∧
        b'.status.phase = .failed := by
  obtain ⟨hpend, hpdel, -, hstart, hwait⟩ := hstuck
  obtain ⟨w', hrun, ⟨hp', -, hclock⟩, hs⟩ := reconcile_setUp decode hb hdel hph
  obtain ⟨w'', hchecks, ⟨hp'', -⟩, c, hc'', hd'', hf''⟩ :=
    pendingChecks_timesOut hc (by rw [hclock]; exact hold) hs _ hstart hwait
  rw [hrun]
  simp only [reconcileFromPod, reconcilePod, Option.isNone_iff_eq_none, Prog.pure_eq,
    handleFailedPod, Prog.ret_bind, Prog.runOk_bind, getPod_runOk, World.readPod, hp'.trans hp,
    hpdel, Option.isSome_none, Bool.false_eq_true, false_and, ↓reduceIte, hpend, reduceCtorEq,
    hchecks, Prog.runOk_ret, hp'', hc'', Option.some.injEq, exists_eq_left', hd'', hf'', and_self]

/-- A Failed Browser that holds the finalizer: the round drops it and touches nothing else. -/
theorem reconcile_failed_held (decode : String → Except String SelenosisOptions) {w : World}
    {c : Browser} (hc : w.browser = some c) (hdel : c.deletionTimestamp = none)
    (hph : c.status.phase = .failed) (hfin : browserPodFinalizer ∈ c.finalizers) :
    (reconcile decode).runOk w =
      (w.commitBrowser (some (removeFinalizer browserPodFinalizer c)), ({}, none)) := by
  have hdrop : (retryUpdate (removeFinalizer browserPodFinalizer)).runOk w =
      (w.commitBrowser (some (removeFinalizer browserPodFinalizer c)), none) := by
    rw [retryUpdate_alone _ hc]
    exact congrArg (fun x => (w.commitBrowser x, none))
      (settleBrowser_of_not_marked (b := removeFinalizer browserPodFinalizer c) hdel)
  simp [reconcile, reconcileBrowser, World.readBrowser, containsFinalizer, hc, hdel, hph, hfin,
    hdrop]

/-- A Failed Browser without the finalizer: the round does nothing. -/
theorem reconcile_failed_free (decode : String → Except String SelenosisOptions) {w : World}
    {c : Browser} (hc : w.browser = some c) (hdel : c.deletionTimestamp = none)
    (hph : c.status.phase = .failed) (hfin : browserPodFinalizer ∉ c.finalizers) :
    (reconcile decode).runOk w = (w, ({}, none)) := by
  simp [reconcile, reconcileBrowser, World.readBrowser, containsFinalizer, hc, hdel, hph, hfin]

/-! ## Rounds -/

/-- The end of a stuck pod's run: the pod as it was, and the Browser Failed, not marked, without
the finalizer. -/
def StuckFailed (pod : Pod) (w : World) : Prop :=
  w.pod = some pod ∧ ∃ c, w.browser = some c ∧ c.deletionTimestamp = none ∧
    c.status.phase = .failed ∧ browserPodFinalizer ∉ c.finalizers

/-- The round after the timeout: the pod as it was, and the Browser Failed and not marked. -/
def StuckTimedOut (pod : Pod) (w : World) : Prop :=
  w.pod = some pod ∧ ∃ c, w.browser = some c ∧ c.deletionTimestamp = none ∧
    c.status.phase = .failed

/-- Before the timeout: the pod as it was, and the Browser neither marked nor Failed. -/
def StuckYoung (pod : Pod) (w : World) : Prop :=
  w.pod = some pod ∧ ∃ b, w.browser = some b ∧ b.deletionTimestamp = none ∧
    b.status.phase ≠ .failed

section Rounds

variable (decode : String → Except String SelenosisOptions) {pod : Pod}

/-- Once failed and released, a stuck pod's Browser stays so through any rounds. -/
theorem StuckFailed.requeueRounds :
    ∀ (n : Nat) {w : World}, StuckFailed pod w →
      StuckFailed pod (requeueRounds decode (List.replicate n []) w)
  | 0, _, h => h
  | n + 1, w, ⟨hp, c, hc, hdel, hph, hfin⟩ => by
    simp only [List.replicate_succ, BrowserController.requeueRounds,
      reconcile_failed_free decode hc hdel hph hfin, List.foldl_nil]
    exact StuckFailed.requeueRounds n ⟨hp, c, hc, hdel, hph, hfin⟩

/-- The round after the timeout drops the finalizer. -/
theorem StuckTimedOut.requeueRounds (n : Nat) {w : World} (h : StuckTimedOut pod w) :
    StuckFailed pod (requeueRounds decode (List.replicate (n + 1) []) w) := by
  obtain ⟨hp, c, hc, hdel, hph⟩ := h
  simp only [List.replicate_succ, BrowserController.requeueRounds, List.foldl_nil]
  by_cases hfin : browserPodFinalizer ∈ c.finalizers
  · rw [reconcile_failed_held decode hc hdel hph hfin]
    exact StuckFailed.requeueRounds decode n
      ⟨hp, _, rfl, hdel, hph, not_mem_removeFinalizer _ _⟩
  · rw [reconcile_failed_free decode hc hdel hph hfin]
    exact StuckFailed.requeueRounds decode n ⟨hp, c, hc, hdel, hph, hfin⟩

/-- Once the pod is old, the timeout fires in the next round and the round after drops the
finalizer. -/
theorem StuckYoung.requeueRounds_of_old (hstuck : Stuck pod) {T : Nat}
    (hT : pod.creationTimestamp = some T) (n : Nat) {w : World} (h : StuckYoung pod w)
    (hold : w.clock - T > podCreationTimeout) :
    StuckFailed pod (requeueRounds decode (List.replicate (n + 2) []) w) := by
  obtain ⟨hp, b, hb, hdel, hph⟩ := h
  obtain ⟨-, hp', b', hb', hdel', hph'⟩ := Stuck.round_timeout decode hstuck hb hdel hph hp hT hold
  rw [List.replicate_succ, BrowserController.requeueRounds]
  exact StuckTimedOut.requeueRounds decode n ⟨hp', b', hb', hdel', hph'⟩

/-- Before the timeout, with enough rounds left for `podCreationTimeout` to pass at
`periodicReconcile` a round and one round more, the Browser of a stuck pod created at `T` ends
Failed and released, and the pod stays. -/
theorem StuckYoung.requeueRounds (hstuck : Stuck pod) {T : Nat}
    (hT : pod.creationTimestamp = some T) :
    ∀ (n : Nat) {w : World}, StuckYoung pod w →
      T + podCreationTimeout < w.clock + n * periodicReconcile →
      StuckFailed pod (requeueRounds decode (List.replicate (n + 2) []) w) := by
  intro n
  induction n with
  | zero => exact fun h hlate => StuckYoung.requeueRounds_of_old decode hstuck hT 0 h (by omega)
  | succ m ih =>
    intro w h hlate
    by_cases hold : w.clock - T > podCreationTimeout
    · exact StuckYoung.requeueRounds_of_old decode hstuck hT (m + 1) h hold
    · -- still young: the Browser mirrors the pod, and the queue waits `periodicReconcile`
      obtain ⟨hp, b, hb, hdel, hph⟩ := h
      obtain ⟨hres, hp', hclock, b', hb', hdel', hph'⟩ :=
        Stuck.round_waiting decode hstuck hb hdel hph hp fun t ht => by cases hT.symm.trans ht; exact hold
      rw [List.replicate_succ, BrowserController.requeueRounds, hres]
      exact ih ⟨hp', b', hb', hdel', hph'⟩
        (by simp only [List.foldl_nil, envStep, hclock, periodicReconcile] at hlate ⊢; omega)

end Rounds

/-- In every reachable state, lagging reads and failed calls on the way included, take a
Browser neither marked for deletion nor Failed whose pod never starts: Pending, not marked,
every container waiting to be created or initialized or running, one of them waiting. Rounds of
the work queue in which every call succeeds and no other party acts, each after the delay the
previous one asked for, mark the Browser Failed and drop its finalizer. One round more than it
takes `podCreationTimeout` to pass at `periodicReconcile` a round, and one more, are enough. The
pod is never deleted: it is still there, as it was. -/
theorem reachable_stuck_pod_fails (decode : String → Except String SelenosisOptions) {s : Sys}
    {b : Browser} {pod : Pod} (hs : Reachable decode s) (hb : s.world.browser = some b)
    (hdel : b.deletionTimestamp = none) (hph : b.status.phase ≠ .failed)
    (hp : s.world.pod = some pod) (hstuck : Stuck pod) (n : Nat)
    (hn : podCreationTimeout < n * periodicReconcile) :
    StuckFailed pod (requeueRounds decode (List.replicate (n + 2) []) s.world) := by
  obtain ⟨T, hT⟩ := Option.isSome_iff_exists.1 hstuck.2.2.1
  have hpast : T ≤ s.world.clock := ((ReachableBy.stampsBounded hs) pod hp).1 T hT
  exact StuckYoung.requeueRounds decode hstuck hT n ⟨hp, b, hb, hdel, hph⟩ (by omega)

/-- The status the kubelet reports for a pod whose browser container cannot be created. -/
def creatingPending : PodStatus :=
  { phase := .pending,
    containerStatuses :=
      [⟨"browser", { waiting := some ⟨"ContainerCreating", ""⟩ }, false, 0, "chrome:120"⟩] }

/-- The Browser is neither marked nor Failed, and its pod never starts. -/
def stuckPodWaiting (s : Sys) : Bool :=
  match s.world.browser, s.world.pod with
  | some b, some p => decide (b.deletionTimestamp = none ∧ b.status.phase ≠ .failed ∧ Stuck p)
  | _, _ => false

/-- `chromeBrowser`, reconciled once, with its pod then reported waiting for its browser
container: thirteen rounds mark the Browser Failed and drop its finalizer, and the pod stays. -/
theorem chrome_stuck_pod_fails :
    ∃ s b pod, Reachable rejectOptions s ∧ s.world.browser = some b ∧
      b.deletionTimestamp = none ∧ b.status.phase ≠ .failed ∧ s.world.pod = some pod ∧
      Stuck pod ∧ podCreationTimeout < 11 * periodicReconcile ∧
      StuckFailed pod (requeueRounds rejectOptions (List.replicate (11 + 2) []) s.world) := by
  obtain ⟨s, hs, hcheck⟩ := @ReachableBy.of_run rejectOptions (fun _ => True) stuckPodWaiting _
    (reconcileOk 10 ++ [.env (.podStatus creatingPending)])
    (.init _ (createdWorld_initial chromeStore)) (fun _ _ => trivial) (by decide)
  unfold stuckPodWaiting at hcheck
  split at hcheck
  · next b pod hb hp =>
    obtain ⟨hdel, hph, hstuck⟩ := of_decide_eq_true hcheck
    have hn : podCreationTimeout < 11 * periodicReconcile := by decide
    exact ⟨s, b, pod, hs, hb, hdel, hph, hp, hstuck, hn,
      reachable_stuck_pod_fails rejectOptions hs hb hdel hph hp hstuck 11 hn⟩
  · cases hcheck

end BrowserController
