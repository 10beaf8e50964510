import BrowserController.Browser.Types

/-!
# Mirroring a pod into a Browser's status

The pure part of `updateBrowserStatus` (`controllers/browser`): the container statuses it builds
from the pod (`newContainerStatuses`, with `getContainerPorts`), the two change checks that
decide whether it writes (`browserStatusChanged`, `containersStatusChanged`, the latter through
`containerStateEqual`), and the update it then applies (`mirrorStatus`).

`fullMirror` is the write the change checks stand in for: every mirrored field copied from the
pod. `containerStateEqual` compares only some fields of a state, and `containersStatusChanged`
only lengths, restart counts and states, so the two can disagree;
`BrowserController.Browser.StatusSync` says exactly where.
-/

namespace BrowserController

/-- `browserContainerName`. -/
def browserContainerName : String := "browser"

/-- `sidecarContainerName`. -/
def sidecarContainerName : String := "seleniferous"

/-- `containerStateEqual`: the same kind of state, and, for the first kind both have, equal
start time (running), exit code, reason, message and times (terminated), or reason and message
(waiting). Reference: `controllers/browser`, `containerStateEqual`. -/
def containerStateEqual (a b : ContainerState) : Bool :=
  if a.running.isSome != b.running.isSome then false
  else if a.terminated.isSome != b.terminated.isSome then false
  else if a.waiting.isSome != b.waiting.isSome then false
  else
    match a.running, b.running with
    | some ra, some rb => ra.startedAt == rb.startedAt
    | _, _ =>
      match a.terminated, b.terminated with
      | some ta, some tb =>
        ta.exitCode == tb.exitCode && ta.reason == tb.reason && ta.message == tb.message &&
          ta.startedAt == tb.startedAt && ta.finishedAt == tb.finishedAt
      | _, _ =>
        match a.waiting, b.waiting with
        | some wa, some wb => wa.reason == wb.reason && wa.message == wb.message
        | _, _ => true

/-- A port of the pod spec as the Browser status records it. -/
def ContainerPort.toBrowser (p : ContainerPort) : BrowserContainerPort :=
  ⟨p.name, p.containerPort, p.protocol, p.hostPort⟩

/-- `getContainerPorts`: the ports of the first container of that name that declares any.
Reference: `controllers/browser`, `getContainerPorts`. -/
def getContainerPorts (containerName : String) (pod : Pod) : List BrowserContainerPort :=
  match pod.spec.containers.find? (fun c => c.name == containerName && !c.ports.isEmpty) with
  | some c => c.ports.map ContainerPort.toBrowser
  | none => []

/-- The container statuses `updateBrowserStatus` builds: one per pod container status, in
order, with the ports the pod spec declares for it. -/
def newContainerStatuses (pod : Pod) : List BrowserContainerStatus :=
  pod.status.containerStatuses.map fun cs =>
    ⟨cs.name, cs.state, cs.image, cs.restartCount, getContainerPorts cs.name pod⟩

/-- `browserStatusChanged`: phase or pod IP differ, or the pod has a start time the Browser
does not record. -/
def browserStatusChanged (browser : Browser) (pod : Pod) : Bool :=
  browser.status.phase != pod.status.phase || browser.status.podIP != pod.status.podIP ||
    match pod.status.startTime with
    | none => false
    | some t => browser.status.startTime != some t

/-- No change is seen exactly when phase and pod IP agree and a start time the pod reports is
the one the Browser records. -/
theorem browserStatusChanged_eq_false {b : Browser} {pod : Pod} :
    browserStatusChanged b pod = false ↔
      b.status.phase = pod.status.phase ∧ b.status.podIP = pod.status.podIP ∧
        ∀ t, pod.status.startTime = some t → b.status.startTime = some t := by
  unfold browserStatusChanged
  cases h : pod.status.startTime <;> simp [h, and_assoc]

/-- The loop of `updateBrowserStatus` over equally long lists: some entry differs in restart
count or in state (by `containerStateEqual`). -/
def statusesDiffer : List BrowserContainerStatus → List BrowserContainerStatus → Bool
  | [], _ => false
  | _ :: _, [] => true
  | n :: ns, o :: os =>
    n.restartCount != o.restartCount || !containerStateEqual n.state o.state || statusesDiffer ns os

/-- `containersStatusChanged`: the pod reports containers, and the lists differ in length or
in some entry's restart count or state. -/
def containersStatusChanged (browser : Browser) (pod : Pod) : Bool :=
  !pod.status.containerStatuses.isEmpty &&
    (pod.status.containerStatuses.length != browser.status.containerStatuses.length ||
      statusesDiffer (newContainerStatuses pod) browser.status.containerStatuses)

/-- The update `updateBrowserStatus` hands `retryStatusUpdate`: pod IP and start time when
`changed`, the phase always, the container statuses when `containersChanged`. -/
def mirrorStatus (changed containersChanged : Bool) (pod : Pod) (b : Browser) : Browser :=
  { b with status :=
    { b.status with
      podIP := if changed then pod.status.podIP else b.status.podIP
      startTime := if changed then pod.status.startTime else b.status.startTime
      phase := pod.status.phase
      containerStatuses :=
        if containersChanged then newContainerStatuses pod else b.status.containerStatuses } }

/-- Every mirrored field copied from the pod: the write the change checks stand in for. -/
def fullMirror (pod : Pod) (b : Browser) : Browser :=
  { b with status :=
    { b.status with
      podIP := pod.status.podIP
      startTime := pod.status.startTime
      phase := pod.status.phase
      containerStatuses := newContainerStatuses pod } }

/-- A browser or seleniferous container has terminated. -/
def criticalTerminated (cs : ContainerStatus) : Bool :=
  (cs.name == browserContainerName || cs.name == sidecarContainerName) && cs.state.terminated.isSome

@[simp] theorem length_newContainerStatuses (pod : Pod) :
    (newContainerStatuses pod).length = pod.status.containerStatuses.length := by
  simp [newContainerStatuses]

end BrowserController
