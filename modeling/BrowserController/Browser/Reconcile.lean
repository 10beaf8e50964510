import BrowserController.Api.Prog
import BrowserController.Browser.Pod

/-!
# The Browser reconciler

`BrowserReconciler` (`controllers/browser`) as programs of calls, one definition per Go method
and the same control flow: `reconcile` reads the Browser and hands it to `reconcileBrowser`,
which handles deletion and the Failed phase, asserts the finalizer, the identity labels and the
Pending phase, reads the pod and hands it to `reconcilePod`. Every write of the Browser goes
through `retryUpdate` or `retryStatusUpdate`, which re-read it, apply the update to the copy
they read and send the difference as a merge patch.

The in-memory `browser` a method receives is the copy `reconcile` read at its start; the
patches never update it, as in the Go code. `Reconcile` and its Pending loop are long Go
functions made of commented blocks; each block that the code falls through is a definition here
(`ensureFinalizer`, `handleFailedPod`, `checkCreationTimeout`, ...) taking the rest of the
function as its continuation `k`.
-/

namespace BrowserController

/-- `ctrl.Result`: the requested requeue delay in seconds, `0` for none. -/
structure Result where
  requeueAfter : Nat := 0
deriving DecidableEq, Repr

/-- An error a reconciliation returns to the work queue. -/
inductive ReconcileError where
  | api (e : ApiError)
  | message (msg : String)
deriving DecidableEq, Repr

/-- What `Reconcile` returns. -/
abbrev ReconcileResult := Result × Option ReconcileError

/-- `maxRetries`. -/
def maxRetries : Nat := 5

/-- `mediumRetry`, in seconds. -/
def mediumRetry : Nat := 10

/-- `periodicReconcile`, in seconds. -/
def periodicReconcile : Nat := 30

/-- `quickCheck`, in seconds. -/
def quickCheck : Nat := 3

/-- `podDeletionTimeout`, in seconds. -/
def podDeletionTimeout : Nat := 300

/-- `podCreationTimeout`, in seconds. -/
def podCreationTimeout : Nat := 300

/-! ## Optimistic writes -/

/-- The patch `retryUpdate` (`status = false`) or `retryStatusUpdate` (`status = true`) sends. -/
def patchCall (status : Bool) (before after : Browser) : Prog (Except ApiError Unit) :=
  if status then patchBrowserStatus before after else patchBrowser before after

/-- The loop `retryUpdate` and `retryStatusUpdate` share, with `n` attempts left: re-read the
Browser, apply `updateFunc` to the copy read, patch the difference; retry on a conflict, fail
on any other error, and fail with `exhausted` when no attempt is left. The backoff sleep acts on
nothing the model observes. Reference: `controllers/browser`, `retryUpdate`,
`retryStatusUpdate`. -/
def retryPatch (status : Bool) (exhausted : String) (updateFunc : Browser → Browser) :
    Nat → Prog (Option ReconcileError)
  | 0 => pure (some (.message exhausted))
  | n + 1 => do
    match ← getBrowser with
    | .error e => pure (some (.api e))
    | .ok current =>
      match ← patchCall status current (updateFunc current) with
      | .ok () => pure none
      | .error e =>
        if e = .conflict then retryPatch status exhausted updateFunc n else pure (some (.api e))

/-- `retryUpdate`. -/
def retryUpdate (updateFunc : Browser → Browser) : Prog (Option ReconcileError) :=
  retryPatch false "failed to patch Browser after 5 attempts: version conflict" updateFunc
    maxRetries

/-- `retryStatusUpdate`. -/
def retryStatusUpdate (updateFunc : Browser → Browser) : Prog (Option ReconcileError) :=
  retryPatch true "failed to patch Browser status after 5 attempts: version conflict" updateFunc
    maxRetries

/-! ## Updates -/

/-- The update that marks a Browser Failed with a message, its reason unchanged. -/
def setFailedMessage (msg : String) (b : Browser) : Browser :=
  { b with status := { b.status with phase := .failed, message := msg } }

/-- The update that marks a Browser Failed with a reason and a message. -/
def setFailedReason (reason msg : String) (b : Browser) : Browser :=
  { b with status := { b.status with phase := .failed, reason := reason, message := msg } }

/-- The update that sets the Pending phase. -/
def setPending (b : Browser) : Browser :=
  { b with status := { b.status with phase := .pending } }

/-- The update that asserts the three identity labels. -/
def setBrowserLabels (b : Browser) : Browser :=
  { b with labels := ((b.labels.set "selenosis.io/browser" b.name).set "selenosis.io/browser.name"
      b.spec.browserName).set "selenosis.io/browser.version" b.spec.browserVersion }

/-! ## The methods -/

/-- `deletePod`: a zero-grace delete; a missing pod is not an error. Reference:
`controllers/browser`, `deletePod`. -/
def deletePod : Prog (Option ReconcileError) := do
  match ← deletePodCall true with
  | .ok () => pure none
  | .error e => if e = .notFound then pure none else pure (some (.api e))

/-- `deleteBrowser`: drop the finalizer (when the in-memory copy has it), then delete the
Browser. Reference: `controllers/browser`, `deleteBrowser`. -/
def deleteBrowser (browser : Browser) : Prog ReconcileResult := do
  if containsFinalizer browser browserPodFinalizer then
    if let some err ← retryUpdate (removeFinalizer browserPodFinalizer) then
      return (⟨mediumRetry⟩, some err)
  match ← deleteBrowserCall with
  | .ok () => return ({}, none)
  | .error e => if e = .notFound then return ({}, none) else return ({}, some (.api e))

/-- `handleDeletion`: delete the pod and wait for it to go (forcing it after
`podDeletionTimeout`), then drop the finalizer; a pod that cannot be read does not block the
finalizer. Reference: `controllers/browser`, `handleDeletion`. -/
def handleDeletion (browser : Browser) : Prog ReconcileResult := do
  if !containsFinalizer browser browserPodFinalizer then
    return ({}, none)
  match ← getPod with
  | .ok pod =>
    if pod.deletionTimestamp.isNone then
      match ← deletePodCall (pod.status.phase = .failed) with
      | .ok () => pure ()
      | .error e => if e ≠ .notFound then return (⟨mediumRetry⟩, some (.api e))
    match pod.deletionTimestamp with
    | some deletionTime =>
      let t ← now
      if t - deletionTime > podDeletionTimeout then
        let _ ← deletePod
      else
        return (⟨quickCheck⟩, none)
    | none => return (⟨quickCheck⟩, none)
  | .error _ => pure ()
  if containsFinalizer browser browserPodFinalizer then
    if let some err ← retryUpdate (removeFinalizer browserPodFinalizer) then
      return (⟨mediumRetry⟩, some err)
  return ({}, none)

/-- `handleMissingPod`: look the configuration up; fail the Browser for a missing one or for
unreadable options, else create its pod. Reference: `controllers/browser`, `handleMissingPod`. -/
def handleMissingPod (decode : String → Except String SelenosisOptions) (browser : Browser) :
    Prog ReconcileResult := do
  match ← getConfig browser.ns browser.spec.browserName browser.spec.browserVersion with
  | some (some browserSpec) =>
    match parseSelenosisOptions decode browser.annotations with
    | .error msg =>
      if let some err ← retryStatusUpdate (setFailedReason "InvalidSelenosisOptions" msg) then
        return ({}, some err)
      return ({}, none)
    | .ok opts =>
      match ← createPodCall (buildBrowserPod browser browserSpec opts) with
      | .ok () => return (⟨quickCheck⟩, none)
      | .error e =>
        if e = .alreadyExists then return (⟨quickCheck⟩, none) else return ({}, some (.api e))
  | _ =>
    if browser.status.phase ≠ .failed then
      if let some err ← retryStatusUpdate
          (setFailedReason "BrowserPodSpec" "Browser configuration not found") then
        return ({}, some err)
    return ({}, none)

/-- `updateBrowserStatus`: a terminated browser or seleniferous container fails the Browser and
deletes it; otherwise the pod is mirrored when the change checks fire. Reference:
`controllers/browser`, `updateBrowserStatus`. -/
def updateBrowserStatus (browser : Browser) (pod : Pod) : Prog ReconcileResult := do
  if pod.status.containerStatuses.any criticalTerminated then
    if browser.status.phase ≠ .failed then
      if let some err ← retryStatusUpdate
          (setFailedReason pod.status.reason pod.status.message) then
        return ({}, some err)
    return ← deleteBrowser browser
  let changed := browserStatusChanged browser pod
  let containersChanged := containersStatusChanged browser pod
  if changed || containersChanged then
    if let some err ← retryStatusUpdate (mirrorStatus changed containersChanged pod) then
      return ({}, some err)
  return (⟨periodicReconcile⟩, none)

/-- "if !pod.CreationTimestamp.IsZero()": a pod older than `podCreationTimeout` fails the
Browser and ends the reconciliation (`some` result); otherwise go on with `k`. -/
def checkCreationTimeout (pod : Pod) (k : Prog (Option ReconcileResult)) :
    Prog (Option ReconcileResult) := do
  if let some created := pod.creationTimestamp then
    let t ← now
    if t - created > podCreationTimeout then
      if let some err ← retryStatusUpdate
          (setFailedMessage "pod creation timeout exceeded after 5m0s") then
        return some (⟨mediumRetry⟩, some err)
      return some ({}, none)
  k

/-- "reason := cs.State.Waiting.Reason": a waiting reason other than `ContainerCreating` and
`PodInitializing` deletes the pod, fails the Browser and ends the reconciliation; otherwise go
on with `k`. -/
def checkWaitingReason (cs : ContainerStatus) (waiting : ContainerStateWaiting)
    (k : Prog (Option ReconcileResult)) : Prog (Option ReconcileResult) := do
  if waiting.reason ≠ "ContainerCreating" ∧ waiting.reason ≠ "PodInitializing" then
    if let some err ← deletePod then
      return some (⟨mediumRetry⟩, some err)
    if let some err ← retryStatusUpdate (setFailedMessage
        ("pod container " ++ cs.name ++ " failed: " ++ waiting.reason ++ " - " ++
          waiting.message)) then
      return some (⟨mediumRetry⟩, some err)
    return some ({}, none)
  k

/-- The loop of `Reconcile` over a Pending pod's container statuses: `some` result when a
container ends the reconciliation (terminated, creation timeout, or a waiting reason other
than `ContainerCreating` and `PodInitializing`), `none` when the loop runs out. -/
def pendingChecks (pod : Pod) : List ContainerStatus → Prog (Option ReconcileResult)
  | [] => pure none
  | cs :: rest => do
    if cs.state.terminated.isSome then
      if let some err ← retryStatusUpdate
          (setFailedMessage ("pod container " ++ cs.name ++ " terminated")) then
        return some (⟨mediumRetry⟩, some err)
      return some ({}, none)
    match cs.state.waiting with
    | none => pendingChecks pod rest
    | some waiting =>
      checkCreationTimeout pod (checkWaitingReason cs waiting (pendingChecks pod rest))

/-- "Handle failed pod": a failed pod is force-deleted and fails the Browser; then, with no
`return` in the Go code, the reconciliation goes on with `k`. -/
def handleFailedPod (pod : Pod) (k : Prog ReconcileResult) : Prog ReconcileResult := do
  if pod.status.phase = .failed then
    if let some err ← deletePod then
      return (⟨mediumRetry⟩, some err)
    if let some err ← retryStatusUpdate (setFailedMessage
        ("pod has failed with reason: " ++ pod.status.reason ++ " - " ++ pod.status.message)) then
      return (⟨mediumRetry⟩, some err)
  k

/-- `Reconcile` once the pod has been read: a pod being deleted deletes the Browser, a failed
pod is force-deleted and fails the Browser (and the reconciliation goes on), a Pending pod's
containers are checked, and the status is mirrored. Reference: `controllers/browser`,
`Reconcile`, from "Handle pod being deleted". -/
def reconcilePod (browser : Browser) (pod : Pod) : Prog ReconcileResult := do
  if pod.deletionTimestamp.isSome ∧ browser.deletionTimestamp.isNone then
    return ← deleteBrowser browser
  handleFailedPod pod do
    if pod.status.phase = .pending then
      if let some r ← pendingChecks pod pod.status.containerStatuses then
        return r
    updateBrowserStatus browser pod

/-- "get the associated Pod": reconcile against the pod, or, when it is missing and the
Browser read is not Failed, create it. Reference: `controllers/browser`, `Reconcile`. -/
def reconcileFromPod (decode : String → Except String SelenosisOptions) (browser : Browser) :
    Prog ReconcileResult := do
  match ← getPod with
  | .ok pod => reconcilePod browser pod
  | .error e =>
    if e = .notFound then
      if browser.status.phase = .failed then
        return ({}, none)
      return ← handleMissingPod decode browser
    return ({}, some (.api e))

/-- "ensure finalizer is set", then `k`. -/
def ensureFinalizer (browser : Browser) (k : Prog ReconcileResult) : Prog ReconcileResult := do
  if !containsFinalizer browser browserPodFinalizer then
    if let some err ← retryUpdate (addFinalizer browserPodFinalizer) then
      return ({}, some err)
  k

/-- "ensure label selenosis.io/browser.name exists", then `k`. -/
def ensureLabels (browser : Browser) (k : Prog ReconcileResult) : Prog ReconcileResult := do
  if (browser.labels "selenosis.io/browser").getD "" ≠ browser.name then
    if let some err ← retryUpdate setBrowserLabels then
      return (⟨mediumRetry⟩, some err)
  k

/-- "Set Pending status if not set", then `k`. -/
def ensurePending (browser : Browser) (k : Prog ReconcileResult) : Prog ReconcileResult := do
  if browser.status.phase = .unset then
    if let some err ← retryStatusUpdate setPending then
      return ({}, some err)
  k

/-- `Reconcile` once the Browser has been read: deletion and the Failed phase first, then the
finalizer, the labels and the Pending phase asserted in turn, each from the copy read at the
start. Reference: `controllers/browser`, `Reconcile`, from "check if Browser deletion timestamp
is set". -/
def reconcileBrowser (decode : String → Except String SelenosisOptions) (browser : Browser) :
    Prog ReconcileResult := do
  if browser.deletionTimestamp.isSome then
    return ← handleDeletion browser
  if browser.status.phase = .failed then
    if containsFinalizer browser browserPodFinalizer then
      if let some err ← retryUpdate (removeFinalizer browserPodFinalizer) then
        return (⟨mediumRetry⟩, some err)
    return ({}, none)
  ensureFinalizer browser <| ensureLabels browser <| ensurePending browser <|
    reconcileFromPod decode browser

/-- `Reconcile`. Reference: `controllers/browser`, `BrowserReconciler.Reconcile`. -/
def reconcile (decode : String → Except String SelenosisOptions) : Prog ReconcileResult := do
  match ← getBrowser with
  | .ok browser => reconcileBrowser decode browser
  | .error e => if e = .notFound then return ({}, none) else return ({}, some (.api e))

end BrowserController
