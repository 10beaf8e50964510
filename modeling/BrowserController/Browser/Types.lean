import BrowserController.Kube.Core

/-!
# The `Browser` resource

`apis/browser/v1` (the repository's `Browser` CRD): a request for one browser of a name and a
version, and the status the controller mirrors from its pod. The object's metadata is the part
the reconciler reads or patches: labels, annotations, finalizers and the deletion timestamp.

The finalizer helpers are controller-runtime's `controllerutil.ContainsFinalizer`,
`AddFinalizer` and `RemoveFinalizer`, which the reconciler calls on these objects.
-/

namespace BrowserController

/-- `browserv1.ContainerPort`. -/
structure BrowserContainerPort where
  name : String
  containerPort : Int
  protocol : String
  hostPort : Int
deriving DecidableEq, Repr

/-- `browserv1.ContainerStatus`. -/
structure BrowserContainerStatus where
  name : String
  state : ContainerState
  image : String
  restartCount : Int
  ports : List BrowserContainerPort
deriving DecidableEq, Repr

/-- `browserv1.BrowserSpec`. -/
structure BrowserSpec where
  browserName : String
  browserVersion : String
deriving DecidableEq, Repr

/-- `browserv1.BrowserStatus`. -/
structure BrowserStatus where
  podIP : String := ""
  phase : PodPhase := .unset
  message : String := ""
  reason : String := ""
  startTime : Option Nat := none
  containerStatuses : List BrowserContainerStatus := []
deriving DecidableEq, Repr

/-- `browserv1.Browser` with the metadata the reconciler reads or patches. -/
structure Browser where
  name : String
  /-- `Namespace`. -/
  ns : String
  labels : GoMap String := GoMap.empty
  annotations : GoMap String := GoMap.empty
  finalizers : List String := []
  deletionTimestamp : Option Nat := none
  spec : BrowserSpec
  status : BrowserStatus := {}

/-- `browserPodFinalizer`. -/
def browserPodFinalizer : String := "browserpod.selenosis.io/finalizer"

/-- `controllerutil.ContainsFinalizer`. -/
def containsFinalizer (b : Browser) (f : String) : Bool := f ∈ b.finalizers

/-- `controllerutil.AddFinalizer`: appended when absent. -/
def addFinalizer (f : String) (b : Browser) : Browser :=
  if f ∈ b.finalizers then b else { b with finalizers := b.finalizers ++ [f] }

/-- `controllerutil.RemoveFinalizer`: every occurrence dropped. -/
def removeFinalizer (f : String) (b : Browser) : Browser :=
  { b with finalizers := b.finalizers.filter (· ≠ f) }

@[simp] theorem removeFinalizer_status (f : String) (b : Browser) :
    (removeFinalizer f b).status = b.status := rfl

@[simp] theorem addFinalizer_status (f : String) (b : Browser) :
    (addFinalizer f b).status = b.status := by
  unfold addFinalizer; split <;> rfl

theorem mem_addFinalizer (f : String) (b : Browser) : f ∈ (addFinalizer f b).finalizers := by
  unfold addFinalizer; split <;> simp_all

theorem not_mem_removeFinalizer (f : String) (b : Browser) :
    f ∉ (removeFinalizer f b).finalizers := by
  simp [removeFinalizer]

end BrowserController
