import Mathlib.Data.List.AList

/-!
# The Kubernetes core types the controller reads and writes

The controller builds Pods (`buildBrowserPod`), reads them back (`Reconcile`,
`updateBrowserStatus`) and copies their container statuses into a Browser's status. This module
declares the part of `k8s.io/api/core/v1` those functions touch, field for field, and leaves out
the fields none of them reads or writes (`MODEL_MAP.json` lists them).

Three modelling choices hold for the whole development:

* A Go `map[string]V` that the code only reads and writes key by key is a function
  `String → Option V` (`GoMap`): a missing key reads as `none`, and two maps with the same
  bindings are equal, as Go maps are. A map whose *iteration order* decides the result is an
  `AList` instead, listed in the order one `range` visits it.
* The order of a `range` over a map the code builds itself (`mergeEnvPtr`'s name index) is an
  oracle, `MapIter`: any permutation of the keys, chosen by the run.
* Timestamps (`metav1.Time`) are whole seconds, `Nat`; a zero or nil time is `none`.
-/

namespace BrowserController

/-- A Go `map[string]V` read and written key by key. Reference: Go's built-in `map`. -/
abbrev GoMap (V : Type) := String → Option V

namespace GoMap

variable {V : Type}

/-- The empty map (Go's `nil` map and `map[string]V{}` alike). -/
def empty : GoMap V := fun _ => none

/-- `m[k] = v`. -/
def set (m : GoMap V) (k : String) (v : V) : GoMap V := fun k' => if k' = k then some v else m k'

/-- `delete(m, k)`. -/
def delete (m : GoMap V) (k : String) : GoMap V := fun k' => if k' = k then none else m k'

/-- `for k, v := range src { m[k] = v }`: the bindings of `src` overwrite those of `m`. -/
def copyInto (m src : GoMap V) : GoMap V := fun k => (src k).or (m k)

@[simp] theorem empty_apply (k : String) : (empty : GoMap V) k = none := rfl

@[simp] theorem set_apply (m : GoMap V) (k k' : String) (v : V) :
    m.set k v k' = if k' = k then some v else m k' := rfl

@[simp] theorem delete_apply (m : GoMap V) (k k' : String) :
    m.delete k k' = if k' = k then none else m k' := rfl

@[simp] theorem copyInto_apply (m src : GoMap V) (k : String) :
    m.copyInto src k = (src k).or (m k) := rfl

/-- Copying the empty map changes nothing. -/
@[simp] theorem copyInto_empty (m : GoMap V) : m.copyInto empty = m := rfl

end GoMap

/-- The order one `range` over a Go map visits its keys: any permutation of them, chosen afresh
by each run. Reference: the Go specification, "the iteration order over maps is not specified". -/
structure MapIter where
  /-- The visiting order of a map whose keys, in insertion order, are the argument. -/
  order : List String → List String
  /-- Every key is visited once. -/
  perm : ∀ l, List.Perm (order l) l

/-- The iteration that visits keys in insertion order. -/
def MapIter.insertion : MapIter := ⟨id, fun l => List.Perm.refl l⟩

/-- The iteration that visits keys in reverse insertion order. -/
def MapIter.reversed : MapIter := ⟨List.reverse, List.reverse_perm⟩

/-! ## Containers -/

/-- `corev1.EnvVar`; `ValueFrom` is not read by any modelled function. -/
structure EnvVar where
  name : String
  value : String
deriving DecidableEq, Repr

/-- `corev1.ContainerPort`; `HostIP` is dropped by `getContainerPorts` and read by nothing. -/
structure ContainerPort where
  name : String
  containerPort : Int
  protocol : String
  hostPort : Int
deriving DecidableEq, Repr

/-- `corev1.VolumeMount`, carried whole by the merge and the pod builder. -/
structure VolumeMount where
  name : String
  mountPath : String
deriving DecidableEq, Repr

/-- `corev1.Volume`; its source is carried whole and never read. -/
structure Volume where
  name : String
  source : String
deriving DecidableEq, Repr

/-- `corev1.Toleration`. -/
structure Toleration where
  key : String
  operator : String
  value : String
  effect : String
deriving DecidableEq, Repr

/-- `corev1.HostAlias`. -/
structure HostAlias where
  ip : String
  hostnames : List String
deriving DecidableEq, Repr

/-- `corev1.LocalObjectReference` (an image-pull secret). -/
structure LocalObjectReference where
  name : String
deriving DecidableEq, Repr

/-- `corev1.ResourceRequirements`: quantities by resource name. -/
structure ResourceRequirements where
  limits : List (String × String)
  requests : List (String × String)
deriving DecidableEq, Repr

/-- `corev1.Affinity`, carried whole from the configuration to the pod; its terms are never read. -/
structure Affinity where
  terms : List String
deriving DecidableEq, Repr

/-- `corev1.PodDNSConfig`, carried whole. -/
structure PodDNSConfig where
  nameservers : List String
  searches : List String
deriving DecidableEq, Repr

/-- `corev1.PodSecurityContext`, carried whole. -/
structure PodSecurityContext where
  runAsUser : Option Int
  fsGroup : Option Int
deriving DecidableEq, Repr

/-- `corev1.SecurityContext` of a container: the builder sets only `Privileged`. -/
structure SecurityContext where
  privileged : Option Bool
deriving DecidableEq, Repr

/-- `corev1.Container`, the fields `buildBrowserPod` sets and `getContainerPorts` reads. -/
structure Container where
  name : String
  image : String
  command : List String := []
  workingDir : String := ""
  ports : List ContainerPort := []
  env : List EnvVar := []
  resources : ResourceRequirements := ⟨[], []⟩
  volumeMounts : List VolumeMount := []
  imagePullPolicy : String := ""
  securityContext : Option SecurityContext := none
deriving DecidableEq, Repr

/-! ## Container state -/

/-- `corev1.ContainerStateWaiting`. -/
structure ContainerStateWaiting where
  reason : String
  message : String
deriving DecidableEq, Repr

/-- `corev1.ContainerStateRunning`. -/
structure ContainerStateRunning where
  startedAt : Nat
deriving DecidableEq, Repr

/-- `corev1.ContainerStateTerminated`. -/
structure ContainerStateTerminated where
  exitCode : Int
  signal : Int
  reason : String
  message : String
  startedAt : Nat
  finishedAt : Nat
  containerID : String
deriving DecidableEq, Repr

/-- `corev1.ContainerState`: at most one of the three is set by the kubelet. -/
structure ContainerState where
  waiting : Option ContainerStateWaiting := none
  running : Option ContainerStateRunning := none
  terminated : Option ContainerStateTerminated := none
deriving DecidableEq, Repr

/-- `corev1.ContainerStatus`, the fields the reconciler reads. -/
structure ContainerStatus where
  name : String
  state : ContainerState
  ready : Bool
  restartCount : Int
  image : String
deriving DecidableEq, Repr

/-! ## Pods -/

/-- `corev1.PodPhase`; `unset` is the empty string a fresh Browser status carries. -/
inductive PodPhase where
  | unset
  | pending
  | running
  | succeeded
  | failed
  | unknown
deriving DecidableEq, Repr

/-- `metav1.OwnerReference`, as `metav1.NewControllerRef` builds it. -/
structure OwnerReference where
  kind : String
  name : String
  controller : Bool
deriving DecidableEq, Repr

/-- `corev1.PodSpec`, the fields `buildBrowserPod` sets. -/
structure PodSpec where
  initContainers : List Container := []
  containers : List Container := []
  volumes : List Volume := []
  securityContext : Option PodSecurityContext := none
  nodeSelector : GoMap String := GoMap.empty
  affinity : Option Affinity := none
  tolerations : List Toleration := []
  hostAliases : List HostAlias := []
  imagePullSecrets : List LocalObjectReference := []
  dnsConfig : Option PodDNSConfig := none
  hostname : String := ""
  restartPolicy : String := ""

/-- `corev1.PodStatus`, the fields the reconciler reads. -/
structure PodStatus where
  phase : PodPhase := .unset
  podIP : String := ""
  reason : String := ""
  message : String := ""
  startTime : Option Nat := none
  containerStatuses : List ContainerStatus := []

/-- `corev1.Pod` with the metadata the controller reads or sets. -/
structure Pod where
  name : String
  /-- `Namespace`. -/
  ns : String
  labels : GoMap String := GoMap.empty
  annotations : GoMap String := GoMap.empty
  ownerReferences : List OwnerReference := []
  creationTimestamp : Option Nat := none
  deletionTimestamp : Option Nat := none
  /-- The grace period of the deletion under way, in seconds. -/
  deletionGracePeriodSeconds : Option Nat := none
  /-- Set by other parties; the controller sets none. -/
  finalizers : List String := []
  spec : PodSpec := {}
  status : PodStatus := {}

/-- `corev1.DefaultTerminationGracePeriodSeconds`: the grace period of a pod whose spec sets
none, as the pods `buildBrowserPod` builds. -/
def defaultTerminationGracePeriodSeconds : Nat := 30

end BrowserController
