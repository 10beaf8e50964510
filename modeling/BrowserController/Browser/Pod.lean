import BrowserController.Browser.Status
import BrowserController.Config.Types

/-!
# Building a Browser's pod

`buildBrowserPod` (`controllers/browser`) turns a Browser, its resolved configuration and the
parsed `selenosis.io/options` annotation into the pod the reconciler creates: init containers
and sidecars from the catalog, the browser container first among the containers, pod-level
fields copied, labels and annotations merged, and the options applied last
(`applySelenosisOptions`, which overlays environment variables with `mergeEnvVars`).

The options annotation is JSON. Decoding it is `encoding/json`'s `Unmarshal`, which is not
part of this repository; `parseSelenosisOptions` takes the decoder as an argument, and every
statement about the reconciler holds for any decoder.
-/

namespace BrowserController

/-- `selenosisOptionsAnnotationKey`. -/
def selenosisOptionsAnnotationKey : String := "selenosis.io/options"

/-- `ContainerOption`: variables by name, listed in the order a `range` visits them. -/
structure ContainerOption where
  env : AList (fun _ : String => String)

/-- `SelenosisOptions`: pod labels, and per-container options by container name. -/
structure SelenosisOptions where
  labels : GoMap String
  containers : AList (fun _ : String => ContainerOption)

/-- `parseSelenosisOptions`: no options for a missing or empty annotation, else the decoded
document, or the decoder's error wrapped with the key. Reference: `controllers/browser`,
`parseSelenosisOptions`. -/
def parseSelenosisOptions (decode : String → Except String SelenosisOptions)
    (ann : GoMap String) : Except String (Option SelenosisOptions) :=
  match ann selenosisOptionsAnnotationKey with
  | none | some "" => .ok none
  | some raw =>
    match decode raw with
    | .ok opts => .ok (some opts)
    | .error e => .error ("unmarshal " ++ selenosisOptionsAnnotationKey ++ ": " ++ e)

/-- `mergeEnvVars`: each override variable replaces the variable of its name (the last one, as
the index keeps it) in place, or is appended, in the order the override map is visited.
Reference: `controllers/browser`, `mergeEnvVars`. -/
def mergeEnvVars (base : List EnvVar) (override : AList (fun _ : String => String)) :
    List EnvVar :=
  if override.entries.isEmpty then base
  else
    let idx := base.enum.foldl (fun m e => m.set e.2.name e.1) GoMap.empty
    (override.entries.foldl (fun (acc : List EnvVar × GoMap Nat) kv =>
      match acc.2 kv.1 with
      | some pos => (acc.1.set pos ⟨kv.1, kv.2⟩, acc.2)
      | none => (acc.1 ++ [⟨kv.1, kv.2⟩], acc.2.set kv.1 acc.1.length)) (base, idx)).1

/-- One container after the options: its variables overlaid when the options name it with a
non-empty `env`. -/
def ContainerOption.applyTo (opts : SelenosisOptions) (c : Container) : Container :=
  match opts.containers.lookup c.name with
  | some option => if option.env.entries.isEmpty then c else { c with env := mergeEnvVars c.env option.env }
  | none => c

/-- `applySelenosisOptions`: the named containers' variables overlaid, then the option labels
copied over the pod's. Reference: `controllers/browser`, `applySelenosisOptions`. -/
def applySelenosisOptions (pod : Pod) : Option SelenosisOptions → Pod
  | none => pod
  | some opts =>
    let containers :=
      if opts.containers.entries.isEmpty then pod.spec.containers
      else pod.spec.containers.map (ContainerOption.applyTo opts)
    { pod with spec := { pod.spec with containers := containers },
               labels := pod.labels.copyInto opts.labels }

/-- An init container of the catalog as `buildBrowserPod` builds it: the top-level working
directory, when set, in place of the container's own. -/
def initContainerOf (cfg : BrowserVersionConfigSpec) (ic : Sidecar) : Container :=
  { name := ic.name, image := ic.image, imagePullPolicy := ic.imagePullPolicy,
    volumeMounts := ic.volumeMounts.getD [], env := ic.env.getD [],
    resources := ic.resources.getD ⟨[], []⟩, command := ic.command.getD [],
    ports := ic.ports.getD [],
    workingDir := match cfg.workingDir with
      | some w => w
      | none => ic.workingDir.getD "" }

@[simp] theorem initContainerOf_workingDir (cfg : BrowserVersionConfigSpec) (ic : Sidecar) :
    (initContainerOf cfg ic).workingDir = (cfg.workingDir.or ic.workingDir).getD "" := by
  cases h : cfg.workingDir <;> simp [initContainerOf, h]

/-- A sidecar of the catalog as `buildBrowserPod` builds it: its own working directory only. -/
def sidecarContainerOf (s : Sidecar) : Container :=
  { name := s.name, image := s.image, imagePullPolicy := s.imagePullPolicy,
    env := s.env.getD [], resources := s.resources.getD ⟨[], []⟩, command := s.command.getD [],
    ports := s.ports.getD [], volumeMounts := s.volumeMounts.getD [],
    workingDir := s.workingDir.getD "" }

/-- The browser container, privileged when the configuration says so. -/
def browserContainerOf (cfg : BrowserVersionConfigSpec) : Container :=
  let c : Container :=
    { name := browserContainerName, image := cfg.image, env := cfg.env.getD [],
      resources := cfg.resources.getD ⟨[], []⟩, volumeMounts := cfg.volumeMounts.getD [],
      workingDir := cfg.workingDir.getD "" }
  if cfg.privileged = some true then { c with securityContext := some ⟨some true⟩ } else c

@[simp] theorem browserContainerOf_name (cfg : BrowserVersionConfigSpec) :
    (browserContainerOf cfg).name = browserContainerName := by
  unfold browserContainerOf; split <;> rfl

@[simp] theorem browserContainerOf_env (cfg : BrowserVersionConfigSpec) :
    (browserContainerOf cfg).env = cfg.env.getD [] := by
  unfold browserContainerOf; split <;> rfl

@[simp] theorem browserContainerOf_workingDir (cfg : BrowserVersionConfigSpec) :
    (browserContainerOf cfg).workingDir = cfg.workingDir.getD "" := by
  unfold browserContainerOf; split <;> rfl

/-- `buildBrowserPod`. Reference: `controllers/browser`, `buildBrowserPod`. -/
def buildBrowserPod (browser : Browser) (cfg : BrowserVersionConfigSpec)
    (opts : Option SelenosisOptions) : Pod :=
  applySelenosisOptions
    { name := browser.name, ns := browser.ns,
      ownerReferences := [⟨"Browser", browser.name, true⟩],
      labels := (GoMap.empty.copyInto browser.labels).copyInto (cfg.labels.getD GoMap.empty),
      annotations :=
        (GoMap.empty.copyInto (browser.annotations.delete selenosisOptionsAnnotationKey)).copyInto
          (cfg.annotations.getD GoMap.empty),
      spec :=
        { initContainers := (cfg.initContainers.getD []).map (initContainerOf cfg),
          containers := browserContainerOf cfg :: (cfg.sidecars.getD []).map sidecarContainerOf,
          volumes := cfg.volumes.getD [],
          securityContext := cfg.securityContext,
          nodeSelector := cfg.nodeSelector.getD GoMap.empty,
          affinity := cfg.affinity,
          tolerations := cfg.tolerations.getD [],
          hostAliases := cfg.hostAliases.getD [],
          imagePullSecrets := cfg.imagePullSecrets.getD [],
          dnsConfig := cfg.dnsConfig,
          hostname := browser.name,
          restartPolicy := "Never" } }
    opts

end BrowserController
