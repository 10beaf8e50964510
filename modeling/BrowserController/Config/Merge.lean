import BrowserController.Config.Types
import Mathlib.Data.List.Dedup

/-!
# The merge engine

`BrowserConfigSpec.MergeWithTemplate` resolves every version override of a catalog against the
catalog's template (`apis/browserconfig/v1/browser_config.go:168-496`). Each field of the
override is combined with the template's by one of four rules:

* pointers and scalars: the override's value when set, else the template's
  (`firstNonNilResource`, and the `if b.X == nil` assignments);
* string maps: a union where the override wins (`mergeMapPtr`);
* environment lists: one variable per name, the override's winning, listed in the iteration
  order of a Go map (`mergeEnvPtr`, which takes that order from a `MapIter`);
* other lists: the template's entries then the override's, `nil` when empty (`mergeListPtr`,
  of which `mergeVolumePtr` and its five siblings are instances);
* named containers: the override's entries, then the template's whose names the override does
  not declare (`mergeSidecarPtr`), after which an entry the override declared is completed from
  the template's entry of that name (`completeFromTemplate`).

`mergeWithSpec` applies the rules field by field. It passes the arguments of
`mergeVolumeMountsPtr` and of the init containers' `mergeSidecarPtr` in the other order than
its siblings do; `mergeWithSpec_initContainers_collision` is what follows for init containers.
-/

namespace BrowserController

/-! ## Maps and scalars -/

/-- `mergeMapPtr`: `nil` when both are `nil`, else the template's bindings overwritten by the
override's. Reference: `browser_config.go:262`. -/
def mergeMapPtr (template override : Option (GoMap String)) : Option (GoMap String) :=
  match template, override with
  | none, none => none
  | t, o => some ((t.getD GoMap.empty).copyInto (o.getD GoMap.empty))

/-- `firstNonNilResource`: the override when set, else the template. Reference:
`browser_config.go:309`. -/
def firstNonNilResource (template override : Option ResourceRequirements) :
    Option ResourceRequirements :=
  override.or template

/-! ## Environment variables -/

/-- The entry a Go loop `for _, env := range l { result[env.Name] = env }` leaves under `n`: the
last one named `n`. -/
def lastNamed (l : List EnvVar) (n : String) : Option EnvVar :=
  l.reverse.find? (·.name = n)

/-- `mergeEnvPtr`: the template's variables then the override's are indexed by name, so the
last entry of each name wins, and the index is read back in the order `it` gives its keys.
Reference: `browser_config.go:283`. -/
def mergeEnvPtr (it : MapIter) (template override : Option (List EnvVar)) :
    Option (List EnvVar) :=
  match template, override with
  | none, none => none
  | t, o =>
    let all := t.getD [] ++ o.getD []
    some ((it.order (all.map (·.name)).dedup).filterMap (lastNamed all))

/-! ## Concatenated lists -/

/-- The concatenation `mergeVolumePtr` and its five siblings compute: the template's entries,
then the override's, `nil` when there are none. Reference: `browser_config.go:317`. -/
def mergeListPtr {α : Type} (template override : Option (List α)) : Option (List α) :=
  match template.getD [] ++ override.getD [] with
  | [] => none
  | r => some r

/-- `mergeVolumePtr`. Reference: `browser_config.go:317`. -/
def mergeVolumePtr (template override : Option (List Volume)) : Option (List Volume) :=
  mergeListPtr template override

/-- `mergeTolerationPtr`. Reference: `browser_config.go:334`. -/
def mergeTolerationPtr (template override : Option (List Toleration)) :
    Option (List Toleration) :=
  mergeListPtr template override

/-- `mergeHostAliasPtr`. Reference: `browser_config.go:351`. -/
def mergeHostAliasPtr (template override : Option (List HostAlias)) : Option (List HostAlias) :=
  mergeListPtr template override

/-- `mergeVolumeMountsPtr`; its deep copies are copies of values. Reference:
`browser_config.go:394`. -/
def mergeVolumeMountsPtr (template override : Option (List VolumeMount)) :
    Option (List VolumeMount) :=
  mergeListPtr template override

/-- `mergeLocalObjectRefPtr`. Reference: `browser_config.go:418`. -/
def mergeLocalObjectRefPtr (template override : Option (List LocalObjectReference)) :
    Option (List LocalObjectReference) :=
  mergeListPtr template override

/-- `mergeContainerPortPtr`. Reference: `browser_config.go:450`. -/
def mergeContainerPortPtr (template override : Option (List ContainerPort)) :
    Option (List ContainerPort) :=
  mergeListPtr template override

/-- `mergeVolumeMountPtr`. Reference: `browser_config.go:467`. -/
def mergeVolumeMountPtr (template override : Option (List VolumeMount)) :
    Option (List VolumeMount) :=
  mergeListPtr template override

/-! ## Named containers -/

/-- `mergeSidecarPtr`: the override's entries, then the template's entries whose names the
override does not declare. Reference: `browser_config.go:368`. -/
def mergeSidecarPtr (template override : Option (List Sidecar)) : Option (List Sidecar) :=
  match template, override with
  | none, none => none
  | some t, none => some t
  | none, some o => some o
  | some t, some o => some (o ++ t.filter (fun s => s.name ∉ o.map (·.name)))

/-- `findTemplateSidecar`: the first entry of that name. Reference: `browser_config.go:484`. -/
def findTemplateSidecar (template : Option (List Sidecar)) (name : String) : Option Sidecar :=
  template.bind (·.find? (·.name = name))

/-- `Sidecar.mergeWithTemplate`: `s` completed from the template entry `t`. The working
directory is the template's whether or not `s` sets one. Reference: `browser_config.go:435`. -/
def Sidecar.mergeWithTemplate (it : MapIter) (s t : Sidecar) : Sidecar :=
  { s with
    command := s.command.or t.command
    workingDir := t.workingDir
    env := mergeEnvPtr it t.env s.env
    ports := mergeContainerPortPtr t.ports s.ports
    volumeMounts := mergeVolumeMountPtr t.volumeMounts s.volumeMounts
    resources := s.resources.or t.resources }

/-- The loop `mergeWithSpec` runs after `mergeSidecarPtr`, when both the original override list
and the template list are set: an entry whose name one of the `original` entries carries is
merged with the first `template` entry of that name. Reference: `browser_config.go:211-223`,
`229-241`. -/
def completeFromTemplate (it : MapIter) (original template merged : Option (List Sidecar)) :
    Option (List Sidecar) :=
  match original, template with
  | some orig, some _ =>
    merged.map (·.map fun s =>
      if s.name ∈ orig.map (·.name) then
        match findTemplateSidecar template s.name with
        | some ts => s.mergeWithTemplate it ts
        | none => s
      else s)
  | _, _ => merged

/-! ## Versions and catalogs -/

/-- `BrowserVersionConfigSpec.mergeWithSpec`: the override `b` resolved against the template
`t`, field by field. Reference: `browser_config.go:186`. -/
def BrowserVersionConfigSpec.mergeWithSpec (it : MapIter) (b : BrowserVersionConfigSpec)
    (t : Template) : BrowserVersionConfigSpec :=
  { b with
    labels := mergeMapPtr t.labels b.labels
    annotations := mergeMapPtr t.annotations b.annotations
    env := mergeEnvPtr it t.env b.env
    resources := firstNonNilResource t.resources b.resources
    imagePullPolicy := if b.imagePullPolicy = "" then t.imagePullPolicy else b.imagePullPolicy
    volumes := mergeVolumePtr t.volumes b.volumes
    nodeSelector := mergeMapPtr t.nodeSelector b.nodeSelector
    affinity := b.affinity.or t.affinity
    tolerations := mergeTolerationPtr t.tolerations b.tolerations
    hostAliases := mergeHostAliasPtr t.hostAliases b.hostAliases
    volumeMounts := mergeVolumeMountsPtr b.volumeMounts t.volumeMounts
    sidecars :=
      completeFromTemplate it b.sidecars t.sidecars (mergeSidecarPtr t.sidecars b.sidecars)
    initContainers := completeFromTemplate it b.initContainers t.initContainers
      (mergeSidecarPtr b.initContainers t.initContainers)
    privileged := b.privileged.or t.privileged
    imagePullSecrets := mergeLocalObjectRefPtr t.imagePullSecrets b.imagePullSecrets
    dnsConfig := b.dnsConfig.or t.dnsConfig
    securityContext := b.securityContext.or t.securityContext
    workingDir := b.workingDir.or t.workingDir }

/-- The init containers of `mergeWithSpec` are merged with the template's list in the
override's place (`mergeSidecarPtr b.InitContainers t.Template.InitContainers`): at a name both
lists declare, the template's entry wins and is then completed from itself, so it keeps the
template's image and carries each template port twice. -/
theorem mergeWithSpec_initContainers_collision (it : MapIter) :
    (BrowserVersionConfigSpec.mergeWithSpec it
        { image := "chrome:120",
          initContainers := some [{ name := "init", image := "busybox:override" }] }
        { initContainers := some [{ name := "init", image := "busybox:template",
                                    ports := some [⟨"http", 8080, "TCP", 0⟩] }] }).initContainers =
      some [{ name := "init", image := "busybox:template",
              ports := some [⟨"http", 8080, "TCP", 0⟩, ⟨"http", 8080, "TCP", 0⟩] }] := by
  rfl

/-- What `MergeWithTemplate` makes of one (possibly nil) override of a catalog whose template is
`template`: nothing without a template, nothing for a nil override, else one `mergeWithSpec`. -/
def resolveOverride (it : MapIter) (template : Option Template)
    (cfg : Option BrowserVersionConfigSpec) : Option BrowserVersionConfigSpec :=
  match template with
  | none => cfg
  | some t => cfg.map (·.mergeWithSpec it t)

/-- `BrowserConfigSpec.MergeWithTemplate`: every override of the catalog resolved once against
its template; the map's keys and their order are kept. Reference: `browser_config.go:168`. -/
def BrowserConfigSpec.mergeWithTemplate (it : MapIter) (spec : BrowserConfigSpec) :
    BrowserConfigSpec :=
  match spec.template with
  | none => spec
  | some t =>
    { spec with browsers := mapValues (mapValues (Option.map (·.mergeWithSpec it t))) spec.browsers }

/-- Resolving without a template changes no override. -/
@[simp] theorem mapValues_resolveOverride_none (it : MapIter) (m : VersionMap) :
    mapValues (resolveOverride it none) m = m :=
  AList.ext (by simp [resolveOverride])

/-- Merging keeps the catalog's browsers and versions, each override resolved by
`resolveOverride`. -/
theorem browsers_mergeWithTemplate (it : MapIter) (spec : BrowserConfigSpec) :
    (spec.mergeWithTemplate it).browsers.entries =
      spec.browsers.entries.map fun e => ⟨e.1, mapValues (resolveOverride it spec.template) e.2⟩ := by
  unfold BrowserConfigSpec.mergeWithTemplate
  split
  · next h => simp [h]
  · next h => rw [h]; rfl

end BrowserController
