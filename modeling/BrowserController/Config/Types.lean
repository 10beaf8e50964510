import BrowserController.Kube.Core

/-!
# The `BrowserConfig` resource

`apis/browserconfig/v1/browser_config.go`: a `BrowserConfig` carries an optional `Template` and a
two-level map `browser name → version → BrowserVersionConfigSpec`. Every field of a template and
of a version override is a pointer, `nil` meaning "inherit", so each is an `Option` here; the
two image-pull policies are plain strings where `""` means unset.

`Browsers` is the one map of this resource that the code iterates with an order-dependent
effect (the store writes its keys in iteration order), so it is an `AList`: a Go map listed in
the order one `range` visits it. `ConfigStatus` is read by nothing and left out.
-/

namespace BrowserController

/-- `Sidecar`: an init or sidecar container of the catalog. Reference:
`apis/browserconfig/v1/browser_config.go:95`. -/
structure Sidecar where
  name : String
  image : String
  command : Option (List String) := none
  workingDir : Option String := none
  ports : Option (List ContainerPort) := none
  env : Option (List EnvVar) := none
  volumeMounts : Option (List VolumeMount) := none
  imagePullPolicy : String := ""
  resources : Option ResourceRequirements := none
deriving DecidableEq, Repr

/-- `Template`: the defaults every version inherits. Reference:
`apis/browserconfig/v1/browser_config.go:34`. -/
structure Template where
  labels : Option (GoMap String) := none
  annotations : Option (GoMap String) := none
  env : Option (List EnvVar) := none
  resources : Option ResourceRequirements := none
  imagePullPolicy : String := ""
  volumes : Option (List Volume) := none
  volumeMounts : Option (List VolumeMount) := none
  nodeSelector : Option (GoMap String) := none
  affinity : Option Affinity := none
  tolerations : Option (List Toleration) := none
  hostAliases : Option (List HostAlias) := none
  initContainers : Option (List Sidecar) := none
  sidecars : Option (List Sidecar) := none
  privileged : Option Bool := none
  imagePullSecrets : Option (List LocalObjectReference) := none
  dnsConfig : Option PodDNSConfig := none
  securityContext : Option PodSecurityContext := none
  workingDir : Option String := none

/-- `BrowserVersionConfigSpec`: a version's override, the template's fields and the browser
image. Reference: `apis/browserconfig/v1/browser_config.go:126`. -/
structure BrowserVersionConfigSpec extends Template where
  image : String

/-- A `map[string]*BrowserVersionConfigSpec` of one browser, version to (possibly nil) override,
in iteration order. -/
abbrev VersionMap := AList (fun _ : String => Option BrowserVersionConfigSpec)

/-- `BrowserConfigSpec.Browsers`, browser name to its versions, in iteration order. -/
abbrev BrowserMap := AList (fun _ : String => VersionMap)

/-- `BrowserConfigSpec`. Reference: `apis/browserconfig/v1/browser_config.go:20`. -/
structure BrowserConfigSpec where
  template : Option Template
  browsers : BrowserMap

/-- `BrowserConfig` with the metadata the store reads. Reference:
`apis/browserconfig/v1/browser_config.go:11`. -/
structure BrowserConfig where
  name : String
  /-- `Namespace`. -/
  ns : String
  spec : BrowserConfigSpec

/-- The values of an `AList`, mapped; the keys and their order are kept. -/
def mapValues {V W : Type} (f : V → W) (m : AList (fun _ : String => V)) :
    AList (fun _ : String => W) :=
  ⟨m.entries.map (fun e => ⟨e.1, f e.2⟩), by
    simpa [List.NodupKeys, List.keys, List.map_map, Function.comp_def] using m.nodupKeys⟩

@[simp] theorem mapValues_entries {V W : Type} (f : V → W) (m : AList (fun _ : String => V)) :
    (mapValues f m).entries = m.entries.map (fun e => ⟨e.1, f e.2⟩) := rfl

end BrowserController
