import BrowserController.Config.Merge

/-!
# What `mergeWithSpec` computes, field by field

The merge rules of `BrowserController.Config.Merge`, each stated once over all inputs, and the
laws of `BrowserVersionConfigSpec.mergeWithSpec` assembled from them:

* maps: the union, the override winning (`mergeMapPtr_merged`), as `MapMerged` says;
* environment lists: one variable per name, the override's last one winning, the template's
  last one otherwise (`mergeEnvPtr_merged`, `EnvMerged`), in an order the run chooses;
* other lists: the concatenation, `nil` when empty (`mergeListPtr_concat`, `ListConcat`);
* pointers and scalars: the override when set (`mergeWithSpec_fields` gathers the laws of every
  field that is not a container list).

`mergeWithSpec_lists` shows the one list argued the other way round: the volume mounts are the
override's followed by the template's. `mergeWithSpec_sidecars_completed` describes the sidecar
list: the override's entries in order, each completed from the template's first entry of its
name, and then the template's other entries. Completion keeps every field of the override's
entry that is set, except the working directory, which becomes the template's.
-/

namespace BrowserController

/-! ## The laws of the merge rules -/

/-- `r` is the union of the string maps `t` and `o` with `o` winning. It is absent exactly
when both are; otherwise it is defined on the keys of either, with `o`'s value where `o` has
one and `t`'s elsewhere. -/
def MapMerged (t o r : Option (GoMap String)) : Prop :=
  (r = none ↔ t = none ∧ o = none) ∧
    ∀ m ∈ r, ∀ k, m k = ((o.getD GoMap.empty) k).or ((t.getD GoMap.empty) k)

/-- `r` holds one variable per name that `t` or `o` declares. Each is the last of its name in
`o` if `o` declares that name, else the last of its name in `t`. `r` is absent exactly when
both are. -/
def EnvMerged (t o r : Option (List EnvVar)) : Prop :=
  (r = none ↔ t = none ∧ o = none) ∧
    ∀ l ∈ r, (l.map (·.name)).Nodup ∧
      (∀ n, n ∈ l.map (·.name) ↔ n ∈ (t.getD [] ++ o.getD []).map (·.name)) ∧
      ∀ v ∈ l, some v = (lastNamed (o.getD []) v.name).or (lastNamed (t.getD []) v.name)

/-- `r` is `t`'s list followed by `o`'s, absent exactly when that is empty. -/
def ListConcat {α : Type} (t o r : Option (List α)) : Prop :=
  r.getD [] = t.getD [] ++ o.getD [] ∧ (r = none ↔ t.getD [] ++ o.getD [] = [])

/-- `mergeMapPtr` merges as `MapMerged` says. -/
theorem mergeMapPtr_merged (t o : Option (GoMap String)) : MapMerged t o (mergeMapPtr t o) := by
  cases t <;> cases o <;> simp [MapMerged, mergeMapPtr]

/-- `mergeListPtr` concatenates as `ListConcat` says. -/
theorem mergeListPtr_concat {α : Type} (t o : Option (List α)) :
    ListConcat t o (mergeListPtr t o) := by
  unfold ListConcat mergeListPtr
  split <;> simp_all

/-! ### Environment lists -/

/-- The last variable of a name in a concatenation: the second part's, else the first's. -/
theorem lastNamed_append (l₁ l₂ : List EnvVar) (n : String) :
    lastNamed (l₁ ++ l₂) n = (lastNamed l₂ n).or (lastNamed l₁ n) := by
  simp only [lastNamed, List.reverse_append, List.find?_append]

/-- The variable found carries the name looked up. -/
theorem lastNamed_name {l : List EnvVar} {n : String} {v : EnvVar}
    (h : lastNamed l n = some v) : v.name = n := by
  simpa using List.find?_some h

/-- A name is found exactly when the list declares it. -/
theorem lastNamed_isSome {l : List EnvVar} {n : String} :
    (lastNamed l n).isSome ↔ n ∈ l.map (·.name) := by
  simp [lastNamed, List.find?_isSome]

/-- Reading back the names of an index: each name is found, and keeps its place. -/
theorem map_name_filterMap_lastNamed (all : List EnvVar) :
    ∀ {ks : List String}, (∀ n ∈ ks, n ∈ all.map (·.name)) →
      (ks.filterMap (lastNamed all)).map (·.name) = ks
  | [], _ => rfl
  | n :: ks, h => by
    obtain ⟨v, hv⟩ := Option.isSome_iff_exists.1 (lastNamed_isSome.2 (h n (List.mem_cons_self _ _)))
    rw [List.filterMap_cons, hv, List.map_cons, lastNamed_name hv,
      map_name_filterMap_lastNamed all fun m hm => h m (List.mem_cons_of_mem _ hm)]

/-- `mergeEnvPtr` merges as `EnvMerged` says, whatever order the iteration `it` takes. -/
theorem mergeEnvPtr_merged (it : MapIter) (t o : Option (List EnvVar)) :
    EnvMerged t o (mergeEnvPtr it t o) := by
  have hsome : ∀ l, (mergeEnvPtr it t o = some l) →
      l = (it.order ((t.getD [] ++ o.getD []).map (·.name)).dedup).filterMap
        (lastNamed (t.getD [] ++ o.getD [])) := by
    intro l h
    unfold mergeEnvPtr at h
    split at h
    · cases h
    · exact (Option.some.inj h).symm
  refine ⟨by unfold mergeEnvPtr; split <;> simp_all, fun l hl => ?_⟩
  obtain rfl := hsome l hl
  set all := t.getD [] ++ o.getD []
  have hperm := it.perm (all.map (·.name)).dedup
  have hnames : (((it.order (all.map (·.name)).dedup).filterMap (lastNamed all)).map (·.name)) =
      it.order (all.map (·.name)).dedup :=
    map_name_filterMap_lastNamed all fun n hn => List.mem_dedup.1 (hperm.subset hn)
  refine ⟨?_, fun n => ?_, fun v hv => ?_⟩
  · rw [hnames]; exact hperm.nodup_iff.2 (List.nodup_dedup _)
  · rw [hnames, hperm.mem_iff, List.mem_dedup]
  · obtain ⟨n, -, hn⟩ := List.mem_filterMap.1 hv
    rw [← lastNamed_append, ← hn, lastNamed_name hn]

/-! ## The fields of a resolved version -/

/-- Every field of a resolved version that is not a list of containers or of unkeyed entries:
the override's pointers and image-pull policy when set, the template's otherwise, the image
unchanged, the maps merged by `mergeMapPtr`, the environment by `mergeEnvPtr`. -/
theorem mergeWithSpec_fields (it : MapIter) (b : BrowserVersionConfigSpec) (t : Template) :
    (b.mergeWithSpec it t).resources = b.resources.or t.resources ∧
    (b.mergeWithSpec it t).affinity = b.affinity.or t.affinity ∧
    (b.mergeWithSpec it t).privileged = b.privileged.or t.privileged ∧
    (b.mergeWithSpec it t).dnsConfig = b.dnsConfig.or t.dnsConfig ∧
    (b.mergeWithSpec it t).securityContext = b.securityContext.or t.securityContext ∧
    (b.mergeWithSpec it t).workingDir = b.workingDir.or t.workingDir ∧
    (b.mergeWithSpec it t).imagePullPolicy =
      (if b.imagePullPolicy = "" then t.imagePullPolicy else b.imagePullPolicy) ∧
    (b.mergeWithSpec it t).image = b.image ∧
    MapMerged t.labels b.labels (b.mergeWithSpec it t).labels ∧
    MapMerged t.annotations b.annotations (b.mergeWithSpec it t).annotations ∧
    MapMerged t.nodeSelector b.nodeSelector (b.mergeWithSpec it t).nodeSelector ∧
    EnvMerged t.env b.env (b.mergeWithSpec it t).env :=
  ⟨rfl, rfl, rfl, rfl, rfl, rfl, rfl, rfl, mergeMapPtr_merged _ _, mergeMapPtr_merged _ _,
    mergeMapPtr_merged _ _, mergeEnvPtr_merged it _ _⟩

/-- The unkeyed lists of a resolved version: volumes, tolerations, host aliases and image-pull
secrets are the template's followed by the override's, but the volume mounts are the
override's followed by the template's (`mergeVolumeMountsPtr(b.VolumeMounts,
t.Template.VolumeMounts)`). -/
theorem mergeWithSpec_lists (it : MapIter) (b : BrowserVersionConfigSpec) (t : Template) :
    ListConcat t.volumes b.volumes (b.mergeWithSpec it t).volumes ∧
    ListConcat t.tolerations b.tolerations (b.mergeWithSpec it t).tolerations ∧
    ListConcat t.hostAliases b.hostAliases (b.mergeWithSpec it t).hostAliases ∧
    ListConcat t.imagePullSecrets b.imagePullSecrets (b.mergeWithSpec it t).imagePullSecrets ∧
    ListConcat b.volumeMounts t.volumeMounts (b.mergeWithSpec it t).volumeMounts :=
  ⟨mergeListPtr_concat _ _, mergeListPtr_concat _ _, mergeListPtr_concat _ _,
    mergeListPtr_concat _ _, mergeListPtr_concat _ _⟩

example : (BrowserVersionConfigSpec.mergeWithSpec .insertion
      { image := "chrome:120", volumeMounts := some [⟨"dshm", "/dev/shm"⟩] }
      { volumeMounts := some [⟨"tmp", "/tmp"⟩] }).volumeMounts =
    some [⟨"dshm", "/dev/shm"⟩, ⟨"tmp", "/tmp"⟩] := rfl

/-! ## Sidecars -/

/-- A sidecar of the override completed from the template list `T`: merged with the first entry
of its name, when there is one. -/
def completeSidecar (it : MapIter) (T : List Sidecar) (s : Sidecar) : Sidecar :=
  match T.find? (·.name = s.name) with
  | some ts => s.mergeWithTemplate it ts
  | none => s

@[simp] theorem completeSidecar_nil (it : MapIter) : completeSidecar it [] = id := rfl

/-- The sidecars of a resolved version: the override's, each completed from the template's
first entry of its name, then the template's entries whose names the override does not
declare. -/
theorem mergeWithSpec_sidecars (it : MapIter) (b : BrowserVersionConfigSpec) (t : Template) :
    (b.mergeWithSpec it t).sidecars.getD [] =
      (b.sidecars.getD []).map (completeSidecar it (t.sidecars.getD [])) ++
        (t.sidecars.getD []).filter (fun s => s.name ∉ (b.sidecars.getD []).map (·.name)) := by
  simp only [BrowserVersionConfigSpec.mergeWithSpec]
  cases b.sidecars with
  | none => cases t.sidecars <;> simp [completeFromTemplate, mergeSidecarPtr]
  | some O =>
    cases t.sidecars with
    | none => simp [completeFromTemplate, mergeSidecarPtr, completeSidecar_nil]
    | some T =>
      simp only [completeFromTemplate, mergeSidecarPtr, Option.map_some', Option.getD_some, List.map_append]
      congr 1
      · refine List.map_congr_left fun s hs => ?_
        simp only [List.mem_map_of_mem _ hs, if_true, findTemplateSidecar, Option.bind_some, completeSidecar]
        rfl
      · refine (List.map_congr_left fun s hs => ?_).trans (List.map_id _)
        simp only [List.mem_filter, decide_eq_true_eq] at hs
        simp [hs.2]

/-- The sidecars of a resolved version, entry by entry. The template's entries whose names the
override does not declare follow the override's, unchanged, in the template's order. An override
entry whose name the template does not declare is kept as it is. One whose name it declares is
completed from the template's first entry `ts` of that name:
* its name, image and image-pull policy stay its own;
* its command and resources stay its own when set, else they are `ts`'s;
* its environment, ports and volume mounts are merged with `ts`'s, `ts`'s first;
* its working directory becomes `ts`'s, whether or not it set one
  (`s.WorkingDir = t.WorkingDir` in `Sidecar.mergeWithTemplate`). -/
theorem mergeWithSpec_sidecars_completed (it : MapIter) (b : BrowserVersionConfigSpec)
    (t : Template) :
    ((b.mergeWithSpec it t).sidecars.getD []).drop (b.sidecars.getD []).length =
        (t.sidecars.getD []).filter (fun s => s.name ∉ (b.sidecars.getD []).map (·.name)) ∧
    ∀ (i : Nat) (s : Sidecar), (b.sidecars.getD [])[i]? = some s →
      match (t.sidecars.getD []).find? (·.name = s.name) with
      | none => ((b.mergeWithSpec it t).sidecars.getD [])[i]? = some s
      | some ts => ∃ c : Sidecar, ((b.mergeWithSpec it t).sidecars.getD [])[i]? = some c ∧
          c.name = s.name ∧ c.image = s.image ∧ c.imagePullPolicy = s.imagePullPolicy ∧
          c.command = s.command.or ts.command ∧ c.resources = s.resources.or ts.resources ∧
          c.workingDir = ts.workingDir ∧ EnvMerged ts.env s.env c.env ∧
          ListConcat ts.ports s.ports c.ports ∧
          ListConcat ts.volumeMounts s.volumeMounts c.volumeMounts := by
  rw [mergeWithSpec_sidecars]
  refine ⟨List.drop_left' (List.length_map _ _), fun i s hs => ?_⟩
  have hi : i < ((b.sidecars.getD []).map (completeSidecar it (t.sidecars.getD []))).length := by
    simpa using (List.getElem?_eq_some_iff.1 hs).1
  rw [List.getElem?_append_left hi, List.getElem?_map, hs, Option.map_some', completeSidecar]
  cases (t.sidecars.getD []).find? (·.name = s.name) with
  | none => rfl
  | some ts => exact ⟨_, rfl, rfl, rfl, rfl, rfl, rfl, rfl, mergeEnvPtr_merged it _ _,
      mergeListPtr_concat _ _, mergeListPtr_concat _ _⟩

example : ((BrowserVersionConfigSpec.mergeWithSpec .insertion
      { image := "chrome:120", sidecars := some [{ name := "rec", image := "rec:2",
                                                   workingDir := some "/video" }] }
      { sidecars := some [{ name := "rec", image := "rec:1", workingDir := some "/tmp" }] }).sidecars.map
      (·.map (·.workingDir))) = some [some "/tmp"] := rfl

end BrowserController
