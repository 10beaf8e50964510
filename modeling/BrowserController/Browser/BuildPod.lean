import BrowserController.Browser.Pod
import BrowserController.Config.Merge

/-!
# The pod `buildBrowserPod` builds

`mergeEnvVars` (`controllers/browser`) grows a list of variables beside a name index, which maps
each name to the position of its last variable (`nameIndex`). Each option variable either
replaces the variable at its name's position or is appended, and then the index records it.
The specification is `overlayEnv`:

* the last variable of each option name takes the option's value in place;
* the options whose names the list lacks are appended in the order they are visited;
* nothing else changes.

One step of the loop is one of `overlayEnv_append_of_index` and `overlayEnv_append_of_not_mem`.
`foldl_mergeEnvVars` runs the steps over the whole override and gives
`mergeEnvVars_eq_overlayEnv`. Over it, `applySelenosisOptions_eq` says what the options do to a
pod.

The pod then follows in whole:

* its labels, annotations and variables (`buildBrowserPod_overlays`);
* its working directories (`buildBrowserPod_workingDirs`), where the top-level directory wins
  over an init container's own and never reaches a sidecar;
* the order of its variables, which the catalog merge's map iteration decides
  (`buildBrowserPod_env_order_varies`);
* its container names: the catalog merge keeps one entry of each name (`mergeSidecarPtr`), and
  completing an entry from the template keeps its name, so the pod repeats no name, init
  containers included, when the catalog keeps its names apart (`buildBrowserPod_names_nodup`).
-/

namespace BrowserController

/-! ## The name index -/


/-- The index `mergeEnvVars` builds over a list of names: each name to the position of its last
occurrence. -/
def nameIndex (ns : List String) : GoMap Nat := ns.enum.foldl (fun m e => m.set e.2 e.1) GoMap.empty

@[simp] theorem nameIndex_nil : nameIndex [] = GoMap.empty := rfl

/-- Indexing one more name records its position. -/
theorem nameIndex_append_singleton (ns : List String) (n : String) :
    nameIndex (ns ++ [n]) = (nameIndex ns).set n ns.length := by
  simp [nameIndex, List.enum_append, List.foldl_append]

/-- The index of a concatenation: the second part's positions, shifted, over the first's. -/
theorem nameIndex_append (ns ms : List String) (n : String) :
    nameIndex (ns ++ ms) n = ((nameIndex ms n).map (· + ns.length)).or (nameIndex ns n) := by
  induction ms using List.reverseRecOn with
  | nil => simp
  | append_singleton ms m ih =>
    rw [← List.append_assoc, nameIndex_append_singleton, nameIndex_append_singleton]
    by_cases h : n = m
    · simp [h, Nat.add_comm]
    · simp [h, ih]

/-- The index keeps the last position of each name. -/
theorem nameIndex_eq_some {ns : List String} {n : String} {p : Nat} :
    nameIndex ns n = some p ↔ ns[p]? = some n ∧ n ∉ ns.drop (p + 1) := by
  induction ns using List.reverseRecOn generalizing p with
  | nil => simp
  | append_singleton ns m ih =>
    rw [nameIndex_append_singleton, GoMap.set_apply]
    rcases Nat.lt_or_ge p ns.length with hp | hp
    · -- a position of `ns`: the appended `m` comes later, so it must not be `n`
      rw [List.getElem?_append_left hp, List.drop_append_of_le_length hp]
      by_cases h : n = m
      · simp [h, hp.ne']
      · simp [h, ih]
    · -- the appended position: `p` is it exactly when `n` is `m`
      rw [List.getElem?_append_right hp]
      have hnone : ns[p]? = none := List.getElem?_eq_none hp
      rcases hp.eq_or_lt with rfl | hp
      · by_cases h : n = m
        · simp [h]
        · simp [h, Ne.symm h, ih, hnone]
      · have hfar : [m][p - ns.length]? = none := List.getElem?_eq_none (by simp; omega)
        by_cases h : n = m <;> simp [h, ih, hnone, hfar, hp.ne]

/-- Exactly the names of the list are indexed. -/
theorem nameIndex_eq_none {ns : List String} {n : String} : nameIndex ns n = none ↔ n ∉ ns := by
  induction ns using List.reverseRecOn with
  | nil => simp
  | append_singleton ns m ih =>
    rw [nameIndex_append_singleton, GoMap.set_apply]
    by_cases h : n = m <;> simp [h, ih]

/-- An indexed position lies inside the list. -/
theorem lt_length_of_nameIndex {ns : List String} {n : String} {p : Nat}
    (h : nameIndex ns n = some p) : p < ns.length :=
  (List.getElem?_eq_some_iff.1 (nameIndex_eq_some.1 h).1).1

/-- Every name of the list is indexed. -/
theorem exists_nameIndex_of_mem {ns : List String} {n : String} (h : n ∈ ns) :
    ∃ p, nameIndex ns n = some p :=
  Option.ne_none_iff_exists'.1 (mt nameIndex_eq_none.1 (not_not.2 h))

/-! ## The overlay -/

/-- The option variables `ov` applied to `base` as the options protocol describes: the last
variable of each option's name takes the option's value in place, the options whose names
`base` lacks are appended in the order they are visited, and nothing else changes. -/
def overlayEnv (base : List EnvVar) (ov : List (Σ _ : String, String)) : List EnvVar :=
  base.mapIdx (fun i e =>
    match ov.dlookup e.name with
    | some v => if e.name ∈ (base.drop (i + 1)).map (·.name) then e else ⟨e.name, v⟩
    | none => e) ++
  (ov.filter (·.1 ∉ base.map (·.name))).map (fun kv => ⟨kv.1, kv.2⟩)

/-- No options leave the list as it is. -/
@[simp] theorem overlayEnv_nil (base : List EnvVar) : overlayEnv base [] = base := by
  refine List.ext_getElem? fun i => ?_
  simp [overlayEnv, List.getElem?_mapIdx]

/-- The overlay keeps the names of `base` in place and appends the new ones. -/
theorem map_name_overlayEnv (base : List EnvVar) (ov : List (Σ _ : String, String)) :
    (overlayEnv base ov).map (·.name) =
      base.map (·.name) ++ (ov.filter (·.1 ∉ base.map (·.name))).map (·.1) := by
  simp only [overlayEnv, List.map_append, List.map_map]
  congr 1
  refine List.ext_getElem? fun i => ?_
  simp only [List.getElem?_map, List.getElem?_mapIdx, Option.map_map]
  cases base[i]? with
  | none => rfl
  | some e => simp only [Option.map_some', Function.comp_apply]; split <;> (try split) <;> rfl

/-- The variable `overlayEnv` leaves at a position of `base`. -/
theorem getElem?_overlayEnv_of_lt {base : List EnvVar} {i : Nat} (hi : i < base.length)
    (ov : List (Σ _ : String, String)) :
    (overlayEnv base ov)[i]? = some (match ov.dlookup base[i].name with
      | some v => if base[i].name ∈ (base.drop (i + 1)).map (·.name) then base[i]
                  else ⟨base[i].name, v⟩
      | none => base[i]) := by
  rw [overlayEnv, List.getElem?_append_left (by simpa using hi), List.getElem?_mapIdx,
    List.getElem?_eq_getElem hi, Option.map_some']

/-- Past `base`, `overlayEnv` holds the appended options. -/
theorem getElem?_overlayEnv_of_ge {base : List EnvVar} {i : Nat} (hi : base.length ≤ i)
    (ov : List (Σ _ : String, String)) :
    (overlayEnv base ov)[i]? =
      ((ov.filter (·.1 ∉ base.map (·.name))).map (fun kv => (⟨kv.1, kv.2⟩ : EnvVar)))[i - base.length]? := by
  rw [overlayEnv, List.getElem?_append_right (by simpa using hi), List.length_mapIdx]

/-- An option whose name `base` carries is not appended. -/
theorem filter_singleton_of_mem_names {base : List EnvVar} {kv : Σ _ : String, String}
    (hmem : kv.1 ∈ base.map (·.name)) : ([kv].filter fun kv' => kv'.1 ∉ base.map (·.name)) = [] := by
  simp only [List.filter_singleton, hmem, not_true_eq_false, decide_False, cond_false]

/-- An option whose name `base` carries, last at position `p`, replaces that variable. -/
theorem overlayEnv_append_of_index {base : List EnvVar} {done : List (Σ _ : String, String)}
    {kv : Σ _ : String, String} (hk : kv.1 ∉ done.keys) {p : Nat}
    (hp : nameIndex (base.map (·.name)) kv.1 = some p) :
    overlayEnv base (done ++ [kv]) = (overlayEnv base done).set p ⟨kv.1, kv.2⟩ := by
  obtain ⟨hpn, hlast⟩ := nameIndex_eq_some.1 hp
  have hmem : kv.1 ∈ base.map (·.name) := List.getElem?_mem hpn
  have hp' : p < base.length := by simpa using lt_length_of_nameIndex hp
  refine List.ext_getElem? fun i => ?_
  rw [List.getElem?_set]
  rcases Nat.lt_or_ge i base.length with hi | hi
  · rw [getElem?_overlayEnv_of_lt hi, getElem?_overlayEnv_of_lt hi, List.dlookup_append]
    by_cases hn : base[i].name = kv.1
    · have hnone : done.dlookup base[i].name = none := List.dlookup_eq_none.2 (hn ▸ hk)
      rw [hnone, Option.none_or, hn, List.dlookup_cons_eq]
      by_cases hpi : p = i
      · subst hpi
        simp [hlast, show p < (overlayEnv base done).length by simp [overlayEnv]; omega]
      · have hlater : kv.1 ∈ (base.map (·.name)).drop (i + 1) := by
          by_contra h
          refine hpi (Option.some.inj (hp.symm.trans (nameIndex_eq_some.2 ⟨?_, h⟩)))
          simp [List.getElem?_eq_getElem hi, hn]
        simp [hpi, hlater]
    · have hpi : p ≠ i := by
        rintro rfl
        simp [List.getElem?_eq_getElem hp'] at hpn
        exact hn hpn
      simp only [hpi, if_false, List.dlookup_cons_ne _ _ hn, List.dlookup_nil, Option.or_none]
  · have hpi : p ≠ i := by omega
    rw [if_neg hpi, getElem?_overlayEnv_of_ge hi, getElem?_overlayEnv_of_ge hi,
      List.filter_append, filter_singleton_of_mem_names hmem, List.append_nil]

/-- An option whose name `base` lacks is appended. -/
theorem overlayEnv_append_of_not_mem {base : List EnvVar} {done : List (Σ _ : String, String)}
    {kv : Σ _ : String, String} (hk : kv.1 ∉ base.map (·.name)) :
    overlayEnv base (done ++ [kv]) = overlayEnv base done ++ [⟨kv.1, kv.2⟩] := by
  have hkeep : ([kv].filter fun kv' => kv'.1 ∉ base.map (·.name)) = [kv] := by
    simp only [List.filter_singleton, hk, not_false_eq_true, decide_True, cond_true]
  simp only [overlayEnv, List.filter_append, hkeep, List.map_append, ← List.append_assoc]
  congr 2
  refine List.ext_getElem? fun i => ?_
  simp only [List.getElem?_mapIdx]
  cases h : base[i]? with
  | none => rfl
  | some e =>
    have hne : e.name ≠ kv.1 := fun he => hk (he ▸ List.mem_map_of_mem _ (List.getElem?_mem h))
    simp [List.dlookup_append, List.dlookup_cons_ne _ _ hne]

/-! ## The loop of `mergeEnvVars` -/

/-- Options whose names are new to the list leave the index of the base names as it was. -/
theorem nameIndex_overlayEnv {base : List EnvVar} {done : List (Σ _ : String, String)} {k : String}
    (hk : k ∉ done.keys) :
    nameIndex ((overlayEnv base done).map (·.name)) k = nameIndex (base.map (·.name)) k := by
  have hnew : k ∉ (done.filter (·.1 ∉ base.map (·.name))).map (·.1) :=
    fun h => hk (List.map_subset _ (List.filter_sublist done).subset h)
  rw [map_name_overlayEnv, nameIndex_append, nameIndex_eq_none.2 hnew, Option.map_none',
    Option.none_or]

/-- The name index `mergeEnvVars` builds is `nameIndex` of the names. -/
theorem enum_foldl_set_eq_nameIndex (base : List EnvVar) :
    base.enum.foldl (fun m e => m.set e.2.name e.1) GoMap.empty = nameIndex (base.map (·.name)) := by
  simp [nameIndex, List.enum_map, List.foldl_map]

/-- The loop of `mergeEnvVars` over distinct names keeps the list equal to `overlayEnv` of the
names seen so far, and the index equal to that list's name index. -/
theorem foldl_mergeEnvVars (base : List EnvVar) (ov : List (Σ _ : String, String))
    (hov : ov.NodupKeys) :
    ov.foldl (fun (acc : List EnvVar × GoMap Nat) kv =>
      match acc.2 kv.1 with
      | some pos => (acc.1.set pos ⟨kv.1, kv.2⟩, acc.2)
      | none => (acc.1 ++ [⟨kv.1, kv.2⟩], acc.2.set kv.1 acc.1.length))
      (base, nameIndex (base.map (·.name))) =
    (overlayEnv base ov, nameIndex ((overlayEnv base ov).map (·.name))) := by
  induction ov using List.reverseRecOn with
  | nil => simp
  | append_singleton done kv ih =>
    have hkeys : done.NodupKeys ∧ kv.1 ∉ done.keys := by
      simpa [List.NodupKeys, List.keys, List.nodup_append] using hov
    rw [List.foldl_append, ih hkeys.1, List.foldl_cons, List.foldl_nil]
    dsimp only
    rw [nameIndex_overlayEnv hkeys.2]
    cases hp : nameIndex (base.map (·.name)) kv.1 with
    | some p =>
      have hmem : kv.1 ∈ base.map (·.name) := List.getElem?_mem (nameIndex_eq_some.1 hp).1
      rw [map_name_overlayEnv base (done ++ [kv]), List.filter_append, filter_singleton_of_mem_names hmem,
        List.append_nil, ← map_name_overlayEnv, overlayEnv_append_of_index hkeys.2 hp]
    | none =>
      simp only [overlayEnv_append_of_not_mem (nameIndex_eq_none.1 hp), List.map_append,
        List.map_cons, List.map_nil, nameIndex_append_singleton, List.length_map]

/-- `mergeEnvVars` is `overlayEnv` of the override's entries, in the order they are visited. -/
theorem mergeEnvVars_eq_overlayEnv (base : List EnvVar) (override : AList (fun _ : String => String)) :
    mergeEnvVars base override = overlayEnv base override.entries := by
  unfold mergeEnvVars
  split
  · next h => rw [List.isEmpty_iff.1 h, overlayEnv_nil]
  · rw [enum_foldl_set_eq_nameIndex]
    exact congrArg Prod.fst (foldl_mergeEnvVars base _ override.nodupKeys)

/-- The last variable of a name is the one at the name's index. -/
theorem lastNamed_eq_bind_nameIndex (l : List EnvVar) (n : String) :
    lastNamed l n = (nameIndex (l.map (·.name)) n).bind (l[·]?) := by
  induction l using List.reverseRecOn with
  | nil => rfl
  | append_singleton l e ih =>
    rw [List.map_append, List.map_singleton, nameIndex_append_singleton, GoMap.set_apply]
    by_cases hn : n = e.name
    · simp [lastNamed, hn]
    · have hlast : lastNamed (l ++ [e]) n = lastNamed l n := by simp [lastNamed, Ne.symm hn]
      rw [hlast, ih, if_neg hn]
      cases hp : nameIndex (l.map (·.name)) n with
      | none => rfl
      | some p =>
        have hpl : p < l.length := by simpa using lt_length_of_nameIndex hp
        simp [List.getElem?_append_left hpl]

/-- After the overlay, the last variable named by an option carries the option's value. -/
theorem lastNamed_overlayEnv (base : List EnvVar) {ov : List (Σ _ : String, String)}
    (hov : ov.NodupKeys) {kv : Σ _ : String, String} (hkv : kv ∈ ov) :
    lastNamed (overlayEnv base ov) kv.1 = some ⟨kv.1, kv.2⟩ := by
  have hlook : ov.dlookup kv.1 = some kv.2 := (List.mem_dlookup_iff hov).2 hkv
  rw [lastNamed_eq_bind_nameIndex, map_name_overlayEnv, nameIndex_append]
  by_cases hb : kv.1 ∈ base.map (·.name)
  · -- the base carries the name: its last variable of that name took the value
    have hnew : kv.1 ∉ (ov.filter (·.1 ∉ base.map (·.name))).map (·.1) := fun h => by
      obtain ⟨x, hx, hx1⟩ := List.mem_map.1 h
      exact of_decide_eq_true (List.mem_filter.1 hx).2 (hx1 ▸ hb)
    obtain ⟨p, hp⟩ := exists_nameIndex_of_mem hb
    obtain ⟨hpn, hlast⟩ := nameIndex_eq_some.1 hp
    have hp' : p < base.length := by simpa using lt_length_of_nameIndex hp
    have hname : base[p].name = kv.1 := by simpa [List.getElem?_eq_getElem hp'] using hpn
    rw [nameIndex_eq_none.2 hnew, Option.map_none', Option.none_or, hp, Option.some_bind,
      getElem?_overlayEnv_of_lt hp', hname, hlook]
    simp [hlast]
  · -- the name is new: the appended variable
    have hmem : kv ∈ ov.filter (·.1 ∉ base.map (·.name)) := List.mem_filter.2 ⟨hkv, decide_eq_true hb⟩
    obtain ⟨q, hq⟩ := exists_nameIndex_of_mem (List.mem_map_of_mem (·.1) hmem)
    obtain ⟨x, hx, hx1⟩ := Option.map_eq_some'.1 (List.getElem?_map .. ▸ (nameIndex_eq_some.1 hq).1)
    have hx2 : x.2 = kv.2 := by
      have h := (List.mem_dlookup_iff hov).2 (List.mem_filter.1 (List.getElem?_mem hx)).1
      rw [hx1, hlook] at h
      exact (Option.mem_some_iff.1 h).symm
    rw [nameIndex_eq_none.2 hb, Option.or_none, hq, Option.map_some', Option.some_bind,
      getElem?_overlayEnv_of_ge (by simp), List.length_map, Nat.add_sub_cancel, List.getElem?_map, hx]
    simp [← hx1, hx2]

/-! ## The options -/

/-- The variables the options give the container named `name`: its option's `env` entries, none
without options or without an option for that name. -/
def optionEnv : Option SelenosisOptions → String → List (Σ _ : String, String)
  | none, _ => []
  | some opts, name => ((opts.containers.lookup name).map (·.env.entries)).getD []

/-- The options give a container each name at most once. -/
theorem nodupKeys_optionEnv (opts : Option SelenosisOptions) (name : String) :
    (optionEnv opts name).NodupKeys := by
  cases opts with
  | none => exact List.nodupKeys_nil
  | some opts =>
    cases h : opts.containers.lookup name with
    | none => simp [optionEnv, h, List.nodupKeys_nil]
    | some option => simpa [optionEnv, h] using option.env.nodupKeys

/-- One container after the options: its variables overlaid with those its option gives. -/
theorem applyTo_eq (opts : SelenosisOptions) (c : Container) :
    ContainerOption.applyTo opts c = { c with env := overlayEnv c.env (optionEnv (some opts) c.name) } := by
  unfold ContainerOption.applyTo
  cases h : opts.containers.lookup c.name with
  | none => simp [optionEnv, h]
  | some option =>
    simp only [optionEnv, h, Option.map_some', Option.getD_some]
    split
    · next he => rw [List.isEmpty_iff.1 he, overlayEnv_nil]
    · rw [mergeEnvVars_eq_overlayEnv]

/-- `applySelenosisOptions` overlays every container's variables with the ones its option gives
and copies the option labels over the pod's; nothing else of the pod changes. -/
theorem applySelenosisOptions_eq (pod : Pod) (opts : Option SelenosisOptions) :
    applySelenosisOptions pod opts =
      { pod with
        spec := { pod.spec with
          containers := pod.spec.containers.map fun c =>
            { c with env := overlayEnv c.env (optionEnv opts c.name) } },
        labels := pod.labels.copyInto ((opts.map (·.labels)).getD GoMap.empty) } := by
  cases opts with
  | none => simp [applySelenosisOptions, optionEnv]
  | some opts =>
    simp only [applySelenosisOptions, Option.map_some', Option.getD_some]
    split
    · next he =>
      have hnone : ∀ c : Container, optionEnv (some opts) c.name = [] := fun c => by
        simp [optionEnv, AList.lookup, List.isEmpty_iff.1 he]
      simp [hnone]
    · simp [applyTo_eq]

/-! ## The pod -/

/-- The containers `buildBrowserPod` builds before the options: the browser container, then the
catalog's sidecars in order. -/
def baseContainers (cfg : BrowserVersionConfigSpec) : List Container :=
  browserContainerOf cfg :: (cfg.sidecars.getD []).map sidecarContainerOf

/-- What `buildBrowserPod` makes of the labels, the annotations and the containers' variables:
the Browser's labels under the configuration's under the options'; the Browser's annotations
without the options key under the configuration's; every container's variables overlaid with
the ones its option gives (`overlayEnv`), so that the last variable of each option name carries
the option's value; the init containers untouched by the options. -/
theorem buildBrowserPod_overlays (browser : Browser) (cfg : BrowserVersionConfigSpec)
    (opts : Option SelenosisOptions) :
    let pod := buildBrowserPod browser cfg opts
    (∀ k, pod.labels k = ((opts.map (·.labels)).getD GoMap.empty k).or
      ((cfg.labels.getD GoMap.empty k).or (browser.labels k))) ∧
    (∀ k, pod.annotations k = (cfg.annotations.getD GoMap.empty k).or
      (if k = selenosisOptionsAnnotationKey then none else browser.annotations k)) ∧
    pod.spec.containers = (baseContainers cfg).map
      (fun c => { c with env := overlayEnv c.env (optionEnv opts c.name) }) ∧
    (∀ c ∈ baseContainers cfg, ∀ kv ∈ optionEnv opts c.name,
      lastNamed (overlayEnv c.env (optionEnv opts c.name)) kv.1 = some ⟨kv.1, kv.2⟩) ∧
    pod.spec.initContainers = (cfg.initContainers.getD []).map (initContainerOf cfg) := by
  refine ⟨fun k => ?_, fun k => ?_, ?_,
    fun c _ kv hkv => lastNamed_overlayEnv _ (nodupKeys_optionEnv _ _) hkv, ?_⟩ <;>
    simp [buildBrowserPod, applySelenosisOptions_eq, baseContainers]

/-- The working directories of the pod: an init container takes the top-level one when that is
set and its own otherwise, a sidecar only ever its own, the browser container the top-level
one. The options change no working directory. -/
theorem buildBrowserPod_workingDirs (browser : Browser) (cfg : BrowserVersionConfigSpec)
    (opts : Option SelenosisOptions) :
    let pod := buildBrowserPod browser cfg opts
    pod.spec.initContainers.map (·.workingDir) =
        (cfg.initContainers.getD []).map (fun ic => (cfg.workingDir.or ic.workingDir).getD "") ∧
      pod.spec.containers.map (·.workingDir) =
        cfg.workingDir.getD "" :: (cfg.sidecars.getD []).map (·.workingDir.getD "") := by
  simp [buildBrowserPod, applySelenosisOptions_eq, sidecarContainerOf]

/-- A configuration with a top-level working directory, an init container with its own, and a
sidecar without one. -/
def workingDirConfig : BrowserVersionConfigSpec :=
  { image := "chrome:120", workingDir := some "/top",
    initContainers := some [{ name := "init", image := "busybox", workingDir := some "/own" }],
    sidecars := some [{ name := "recorder", image := "recorder" }] }

/-- On `workingDirConfig` the init container runs in `/top`, not in its own `/own`, and the
sidecar in `""`, not in `/top`. -/
example :
    let pod := buildBrowserPod { name := "b1", ns := "ns", spec := ⟨"chrome", "120"⟩ }
      workingDirConfig none
    pod.spec.initContainers.map (·.workingDir) = ["/top"] ∧
      pod.spec.containers.map (·.workingDir) = ["/top", ""] := by
  decide

/-! ## The order of the variables -/

/-- A catalog whose template sets two variables and whose one version overrides nothing. -/
def twoVarCatalog : BrowserConfigSpec :=
  { template := some { env := some [⟨"A", "1"⟩, ⟨"B", "2"⟩] },
    browsers := AList.singleton "chrome" (AList.singleton "120" (some { image := "chrome:120" })) }

/-- The containers' variables in the pod: each base container's, overlaid with its option's. -/
theorem map_env_buildBrowserPod (browser : Browser) (cfg : BrowserVersionConfigSpec)
    (opts : Option SelenosisOptions) :
    (buildBrowserPod browser cfg opts).spec.containers.map (·.env) =
      (baseContainers cfg).map fun c => overlayEnv c.env (optionEnv opts c.name) := by
  simp [buildBrowserPod, applySelenosisOptions_eq, baseContainers]

/-- The containers' variables after `MergeWithTemplate` and `buildBrowserPod` follow the order
the merge's map iteration takes: two runs on `twoVarCatalog`, one visiting the template's names
in insertion order and one in reverse, give the browser container's variables in opposite
orders, whatever the Browser and the options. -/
theorem buildBrowserPod_env_order_varies (browser : Browser) (opts : Option SelenosisOptions) :
    let envs (it : MapIter) :=
      (((twoVarCatalog.mergeWithTemplate it).browsers.lookup "chrome").bind (·.lookup "120")).join.map
        fun cfg => (buildBrowserPod browser cfg opts).spec.containers.map (·.env)
    envs MapIter.insertion ≠ envs MapIter.reversed := by
  intro envs
  have hins : envs MapIter.insertion =
      some [overlayEnv [⟨"A", "1"⟩, ⟨"B", "2"⟩] (optionEnv opts browserContainerName)] := by
    simp only [envs, map_env_buildBrowserPod]; rfl
  have hrev : envs MapIter.reversed =
      some [overlayEnv [⟨"B", "2"⟩, ⟨"A", "1"⟩] (optionEnv opts browserContainerName)] := by
    simp only [envs, map_env_buildBrowserPod]; rfl
  rw [hins, hrev]
  intro h
  have hnames := congrArg (Option.map fun l => l.map fun e => (e.map (·.name)).take 2) h
  simp [map_name_overlayEnv] at hnames


/-! ## Container names -/

/-- The names of a (possibly nil) list of sidecars or init containers. -/
def sidecarNames (l : Option (List Sidecar)) : List String := (l.getD []).map (·.name)

/-- The names `mergeSidecarPtr` leaves: the override's, then the template's that the override
does not declare. -/
theorem sidecarNames_mergeSidecarPtr (t o : Option (List Sidecar)) :
    sidecarNames (mergeSidecarPtr t o) =
      sidecarNames o ++ (sidecarNames t).filter (· ∉ sidecarNames o) := by
  cases t <;> cases o <;>
    simp only [sidecarNames, mergeSidecarPtr, Option.getD_some, Option.getD_none, List.map_nil,
      List.map_append, List.filter_nil, List.append_nil, List.nil_append, List.filter_map,
      Function.comp_def, List.not_mem_nil, not_false_eq_true, decide_True, List.filter_true]

/-- Completing entries from the template keeps their names. -/
theorem sidecarNames_completeFromTemplate (it : MapIter)
    (orig tmpl merged : Option (List Sidecar)) :
    sidecarNames (completeFromTemplate it orig tmpl merged) = sidecarNames merged := by
  unfold completeFromTemplate
  split
  · cases merged with
    | none => rfl
    | some l =>
      simp only [sidecarNames, Option.map_some', Option.getD_some, List.map_map]
      refine List.map_congr_left fun s _ => ?_
      simp only [Function.comp_apply]
      split_ifs
      · split <;> rfl
      · rfl
  · rfl

/-- A list of names without repeats, followed by the names of another such list that it lacks,
repeats no name. -/
theorem nodup_append_filter_not_mem {a b : List String} (ha : a.Nodup) (hb : b.Nodup) :
    (a ++ b.filter (· ∉ a)).Nodup :=
  List.nodup_append.2 ⟨ha, hb.filter _, fun x hx hx' => by simp_all⟩

/-- A name of that joined list is a name of one of the two lists. -/
theorem mem_append_filter {a b : List String} {x : String} (h : x ∈ a ++ b.filter (· ∉ a)) :
    x ∈ a ∨ x ∈ b := by
  simp only [List.mem_append, List.mem_filter] at h
  exact h.imp_right (·.1)

/-- The names of the pod's containers: the configuration's init containers', and the browser
container's followed by the sidecars'. The options rename nothing. -/
theorem buildBrowserPod_names (browser : Browser) (cfg : BrowserVersionConfigSpec)
    (opts : Option SelenosisOptions) :
    (buildBrowserPod browser cfg opts).spec.initContainers.map (·.name) =
        sidecarNames cfg.initContainers ∧
      (buildBrowserPod browser cfg opts).spec.containers.map (·.name) =
        browserContainerName :: sidecarNames cfg.sidecars := by
  simp [buildBrowserPod, applySelenosisOptions_eq, initContainerOf, sidecarContainerOf,
    sidecarNames, Function.comp_def]

/-- A version override and its template keep their container names apart: no list of sidecars
or init containers names two entries alike, no sidecar is named like an init container, and
none of them like the browser container. An override entry may share its name with the
template entry it completes. -/
structure DistinctNames (b : BrowserVersionConfigSpec) (t : Template) : Prop where
  sidecars : (sidecarNames b.sidecars).Nodup
  templateSidecars : (sidecarNames t.sidecars).Nodup
  initContainers : (sidecarNames b.initContainers).Nodup
  templateInitContainers : (sidecarNames t.initContainers).Nodup
  apart : ∀ n ∈ sidecarNames b.sidecars ++ sidecarNames t.sidecars,
    n ∉ sidecarNames b.initContainers ++ sidecarNames t.initContainers
  browser : browserContainerName ∉ sidecarNames b.sidecars ++ sidecarNames t.sidecars ++
    sidecarNames b.initContainers ++ sidecarNames t.initContainers

/-- For an override and a template that keep their container names apart, the pod built from
the resolved version, with any options, has no two containers of one name, init containers
included. -/
theorem buildBrowserPod_names_nodup (it : MapIter) {b : BrowserVersionConfigSpec} {t : Template}
    (h : DistinctNames b t) (browser : Browser) (opts : Option SelenosisOptions) :
    let pod := buildBrowserPod browser (b.mergeWithSpec it t) opts
    (pod.spec.initContainers.map (·.name) ++ pod.spec.containers.map (·.name)).Nodup := by
  obtain ⟨hi, hc⟩ := buildBrowserPod_names browser (b.mergeWithSpec it t) opts
  -- the init containers are merged with the template's list in the override's place
  have hI : sidecarNames (b.mergeWithSpec it t).initContainers = sidecarNames t.initContainers ++
      (sidecarNames b.initContainers).filter (· ∉ sidecarNames t.initContainers) := by
    simp only [BrowserVersionConfigSpec.mergeWithSpec, sidecarNames_completeFromTemplate,
      sidecarNames_mergeSidecarPtr]
  have hS : sidecarNames (b.mergeWithSpec it t).sidecars = sidecarNames b.sidecars ++
      (sidecarNames t.sidecars).filter (· ∉ sidecarNames b.sidecars) := by
    simp only [BrowserVersionConfigSpec.mergeWithSpec, sidecarNames_completeFromTemplate,
      sidecarNames_mergeSidecarPtr]
  dsimp only
  rw [hi, hc, hI, hS, List.nodup_append, List.nodup_cons]
  refine ⟨nodup_append_filter_not_mem h.templateInitContainers h.initContainers,
    ⟨fun hm => h.browser ?_, nodup_append_filter_not_mem h.sidecars h.templateSidecars⟩,
    fun x hxI hxC => ?_⟩
  · rcases mem_append_filter hm with hm | hm <;> simp [hm]
  · rcases List.mem_cons.1 hxC with rfl | hxS
    · exact h.browser (by rcases mem_append_filter hxI with hm | hm <;> simp [hm])
    · exact h.apart x (by rcases mem_append_filter hxS with hm | hm <;> simp [hm])
        (by rcases mem_append_filter hxI with hm | hm <;> simp [hm])

/-- An override that replaces the template's `recorder` sidecar and its `init` container. -/
def recorderOverride : BrowserVersionConfigSpec :=
  { image := "chrome:120", sidecars := some [{ name := "recorder", image := "rec:2" }],
    initContainers := some [{ name := "init", image := "busybox" }] }

/-- A template with two sidecars and two init containers. -/
def recorderTemplate : Template :=
  { sidecars :=
      some [{ name := "recorder", image := "rec:1" }, { name := "proxy", image := "proxy" }],
    initContainers :=
      some [{ name := "init", image := "busybox:t" }, { name := "certs", image := "certs" }] }

/-- The pod built from `recorderOverride` resolved against `recorderTemplate` repeats no
container name. -/
theorem recorder_pod_names_nodup :
    DistinctNames recorderOverride recorderTemplate ∧
      let pod := buildBrowserPod { name := "b1", ns := "ns", spec := ⟨"chrome", "120"⟩ }
        (recorderOverride.mergeWithSpec .insertion recorderTemplate) none
      (pod.spec.initContainers.map (·.name) ++ pod.spec.containers.map (·.name)).Nodup :=
  have h : DistinctNames recorderOverride recorderTemplate :=
    ⟨by decide, by decide, by decide, by decide, by decide, by decide⟩
  ⟨h, buildBrowserPod_names_nodup .insertion h _ none⟩

example :
    (buildBrowserPod { name := "b1", ns := "ns", spec := ⟨"chrome", "120"⟩ }
        (recorderOverride.mergeWithSpec .insertion recorderTemplate) none).spec.containers.map
      (·.name) = ["browser", "recorder", "proxy"] := by
  decide

end BrowserController
