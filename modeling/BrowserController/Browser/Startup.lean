import BrowserController.Browser.System

/-!
# The store at startup

The manager starts the store (`Start`) and the Browser controller side by side. `Start`
registers the store's handlers on the catalog informer, which replays one add notification per
BrowserConfig that already exists, and then waits for the informer to sync
(`WaitForCacheSync(informer.HasSynced)`). Nothing orders the Browser controller after the
replayed adds, and `Get` never checks whether the store has synced. Once those adds have been
handled, in any order and whatever adds and updates come after, `Get` finds every key the
initial BrowserConfigs declare (`get_found_after_initial_adds`). Before that it answers
not-found, whatever the case map, and a Browser reconciled then is marked Failed with reason
`BrowserPodSpec` (`early_reconcile_fails_browser`), a phase no later fresh reconciliation leaves
(`fresh_step_creates_only_before_failed`).
-/

namespace BrowserController

/-! ## The store after the initial list -/

theorem BrowserConfigStore.run_append (s : BrowserConfigStore) (l₁ l₂ : List (Event × MapIter)) :
    s.run (l₁ ++ l₂) = (s.run l₁).run l₂ := by
  induction l₁ generalizing s with
  | nil => rfl
  | cons p rest ih => exact ih _

/-- An add or an update leaves found a key its catalog declares, and every key found before. -/
theorem handle_upsert_found {it : MapIter} {s : BrowserConfigStore} {e : Event}
    {bc : BrowserConfig} (he : e.upserted = some bc) {k : String}
    (hk : k ∈ bc.declaredKeys s.caseMap ∨ s.config k ≠ none) : (s.handle it e).config k ≠ none := by
  cases e with
  | delete obj => cases he
  | add obj | update _ obj =>
    simp only [Event.upserted] at he
    simp only [BrowserConfigStore.handle, onAddOrUpdate_config, he, or_find_writes]
    split_ifs with hd
    · rw [ne_eq, ← Option.not_isSome_iff_eq_none, Option.isSome_map', find_writes_isSome]
      exact not_not.2 hd
    · exact hk.resolve_left hd

/-- Adds and updates never make a found key not found. -/
theorem run_upserts_found {k : String} :
    ∀ {s : BrowserConfigStore} {l : List (Event × MapIter)}, (∀ q ∈ l, q.1.upserted.isSome) →
      s.config k ≠ none → (s.run l).config k ≠ none
  | _, [], _, hs => hs
  | s, (e, it) :: rest, hl, hs => by
    obtain ⟨bc, hbc⟩ := Option.isSome_iff_exists.1 (hl (e, it) (List.mem_cons_self _ _))
    exact run_upserts_found (l := rest) (fun q hq => hl q (List.mem_cons_of_mem _ hq))
      (handle_upsert_found hbc (.inr hs))

/-- The add notification of an existing BrowserConfig. -/
def initialAdd (p : BrowserConfig × MapIter) : Event × MapIter :=
  (.add (.browserConfig (some p.1)), p.2)

/-- Once the add notifications of the BrowserConfigs that existed at start have been handled,
in any order, each with its own map iteration, and followed by any adds and updates, `Get` finds
every version every one of them declares, whatever the case map. -/
theorem get_found_after_initial_adds (cm : CaseMap) (initial : List (BrowserConfig × MapIter))
    (later : List (Event × MapIter)) (hlater : ∀ q ∈ later, q.1.upserted.isSome)
    {bc : BrowserConfig} {it : MapIter} (hbc : (bc, it) ∈ initial)
    {b : Σ _ : String, VersionMap} (hb : b ∈ bc.spec.browsers.entries)
    {v : Σ _ : String, Option BrowserVersionConfigSpec} (hv : v ∈ b.2.entries) :
    ((BrowserConfigStore.new cm).run (initial.map initialAdd ++ later)).get bc.ns b.1 v.1 ≠
      none := by
  obtain ⟨pre, post, rfl⟩ := List.append_of_mem hbc
  have hk : keyFor cm bc.ns b.1 v.1 ∈ bc.declaredKeys cm := by
    simp only [BrowserConfig.declaredKeys, List.mem_flatMap, List.mem_map]
    exact ⟨b, hb, v, hv, rfl⟩
  have hupserts : ∀ q ∈ post.map initialAdd ++ later, q.1.upserted.isSome := by
    simp only [List.mem_append, List.mem_map]
    rintro q (⟨p, -, rfl⟩ | hq)
    · rfl
    · exact hlater q hq
  simp only [List.map_append, List.map_cons, List.append_assoc, List.cons_append,
    BrowserConfigStore.run_append, BrowserConfigStore.get, BrowserConfigStore.run_caseMap,
    BrowserConfigStore.new_caseMap]
  exact run_upserts_found (l := post.map initialAdd ++ later) hupserts
    (handle_upsert_found (e := .add (.browserConfig (some bc))) rfl
      (.inl (by rwa [BrowserConfigStore.run_caseMap])))

/-- `chromeCatalog` exists at start: once its add has been handled, `Get` finds what it
declares. -/
theorem chrome_found_after_initial_add :
    (∀ q ∈ ([] : List (Event × MapIter)), q.1.upserted.isSome) ∧
      (chromeCatalog, MapIter.insertion) ∈ [(chromeCatalog, MapIter.insertion)] ∧
      ∃ b ∈ chromeCatalog.spec.browsers.entries, ∃ v ∈ b.2.entries,
        ((BrowserConfigStore.new CaseMap.asciiOnly).run
          ([(chromeCatalog, MapIter.insertion)].map initialAdd ++ [])).get
            chromeCatalog.ns b.1 v.1 ≠ none := by
  have hlater : ∀ q ∈ ([] : List (Event × MapIter)), q.1.upserted.isSome := fun _ h => nomatch h
  obtain ⟨b, hb, v, hv⟩ : ∃ b ∈ chromeCatalog.spec.browsers.entries, ∃ v, v ∈ b.2.entries :=
    ⟨_, List.mem_singleton_self _, _, List.mem_singleton_self _⟩
  exact ⟨hlater, List.mem_singleton_self _, b, hb, v, hv,
    get_found_after_initial_adds CaseMap.asciiOnly _ _ hlater (List.mem_singleton_self _) hb hv⟩

/-! ## A reconciliation before the initial list -/

/-- No call changes the configuration store. -/
theorem exec_store (o : Outcome) (w : World) (c : Call) : (exec o w c).1.store = w.store := by
  have write : ∀ upd, (w.writeBrowser o upd).1.store = w.store := fun upd => by
    rcases writeBrowser_cases w o upd with ⟨e, h⟩ | ⟨b, -, h⟩ <;> simp [h, World.commitBrowser]
  cases c <;> simp only [exec, write] <;> split <;> rfl

/-- No move of another party changes the case map of the store. -/
theorem envStep_caseMap (w : World) (a : EnvAct) : (envStep w a).store.caseMap = w.store.caseMap := by
  cases a <;> simp only [envStep] <;> (try split) <;> (try split) <;> (try cases w.pod) <;>
    simp [World.commitPod, World.commitBrowser, World.deletePodWith]

/-- No step changes the case map of the store. -/
theorem Sys.run_caseMap {decode : String → Except String SelenosisOptions} :
    ∀ {s s' : Sys} {l : List Step}, s.run decode l = some s' →
      s'.world.store.caseMap = s.world.store.caseMap
  | _, _, [], h => by cases h; rfl
  | s, _, st :: rest, h => by
    simp only [Sys.run, Option.bind_eq_some] at h
    obtain ⟨s₁, h₁, h₂⟩ := h
    rw [Sys.run_caseMap h₂]
    cases st with
    | start => simp only [Sys.step] at h₁; split at h₁ <;> cases h₁; rfl
    | call o => simp only [Sys.step] at h₁; split at h₁ <;> cases h₁; simp [exec_store]
    | env a => cases h₁; exact envStep_caseMap _ a

/-- The stored Browser is Failed with reason `BrowserPodSpec`, and the store has no entry for
chrome 120 in `ns`. -/
def failedForMissingConfig (s : Sys) : Bool :=
  s.world.browser.any (fun b => b.status.phase == .failed && b.status.reason == "BrowserPodSpec") &&
    (s.world.store.get "ns" "chrome" "120").isNone

/-- `chromeCatalog` exists when the process starts, and declares the key of `chromeBrowser`.
Whatever the case map, a reconciliation of that Browser that runs before the catalog's add
notification is handled, every call answered `ok`, finds no configuration and marks the Browser
Failed with reason `BrowserPodSpec`. -/
theorem early_reconcile_fails_browser (cm : CaseMap) :
    keyFor cm chromeBrowser.ns chromeBrowser.spec.browserName chromeBrowser.spec.browserVersion ∈
        chromeCatalog.declaredKeys cm ∧
      ∃ s, FreshReachable rejectOptions s ∧ s.world.store.caseMap = cm ∧
        (s.world.store.get "ns" "chrome" "120").isNone ∧
        ∃ b, s.world.browser = some b ∧ b.status.phase = .failed ∧
          b.status.reason = "BrowserPodSpec" := by
  refine ⟨List.mem_singleton_self _, ?_⟩
  have hrun : (Sys.run rejectOptions ⟨createdWorld (.new cm), none⟩ (reconcileOk 11)).map
      failedForMissingConfig = some true := rfl
  cases hr : Sys.run rejectOptions ⟨createdWorld (.new cm), none⟩ (reconcileOk 11) with
  | none => simp [hr] at hrun
  | some s =>
    simp only [hr, Option.map_some', Option.some.injEq, failedForMissingConfig] at hrun
    have hs : FreshReachable rejectOptions s :=
      ReachableBy.run (.init _ (createdWorld_initial (.new cm))) (by decide) hr
    cases hb : s.world.browser with
    | none => simp [hb] at hrun
    | some b =>
      simp only [hb, Option.any_some, Bool.and_eq_true, beq_iff_eq] at hrun
      exact ⟨s, hs, Sys.run_caseMap hr, hrun.2, b, hb, hrun.1.1, hrun.1.2⟩

end BrowserController
