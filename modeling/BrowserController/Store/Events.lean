import BrowserController.Store.Basic

/-!
# The store over a stream of notifications

`Start` registers three handlers on the catalog informer (`store/browserconfig_store.go`):
`AddFunc` and `UpdateFunc` call `onAddOrUpdate` (the latter with the new object only) and
`DeleteFunc` calls `onDelete`. The informer delivers notifications one at a time, so a run of
the store is a fold of `handle` over a list of notifications (`BrowserConfigStore.run`).

`handle_config` says what one notification does to one key, and `run_config_eq_some` lifts it
to whole runs: the store is a last-writer-wins register per key, written by the last
notification whose catalog declares the key. It is not the union of the live catalogs'
declarations: `store_keyset_ne_live` shows a version an update dropped staying in the store.

The informer delivers the notifications of one catalog in order, but those of different catalogs
in any interleaving. At each key a run sees only the notifications that touch the key
(`run_config_filter`), so the store depends only on the order of notifications that share a
key (`run_eq_of_touching_eq`).

When namespaces have no `/` and browser names no `:`, `Get` is exact, whatever the case map:
what it serves was declared under the same namespace, and the same browser name and version up
to case (`get_exact`).
-/

namespace BrowserController

/-- An informer notification. -/
inductive Event where
  | add (obj : Payload)
  | update (old new : Payload)
  | delete (obj : Payload)

/-- The handler `Start` registers for a notification; `UpdateFunc` discards the old object.
Reference: `store/browserconfig_store.go`, `Start`. -/
def BrowserConfigStore.handle (it : MapIter) (s : BrowserConfigStore) : Event → BrowserConfigStore
  | .add obj => s.onAddOrUpdate it obj
  | .update _ obj => s.onAddOrUpdate it obj
  | .delete obj => s.onDelete obj

/-- The store after notifications delivered one at a time, each handled with its own map
iteration. -/
def BrowserConfigStore.run (s : BrowserConfigStore) : List (Event × MapIter) → BrowserConfigStore
  | [] => s
  | (e, it) :: rest => (s.handle it e).run rest

@[simp] theorem BrowserConfigStore.handle_caseMap (it : MapIter) (s : BrowserConfigStore)
    (e : Event) : (s.handle it e).caseMap = s.caseMap := by
  cases e <;> simp [BrowserConfigStore.handle]

@[simp] theorem BrowserConfigStore.run_caseMap (s : BrowserConfigStore)
    (evs : List (Event × MapIter)) : (s.run evs).caseMap = s.caseMap := by
  induction evs generalizing s with
  | nil => rfl
  | cons p rest ih => simp [BrowserConfigStore.run, ih]

/-- The payload a notification's handler reads. -/
def Event.payload : Event → Payload
  | .add obj | .update _ obj | .delete obj => obj

/-- The catalog an add or an update carries. -/
def Event.upserted : Event → Option BrowserConfig
  | .add obj | .update _ obj => obj.toBrowserConfig
  | .delete _ => none

/-- Whether the notification's catalog declares key `k`. -/
def Event.touches (e : Event) (cm : CaseMap) (k : String) : Bool :=
  e.payload.toBrowserConfig.any (k ∈ ·.declaredKeys cm)

/-- What a notification that touches `k` leaves there: the last value an add or update writes
for `k`, and nothing after a delete. -/
def Event.lastWrite (cm : CaseMap) (it : MapIter) (e : Event) (k : String) :
    Option (Option BrowserVersionConfigSpec) :=
  e.upserted.bind fun bc => ((bc.writes cm it).reverse.find? (·.1 = k)).map (·.2)

/-- A notification that writes `k` touches it. -/
theorem Event.touches_of_lastWrite {cm : CaseMap} {it : MapIter} {e : Event} {k : String}
    {v : Option BrowserVersionConfigSpec} (h : e.lastWrite cm it k = some v) : e.touches cm k := by
  cases e with
  | delete obj => simp [Event.lastWrite, Event.upserted] at h
  | add obj | update _ obj =>
    simp only [Event.lastWrite, Event.upserted, Option.bind_eq_some] at h
    obtain ⟨bc, hbc, hw⟩ := h
    have hs : ((bc.writes cm it).reverse.find? (·.1 = k)).isSome := by
      cases hf : (bc.writes cm it).reverse.find? (·.1 = k) <;> simp_all
    simp [Event.touches, Event.payload, hbc, (find_writes_isSome cm it bc k).1 hs]

/-- The last value an add or update writes for `k` is there exactly when the catalog declares
`k`. -/
theorem or_find_writes (cm : CaseMap) (it : MapIter) (bc : BrowserConfig) (k : String)
    (old : Option (Option BrowserVersionConfigSpec)) :
    (((bc.writes cm it).reverse.find? (·.1 = k)).map (·.2)).or old =
      if k ∈ bc.declaredKeys cm then ((bc.writes cm it).reverse.find? (·.1 = k)).map (·.2)
      else old := by
  have hs := find_writes_isSome cm it bc k
  cases hf : (bc.writes cm it).reverse.find? (·.1 = k) <;> simp_all

/-- The spec of `handle` at one key: a notification whose catalog declares `k` leaves its
`lastWrite` there, any other leaves `k` alone. -/
theorem handle_config (it : MapIter) (s : BrowserConfigStore) (e : Event) (k : String) :
    (s.handle it e).config k =
      if e.touches s.caseMap k then e.lastWrite s.caseMap it k else s.config k := by
  cases e with
  | add obj | update _ obj =>
    rw [BrowserConfigStore.handle, onAddOrUpdate_config]
    cases h : obj.toBrowserConfig <;>
      simp [h, or_find_writes, Event.touches, Event.payload, Event.lastWrite, Event.upserted]
  | delete obj =>
    rw [BrowserConfigStore.handle, onDelete_config]
    cases h : obj.toBrowserConfig <;>
      simp [h, Event.touches, Event.payload, Event.lastWrite, Event.upserted]

/-- Splitting a non-empty list around one element: at its head, or inside its tail. -/
theorem exists_split_cons {α : Type} (P : α → List α → Prop) (a : α) (l : List α) :
    (∃ pre x post, a :: l = pre ++ x :: post ∧ P x post) ↔
      P a l ∨ ∃ pre x post, l = pre ++ x :: post ∧ P x post := by
  constructor
  · rintro ⟨_ | ⟨q, pre⟩, x, post, h, hp⟩
    · obtain ⟨rfl, rfl⟩ := List.cons.inj h
      exact .inl hp
    · obtain ⟨rfl, rfl⟩ := List.cons.inj h
      exact .inr ⟨pre, x, post, rfl, hp⟩
  · rintro (hp | ⟨pre, x, post, rfl, hp⟩)
    · exact ⟨[], a, l, rfl, hp⟩
    · exact ⟨a :: pre, x, post, rfl, hp⟩

/-- The store over a run: `k` holds `v` exactly when the last notification that touches `k`
wrote `v` there, or when none touches `k` and `k` held `v` before. -/
theorem run_config_eq_some (s : BrowserConfigStore) (evs : List (Event × MapIter)) (k : String)
    (v : Option BrowserVersionConfigSpec) :
    (s.run evs).config k = some v ↔
      (∃ pre p post, evs = pre ++ p :: post ∧ p.1.lastWrite s.caseMap p.2 k = some v ∧
          ∀ q ∈ post, q.1.touches s.caseMap k = false) ∨
        ((∀ q ∈ evs, q.1.touches s.caseMap k = false) ∧ s.config k = some v) := by
  induction evs generalizing s with
  | nil => simp [BrowserConfigStore.run]
  | cons p rest ih =>
    obtain ⟨e, it⟩ := p
    rw [BrowserConfigStore.run, ih, BrowserConfigStore.handle_caseMap, handle_config,
      exists_split_cons (α := Event × MapIter) (fun p post =>
        p.1.lastWrite s.caseMap p.2 k = some v ∧ ∀ q ∈ post, q.1.touches s.caseMap k = false)]
    cases ht : e.touches s.caseMap k
    · have hw : e.lastWrite s.caseMap it k ≠ some v := fun h => by
        simpa [ht] using Event.touches_of_lastWrite h
      simp only [ht, List.forall_mem_cons, Bool.false_eq_true, if_false, true_and, hw,
        false_and, false_or]
    · simp only [ht, List.forall_mem_cons, if_true, Bool.true_eq_false, false_and, or_false]
      exact ⟨fun h => h.elim Or.inr (Or.inl ∘ And.symm), fun h => h.elim (Or.inr ∘ And.symm) Or.inl⟩

/-- The store a run leaves, from the empty store: `k` holds `v` exactly when the last
notification whose catalog declares `k` is an add or an update, and `v` is the last value its
handler wrote for `k` (a declaration of `k`, resolved once: `BrowserConfig.mem_writes`). -/
theorem store_last_writer (cm : CaseMap) (evs : List (Event × MapIter)) (k : String)
    (v : Option BrowserVersionConfigSpec) :
    ((BrowserConfigStore.new cm).run evs).config k = some v ↔
      ∃ pre p post bc, evs = pre ++ p :: post ∧ p.1.upserted = some bc ∧
        ((bc.writes cm p.2).reverse.find? (·.1 = k)).map (·.2) = some v ∧
        ∀ q ∈ post, q.1.touches cm k = false := by
  simp only [run_config_eq_some, BrowserConfigStore.new, GoMap.empty_apply, reduceCtorEq,
    and_false, or_false, Event.lastWrite, Option.bind_eq_some]
  constructor
  · rintro ⟨pre, p, post, h, ⟨bc, hbc, hw⟩, hpost⟩
    exact ⟨pre, p, post, bc, h, hbc, hw, hpost⟩
  · rintro ⟨pre, p, post, bc, h, hbc, hw, hpost⟩
    exact ⟨pre, p, post, h, ⟨bc, hbc, hw⟩, hpost⟩

/-! ## The store is not the union of the live catalogs -/

/-- The latest state of every catalog not deleted, by `namespace/name`. -/
def liveConfigs (evs : List (Event × MapIter)) : GoMap BrowserConfig :=
  evs.foldl (fun m p =>
    match p.1 with
    | .add obj | .update _ obj =>
      match obj.toBrowserConfig with
      | some bc => m.set (bc.ns ++ "/" ++ bc.name) bc
      | none => m
    | .delete obj =>
      match obj.toBrowserConfig with
      | some bc => m.delete (bc.ns ++ "/" ++ bc.name)
      | none => m) GoMap.empty

/-- A catalog declaring versions `1` and `2` of `chrome`. -/
def catalogTwoVersions : BrowserConfig :=
  { name := "browsers", ns := "ns",
    spec := { template := none,
              browsers := List.toAList [⟨"chrome", List.toAList
                [⟨"1", some { image := "chrome:1" }⟩, ⟨"2", some { image := "chrome:2" }⟩]⟩] } }

/-- The same catalog after an update that drops version `2`. -/
def catalogOneVersion : BrowserConfig :=
  { catalogTwoVersions with
    spec := { template := none,
              browsers := List.toAList [⟨"chrome", List.toAList
                [⟨"1", some { image := "chrome:1" }⟩]⟩] } }

/-- Add the two-version catalog, then update it to one version. -/
def dropVersionRun : List (Event × MapIter) :=
  [(.add (.browserConfig (some catalogTwoVersions)), .insertion),
   (.update (.browserConfig (some catalogTwoVersions)) (.browserConfig (some catalogOneVersion)),
     .insertion)]

/-- After an update drops version `2`, the store still serves it, though the only live catalog
no longer declares it. -/
theorem store_keyset_ne_live :
    ((BrowserConfigStore.new CaseMap.asciiOnly).run dropVersionRun).config "ns/chrome:2" =
        some (some { image := "chrome:2" }) ∧
      ¬ ∃ id bc, liveConfigs dropVersionRun id = some bc ∧
        "ns/chrome:2" ∈ bc.declaredKeys CaseMap.asciiOnly := by
  refine ⟨rfl, ?_⟩
  rintro ⟨id, bc, h, hk⟩
  simp only [liveConfigs, dropVersionRun, List.foldl, Payload.toBrowserConfig, GoMap.set_apply,
    GoMap.empty_apply] at h
  split_ifs at h with h1 h2
  · cases h
    revert hk
    decide
  · exact absurd h2 h1


/-! ## Delivery order -/

/-- A run treats a key alike from two stores over one case map that agree at it. -/
theorem run_config_congr {s s' : BrowserConfigStore} {k : String} (hc : s.caseMap = s'.caseMap)
    (h : s.config k = s'.config k) (evs : List (Event × MapIter)) :
    (s.run evs).config k = (s'.run evs).config k := by
  induction evs generalizing s s' with
  | nil => exact h
  | cons p rest ih => exact ih (by simp [hc]) (by rw [handle_config, handle_config, h, hc])

/-- At each key a run sees only the notifications that touch the key. -/
theorem run_config_filter (s : BrowserConfigStore) (evs : List (Event × MapIter)) (k : String) :
    (s.run evs).config k = (s.run (evs.filter (·.1.touches s.caseMap k))).config k := by
  induction evs generalizing s with
  | nil => rfl
  | cons p rest ih =>
    rw [BrowserConfigStore.run, ih, BrowserConfigStore.handle_caseMap, List.filter_cons]
    split
    · rfl
    · next ht => exact run_config_congr (by simp) (by rw [handle_config, if_neg ht]) _

/-- The store does not depend on the order in which notifications that share no key are
delivered: two runs that deliver, for every key, the same notifications touching it, in the same
order and each handled with the same map iteration, leave the same store. -/
theorem run_eq_of_touching_eq (s : BrowserConfigStore) {evs evs' : List (Event × MapIter)}
    (h : ∀ k, evs.filter (·.1.touches s.caseMap k) = evs'.filter (·.1.touches s.caseMap k)) :
    s.run evs = s.run evs' :=
  BrowserConfigStore.ext (funext fun k => by rw [run_config_filter, h k, ← run_config_filter])
    (by simp)

/-- Another team's catalog, declaring version `128` of `firefox`. -/
def firefoxCatalog : BrowserConfig :=
  { name := "browsers", ns := "qa",
    spec := { template := none,
              browsers := List.toAList [⟨"firefox", List.toAList
                [⟨"128", some { image := "firefox:128" }⟩]⟩] } }

/-- The two teams' catalogs, added in either order, leave the same store. -/
theorem catalogs_commute :
    (∀ k, [(Event.add (.browserConfig (some catalogTwoVersions)), MapIter.insertion),
        (.add (.browserConfig (some firefoxCatalog)), .insertion)].filter
          (·.1.touches CaseMap.asciiOnly k) =
      [(Event.add (.browserConfig (some firefoxCatalog)), MapIter.insertion),
        (.add (.browserConfig (some catalogTwoVersions)), .insertion)].filter
          (·.1.touches CaseMap.asciiOnly k)) ∧
    (BrowserConfigStore.new CaseMap.asciiOnly).run
        [(.add (.browserConfig (some catalogTwoVersions)), .insertion),
          (.add (.browserConfig (some firefoxCatalog)), .insertion)] =
      (BrowserConfigStore.new CaseMap.asciiOnly).run
        [(.add (.browserConfig (some firefoxCatalog)), .insertion),
          (.add (.browserConfig (some catalogTwoVersions)), .insertion)] :=
  have h : ∀ k, _ := fun k => by
    have h₁ : catalogTwoVersions.declaredKeys CaseMap.asciiOnly = ["ns/chrome:1", "ns/chrome:2"] :=
      rfl
    have h₂ : firefoxCatalog.declaredKeys CaseMap.asciiOnly = ["qa/firefox:128"] := rfl
    simp only [List.filter_cons, List.filter_nil, Event.touches, Event.payload,
      Payload.toBrowserConfig, Option.any_some, h₁, h₂]
    by_cases hk : k = "qa/firefox:128" <;> simp [hk]
  ⟨h, run_eq_of_touching_eq _ h⟩


/-! ## What `Get` serves -/

/-- A catalog whose namespace has no `/` and whose browser names have no `:`, the separators of
`keyFor`. -/
def BrowserConfig.SeparatorFree (bc : BrowserConfig) : Prop :=
  '/' ∉ bc.ns.data ∧ ∀ b ∈ bc.spec.browsers.entries, ':' ∉ b.1.data

/-- What a notification writes at a key is one of its catalog's declarations under that key,
resolved once. -/
theorem Event.lastWrite_declared {cm : CaseMap} {it : MapIter} {e : Event} {k : String}
    {v : Option BrowserVersionConfigSpec} (h : e.lastWrite cm it k = some v) :
    ∃ bc, e.upserted = some bc ∧ ∃ b ∈ bc.spec.browsers.entries, ∃ w ∈ b.2.entries,
      k = keyFor cm bc.ns b.1 w.1 ∧ v = resolveOverride it bc.spec.template w.2 := by
  simp only [Event.lastWrite, Option.bind_eq_some, Option.map_eq_some'] at h
  obtain ⟨bc, hbc, ⟨k', v'⟩, hf, rfl⟩ := h
  obtain rfl : k' = k := by simpa using List.find?_some hf
  exact ⟨bc, hbc, (BrowserConfig.mem_writes cm it bc k' v').1
    (List.mem_reverse.1 (List.mem_of_find?_eq_some hf))⟩

/-- With catalogs and a query free of `keyFor`'s separators, everything `Get` serves after a run
from the empty store, over any case map, was declared under the queried namespace, and under the
queried browser name and version up to case, by a catalog an add or an update of the run
carried: it is that declaration, resolved once. -/
theorem get_exact {cm : CaseMap} {evs : List (Event × MapIter)} {ns browserName version : String}
    {c : Option BrowserVersionConfigSpec}
    (hfree : ∀ p ∈ evs, ∀ bc, p.1.upserted = some bc → bc.SeparatorFree)
    (hns : '/' ∉ ns.data) (hb : ':' ∉ browserName.data)
    (h : ((BrowserConfigStore.new cm).run evs).get ns browserName version = some c) :
    ∃ p ∈ evs, ∃ bc, p.1.upserted = some bc ∧ bc.ns = ns ∧
      ∃ b ∈ bc.spec.browsers.entries, toLower cm b.1 = toLower cm browserName ∧
      ∃ w ∈ b.2.entries, toLower cm w.1 = toLower cm version ∧
        c = resolveOverride p.2 bc.spec.template w.2 := by
  rw [BrowserConfigStore.get, BrowserConfigStore.run_caseMap, BrowserConfigStore.new_caseMap] at h
  obtain ⟨pre, p, post, rfl, hw, -⟩ | ⟨-, hnew⟩ := (run_config_eq_some _ _ _ _).1 h
  · have hp : p ∈ pre ++ p :: post := List.mem_append_right _ (List.mem_cons_self _ _)
    obtain ⟨bc, hbc, b', hb', w, hw', hk, rfl⟩ := Event.lastWrite_declared hw
    obtain ⟨hfns, hfb⟩ := hfree p hp bc hbc
    obtain ⟨hn, hbn, hv⟩ := keyFor_inj hns hfns hb (hfb b' hb') hk
    exact ⟨p, hp, bc, hbc, hn.symm, b', hb', hbn.symm, w, hw', hv.symm, rfl⟩
  · -- the empty store holds nothing
    cases hnew

/-- The run that adds `catalogTwoVersions`. -/
def addTwoVersions : List (Event × MapIter) :=
  [(.add (.browserConfig (some catalogTwoVersions)), .insertion)]

/-- After `addTwoVersions`, `Get("ns", "Chrome", "1")` serves version `1` of `chrome`, which the
catalog declares under `ns`. -/
theorem chrome_get_exact :
    (∀ p ∈ addTwoVersions, ∀ bc, p.1.upserted = some bc → bc.SeparatorFree) ∧
      '/' ∉ "ns".data ∧ ':' ∉ "Chrome".data ∧
      ((BrowserConfigStore.new CaseMap.asciiOnly).run addTwoVersions).get "ns" "Chrome" "1" =
        some (some { image := "chrome:1" }) ∧
      ∃ p ∈ addTwoVersions, ∃ bc, p.1.upserted = some bc ∧ bc.ns = "ns" ∧
        ∃ b ∈ bc.spec.browsers.entries,
          toLower CaseMap.asciiOnly b.1 = toLower CaseMap.asciiOnly "Chrome" ∧
        ∃ w ∈ b.2.entries, toLower CaseMap.asciiOnly w.1 = toLower CaseMap.asciiOnly "1" ∧
          some { image := "chrome:1" } = resolveOverride p.2 bc.spec.template w.2 :=
  have hfree : ∀ p ∈ addTwoVersions, ∀ bc, p.1.upserted = some bc → bc.SeparatorFree := by
    intro p hp bc hbc
    obtain rfl : p = _ := List.mem_singleton.1 hp
    obtain rfl : catalogTwoVersions = bc := Option.some.inj hbc
    exact ⟨by decide, by decide⟩
  have hget : ((BrowserConfigStore.new CaseMap.asciiOnly).run addTwoVersions).get "ns" "Chrome"
      "1" = some (some { image := "chrome:1" }) := rfl
  ⟨hfree, by decide, by decide, hget, get_exact hfree (by decide) (by decide) hget⟩

end BrowserController
