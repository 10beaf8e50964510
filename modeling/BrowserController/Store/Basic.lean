import BrowserController.Config.Merge

/-!
# The configuration store

`BrowserConfigStore` (`store/browserconfig_store.go`) caches the merged override of every
`(namespace, browser, version)` under `keyFor`. Its mutex makes each handler and each `Get`
atomic, so the store is its map and each handler a function of it.

`onAddOrUpdate` deep-copies the catalog, merges it (`mergeWithTemplate`) and writes every
declared key in iteration order; `onDelete` deletes every key the catalog declares. The two
spec lemmas `onAddOrUpdate_config` and `onDelete_config` say what either does to one key, and
every later statement about the store is derived from them.

`keyFor` lower-cases with `strings.ToLower`, which maps each rune by `unicode.ToLower`: ASCII
letters directly, every other rune through Go's case tables. The model does not carry those
tables. A store is built over a `CaseMap`, the lower-casing of the runes above ASCII, of which
the model knows one thing: it maps no rune onto `/` or `:`. Every result below holds for every
such map.

`keyFor` joins its parts with unescaped separators, so it is not injective:
`get_keyFor_collision` finds a configuration under a browser name the catalog never declared.
It is injective, up to case, on namespaces without `/` and browser names without `:`
(`keyFor_inj`): lower-casing puts no separator into a name that has none.
-/

namespace BrowserController

/-- `unicode.ToLower` on the runes above ASCII, from Go's case tables (`unicode.CaseRanges`). The
tables send upper-case letters to letters and leave every other rune alone, so no rune above
ASCII is lower-cased to a separator of `keyFor`. -/
structure CaseMap where
  lower : Char → Char
  lower_ne_slash : ∀ c : Char, 127 < c.toNat → lower c ≠ '/'
  lower_ne_colon : ∀ c : Char, 127 < c.toNat → lower c ≠ ':'

/-- The case map that leaves every rune above ASCII alone. It lower-cases ASCII names as every
case map does, and serves the example runs, whose names are ASCII. -/
def CaseMap.asciiOnly : CaseMap where
  lower c := c
  lower_ne_slash c h e := by subst e; exact absurd h (by decide)
  lower_ne_colon c h e := by subst e; exact absurd h (by decide)

/-- `unicode.ToLower`: an ASCII letter to its lower case (`Char.toLower`), a rune above ASCII by
the case map. -/
def runeToLower (cm : CaseMap) (c : Char) : Char :=
  if c.toNat < 128 then c.toLower else cm.lower c

/-- `strings.ToLower`: every rune lower-cased by `unicode.ToLower`. -/
def toLower (cm : CaseMap) (s : String) : String := ⟨s.data.map (runeToLower cm)⟩

/-- `keyFor`: `namespace/lower(browser):lower(version)`. Reference:
`store/browserconfig_store.go`, `keyFor`. -/
def keyFor (cm : CaseMap) (ns browser version : String) : String :=
  ns ++ "/" ++ toLower cm browser ++ ":" ++ toLower cm version

/-- `BrowserConfigStore`: merged overrides by key; a stored override may be a nil pointer.
Reference: `store/browserconfig_store.go`, `BrowserConfigStore`. -/
@[ext] structure BrowserConfigStore where
  config : GoMap (Option BrowserVersionConfigSpec)
  /-- The lower-casing `keyFor` uses above ASCII. -/
  caseMap : CaseMap

/-- `NewBrowserConfigStore`, over the case map `cm`. -/
def BrowserConfigStore.new (cm : CaseMap) : BrowserConfigStore := ⟨GoMap.empty, cm⟩

@[simp] theorem BrowserConfigStore.new_caseMap (cm : CaseMap) :
    (BrowserConfigStore.new cm).caseMap = cm := rfl

/-- What an informer hands a handler: a (possibly nil) `*BrowserConfig`, a
`DeletedFinalStateUnknown` tombstone whose object is a (possibly nil) `*BrowserConfig` or
something else (`none`), or any other value. -/
inductive Payload where
  | browserConfig (bc : Option BrowserConfig)
  | deletedFinalStateUnknown (obj : Option BrowserConfig)
  | other

/-- The type switch both handlers open with: the catalog, when there is a non-nil one. -/
def Payload.toBrowserConfig : Payload → Option BrowserConfig
  | .browserConfig bc => bc
  | .deletedFinalStateUnknown obj => obj
  | .other => none

/-- `onAddOrUpdate`: merge a copy of the catalog and store every version under its key, in
iteration order. Reference: `store/browserconfig_store.go`, `onAddOrUpdate`. -/
def BrowserConfigStore.onAddOrUpdate (it : MapIter) (s : BrowserConfigStore) (obj : Payload) :
    BrowserConfigStore :=
  match obj.toBrowserConfig with
  | none => s
  | some bc =>
    let bcCopy := { bc with spec := bc.spec.mergeWithTemplate it }
    ⟨bcCopy.spec.browsers.entries.foldl (fun m b =>
      b.2.entries.foldl (fun m v => m.set (keyFor s.caseMap bcCopy.ns b.1 v.1) v.2) m) s.config,
      s.caseMap⟩

/-- `onDelete`: delete every key the catalog declares. Reference:
`store/browserconfig_store.go`, `onDelete`. -/
def BrowserConfigStore.onDelete (s : BrowserConfigStore) (obj : Payload) : BrowserConfigStore :=
  match obj.toBrowserConfig with
  | none => s
  | some bc =>
    ⟨bc.spec.browsers.entries.foldl (fun m b =>
      b.2.entries.foldl (fun m v => m.delete (keyFor s.caseMap bc.ns b.1 v.1)) m) s.config,
      s.caseMap⟩

/-- `Get`: the stored override, `none` for "not exists". Reference:
`store/browserconfig_store.go`, `Get`. -/
def BrowserConfigStore.get (s : BrowserConfigStore) (ns browserName version : String) :
    Option (Option BrowserVersionConfigSpec) :=
  s.config (keyFor s.caseMap ns browserName version)

@[simp] theorem BrowserConfigStore.onAddOrUpdate_caseMap (it : MapIter) (s : BrowserConfigStore)
    (obj : Payload) : (s.onAddOrUpdate it obj).caseMap = s.caseMap := by
  unfold BrowserConfigStore.onAddOrUpdate; split <;> rfl

@[simp] theorem BrowserConfigStore.onDelete_caseMap (s : BrowserConfigStore) (obj : Payload) :
    (s.onDelete obj).caseMap = s.caseMap := by
  unfold BrowserConfigStore.onDelete; split <;> rfl

/-! ## What a handler writes -/

/-- The `(key, value)` pairs `onAddOrUpdate` writes for `bc`, in order: each declared version
under its key, resolved once by `resolveOverride`. -/
def BrowserConfig.writes (cm : CaseMap) (it : MapIter) (bc : BrowserConfig) :
    List (String × Option BrowserVersionConfigSpec) :=
  bc.spec.browsers.entries.flatMap fun b =>
    b.2.entries.map fun v => (keyFor cm bc.ns b.1 v.1, resolveOverride it bc.spec.template v.2)

/-- The keys `bc` declares, in iteration order. -/
def BrowserConfig.declaredKeys (cm : CaseMap) (bc : BrowserConfig) : List String :=
  bc.spec.browsers.entries.flatMap fun b => b.2.entries.map fun v => keyFor cm bc.ns b.1 v.1

/-- A handler writes exactly the declared keys. -/
theorem BrowserConfig.writes_keys (cm : CaseMap) (it : MapIter) (bc : BrowserConfig) :
    (bc.writes cm it).map Prod.fst = bc.declaredKeys cm := by
  simp [BrowserConfig.writes, BrowserConfig.declaredKeys, List.map_flatMap, Function.comp_def]

/-- A pair is written exactly when it is a declared version under its key, resolved once. -/
theorem BrowserConfig.mem_writes (cm : CaseMap) (it : MapIter) (bc : BrowserConfig) (k : String)
    (v : Option BrowserVersionConfigSpec) :
    (k, v) ∈ bc.writes cm it ↔ ∃ b ∈ bc.spec.browsers.entries, ∃ w ∈ b.2.entries,
      k = keyFor cm bc.ns b.1 w.1 ∧ v = resolveOverride it bc.spec.template w.2 := by
  simp only [BrowserConfig.writes, List.mem_flatMap, List.mem_map, eq_comm, Prod.mk.injEq,
    Sigma.exists]

/-- Writing a list of pairs one by one leaves, at `k`, the last pair for `k`. -/
theorem foldl_set_apply {V : Type} (l : List (String × V)) (m : GoMap V) (k : String) :
    l.foldl (fun m kv => m.set kv.1 kv.2) m k =
      ((l.reverse.find? (·.1 = k)).map (·.2)).or (m k) := by
  induction l generalizing m with
  | nil => simp
  | cons a l ih =>
    rw [List.foldl_cons, ih, List.reverse_cons, List.find?_append]
    cases h : l.reverse.find? (·.1 = k) <;> by_cases hk : k = a.1 <;> simp [h, hk, Ne.symm]

/-- Deleting a list of keys one by one removes exactly those keys. -/
theorem foldl_delete_apply {V : Type} (l : List String) (m : GoMap V) (k : String) :
    l.foldl GoMap.delete m k = if k ∈ l then none else m k := by
  induction l generalizing m with
  | nil => simp
  | cons a l ih => rw [List.foldl_cons, ih]; by_cases h : k = a <;> simp [h]

/-- A fold over a `flatMap` is the nested fold. -/
theorem foldl_flatMap {α β γ : Type} (l : List α) (g : α → List β) (f : γ → β → γ) (init : γ) :
    (l.flatMap g).foldl f init = l.foldl (fun acc a => (g a).foldl f acc) init := by
  induction l generalizing init with
  | nil => rfl
  | cons a l ih => simp [List.flatMap_cons, ih]

/-- `onAddOrUpdate` is the write of `bc.writes` in order. -/
theorem onAddOrUpdate_eq (it : MapIter) (s : BrowserConfigStore) (obj : Payload)
    (bc : BrowserConfig) (h : obj.toBrowserConfig = some bc) :
    (s.onAddOrUpdate it obj).config =
      (bc.writes s.caseMap it).foldl (fun m kv => m.set kv.1 kv.2) s.config := by
  simp only [BrowserConfigStore.onAddOrUpdate, h, BrowserConfig.writes, foldl_flatMap,
    List.foldl_map, browsers_mergeWithTemplate, mapValues_entries]

/-- `onDelete` is the deletion of `bc.declaredKeys` in order. -/
theorem onDelete_eq (s : BrowserConfigStore) (obj : Payload) (bc : BrowserConfig)
    (h : obj.toBrowserConfig = some bc) :
    (s.onDelete obj).config = (bc.declaredKeys s.caseMap).foldl GoMap.delete s.config := by
  simp only [BrowserConfigStore.onDelete, h, BrowserConfig.declaredKeys, foldl_flatMap,
    List.foldl_map]

/-- The spec of `onAddOrUpdate` at one key: the last value written for it, else unchanged. -/
theorem onAddOrUpdate_config (it : MapIter) (s : BrowserConfigStore) (obj : Payload)
    (k : String) :
    (s.onAddOrUpdate it obj).config k =
      match obj.toBrowserConfig with
      | none => s.config k
      | some bc =>
        (((bc.writes s.caseMap it).reverse.find? (·.1 = k)).map (·.2)).or (s.config k) := by
  cases h : obj.toBrowserConfig with
  | none => simp [BrowserConfigStore.onAddOrUpdate, h]
  | some bc => rw [onAddOrUpdate_eq it s obj bc h, foldl_set_apply]

/-- The spec of `onDelete` at one key: removed when declared, else unchanged. -/
theorem onDelete_config (s : BrowserConfigStore) (obj : Payload) (k : String) :
    (s.onDelete obj).config k =
      match obj.toBrowserConfig with
      | none => s.config k
      | some bc => if k ∈ bc.declaredKeys s.caseMap then none else s.config k := by
  cases h : obj.toBrowserConfig with
  | none => simp [BrowserConfigStore.onDelete, h]
  | some bc => rw [onDelete_eq s obj bc h, foldl_delete_apply]

/-- A write is found for `k` exactly when `bc` declares `k`. -/
theorem find_writes_isSome (cm : CaseMap) (it : MapIter) (bc : BrowserConfig) (k : String) :
    ((bc.writes cm it).reverse.find? (·.1 = k)).isSome ↔ k ∈ bc.declaredKeys cm := by
  rw [← BrowserConfig.writes_keys cm it, List.find?_isSome]
  simp

/-! ## Key collisions -/

/-- A catalog in `ns` that declares one version, `c`, of one browser, `a:b`. -/
def collidingConfig : BrowserConfig :=
  { name := "browsers", ns := "ns",
    spec := { template := none,
              browsers := List.toAList [⟨"a:b", List.toAList [⟨"c", some { image := "x:1" }⟩]⟩] } }

/-- `keyFor` is not injective: after the catalog above is added, `Get("ns", "a", "b:c")` finds
the override of browser `a:b`, version `c`, though the catalog declares no browser whose
lower-cased name is `a`. -/
theorem get_keyFor_collision (cm : CaseMap) (it : MapIter) :
    ((BrowserConfigStore.new cm).onAddOrUpdate it (.browserConfig (some collidingConfig))).get
        "ns" "a" "b:c" = some (some { image := "x:1" }) ∧
      ∀ b ∈ collidingConfig.spec.browsers.keys, toLower cm b ≠ "a" := by
  refine ⟨rfl, ?_⟩
  simp only [collidingConfig, List.toAList, AList.keys, List.keys, List.dedupKeys,
    List.foldr, List.kinsert, List.kerase, List.map, List.mem_singleton, forall_eq]
  exact fun h => absurd (congrArg (·.data.length) h) (by simp [toLower])


/-- `Char.toLower` moves no character onto one below `A`: such a character is lower-cased only
from itself. -/
theorem eq_of_toLower_eq {c d : Char} (hd : d.toNat < 65) (h : c.toLower = d) : c = d := by
  dsimp only [Char.toLower] at h
  split at h
  · next hu =>
    -- an upper-case letter lands on a lower-case one
    have hv : (c.toNat + 32).isValidChar := Or.inl (by omega)
    have : d.toNat = c.toNat + 32 := by
      rw [← h, Char.ofNat, dif_pos hv]; rfl
    omega
  · exact h

/-- No rune is lower-cased onto a separator of `keyFor` but the separator itself. -/
theorem eq_of_runeToLower_eq {cm : CaseMap} {c d : Char} (hd : d = '/' ∨ d = ':')
    (h : runeToLower cm c = d) : c = d := by
  unfold runeToLower at h
  split at h
  · exact eq_of_toLower_eq (by rcases hd with rfl | rfl <;> decide) h
  · -- above ASCII, the case map keeps off the separators
    next hc =>
    rcases hd with rfl | rfl
    · exact absurd h (cm.lower_ne_slash c (by omega))
    · exact absurd h (cm.lower_ne_colon c (by omega))

/-- A separator that a name lacks, its lower-cased form lacks too. -/
theorem not_mem_toLower {cm : CaseMap} {s : String} {d : Char} (hd : d = '/' ∨ d = ':')
    (h : d ∉ s.data) : d ∉ (toLower cm s).data := by
  simp only [toLower, List.mem_map, not_exists, not_and]
  exact fun c hc he => h (eq_of_runeToLower_eq hd he ▸ hc)

/-- Two lists split at a separator that neither prefix contains split alike. -/
theorem append_cons_inj_of_not_mem {α : Type} {a : α} :
    ∀ {l₁ l₂ r₁ r₂ : List α}, a ∉ l₁ → a ∉ l₂ →
      l₁ ++ a :: r₁ = l₂ ++ a :: r₂ → l₁ = l₂ ∧ r₁ = r₂
  | [], [], _, _, _, _, h => ⟨rfl, (List.cons.inj h).2⟩
  | [], _ :: _, _, _, _, h₂, h => absurd ((List.cons.inj h).1 ▸ List.mem_cons_self _ _) h₂
  | _ :: _, [], _, _, h₁, _, h => absurd ((List.cons.inj h).1 ▸ List.mem_cons_self _ _) h₁
  | _ :: _, _ :: _, _, _, h₁, h₂, h => by
    obtain ⟨rfl, ht⟩ := List.cons.inj h
    obtain ⟨rfl, rfl⟩ := append_cons_inj_of_not_mem (List.not_mem_of_not_mem_cons h₁)
      (List.not_mem_of_not_mem_cons h₂) ht
    exact ⟨rfl, rfl⟩

/-- The characters of a key: the namespace, `/`, the lower-cased browser name, `:`, the
lower-cased version. -/
theorem keyFor_data (cm : CaseMap) (ns browser version : String) :
    (keyFor cm ns browser version).data =
      ns.data ++ '/' :: ((toLower cm browser).data ++ ':' :: (toLower cm version).data) := by
  simp [keyFor, String.data_append]

/-- On namespaces without `/` and browser names without `:`, a key determines the namespace,
and the browser name and the version up to case. -/
theorem keyFor_inj {cm : CaseMap} {ns ns' b b' v v' : String} (hns : '/' ∉ ns.data)
    (hns' : '/' ∉ ns'.data) (hb : ':' ∉ b.data) (hb' : ':' ∉ b'.data)
    (h : keyFor cm ns b v = keyFor cm ns' b' v') :
    ns = ns' ∧ toLower cm b = toLower cm b' ∧ toLower cm v = toLower cm v' := by
  have h := congrArg String.data h
  rw [keyFor_data, keyFor_data] at h
  obtain ⟨hn, h⟩ := append_cons_inj_of_not_mem hns hns' h
  obtain ⟨hb, hv⟩ := append_cons_inj_of_not_mem (not_mem_toLower (.inr rfl) hb)
    (not_mem_toLower (.inr rfl) hb') h
  exact ⟨String.ext hn, String.ext hb, String.ext hv⟩

end BrowserController
