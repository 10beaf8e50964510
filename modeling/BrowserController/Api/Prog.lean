import BrowserController.Browser.Types
import BrowserController.Config.Types

/-!
# Reconciliations as programs of calls

A reconciliation is synchronous code whose only suspension points are its calls: to the API
server (get, patch, create, delete), to the in-process configuration store, and to the clock.
Other parties act between any two calls. So a reconciliation is modelled as an interaction
tree, `Prog`: either a result, or a call together with what to do with each possible answer.
The Go functions of `controllers/browser` become `Prog` programs written with `do`, and their
meaning is given by running them against the API server's state (`BrowserController.Api`).

`Call.Resp` is the type of a call's answer, so a program can only continue with an answer of
the right shape.
-/

namespace BrowserController

/-- An API error, by the predicate of `k8s.io/apimachinery/pkg/api/errors` that recognizes it;
`unavailable` is any other failure (a transient server or network error). -/
inductive ApiError where
  | notFound
  | conflict
  | alreadyExists
  | unavailable
deriving DecidableEq, Repr

/-- A call a reconciliation makes. -/
inductive Call where
  /-- `client.Get` of the reconciled Browser. -/
  | getBrowser
  /-- `client.Patch(current, client.MergeFrom(before))` with `current = after`. -/
  | patchBrowser (before after : Browser)
  /-- `client.Status().Patch(current, client.MergeFrom(before))` with `current = after`. -/
  | patchBrowserStatus (before after : Browser)
  /-- `client.Delete` of the Browser. -/
  | deleteBrowser
  /-- `client.Get` of the Browser's pod. -/
  | getPod
  /-- `client.Create` of a pod. -/
  | createPod (pod : Pod)
  /-- `client.Delete` of the pod, with `GracePeriodSeconds(0)` when `force`. -/
  | deletePod (force : Bool)
  /-- `BrowserConfigStore.Get`. -/
  | getConfig (ns browserName version : String)
  /-- `time.Now`, read by `time.Since`. -/
  | now

/-- The answer to a call. -/
def Call.Resp : Call → Type
  | .getBrowser => Except ApiError Browser
  | .getPod => Except ApiError Pod
  | .getConfig .. => Option (Option BrowserVersionConfigSpec)
  | .now => Nat
  | .patchBrowser .. | .patchBrowserStatus .. | .deleteBrowser | .createPod _ | .deletePod _ =>
    Except ApiError Unit

/-- A program of calls returning an `α`. -/
inductive Prog (α : Type) where
  | ret (a : α)
  | call (c : Call) (k : c.Resp → Prog α)

/-- Sequencing: run `p`, then `f` on its result. -/
def Prog.bind {α β : Type} : Prog α → (α → Prog β) → Prog β
  | .ret a, f => f a
  | .call c k, f => .call c fun r => (k r).bind f

instance : Monad Prog where
  pure := .ret
  bind := Prog.bind

@[simp] theorem Prog.pure_eq {α : Type} (a : α) : (pure a : Prog α) = .ret a := rfl

@[simp] theorem Prog.ret_bind {α β : Type} (a : α) (f : α → Prog β) :
    (Prog.ret a >>= f) = f a := rfl

@[simp] theorem Prog.call_bind {α β : Type} (c : Call) (k : c.Resp → Prog α) (f : α → Prog β) :
    (Prog.call c k >>= f) = .call c fun r => k r >>= f := rfl

/-- One call, returning its answer. -/
def Prog.op (c : Call) : Prog c.Resp := .call c .ret

/-- `client.Get` of the Browser. -/
def getBrowser : Prog (Except ApiError Browser) := Prog.op .getBrowser

/-- `client.Get` of the pod. -/
def getPod : Prog (Except ApiError Pod) := Prog.op .getPod

/-- `client.Patch` of the Browser's metadata from `before` to `after`. -/
def patchBrowser (before after : Browser) : Prog (Except ApiError Unit) :=
  Prog.op (.patchBrowser before after)

/-- `client.Status().Patch` of the Browser's status from `before` to `after`. -/
def patchBrowserStatus (before after : Browser) : Prog (Except ApiError Unit) :=
  Prog.op (.patchBrowserStatus before after)

/-- `client.Delete` of the Browser. -/
def deleteBrowserCall : Prog (Except ApiError Unit) := Prog.op .deleteBrowser

/-- `client.Create` of a pod. -/
def createPodCall (pod : Pod) : Prog (Except ApiError Unit) := Prog.op (.createPod pod)

/-- `client.Delete` of the pod. -/
def deletePodCall (force : Bool) : Prog (Except ApiError Unit) := Prog.op (.deletePod force)

/-- `BrowserConfigStore.Get`. -/
def getConfig (ns browserName version : String) : Prog (Option (Option BrowserVersionConfigSpec)) :=
  Prog.op (.getConfig ns browserName version)

/-- `time.Now`. -/
def now : Prog Nat := Prog.op .now

end BrowserController
