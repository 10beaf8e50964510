import BrowserController.Kube.Core
import BrowserController.Config.Types
import BrowserController.Config.Merge
import BrowserController.Config.MergeLaws
import BrowserController.Store.Basic
import BrowserController.Store.Events
import BrowserController.Browser.Types
import BrowserController.Browser.Status
import BrowserController.Browser.Pod
import BrowserController.Browser.BuildPod
import BrowserController.Api.Prog
import BrowserController.Api.Server
import BrowserController.Api.Wp
import BrowserController.Browser.Reconcile
import BrowserController.Browser.Grounds
import BrowserController.Browser.System
import BrowserController.Config.Reconcile
import BrowserController.Browser.Lifecycle
import BrowserController.Browser.Finalizer
import BrowserController.Browser.StatusSync
import BrowserController.Browser.SingleRun
import BrowserController.Browser.Deletion
import BrowserController.Browser.Stuck
import BrowserController.Browser.Steady
import BrowserController.Browser.Startup
