import Muster.Dispatcher
import Muster.Provider.Simulated
import Muster.Store

/-!
Operations on a cluster from end to end. Each is a short list of steps: the manifest
is loaded, phases are run, and the manifest is saved after each of them or deleted at
the end, so that a later operation finds the cluster by its name. The first step that
fails ends the operation.
-/

namespace Muster

inductive Operation where
  | launch
  | configure
  | start
  | stop
  | destroy
  | list
  deriving DecidableEq, Repr

inductive ControlStep where
  | load
  | run (phase : Phase)
  | save
  | delete
  deriving DecidableEq, Repr

def Operation.steps : Operation → List ControlStep
  | launch => [.run .bootstrap, .save, .run .configure, .save, .run .start, .save]
  | configure => [.load, .run .configure, .save]
  | start => [.load, .run .start, .save]
  | stop => [.load, .run .stop, .save]
  | destroy => [.load, .run .cleanup, .delete]
  | list => [.load]

structure Site (σ : Type) where
  provider : σ
  storage : Storage
  now : Nat
  moment : Timestamp

structure Controller (σ : Type) where
  topology : Topology
  provider : Provider σ
  backend : Backend
  registry : Registry σ
  options : LaunchOptions

structure Progress (σ : Type) where
  site : Site σ
  cluster : Cluster
  firewall : Firewall
  deeds : List Deed

namespace Controller

variable {σ : Type}

/-- A controller in which every role of the topology that has no handler gets a
scripted one. -/
def new (topology : Topology) (provider : Provider σ) (backend : Backend) (registry : Registry σ) :
    Controller σ :=
  ⟨topology, provider, backend, registry.withScripted topology, .none⟩

def withOptions (controller : Controller σ) (options : LaunchOptions) : Controller σ :=
  { controller with options }

def register (controller : Controller σ) (handler : Handler σ) : Controller σ :=
  { controller with registry := controller.registry.register handler }

def load (controller : Controller σ) (progress : Progress σ) : Except Error Unit × Progress σ :=
  let site := progress.site
  match controller.backend.loadCluster controller.topology.clusterName site.storage with
  | (.ok cluster, storage) => (.ok (), { progress with site := { site with storage }, cluster })
  | (.error error, storage) =>
      (.error (.store error), { progress with site := { site with storage } })

def run (controller : Controller σ) (phase : Phase) (progress : Progress σ) :
    Except Error Unit × Progress σ :=
  let dispatcher : Dispatcher σ :=
    ⟨controller.provider, controller.registry, progress.firewall, controller.options⟩
  let outcome := dispatcher.run phase controller.topology progress.cluster progress.site.now
    progress.site.provider
  (outcome.result,
    { site := { progress.site with provider := outcome.state, now := outcome.now }
      cluster := outcome.cluster
      firewall := outcome.dispatcher.firewall
      deeds := progress.deeds ++ outcome.deeds })

def save (controller : Controller σ) (progress : Progress σ) : Except Error Unit × Progress σ :=
  let site := progress.site
  let (result, storage) := controller.backend.saveCluster progress.cluster site.moment site.storage
  (result.mapError .store, { progress with site := { site with storage } })

def delete (controller : Controller σ) (progress : Progress σ) : Except Error Unit × Progress σ :=
  let site := progress.site
  let (result, storage) := controller.backend.delete progress.cluster.name site.storage
  (result.mapError .store, { progress with site := { site with storage } })

def perform (controller : Controller σ) : ControlStep → Progress σ → Except Error Unit × Progress σ
  | .load => controller.load
  | .run phase => controller.run phase
  | .save => controller.save
  | .delete => controller.delete

def begin (controller : Controller σ) (site : Site σ) : Progress σ :=
  ⟨site, .new controller.topology.clusterName, .forTopology controller.topology, []⟩

def execute (controller : Controller σ) (operation : Operation) (site : Site σ) :
    Except Error Cluster × Progress σ :=
  let (result, ended) := inOrder controller.perform operation.steps (controller.begin site)
  (result.map fun () => ended.cluster, ended)

end Controller

def Controller.create (topology : Topology) (home : String) :
    Except ConfigError (Controller Simulation) :=
  if topology.isSimulated then
    match Backend.forTopology topology home false with
    | .error error => .error error
    | .ok backend => .ok (.new topology Simulation.provider backend SortedMap.empty)
  else .error (.providerUnavailable topology.provider)

end Muster
