import Muster.Dispatcher
import Muster.Provider.Simulated

/-!
Rehearsing a topology on a simulated provider. A rehearsed handler has a list of
actions for each hook and writes a line to the log whenever it is called, so that
the log tells in which order hooks came and what they found.
-/

namespace Muster

namespace Provider

variable {σ τ : Type}

def within (provider : Provider σ) (part : τ → σ) (replace : τ → σ → τ) : Provider τ :=
  let lift {α : Type} (request : σ → α × σ) (whole : τ) : α × τ :=
    let (answer, changed) := request (part whole)
    (answer, replace whole changed)
  { beginCreate spec := lift (provider.beginCreate spec)
    finishCreate spec := lift (provider.finishCreate spec)
    dropCreate spec whole := replace whole (provider.dropCreate spec (part whole))
    readyMillis node whole := provider.readyMillis node (part whole)
    checkReady node := lift (provider.checkReady node)
    destroy ids := lift (provider.destroy ids)
    resolveHosts node := lift (provider.resolveHosts node)
    runScript node script := lift (provider.runScript node script)
    authorize targets := lift (provider.authorize targets) }

def resolveAll (provider : Provider σ) :
    List Instance → Cluster → σ → Except ProviderError Unit × Cluster × σ
  | [], cluster, state => (.ok (), cluster, state)
  | machine :: rest, cluster, state =>
      match provider.hosts machine state with
      | (.error error, answered) => (.error error, cluster, answered)
      | (.ok hosts, answered) =>
          provider.resolveAll rest (cluster.rememberHosts machine.id hosts) answered

end Provider

structure Rehearsal where
  simulation : Simulation
  log : List String

namespace Rehearsal

def new : Rehearsal := ⟨.new, []⟩

def provider : Provider Rehearsal :=
  Simulation.provider.within Rehearsal.simulation fun rehearsal simulation =>
    { rehearsal with simulation }

inductive Action where
  | queue (role : Option String) (statement : Statement)
  | addRule (rule : FirewallRule)
  | setExport (id key value : String)
  | setProperty (key value : String)
  | setProperties (properties : SortedMap String String)
  | locate (role : String)
  | checkDisjoint (a b : String)
  | resolveAll
  | fail (text : String)

namespace Action

def perform (role : String) (action : Action) (event : PhaseEvent Rehearsal) :
    Except Error Unit × PhaseEvent Rehearsal :=
  match action with
  | queue target statement =>
      (.ok (), { event with queue := event.queue.add (target.getD role) statement })
  | addRule rule => (.ok (), { event with firewall := event.firewall.addRule rule })
  | setExport id key value => (.ok (), { event with queue := event.queue.setExport id key value })
  | setProperty key value => (.ok (), { event with cluster := event.cluster.setProperty key value })
  | setProperties properties =>
      (.ok (), { event with cluster := event.cluster.setProperties properties })
  | locate sought =>
      match event.cluster.locateUnique sought with
      | .error fault => (.error (.placement (.plain fault)), event)
      | .ok machine =>
          (.ok (), { event with
            cluster := event.cluster.setProperty ("unique." ++ sought) machine.id })
  | checkDisjoint a b =>
      match event.cluster.checkDisjoint a b with
      | .error fault => (.error (.placement (.plain fault)), event)
      | .ok () => (.ok (), event)
  | resolveAll =>
      let (result, cluster, answered) :=
        Rehearsal.provider.resolveAll event.cluster.instances event.cluster event.provider
      (result.mapError .provider, { event with cluster, provider := answered })
  | fail text => (.error (.note text), event)

end Action

def logLine (hook : Hook) (phase : Phase) (role : String) (event : PhaseEvent Rehearsal) : String :=
  hook.name ++ ":" ++ phase.name ++ ":" ++ role ++ " instances=" ++ toString event.cluster.size ++
    " queued=" ++ toString (!event.queue.isEmpty) ++
    " rules=" ++ toString event.firewall.rules.length

def writeLog (line : String) (event : PhaseEvent Rehearsal) : PhaseEvent Rehearsal :=
  { event with provider := { event.provider with log := event.provider.log ++ [line] } }

def handler (role : String) (disallowed : List String) (actions : Hook → Phase → List Action) :
    Handler Rehearsal where
  role
  disallowed
  hook hook phase _ event :=
    inOrder (Action.perform role) (actions hook phase)
      (writeLog (logLine hook phase role event) event)

end Rehearsal

end Muster
