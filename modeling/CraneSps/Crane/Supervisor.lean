import Mathlib.Data.List.Basic
import Mathlib.Data.List.Infix
import Mathlib.Logic.Function.Basic

/-!
# Supervisors

A supervisor keeps its workers by an id made of the topology and the name of
the task.  The processes of the workers are represented by what they have been
told, and the file service that brings the libraries is left out.
-/

namespace CraneSps
namespace Crane

/-- `SystemHelper::makeAddr`. -/
def makeAddr (ip : String) (port : Nat) : String :=
  "tcp://" ++ ip ++ ":" ++ toString port

/-- `SystemHelper::getLibraryName`. -/
def getLibraryName (topoId runName : String) : String :=
  ("lib" ++ topoId ++ "_" ++ runName ++ ".so").toLower

/-- `SystemHelper::getLibraryLocalPath`. -/
def getLibraryLocalPath (libname : String) : String :=
  "./" ++ libname

/-- `SystemHelper::isBolt`. -/
def isBolt (runName : String) : Bool :=
  decide ("Bolt".toList <:+: runName.toList) ||
    decide ("bolt".toList <:+: runName.toList)

/-- `Worker::ConnectionGroup`. -/
structure ConnectionGroup where
  childName : String
  grouping : String
  addresses : List String
  deriving DecidableEq

/-- A worker and its process. -/
structure Worker where
  id : String
  dataPort : Nat
  lib : String
  isBolt : Bool
  /-- The connections of the last `CONFIG_CONNS`. -/
  connectionGroups : List ConnectionGroup
  /-- The number of `START`s it has got. -/
  starts : Nat
  deriving DecidableEq

namespace Worker

/-- `configureConnections`: the old connections are closed. -/
def configureConnections
    (worker : Worker) (connectionGroups : List ConnectionGroup) : Worker :=
  { worker with connectionGroups := connectionGroups }

/-- `start`. -/
def start (worker : Worker) : Worker :=
  { worker with starts := worker.starts + 1 }

end Worker

/-- `Supervisor::Impl`. -/
structure Supervisor where
  workersMap : String → Option (List Worker)
  /-- The static counter of `nextAvailableWorkerPort`. -/
  port : Nat

/-- The `AddWorkerReply`. -/
structure AddWorkerReply where
  supervisorId : String
  topoId : String
  name : String
  ports : List Nat
  deriving DecidableEq

namespace Supervisor

def workerBasePort : Nat := 3000

/-- A supervisor that has just been started. -/
def initial : Supervisor where
  workersMap := fun _ => none
  port := workerBasePort

/-- `createWorkerId`. -/
def createWorkerId (topoId name : String) : String :=
  "ipc:///tmp/" ++ topoId ++ name

variable (supervisor : Supervisor)

/-- The workers created by one `ADD_WORKER` request. -/
def newWorkers
    (topoId runName name : String) (parallelismLevel : Nat) : List Worker :=
  (List.range parallelismLevel).map fun offset =>
    { id := createWorkerId topoId name
      dataPort := supervisor.port + offset
      lib := getLibraryLocalPath (getLibraryName topoId runName)
      isBolt := Crane.isBolt runName
      connectionGroups := []
      starts := 0 }

/-- `addWorker`, with the reply of the supervisor. -/
def addWorker
    (id topoId runName name : String) (parallelismLevel : Nat) :
    Supervisor × AddWorkerReply :=
  let workerId := createWorkerId topoId name
  let created := supervisor.newWorkers topoId runName name parallelismLevel
  ({ workersMap := Function.update supervisor.workersMap workerId
      (some ((supervisor.workersMap workerId).getD [] ++ created))
     port := supervisor.port + parallelismLevel },
    { supervisorId := id
      topoId := topoId
      name := name
      ports := created.map Worker.dataPort })

/-- Apply an operation to all workers of a task. -/
def forWorkers
    (topoId name : String) (operation : Worker → Worker) : Supervisor :=
  { supervisor with
    workersMap := Function.update supervisor.workersMap
      (createWorkerId topoId name)
      ((supervisor.workersMap (createWorkerId topoId name)).map
        (List.map operation)) }

/-- `configureConnections`. -/
def configureConnections
    (topoId name : String) (connectionGroups : List ConnectionGroup) :
    Supervisor :=
  supervisor.forWorkers topoId name fun worker =>
    worker.configureConnections connectionGroups

/-- `startWorker`. -/
def startWorker (topoId name : String) : Supervisor :=
  supervisor.forWorkers topoId name Worker.start

/-- `killWorker`. -/
def killWorker (topoId name : String) : Supervisor :=
  { supervisor with
    workersMap := Function.update supervisor.workersMap
      (createWorkerId topoId name) none }

end Supervisor

end Crane
end CraneSps
