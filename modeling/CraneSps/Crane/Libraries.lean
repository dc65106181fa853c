import CraneSps.Crane.Statuses
import CraneSps.Master.FileService

/-!
# The libraries of the workers

`compileTopology` compiles the sources of a submission and puts each library
into the replicated store.  A supervisor gets the library of a task before it
creates the workers, which load it from the local path when they are started.
The compile directory, the store and the local paths know a library by its name
only, and all but the first keep what they have under a name.
-/

namespace CraneSps
namespace Crane

open FileTransfer Master

/-- The library of the workers that an `ADD_WORKER` request of a submission has
created. -/
structure Load where
  supervisor : String
  name : String
  /-- What the submission has left in the compile directory. -/
  built : Option Bytes
  /-- What is at the local path. -/
  loaded : Option Bytes
  deriving DecidableEq

/-- The workers load what has been compiled. -/
def Load.Right (load : Load) : Prop :=
  load.built ≠ none ∧ load.loaded = load.built

instance (load : Load) : Decidable load.Right := by
  unfold Load.Right
  infer_instance

/-- Nimbus and the supervisors with their files. -/
structure Deployment where
  cluster : Cluster
  files : FileService String
  /-- The directory `tmp/code/` of Nimbus. -/
  code : String → Option Bytes
  /-- The libraries that the workers of submissions have loaded. -/
  loads : List Load

/-- What clients request, and nodes that join; the draws are those of
`replicateFile` for each library. -/
inductive SubmissionAction
  | join (id : String)
  | submit (topoId : String) (spec : TopologySpec)
  /-- The archive has the name that `Client::send` gives it. -/
  | send (topoId : String) (sources : List String) (archive : Bytes)
      (draws : List (List Nat))
  | start (topoId : String)
  | stop (topoId : String)
  | kill (topoId : String)
  deriving DecidableEq

namespace Cluster

variable (cluster : Cluster) (topoId : String)

/-- The `ADD_WORKER` requests of `prepareTopology`. -/
def workerRequests (members : List String) :
    Option (List (String × String × Nat)) :=
  (cluster.assignTasks topoId members).map Prod.snd

/-- The name of the library of a task. -/
def libraryName (name : String) : String :=
  getLibraryName topoId ((cluster.spec topoId).runname name)

end Cluster

namespace Deployment

/-- Nimbus has been started on a node. -/
def initial (id : String) (node : String → DFile) : Deployment where
  cluster :=
    { nimbus := Nimbus.initial id
      supervisor := fun _ => Supervisor.initial }
  files :=
    { members := [id]
      node := node
      fileMap := .empty }
  code := fun _ => none
  loads := []

variable (md5sum : Bytes → String) (compile : Bytes → String → Bytes)

/-- The loop of `compileTopology`: every library is compiled and put. -/
def compileSources (topoId : String) (archive : Bytes) :
    List String → List (List Nat) → Deployment → Option Deployment
  | [], _, deployment => some deployment
  | source :: sources, draws, deployment =>
      let libname := getLibraryName topoId source
      let library := compile archive source
      (deployment.files.put (.literal md5sum) deployment.cluster.nimbus.id
        libname library (draws.headD [])).bind fun files =>
          compileSources topoId archive sources draws.tail
            { deployment with
              files := files
              code := WriteOnce.replace deployment.code (libname, library) }

variable (deployment : Deployment)

/-- Carry out an operation of Nimbus. -/
def operate (operation : Operation) : Option Deployment :=
  (operation.execute deployment.cluster deployment.files.members).map
    fun cluster => { deployment with cluster := cluster }

/-- `compileTopology`: the compile directory is cleared first. -/
def compileTopology
    (topoId : String) (sources : List String) (archive : Bytes)
    (draws : List (List Nat)) : Option Deployment :=
  (compileSources md5sum compile topoId archive sources draws
    { deployment with code := fun _ => none }).bind fun compiled =>
      compiled.operate (.compile topoId)

/-- The supervisors get the libraries of their tasks. -/
def getLibraries
    (topoId : String) (requests : List (String × String × Nat)) :
    FileService String :=
  deployment.files.getAll (.literal md5sum)
    (requests.map fun (id, name, _) =>
      (id, deployment.cluster.libraryName topoId name))

/-- `prepareTopology`. -/
def prepareTopology (topoId : String) : Option Deployment :=
  (deployment.cluster.workerRequests topoId deployment.files.members).bind
    fun requests =>
      { deployment with
        files := deployment.getLibraries md5sum topoId requests
      }.operate (.prepare topoId)

/-- What the workers of some requests load. -/
def loadsOf
    (topoId : String) (requests : List (String × String × Nat)) : List Load :=
  requests.map fun (id, name, _) =>
    let libname := deployment.cluster.libraryName topoId name
    { supervisor := id
      name := name
      built := deployment.code libname
      loaded := (deployment.files.node id).disk libname }

/-- `prepareTopology` and `startTopology` after a submission. -/
def launch (topoId : String) : Option Deployment :=
  (deployment.prepareTopology md5sum topoId).bind fun prepared =>
    (prepared.operate (.start topoId)).map fun started =>
      let requests := (deployment.cluster.workerRequests topoId
        deployment.files.members).getD []
      { started with
        loads := deployment.loads ++ prepared.loadsOf topoId requests }

/-- The topology is tracked. -/
def Tracked (topoId : String) : Prop :=
  deployment.cluster.status topoId ≠ none

instance (topoId : String) : Decidable (deployment.Tracked topoId) := by
  unfold Tracked
  infer_instance

/-- A request with all that follows it. -/
def step : SubmissionAction → Option Deployment
  | .join id =>
      if id ∈ deployment.files.members then none
      else
        some
          { deployment with
            files :=
              { deployment.files with
                members := deployment.files.members.orderedInsert (· ≤ ·)
                  id } }
  | .submit topoId spec =>
      if deployment.Tracked topoId then some deployment
      else
        some
          { deployment with cluster := deployment.cluster.submit topoId spec }
  | .send topoId sources archive draws =>
      (deployment.compileTopology md5sum compile topoId sources archive
        draws).bind fun compiled => compiled.launch md5sum topoId
  | .start topoId =>
      if deployment.Tracked topoId then
        (deployment.prepareTopology md5sum topoId).bind fun prepared =>
          prepared.operate (.start topoId)
      else some deployment
  | .stop topoId =>
      if deployment.Tracked topoId then deployment.operate (.stop topoId)
      else some deployment
  | .kill topoId =>
      if deployment.Tracked topoId then deployment.operate (.kill topoId)
      else some deployment

end Deployment

/-- Submissions to Nimbus on a node. -/
def deploymentSystem
    (md5sum : Bytes → String) (compile : Bytes → String → Bytes) (id : String)
    (node : String → DFile) : TransitionSystem Deployment SubmissionAction where
  initial := Deployment.initial id node
  step := Deployment.step md5sum compile

/-- The libraries of a submission with their names. -/
def libraries
    (compile : Bytes → String → Bytes) (topoId : String)
    (sources : List String) (archive : Bytes) : List (String × Bytes) :=
  sources.map fun source =>
    (getLibraryName topoId source, compile archive source)

/-- For every worker that is going to be created, the library has a source, and
the first of these that exists is the library: the file at the local path, the
file of the store, and the library of the first source with its name. -/
def Fresh
    (compile : Bytes → String → Bytes) (deployment : Deployment) :
    SubmissionAction → Prop
  | .send topoId sources archive _ =>
      ∀ requests ∈ deployment.cluster.workerRequests topoId
          deployment.files.members,
        ∀ request ∈ requests,
          let libname := deployment.cluster.libraryName topoId request.2.1
          let compiled := libraries compile topoId sources archive
          WriteOnce.last compiled libname ≠ none ∧
            (((deployment.files.node request.1).disk libname).or
              (deployment.files.held libname)).or
                (WriteOnce.first compiled libname) =
              WriteOnce.last compiled libname
  | _ => True

instance (compile : Bytes → String → Bytes) (deployment : Deployment)
    (action : SubmissionAction) :
    Decidable (Fresh compile deployment action) := by
  rcases action <;> unfold Fresh <;> infer_instance

variable {md5sum : Bytes → String} {compile : Bytes → String → Bytes}
variable {deployment next : Deployment} {topoId : String}

theorem head?_getLibraryName (topoId runName : String) :
    (getLibraryName topoId runName).toList.head? = some 'l' := by
  have lower : (getLibraryName topoId runName).toList =
      ("lib" ++ topoId ++ "_" ++ runName ++ ".so").toList.map Char.toLower :=
    String.toList_map
  simp [lower]

/-- A library is outside of the directory of the file service. -/
theorem local_getLibraryName (topoId runName : String) :
    FileService.Local (getLibraryName topoId runName) := by
  intro filename same
  have first := head?_getLibraryName topoId runName
  rw [same, DFile.filePath] at first
  simp [DFile.fileRoot] at first

theorem getLibraryName_ne_empty (topoId runName : String) :
    getLibraryName topoId runName ≠ "" := by
  intro same
  have first := head?_getLibraryName topoId runName
  rw [same] at first
  cases first

namespace Cluster

variable {cluster : Cluster} {name : String} {members : List String}

/-- A compilation changes a status only. -/
theorem spec_compileTopology :
    (cluster.compileTopology topoId).spec topoId = cluster.spec topoId :=
  TopoStats.getTopoSpec_setTopoStatus

theorem libraryName_compileTopology :
    (cluster.compileTopology topoId).libraryName topoId name =
      cluster.libraryName topoId name := by
  rw [libraryName, spec_compileTopology, libraryName]

theorem workerRequests_compileTopology :
    (cluster.compileTopology topoId).workerRequests topoId members =
      cluster.workerRequests topoId members := by
  have sameTasks : ((cluster.compileTopology
        topoId).nimbus.topoStats.getTopoSpec topoId).tasks =
      (cluster.nimbus.topoStats.getTopoSpec topoId).tasks :=
    congrArg TopologySpec.tasks spec_compileTopology
  rw [workerRequests, workerRequests, assignTasks_eq, assignTasks_eq,
    Option.map_map, Option.map_map, sameTasks]
  rfl

theorem local_libraryName :
    FileService.Local (cluster.libraryName topoId name) :=
  local_getLibraryName _ _

end Cluster

/-- The node of Nimbus is a member, and the store is consistent. -/
structure Deployment.Sound (deployment : Deployment) : Prop where
  consistent : deployment.files.Consistent
  isMember : deployment.cluster.nimbus.id ∈ deployment.files.members

namespace Deployment

/-- An operation of Nimbus changes no files. -/
theorem operate_eq_some
    {operation : Operation}
    (operated : deployment.operate operation = some next) :
    next.files = deployment.files ∧ next.code = deployment.code ∧
      next.loads = deployment.loads ∧
      operation.execute deployment.cluster deployment.files.members =
        some next.cluster := by
  obtain ⟨cluster, executed, rfl⟩ := Option.map_eq_some_iff.mp operated
  exact ⟨rfl, rfl, rfl, executed⟩

/-- Neither the store nor what the workers have loaded has changed. -/
structure Kept (deployment next : Deployment) : Prop where
  sound : next.Sound
  held : next.files.held = deployment.files.held
  loads : next.loads = deployment.loads

theorem Kept.refl (sound : deployment.Sound) : Kept deployment deployment :=
  ⟨sound, rfl, rfl⟩

theorem Kept.trans
    {middle : Deployment} (first : Kept deployment middle)
    (second : Kept middle next) : Kept deployment next :=
  ⟨second.sound, second.held.trans first.held,
    second.loads.trans first.loads⟩

theorem Sound.operate
    (sound : deployment.Sound) {operation : Operation}
    (operated : deployment.operate operation = some next) :
    Kept deployment next := by
  obtain ⟨sameFiles, _, sameLoads, executed⟩ := operate_eq_some operated
  refine ⟨⟨sameFiles ▸ sound.consistent, ?_⟩, by rw [sameFiles], sameLoads⟩
  rw [Operation.id_execute executed, sameFiles]
  exact sound.isMember

/-- What compiling some sources leaves. -/
structure Compiles
    (deployment next : Deployment) (writes : List (String × Bytes)) :
    Prop where
  sound : next.Sound
  members : next.files.members = deployment.files.members
  cluster : next.cluster = deployment.cluster
  loads : next.loads = deployment.loads
  held : next.files.held =
    writes.foldl WriteOnce.put deployment.files.held
  code : next.code = writes.foldl WriteOnce.replace deployment.code
  outside : ∀ id path, FileService.Local path →
    (next.files.node id).disk path = (deployment.files.node id).disk path

/-- The store keeps the first library of a name, the compile directory the
last. -/
theorem Sound.compileSources
    (sound : deployment.Sound) {archive : Bytes}
    (fetchable : ∀ source, FileService.Fetchable (compile archive source))
    {sources : List String} {draws : List (List Nat)}
    (compiled : compileSources md5sum compile topoId archive sources draws
      deployment = some next) :
    Compiles deployment next (libraries compile topoId sources archive) := by
  induction sources generalizing deployment draws with
  | nil =>
      obtain rfl := Option.some.inj compiled
      exact ⟨sound, rfl, rfl, rfl, rfl, rfl, fun _ _ _ => rfl⟩
  | cons source sources inductionHypothesis =>
      obtain ⟨files, isPut, rest⟩ := Option.bind_eq_some_iff.mp compiled
      obtain ⟨consistent, members, held, outside⟩ :=
        sound.consistent.put sound.isMember (fetchable source) isPut
      have still : Sound
          { deployment with
            files := files
            code := WriteOnce.replace deployment.code
              (getLibraryName topoId source, compile archive source) } :=
        ⟨consistent, members.symm ▸ sound.isMember⟩
      have final := inductionHypothesis still rest
      exact
        { sound := final.sound
          members := final.members.trans members
          cluster := final.cluster
          loads := final.loads
          held := by
            rw [final.held, held]
            rfl
          code := final.code
          outside := fun id path isLocal =>
            (final.outside id path isLocal).trans (outside id path isLocal) }

/-- The supervisors have the libraries of their tasks, and the store is as
before. -/
theorem Sound.prepareTopology
    (sound : deployment.Sound)
    (prepared : deployment.prepareTopology md5sum topoId = some next) :
    Kept deployment next ∧ next.code = deployment.code ∧
      next.cluster.spec topoId = deployment.cluster.spec topoId ∧
      ∃ requests, deployment.cluster.workerRequests topoId
          deployment.files.members = some requests ∧
        ∀ request ∈ requests,
          let libname := deployment.cluster.libraryName topoId request.2.1
          (next.files.node request.1).disk libname =
            some ((((deployment.files.node request.1).disk libname).or
              (deployment.files.held libname)).getD []) := by
  obtain ⟨requests, isRequests, operated⟩ :=
    Option.bind_eq_some_iff.mp prepared
  let pairs := requests.map fun (id, name, _) =>
    (id, deployment.cluster.libraryName topoId name)
  have isLibrary (pair : String × String) (present : pair ∈ pairs) :
      FileService.Local pair.2 ∧ pair.2 ≠ "" := by
    obtain ⟨request, _, rfl⟩ := List.mem_map.mp present
    exact ⟨local_getLibraryName _ _, getLibraryName_ne_empty _ _⟩
  obtain ⟨consistent, members, held, atPath⟩ :=
    @FileService.Consistent.getAll _ _ (.literal md5sum) _ sound.consistent
      pairs (fun pair present => (isLibrary pair present).1)
      (fun pair present => (isLibrary pair present).2)
      fun _ _ => ⟨rfl, rfl⟩
  have gets : Kept deployment
      { deployment with
        files := deployment.getLibraries md5sum topoId requests } :=
    ⟨⟨consistent, members.symm ▸ sound.isMember⟩, held, rfl⟩
  obtain ⟨sameFiles, sameCode, _, executed⟩ := operate_eq_some operated
  refine ⟨gets.trans (gets.sound.operate operated), sameCode,
    Operation.spec_execute executed nofun, requests, isRequests,
    fun request present => ?_⟩
  have isPair : (request.1,
      deployment.cluster.libraryName topoId request.2.1) ∈ pairs :=
    List.mem_map_of_mem present
  rw [sameFiles]
  exact (atPath _ _ Cluster.local_libraryName).trans (if_pos isPair)

/-- What the workers load that are created after a compilation. -/
theorem Sound.launch
    (sound : deployment.Sound)
    (launched : deployment.launch md5sum topoId = some next) :
    next.Sound ∧ next.files.held = deployment.files.held ∧
      ∃ requests, deployment.cluster.workerRequests topoId
          deployment.files.members = some requests ∧
        next.loads = deployment.loads ++
          requests.map fun request =>
            let libname := deployment.cluster.libraryName topoId request.2.1
            { supervisor := request.1
              name := request.2.1
              built := deployment.code libname
              loaded := some ((((deployment.files.node request.1).disk
                libname).or (deployment.files.held libname)).getD []) } := by
  obtain ⟨prepared, isPrepared, rest⟩ := Option.bind_eq_some_iff.mp launched
  obtain ⟨started, operated, rfl⟩ := Option.map_eq_some_iff.mp rest
  obtain ⟨kept, sameCode, sameSpec, requests, isRequests, loaded⟩ :=
    sound.prepareTopology isPrepared
  have final := kept.trans (kept.sound.operate operated)
  refine ⟨⟨final.sound.consistent, final.sound.isMember⟩, final.held,
    requests, isRequests, ?_⟩
  simp only [isRequests, Option.getD_some, loadsOf]
  congr 1
  apply List.map_congr_left
  rintro ⟨id, name, count⟩ present
  have atPath := loaded (id, name, count) present
  have sameName : prepared.cluster.libraryName topoId name =
      deployment.cluster.libraryName topoId name := by
    rw [Cluster.libraryName, sameSpec, Cluster.libraryName]
  simp only [sameName, sameCode]
  rw [atPath]

/-- A submission: every worker loads the first that exists of the file at the
local path, the file of the store, and the first library of the name. -/
theorem Sound.send
    (sound : deployment.Sound) {sources : List String} {archive : Bytes}
    {draws : List (List Nat)}
    (fetchable : ∀ source, FileService.Fetchable (compile archive source))
    (stepped : deployment.step md5sum compile
      (.send topoId sources archive draws) = some next) :
    next.Sound ∧
      next.files.held = (libraries compile topoId sources archive).foldl
        WriteOnce.put deployment.files.held ∧
      ∃ requests, deployment.cluster.workerRequests topoId
          deployment.files.members = some requests ∧
        next.loads = deployment.loads ++
          requests.map fun request =>
            let libname := deployment.cluster.libraryName topoId request.2.1
            let compiled := libraries compile topoId sources archive
            { supervisor := request.1
              name := request.2.1
              built := WriteOnce.last compiled libname
              loaded := some (((((deployment.files.node request.1).disk
                libname).or (deployment.files.held libname)).or
                  (WriteOnce.first compiled libname)).getD []) } := by
  obtain ⟨compiled, isCompiled, launched⟩ := Option.bind_eq_some_iff.mp stepped
  obtain ⟨middle, looped, operated⟩ := Option.bind_eq_some_iff.mp isCompiled
  have cleared : Sound { deployment with code := fun _ => none } :=
    ⟨sound.consistent, sound.isMember⟩
  have compiles := cleared.compileSources fetchable looped
  obtain ⟨sameFiles, sameCode, sameLoads, executed⟩ := operate_eq_some operated
  obtain ⟨still, held, requests, isRequests, loads⟩ :=
    (compiles.sound.operate operated).sound.launch launched
  have isCluster : compiled.cluster =
      deployment.cluster.compileTopology topoId := by
    rw [← Option.some.inj executed, compiles.cluster]
  have members : compiled.files.members = deployment.files.members := by
    rw [sameFiles, compiles.members]
  rw [isCluster, members,
    Cluster.workerRequests_compileTopology] at isRequests
  refine ⟨still, ?_, requests, isRequests, ?_⟩
  · rw [held, sameFiles, compiles.held]
  · rw [loads, sameLoads, compiles.loads]
    congr 1
    apply List.map_congr_left
    intro request _
    simp only [isCluster, Cluster.libraryName_compileTopology]
    rw [sameCode, sameFiles, compiles.code, compiles.held,
      compiles.outside _ _ Cluster.local_libraryName, WriteOnce.foldl_replace,
      WriteOnce.foldl_put, Option.or_none, Option.or_assoc]

/-- A new node brings nothing to the store. -/
theorem Sound.join
    (sound : deployment.Sound) (id : String) :
    Kept deployment
      { deployment with
        files :=
          { deployment.files with
            members := deployment.files.members.orderedInsert (· ≤ ·)
              id } } := by
  have old := sound.consistent
  have isMember {other : String} (present : other ∈ deployment.files.members) :
      other ∈ deployment.files.members.orderedInsert (· ≤ ·) id :=
    (List.mem_orderedInsert _).mpr (.inr present)
  have consistent : FileService.Consistent
      { deployment.files with
        members := deployment.files.members.orderedInsert (· ≤ ·) id } :=
    { old with
      members := fun other filename holds =>
        isMember (old.members other filename holds) }
  refine ⟨⟨consistent, isMember sound.isMember⟩, ?_, rfl⟩
  funext name
  apply Option.ext
  intro content
  exact consistent.held_eq_some_iff.trans old.held_eq_some_iff.symm

/-- The requests for an untracked topology do nothing. -/
theorem Sound.ifTracked
    (sound : deployment.Sound) {changed : Option Deployment}
    (result : (if deployment.Tracked topoId then changed
      else some deployment) = some next)
    (keeps : changed = some next → Kept deployment next) :
    Kept deployment next := by
  split at result
  · exact keeps result
  · obtain rfl := Option.some.inj result
    exact .refl sound

/-- No other action changes the store or creates workers of a submission. -/
theorem Sound.step
    (sound : deployment.Sound) {action : SubmissionAction}
    (notSend : ∀ topoId sources archive draws,
      action ≠ .send topoId sources archive draws)
    (stepped : deployment.step md5sum compile action = some next) :
    Kept deployment next := by
  cases action with
  | join id =>
      obtain ⟨_, joined⟩ := Option.ite_none_left_eq_some.mp stepped
      obtain rfl := Option.some.inj joined
      exact sound.join id
  | submit topoId spec =>
      simp only [Deployment.step] at stepped
      split at stepped
      · obtain rfl := Option.some.inj stepped
        exact .refl sound
      · obtain rfl := Option.some.inj stepped
        exact ⟨⟨sound.consistent, sound.isMember⟩, rfl, rfl⟩
  | send topoId sources archive draws =>
      exact absurd rfl (notSend topoId sources archive draws)
  | start topoId =>
      refine sound.ifTracked stepped fun changed => ?_
      obtain ⟨prepared, isPrepared, operated⟩ :=
        Option.bind_eq_some_iff.mp changed
      obtain ⟨kept, _⟩ := sound.prepareTopology isPrepared
      exact kept.trans (kept.sound.operate operated)
  | stop topoId => exact sound.ifTracked stepped sound.operate
  | kill topoId => exact sound.ifTracked stepped sound.operate

/-- A worker has the right library exactly if there is one and the first of
what it could load is the last that has been compiled. -/
theorem right_iff
    {id name : String} {available first last : Option Bytes}
    (either : first = none ↔ last = none) :
    Load.Right ⟨id, name, last, some ((available.or first).getD [])⟩ ↔
      last ≠ none ∧ available.or first = last := by
  refine and_congr_right fun isBuilt => ?_
  obtain ⟨library, isFirst⟩ :=
    Option.ne_none_iff_exists'.mp fun nothing => isBuilt (either.mp nothing)
  cases available with
  | none => simp [isFirst]
  | some old => simp

/-- The workers of a submission get the right libraries exactly if it is
fresh. -/
theorem Sound.fresh_iff
    (sound : deployment.Sound) {sources : List String} {archive : Bytes}
    {draws : List (List Nat)}
    (fetchable : ∀ source, FileService.Fetchable (compile archive source))
    (stepped : deployment.step md5sum compile
      (.send topoId sources archive draws) = some next)
    (right : ∀ load ∈ deployment.loads, load.Right) :
    Fresh compile deployment (.send topoId sources archive draws) ↔
      ∀ load ∈ next.loads, load.Right := by
  obtain ⟨_, _, requests, isRequests, loads⟩ := sound.send fetchable stepped
  rw [loads, List.forall_mem_append, and_iff_right right, List.forall_mem_map,
    Fresh, isRequests]
  simp only [Option.mem_some_iff, forall_eq']
  refine forall₂_congr fun request _ => ?_
  exact (right_iff WriteOnce.first_eq_none_iff).symm

/-- The files are cleared when a node is started. -/
theorem sound_initial
    {id : String} {node : String → DFile}
    (clean : ∀ id, (node id).localFiles = [] ∧
      ∀ filename, (node id).stored filename = none) :
    (initial id node).Sound := by
  have nothing (other : String) (filename : String) :
      ¬ (node other).Registers filename := by
    rw [DFile.registers_iff, (clean other).1]
    rintro ⟨_, isFile, _⟩
    cases isFile
  refine ⟨?_, List.mem_singleton_self id⟩
  exact
    { distinct := fun other => by simp [initial, (clean other).1]
      known := fun other filename =>
        ⟨fun known => absurd known Bool.false_ne_true,
          fun holds => absurd holds (nothing other filename)⟩
      members := fun other filename holds =>
        absurd holds (nothing other filename)
      complete := fun other filename =>
        iff_of_false (not_not_intro ((clean other).2 filename))
          (nothing other filename)
      same := fun other _ filename holds =>
        absurd holds (nothing other filename)
      fetchable := fun other filename content present =>
        nomatch ((clean other).2 filename).symm.trans present }

end Deployment

/-- A topology whose libraries are new, with one name for each, is fresh. -/
theorem fresh_of_new
    {sources : List String} {archive : Bytes} {draws : List (List Nat)}
    (distinct : (sources.map (getLibraryName topoId)).Nodup)
    (new : ∀ requests ∈ deployment.cluster.workerRequests topoId
        deployment.files.members,
      ∀ request ∈ requests,
        let libname := deployment.cluster.libraryName topoId request.2.1
        libname ∈ sources.map (getLibraryName topoId) ∧
          (deployment.files.node request.1).disk libname = none ∧
          deployment.files.held libname = none) :
    Fresh compile deployment (.send topoId sources archive draws) := by
  intro requests isRequests request present
  obtain ⟨hasSource, notLocal, notHeld⟩ :=
    new requests isRequests request present
  have sameNames : (libraries compile topoId sources archive).map Prod.fst =
      sources.map (getLibraryName topoId) := by
    rw [libraries, List.map_map]
    rfl
  simp only [notLocal, notHeld, Option.none_or]
  refine ⟨fun nothing => ?_,
    WriteOnce.first_eq_last (sameNames.symm ▸ distinct)⟩
  exact WriteOnce.last_eq_none_iff.mp nothing (sameNames.symm ▸ hasSource)

/-- The store never changes what it has under a name. -/
theorem held_of_runs
    {id : String} {node : String → DFile}
    (nonempty : ∀ archive source, compile archive source ≠ [])
    (fits : ∀ archive source,
      List.chunkCount 256000 (compile archive source).length < 2 ^ 31)
    {trace : List SubmissionAction} {finish : Deployment}
    {filename : String} {content : Bytes}
    (sound : deployment.Sound)
    (isHeld : deployment.files.held filename = some content)
    (runs : (deploymentSystem md5sum compile id node).Runs deployment trace
      finish) :
    finish.files.held filename = some content := by
  have fetchable (archive : Bytes) (source : String) :
      FileService.Fetchable (compile archive source) :=
    ⟨nonempty archive source, fits archive source⟩
  refine (runs.invariant
    (fun state => state.Sound ∧ state.files.held filename = some content)
    ?_ ⟨sound, isHeld⟩).2
  rintro state action next ⟨before, kept⟩ stepped
  change state.step md5sum compile action = some next at stepped
  cases action with
  | send topoId sources archive draws =>
      obtain ⟨still, held, _⟩ := before.send (fetchable archive) stepped
      refine ⟨still, ?_⟩
      rw [held, WriteOnce.foldl_put, kept, Option.some_or]
  | join id | submit topoId spec | start topoId | stop topoId
  | kill topoId =>
      have keeps := before.step (by nofun) stepped
      exact ⟨keeps.sound, keeps.held ▸ kept⟩

/-- A compiler that takes the first byte of the archive. -/
def firstByte (archive : Bytes) (_ : String) : Bytes :=
  [archive.headD 0]

theorem firstByte_ne_nil (archive : Bytes) (source : String) :
    firstByte archive source ≠ [] := List.cons_ne_nil _ _

theorem firstByte_fits (archive : Bytes) (source : String) :
    List.chunkCount 256000 (firstByte archive source).length < 2 ^ 31 := by
  change List.chunkCount 256000 1 < 2 ^ 31
  decide

theorem emptyNode_clean (id : String) :
    (emptyNode id).localFiles = [] ∧
      ∀ filename, (emptyNode id).stored filename = none :=
  ⟨rfl, fun _ => rfl⟩

/-- A topology with one spout is submitted and sent. -/
def firstSubmission : List SubmissionAction :=
  [.join "b", .submit "T" { spoutSpecs := [{ name := "numbers" }] },
    .send "T" ["run"] [7] [[1, 0]]]

/-- The topology is killed, and submitted and sent with another archive. -/
def secondSubmission : List SubmissionAction :=
  firstSubmission ++
    [.kill "T", .submit "T" { spoutSpecs := [{ name := "numbers" }] },
      .send "T" ["run"] [8] [[1, 0]]]

end Crane
end CraneSps
