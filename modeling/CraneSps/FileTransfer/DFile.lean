import CraneSps.FileTransfer.Shell

/-!
# The file service of one node

`DFile` without its sockets: the files on disk, the local file map and the
chunk counters that all transfers of the node share.  Checksums are computed,
and fetched files are moved, by commands of the shell, which is a parameter.
-/

namespace CraneSps
namespace FileTransfer

/-- Conversion of a wider integer to `int`. -/
def toInt (value : Int) : Int :=
  value.bmod (2 ^ 32)

theorem toInt_of_lt
    {value : Nat} (bound : value < 2 ^ 31) : toInt value = value := by
  unfold toInt
  rw [Int.bmod_eq_of_le] <;> omega

/-- An `int` is always smaller than `2 ^ 31`. -/
theorem toInt_lt (value : Int) : toInt value < 2 ^ 31 := by
  have small : toInt value < (2 ^ 32 + 1) / 2 := Int.bmod_lt (by decide)
  omega

/-- `FileInfo`, whose size is an `int`. -/
structure FileInfo where
  name : String
  md5 : String
  size : Int
  deriving DecidableEq

/-- The constructor of `FileInfo`. -/
def FileInfo.new (filename filemd5 : String) (filesize : Int) : FileInfo where
  name := filename
  md5 := filemd5
  size := toInt filesize

/-- The `FETCH_REQ` message. -/
structure FetchRequest where
  filename : String
  port : Int
  chunkid : Int
  deriving DecidableEq

/-- The `FETCH_REP` message.  All fields are required, but the sender may have
left some of them unset. -/
structure FetchReply where
  filename : Option String
  chunkid : Option Int
  data : Option Bytes
  chunksize : Option Int
  deriving DecidableEq

/-- The `SEND_REQ` message. -/
structure SendRequest where
  senderip : String
  filename : String
  filemd5 : String
  filesize : Int
  chunksize : Int
  port : Int
  filepath : Option String
  deriving DecidableEq

/-- The state of `DFile::Impl`. -/
structure DFile where
  id : String
  /-- The files of the machine by path. -/
  disk : Disk
  /-- The entry of `fileMap` for the node itself. -/
  localFiles : List FileInfo
  clientChunkCountMap : String → Int
  serverChunkCountMap : Int → Int
  filePathBuf : String → String

namespace DFile

def chunkSize : Int := 1024 * 250

/-- Write a file, replacing what was there. -/
def write (node : DFile) (path : String) (content : Bytes) : DFile :=
  { node with disk := Function.update node.disk path (some content) }

/-- `SystemHelper::getmd5`. -/
def getmd5 (shell : Shell) (node : DFile) (path : String) : String :=
  match node.disk path with
  | some _ => substr (shell.md5sum node.disk path) 32
  | none => ""

/-- `FileHelper::getSize` of a freshly constructed helper. -/
def getSize (node : DFile) (path : String) : Int :=
  (FileHelper.new (node.disk path) chunkSize).getSize
    ((node.disk path).getD [])

/-- `checkFileAvailable`: no file of this name is registered. -/
def checkFileAvailable (node : DFile) (filename : String) : Bool :=
  node.localFiles.all fun info => info.name != filename

/-- `addToLocalFileMap`. -/
def addToLocalFileMap
    (shell : Shell) (node : DFile) (filename : String) : DFile :=
  if node.checkFileAvailable filename then
    { node with
      localFiles := node.localFiles ++
        [FileInfo.new filename (node.getmd5 shell (filePath filename))
          (node.getSize (filePath filename))] }
  else node

/-- The message built by `sendFileRequest` without a file path. -/
def sendRequest
    (shell : Shell) (node : DFile) (filename : String)
    (port : Int) : SendRequest where
  senderip := node.id
  filename := filename
  filemd5 := node.getmd5 shell (filePath filename)
  filesize := node.getSize (filePath filename)
  chunksize := chunkSize
  port := port
  filepath := none

/-- `recvNextChunk`. -/
def recvNextChunk
    (node : DFile) (filename : String) (chunkid : Int) (data : Bytes)
    (chunksize : Int) : DFile :=
  if chunkid ≠ node.clientChunkCountMap filename then node
  else if ((data.length % 2 ^ 32 : Nat) : Int) ≠ chunksize then node
  else
    let counted :=
      { node with
        clientChunkCountMap := Function.update node.clientChunkCountMap
          filename (node.clientChunkCountMap filename + 1) }
    counted.write (filePath filename)
      ((node.disk (filePath filename)).getD [] ++ data)

/-- `sendNextChunk`. -/
def sendNextChunk (node : DFile) (port chunkid : Int) : DFile :=
  { node with
    serverChunkCountMap := Function.update node.serverChunkCountMap port
      chunkid }

/-- Processing of a `FETCH_REP`: a message without one of its required fields
does not parse. -/
def processFetchReply (node : DFile) (reply : FetchReply) : DFile :=
  match reply with
  | ⟨some filename, some chunkid, some data, some chunksize⟩ =>
      node.recvNextChunk filename chunkid data chunksize
  | _ => node

theorem checkFileAvailable_eq_true_iff
    {node : DFile} {filename : String} :
    node.checkFileAvailable filename = true ↔
      ∀ info ∈ node.localFiles, info.name ≠ filename := by
  simp [checkFileAvailable]

theorem getmd5_of_some
    {node : DFile} {path : String} {content : Bytes} {shell : Shell}
    (usable : shell.usable path = true)
    (present : node.disk path = some content) :
    node.getmd5 shell path = shell.md5 content := by
  rw [getmd5, present]
  exact shell.md5sum_of_usable _ _ _ usable present

theorem getSize_of_some
    {node : DFile} {path : String} {content : Bytes}
    (present : node.disk path = some content) :
    node.getSize path = content.length := by
  simp [getSize, present, FileHelper.new, FileHelper.getSize]

/-- The expected chunk is appended to the file. -/
theorem recvNextChunk_of_expected
    {node : DFile} {filename : String} {data : Bytes} {chunksize : Int}
    (fits : data.length < 2 ^ 32) (matching : chunksize = data.length) :
    node.recvNextChunk filename (node.clientChunkCountMap filename) data
        chunksize =
      { node with
        disk := Function.update node.disk (filePath filename)
          (some ((node.disk (filePath filename)).getD [] ++ data))
        clientChunkCountMap := Function.update node.clientChunkCountMap
          filename (node.clientChunkCountMap filename + 1) } := by
  have sameLength : ((data.length % 2 ^ 32 : Nat) : Int) = chunksize := by
    rw [Nat.mod_eq_of_lt fits, matching]
  rw [recvNextChunk, if_neg (not_not_intro rfl),
    if_neg (not_not_intro sameLength)]
  rfl

@[simp] theorem recvNextChunk_localFiles
    (node : DFile) (filename : String) (chunkid : Int) (data : Bytes)
    (chunksize : Int) :
    (node.recvNextChunk filename chunkid data chunksize).localFiles =
      node.localFiles := by
  unfold recvNextChunk
  split
  · rfl
  · split <;> rfl

@[simp] theorem processFetchReply_localFiles
    (node : DFile) (reply : FetchReply) :
    (node.processFetchReply reply).localFiles = node.localFiles := by
  unfold processFetchReply
  split
  · exact recvNextChunk_localFiles _ _ _ _ _
  · rfl

@[simp] theorem addToLocalFileMap_disk
    (shell : Shell) (node : DFile) (filename : String) :
    (node.addToLocalFileMap shell filename).disk = node.disk := by
  unfold addToLocalFileMap
  split <;> rfl

@[simp] theorem addToLocalFileMap_filePathBuf
    (shell : Shell) (node : DFile) (filename : String) :
    (node.addToLocalFileMap shell filename).filePathBuf =
      node.filePathBuf := by
  unfold addToLocalFileMap
  split <;> rfl

/-- A file that is not registered yet is registered with what is on disk. -/
theorem addToLocalFileMap_of_available
    {node : DFile} {filename : String} (shell : Shell)
    (available : node.checkFileAvailable filename = true) :
    (node.addToLocalFileMap shell filename).localFiles =
      node.localFiles ++
        [FileInfo.new filename (node.getmd5 shell (filePath filename))
          (node.getSize (filePath filename))] := by
  rw [addToLocalFileMap, if_pos available]

end DFile

end FileTransfer
end CraneSps
