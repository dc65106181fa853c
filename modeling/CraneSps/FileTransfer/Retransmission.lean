import CraneSps.FileTransfer.Fetch
import CraneSps.FileTransfer.ServerThread

/-!
# Chunks that are requested again

In its loop the fetch server answers a repeated request like the first one.
The loop ends with the chunk that runs into the end of the file.  When the size
of the file is no multiple of the chunk size this is the last chunk, and a
repeated request of it is answered without three of the required fields.
-/

namespace CraneSps
namespace FileTransfer
namespace ServerThread

/-- Every request asks for the chunk that has been served last or for the next
one, up to the last chunk of the file. -/
def InOrder (port : Int) (size length served : Nat) :
    List FetchRequest → Prop
  | [] => True
  | request :: requests =>
      request.port = port ∧
        (0 < served ∧ request.chunkid + 1 = served ∧
            InOrder port size length served requests ∨
          served < List.chunkCount size length ∧ request.chunkid = served ∧
            InOrder port size length (served + 1) requests)

/-- The reply that a request is meant to get. -/
def faithfulReply
    (filename : String) (content : Bytes) (size : Nat)
    (request : FetchRequest) : FetchReply :=
  sliceReply filename content size request.chunkid.toNat

/-- The request asks for the last chunk. -/
def IsLast (size length : Nat) (request : FetchRequest) : Prop :=
  request.chunkid + 1 = List.chunkCount size length

instance (size length : Nat) : DecidablePred (IsLast size length) := fun _ =>
  inferInstanceAs (Decidable (_ = _))

/-- What is sent stays within the given list, in its order. -/
def Sends (thread : ServerThread) (replies : List FetchReply) : Prop :=
  ∀ rounds, (round^[rounds] thread).replies <+: replies

variable {thread : ServerThread} {replies : List FetchReply}

theorem sends_iff_round (sent : thread.replies <+: replies) :
    thread.Sends replies ↔ thread.round.Sends replies := by
  constructor
  · intro sends rounds
    exact sends (rounds + 1)
  · intro sends rounds
    cases rounds with
    | zero => exact sent
    | succ rounds => exact sends rounds

/-- A thread that has returned sends nothing more. -/
theorem sends_iff_of_returned (returned : thread.server.phase = .returned) :
    thread.Sends replies ↔ thread.replies <+: replies := by
  have fixed : thread.round = thread :=
    round_of_ended (.inr (.inl returned))
  constructor
  · intro sends
    exact sends 0
  · intro sent rounds
    rw [Function.iterate_fixed fixed]
    exact sent

/-- A thread in its loop whose stream has read the file as it is. -/
structure Reading
    (thread : ServerThread) (port : Int) (filename : String)
    (content : Bytes) (size served offset : Nat) : Prop
    extends thread.Serving true size served offset where
  address : thread.server.port = port
  name : thread.server.filename = filename
  file : thread.content = content
  within : served * size ≤ content.length
  inside : offset ≤ content.length
  rest : thread.server.fp.rest content = content.drop (served * size)
  buffer : 0 < served →
    thread.server.fp.buffer = content.chunk size (served - 1)

section Reading

variable {port : Int} {filename : String} {content : Bytes}
variable {size served offset : Nat}

theorem reading_start (messages : List Incoming) :
    (start port filename (some content) size messages).Reading port filename
      content size 0 0 where
  toServing := serving_start port filename (some content) size messages
  address := rfl
  name := rfl
  file := rfl
  within := by
    rw [Nat.zero_mul]
    exact Nat.zero_le _
  inside := Nat.zero_le _
  rest := by simp [start]
  buffer := fun positive => absurd positive (lt_irrefl 0)

/-- Behind the loop the last chunk is sent without its required fields. -/
theorem Waiting.round_behind
    {request : FetchRequest} {messages : List Incoming}
    (waiting : thread.Waiting served) (positive : 0 < served)
    (refetching : thread.server.phase = .refetching)
    (queue : thread.queue = .fetchRequest request :: messages)
    (port : request.port = thread.server.port)
    (last : request.chunkid + 1 = served) :
    thread.round.server.phase = .returned ∧
      thread.round.replies = thread.replies ++
        [⟨none, none, some thread.server.fp.getPrevChunk, none⟩] := by
  have chunkCount := waiting.chunkCount
  have again : request.chunkid ≥ 0 ∧
      request.chunkid = thread.server.chunkCount := by omega
  rw [waiting.round_cons (.inr refetching) queue]
  simp only [parse, if_pos port, waiting.lost, Bool.false_eq_true, if_false,
    answer, refetching, if_pos again, send, RepSocket.send, leave,
    and_self]

/-- Behind the loop only a client that is silent is served faithfully. -/
theorem Waiting.sends_iff_behind
    {requests : List FetchRequest} {sent : List FetchReply}
    (waiting : thread.Waiting served) (positive : 0 < served)
    (refetching : thread.server.phase = .refetching)
    (address : thread.server.port = port)
    (whole : List.chunkCount size content.length = served)
    (inOrder : InOrder port size content.length served requests)
    (queue : thread.queue = requests.map .fetchRequest)
    (replies : thread.replies = sent) :
    thread.Sends
        (sent ++ requests.map (faithfulReply filename content size)) ↔
      requests.countP (IsLast size content.length ·) + 1 ≤ 1 := by
  rw [sends_iff_round (replies ▸ List.prefix_append _ _)]
  cases requests with
  | nil =>
      rw [waiting.round_nil (.inr refetching) queue, sends_iff_of_returned rfl]
      exact iff_of_true (replies ▸ List.prefix_append _ _) (le_refl _)
  | cons request requests =>
      obtain ⟨port, ⟨_, last, _⟩ | ⟨below, _⟩⟩ := inOrder
      · obtain ⟨returned, broken⟩ := waiting.round_behind positive refetching
          queue (port.trans address.symm) last
        rw [sends_iff_of_returned returned, broken, replies]
        apply iff_of_false
        · intro faithful
          rw [List.prefix_append_right_inj] at faithful
          simp [faithfulReply, sliceReply] at faithful
        · rw [List.countP_cons_of_pos (by simp [IsLast, whole, last])]
          omega
      · exact absurd below (whole ▸ lt_irrefl served)

namespace Reading

/-- The reply to a repeated request. -/
theorem chunkReply
    {request : FetchRequest}
    (reading : thread.Reading port filename content size served offset)
    (positive : 0 < served) (last : request.chunkid + 1 = served) :
    thread.server.chunkReply =
      faithfulReply filename content size request := by
  have index : request.chunkid.toNat = served - 1 := by omega
  have chunkid : thread.server.chunkCount = ((served - 1 : Nat) : Int) := by
    have chunkCount := reading.chunkCount
    omega
  simp only [FetchServer.chunkReply, FileHelper.getPrevChunk,
    reading.buffer positive, reading.name, chunkid, faithfulReply, index,
    sliceReply]

/-- The stream after the next chunk. -/
theorem getNextChunk
    (reading : thread.Reading port filename content size served offset) :
    (thread.server.advance thread.content).fp.buffer =
        content.chunk size served ∧
      (thread.server.advance thread.content).fp.rest content =
        content.drop ((served + 1) * size) := by
  obtain ⟨position, ahead, isRead, rest⟩ :=
    FileHelper.getNextChunk_of_drop reading.stream reading.notEof
      reading.ch_size reading.rest reading.within
  simp only [FetchServer.advance, reading.file]
  exact ⟨congrArg FileHelper.buffer isRead, rest⟩

/-- The reply to a request of the next chunk. -/
theorem advance_chunkReply
    {request : FetchRequest}
    (reading : thread.Reading port filename content size served offset)
    (next : request.chunkid = served) :
    (thread.server.advance thread.content).chunkReply =
      faithfulReply filename content size request := by
  have index : request.chunkid.toNat = served := by omega
  have chunkid : (thread.server.advance thread.content).chunkCount =
      served := by
    have chunkCount := reading.chunkCount
    change thread.server.chunkCount + 1 = _
    omega
  have name : (thread.server.advance thread.content).filename = filename :=
    reading.name
  simp only [FetchServer.chunkReply, FileHelper.getPrevChunk,
    reading.getNextChunk.1, name, chunkid, faithfulReply, index, sliceReply]

/-- If the last chunk has been read in the loop, it is a whole one. -/
theorem dvd_of_isLast
    {request : FetchRequest}
    (reading : thread.Reading port filename content size served offset)
    (positive : 0 < size) (last : request.chunkid + 1 = served)
    (isLast : IsLast size content.length request) :
    size ∣ content.length := by
  have all : served = List.chunkCount size content.length := by
    unfold IsLast at isLast
    omega
  have notMore := (List.lt_chunkCount_iff positive served
    content.length).not.mp (all ▸ lt_irrefl served)
  have exact : content.length = served * size :=
    Nat.le_antisymm (Nat.not_lt.mp notMore) reading.within
  exact exact ▸ Nat.dvd_mul_left size served

/-- A request of the next chunk hits the end of the file only with the last
chunk, and then this is not a whole one. -/
theorem not_dvd_of_ends
    (ends : content.length < (served + 1) * size)
    (inside : served * size < content.length) :
    ¬ size ∣ content.length := by
  rintro ⟨count, exact⟩
  rw [exact, Nat.mul_comm size] at ends inside
  have above := Nat.lt_of_mul_lt_mul_right inside
  have below := Nat.lt_of_mul_lt_mul_right ends
  omega

/-- The thread after a repeated request. -/
theorem again
    (reading : thread.Reading port filename content size served offset)
    (messages : List Incoming) (replies : List FetchReply) :
    { thread with
      queue := messages, replies := replies }.Reading port filename content
        size served offset where
  toServing := reading.toServing.again thread.content replies
  address := reading.address
  name := reading.name
  file := reading.file
  within := reading.within
  inside := reading.inside
  rest := reading.rest
  buffer := reading.buffer

/-- The thread after a request of the next chunk. -/
theorem next
    (reading : thread.Reading port filename content size served offset)
    (more : (served + 1) * size ≤ content.length)
    (messages : List Incoming) (replies : List FetchReply) :
    { thread with
      server := thread.server.advance thread.content
      requested := served
      queue := messages
      replies := replies }.Reading port filename content size (served + 1)
        (FileHelper.readTo offset ((served + 1) * size)
          content.length) where
  toServing := by
    have notEnd : ¬ (true = true ∧
        max offset thread.content.length < (served + 1) * size) := by
      rw [reading.file]
      exact fun ends => absurd ends.2
        (Nat.not_lt.mpr (Nat.le_trans more (Nat.le_max_right _ _)))
    have next := @Serving.next _ _ _ _ _ messages reading.toServing notEnd
      replies
    rw [reading.file] at next ⊢
    exact next
  address := reading.address
  name := reading.name
  file := reading.file
  within := more
  inside := FileHelper.readTo_le reading.inside
  rest := reading.getNextChunk.2
  buffer := fun _ => reading.getNextChunk.1

/-- What the thread sends stays within the replies that are meant exactly if
no request of the last chunk is repeated behind the loop. -/
theorem sends_iff
    {requests : List FetchRequest} {sent : List FetchReply}
    (reading : thread.Reading port filename content size served offset)
    (positive : 0 < size)
    (inOrder : InOrder port size content.length served requests)
    (queue : thread.queue = requests.map .fetchRequest)
    (replies : thread.replies = sent) :
    thread.Sends
        (sent ++ requests.map (faithfulReply filename content size)) ↔
      size ∣ content.length ∨
        requests.countP (IsLast size content.length ·) ≤ 1 := by
  induction requests generalizing thread served offset sent with
  | nil =>
      have silent : thread.round = thread.leave .returned :=
        reading.round_nil (.inl reading.phase) queue
      rw [sends_iff_round (replies ▸ List.prefix_append _ _), silent,
        sends_iff_of_returned rfl]
      refine iff_of_true ?_ (.inr (Nat.zero_le _))
      exact replies ▸ List.prefix_append _ _
  | cons request requests inductionHypothesis =>
      obtain ⟨port, step⟩ := inOrder
      rw [sends_iff_round (replies ▸ List.prefix_append _ _), List.map_cons,
        List.append_cons]
      -- the last chunk counts only when it is not a whole one
      have counts :
          (IsLast size content.length request → size ∣ content.length) →
          ((size ∣ content.length ∨
              requests.countP (IsLast size content.length ·) ≤ 1) ↔
            (size ∣ content.length ∨
              (request :: requests).countP (IsLast size content.length ·) ≤
                1)) := by
        intro whole
        by_cases isLast : IsLast size content.length request
        · exact iff_of_true (.inl (whole isLast)) (.inl (whole isLast))
        · rw [List.countP_cons_of_neg (by simpa using isLast)]
      rcases step with ⟨first, last, inOrder⟩ | ⟨below, next, inOrder⟩
      · have same : request.chunkid = thread.requested := by
          have requested := reading.requested
          omega
        have parsed : { thread with
              socket := .replying
              queue := requests.map .fetchRequest }.parse
                (.fetchRequest request) =
            some { thread with
              socket := .replying
              queue := requests.map .fetchRequest
              content := thread.content } := by
          rw [parse, if_pos (port.trans reading.address.symm), same]
        rw [reading.round_again queue parsed, if_pos first,
          reading.chunkReply first last, replies]
        refine (inductionHypothesis (reading.again _ _) inOrder rfl rfl).trans
          (counts ?_)
        exact reading.dvd_of_isLast positive last
      · have inside := (List.lt_chunkCount_iff positive served _).mp below
        rw [reading.round_next queue (port.trans reading.address.symm) next,
          reading.advance_chunkReply next, replies]
        by_cases more : (served + 1) * size ≤ content.length
        · have after := reading.next more
            (requests.map .fetchRequest)
            (sent ++ [faithfulReply filename content size request])
          refine (inductionHypothesis after inOrder rfl rfl).trans (counts ?_)
          exact after.dvd_of_isLast positive (by omega)
        · have short := Nat.not_le.mp more
          have uneven := not_dvd_of_ends short inside
          have whole : List.chunkCount size content.length = served + 1 := by
            have notBelow := (List.lt_chunkCount_iff positive (served + 1)
              content.length).not.mpr (by omega)
            omega
          obtain ⟨waiting, refetching⟩ := reading.last
            ⟨rfl, by rw [reading.file, Nat.max_eq_right reading.inside]
                     exact short⟩
            (requests.map .fetchRequest)
            (sent ++ [faithfulReply filename content size request])
          rw [or_iff_right uneven, List.countP_cons_of_pos
            (by simp [IsLast, whole, next])]
          exact waiting.sends_iff_behind (Nat.succ_pos _) refetching
            reading.address whole inOrder rfl rfl

end Reading

end Reading

end ServerThread

open ServerThread in
/-- For requests in order, each for the last chunk or the next one, the server
sends nothing but complete replies with the requested slices exactly if the
size of the file is a multiple of the chunk size or the last chunk is
requested no more than once. -/
theorem fetchServerThread_faithful_iff
    (port : Int) (filename : String) (content : Bytes) (size : Nat)
    (requests : List FetchRequest)
    (positive : 0 < size)
    (inOrder : InOrder port size content.length 0 requests) :
    (start port filename (some content) size
        (requests.map .fetchRequest)).Sends
        (requests.map (faithfulReply filename content size)) ↔
      size ∣ content.length ∨
        requests.countP (IsLast size content.length ·) ≤ 1 :=
  (reading_start (requests.map .fetchRequest)).sends_iff positive inOrder rfl
    rfl

open ServerThread in
theorem fetchServerThread_faithful_iff_threeBytes :
    (start 9601 "f" (some [1, 2, 3]) (2 : Nat)
        ([⟨"f", 9601, 0⟩, ⟨"f", 9601, 0⟩, ⟨"f", 9601, 1⟩].map
          .fetchRequest)).Sends
        ([⟨"f", 9601, 0⟩, ⟨"f", 9601, 0⟩, ⟨"f", 9601, 1⟩].map
          (faithfulReply "f" [1, 2, 3] 2)) :=
  (fetchServerThread_faithful_iff 9601 "f" [1, 2, 3] 2
    [⟨"f", 9601, 0⟩, ⟨"f", 9601, 0⟩, ⟨"f", 9601, 1⟩] (by decide)
    (by simp [InOrder, List.chunkCount])).mpr (.inr (by decide))

open ServerThread in
/-- A file of one byte whose only chunk is requested twice. -/
theorem fetchServerThread_not_faithful :
    InOrder 9601 2 1 0 [⟨"f", 9601, 0⟩, ⟨"f", 9601, 0⟩] ∧
      (ServerThread.round^[2] (start 9601 "f" (some [1]) (2 : Nat)
        ([⟨"f", 9601, 0⟩, ⟨"f", 9601, 0⟩].map .fetchRequest))).replies =
          [sliceReply "f" [1] 2 0, ⟨none, none, some [1], none⟩] ∧
      ¬ (start 9601 "f" (some [1]) (2 : Nat)
        ([⟨"f", 9601, 0⟩, ⟨"f", 9601, 0⟩].map .fetchRequest)).Sends
          ([⟨"f", 9601, 0⟩, ⟨"f", 9601, 0⟩].map
            (faithfulReply "f" [1] 2)) := by
  refine ⟨by simp [InOrder, List.chunkCount], by decide, ?_⟩
  intro sends
  exact absurd (sends 2) (by decide)

end FileTransfer
end CraneSps
