import CraneSps.Foundation.Chunks

/-!
# Reading a file in chunks

`FileHelper` wraps a binary `std::ifstream`.  Whether the file could be opened
is decided once, by the constructor.  The stream reads a whole block into its
buffer when the last one has been used up, so a change of the file shows only
behind what has been read ahead: every operation takes the content that the
file has at the time.  `get` returns the byte `0xFF` where the stream returns
end-of-file, because `getNextChunk` appends the result as a `char`.
-/

namespace CraneSps
namespace FileTransfer

/-- The content of a file. -/
abbrev Bytes := List UInt8

/-- `FileHelper` with the state of its stream. -/
structure FileHelper where
  /-- The constructor could open the file. -/
  isOpen : Bool
  /-- The number of bytes that have been taken from the stream. -/
  position : Nat
  /-- What the stream has read of the file behind them. -/
  ahead : Bytes
  eof : Bool
  buffer : Bytes
  ch_size : Int
  deriving DecidableEq

namespace FileHelper

/-- The constructor, on a file that may be missing. -/
def new (file : Option Bytes) (chunkSize : Int) : FileHelper where
  isOpen := file.isSome
  position := 0
  ahead := []
  eof := false
  buffer := []
  ch_size := chunkSize

/-- `FileHelper::isEOF`. -/
def isEOF (helper : FileHelper) : Bool :=
  helper.eof

/-- The number of bytes that the stream reads at once. -/
def blockSize : Nat := 8191

/-- `std::filebuf::underflow`: what the stream can return without reading
again. -/
def underflow (helper : FileHelper) (content : Bytes) : Bytes :=
  if helper.ahead = [] then
    (content.drop helper.position).take blockSize
  else helper.ahead

/-- `std::ifstream::get`.  A stream that could not be opened fails without
ever setting its end-of-file flag. -/
def get (helper : FileHelper) (content : Bytes) : UInt8 × FileHelper :=
  if helper.isOpen && !helper.eof then
    match helper.underflow content with
    | byte :: ahead =>
        (byte,
          { helper with position := helper.position + 1, ahead := ahead })
    | [] => (0xFF, { helper with eof := true })
  else (0xFF, helper)

/-- The loop of `getNextChunk`, with the rounds that are left. -/
def appendBytes (content : Bytes) : Nat → FileHelper → FileHelper
  | 0, helper => helper
  | rounds + 1, helper =>
      if helper.eof then helper
      else
        let (byte, read) := helper.get content
        appendBytes content rounds
          { read with buffer := read.buffer ++ [byte] }

/-- `FileHelper::getNextChunk`; the chunk is left in the buffer. -/
def getNextChunk (helper : FileHelper) (content : Bytes) : FileHelper :=
  let read := appendBytes content helper.ch_size.toNat
    { helper with buffer := [] }
  if read.eof then { read with buffer := read.buffer.dropLast } else read

/-- `FileHelper::getPrevChunk`. -/
def getPrevChunk (helper : FileHelper) : Bytes :=
  helper.buffer

/-- `FileHelper::getSize`; `tellg` of a failed stream is `-1`. -/
def getSize (helper : FileHelper) (content : Bytes) : Int :=
  if helper.isOpen then content.length else -1

/-! ## What is left to read -/

/-- The number of bytes that have been read from the file. -/
def bytesRead (helper : FileHelper) : Nat :=
  helper.position + helper.ahead.length

/-- What the stream is going to return if the file stays as it is. -/
def rest (helper : FileHelper) (content : Bytes) : Bytes :=
  helper.ahead ++ content.drop helper.bytesRead

variable {helper : FileHelper} {content : Bytes} {rounds size : Nat}

@[simp] theorem rest_new (chunkSize : Int) :
    (new (some content) chunkSize).rest content = content := rfl

theorem length_rest :
    helper.position + (helper.rest content).length =
      max helper.bytesRead content.length := by
  rw [rest, List.length_append, List.length_drop, bytesRead]
  omega

/-- What has been read ahead comes first. -/
theorem rest_eq_underflow :
    helper.rest content = helper.underflow content ++
      content.drop (helper.position + (helper.underflow content).length) := by
  rw [rest, bytesRead, underflow]
  split
  · next used =>
      rw [used, List.length_nil, Nat.add_zero, List.nil_append,
        ← List.drop_drop, List.length_take]
      rcases Nat.le_total blockSize (content.drop helper.position).length with
        whole | short
      · rw [Nat.min_eq_left whole, List.take_append_drop]
      · rw [Nat.min_eq_right short, List.take_of_length_le short,
          List.drop_length, List.append_nil]
  · rfl

/-- A byte is taken from the stream. -/
theorem get_of_cons
    (isOpen : helper.isOpen = true) (notEof : helper.eof = false)
    {byte : UInt8} {tail : Bytes} (more : helper.rest content = byte :: tail) :
    ∃ ahead,
      helper.get content =
        (byte,
          { helper with position := helper.position + 1, ahead := ahead }) ∧
      { helper with
        position := helper.position + 1, ahead := ahead }.rest content =
          tail := by
  have split := @rest_eq_underflow helper content
  cases underflow : helper.underflow content with
  | nil =>
      -- nothing can be read at all
      rw [more, underflow, List.nil_append, List.length_nil,
        Nat.add_zero] at split
      have used : helper.ahead = [] := by
        by_contra some
        rw [FileHelper.underflow, if_neg some] at underflow
        exact some underflow
      rw [FileHelper.underflow, if_pos used, ← split] at underflow
      nomatch underflow
  | cons first ahead =>
      rw [more, underflow, List.cons_append, List.cons.injEq] at split
      obtain ⟨rfl, rfl⟩ := split
      refine ⟨ahead, ?_, ?_⟩
      · simp only [get, isOpen, notEof, Bool.not_false, Bool.and_self,
          if_true, underflow]
      · simp only [rest, bytesRead, List.length_cons]
        rw [Nat.add_assoc, Nat.add_comm 1]

/-- The end of the file is hit. -/
theorem get_of_nil
    (isOpen : helper.isOpen = true) (notEof : helper.eof = false)
    (nothing : helper.rest content = []) :
    helper.get content = (0xFF, { helper with eof := true }) := by
  have underflow : helper.underflow content = [] := by
    have split := @rest_eq_underflow helper content
    rw [nothing] at split
    exact (List.append_eq_nil_iff.mp split.symm).1
  simp only [get, isOpen, notEof, Bool.not_false, Bool.and_self, if_true,
    underflow]

/-- The loop stops within the file when enough bytes are left. -/
theorem appendBytes_of_le
    (isOpen : helper.isOpen = true) (notEof : helper.eof = false)
    (enough : rounds ≤ (helper.rest content).length) :
    ∃ ahead,
      appendBytes content rounds helper =
        { helper with
          position := helper.position + rounds
          ahead := ahead
          buffer := helper.buffer ++ (helper.rest content).take rounds } ∧
      (appendBytes content rounds helper).rest content =
        (helper.rest content).drop rounds := by
  induction rounds generalizing helper with
  | zero => exact ⟨helper.ahead, by simp [appendBytes], rfl⟩
  | succ rounds inductionHypothesis =>
      cases left : helper.rest content with
      | nil =>
          rw [left] at enough
          nomatch enough
      | cons byte tail =>
          rw [left, List.length_cons] at enough
          obtain ⟨ahead, isRead, isTail⟩ := get_of_cons isOpen notEof left
          let read : FileHelper :=
            { helper with
              position := helper.position + 1
              ahead := ahead
              buffer := helper.buffer ++ [byte] }
          have readTail : read.rest content = tail := isTail
          obtain ⟨last, appended, isRest⟩ :=
            @inductionHypothesis read isOpen notEof (by rw [readTail]; omega)
          have step : appendBytes content (rounds + 1) helper =
              appendBytes content rounds read := by
            rw [appendBytes, if_neg (by simp [notEof]), isRead]
          rw [step, isRest, readTail]
          refine ⟨last, ?_, rfl⟩
          rw [appended, readTail]
          simp [read, Nat.add_assoc, Nat.add_comm 1]

/-- The loop runs into the end of the file and appends one byte too many. -/
theorem appendBytes_of_lt
    (isOpen : helper.isOpen = true) (notEof : helper.eof = false)
    (short : (helper.rest content).length < rounds) :
    ∃ ahead,
      appendBytes content rounds helper =
        { helper with
          position := helper.position + (helper.rest content).length
          ahead := ahead
          eof := true
          buffer := helper.buffer ++ helper.rest content ++ [0xFF] } ∧
      (appendBytes content rounds helper).rest content = [] := by
  induction rounds generalizing helper with
  | zero => nomatch short
  | succ rounds inductionHypothesis =>
      rw [appendBytes, if_neg (by simp [notEof])]
      cases left : helper.rest content with
      | nil =>
          rw [get_of_nil isOpen notEof left]
          refine ⟨helper.ahead, ?_, ?_⟩
          · cases rounds <;> simp [appendBytes]
          · cases rounds <;> exact left
      | cons byte tail =>
          rw [left, List.length_cons] at short
          obtain ⟨ahead, isRead, isTail⟩ := get_of_cons isOpen notEof left
          let read : FileHelper :=
            { helper with
              position := helper.position + 1
              ahead := ahead
              buffer := helper.buffer ++ [byte] }
          have readTail : read.rest content = tail := isTail
          obtain ⟨last, appended, isRest⟩ :=
            @inductionHypothesis read isOpen notEof (by rw [readTail]; omega)
          rw [isRead]
          refine ⟨last, ?_, isRest⟩
          refine appended.trans ?_
          rw [readTail]
          simp [read, Nat.add_assoc, Nat.add_comm 1]

/-- The next chunk of an open file that has not been read to its end: the
flag is set exactly when the chunk is short, and the surplus byte is gone. -/
theorem getNextChunk_of_open
    (isOpen : helper.isOpen = true) (notEof : helper.eof = false)
    (chunkSize : helper.ch_size.toNat = size) :
    ∃ position ahead,
      helper.getNextChunk content =
        { helper with
          position := position
          ahead := ahead
          eof := decide ((helper.rest content).length < size)
          buffer := (helper.rest content).take size } ∧
      (helper.getNextChunk content).rest content =
        (helper.rest content).drop size := by
  have same : { helper with buffer := [] }.rest content =
      helper.rest content := rfl
  rw [getNextChunk, chunkSize]
  by_cases short : (helper.rest content).length < size
  · obtain ⟨ahead, loop, nothing⟩ :=
      @appendBytes_of_lt { helper with buffer := [] } content size isOpen
        notEof short
    rw [loop] at nothing ⊢
    refine ⟨helper.position + (helper.rest content).length, ahead, ?_, ?_⟩
    · simp [short, same, List.take_of_length_le (Nat.le_of_lt short)]
    · exact nothing.trans (List.drop_eq_nil_of_le (Nat.le_of_lt short)).symm
  · obtain ⟨ahead, loop, isRest⟩ :=
      @appendBytes_of_le { helper with buffer := [] } content size isOpen
        notEof (Nat.not_lt.mp short)
    rw [loop] at isRest ⊢
    refine ⟨helper.position + size, ahead, ?_, ?_⟩
    · rw [if_neg (by simp [notEof]), decide_eq_false short, ← notEof]
      rfl
    · rw [if_neg (by simp [notEof])]
      exact isRest

/-- The next chunk of a file that stays as it is while it is read. -/
theorem getNextChunk_of_drop
    {index : Nat}
    (isOpen : helper.isOpen = true) (notEof : helper.eof = false)
    (chunkSize : helper.ch_size.toNat = size)
    (left : helper.rest content = content.drop (index * size))
    (within : index * size ≤ content.length) :
    ∃ position ahead,
      helper.getNextChunk content =
        { helper with
          position := position
          ahead := ahead
          eof := decide (content.length < (index + 1) * size)
          buffer := content.chunk size index } ∧
      (helper.getNextChunk content).rest content =
        content.drop ((index + 1) * size) := by
  obtain ⟨position, ahead, isRead, isRest⟩ :=
    @getNextChunk_of_open helper content size isOpen notEof chunkSize
  have ends : (content.drop (index * size)).length < size ↔
      content.length < (index + 1) * size := by
    rw [List.length_drop, Nat.succ_mul]
    omega
  refine ⟨position, ahead, ?_, ?_⟩
  · rw [isRead, left, decide_eq_decide.mpr ends, List.chunk]
  · rw [isRest, left, List.drop_drop, ← Nat.succ_mul]

@[simp] theorem get_isOpen (helper : FileHelper) (content : Bytes) :
    (helper.get content).2.isOpen = helper.isOpen := by
  unfold get
  split
  · split <;> rfl
  · rfl

@[simp] theorem get_ch_size (helper : FileHelper) (content : Bytes) :
    (helper.get content).2.ch_size = helper.ch_size := by
  unfold get
  split
  · split <;> rfl
  · rfl

/-- Reading changes neither the stream nor the chunk size. -/
theorem appendBytes_settings
    (content : Bytes) (rounds : Nat) (helper : FileHelper) :
    (appendBytes content rounds helper).isOpen = helper.isOpen ∧
      (appendBytes content rounds helper).ch_size = helper.ch_size := by
  induction rounds generalizing helper with
  | zero => exact ⟨rfl, rfl⟩
  | succ rounds inductionHypothesis =>
      rw [appendBytes]
      split
      · exact ⟨rfl, rfl⟩
      · obtain ⟨isOpen, ch_size⟩ := inductionHypothesis
          { (helper.get content).2 with
            buffer := (helper.get content).2.buffer ++
              [(helper.get content).1] }
        exact ⟨isOpen.trans (get_isOpen _ _), ch_size.trans (get_ch_size _ _)⟩

@[simp] theorem getNextChunk_isOpen (helper : FileHelper) (content : Bytes) :
    (helper.getNextChunk content).isOpen = helper.isOpen := by
  simp only [getNextChunk]
  split <;> exact (appendBytes_settings _ _ _).1

@[simp] theorem getNextChunk_ch_size (helper : FileHelper) (content : Bytes) :
    (helper.getNextChunk content).ch_size = helper.ch_size := by
  simp only [getNextChunk]
  split <;> exact (appendBytes_settings _ _ _).2

/-! ## Files that cannot be opened -/

/-- Every byte of a stream that is not open is `0xFF`. -/
theorem appendBytes_of_closed (closed : helper.isOpen = false)
    (notEof : helper.eof = false) :
    appendBytes content rounds helper =
      { helper with
        buffer := helper.buffer ++ List.replicate rounds 0xFF } := by
  induction rounds generalizing helper with
  | zero => simp [appendBytes]
  | succ rounds inductionHypothesis =>
      rw [appendBytes, if_neg (by simp [notEof])]
      have isRead : helper.get content = (0xFF, helper) := by
        rw [get, closed]
        rfl
      rw [isRead]
      refine (@inductionHypothesis { helper with
        buffer := helper.buffer ++ [0xFF] } closed notEof).trans ?_
      simp [List.replicate_succ]

/-- A chunk of a file that could not be opened. -/
theorem getNextChunk_of_closed (closed : helper.isOpen = false)
    (notEof : helper.eof = false) (chunkSize : helper.ch_size.toNat = size) :
    helper.getNextChunk content =
      { helper with buffer := List.replicate size 0xFF } := by
  rw [getNextChunk, chunkSize,
    @appendBytes_of_closed { helper with buffer := [] } content size closed
      notEof]
  rw [if_neg (by simp [notEof]), List.nil_append]

/-! ## Files that change while they are read -/

/-- How far the file has been read once the bytes up to the target have been
taken from the stream. -/
def readTo (offset target length : Nat) : Nat :=
  if target ≤ offset then offset
  else
    min (offset + List.chunkCount blockSize (target - offset) * blockSize)
      length

theorem blockSize_pos : 0 < blockSize :=
  Nat.succ_pos _

theorem readTo_of_le {offset target length : Nat} (inside : target ≤ offset) :
    readTo offset target length = offset :=
  if_pos inside

theorem readTo_of_lt {offset target length : Nat} (behind : offset < target) :
    readTo offset target length =
      min (offset + List.chunkCount blockSize (target - offset) * blockSize)
        length :=
  if_neg (Nat.not_le.mpr behind)

/-- Nothing is read behind the end of the file. -/
theorem readTo_le {offset target length : Nat} (inside : offset ≤ length) :
    readTo offset target length ≤ length := by
  unfold readTo
  split
  · exact inside
  · exact Nat.min_le_right _ _

/-- Reading up to a target on the way makes no difference. -/
theorem readTo_readTo
    {offset target last length : Nat} (before : target ≤ last)
    (enough : last ≤ max offset length) :
    readTo (readTo offset target length) last length =
      readTo offset last length := by
  rcases Nat.lt_or_ge offset target with behind | inside
  · have whole := List.le_chunkCount_mul blockSize_pos (target - offset)
    rw [readTo_of_lt behind, readTo_of_lt (Nat.lt_of_lt_of_le behind before)]
    by_cases reached : last - offset ≤
        List.chunkCount blockSize (target - offset) * blockSize
    · have same : List.chunkCount blockSize (last - offset) =
          List.chunkCount blockSize (target - offset) :=
        Nat.le_antisymm
          ((List.chunkCount_le_iff blockSize_pos _ _).mpr reached)
          (List.chunkCount_mono blockSize_pos
            (Nat.sub_le_sub_right before _))
      rw [readTo_of_le (by omega), same]
    · obtain ⟨more, isMore⟩ := Nat.exists_eq_add_of_le
        (Nat.le_of_lt (Nat.not_le.mp reached))
      have within : offset + List.chunkCount blockSize (target - offset) *
          blockSize ≤ length := by omega
      have left : last - (offset + List.chunkCount blockSize
          (target - offset) * blockSize) = more := by omega
      rw [Nat.min_eq_left within, readTo_of_lt (by omega), left, isMore,
        List.chunkCount_mul_add blockSize_pos, Nat.add_mul, Nat.add_assoc]
  · rw [readTo_of_le inside]

/-- How far the file has been read after a byte has been taken. -/
theorem bytesRead_get
    (isOpen : helper.isOpen = true) (notEof : helper.eof = false)
    (more : helper.rest content ≠ []) :
    (helper.get content).2.position = helper.position + 1 ∧
      (helper.get content).2.bytesRead =
        readTo helper.bytesRead (helper.position + 1) content.length := by
  have some : helper.underflow content ≠ [] := by
    intro nothing
    have split := @rest_eq_underflow helper content
    obtain ⟨byte, tail, left⟩ := List.exists_cons_of_ne_nil more
    obtain ⟨ahead, isRead, _⟩ := get_of_cons isOpen notEof left
    rw [get, isOpen, notEof, Bool.not_false, Bool.and_self, if_pos rfl,
      nothing] at isRead
    nomatch congrArg (fun read => read.2.eof) isRead
  obtain ⟨byte, ahead, underflow⟩ := List.exists_cons_of_ne_nil some
  have isRead : helper.get content = (byte,
      { helper with position := helper.position + 1, ahead := ahead }) := by
    simp only [get, isOpen, notEof, Bool.not_false, Bool.and_self, if_true,
      underflow]
  have length : helper.position + 1 + ahead.length =
      helper.position + (helper.underflow content).length := by
    rw [underflow, List.length_cons, Nat.add_assoc, Nat.add_comm 1]
  refine ⟨congrArg (fun read => read.2.position) isRead, ?_⟩
  rw [isRead]
  refine length.trans ?_
  by_cases used : helper.ahead = []
  · have offset : helper.bytesRead = helper.position := by
      rw [bytesRead, used, List.length_nil, Nat.add_zero]
    have block : List.chunkCount blockSize 1 = 1 := by decide
    have inside : helper.position < content.length := by
      rw [FileHelper.underflow, if_pos used] at some
      by_contra behind
      rw [List.drop_eq_nil_of_le (Nat.not_lt.mp behind)] at some
      exact some rfl
    rw [offset, readTo_of_lt (Nat.lt_add_one _), Nat.add_sub_cancel_left,
      block, Nat.one_mul, FileHelper.underflow, if_pos used, List.length_take,
      List.length_drop]
    omega
  · have inside : helper.position + 1 ≤ helper.bytesRead :=
      Nat.add_le_add_left (List.length_pos_of_ne_nil used) _
    rw [readTo_of_le inside, FileHelper.underflow, if_neg used, bytesRead]

/-- How far the file has been read after a number of rounds. -/
theorem bytesRead_appendBytes
    (isOpen : helper.isOpen = true) (notEof : helper.eof = false)
    (enough : rounds ≤ (helper.rest content).length) :
    (appendBytes content rounds helper).bytesRead =
      readTo helper.bytesRead (helper.position + rounds) content.length := by
  induction rounds generalizing helper with
  | zero =>
      have inside : helper.position + 0 ≤ helper.bytesRead :=
        Nat.le_add_right _ _
      rw [readTo_of_le inside, appendBytes]
  | succ rounds inductionHypothesis =>
      have more : helper.rest content ≠ [] :=
        List.ne_nil_of_length_pos (Nat.lt_of_lt_of_le (Nat.succ_pos _) enough)
      obtain ⟨byte, tail, left⟩ := List.exists_cons_of_ne_nil more
      obtain ⟨ahead, isRead, isTail⟩ := get_of_cons isOpen notEof left
      obtain ⟨position, bytesRead⟩ := bytesRead_get isOpen notEof more
      let read : FileHelper :=
        { (helper.get content).2 with
          buffer := (helper.get content).2.buffer ++
            [(helper.get content).1] }
      have readTail : read.rest content = tail := by
        simp only [read, isRead]
        exact isTail
      have readOpen : read.isOpen = true := by
        simp only [read, isRead, isOpen]
      have readEof : read.eof = false := by
        simp only [read, isRead, notEof]
      have step : appendBytes content (rounds + 1) helper =
          appendBytes content rounds read := by
        rw [appendBytes, if_neg (by simp [notEof])]
      have total := @length_rest helper content
      rw [left, List.length_cons] at enough total
      rw [step, inductionHypothesis readOpen readEof
        (by rw [readTail]; omega)]
      change readTo (helper.get content).2.bytesRead
        ((helper.get content).2.position + rounds) _ = _
      rw [bytesRead, position, readTo_readTo (by omega) (by omega),
        Nat.add_assoc, Nat.add_comm 1]

/-- A whole chunk is taken from a stream that has read whole chunks. -/
theorem getNextChunk_bytesRead
    {index : Nat}
    (isOpen : helper.isOpen = true) (notEof : helper.eof = false)
    (chunkSize : helper.ch_size.toNat = size)
    (position : helper.position = index * size)
    (enough : (index + 1) * size ≤ max helper.bytesRead content.length) :
    (helper.getNextChunk content).position = (index + 1) * size ∧
      (helper.getNextChunk content).bytesRead =
        readTo helper.bytesRead ((index + 1) * size) content.length := by
  have inside : size ≤ (helper.rest content).length := by
    have total := @length_rest helper content
    rw [position] at total
    rw [Nat.succ_mul] at enough
    omega
  let cleared : FileHelper := { helper with buffer := [] }
  obtain ⟨ahead, loop, _⟩ :=
    @appendBytes_of_le cleared content size isOpen notEof inside
  have offset :=
    @bytesRead_appendBytes cleared content size isOpen notEof inside
  have same :
      helper.getNextChunk content = appendBytes content size cleared := by
    rw [getNextChunk, chunkSize, loop, if_neg (by simp [cleared, notEof])]
  rw [same, offset]
  constructor
  · rw [loop, Nat.succ_mul, ← position]
  · change readTo helper.bytesRead (helper.position + size) _ = _
    rw [position, Nat.succ_mul]

/-- Whether reading a chunk runs into the end of the file, for a stream that
has read a number of whole chunks. -/
theorem getNextChunk_eof
    {index : Nat}
    (notEof : helper.eof = false) (chunkSize : helper.ch_size.toNat = size)
    (position : helper.isOpen = true → helper.position = index * size) :
    (helper.getNextChunk content).eof =
      decide (helper.isOpen = true ∧
        max helper.bytesRead content.length < (index + 1) * size) := by
  by_cases isOpen : helper.isOpen = true
  · obtain ⟨_, _, isRead, _⟩ :=
      @getNextChunk_of_open helper content size isOpen notEof chunkSize
    rw [isRead]
    apply decide_eq_decide.mpr
    rw [← @length_rest helper content, position isOpen, Nat.succ_mul,
      Nat.add_lt_add_iff_left]
    exact (and_iff_right isOpen).symm
  · rw [getNextChunk_of_closed (Bool.eq_false_iff.mpr isOpen) notEof chunkSize,
      decide_eq_false fun ended => isOpen ended.1]
    exact notEof

end FileHelper

end FileTransfer
end CraneSps
