/-
This file models the uplink thread reading ground commands from the FIFO.

The FIFO is a stream of bytes. A read takes what is waiting, at most one byte less than the
buffer holds, and drops one newline from the end; whatever is left is handled as one command.
So the commands handled are the lines sent exactly when the reads are aligned with the lines:
no line is empty, and every line is read alone, with its newline or directly before it.
-/

import Fdir.Comms
import Fdir.LineFraming

namespace Fdir

open CMemory LineFraming

/-- `'\n'`. -/
def newline : UInt8 := 10

/-! ### Reading -/

/-- What a `read` of at most `maxlen - 1` bytes returns. -/
inductive FifoRead (maxlen : Nat) where
  /-- `EAGAIN` or `EWOULDBLOCK`. -/
  | again
  /-- Any other error. -/
  | failed
  /-- Bytes, none at the end of the file. -/
  | data (bytes : List UInt8) (fits : bytes.length < maxlen)
deriving DecidableEq

/-- `fifo_read_command`: the number it returns and the buffer it leaves. -/
def fifoReadCommand {maxlen : Nat} : FifoRead maxlen → Int × CharArray maxlen
  | .again => (0, .zeros maxlen)
  | .failed => (-1, .zeros maxlen)
  | .data bytes fits =>
    ((strip newline bytes).length,
      .fill (strip newline bytes) ((length_strip_le bytes).trans fits.le))

/-- What a read leaves in the FIFO, if it can return this: `EAGAIN` only on an empty FIFO, and
otherwise everything up to the limit. -/
def fifoTake {maxlen : Nat} (pipe : List UInt8) : FifoRead maxlen → Option (List UInt8)
  | .again => if pipe = [] then some [] else none
  | .failed => some pipe
  | .data bytes _ =>
    if bytes = pipe.take (maxlen - 1) then some (pipe.drop (maxlen - 1)) else none

/-! ### The thread -/

/-- A call of `comms_handle_command` and what it did. -/
structure HandledCommand where
  cmd : CString
  effect : CommandEffect
deriving DecidableEq

/-- One iteration of `uplink_thread`. -/
def uplinkIteration (read : FifoRead cmdMaxLen) (comms : CommsData) :
    CommsData × List HandledCommand :=
  let (bytes, cmdBuf) := fifoReadCommand read
  if 0 < bytes then
    let (effect, comms) := commsHandleCommand cmdBuf.text { comms with uplinkActive := true }
    (comms, [⟨cmdBuf.text, effect⟩])
  else ({ comms with uplinkActive := false }, [])

/-- The bytes waiting in the FIFO and the comms data. -/
structure Uplink where
  pipe : List UInt8
  comms : CommsData
deriving DecidableEq

inductive UplinkAction where
  /-- The sender writes. -/
  | arrive (bytes : List UInt8)
  /-- `uplink_thread` makes an iteration in which `read` returns this. -/
  | poll (read : FifoRead cmdMaxLen)
deriving DecidableEq

/-- The uplink before anything is sent. -/
def Uplink.start : Uplink := ⟨[], commsInit⟩

/-- The sender and `uplink_thread`. -/
def uplinkThread : Machine Uplink UplinkAction HandledCommand where
  step
    | uplink, .arrive bytes => some (⟨uplink.pipe ++ bytes, uplink.comms⟩, [])
    | uplink, .poll read =>
      match fifoTake uplink.pipe read with
      | none => none
      | some pipe =>
        let (comms, handled) := uplinkIteration read uplink.comms
        some (⟨pipe, comms⟩, handled)

/-- The bytes the sender writes. -/
def sentBytes (actions : List UplinkAction) : List UInt8 :=
  actions.flatMap fun
    | .arrive bytes => bytes
    | .poll _ => []

/-- The bytes an iteration reads, if it reads any. -/
def UplinkAction.chunk? : UplinkAction → Option (List UInt8)
  | .poll (.data (byte :: bytes) _) => some (byte :: bytes)
  | _ => none

/-- The non-empty reads. -/
def readChunks (actions : List UplinkAction) : List (List UInt8) :=
  actions.filterMap UplinkAction.chunk?

/-- The lines a sender makes of some commands. -/
def commandLines (cmds : List CString) : List UInt8 := frame newline (cmds.map CString.bytes)

/-! ### One iteration -/

/-- What is read passes from the FIFO to the reads. -/
theorem chunk?_fifoTake {pipe rest : List UInt8} {read : FifoRead cmdMaxLen}
    (taken : fifoTake pipe read = some rest) :
    (UplinkAction.poll read).chunk?.toList.flatten ++ rest = pipe := by
  cases read with
  | again =>
    rw [fifoTake] at taken
    split at taken
    next empty =>
      cases taken
      exact empty.symm
    · cases taken
  | failed =>
    cases taken
    rfl
  | data bytes fits =>
    rw [fifoTake] at taken
    split at taken
    next prompt =>
      cases taken
      have whole : bytes ++ pipe.drop (cmdMaxLen - 1) = pipe := by
        rw [prompt, List.take_append_drop]
      cases bytes with
      | nil => exact whole
      | cons byte bytes => simpa [UplinkAction.chunk?] using whole
    · cases taken

theorem uplinkIteration_of_pos {read : FifoRead cmdMaxLen} (comms : CommsData)
    (positive : 0 < (fifoReadCommand read).1) :
    (uplinkIteration read comms).2 =
      [⟨(fifoReadCommand read).2.text, commandEffect (fifoReadCommand read).2.text⟩] := by
  simp only [uplinkIteration, if_pos positive, commsHandleCommand]

theorem uplinkIteration_of_not_pos {read : FifoRead cmdMaxLen} (comms : CommsData)
    (idle : ¬0 < (fifoReadCommand read).1) : (uplinkIteration read comms).2 = [] := by
  simp only [uplinkIteration, if_neg idle]

/-- An iteration handles what the library's reader delivers, as long as no NUL is read. -/
theorem uplinkIteration_delivers {read : FifoRead cmdMaxLen} (comms : CommsData)
    (noNul : ∀ chunk ∈ (UplinkAction.poll read).chunk?, 0 ∉ chunk) :
    (uplinkIteration read comms).2.map (fun handled => handled.cmd.bytes) =
      deliver newline (UplinkAction.poll read).chunk?.toList := by
  cases read with
  | again => rfl
  | failed => rfl
  | data bytes fits =>
    cases bytes with
    | nil => rfl
    | cons byte bytes =>
      have clean : (0 : UInt8) ∉ strip newline (byte :: bytes) :=
        fun member => noNul _ rfl (mem_of_mem_strip member)
      have short : (strip newline (byte :: bytes)).length < cmdMaxLen :=
        (length_strip_le _).trans_lt fits
      have text : (CharArray.fill (strip newline (byte :: bytes)) short.le :
          CharArray cmdMaxLen).text = ⟨_, clean⟩ := CharArray.text_fill ⟨_, clean⟩ short
      simp only [UplinkAction.chunk?, Option.toList_some]
      by_cases empty : strip newline (byte :: bytes) = []
      · rw [uplinkIteration_of_not_pos comms (by simp [fifoReadCommand, empty])]
        simp [deliver, empty]
      · have positive := List.length_pos_of_ne_nil empty
        rw [uplinkIteration_of_pos comms (by simpa [fifoReadCommand] using positive),
          deliver_cons_of_ne_nil [] empty, List.map_singleton]
        exact congrArg (fun cmd => [CString.bytes cmd]) text

/-! ### Runs -/

/-- What has been read and what is waiting is what was sent, and what was handled is what the
library's reader delivers. -/
structure Uplink.Delivers (actions : List UplinkAction) (uplink : Uplink)
    (handled : List HandledCommand) : Prop where
  received : (readChunks actions).flatten ++ uplink.pipe = sentBytes actions
  delivered : 0 ∉ sentBytes actions →
    handled.map (fun handled => handled.cmd.bytes) = deliver newline (readChunks actions)

theorem ne_nil_of_mem_readChunks {actions : List UplinkAction} {chunk : List UInt8}
    (member : chunk ∈ readChunks actions) : chunk ≠ [] := by
  obtain ⟨action, _, read⟩ := List.mem_filterMap.mp member
  unfold UplinkAction.chunk? at read
  split at read
  · cases read
    exact List.cons_ne_nil _ _
  · cases read

theorem readChunks_snoc (actions : List UplinkAction) (action : UplinkAction) :
    readChunks (actions ++ [action]) = readChunks actions ++ action.chunk?.toList := by
  cases read : action.chunk? <;> simp [readChunks, List.filterMap_append, read]

theorem sentBytes_snoc (actions : List UplinkAction) (action : UplinkAction) :
    sentBytes (actions ++ [action]) = sentBytes actions ++ sentBytes [action] :=
  List.flatMap_append

theorem uplink_delivers {actions : List UplinkAction} {uplink : Uplink}
    {handled : List HandledCommand}
    (ran : uplinkThread.run Uplink.start actions = some (uplink, handled)) :
    Uplink.Delivers actions uplink handled := by
  refine uplinkThread.run_induction Uplink.Delivers ⟨rfl, fun _ => rfl⟩ ?_ ran
  intro actions uplink handled action next emitted _ held stepped
  cases action with
  | arrive bytes =>
    cases stepped
    constructor
    · rw [readChunks_snoc, sentBytes_snoc, ← held.received]
      simp [UplinkAction.chunk?, sentBytes]
    · intro noNul
      rw [sentBytes_snoc, List.mem_append, not_or] at noNul
      rw [readChunks_snoc, List.append_nil]
      simpa [UplinkAction.chunk?] using held.delivered noNul.1
  | poll read =>
    simp only [uplinkThread] at stepped
    split at stepped
    · cases stepped
    next rest taken =>
      cases stepped
      have passed := chunk?_fifoTake taken
      have same : sentBytes (actions ++ [.poll read]) = sentBytes actions := by
        simp [sentBytes]
      constructor
      · rw [readChunks_snoc, same, ← held.received, ← passed]
        simp
      · intro noNul
        rw [same] at noNul
        rw [readChunks_snoc, List.map_append, deliver_append, held.delivered noNul]
        congr 1
        refine uplinkIteration_delivers uplink.comms fun chunk read nul => noNul ?_
        rw [← held.received, ← passed, read]
        simp [nul]

/-- Once everything sent has been read, the commands handled are the lines sent exactly when
the reads are aligned with them: each line is not empty, and is read together with its newline
and nothing else or alone with its newline read alone after it. -/
theorem uplink_handles_iff (cmds : List CString)
    (oneLine : ∀ cmd ∈ cmds, newline ∉ cmd.bytes) {actions : List UplinkAction}
    {uplink : Uplink} {handled : List HandledCommand}
    (ran : uplinkThread.run Uplink.start actions = some (uplink, handled))
    (sent : sentBytes actions = commandLines cmds) (readAll : uplink.pipe = []) :
    handled.map HandledCommand.cmd = cmds ↔
      Aligned newline (cmds.map CString.bytes) (readChunks actions) := by
  have held := uplink_delivers ran
  have whole : (readChunks actions).flatten = commandLines cmds := by
    rw [← sent, ← held.received, readAll, List.append_nil]
  have noNul : (0 : UInt8) ∉ commandLines cmds := by
    simp only [commandLines, frame, List.mem_flatMap, List.mem_map, not_exists, not_and]
    rintro _ ⟨cmd, _, rfl⟩ member
    rcases List.mem_append.mp member with inside | behind
    · exact cmd.noNul inside
    · exact absurd (List.mem_singleton.mp behind) (by decide)
  have injective : Function.Injective CString.bytes := by
    rintro ⟨first, _⟩ ⟨second, _⟩ rfl
    rfl
  rw [← deliver_eq_iff (by simpa using oneLine) (fun _ => ne_nil_of_mem_readChunks) whole,
    ← held.delivered (sent ▸ noNul), ← injective.list_map.eq_iff, List.map_map]
  rfl

/-- One command is read with its newline, the next one before its newline. -/
def spaced : List UplinkAction :=
  [.arrive (cmdStatus.bytes ++ [newline]),
    .poll (.data (cmdStatus.bytes ++ [newline]) (by decide)),
    .arrive cmdSafeMode.bytes, .poll (.data cmdSafeMode.bytes (by decide)),
    .arrive [newline], .poll (.data [newline] (by decide))]

theorem uplink_handles_iff_spaced :
    ∃ uplink handled, uplinkThread.run Uplink.start spaced = some (uplink, handled) ∧
      handled.map HandledCommand.cmd = [cmdStatus, cmdSafeMode] := by
  have ran : uplinkThread.run Uplink.start spaced = some (⟨[], _⟩, _) := rfl
  refine ⟨_, _, ran, (uplink_handles_iff [cmdStatus, cmdSafeMode] (by decide) ran rfl rfl).mpr ?_⟩
  refine .whole ?_ (.split ?_ .nil)
  · decide
  · decide

/-- Two commands of at most thirty bytes that are waiting at one read are handled as one. -/
theorem not_uplink_handles :
    ¬ ∀ (cmds : List CString) (actions : List UplinkAction) (uplink : Uplink)
        (handled : List HandledCommand),
      (∀ cmd ∈ cmds, cmd.bytes.length ≤ 30 ∧ newline ∉ cmd.bytes) →
      uplinkThread.run Uplink.start actions = some (uplink, handled) →
      sentBytes actions = commandLines cmds → uplink.pipe = [] →
      handled.map HandledCommand.cmd = cmds := by
  intro claimed
  have merged := claimed [cmdStatus, cmdSafeMode]
    [.arrive (commandLines [cmdStatus, cmdSafeMode]),
      .poll (.data (commandLines [cmdStatus, cmdSafeMode]) (by decide))]
    _ _ (by decide) rfl rfl rfl
  exact absurd merged (by decide)

end Fdir
