/-
This file proves that the uplink thread stays inside its buffers and that the comms process
keeps the last command it handled, whole and alone.

`fifo_read_command` is modelled here by its single stores, which are undefined outside the
buffer; so is the reading of a command from a buffer that holds no NUL. One byte kept back from
`read` makes room for the terminator, at the full buffer too. The copy of the command ends in a
byte that `strncpy` never writes and that the start-up cleared, and `strncpy` fills with NULs
what a longer predecessor left.
-/

import Fdir.Uplink

namespace Fdir

open CMemory LineFraming

/-! ### Reading, store by store -/

/-- What a `read` of the FIFO comes upon. -/
inductive FifoOffer where
  /-- `EAGAIN` or `EWOULDBLOCK`. -/
  | again
  /-- Any other error. -/
  | failed
  /-- The bytes waiting, however many; none at the end of the file. -/
  | data (waiting : List UInt8)

/-- `fifo_read_command` into a buffer of some size: `none` if it stores or reads outside. -/
def fifoReadCommandStores {size : Nat} (maxlen : Nat) (offer : FifoOffer)
    (buf : CharArray size) : Option (Int × CharArray size) := do
  let buf ← buf.storeFrom 0 (List.replicate maxlen 0)
  match offer with
  | .again => some (0, buf)
  | .failed => some (-1, buf)
  | .data waiting =>
    let read := waiting.take (maxlen - 1)
    let buf ← buf.storeFrom 0 read
    if read = [] then some (0, buf)
    else
      let buf ← buf.store read.length 0
      let last ← buf.fetch (read.length - 1)
      if last = newline then
        let buf ← buf.store (read.length - 1) 0
        some ((read.length - 1 : Nat), buf)
      else some (read.length, buf)

/-- What `read` returns of an offer. -/
def FifoOffer.read : FifoOffer → FifoRead cmdMaxLen
  | .again => .again
  | .failed => .failed
  | .data waiting => .data (waiting.take (cmdMaxLen - 1)) (by
      rw [List.length_take]
      exact (Nat.min_le_left ..).trans_lt (by decide))

/-- The last byte read is found in the buffer. -/
theorem fetch_fill {line : List UInt8} {last : UInt8} {size : Nat}
    (fits : (line ++ [last]).length ≤ size) :
    (CharArray.fill (line ++ [last]) fits).fetch line.length = some last := by
  simp [CharArray.fetch, CharArray.fill]

theorem fifoReadCommandStores_data {waiting read : List UInt8}
    (taken : waiting.take (cmdMaxLen - 1) = read) (fits : read.length < cmdMaxLen)
    (buf : CharArray cmdMaxLen) :
    fifoReadCommandStores cmdMaxLen (.data waiting) buf =
      some (fifoReadCommand (.data read fits)) := by
  simp only [fifoReadCommandStores, fifoReadCommand, taken, CharArray.storeFrom_zeros,
    Option.bind_eq_bind, Option.bind_some, CharArray.storeFrom_fill fits.le]
  rcases List.eq_nil_or_concat read with rfl | ⟨line, last, rfl⟩
  · rfl
  simp only [List.concat_eq_append] at fits ⊢
  have whole : (line ++ [last] ++ []).length < cmdMaxLen := by
    rwa [List.append_nil]
  have terminated := CharArray.store_fill whole (show ([] : List UInt8).length ≤ 1 by decide)
  simp only [List.append_nil] at terminated
  rw [if_neg (by simp), terminated, Option.bind_some]
  have place : (line ++ [last]).length - 1 = line.length := by simp
  rw [place, fetch_fill, Option.bind_some]
  split
  next isNewline =>
    subst isNewline
    rw [CharArray.store_fill fits le_rfl, Option.bind_some]
    simp only [strip_snoc]
  next other =>
    have same : strip newline (line ++ [last]) = line ++ [last] := by
      simp [strip, other]
    simp only [same]

/-- Every store is inside the buffer, and what they do is what the reading is modelled by. -/
theorem fifoReadCommandStores_eq (offer : FifoOffer) (buf : CharArray cmdMaxLen) :
    fifoReadCommandStores cmdMaxLen offer buf = some (fifoReadCommand offer.read) := by
  cases offer with
  | again | failed =>
    simp only [fifoReadCommandStores, CharArray.storeFrom_zeros]
    rfl
  | data waiting => exact fifoReadCommandStores_data rfl _ buf

/-- The buffer left is a string. -/
theorem terminated_fifoReadCommand (read : FifoRead cmdMaxLen) :
    (fifoReadCommand read).2.Terminated := by
  cases read with
  | again => decide
  | failed => decide
  | data bytes fits => exact CharArray.terminated_fill ((length_strip_le bytes).trans_lt fits)

/-! ### The thread -/

/-- The buffer on the stack of `uplink_thread` and the comms data. -/
structure UplinkLoop where
  cmdBuf : CharArray cmdMaxLen
  comms : CommsData

/-- The iterations of `uplink_thread`, whatever they come upon in the FIFO: `none` if a buffer is
left, or a command is read from a buffer without a terminator. -/
def uplinkLoop : Machine UplinkLoop FifoOffer HandledCommand where
  step loop offer := do
    let (bytes, cmdBuf) ← fifoReadCommandStores cmdMaxLen offer loop.cmdBuf
    if 0 < bytes then
      if cmdBuf.Terminated then
        let (effect, comms) :=
          commsHandleCommand cmdBuf.text { loop.comms with uplinkActive := true }
        some (⟨cmdBuf, comms⟩, [⟨cmdBuf.text, effect⟩])
      else none
    else some (⟨cmdBuf, { loop.comms with uplinkActive := false }⟩, [])

/-- No iteration goes wrong, and each does what it is modelled by. -/
theorem uplinkLoop_step (loop : UplinkLoop) (offer : FifoOffer) :
    uplinkLoop.step loop offer =
      some (⟨(fifoReadCommand offer.read).2, (uplinkIteration offer.read loop.comms).1⟩,
        (uplinkIteration offer.read loop.comms).2) := by
  simp only [uplinkLoop, fifoReadCommandStores_eq, Option.bind_eq_bind, Option.bind_some,
    if_pos (terminated_fifoReadCommand offer.read), uplinkIteration]
  split <;> rfl

/-! ### The command kept -/

/-- The copy ends in a NUL, and is the last command handled, with nothing but NULs behind it. -/
structure KeepsCommand (comms : CommsData) (handled : List HandledCommand) : Prop where
  lastNul : comms.lastCommand.bytes.drop (cmdMaxLen - 1) = [0]
  alone : ∀ command, handled.getLast? = some command →
    ∃ fits : command.cmd.bytes.length < cmdMaxLen,
      comms.lastCommand = .fill command.cmd.bytes fits.le

namespace KeepsCommand

variable {comms : CommsData} {handled : List HandledCommand}

theorem start : KeepsCommand commsInit [] where
  lastNul := by decide
  alone := nofun

theorem iteration (keeps : KeepsCommand comms handled) (read : FifoRead cmdMaxLen) :
    KeepsCommand (uplinkIteration read comms).1 (handled ++ (uplinkIteration read comms).2) := by
  by_cases positive : 0 < (fifoReadCommand read).1
  · have fits : (fifoReadCommand read).2.text.bytes.length < cmdMaxLen :=
      (terminated_fifoReadCommand read).length_text
    have stored : (uplinkIteration read comms).1.lastCommand =
        .fill (fifoReadCommand read).2.text.bytes fits.le := by
      simp only [uplinkIteration, if_pos positive, commsHandleCommand, storeCommand]
      exact CharArray.strncpyButLast_eq_fill fits keeps.lastNul
    refine ⟨by rw [stored]; exact CharArray.drop_fill fits, fun command last => ?_⟩
    rw [uplinkIteration_of_pos comms positive, List.getLast?_concat] at last
    cases last
    exact ⟨fits, stored⟩
  · rw [uplinkIteration_of_not_pos comms positive, List.append_nil]
    simp only [uplinkIteration, if_neg positive]
    exact ⟨keeps.lastNul, keeps.alone⟩

theorem terminated (keeps : KeepsCommand comms handled) : comms.lastCommand.Terminated := by
  have last : (0 : UInt8) ∈ comms.lastCommand.bytes.drop (cmdMaxLen - 1) := by
    rw [keeps.lastNul]
    exact List.mem_singleton_self _
  exact List.mem_of_mem_drop last

end KeepsCommand

/-- Whatever the buffer held at first and whatever the reads come upon: every store of
`fifo_read_command` is inside the buffer and leaves a string in it, no iteration goes wrong, and
`last_command` is terminated and is the last command handled, with nothing of an earlier one
behind it. -/
theorem uplink_lastCommand (cmdBuf : CharArray cmdMaxLen) (offers : List FifoOffer) :
    (∀ (offer : FifoOffer) (buf : CharArray cmdMaxLen),
        ∃ bytes filled, fifoReadCommandStores cmdMaxLen offer buf = some (bytes, filled) ∧
          filled.Terminated) ∧
      ∃ loop handled, uplinkLoop.run ⟨cmdBuf, commsInit⟩ offers = some (loop, handled) ∧
        loop.comms.lastCommand.Terminated ∧
        ∀ command, handled.getLast? = some command →
          loop.comms.lastCommand.text = command.cmd ∧
            ∃ fits : command.cmd.bytes.length < cmdMaxLen,
              loop.comms.lastCommand = .fill command.cmd.bytes fits.le := by
  refine ⟨fun offer buf => ⟨_, _, fifoReadCommandStores_eq offer buf,
    terminated_fifoReadCommand offer.read⟩, ?_⟩
  obtain ⟨loop, handled, ran⟩ := uplinkLoop.exists_run
    (fun loop offer => by rw [uplinkLoop_step]; rfl) ⟨cmdBuf, commsInit⟩ offers
  have keeps : KeepsCommand loop.comms handled := by
    refine uplinkLoop.run_invariant (fun loop handled => KeepsCommand loop.comms handled)
      .start ?_ ran
    intro loop handled offer next emitted keeps stepped
    rw [uplinkLoop_step] at stepped
    cases stepped
    exact keeps.iteration offer.read
  refine ⟨loop, handled, ran, keeps.terminated, fun command last => ?_⟩
  obtain ⟨fits, copy⟩ := keeps.alone command last
  refine ⟨?_, fits, copy⟩
  rw [copy]
  exact CharArray.text_fill command.cmd fits

end Fdir
