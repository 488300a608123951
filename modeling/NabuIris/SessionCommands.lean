import NabuIris.InternalBuffers
import NabuIris.Lib.Sections
import NabuIris.Streaming

/-!
# Session commands (`iris_hfi_gen1_command.c`, `iris_utils.c`)

The commands of the first generation whose response is waited for, and `inst->completion`, which all
of them share. A response does not say which command it answers: `answered` is not in the driver.
-/

namespace NabuIris

open Lib

inductive SessionCommand
  | sessionInit
  | sessionEnd
  | loadResources
  | start
  | stop
  | releaseResources
  | releaseBuffers
  | getProperty
  | flush
deriving DecidableEq, Repr

/-- The response to a command, as the handler tells it. -/
def SessionCommand.done : SessionCommand → SessionDone
  | .stop => .stop
  | .flush => .flush
  | _ => .other

inductive Gen1BufferType
  | input
  | output
  | persist1
  | scratch
  | scratch1
  | scratch2
  | persist
deriving DecidableEq, Repr

def irisHfiGen1BufTypeFromDriver : BufType → Option Gen1BufferType
  | .input => some .input
  | .output => some .output
  | .persist => some .persist1
  | .bin => some .scratch
  | .scratch1 => some .scratch1
  | .scratch2 => some .scratch2
  | .arp => some .persist
  | _ => none

structure Channel where
  inst : Inst
  /-- `inst->completion.done` -/
  completion : Nat
  /-- the commands that the command queue took -/
  sent : List SessionCommand
  /-- the places in `sent` of those that are answered -/
  answered : List Nat

structure SessionWait where
  isFlush : Bool
  /-- the place in `sent` of the command that was sent last -/
  serial : Nat

/-- What takes the lock during a wait. -/
inductive Meanwhile
  /-- the firmware answers a command, which may be one that nobody waits for any more -/
  | reply (serial : Nat) (error : SessionError)
  /-- whatever leaves the completion alone -/
  | others (change : Inst → Inst)

structure SendEnv where
  /-- `iris_hfi_queue_cmd_write` -/
  write : SessionCommand → Int
  /-- the system packets that precede SESSION_INIT on SM8150 -/
  prepareRet : Int
  /-- `kzalloc` of the packet -/
  allocated : Bool

abbrev SendProgram := Sections Channel SessionWait Int

namespace Channel

def onInst (change : Inst → Inst) (c : Channel) : Channel := { c with inst := change c.inst }

/-! ### Responses -/

/-- `complete(&inst->completion)` -/
def complete (c : Channel) : Channel := { c with completion := c.completion + 1 }

/-- `reinit_completion(&inst->completion)` -/
def reinit (c : Channel) : Channel := { c with completion := 0 }

/-- `iris_hfi_gen1_handle_response`, for the response to a command. -/
def handleReply (command : SessionCommand) (error : SessionError) (c : Channel) : Channel :=
  match command with
  | .getProperty => c.complete
  | .flush => c.onInst (irisHfiGen1SessionDone .flush error)
  | command => (c.onInst (irisHfiGen1SessionDone command.done error)).complete

/-- The command at a place that has no answer yet. -/
def outstanding (serial : Nat) (c : Channel) : Option SessionCommand :=
  if serial ∈ c.answered then none else c.sent[serial]?

/-- The firmware answers each command once. -/
def handle (meanwhile : Meanwhile) (c : Channel) : Channel :=
  match meanwhile with
  | .others change => c.onInst change
  | .reply serial error =>
      match c.outstanding serial with
      | none => c
      | some command => { c with answered := serial :: c.answered }.handleReply command error

/-! ### Commands -/

/-- `return ret` -/
def giveUp (ret : Int) (c : Channel) : SendProgram := .done ret c

def irisHfiQueueCmdWrite (env : SendEnv) (command : SessionCommand) (c : Channel) :
    Int × Channel :=
  (env.write command,
    if env.write command = 0 then { c with sent := c.sent ++ [command] } else c)

def irisWaitForSessionResponse (isFlush : Bool) (c : Channel) : SendProgram :=
  .wait { isFlush, serial := c.sent.length - 1 } c fun timedOut c =>
    if timedOut then .done (-etimedout) (c.onInst Inst.enterError) else .done 0 c

def command (env : SendEnv) (command : SessionCommand) (c : Channel) : SendProgram :=
  orGoto (c.irisHfiQueueCmdWrite env command) giveUp (irisWaitForSessionResponse false)

/-- `iris_hfi_gen1_session_open` -/
def sessionOpen (env : SendEnv) (c : Channel) : SendProgram :=
  if c.inst.state ≠ .deinit then .done (-ealready) c
  else
    orGoto (if c.inst.legacyVpu5 then env.prepareRet else 0, c) giveUp fun c =>
    c.reinit.command env .sessionInit

/-- `iris_hfi_gen1_session_close` -/
def sessionClose (env : SendEnv) (c : Channel) : Int × Channel :=
  c.irisHfiQueueCmdWrite env .sessionEnd

def sessionStart (env : SendEnv) (plane : Plane) (c : Channel) : SendProgram :=
  match plane with
  | .capture => .done 0 c
  | .output =>
      if hasFlag c.inst.subState subLoadResources then .done 0 c
      else
        (c.reinit.command env .loadResources).bind fun ret c => orGoto (ret, c) giveUp fun c =>
        (c.reinit.command env .start).bind fun ret c => orGoto (ret, c) giveUp fun c =>
        let change := irisInstChangeSubState 0 subLoadResources c.inst
        .done change.1 { c with inst := change.2 }

def sessionRelease (env : SendEnv) (c : Channel) : SendProgram :=
  (c.reinit.command env .stop).bind fun _ c =>
  (c.reinit.command env .releaseResources).bind fun ret c =>
  .done ret (c.onInst fun inst => (irisInstChangeSubState subLoadResources 0 inst).2)

def returnBuffers (ret : Int) (c : Channel) : SendProgram :=
  .done ret (c.onInst NabuIris.returnAllBuffers)

def sessionStop (env : SendEnv) (c : Channel) : SendProgram :=
  match c.inst.domain with
  | .decoder =>
      if c.inst.state = .streaming then
        orGoto (c.irisHfiQueueCmdWrite env .flush) giveUp fun c =>
        irisWaitForSessionResponse true (c.onInst fun inst =>
          { inst with flushResponsesPending := inst.flushResponsesPending + 1 })
      else if hasFlag c.inst.subState subLoadResources then
        (c.sessionRelease env).bind returnBuffers
      else .done 0 c
  | .encoder =>
      let release : SendProgram :=
        if c.inst.state = .streaming ∨ c.inst.state = .inputStreaming ∨ c.inst.state = .error then
          c.sessionRelease env
        else .done 0 c
      release.bind returnBuffers

def getBufferRequirements (env : SendEnv) (c : Channel) : SendProgram :=
  c.reinit.command env .getProperty

/-- It does not reset the completion. -/
def sessionUnsetBuffers (env : SendEnv) (type : BufType) (c : Channel) : SendProgram :=
  match irisHfiGen1BufTypeFromDriver type with
  | none => .done (-einval) c
  | some .input => .done 0 c
  | some _ => if env.allocated then c.command env .releaseBuffers else .done (-enomem) c

/-! ### `iris_common.c` -/

def irisHfiSessionClose (env : SendEnv) (c : Channel) : SendProgram :=
  let closed (ret : Int) (c : Channel) : SendProgram :=
    .done ret (c.onInst fun inst =>
      { inst with
        hfiSessionOpened := false
        subState := 0
        streamoffPending := false
        flushResponsesPending := 0
        lastBufferDequeued := false })
  if !c.inst.hfiSessionOpened then .done 0 c
  else
    let wasError := c.inst.state == .error
    Sections.bind (orGoto (c.reinit.sessionClose env) giveUp fun c =>
      (irisWaitForSessionResponse false c).bind fun ret c => orGoto (ret, c) giveUp fun c =>
      if !wasError ∧ c.inst.state = .error then .done (-eio) c
      else if c.inst.state ≠ .error then
        let change := irisInstChangeState .deinit c.inst
        .done change.1 { c with inst := change.2 }
      else .done 0 c) closed

/-- SESSION_END, whose response nobody waits for. -/
def irisKillSession (env : SendEnv) (c : Channel) : Channel :=
  if c.inst.sessionId = 0 then c else (c.sessionClose env).2.onInst Inst.enterError

end Channel

/-- What sends commands, one call after the other. -/
inductive SendCall
  | sessionOpen (env : SendEnv)
  | sessionStart (env : SendEnv) (plane : Plane)
  | sessionStop (env : SendEnv)
  | getBufferRequirements (env : SendEnv)
  | sessionUnsetBuffers (env : SendEnv) (type : BufType)
  | hfiSessionClose (env : SendEnv)
  | killSession (env : SendEnv)

namespace Channel

def body (call : SendCall) (c : Channel) : SendProgram :=
  match call with
  | .sessionOpen env => c.sessionOpen env
  | .sessionStart env plane => c.sessionStart env plane
  | .sessionStop env => c.sessionStop env
  | .getBufferRequirements env => c.getBufferRequirements env
  | .sessionUnsetBuffers env type => c.sessionUnsetBuffers env type
  | .hfiSessionClose env => c.irisHfiSessionClose env
  | .killSession env => .done 0 (c.irisKillSession env)

/-- `wait_for_completion_timeout`; the waits on `flush_completion` end at any time. -/
def resume (wait : SessionWait) (timedOut : Bool) (c : Channel) : Option Channel :=
  if wait.isFlush then some c
  else
    match timedOut, c.completion with
    | false, 0 => none
    | false, n + 1 => some { c with completion := n }
    | true, 0 => some c
    | true, _ + 1 => none

def opened (inst : Inst) : Channel := { inst, completion := 0, sent := [], answered := [] }

end Channel

abbrev SendMove := Lib.Move Meanwhile SendCall

def channelMachine : Machine Channel SessionWait Meanwhile SendCall Int where
  handle := Channel.handle
  resume := Channel.resume
  body := Channel.body

end NabuIris
