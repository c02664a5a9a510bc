import AndroidVcam.Lib.ByteChannel
import AndroidVcam.Lib.Traced
import AndroidVcam.Lib.Wire

/-!
# The control daemon

`native/control_daemon.c`: `vcamd` reads one request from a client socket, checks it against a table
of commands, runs the controller script with the command and its arguments and sends the output
back. The model follows `handle_client` and `run_controller` with every access to an array or an
allocation, every `free` and the array handed to `execv`.

* `handleClient`: one connection.

The results of system calls and allocations are fields of `DaemonEnv`; the client is a `Source`.
-/

namespace Vcam.Daemon

open ByteChannel Wire Traced

def maxArguments : ℕ := 8

def maxCommand : ℕ := 64

def maxArgument : ℕ := 4096

def maxOutput : ℕ := 4 * 1024 * 1024

def maxImagePayload : ℕ := 32 * 1024 * 1024

def maxMediaPayload : ℕ := 32 * 1024 * 1024 * 1024

def transferSize : ℕ := 64 * 1024

def literalBytes (s : String) : Bytes := s.toList.map fun c => c.toNat.toUInt8

def requestMagic : Bytes := literalBytes "VCAMD001"

def responseMagic : Bytes := literalBytes "VCAMR001"

/-! ## The table of commands -/

structure CommandRule where
  name : Bytes
  arguments : ℕ
  maximumPayload : ℕ
deriving DecidableEq

def kRules : List CommandRule :=
  [⟨literalBytes "status", 0, 0⟩,
   ⟨literalBytes "capabilities", 0, 0⟩,
   ⟨literalBytes "diagnostics", 0, 0⟩,
   ⟨literalBytes "providers", 0, 0⟩,
   ⟨literalBytes "provider-add", 4, 0⟩,
   ⟨literalBytes "provider-remove", 1, 0⟩,
   ⟨literalBytes "provider-start", 1, 0⟩,
   ⟨literalBytes "provider-stop", 1, 0⟩,
   ⟨literalBytes "source-preview", 2, 0⟩,
   ⟨literalBytes "provider-frame", 1, 0⟩,
   ⟨literalBytes "provider-update", 8, 0⟩,
   ⟨literalBytes "provider-publish-stdin", 1, maxImagePayload⟩,
   ⟨literalBytes "provider-import-media", 1, maxMediaPayload⟩,
   ⟨literalBytes "provider-config", 1, 0⟩,
   ⟨literalBytes "provider-config-set", 6, 0⟩,
   ⟨literalBytes "routes", 0, 0⟩,
   ⟨literalBytes "route-set", 3, 0⟩,
   ⟨literalBytes "route-remove", 2, 0⟩,
   ⟨literalBytes "route-save", 3, 0⟩,
   ⟨literalBytes "routing-enable", 0, 0⟩,
   ⟨literalBytes "routing-disable", 0, 0⟩]

structure Header where
  commandLength : ℕ
  argumentCount : ℕ
  payloadLength : ℕ
deriving DecidableEq

def CommandRule.admits (rule : CommandRule) (header : Header) : Prop :=
  rule.arguments = header.argumentCount ∧ header.payloadLength ≤ rule.maximumPayload ∧
    ¬ (rule.maximumPayload = 0 ∧ header.payloadLength ≠ 0)

instance (rule : CommandRule) (header : Header) : Decidable (rule.admits header) :=
  inferInstanceAs (Decidable (_ ∧ _))

/-! ## Memory -/

/-- The arrays, allocations and literals that the two functions use. -/
inductive Object
  | magic
  | commandLength
  | argumentCount
  | payloadLength
  | command
  | arguments
  | argumentLength
  /-- The allocation for an argument of this length. -/
  | argument (index length : ℕ)
  | inputPipe
  | outputPipe
  | transfer
  | output
  /-- The copy that stands for an output the controller did not give. -/
  | transportMessage
  | responseCode
  | responseLength
  /-- A string literal, or a string of the caller, without its NUL. -/
  | text (bytes : Bytes)
deriving DecidableEq

def Object.size : Object → ℕ
  | magic | payloadLength => 8
  | commandLength | argumentCount | argumentLength | responseCode | responseLength => 4
  | command => maxCommand + 1
  | arguments => maxArguments + 2
  | argument _ length => length + 1
  | inputPipe | outputPipe => 2
  | transfer => transferSize
  | output => maxOutput + 1
  | transportMessage => 29
  | text bytes => bytes.length + 1

/-- What an element of `arguments` points to. -/
inductive Pointer
  | controller
  | command
  | argument (index length : ℕ)
deriving DecidableEq

inductive Event
  | access (object : Object) (range : Range)
  | free (object : Object)
  /-- `execv` with this array, for a request with `count` arguments. -/
  | exec (count : ℕ) (argv : List (Option Pointer))
deriving DecidableEq

/-! ## The platform -/

/-- The results of the system calls and allocations of one connection. -/
structure DaemonEnv where
  /-- `getsockopt` succeeds and the peer is the manager application. -/
  authorised : Bool
  /-- The path of the controller. -/
  controller : Bytes
  /-- `calloc` for the argument with this index succeeds. -/
  allocated : ℕ → Bool
  inputPipe : Bool
  outputPipe : Bool
  forked : Bool
  outputAllocated : Bool
  messageAllocated : Bool
  /-- What the controller prints. -/
  controllerOutput : Source
  /-- How the controller takes its input. -/
  controllerInput : List Acceptance
  /-- How the client takes the response. -/
  client : List Acceptance
  /-- `WEXITSTATUS`, when the controller exited. -/
  exitStatus : Option ℕ

/-! ## The request -/

/-- `read_exact` into the front of an object. -/
def readInto (object : Object) (length : ℕ) (source : Source) :
    Traced Event (Bytes × Source) :=
  let read := readExact source 0 length
  ⟨read.1, read.2.map (.access object)⟩

/-- `be64_to_host`: both words and their order are swapped. -/
def be64ToHost (bytes : Bytes) : ℕ :=
  beValue (bytes.take 4) * 2 ^ 32 + beValue (bytes.drop 4)

def readHeader (client : Source) : Traced Event (Header × Source) := do
  let (magic, client) ← readInto .magic 8 client
  emit [.access .magic ⟨0, 8⟩, .access (.text requestMagic) ⟨0, 8⟩]
  require (magic = requestMagic)
  let (commandLength, client) ← readInto .commandLength 4 client
  let (argumentCount, client) ← readInto .argumentCount 4 client
  let (payloadLength, client) ← readInto .payloadLength 8 client
  pure (⟨beValue commandLength, beValue argumentCount, be64ToHost payloadLength⟩, client)

def readCommand (header : Header) (client : Source) : Traced Event (Bytes × Source) := do
  let (command, client) ← readInto .command header.commandLength client
  emit [.access .command ⟨header.commandLength, 1⟩]
  pure (command, client)

/-- What C string functions see of a buffer with a NUL behind it. -/
def cString (bytes : Bytes) : Bytes := bytes.takeWhile (· ≠ 0)

/-- The number of bytes that `strcmp` reads of each of two strings. -/
def compared : Bytes → Bytes → ℕ
  | a :: as, b :: bs => if a = b then compared as bs + 1 else 1
  | _, _ => 1

/-- `find_rule`: the rules are compared one after the other. -/
def findRule (command : Bytes) : List CommandRule → Traced Event CommandRule
  | [] => stop
  | rule :: rest =>
    let count := compared (cString command) rule.name
    let reads := [.access .command ⟨0, count⟩, .access (.text rule.name) ⟨0, count⟩]
    if cString command = rule.name then ⟨some rule, reads⟩
    else do
      emit reads
      findRule command rest

def initialArguments : List (Option Pointer) :=
  [some .controller, some .command] ++ List.replicate maxArguments none

structure ArgumentsRead where
  arguments : List (Option Pointer)
  values : List Bytes
  /-- The client behind the last argument, `none` when the loop was left. -/
  client : Option Source
  tooLong : Bool
  events : List Event

/-- The loop over the arguments from `index` on. -/
def readArguments (env : DaemonEnv) :
    ℕ → ℕ → List (Option Pointer) → Source → ArgumentsRead
  | 0, _, arguments, client => ⟨arguments, [], some client, false, []⟩
  | todo + 1, index, arguments, client =>
    let prefixed := readInto .argumentLength 4 client
    match prefixed.result with
    | none => ⟨arguments, [], none, false, prefixed.events⟩
    | some (lengthBytes, client) =>
      let length := beValue lengthBytes
      -- The result of `calloc` is stored and tested.
      let stored := prefixed.events ++ [.access .arguments ⟨index + 2, 1⟩]
      if maxArgument < length then ⟨arguments, [], none, true, prefixed.events⟩
      else if !env.allocated index then ⟨arguments, [], none, false, stored⟩
      else
        let arguments := arguments.set (index + 2) (some (.argument index length))
        let value := readInto (.argument index length) length client
        match value.result with
        | none => ⟨arguments, [], none, false, stored ++ value.events⟩
        | some (bytes, client) =>
          let rest := readArguments env todo (index + 1) arguments client
          { rest with
            values := bytes :: rest.values
            events := stored ++ value.events ++ rest.events }

/-! ## The controller -/

/-- The request that a controller is run for. -/
structure Invocation where
  argumentCount : ℕ
  payloadLength : ℕ
  command : Bytes
  arguments : List (Option Pointer)
  values : List Bytes

/-- `execv` copies the string behind a pointer. -/
def stringAccess (env : DaemonEnv) (call : Invocation) : Pointer → Event
  | .controller => .access (.text env.controller) ⟨0, (cString env.controller).length + 1⟩
  | .command => .access .command ⟨0, (cString call.command).length + 1⟩
  | .argument index length =>
    .access (.argument index length) ⟨0, (cString (call.values.getD index [])).length + 1⟩

/-- `execv` reads the array from `index` on up to its first null pointer. When the array has none it
reads behind its end. -/
def argvScan (env : DaemonEnv) (call : Invocation) : ℕ → List (Option Pointer) → List Event
  | index, some pointer :: rest =>
    .access .arguments ⟨index, 1⟩ :: stringAccess env call pointer ::
      argvScan env call (index + 1) rest
  | index, _ => [.access .arguments ⟨index, 1⟩]

/-- The child up to `execv`. -/
def childEvents (env : DaemonEnv) (call : Invocation) : List Event :=
  .exec call.argumentCount call.arguments :: argvScan env call 0 call.arguments

structure Transferred where
  ok : Bool
  /-- The bytes that the controller took. -/
  input : Bytes
  events : List Event

def chunkLength (payload : ℕ) : ℕ := if payload < transferSize then payload else transferSize

theorem chunkLength_pos {payload : ℕ} (h : payload ≠ 0) : 0 < chunkLength payload := by
  have hs : 0 < transferSize := by decide
  unfold chunkLength
  split_ifs <;> omega

theorem chunkLength_le (p : ℕ) : chunkLength p ≤ transferSize := by
  unfold chunkLength
  split_ifs <;> omega

/-- The payload goes through a buffer to the controller. -/
def transferPayload (payload : ℕ) (client : Source) (sink : List Acceptance) : Transferred :=
  if payload = 0 then ⟨true, [], []⟩
  else
    let wanted := chunkLength payload
    let chunk := readInto .transfer wanted client
    match chunk.result with
    | none => ⟨false, [], chunk.events⟩
    | some (bytes, client) =>
      let sent := writeExact sink 0 wanted
      let events := chunk.events ++ sent.ranges.map (.access .transfer)
      if !sent.ok then ⟨false, bytes.take sent.count, events⟩
      else
        let rest := transferPayload (payload - wanted) client sent.sink
        ⟨rest.ok, bytes ++ rest.input, events ++ rest.events⟩
termination_by payload
decreasing_by
  have hpos : 0 < chunkLength payload := chunkLength_pos (by assumption)
  omega

structure Collected where
  ok : Bool
  output : Bytes
  events : List Event

/-- The output of the controller is read behind the `used` bytes that are there. -/
def collectOutput : Source → ℕ → Collected
  | [], used => ⟨true, [], [.access .output ⟨used, maxOutput - used⟩]⟩
  | .failed :: _, used => ⟨false, [], [.access .output ⟨used, maxOutput - used⟩]⟩
  | .interrupted :: rest, used =>
    let next := collectOutput rest used
    { next with events := .access .output ⟨used, maxOutput - used⟩ :: next.events }
  | .data bytes :: rest, used =>
    let taken := bytes.take (maxOutput - used)
    if used + taken.length = maxOutput then
      ⟨false, taken, [.access .output ⟨used, maxOutput - used⟩]⟩
    else
      let next := collectOutput rest (used + taken.length)
      { next with
        output := taken ++ next.output
        events := .access .output ⟨used, maxOutput - used⟩ :: next.events }

structure ControllerRun where
  code : ℕ
  /-- `*output`, null when the controller was not run or has no buffer. -/
  output : Option Bytes
  input : Bytes
  events : List Event

def runController (env : DaemonEnv) (call : Invocation) (client : Source) : ControllerRun :=
  if !env.inputPipe then ⟨70, none, [], [.access .inputPipe ⟨0, 2⟩]⟩
  else
    let pipes := [.access .inputPipe ⟨0, 2⟩, .access .outputPipe ⟨0, 2⟩]
    if !env.outputPipe ∨ !env.forked then ⟨70, none, [], pipes⟩
    else
      let transferred := transferPayload call.payloadLength client env.controllerInput
      let started := pipes ++ childEvents env call ++ transferred.events
      let status := env.exitStatus.getD 70
      if !env.outputAllocated then
        ⟨if status = 0 then 74 else status, none, transferred.input, started⟩
      else
        let collected := collectOutput env.controllerOutput 0
        let ok := transferred.ok && collected.ok
        ⟨if !ok ∧ status = 0 then 74 else status, some collected.output, transferred.input,
          started ++ collected.events ++ [.access .output ⟨collected.output.length, 1⟩]⟩

def DaemonEnv.Forks (env : DaemonEnv) : Prop :=
  env.inputPipe = true ∧ env.outputPipe = true ∧ env.forked = true

/-! ## One connection -/

/-- `write_exact` from the front of an object. -/
def writeFrom (object : Object) (length : ℕ) (sink : List Acceptance) :
    Traced Event (List Acceptance) :=
  let written := writeExact sink 0 length
  ⟨if written.ok then some written.sink else none, written.ranges.map (.access object)⟩

def sendResponse (sink : List Acceptance) (body : Object) (length : ℕ) :
    Traced Event (List Acceptance) := do
  let sink ← writeFrom (.text responseMagic) 8 sink
  let sink ← writeFrom .responseCode 4 sink
  let sink ← writeFrom .responseLength 4 sink
  if 0 < length then writeFrom body length sink else pure sink

structure Response where
  code : ℕ
  output : Bytes
deriving DecidableEq

structure Handled where
  response : Option Response
  /-- What the controller was run for and the bytes it took. -/
  run : Option (Invocation × Bytes)
  events : List Event

def refuse (env : DaemonEnv) (code : ℕ) (message : String) (length : ℕ) : Handled :=
  let bytes := literalBytes message
  ⟨some ⟨code, bytes.take length⟩, none, (sendResponse env.client (.text bytes) length).events⟩

def Handled.after (handled : Handled) (events : List Event) : Handled :=
  { handled with events := events ++ handled.events }

/-- `free(arguments[index + 2])`. -/
def release (arguments : List (Option Pointer)) (index : ℕ) : List Event :=
  .access .arguments ⟨index + 2, 1⟩ ::
    match arguments.getD (index + 2) none with
    | some (.argument i length) => [.free (.argument i length)]
    | _ => []

def cleanup (argumentCount : ℕ) (arguments : List (Option Pointer)) : List Event :=
  (List.range argumentCount).flatMap (release arguments)

/-- The answer to a request that was run, and the release of the output. -/
def answer (env : DaemonEnv) (run : ControllerRun) : Response × List Event :=
  match run.output with
  | some output =>
    (⟨run.code, output⟩,
      (sendResponse env.client .output output.length).events ++ [.free .output])
  | none =>
    if env.messageAllocated then
      (⟨run.code, literalBytes "controller transport failed\n"⟩,
        (sendResponse env.client .transportMessage 28).events ++ [.free .transportMessage])
    else (⟨run.code, []⟩, (sendResponse env.client .transportMessage 0).events)

def serve (env : DaemonEnv) (header : Header) (command : Bytes) (client : Source) : Handled :=
  let read := readArguments env header.argumentCount 0 initialArguments client
  let stored := [.access .arguments ⟨0, maxArguments + 2⟩] ++ read.events
  let released := cleanup header.argumentCount read.arguments
  match read.client with
  | none =>
    if read.tooLong then
      let refused := refuse env 64 "argument too long\n" 18
      ⟨refused.response, none, stored ++ refused.events ++ released⟩
    else ⟨none, none, stored ++ released⟩
  | some client =>
    let call : Invocation :=
      ⟨header.argumentCount, header.payloadLength, command, read.arguments, read.values⟩
    let run := runController env call client
    let answered := answer env run
    ⟨some answered.1, some (call, run.input), stored ++ run.events ++ answered.2 ++ released⟩

def handleClient (env : DaemonEnv) (client : Source) : Handled :=
  if !env.authorised then refuse env 77 "unauthorized client\n" 20
  else
    let read := readHeader client
    match read.result with
    | none => ⟨none, none, read.events⟩
    | some (header, client) =>
      if header.commandLength = 0 ∨ maxCommand < header.commandLength ∨
          maxArguments < header.argumentCount then
        (refuse env 64 "invalid request\n" 16).after read.events
      else
        let named := readCommand header client
        match named.result with
        | none => ⟨none, none, read.events ++ named.events⟩
        | some (command, client) =>
          let found := findRule command kRules
          let events := read.events ++ named.events ++ found.events
          match found.result with
          | none => (refuse env 64 "command rejected\n" 17).after events
          | some rule =>
            if rule.admits header then (serve env header command client).after events
            else (refuse env 64 "command rejected\n" 17).after events

end Vcam.Daemon
