import SwitchService.Foundation.Interleaving

set_option autoImplicit false

/-!
# The process, from its start to its end (`server.ts`)

`main` waits for the database (`db/pool.ts`), migrates, starts the consumer and listens; then
it installs the handlers of the signals.  A signal drains the process: it reports that it is
not ready, waits, closes the server, stops the consumer, closes the stores and exits.

`main` and every signal is a program over the process; what happens outside of them (time,
connections, the read loop, a timer, a crash) happens in between.
-/

namespace SwitchService.Server

open SwitchService.Foundation

/-! ## The state -/

/-- What the process has open, and what its `HealthService` has been told. -/
structure Process where
  now : ℚ
  migrationsComplete : Bool
  consumerRunning : Bool
  /-- The handlers of the signals are installed. -/
  handled : Bool
  shuttingDown : Bool
  /-- The server takes connections. -/
  listening : Bool
  connections : ℕ
  /-- `running` of the consumer. -/
  reading : Bool
  /-- The read loop has been started and has not returned. -/
  looping : Bool
  /-- When the timer of the hard exit is due. -/
  hardExit : Option ℚ
  redisOpen : Bool
  poolsOpen : Bool
  exitCode : Option ℕ
  deriving DecidableEq

/-- The process before `main`. -/
def Process.init (now : ℚ) : Process where
  now := now
  migrationsComplete := false
  consumerRunning := false
  handled := false
  shuttingDown := false
  listening := false
  connections := 0
  reading := false
  looping := false
  hardExit := none
  redisOpen := true
  poolsOpen := true
  exitCode := none

/-- What `HealthService.readiness` reports. -/
structure ReadinessReport where
  ready : Bool
  postgresUp : Bool
  redisUp : Bool
  migrationsComplete : Bool
  consumerRunning : Bool
  deriving DecidableEq

/-- `HealthService.readiness`, with the answers of the two stores. -/
def readiness (postgres redis : Bool) (p : Process) : ReadinessReport where
  ready := postgres && p.migrationsComplete
  postgresUp := postgres
  redisUp := redis
  migrationsComplete := p.migrationsComplete
  consumerRunning := p.consumerRunning

/-! ## The calls -/

/-- What `main` and the signal handler do, step by step. -/
inductive ServerCall where
  | now
  /-- The end of a `sleep`. -/
  | sleepUntil (moment : ℚ)
  /-- `SELECT 1`. -/
  | selectOne
  | runMigrations
  | setMigrationsComplete (value : Bool)
  | setConsumerRunning (value : Bool)
  /-- `consumer.start()`. -/
  | startConsumer
  | listen
  | installShutdown
  /-- The flag is read and set in one turn of the event loop. -/
  | enterShutdown
  | setHardExit
  | clearHardExit
  | closeEvents
  /-- `server.close` takes no more connections. -/
  | closeServer
  /-- The callback of `server.close`. -/
  | awaitServer
  /-- `consumer.stop()`, up to its wait. -/
  | stopConsumer
  /-- The read loop returns, or the moment comes. -/
  | awaitLoop (moment : ℚ)
  | closeRedis
  | closePools
  | exit (code : ℕ)
  deriving DecidableEq

/-- `enterShutdown` answers whether the shutdown had been entered before. -/
abbrev ServerCall.Ans : ServerCall → Type
  | .now => ℚ
  | .enterShutdown => Bool
  | _ => Unit

/-- How a call of `main` ends. -/
inductive ServerFate where
  | done
  | refused (message : String)
  deriving DecidableEq

/-- The calls that may reject. -/
def ServerCall.mayReject : ServerCall → Bool
  | .selectOne | .runMigrations | .startConsumer => true
  | _ => false

/-- What a call does. -/
def performServer : (call : ServerCall) → Process → Except String call.Ans × Process
  | .now, p => (.ok p.now, p)
  | .sleepUntil _, p => (.ok (), p)
  | .selectOne, p => (.ok (), p)
  | .runMigrations, p => (.ok (), p)
  | .setMigrationsComplete value, p => (.ok (), { p with migrationsComplete := value })
  | .setConsumerRunning value, p => (.ok (), { p with consumerRunning := value })
  | .startConsumer, p => (.ok (), { p with reading := true, looping := true })
  | .listen, p => (.ok (), { p with listening := true })
  | .installShutdown, p => (.ok (), { p with handled := true })
  | .enterShutdown, p => (.ok p.shuttingDown, { p with shuttingDown := true })
  | .setHardExit, p => (.ok (), { p with hardExit := some (p.now + 15000) })
  | .clearHardExit, p => (.ok (), { p with hardExit := none })
  | .closeEvents, p => (.ok (), p)
  | .closeServer, p => (.ok (), { p with listening := false })
  | .awaitServer, p => (.ok (), p)
  | .stopConsumer, p => (.ok (), { p with reading := false })
  | .awaitLoop _, p => (.ok (), p)
  | .closeRedis, p => (.ok (), { p with redisOpen := false })
  | .closePools, p => (.ok (), { p with poolsOpen := false })
  | .exit code, p => (.ok (), { p with exitCode := some code })

/-- What a call answers, and what it leaves. -/
def serverAnswer : Pool.Answer ServerFate Process String ServerCall.Ans := fun fate call p =>
  match call.mayReject, fate with
  | true, .refused message => (.error message, p)
  | _, _ => performServer call p

/-- The call has to wait.  A process that has exited makes no call. -/
def waitsServer (_ : ServerFate) (call : ServerCall) (p : Process) : Bool :=
  p.exitCode.isSome || match call with
    | .sleepUntil moment => decide (p.now < moment)
    | .enterShutdown => !p.handled
    | .awaitServer => decide (p.connections ≠ 0)
    | .awaitLoop moment => p.looping && decide (p.now < moment)
    | _ => false

/-- What happens besides the calls. -/
inductive ServerChange where
  | advance (elapsed : ℚ≥0)
  | connect
  | disconnect
  /-- The read loop sees that it is not to go on. -/
  | loopReturns
  | hardExitFires
  /-- An uncaught exception. -/
  | crash
  /-- A signal before its handler is there. -/
  | killed

/-- What such a change does; a process that has exited is left as it is. -/
def ServerChange.apply (change : ServerChange) (p : Process) : Process :=
  if p.exitCode.isSome then p
  else match change with
    | .advance elapsed => { p with now := p.now + elapsed }
    | .connect => if p.listening then { p with connections := p.connections + 1 } else p
    | .disconnect => { p with connections := p.connections - 1 }
    | .loopReturns => if p.reading then p else { p with looping := false }
    | .hardExitFires =>
        if p.hardExit.any (· ≤ p.now) then { p with exitCode := some 1 } else p
    | .crash => { p with exitCode := some 1 }
    | .killed => if p.handled then p else { p with exitCode := some 143 }

/-! ## The programs -/

/-- An asynchronous function of `server.ts`. -/
abbrev ServerProgram (α : Type) : Type := Prog ServerCall ServerCall.Ans String α

/-- `sleep`: it ends no sooner than asked. -/
def sleep (ms : ℚ) : ServerProgram Unit := do
  let now ← Prog.await ServerCall.now
  Prog.await (ServerCall.sleepUntil (now + ms))

/-- The delays between the attempts. -/
def delays : List ℚ := [250, 500, 1000, 2000, 4000, 8000]

/-- The attempts that are left; the source counts them from one. -/
def attemptDatabase (maxAttempts : ℕ) : ℕ → ServerProgram Unit
  | 0 => return ()
  | left + 1 => do
      let up ← Prog.tryCatch (Prog.await ServerCall.selectOne >>= fun _ => Prog.ret true)
        fun _ => Prog.ret false
      if up then return ()
      else if left = 0 then
        Prog.throw s!"postgres did not answer after {maxAttempts} attempts"
      else do
        sleep ((delays[maxAttempts - (left + 1)]?).getD 8000)
        attemptDatabase maxAttempts left

/-- Retries the first connection with a backoff. -/
def waitForDatabase (maxAttempts : ℕ) : ServerProgram Unit :=
  attemptDatabase maxAttempts maxAttempts

/-- The body of `main`. -/
def startUp : ServerProgram Unit := do
  waitForDatabase 6
  Prog.await ServerCall.runMigrations
  Prog.await (ServerCall.setMigrationsComplete true)
  Prog.await ServerCall.startConsumer
  Prog.await (ServerCall.setConsumerRunning true)
  Prog.await ServerCall.listen
  Prog.await ServerCall.installShutdown

/-- `main`, with its `catch`. -/
def main : ServerProgram Unit :=
  Prog.tryCatch startUp fun _ => Prog.await (ServerCall.exit 1)

/-- `consumer.stop()`: the read loop is given two seconds. -/
def stopConsumer : ServerProgram Unit := do
  Prog.await ServerCall.stopConsumer
  let now ← Prog.await ServerCall.now
  Prog.await (ServerCall.awaitLoop (now + 2000))

/-- The part of `shutdown` for the signal that enters it. -/
def drain (drainMs : ℚ) : ServerProgram Unit := do
  Prog.await ServerCall.setHardExit
  Prog.await (ServerCall.setMigrationsComplete false)
  sleep drainMs
  Prog.await ServerCall.closeEvents
  Prog.await ServerCall.closeServer
  Prog.await ServerCall.awaitServer
  stopConsumer
  Prog.await (ServerCall.setConsumerRunning false)
  Prog.await ServerCall.closeRedis
  Prog.await ServerCall.closePools
  Prog.await ServerCall.clearHardExit
  Prog.await (ServerCall.exit 0)

/-- `shutdown`, for one signal. -/
def shutdown (drainMs : ℚ) : ServerProgram Unit := do
  let shuttingDown ← Prog.await ServerCall.enterShutdown
  if shuttingDown then return () else drain drainMs

/-- How long a process drains: three seconds, but for a test. -/
def drainMsOf (isTest : Bool) : ℚ := if isTest then 0 else 3000

end SwitchService.Server
