-- `CapsLockSnoop`: the main thread opens the displays, the record context and the record thread,
-- and this thread reports each press of Caps Lock until the main thread has stopped it.
import SessionGuard.Ledger
import SessionGuard.Machine

open machine ledger

namespace session_guard.caps_lock_snoop

/-! ## The calls -/

/-- `_CapsLockSnoopPrivate`, with 0 for a null pointer. -/
structure CapsLockSnoopPrivate where
  isRunning : Bool := false
  thread : Nat := 0
  dataDisplay : Nat := 0
  ctrlDisplay : Nat := 0
  keyDisplay : Nat := 0
  recordContext : Nat := 0
  recordRange : Nat := 0
  capsLockIsOn : Bool := false
  callback : Option Nat := none
  callback_user_data : Nat := 0

/-- The calls of X and of the threads, with what they give. -/
inductive Effect
  | XOpenDisplay (display : Nat)
  | XSynchronize (display : Nat)
  | XRecordQueryVersion (display : Nat)
  | XRecordAllocRange (range : Nat)
  | XRecordCreateContext (display range context : Nat)
  | XRecordEnableContext (display context : Nat)
  | XRecordDisableContext (display context : Nat)
  | XRecordFreeContext (display context : Nat)
  | XInternAtom (display : Nat)
  | XkbGetNamedIndicator (display : Nat)
  | XKeycodeToKeysym (display : Nat) (keycode : UInt8)
  | XCloseDisplay (display : Nat)
  | XFree (range : Nat)
  | pthread_create (iRes : Int) (thread : Nat)
  | pthread_join (thread : Nat)
  | callback (callback : Option Nat) (isOn : Bool) (user_data : Nat)
  /-- `start` returns false with this error. -/
  | error (text : String)
  | delete

/-- What the calls of `start` give. -/
structure Answers where
  ctrlDisplay : Nat
  dataDisplay : Nat
  keyDisplay : Nat
  /-- The result of `XRecordQueryVersion`. -/
  version : Bool
  recordRange : Nat
  recordContext : Nat
  /-- The display of `getCapsLockCurrentState`. -/
  display : Nat
  /-- The result of `XkbGetNamedIndicator`. -/
  named : Bool
  stateRtrn : Bool
  iRes : Int
  thread : Nat
  strerror : String

/-! ## `start` -/

/-- Statements of `start`. An error is a `goto failed`. -/
abbrev Part := CapsLockSnoopPrivate → CapsLockSnoopPrivate × List Effect × Option String

def Part.andThen (f g : Part) : Part := fun p =>
  match f p with
  | (p1, o1, some error) => (p1, o1, some error)
  | (p1, o1, none) => ((g p1).1, o1 ++ (g p1).2.1, (g p1).2.2)

def openDisplays (k : Answers) : Part := fun p =>
  ({ p with
      ctrlDisplay := k.ctrlDisplay
      dataDisplay := k.dataDisplay
      keyDisplay := k.keyDisplay },
    [.XOpenDisplay k.ctrlDisplay, .XOpenDisplay k.dataDisplay, .XOpenDisplay k.keyDisplay],
    if k.ctrlDisplay = 0 ∨ k.dataDisplay = 0 ∨ k.keyDisplay = 0 then some "open display failed"
    else none)

def queryVersion (k : Answers) : Part := fun p =>
  (p, [.XSynchronize p.ctrlDisplay, .XRecordQueryVersion p.ctrlDisplay],
    if k.version then none else some "query xrecord version failed")

def allocRange (k : Answers) : Part := fun p =>
  ({ p with recordRange := k.recordRange }, [.XRecordAllocRange k.recordRange],
    if k.recordRange = 0 then some "can't allocate necessary memory for xrecord range" else none)

def createContext (k : Answers) : Part := fun p =>
  ({ p with recordContext := k.recordContext },
    [.XRecordCreateContext p.ctrlDisplay p.recordRange k.recordContext],
    if k.recordContext = 0 then some "can't create record context" else none)

def getCapsLockCurrentState (k : Answers) : Part := fun p =>
  if k.display = 0 then
    (p, [.XOpenDisplay k.display], some "getCapsLockCurrentState: can't open display")
  else
    ({ p with capsLockIsOn := if k.named then k.stateRtrn else p.capsLockIsOn },
      [.XOpenDisplay k.display, .XSynchronize k.display, .XInternAtom k.display,
        .XkbGetNamedIndicator k.display, .XCloseDisplay k.display],
      if k.named then none else some "getCapsLockCurrentState: can't get name indicator.")

def createThread (k : Answers) : Part := fun p =>
  ({ p with thread := if k.iRes = 0 then k.thread else p.thread },
    [.pthread_create k.iRes k.thread],
    if k.iRes = 0 then none else some k.strerror)

/-- `start` up to the record thread. -/
def prepare (k : Answers) : Part :=
  (openDisplays k).andThen <| (queryVersion k).andThen <| (allocRange k).andThen <|
    (createContext k).andThen (getCapsLockCurrentState k)

/-- The label `failed` of `start`. -/
def failed (p : CapsLockSnoopPrivate) : List Effect :=
  (if p.recordContext ≠ 0 then
    [.XRecordDisableContext p.ctrlDisplay p.recordContext,
      .XRecordFreeContext p.ctrlDisplay p.recordContext]
  else []) ++
  (if p.recordRange ≠ 0 then [.XFree p.recordRange] else []) ++
  (if p.ctrlDisplay ≠ 0 then [.XCloseDisplay p.ctrlDisplay] else []) ++
  (if p.dataDisplay ≠ 0 then [.XCloseDisplay p.dataDisplay] else [])

/-- `start` up to its call of the callback, with the error that it returns. -/
def CapsLockSnoopPrivate.start (p : CapsLockSnoopPrivate) (callback user_data : Nat)
    (k : Answers) : CapsLockSnoopPrivate × List Effect × Option String :=
  if p.isRunning then (p, [], some "CapsLockSnoop is running")
  else
    match ((prepare k).andThen (createThread k))
        { p with callback := some callback, callback_user_data := user_data } with
    | (p1, o, some error) => ({}, o ++ failed p1, some error)
    | (p1, o, none) => (p1, o, none)

/-! ## The two threads and the record -/

/-- Where the main thread is. -/
inductive Main
  | idle
  /-- In `start`, where `capsLockIsOn` is not read yet. -/
  | reading
  /-- In `start`, with the argument of the callback. -/
  | reporting (isOn : Bool)
  /-- In the `pthread_join` of `stop`, that the destructor has called or another function. -/
  | joining (destructor : Bool)
  | gone
  deriving DecidableEq

def Main.isJoining : Main → Bool
  | .joining _ => true
  | _ => false

/-- Where the record thread is. -/
inductive Thread
  | none
  | created
  /-- In `XRecordEnableContext`. -/
  | recording
  /-- In `record_intercept_proc_callback`, before the callback. -/
  | toggled
  | exited
  deriving DecidableEq

inductive XRecordInterceptData
  | startOfData
  | fromServer (type detail : UInt8)
  | endOfData
  deriving DecidableEq

inductive Resource
  | m_private
  | display (display : Nat)
  | range (range : Nat)
  | context (context : Nat)
  | thread (thread : Nat)
  deriving DecidableEq

/-- What a call that gives 0 for a failure acquires. -/
def opened (r : Nat → Resource) (n : Nat) : List (Entry Resource) :=
  if n = 0 then [] else [.acquire (r n)]

/-- What a call does with resources. -/
def entry : Effect → List (Entry Resource)
  | .XOpenDisplay display => opened .display display
  | .XSynchronize display => [.use (.display display)]
  | .XRecordQueryVersion display => [.use (.display display)]
  | .XRecordAllocRange range => opened .range range
  | .XRecordCreateContext display range context =>
    [.use (.display display), .use (.range range)] ++ opened .context context
  | .XRecordEnableContext display context =>
    [.use .m_private, .use (.display display), .use (.context context)]
  | .XRecordDisableContext display context => [.use (.display display), .use (.context context)]
  | .XRecordFreeContext display context => [.use (.display display), .release (.context context)]
  | .XInternAtom display => [.use (.display display)]
  | .XkbGetNamedIndicator display => [.use (.display display)]
  | .XKeycodeToKeysym display _ => [.use .m_private, .use (.display display)]
  | .XCloseDisplay display => [.release (.display display)]
  | .XFree range => [.release (.range range)]
  | .pthread_create iRes thread => if iRes = 0 then [.acquire (.thread thread)] else []
  | .pthread_join thread => [.release (.thread thread)]
  | .callback _ _ _ => [.use .m_private]
  | .error _ => []
  | .delete => [.release .m_private]

def entries (effects : List Effect) : List (Entry Resource) := effects.flatMap entry

@[simp] theorem entries_append (xs ys : List Effect) :
    entries (xs ++ ys) = entries xs ++ entries ys := List.flatMap_append

/-- The past of the snoop. -/
structure History where
  /-- What the callback has last been given. -/
  shown : Option Bool := none
  /-- What the server has answered to the last start that succeeded. -/
  answered : Bool := false
  /-- What the server has recorded since then. -/
  recorded : List XRecordInterceptData := []
  /-- The key displays of the starts that failed. -/
  lost : List Resource := []

structure Sys where
  m_private : CapsLockSnoopPrivate := {}
  main : Main := .idle
  thread : Thread := .none
  /-- The server records for the context. -/
  enabled : Bool := false
  /-- What the server has sent to the data display. -/
  data : List XRecordInterceptData := []
  held : List Resource := [.m_private]
  history : History := {}

def KeyPress : UInt8 := 2

/-- `device_events` of the record range. -/
def device_events : UInt8 × UInt8 := (KeyPress, KeyPress)

inductive Event
  | start (callback user_data : Nat) (k : Answers)
  /-- `start` reads `capsLockIsOn`. -/
  | read
  /-- `start` calls the callback. -/
  | report
  | stop
  | destroy
  | joined
  | enable
  | intercept
  /-- The record thread calls the callback. -/
  | callback
  | device (type detail : UInt8)

/-- The start of `stop`, and the destructor after `stop` has returned false. -/
def Sys.stop (s : Sys) (destructor : Bool) : Sys × List Effect :=
  if s.m_private.isRunning then
    ({ s with
        main := .joining destructor
        enabled := false
        data := if s.enabled then s.data ++ [.endOfData] else s.data },
      [.XRecordDisableContext s.m_private.ctrlDisplay s.m_private.recordContext,
        .XRecordFreeContext s.m_private.ctrlDisplay s.m_private.recordContext])
  else if destructor then ({ s with main := .gone }, [.delete])
  else (s, [])

/-- The end of `stop`. -/
def Sys.joined (s : Sys) (destructor : Bool) : Sys × List Effect :=
  ({ s with
      m_private := {}
      main := if destructor then .gone else .idle
      thread := .none
      data := [] },
    [.pthread_join s.m_private.thread, .XCloseDisplay s.m_private.dataDisplay,
      .XCloseDisplay s.m_private.ctrlDisplay, .XCloseDisplay s.m_private.keyDisplay,
      .XFree s.m_private.recordRange] ++ if destructor then [.delete] else [])

variable (isCapsLock : UInt8 → Bool)

/-- A press of Caps Lock, by the keycodes that `XKeycodeToKeysym` takes for it. -/
def isPress (type detail : UInt8) : Bool := type == KeyPress && isCapsLock detail

/-- `record_intercept_proc_callback` up to the callback. `XRecordEnableContext` returns after the
end of the data. -/
def Sys.intercept (s : Sys) : XRecordInterceptData → Sys × List Effect
  | .startOfData => (s, [])
  | .fromServer type detail =>
    if type == KeyPress then
      (if isCapsLock detail then
        { s with
          m_private := { s.m_private with capsLockIsOn := !s.m_private.capsLockIsOn }
          thread := .toggled }
      else s, [.XKeycodeToKeysym s.m_private.keyDisplay detail])
    else (s, [])
  | .endOfData => ({ s with thread := .exited }, [])

/-- The rest of `record_intercept_proc_callback`. -/
def Sys.called (s : Sys) : Sys × List Effect :=
  match s.m_private.callback with
  | some callback =>
    ({ s with
        thread := .recording
        history := { s.history with shown := some s.m_private.capsLockIsOn } },
      [.callback (some callback) s.m_private.capsLockIsOn s.m_private.callback_user_data])
  | none => ({ s with thread := .recording }, [])

/-- What the server records of a key or a button: what the range asks for, while the context is
enabled. -/
def Sys.records (s : Sys) (type detail : UInt8) : List XRecordInterceptData :=
  if s.enabled && device_events.1 ≤ type && type ≤ device_events.2 then [.fromServer type detail]
  else []

/-- The server sends what it records to the data display. -/
def Sys.device (s : Sys) (type detail : UInt8) : Sys :=
  { s with
    data := s.data ++ s.records type detail
    history := { s.history with recorded := s.history.recorded ++ s.records type detail } }

/-- `start` up to its call of the callback. -/
def Sys.start (s : Sys) (callback user_data : Nat) (k : Answers) : Sys × List Effect :=
  match s.m_private.start callback user_data k with
  | (p, o, none) =>
    ({ s with
        m_private := p
        main := .reading
        thread := .created
        history := { s.history with answered := k.stateRtrn, recorded := [] } }, o)
  | (p, o, some error) =>
    ({ s with
        m_private := p
        history := { s.history with
          lost := s.history.lost ++
            if s.m_private.isRunning = false ∧ k.keyDisplay ≠ 0 then [.display k.keyDisplay]
            else [] } },
      o ++ [.error error])

/-- One step, without what is held after it. -/
def Sys.next (s : Sys) : Event → Option (Sys × List Effect)
  | .start callback user_data k =>
    if s.main = .idle then some (s.start callback user_data k) else none
  | .read =>
    if s.main = .reading then some ({ s with main := .reporting s.m_private.capsLockIsOn }, [])
    else none
  | .report =>
    match s.main with
    | .reporting isOn =>
      some ({ s with
          m_private := { s.m_private with isRunning := true }
          main := .idle
          history := { s.history with shown := some isOn } },
        [.callback s.m_private.callback isOn s.m_private.callback_user_data])
    | _ => none
  | .stop => if s.main = .idle then some (s.stop false) else none
  | .destroy => if s.main = .idle then some (s.stop true) else none
  | .joined =>
    match s.main with
    | .joining destructor => if s.thread = .exited then some (s.joined destructor) else none
    | _ => none
  | .enable =>
    if s.thread = .created then
      -- the server refuses a context that is freed
      some (if s.main.isJoining then { s with thread := .exited }
        else { s with thread := .recording, enabled := true, data := [.startOfData] },
        [.XRecordEnableContext s.m_private.dataDisplay s.m_private.recordContext])
    else none
  | .intercept =>
    match s.thread, s.data with
    | .recording, d :: rest => some (Sys.intercept isCapsLock { s with data := rest } d)
    | _, _ => none
  | .callback => if s.thread = .toggled then some s.called else none
  | .device type detail => some (s.device type detail, [])

def step : Step Sys Event Effect := fun s e =>
  (s.next isCapsLock e).map fun r => ({ r.1 with held := balance s.held (entries r.2) }, r.2)

/-! ## Pieces of runs -/

/-- Everything succeeds. -/
def given : Answers :=
  { ctrlDisplay := 1, dataDisplay := 2, keyDisplay := 3, version := true, recordRange := 4,
    recordContext := 5, display := 6, named := true, stateRtrn := false, iRes := 0, thread := 7,
    strerror := "" }

/-- The keycode that a PC keyboard has for Caps Lock. -/
def isCapsLockOfPc (keycode : UInt8) : Bool := keycode == 66

def pressCapsLock : Event := .device KeyPress 66

/-- A press of Caps Lock that the record thread handles. -/
def pressAndReport : List Event := [pressCapsLock, .intercept, .callback]

end session_guard.caps_lock_snoop
