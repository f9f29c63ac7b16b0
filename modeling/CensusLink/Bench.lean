import CensusLink.CommandLine
import CensusLink.Store.Folder

/-!
A bench to try the service on: a host that gives every effect a reply by rule. Store calls are
logged and can be made to fail as planned; ids and times are counted up; sleeping takes no time and
is only summed.
-/
namespace CensusLink

/-- Lets so many calls pass and then fails so many with one fault. -/
structure FaultPlan where
  skip : Nat
  count : Nat
  fault : Fault
  deriving DecidableEq

namespace FaultPlan

/-- The fault that the next call meets, and the plan for those after it. -/
def next (p : FaultPlan) : Option Fault × FaultPlan :=
  if p.count = 0 then (none, p)
  else if 0 < p.skip then (none, { p with skip := p.skip - 1 })
  else (some p.fault, { p with count := p.count - 1 })

end FaultPlan

/-- What becomes of published events: they are kept, dropped or refused. -/
inductive Bus
  | keeping
  | dropping
  | refusing
  deriving DecidableEq, Repr

/-- A store call and the kind of fault that it met, if any. -/
structure LoggedCall where
  call : StoreCall
  fault : Option FaultKind

/-- What happened on the bench since the log was last taken. -/
structure BenchLog where
  calls : List LoggedCall
  events : List OutboundEvent
  givenUp : List GivenUp
  slept : Nat

def BenchLog.empty : BenchLog := ⟨[], [], [], 0⟩

structure Bench where
  backend : Backend
  memory : MemoryStore
  folder : Folder
  /-- Where paths start from. -/
  here : Place
  /-- The path of the folder of the file store. -/
  root : String
  /-- How long a writer of the file store waits for the one before it. -/
  patience : Nat
  bus : Bus
  /-- Whether a write that is given up is noted. -/
  noting : Bool
  readPlan : Option FaultPlan
  writePlan : Option FaultPlan
  log : BenchLog
  /-- Events published and not yet taken. -/
  held : List OutboundEvent
  madeIds : List Uuid
  madeTransactions : List Uuid
  madeTimes : List Instant

namespace Bench

def fresh (backend : Backend) (bus : Bus) : Bench where
  backend
  memory := .empty
  folder := .empty
  here := []
  root := ""
  patience := 5000
  bus
  noting := true
  readPlan := none
  writePlan := none
  log := .empty
  held := []
  madeIds := []
  madeTransactions := []
  madeTimes := []

/-- The identifier of a number in one of several series. -/
def serial (series n : Nat) : Uuid :=
  ⟨(series * 18446744073709551616 + n) % 340282366920938463463374607431768211456,
    Nat.mod_lt _ (by decide)⟩

/-- So many nanoseconds into an afternoon in the year 2071. -/
def tick (n : Nat) : Instant where
  civil := ⟨2071, 8, 23, (48131 + (417263851 + n) / 1000000000) % 86400,
    (417263851 + n) % 1000000000⟩
  valid := by
    simp [Civil.Valid, Civil.Dated, Civil.Regular, Calendar.daysIn, Calendar.firstYear,
      Calendar.lastYear]
    omega

def freshId : StateM Bench Uuid := do
  let b ← get
  let id := serial 0xB1A9D3C57E624F08 b.madeIds.length
  set { b with madeIds := b.madeIds ++ [id] }
  pure id

def freshTransaction : StateM Bench Uuid := do
  let b ← get
  let id := serial 0xB1A9D3C57E624F09 b.madeTransactions.length
  set { b with madeTransactions := b.madeTransactions ++ [id] }
  pure id

def now : StateM Bench Instant := do
  let b ← get
  let t := tick b.madeTimes.length
  set { b with madeTimes := b.madeTimes ++ [t] }
  pure t

def contents (path : String) : StateM Bench FileContents := do
  let b ← get
  match b.folder.read b.here path with
  | .ok text => pure (.text text)
  | .error .absent => pure .absent
  | .error f => pure (.unreadable f.message)

def makeFolder (path : String) : StateM Bench (Except String Unit) := do
  let b ← get
  let (made, folder) := b.folder.makeFolders b.here path
  set { b with folder }
  pure (made.mapError PathFault.message)

def replace (path text : String) : StateM Bench (Except Fault Unit) := do
  let b ← get
  match b.folder.write b.here path text with
  | .ok folder => do
    set { b with folder }
    pure (.ok ())
  | .error f => pure (.error (FileStore.notReplaced path f.message))

def files : Files (StateM Bench) where
  contents
  makeFolder
  replace

def callMemory (c : StoreCall) : StateM Bench c.Outcome := do
  let b ← get
  let (outcome, memory) := b.memory.step c
  set { b with memory }
  pure outcome

/-- A call straight to the store. -/
def callStore (c : StoreCall) : StateM Bench c.Outcome := do
  let b ← get
  match b.backend with
  | .memory => callMemory c
  | .file => FileStore.answer files b.root c

/-- The fault planned for a call, if there is one. -/
def planned (c : StoreCall) : StateM Bench (Option Fault) := do
  let b ← get
  match if c.isWrite then b.writePlan else b.readPlan with
  | none => pure none
  | some p =>
    let (fault, p) := p.next
    set (if c.isWrite then { b with writePlan := some p } else { b with readPlan := some p })
    pure fault

/-- A call that is logged and fails if a fault is planned for it. -/
def call (c : StoreCall) : StateM Bench c.Outcome := do
  let outcome ← match ← planned c with
    | some f => pure (.error f)
    | none => callStore c
  let fault := match outcome with
    | .ok _ => none
    | .error f => some f.kind
  modify fun b => { b with log := { b.log with calls := b.log.calls ++ [⟨c, fault⟩] } }
  pure outcome

def busUnavailable : Fault := .system "bus unavailable"

def publish (n : Notice) : StateM Bench (Except Fault Unit) := do
  match (← get).bus with
  | .refusing => pure (.error busUnavailable)
  | .dropping => pure (.ok ())
  | .keeping => do
    let time ← now
    let transaction ← freshTransaction
    let e : OutboundEvent := ⟨⟨n.type, n.source, n.channel, time, transaction⟩, n.payload⟩
    modify fun b =>
      { b with held := b.held ++ [e], log := { b.log with events := b.log.events ++ [e] } }
    pure (.ok ())

/-- Thirty years in milliseconds, the longest sleep. -/
def longestSleep : Nat := 946080000000

def host : (e : Effect) → StateM Bench e.Reply
  | .call c => call c
  | .publish n => publish n
  | .sleep milliseconds => modify fun b =>
      { b with log := { b.log with slept := b.log.slept + Nat.min milliseconds longestSleep } }
  | .giveUp g => modify fun b =>
      if b.noting then { b with log := { b.log with givenUp := b.log.givenUp ++ [g] } } else b
  | .freshId => freshId
  | .now => now

/-- Carries out a service on the bench. -/
def serve {α : Type} (s : Service α) : StateM Bench (Except Fault α) := s.run.run host

def takeLog : StateM Bench BenchLog := do
  let b ← get
  set { b with log := .empty }
  pure b.log

/-- Takes the events published so far. -/
def takeEvents : StateM Bench (List OutboundEvent) := do
  let b ← get
  set { b with held := [] }
  pure b.held

/-- A document to be stored with others at the same time. -/
structure Offer where
  schema : String
  key : String
  document : Document

/-- Whether some writer must wait longer than it may. -/
def impatient (b : Bench) : Bool := b.backend == .file && b.patience == 0

/-- Stores documents all at once. One writer at a time is let in, the first that has a schema; the
others wait for it if they may. -/
def storeAll (taken : Bool) : List Offer → StateM Bench (List (Except Fault Unit))
  | [] => pure []
  | o :: rest => do
    if taken && Schema.isName o.schema && impatient (← get) then do
      let outcomes ← storeAll taken rest
      pure (.error (FileStore.notAdmitted o.schema o.key (← get).patience) :: outcomes)
    else do
      let outcome ← callStore (.store o.schema o.key o.document)
      let outcomes ← storeAll (taken || Schema.isName o.schema) rest
      pure (outcome :: outcomes)

/-- The bench as a machine with variables, on which commands run. -/
def machine (vars : List (String × String)) : Machine (StateM Bench) where
  toFiles := files
  lookup name := pure (vars.lookup name)
  dotEnv := do
    let b ← get
    pure (b.folder.read b.here ".env").toOption
  readText path := do
    let b ← get
    pure ((b.folder.read b.here path).mapError PathFault.message)
  sleep _ := pure ()
  freshId := freshId
  now := now

end Bench
end CensusLink
