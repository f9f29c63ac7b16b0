import CensusLink.CommandLine
import CensusLink.Proofs.Inbound.Together

/-!
Reading a text in. The handlers of its messages run in a pool, and their writes may come in any
order in which those under one key are in the order of the text. Then they leave what the accepted
messages leave that are handled one after the other. Each message is told what it is always told,
and the command fails if one has been rejected.
-/
namespace CensusLink

namespace Desk

/-- What the command comes to after messages that have been told these outcomes. -/
def told (outcomes : List (Except Fault EventType)) : Except (List String) (Option String) :=
  if outcomes.all Except.isOk then .ok none
  else .error [refusedText (outcomes.countP fun o => !o.isOk) outcomes.length]

theorem told_perm {outcomes others : List (Except Fault EventType)} (perm : outcomes.Perm others) :
    told outcomes = told others := by
  unfold told
  rw [perm.all_eq, perm.countP_eq, perm.length_eq]

/-- What the backend keeps of a command that works on a disk. -/
def holding : (b : Backend) → Desk → Disk → b.Holding
  | .memory, desk, _ => desk.memory
  | .file, _, disk => disk

section Command

open Inbound

variable {machine : Machine (StateM Disk)} {settings : Settings} {desk : Desk} {disk : Disk}
  {m : MemoryStore}

/-- A call is answered by the backend. -/
theorem host_call (files : machine.toFiles = Disk.files) (c : StoreCall) :
    ∃ desk' disk', ((host machine settings (.call c)).run desk).run disk =
        (((settings.backend.step settings.path (holding settings.backend desk disk) c).1, desk'),
          disk') ∧
      (settings.backend.step settings.path (holding settings.backend desk disk) c).2 =
        holding settings.backend desk' disk' := by
  obtain ⟨_, _, _, _, backend, path, _, _⟩ := settings
  cases backend with
  | memory => exact ⟨_, _, rfl, rfl⟩
  | file =>
    refine ⟨desk, (disk.step path c).2, ?_, rfl⟩
    simp only [host, files]
    rfl

/-- A step and what follows it, on a disk. -/
theorem run_bind {α β : Type} (x : StateT Desk (StateM Disk) α)
    (f : α → StateT Desk (StateM Disk) β) (desk : Desk) (disk : Disk) :
    ((x >>= f).run desk).run disk =
      ((f ((x.run desk).run disk).1.1).run ((x.run desk).run disk).1.2).run
        ((x.run desk).run disk).2 := rfl

/-- The handler of a message comes to what the message is always told, and does what it always
does. -/
theorem run_message (files : machine.toFiles = Disk.files)
    (storable : (registry settings).Storable) (ordered : m.Ordered)
    (shows : settings.backend.Shows settings.path (holding settings.backend desk disk) m)
    (text : String) :
    ∃ desk' disk',
      (((handleMessage (registry settings) text).run.run (host machine settings)).run desk).run
        disk = ((verdict (registry settings) text, desk'), disk') ∧
      settings.backend.Shows settings.path (holding settings.backend desk' disk')
        (m.after (writing (registry settings) text).deeds) := by
  have runs := runs_writing (registry settings) text
  generalize (handleMessage (registry settings) text).run = p at runs ⊢
  generalize verdict (registry settings) text = o at runs ⊢
  unfold writing at runs ⊢
  cases asked : asksFor (registry settings) text with
  | error why =>
    rw [asked] at runs
    obtain rfl := Program.eq_done_of_runs runs
    exact ⟨desk, disk, rfl, shows⟩
  | ok a =>
    obtain ⟨type, w⟩ := a
    rw [asked] at runs
    obtain ⟨sound, schema, key, d, rfl⟩ := store_of_asksFor storable asked
    obtain ⟨next, rfl, ends⟩ : ∃ next, p = .perform (.call (.store schema key d)) next ∧
        (next (.ok ())).Runs [] o := Program.exists_next_of_runs runs
    have reply : next (.ok ()) = .done o := Program.eq_done_of_runs ends
    obtain ⟨desk', disk', call, left⟩ :=
      @host_call machine settings desk disk files (.store schema key d)
    obtain ⟨alike, shows⟩ := shows.step ordered sound.fileable
    rw [m.step_of_valid sound.valid] at alike shows
    have answer : (settings.backend.step settings.path (holding settings.backend desk disk)
        (.store schema key d)).1 = .ok () := alike
    rw [answer] at call
    refine ⟨desk', disk', ?_, left ▸ shows⟩
    refine (run_bind _ _ desk disk).trans ?_
    rw [call]
    exact congrArg (fun p => ((Program.run (host machine settings) p).run desk').run disk') reply

theorem serve_message (files : machine.toFiles = Disk.files)
    (storable : (registry settings).Storable) (ordered : m.Ordered)
    (shows : settings.backend.Shows settings.path (holding settings.backend desk disk) m)
    (text : String) :
    ∃ desk' disk',
      ((serve machine settings (handleMessage (registry settings) text)).run.run desk).run disk =
        (((verdict (registry settings) text).mapError fun f => [f.text], desk'), disk') ∧
      settings.backend.Shows settings.path (holding settings.backend desk' disk')
        (m.after (writing (registry settings) text).deeds) := by
  obtain ⟨desk', disk', ran, shows⟩ := run_message files storable ordered shows text
  refine ⟨desk', disk', ?_, shows⟩
  refine (run_bind _ _ desk disk).trans ?_
  rw [ran]
  cases verdict (registry settings) text <;> rfl

/-- The command counts the messages that are rejected. -/
theorem ingest_messages (files : machine.toFiles = Disk.files)
    (storable : (registry settings).Storable) (ordered : m.Ordered)
    (shows : settings.backend.Shows settings.path (holding settings.backend desk disk) m)
    (texts : List String) :
    ∃ desk' disk', ((ingest machine settings texts).run desk).run disk =
        ((texts.countP fun text => !accepts (registry settings) text, desk'), disk') ∧
      settings.backend.Shows settings.path (holding settings.backend desk' disk')
        (m.after (writings (registry settings) texts).deeds) := by
  induction texts generalizing desk disk m with
  | nil => exact ⟨desk, disk, rfl, shows⟩
  | cons text rest ih =>
    obtain ⟨desk₁, disk₁, first, shows⟩ := serve_message files storable ordered shows text
    obtain ⟨desk₂, disk₂, later, shows⟩ := ih (ordered.after _) shows
    refine ⟨desk₂, disk₂, ?_, ?_⟩
    · refine (run_bind _ _ desk disk).trans ?_
      rw [first]
      refine (run_bind _ _ desk₁ disk₁).trans ?_
      rw [later, List.countP_cons]
      unfold accepts
      cases verdict (registry settings) text <;> rfl
    · have split : writings (registry settings) (text :: rest) =
          writing (registry settings) text ++ writings (registry settings) rest :=
        List.flatMap_cons
      rw [split, Trace.deeds_append, MemoryStore.after_append]
      exact shows

theorem told_verdicts (r : Registry) (texts : List String) : told (texts.map (verdict r)) =
    if texts.all (accepts r) then .ok none
    else .error [refusedText (texts.countP fun text => !accepts r text) texts.length] := by
  unfold told
  rw [List.all_map, List.countP_map, List.length_map]
  rfl

/-- The command comes to what its messages are told. -/
theorem perform_ingest (files : machine.toFiles = Disk.files)
    (storable : (registry settings).Storable) (ordered : m.Ordered)
    (shows : settings.backend.Shows settings.path (holding settings.backend desk disk) m)
    {file text : String} (reads : (machine.readText file).run disk = (.ok text, disk)) :
    ∃ desk' disk', ((perform machine settings (.ingest file)).run.run desk).run disk =
        ((told ((messages text).map (verdict (registry settings))), desk'), disk') ∧
      settings.backend.Shows settings.path (holding settings.backend desk' disk')
        (m.after (writings (registry settings) (messages text)).deeds) := by
  obtain ⟨desk', disk', ran, shows⟩ := ingest_messages files storable ordered shows (messages text)
  refine ⟨desk', disk', ?_, shows⟩
  have found : ((readFile machine file).run.run desk).run disk = ((.ok text, desk), disk) := by
    refine (run_bind _ _ desk disk).trans ?_
    have lifted : (((machine.readText file : StateT Desk (StateM Disk) _)).run desk).run disk =
        ((.ok text, desk), disk) := by
      refine Eq.trans ?_ (congrArg (fun x => ((x.1, desk), x.2)) reads)
      rfl
    rw [lifted]
    rfl
  have none_refused : ((messages text).countP fun x => !accepts (registry settings) x) = 0 ↔
      (messages text).all (accepts (registry settings)) := by
    simp [List.countP_eq_zero]
  unfold perform
  dsimp only
  rw [ExceptT.run_bind, run_bind, found]
  dsimp only
  rw [ExceptT.run_bind_lift, run_bind, ran, told_verdicts]
  simp only [← none_refused]
  split <;> rfl

end Command

open Inbound

/-- The store of a command as a host on which no call fails. -/
abbrev Answers (settings : Settings) :
    settings.backend.Holding → Exchange → settings.backend.Holding → Prop :=
  Serves (settings.backend.step settings.path) fun _ => False

/-- The handlers of the messages of a text, waiting for a worker. -/
abbrev intake (settings : Settings) (text : String) : Pool (Except Fault EventType) :=
  .ofPrograms (handlers (registry settings) (messages text))

/-- What comes of the messages of a text if no call of the store fails: whatever the schedule, the
store is left as the accepted ones leave it one after the other. -/
structure Ingested (settings : Settings) (text : String) (s : settings.backend.Holding)
    (m : MemoryStore) : Prop where
  /-- The accepted messages can be handled one after the other. -/
  replays : ∃ s', Replays (Answers settings) (registry settings) s
    (accepted (registry settings) (messages text)) s'
  replayed : ∀ s', Replays (Answers settings) (registry settings) s
    (accepted (registry settings) (messages text)) s' → settings.backend.Shows settings.path s' m
  /-- Wherever the pool of the handlers stands, it can go on until all of them have ended. -/
  goesOn : ∀ t s₁ P, Pool.Runs settings.workers (Answers settings) s (intake settings text) t s₁ P →
    ∃ u s' Q, Pool.Runs settings.workers (Answers settings) s₁ P u s' Q ∧ Q.pending = []
  /-- There is a way for it to do so in which all writes under one key are in their order. -/
  inOrder : ∃ t s' Q,
    Pool.Runs settings.workers (Answers settings) s (intake settings text) t s' Q ∧
    Q.pending = [] ∧ t.KeepsOrder
  /-- Whenever all have ended, each message has been told its verdict, and the rejected ones have
  done nothing; if the writes under one key were in their order, the store is left as above. -/
  pooled : ∀ t s' Q, Pool.Runs settings.workers (Answers settings) s (intake settings text) t s' Q →
    Q.pending = [] →
    Q.results.Perm (verdicts (registry settings) (messages text)) ∧
    told (Q.results.map (·.2)) = told ((messages text).map (verdict (registry settings))) ∧
    (∀ message i, (message, i) ∈ (messages text).zipIdx →
      accepts (registry settings) message = false → t.share i = []) ∧
    (t.KeepsOrder → settings.backend.Shows settings.path s' m)
  /-- So is it by the command, which comes to what the messages are told. -/
  performed : ∀ (machine : Machine (StateM Disk)) (file : String) (desk : Desk) (disk : Disk),
    machine.toFiles = Disk.files → (machine.readText file).run disk = (.ok text, disk) →
    holding settings.backend desk disk = s →
    ∃ desk' disk', ((perform machine settings (.ingest file)).run.run desk).run disk =
        ((told ((messages text).map (verdict (registry settings))), desk'), disk') ∧
      settings.backend.Shows settings.path (holding settings.backend desk' disk') m

/-- Reading a text in comes to the same as handling its accepted messages one after the other,
whatever the number of workers and in whatever order their handlers write that keeps the order of
the writes under one key. Whether a message is accepted does not depend on the store, a rejected one
does nothing and keeps no other from being handled, and the command fails just if there is one. -/
theorem ingest_is_replay {settings : Settings} (storable : (registry settings).Storable)
    {s : settings.backend.Holding} {m : MemoryStore} (ordered : m.Ordered)
    (shows : settings.backend.Shows settings.path s m) (text : String) :
    (∀ message, StandsAlone (registry settings) message) ∧
    (∃ m', Ingested settings text s m') ∧
    told ((messages text).map (verdict (registry settings))) =
      if (messages text).all (accepts (registry settings)) then .ok none
      else .error [refusedText
        ((messages text).countP fun message => !accepts (registry settings) message)
        (messages text).length] := by
  refine ⟨standsAlone storable, ⟨m.after (writings (registry settings) (messages text)).deeds, ?_⟩,
    told_verdicts (registry settings) (messages text)⟩
  have total := Backend.exists_serves settings.path settings.backend
  constructor
  case replays =>
    refine exists_replays storable ordered shows fun message h => ?_
    exact (List.mem_filter.1 h).2
  case replayed =>
    intro s' replays
    rw [← writings_accepted]
    exact replays.shows storable ordered shows
  case goesOn =>
    intro t s₁ P _
    obtain ⟨turns, s', Q, _, run, none⟩ := Pool.exists_runs total P s₁
    exact ⟨_, s', Q, run, none⟩
  case inOrder =>
    obtain ⟨turns, s', Q, same, run, none⟩ := Pool.exists_runs total
      (.ofPrograms (handlers (registry settings) (messages text))) s
    rw [Pool.numbers_ofPrograms] at same
    have ascending := JointTrace.pairwise_inTurn (same ▸ List.pairwise_lt_range)
    exact ⟨_, s', Q, run, none, ascending.imp fun le _ _ _ _ => le⟩
  case pooled =>
    intro t s' Q run none
    obtain ⟨left, parties, shares, results⟩ := left_together storable ordered shows run none
    refine ⟨results, ?_, ?_, ?_⟩
    · rw [← outcomes_verdicts]
      exact told_perm (results.map _)
    · intro message i there rejected
      rw [shares message i there, writing_of_rejected rejected]
    · intro keeps
      rw [← after_together storable parties shares keeps]
      exact left
  case performed =>
    intro machine file desk disk files reads kept
    subst kept
    exact perform_ingest files storable ordered shows reads

end Desk

/-! An example on files: a text with a message, a line that is no message, and a blank line. -/
namespace Sample

/-- A message on one line. -/
def line : List Char := message.toList.filter (· ≠ '\n')

def letter : String := String.ofList (line ++ "\nnone\n \n".toList)

set_option maxRecDepth 4000 in
theorem messages_letter : Desk.messages letter = [String.ofList line, "none"] := by
  have chars : message.toList = _ := String.toList_ofList
  have cut : Text.lines.cut (line ++ "\nnone\n \n".toList) = [line, "none".toList, [' ']] := by
    rw [line, chars]
    decide +kernel
  have some : line.all Text.isBlank = false := by
    rw [line, chars]
    decide +kernel
  unfold Desk.messages Text.lines letter
  rw [String.toList_ofList, cut]
  simp [Text.allBlank, some]
  decide

set_option maxRecDepth 4000 in
theorem accepts_line : Inbound.accepts (Desk.registry .standard) (String.ofList line) = true := by
  have chars : message.toList = _ := String.toList_ofList
  rw [Inbound.accepts, Inbound.verdict, Inbound.asksFor, Inbound.ofMessage, Inbound.readMessage,
    Wire.ofText, Shape.ofText, String.toList_ofList, line, chars]
  decide +kernel

theorem not_accepts_none : Inbound.accepts (Desk.registry .standard) "none" = false := by
  decide +kernel

theorem storable_standard : (Desk.registry .standard).Storable := by
  constructor <;> decide +kernel

end Sample

/-- In the example the pool leaves what the message alone leaves, and one of two has failed. -/
theorem Desk.ingest_is_replay_sample : ∃ (t : JointTrace Nat) (disk disk' : Disk)
    (Q : Pool (Except Fault EventType)) (m : MemoryStore),
    Pool.Runs 4 (Serves (Disk.step "./rh-data") fun _ => False) Disk.empty
      (.ofPrograms (Inbound.handlers (registry .standard) [String.ofList Sample.line, "none"]))
      t disk Q ∧ Q.pending = [] ∧ t.KeepsOrder ∧ t.share 1 = [] ∧
    told (Q.results.map (·.2)) = .error ["1 of 2 events failed"] ∧
    Inbound.Replays (Serves (Disk.step "./rh-data") fun _ => False) (registry .standard) Disk.empty
      [String.ofList Sample.line] disk' ∧
    Disk.Shows "./rh-data" disk m ∧ Disk.Shows "./rh-data" disk' m := by
  obtain ⟨_, ⟨m, ingested⟩, comes⟩ := ingest_is_replay Sample.storable_standard
    MemoryStore.ordered_empty (Backend.shows_blank "./rh-data" .file) Sample.letter
  obtain ⟨t, disk, Q, run, none, keeps⟩ := ingested.inOrder
  obtain ⟨disk', replays⟩ := ingested.replays
  obtain ⟨_, outcomes, idle, left⟩ := ingested.pooled t disk Q run none
  have left' := ingested.replayed disk' replays
  have accepted : Inbound.accepted (registry .standard) [String.ofList Sample.line, "none"] =
      [String.ofList Sample.line] := by
    simp [Inbound.accepted, Sample.accepts_line, Sample.not_accepts_none]
  have failed : told (Q.results.map (·.2)) = .error ["1 of 2 events failed"] := by
    rw [outcomes, comes, Sample.messages_letter]
    simp [Sample.accepts_line, Sample.not_accepts_none]
    decide
  rw [Sample.messages_letter, accepted] at replays
  rw [intake, Sample.messages_letter] at run
  rw [Sample.messages_letter] at idle
  refine ⟨t, disk, disk', Q, m, run, none, keeps, ?_, failed, replays, left keeps, left'⟩
  exact idle "none" 1 (by simp) Sample.not_accepts_none

end CensusLink
