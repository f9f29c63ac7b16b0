import CensusLink.Proofs.Linking.Concurrent
import CensusLink.Proofs.Store.Calm

/-!
A link at an address where no case stands, of which every attempt succeeds. All that passes is
written out in two parts: the link asks and draws, and then stores and announces a case and the
code.
-/
namespace CensusLink
namespace Link

/-- The trace of a stage whose write gets through at the first attempt. -/
def Stage.smooth (stage : Stage) : Trace :=
  stage.drawn ++ [stage.write.exchange (.ok ())] ++
    (stage.notice.map fun n => (⟨.publish n, .ok ()⟩ : Exchange)).toList

theorem pursues_smooth (p : RetryPolicy) (stages : List Stage) :
    Pursues p stages (stages.flatMap Stage.smooth) (.ok ()) := by
  induction stages with
  | nil => exact .finished
  | cons stage rest ih =>
    have tells : Tells stage.notice
        (stage.notice.map fun n => (⟨.publish n, .ok ()⟩ : Exchange)).toList := by
      cases stage.notice with
      | none => exact .nothing
      | some n => exact .notice n (.ok ())
    exact .passed (Write.persists_once p stage.write) tells ih

/-- A link that finds no case at its address and needs no individual case, and what it is given. -/
structure Opening (settings : LinkSettings) where
  code : AccessCode
  request : LinkRequest
  type : AddressType
  id : Uuid
  created : Instant
  check : request.check = .ok type
  paired : Pairing.check code (reportedCase id created code request type settings) = .ok ()
  alone : needsIndividual code (reportedCase id created code request type settings) = false

namespace Opening

variable {settings : LinkSettings} (p : Opening settings) (r : Registry)

def located : Located :=
  ⟨p.code, [], reportedCase p.id p.created p.code p.request p.type settings, true⟩

/-- It asks and draws. -/
def inquiry : Trace :=
  [asksCode r p.code.hash (.ok (some (Wire.toDocument p.code))), asksCases r p.request (.ok []),
    ⟨.freshId, p.id⟩, ⟨.now, p.created⟩]

/-- It stores and announces. -/
def pursuit : Trace :=
  (p.located.reportStages r ++ [] ++ [p.located.linkStage r none]).flatMap Stage.smooth

def view : CodeView := .merged p.located.subject (p.located.linkedCode none)

theorem runs : (link r settings p.code.hash p.request).run.Runs (p.inquiry r ++ p.pursuit r)
    (.ok p.view) :=
  runs_link_iff.2 (.pursued (.vacant (Registry.ofDocument_code _) p.check p.id p.created)
    p.paired (.alone p.alone) (pursues_smooth _ _))

variable {r} {s : MemoryStore}

theorem carries_inquiry (named : r.WellNamed)
    (found : (s.documents r.schemas.accessCode).lookup p.code.hash = some (Wire.toDocument p.code))
    (vacant : MemoryStore.matching Registry.uprnPath p.request.place
      (s.documents r.schemas.case) = []) :
    Carries Conditions.calm.Allows s (p.inquiry r) s := by
  have code : Conditions.calm.Allows s
      (asksCode r p.code.hash (.ok (some (Wire.toDocument p.code)))) s := by
    refine calm_allows_call_iff.2 ?_
    rw [MemoryStore.step, StoreCall.schema, named.code, ← found]
    rfl
  have cases : Conditions.calm.Allows s (asksCases r p.request (.ok [])) s := by
    refine calm_allows_call_iff.2 ?_
    rw [MemoryStore.step, StoreCall.schema, named.case, ← vacant]
    rfl
  exact .cons code (.cons cases (.cons ⟨trivial, rfl⟩ (.cons rfl (.nil _))))

theorem carries_pursuit (named : r.WellNamed) (s : MemoryStore) :
    Carries Conditions.calm.Allows s (p.pursuit r) (s.after (p.pursuit r).deeds) :=
  have case (s : MemoryStore) :=
    calm_allows_write (s := s) (w := r.caseWrite p.located.subject) named.case
  have code (s : MemoryStore) :=
    calm_allows_write (s := s) (w := r.codeWrite (p.located.linkedCode none)) named.code
  .cons (case _) (.cons rfl (.cons (code _) (.cons rfl (.nil _))))

end Opening
end Link
/-! An example: the codes of two households, at two addresses where no case stands. -/
namespace Sample

open Link

def asking (i : Bool) : LinkRequest := .of (if i then "200" else "300") "HH"

def opening (i : Bool) : Opening .standard where
  code := neighbour i
  request := asking i
  type := .household
  id := drawn i
  created := start
  check := by cases i <;> decide +kernel
  paired := by cases i <;> rfl
  alone := by cases i <;> rfl

theorem carries_inquiry (i : Bool) :
    Carries Conditions.calm.Allows unoccupied ((opening i).inquiry registry) unoccupied := by
  refine (opening i).carries_inquiry wellNamed ?_ ?_
  · cases i <;> rfl
  · cases i <;> rfl

end Sample
end CensusLink
