import CensusLink.CommandLine
import CensusLink.Proofs.Inbound.Upsert
import CensusLink.Proofs.Services.OwnSchemas
import CensusLink.Proofs.Store.Naming

/-!
The service under settings that were accepted. Settings are accepted whatever the names in them are:
it is the store that looks at a name, call by call. The main statement says with which names it then
refuses none of the calls of the service, and with which ones codes and cases are kept apart.
-/
namespace CensusLink

/-- What a call comes to is settled by the documents of its schema. -/
theorem MemoryStore.outcome_congr {m m' : MemoryStore} {c : StoreCall}
    (same : m'.documents c.schema = m.documents c.schema) : (m'.step c).1 = (m.step c).1 := by
  rw [step_fst, step_fst]
  refine congrArg (fun reply => (Schema.check c.schema).map fun _ => reply) ?_
  cases c with
  | retrieve schema key => exact congrArg (List.lookup key) same
  | search schema path value => exact congrArg (matching path value) same
  | store schema key d => rfl
  | delete schema key => rfl

theorem MemoryStore.documents_step_of_ne (m : MemoryStore) {c : StoreCall} {schema : String}
    (apart : schema ≠ c.schema) : (m.step c).2.documents schema = m.documents schema := by
  cases valid : Schema.check c.schema with
  | error f => rw [m.step_of_invalid valid]
  | ok =>
    rw [m.step_of_valid valid]
    exact m.documents_after_deeds_of_ne apart

namespace Backend

variable {root : String} {b : Backend} {x : b.Holding} {c d : StoreCall}

/-- A call to one schema makes no difference to what a call to another comes to. -/
theorem outcome_of_ne (apart : d.schema ≠ c.schema) :
    (b.step root (b.step root x c).2 d).1 = (b.step root x d).1 := by
  cases b with
  | memory => exact MemoryStore.outcome_congr (MemoryStore.documents_step_of_ne x apart)
  | file =>
    cases named : Schema.check d.schema with
    | error f =>
      have refused (disk : Disk) : (disk.step root d).1 = .error f :=
        congrArg Prod.fst (Disk.step_of_invalid named)
      exact (refused _).trans (refused x).symm
    | ok =>
      cases valid : Schema.check c.schema with
      | error f =>
        have still : (Backend.file.step root x c).2 = x :=
          congrArg Prod.snd (Disk.step_of_invalid valid)
        rw [still]
      | ok =>
        refine Disk.outcome_congr (Disk.contents_step_of_ne fun same => apart ?_)
        exact FileStore.path_injective named valid same

end Backend

namespace Settings

variable {vars others : String → Option String} {s : Settings}

/-- The variables that the names of schemas are made from. -/
def nameVariables : List String :=
  ["RH_SCHEMA_PREFIX", "GCP_PROJECT", "RH_ACCESS_CODE_SCHEMA", "RH_CASE_SCHEMA"]

def groupOf (vars : String → Option String) : String :=
  ((vars "RH_SCHEMA_PREFIX") <|> (vars "GCP_PROJECT")).getD standard.group

def codeNameOf (vars : String → Option String) : String :=
  (vars "RH_ACCESS_CODE_SCHEMA").getD standard.accessCodeName

def caseNameOf (vars : String → Option String) : String :=
  (vars "RH_CASE_SCHEMA").getD standard.caseName

/-- The names of both schemas are spelled as such. -/
def Spelled (vars : String → Option String) : Prop :=
  (groupOf vars ≠ "" ∨ codeNameOf vars ≠ "" ∧ caseNameOf vars ≠ "") ∧
    ∀ c ∈ (groupOf vars).toList ++ (codeNameOf vars).toList ++ (caseNameOf vars).toList,
      Schema.Spells c

def backendOf (vars : String → Option String) : Except SettingFault Backend :=
  match vars "RH_STORE_BACKEND" with
  | some raw => readBackend raw
  | none => .ok standard.backend

theorem ofVariables_eq (vars : String → Option String) : ofVariables vars =
    readRetry vars >>= fun retry => backendOf vars >>= fun backend =>
      readVariable vars "RH_WORKERS" standard.workers (readWhole 18446744073709551616) >>=
        fun workers => .ok {
          group := groupOf vars
          accessCodeName := codeNameOf vars
          caseName := caseNameOf vars
          retry
          backend
          path := (vars "RH_STORE_PATH").getD standard.path
          workers := Nat.max workers 1
          survey := (vars "RH_SURVEY").getD standard.survey } := by
  rw [ofVariables, backendOf]
  cases vars "RH_STORE_BACKEND" <;> rfl

theorem schemas_of_accepted (accepted : ofVariables vars = .ok s) :
    s.schemas = .within (groupOf vars) (codeNameOf vars) (caseNameOf vars) := by
  rw [ofVariables_eq] at accepted
  obtain ⟨retry, -, accepted⟩ := bind_eq_ok_iff.1 accepted
  obtain ⟨backend, -, accepted⟩ := bind_eq_ok_iff.1 accepted
  obtain ⟨workers, -, accepted⟩ := bind_eq_ok_iff.1 accepted
  cases accepted
  rfl

/-- Settings that are accepted are so whatever the names of schemas are made from. -/
theorem accepted_of_agree (accepted : ofVariables vars = .ok s)
    (agree : ∀ name, name ∉ nameVariables → others name = vars name) :
    ∃ s', ofVariables others = .ok s' := by
  have same {α : Type} (name : String) (unset : α) (read : String → Except NumberFault α)
      (free : name ∉ nameVariables) :
      readVariable others name unset read = readVariable vars name unset read := by
    rw [readVariable, readVariable, agree name free]
  have retry : readRetry others = readRetry vars := by
    simp only [readRetry]
    rw [same _ _ _ (by decide), same _ _ _ (by decide), same _ _ _ (by decide),
      same _ _ _ (by decide)]
  have backend : backendOf others = backendOf vars := by
    rw [backendOf, backendOf, agree _ (by decide)]
  rw [ofVariables_eq] at accepted
  obtain ⟨p, policy, accepted⟩ := bind_eq_ok_iff.1 accepted
  obtain ⟨b, kept, accepted⟩ := bind_eq_ok_iff.1 accepted
  obtain ⟨n, workers, accepted⟩ := bind_eq_ok_iff.1 accepted
  rw [ofVariables_eq, retry, policy, backend, kept, same _ _ _ (by decide), workers]
  exact ⟨_, rfl⟩

theorem valid_schemas_iff (accepted : ofVariables vars = .ok s) :
    Schema.Valid s.schemas.accessCode ∧ Schema.Valid s.schemas.case ↔ Spelled vars := by
  rw [schemas_of_accepted accepted, SchemaNames.within, Schema.valid_nameIn_iff,
    Schema.valid_nameIn_iff, Spelled]
  simp only [List.forall_mem_append]
  tauto

theorem distinct_schemas_iff (accepted : ofVariables vars = .ok s) :
    s.schemas.accessCode ≠ s.schemas.case ↔
      Text.lowercase (codeNameOf vars) ≠ Text.lowercase (caseNameOf vars) := by
  rw [schemas_of_accepted accepted]
  exact not_congr Schema.nameIn_eq_iff

/-- Under settings that were accepted, a store takes both schemas exactly if their names are spelled
as such, and they are two exactly if their names differ in small letters. In the first case, and in
no other, it refuses no call of the service for its schema, whatever is asked of it; in the second
one no call about codes makes a difference to a call about cases, nor the other way round. -/
theorem accepted_settings_serve_iff (accepted : ofVariables vars = .ok s) :
    (Schema.check s.schemas.accessCode = .ok () ∧ Schema.check s.schemas.case = .ok () ↔
      Spelled vars) ∧
    (s.schemas.accessCode ≠ s.schemas.case ↔
      Text.lowercase (codeNameOf vars) ≠ Text.lowercase (caseNameOf vars)) ∧
    ((∀ ops : List Operation, (∀ o ∈ ops, o.Typed) → ∀ t served,
      (serveAll (Desk.registry s) (.ofSettings s) ops).Runs t served →
        ∀ c ∈ t.calls, Schema.check c.schema = .ok ()) ↔ Spelled vars) ∧
    (Text.lowercase (codeNameOf vars) ≠ Text.lowercase (caseNameOf vars) →
      ∀ (root : String) (b : Backend) (x : b.Holding) (c d : StoreCall),
        c.schema = s.schemas.accessCode → d.schema = s.schemas.case →
          (b.step root (b.step root x c).2 d).1 = (b.step root x d).1 ∧
          (b.step root (b.step root x d).2 c).1 = (b.step root x c).1) := by
  have valid := valid_schemas_iff accepted
  have distinct := distinct_schemas_iff accepted
  rw [← Schema.check_eq_ok_iff, ← Schema.check_eq_ok_iff] at valid
  refine ⟨valid, distinct, (calls_taken_iff (Desk.registry s) _).trans valid, ?_⟩
  intro differ root b x c d ofCode ofCase
  have apart : d.schema ≠ c.schema := by
    rw [ofCode, ofCase]
    exact (distinct.2 differ).symm
  exact ⟨Backend.outcome_of_ne apart, Backend.outcome_of_ne apart.symm⟩

/-- Settings of which only the names are given. -/
def named (group code case : Option String) (name : String) : Option String :=
  match name with
  | "RH_SCHEMA_PREFIX" => group
  | "RH_ACCESS_CODE_SCHEMA" => code
  | "RH_CASE_SCHEMA" => case
  | _ => none

theorem accepted_named (group code case : Option String) :
    ∃ s, ofVariables (named group code case) = .ok s := by
  have standard : ofVariables (fun _ => none) = .ok standard := by decide +kernel
  refine accepted_of_agree standard fun name free => ?_
  simp only [nameVariables, List.mem_cons, not_or] at free
  simp only [named]
  split <;> simp_all

/-- Capital letters and a hyphen do no harm, and one key is that of a code and that of a case. -/
theorem accepted_settings_serve_iff_sample :
    ∃ s, ofVariables (named (some "Census-RH") (some "UAC") none) = .ok s ∧
      (∀ t served, (serveAll (Desk.registry s) (.ofSettings s)
        [.readCode "a", .readCase "a"]).Runs t served →
          ∀ c ∈ t.calls, Schema.check c.schema = .ok ()) ∧
      ∀ (disk : Disk) (d : Document),
        ((disk.step "docs" (.store s.schemas.accessCode "a" d)).2.step "docs"
          (.retrieve s.schemas.case "a")).1 =
            (disk.step "docs" (.retrieve s.schemas.case "a")).1 := by
  obtain ⟨s, accepted⟩ := accepted_named (some "Census-RH") (some "UAC") none
  obtain ⟨-, -, calls, apart⟩ := accepted_settings_serve_iff accepted
  have all : ("Census-RH".toList ++ "UAC".toList ++ "case".toList).all
      (fun c => decide (Schema.Spells c)) = true := by decide +kernel
  have spelled : Spelled (named (some "Census-RH") (some "UAC") none) :=
    ⟨.inl (by decide), fun c hc => of_decide_eq_true (List.all_eq_true.1 all c hc)⟩
  have typed : ∀ o ∈ [Operation.readCode "a", .readCase "a"], o.Typed := by
    simp [Operation.Typed]
  refine ⟨s, accepted, calls.2 spelled _ typed, fun disk d => ?_⟩
  exact (apart (by decide +kernel) "docs" .file disk (.store s.schemas.accessCode "a" d)
    (.retrieve s.schemas.case "a") rfl rfl).1

/-- A full stop in a name is accepted, and then nothing can be stored; two names that differ in
capital letters only are accepted, and then a case takes the place of a code. -/
theorem accepted_settings_may_not_serve :
    (∃ s, ofVariables (named (some "census.prod") none none) = .ok s ∧
      ∀ (root : String) (b : Backend) (x : b.Holding) (key : String) (d : Document),
        (b.step root x (.store s.schemas.accessCode key d)).1 =
          .error (.system "Invalid schema name 'census.prod-uac'")) ∧
    ∃ s, ofVariables (named none (some "Records") (some "records")) = .ok s ∧
      s.schemas.accessCode = s.schemas.case ∧
      ∀ (m : MemoryStore) (key : String) (d e : Document),
        (((m.step (.store s.schemas.accessCode key d)).2.step
          (.store s.schemas.case key e)).2.step (.retrieve s.schemas.accessCode key)).1 =
            .ok (some e) := by
  constructor
  · obtain ⟨s, accepted⟩ := accepted_named (some "census.prod") none none
    have names : s.schemas = ⟨"census.prod-uac", "census.prod-case"⟩ :=
      (schemas_of_accepted accepted).trans (by decide +kernel)
    have refused : Schema.check "census.prod-uac" =
      .error (.system "Invalid schema name 'census.prod-uac'") := by decide
    refine ⟨s, accepted, fun root b x key d => ?_⟩
    rw [names]
    exact congrArg Prod.fst
      (b.step_of_invalid root x (c := .store "census.prod-uac" key d) refused)
  · obtain ⟨s, accepted⟩ := accepted_named none (some "Records") (some "records")
    have names : s.schemas = ⟨"rh-local-records", "rh-local-records"⟩ :=
      (schemas_of_accepted accepted).trans (by decide +kernel)
    have taken : Schema.check "rh-local-records" = .ok () := by decide
    refine ⟨s, accepted, by rw [names], fun m key d e => ?_⟩
    have stored (m : MemoryStore) (d : Document) :
        (m.step (.store "rh-local-records" key d)).2 = m.undergo (.kept "rh-local-records" key d) :=
      congrArg Prod.snd (m.step_of_valid (c := .store "rh-local-records" key d) taken)
    rw [names]
    simp only [stored]
    exact (MemoryStore.retrieve_kept _ _ _ _ taken key).trans (if_pos ⟨rfl, rfl⟩)

end Settings
end CensusLink
