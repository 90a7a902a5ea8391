import ServiceMesh.Proofs.Admin.Addressing
import ServiceMesh.Proofs.Admin.Submission
import ServiceMesh.Proofs.Fault.Expiry

/-! Which requests to the admin API change the faults: submissions and deletions that are carried out,
and no others. A submission is turned down for the length of its body or for what that says, and is
otherwise filed as it stands. -/
namespace ServiceMesh.Admin

variable {api : Api} {now : Time} {freshId : String} {request : Request} {body : List UInt8}

/-! ### Requests -/

/-- A submission is posted to where faults are found. -/
def Request.IsSubmission (request : Request) : Prop :=
  request.method = "POST" ∧ request.path = faultsPath

/-- A deletion names an id behind the path where faults are found, in one segment. -/
def Request.Deletes (request : Request) (id : String) : Prop :=
  request.method = "DELETE" ∧ request.path = faultsPath ++ "/" ++ id ∧ id ≠ "" ∧ '/' ∉ id.toList

theorem Place.of_eq_faults_iff {path : String} : Place.of path = .faults ↔ path = faultsPath := by
  constructor
  · intro place
    unfold Place.of at place
    split_ifs at place
    case pos same => exact same
    case neg => split at place <;> contradiction
  · rintro rfl
    decide

/-! ### Submissions -/

@[simp]
theorem Response.status_bare (code : Nat) : (bare code).status = code := rfl

@[simp]
theorem Response.status_text (code : Nat) (content : String) : (text code content).status = code :=
  rfl

@[simp]
theorem Response.status_json (content : String) : (json content).status = 200 := rfl

@[simp]
theorem Response.status_unavailable : unavailable.status = 503 := rfl

/-- The answers to a submission, each with the faults behind it. -/
inductive Taken (api : Api) (now : Time) (freshId : String) (body : List UInt8) :
    Response × FaultService → Prop
  | tooLarge (long : maxBody < body.length) : Taken api now freshId body (.bare 413, api.faults)
  | malformed {problem : Json.DecodeError} (short : body.length ≤ maxBody)
      (failed : decodeSubmission freshId body = .error problem) :
      Taken api now freshId body (.text 400 (problem.message ++ "\n"), api.faults)
  | unreachable {fault : Fault} {problem : FaultStoreError} (short : body.length ≤ maxBody)
      (submits : decodeSubmission freshId body = .ok fault) (out : api.faults.outage = some problem) :
      Taken api now freshId body (.unavailable, api.faults)
  | accepted {fault : Fault} (short : body.length ≤ maxBody)
      (submits : decodeSubmission freshId body = .ok fault) (reachable : api.faults.outage = none) :
      Taken api now freshId body (.json fault.toJson.render, { api.faults with
        store := api.faults.store.save now fault, revision := api.faults.revision + 1 })

theorem Api.submitFault_taken (api : Api) (now : Time) (freshId : String) (body : List UInt8) :
    Taken api now freshId body (api.submitFault now freshId body) := by
  unfold submitFault
  split
  case isTrue long => exact .tooLarge long
  case isFalse short =>
    have short := Nat.le_of_not_lt short
    split
    case h_1 problem failed => exact .malformed short failed
    case h_2 fault submits =>
      unfold FaultService.submit
      cases out : api.faults.outage with
      | some problem => exact .unreachable short submits out
      | none => simpa [out] using Taken.accepted short submits out

/-- A body submits a fault: it is the text of a document that does. -/
def SubmittedBy (freshId : String) (fault : Fault) (body : List UInt8) : Prop :=
  ∃ json, Json.read (Text.decodeUtf8 body) = some json ∧ Submits freshId fault json

/-! ### Faults behind requests -/

/-- From some time on nothing tells two services of faults apart: they list the same faults at all
times, and their revisions are the same. -/
structure Alike (now : Time) (before behind : FaultService) : Prop where
  live : ∀ later, now ≤ later → behind.store.live later = before.store.live later
  revision : behind.revision = before.revision
  outage : behind.outage = before.outage

theorem Alike.refl (faults : FaultService) : Alike now faults faults :=
  ⟨fun _ _ => rfl, rfl, rfl⟩

theorem Api.listFaults_alike (api : Api) (now : Time) :
    Alike now api.faults (api.listFaults now).2 := by
  unfold listFaults
  cases found : api.faults.list now with
  | error problem => exact .refl api.faults
  | ok answer =>
      obtain ⟨listed, rest⟩ := answer
      obtain ⟨-, -, rfl⟩ := FaultService.list_eq_ok_iff.mp found
      exact ⟨fun later order => api.faults.store.live_purge order, rfl, rfl⟩

theorem Taken.alike {answer : Response × FaultService} (taken : Taken api now freshId body answer)
    (rejected : answer.1.status ≠ 200) : Alike now api.faults answer.2 := by
  cases taken with
  | tooLarge => exact .refl api.faults
  | malformed => exact .refl api.faults
  | unreachable => exact .refl api.faults
  | accepted => exact absurd rfl rejected

theorem Api.deleteFault_alike (api : Api) (now : Time) (id : String)
    (rejected : (api.deleteFault id).1.status ≠ 204) :
    Alike now api.faults (api.deleteFault id).2 := by
  unfold deleteFault at rejected ⊢
  cases deleted : api.faults.delete id with
  | error problem => exact .refl api.faults
  | ok service =>
      rw [deleted] at rejected
      exact absurd rfl rejected

theorem Api.handle_submission (submission : request.IsSubmission) :
    api.handle now freshId request = api.submitFault now freshId request.body := by
  obtain ⟨posted, path⟩ := submission
  unfold handle
  dsimp only
  rw [Place.of_eq_faults_iff.mpr path, posted]
  rfl

/-- Nothing but an accepted submission or a deletion that is carried out changes faults. -/
theorem Api.handle_alike (api : Api) (now : Time) (freshId : String) (request : Request)
    (unsubmitted : request.IsSubmission → (api.handle now freshId request).1.status ≠ 200)
    (undeleted : ∀ id, request.Deletes id → (api.handle now freshId request).1.status ≠ 204) :
    Alike now api.faults (api.handle now freshId request).2 := by
  by_cases submission : request.IsSubmission
  · have rejected := unsubmitted submission
    rw [handle_submission submission] at rejected ⊢
    exact (api.submitFault_taken now freshId request.body).alike rejected
  · unfold handle at undeleted ⊢
    dsimp only at undeleted ⊢
    cases place : Place.of request.path with
    | ready => exact .refl api.faults
    | live => exact .refl api.faults
    | metrics => exact .refl api.faults
    | services => exact .refl api.faults
    | service name => exact .refl api.faults
    | nowhere => exact .refl api.faults
    | faults =>
        dsimp only
        split
        · exact api.listFaults_alike now
        · split
          case isTrue posted => exact absurd ⟨posted, Place.of_eq_faults_iff.mp place⟩ submission
          case isFalse => exact .refl api.faults
    | fault id =>
        rw [place] at undeleted
        dsimp only at undeleted ⊢
        split
        case isTrue method =>
          rw [if_pos method] at undeleted
          exact api.deleteFault_alike now id (undeleted id
            ⟨method, parameter?_eq_some_iff.mp (Place.of_eq_fault_iff.mp place)⟩)
        case isFalse => exact .refl api.faults

/-! ### What is told by the status -/

section Taken

variable {answer : Response × FaultService}

theorem submittedBy_iff {fault : Fault} :
    SubmittedBy freshId fault body ↔ decodeSubmission freshId body = .ok fault :=
  decodeSubmission_eq_ok_iff.symm

theorem Taken.tooLarge_iff (taken : Taken api now freshId body answer) :
    answer.1.status = 413 ↔ maxBody < body.length := by
  cases taken with
  | tooLarge long => exact iff_of_true rfl long
  | malformed short | unreachable short | accepted short =>
      exact iff_of_false (by simp) (Nat.not_lt.mpr short)

theorem Taken.malformed_iff (taken : Taken api now freshId body answer) :
    answer.1.status = 400 ↔
      body.length ≤ maxBody ∧ ∀ fault, ¬ SubmittedBy freshId fault body := by
  simp only [submittedBy_iff]
  cases taken with
  | tooLarge long => exact iff_of_false (by simp) fun told => absurd told.1 (Nat.not_le.mpr long)
  | malformed short failed =>
      refine iff_of_true rfl ⟨short, fun fault submits => ?_⟩
      rw [failed] at submits
      contradiction
  | unreachable short submits | accepted short submits =>
      exact iff_of_false (by simp) fun told => told.2 _ submits

theorem Taken.accepted_iff (taken : Taken api now freshId body answer) :
    answer.1.status = 200 ↔
      body.length ≤ maxBody ∧ (∃ fault, SubmittedBy freshId fault body) ∧
        api.faults.outage = none := by
  simp only [submittedBy_iff]
  cases taken with
  | tooLarge long => exact iff_of_false (by simp) fun told => absurd told.1 (Nat.not_le.mpr long)
  | malformed short failed =>
      refine iff_of_false (by simp) fun ⟨_, ⟨fault, submits⟩, _⟩ => ?_
      rw [failed] at submits
      contradiction
  | unreachable short submits out =>
      refine iff_of_false (by simp) fun told => ?_
      rw [out] at told
      exact absurd told.2.2 (by simp)
  | accepted short submits reachable => exact iff_of_true rfl ⟨short, ⟨_, submits⟩, reachable⟩

theorem Taken.files (taken : Taken api now freshId body answer) (accepted : answer.1.status = 200) :
    ∃ fault, SubmittedBy freshId fault body ∧ answer.1 = .json fault.toJson.render ∧
      (∀ id, answer.2.store.byId.get? id =
        if fault.id = id then some (.submitted now fault) else api.faults.store.byId.get? id) ∧
      answer.2.revision = api.faults.revision + 1 := by
  cases taken with
  | tooLarge | malformed | unreachable => simp at accepted
  | accepted short submits reachable =>
      refine ⟨_, submittedBy_iff.mpr submits, rfl, fun id => ?_, rfl⟩
      exact SortedMap.get?_insert ..

end Taken

/-- A request that is no submission answered 200 and no deletion answered 204 changes neither the
faults that are in force, now or later, nor their revision. A submission is too large exactly if it has
more than 65536 bytes, whatever they are, and malformed exactly if a smaller body submits no fault, as
none does that gives a duration a text which is not one. If it is accepted, the answer shows the fault
that the body submits, and this alone is filed anew, under its id, with the revision raised by one. -/
theorem Api.rejected_leaves_no_trace (api : Api) (now : Time) (freshId : String)
    (request : Request) :
    let answer := (api.handle now freshId request).1
    let behind := (api.handle now freshId request).2
    (¬ (request.IsSubmission ∧ answer.status = 200) →
      ¬ ((∃ id, request.Deletes id) ∧ answer.status = 204) → Alike now api.faults behind) ∧
    (request.IsSubmission →
      (answer.status = 413 ↔ 65536 < request.body.length) ∧
      (answer.status = 400 ↔ request.body.length ≤ 65536 ∧
        ∀ fault, ¬ SubmittedBy freshId fault request.body) ∧
      (∀ json text problem, request.body.length ≤ 65536 →
        Json.read (Text.decodeUtf8 request.body) = some json → GivesDuration text json →
        Duration.parse text = .error problem → answer.status = 400) ∧
      (answer.status = 200 ↔ request.body.length ≤ 65536 ∧
        (∃ fault, SubmittedBy freshId fault request.body) ∧ api.faults.outage = none) ∧
      (answer.status = 200 → ∃ fault, SubmittedBy freshId fault request.body ∧
        answer = .json fault.toJson.render ∧
        (∀ id, behind.store.byId.get? id =
          if fault.id = id then some (.submitted now fault) else api.faults.store.byId.get? id) ∧
        behind.revision = api.faults.revision + 1)) := by
  intro answer behind
  constructor
  · intro unsubmitted undeleted
    exact api.handle_alike now freshId request (fun submission accepted =>
      unsubmitted ⟨submission, accepted⟩) fun id deletes accepted =>
      undeleted ⟨⟨id, deletes⟩, accepted⟩
  · intro submission
    have taken := api.submitFault_taken now freshId request.body
    rw [← handle_submission submission] at taken
    refine ⟨taken.tooLarge_iff, taken.malformed_iff, ?_, taken.accepted_iff, taken.files⟩
    intro json text problem short document gives unparsed
    refine taken.malformed_iff.mpr ⟨short, ?_⟩
    rintro fault ⟨found, read, submits⟩
    obtain rfl := Option.some.inj (document.symm.trans read)
    obtain ⟨d, parses⟩ := submits.parses gives
    rw [unparsed] at parses
    contradiction

example : ["-1s", "5", "1h30", "99999999999999999999h"].map Duration.parse =
    [.error .negative, .error .noUnit, .error .noUnit, .error .overflow] := by
  decide +kernel

end ServiceMesh.Admin
